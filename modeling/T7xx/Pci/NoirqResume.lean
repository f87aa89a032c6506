import T7xx.Fsm.PmCalls
import T7xx.Pci.RoundTrip
import Mathlib.Data.BitVec

namespace T7xxModel.Pci

open Fsm (pciPmResume_branch)

def ISTAT_HST_CTRL_DIS : BitVec 32 := 1#32 <<< 0

def macInterruptsEn (istatHstCtrl : BitVec 32) : BitVec 32 := istatHstCtrl &&& ~~~ISTAT_HST_CTRL_DIS

def macInterruptsDis (istatHstCtrl : BitVec 32) : BitVec 32 := istatHstCtrl ||| ISTAT_HST_CTRL_DIS

/-- What an action of the PM code does to the register `ISTAT_HST_CTRL`. -/
def Action.istat (istatHstCtrl : BitVec 32) : Action → BitVec 32
  | .macInterruptsEn => Pci.macInterruptsEn istatHstCtrl
  | _ => istatHstCtrl

structure MacDev where
  dev : PciDev
  istatHstCtrl : BitVec 32

def MacDev.call (s : MacDev) (dev : PciDev) : MacDev where
  dev
  istatHstCtrl := dev.actions.foldl Action.istat s.istatHstCtrl

def MacDev.fresh (s : MacDev) : PciDev := { s.dev with actions := [] }

def pciPmResumeNoirq (s : MacDev) : MacDev :=
  { s with istatHstCtrl := macInterruptsDis s.istatHstCtrl }

/-- What other threads call between the two callbacks. -/
inductive OtherCall where
  | initLate
  | expDetected
  | reprobeEarly (answers : ResumeAnswers)
  | reprobe (answers : ResumeAnswers) (boot : Bool)

def OtherCall.run (s : MacDev) : OtherCall → MacDev
  | .initLate => s.call (pciPmInitLate s.fresh)
  | .expDetected => s.call (pciPmExpDetected s.fresh)
  | .reprobeEarly answers => s.call (pciReprobeEarly answers s.fresh).1
  | .reprobe answers boot => s.call (pciReprobe answers boot s.fresh).1

def resumeBegins (others : List OtherCall) (s : MacDev) : MacDev :=
  others.foldl OtherCall.run (pciPmResumeNoirq s)

def MacDev.InterruptsEnabled (s : MacDev) : Prop := s.istatHstCtrl &&& ISTAT_HST_CTRL_DIS = 0#32

instance : DecidablePred MacDev.InterruptsEnabled := fun s =>
  inferInstanceAs (Decidable (s.istatHstCtrl &&& ISTAT_HST_CTRL_DIS = 0#32))

/-- `t7xx_pci_pm_resume_noirq`, the calls of others and `t7xx_pci_pm_resume`. -/
def noirqResume (answers : ResumeAnswers) (others : List OtherCall) (s : MacDev) : MacDev × Int :=
  let begun := resumeBegins others s
  let (dev, ret) := pciPmResume answers true begun.fresh
  (begun.call dev, ret)

def OtherCall.Reinits : OtherCall → Prop
  | .reprobe answers _ => answers.enableDevice = 0
  | _ => False

section Logs

variable {first second dev : PciDev}

/-- `second` has done all that `first` did, and maybe more. -/
def Logs (first second : PciDev) : Prop := first.actions <+: second.actions

theorem Logs.refl (dev : PciDev) : Logs dev dev := List.prefix_rfl

theorem Logs.trans {third : PciDev} (left : Logs first second) (right : Logs second third) :
    Logs first third := List.IsPrefix.trans left right

theorem Logs.act (logs : Logs first second) (action : Action) : Logs first (second.act action) :=
  List.IsPrefix.trans logs (List.prefix_append second.actions [action])

theorem Logs.setReprobeCount (logs : Logs first second) (count : Nat) :
    Logs first (second.setReprobeCount count) := logs

theorem pcieReinit_logs (answers : ResumeAnswers) (isD3 : Bool) (dev : PciDev) :
    Logs dev (pcieReinit answers isD3 dev).1 := by
  have enabled : Logs dev (dev.act .enableDevice) := (Logs.refl dev).act _
  unfold pcieReinit
  split
  · exact enabled
  · have interrupts := ((((enabled.act .macAtrInit).act .macMsixCfg).act .imaskHostMsixClr).act
      .macInterruptsEn).act (.macSetInt .mhccif)
    split
    · exact (((interrupts.act .mhccifInit).act .runtimeGetNoresume).act (.aspmLowpwr false)).act .waitPmConfig
    · exact interrupts

theorem sendFsmCommand_logs (answers : ResumeAnswers) (cmd : FsmCmd) (dev : PciDev) :
    Logs dev (sendFsmCommand answers cmd dev).1 := by
  cases cmd with
  | start =>
    exact ((((Logs.refl dev).act (.macClearInt .sapRgu)).act (.macClearIntStatus .sapRgu)).act
      (.macSetInt .sapRgu)).act (.fsmCommand .start)
  | stop => exact (Logs.refl dev).act _

theorem pciReprobeEarly_logs (answers : ResumeAnswers) (dev : PciDev) :
    Logs dev (pciReprobeEarly answers dev).1 := by
  have early : Logs dev (dev.act .reprobeEarly) := (Logs.refl dev).act _
  unfold pciReprobeEarly
  dsimp only
  split
  · exact (early.act .runtimePutNoidle).trans (sendFsmCommand_logs answers .stop _)
  · exact early.trans (sendFsmCommand_logs answers .stop _)

theorem pciReprobe_logs (answers : ResumeAnswers) (boot : Bool) (dev : PciDev) :
    Logs dev (pciReprobe answers boot dev).1 := by
  have reinit := ((Logs.refl dev).act (.reprobe boot)).trans (pcieReinit_logs answers boot _)
  unfold pciReprobe
  dsimp only
  split
  · exact reinit
  · exact (reinit.act .clearRguIrq).trans (sendFsmCommand_logs answers .start _)

theorem reprobeDevice_logs (answers : ResumeAnswers) (dev : PciDev) :
    Logs dev (reprobeDevice answers dev).1 := by
  have early := pciReprobeEarly_logs answers dev
  unfold reprobeDevice
  dsimp only
  split
  · exact early
  · exact early.trans (pciReprobe_logs answers true _)

theorem resumeEarlyEntities_logs (entities : List PmEntity) (dev : PciDev) :
    Logs dev (resumeEarlyEntities entities dev) := by
  unfold resumeEarlyEntities
  induction entities generalizing dev with
  | nil => exact Logs.refl dev
  | cons entity rest ih =>
    rw [List.foldl_cons]
    refine Logs.trans ?_ (ih _)
    split
    · exact (Logs.refl dev).act _
    · exact Logs.refl dev

theorem resumeEntities_logs (answer : PmId → Int) (entities : List PmEntity) (dev : PciDev) (ret : Int) :
    Logs dev (resumeEntities answer entities (dev, ret)).1 := by
  induction entities generalizing dev ret with
  | nil => exact Logs.refl dev
  | cons entity rest ih =>
    unfold resumeEntities
    split
    · exact ((Logs.refl dev).act _).trans (ih _ _)
    · exact ih _ _

theorem resumeTail_logs (answers : ResumeAnswers) (dev : PciDev) : Logs dev (resumeTail answers dev).1 :=
  (((resumeEntities_logs answers.entityResume dev.mdPmEntities dev 0).act (.macSetInt .sapRgu)).act
    (.aspmLowpwr true)).act .runtimeMarkLastBusy

theorem resumeRequests_logs (answers : ResumeAnswers) (dev : PciDev) :
    Logs dev (resumeRequests answers dev).1 := by
  have requested := (Logs.refl dev).act (.pmRequest .resumeReq answers.resumeAck)
  have both := requested.act (.pmRequest .resumeReqAp answers.resumeAckAp)
  unfold resumeRequests sendPmRequest
  dsimp only
  generalize (if answers.resumeAck = true then (0 : Int) else - ETIMEDOUT) = ret
  generalize (if answers.resumeAckAp = true then (0 : Int) else - ETIMEDOUT) = retAp
  split
  · split
    · exact requested
    · exact (requested.setReprobeCount _).trans (reprobeDevice_logs answers _)
  split
  · exact (both.setReprobeCount _).trans (reprobeDevice_logs answers _)
  · exact both.trans (resumeTail_logs answers _)

theorem resumeHandshake_logs (answers : ResumeAnswers) (dev : PciDev) :
    Logs dev (resumeHandshake answers dev).1 :=
  ((((Logs.refl dev).act (.aspmLowpwr false)).act .waitPmConfig).trans
    (resumeEarlyEntities_logs dev.mdPmEntities _)).trans (resumeRequests_logs answers _)

theorem resumeException_logs (answers : ResumeAnswers) (dev : PciDev) :
    Logs dev (resumeException answers dev).1 := by
  unfold resumeException
  by_cases l2 : answers.resumeState = PM_RESUME_REG_STATE_L2_EXP
  · rw [if_pos l2]
    have reinit := pcieReinit_logs answers false dev
    dsimp only
    split
    · exact reinit
    · exact (reinit.act (.macSetInt .sapRgu)).act _
  · rw [if_neg l2]
    exact ((Logs.refl dev).act (.macSetInt .sapRgu)).act _

theorem resumeUnknown_logs (answers : ResumeAnswers) (dev : PciDev) :
    Logs dev (resumeUnknown answers dev).1 := by
  have stopped := sendFsmCommand_logs answers .stop dev
  unfold resumeUnknown
  dsimp only
  split
  · exact stopped
  · exact stopped.act .clearRguIrq

/-- All branches of a resume but the first come after `t7xx_pcie_mac_interrupts_en`. -/
theorem pciPmResume_logs (answers : ResumeAnswers) (stateCheck : Bool) (dev : PciDev)
    (awake : PmState.init.value < dev.mdPmState.value) :
    Logs (dev.act .macInterruptsEn) (pciPmResume answers stateCheck dev).1 := by
  rw [pciPmResume_branch]
  have reached : Fsm.resumeBranch answers stateCheck dev ≠ .skip := by
    unfold Fsm.resumeBranch
    rw [if_neg (Nat.not_le.mpr awake)]
    split_ifs <;> exact nofun
  cases branch : Fsm.resumeBranch answers stateCheck dev with
  | skip => exact absurd branch reached
  | reprobe => exact reprobeDevice_logs answers _
  | exception => exact resumeException_logs answers _
  | unknownState => exact resumeUnknown_logs answers _
  | handshake reinit =>
    cases reinit with
    | false => exact resumeHandshake_logs answers _
    | true =>
      have reinit := pcieReinit_logs answers false (dev.act .macInterruptsEn)
      dsimp only
      split
      · exact reinit
      · exact reinit.trans (resumeHandshake_logs answers _)

end Logs

section Register

variable {reg : BitVec 32} {actions : List Action}

theorem macInterruptsEn_clears (reg : BitVec 32) : macInterruptsEn reg &&& ISTAT_HST_CTRL_DIS = 0#32 := by
  unfold macInterruptsEn
  have apart : ~~~ISTAT_HST_CTRL_DIS &&& ISTAT_HST_CTRL_DIS = 0#32 := by decide
  rw [BitVec.and_assoc, apart, BitVec.and_zero]

theorem istat_other {action : Action} (other : action ≠ .macInterruptsEn) : action.istat reg = reg := by
  unfold Action.istat
  split
  · exact absurd rfl other
  · rfl

/-- Nothing but `t7xx_pcie_mac_interrupts_en` changes the bit, and nothing sets it again. -/
theorem foldl_istat (reg : BitVec 32) (actions : List Action) :
    actions.foldl Action.istat reg &&& ISTAT_HST_CTRL_DIS = 0#32 ↔
      .macInterruptsEn ∈ actions ∨ reg &&& ISTAT_HST_CTRL_DIS = 0#32 := by
  induction actions generalizing reg with
  | nil => exact ⟨.inr, fun clear => clear.resolve_left List.not_mem_nil⟩
  | cons action actions ih =>
    rw [List.foldl_cons, ih, List.mem_cons]
    by_cases enables : action = .macInterruptsEn
    · rw [enables]
      exact ⟨fun _ => .inl (.inl rfl), fun _ => .inr (macInterruptsEn_clears reg)⟩
    · rw [istat_other enables, or_iff_right (Ne.symm enables)]

end Register

section Between

variable {s : MacDev}

theorem call_enabled (s : MacDev) (dev : PciDev) :
    (s.call dev).InterruptsEnabled ↔ .macInterruptsEn ∈ dev.actions ∨ s.InterruptsEnabled :=
  foldl_istat s.istatHstCtrl dev.actions

theorem pcieReinit_enables (answers : ResumeAnswers) (isD3 : Bool) (dev : PciDev)
    (idle : .macInterruptsEn ∉ dev.actions) :
    .macInterruptsEn ∈ (pcieReinit answers isD3 dev).1.actions ↔ answers.enableDevice = 0 := by
  unfold pcieReinit
  by_cases works : answers.enableDevice = 0
  · rw [if_neg (not_not.mpr works)]
    cases isD3 <;> simp [pciPmReinit, PciDev.setPmState, works]
  · rw [if_pos works]
    simp [works, idle]

theorem sendFsmCommand_enables (answers : ResumeAnswers) (cmd : FsmCmd) (dev : PciDev) :
    .macInterruptsEn ∈ (sendFsmCommand answers cmd dev).1.actions ↔ .macInterruptsEn ∈ dev.actions := by
  cases cmd <;> simp [sendFsmCommand, PciDev.setRgu]

theorem run_enabled (s : MacDev) (call : OtherCall) :
    (call.run s).InterruptsEnabled ↔ call.Reinits ∨ s.InterruptsEnabled := by
  have idle : .macInterruptsEn ∉ s.fresh.actions := List.not_mem_nil
  cases call with
  | initLate =>
    rw [OtherCall.run, call_enabled]
    simp [pciPmInitLate, PciDev.setPmState, OtherCall.Reinits, idle]
  | expDetected =>
    rw [OtherCall.run, call_enabled]
    simp [pciPmExpDetected, PciDev.setPmState, OtherCall.Reinits, idle]
  | reprobeEarly answers =>
    rw [OtherCall.run, call_enabled]
    unfold pciReprobeEarly
    dsimp only
    rw [sendFsmCommand_enables]
    split <;> simp [OtherCall.Reinits, idle]
  | reprobe answers boot =>
    rw [OtherCall.run, call_enabled]
    have reinit := pcieReinit_enables answers boot (s.fresh.act (.reprobe boot)) (by simpa using idle)
    refine or_congr_left (Iff.trans ?_ reinit)
    unfold pciReprobe
    dsimp only
    split
    · rfl
    · rw [sendFsmCommand_enables]
      simp

theorem runs_enabled (others : List OtherCall) (s : MacDev) :
    (others.foldl OtherCall.run s).InterruptsEnabled ↔ (∃ call ∈ others, call.Reinits) ∨ s.InterruptsEnabled := by
  induction others generalizing s with
  | nil => simp
  | cons call others ih =>
    rw [List.foldl_cons, ih, run_enabled, List.exists_mem_cons_iff, or_left_comm, or_assoc]

theorem resumeBegins_enabled (others : List OtherCall) (s : MacDev) :
    (resumeBegins others s).InterruptsEnabled ↔ ∃ call ∈ others, call.Reinits := by
  have disabled : ¬ (pciPmResumeNoirq s).InterruptsEnabled := by
    intro enabled
    have bit := congrArg (BitVec.getLsbD · 0) enabled
    simp [pciPmResumeNoirq, macInterruptsDis, ISTAT_HST_CTRL_DIS] at bit
  rw [resumeBegins, runs_enabled, or_iff_left disabled]

end Between

/-- A successful resume leaves the MAC interrupts enabled exactly if it finds the device past
    `MTK_PM_INIT`, or someone else has reinitialised the interrupts after `resume_noirq`. -/
theorem resume_enables_interrupts_iff (answers : ResumeAnswers) (others : List OtherCall) (s : MacDev) :
    ((noirqResume answers others s).2 = 0 → (noirqResume answers others s).1.InterruptsEnabled) ↔
      PmState.init.value < (resumeBegins others s).dev.mdPmState.value ∨
        ∃ call ∈ others, call.Reinits := by
  unfold noirqResume
  dsimp only
  rw [call_enabled, resumeBegins_enabled]
  by_cases awake : PmState.init.value < (resumeBegins others s).dev.mdPmState.value
  · have logs := pciPmResume_logs answers true (resumeBegins others s).fresh awake
    have enables : .macInterruptsEn ∈ (pciPmResume answers true (resumeBegins others s).fresh).1.actions :=
      logs.subset (List.mem_append_right _ List.mem_cons_self)
    exact ⟨fun _ => .inl awake, fun _ _ => .inl enables⟩
  · have skipped : pciPmResume answers true (resumeBegins others s).fresh =
        ((resumeBegins others s).fresh.act (.aspmLowpwr true), 0) := if_pos (Nat.not_lt.mp awake)
    have idle : .macInterruptsEn ∉ ((resumeBegins others s).fresh.act (.aspmLowpwr true)).actions := by
      simp [MacDev.fresh]
    rw [skipped, or_iff_right awake]
    exact ⟨fun enabled => (enabled rfl).resolve_left idle, fun reinits _ => .inr reinits⟩

/-- A ready modem was suspended for the sleep of the system. -/
def sleepingDev : MacDev := ⟨(pciPmSuspend promptSuspend readyModem.dev).1, 0#32⟩

theorem exception_leaves_disabled :
    ¬ ∀ answers others s, (noirqResume answers others s).2 = 0 →
      (noirqResume answers others s).1.InterruptsEnabled := by
  intro always
  exact absurd (always promptResume [.expDetected] sleepingDev (by decide)) (by decide)

end T7xxModel.Pci
