import T7xx.Fsm.ResetDevice
import T7xx.Fsm.PmCalls
import T7xx.Pci.LastRequest
import T7xx.Pci.SuspendAbort
import Mathlib.Data.BitVec

namespace T7xxModel.Pci

open Transition
open Fsm (ResetType ResumeBranch resumeBranch pciPmResume_branch)

def MISC_RESET_TYPE_PLDR : BitVec 32 := 1#32 <<< 26
def MISC_RESET_TYPE_FLDR : BitVec 32 := 1#32 <<< 27

/-- Who calls `t7xx_reset_device`: the RGU thread or a write to the sysfs file. -/
inductive ResetCaller where
  | thread
  | store (k : Nat)
deriving DecidableEq, Repr

/-- Where a reset is. `delay` is the sleep of the RGU thread in front of it. -/
inductive ResetPlace where
  | none
  | delay
  | reprobeEarly (type : ResetType)
  | reset (type : ResetType)
  | reinit
  | start
deriving DecidableEq, Repr

/-- What an action does to the mask bit of the SAP_RGU interrupt; `true` is unmasked. -/
def Action.sapRgu (unmasked : Bool) : Action → Bool
  | .macSetInt .sapRgu => true
  | .macClearInt .sapRgu => false
  | .imaskHostMsixClr => false
  | _ => unmasked

/-- `woken` is set while the RGU thread still has to run, `suspended` from a suspend that succeeds to the
    return of its resume. -/
structure RguRun where
  dev : PciDev
  sapRguInt : Bool
  rguIrqAsserted : Bool
  woken : Bool
  place : ResetCaller → ResetPlace
  suspended : Bool

inductive RguLabel where
  | rguInt
  | threadBegins
  | threadReads (devStatus : BitVec 32)
  | modeStore (k : Nat) (type : ResetType)
  | reprobeEarly (caller : ResetCaller) (answers : ResumeAnswers)
  | acpiReset (caller : ResetCaller) (ret : Int)
  | reinit (caller : ResetCaller) (answers : ResumeAnswers)
  | start (caller : ResetCaller) (answers : ResumeAnswers)
  | suspend (answers : SuspendAnswers)
  | resume (answers : ResumeAnswers) (stateCheck : Bool)
  | expDetected
  | initLate

def RguRun.called (s : RguRun) (dev : PciDev) : RguRun :=
  { s with dev, sapRguInt := dev.actions.foldl Action.sapRgu s.sapRguInt }

def RguRun.goes (s : RguRun) (caller : ResetCaller) (place : ResetPlace) : RguRun :=
  { s with place := Function.update s.place caller place }

/-- `t7xx_reset_device_via_pmic` -/
def pmicReset (devStatus : BitVec 32) : ResetPlace :=
  if devStatus &&& MISC_RESET_TYPE_PLDR ≠ 0#32 then .reprobeEarly .pldr
  else if devStatus &&& MISC_RESET_TYPE_FLDR ≠ 0#32 then .reprobeEarly .fldr
  else .none

def RguRun.rguInt (s : RguRun) : RguRun :=
  let (dev, rguIrqAsserted, ret) := rguIsrHandler s.dev.fresh s.rguIrqAsserted
  { s.called dev with rguIrqAsserted, woken := s.woken || ret = .wakeThread }

/-- A step of `t7xx_reset_device`. Nobody looks at what the STOP command returns. -/
def RguRun.resetStep (s : RguRun) : RguLabel → Option RguRun
  | .reprobeEarly caller answers =>
    match s.place caller with
    | .reprobeEarly type =>
      let (dev, _) := pciReprobeEarly answers s.dev.fresh
      some ((s.called { dev with mode := .reset }).goes caller (.reset type))
    | _ => none
  | .acpiReset caller ret =>
    match s.place caller with
    | .reset type => some (s.goes caller (if type ≠ .fastboot ∧ ret ≠ 0 then .none else .reinit))
    | _ => none
  | .reinit caller answers =>
    match s.place caller with
    | .reinit =>
      let (dev, ret) := pcieReinit answers true s.dev.fresh
      some ((s.called dev).goes caller (if ret ≠ 0 then .none else .start))
    | _ => none
  | .start caller answers =>
    match s.place caller with
    | .start =>
      let (dev, _) := sendFsmCommand answers .start (s.dev.fresh.act .clearRguIrq)
      some ((s.called dev).goes caller .none)
    | _ => none
  | _ => none

def rguStep (s : RguRun) : RguLabel → Option RguRun
  | .rguInt => if s.sapRguInt then some s.rguInt else none
  | .threadBegins =>
    if s.woken ∧ s.place .thread = .none then some { s.goes .thread .delay with woken := false } else none
  | .threadReads devStatus =>
    if s.place .thread = .delay then some (s.goes .thread (pmicReset devStatus)) else none
  | .modeStore k type =>
    if s.place (.store k) = .none then
      match type with
      | .fastboot =>
        some ({ s with dev := { s.dev with mode := .fastbootSwitching } }.goes (.store k)
          (.reprobeEarly .fastboot))
      | .pldr => some (s.goes (.store k) (.reprobeEarly .pldr))
      | .fldr => none
    else none
  | .suspend answers =>
    if s.suspended then none
    else
      let (dev, ret) := pciPmSuspend answers s.dev.fresh
      some { s.called dev with suspended := ret = 0 }
  | .resume answers stateCheck =>
    if s.suspended then
      some { s.called (pciPmResume answers stateCheck s.dev.fresh).1 with suspended := false }
    else none
  | .expDetected => some (s.called (pciPmExpDetected s.dev.fresh))
  | .initLate => some (s.called (pciPmInitLate s.dev.fresh))
  | label => s.resetStep label

def rguInit : RguRun where
  dev := probedDev
  sapRguInt := true
  rguIrqAsserted := false
  woken := false
  place := fun _ => .none
  suspended := false

/-- The next request of the modem for a reset will be heard. -/
def RguRun.Armed (s : RguRun) : Prop := s.sapRguInt = true ∧ s.dev.rguPciIrqEn = true

/-- With no run of the RGU thread, no reset and no suspend under way the interrupt is armed. -/
def RearmedAtRest (s : RguRun) : Prop :=
  s.woken = false → (∀ caller, s.place caller = .none) → s.suspended = false → s.Armed

def ReprobeStarts (answers : ResumeAnswers) : Prop :=
  answers.fsmCommand .stop = 0 ∧ answers.enableDevice = 0

def HandshakeRearms (answers : ResumeAnswers) (dev : PciDev) : Prop :=
  if answers.resumeAck = false then
    dev.resumeReprobeCount < maxResumeReprobeAttempts ∧ ReprobeStarts answers
  else
    answers.resumeAckAp = false → answers.resumeState = PM_RESUME_REG_STATE_INIT →
      dev.resumeReprobeCount < maxResumeReprobeAttempts → ReprobeStarts answers

/-- The paths of a resume that end with the interrupt armed. -/
def ResumeRearms (answers : ResumeAnswers) (stateCheck : Bool) (dev : PciDev) : Prop :=
  match resumeBranch answers stateCheck dev with
  | .skip => False
  | .reprobe => ReprobeStarts answers
  | .exception => answers.resumeState = PM_RESUME_REG_STATE_L2_EXP → answers.enableDevice = 0
  | .unknownState => False
  | .handshake reinit => (reinit = true → answers.enableDevice = 0) ∧ HandshakeRearms answers dev

/-- A run of the RGU thread finds a type of reset and nothing fails in it; a suspend is refused or
    succeeds, and its resume takes a path that arms the interrupt. -/
def RguCompletes (s : RguRun) : RguLabel → Prop
  | .threadReads devStatus =>
    devStatus &&& MISC_RESET_TYPE_PLDR ≠ 0#32 ∨ devStatus &&& MISC_RESET_TYPE_FLDR ≠ 0#32
  | .acpiReset caller ret => caller = .thread → ret = 0
  | .reinit caller answers => caller = .thread → answers.enableDevice = 0
  | .suspend answers =>
    SuspendRefused s.dev ∨ (CallbacksSucceed answers s.dev.mdPmEntities ∧ answers.suspendAck = true)
  | .resume answers stateCheck => ResumeRearms answers stateCheck s.dev
  | _ => True

section Decisions

variable {answers : ResumeAnswers} {stateCheck : Bool} {dev : PciDev}

instance : Decidable (ReprobeStarts answers) :=
  inferInstanceAs (Decidable (answers.fsmCommand .stop = 0 ∧ answers.enableDevice = 0))

instance : Decidable (HandshakeRearms answers dev) :=
  inferInstanceAs (Decidable (if answers.resumeAck = false then
      dev.resumeReprobeCount < maxResumeReprobeAttempts ∧ ReprobeStarts answers
    else
      answers.resumeAckAp = false → answers.resumeState = PM_RESUME_REG_STATE_INIT →
        dev.resumeReprobeCount < maxResumeReprobeAttempts → ReprobeStarts answers))

instance : Decidable (ResumeRearms answers stateCheck dev) := by
  unfold ResumeRearms
  cases resumeBranch answers stateCheck dev <;> infer_instance

instance (s : RguRun) : (label : RguLabel) → Decidable (RguCompletes s label)
  | .threadReads devStatus =>
    inferInstanceAs (Decidable (devStatus &&& MISC_RESET_TYPE_PLDR ≠ 0#32 ∨
      devStatus &&& MISC_RESET_TYPE_FLDR ≠ 0#32))
  | .acpiReset caller ret => inferInstanceAs (Decidable (caller = .thread → ret = 0))
  | .reinit caller answers => inferInstanceAs (Decidable (caller = .thread → answers.enableDevice = 0))
  | .suspend answers =>
    inferInstanceAs (Decidable (SuspendRefused s.dev ∨
      (CallbacksSucceed answers s.dev.mdPmEntities ∧ answers.suspendAck = true)))
  | .resume answers stateCheck => inferInstanceAs (Decidable (ResumeRearms answers stateCheck s.dev))
  | .rguInt | .threadBegins | .modeStore .. | .reprobeEarly .. | .start .. | .expDetected | .initLate =>
    inferInstanceAs (Decidable True)

end Decisions

section Calls

/-- The call leaves the interrupt armed, however it was before. -/
def PciDev.Rearmed (dev : PciDev) : Prop :=
  dev.rguPciIrqEn = true ∧ ∀ unmasked, dev.actions.foldl Action.sapRgu unmasked = true

theorem foldl_act (dev : PciDev) (action : Action) (unmasked : Bool) :
    (dev.act action).actions.foldl Action.sapRgu unmasked =
      action.sapRgu (dev.actions.foldl Action.sapRgu unmasked) :=
  List.foldl_append ..

theorem sendStart_rearmed (answers : ResumeAnswers) (dev : PciDev) :
    (sendFsmCommand answers .start dev).1.Rearmed := by
  refine ⟨rfl, fun unmasked => ?_⟩
  unfold sendFsmCommand
  dsimp only
  rw [foldl_act, foldl_act]
  rfl

theorem pcieReinit_ret (answers : ResumeAnswers) (isD3 : Bool) (dev : PciDev) :
    (pcieReinit answers isD3 dev).2 = answers.enableDevice := by
  unfold pcieReinit
  by_cases fails : answers.enableDevice ≠ 0
  · rw [if_pos fails]
  · rw [if_neg fails]
    cases isD3 <;> exact (not_not.mp fails).symm

theorem pciReprobeEarly_ret (answers : ResumeAnswers) (dev : PciDev) :
    (pciReprobeEarly answers dev).2 = answers.fsmCommand .stop := rfl

theorem reprobeDevice_rearmed {answers : ResumeAnswers} (starts : ReprobeStarts answers) (dev : PciDev) :
    (reprobeDevice answers dev).1.Rearmed := by
  unfold reprobeDevice pciReprobe
  dsimp only
  rw [pciReprobeEarly_ret, if_neg (not_not.mpr starts.1), pcieReinit_ret, if_neg (not_not.mpr starts.2)]
  exact sendStart_rearmed answers _

theorem resumeTail_rearmed (answers : ResumeAnswers) (dev : PciDev) :
    (resumeTail answers dev).1.Rearmed := by
  refine ⟨rfl, fun unmasked => ?_⟩
  show List.foldl Action.sapRgu unmasked (PciDev.act (PciDev.act (PciDev.act _ _) _) _).actions = true
  rw [foldl_act, foldl_act, foldl_act]
  rfl

theorem resumeException_rearmed {answers : ResumeAnswers} (dev : PciDev)
    (works : answers.resumeState = PM_RESUME_REG_STATE_L2_EXP → answers.enableDevice = 0) :
    (resumeException answers dev).1.Rearmed := by
  have armed (dev : PciDev) (mask : BitVec 32) :
      ((((dev.setPmState .suspended).setRgu true).act (.macSetInt .sapRgu)).act (.mhccifMaskClr mask)).Rearmed := by
    refine ⟨rfl, fun unmasked => ?_⟩
    rw [foldl_act, foldl_act]
    rfl
  unfold resumeException
  by_cases l2 : answers.resumeState = PM_RESUME_REG_STATE_L2_EXP
  · rw [if_pos l2]
    dsimp only
    rw [pcieReinit_ret, if_neg (not_not.mpr (works l2))]
    exact armed _ _
  · rw [if_neg l2]
    exact armed _ _

theorem resumeRequests_rearmed {answers : ResumeAnswers} {dev : PciDev}
    (rearms : HandshakeRearms answers dev) : (resumeRequests answers dev).1.Rearmed := by
  unfold HandshakeRearms at rearms
  unfold resumeRequests sendPmRequest
  dsimp only
  cases acked : answers.resumeAck with
  | false =>
    rw [if_pos acked] at rearms
    have below : ¬ (dev.act (.pmRequest .resumeReq false)).resumeReprobeCount ≥ maxResumeReprobeAttempts :=
      Nat.not_le.mpr rearms.1
    rw [if_neg Bool.false_ne_true, if_pos (by decide), if_neg below]
    exact reprobeDevice_rearmed rearms.2 _
  | true =>
    rw [if_neg (by rw [acked]; exact Bool.noConfusion)] at rearms
    rw [if_pos rfl, if_neg (not_not.mpr rfl)]
    cases ackedAp : answers.resumeAckAp with
    | true =>
      rw [if_pos rfl, if_neg fun again => again.1 rfl]
      exact resumeTail_rearmed answers _
    | false =>
      rw [if_neg Bool.false_ne_true]
      split
      · rename_i again
        exact reprobeDevice_rearmed (rearms ackedAp again.2.1 again.2.2) _
      · exact resumeTail_rearmed answers _

theorem HandshakeRearms.of_count {answers : ResumeAnswers} {before after : PciDev}
    (rearms : HandshakeRearms answers before) (count : after.resumeReprobeCount = before.resumeReprobeCount) :
    HandshakeRearms answers after := by
  unfold HandshakeRearms at rearms ⊢
  rw [count]
  exact rearms

theorem resumeHandshake_rearmed {answers : ResumeAnswers} {dev : PciDev}
    (rearms : HandshakeRearms answers dev) : (resumeHandshake answers dev).1.Rearmed := by
  have early : Quiet dev (resumeEarlyEntities dev.mdPmEntities
      ((dev.act (.aspmLowpwr false)).act .waitPmConfig)) :=
    (((Quiet.refl dev).act (.aspmLowpwr false) rfl).act .waitPmConfig rfl).trans
      (entityFold_quiet _ .resumeEarly dev.mdPmEntities _)
  exact resumeRequests_rearmed (rearms.of_count early.count)

theorem pciPmResume_rearmed {answers : ResumeAnswers} {stateCheck : Bool} (dev : PciDev)
    (rearms : ResumeRearms answers stateCheck dev) : (pciPmResume answers stateCheck dev).1.Rearmed := by
  unfold ResumeRearms at rearms
  rw [pciPmResume_branch]
  cases branch : resumeBranch answers stateCheck dev with
  | skip =>
    rw [branch] at rearms
    exact rearms.elim
  | reprobe =>
    rw [branch] at rearms
    exact reprobeDevice_rearmed rearms _
  | exception =>
    rw [branch] at rearms
    exact resumeException_rearmed _ rearms
  | unknownState =>
    rw [branch] at rearms
    exact rearms.elim
  | handshake reinit =>
    rw [branch] at rearms
    obtain ⟨works, handshake⟩ := rearms
    cases reinit with
    | false => exact resumeHandshake_rearmed handshake
    | true =>
      dsimp only
      rw [pcieReinit_ret, if_neg (not_not.mpr (works rfl))]
      exact resumeHandshake_rearmed
        (handshake.of_count (pcieReinit_quiet answers false (dev.act .macInterruptsEn)).count)

structure SameRgu (before after : PciDev) : Prop where
  enabled : after.rguPciIrqEn = before.rguPciIrqEn
  int : ∀ unmasked, after.actions.foldl Action.sapRgu unmasked = before.actions.foldl Action.sapRgu unmasked

theorem SameRgu.refl (dev : PciDev) : SameRgu dev dev := ⟨rfl, fun _ => rfl⟩

theorem SameRgu.act {before after : PciDev} (same : SameRgu before after) {action : Action}
    (other : ∀ unmasked, action.sapRgu unmasked = unmasked) : SameRgu before (after.act action) :=
  ⟨same.enabled, fun unmasked => (foldl_act after action unmasked).trans ((other _).trans (same.int unmasked))⟩

theorem pciReprobeEarly_same (answers : ResumeAnswers) (dev : PciDev) :
    SameRgu dev (pciReprobeEarly answers dev).1 := by
  have early : SameRgu dev (dev.act .reprobeEarly) := (SameRgu.refl dev).act fun _ => rfl
  unfold pciReprobeEarly sendFsmCommand
  dsimp only
  split
  · exact (early.act fun _ => rfl).act fun _ => rfl
  · exact early.act fun _ => rfl

theorem pcieReinit_fails {answers : ResumeAnswers} (fails : answers.enableDevice ≠ 0) (isD3 : Bool)
    (dev : PciDev) : SameRgu dev (pcieReinit answers isD3 dev).1 := by
  unfold pcieReinit
  rw [if_pos fails]
  exact (SameRgu.refl dev).act fun _ => rfl

theorem pciPmSuspend_heard {answers : SuspendAnswers} (dev : PciDev)
    (heard : SuspendRefused dev ∨ (CallbacksSucceed answers dev.mdPmEntities ∧ answers.suspendAck = true)) :
    (pciPmSuspend answers dev).2 = 0 ∨ (pciPmSuspend answers dev).1 = dev := by
  unfold pciPmSuspend
  split
  · exact .inr rfl
  · rename_i ready
    left
    obtain ⟨succeed, acked⟩ := heard.resolve_left ready
    obtain ⟨-, -, ret⟩ := suspendEntities_spec answers (suspendEntry dev).mdPmEntities (suspendEntry dev)
    dsimp only
    rw [if_neg (not_not.mpr (ret.mpr succeed))]
    unfold suspendRequests sendPmRequest
    dsimp only
    rw [if_pos acked, if_neg (not_not.mpr rfl)]

end Calls

section Steps

variable {s t : RguRun}

/-- The interrupt is armed, or somebody who is under way will arm it. -/
def RguInv (s : RguRun) : Prop :=
  s.Armed ∨ s.woken = true ∨ s.place .thread ≠ .none ∨ (∃ caller, s.place caller = .start) ∨
    s.suspended = true

theorem RguInv.rest (inv : RguInv s) : RearmedAtRest s := by
  intro asleep idle awake
  rcases inv with armed | woken | running | ⟨caller, starting⟩ | suspended
  · exact armed
  · exact absurd (asleep.symm.trans woken) (by decide)
  · exact absurd (idle .thread) running
  · exact absurd ((idle caller).symm.trans starting) nofun
  · exact absurd (awake.symm.trans suspended) (by decide)

theorem RguInv.frame (inv : RguInv s) (int : t.sapRguInt = s.sapRguInt)
    (enabled : t.dev.rguPciIrqEn = s.dev.rguPciIrqEn) (woken : s.woken = true → t.woken = true)
    (thread : s.place .thread ≠ .none → t.woken = true ∨ t.place .thread ≠ .none)
    (starting : ∀ caller, s.place caller = .start → t.place caller = .start)
    (suspended : t.suspended = s.suspended) : RguInv t := by
  rcases inv with armed | set | running | ⟨caller, here⟩ | asleep
  · exact .inl ⟨int.trans armed.1, enabled.trans armed.2⟩
  · exact .inr (.inl (woken set))
  · rcases thread running with set | still
    · exact .inr (.inl set)
    · exact .inr (.inr (.inl still))
  · exact .inr (.inr (.inr (.inl ⟨caller, starting caller here⟩)))
  · exact .inr (.inr (.inr (.inr (suspended.trans asleep))))

theorem RguInv.goes (inv : RguInv s) {caller : ResetCaller} {place : ResetPlace}
    (before : s.place caller ≠ .start) (stays : caller = .thread → place ≠ .none) :
    RguInv (s.goes caller place) := by
  refine inv.frame rfl rfl id (fun running => .inr ?_) (fun other here => ?_) rfl
  · show Function.update s.place caller place .thread ≠ .none
    by_cases thread : caller = .thread
    · rw [thread, Function.update_self]
      exact stays thread
    · rw [Function.update_of_ne (Ne.symm thread)]
      exact running
  · have apart : other ≠ caller := by
      rintro rfl
      exact before here
    exact (Function.update_of_ne apart ..).trans here

theorem RguInv.called (inv : RguInv s) {dev : PciDev} (same : SameRgu s.dev.fresh dev) :
    RguInv (s.called dev) :=
  inv.frame (same.int s.sapRguInt) same.enabled id .inr (fun _ => id) rfl

theorem goes_self (s : RguRun) (caller : ResetCaller) (place : ResetPlace) :
    (s.goes caller place).place caller = place := Function.update_self ..

theorem goes_other (s : RguRun) {caller other : ResetCaller} (apart : other ≠ caller) (place : ResetPlace) :
    (s.goes caller place).place other = s.place other := Function.update_of_ne apart ..

theorem called_armed {dev : PciDev} (rearmed : dev.Rearmed) (s : RguRun) : (s.called dev).Armed :=
  ⟨rearmed.2 s.sapRguInt, rearmed.1⟩

theorem pmicReset_running_iff (devStatus : BitVec 32) :
    pmicReset devStatus ≠ .none ↔
      devStatus &&& MISC_RESET_TYPE_PLDR ≠ 0#32 ∨ devStatus &&& MISC_RESET_TYPE_FLDR ≠ 0#32 := by
  unfold pmicReset
  by_cases pldr : devStatus &&& MISC_RESET_TYPE_PLDR ≠ 0#32
  · rw [if_pos pldr]
    exact iff_of_true nofun (.inl pldr)
  · rw [if_neg pldr, or_iff_right pldr]
    by_cases fldr : devStatus &&& MISC_RESET_TYPE_FLDR ≠ 0#32
    · rw [if_pos fldr]
      exact iff_of_true nofun fldr
    · rw [if_neg fldr]
      exact iff_of_false (fun running => running rfl) fldr

theorem resetStep_inv {label : RguLabel} (inv : RguInv s) (completes : RguCompletes s label)
    (taken : s.resetStep label = some t) : RguInv t := by
  unfold RguRun.resetStep at taken
  split at taken
  case h_1 caller answers =>
    split at taken
    · rename_i type here
      have before : s.place caller ≠ .start := here.trans_ne nofun
      have same := pciReprobeEarly_same answers s.dev.fresh
      generalize pciReprobeEarly answers s.dev.fresh = call at same taken
      cases taken
      have called : RguInv (s.called { call.1 with mode := .reset }) := inv.called ⟨same.enabled, same.int⟩
      exact called.goes before fun _ => nofun
    · cases taken
  case h_2 caller ret =>
    split at taken
    · rename_i type here
      cases taken
      have before : s.place caller ≠ .start := here.trans_ne nofun
      refine inv.goes before fun thread => ?_
      rw [if_neg fun fails => fails.2 (completes thread)]
      exact nofun
    · cases taken
  case h_3 caller answers =>
    split at taken
    · rename_i here
      have before : s.place caller ≠ .start := here.trans_ne nofun
      have ret := pcieReinit_ret answers true s.dev.fresh
      by_cases fails : answers.enableDevice = 0
      · generalize pcieReinit answers true s.dev.fresh = call at ret taken
        cases taken
        rw [ret, if_neg (not_not.mpr fails)]
        exact .inr (.inr (.inr (.inl ⟨caller, Function.update_self ..⟩)))
      · have same := pcieReinit_fails fails true s.dev.fresh
        generalize pcieReinit answers true s.dev.fresh = call at ret same taken
        cases taken
        rw [ret, if_pos fails]
        exact RguInv.goes (inv.called same) before fun thread => absurd (completes thread) fails
    · cases taken
  case h_4 caller answers =>
    split at taken
    · have rearmed := sendStart_rearmed answers (s.dev.fresh.act .clearRguIrq)
      generalize sendFsmCommand answers .start (s.dev.fresh.act .clearRguIrq) = call at rearmed taken
      cases taken
      exact .inl (called_armed rearmed s)
    · cases taken
  case h_5 => cases taken

theorem rguInt_inv (inv : RguInv s) : RguInv s.rguInt := by
  unfold RguRun.rguInt rguIsrHandler
  dsimp only
  split
  · exact RguInv.frame inv rfl rfl (fun woken => by simp [woken]) .inr (fun _ => id) rfl
  · exact .inr (.inl (Bool.or_true _))

theorem rguStep_inv {label : RguLabel} (inv : RguInv s) (completes : RguCompletes s label)
    (taken : rguStep s label = some t) : RguInv t := by
  cases label with
  | rguInt =>
    simp only [rguStep] at taken
    split at taken
    · cases taken
      exact rguInt_inv inv
    · cases taken
  | threadBegins =>
    simp only [rguStep] at taken
    split at taken
    · cases taken
      exact .inr (.inr (.inl (by simp [RguRun.goes])))
    · cases taken
  | threadReads devStatus =>
    simp only [rguStep] at taken
    split at taken
    · rename_i here
      cases taken
      exact inv.goes (here.trans_ne nofun) fun _ => (pmicReset_running_iff devStatus).mpr completes
    · cases taken
  | modeStore k type =>
    simp only [rguStep] at taken
    split at taken
    · rename_i here
      have before : s.place (.store k) ≠ .start := here.trans_ne nofun
      cases type with
      | fastboot =>
        cases taken
        exact RguInv.goes (RguInv.frame inv rfl rfl id .inr (fun _ => id) rfl) before fun _ => nofun
      | pldr =>
        cases taken
        exact inv.goes before fun _ => nofun
      | fldr => cases taken
    · cases taken
  | suspend answers =>
    simp only [rguStep] at taken
    split at taken
    · cases taken
    · have heard := pciPmSuspend_heard s.dev.fresh completes
      generalize pciPmSuspend answers s.dev.fresh = call at heard taken
      cases taken
      by_cases suspended : call.2 = 0
      · exact .inr (.inr (.inr (.inr (decide_eq_true suspended))))
      · have same := heard.resolve_left suspended
        rename_i awake
        refine RguInv.frame inv ?_ ?_ id .inr (fun _ => id) ?_
        · show List.foldl _ _ call.1.actions = _
          rw [same]
          rfl
        · show call.1.rguPciIrqEn = _
          rw [same]
          rfl
        · exact (decide_eq_false suspended).trans (eq_false_of_ne_true awake).symm
  | resume answers stateCheck =>
    simp only [rguStep] at taken
    split at taken
    · have rearmed := pciPmResume_rearmed s.dev.fresh completes
      generalize pciPmResume answers stateCheck s.dev.fresh = call at rearmed taken
      cases taken
      exact .inl (called_armed rearmed s)
    · cases taken
  | expDetected =>
    cases taken
    exact inv.called ⟨rfl, fun _ => rfl⟩
  | initLate =>
    cases taken
    exact inv.called ⟨rfl, fun _ => rfl⟩
  | reprobeEarly caller answers => exact resetStep_inv inv completes taken
  | acpiReset caller ret => exact resetStep_inv inv completes taken
  | reinit caller answers => exact resetStep_inv inv completes taken
  | start caller answers => exact resetStep_inv inv completes taken

inductive ThreadDecides : RguLabel → Prop where
  | reads (devStatus : BitVec 32) : ThreadDecides (.threadReads devStatus)
  | acpiReset (ret : Int) : ThreadDecides (.acpiReset .thread ret)
  | reinit (answers : ResumeAnswers) : ThreadDecides (.reinit .thread answers)

/-- With the interrupt masked and nobody else under way, the thread must go on. -/
theorem goes_rest_iff {place : ResetPlace} (masked : s.sapRguInt = false) (asleep : s.woken = false)
    (alone : ∀ k, s.place (.store k) = .none) (awake : s.suspended = false) :
    RearmedAtRest (s.goes .thread place) ↔ place ≠ .none := by
  have here := goes_self s .thread place
  constructor
  · rintro rest rfl
    have idle : ∀ caller, (s.goes .thread .none).place caller = .none := by
      intro caller
      cases caller with
      | thread => exact here
      | store k => exact (goes_other s (ResetCaller.noConfusion : ResetCaller.store k ≠ .thread) _).trans (alone k)
    exact absurd (masked.symm.trans (rest asleep idle awake).1) (by decide)
  · intro running _ idle
    exact absurd (here.symm.trans (idle .thread)) running

/-- Alone, a thread that gives up leaves the interrupt masked for good. -/
theorem thread_alone_iff {label : RguLabel} (masked : s.sapRguInt = false) (asleep : s.woken = false)
    (alone : ∀ k, s.place (.store k) = .none) (awake : s.suspended = false)
    (type : s.place .thread ≠ .reset .fastboot) (decides : ThreadDecides label)
    (taken : rguStep s label = some t) : RearmedAtRest t ↔ RguCompletes s label := by
  cases decides with
  | reads devStatus =>
    simp only [rguStep] at taken
    split at taken
    · cases taken
      rw [goes_rest_iff masked asleep alone awake]
      exact pmicReset_running_iff devStatus
    · cases taken
  | acpiReset ret =>
    simp only [rguStep, RguRun.resetStep] at taken
    split at taken
    · rename_i kind here
      cases taken
      have other : kind ≠ .fastboot := fun same => type (same ▸ here)
      rw [goes_rest_iff masked asleep alone awake]
      by_cases works : ret = 0
      · rw [if_neg fun fails => fails.2 works]
        exact ⟨fun _ _ => works, fun _ => nofun⟩
      · rw [if_pos ⟨other, works⟩]
        exact ⟨fun running => absurd rfl running, fun completes => absurd (completes rfl) works⟩
    · cases taken
  | reinit answers =>
    simp only [rguStep, RguRun.resetStep] at taken
    split at taken
    · have ret := pcieReinit_ret answers true s.dev.fresh
      by_cases works : answers.enableDevice = 0
      · generalize pcieReinit answers true s.dev.fresh = call at ret taken
        cases taken
        rw [ret, if_neg (not_not.mpr works)]
        refine ⟨fun _ _ => works, fun _ _ idle => ?_⟩
        exact absurd ((goes_self (s.called call.1) .thread .start).symm.trans (idle .thread)) nofun
      · have same := pcieReinit_fails works true s.dev.fresh
        generalize pcieReinit answers true s.dev.fresh = call at ret same taken
        cases taken
        have still : (s.called call.1).sapRguInt = false := (same.int _).trans masked
        rw [ret, if_pos works, goes_rest_iff still asleep alone awake]
        exact ⟨fun running => absurd rfl running, fun completes => absurd (completes rfl) works⟩
    · cases taken

end Steps

/-- In a run whose resets and suspends all complete, the interrupt is armed whenever the RGU thread has
    returned and no reset or suspend is under way. -/
theorem rgu_thread_rearms (labels : List RguLabel) (obeys : Obeys RguCompletes rguStep rguInit labels) :
    Visits RearmedAtRest rguStep rguInit labels :=
  Visits.of_invariant RguInv (fun _ => RguInv.rest) (fun _ _ _ inv completes taken => rguStep_inv inv completes taken)
    (.inl ⟨rfl, rfl⟩) obeys

def completeAnswers : ResumeAnswers := ⟨PM_RESUME_REG_STATE_L1, 0, true, true, fun _ => 0, 0, fun _ => 0⟩

def fldrReset : List RguLabel :=
  [.rguInt, .threadBegins, .threadReads MISC_RESET_TYPE_FLDR, .reprobeEarly .thread completeAnswers,
    .acpiReset .thread 0, .reinit .thread completeAnswers, .start .thread completeAnswers]

theorem rgu_thread_rearms_fldr :
    Obeys RguCompletes rguStep rguInit fldrReset ∧ Visits RearmedAtRest rguStep rguInit fldrReset := by
  have obeys : Obeys RguCompletes rguStep rguInit fldrReset := by decide
  exact ⟨obeys, rgu_thread_rearms fldrReset obeys⟩

/-- The modem asks for a reset without saying of which type. -/
def untypedReset : List RguLabel := [.rguInt, .threadBegins, .threadReads 0#32]

theorem untyped_reset_stays_masked :
    ¬ ∀ labels, Visits RearmedAtRest rguStep rguInit labels := by
  intro always
  obtain ⟨t, run, asleep, idle, awake, masked⟩ : ∃ t, execute rguStep rguInit untypedReset = some t ∧
      t.woken = false ∧ (∀ caller, t.place caller = .none) ∧ t.suspended = false ∧ t.sapRguInt = false :=
    ⟨_, rfl, rfl, fun caller => by cases caller <;> rfl, rfl, rfl⟩
  have armed : t.Armed := (always untypedReset).finish run asleep idle awake
  exact absurd (masked.symm.trans armed.1) (by decide)

end T7xxModel.Pci
