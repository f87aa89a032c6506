import T7xx.Pci.SleepLock
import T7xx.Pci.ResumeRuns
import T7xx.Transition.Runs

namespace T7xxModel.Pci

open Transition

inductive PmCall where
  | idle
  | suspendChecked
  | suspending
  | resuming
deriving DecidableEq, Repr

/-- The device, its holders and whether the lock was held when `MTK_PM_RESUMED` was last left. -/
structure SleepRun where
  dev : PciDev
  call : PmCall
  holders : Nat
  heldAtLeave : Bool

inductive SleepEvent where
  | disableSleep (status : BitVec 32)
  | enableSleep
  | pmInitLate
  | suspendCheck
  | suspendEntry
  | suspendAbort (failed : PmId)
  | suspendDone
  | resumeCheck
  | resumeTail (answers : ResumeAnswers)
  | resumeException (answers : ResumeAnswers)
  | resumeUnknown (answers : ResumeAnswers)
  | resumeFail
  | reprobe (answers : ResumeAnswers) (boot : Bool)
  | expDetected

def SleepRun.start (dev : PciDev) : SleepRun :=
  { dev := { dev with mdPmState := .init, sleepDisableCount := 0 }, call := .idle, holders := 0,
    heldAtLeave := sleepDisabled dev }

def SleepRun.settle (run : SleepRun) (call : PmCall) (dev : PciDev) : SleepRun :=
  { dev
    call
    holders := run.holders
    heldAtLeave :=
      if run.dev.mdPmState = .resumed ∧ dev.mdPmState ≠ .resumed then decide (dev.sleepDisableCount ≠ 0)
      else run.heldAtLeave }

def pmStretch (run : SleepRun) : SleepEvent → Option (PmCall × PciDev)
  | .disableSleep _ | .enableSleep => none
  | .pmInitLate => some (run.call, pciPmInitLate run.dev)
  | .suspendCheck =>
    if run.call = .idle ∧ ¬ (run.dev.mdPmState.value ≤ PmState.init.value ∨ run.dev.mode ≠ .ready) then
      some (.suspendChecked, run.dev)
    else none
  | .suspendEntry =>
    if run.call = .suspendChecked then some (.suspending, suspendEntry run.dev) else none
  | .suspendAbort failed =>
    if run.call = .suspending then some (.idle, abortSuspend failed run.dev) else none
  | .suspendDone => if run.call = .suspending then some (.idle, run.dev) else none
  | .resumeCheck =>
    if run.call = .idle ∧ ¬ run.dev.mdPmState.value ≤ PmState.init.value then some (.resuming, run.dev)
    else none
  | .resumeTail answers =>
    if run.call = .resuming then some (.idle, (resumeTail answers run.dev).1) else none
  | .resumeException answers =>
    if run.call = .resuming then some (.idle, (resumeException answers run.dev).1) else none
  | .resumeUnknown answers =>
    if run.call = .resuming then some (.idle, (resumeUnknown answers run.dev).1) else none
  | .resumeFail => if run.call = .resuming then some (.idle, run.dev) else none
  | .reprobe answers boot => some (run.call, (pciReprobe answers boot run.dev).1)
  | .expDetected => some (run.call, pciPmExpDetected run.dev)

def SleepRun.step (run : SleepRun) : SleepEvent → Option SleepRun
  | .disableSleep status =>
    some { run with dev := pciDisableSleep status run.dev, holders := run.holders + 1 }
  | .enableSleep =>
    if 0 < run.holders then
      some { run with dev := pciEnableSleep run.dev, holders := run.holders - 1 }
    else none
  | event => (pmStretch run event).map fun (call, dev) => run.settle call dev

/-- While resumed, the register forbids sleep exactly when somebody holds the lock. -/
def RegisterFollowsCount (run : SleepRun) : Prop :=
  run.dev.mdPmState = .resumed → (sleepDisabled run.dev = true ↔ run.dev.sleepDisableCount ≠ 0)

instance : DecidablePred RegisterFollowsCount := fun run => by
  unfold RegisterFollowsCount
  infer_instance

def SleepEvent.entersResumed : SleepEvent → Bool
  | .pmInitLate | .suspendAbort _ | .resumeTail _ => true
  | _ => false

/-- The counter does not wrap while resumed, and the lock is held on entering `MTK_PM_RESUMED`
    exactly if it was held on leaving it. -/
def heldAcrossStates (run : SleepRun) : SleepEvent → Prop
  | .disableSleep _ => run.dev.mdPmState = .resumed → run.dev.sleepDisableCount ≠ BitVec.allOnes 32
  | .enableSleep => run.dev.mdPmState = .resumed → run.dev.sleepDisableCount ≠ 0
  | event =>
    event.entersResumed = true → run.dev.mdPmState ≠ .resumed →
      (run.dev.sleepDisableCount ≠ 0 ↔ run.heldAtLeave = true)

instance (run : SleepRun) (event : SleepEvent) : Decidable (heldAcrossStates run event) := by
  cases event <;> unfold heldAcrossStates <;> infer_instance

/-- Outside `MTK_PM_RESUMED` the register shows whether the lock was held when it was left. -/
def RegisterRemembered (run : SleepRun) : Prop :=
  run.dev.mdPmState ≠ .resumed → sleepDisabled run.dev = run.heldAtLeave

theorem SameSleepLock.disabled {before after : PciDev} (same : SameSleepLock before after) :
    sleepDisabled after = sleepDisabled before := by
  simp only [sleepDisabled, same.register]

theorem pcieReinit_state (answers : ResumeAnswers) (isD3 : Bool) (dev : PciDev) :
    (pcieReinit answers isD3 dev).1.mdPmState = dev.mdPmState ∨
      (pcieReinit answers isD3 dev).1.mdPmState = .init := by
  simp only [pcieReinit, pciPmReinit]
  split_ifs
  · simp only [act_mdPmState, true_or]
  · simp only [act_mdPmState, setPmState_mdPmState, or_true]
  · simp only [act_mdPmState, true_or]

theorem sendFsmCommand_state (answers : ResumeAnswers) (cmd : FsmCmd) (dev : PciDev) :
    (sendFsmCommand answers cmd dev).1.mdPmState = dev.mdPmState := by
  cases cmd <;> rfl

theorem pciReprobe_state (answers : ResumeAnswers) (boot : Bool) (dev : PciDev) :
    (pciReprobe answers boot dev).1.mdPmState = dev.mdPmState ∨
      (pciReprobe answers boot dev).1.mdPmState = .init := by
  have reinit := pcieReinit_state answers boot (dev.act (.reprobe boot))
  unfold pciReprobe
  dsimp only
  split
  · exact reinit
  · rw [sendFsmCommand_state]
    exact reinit

theorem resumeException_state (answers : ResumeAnswers) (dev : PciDev) :
    (resumeException answers dev).1.mdPmState = .resumed → dev.mdPmState = .resumed := by
  unfold resumeException
  by_cases l2 : answers.resumeState = PM_RESUME_REG_STATE_L2_EXP
  · simp only [l2, if_true]
    split
    · intro resumed
      rcases pcieReinit_state answers false dev with same | init
      · rw [← same, resumed]
      · rw [init] at resumed
        cases resumed
    · intro resumed
      cases resumed
  · simp only [l2, if_false, ne_eq, not_true_eq_false]
    intro resumed
    cases resumed

theorem resumeUnknown_state (answers : ResumeAnswers) (dev : PciDev) :
    (resumeUnknown answers dev).1.mdPmState = .resumed → dev.mdPmState = .resumed := by
  unfold resumeUnknown
  dsimp only
  split
  · rw [sendFsmCommand_state]
    exact id
  · intro resumed
    cases resumed

theorem abortSuspend_quiet (failed : PmId) (dev : PciDev) : Quiet dev (abortSuspend failed dev) := by
  have entities := entityFold_quiet (·.resume) .resume
    (dev.mdPmEntities.takeWhile (fun entity => entity.id ≠ failed)) dev
  exact ((entities.act (.aspmLowpwr true) rfl).setPmState .resumed).act (.macSetInt .sapRgu) rfl

/-- No stretch touches the sleep lock, and only three end in `MTK_PM_RESUMED`. -/
theorem pmStretch_spec {run : SleepRun} {event : SleepEvent} {call : PmCall} {dev : PciDev}
    (taken : pmStretch run event = some (call, dev)) :
    SameSleepLock run.dev dev ∧
      (event.entersResumed = true → dev.mdPmState = .resumed) ∧
      (event.entersResumed = false → dev.mdPmState = .resumed → run.dev.mdPmState = .resumed) := by
  cases event with
  | disableSleep status => cases taken
  | enableSleep => cases taken
  | pmInitLate =>
    cases taken
    exact ⟨⟨rfl, rfl⟩, fun _ => rfl, nofun⟩
  | expDetected =>
    cases taken
    exact ⟨⟨rfl, rfl⟩, nofun, fun _ => nofun⟩
  | reprobe answers boot =>
    cases taken
    refine ⟨(pciReprobe_quiet answers boot run.dev).lock, nofun, ?_⟩
    intro _ resumed
    rcases pciReprobe_state answers boot run.dev with same | init
    · rw [← same, resumed]
    · rw [init] at resumed
      cases resumed
  | suspendCheck =>
    simp only [pmStretch, Option.ite_none_right_eq_some, Option.some.injEq, Prod.mk.injEq] at taken
    obtain ⟨-, -, rfl⟩ := taken
    exact ⟨.refl _, nofun, fun _ => id⟩
  | suspendEntry =>
    simp only [pmStretch, Option.ite_none_right_eq_some, Option.some.injEq, Prod.mk.injEq] at taken
    obtain ⟨-, -, rfl⟩ := taken
    exact ⟨⟨rfl, rfl⟩, nofun, fun _ => nofun⟩
  | suspendAbort failed =>
    simp only [pmStretch, Option.ite_none_right_eq_some, Option.some.injEq, Prod.mk.injEq] at taken
    obtain ⟨-, -, rfl⟩ := taken
    exact ⟨(abortSuspend_quiet failed run.dev).lock, fun _ => rfl, nofun⟩
  | suspendDone | resumeCheck | resumeFail =>
    simp only [pmStretch, Option.ite_none_right_eq_some, Option.some.injEq, Prod.mk.injEq] at taken
    obtain ⟨-, -, rfl⟩ := taken
    exact ⟨.refl _, nofun, fun _ => id⟩
  | resumeTail answers =>
    simp only [pmStretch, Option.ite_none_right_eq_some, Option.some.injEq, Prod.mk.injEq] at taken
    obtain ⟨-, -, rfl⟩ := taken
    have entities := resumeEntities_quiet answers.entityResume run.dev.mdPmEntities run.dev 0
    exact ⟨⟨entities.lock.count, entities.lock.register⟩, fun _ => rfl, nofun⟩
  | resumeException answers =>
    simp only [pmStretch, Option.ite_none_right_eq_some, Option.some.injEq, Prod.mk.injEq] at taken
    obtain ⟨-, -, rfl⟩ := taken
    exact ⟨(resumeException_quiet answers run.dev).lock, nofun,
      fun _ => resumeException_state answers run.dev⟩
  | resumeUnknown answers =>
    simp only [pmStretch, Option.ite_none_right_eq_some, Option.some.injEq, Prod.mk.injEq] at taken
    obtain ⟨-, -, rfl⟩ := taken
    exact ⟨(resumeUnknown_quiet answers run.dev).lock, nofun,
      fun _ => resumeUnknown_state answers run.dev⟩

/-- A stretch keeps the register right exactly if the lock was held across the state change. -/
theorem settle_exact {run : SleepRun} {event : SleepEvent} {call : PmCall} {dev : PciDev}
    (remembered : RegisterRemembered run) (follows : RegisterFollowsCount run)
    (taken : pmStretch run event = some (call, dev)) :
    RegisterRemembered (run.settle call dev) ∧
      (RegisterFollowsCount (run.settle call dev) ↔
        (event.entersResumed = true → run.dev.mdPmState ≠ .resumed →
          (run.dev.sleepDisableCount ≠ 0 ↔ run.heldAtLeave = true))) := by
  obtain ⟨same, enters, stays⟩ := pmStretch_spec taken
  have register := same.disabled
  have count := same.count
  by_cases resumed : run.dev.mdPmState = .resumed
  · have shown := follows resumed
    constructor
    · intro left
      simp only [SleepRun.settle, resumed, true_and] at left ⊢
      rw [if_pos left, register, count, Bool.eq_iff_iff, shown, decide_eq_true_iff]
    · refine ⟨fun _ _ unresumed => absurd resumed unresumed, fun _ _ => ?_⟩
      simp only [SleepRun.settle, register, count]
      exact shown
  · have shown := remembered resumed
    constructor
    · intro left
      simp only [SleepRun.settle, resumed, false_and, if_false, register]
      exact shown
    · simp only [RegisterFollowsCount, SleepRun.settle, register, count, shown]
      constructor
      · intro right entering _
        exact (right (enters entering)).symm
      · intro held arrived
        cases entering : event.entersResumed with
        | true => exact (held entering resumed).symm
        | false => exact absurd (stays entering arrived) resumed

theorem disableSleep_exact (status : BitVec 32) {run : SleepRun} (follows : RegisterFollowsCount run)
    (holders : Nat) :
    RegisterFollowsCount { run with dev := pciDisableSleep status run.dev, holders } ↔
      (run.dev.mdPmState = .resumed → run.dev.sleepDisableCount ≠ BitVec.allOnes 32) := by
  simp only [RegisterFollowsCount, disableSleep_state, disableSleep_count]
  refine forall_congr' fun resumed => ?_
  rw [disableSleep_register_resumed status run.dev resumed, Bool.or_eq_true, follows resumed,
    decide_eq_true_iff]
  have wraps : run.dev.sleepDisableCount + 1 ≠ 0 ↔ run.dev.sleepDisableCount ≠ BitVec.allOnes 32 := by
    rw [← BitVec.neg_one_eq_allOnes]
    constructor <;> intro different same <;> apply different <;> bv_omega
  rw [wraps]
  constructor
  · intro exact_now
    exact exact_now.mp (em _)
  · intro unwrapped
    exact ⟨fun _ => unwrapped, fun _ => em _⟩

theorem enableSleep_exact {run : SleepRun} (follows : RegisterFollowsCount run) (holders : Nat) :
    RegisterFollowsCount { run with dev := pciEnableSleep run.dev, holders } ↔
      (run.dev.mdPmState = .resumed → run.dev.sleepDisableCount ≠ 0) := by
  simp only [RegisterFollowsCount, enableSleep_state, enableSleep_count]
  refine forall_congr' fun resumed => ?_
  rw [enableSleep_register_resumed run.dev resumed, Bool.and_eq_true, follows resumed]
  have last : run.dev.sleepDisableCount - 1 ≠ 0 ↔ run.dev.sleepDisableCount ≠ 1 := by
    constructor <;> intro different same <;> apply different <;> bv_omega
  rw [last]
  by_cases zero : run.dev.sleepDisableCount = 0
  · simp [zero]
  · simp only [Bool.not_eq_true', decide_eq_false_iff_not]
    exact ⟨fun _ => zero, fun _ => ⟨fun both => both.1, fun several => ⟨several, zero⟩⟩⟩

theorem step_exact (run : SleepRun) (event : SleepEvent) (next : SleepRun)
    (remembered : RegisterRemembered run) (follows : RegisterFollowsCount run)
    (taken : run.step event = some next) :
    RegisterRemembered next ∧ (RegisterFollowsCount next ↔ heldAcrossStates run event) := by
  have stretch : ∀ (event : SleepEvent) (next : SleepRun),
      (pmStretch run event).map (fun (call, dev) => run.settle call dev) = some next →
      RegisterRemembered next ∧ (RegisterFollowsCount next ↔
        (event.entersResumed = true → run.dev.mdPmState ≠ .resumed →
          (run.dev.sleepDisableCount ≠ 0 ↔ run.heldAtLeave = true))) := by
    intro event next mapped
    obtain ⟨⟨call, dev⟩, moved, rfl⟩ := Option.map_eq_some_iff.mp mapped
    exact settle_exact remembered follows moved
  cases event with
  | disableSleep status =>
    cases taken
    refine ⟨fun unresumed => ?_, disableSleep_exact status follows _⟩
    have outside : run.dev.mdPmState ≠ .resumed := by simpa using unresumed
    exact (disableSleep_register_unresumed status run.dev outside).trans (remembered outside)
  | enableSleep =>
    simp only [SleepRun.step, Option.ite_none_right_eq_some, Option.some.injEq] at taken
    obtain ⟨-, rfl⟩ := taken
    refine ⟨fun unresumed => ?_, enableSleep_exact follows _⟩
    have outside : run.dev.mdPmState ≠ .resumed := by simpa using unresumed
    exact (enableSleep_register_unresumed run.dev outside).trans (remembered outside)
  | _ => exact stretch _ next taken

/-- The register is right in every resumed state of a run exactly if the lock was held across
    every change into `MTK_PM_RESUMED` as it was on leaving it, and the counter never wrapped. -/
theorem register_follows_count_iff (dev : PciDev) (events : List SleepEvent) :
    Visits RegisterFollowsCount SleepRun.step (SleepRun.start dev) events ↔
      Obeys heldAcrossStates SleepRun.step (SleepRun.start dev) events := by
  apply visits_iff_obeys RegisterRemembered
  · intro run event next remembered follows taken
    exact (step_exact run event next remembered follows taken).1
  · intro run event next remembered follows taken
    exact (step_exact run event next remembered follows taken).2
  · intro _
    rfl
  · intro resumed
    cases resumed

/-- A holder that took the lock before the modem was up finds the register clear. -/
theorem register_misses_early_holder :
    ¬ Visits RegisterFollowsCount SleepRun.step (SleepRun.start probedDev)
      [.disableSleep 0, .pmInitLate] := by
  decide

end T7xxModel.Pci
