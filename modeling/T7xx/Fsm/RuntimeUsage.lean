import Mathlib.Algebra.Ring.Int.Defs
import T7xx.Fsm.PmCalls
import T7xx.Fsm.ResetDevice

namespace T7xxModel.Fsm

open Pci Transition

def usageDelta : Action → Int
  | .runtimeGetNoresume => 1
  | .runtimePutNoidle => -1
  | _ => 0

/-- The driver's part of the usage count of the device, with the reference that the probe took. -/
def usage (dev : PciDev) : Int := 1 + (dev.actions.map usageDelta).sum

/-- The next action of `t7xx_reset_device`; `idle` when it is not called. -/
inductive DeviceResetPc where
  | idle
  | stopWait (type : ResetType)
  | modeUpdate (type : ResetType)
  | resetFunction (type : ResetType)
  | reprobe
deriving DecidableEq, Repr

/-- The state machine and the PM callbacks with resets of the device beside them. `lates` has the usage
    right after each `t7xx_pci_pm_init_late`, `held` tells whether the reference of the probe or of the
    last `t7xx_pci_pm_reinit` was not dropped yet, `alternating` whether takes and drops alternated. -/
structure UsageRun where
  pm : PmRun
  reset : DeviceResetPc
  lates : List Int
  held : Bool
  alternating : Bool

inductive UsageLabel where
  | pm (label : PmLabel)
  | resetEarly (type : ResetType) (allocated : Bool)
  | resetStopOver
  | resetMode
  | resetFunction (ret : Int)
  | resetReprobe (answers : ResumeAnswers) (allocated : Bool)

/-- The places where the driver takes or drops its reference. -/
inductive ReferenceUse where
  | bootReady
  | downloadReprobe
  | pmReinit
deriving DecidableEq, Repr

section Steps

def FsmThread.waitsHandshake : FsmThread → Bool
  | .waitHandshake _ _ => true
  | _ => false

/-- The boot under way ends with both cores ready. -/
def FsmRun.EndsReady (run : FsmRun) (label : FsmLabel) : Prop :=
  label = .handshakeWake ∧ run.thread.waitsHandshake = true ∧ run.m.coreMd.ready = true ∧
    run.m.coreAp.ready = true

instance (run : FsmRun) (label : FsmLabel) : Decidable (run.EndsReady label) :=
  inferInstanceAs (Decidable (_ ∧ _))

def PmPc.reprobes : PmPc → Bool
  | .sendStop _ .reprobe => true
  | _ => false

def PmPc.reinits : PmPc → Bool
  | .reprobe answers => answers.enableDevice = 0
  | _ => false

def UsageRun.reference (s : UsageRun) (label : UsageLabel) : Option ReferenceUse :=
  let download := s.pm.run.m.dev.mode = .fastbootDownload
  match label with
  | .pm (.fsm label) => if s.pm.run.EndsReady label then some .bootReady else none
  | .pm (.sendStop _) => if s.pm.pm.reprobes ∧ download then some .downloadReprobe else none
  | .pm (.reprobe _) => if s.pm.pm.reinits then some .pmReinit else none
  | .resetEarly _ _ => if download then some .downloadReprobe else none
  | .resetReprobe answers _ => if answers.enableDevice = 0 then some .pmReinit else none
  | _ => none

def UsageRun.account (s : UsageRun) : Option ReferenceUse → UsageRun
  | none => s
  | some .pmReinit => { s with held := true, alternating := s.alternating && !s.held }
  | some .downloadReprobe => { s with held := false, alternating := s.alternating && s.held }
  | some .bootReady =>
    { s with
      lates := s.lates ++ [usage s.pm.run.m.dev]
      held := false
      alternating := s.alternating && s.held }

/-- `t7xx_pci_reprobe_early` -/
def UsageRun.resetEarlyStep (s : UsageRun) (type : ResetType) (allocated : Bool) : UsageRun :=
  let dev := s.pm.run.m.dev.act .reprobeEarly
  let dev := if dev.mode = .fastbootDownload then dev.act .runtimePutNoidle else dev
  let pm := s.pm.setDev (dev.act (.fsmCommand .stop))
  if allocated then
    let m := fsmAppendCmd .stop FSM_CMD_FLAG_WAIT_FOR_COMPLETION pm.run.m
    { s with pm := { pm with run := { pm.run with m } }, reset := .stopWait type }
  else { s with pm, reset := .modeUpdate type }

/-- `t7xx_pci_reprobe`, called by `t7xx_reset_device`. -/
def UsageRun.resetReprobeStep (s : UsageRun) (answers : ResumeAnswers) (allocated : Bool) : UsageRun :=
  { s with pm := { s.pm with run := (s.pm.reprobeStep answers allocated).run }, reset := .idle }

def UsageRun.move (s : UsageRun) (label : UsageLabel) : Option UsageRun :=
  match label, s.reset with
  | .pm .pmReinit, _ => none
  | .pm label, _ => (s.pm.step label).map fun pm => { s with pm }
  | .resetEarly type allocated, .idle => some (s.resetEarlyStep type allocated)
  | .resetStopOver, .stopWait type => some { s with reset := .modeUpdate type }
  | .resetMode, .modeUpdate type =>
    some { s with
      pm := s.pm.setDev { s.pm.run.m.dev with mode := .reset }, reset := .resetFunction type }
  | .resetFunction ret, .resetFunction type =>
    some { s with reset := if type ≠ .fastboot ∧ ret ≠ 0 then .idle else .reprobe }
  | .resetReprobe answers allocated, .reprobe => some (s.resetReprobeStep answers allocated)
  | _, _ => none

def UsageRun.step (s : UsageRun) (label : UsageLabel) : Option UsageRun :=
  (s.move label).map (·.account (s.reference label))

def UsageRun.probed (dev : PciDev) : UsageRun where
  pm := ⟨FsmRun.probed { dev with actions := [] }, .idle, []⟩
  reset := .idle
  lates := []
  held := true
  alternating := true

/-- Right after each `t7xx_pci_pm_init_late` the driver holds no reference. -/
def ZeroAfterInitLate (s : UsageRun) : Prop := ∀ count ∈ s.lates, count = 0

instance (s : UsageRun) : Decidable (ZeroAfterInitLate s) :=
  inferInstanceAs (Decidable (∀ count ∈ s.lates, _))

/-- A boot ends ready with the last reference held, after takes and drops that alternated. -/
def AlternatesUntilReady (s : UsageRun) (label : UsageLabel) : Prop :=
  s.reference label = some .bootReady → s.held = true ∧ s.alternating = true

instance (s : UsageRun) (label : UsageLabel) : Decidable (AlternatesUntilReady s label) :=
  inferInstanceAs (Decidable (_ → _))

end Steps

section PciUsage

variable (dev : PciDev)

@[simp] theorem usage_act (action : Action) : usage (dev.act action) = usage dev + usageDelta action := by
  unfold usage
  rw [act_actions, List.map_append, List.sum_append, List.map_singleton, List.sum_singleton]
  omega

@[simp] theorem usage_setPmState (state : PmState) : usage (dev.setPmState state) = usage dev := rfl

@[simp] theorem usage_setRgu (enabled : Bool) : usage (dev.setRgu enabled) = usage dev := rfl

@[simp] theorem usage_setReprobeCount (count : Nat) : usage (dev.setReprobeCount count) = usage dev := rfl

theorem usage_same {before after : PciDev} (actions : after.actions = before.actions) :
    usage after = usage before := by
  unfold usage
  rw [actions]

theorem initLate_usage : usage (pciPmInitLate dev) = usage dev - 1 := by
  have body : usage (pciPmInitLate dev) = usage ((((((dev.act (.mhccifMaskClr (D2H_INT_DS_LOCK_ACK |||
    D2H_INT_SUSPEND_ACK ||| D2H_INT_RESUME_ACK ||| D2H_INT_SUSPEND_ACK_AP ||| D2H_INT_RESUME_ACK_AP))).act
    (.aspmLowpwr true)).setPmState .resumed).act .runtimeMarkLastBusy).act .runtimeAllow).act
    .runtimePutNoidle) := rfl
  rw [body]
  simp only [usage_act, usage_setPmState, usageDelta]
  omega

theorem expDetected_usage : usage (pciPmExpDetected dev) = usage dev := by
  simp only [pciPmExpDetected, usage_act, usage_setPmState, usageDelta]
  omega

theorem entityFold_usage (wanted : PmEntity → Bool) (callback : PmCallback) (entities : List PmEntity) :
    usage (entities.foldl (fun dev entity =>
      if wanted entity then dev.act (.entityCall callback entity.id) else dev) dev) = usage dev := by
  induction entities generalizing dev with
  | nil => rfl
  | cons entity rest ih =>
    rw [List.foldl_cons, ih]
    split
    · rw [usage_act]
      exact Int.add_zero _
    · rfl

theorem suspendEntities_usage (answer : PmId → Int) (entities : List PmEntity) :
    usage (Pci.suspendEntities answer entities dev).1 = usage dev := by
  induction entities generalizing dev with
  | nil => rfl
  | cons entity rest ih =>
    unfold Pci.suspendEntities
    dsimp only
    have called : usage (dev.act (.entityCall .suspend entity.id)) = usage dev := by
      rw [usage_act]
      exact Int.add_zero _
    split_ifs
    · exact ih dev
    · exact called
    · exact (ih _).trans called

theorem abortSuspend_usage (failed : PmId) : usage (abortSuspend failed dev) = usage dev := by
  unfold abortSuspend
  simp only [usage_act, usage_setPmState, usageDelta, entityFold_usage _ (·.resume)]
  omega

theorem suspendRequests_usage (answers : SuspendAnswers) :
    usage (Pci.suspendRequests answers dev).1 = usage dev := by
  have late : ∀ entities before, usage (suspendLateEntities entities before) = usage before :=
    fun entities before => entityFold_usage before (·.suspendLate) .suspendLate entities
  unfold Pci.suspendRequests sendPmRequest
  dsimp only
  generalize (if answers.suspendAck = true then (0 : Int) else -ETIMEDOUT) = ret
  by_cases failed : ret ≠ 0
  · rw [if_pos failed, abortSuspend_usage, usage_act]
    exact Int.add_zero _
  · rw [if_neg failed]
    simp only [usage_act, late, usageDelta, Int.add_zero]

theorem pcieReinit_usage (answers : ResumeAnswers) (isD3 : Bool) :
    usage (pcieReinit answers isD3 dev).1 =
      usage dev + if isD3 = true ∧ answers.enableDevice = 0 then 1 else 0 := by
  unfold pcieReinit pciPmReinit
  dsimp only
  by_cases failed : answers.enableDevice ≠ 0
  · rw [if_pos failed, if_neg fun both => failed both.2, usage_act]
    rfl
  · rw [if_neg failed]
    cases isD3 with
    | true =>
      rw [if_pos rfl, if_pos ⟨rfl, not_not.mp failed⟩]
      simp only [usage_act, usage_setPmState, usageDelta]
      omega
    | false =>
      rw [if_neg Bool.false_ne_true, if_neg fun both => absurd both.1 Bool.false_ne_true]
      simp only [usage_act, usageDelta, Int.add_zero]

theorem resumeException_usage (answers : ResumeAnswers) :
    usage (resumeException answers dev).1 = usage dev := by
  unfold resumeException
  dsimp only
  split_ifs <;>
    simp only [usage_act, usage_setPmState, usage_setRgu, usageDelta, pcieReinit_usage,
      Bool.false_eq_true, false_and, if_false] <;> omega

theorem resumeEntities_usage (answer : PmId → Int) (entities : List PmEntity) (ret : Int) :
    usage (resumeEntities answer entities (dev, ret)).1 = usage dev := by
  induction entities generalizing dev ret with
  | nil => rfl
  | cons entity rest ih =>
    unfold resumeEntities
    split
    · rw [ih, usage_act]
      exact Int.add_zero _
    · exact ih dev ret

theorem resumeTail_usage (answers : ResumeAnswers) : usage (resumeTail answers dev).1 = usage dev := by
  unfold resumeTail
  simp only [usage_act, usage_setPmState, usage_setRgu, usage_setReprobeCount, usageDelta,
    resumeEntities_usage]
  omega

end PciUsage

section FsmUsage

variable {run run' : FsmRun} {m : Modem} {label : FsmLabel}

theorem mdReset_dev (m : Modem) : (mdReset m).1.dev = m.dev := by
  unfold mdReset coreReset
  dsimp only
  split <;> rfl

theorem fsmStoppedHandler_dev (m : Modem) : (fsmStoppedHandler m).1.dev = m.dev := by
  unfold fsmStoppedHandler
  dsimp only
  split
  · rfl
  · exact mdReset_dev _

theorem mhccifIsrThread_dev (m : Modem) : (mhccifIsrThread m).dev = m.dev := by
  unfold mhccifIsrThread pciMhccifIsr queueHandshakeWork
  dsimp only
  split_ifs <;> rfl

theorem startHandshakeWork_dev (core : Core) (m : Modem) : (startHandshakeWork core m).dev = m.dev := by
  unfold startHandshakeWork queueHandshakeWork
  dsimp only
  split
  · cases core <;> rfl
  · rfl

theorem mdEventStart_dev (m : Modem) : (mdEventStart m).dev = m.dev := by
  unfold mdEventStart
  dsimp only
  split_ifs
  · rfl
  · rfl
  · exact (startHandshakeWork_dev .ap _).trans (startHandshakeWork_dev .md _)

theorem fsmDequeue_usage {thread : FsmThread} (taken : fsmDequeue run.m = some (m, thread)) :
    usage m.dev = usage run.m.dev := by
  unfold fsmDequeue at taken
  split at taken
  · cases taken
  rename_i cmd rest queue
  dsimp only at taken
  cases kind : cmd.cmdId with
  | start =>
    rw [kind] at taken
    obtain rfl := congrArg Prod.fst (Option.some.inj taken)
    unfold fsmRoutineStart
    split <;> rfl
  | exception =>
    rw [kind] at taken
    obtain rfl := congrArg Prod.fst (Option.some.inj taken)
    unfold fsmRoutineException
    dsimp only
    split_ifs
    · rfl
    · exact expDetected_usage _
    · rfl
  | preStop =>
    rw [kind] at taken
    obtain rfl := congrArg Prod.fst (Option.some.inj taken)
    unfold fsmRoutineStopping
    split <;> rfl
  | stop =>
    rw [kind] at taken
    obtain rfl := congrArg Prod.fst (Option.some.inj taken)
    unfold fsmRoutineStopped
    split
    · rfl
    · exact congrArg usage (fsmStoppedHandler_dev _)
  | invalid =>
    rw [kind] at taken
    obtain rfl := congrArg Prod.fst (Option.some.inj taken)
    rfl

theorem fsmFinishStart_actions (cmd : FsmCommand) (ret : Int) (m : Modem) :
    (fsmFinishStart cmd ret m).dev.actions = m.dev.actions := by
  unfold fsmFinishStart fsmFinishCommand
  dsimp only
  split <;> rfl

theorem fsmDevStage_actions (cmd : FsmCommand) (timedOut : Bool) (status : BitVec 32) (m : Modem) :
    (fsmDevStage cmd timedOut status m).1.dev.actions = m.dev.actions := by
  unfold fsmDevStage
  dsimp only
  split_ifs
  all_goals try exact fsmFinishStart_actions _ _ _
  · refine (fsmFinishStart_actions _ _ _).trans ?_
    unfold lkStageEventHandling
    split_ifs <;> rfl
  · rfl

theorem fsmStartingResult_usage (m : Modem) : usage (fsmStartingResult m).1.dev =
    usage m.dev - if m.coreMd.ready = true ∧ m.coreAp.ready = true then 1 else 0 := by
  have timeout : ∀ core, (fsmHandshakeTimeout core m).dev = m.dev := by
    intro core
    unfold fsmHandshakeTimeout
    dsimp only
    split_ifs <;> rfl
  unfold fsmStartingResult
  by_cases md : m.coreMd.ready = false
  · rw [if_pos md, if_neg (by simp [md]), timeout]
    omega
  · by_cases ap : m.coreAp.ready = false
    · rw [if_neg md, if_pos ap, if_neg (by simp [ap]), timeout]
      omega
    · rw [if_neg md, if_neg ap, if_pos (by simpa using And.intro md ap)]
      refine Eq.trans (usage_same ?_) (initLate_usage m.dev)
      unfold fsmRoutineReady fsmBroadcastReadyState
      dsimp only
      split <;> rfl

theorem fsmPollEvent_dev (expected ignored : FsmEventId) (m : Modem) :
    (fsmPollEvent expected ignored m).1.dev = m.dev := by
  unfold fsmPollEvent
  split
  · rfl
  · split_ifs <;> rfl

theorem workStep_dev (taken : run.workStep label = some run') : run'.m.dev = run.m.dev := by
  unfold FsmRun.workStep at taken
  split at taken
  · rename_i core
    split at taken
    · cases taken
      rw [setWork_m]
      cases core <;> rfl
    · cases taken
  · split at taken
    · obtain ⟨found, _, rfl⟩ := Option.map_eq_some_iff.mp taken
      rw [setWork_m]
    · cases taken
  · rename_i core parsed
    split at taken
    · cases taken
      split
      · cases core <;> rfl
      · rw [setWork_m]
    · cases taken
  · cases taken

theorem threadStep_usage (other : label ≠ .handshakeWake) (taken : run.threadStep label = some run') :
    usage run'.m.dev = usage run.m.dev := by
  cases label with
  | handshakeWake => exact absurd rfl other
  | dequeue =>
    dsimp only [FsmRun.threadStep] at taken
    split at taken
    · obtain ⟨⟨m, thread⟩, dequeued, rfl⟩ := Option.map_eq_some_iff.mp taken
      exact fsmDequeue_usage dequeued
    · cases taken
  | devStage timedOut status =>
    dsimp only [FsmRun.threadStep] at taken
    split at taken
    · cases taken
      exact usage_same (fsmDevStage_actions _ _ _ _)
    · cases taken
  | broadcastHs1 =>
    dsimp only [FsmRun.threadStep] at taken
    split at taken
    · cases taken
      rfl
    · cases taken
  | notifyStart =>
    dsimp only [FsmRun.threadStep] at taken
    split at taken
    · cases taken
      exact congrArg usage (mdEventStart_dev _)
    · cases taken
  | pollEvent =>
    dsimp only [FsmRun.threadStep] at taken
    split at taken
    · cases taken
      exact congrArg usage (fsmPollEvent_dev _ _ _)
    · split at taken
      · cases taken
        exact congrArg usage (fsmPollEvent_dev .mdExPass .invalid run.m)
      · cases taken
        exact congrArg usage (fsmPollEvent_dev _ _ _)
    · cases taken
  | pollGivesUp =>
    dsimp only [FsmRun.threadStep] at taken
    split at taken
    · cases taken
      rfl
    · cases taken
      rfl
    · cases taken
  | stopDelayOver =>
    dsimp only [FsmRun.threadStep] at taken
    split at taken
    · cases taken
      exact congrArg usage (fsmStoppedHandler_dev run.m)
    · cases taken
  | _ => cases taken

theorem handshakeWake_usage (taken : run.threadStep .handshakeWake = some run') :
    usage run'.m.dev = usage run.m.dev - if run.EndsReady .handshakeWake then 1 else 0 := by
  dsimp only [FsmRun.threadStep] at taken
  split at taken
  · rename_i cmd status waits
    cases taken
    have ends : run.EndsReady .handshakeWake ↔ run.m.coreMd.ready = true ∧ run.m.coreAp.ready = true := by
      unfold FsmRun.EndsReady
      rw [waits]
      exact ⟨fun both => both.2.2, fun both => ⟨rfl, rfl, both⟩⟩
    rw [if_congr ends rfl rfl]
    exact (usage_same (fsmFinishStart_actions _ _ _)).trans (fsmStartingResult_usage run.m)
  · cases taken

theorem fsmStep_usage (taken : run.step label = some run') :
    usage run'.m.dev = usage run.m.dev - if run.EndsReady label then 1 else 0 := by
  have others (other : label ≠ .handshakeWake) (same : usage run'.m.dev = usage run.m.dev) :
      usage run'.m.dev = usage run.m.dev - if run.EndsReady label then 1 else 0 := by
    rw [if_neg fun ends => other ends.1, same]
    exact (Int.sub_zero _).symm
  have works (other : label ≠ .handshakeWake) (work : run.workStep label = some run') :=
    others other (congrArg usage (workStep_dev work))
  have threads (other : label ≠ .handshakeWake) (thread : run.threadStep label = some run') :=
    others other (threadStep_usage other thread)
  cases label with
  | handshakeWake => exact handshakeWake_usage taken
  | appendCmd cmdId flag =>
    cases taken
    exact others nofun rfl
  | appendEvent event =>
    cases taken
    exact others nofun rfl
  | modeUpdate mode =>
    cases taken
    exact others nofun rfl
  | deviceInt bits =>
    cases taken
    exact others nofun rfl
  | mhccifIsr =>
    cases taken
    exact others nofun (congrArg usage (mhccifIsrThread_dev run.m))
  | workStart core => exact works nofun taken
  | workEvent core => exact works nofun taken
  | workFinish core parsed => exact works nofun taken
  | _ => exact threads nofun taken

end FsmUsage

section PmUsage

variable {s t : PmRun} {label : PmLabel}

/-- The PM callbacks take a reference where they reinitialise and drop one where they give up a
    device in download mode. -/
def PmRun.usageChange (s : PmRun) : PmLabel → Int
  | .fsm label => if s.run.EndsReady label then -1 else 0
  | .sendStop _ => if s.pm.reprobes = true ∧ s.run.m.dev.mode = .fastbootDownload then -1 else 0
  | .reprobe _ => if s.pm.reinits = true then 1 else 0
  | .pmReinit => 1
  | _ => 0

theorem suspendStep_usage (s : PmRun) : usage s.suspendStep.run.m.dev = usage s.run.m.dev := by
  unfold PmRun.suspendStep
  dsimp only
  split
  · rfl
  · refine (suspendEntities_usage _ _ _).trans ?_
    simp only [suspendEntry, usage_act, usage_setPmState, usage_setRgu, usageDelta, Int.add_zero]

theorem resumeStep_usage (answers : ResumeAnswers) (stateCheck : Bool) (s : PmRun) :
    usage (s.resumeStep answers stateCheck).run.m.dev = usage s.run.m.dev := by
  have enabled : usage (s.run.m.dev.act .macInterruptsEn) = usage s.run.m.dev := by
    rw [usage_act]
    exact Int.add_zero _
  have reinit : ∀ reinit : Bool, usage (if reinit then
      pcieReinit answers false (s.run.m.dev.act .macInterruptsEn)
      else (s.run.m.dev.act .macInterruptsEn, 0)).1 = usage s.run.m.dev := by
    intro reinit
    split
    · rw [pcieReinit_usage, enabled, if_neg fun both => absurd both.1 Bool.false_ne_true]
      exact Int.add_zero _
    · exact enabled
  unfold PmRun.resumeStep
  dsimp only
  split
  · exact (usage_act _ _).trans (Int.add_zero _)
  · exact enabled
  · exact (resumeException_usage _ _).trans enabled
  · exact enabled
  · rename_i reinits _
    have before := reinit reinits
    revert before
    generalize (if reinits = true then pcieReinit answers false (s.run.m.dev.act .macInterruptsEn)
      else (s.run.m.dev.act .macInterruptsEn, 0)) = result
    intro before
    split
    · exact before
    · refine Eq.trans ?_ before
      show usage ((result.1.act (.aspmLowpwr false)).act .waitPmConfig) = _
      simp only [usage_act, usageDelta, Int.add_zero]

theorem earlyStep_usage (answers : ResumeAnswers) (entity : PmEntity) (rest : List PmEntity) (s : PmRun) :
    usage (s.earlyStep answers entity rest).run.m.dev = usage s.run.m.dev := by
  unfold PmRun.earlyStep PmRun.setDev
  dsimp only
  split
  · exact (usage_act _ _).trans (Int.add_zero _)
  · rfl

theorem requestsStep_usage (answers : ResumeAnswers) (s : PmRun) :
    usage (s.requestsStep answers).run.m.dev = usage s.run.m.dev := by
  unfold PmRun.requestsStep sendPmRequest PmRun.setDev
  dsimp only
  split_ifs <;>
    simp only [resumeTail_usage, usage_act, usage_setReprobeCount, usageDelta, Int.add_zero]

theorem sendStopStep_usage (answers : ResumeAnswers) (reason : StopReason) (allocated : Bool) (s : PmRun) :
    usage (s.sendStopStep answers reason allocated).run.m.dev = usage s.run.m.dev +
      if reason = .reprobe ∧ s.run.m.dev.mode = .fastbootDownload then -1 else 0 := by
  have dev : usage (s.sendStopStep answers reason allocated).run.m.dev =
      usage ((if reason = .reprobe ∧ s.run.m.dev.mode = .fastbootDownload then
        (if reason = .reprobe then s.run.m.dev.act .reprobeEarly else s.run.m.dev).act .runtimePutNoidle
        else if reason = .reprobe then s.run.m.dev.act .reprobeEarly else s.run.m.dev).act
          (.fsmCommand .stop)) := by
    unfold PmRun.sendStopStep PmRun.setDev
    dsimp only
    cases reason <;> split <;> rfl
  rw [dev]
  split_ifs <;> simp only [usage_act, usageDelta, Int.add_zero]

theorem stopWaitStep_usage (answers : ResumeAnswers) (reason : StopReason) (fate : StopFate) (s : PmRun) :
    usage (s.stopWaitStep answers reason fate).run.m.dev = usage s.run.m.dev := by
  unfold PmRun.stopWaitStep PmRun.finish PmRun.setDev
  split
  · rfl
  · split
    · rfl
    · exact (usage_act _ _).trans (Int.add_zero _)

theorem reprobeStep_usage (answers : ResumeAnswers) (allocated : Bool) (s : PmRun) :
    usage (s.reprobeStep answers allocated).run.m.dev =
      usage s.run.m.dev + if answers.enableDevice = 0 then 1 else 0 := by
  have reinit : usage (pcieReinit answers true (s.run.m.dev.act (.reprobe true))).1 =
      usage s.run.m.dev + if answers.enableDevice = 0 then 1 else 0 := by
    rw [pcieReinit_usage, usage_act, if_congr (and_iff_right rfl) rfl rfl]
    exact congrArg (· + _) (Int.add_zero _)
  have started : ∀ dev, usage (((((dev.act .clearRguIrq).act (.macClearInt .sapRgu)).act
      (.macClearIntStatus .sapRgu)).setRgu true |>.act (.macSetInt .sapRgu)).act (.fsmCommand .start)) =
      usage dev := by
    intro dev
    simp only [usage_act, usage_setRgu, usageDelta, Int.add_zero]
  rw [← reinit]
  unfold PmRun.reprobeStep
  generalize pcieReinit answers true (s.run.m.dev.act (.reprobe true)) = result
  dsimp only
  split_ifs
  · rfl
  · exact started result.1
  · exact started result.1

theorem pmStep_usage (taken : s.step label = some t) :
    usage t.run.m.dev = usage s.run.m.dev + s.usageChange label := by
  unfold PmRun.step at taken
  split at taken
  · rename_i inner
    obtain ⟨run, stepped, rfl⟩ := Option.map_eq_some_iff.mp taken
    rw [fsmStep_usage stepped]
    unfold PmRun.usageChange
    dsimp only
    split <;> omega
  · cases taken
    unfold PmRun.setDev pciPmReinit
    simp only [usage_act, usage_setPmState, usageDelta, Int.add_zero]
    rfl
  · cases taken
    exact (suspendStep_usage s).trans (Int.add_zero _).symm
  · cases taken
    exact (suspendRequests_usage _ _).trans (Int.add_zero _).symm
  · cases taken
    exact (resumeStep_usage _ _ s).trans (Int.add_zero _).symm
  · cases taken
    exact (earlyStep_usage _ _ _ s).trans (Int.add_zero _).symm
  · cases taken
    exact (requestsStep_usage _ s).trans (Int.add_zero _).symm
  · rename_i answers reason pc
    cases taken
    rw [sendStopStep_usage]
    unfold PmRun.usageChange
    dsimp only
    rw [pc]
    cases reason with
    | reprobe => exact congrArg (_ + ·) (if_congr (and_congr_left' (iff_of_true rfl rfl)) rfl rfl)
    | unknownState => rw [if_neg (fun both => nomatch both.1), if_neg (fun both => nomatch both.1)]
  · cases taken
    exact (Int.add_zero _).symm
  · cases taken
    exact (stopWaitStep_usage _ _ _ s).trans (Int.add_zero _).symm
  · rename_i answers pc
    cases taken
    rw [reprobeStep_usage]
    unfold PmRun.usageChange
    dsimp only
    rw [pc]
    exact congrArg (_ + ·) (if_congr decide_eq_true_iff.symm rfl rfl)
  · cases taken

end PmUsage

section Balance

variable {s t : UsageRun} {label : UsageLabel}

def ReferenceUse.change : Option ReferenceUse → Int
  | none => 0
  | some .pmReinit => 1
  | some _ => -1

theorem pmReference_change (s : UsageRun) (label : PmLabel) (other : label ≠ .pmReinit) :
    s.pm.usageChange label = ReferenceUse.change (s.reference (.pm label)) := by
  cases label with
  | pmReinit => exact absurd rfl other
  | fsm label =>
    show (if _ then _ else _) = ReferenceUse.change (if s.pm.run.EndsReady label then _ else _)
    split <;> rfl
  | sendStop allocated =>
    show (if _ then _ else _) = ReferenceUse.change (if _ then _ else _)
    split <;> rfl
  | reprobe allocated =>
    show (if _ then _ else _) = ReferenceUse.change (if _ then _ else _)
    split <;> rfl
  | _ => rfl

theorem resetEarlyStep_usage (type : ResetType) (allocated : Bool) (s : UsageRun) :
    usage (s.resetEarlyStep type allocated).pm.run.m.dev = usage s.pm.run.m.dev +
      ReferenceUse.change (s.reference (.resetEarly type allocated)) := by
  have dev : usage (s.resetEarlyStep type allocated).pm.run.m.dev =
      usage ((if s.pm.run.m.dev.mode = .fastbootDownload then
        (s.pm.run.m.dev.act .reprobeEarly).act .runtimePutNoidle
        else s.pm.run.m.dev.act .reprobeEarly).act (.fsmCommand .stop)) := by
    unfold UsageRun.resetEarlyStep PmRun.setDev
    dsimp only
    split <;> rfl
  rw [dev]
  unfold UsageRun.reference
  dsimp only
  split_ifs <;> simp only [usage_act, usageDelta, ReferenceUse.change, Int.add_zero]

/-- What a step does to the usage count is what its reference use says. -/
theorem move_usage (taken : s.move label = some t) :
    usage t.pm.run.m.dev = usage s.pm.run.m.dev + ReferenceUse.change (s.reference label) ∧
      t.lates = s.lates ∧ t.held = s.held ∧ t.alternating = s.alternating := by
  unfold UsageRun.move at taken
  split at taken
  · cases taken
  · rename_i _ inner other
    obtain ⟨pm, stepped, rfl⟩ := Option.map_eq_some_iff.mp taken
    refine ⟨?_, rfl, rfl, rfl⟩
    rw [← pmReference_change s inner other]
    exact pmStep_usage stepped
  · cases taken
    refine ⟨resetEarlyStep_usage _ _ s, ?_⟩
    unfold UsageRun.resetEarlyStep
    dsimp only
    split <;> exact ⟨rfl, rfl, rfl⟩
  · cases taken
    exact ⟨(Int.add_zero _).symm, rfl, rfl, rfl⟩
  · cases taken
    exact ⟨(Int.add_zero _).symm, rfl, rfl, rfl⟩
  · cases taken
    exact ⟨(Int.add_zero _).symm, rfl, rfl, rfl⟩
  · rename_i answers allocated _
    cases taken
    refine ⟨(reprobeStep_usage answers allocated s.pm).trans ?_, rfl, rfl, rfl⟩
    show _ = _ + ReferenceUse.change (if answers.enableDevice = 0 then _ else _)
    split <;> rfl
  · cases taken

/-- As long as takes and drops alternate the count is 1 or 0, as the reference is held or not. -/
structure UsageBalanced (s : UsageRun) : Prop where
  zero : ZeroAfterInitLate s
  count : s.alternating = true → usage s.pm.run.m.dev = if s.held = true then 1 else 0

theorem usageBalanced_probed (dev : PciDev) : UsageBalanced (UsageRun.probed dev) :=
  ⟨fun _ member => absurd member List.not_mem_nil, fun _ => rfl⟩

theorem account_balanced {use : Option ReferenceUse} (balanced : UsageBalanced s)
    (after : usage t.pm.run.m.dev = usage s.pm.run.m.dev + ReferenceUse.change use)
    (ghosts : t.lates = s.lates ∧ t.held = s.held ∧ t.alternating = s.alternating)
    (ready : use = some .bootReady → s.held = true ∧ s.alternating = true) :
    UsageBalanced (t.account use) := by
  obtain ⟨lates, held, alternating⟩ := ghosts
  have zero : ZeroAfterInitLate t := by
    unfold ZeroAfterInitLate
    rw [lates]
    exact balanced.zero
  have count : t.alternating = true → usage s.pm.run.m.dev = if t.held = true then 1 else 0 := by
    rw [held, alternating]
    exact balanced.count
  cases use with
  | none => exact ⟨zero, fun still => (after.trans (Int.add_zero _)).trans (count still)⟩
  | some use =>
    cases use with
    | pmReinit =>
      refine ⟨zero, fun still => ?_⟩
      obtain ⟨before, free⟩ := Bool.and_eq_true_iff.mp still
      have dropped := count before
      rw [if_neg (by simpa using free)] at dropped
      show usage t.pm.run.m.dev = 1
      rw [after, dropped]
      rfl
    | downloadReprobe =>
      refine ⟨zero, fun still => ?_⟩
      obtain ⟨before, holds⟩ := Bool.and_eq_true_iff.mp still
      have taken := count before
      rw [if_pos holds] at taken
      show usage t.pm.run.m.dev = 0
      rw [after, taken]
      rfl
    | bootReady =>
      have taken := count (alternating.trans (ready rfl).2)
      rw [if_pos (held.trans (ready rfl).1)] at taken
      have dropped : usage t.pm.run.m.dev = 0 := by
        rw [after, taken]
        rfl
      refine ⟨fun late member => ?_, fun _ => dropped⟩
      rcases List.mem_append.mp member with earlier | now
      · exact zero late earlier
      · exact (List.mem_singleton.mp now).trans dropped

theorem usageBalanced_step (s : UsageRun) (label : UsageLabel) (t : UsageRun)
    (balanced : UsageBalanced s) (alternates : AlternatesUntilReady s label)
    (taken : s.step label = some t) : UsageBalanced t := by
  unfold UsageRun.step at taken
  obtain ⟨middle, moved, rfl⟩ := Option.map_eq_some_iff.mp taken
  obtain ⟨after, ghosts⟩ := move_usage moved
  exact account_balanced balanced after ghosts alternates

/-- The driver's usage is 0 after each boot that ends ready, if up to each of them its references were
    taken and dropped in turn. -/
theorem usage_zero_after_init_late (dev : PciDev) (labels : List UsageLabel)
    (alternates : Obeys AlternatesUntilReady UsageRun.step (UsageRun.probed dev) labels) :
    Visits ZeroAfterInitLate UsageRun.step (UsageRun.probed dev) labels :=
  Visits.of_invariant UsageBalanced (fun _ balanced => balanced.zero) usageBalanced_step
    (usageBalanced_probed dev) alternates

end Balance

section Boots

def bootReady : List UsageLabel := firstBoot.map fun label => .pm (.fsm label)

def bootLk (event : BitVec 32) : List UsageLabel :=
  [.pm (.fsm .dequeue), .pm (.fsm (.devStage false (T7XX_DEV_STAGE_LK ||| event <<< 8)))]

def resetOnce : List UsageLabel :=
  [.resetEarly .pldr true, .pm (.fsm .dequeue), .resetStopOver, .resetMode, .resetFunction 0,
    .resetReprobe ⟨0, 0, true, true, fun _ => 0, 0, fun _ => 0⟩ true]

set_option maxRecDepth 2000 in
theorem usage_zero_after_download :
    Obeys AlternatesUntilReady UsageRun.step (UsageRun.probed probedDev)
        (bootLk LK_EVENT_CREATE_POST_DL_PORT ++ resetOnce ++ bootReady) ∧
      Visits ZeroAfterInitLate UsageRun.step (UsageRun.probed probedDev)
        (bootLk LK_EVENT_CREATE_POST_DL_PORT ++ resetOnce ++ bootReady) :=
  have alternates : Obeys AlternatesUntilReady UsageRun.step (UsageRun.probed probedDev)
      (bootLk LK_EVENT_CREATE_POST_DL_PORT ++ resetOnce ++ bootReady) := by decide
  ⟨alternates, usage_zero_after_init_late probedDev _ alternates⟩

/-- A reset from the dump mode keeps the reference of the probe and takes another one. -/
theorem usage_kept_from_dump :
    ¬ Visits ZeroAfterInitLate UsageRun.step (UsageRun.probed probedDev)
      (bootLk LK_EVENT_CREATE_PD_PORT ++ resetOnce ++ bootReady) := by
  decide

end Boots

end T7xxModel.Fsm
