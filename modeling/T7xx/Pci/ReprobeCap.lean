import T7xx.Pci.ResumeRuns
import T7xx.Transition.Runs

namespace T7xxModel.Pci

open Transition

def startsTimeoutReprobe (actions : List Action) : Prop :=
  Action.reprobeEarly ∈ actions ∧
    (Action.pmRequest .resumeReq false ∈ actions ∨ Action.pmRequest .resumeReqAp false ∈ actions)

def bothAcked (actions : List Action) : Prop :=
  Action.pmRequest .resumeReq true ∈ actions ∧ Action.pmRequest .resumeReqAp true ∈ actions

instance (actions : List Action) : Decidable (startsTimeoutReprobe actions) := by
  unfold startsTimeoutReprobe
  infer_instance

instance (actions : List Action) : Decidable (bothAcked actions) := by
  unfold bothAcked
  infer_instance

/-- The device and the timeout reprobes since both resume requests were last acknowledged. -/
structure ResumeRun where
  dev : PciDev
  timeoutReprobes : Nat

inductive PmEvent where
  | resume (answers : ResumeAnswers) (stateCheck : Bool)
  | suspend (answers : SuspendAnswers)
  | initLate
  | expDetected

def ResumeRun.start (dev : PciDev) : ResumeRun :=
  { dev := dev.setReprobeCount 0, timeoutReprobes := 0 }

def ResumeRun.step (run : ResumeRun) : PmEvent → Option ResumeRun
  | .resume answers stateCheck =>
    let dev := (pciPmResume answers stateCheck { run.dev with actions := [] }).1
    some {
      dev
      timeoutReprobes :=
        if bothAcked dev.actions then 0
        else if startsTimeoutReprobe dev.actions then run.timeoutReprobes + 1
        else run.timeoutReprobes }
  | .suspend answers => some { run with dev := (pciPmSuspend answers run.dev).1 }
  | .initLate => some { run with dev := pciPmInitLate run.dev }
  | .expDetected => some { run with dev := pciPmExpDetected run.dev }

def ReprobesCapped (run : ResumeRun) : Prop := run.timeoutReprobes ≤ maxResumeReprobeAttempts

instance : DecidablePred ReprobesCapped :=
  fun run => inferInstanceAs (Decidable (run.timeoutReprobes ≤ maxResumeReprobeAttempts))

/-- A SAP timeout sends the resume on to its success tail only while nothing has been counted. -/
def tailAfterSapTimeoutUncounted (run : ResumeRun) : PmEvent → Prop
  | .resume answers stateCheck =>
    reachesHandshake answers stateCheck run.dev → answers.resumeAck = true → answers.resumeAckAp = false →
      (answers.resumeState ≠ PM_RESUME_REG_STATE_INIT ∨
        run.dev.resumeReprobeCount ≥ maxResumeReprobeAttempts) →
      run.dev.resumeReprobeCount = 0
  | _ => True

instance (run : ResumeRun) (event : PmEvent) : Decidable (tailAfterSapTimeoutUncounted run event) := by
  cases event <;> unfold tailAfterSapTimeoutUncounted <;> infer_instance

theorem suspendEntities_count (answer : PmId → Int) (entities : List PmEntity) (dev : PciDev) :
    (suspendEntities answer entities dev).1.resumeReprobeCount = dev.resumeReprobeCount := by
  induction entities generalizing dev with
  | nil => rfl
  | cons entity rest ih =>
    simp only [suspendEntities]
    split_ifs
    · exact ih dev
    · rfl
    · exact ih _

theorem entityFold_count (wanted : PmEntity → Bool) (callback : PmCallback)
    (entities : List PmEntity) (dev : PciDev) :
    (entities.foldl (fun dev entity =>
      if wanted entity then dev.act (.entityCall callback entity.id) else dev) dev).resumeReprobeCount =
      dev.resumeReprobeCount :=
  (entityFold_quiet wanted callback entities dev).count

theorem abortSuspend_count (failed : PmId) (dev : PciDev) :
    (abortSuspend failed dev).resumeReprobeCount = dev.resumeReprobeCount :=
  entityFold_count (·.resume) .resume (dev.mdPmEntities.takeWhile (fun entity => entity.id ≠ failed)) dev

theorem suspendRequests_count (answers : SuspendAnswers) (dev : PciDev) :
    (suspendRequests answers dev).1.resumeReprobeCount = dev.resumeReprobeCount := by
  cases acked : answers.suspendAck with
  | false => simp [suspendRequests, sendPmRequest, acked, ETIMEDOUT, abortSuspend_count]
  | true =>
    have late := entityFold_count (·.suspendLate) .suspendLate
    simp [suspendRequests, sendPmRequest, acked, suspendLateEntities, late]

theorem pciPmSuspend_count (answers : SuspendAnswers) (dev : PciDev) :
    (pciPmSuspend answers dev).1.resumeReprobeCount = dev.resumeReprobeCount := by
  unfold pciPmSuspend
  split
  · rfl
  · dsimp only
    split
    · rw [abortSuspend_count]
      exact suspendEntities_count answers.entitySuspend _ _
    · rw [suspendRequests_count]
      exact suspendEntities_count answers.entitySuspend _ _

/-- What a resume does to the count of timeout reprobes, given what its handshake leaves. -/
theorem handshakeVerdict_counts (answers : ResumeAnswers) {before after : PciDev}
    (fresh : before.actions = [])
    (leaves : Leaves (handshakeVerdict answers before.resumeReprobeCount).1
      (handshakeVerdict answers before.resumeReprobeCount).2 before after) :
    (bothAcked after.actions ↔ answers.resumeAck = true ∧ answers.resumeAckAp = true) ∧
      (startsTimeoutReprobe after.actions ↔
        after.resumeReprobeCount = before.resumeReprobeCount + 1) := by
  have requests : ∀ channel acked, Action.pmRequest channel acked ∈ after.actions ↔
      Action.pmRequest channel acked ∈ (handshakeVerdict answers before.resumeReprobeCount).2 := by
    intro channel acked
    simpa [fresh] using leaves.actions (.pmRequest channel acked) rfl
  have reprobe : Action.reprobeEarly ∈ after.actions ↔
      Action.reprobeEarly ∈ (handshakeVerdict answers before.resumeReprobeCount).2 := by
    simpa [fresh] using leaves.actions .reprobeEarly rfl
  unfold bothAcked startsTimeoutReprobe
  simp only [requests, reprobe, leaves.count, handshakeVerdict]
  split_ifs with silent capped silentAp rebooted
  all_goals simp_all

def ReprobesCounted (run : ResumeRun) : Prop :=
  run.timeoutReprobes = run.dev.resumeReprobeCount ∧
    run.dev.resumeReprobeCount ≤ maxResumeReprobeAttempts

theorem handshake_keeps_count (answers : ResumeAnswers) (stateCheck : Bool) {run next : ResumeRun}
    (counted : ReprobesCounted run)
    (uncounted : tailAfterSapTimeoutUncounted run (.resume answers stateCheck))
    (reached : reachesHandshake answers stateCheck run.dev)
    (taken : run.step (.resume answers stateCheck) = some next) : ReprobesCounted next := by
  have leaves := pciPmResume_handshake answers stateCheck { run.dev with actions := [] } reached
  obtain ⟨acked, started⟩ := handshakeVerdict_counts answers rfl leaves
  have count := leaves.count
  have quietTail := uncounted reached
  obtain ⟨same, capped⟩ := counted
  simp only [ResumeRun.step, Option.some.injEq] at taken
  subst taken
  simp only [ReprobesCounted, acked, started]
  generalize (pciPmResume answers stateCheck { run.dev with actions := [] }).1 = after at count ⊢
  dsimp only at count
  cases md : answers.resumeAck with
  | false =>
    simp only [handshakeVerdict, md, if_true] at count
    split at count
    · simp only [count, Bool.false_eq_true, false_and, if_false]
      rw [if_neg (by omega)]
      exact ⟨same, capped⟩
    · simp only [count, Bool.false_eq_true, false_and, if_false, if_true]
      omega
  | true =>
    cases sap : answers.resumeAckAp with
    | true => simp [handshakeVerdict, md, sap] at count ⊢; omega
    | false =>
      simp only [handshakeVerdict, md, sap, Bool.true_eq_false, if_false, if_true] at count
      split at count
      · simp only [count, Bool.false_eq_true, and_false, if_false, if_true]
        omega
      · rename_i tail
        have zero : run.dev.resumeReprobeCount = 0 := by
          apply quietTail md sap
          by_cases init : answers.resumeState = PM_RESUME_REG_STATE_INIT
          · exact .inr (Nat.le_of_not_lt fun below => tail ⟨init, below⟩)
          · exact .inl init
        simp only [count, Bool.false_eq_true, and_false, if_false]
        rw [if_neg (by omega)]
        omega

theorem step_keeps_count (run : ResumeRun) (event : PmEvent) (next : ResumeRun)
    (counted : ReprobesCounted run) (uncounted : tailAfterSapTimeoutUncounted run event)
    (taken : run.step event = some next) : ReprobesCounted next := by
  cases event with
  | resume answers stateCheck =>
    by_cases reached : reachesHandshake answers stateCheck run.dev
    · exact handshake_keeps_count answers stateCheck counted uncounted reached taken
    · obtain ⟨added, silent, leaves⟩ :=
        pciPmResume_no_handshake answers stateCheck { run.dev with actions := [] } reached
      have count := leaves.count
      have requests : ∀ channel acked, Action.pmRequest channel acked ∉
          (pciPmResume answers stateCheck { run.dev with actions := [] }).1.actions := by
        intro channel acked member
        have known := (leaves.actions _ rfl).mp member
        simp [silent] at known
      simp only [ResumeRun.step, Option.some.injEq] at taken
      subst taken
      simp only [ReprobesCounted, bothAcked, startsTimeoutReprobe, requests, or_self, and_false,
        if_false, count]
      exact counted
  | suspend answers =>
    simp only [ResumeRun.step, Option.some.injEq] at taken
    subst taken
    simpa [ReprobesCounted, pciPmSuspend_count] using counted
  | initLate =>
    cases taken
    exact counted
  | expDetected =>
    cases taken
    exact counted

/-- The reprobes for a resume timeout stay capped as long as no SAP timeout is tolerated while
    attempts are counted. -/
theorem timeout_reprobes_capped (dev : PciDev) (events : List PmEvent)
    (obeys : Obeys tailAfterSapTimeoutUncounted ResumeRun.step (ResumeRun.start dev) events) :
    Visits ReprobesCapped ResumeRun.step (ResumeRun.start dev) events := by
  refine Visits.of_invariant ReprobesCounted ?_ step_keeps_count ?_ obeys
  · intro run counted
    exact counted.1.trans_le counted.2
  · exact ⟨rfl, Nat.zero_le _⟩

def sapSilent : ResumeAnswers where
  resumeState := PM_RESUME_REG_STATE_INIT
  atr := 0x10000000
  resumeAck := true
  resumeAckAp := false
  entityResume := fun _ => 0
  enableDevice := 0
  fsmCommand := fun _ => 0

def suspendAcked : SuspendAnswers where
  entitySuspend := fun _ => 0
  suspendAck := true
  suspendAckAp := true

def suspendResume : List PmEvent := [.suspend suspendAcked, .resume sapSilent true]

def threeReboots : List PmEvent :=
  .initLate :: suspendResume ++ .initLate :: suspendResume ++ .initLate :: suspendResume

/-- Three reprobes reach the cap, the fourth resume forgets them, and the fifth reprobes again. -/
theorem fourth_timeout_reprobe :
    ¬ Visits ReprobesCapped ResumeRun.step (ResumeRun.start probedDev)
      (threeReboots ++ .initLate :: suspendResume ++ suspendResume) := by
  decide

theorem timeout_reprobes_capped_three :
    Obeys tailAfterSapTimeoutUncounted ResumeRun.step (ResumeRun.start probedDev) threeReboots ∧
      Visits ReprobesCapped ResumeRun.step (ResumeRun.start probedDev) threeReboots :=
  have obeys : Obeys tailAfterSapTimeoutUncounted ResumeRun.step (ResumeRun.start probedDev)
      threeReboots := by decide
  ⟨obeys, timeout_reprobes_capped probedDev threeReboots obeys⟩

end T7xxModel.Pci
