import Mathlib.Data.List.Count

namespace T7xxModel.Dpmaif

structure CollectAnswer where
  rxCnt : Int
  onceMore : Bool

/-- What one poll reads: `que_started`, the sleep lock completion and the received packets. -/
structure PollAnswers where
  queStarted : Bool
  lockAcquired : Bool
  collect : Nat → CollectAnswer

inductive PollAction where
  | disableSleep
  | enableSleep
  | napiCompleteDone (workDone : Int)
  | napiSchedule
  | napiGroFlush
  | clrIpBusySts
  | dlqUnmaskRxDone
  | runtimeMarkLastBusy
  | runtimePutAutosuspend
deriving DecidableEq, Repr

structure RxqPoll where
  sleepLockPending : Bool
  rxProcessing : Bool
deriving DecidableEq, Repr

structure PollOutcome where
  rxq : RxqPoll
  ret : Int
  actions : List PollAction
deriving DecidableEq, Repr

/-- The `while (work_done < budget)` loop; every round that goes on receives at least one packet. -/
def napiRxCollect (collect : Nat → CollectAnswer) (budget : Int) :
    Nat → Nat → Int → Bool → Int × Bool
  | 0, _, workDone, onceMore => (workDone, onceMore)
  | fuel + 1, round, workDone, onceMore =>
    if workDone < budget then
      let answer := collect round
      let onceMore := onceMore || answer.onceMore
      if 0 < answer.rxCnt then
        napiRxCollect collect budget fuel (round + 1) (workDone + answer.rxCnt) onceMore
      else (workDone, onceMore)
    else (workDone, onceMore)

def napiRxFinish (budget : Int) (disable : List PollAction) (collected : Int × Bool) : PollOutcome :=
  if collected.2 then
    { rxq := { sleepLockPending := false, rxProcessing := true }
      ret := budget
      actions := disable ++ [.napiGroFlush, .clrIpBusySts] }
  else if collected.1 < budget then
    { rxq := { sleepLockPending := false, rxProcessing := false }
      ret := collected.1
      actions := disable ++ [.napiCompleteDone collected.1, .clrIpBusySts, .dlqUnmaskRxDone,
        .enableSleep, .runtimeMarkLastBusy, .runtimePutAutosuspend] }
  else
    { rxq := { sleepLockPending := false, rxProcessing := true }
      ret := collected.1
      actions := disable ++ [.clrIpBusySts] }

def napiRxPoll (budget : Int) (answers : PollAnswers) (rxq : RxqPoll) : PollOutcome :=
  if answers.queStarted = false then
    { rxq := { rxq with rxProcessing := false }, ret := 0, actions := [.runtimePutAutosuspend] }
  else
    let disable := if rxq.sleepLockPending then [] else [PollAction.disableSleep]
    if answers.lockAcquired = false then
      { rxq := { sleepLockPending := true, rxProcessing := true }
        ret := 0
        actions := disable ++ [.napiCompleteDone 0, .napiSchedule] }
    else napiRxFinish budget disable (napiRxCollect answers.collect budget budget.toNat 0 0 false)

def PollAction.isComplete : PollAction → Bool
  | .napiCompleteDone _ => true
  | _ => false

/-- The core polls again: the whole budget was returned, or NAPI was scheduled anew. -/
def PollOutcome.rescheduled (outcome : PollOutcome) (budget : Int) : Bool :=
  outcome.actions.contains .napiSchedule ||
    (decide (outcome.ret = budget) && !outcome.actions.any PollAction.isComplete)

def PollOutcome.completed (outcome : PollOutcome) : Bool :=
  outcome.actions.any PollAction.isComplete && !outcome.actions.contains .napiSchedule

/-- A run of polls from the scheduling of NAPI to the poll that completes it. -/
def completingRun (budget : Int) : List PollAnswers → RxqPoll → Bool
  | [], _ => false
  | [last], rxq => (napiRxPoll budget last rxq).completed
  | poll :: polls, rxq =>
    (napiRxPoll budget poll rxq).rescheduled budget &&
      completingRun budget polls (napiRxPoll budget poll rxq).rxq

def runActions (budget : Int) : List PollAnswers → RxqPoll → List PollAction
  | [], _ => []
  | poll :: polls, rxq =>
    (napiRxPoll budget poll rxq).actions ++ runActions budget polls (napiRxPoll budget poll rxq).rxq

def usedBudget (budget : Int) (collected : Int × Bool) : Bool :=
  collected.2 || !decide (collected.1 < budget)

/-- A poll that gets as far as receiving and then asks for another one. -/
def keepsBudget (budget : Int) (answers : PollAnswers) : Bool :=
  answers.queStarted && answers.lockAcquired &&
    usedBudget budget (napiRxCollect answers.collect budget budget.toNat 0 0 false)

theorem napiRxCollect_stops (collect : Nat → CollectAnswer) (budget : Int) (fuel extra round : Nat)
    (workDone : Int) (onceMore : Bool) (enough : budget ≤ workDone + fuel) :
    napiRxCollect collect budget (fuel + extra) round workDone onceMore =
      napiRxCollect collect budget fuel round workDone onceMore := by
  induction fuel generalizing round workDone onceMore with
  | zero =>
    have done : ¬ workDone < budget := by omega
    cases extra with
    | zero => rfl
    | succ extra => simp [napiRxCollect, done]
  | succ fuel ih =>
    rw [Nat.succ_add]
    simp only [napiRxCollect]
    split_ifs with more received
    · exact ih _ _ _ (by omega)
    · rfl
    · rfl

theorem napiRxCollect_total (collect : Nat → CollectAnswer) (budget : Int) (extra : Nat) :
    napiRxCollect collect budget (budget.toNat + extra) 0 0 false =
      napiRxCollect collect budget budget.toNat 0 0 false :=
  napiRxCollect_stops collect budget budget.toNat extra 0 0 false (by omega)

def owedDisable (rxq : RxqPoll) : Nat := if rxq.sleepLockPending then 0 else 1

theorem napiRxFinish_sleep (budget : Int) (pending : Bool) (collected : Int × Bool) :
    let disable := if pending then [] else [PollAction.disableSleep]
    let outcome := napiRxFinish budget disable collected
    outcome.rxq.sleepLockPending = false ∧
      outcome.completed = !usedBudget budget collected ∧
      (outcome.rescheduled budget = true → usedBudget budget collected = true) ∧
      outcome.actions.count .disableSleep = (if pending then 0 else 1) ∧
      outcome.actions.count .enableSleep = if usedBudget budget collected then 0 else 1 := by
  simp only [napiRxFinish, usedBudget]
  split_ifs with held more below <;>
    simp_all [PollOutcome.completed, PollOutcome.rescheduled, PollAction.isComplete]

theorem completed_poll_sleep (budget : Int) (answers : PollAnswers) (rxq : RxqPoll)
    (completed : (napiRxPoll budget answers rxq).completed = true) :
    (napiRxPoll budget answers rxq).actions.count .disableSleep = owedDisable rxq ∧
      (napiRxPoll budget answers rxq).actions.count .enableSleep = 1 ∧
      keepsBudget budget answers = false := by
  unfold napiRxPoll at completed ⊢
  unfold keepsBudget
  cases started : answers.queStarted with
  | false => simp [started, PollOutcome.completed, PollAction.isComplete] at completed
  | true =>
    cases acquired : answers.lockAcquired with
    | false => simp [started, acquired, PollOutcome.completed] at completed
    | true =>
      simp only [started, acquired, Bool.true_eq_false, if_false] at completed ⊢
      obtain ⟨-, ended, -, disables, enables⟩ := napiRxFinish_sleep budget rxq.sleepLockPending
        (napiRxCollect answers.collect budget budget.toNat 0 0 false)
      rw [ended, Bool.not_eq_true'] at completed
      rw [completed] at enables
      exact ⟨disables, enables, by simp [completed]⟩

/-- A poll that is polled again pays for the disable it owed, and owes one more after it if it
    kept the budget. -/
theorem rescheduled_poll_sleep (budget : Int) (answers : PollAnswers) (rxq : RxqPoll)
    (rescheduled : (napiRxPoll budget answers rxq).rescheduled budget = true) :
    (napiRxPoll budget answers rxq).actions.count .enableSleep = 0 ∧
      (napiRxPoll budget answers rxq).actions.count .disableSleep +
          owedDisable (napiRxPoll budget answers rxq).rxq =
        owedDisable rxq + if keepsBudget budget answers then 1 else 0 := by
  unfold napiRxPoll at rescheduled ⊢
  unfold keepsBudget
  cases started : answers.queStarted with
  | false => simp [owedDisable]
  | true =>
    cases acquired : answers.lockAcquired with
    | false => cases pending : rxq.sleepLockPending <;> simp [owedDisable, pending]
    | true =>
      simp only [started, acquired, Bool.true_eq_false, if_false] at rescheduled ⊢
      obtain ⟨unpended, -, again, disables, enables⟩ := napiRxFinish_sleep budget rxq.sleepLockPending
        (napiRxCollect answers.collect budget budget.toNat 0 0 false)
      have used := again rescheduled
      rw [used] at enables
      refine ⟨enables, ?_⟩
      rw [disables]
      simp only [owedDisable, unpended, used, Bool.and_self, if_true, Bool.false_eq_true, if_false]

/-- Over a whole run sleep is enabled once and disabled once for the first lock and once more
    for every poll that kept the budget. -/
theorem completing_run_sleep (budget : Int) (polls : List PollAnswers) (rxq : RxqPoll)
    (run : completingRun budget polls rxq = true) :
    (runActions budget polls rxq).count .enableSleep = 1 ∧
      (runActions budget polls rxq).count .disableSleep =
        owedDisable rxq + polls.countP (keepsBudget budget) := by
  induction polls generalizing rxq with
  | nil => cases run
  | cons poll polls ih =>
    cases polls with
    | nil =>
      obtain ⟨disables, enables, kept⟩ := completed_poll_sleep budget poll rxq run
      simp [runActions, disables, enables, kept]
    | cons next rest =>
      obtain ⟨rescheduled, remaining⟩ := (Bool.and_eq_true _ _).mp run
      obtain ⟨quiet, paid⟩ := rescheduled_poll_sleep budget poll rxq rescheduled
      obtain ⟨enables, disables⟩ := ih _ remaining
      have counted : (poll :: next :: rest).countP (keepsBudget budget) =
          (next :: rest).countP (keepsBudget budget) + if keepsBudget budget poll then 1 else 0 :=
        List.countP_cons
      rw [runActions, List.count_append, List.count_append, quiet, enables, disables, counted]
      exact ⟨rfl, by omega⟩

/-- A run balances its sleep locks exactly if no poll of it keeps the budget, or exactly one does
    when the lock was still pending from before. -/
theorem poll_run_balanced_iff (budget : Int) (polls : List PollAnswers) (rxq : RxqPoll)
    (run : completingRun budget polls rxq = true) :
    (runActions budget polls rxq).count .disableSleep = (runActions budget polls rxq).count .enableSleep ↔
      polls.countP (keepsBudget budget) = if rxq.sleepLockPending then 1 else 0 := by
  obtain ⟨enables, disables⟩ := completing_run_sleep budget polls rxq run
  rw [enables, disables, owedDisable]
  split <;> omega

def emptyRing : Nat → CollectAnswer := fun _ => { rxCnt := 0, onceMore := false }

def quietPoll : PollAnswers := { queStarted := true, lockAcquired := true, collect := emptyRing }

def fullPoll : PollAnswers :=
  { quietPoll with collect := fun _ => { rxCnt := 64, onceMore := false } }

def idleRxq : RxqPoll := { sleepLockPending := false, rxProcessing := false }

theorem poll_run_balanced_iff_lock_late :
    (runActions 64 [{ quietPoll with lockAcquired := false }, quietPoll] idleRxq).count .disableSleep =
        (runActions 64 [{ quietPoll with lockAcquired := false }, quietPoll] idleRxq).count .enableSleep ↔
      [{ quietPoll with lockAcquired := false }, quietPoll].countP (keepsBudget 64) = 0 :=
  poll_run_balanced_iff 64 [{ quietPoll with lockAcquired := false }, quietPoll] idleRxq
    (by decide)

/-- One poll that uses its whole budget leaves sleep disabled after completion. -/
theorem full_budget_unbalanced :
    completingRun 64 [fullPoll, quietPoll] idleRxq = true ∧
      (runActions 64 [fullPoll, quietPoll] idleRxq).count .disableSleep ≠
        (runActions 64 [fullPoll, quietPoll] idleRxq).count .enableSleep := by
  decide

end T7xxModel.Dpmaif
