import Mathlib.Algebra.Ring.Int.Defs
import T7xx.Cldma.IrqWork
import T7xx.Cldma.SendSkb
import T7xx.Dpmaif.DoneWorks

namespace T7xxModel.Hif

open Cldma Dpmaif Transition

section SendSkb

variable {length : Nat} {qno : Nat} {skb : SkBuff} {usage : Int} {s t : SendRun length}

/-- The call has got the device awake and holds what it took. -/
structure HoldsDevice (usage : Int) (qno : Nat) (s : SendRun length) : Prop where
  valid : ¬ CLDMA_TXQ_NUM ≤ qno
  awake : ¬ ResumeRefused s.answers.pm
  count : s.usage = usage + resumeAndGetRefs s.answers.pm

def SendBalanced (usage : Int) (qno : Nat) (s : SendRun length) : Prop :=
  s.usage = usage ↔ CLDMA_TXQ_NUM ≤ qno ∨ s.answers.pm ≠ -EACCES

def SendRefs (usage : Int) (qno : Nat) (s : SendRun length) : Prop :=
  match s.pc with
  | .pmGet => s.usage = usage
  | .done _ => SendBalanced usage qno s
  | _ => HoldsDevice usage qno s

/-- Going on from a call that holds the device to one that does, or returning by `allow_sleep`. -/
theorem HoldsDevice.goesOn (holds : HoldsDevice usage qno s) (same : t.usage = s.usage)
    (pm : t.answers.pm = s.answers.pm) : HoldsDevice usage qno t := by
  refine ⟨holds.valid, ?_, ?_⟩
  · rw [pm]
    exact holds.awake
  · rw [same, pm]
    exact holds.count

theorem HoldsDevice.returns (holds : HoldsDevice usage qno s) (drop : t.usage = s.usage - 1)
    (pm : t.answers.pm = s.answers.pm) : SendBalanced usage qno t := by
  unfold SendBalanced
  rw [drop, pm, holds.count, or_iff_right holds.valid, ← resumeAndGetRefs_eq_one_iff holds.awake]
  omega

theorem pmGetStep_refs (ret : Int) (before : s.usage = usage) :
    SendRefs usage qno (pmGetStep qno ret s) := by
  unfold pmGetStep
  split
  · rename_i invalid
    exact iff_of_true before (Or.inl invalid)
  · rename_i valid
    dsimp only
    split
    · rename_i refused
      exact iff_of_true before (Or.inr refused.2)
    · rename_i awake
      refine ⟨valid, awake, ?_⟩
      show (if 0 ≤ ret then s.usage + 1 else s.usage) = usage + resumeAndGetRefs ret
      unfold resumeAndGetRefs
      split <;> omega

theorem sleepWaitStep_refs (acquired : Bool) {next : SendPc length}
    (later : ∀ u : SendRun length, u.pc = next → HoldsDevice usage qno u → SendRefs usage qno u)
    (holds : HoldsDevice usage qno s) : SendRefs usage qno (sleepWaitStep acquired next s) := by
  unfold sleepWaitStep
  cases acquired with
  | true => exact later _ rfl (holds.goesOn rfl rfl)
  | false => exact holds.returns rfl rfl

/-- The other threads take and drop no reference of the call. -/
theorem SendRefs.elsewhere (refs : SendRefs usage qno s) (pc : t.pc = s.pc) (same : t.usage = s.usage)
    (answers : t.answers = s.answers) : SendRefs usage qno t := by
  unfold SendRefs at *
  rw [pc]
  cases at_pc : s.pc with
  | pmGet =>
    rw [at_pc] at refs
    exact same.trans refs
  | done ret =>
    rw [at_pc] at refs
    unfold SendBalanced at *
    rw [same, answers]
    exact refs
  | _ =>
    rw [at_pc] at refs
    exact refs.goesOn same (congrArg SendAnswers.pm answers)

variable [NeZero length]

theorem callStep_refs {pc : SendPc length} {label : SendLabel length} (at_pc : s.pc = pc)
    (refs : SendRefs usage qno s) (taken : callStep qno skb s pc label = some t) :
    SendRefs usage qno t := by
  unfold SendRefs at refs
  rw [at_pc] at refs
  unfold callStep at taken
  split at taken
  case h_1 ret =>
    cases taken
    exact pmGetStep_refs ret refs
  case h_2 ret =>
    cases taken
    unfold checkActiveStep
    split
    · exact refs.goesOn rfl rfl
    · exact refs.returns rfl rfl
  case h_3 ret =>
    cases taken
    unfold takeRingStep
    dsimp only
    split
    · exact refs.goesOn rfl rfl
    · exact refs.goesOn rfl rfl
  case h_4 ret txReq mapping =>
    cases taken
    unfold mapSkbStep
    cases mapping with
    | none => exact refs.goesOn rfl rfl
    | some addr => exact refs.goesOn rfl rfl
  case h_5 ret txReq =>
    cases taken
    exact refs.goesOn rfl rfl
  case h_6 ret txReq hwo =>
    cases taken
    exact refs.goesOn rfl rfl
  case h_7 ret txReq acquired =>
    cases taken
    refine sleepWaitStep_refs acquired (fun u pc holds => ?_) refs
    unfold SendRefs
    rw [pc]
    exact holds
  case h_8 ret txReq queueStatus =>
    cases taken
    exact refs.returns rfl rfl
  case h_9 ret acquired =>
    cases taken
    refine sleepWaitStep_refs acquired (fun u pc holds => ?_) refs
    unfold SendRefs
    rw [pc]
    exact holds
  case h_10 ret queueStatus =>
    cases taken
    unfold resumeQueueStep
    cases queueStatus with
    | true => exact refs.goesOn rfl rfl
    | false => exact refs.goesOn rfl rfl
  case h_11 interrupted =>
    unfold waitRoomStep at taken
    split at taken
    · cases taken
      exact refs.returns rfl rfl
    · split at taken
      · cases taken
        exact refs.goesOn rfl rfl
      · cases taken
  case h_12 => cases taken

theorem ringStep_refs {label : SendLabel length} (refs : SendRefs usage qno s)
    (taken : ringStep skb s label = some t) : SendRefs usage qno t := by
  unfold ringStep at taken
  split at taken
  · obtain ⟨collected, _, rfl⟩ := Option.map_eq_some_iff.mp taken
    exact refs.elsewhere rfl rfl rfl
  · cases taken
    exact refs.elsewhere rfl rfl rfl
  · dsimp only at taken
    split at taken
    · cases taken
    · cases taken
      exact refs.elsewhere rfl rfl rfl
  · cases taken

theorem sendStep_refs (s : SendRun length) (label : SendLabel length) (t : SendRun length)
    (refs : SendRefs usage qno s) (taken : sendStep qno skb s label = some t) :
    SendRefs usage qno t := by
  cases label with
  | stopAllQs | suspend | resume | powerOff | hwDone q i =>
    cases taken
    exact refs.elsewhere rfl rfl rfl
  | txCollect q | clearTxq q | otherSend q other mapping =>
    simp only [sendStep] at taken
    split at taken
    · cases taken
    · exact ringStep_refs refs taken
  | _ => exact callStep_refs rfl refs taken

/-- Whatever the other threads do, a call that returns has dropped what it took, but for `-EACCES`. -/
theorem sendSkb_balanced_iff (qno : Nat) (skb : SkBuff) (s : SendRun length) (begins : s.pc = .pmGet)
    (labels : List (SendLabel length)) :
    Visits (fun t => ∀ ret, t.pc = .done ret → SendBalanced s.usage qno t) (sendStep qno skb) s labels := by
  refine Visits.of_kept (SendRefs s.usage qno) (fun t refs ret returned => ?_) sendStep_refs labels ?_
  · unfold SendRefs at refs
    rw [returned] at refs
    exact refs
  · unfold SendRefs
    rw [begins]

end SendSkb

section Works

/-- What a work does to the usage count. -/
def WorkAction.refs : WorkAction → Int
  | .runtimeResumeAndGet ret => resumeAndGetRefs ret
  | .runtimePutAutosuspend => -1
  | _ => 0

def netRefs (actions : List WorkAction) : Int := (actions.map WorkAction.refs).sum

theorem withDeviceAwake_balanced_iff (ret : Int) {body : List WorkAction} (quiet : netRefs body = 0) :
    netRefs (withDeviceAwake ret body) = 0 ↔ ret ≠ -EACCES := by
  unfold withDeviceAwake
  split
  · rename_i refused
    refine iff_of_true ?_ refused.2
    show resumeAndGetRefs ret + 0 = 0
    rw [resumeAndGetRefs_refused refused]
    rfl
  · rename_i awake
    have count : netRefs ([.runtimeResumeAndGet ret, .disableSleep] ++ body ++
        [.enableSleep, .runtimeMarkLastBusy, .runtimePutAutosuspend]) =
        resumeAndGetRefs ret + netRefs body - 1 := by
      unfold netRefs
      simp only [List.map_append, List.sum_append, List.map_cons, List.map_nil, List.sum_cons,
        List.sum_nil, WorkAction.refs]
      omega
    rw [count, quiet, ← resumeAndGetRefs_eq_one_iff awake]
    omega

theorem txDone_balanced_iff (answers : TxDoneAnswers) :
    netRefs (dpmaifTxDone answers) = 0 ↔ answers.resumed ≠ -EACCES := by
  refine withDeviceAwake_balanced_iff _ ?_
  split_ifs <;> rfl

theorem batReleaseWork_balanced_iff (resumed : Int) (lockAcquired : Bool) :
    netRefs (dpmaifBatReleaseWork resumed lockAcquired) = 0 ↔ resumed ≠ -EACCES := by
  refine withDeviceAwake_balanced_iff _ ?_
  split <;> rfl

theorem txHwPushRound_balanced_iff (resumed : Int) :
    netRefs (dpmaifTxHwPushRound resumed) = 0 ↔ resumed ≠ -EACCES :=
  withDeviceAwake_balanced_iff resumed rfl

end Works

section Polls

/-- A run of polls from the scheduling of NAPI to the one that completes it or finds the queue not
    started. -/
def endingRun (budget : Int) : List PollAnswers → RxqPoll → Bool
  | [], _ => false
  | [last], rxq => !last.queStarted || (napiRxPoll budget last rxq).completed
  | poll :: polls, rxq =>
    poll.queStarted && (napiRxPoll budget poll rxq).rescheduled budget &&
      endingRun budget polls (napiRxPoll budget poll rxq).rxq

/-- The polls that an RX interrupt starts: none if it gives up on the device, or if NAPI still counts
    as scheduled, as it does after a poll that found its queue not started. -/
def InterruptPolls (resumed : Int) (scheduled : Bool) (budget : Int) (polls : List PollAnswers)
    (rxq : RxqPoll) : Prop :=
  if ResumeRefused resumed ∨ scheduled = true then polls = [] else endingRun budget polls rxq = true

theorem napiRxFinish_puts (budget : Int) (pending : Bool) (collected : Int × Bool) :
    let disable := if pending then [] else [PollAction.disableSleep]
    let outcome := napiRxFinish budget disable collected
    outcome.actions.count .runtimePutAutosuspend = if outcome.completed then 1 else 0 := by
  simp only [napiRxFinish]
  split_ifs <;> simp_all [PollOutcome.completed, PollAction.isComplete]

/-- A poll drops the reference exactly when it is the last of its run. -/
theorem napiRxPoll_puts (budget : Int) (answers : PollAnswers) (rxq : RxqPoll) :
    (napiRxPoll budget answers rxq).actions.count .runtimePutAutosuspend =
      if !answers.queStarted || (napiRxPoll budget answers rxq).completed then 1 else 0 := by
  unfold napiRxPoll
  cases started : answers.queStarted with
  | false => rfl
  | true =>
    rw [if_neg Bool.noConfusion]
    cases acquired : answers.lockAcquired with
    | false => cases rxq.sleepLockPending <;> rfl
    | true =>
      rw [if_neg Bool.noConfusion]
      exact napiRxFinish_puts budget rxq.sleepLockPending _

theorem rescheduled_uncompleted {budget : Int} {outcome : PollOutcome}
    (rescheduled : outcome.rescheduled budget = true) : outcome.completed = false := by
  unfold PollOutcome.rescheduled at rescheduled
  unfold PollOutcome.completed
  rcases Bool.or_eq_true_iff.mp rescheduled with anew | kept
  · rw [anew, Bool.not_true, Bool.and_false]
  · obtain ⟨_, incomplete⟩ := Bool.and_eq_true_iff.mp kept
    rw [Bool.not_eq_true'] at incomplete
    rw [incomplete, Bool.false_and]

theorem endingRun_puts (budget : Int) (polls : List PollAnswers) (rxq : RxqPoll)
    (run : endingRun budget polls rxq = true) :
    (runActions budget polls rxq).count .runtimePutAutosuspend = 1 := by
  induction polls generalizing rxq with
  | nil => cases run
  | cons poll polls ih =>
    have first := napiRxPoll_puts budget poll rxq
    rw [runActions, List.count_append, first]
    cases polls with
    | nil =>
      have ends : (!poll.queStarted || (napiRxPoll budget poll rxq).completed) = true := run
      rw [if_pos ends]
      rfl
    | cons next rest =>
      obtain ⟨goesOn, remaining⟩ := Bool.and_eq_true_iff.mp run
      obtain ⟨started, rescheduled⟩ := Bool.and_eq_true_iff.mp goesOn
      rw [started, rescheduled_uncompleted rescheduled, ih _ remaining]
      rfl

theorem rxInterrupt_balanced_iff {resumed budget : Int} {scheduled : Bool} {polls : List PollAnswers}
    {rxq : RxqPoll} (started : InterruptPolls resumed scheduled budget polls rxq) :
    resumeAndGetRefs resumed = (runActions budget polls rxq).count .runtimePutAutosuspend ↔
      ResumeRefused resumed ∨ (resumed = -EACCES ↔ scheduled = true) := by
  unfold InterruptPolls at started
  by_cases refused : ResumeRefused resumed
  · rw [if_pos (Or.inl refused)] at started
    rw [started, resumeAndGetRefs_refused refused]
    exact iff_of_true rfl (Or.inl refused)
  · rw [or_iff_right refused]
    have one := resumeAndGetRefs_eq_one_iff refused
    by_cases again : scheduled = true
    · rw [if_pos (Or.inr again)] at started
      rw [started, iff_true_right again, ← not_iff_not]
      refine Iff.trans ?_ one
      unfold resumeAndGetRefs
      split
      · exact iff_of_true (show (1 : Int) ≠ 0 by decide) rfl
      · exact iff_of_false (fun other => other rfl) (by decide)
    · rw [if_neg (not_or.mpr ⟨refused, again⟩)] at started
      rw [endingRun_puts budget polls rxq started, iff_false_right again]
      exact one

end Polls

section Balance

theorem firstPolls : InterruptPolls 0 false 64 [fullPoll, quietPoll] idleRxq := by
  unfold InterruptPolls
  rw [if_neg (by decide)]
  decide

/-- A reset cancels the work that an interrupt has queued, with the reference of the interrupt. -/
def cancelledWork : List WorkLabel :=
  [.start, .interrupt (fun dir q => decide (dir = .rx) && decide (q = firstQno)), .resetInactive,
    .cancelBegin .rx firstQno, .cancelEnd .rx firstQno]

end Balance

end T7xxModel.Hif
