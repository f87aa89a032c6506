import T7xx.Pci.Device
import T7xx.Transition.Runs

namespace T7xxModel.Pci

open Kernel Transition

def D2H_INT_SR_ACK : BitVec 32 :=
  D2H_INT_SUSPEND_ACK ||| D2H_INT_RESUME_ACK ||| D2H_INT_SUSPEND_ACK_AP ||| D2H_INT_RESUME_ACK_AP

def Channel.ack : Channel → BitVec 32
  | .suspendReq => D2H_INT_SUSPEND_ACK
  | .resumeReq => D2H_INT_RESUME_ACK
  | .suspendReqAp => D2H_INT_SUSPEND_ACK_AP
  | .resumeReqAp => D2H_INT_RESUME_ACK_AP
  | .dsLock => D2H_INT_DS_LOCK_ACK

inductive RequestCall where
  | idle
  | reinited (request : Channel)
  | waiting (id : Nat)
deriving DecidableEq, Repr

inductive IsrThread where
  | idle
  | read (intStatus : BitVec 32)
  | cleared (intStatus : BitVec 32)
deriving DecidableEq, Repr

def IsrThread.status : IsrThread → BitVec 32
  | .idle => 0
  | .read intStatus | .cleared intStatus => intStatus

/-- The driver and device sides of the PM requests: `requests` lists them by trigger, `acked` is
    what the device has acknowledged and `succeeded` the calls that returned 0. -/
structure RequestRun where
  pmSrAck : Completion
  sleepLockAcquire : Completion
  swIntSts : BitVec 32
  call : RequestCall
  isr : IsrThread
  requests : List Channel
  acked : List Nat
  succeeded : List Nat

inductive RequestEvent where
  | reinit (request : Channel)
  | trigger
  | waitDone
  | waitTimeout
  | deviceAck (id : Nat)
  | deviceInt (bits : BitVec 32)
  | isrRead
  | isrClear
  | isrComplete

def isrThreadComplete (run : RequestRun) (intStatus : BitVec 32) : RequestRun :=
  let run :=
    if intStatus &&& D2H_INT_DS_LOCK_ACK ≠ 0 then
      { run with sleepLockAcquire := run.sleepLockAcquire.completeAll }
    else run
  if intStatus &&& D2H_INT_SR_ACK ≠ 0 then { run with pmSrAck := run.pmSrAck.complete } else run

def RequestRun.step (run : RequestRun) : RequestEvent → Option RequestRun
  | .reinit request =>
    if run.call = .idle then
      some { run with pmSrAck := run.pmSrAck.reinit, call := .reinited request }
    else none
  | .trigger =>
    match run.call with
    | .reinited request =>
      some { run with requests := run.requests ++ [request], call := .waiting run.requests.length }
    | _ => none
  | .waitDone =>
    match run.call, run.pmSrAck.tryWait with
    | .waiting id, some pmSrAck =>
      some { run with pmSrAck, call := .idle, succeeded := id :: run.succeeded }
    | _, _ => none
  | .waitTimeout =>
    match run.call, run.pmSrAck.tryWait with
    | .waiting _, none => some { run with call := .idle }
    | _, _ => none
  | .deviceAck id =>
    match run.requests[id]? with
    | some request =>
      if id ∈ run.acked then none
      else some { run with swIntSts := run.swIntSts ||| request.ack, acked := id :: run.acked }
    | none => none
  | .deviceInt bits =>
    if bits &&& D2H_INT_SR_ACK = 0 then some { run with swIntSts := run.swIntSts ||| bits } else none
  | .isrRead =>
    if run.isr = .idle then some { run with isr := .read run.swIntSts } else none
  | .isrClear =>
    match run.isr with
    | .read intStatus =>
      some { run with swIntSts := run.swIntSts &&& ~~~intStatus, isr := .cleared intStatus }
    | _ => none
  | .isrComplete =>
    match run.isr with
    | .cleared intStatus => some { isrThreadComplete run intStatus with isr := .idle }
    | _ => none

def RequestRun.start : RequestRun :=
  { pmSrAck := { done := 0 }, sleepLockAcquire := { done := 0 }, swIntSts := 0, call := .idle,
    isr := .idle, requests := [], acked := [], succeeded := [] }

/-- A call that returned 0 had its own request acknowledged. -/
def SuccessesAcked (run : RequestRun) : Prop := ∀ id ∈ run.succeeded, id ∈ run.acked

instance : DecidablePred SuccessesAcked :=
  fun run => inferInstanceAs (Decidable (∀ id ∈ run.succeeded, id ∈ run.acked))

def RequestRun.AckFree (run : RequestRun) : Prop :=
  run.swIntSts &&& D2H_INT_SR_ACK = 0 ∧ run.isr.status &&& D2H_INT_SR_ACK = 0

instance : DecidablePred RequestRun.AckFree :=
  fun run => inferInstanceAs (Decidable (run.swIntSts &&& D2H_INT_SR_ACK = 0 ∧
    run.isr.status &&& D2H_INT_SR_ACK = 0))

def RequestRun.Unanswered (run : RequestRun) : Prop :=
  match run.call with
  | .idle => False
  | .reinited _ => True
  | .waiting id => id ∉ run.acked

/-- No acknowledgement is under way when a call starts, and none of an earlier request arrives
    while a call is open and unanswered. -/
def noLateAck (run : RequestRun) : RequestEvent → Prop
  | .reinit _ => run.AckFree
  | .deviceAck id =>
    match run.call with
    | .idle => True
    | .reinited _ => False
    | .waiting current => id = current ∨ current ∈ run.acked
  | _ => True

instance (run : RequestRun) (event : RequestEvent) : Decidable (noLateAck run event) := by
  cases event with
  | reinit request => exact inferInstanceAs (Decidable run.AckFree)
  | deviceAck id => unfold noLateAck; cases run.call <;> infer_instance
  | _ => exact inferInstanceAs (Decidable True)

/-- While a call is unanswered nothing can complete it. -/
structure RequestInvariant (run : RequestRun) : Prop where
  acked : SuccessesAcked run
  quiet : run.Unanswered → run.AckFree ∧ run.pmSrAck.done = 0

theorem request_invariant_start : RequestInvariant RequestRun.start where
  acked := nofun
  quiet := nofun

theorem isrThreadComplete_frame (run : RequestRun) (intStatus : BitVec 32) :
    (isrThreadComplete run intStatus).call = run.call ∧
      (isrThreadComplete run intStatus).swIntSts = run.swIntSts ∧
      (isrThreadComplete run intStatus).acked = run.acked ∧
      (isrThreadComplete run intStatus).succeeded = run.succeeded := by
  simp only [isrThreadComplete]
  split_ifs <;> exact ⟨rfl, rfl, rfl, rfl⟩

theorem isrThreadComplete_ack_free (run : RequestRun) (intStatus : BitVec 32)
    (free : intStatus &&& D2H_INT_SR_ACK = 0) :
    (isrThreadComplete run intStatus).pmSrAck = run.pmSrAck := by
  simp only [isrThreadComplete, free, ne_eq, not_true_eq_false, if_false]
  split_ifs <;> rfl

theorem masked_or (left right mask : BitVec 32) (hl : left &&& mask = 0) (hr : right &&& mask = 0) :
    (left ||| right) &&& mask = 0 := by
  rw [BitVec.and_or_distrib_right, hl, hr]
  rfl

theorem masked_clear (left cleared mask : BitVec 32) (hl : left &&& mask = 0) :
    (left &&& ~~~cleared) &&& mask = 0 := by
  rw [BitVec.and_assoc, BitVec.and_comm (~~~cleared), ← BitVec.and_assoc, hl]
  exact BitVec.zero_and

theorem waitDone_invariant {run next : RequestRun} (inv : RequestInvariant run)
    (taken : run.step .waitDone = some next) : RequestInvariant next := by
  simp only [RequestRun.step] at taken
  split at taken
  · rename_i id pmSrAck waiting ready
    cases taken
    refine ⟨?_, nofun⟩
    intro other member
    rcases List.mem_cons.mp member with rfl | earlier
    · by_contra unacked
      have quiet := inv.quiet (by simpa only [RequestRun.Unanswered, waiting] using unacked)
      have done := Completion.tryWait_pos ready
      omega
    · exact inv.acked other earlier
  · cases taken

theorem deviceAck_invariant {run next : RequestRun} {id : Nat} (inv : RequestInvariant run)
    (onTime : noLateAck run (.deviceAck id)) (taken : run.step (.deviceAck id) = some next) :
    RequestInvariant next := by
  simp only [RequestRun.step] at taken
  split at taken
  · rename_i request triggered
    split at taken
    · cases taken
    · cases taken
      refine ⟨fun other member => List.mem_cons_of_mem _ (inv.acked other member), ?_⟩
      intro unanswered
      simp only [RequestRun.Unanswered] at unanswered
      simp only [noLateAck] at onTime
      cases call : run.call with
      | idle => simp [call] at unanswered
      | reinited request => simp [call] at onTime
      | waiting current =>
        simp only [call, List.mem_cons, not_or] at onTime unanswered
        rcases onTime with same | answered
        · exact absurd same.symm unanswered.1
        · exact absurd answered unanswered.2
  · cases taken

theorem isrComplete_invariant {run next : RequestRun} (inv : RequestInvariant run)
    (taken : run.step .isrComplete = some next) : RequestInvariant next := by
  simp only [RequestRun.step] at taken
  split at taken
  · rename_i intStatus clearing
    cases taken
    obtain ⟨call, status, acked, succeeded⟩ := isrThreadComplete_frame run intStatus
    refine ⟨?_, fun unanswered => ?_⟩
    · simp only [SuccessesAcked, acked, succeeded]
      exact inv.acked
    · simp only [RequestRun.Unanswered, call, acked] at unanswered
      obtain ⟨⟨free, held⟩, done⟩ := inv.quiet unanswered
      simp only [clearing, IsrThread.status] at held
      refine ⟨⟨?_, ?_⟩, ?_⟩
      · simpa only [status] using free
      · simp [IsrThread.status]
      · simpa only [isrThreadComplete_ack_free run intStatus held] using done
  · cases taken

theorem request_invariant_step (run : RequestRun) (event : RequestEvent) (next : RequestRun)
    (inv : RequestInvariant run) (onTime : noLateAck run event) (taken : run.step event = some next) :
    RequestInvariant next := by
  cases event with
  | reinit request =>
    simp only [RequestRun.step, Option.ite_none_right_eq_some, Option.some.injEq] at taken
    obtain ⟨-, rfl⟩ := taken
    exact ⟨inv.acked, fun _ => ⟨onTime, rfl⟩⟩
  | trigger =>
    simp only [RequestRun.step] at taken
    split at taken
    · rename_i request reinited
      cases taken
      have quiet := inv.quiet (by simp only [RequestRun.Unanswered, reinited])
      exact ⟨inv.acked, fun _ => quiet⟩
    · cases taken
  | waitDone => exact waitDone_invariant inv taken
  | waitTimeout =>
    simp only [RequestRun.step] at taken
    split at taken
    · cases taken
      exact ⟨inv.acked, nofun⟩
    · cases taken
  | deviceAck id => exact deviceAck_invariant inv onTime taken
  | deviceInt bits =>
    simp only [RequestRun.step, Option.ite_none_right_eq_some, Option.some.injEq] at taken
    obtain ⟨other, rfl⟩ := taken
    refine ⟨inv.acked, fun unanswered => ?_⟩
    obtain ⟨⟨free, held⟩, done⟩ := inv.quiet unanswered
    exact ⟨⟨masked_or _ _ _ free other, held⟩, done⟩
  | isrRead =>
    simp only [RequestRun.step, Option.ite_none_right_eq_some, Option.some.injEq] at taken
    obtain ⟨-, rfl⟩ := taken
    refine ⟨inv.acked, fun unanswered => ?_⟩
    obtain ⟨⟨free, -⟩, done⟩ := inv.quiet unanswered
    exact ⟨⟨free, free⟩, done⟩
  | isrClear =>
    simp only [RequestRun.step] at taken
    split at taken
    · rename_i intStatus reading
      cases taken
      refine ⟨inv.acked, fun unanswered => ?_⟩
      obtain ⟨⟨free, held⟩, done⟩ := inv.quiet unanswered
      simp only [reading, IsrThread.status] at held
      exact ⟨⟨masked_clear _ _ _ free, held⟩, done⟩
    · cases taken
  | isrComplete => exact isrComplete_invariant inv taken

/-- When no late acknowledgement overlaps an unanswered call, a call returns 0 only for its own
    acknowledgement. -/
theorem successes_acked (events : List RequestEvent)
    (onTime : Obeys noLateAck RequestRun.step RequestRun.start events) :
    Visits SuccessesAcked RequestRun.step RequestRun.start events :=
  Visits.of_invariant RequestInvariant (fun _ inv => inv.acked) request_invariant_step
    request_invariant_start onTime

def answeredResume : List RequestEvent :=
  [.reinit .resumeReq, .trigger, .deviceAck 0, .isrRead, .isrClear, .isrComplete, .waitDone]

theorem successes_acked_resume :
    Obeys noLateAck RequestRun.step RequestRun.start answeredResume ∧
      Visits SuccessesAcked RequestRun.step RequestRun.start answeredResume :=
  have onTime : Obeys noLateAck RequestRun.step RequestRun.start answeredResume := by decide
  ⟨onTime, successes_acked answeredResume onTime⟩

/-- The SAP suspend request times out, and its acknowledgement completes the MD resume request. -/
theorem late_ack_answers_resume :
    ¬ Visits SuccessesAcked RequestRun.step RequestRun.start
      [.reinit .suspendReqAp, .trigger, .waitTimeout, .reinit .resumeReq, .trigger, .deviceAck 0,
        .isrRead, .isrClear, .isrComplete, .waitDone] := by
  decide

end T7xxModel.Pci
