import T7xx.Fsm.CommandQueue
import Mathlib.Data.List.Basic

namespace T7xxModel.Fsm

/-- `struct t7xx_fsm_event` as an entry of `event_queue`. -/
structure QueuedEvent where
  eventId : FsmEventId
  data : List (BitVec 8)
deriving DecidableEq, Repr

/-- What others do before a poll. -/
structure WaitInput where
  appended : List QueuedEvent
  shouldStop : Bool

/-- One turn under `event_lock`: the queue it finds, the event it deletes and the queue it leaves. -/
structure EventPoll where
  seen : List QueuedEvent
  removed : Option QueuedEvent
  left : List QueuedEvent
  eventReceived : Bool
  sleepRequired : Bool

structure EventWait where
  polls : List EventPoll
  eventQueue : List QueuedEvent
  eventReceived : Bool

def pollQueue (expected ignore : FsmEventId) (queue : List QueuedEvent) : EventPoll :=
  match queue with
  | [] => ⟨queue, none, queue, false, true⟩
  | event :: rest =>
    if event.eventId = expected ∨ event.eventId = ignore then
      ⟨queue, some event, rest, event.eventId = expected, false⟩
    else ⟨queue, none, queue, false, true⟩

/-- The loop of `fsm_wait_for_event` with `retries - cnt` turns left. -/
def waitTurns (expected ignore : FsmEventId) :
    Nat → (Nat → WaitInput) → List QueuedEvent → EventWait
  | 0, _, queue => ⟨[], queue, false⟩
  | turns + 1, input, queue =>
    let queue := queue ++ (input 0).appended
    if (input 0).shouldStop then ⟨[], queue, false⟩
    else
      let poll := pollQueue expected ignore queue
      if poll.eventReceived then ⟨[poll], poll.left, true⟩
      else
        let run := waitTurns expected ignore turns (fun n => input (n + 1)) poll.left
        { run with polls := poll :: run.polls }

def fsmWaitForEvent (expected ignore : FsmEventId) (retries : Int) (input : Nat → WaitInput)
    (queue : List QueuedEvent) : EventWait :=
  waitTurns expected ignore retries.toNat input queue

/-- Events are appended and nobody asks the thread to stop. -/
def unstopped (appended : Nat → List QueuedEvent) : Nat → WaitInput := fun n => ⟨appended n, false⟩

/-- The queue and all that is appended to it before the first `polls` polls. -/
def queuedBy : (polls : Nat) → (Nat → List QueuedEvent) → List QueuedEvent → List QueuedEvent
  | 0, _, queue => queue
  | polls + 1, appended, queue => queuedBy polls (fun n => appended (n + 1)) (queue ++ appended 0)

section Wait

variable (expected ignore : FsmEventId)

def EventWait.Sees (run : EventWait) : Prop :=
  ∃ poll ∈ run.polls, ∃ event ∈ poll.seen, event.eventId = expected

def EventWait.removed (run : EventWait) : List QueuedEvent := run.polls.filterMap EventPoll.removed

/-- The last poll takes an expected event, the polls before it took events to ignore at most, and the
    others are left in their order. -/
def EventWait.Delivers (run : EventWait) (queued : List QueuedEvent) : Prop :=
  ∃ (before : List EventPoll) (last : EventPoll) (event : QueuedEvent),
    run.polls = before ++ [last] ∧ last.removed = some event ∧
    event.eventId = expected ∧ (∀ poll ∈ before, ∀ other ∈ poll.removed, other.eventId = ignore) ∧
    run.eventQueue.Sublist queued ∧ (run.removed ++ run.eventQueue).Perm queued

def DeliversExpected (retries : Int) (appended : Nat → List QueuedEvent) (queue : List QueuedEvent) : Prop :=
  let run := fsmWaitForEvent expected ignore retries (unstopped appended) queue
  run.Sees expected → run.Delivers expected ignore (queuedBy run.polls.length appended queue)

def inFront (queued : List QueuedEvent) : List QueuedEvent :=
  queued.takeWhile fun event => event.eventId ≠ expected

/-- Only events to ignore are in front of the first expected one. Each takes a poll of its own, so at any
    poll at least as many must be left as there are of these events still to come. -/
structure FrontClears (turns : Nat) (appended : Nat → List QueuedEvent) (queue : List QueuedEvent) : Prop where
  comes : ∃ event ∈ queuedBy turns appended queue, event.eventId = expected
  ignored : ∀ event ∈ inFront expected (queuedBy turns appended queue), event.eventId = ignore
  enough : (inFront expected (queuedBy turns appended queue)).length < turns
  inTime : ∀ n < turns, (inFront expected (queuedBy turns appended queue)).length <
    (queuedBy (n + 1) appended queue).length + (turns - (n + 1))

variable {expected ignore} {turns : Nat} {appended : Nat → List QueuedEvent} {queue : List QueuedEvent}

theorem queuedBy_append (polls : Nat) (appended : Nat → List QueuedEvent) (front queue : List QueuedEvent) :
    queuedBy polls appended (front ++ queue) = front ++ queuedBy polls appended queue := by
  induction polls generalizing appended queue with
  | zero => rfl
  | succ polls ih => rw [queuedBy, queuedBy, List.append_assoc, ih]

theorem subset_queuedBy (polls : Nat) (appended : Nat → List QueuedEvent) (queue : List QueuedEvent) :
    queue ⊆ queuedBy polls appended queue := by
  induction polls generalizing appended queue with
  | zero => exact List.Subset.refl _
  | succ polls ih => exact List.Subset.trans (List.subset_append_left queue _) (ih _ _)

structure PollSpec (expected ignore : FsmEventId) (queue : List QueuedEvent) (poll : EventPoll) : Prop where
  seen : poll.seen = queue
  takes : queue = poll.removed.toList ++ poll.left
  received : poll.eventReceived = true ↔ ∃ event ∈ poll.removed, event.eventId = expected
  others : poll.eventReceived = false → ∀ event ∈ poll.removed, event.eventId = ignore
  stuck : poll.removed = none → ∀ event ∈ queue.head?, event.eventId ≠ expected ∧ event.eventId ≠ ignore
  sleeps : poll.sleepRequired = poll.removed.isNone

theorem pollQueue_spec (expected ignore : FsmEventId) (queue : List QueuedEvent) :
    PollSpec expected ignore queue (pollQueue expected ignore queue) := by
  unfold pollQueue
  split
  · exact ⟨rfl, rfl, by simp, by simp, by simp, rfl⟩
  · rename_i event rest
    split
    · rename_i taken
      refine ⟨rfl, rfl, by simp, ?_, nofun, rfl⟩
      intro other found same
      obtain rfl : event = found := by simpa using same
      exact taken.resolve_left (by simpa using other)
    · rename_i kept
      refine ⟨rfl, rfl, by simp, by simp, ?_, rfl⟩
      intro _ head first
      obtain rfl : event = head := by simpa using first
      exact not_or.mp kept

theorem waitTurns_succ (expected ignore : FsmEventId) (turns : Nat) (appended : Nat → List QueuedEvent)
    (queue : List QueuedEvent) {poll : EventPoll}
    (poll_eq : pollQueue expected ignore (queue ++ appended 0) = poll) :
    waitTurns expected ignore (turns + 1) (unstopped appended) queue =
      if poll.eventReceived then ⟨[poll], poll.left, true⟩
      else
        let run := waitTurns expected ignore turns (unstopped fun n => appended (n + 1)) poll.left
        { run with polls := poll :: run.polls } := by
  rw [← poll_eq]
  rfl

theorem inFront_cons {event : QueuedEvent} (other : event.eventId ≠ expected) (rest : List QueuedEvent) :
    inFront expected (event :: rest) = event :: inFront expected rest :=
  List.takeWhile_cons_of_pos (by simpa using other)

theorem inFront_append {front : List QueuedEvent} (others : ∀ event ∈ front, event.eventId ≠ expected)
    (rest : List QueuedEvent) : inFront expected (front ++ rest) = front ++ inFront expected rest :=
  List.takeWhile_append_of_pos fun event member => by simpa using others event member

theorem head_ignored {event : QueuedEvent}
    (ignored : ∀ other ∈ inFront expected (queuedBy turns appended queue), other.eventId = ignore)
    (first : event ∈ queue.head?) (other : event.eventId ≠ expected) : event.eventId = ignore := by
  obtain ⟨rest, rfl⟩ : ∃ rest, queue = event :: rest := by
    cases queue with
    | nil => cases first
    | cons head rest => exact ⟨rest, by rw [Option.mem_some_iff.mp first]⟩
  have split := queuedBy_append turns appended [event] rest
  rw [List.singleton_append, List.singleton_append] at split
  rw [split, inFront_cons other] at ignored
  exact ignored event List.mem_cons_self

section Undelivered

variable {poll : EventPoll} (spec : PollSpec expected ignore (queue ++ appended 0) poll)

include spec

theorem PollSpec.queued (n : Nat) : queuedBy (n + 1) appended queue =
    poll.removed.toList ++ queuedBy n (fun n => appended (n + 1)) poll.left := by
  rw [queuedBy, spec.takes, queuedBy_append]

variable (open_ : poll.eventReceived = false)

include open_

theorem PollSpec.others_removed : ∀ event ∈ poll.removed.toList, event.eventId ≠ expected := by
  intro event member same
  have received := spec.received.mpr ⟨event, Option.mem_toList.mp member, same⟩
  exact absurd (received.symm.trans open_) (by decide)

theorem PollSpec.front (turns : Nat) : inFront expected (queuedBy (turns + 1) appended queue) =
    poll.removed.toList ++ inFront expected (queuedBy turns (fun n => appended (n + 1)) poll.left) := by
  rw [spec.queued turns, inFront_append (spec.others_removed open_)]

omit open_ in
/-- A poll that removes nothing, with nothing but events to ignore in front, has found nothing at all. -/
theorem PollSpec.finds_nothing (idle : poll.removed = none)
    (ignored : ∀ event ∈ inFront expected (queuedBy (turns + 1) appended queue), event.eventId = ignore) :
    poll.left = [] := by
  have same : queue ++ appended 0 = poll.left := by
    rw [spec.takes, idle]
    rfl
  cases left : poll.left with
  | nil => rfl
  | cons head rest =>
    have first : head ∈ (queue ++ appended 0).head? := by
      rw [same, left]
      rfl
    obtain ⟨other, kept⟩ := spec.stuck idle head first
    exact absurd (@head_ignored expected ignore turns (fun n => appended (n + 1)) _ head ignored first other) kept

theorem FrontClears.after_poll (clears : FrontClears expected ignore (turns + 1) appended queue) :
    FrontClears expected ignore turns (fun n => appended (n + 1)) poll.left := by
  have front := spec.front open_ turns
  have comes := clears.comes
  have ignored := clears.ignored
  have enough := clears.enough
  have inTime (n : Nat) (before : n < turns + 1) := clears.inTime n before
  simp only [front, List.length_append] at ignored enough inTime
  simp only [spec.queued, List.length_append] at comes inTime
  refine ⟨?_, fun event member => ignored event (List.mem_append_right _ member), ?_, fun n before => ?_⟩
  · obtain ⟨event, member, same⟩ := comes
    rcases List.mem_append.mp member with taken | later
    · exact absurd same (spec.others_removed open_ event taken)
    · exact ⟨event, later, same⟩
  · cases taken : poll.removed with
    | some event =>
      rw [taken] at enough
      simp only [Option.toList_some, List.length_singleton] at enough
      omega
    | none =>
      -- the queue is empty, so that this poll is lost
      have empty := spec.finds_nothing taken clears.ignored
      have first := inTime 0 (Nat.succ_pos turns)
      rw [empty, taken] at first
      rw [empty]
      simp only [queuedBy, Option.toList_none, List.length_nil] at first
      omega
  · have later := inTime (n + 1) (by omega)
    omega

theorem FrontClears.before_poll
    (clears : FrontClears expected ignore turns (fun n => appended (n + 1)) poll.left) :
    FrontClears expected ignore (turns + 1) appended queue := by
  have front := spec.front open_ turns
  have enough := clears.enough
  have size : poll.removed.toList.length ≤ 1 := by
    cases poll.removed <;> simp
  refine ⟨?_, ?_, ?_, fun n before => ?_⟩
  · obtain ⟨event, member, same⟩ := clears.comes
    rw [spec.queued]
    exact ⟨event, List.mem_append_right _ member, same⟩
  · rw [front]
    intro event member
    rcases List.mem_append.mp member with taken | later
    · exact spec.others open_ event (Option.mem_toList.mp taken)
    · exact clears.ignored event later
  · rw [front, List.length_append]
    omega
  · rw [front, spec.queued, List.length_append, List.length_append]
    cases n with
    | zero => omega
    | succ n =>
      have later := clears.inTime n (by omega)
      omega

/-- A poll that does not deliver leaves the question to the next polls. -/
theorem frontClears_poll :
    FrontClears expected ignore (turns + 1) appended queue ↔
      FrontClears expected ignore turns (fun n => appended (n + 1)) poll.left :=
  ⟨fun clears => clears.after_poll spec open_, fun clears => clears.before_poll spec open_⟩

end Undelivered

theorem frontClears_received {poll : EventPoll}
    (spec : PollSpec expected ignore (queue ++ appended 0) poll) (received : poll.eventReceived = true) :
    FrontClears expected ignore (turns + 1) appended queue := by
  obtain ⟨event, removed, same⟩ := spec.received.mp received
  have queued (n : Nat) : queuedBy (n + 1) appended queue =
      event :: queuedBy n (fun n => appended (n + 1)) poll.left := by
    rw [queuedBy, spec.takes, queuedBy_append, Option.mem_def.mp removed]
    rfl
  have front : inFront expected (queuedBy (turns + 1) appended queue) = [] := by
    rw [queued]
    exact List.takeWhile_cons_of_neg (by simpa using same)
  refine ⟨⟨event, ?_, same⟩, ?_, ?_, fun n before => ?_⟩
  · rw [queued]
    exact List.mem_cons_self
  · rw [front]
    exact nofun
  · rw [front]
    exact Nat.succ_pos turns
  · rw [front, queued, List.length_nil, List.length_cons]
    omega

/-- The ways a wait can go that nobody stops. -/
inductive WaitGoes (expected ignore : FsmEventId) :
    Nat → (Nat → List QueuedEvent) → List QueuedEvent → EventWait → Prop where
  | ended (appended : Nat → List QueuedEvent) (queue : List QueuedEvent) :
    WaitGoes expected ignore 0 appended queue ⟨[], queue, false⟩
  | delivers {turns appended queue poll} (spec : PollSpec expected ignore (queue ++ appended 0) poll)
    (received : poll.eventReceived = true) :
    WaitGoes expected ignore (turns + 1) appended queue ⟨[poll], poll.left, true⟩
  | goesOn {turns appended queue poll run} (spec : PollSpec expected ignore (queue ++ appended 0) poll)
    (open_ : poll.eventReceived = false)
    (rest : WaitGoes expected ignore turns (fun n => appended (n + 1)) poll.left run) :
    WaitGoes expected ignore (turns + 1) appended queue { run with polls := poll :: run.polls }

theorem waitTurns_goes (turns : Nat) (appended : Nat → List QueuedEvent) (queue : List QueuedEvent) :
    WaitGoes expected ignore turns appended queue
      (waitTurns expected ignore turns (unstopped appended) queue) := by
  induction turns generalizing appended queue with
  | zero => exact .ended appended queue
  | succ turns ih =>
    have spec := pollQueue_spec expected ignore (queue ++ appended 0)
    rw [waitTurns_succ expected ignore turns appended queue rfl]
    cases received : (pollQueue expected ignore (queue ++ appended 0)).eventReceived with
    | true => exact .delivers spec received
    | false => exact .goesOn spec received (ih _ _)

variable {run : EventWait}

theorem WaitGoes.received_iff (goes : WaitGoes expected ignore turns appended queue run) :
    run.eventReceived = true ↔ FrontClears expected ignore turns appended queue := by
  induction goes with
  | ended appended queue =>
    constructor
    · intro received
      cases received
    · intro clears
      exact absurd clears.enough (Nat.not_lt_zero _)
  | delivers spec received => exact ⟨fun _ => frontClears_received spec received, fun _ => rfl⟩
  | goesOn spec open_ rest ih =>
    rw [frontClears_poll spec open_]
    exact ih

theorem removed_cons (poll : EventPoll) (polls : List EventPoll) (queue : List QueuedEvent) (received : Bool) :
    (EventWait.mk (poll :: polls) queue received).removed =
      poll.removed.toList ++ polls.filterMap EventPoll.removed := by
  unfold EventWait.removed
  cases taken : poll.removed with
  | none =>
    rw [List.filterMap_cons_none taken]
    rfl
  | some event =>
    rw [List.filterMap_cons_some taken]
    rfl

/-- Nothing is lost and nothing is moved. -/
theorem WaitGoes.order (goes : WaitGoes expected ignore turns appended queue run) :
    queuedBy run.polls.length appended queue = run.removed ++ run.eventQueue := by
  induction goes with
  | ended => rfl
  | @delivers turns appended queue poll spec received =>
    show queuedBy 1 appended queue = _
    rw [queuedBy, spec.takes, queuedBy, removed_cons, List.filterMap_nil, List.append_nil]
  | @goesOn turns appended queue poll run spec open_ rest ih =>
    show queuedBy (run.polls.length + 1) appended queue = _
    rw [queuedBy, spec.takes, queuedBy_append, ih, removed_cons, List.append_assoc]
    rfl

theorem WaitGoes.delivered (goes : WaitGoes expected ignore turns appended queue run)
    (received : run.eventReceived = true) :
    ∃ (before : List EventPoll) (last : EventPoll) (event : QueuedEvent),
      run.polls = before ++ [last] ∧ last.removed = some event ∧
      event.eventId = expected ∧ ∀ poll ∈ before, ∀ other ∈ poll.removed, other.eventId = ignore := by
  induction goes with
  | ended => cases received
  | @delivers turns appended queue poll spec done =>
    obtain ⟨event, removed, same⟩ := spec.received.mp done
    exact ⟨[], poll, event, rfl, removed, same, nofun⟩
  | @goesOn turns appended queue poll run spec open_ rest ih =>
    obtain ⟨before, last, event, polls, removed, same, ignored⟩ := ih received
    refine ⟨poll :: before, last, event, congrArg _ polls, removed, same, ?_⟩
    intro turn member
    rcases List.mem_cons.mp member with rfl | earlier
    · exact spec.others open_
    · exact ignored turn earlier

theorem WaitGoes.missed (goes : WaitGoes expected ignore turns appended queue run)
    (missed : run.eventReceived = false) :
    ∀ poll ∈ run.polls, ∀ event ∈ poll.removed, event.eventId ≠ expected := by
  induction goes with
  | ended => exact nofun
  | delivers => cases missed
  | @goesOn turns appended queue poll run spec open_ rest ih =>
    intro turn member
    rcases List.mem_cons.mp member with rfl | later
    · intro event removed same
      exact absurd ((spec.received.mpr ⟨event, removed, same⟩).symm.trans open_) (by decide)
    · exact ih missed turn later

theorem WaitGoes.seen_queued (goes : WaitGoes expected ignore turns appended queue run)
    (sees : run.Sees expected) : ∃ event ∈ queuedBy turns appended queue, event.eventId = expected := by
  obtain ⟨poll, member, event, seen, same⟩ := sees
  refine ⟨event, ?_, same⟩
  induction goes with
  | ended => cases member
  | @delivers turns appended queue first spec received =>
    obtain rfl := List.mem_singleton.mp member
    rw [spec.seen] at seen
    exact subset_queuedBy turns _ _ seen
  | @goesOn turns appended queue first run spec open_ rest ih =>
    rcases List.mem_cons.mp member with rfl | later
    · rw [spec.seen] at seen
      exact subset_queuedBy turns _ _ seen
    · rw [queuedBy, spec.takes, queuedBy_append]
      exact List.mem_append_right _ (ih later)

/-- A wait that misses the expected event has seen it if it was queued in time for a poll. -/
theorem WaitGoes.queued_seen (goes : WaitGoes expected ignore turns appended queue run)
    (missed : run.eventReceived = false) (some_ : 0 < turns)
    (queued : ∃ event ∈ queuedBy turns appended queue, event.eventId = expected) : run.Sees expected := by
  obtain ⟨event, member, same⟩ := queued
  induction goes with
  | ended => exact absurd some_ (Nat.not_lt_zero 0)
  | delivers => cases missed
  | @goesOn turns appended queue poll run spec open_ rest ih =>
    cases turns with
    | zero => exact ⟨poll, List.mem_cons_self, event, spec.seen.symm ▸ member, same⟩
    | succ turns =>
      rw [queuedBy, spec.takes, queuedBy_append] at member
      rcases List.mem_append.mp member with taken | later
      · refine ⟨poll, List.mem_cons_self, event, ?_, same⟩
        rw [spec.seen, spec.takes]
        exact List.mem_append_left _ taken
      · obtain ⟨turn, there, sees⟩ := ih missed (Nat.succ_pos turns) later
        exact ⟨turn, List.mem_cons_of_mem poll there, sees⟩

theorem WaitGoes.delivers_iff (goes : WaitGoes expected ignore turns appended queue run) :
    run.Delivers expected ignore (queuedBy run.polls.length appended queue) ↔ run.eventReceived = true := by
  constructor
  · rintro ⟨before, last, event, polls, removed, same, -⟩
    cases received : run.eventReceived with
    | true => rfl
    | false =>
      have member : last ∈ run.polls := by
        rw [polls]
        exact List.mem_append_right _ List.mem_cons_self
      exact absurd same (goes.missed received last member event removed)
  · intro received
    obtain ⟨before, last, event, polls, removed, same, ignored⟩ := goes.delivered received
    refine ⟨before, last, event, polls, removed, same, ignored, ?_, ?_⟩
    · rw [goes.order]
      exact List.sublist_append_right _ _
    · rw [goes.order]

end Wait

/-- The wait delivers exactly if it has no turn, or no expected event is queued by its last poll, or the
    events in front of the first expected one are all to be ignored and enough polls are left for them. -/
theorem wait_delivers_iff (expected ignore : FsmEventId) (retries : Int) (appended : Nat → List QueuedEvent)
    (queue : List QueuedEvent) :
    DeliversExpected expected ignore retries appended queue ↔
      retries ≤ 0 ∨ (∀ event ∈ queuedBy retries.toNat appended queue, event.eventId ≠ expected) ∨
        FrontClears expected ignore retries.toNat appended queue := by
  have goes : WaitGoes expected ignore retries.toNat appended queue
    (waitTurns expected ignore retries.toNat (unstopped appended) queue) := waitTurns_goes _ _ _
  unfold DeliversExpected fsmWaitForEvent
  dsimp only
  rw [goes.delivers_iff, ← goes.received_iff]
  generalize waitTurns expected ignore retries.toNat (unstopped appended) queue = run at goes
  constructor
  · intro delivers
    by_cases none_ : retries ≤ 0
    · exact .inl none_
    by_cases absent : ∀ event ∈ queuedBy retries.toNat appended queue, event.eventId ≠ expected
    · exact .inr (.inl absent)
    refine .inr (.inr ?_)
    cases received : run.eventReceived with
    | true => rfl
    | false =>
      have queued : ∃ event ∈ queuedBy retries.toNat appended queue, event.eventId = expected := by
        by_contra none
        exact absent fun event member same => none ⟨event, member, same⟩
      have sees := goes.queued_seen received (by omega) queued
      exact absurd (received.symm.trans (delivers sees)) (by decide)
  · rintro (none_ | absent | received) sees
    · obtain ⟨poll, member, -⟩ := sees
      have turnless : retries.toNat = 0 := by omega
      rw [turnless] at goes
      cases goes
      cases member
    · obtain ⟨event, member, same⟩ := goes.seen_queued sees
      exact absurd same (absent event member)
    · exact received

/-- The modem reports its exception again, and then that it passed. -/
def repeatedMdEx : List QueuedEvent := [⟨.mdEx, []⟩, ⟨.mdExPass, []⟩]

theorem repeated_exception_blocks :
    ¬ ∀ expected ignore retries appended queue,
      DeliversExpected expected ignore retries appended queue := by
  intro always
  have delivers := always .mdExPass .invalid ↑(FSM_MD_EX_PASS_TIMEOUT_MS / FSM_EVENT_POLL_INTERVAL_MS)
    (fun _ => []) repeatedMdEx
  have goes : WaitGoes .mdExPass .invalid 2250 (fun _ => []) repeatedMdEx
    (waitTurns .mdExPass .invalid 2250 (unstopped fun _ => []) repeatedMdEx) := waitTurns_goes _ _ _
  unfold DeliversExpected fsmWaitForEvent at delivers
  have turns : (FSM_MD_EX_PASS_TIMEOUT_MS / FSM_EVENT_POLL_INTERVAL_MS : Nat) = 2250 := by decide
  rw [Int.toNat_natCast, turns] at delivers
  generalize waitTurns .mdExPass .invalid 2250 (unstopped fun _ => []) repeatedMdEx = run at goes delivers
  have missed : run.eventReceived = false := by
    cases received : run.eventReceived with
    | false => rfl
    | true =>
      have clears := goes.received_iff.mp received
      exact absurd (head_ignored clears.ignored (Option.mem_some_iff.mpr rfl) (by decide)) (by decide)
  have queued : (⟨.mdExPass, []⟩ : QueuedEvent) ∈ queuedBy 2250 (fun _ => []) repeatedMdEx :=
    subset_queuedBy _ _ _ (by decide)
  have sees := goes.queued_seen missed (by decide) ⟨_, queued, rfl⟩
  exact absurd (missed.symm.trans (goes.delivers_iff.mp (delivers sees))) (by decide)

end T7xxModel.Fsm
