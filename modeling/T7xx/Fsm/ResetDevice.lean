import T7xx.Fsm.CommandQueue
import T7xx.Transition.Traces

namespace T7xxModel.Fsm

open Pci Transition

inductive ResetType where
  | fldr
  | pldr
  | fastboot
deriving DecidableEq, Repr

/-- The next action of `t7xx_reset_device`. -/
inductive ResetPc where
  | sendStop
  | stopWait
  | modeUpdate
  | resetFunction
  | reinit
  | sendStart
  | returned (ret : Int)
deriving DecidableEq, Repr

/-- The START command of the reset: not appended yet, behind `ahead` others in the queue, taken out
    of it as `cmd`, whose routine is then entered, or gone from it otherwise. -/
inductive StartFate where
  | none
  | queued (ahead : Nat)
  | given (cmd : FsmCommand)
  | discarded
deriving DecidableEq, Repr

/-- A reset beside the state machine; `polls` counts what `fsm_wait_for_event` has done of its
    retries. -/
structure ResetRun where
  run : FsmRun
  polls : Nat
  pc : ResetPc
  start : StartFate
deriving DecidableEq, Repr

inductive ResetLabel where
  | fsm (label : FsmLabel)
  | sendStop (allocated : Bool)
  | stopWaitOver
  | modeReset
  | resetFunction (ret : Int)
  | reinit (ret : Int)
  | sendStart (allocated : Bool)
deriving DecidableEq, Repr

section Steps

/-- Where the command is after a step that found the queue `before` and left it `after`. -/
def StartFate.after (label : FsmLabel) (before after : List FsmCommand) : StartFate → StartFate
  | .queued ahead =>
    let stays := fun place => if place < after.length then StartFate.queued place else .discarded
    if label = .dequeue then
      match ahead, before with
      | 0, cmd :: _ => .given cmd
      | ahead + 1, _ => stays ahead
      | 0, [] => .discarded
    else stays ahead
  | fate => fate

def ResetRun.fsmStep (s : ResetRun) (label : FsmLabel) : Option ResetRun :=
  if label = .pollEvent ∧ s.run.thread.retries ≤ s.polls then none
  else
    (s.run.step label).map fun run =>
      { s with
        run
        polls := pollsAfter label s.run.thread run.thread s.polls
        start := s.start.after label s.run.m.commandQueue run.m.commandQueue }

/-- `t7xx_reset_device`: whatever the wait for the STOP command returns, it goes on. -/
def ResetRun.step (type : ResetType) (s : ResetRun) (label : ResetLabel) : Option ResetRun :=
  match label, s.pc with
  | .fsm label, _ => s.fsmStep label
  | .sendStop allocated, .sendStop =>
    if allocated then
      let m := fsmAppendCmd .stop FSM_CMD_FLAG_WAIT_FOR_COMPLETION s.run.m
      some { s with run := { s.run with m }, pc := .stopWait }
    else some { s with pc := .modeUpdate }
  | .stopWaitOver, .stopWait => some { s with pc := .modeUpdate }
  | .modeReset, .modeUpdate =>
    some { s with run := { s.run with m := modeUpdate .reset s.run.m }, pc := .resetFunction }
  | .resetFunction ret, .resetFunction =>
    if type ≠ .fastboot ∧ ret ≠ 0 then some { s with pc := .returned ret }
    else some { s with pc := .reinit }
  | .reinit ret, .reinit =>
    if ret ≠ 0 then some { s with pc := .returned ret } else some { s with pc := .sendStart }
  | .sendStart allocated, .sendStart =>
    let m := { s.run.m with dev := { s.run.m.dev with rguPciIrqEn := true } }
    if allocated then
      some { s with
        run := { s.run with m := fsmAppendCmd .start 0 m }
        pc := .returned 0
        start := .queued m.commandQueue.length }
    else some { s with run := { s.run with m }, pc := .returned (-ENOMEM) }
  | _, _ => none

def ResetRun.Begins (s : ResetRun) : Prop := s.pc = .sendStop ∧ s.start = .none

instance (s : ResetRun) : Decidable s.Begins := inferInstanceAs (Decidable (_ ∧ _))

def ResetRun.StartQueued (s : ResetRun) : Prop :=
  match s.start with
  | .queued _ => True
  | _ => False

instance (s : ResetRun) : Decidable s.StartQueued := by
  unfold ResetRun.StartQueued
  cases s.start <;> infer_instance

/-- The step flushes the queue with the START command of the reset in it. -/
def ResetRun.FlushesStart (s : ResetRun) : ResetLabel → Prop
  | .fsm label => s.StartQueued ∧ s.run.Flushes label
  | _ => False

instance (s : ResetRun) (label : ResetLabel) : Decidable (s.FlushesStart label) := by
  cases label <;> unfold ResetRun.FlushesStart <;> infer_instance

def ResetRun.ThreadReady (s : ResetRun) : Prop :=
  s.run.thread ≠ .idle ∨ s.run.m.commandQueue ≠ []

instance (s : ResetRun) : Decidable s.ThreadReady := inferInstanceAs (Decidable (_ ∨ _))

def ResetLabel.ByThread : ResetLabel → Prop
  | .fsm label => label.byThread = true
  | _ => False

instance (label : ResetLabel) : Decidable label.ByThread := by
  cases label <;> unfold ResetLabel.ByThread <;> infer_instance

/-- Whenever the main thread has something to do it makes another step. -/
def ThreadFair {type : ResetType} (trace : Trace (ResetRun.step type)) : Prop :=
  ∀ n, (trace.state n).ThreadReady → ∃ k ≥ n, (trace.label k).ByThread

end Steps

section Tracking

variable {type : ResetType} {s t : ResetRun} {label : ResetLabel} {ahead : Nat}

structure StartTracked (s : ResetRun) : Prop where
  sent : s.start ≠ .none ↔ s.pc = .returned 0
  place : ∀ ahead, s.start = .queued ahead → s.run.m.commandQueue[ahead]? = some ⟨.start, 0⟩
  routine : ∀ cmd, s.start = .given cmd → cmd = ⟨.start, 0⟩

/-- What one step of the others does to the START command in the queue. -/
inductive QueuedStep (s t : ResetRun) (ahead : Nat) (label : FsmLabel) : Prop where
  | flushed (flushes : s.run.Flushes label) (start : t.start = .discarded)
  | taken (quiet : ¬ s.run.Flushes label) (first : ahead = 0)
      (start : t.start = .given ⟨.start, 0⟩)
  | nearer (quiet : ¬ s.run.Flushes label) (dequeue : label = .dequeue) (before : Nat)
      (count : ahead = before + 1) (start : t.start = .queued before)
      (place : t.run.m.commandQueue[before]? = some ⟨.start, 0⟩)
  | stays (quiet : ¬ s.run.Flushes label) (other : label ≠ .dequeue) (start : t.start = .queued ahead)
      (place : t.run.m.commandQueue[ahead]? = some ⟨.start, 0⟩)

theorem fsmStep_parts {inner : FsmLabel} (taken : s.fsmStep inner = some t) :
    (inner = .pollEvent → s.polls < s.run.thread.retries) ∧ s.run.step inner = some t.run ∧
      t.polls = pollsAfter inner s.run.thread t.run.thread s.polls ∧ t.pc = s.pc ∧
      t.start = s.start.after inner s.run.m.commandQueue t.run.m.commandQueue := by
  unfold ResetRun.fsmStep at taken
  split at taken
  · cases taken
  rename_i room
  obtain ⟨run, stepped, rfl⟩ := Option.map_eq_some_iff.mp taken
  refine ⟨fun poll => ?_, stepped, rfl, rfl, rfl⟩
  by_contra spent
  exact room ⟨poll, by omega⟩

theorem after_stays {before after : List FsmCommand} {inner : FsmLabel} (other : inner ≠ .dequeue) :
    StartFate.after inner before after (.queued ahead) =
      if ahead < after.length then .queued ahead else .discarded := by
  unfold StartFate.after
  dsimp only
  rw [if_neg other]

theorem queued_fsmStep {inner : FsmLabel} (tracked : StartTracked s)
    (queued : s.start = .queued ahead) (taken : s.fsmStep inner = some t) :
    QueuedStep s t ahead inner := by
  obtain ⟨_, stepped, _, _, fate⟩ := fsmStep_parts taken
  have place := tracked.place ahead queued
  rw [queued] at fate
  rcases queued_step place stepped with
    ⟨flushes, queue, behind⟩ | ⟨rfl, rfl, rest, queue⟩ | ⟨quiet, rfl, before, rfl, place'⟩ |
      ⟨quiet, other, place'⟩
  · refine .flushed flushes ?_
    by_cases dequeue : inner = .dequeue
    · subst dequeue
      obtain ⟨before, rfl⟩ := Nat.exists_eq_succ_of_ne_zero (behind rfl)
      rw [queue] at fate
      exact fate
    · rw [after_stays dequeue, queue] at fate
      exact fate
  · have quiet : ¬ s.run.Flushes .dequeue := by
      rintro ⟨head, member, flushed⟩
      rw [queue] at member
      cases member
      rcases flushed with invalid | ⟨stop, _⟩
      · cases invalid
      · cases stop
    rw [queue] at fate
    exact .taken quiet rfl fate
  · obtain ⟨below, _⟩ := List.getElem?_eq_some_iff.mp place'
    have fate : t.start =
        if before < t.run.m.commandQueue.length then .queued before else .discarded := fate
    rw [if_pos below] at fate
    exact .nearer quiet rfl before rfl fate place'
  · obtain ⟨below, _⟩ := List.getElem?_eq_some_iff.mp place'
    rw [after_stays other, if_pos below] at fate
    exact .stays quiet other fate place'

/-- Once the START command is appended the reset is over, and only other threads take steps. -/
theorem sent_step (tracked : StartTracked s) (sent : s.start ≠ .none)
    (taken : s.step type label = some t) : ∃ inner, label = .fsm inner ∧ s.fsmStep inner = some t := by
  have returned := tracked.sent.mp sent
  unfold ResetRun.step at taken
  split at taken
  · rename_i inner
    exact ⟨inner, rfl, taken⟩
  all_goals first | (rename_i pc; rw [returned] at pc; cases pc) | cases taken

/-- Until it appends the START command the reset has not returned 0. -/
theorem unsent_step (unsent : s.start = .none) (waits : s.pc ≠ .returned 0)
    (taken : s.step type label = some t) :
    (t.start = .none ∧ t.pc ≠ .returned 0) ∨
      (t.pc = .returned 0 ∧ t.start = .queued s.run.m.commandQueue.length ∧
        t.run.m.commandQueue = s.run.m.commandQueue ++ [⟨.start, 0⟩]) := by
  unfold ResetRun.step at taken
  split at taken
  · obtain ⟨_, _, _, pc, start⟩ := fsmStep_parts taken
    left
    rw [pc, start, unsent]
    exact ⟨rfl, waits⟩
  · split at taken <;> cases taken <;> exact Or.inl ⟨unsent, nofun⟩
  · cases taken
    exact Or.inl ⟨unsent, nofun⟩
  · cases taken
    exact Or.inl ⟨unsent, nofun⟩
  · split at taken
    · rename_i failed
      cases taken
      exact Or.inl ⟨unsent, fun zero => failed.2 (ResetPc.returned.inj zero)⟩
    · cases taken
      exact Or.inl ⟨unsent, nofun⟩
  · split at taken
    · rename_i failed
      cases taken
      exact Or.inl ⟨unsent, fun zero => failed (ResetPc.returned.inj zero)⟩
    · cases taken
      exact Or.inl ⟨unsent, nofun⟩
  · dsimp only at taken
    split at taken
    · cases taken
      exact Or.inr ⟨rfl, rfl, rfl⟩
    · cases taken
      exact Or.inl ⟨unsent, nofun⟩
  · cases taken

theorem StartTracked.step (tracked : StartTracked s) (taken : s.step type label = some t) :
    StartTracked t := by
  by_cases sent : s.start ≠ .none
  · obtain ⟨inner, rfl, stepped⟩ := sent_step tracked sent taken
    have parts := fsmStep_parts stepped
    have ended : t.pc = .returned 0 := parts.2.2.2.1.trans (tracked.sent.mp sent)
    cases fate : s.start with
    | none => exact absurd fate sent
    | queued ahead =>
      cases queued_fsmStep tracked fate stepped with
      | flushed _ start =>
        exact ⟨by simp [start, ended], by simp [start], by simp [start]⟩
      | taken _ _ start =>
        exact ⟨by simp [start, ended], by simp [start], by simp [start]⟩
      | nearer _ _ before _ start place =>
        refine ⟨by simp [start, ended], ?_, by simp [start]⟩
        rw [start]
        rintro _ ⟨⟩
        exact place
      | stays _ _ start place =>
        refine ⟨by simp [start, ended], ?_, by simp [start]⟩
        rw [start]
        rintro _ ⟨⟩
        exact place
    | given cmd =>
      have start : t.start = .given cmd := by rw [parts.2.2.2.2, fate]; rfl
      have routine := tracked.routine cmd fate
      exact ⟨by simp [start, ended], by simp [start], by simp [start, routine]⟩
    | discarded =>
      have start : t.start = .discarded := by rw [parts.2.2.2.2, fate]; rfl
      exact ⟨by simp [start, ended], by simp [start], by simp [start]⟩
  · rw [not_not] at sent
    have waits : s.pc ≠ .returned 0 := fun returned => tracked.sent.mpr returned sent
    rcases unsent_step sent waits taken with ⟨start, running⟩ | ⟨ended, start, queue⟩
    · exact ⟨by simp [start, running], by simp [start], by simp [start]⟩
    · refine ⟨by simp [start, ended], ?_, by simp [start]⟩
      rw [start, queue]
      rintro _ ⟨⟩
      exact List.getElem?_concat_length

/-- A START command that was taken out of the queue, or flushed, stays so. -/
theorem settled_step (tracked : StartTracked s) (sent : s.start ≠ .none)
    (settled : ¬ s.StartQueued) (taken : s.step type label = some t) : t.start = s.start := by
  obtain ⟨inner, rfl, stepped⟩ := sent_step tracked sent taken
  rw [(fsmStep_parts stepped).2.2.2.2]
  cases fate : s.start with
  | none => rfl
  | queued ahead =>
    unfold ResetRun.StartQueued at settled
    rw [fate] at settled
    exact absurd trivial settled
  | given cmd => rfl
  | discarded => rfl

end Tracking

section Progress

variable {type : ResetType} {s t : ResetRun} {label : ResetLabel} {ahead : Nat}

theorem startQueued_iff : s.StartQueued ↔ ∃ ahead, s.start = .queued ahead := by
  unfold ResetRun.StartQueued
  cases s.start with
  | queued ahead => exact iff_of_true trivial ⟨ahead, rfl⟩
  | _ => exact iff_of_false id (fun ⟨_, same⟩ => nomatch same)

/-- A bound on the steps of the main thread until it takes the START command. -/
def ResetRun.rank (s : ResetRun) : Nat :=
  match s.start with
  | .queued ahead => ahead * 2753 + s.run.thread.stepsLeft s.polls
  | _ => 0

theorem rank_queued (queued : s.start = .queued ahead) :
    s.rank = ahead * 2753 + s.run.thread.stepsLeft s.polls := by
  unfold ResetRun.rank
  rw [queued]

theorem rank_step (tracked : StartTracked s) (queued : s.start = .queued ahead)
    (taken : s.step type label = some t) :
    ¬ t.StartQueued ∨ t.rank ≤ s.rank ∧ (label.ByThread → t.rank < s.rank) := by
  have sent : s.start ≠ .none := by rw [queued]; nofun
  obtain ⟨inner, rfl, stepped⟩ := sent_step tracked sent taken
  obtain ⟨again, inside, polls, _, _⟩ := fsmStep_parts stepped
  have gone (fate : StartFate) (start : t.start = fate) (ended : ∀ before, fate ≠ .queued before) :
      ¬ t.StartQueued := by
    rw [startQueued_iff]
    rintro ⟨before, waits⟩
    exact ended before (start.symm.trans waits)
  cases queued_fsmStep tracked queued stepped with
  | flushed _ start => exact Or.inl (gone _ start nofun)
  | taken _ _ start => exact Or.inl (gone _ start nofun)
  | nearer _ _ before count start _ =>
    have bound := stepsLeft_bound t.run.thread t.polls
    rw [rank_queued queued, rank_queued start, count]
    have less : before * 2753 + t.run.thread.stepsLeft t.polls <
        (before + 1) * 2753 + s.run.thread.stepsLeft s.polls := by omega
    exact Or.inr ⟨Nat.le_of_lt less, fun _ => less⟩
  | stays _ other start _ =>
    right
    rw [rank_queued queued, rank_queued start, polls]
    by_cases mine : inner.byThread = true
    · have lower := step_lowers mine other again inside
      have less := Nat.add_lt_add_left lower (ahead * 2753)
      exact ⟨Nat.le_of_lt less, fun _ => less⟩
    · have same := step_thread (Bool.eq_false_iff.mpr mine) inside
      have quiet : inner ≠ .pollEvent := by
        rintro rfl
        exact mine rfl
      have kept : pollsAfter inner s.run.thread t.run.thread s.polls = s.polls := by
        unfold pollsAfter
        rw [if_neg (not_not.mpr same), if_neg quiet]
      rw [kept, same]
      exact ⟨Nat.le_refl _, fun thread => absurd thread mine⟩

theorem begins_tracked (begins : s.Begins) : StartTracked s := by
  obtain ⟨pc, start⟩ := begins
  exact ⟨by simp [pc, start], by simp [start], by simp [start]⟩

theorem trace_tracked (trace : Trace (ResetRun.step type)) (begins : (trace.state 0).Begins)
    (n : Nat) : StartTracked (trace.state n) :=
  trace.always StartTracked (fun _ _ _ tracked taken => tracked.step taken) (begins_tracked begins) n
    (Nat.zero_le n)

theorem trace_sent (trace : Trace (ResetRun.step type)) (begins : (trace.state 0).Begins) {n : Nat}
    (returned : (trace.state n).pc = .returned 0) : ∀ m ≥ n, (trace.state m).start ≠ .none := by
  intro m later
  have tracked := trace_tracked trace begins
  induction later with
  | refl => exact (tracked n).sent.mpr returned
  | @step m _ ih =>
    obtain ⟨inner, _, stepped⟩ := sent_step (tracked m) ih (trace.steps m)
    refine (tracked (m + 1)).sent.mpr ?_
    exact (fsmStep_parts stepped).2.2.2.1.trans ((tracked m).sent.mp ih)

/-- A START command that no step flushes is never discarded. -/
theorem trace_kept (trace : Trace (ResetRun.step type)) (begins : (trace.state 0).Begins)
    (quiet : ∀ m, ¬ (trace.state m).FlushesStart (trace.label m)) (m : Nat) :
    (trace.state m).start ≠ .discarded := by
  have tracked := trace_tracked trace begins
  induction m with
  | zero =>
    rw [begins.2]
    nofun
  | succ m ih =>
    intro gone
    by_cases sent : (trace.state m).start = .none
    · have waits : (trace.state m).pc ≠ .returned 0 := fun returned =>
        (tracked m).sent.mpr returned sent
      rcases unsent_step sent waits (trace.steps m) with ⟨start, _⟩ | ⟨_, start, _⟩
      · exact nomatch start.symm.trans gone
      · exact nomatch start.symm.trans gone
    · by_cases queued : (trace.state m).StartQueued
      · obtain ⟨ahead, fate⟩ := startQueued_iff.mp queued
        obtain ⟨inner, label, stepped⟩ := sent_step (tracked m) sent (trace.steps m)
        have calm := quiet m
        rw [label] at calm
        cases queued_fsmStep (tracked m) fate stepped with
        | flushed flushes _ => exact calm ⟨queued, flushes⟩
        | taken _ _ start => exact nomatch start.symm.trans gone
        | nearer _ _ _ _ start _ => exact nomatch start.symm.trans gone
        | stays _ _ start _ => exact nomatch start.symm.trans gone
      · exact ih ((settled_step (tracked m) sent queued (trace.steps m)).symm.trans gone)

/-- The START command leaves the queue in the end. -/
theorem trace_leaves (trace : Trace (ResetRun.step type)) (begins : (trace.state 0).Begins)
    (fair : ThreadFair trace) (n : Nat) : ∃ m ≥ n, ¬ (trace.state m).StartQueued := by
  have tracked := trace_tracked trace begins
  have ranked (m : Nat) (queued : ¬ ¬ (trace.state m).StartQueued) :=
    let waits := startQueued_iff.mp (not_not.mp queued)
    rank_step (tracked m) waits.choose_spec (trace.steps m)
  apply trace.leads_to (fun s => ¬ s.StartQueued) ResetRun.rank ResetLabel.ByThread
  · intro m _ queued
    exact (ranked m queued).imp_right fun order => order.1
  · intro m _ queued mine
    exact (ranked m queued).imp_right fun order => order.2 mine
  · intro m _ queued
    apply fair m
    obtain ⟨ahead, waits⟩ := startQueued_iff.mp (not_not.mp queued)
    right
    intro empty
    have place := (tracked m).place ahead waits
    rw [empty] at place
    cases place

/-- When the reset returns 0 its START command is eventually handed to `fsm_routine_start` and never
    discarded, if and only if no flush meets it in the queue. -/
theorem reset_start_given_iff (trace : Trace (ResetRun.step type))
    (begins : (trace.state 0).Begins) (fair : ThreadFair trace) {n : Nat}
    (returned : (trace.state n).pc = .returned 0) :
    ((∃ m, (trace.state m).start = .given ⟨.start, 0⟩) ∧
        ∀ m, (trace.state m).start ≠ .discarded) ↔
      ∀ m, ¬ (trace.state m).FlushesStart (trace.label m) := by
  have tracked := trace_tracked trace begins
  constructor
  · rintro ⟨_, kept⟩ m flushes
    have taken := trace.steps m
    cases label : trace.label m with
    | fsm inner =>
      rw [label] at flushes taken
      obtain ⟨ahead, fate⟩ := startQueued_iff.mp flushes.1
      cases queued_fsmStep (tracked m) fate taken with
      | flushed _ start => exact kept (m + 1) start
      | taken quiet _ _ => exact quiet flushes.2
      | nearer quiet _ _ _ _ _ => exact quiet flushes.2
      | stays quiet _ _ _ => exact quiet flushes.2
    | _ =>
      rw [label] at flushes
      exact flushes
  · intro quiet
    have kept := trace_kept trace begins quiet
    refine ⟨?_, kept⟩
    obtain ⟨m, later, left⟩ := trace_leaves trace begins fair n
    refine ⟨m, ?_⟩
    cases fate : (trace.state m).start with
    | none => exact absurd fate (trace_sent trace begins returned m later)
    | queued ahead => exact absurd (startQueued_iff.mpr ⟨ahead, fate⟩) left
    | given cmd => rw [(tracked m).routine cmd fate]
    | discarded => exact absurd fate (kept m)

end Progress

section Runs

variable {type : ResetType}

def resetOf (run : FsmRun) : ResetRun := { run, polls := 0, pc := .sendStop, start := .none }

/-- The device boots as far as the wait of `fsm_routine_starting`. -/
def bootLabels : List ResetLabel := (bootUpTo 0).map .fsm

def resetLabels : List ResetLabel := [.modeReset, .resetFunction 0, .reinit 0, .sendStart true]

/-- A reset whose STOP is handled within the two seconds. -/
def stopInTime : List ResetLabel :=
  bootLabels ++ [.fsm .handshakeWake, .sendStop true, .fsm .dequeue, .stopWaitOver] ++ resetLabels ++
    [.fsm .dequeue, .fsm (.devStage true 0)]

/-- A reset whose STOP is handled when the wait for the handshakes is over, after the START was
    appended. -/
def stopLate : List ResetLabel :=
  bootLabels ++ [.sendStop true, .stopWaitOver] ++ resetLabels ++
    [.fsm .handshakeWake, .fsm .dequeue]

/-- A run is fair whose last step is the main thread's and leaves it without a command. -/
theorem stutter_fair (s : ResetRun) (labels : List ResetLabel)
    (ends : ∃ t ∈ execute (ResetRun.step type) s labels,
      ResetRun.step type t (.fsm (.deviceInt 0)) = some t)
    (waits : ∀ t ∈ execute (ResetRun.step type) s labels, ¬ t.ThreadReady)
    (last : (labels.getD (labels.length - 1) (.fsm (.deviceInt 0))).ByThread) :
    ThreadFair (Trace.stutter s labels (.fsm (.deviceInt 0)) ends) := by
  intro n ready
  by_cases past : labels.length ≤ n
  · obtain ⟨t, run, _⟩ := ends
    have finished := replay_end run n past
    have state : (Trace.stutter s labels (.fsm (.deviceInt 0)) ⟨t, run, ‹_›⟩).state n = t := finished
    rw [state] at ready
    exact absurd ready (waits t run)
  · exact ⟨labels.length - 1, by omega, last⟩

def stopInTimeTrace : Trace (ResetRun.step .fldr) :=
  Trace.stutter (resetOf (FsmRun.probed probedDev)) stopInTime (.fsm (.deviceInt 0)) (by decide)

def stopLateTrace : Trace (ResetRun.step .fldr) :=
  Trace.stutter (resetOf (FsmRun.probed probedDev)) stopLate (.fsm (.deviceInt 0)) (by decide)

theorem stopInTimeTrace_fair : ThreadFair stopInTimeTrace :=
  stutter_fair _ _ _ (by decide) (by decide)

theorem stopInTimeTrace_quiet (m : Nat) :
    ¬ (stopInTimeTrace.state m).FlushesStart (stopInTimeTrace.label m) := by
  by_cases past : stopInTime.length ≤ m
  · have idle : stopInTimeTrace.label m = .fsm (.deviceInt 0) := by
      show stopInTime.getD m _ = _
      rw [List.getD_eq_getElem?_getD, List.getElem?_eq_none past]
      rfl
    rw [idle]
    exact fun flushes => flushes.2
  · have early : ∀ k < stopInTime.length,
        ¬ (stopInTimeTrace.state k).FlushesStart (stopInTimeTrace.label k) := by decide
    exact early m (by omega)

theorem reset_start_given_in_time :
    (∃ m, (stopInTimeTrace.state m).start = .given ⟨.start, 0⟩) ∧
      ∀ m, (stopInTimeTrace.state m).start ≠ .discarded :=
  (reset_start_given_iff stopInTimeTrace (by decide) stopInTimeTrace_fair
    (show (stopInTimeTrace.state 17).pc = .returned 0 by decide)).mpr stopInTimeTrace_quiet

theorem late_stop_discards_start :
    (stopLateTrace.state 0).Begins ∧ ThreadFair stopLateTrace ∧
      (stopLateTrace.state 15).pc = .returned 0 ∧
      ¬ ((∃ m, (stopLateTrace.state m).start = .given ⟨.start, 0⟩) ∧
        ∀ m, (stopLateTrace.state m).start ≠ .discarded) := by
  refine ⟨by decide, stutter_fair _ _ _ (by decide) (by decide), by decide, ?_⟩
  rintro ⟨_, kept⟩
  exact kept 17 (by decide)

end Runs

end T7xxModel.Fsm
