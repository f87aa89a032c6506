import T7xx.Fsm.CommandSafety

namespace T7xxModel.Fsm

open Kernel Transition Pci

section Liveness

/-- A step of the main thread, or of `t7xx_fsm_uninit` once it has been called. -/
def FinishLabel.works : FinishLabel → Prop
  | .thread _ | .finisher | .uninitGoesOn => True
  | _ => False

/-- The main thread, and after it `t7xx_fsm_uninit`, goes on when it can. -/
def Fair (trace : Trace FinishRun.step) : Prop :=
  ∀ n, (∃ label, label.works ∧ (trace.state n).step label ≠ none) → ∃ m ≥ n, (trace.label m).works

def Routine.Next (after before : Routine) : Prop :=
  match before with
  | .done => False
  | .finishCommand _ rest | .flushQueues rest | .writeCtl _ rest => after = rest
  | .appendCmd _ _ rest => ∃ ret, after = rest ret
  | .readCtl rest => ∃ ctl, after = rest ctl
  | .shouldStop rest => ∃ stop, after = rest stop
  | .ask rest => ∃ answer, after = rest answer

theorem Routine.next_wellFounded : WellFounded Routine.Next := by
  refine ⟨fun routine => ?_⟩
  induction routine with
  | done => exact ⟨_, fun _ next => next.elim⟩
  | finishCommand result rest ih => exact ⟨_, fun _ next => next ▸ ih⟩
  | flushQueues rest ih => exact ⟨_, fun _ next => next ▸ ih⟩
  | writeCtl change rest ih => exact ⟨_, fun _ next => next ▸ ih⟩
  | appendCmd cmdId flag rest ih =>
    refine ⟨_, ?_⟩
    rintro _ ⟨ret, rfl⟩
    exact ih ret
  | readCtl rest ih =>
    refine ⟨_, ?_⟩
    rintro _ ⟨ctl, rfl⟩
    exact ih ctl
  | shouldStop rest ih =>
    refine ⟨_, ?_⟩
    rintro _ ⟨stop, rfl⟩
    exact ih stop
  | ask rest ih =>
    refine ⟨_, ?_⟩
    rintro _ ⟨answer, rfl⟩
    exact ih answer

def FinishThread.stage : FinishThread → Nat
  | .running _ _ | .flushing _ _ => 5
  | .testStop => 4
  | .waiting => 3
  | .woken => 2
  | .taking => 1
  | .exited => 0

def FinishThread.routine : FinishThread → Routine
  | .running _ routine | .flushing _ routine => routine
  | _ => .done

/-- How many commands are taken from the queue until the command is, if it is there. -/
def position (i : Nat) (queue : List Nat) : Nat := if i ∈ queue then queue.idxOf i + 1 else 0

/-- What is left of a flush, of a call of `fsm_finish_command`, and of the way to the last flush. -/
def FinishRun.remaining (s : FinishRun) : Nat :=
  let flush := match s.thread with
    | .flushing _ _ => s.commandQueue.length + 1
    | _ => 0
  let finisher := match s.finisher with
    | .idle => 0
    | .completing _ => 2
    | .putting _ => 1
  let uninit := match s.uninit with
    | .idle | .stopping => 1
    | .flushing | .returned => 0
  3 * flush + finisher + uninit

/-- How far a command is from being finished. -/
def FinishRun.rank (s : FinishRun) (i : Nat) : Nat × Nat × Routine × Nat :=
  (position i s.commandQueue, s.thread.stage, s.thread.routine, s.remaining)

def Nearer : Nat × Nat × Routine × Nat → Nat × Nat × Routine × Nat → Prop :=
  Prod.Lex (· < ·) (Prod.Lex (· < ·) (Prod.Lex Routine.Next (· < ·)))

theorem nearer_wellFounded : WellFounded Nearer :=
  Nat.lt_wfRel.wf.prod_lex (Nat.lt_wfRel.wf.prod_lex (Routine.next_wellFounded.prod_lex Nat.lt_wfRel.wf))

section Ranks

variable {s t : FinishRun} {i : Nat}

theorem nearer_of_position (less : position i t.commandQueue < position i s.commandQueue) :
    Nearer (t.rank i) (s.rank i) := .left _ _ less

theorem nearer_of_stage (queue : t.commandQueue = s.commandQueue)
    (less : t.thread.stage < s.thread.stage) : Nearer (t.rank i) (s.rank i) := by
  unfold FinishRun.rank
  rw [queue]
  exact .right _ (.left _ _ less)

theorem nearer_of_next (place : position i t.commandQueue = position i s.commandQueue)
    (stage : t.thread.stage = s.thread.stage) (next : Routine.Next t.thread.routine s.thread.routine) :
    Nearer (t.rank i) (s.rank i) := by
  unfold FinishRun.rank
  rw [place, stage]
  exact .right _ (.right _ (.left _ _ next))

theorem nearer_of_remaining (place : position i t.commandQueue = position i s.commandQueue)
    (stage : t.thread.stage = s.thread.stage) (routine : t.thread.routine = s.thread.routine)
    (less : t.remaining < s.remaining) : Nearer (t.rank i) (s.rank i) := by
  unfold FinishRun.rank
  rw [place, stage, routine]
  exact .right _ (.right _ (.right _ less))

theorem position_append {queue : List Nat} {last : Nat} (other : i ≠ last) :
    position i (queue ++ [last]) = position i queue := by
  unfold position
  by_cases member : i ∈ queue
  · rw [if_pos (List.mem_append_left _ member), if_pos member, List.idxOf_append_of_mem member]
  · have absent : i ∉ queue ++ [last] := by
      rw [List.mem_append, List.mem_singleton, not_or]
      exact ⟨member, other⟩
    rw [if_neg absent, if_neg member]

theorem position_cons {queue : List Nat} {first : Nat} (other : i ≠ first) (member : i ∈ queue) :
    position i queue < position i (first :: queue) := by
  unfold position
  rw [if_pos member, if_pos (List.mem_cons_of_mem _ member), List.idxOf_cons_ne _ (Ne.symm other)]
  exact Nat.lt_succ_self _

theorem position_head {queue : List Nat} (absent : i ∉ queue) :
    position i queue < position i (i :: queue) := by
  unfold position
  rw [if_neg absent, if_pos List.mem_cons_self]
  exact Nat.succ_pos _

theorem position_absent {queue : List Nat} (absent : i ∉ queue) : position i queue = 0 := if_neg absent

end Ranks

section Progress

variable {s t : FinishRun} {i : Nat}

/-- A command that was appended in time and has not been finished yet. -/
structure Pending (s : FinishRun) (i : Nat) : Prop where
  inv : FinishInv s
  appended : i < s.appended
  uncalled : s.calls i = []

theorem Pending.old (pending : Pending s i) : i < s.created := by
  have before := pending.appended
  unfold FinishRun.appended at before
  split at before
  · exact before
  · rename_i begun
    exact Nat.lt_of_lt_of_le before (pending.inv.phased.begun begun)

theorem Pending.queued (pending : Pending s i) (free : s.thread.runs = none) : i ∈ s.commandQueue := by
  by_contra absent
  have once := pending.inv.accounted.settled i pending.old absent fun routine runs => by
    rw [free] at runs
    cases runs
  rw [pending.uncalled] at once
  cases once

theorem Pending.unreturned (pending : Pending s i) : s.uninit ≠ .returned := by
  intro returned
  have once := pending.inv.finishedOnce.finished returned i pending.appended
  rw [pending.uncalled] at once
  cases once

theorem flushHead_nearer {j : Nat} {commandQueue : List Nat} (member : i ∈ s.commandQueue)
    (queue : s.commandQueue = j :: commandQueue) (result : Int) :
    ({ s with commandQueue }.finishCommand j result).calls i ≠ [] ∨
      Nearer (({ s with commandQueue }.finishCommand j result).rank i) (s.rank i) := by
  by_cases own : i = j
  · left
    show Function.update s.calls j (s.calls j ++ [result]) i ≠ []
    rw [own, Function.update_self]
    exact List.append_ne_nil_of_right_ne_nil _ (List.cons_ne_nil _ _)
  · right
    apply nearer_of_position
    rw [queue] at member ⊢
    exact position_cons own ((List.mem_cons.mp member).resolve_left own)

theorem finisherStep_nearer (taken : s.finisherStep = some t) : Nearer (t.rank i) (s.rank i) := by
  unfold FinishRun.finisherStep at taken
  split at taken
  · cases taken
  · rename_i j completing
    cases taken
    refine nearer_of_remaining rfl rfl rfl ?_
    unfold FinishRun.remaining
    rw [completing]
    exact Nat.add_lt_add_right (Nat.add_lt_add_left (Nat.lt_succ_self 1) _) _
  · rename_i j putting
    cases taken
    refine nearer_of_remaining rfl rfl rfl ?_
    unfold FinishRun.remaining
    rw [putting]
    exact Nat.add_lt_add_right (Nat.add_lt_add_left (Nat.lt_succ_self 0) _) _

theorem runStep_nearer {j : Nat} {routine : Routine} (answer : RoutineAnswer) (pending : Pending s i)
    (running : s.thread = .running j routine) :
    (s.runStep answer j routine).calls i ≠ [] ∨ Nearer ((s.runStep answer j routine).rank i) (s.rank i) := by
  have stage : 5 = s.thread.stage := by rw [running]; rfl
  have next {after : Routine} (goes : Routine.Next after routine) :
      Routine.Next after s.thread.routine := by rw [running]; exact goes
  cases routine with
  | done =>
    refine .inr (nearer_of_stage rfl ?_)
    rw [← stage]
    exact Nat.lt_succ_self 4
  | finishCommand result rest =>
    by_cases own : i = j
    · left
      show Function.update s.calls j (s.calls j ++ [result]) i ≠ []
      rw [own, Function.update_self]
      exact List.append_ne_nil_of_right_ne_nil _ (List.cons_ne_nil _ _)
    · exact .inr (nearer_of_next rfl stage (next rfl))
  | flushQueues rest => exact .inr (nearer_of_next rfl stage (next rfl))
  | appendCmd cmdId flag rest =>
    by_cases allocated : answer.allocated = true
    · rw [FinishRun.runStep, if_pos allocated]
      refine .inr (nearer_of_next ?_ stage (next ⟨0, rfl⟩))
      exact position_append (Nat.ne_of_lt pending.old)
    · rw [FinishRun.runStep, if_neg allocated]
      exact .inr (nearer_of_next rfl stage (next ⟨-ENOMEM, rfl⟩))
  | readCtl rest => exact .inr (nearer_of_next rfl stage (next ⟨s.ctl, rfl⟩))
  | writeCtl change rest => exact .inr (nearer_of_next rfl stage (next rfl))
  | shouldStop rest => exact .inr (nearer_of_next rfl stage (next ⟨s.shouldStop, rfl⟩))
  | ask rest => exact .inr (nearer_of_next rfl stage (next ⟨answer, rfl⟩))

theorem threadStep_nearer {answer : RoutineAnswer} (pending : Pending s i) (idle : s.finisher = .idle)
    (taken : s.threadStep answer = some t) : t.calls i ≠ [] ∨ Nearer (t.rank i) (s.rank i) := by
  unfold FinishRun.threadStep at taken
  split at taken
  · rename_i test
    cases taken
    refine .inr (nearer_of_stage rfl ?_)
    rw [test]
    show FinishThread.stage (if s.shouldStop then .exited else .waiting) < 4
    split <;> decide
  · rename_i waiting
    split at taken
    · cases taken
      refine .inr (nearer_of_stage rfl ?_)
      rw [waiting]
      exact Nat.lt_succ_self 2
    · cases taken
  · rename_i woken
    cases taken
    refine .inr (nearer_of_stage rfl ?_)
    rw [woken]
    show FinishThread.stage (if s.shouldStop then .exited else .taking) < 2
    split <;> decide
  · rename_i taking
    split at taken
    · cases taken
    · rename_i j commandQueue queue
      cases taken
      have member : i ∈ s.commandQueue := pending.queued (by rw [taking]; rfl)
      have nodup := pending.inv.accounted.nodup
      refine .inr (nearer_of_position ?_)
      rw [queue] at member nodup ⊢
      by_cases own : i = j
      · rw [own]
        exact position_head (List.nodup_cons.mp nodup).1
      · exact position_cons own ((List.mem_cons.mp member).resolve_left own)
  · rename_i j routine running
    cases taken
    exact runStep_nearer answer pending running
  · rename_i j rest flushing
    have stage : 5 = s.thread.stage := by rw [flushing]; rfl
    have routine : rest = s.thread.routine := by rw [flushing]; rfl
    split at taken
    · rename_i empty
      cases taken
      refine .inr (nearer_of_remaining rfl stage routine ?_)
      unfold FinishRun.remaining
      rw [flushing, empty]
      dsimp only [List.length_nil]
      omega
    · rename_i k commandQueue queue
      cases taken
      by_cases member : i ∈ s.commandQueue
      · exact flushHead_nearer member queue (-EINVAL)
      · have absent := member
        rw [queue, List.mem_cons, not_or] at absent
        refine .inr (nearer_of_remaining ?_ rfl rfl ?_)
        · rw [position_absent member]
          exact position_absent absent.2
        · unfold FinishRun.remaining FinishRun.finishCommand
          rw [queue, idle]
          dsimp only [FinishRun.access]
          rw [flushing]
          dsimp only [List.length_cons]
          omega
  · cases taken

theorem uninitStep_nearer (pending : Pending s i) (taken : s.uninitStep = some t) :
    t.calls i ≠ [] ∨ Nearer (t.rank i) (s.rank i) := by
  unfold FinishRun.uninitStep at taken
  split at taken
  · rename_i stopping exited
    cases taken
    refine .inr (nearer_of_remaining rfl rfl rfl ?_)
    unfold FinishRun.remaining
    rw [stopping, exited]
    exact Nat.lt_succ_self _
  · rename_i flushing
    have exited := pending.inv.phased.joined (.inl flushing)
    have member : i ∈ s.commandQueue := pending.queued (by rw [exited]; rfl)
    split at taken
    · rename_i empty
      rw [empty] at member
      cases member
    · rename_i j commandQueue queue
      cases taken
      exact flushHead_nearer member queue (-EINVAL)
  · cases taken

theorem works_nearer {label : FinishLabel} (pending : Pending s i) (works : label.works)
    (taken : s.step label = some t) : t.calls i ≠ [] ∨ Nearer (t.rank i) (s.rank i) := by
  cases label with
  | append cmdId flag => exact works.elim
  | waiter j step => exact works.elim
  | uninit => exact works.elim
  | other => exact works.elim
  | thread answer =>
    obtain ⟨idle, taken⟩ := Option.ite_none_right_eq_some.mp taken
    exact threadStep_nearer pending idle taken
  | finisher => exact .inr (finisherStep_nearer taken)
  | uninitGoesOn => exact uninitStep_nearer pending (Option.ite_none_right_eq_some.mp taken).2

theorem others_same {label : FinishLabel} (pending : Pending s i) (idles : ¬ label.works)
    (taken : s.step label = some t) : t.rank i = s.rank i := by
  cases label with
  | append cmdId flag =>
    obtain ⟨unlocked, taken⟩ := Option.ite_none_left_eq_some.mp taken
    cases taken
    unfold FinishRun.rank
    have place : position i (s.append cmdId flag).commandQueue = position i s.commandQueue :=
      position_append (Nat.ne_of_lt pending.old)
    have remaining : (s.append cmdId flag).remaining = s.remaining := by
      unfold FinishRun.remaining FinishRun.append
      dsimp only
      split
      · rename_i flushing
        have locked : s.locked = true := by
          unfold FinishRun.locked
          rw [flushing]
          cases s.uninit <;> rfl
        exact absurd locked unlocked
      · rfl
    rw [place, remaining]
    rfl
  | waiter j step =>
    obtain ⟨_, taken⟩ := Option.ite_none_right_eq_some.mp taken
    obtain ⟨changed, _, rfl⟩ := Option.map_eq_some_iff.mp taken
    rfl
  | uninit =>
    obtain ⟨idle, taken⟩ := Option.ite_none_right_eq_some.mp taken
    cases taken
    unfold FinishRun.rank FinishRun.remaining
    rw [idle]
  | other =>
    cases taken
    rfl
  | thread answer => exact absurd trivial idles
  | finisher => exact absurd trivial idles
  | uninitGoesOn => exact absurd trivial idles

theorem appended_le (uninit : t.uninit = s.uninit) (begun : t.begun = s.begun)
    (created : s.created ≤ t.created) : s.appended ≤ t.appended := by
  unfold FinishRun.appended
  rw [uninit, begun]
  split
  · exact created
  · exact Nat.le_refl _

theorem runStep_appended (answer : RoutineAnswer) (j : Nat) (routine : Routine) :
    s.appended ≤ (s.runStep answer j routine).appended := by
  cases routine with
  | appendCmd cmdId flag rest =>
    by_cases allocated : answer.allocated = true
    · rw [FinishRun.runStep, if_pos allocated]
      exact appended_le rfl rfl (Nat.le_succ _)
    · rw [FinishRun.runStep, if_neg allocated]
      exact Nat.le_refl _
  | _ => exact Nat.le_refl _

theorem threadStep_appended {answer : RoutineAnswer} (taken : s.threadStep answer = some t) :
    s.appended ≤ t.appended := by
  unfold FinishRun.threadStep at taken
  split at taken
  · cases taken
    exact Nat.le_refl _
  · split at taken <;> cases taken
    exact Nat.le_refl _
  · cases taken
    exact Nat.le_refl _
  · split at taken <;> cases taken
    exact Nat.le_refl _
  · cases taken
    exact runStep_appended answer _ _
  · split at taken <;> cases taken <;> exact Nat.le_refl _
  · cases taken

theorem appended_grows {label : FinishLabel} (taken : s.step label = some t) :
    s.appended ≤ t.appended := by
  cases label with
  | append cmdId flag =>
    cases (Option.ite_none_left_eq_some.mp taken).2
    exact appended_le rfl rfl (Nat.le_succ _)
  | waiter j step =>
    obtain ⟨changed, _, rfl⟩ := Option.map_eq_some_iff.mp (Option.ite_none_right_eq_some.mp taken).2
    exact Nat.le_refl _
  | thread answer => exact threadStep_appended (Option.ite_none_right_eq_some.mp taken).2
  | finisher =>
    rw [FinishRun.step, FinishRun.finisherStep] at taken
    split at taken <;> cases taken <;> exact Nat.le_refl _
  | uninit =>
    obtain ⟨idle, taken⟩ := Option.ite_none_right_eq_some.mp taken
    cases taken
    exact Nat.le_of_eq (if_pos idle)
  | uninitGoesOn =>
    have taken := (Option.ite_none_right_eq_some.mp taken).2
    unfold FinishRun.uninitStep at taken
    split at taken
    · rename_i stopping _
      cases taken
      unfold FinishRun.appended
      rw [stopping]
      exact Nat.le_refl _
    · rename_i flushing
      split at taken <;> cases taken
      · unfold FinishRun.appended
        rw [flushing]
        exact Nat.le_refl _
      · exact Nat.le_refl _
    · cases taken
  | other =>
    cases taken
    exact Nat.le_refl _

theorem Pending.busy (pending : Pending s i) :
    ∃ label : FinishLabel, label.works ∧ s.step label ≠ none := by
  have phased := pending.inv.phased
  by_cases idle : s.finisher = .idle
  · have thread (answer : RoutineAnswer) (goes : s.threadStep answer ≠ none) :
        ∃ label : FinishLabel, label.works ∧ s.step label ≠ none := by
      refine ⟨.thread answer, trivial, ?_⟩
      rw [FinishRun.step, if_pos idle]
      exact goes
    have answer : RoutineAnswer := ⟨false, 0, .ready, false, false, none, 0, false⟩
    cases here : s.thread with
    | testStop =>
      refine thread answer ?_
      rw [FinishRun.threadStep, here]
      nofun
    | waiting =>
      have queue := List.ne_nil_of_mem (pending.queued (by rw [here]; rfl))
      refine thread answer ?_
      rw [FinishRun.threadStep, here]
      dsimp only
      rw [if_pos (.inl queue)]
      nofun
    | woken =>
      refine thread answer ?_
      rw [FinishRun.threadStep, here]
      nofun
    | taking =>
      refine thread answer ?_
      rw [FinishRun.threadStep, here]
      obtain ⟨j, commandQueue, queue⟩ := List.exists_cons_of_ne_nil (phased.taking here)
      rw [queue]
      nofun
    | running j routine =>
      refine thread answer ?_
      rw [FinishRun.threadStep, here]
      nofun
    | flushing j rest =>
      refine thread answer ?_
      rw [FinishRun.threadStep, here]
      cases s.commandQueue <;> nofun
    | exited =>
      refine ⟨.uninitGoesOn, trivial, ?_⟩
      rw [FinishRun.step, if_pos idle, FinishRun.uninitStep, here]
      cases uninit : s.uninit with
      | idle => exact absurd uninit (phased.stopped (phased.exited here))
      | stopping => nofun
      | flushing => cases s.commandQueue <;> nofun
      | returned => exact absurd uninit pending.unreturned
  · refine ⟨.finisher, trivial, ?_⟩
    rw [FinishRun.step, FinishRun.finisherStep]
    cases here : s.finisher with
    | idle => exact absurd here idle
    | completing j => nofun
    | putting j => nofun

theorem appended_finishes {trace : Trace FinishRun.step} (fair : Fair trace) {n : Nat}
    (inv : FinishInv (trace.state n)) (before : i < (trace.state n).appended) :
    ∃ m ≥ n, ((trace.state m).calls i).length = 1 := by
  have stays := trace.always (fun s => FinishInv s ∧ i < s.appended)
    (fun s label t both taken => ⟨finishStep_kept s label t both.1 taken,
      Nat.lt_of_lt_of_le both.2 (appended_grows taken)⟩) ⟨inv, before⟩
  have pends (m : Nat) (later : m ≥ n) (away : ¬ (trace.state m).calls i ≠ []) :
      Pending (trace.state m) i :=
    ⟨(stays m later).1, (stays m later).2, not_not.mp away⟩
  have called : ∃ m ≥ n, (trace.state m).calls i ≠ [] := by
    refine trace.leads_to_of_wellFounded nearer_wellFounded (fun s => s.calls i ≠ [])
      (fun s => s.rank i) FinishLabel.works ?_ ?_ ?_
    · intro m later away
      by_cases works : (trace.label m).works
      · exact (works_nearer (pends m later away) works (trace.steps m)).imp id .inr
      · exact .inr (.inl (others_same (pends m later away) works (trace.steps m)))
    · exact fun m later away works => works_nearer (pends m later away) works (trace.steps m)
    · exact fun m later away => fair m (pends m later away).busy
  obtain ⟨m, later, called⟩ := called
  have atMost := (stays m later).1.accounted.atMostOnce i
  have some := List.length_pos_iff.mpr called
  exact ⟨m, later, by omega⟩

end Progress

/-- Every command is finished at most once in every run, a waiter returns what it was finished with or
    `-ETIMEDOUT`, `t7xx_fsm_uninit` returns after every command appended before it has been finished,
    and such a command is finished some time if the threads that can go on do so. -/
theorem commands_finish_once (ctl : FsmCtl) :
    (∀ labels : List FinishLabel, Visits FinishedOnce FinishRun.step (finishStart ctl) labels) ∧
      ∀ trace : Trace FinishRun.step, trace.state 0 = finishStart ctl → Fair trace →
        ∀ n, ∀ i < (trace.state n).appended, ∃ m ≥ n, ((trace.state m).calls i).length = 1 := by
  constructor
  · intro labels
    exact Visits.of_kept FinishInv (fun _ inv => inv.finishedOnce) finishStep_kept labels
      (finishStart_inv ctl)
  · intro trace starts fair n i before
    have inv := trace.always FinishInv finishStep_kept (starts ▸ finishStart_inv ctl) n (Nat.zero_le n)
    exact appended_finishes fair inv before

/-- A caller that waits for its `FSM_CMD_STOP`, and `t7xx_fsm_uninit` after it. -/
def stopLabels : List FinishLabel :=
  let thread : FinishLabel := .thread ⟨false, 0, .ready, true, true, none, 0, true⟩
  .append .stop FSM_CMD_FLAG_WAIT_FOR_COMPLETION :: List.replicate 12 thread ++
    [.finisher, .waiter 0 .waitDone, .waiter 0 .readResult, .waiter 0 .put, .finisher, .uninit] ++
      List.replicate 2 thread ++ [.uninitGoesOn, .uninitGoesOn]

def stopTrace : Trace FinishRun.step :=
  Trace.stutter (finishStart { currState := .ready, status := T7XX_DEV_STAGE_LINUX }) stopLabels .other
    ⟨_, rfl, rfl⟩

theorem stopTrace_fair : Fair stopTrace := by
  rintro n ⟨label, works, goes⟩
  by_cases past : stopLabels.length ≤ n
  · have ended : stopTrace.state n = stopTrace.state stopLabels.length :=
      (replay_end rfl n past).trans (replay_end rfl _ (Nat.le_refl _)).symm
    rw [ended] at goes
    cases label with
    | thread answer => exact absurd rfl goes
    | finisher => exact absurd rfl goes
    | uninitGoesOn => exact absurd rfl goes
    | _ => exact works.elim
  · exact ⟨stopLabels.length - 1, by omega, trivial⟩

theorem commands_finish_once_stop :
    (Visits FinishedOnce FinishRun.step (stopTrace.state 0) stopLabels) ∧
      (∃ m ≥ 1, ((stopTrace.state m).calls 0).length = 1) ∧
        ((stopTrace.state stopLabels.length).cmd 0).waiter = .returned 0 := by
  have once := commands_finish_once { currState := .ready, status := T7XX_DEV_STAGE_LINUX }
  exact ⟨once.1 stopLabels, once.2 stopTrace rfl stopTrace_fair 1 0 (Nat.succ_pos 0), rfl⟩

end Liveness

end T7xxModel.Fsm
