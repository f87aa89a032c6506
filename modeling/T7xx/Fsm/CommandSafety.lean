import T7xx.Fsm.CommandRoutines

namespace T7xxModel.Fsm

open Kernel Transition Pci

section Results

structure Reported (cmd : FsmCmd) (calls : List Int) : Prop where
  done : cmd.done.done ≠ 0 → calls = [cmd.result]
  completed : cmd.waiter = .completed → calls = [cmd.result]
  releasing : ∀ ret, cmd.waiter = .releasing ret → ret = -ETIMEDOUT ∨ calls = [ret]
  returned : ∀ ret, cmd.waiter = .returned ret → ret = -ETIMEDOUT ∨ calls = [ret]

theorem allocCmd_reported (cmdId : FsmCmdId) (flag : BitVec 32) (calls : List Int) :
    Reported (allocCmd cmdId flag) calls := by
  unfold allocCmd
  dsimp only
  split <;> exact ⟨fun done => absurd rfl done, nofun, nofun, nofun⟩

theorem Reported.storeResult {cmd : FsmCmd} (reported : Reported cmd []) (result : Int) :
    Reported (cmd.storeResult result) [result] := by
  have timedOut (ret : Int) (either : ret = -ETIMEDOUT ∨ [] = [ret]) : ret = -ETIMEDOUT :=
    either.resolve_right nofun
  have same : (cmd.storeResult result).done = cmd.done ∧
      (cmd.storeResult result).waiter = cmd.waiter := by
    unfold FsmCmd.storeResult
    split <;> exact ⟨rfl, rfl⟩
  obtain ⟨done, waiter⟩ := same
  refine ⟨fun set => ?_, fun read => ?_, fun ret read => ?_, fun ret read => ?_⟩
  · exact absurd (reported.done (done ▸ set)) nofun
  · exact absurd (reported.completed (waiter ▸ read)) nofun
  · exact .inl (timedOut ret (reported.releasing ret (waiter ▸ read)))
  · exact .inl (timedOut ret (reported.returned ret (waiter ▸ read)))

theorem Reported.completeDone {cmd : FsmCmd} {calls : List Int} (reported : Reported cmd calls)
    (stored : cmd.waits = true → calls = [cmd.result]) : Reported cmd.completeDone calls := by
  unfold FsmCmd.completeDone
  split
  · rename_i waits
    exact ⟨fun _ => stored waits, reported.completed, reported.releasing, reported.returned⟩
  · exact reported

theorem Reported.waiterStep {cmd changed : FsmCmd} {calls : List Int} {step : WaiterStep}
    (reported : Reported cmd calls) (taken : cmd.waiterStep step = some changed) :
    Reported changed calls := by
  unfold FsmCmd.waiterStep at taken
  split at taken
  · split at taken
    · obtain ⟨done, took, rfl⟩ := Option.map_eq_some_iff.mp taken
      have set : cmd.done.done ≠ 0 := Nat.ne_of_gt (Completion.tryWait_pos took)
      exact ⟨fun _ => reported.done set, fun _ => reported.done set, nofun, nofun⟩
    · cases taken
  · split at taken
    · cases taken
      refine ⟨reported.done, nofun, fun ret read => ?_, nofun⟩
      cases read
      exact .inl rfl
    · cases taken
  · split at taken
    · rename_i completed
      cases taken
      refine ⟨reported.done, nofun, fun ret read => ?_, nofun⟩
      cases read
      exact .inr (reported.completed completed)
    · cases taken
  · split at taken
    · rename_i ret releasing
      cases taken
      refine ⟨reported.done, nofun, nofun, fun ret read => ?_⟩
      cases read
      exact reported.releasing ret releasing
    · cases taken

theorem waiterStep_same {cmd changed : FsmCmd} {step : WaiterStep}
    (taken : cmd.waiterStep step = some changed) :
    changed.waits = cmd.waits ∧ changed.result = cmd.result := by
  unfold FsmCmd.waiterStep at taken
  split at taken
  · split at taken
    · obtain ⟨done, _, rfl⟩ := Option.map_eq_some_iff.mp taken
      exact ⟨rfl, rfl⟩
    · cases taken
  · split at taken <;> cases taken
    exact ⟨rfl, rfl⟩
  · split at taken <;> cases taken
    exact ⟨rfl, rfl⟩
  · split at taken <;> cases taken
    exact ⟨rfl, rfl⟩

end Results

section Invariant

/-- How far the main thread and `t7xx_fsm_uninit` can be. -/
structure Phased (s : FinishRun) : Prop where
  woken : s.thread = .woken → s.commandQueue ≠ [] ∨ s.shouldStop = true
  taking : s.thread = .taking → s.commandQueue ≠ []
  exited : s.thread = .exited → s.shouldStop = true
  stopped : s.shouldStop = true → s.uninit ≠ .idle
  joined : s.uninit = .flushing ∨ s.uninit = .returned → s.thread = .exited
  flushed : s.uninit = .returned → ∀ i ∈ s.commandQueue, s.begun ≤ i
  begun : s.uninit ≠ .idle → s.begun ≤ s.created

structure FinishInv (s : FinishRun) : Prop where
  accounted : Accounted s.created s.commandQueue s.calls s.thread.runs
  reported : ∀ i, Reported (s.cmd i) (s.calls i)
  completing : ∀ i, s.finisher = .completing i →
    i < s.created ∧ ((s.cmd i).waits = true → s.calls i = [(s.cmd i).result])
  phased : Phased s

theorem finishStart_inv (ctl : FsmCtl) : FinishInv (finishStart ctl) where
  accounted := ⟨List.nodup_nil, nofun, nofun, nofun, fun _ _ => rfl⟩
  reported _ := allocCmd_reported .invalid 0 []
  completing := nofun
  phased := ⟨nofun, nofun, nofun, nofun, nofun, nofun, nofun⟩

theorem finishCommand_reported {s : FinishRun} {i : Nat} (inv : FinishInv s) (old : i < s.created)
    (uncalled : s.calls i = []) (result : Int) :
    (∀ j, Reported ((s.finishCommand i result).cmd j) ((s.finishCommand i result).calls j)) ∧
      ∀ j, (s.finishCommand i result).finisher = .completing j → j < s.created ∧
        (((s.finishCommand i result).cmd j).waits = true →
          (s.finishCommand i result).calls j = [((s.finishCommand i result).cmd j).result]) := by
  have own : (s.finishCommand i result).cmd i = (s.cmd i).storeResult result :=
    Function.update_self i _ _
  have called : (s.finishCommand i result).calls i = [result] := by
    refine (Function.update_self i _ _).trans ?_
    rw [uncalled]
    rfl
  constructor
  · intro j
    by_cases same : j = i
    · rw [same, own, called]
      exact (uncalled ▸ inv.reported i).storeResult result
    · have cmd : (s.finishCommand i result).cmd j = s.cmd j := Function.update_of_ne same _ _
      have calls : (s.finishCommand i result).calls j = s.calls j := Function.update_of_ne same _ _
      rw [cmd, calls]
      exact inv.reported j
  · intro j here
    cases here
    refine ⟨old, fun waits => ?_⟩
    rw [own] at waits ⊢
    rw [called]
    unfold FsmCmd.storeResult at waits ⊢
    split
    · rfl
    · rename_i idle
      rw [if_neg idle] at waits
      exact absurd waits idle

theorem finishAppend_kept {s : FinishRun} (cmdId : FsmCmdId) (flag : BitVec 32) (inv : FinishInv s) :
    FinishInv (s.append cmdId flag) := by
  have phased := inv.phased
  refine ⟨inv.accounted.append, fun i => ?_, fun i here => ?_, ?_⟩
  · show Reported (Function.update s.cmd s.created (allocCmd cmdId flag) i) (s.calls i)
    by_cases new : i = s.created
    · rw [new, Function.update_self]
      exact allocCmd_reported cmdId flag _
    · rw [Function.update_of_ne new]
      exact inv.reported i
  · obtain ⟨old, stored⟩ := inv.completing i here
    have same : (s.append cmdId flag).cmd i = s.cmd i := Function.update_of_ne (Nat.ne_of_lt old) _ _
    rw [same]
    exact ⟨Nat.lt_succ_of_lt old, stored⟩
  · refine ⟨fun _ => ?_, fun _ => ?_, phased.exited, phased.stopped, phased.joined,
      fun returned i member => ?_, fun begun => Nat.le_succ_of_le (phased.begun begun)⟩
    · exact .inl (List.append_ne_nil_of_right_ne_nil _ (List.cons_ne_nil _ _))
    · exact List.append_ne_nil_of_right_ne_nil _ (List.cons_ne_nil _ _)
    · rcases List.mem_append.mp member with before | last
      · exact phased.flushed returned i before
      · rw [List.mem_singleton.mp last]
        refine phased.begun fun idle => ?_
        exact FsmUninit.noConfusion (idle.symm.trans returned)

theorem access_kept {s : FinishRun} {i : Nat} {changed : FsmCmd} (inv : FinishInv s)
    (reported : Reported changed (s.calls i)) (finisher : Finisher)
    (completing : ∀ j, finisher = .completing j → s.finisher = .completing j)
    (same : changed.waits = (s.cmd i).waits ∧ changed.result = (s.cmd i).result) :
    FinishInv { s with cmd := Function.update s.cmd i changed, finisher } := by
  have phased := inv.phased
  refine ⟨inv.accounted, fun j => ?_, fun j here => ?_, ⟨phased.woken, phased.taking, phased.exited,
    phased.stopped, phased.joined, phased.flushed, phased.begun⟩⟩
  · show Reported (Function.update s.cmd i changed j) (s.calls j)
    by_cases own : j = i
    · rw [own, Function.update_self]
      exact reported
    · rw [Function.update_of_ne own]
      exact inv.reported j
  · show j < s.created ∧ ((Function.update s.cmd i changed j).waits = true →
      s.calls j = [(Function.update s.cmd i changed j).result])
    by_cases own : j = i
    · rw [own, Function.update_self, same.1, same.2]
      exact inv.completing i (own ▸ completing j here)
    · rw [Function.update_of_ne own]
      exact inv.completing j (completing j here)

theorem finisherStep_kept {s t : FinishRun} (inv : FinishInv s) (taken : s.finisherStep = some t) :
    FinishInv t := by
  unfold FinishRun.finisherStep at taken
  split at taken
  · cases taken
  · rename_i i completing
    cases taken
    refine access_kept inv ?_ (.putting i) nofun ?_
    · exact (inv.reported i).completeDone (inv.completing i completing).2
    · unfold FsmCmd.completeDone
      split <;> exact ⟨rfl, rfl⟩
  · rename_i i putting
    cases taken
    refine access_kept inv ?_ .idle nofun ⟨rfl, rfl⟩
    obtain ⟨done, completed, releasing, returned⟩ := inv.reported i
    exact ⟨done, completed, releasing, returned⟩

theorem betweenCommands_kept {s : FinishRun} {thread : FinishThread} (inv : FinishInv s)
    (idle : thread.runs = s.thread.runs) (running : s.thread ≠ .exited)
    (woken : thread = .woken → s.commandQueue ≠ [] ∨ s.shouldStop = true)
    (taking : thread = .taking → s.commandQueue ≠ [])
    (exited : thread = .exited → s.shouldStop = true) : FinishInv { s with thread } := by
  have phased := inv.phased
  refine ⟨?_, inv.reported, inv.completing, ⟨woken, taking, exited, phased.stopped,
    fun joined => absurd (phased.joined joined) running, phased.flushed, phased.begun⟩⟩
  rw [idle]
  exact inv.accounted

theorem insideCommand_kept {s : FinishRun} {i : Nat} {routine rest : Routine} {thread : FinishThread}
    (inv : FinishInv s) (runs : s.thread.runs = some (i, routine)) (ctl : FsmCtl)
    (stays : thread.runs = some (i, rest))
    (goes : ∀ later, routine.Finishes later → rest.Finishes later) :
    FinishInv { s with ctl, thread } := by
  have phased := inv.phased
  refine ⟨?_, inv.reported, inv.completing, ⟨?_, ?_, ?_, phased.stopped, fun joined => ?_,
    phased.flushed, phased.begun⟩⟩
  · rw [stays]
    exact (runs ▸ inv.accounted).goOn goes
  · rintro rfl
    cases stays
  · rintro rfl
    cases stays
  · rintro rfl
    cases stays
  · rw [phased.joined joined] at runs
    cases runs

theorem flushHead_kept {s : FinishRun} {i : Nat} {commandQueue : List Nat} (inv : FinishInv s)
    (queue : s.commandQueue = i :: commandQueue)
    (flushes : s.thread ≠ .woken ∧ s.thread ≠ .taking) (result : Int) :
    FinishInv ({ s with commandQueue }.finishCommand i result) := by
  have phased := inv.phased
  have accounted := queue ▸ inv.accounted
  obtain ⟨old, uncalled⟩ := accounted.queued i List.mem_cons_self
  obtain ⟨reported, completing⟩ := finishCommand_reported inv old uncalled result
  refine ⟨accounted.flushHead result, reported, completing, ⟨fun woken => absurd woken flushes.1,
    fun taking => absurd taking flushes.2, phased.exited, phased.stopped, phased.joined,
    fun returned j member => ?_, phased.begun⟩⟩
  exact phased.flushed returned j (queue ▸ List.mem_cons_of_mem i member)

theorem runStep_kept {s : FinishRun} {i : Nat} {routine : Routine} (answer : RoutineAnswer)
    (inv : FinishInv s) (running : s.thread = .running i routine) :
    FinishInv (s.runStep answer i routine) := by
  have runs : s.thread.runs = some (i, routine) := by rw [running]; rfl
  have accounted := runs ▸ inv.accounted
  have phased := inv.phased
  have unjoined : ¬ (s.uninit = .flushing ∨ s.uninit = .returned) := by
    intro joined
    rw [phased.joined joined] at running
    cases running
  cases routine with
  | done =>
    exact ⟨accounted.leave, inv.reported, inv.completing, ⟨nofun, nofun, nofun, phased.stopped,
      fun joined => absurd joined unjoined, phased.flushed, phased.begun⟩⟩
  | finishCommand result rest =>
    obtain ⟨reported, completing⟩ := finishCommand_reported inv (accounted.handled i _ rfl).1
      accounted.uncalled.1 result
    exact ⟨accounted.finishOwn, reported, completing, ⟨nofun, nofun, nofun, phased.stopped,
      fun joined => absurd joined unjoined, phased.flushed, phased.begun⟩⟩
  | flushQueues rest => exact insideCommand_kept inv runs s.ctl rfl fun _ finishes => finishes
  | appendCmd cmdId flag rest =>
    by_cases allocated : answer.allocated = true
    · rw [FinishRun.runStep, if_pos allocated]
      exact insideCommand_kept (finishAppend_kept cmdId flag inv) runs s.ctl rfl
        fun _ finishes => finishes 0
    · rw [FinishRun.runStep, if_neg allocated]
      exact insideCommand_kept inv runs s.ctl rfl fun _ finishes => finishes (-ENOMEM)
  | readCtl rest => exact insideCommand_kept inv runs s.ctl rfl fun _ finishes => finishes s.ctl
  | writeCtl change rest =>
    exact insideCommand_kept inv runs (change s.ctl) rfl fun _ finishes => finishes
  | shouldStop rest =>
    exact insideCommand_kept inv runs s.ctl rfl fun _ finishes => finishes s.shouldStop
  | ask rest => exact insideCommand_kept inv runs s.ctl rfl fun _ finishes => finishes answer

theorem finishThreadStep_kept {s t : FinishRun} {answer : RoutineAnswer} (inv : FinishInv s)
    (taken : s.threadStep answer = some t) : FinishInv t := by
  have phased := inv.phased
  unfold FinishRun.threadStep at taken
  split at taken
  · rename_i test
    cases taken
    have running : s.thread ≠ .exited := by rw [test]; nofun
    by_cases stop : s.shouldStop = true
    · rw [if_pos stop]
      exact betweenCommands_kept inv (by rw [test]; rfl) running nofun nofun fun _ => stop
    · rw [if_neg stop]
      exact betweenCommands_kept inv (by rw [test]; rfl) running nofun nofun nofun
  · rename_i waiting
    have running : s.thread ≠ .exited := by rw [waiting]; nofun
    split at taken
    · rename_i wakes
      cases taken
      exact betweenCommands_kept inv (by rw [waiting]; rfl) running (fun _ => wakes) nofun nofun
    · cases taken
  · rename_i woken
    cases taken
    have running : s.thread ≠ .exited := by rw [woken]; nofun
    by_cases stop : s.shouldStop = true
    · rw [if_pos stop]
      exact betweenCommands_kept inv (by rw [woken]; rfl) running nofun nofun fun _ => stop
    · rw [if_neg stop]
      exact betweenCommands_kept inv (by rw [woken]; rfl) running nofun
        (fun _ => (phased.woken woken).resolve_right stop) nofun
  · rename_i taking
    split at taken
    · cases taken
    · rename_i i commandQueue queue
      cases taken
      have accounted : Accounted s.created (i :: commandQueue) s.calls none := by
        have accounted := inv.accounted
        rw [queue, taking] at accounted
        exact accounted
      refine ⟨accounted.take (Routine.fsmHandleCommand_finishes (s.cmd i)), inv.reported,
        inv.completing, ⟨nofun, nofun, nofun, phased.stopped, fun joined => ?_, fun returned j member => ?_,
        phased.begun⟩⟩
      · rw [phased.joined joined] at taking
        cases taking
      · exact phased.flushed returned j (queue ▸ List.mem_cons_of_mem i member)
  · rename_i i routine running
    cases taken
    exact runStep_kept answer inv running
  · rename_i i rest flushing
    have runs : s.thread.runs = some (i, rest) := by rw [flushing]; rfl
    split at taken
    · cases taken
      exact insideCommand_kept inv runs s.ctl rfl fun _ finishes => finishes
    · rename_i j commandQueue queue
      cases taken
      have flushes : s.thread ≠ .woken ∧ s.thread ≠ .taking := by
        rw [flushing]
        exact ⟨nofun, nofun⟩
      exact flushHead_kept inv queue flushes (-EINVAL)
  · cases taken

theorem uninitStep_kept {s t : FinishRun} (inv : FinishInv s) (taken : s.uninitStep = some t) :
    FinishInv t := by
  have phased := inv.phased
  unfold FinishRun.uninitStep at taken
  split at taken
  · rename_i stopping exited
    cases taken
    exact ⟨inv.accounted, inv.reported, inv.completing, ⟨phased.woken, phased.taking, phased.exited,
      nofun, fun _ => exited, nofun, fun _ => phased.begun (by rw [stopping]; nofun)⟩⟩
  · rename_i flushing
    have exited := phased.joined (.inl flushing)
    split at taken
    · rename_i empty
      cases taken
      refine ⟨inv.accounted, inv.reported, inv.completing, ⟨phased.woken, phased.taking, phased.exited,
        nofun, fun _ => exited, fun _ i member => ?_, fun _ => phased.begun (by rw [flushing]; nofun)⟩⟩
      have member : i ∈ s.commandQueue := member
      rw [empty] at member
      cases member
    · rename_i i commandQueue queue
      cases taken
      have flushes : s.thread ≠ .woken ∧ s.thread ≠ .taking := by
        rw [exited]
        exact ⟨nofun, nofun⟩
      exact flushHead_kept inv queue flushes (-EINVAL)
  · cases taken

theorem finishStep_kept (s : FinishRun) (label : FinishLabel) (t : FinishRun) (inv : FinishInv s)
    (taken : s.step label = some t) : FinishInv t := by
  have phased := inv.phased
  unfold FinishRun.step at taken
  split at taken
  · rename_i cmdId flag
    split at taken
    · cases taken
    · cases taken
      exact finishAppend_kept cmdId flag inv
  · rename_i i step
    split at taken
    · obtain ⟨changed, moved, rfl⟩ := Option.map_eq_some_iff.mp taken
      exact access_kept inv ((inv.reported i).waiterStep moved) s.finisher (fun _ same => same)
        (waiterStep_same moved)
    · cases taken
  · split at taken
    · exact finishThreadStep_kept inv taken
    · cases taken
  · exact finisherStep_kept inv taken
  · split at taken
    · rename_i idle
      cases taken
      refine ⟨inv.accounted, inv.reported, inv.completing, ⟨fun _ => .inr rfl, phased.taking,
        fun _ => rfl, nofun, ?_, nofun, fun _ => Nat.le_refl _⟩⟩
      rintro (flushing | returned)
      · cases flushing
      · cases returned
    · cases taken
  · split at taken
    · exact uninitStep_kept inv taken
    · cases taken
  · cases taken
    exact inv

end Invariant

section Safety

def FinishRun.appended (s : FinishRun) : Nat := if s.uninit = .idle then s.created else s.begun

/-- No command is finished twice, a waiter returns what its command was finished with, and once
    `t7xx_fsm_uninit` has returned every command appended before it has been finished. -/
structure FinishedOnce (s : FinishRun) : Prop where
  atMost : ∀ i < s.created, (s.calls i).length ≤ 1
  returned : ∀ i < s.created, ∀ ret, (s.cmd i).waiter = .returned ret →
    ret = -ETIMEDOUT ∨ s.calls i = [ret]
  finished : s.uninit = .returned → ∀ i < s.appended, (s.calls i).length = 1

theorem FinishInv.finishedOnce {s : FinishRun} (inv : FinishInv s) : FinishedOnce s := by
  have phased := inv.phased
  refine ⟨fun i _ => inv.accounted.atMostOnce i, fun i _ => (inv.reported i).returned,
    fun returned i before => ?_⟩
  have begun : s.uninit ≠ .idle := by rw [returned]; nofun
  rw [FinishRun.appended, if_neg begun] at before
  refine inv.accounted.settled i (Nat.lt_of_lt_of_le before (phased.begun begun)) ?_ ?_
  · exact fun member => absurd (phased.flushed returned i member) (Nat.not_le_of_lt before)
  · intro routine
    rw [phased.joined (.inr returned)]
    nofun

end Safety

end T7xxModel.Fsm
