import T7xx.Fsm.Control
import T7xx.Kernel.Primitives
import T7xx.Transition.Runs

namespace T7xxModel.Fsm

open Kernel Transition

/-- Where the caller of `t7xx_fsm_append_cmd` is that waits for a command, if there is one. -/
inductive CmdWaiter where
  | none
  | waiting
  | completed
  | releasing (ret : Int)
  | returned (ret : Int)
deriving DecidableEq, Repr

/-- A `struct t7xx_fsm_command`. `freed` counts its `kfree` calls, and `finished` says that
    `fsm_finish_command` has returned. -/
structure FsmCmd where
  cmdId : FsmCmdId
  flag : BitVec 32
  done : Completion
  result : Int
  refcnt : Kref
  freed : Nat
  finished : Bool
  waiter : CmdWaiter
deriving DecidableEq, Repr

/-- `fsm_main_thread`: waiting for a command, in the routine of one, about to drop its reference,
    in the `default` case after that, or ended. -/
inductive CmdThread where
  | idle
  | handling (i : Nat)
  | releasing (i : Nat)
  | flushing
  | exited
deriving DecidableEq, Repr

/-- The loop over the commands in `fsm_flush_event_cmd_qs`, which holds `command_lock`. -/
inductive CmdFlush where
  | unlocked
  | next
  | completing (i : Nat)
  | releasing (i : Nat)
deriving DecidableEq, Repr

/-- The commands allocated so far, in the order of their allocation, and the threads that use
    them. -/
structure CmdRun where
  cmd : Nat → FsmCmd
  created : Nat
  commandQueue : List Nat
  thread : CmdThread
  flush : CmdFlush
  useAfterFree : Bool

inductive CmdLabel where
  | append (cmdId : FsmCmdId) (flag : BitVec 32)
  | waitDone (i : Nat)
  | waitTimeout (i : Nat)
  | readResult (i : Nat)
  | waiterPut (i : Nat)
  | dequeue
  | readCmd
  | complete (result : Int)
  | finishPut
  | flushLock
  | flushNext
  | flushComplete
  | flushPut
  | flushUnlock
  | exit
deriving DecidableEq, Repr

section Commands

def FsmCmd.waits (cmd : FsmCmd) : Bool := cmd.flag &&& FSM_CMD_FLAG_WAIT_FOR_COMPLETION ≠ 0

/-- The command as `t7xx_fsm_append_cmd` puts it into the queue. -/
def allocCmd (cmdId : FsmCmdId) (flag : BitVec 32) : FsmCmd :=
  let waits : Bool := flag &&& FSM_CMD_FLAG_WAIT_FOR_COMPLETION ≠ 0
  let refcnt := if waits then Kref.init.get else Kref.init
  { cmdId, flag
    done := ⟨0⟩
    result := 0
    refcnt := refcnt.get
    freed := 0
    finished := false
    waiter := if waits then .waiting else .none }

def FsmCmd.complete (result : Int) (cmd : FsmCmd) : FsmCmd :=
  if cmd.waits then { cmd with result, done := cmd.done.completeAll } else cmd

/-- `kref_put` with `fsm_release_command`. -/
def FsmCmd.put (cmd : FsmCmd) : FsmCmd :=
  let (refcnt, released) := cmd.refcnt.put
  { cmd with refcnt, freed := if released then cmd.freed + 1 else cmd.freed }

def FsmCmd.finish (cmd : FsmCmd) : FsmCmd := { cmd.put with finished := true }

def FsmCmd.waiterReturn (ret : Int) (cmd : FsmCmd) : FsmCmd := { cmd.put with waiter := .returned ret }

def CmdWaiter.live : CmdWaiter → Bool
  | .none | .returned _ => false
  | _ => true

/-- Nobody but the queue's own reference is left to come back to the command. -/
def FsmCmd.Settled (cmd : FsmCmd) : Prop := cmd.finished = true ∧ cmd.waiter.live = false

instance FsmCmd.Settled.decidable (cmd : FsmCmd) : Decidable cmd.Settled := inferInstanceAs (Decidable (_ ∧ _))

end Commands

section Steps

def CmdRun.access (s : CmdRun) (i : Nat) (change : FsmCmd → FsmCmd) : CmdRun :=
  { s with
    cmd := Function.update s.cmd i (change (s.cmd i))
    useAfterFree := s.useAfterFree || 0 < (s.cmd i).freed }

/-- Linking and unlinking an entry writes to its neighbours in the queue. -/
def CmdRun.relink (s : CmdRun) (commandQueue : List Nat) : CmdRun :=
  { s with
    commandQueue
    useAfterFree := s.useAfterFree ||
      (s.commandQueue ++ commandQueue).any fun i => 0 < (s.cmd i).freed }

def CmdRun.append (s : CmdRun) (cmdId : FsmCmdId) (flag : BitVec 32) : CmdRun :=
  let s := { s with cmd := Function.update s.cmd s.created (allocCmd cmdId flag) }
  let s := s.relink (s.commandQueue ++ [s.created])
  { s with created := s.created + 1 }

/-- The steps of a waiter once its command is in the queue. -/
def CmdRun.waiterStep (s : CmdRun) : CmdLabel → Option CmdRun
  | .waitDone i =>
    if i < s.created ∧ (s.cmd i).waiter = .waiting then
      (s.cmd i).done.tryWait.map fun done =>
        s.access i fun cmd => { cmd with done, waiter := .completed }
    else none
  | .waitTimeout i =>
    if i < s.created ∧ (s.cmd i).waiter = .waiting ∧ (s.cmd i).done.done = 0 then
      some (s.access i fun cmd => { cmd with waiter := .releasing (-ETIMEDOUT) })
    else none
  | .readResult i =>
    if i < s.created ∧ (s.cmd i).waiter = .completed then
      some (s.access i fun cmd => { cmd with waiter := .releasing cmd.result })
    else none
  | .waiterPut i =>
    match (s.cmd i).waiter with
    | .releasing ret => if i < s.created then some (s.access i (FsmCmd.waiterReturn ret)) else none
    | _ => none
  | _ => none

/-- The flush is entered from `fsm_stopped_handler`, from the `default` case of the main thread, and
    from `t7xx_fsm_uninit` after it has stopped the thread. -/
def CmdRun.mayFlush (s : CmdRun) : Bool :=
  match s.thread with
  | .handling i => (s.cmd i).cmdId = .stop ∨ (s.cmd i).cmdId = .preStop
  | .flushing => true
  | .exited => true
  | _ => false

def CmdRun.threadStep (s : CmdRun) (label : CmdLabel) : Option CmdRun :=
  match label, s.thread with
  | .dequeue, .idle =>
    match s.commandQueue with
    | [] => none
    | i :: commandQueue => some { s.relink commandQueue with thread := .handling i }
  | .readCmd, .handling i => some (s.access i id)
  | .complete result, .handling i =>
    some { s.access i (FsmCmd.complete result) with thread := .releasing i }
  | .finishPut, .releasing i =>
    let thread := if (s.cmd i).cmdId = .invalid then CmdThread.flushing else .idle
    some { s.access i FsmCmd.finish with thread }
  | .flushLock, _ => if s.mayFlush then some { s with flush := .next } else none
  | .exit, .idle => some { s with thread := .exited }
  | _, _ => none

def CmdRun.flushStep (s : CmdRun) (label : CmdLabel) : Option CmdRun :=
  match label, s.flush with
  | .flushNext, .next =>
    match s.commandQueue with
    | [] => none
    | i :: commandQueue => some { s.relink commandQueue with flush := .completing i }
  | .flushComplete, .completing i =>
    some { s.access i (FsmCmd.complete (-EINVAL)) with flush := .releasing i }
  | .flushPut, .releasing i => some { s.access i FsmCmd.finish with flush := .next }
  | .flushUnlock, .next =>
    if s.commandQueue = [] then
      let thread := if s.thread = .flushing then CmdThread.idle else s.thread
      some { s with flush := .unlocked, thread }
    else none
  | _, _ => none

/-- Nobody appends, and the main thread does nothing else, while the queue is flushed. -/
def CmdRun.step (s : CmdRun) (label : CmdLabel) : Option CmdRun :=
  match label with
  | .append cmdId flag => if s.flush = .unlocked then some (s.append cmdId flag) else none
  | .waitDone _ | .waitTimeout _ | .readResult _ | .waiterPut _ => s.waiterStep label
  | _ => if s.flush = .unlocked then s.threadStep label else s.flushStep label

/-- `t7xx_fsm_init`. -/
def cmdStart : CmdRun :=
  { cmd := fun _ => allocCmd .invalid 0
    created := 0
    commandQueue := []
    thread := .idle
    flush := .unlocked
    useAfterFree := false }

end Steps

section Counting

/-- The references: one that nobody drops, one for `fsm_finish_command`, one for the waiter. -/
structure FsmCmd.Counted (cmd : FsmCmd) : Prop where
  kept : cmd.freed = 0
  count : cmd.refcnt.refcount =
    1 + (if cmd.finished then 0 else 1) + (if cmd.waiter.live then 1 else 0)

theorem allocCmd_counted (cmdId : FsmCmdId) (flag : BitVec 32) : (allocCmd cmdId flag).Counted := by
  unfold allocCmd
  by_cases waits : flag &&& FSM_CMD_FLAG_WAIT_FOR_COMPLETION ≠ 0
  · simp only [waits, ne_eq, not_false_eq_true, decide_true]
    exact ⟨rfl, rfl⟩
  · simp only [waits, decide_false]
    exact ⟨rfl, rfl⟩

/-- A command with a finisher or a waiter to come is not freed by a `kref_put`. -/
theorem FsmCmd.put_shared {cmd : FsmCmd} {others : Nat} (held : cmd.refcnt.refcount = others + 2) :
    cmd.put = { cmd with refcnt := ⟨others + 1⟩ } := by
  unfold put
  rw [Kref.put_shared held]
  rfl

theorem FsmCmd.Counted.finish {cmd : FsmCmd} (counted : cmd.Counted) (pending : cmd.finished = false) :
    cmd.finish.Counted := by
  have count := counted.count
  rw [pending] at count
  have held : cmd.refcnt.refcount = (if cmd.waiter.live then 1 else 0) + 2 := by
    rw [count]
    exact Nat.add_comm _ _
  unfold FsmCmd.finish
  rw [FsmCmd.put_shared held]
  exact ⟨counted.kept, Nat.add_comm _ _⟩

theorem FsmCmd.Counted.waiterReturn {cmd : FsmCmd} (counted : cmd.Counted)
    (live : cmd.waiter.live = true) (ret : Int) : (cmd.waiterReturn ret).Counted := by
  have count := counted.count
  rw [live] at count
  have held : cmd.refcnt.refcount = (if cmd.finished then 0 else 1) + 2 := by
    rw [count, if_pos rfl]
    omega
  unfold FsmCmd.waiterReturn
  rw [FsmCmd.put_shared held]
  exact ⟨counted.kept, Nat.add_comm _ _⟩

theorem FsmCmd.complete_same (result : Int) (cmd : FsmCmd) :
    (cmd.complete result).refcnt = cmd.refcnt ∧ (cmd.complete result).freed = cmd.freed ∧
      (cmd.complete result).finished = cmd.finished ∧
      (cmd.complete result).waiter = cmd.waiter := by
  unfold complete
  split
  · exact ⟨rfl, rfl, rfl, rfl⟩
  · exact ⟨rfl, rfl, rfl, rfl⟩

end Counting

section Effects

def CmdThread.pending : CmdThread → List Nat
  | .handling i | .releasing i => [i]
  | _ => []

def CmdFlush.pending : CmdFlush → List Nat
  | .completing i | .releasing i => [i]
  | _ => []

/-- The commands that are still to be finished, each once. -/
def CmdRun.pending (s : CmdRun) : List Nat :=
  s.commandQueue ++ s.thread.pending ++ s.flush.pending

def CmdRun.Settles (s : CmdRun) (i : Nat) : CmdLabel → Prop
  | .finishPut => s.thread = .releasing i ∧ (s.cmd i).waiter.live = false
  | .flushPut => s.flush = .releasing i ∧ (s.cmd i).waiter.live = false
  | .waiterPut j => j = i ∧ (s.cmd i).finished = true
  | _ => False

instance (s : CmdRun) (i : Nat) (label : CmdLabel) : Decidable (s.Settles i label) := by
  cases label <;> unfold CmdRun.Settles <;> infer_instance

def Unsettling (s : CmdRun) (label : CmdLabel) : Prop := ∀ i < s.created, ¬ s.Settles i label

instance (s : CmdRun) (label : CmdLabel) : Decidable (Unsettling s label) :=
  inferInstanceAs (Decidable (∀ i < s.created, ¬ s.Settles i label))

structure Unmoved (s t : CmdRun) : Prop where
  cmd : t.cmd = s.cmd
  created : t.created = s.created
  pending : t.pending.Perm s.pending
  clean : s.useAfterFree = false → (∀ i ∈ s.pending, (s.cmd i).freed = 0) → t.useAfterFree = false

structure Accesses (s t : CmdRun) (i : Nat) (changed : FsmCmd) : Prop where
  cmd : t.cmd = Function.update s.cmd i changed
  created : t.created = s.created
  useAfterFree : t.useAfterFree = (s.useAfterFree || decide (0 < (s.cmd i).freed))

/-- An access that drops no reference. -/
structure SameRefs (before after : FsmCmd) : Prop where
  refcnt : after.refcnt = before.refcnt
  freed : after.freed = before.freed
  finished : after.finished = before.finished
  live : after.waiter.live = before.waiter.live

/-- What a step does to the commands. -/
inductive CmdEffect (s t : CmdRun) (label : CmdLabel) : Prop where
  | still (unmoved : Unmoved s t) (unsettling : ∀ i, ¬ s.Settles i label)
  | append (cmdId : FsmCmdId) (flag : BitVec 32) (same : t = s.append cmdId flag)
      (unsettling : ∀ i, ¬ s.Settles i label)
  | touch (i : Nat) (changed : FsmCmd) (place : i < s.created ∨ i ∈ s.pending)
      (accesses : Accesses s t i changed) (same : SameRefs (s.cmd i) changed)
      (pending : t.pending = s.pending) (unsettling : ∀ j, ¬ s.Settles j label)
  | waiterReturn (i : Nat) (ret : Int) (place : i < s.created)
      (accesses : Accesses s t i ((s.cmd i).waiterReturn ret))
      (live : (s.cmd i).waiter.live = true) (pending : t.pending = s.pending)
      (settles : ∀ j, s.Settles j label ↔ j = i ∧ (s.cmd i).finished = true)
  | finish (i : Nat) (accesses : Accesses s t i (s.cmd i).finish)
      (pending : s.pending.Perm (i :: t.pending))
      (settles : ∀ j, s.Settles j label ↔ j = i ∧ (s.cmd i).waiter.live = false)

theorem relink_clean {s : CmdRun} {commandQueue : List Nat} (within : commandQueue ⊆ s.commandQueue)
    (clean : s.useAfterFree = false) (kept : ∀ i ∈ s.pending, (s.cmd i).freed = 0) :
    (s.relink commandQueue).useAfterFree = false := by
  have alive (i : Nat) (member : i ∈ s.commandQueue) : ¬ 0 < (s.cmd i).freed := by
    have zero := kept i (List.mem_append_left _ (List.mem_append_left _ member))
    omega
  show (s.useAfterFree || _) = false
  rw [clean, Bool.false_or, Bool.eq_false_iff]
  intro used
  obtain ⟨i, member, freed⟩ := List.any_eq_true.mp used
  rcases List.mem_append.mp member with queued | left
  · exact alive i queued (of_decide_eq_true freed)
  · exact alive i (within left) (of_decide_eq_true freed)

theorem waiterStep_effect {s t : CmdRun} {label : CmdLabel} (taken : s.waiterStep label = some t) :
    CmdEffect s t label := by
  unfold CmdRun.waiterStep at taken
  split at taken
  · rename_i i
    split at taken
    · rename_i waiting
      obtain ⟨done, _, rfl⟩ := Option.map_eq_some_iff.mp taken
      refine .touch i _ (Or.inl waiting.1) ⟨rfl, rfl, rfl⟩ ⟨rfl, rfl, rfl, ?_⟩ rfl fun _ => id
      rw [waiting.2]
      rfl
    · cases taken
  · rename_i i
    split at taken
    · rename_i waiting
      cases taken
      refine .touch i _ (Or.inl waiting.1) ⟨rfl, rfl, rfl⟩ ⟨rfl, rfl, rfl, ?_⟩ rfl fun _ => id
      rw [waiting.2.1]
      rfl
    · cases taken
  · rename_i i
    split at taken
    · rename_i completed
      cases taken
      refine .touch i _ (Or.inl completed.1) ⟨rfl, rfl, rfl⟩ ⟨rfl, rfl, rfl, ?_⟩ rfl fun _ => id
      rw [completed.2]
      rfl
    · cases taken
  · rename_i i
    split at taken
    · rename_i ret releasing
      split at taken
      · rename_i place
        cases taken
        refine .waiterReturn i ret place ⟨rfl, rfl, rfl⟩ ?_ rfl fun j => ?_
        · rw [releasing]
          rfl
        · show i = j ∧ (s.cmd j).finished = true ↔ j = i ∧ (s.cmd i).finished = true
          constructor
          · rintro ⟨rfl, finished⟩
            exact ⟨rfl, finished⟩
          · rintro ⟨rfl, finished⟩
            exact ⟨rfl, finished⟩
      · cases taken
    · cases taken
  · cases taken

theorem completed_sameRefs (result : Int) (cmd : FsmCmd) : SameRefs cmd (cmd.complete result) := by
  obtain ⟨refcnt, freed, finished, waiter⟩ := FsmCmd.complete_same result cmd
  exact ⟨refcnt, freed, finished, congrArg CmdWaiter.live waiter⟩

theorem threadStep_effect {s t : CmdRun} {label : CmdLabel} (unlocked : s.flush = .unlocked)
    (taken : s.threadStep label = some t) : CmdEffect s t label := by
  have flushes : s.flush.pending = [] := by rw [unlocked]; rfl
  have handled (i : Nat) (handling : s.thread = .handling i) : i ∈ s.pending := by
    unfold CmdRun.pending
    rw [handling]
    exact List.mem_append_left _ (List.mem_append_right _ List.mem_cons_self)
  unfold CmdRun.threadStep at taken
  split at taken
  · rename_i idle
    split at taken
    · cases taken
    rename_i i commandQueue queue
    cases taken
    refine .still ⟨rfl, rfl, ?_, fun clean kept => ?_⟩ fun _ => id
    · show (commandQueue ++ [i] ++ s.flush.pending).Perm
        (s.commandQueue ++ s.thread.pending ++ s.flush.pending)
      rw [queue, idle]
      refine List.Perm.append_right _ ?_
      rw [show CmdThread.idle.pending = [] from rfl, List.append_nil]
      exact List.perm_append_singleton i commandQueue
    · apply relink_clean _ clean kept
      rw [queue]
      exact List.subset_cons_self i commandQueue
  · rename_i i handling
    cases taken
    refine .touch i _ (Or.inr ?_) ⟨rfl, rfl, rfl⟩ ⟨rfl, rfl, rfl, rfl⟩ rfl fun _ => id
    exact handled i handling
  · rename_i result i handling
    cases taken
    refine .touch i _ (Or.inr ?_) ⟨rfl, rfl, rfl⟩ (completed_sameRefs result (s.cmd i)) ?_ fun _ => id
    · exact handled i handling
    · unfold CmdRun.pending
      rw [handling]
      rfl
  · rename_i i releasing
    cases taken
    refine .finish i ⟨rfl, rfl, rfl⟩ ?_ fun j => ?_
    · have ended : (if (s.cmd i).cmdId = .invalid then CmdThread.flushing else .idle).pending = [] := by
        split <;> rfl
      show (s.commandQueue ++ s.thread.pending ++ s.flush.pending).Perm
        (i :: (s.commandQueue ++ CmdThread.pending _ ++ s.flush.pending))
      rw [ended, flushes, releasing, List.append_nil, List.append_nil, List.append_nil]
      exact List.perm_append_singleton i s.commandQueue
    · show s.thread = .releasing j ∧ (s.cmd j).waiter.live = false ↔ _
      rw [releasing]
      constructor
      · rintro ⟨same, dead⟩
        cases same
        exact ⟨rfl, dead⟩
      · rintro ⟨rfl, dead⟩
        exact ⟨rfl, dead⟩
  · split at taken
    · cases taken
      refine .still ⟨rfl, rfl, ?_, fun clean _ => clean⟩ fun _ => id
      show (s.commandQueue ++ s.thread.pending ++ []).Perm
        (s.commandQueue ++ s.thread.pending ++ s.flush.pending)
      rw [flushes]
    · cases taken
  · rename_i idle
    cases taken
    refine .still ⟨rfl, rfl, ?_, fun clean _ => clean⟩ fun _ => id
    show (s.commandQueue ++ [] ++ s.flush.pending).Perm
      (s.commandQueue ++ s.thread.pending ++ s.flush.pending)
    rw [idle]
    exact List.Perm.refl _
  · cases taken

theorem flushStep_effect {s t : CmdRun} {label : CmdLabel} (taken : s.flushStep label = some t) :
    CmdEffect s t label := by
  unfold CmdRun.flushStep at taken
  split at taken
  · rename_i next
    split at taken
    · cases taken
    rename_i i commandQueue queue
    cases taken
    refine .still ⟨rfl, rfl, ?_, fun clean kept => ?_⟩ fun _ => id
    · show (commandQueue ++ s.thread.pending ++ [i]).Perm
        (s.commandQueue ++ s.thread.pending ++ s.flush.pending)
      rw [queue, next, show CmdFlush.next.pending = [] from rfl, List.append_nil]
      exact List.perm_append_singleton i _
    · apply relink_clean _ clean kept
      rw [queue]
      exact List.subset_cons_self i commandQueue
  · rename_i i completing
    cases taken
    refine .touch i _ (Or.inr ?_) ⟨rfl, rfl, rfl⟩ (completed_sameRefs (-EINVAL) (s.cmd i)) ?_
      fun _ => id
    · unfold CmdRun.pending
      rw [completing]
      exact List.mem_append_right _ List.mem_cons_self
    · unfold CmdRun.pending
      rw [completing]
      rfl
  · rename_i i releasing
    cases taken
    refine .finish i ⟨rfl, rfl, rfl⟩ ?_ fun j => ?_
    · show (s.commandQueue ++ s.thread.pending ++ s.flush.pending).Perm
        (i :: (s.commandQueue ++ s.thread.pending ++ []))
      rw [releasing, List.append_nil]
      exact List.perm_append_singleton i _
    · show s.flush = .releasing j ∧ (s.cmd j).waiter.live = false ↔ _
      rw [releasing]
      constructor
      · rintro ⟨same, dead⟩
        cases same
        exact ⟨rfl, dead⟩
      · rintro ⟨rfl, dead⟩
        exact ⟨rfl, dead⟩
  · rename_i next
    split at taken
    · cases taken
      refine .still ⟨rfl, rfl, ?_, fun clean _ => clean⟩ fun _ => id
      have same : (if s.thread = .flushing then CmdThread.idle else s.thread).pending =
          s.thread.pending := by
        split
        · rename_i flushing
          rw [flushing]
          rfl
        · rfl
      show (s.commandQueue ++ CmdThread.pending _ ++ []).Perm
        (s.commandQueue ++ s.thread.pending ++ s.flush.pending)
      rw [same, next]
      exact List.Perm.refl _
    · cases taken
  · cases taken

theorem step_effect {s t : CmdRun} {label : CmdLabel} (taken : s.step label = some t) :
    CmdEffect s t label := by
  have lockHolder (taken : (if s.flush = .unlocked then s.threadStep label else s.flushStep label) =
      some t) : CmdEffect s t label := by
    split at taken
    · rename_i unlocked
      exact threadStep_effect unlocked taken
    · exact flushStep_effect taken
  cases label with
  | append cmdId flag =>
    dsimp only [CmdRun.step] at taken
    split at taken
    · cases taken
      exact .append cmdId flag rfl fun _ => id
    · cases taken
  | waitDone i => exact waiterStep_effect taken
  | waitTimeout i => exact waiterStep_effect taken
  | readResult i => exact waiterStep_effect taken
  | waiterPut i => exact waiterStep_effect taken
  | dequeue => exact lockHolder taken
  | readCmd => exact lockHolder taken
  | complete result => exact lockHolder taken
  | finishPut => exact lockHolder taken
  | flushLock => exact lockHolder taken
  | flushNext => exact lockHolder taken
  | flushComplete => exact lockHolder taken
  | flushPut => exact lockHolder taken
  | flushUnlock => exact lockHolder taken
  | exit => exact lockHolder taken

end Effects

section Invariant

structure CmdInvariant (s : CmdRun) : Prop where
  counted : ∀ i < s.created, (s.cmd i).Counted
  pending : ∀ i ∈ s.pending, i < s.created ∧ (s.cmd i).finished = false
  distinct : s.pending.Nodup
  clean : s.useAfterFree = false

variable {s t : CmdRun} {label : CmdLabel}

theorem CmdInvariant.pending_kept (invariant : CmdInvariant s) :
    ∀ i ∈ s.pending, (s.cmd i).freed = 0 :=
  fun i member => (invariant.counted i (invariant.pending i member).1).kept

/-- An access to one command keeps the invariant if it keeps the count of that command, and finishes
    it only where it is no longer pending. -/
theorem CmdInvariant.accessed (invariant : CmdInvariant s) {i : Nat} {changed : FsmCmd}
    (place : i < s.created) (accesses : Accesses s t i changed) (counted : changed.Counted)
    (within : ∀ j ∈ t.pending, j ∈ s.pending ∧ (j = i → changed.finished = false))
    (distinct : t.pending.Nodup) : CmdInvariant t := by
  have alive : ¬ 0 < (s.cmd i).freed := by
    have zero := (invariant.counted i place).kept
    omega
  refine ⟨fun j below => ?_, fun j member => ?_, distinct, ?_⟩
  · rw [accesses.created] at below
    rw [accesses.cmd]
    by_cases here : j = i
    · rw [here, Function.update_self]
      exact counted
    · rw [Function.update_of_ne here]
      exact invariant.counted j below
  · obtain ⟨before, own⟩ := within j member
    obtain ⟨below, unfinished⟩ := invariant.pending j before
    rw [accesses.created, accesses.cmd]
    refine ⟨below, ?_⟩
    by_cases here : j = i
    · rw [here, Function.update_self]
      exact own here
    · rw [Function.update_of_ne here]
      exact unfinished
  · rw [accesses.useAfterFree, invariant.clean, Bool.false_or]
    exact decide_eq_false alive

theorem CmdInvariant.append (invariant : CmdInvariant s) (cmdId : FsmCmdId) (flag : BitVec 32) :
    CmdInvariant (s.append cmdId flag) := by
  have fresh : s.created ∉ s.pending := fun member =>
    Nat.lt_irrefl _ (invariant.pending s.created member).1
  have others (i : Nat) (old : i < s.created) :
      (s.append cmdId flag).cmd i = s.cmd i := Function.update_of_ne (Nat.ne_of_lt old) _ _
  have last : (s.append cmdId flag).cmd s.created = allocCmd cmdId flag := Function.update_self _ _ _
  have unfinished : (allocCmd cmdId flag).finished = false := rfl
  have more : (s.append cmdId flag).pending.Perm (s.created :: s.pending) := by
    show (s.commandQueue ++ [s.created] ++ s.thread.pending ++ s.flush.pending).Perm
      (s.created :: (s.commandQueue ++ s.thread.pending ++ s.flush.pending))
    have front := (List.perm_append_singleton s.created s.commandQueue)
    exact (front.append_right _).append_right _
  refine ⟨fun i below => ?_, fun i member => ?_, ?_, ?_⟩
  · have bound : i < s.created + 1 := below
    rcases Nat.lt_succ_iff_lt_or_eq.mp bound with old | rfl
    · rw [others i old]
      exact invariant.counted i old
    · rw [last]
      exact allocCmd_counted cmdId flag
  · rcases List.mem_cons.mp (more.mem_iff.mp member) with rfl | before
    · rw [last]
      exact ⟨Nat.lt_succ_self _, unfinished⟩
    · obtain ⟨below, pending⟩ := invariant.pending i before
      rw [others i below]
      exact ⟨Nat.lt_succ_of_lt below, pending⟩
  · exact more.nodup_iff.mpr (List.nodup_cons.mpr ⟨fresh, invariant.distinct⟩)
  · show (s.useAfterFree || _) = false
    rw [invariant.clean, Bool.false_or, Bool.eq_false_iff]
    intro used
    obtain ⟨i, member, freed⟩ := List.any_eq_true.mp used
    have listed : i ∈ s.commandQueue ∨ i = s.created := by
      rcases List.mem_append.mp member with old | new
      · exact Or.inl old
      · rcases List.mem_append.mp new with old | new
        · exact Or.inl old
        · exact Or.inr (List.mem_singleton.mp new)
    have zero : (Function.update s.cmd s.created (allocCmd cmdId flag) i).freed = 0 := by
      rcases listed with old | rfl
      · have before : i ∈ s.pending := List.mem_append_left _ (List.mem_append_left _ old)
        rw [Function.update_of_ne (Nat.ne_of_lt (invariant.pending i before).1)]
        exact invariant.pending_kept i before
      · rw [Function.update_self]
        rfl
    rw [zero] at freed
    exact absurd freed (by decide)

theorem SameRefs.counted {before after : FsmCmd} (same : SameRefs before after)
    (counted : before.Counted) : after.Counted := by
  refine ⟨same.freed.trans counted.kept, ?_⟩
  rw [same.refcnt, same.finished, same.live]
  exact counted.count

theorem CmdEffect.invariant (effect : CmdEffect s t label) (invariant : CmdInvariant s) :
    CmdInvariant t := by
  cases effect with
  | still unmoved _ =>
    refine ⟨fun i below => ?_, fun i member => ?_, ?_, ?_⟩
    · rw [unmoved.created] at below
      rw [unmoved.cmd]
      exact invariant.counted i below
    · rw [unmoved.created, unmoved.cmd]
      exact invariant.pending i (unmoved.pending.mem_iff.mp member)
    · exact unmoved.pending.nodup_iff.mpr invariant.distinct
    · exact unmoved.clean invariant.clean invariant.pending_kept
  | append cmdId flag same _ =>
    rw [same]
    exact invariant.append cmdId flag
  | touch i changed place accesses same pending _ =>
    have below : i < s.created := place.elim id fun member => (invariant.pending i member).1
    refine invariant.accessed below accesses (same.counted (invariant.counted i below)) ?_ ?_
    · intro j member
      rw [pending] at member
      refine ⟨member, ?_⟩
      rintro rfl
      rw [same.finished]
      exact (invariant.pending j member).2
    · rw [pending]
      exact invariant.distinct
  | waiterReturn i ret place accesses live pending _ =>
    have counted := (invariant.counted i place).waiterReturn live ret
    refine invariant.accessed place accesses counted ?_ ?_
    · intro j member
      rw [pending] at member
      refine ⟨member, ?_⟩
      rintro rfl
      exact (invariant.pending j member).2
    · rw [pending]
      exact invariant.distinct
  | finish i accesses pending _ =>
    obtain ⟨below, unfinished⟩ := invariant.pending i (pending.mem_iff.mpr List.mem_cons_self)
    obtain ⟨gone, distinct⟩ := List.nodup_cons.mp (pending.nodup_iff.mp invariant.distinct)
    have counted := (invariant.counted i below).finish unfinished
    refine invariant.accessed below accesses counted ?_ distinct
    intro j member
    refine ⟨pending.mem_iff.mpr (List.mem_cons_of_mem _ member), ?_⟩
    rintro rfl
    exact absurd member gone

def NoneSettled (s : CmdRun) : Prop := ∀ i < s.created, ¬ (s.cmd i).Settled

theorem Accesses.noneSettled {i : Nat} {changed : FsmCmd} (accesses : Accesses s t i changed)
    (place : i < s.created) (before : NoneSettled s) : NoneSettled t ↔ ¬ changed.Settled := by
  constructor
  · intro none
    have own := none i (by rwa [accesses.created])
    rwa [accesses.cmd, Function.update_self] at own
  · intro own j below
    rw [accesses.created] at below
    rw [accesses.cmd]
    by_cases here : j = i
    · rwa [here, Function.update_self]
    · rw [Function.update_of_ne here]
      exact before j below

/-- After a step no command is settled if none was and the step settles none. -/
theorem CmdEffect.noneSettled (effect : CmdEffect s t label) (invariant : CmdInvariant s)
    (before : NoneSettled s) : NoneSettled t ↔ Unsettling s label := by
  cases effect with
  | still unmoved unsettling =>
    refine iff_of_true ?_ fun i _ => unsettling i
    unfold NoneSettled
    rw [unmoved.created, unmoved.cmd]
    exact before
  | append cmdId flag same unsettling =>
    refine iff_of_true ?_ fun i _ => unsettling i
    rw [same]
    intro i below
    show ¬ (Function.update s.cmd s.created (allocCmd cmdId flag) i).Settled
    have bound : i < s.created + 1 := below
    rcases Nat.lt_succ_iff_lt_or_eq.mp bound with old | rfl
    · rw [Function.update_of_ne (Nat.ne_of_lt old)]
      exact before i old
    · rw [Function.update_self]
      exact fun settled => Bool.false_ne_true settled.1
  | touch i changed place accesses same _ unsettling =>
    have below : i < s.created := place.elim id fun member => (invariant.pending i member).1
    rw [accesses.noneSettled below before]
    refine iff_of_true ?_ fun j _ => unsettling j
    unfold FsmCmd.Settled
    rw [same.finished, same.live]
    exact before i below
  | waiterReturn i ret place accesses _ _ settles =>
    rw [accesses.noneSettled place before]
    constructor
    · rintro open' j _ settled
      obtain ⟨rfl, finished⟩ := (settles j).mp settled
      exact open' ⟨finished, rfl⟩
    · intro unsettling settled
      exact unsettling i place ((settles i).mpr ⟨rfl, settled.1⟩)
  | finish i accesses pending settles =>
    obtain ⟨below, _⟩ := invariant.pending i (pending.mem_iff.mpr List.mem_cons_self)
    rw [accesses.noneSettled below before]
    constructor
    · rintro open' j _ settled
      obtain ⟨rfl, dead⟩ := (settles j).mp settled
      exact open' ⟨rfl, dead⟩
    · intro unsettling settled
      exact unsettling i below ((settles i).mpr ⟨rfl, settled.2⟩)

end Invariant

section Freeing

/-- No command is used after it was freed, and one that is finished and has no waiter left was freed
    exactly once. -/
def CommandsFreed (s : CmdRun) : Prop :=
  s.useAfterFree = false ∧ ∀ i < s.created, (s.cmd i).Settled → (s.cmd i).freed = 1

instance (s : CmdRun) : Decidable (CommandsFreed s) := inferInstanceAs (Decidable (_ ∧ _))

/-- No command is used after it was freed, and one that is finished and has no waiter left is still
    allocated, with one reference. -/
def CommandsLeak (s : CmdRun) : Prop :=
  s.useAfterFree = false ∧
    ∀ i < s.created, (s.cmd i).Settled → (s.cmd i).freed = 0 ∧ (s.cmd i).refcnt.refcount = 1

theorem CmdInvariant.leak {s : CmdRun} (invariant : CmdInvariant s) : CommandsLeak s := by
  refine ⟨invariant.clean, fun i below settled => ?_⟩
  have counted := invariant.counted i below
  have count := counted.count
  rw [settled.1, settled.2] at count
  exact ⟨counted.kept, count⟩

theorem CmdInvariant.freed_iff {s : CmdRun} (invariant : CmdInvariant s) :
    CommandsFreed s ↔ NoneSettled s := by
  constructor
  · rintro ⟨_, freed⟩ i below settled
    have kept := (invariant.counted i below).kept
    rw [freed i below settled] at kept
    cases kept
  · intro none
    exact ⟨invariant.clean, fun i below settled => absurd settled (none i below)⟩

theorem cmdStart_invariant : CmdInvariant cmdStart :=
  ⟨nofun, nofun, List.nodup_nil, rfl⟩

/-- Whatever the threads do, a command is never used after it was freed and never freed: a run frees
    its commands as it should only as long as none of them is settled. -/
theorem commands_freed_iff_unsettled (labels : List CmdLabel) :
    Visits CommandsLeak CmdRun.step cmdStart labels ∧
      (Visits CommandsFreed CmdRun.step cmdStart labels ↔
        Obeys Unsettling CmdRun.step cmdStart labels) := by
  have kept (s : CmdRun) (label : CmdLabel) (t : CmdRun) (invariant : CmdInvariant s)
      (taken : s.step label = some t) : CmdInvariant t := (step_effect taken).invariant invariant
  constructor
  · exact Visits.of_kept CmdInvariant (fun _ => CmdInvariant.leak) kept labels cmdStart_invariant
  · apply visits_iff_obeys CmdInvariant
    · intro s label t invariant _ taken
      exact kept s label t invariant taken
    · intro s label t invariant before taken
      rw [(kept s label t invariant taken).freed_iff]
      exact (step_effect taken).noneSettled invariant (invariant.freed_iff.mp before)
    · exact cmdStart_invariant
    · exact cmdStart_invariant.freed_iff.mpr nofun

/-- A START without a waiter and a STOP whose waiter times out before the routine is done. -/
theorem handled_commands_not_freed :
    ¬ Visits CommandsFreed CmdRun.step cmdStart
        [.append .start 0, .dequeue, .complete 0, .finishPut] ∧
      ¬ Visits CommandsFreed CmdRun.step cmdStart
        [.append .stop FSM_CMD_FLAG_WAIT_FOR_COMPLETION, .dequeue, .waitTimeout 0, .waiterPut 0,
          .flushLock, .flushUnlock, .complete 0, .finishPut] := by
  decide

end Freeing

end T7xxModel.Fsm
