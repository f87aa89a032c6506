import T7xx.Fsm.CommandRefs
import T7xx.Transition.Traces
import Mathlib.Data.List.Nodup
import Mathlib.Order.WellFounded

namespace T7xxModel.Fsm

open Kernel Transition Pci

/-- What a routine of `fsm_main_thread` learns from the device, the allocator and other threads. -/
structure RoutineAnswer where
  timedOut : Bool
  status : BitVec 32
  mode : Mode
  mdReady : Bool
  apReady : Bool
  event : Option FsmEventId
  coreReset : Int
  allocated : Bool
deriving DecidableEq, Repr

/-- The fields of `struct t7xx_fsm_ctl` that the routines branch on. -/
structure FsmCtl where
  currState : FsmState
  status : BitVec 32
deriving DecidableEq, Repr

/-- What `fsm_main_thread` still has to do before it looks for the next command. -/
inductive Routine where
  | done
  | finishCommand (result : Int) (rest : Routine)
  | flushQueues (rest : Routine)
  | appendCmd (cmdId : FsmCmdId) (flag : BitVec 32) (rest : Int → Routine)
  | readCtl (rest : FsmCtl → Routine)
  | writeCtl (change : FsmCtl → FsmCtl) (rest : Routine)
  | shouldStop (rest : Bool → Routine)
  | ask (rest : RoutineAnswer → Routine)

namespace Routine

def setState (state : FsmState) (rest : Routine) : Routine :=
  .writeCtl (fun ctl => { ctl with currState := state }) rest

def fsmWaitForEvent (expected : FsmEventId) : Nat → Routine → Routine
  | 0, rest => rest
  | retries + 1, rest =>
    .shouldStop fun stop =>
      if stop then rest
      else .ask fun answer =>
        if answer.event = some expected then rest else fsmWaitForEvent expected retries rest

/-- `cmd` says whether there is a command to finish. -/
def fsmRoutineException (cmd : Bool) (reason : ExReason) (rest : Routine) : Routine :=
  let finish (result : Int) := if cmd then .finishCommand result rest else rest
  .readCtl fun ctl =>
    if ctl.currState ≠ .ready ∧ ctl.currState ≠ .starting then finish (-EINVAL)
    else
      setState .exception <|
        match reason with
        | .event => fsmWaitForEvent .mdExRecOk 500 (fsmWaitForEvent .mdExPass 2250 (finish 0))
        | _ => finish 0

def fsmReset (rest : Routine) : Routine :=
  .flushQueues (.writeCtl (fun _ => { currState := .stopped, status := T7XX_DEV_STAGE_INIT }) rest)

def fsmStoppedHandler (rest : Int → Routine) : Routine :=
  setState .stopped <| .ask fun answer =>
    if answer.mode = .fastbootDownload ∨ answer.mode = .fastbootDump then rest 0
    else fsmReset (.ask fun answer => rest answer.coreReset)

def fsmRoutineStopped : Routine :=
  .readCtl fun ctl =>
    if ctl.currState = .stopped then .finishCommand (-EINVAL) .done
    else fsmStoppedHandler fun ret => .finishCommand ret .done

def fsmRoutineStopping : Routine :=
  .readCtl fun ctl =>
    if ctl.currState = .stopped ∨ ctl.currState = .stopping then .finishCommand (-EINVAL) .done
    else setState .stopping (fsmStoppedHandler fun ret => .finishCommand ret .done)

def fsmRoutineStarting (rest : Int → Routine) : Routine :=
  setState .starting <| .ask fun answer =>
    if answer.mdReady = false ∨ answer.apReady = false then
      fsmRoutineException false .hsTimeout (rest (-ETIMEDOUT))
    else setState .ready (rest 0)

/-- `t7xx_fsm_init` has set `ctl->md`, so the first test of `fsm_routine_start` is left out. -/
def fsmRoutineStart (flag : BitVec 32) : Routine :=
  let finish (ret : Int) := Routine.finishCommand ret .done
  .readCtl fun ctl =>
    if ctl.currState ≠ .init ∧ ctl.currState ≠ .preStart ∧ ctl.currState ≠ .stopped then
      .finishCommand (-EINVAL) .done
    else setState .preStart <| .ask fun answer =>
      if answer.timedOut then finish (-ETIMEDOUT)
      else .readCtl fun ctl =>
        let status := answer.status
        let store (ret : Int) := Routine.writeCtl (fun ctl => { ctl with status }) (finish ret)
        let stage := miscStage status
        if status ≠ ctl.status ∨ flag ≠ 0 then
          if stage = T7XX_DEV_STAGE_INIT ∨ stage = T7XX_DEV_STAGE_BROM_PRE ∨
              stage = T7XX_DEV_STAGE_BROM_POST then .appendCmd .start 0 store
          else if stage = T7XX_DEV_STAGE_LINUX ∧ flag ≠ 0 then fsmRoutineStarting store
          else store 0
        else finish 0

/-- The `switch` of `fsm_main_thread`. -/
def fsmHandleCommand (cmd : FsmCmd) : Routine :=
  match cmd.cmdId with
  | .start => fsmRoutineStart cmd.flag
  | .exception =>
    fsmRoutineException true (FsmCommand.exReason { cmdId := cmd.cmdId, flag := cmd.flag }) .done
  | .preStop => fsmRoutineStopping
  | .stop => fsmRoutineStopped
  | .invalid => .finishCommand (-EINVAL) (.flushQueues .done)

end Routine

/-- `fsm_main_thread`: testing `kthread_should_stop`, in its wait, after it, about to take a command,
    in the routine of one, in a flush of that routine, or ended. -/
inductive FinishThread where
  | testStop
  | waiting
  | woken
  | taking
  | running (i : Nat) (routine : Routine)
  | flushing (i : Nat) (rest : Routine)
  | exited

/-- `fsm_finish_command` after it has stored the result, for the thread that is inside. -/
inductive Finisher where
  | idle
  | completing (i : Nat)
  | putting (i : Nat)
deriving DecidableEq, Repr

/-- `t7xx_fsm_uninit`: not called, in `kthread_stop`, in its flush, or returned. -/
inductive FsmUninit where
  | idle
  | stopping
  | flushing
  | returned
deriving DecidableEq, Repr

inductive WaiterStep where
  | waitDone
  | waitTimeout
  | readResult
  | put
deriving DecidableEq, Repr

/-- The commands in the order of their allocation with the results `fsm_finish_command` was called
    with for each, and how many there were when `t7xx_fsm_uninit` began. -/
structure FinishRun where
  cmd : Nat → FsmCmd
  calls : Nat → List Int
  created : Nat
  commandQueue : List Nat
  ctl : FsmCtl
  thread : FinishThread
  finisher : Finisher
  shouldStop : Bool
  uninit : FsmUninit
  begun : Nat

inductive FinishLabel where
  | append (cmdId : FsmCmdId) (flag : BitVec 32)
  | waiter (i : Nat) (step : WaiterStep)
  | thread (answer : RoutineAnswer)
  | finisher
  | uninit
  | uninitGoesOn
  | other
deriving DecidableEq, Repr

section Steps

def FsmCmd.storeResult (result : Int) (cmd : FsmCmd) : FsmCmd :=
  if cmd.waits then { cmd with result } else cmd

def FsmCmd.completeDone (cmd : FsmCmd) : FsmCmd :=
  if cmd.waits then { cmd with done := cmd.done.completeAll } else cmd

/-- `t7xx_fsm_append_cmd` after the command is in the queue, for a caller that waits. -/
def FsmCmd.waiterStep (cmd : FsmCmd) : WaiterStep → Option FsmCmd
  | .waitDone =>
    if cmd.waiter = .waiting then
      cmd.done.tryWait.map fun done => { cmd with done, waiter := .completed }
    else none
  | .waitTimeout =>
    if cmd.waiter = .waiting ∧ cmd.done.done = 0 then
      some { cmd with waiter := .releasing (-ETIMEDOUT) }
    else none
  | .readResult =>
    if cmd.waiter = .completed then some { cmd with waiter := .releasing cmd.result } else none
  | .put =>
    match cmd.waiter with
    | .releasing ret => some (cmd.waiterReturn ret)
    | _ => none

def FinishRun.access (s : FinishRun) (i : Nat) (change : FsmCmd → FsmCmd) : FinishRun :=
  { s with cmd := Function.update s.cmd i (change (s.cmd i)) }

def FinishRun.append (s : FinishRun) (cmdId : FsmCmdId) (flag : BitVec 32) : FinishRun :=
  { s with
    cmd := Function.update s.cmd s.created (allocCmd cmdId flag)
    commandQueue := s.commandQueue ++ [s.created]
    created := s.created + 1 }

def FinishRun.finishCommand (s : FinishRun) (i : Nat) (result : Int) : FinishRun :=
  { s.access i (FsmCmd.storeResult result) with
    calls := Function.update s.calls i (s.calls i ++ [result])
    finisher := .completing i }

def FinishRun.finisherStep (s : FinishRun) : Option FinishRun :=
  match s.finisher with
  | .idle => none
  | .completing i => some { s.access i FsmCmd.completeDone with finisher := .putting i }
  | .putting i => some { s.access i FsmCmd.finish with finisher := .idle }

def FinishRun.runStep (s : FinishRun) (answer : RoutineAnswer) (i : Nat) : Routine → FinishRun
  | .done => { s with thread := .testStop }
  | .finishCommand result rest => { s.finishCommand i result with thread := .running i rest }
  | .flushQueues rest => { s with thread := .flushing i rest }
  | .appendCmd cmdId flag rest =>
    if answer.allocated then { s.append cmdId flag with thread := .running i (rest 0) }
    else { s with thread := .running i (rest (-ENOMEM)) }
  | .readCtl rest => { s with thread := .running i (rest s.ctl) }
  | .writeCtl change rest => { s with ctl := change s.ctl, thread := .running i rest }
  | .shouldStop rest => { s with thread := .running i (rest s.shouldStop) }
  | .ask rest => { s with thread := .running i (rest answer) }

def FinishRun.threadStep (s : FinishRun) (answer : RoutineAnswer) : Option FinishRun :=
  match s.thread with
  | .testStop => some { s with thread := if s.shouldStop then .exited else .waiting }
  | .waiting =>
    if s.commandQueue ≠ [] ∨ s.shouldStop = true then some { s with thread := .woken } else none
  | .woken => some { s with thread := if s.shouldStop then .exited else .taking }
  | .taking =>
    match s.commandQueue with
    | [] => none
    | i :: commandQueue =>
      some { s with commandQueue, thread := .running i (Routine.fsmHandleCommand (s.cmd i)) }
  | .running i routine => some (s.runStep answer i routine)
  | .flushing i rest =>
    match s.commandQueue with
    | [] => some { s with thread := .running i rest }
    | j :: commandQueue => some ({ s with commandQueue }.finishCommand j (-EINVAL))
  | .exited => none

/-- `t7xx_fsm_uninit` once it has been called. -/
def FinishRun.uninitStep (s : FinishRun) : Option FinishRun :=
  match s.uninit, s.thread with
  | .stopping, .exited => some { s with uninit := .flushing }
  | .flushing, _ =>
    match s.commandQueue with
    | [] => some { s with uninit := .returned }
    | j :: commandQueue => some ({ s with commandQueue }.finishCommand j (-EINVAL))
  | _, _ => none

/-- `command_lock` is held throughout a flush. -/
def FinishRun.locked (s : FinishRun) : Bool :=
  match s.uninit, s.thread with
  | .flushing, _ => true
  | _, .flushing _ _ => true
  | _, _ => false

def FinishRun.step (s : FinishRun) (label : FinishLabel) : Option FinishRun :=
  match label with
  | .append cmdId flag => if s.locked then none else some (s.append cmdId flag)
  | .waiter i step =>
    if i < s.created then
      ((s.cmd i).waiterStep step).map fun cmd => s.access i fun _ => cmd
    else none
  | .thread answer => if s.finisher = .idle then s.threadStep answer else none
  | .finisher => s.finisherStep
  | .uninit =>
    if s.uninit = .idle then
      some { s with uninit := .stopping, shouldStop := true, begun := s.created }
    else none
  | .uninitGoesOn => if s.finisher = .idle then s.uninitStep else none
  | .other => some s

/-- `t7xx_fsm_init`, with any state to begin with. -/
def finishStart (ctl : FsmCtl) : FinishRun :=
  { cmd := fun _ => allocCmd .invalid 0
    calls := fun _ => []
    created := 0
    commandQueue := []
    ctl
    thread := .testStop
    finisher := .idle
    shouldStop := false
    uninit := .idle
    begun := 0 }

end Steps

section Routines

/-- Every way through the routine calls `fsm_finish_command` with its own command so many times. -/
def Routine.Finishes : Routine → Nat → Prop
  | .done, count => count = 0
  | .finishCommand _ rest, count => ∃ later, count = later + 1 ∧ rest.Finishes later
  | .flushQueues rest, count => rest.Finishes count
  | .appendCmd _ _ rest, count => ∀ ret, (rest ret).Finishes count
  | .readCtl rest, count => ∀ ctl, (rest ctl).Finishes count
  | .writeCtl _ rest, count => rest.Finishes count
  | .shouldStop rest, count => ∀ stop, (rest stop).Finishes count
  | .ask rest, count => ∀ answer, (rest answer).Finishes count

namespace Routine

variable {rest : Routine} {count : Nat}

theorem Finishes.done : Routine.done.Finishes 0 := rfl

theorem Finishes.finishCommand (result : Int) (ends : rest.Finishes count) :
    (Routine.finishCommand result rest).Finishes (count + 1) := ⟨count, rfl, ends⟩

theorem Finishes.setState (state : FsmState) (ends : rest.Finishes count) :
    (Routine.setState state rest).Finishes count := ends

theorem Finishes.fsmWaitForEvent (expected : FsmEventId) (retries : Nat)
    (ends : rest.Finishes count) : (Routine.fsmWaitForEvent expected retries rest).Finishes count := by
  induction retries with
  | zero => exact ends
  | succ retries ih =>
    intro stop
    cases stop with
    | true => exact ends
    | false =>
      intro answer
      dsimp only
      split
      · exact ends
      · exact ih

theorem Finishes.fsmRoutineException (cmd : Bool) (reason : ExReason) (ends : rest.Finishes count) :
    (Routine.fsmRoutineException cmd reason rest).Finishes (if cmd then count + 1 else count) := by
  have finish (result : Int) : (if cmd then Routine.finishCommand result rest else rest).Finishes
      (if cmd then count + 1 else count) := by
    cases cmd with
    | true => exact ends.finishCommand result
    | false => exact ends
  intro ctl
  dsimp only
  split
  · exact finish (-EINVAL)
  · cases reason with
    | event => exact ((finish 0).fsmWaitForEvent .mdExPass 2250).fsmWaitForEvent .mdExRecOk 500
    | hsTimeout => exact finish 0
    | other => exact finish 0

theorem Finishes.fsmStoppedHandler {rest : Int → Routine} (ends : ∀ ret, (rest ret).Finishes count) :
    (Routine.fsmStoppedHandler rest).Finishes count := by
  intro answer
  dsimp only
  split
  · exact ends 0
  · exact fun answer => ends answer.coreReset

theorem Finishes.fsmRoutineStarting {rest : Int → Routine} (ends : ∀ ret, (rest ret).Finishes count) :
    (Routine.fsmRoutineStarting rest).Finishes count := by
  intro answer
  dsimp only
  split
  · exact (ends (-ETIMEDOUT)).fsmRoutineException false .hsTimeout
  · exact ends 0

theorem fsmRoutineStopped_finishes : fsmRoutineStopped.Finishes 1 := by
  intro ctl
  dsimp only
  split
  · exact Finishes.done.finishCommand (-EINVAL)
  · exact Finishes.fsmStoppedHandler fun ret => Finishes.done.finishCommand ret

theorem fsmRoutineStopping_finishes : fsmRoutineStopping.Finishes 1 := by
  intro ctl
  dsimp only
  split
  · exact Finishes.done.finishCommand (-EINVAL)
  · exact Finishes.fsmStoppedHandler fun ret => Finishes.done.finishCommand ret

theorem fsmRoutineStart_finishes (flag : BitVec 32) : (fsmRoutineStart flag).Finishes 1 := by
  have finish (ret : Int) : (Routine.finishCommand ret .done).Finishes 1 :=
    Finishes.done.finishCommand ret
  intro ctl
  dsimp only
  split
  · exact finish (-EINVAL)
  intro answer
  dsimp only
  split
  · exact finish (-ETIMEDOUT)
  intro ctl
  dsimp only
  split
  · split
    · exact finish
    · split
      · exact Finishes.fsmRoutineStarting finish
      · exact finish 0
  · exact finish 0

theorem fsmHandleCommand_finishes (cmd : FsmCmd) : (fsmHandleCommand cmd).Finishes 1 := by
  unfold fsmHandleCommand
  split
  · exact fsmRoutineStart_finishes cmd.flag
  · exact Finishes.done.fsmRoutineException true _
  · exact fsmRoutineStopping_finishes
  · exact fsmRoutineStopped_finishes
  · exact Finishes.done.finishCommand (-EINVAL)

end Routine

end Routines

section Accounts

def FinishThread.runs : FinishThread → Option (Nat × Routine)
  | .running i routine | .flushing i routine => some (i, routine)
  | _ => none

/-- A command in the queue has had no call yet, the one that is handled has the call either behind it
    or ahead, and every other one has had its one call. -/
structure Accounted (created : Nat) (queue : List Nat) (calls : Nat → List Int)
    (runs : Option (Nat × Routine)) : Prop where
  nodup : queue.Nodup
  queued : ∀ i ∈ queue, i < created ∧ calls i = []
  handled : ∀ i routine, runs = some (i, routine) → i < created ∧ i ∉ queue ∧
    ∃ later, (calls i).length + later = 1 ∧ routine.Finishes later
  settled : ∀ i < created, i ∉ queue → (∀ routine, runs ≠ some (i, routine)) → (calls i).length = 1
  fresh : ∀ i ≥ created, calls i = []

namespace Accounted

variable {created i : Nat} {queue : List Nat} {calls : Nat → List Int}
  {runs : Option (Nat × Routine)} {routine rest : Routine}

theorem append (accounted : Accounted created queue calls runs) :
    Accounted (created + 1) (queue ++ [created]) calls runs := by
  have absent : created ∉ queue := fun member => Nat.lt_irrefl _ (accounted.queued _ member).1
  refine ⟨?_, fun i member => ?_, fun i routine handled => ?_, fun i old unqueued idle => ?_,
    fun i new => accounted.fresh i (Nat.le_of_succ_le new)⟩
  · exact accounted.nodup.append (List.nodup_singleton _) (List.disjoint_singleton.mpr absent)
  · rcases List.mem_append.mp member with before | last
    · exact ⟨Nat.lt_succ_of_lt (accounted.queued i before).1, (accounted.queued i before).2⟩
    · rw [List.mem_singleton.mp last]
      exact ⟨Nat.lt_succ_self _, accounted.fresh _ (Nat.le_refl _)⟩
  · obtain ⟨old, unqueued, owed⟩ := accounted.handled i routine handled
    refine ⟨Nat.lt_succ_of_lt old, fun member => ?_, owed⟩
    rcases List.mem_append.mp member with before | last
    · exact unqueued before
    · exact Nat.ne_of_lt old (List.mem_singleton.mp last)
  · have different : i ≠ created :=
      fun same => unqueued (List.mem_append_right _ (List.mem_singleton.mpr same))
    exact accounted.settled i (by omega) (fun member => unqueued (List.mem_append_left _ member)) idle

theorem take (accounted : Accounted created (i :: queue) calls none)
    (finishes : routine.Finishes 1) : Accounted created queue calls (some (i, routine)) := by
  obtain ⟨unqueued, nodup⟩ := List.nodup_cons.mp accounted.nodup
  obtain ⟨old, uncalled⟩ := accounted.queued i List.mem_cons_self
  refine ⟨nodup, fun j member => accounted.queued j (List.mem_cons_of_mem i member),
    fun j other handled => ?_, fun j present absent idle => ?_, accounted.fresh⟩
  · cases handled
    exact ⟨old, unqueued, 1, by rw [uncalled]; rfl, finishes⟩
  · refine accounted.settled j present (fun member => ?_) nofun
    rcases List.mem_cons.mp member with rfl | later
    · exact idle routine rfl
    · exact absent later

theorem goOn (accounted : Accounted created queue calls (some (i, routine)))
    (goes : ∀ later, routine.Finishes later → rest.Finishes later) :
    Accounted created queue calls (some (i, rest)) := by
  refine ⟨accounted.nodup, accounted.queued, fun j other handled => ?_,
    fun j old unqueued idle => ?_, accounted.fresh⟩
  · cases handled
    obtain ⟨old, unqueued, later, owed, finishes⟩ := accounted.handled i routine rfl
    exact ⟨old, unqueued, later, owed, goes later finishes⟩
  · refine accounted.settled j old unqueued fun other handled => ?_
    cases handled
    exact idle rest rfl

theorem uncalled {result : Int}
    (accounted : Accounted created queue calls (some (i, .finishCommand result rest))) :
    calls i = [] ∧ rest.Finishes 0 := by
  obtain ⟨_, _, later, owed, last, same, finishes⟩ := accounted.handled i _ rfl
  have none : last = 0 := by omega
  exact ⟨List.length_eq_zero_iff.mp (by omega), none ▸ finishes⟩

theorem finishOwn {result : Int}
    (accounted : Accounted created queue calls (some (i, .finishCommand result rest))) :
    Accounted created queue (Function.update calls i (calls i ++ [result])) (some (i, rest)) := by
  obtain ⟨old, unqueued, _⟩ := accounted.handled i _ rfl
  obtain ⟨uncalled, finishes⟩ := accounted.uncalled
  refine ⟨accounted.nodup, fun j member => ?_, fun j other handled => ?_,
    fun j present absent idle => ?_, fun j new => ?_⟩
  · have different : j ≠ i := fun same => unqueued (same ▸ member)
    rw [Function.update_of_ne different]
    exact accounted.queued j member
  · cases handled
    refine ⟨old, unqueued, 0, ?_, finishes⟩
    rw [Function.update_self, uncalled]
    rfl
  · have different : j ≠ i := fun same => idle rest (by rw [same])
    rw [Function.update_of_ne different]
    refine accounted.settled j present absent fun other handled => ?_
    cases handled
    exact different rfl
  · rw [Function.update_of_ne (Nat.ne_of_gt (Nat.lt_of_lt_of_le old new))]
    exact accounted.fresh j new

theorem leave (accounted : Accounted created queue calls (some (i, .done))) :
    Accounted created queue calls none := by
  refine ⟨accounted.nodup, accounted.queued, nofun, fun j old unqueued _ => ?_, accounted.fresh⟩
  by_cases own : j = i
  · obtain ⟨_, _, later, owed, none⟩ := accounted.handled i .done rfl
    cases none
    rw [own]
    exact owed
  · refine accounted.settled j old unqueued fun other handled => ?_
    cases handled
    exact own rfl

theorem flushHead (accounted : Accounted created (i :: queue) calls runs) (result : Int) :
    Accounted created queue (Function.update calls i (calls i ++ [result])) runs := by
  obtain ⟨unqueued, nodup⟩ := List.nodup_cons.mp accounted.nodup
  obtain ⟨old, uncalled⟩ := accounted.queued i List.mem_cons_self
  refine ⟨nodup, fun j member => ?_, fun j routine handled => ?_, fun j present absent idle => ?_,
    fun j new => ?_⟩
  · have different : j ≠ i := fun same => unqueued (same ▸ member)
    rw [Function.update_of_ne different]
    exact accounted.queued j (List.mem_cons_of_mem i member)
  · obtain ⟨present, absent, owed⟩ := accounted.handled j routine handled
    rw [List.mem_cons, not_or] at absent
    rw [Function.update_of_ne absent.1]
    exact ⟨present, absent.2, owed⟩
  · by_cases own : j = i
    · rw [own, Function.update_self, uncalled]
      rfl
    · rw [Function.update_of_ne own]
      refine accounted.settled j present (fun member => ?_) idle
      rcases List.mem_cons.mp member with same | later
      · exact own same
      · exact absent later
  · rw [Function.update_of_ne (Nat.ne_of_gt (Nat.lt_of_lt_of_le old new))]
    exact accounted.fresh j new

theorem atMostOnce (accounted : Accounted created queue calls runs) (i : Nat) :
    (calls i).length ≤ 1 := by
  by_cases old : i < created
  · by_cases queued : i ∈ queue
    · rw [(accounted.queued i queued).2]
      exact Nat.zero_le 1
    by_cases handled : ∃ routine, runs = some (i, routine)
    · obtain ⟨routine, handled⟩ := handled
      obtain ⟨_, _, later, owed, _⟩ := accounted.handled i routine handled
      omega
    · exact Nat.le_of_eq (accounted.settled i old queued fun routine same => handled ⟨routine, same⟩)
  · rw [accounted.fresh i (Nat.not_lt.mp old)]
    exact Nat.zero_le 1

end Accounted

end Accounts

end T7xxModel.Fsm
