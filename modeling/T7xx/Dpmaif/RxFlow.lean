import T7xx.Dpmaif.RxStart
import T7xx.Dpmaif.BatBitmap
import T7xx.Kernel.Napi

namespace T7xxModel.Dpmaif

open Transition

/-- The exits of `t7xx_dpmaif_napi_rx_poll` before it receives. -/
def napiRxExit (queStarted lockAcquired : Bool) (rxq : RxqPoll) : Option PollOutcome :=
  if queStarted = false then
    some { rxq := { rxq with rxProcessing := false }, ret := 0, actions := [.runtimePutAutosuspend] }
  else
    let disable := if rxq.sleepLockPending then [] else [PollAction.disableSleep]
    if lockAcquired = false then
      some { rxq := { sleepLockPending := true, rxProcessing := true }
             ret := 0
             actions := disable ++ [.napiCompleteDone 0, .napiSchedule] }
    else none

/-- Where a poll is: at the head of its loop, inside `t7xx_dpmaif_rx_start`, or past the loop. -/
inductive PollAt where
  | outside
  | collecting (budget workDone : Int) (onceMore : Bool)
  | receiving (budget workDone : Int) (onceMore : Bool) (l : RxLocals)
  | collected (budget workDone : Int) (onceMore : Bool)
deriving DecidableEq, Repr

/-- A finished call of the poll function and how often it called `napi_complete_done`. -/
structure PollCall where
  budget : Int
  ret : Int
  completes : Nat
deriving DecidableEq, Repr

structure RxqRun where
  rxq : RxQueue
  poll : RxqPoll
  napi : Kernel.Napi
  pc : PollAt
  calls : List PollCall
deriving DecidableEq, Repr

abbrev RxqIndex := Fin 2

def rxq0 : RxqIndex := 0

/-- The receive path: the BAT tables with those who work on them, and the RX queues. -/
structure RxFlow where
  path : RxPath
  queue : RxqIndex → RxqRun

inductive FlowLabel where
  | path (label : RxLabel)
  | napiSchedule (q : RxqIndex)
  | napiDisable (q : RxqIndex)
  | napiDisabled (q : RxqIndex)
  | napiEnable (q : RxqIndex)
  | pollBegin (q : RxqIndex) (budget : Int) (lockAcquired : Bool)
  | collect (q : RxqIndex) (hwWrIdx : Nat)
  | entry (q : RxqIndex) (entry : RxEntry)
  | pollFinish (q : RxqIndex)

def RxFlow.setQueue (s : RxFlow) (q : RxqIndex) (run : RxqRun) : RxFlow :=
  { s with queue := Function.update s.queue q run }

def RxFlow.side (s : RxFlow) (q : RxqIndex) : RxSide where
  rxq := (s.queue q).rxq
  normal := s.path.normal
  frag := s.path.frag
  queStarted := s.path.queStarted

def RxFlow.setSide (s : RxFlow) (q : RxqIndex) (side : RxSide) (pc : PollAt) : RxFlow :=
  { s with path := { s.path with normal := side.normal, frag := side.frag } }.setQueue q
    { s.queue q with rxq := side.rxq, pc }

def napiAction (n : Kernel.Napi) : PollAction → Kernel.Napi
  | .napiCompleteDone _ => n.completeDone
  | .napiSchedule => n.schedule
  | _ => n

def endPoll (budget : Int) (outcome : PollOutcome) (run : RxqRun) : RxqRun :=
  { run with
    poll := outcome.rxq
    pc := .outside
    napi := (outcome.actions.foldl napiAction run.napi).pollEnd budget outcome.ret
    calls := run.calls ++
      [{ budget, ret := outcome.ret, completes := outcome.actions.countP PollAction.isComplete }] }

def pollBegin (queStarted : Bool) (budget : Int) (lockAcquired : Bool) (run : RxqRun) :
    Option RxqRun :=
  if run.pc = .outside ∧ 0 < budget then
    run.napi.pollBegin.map fun napi =>
      let run := { run with napi, poll := { run.poll with rxProcessing := true } }
      match napiRxExit queStarted lockAcquired run.poll with
      | some outcome => endPoll budget outcome run
      | none =>
        { run with poll := { run.poll with sleepLockPending := false }
                   pc := .collecting budget 0 false }
  else none

/-- The head of the `while (work_done < budget)` loop with `t7xx_dpmaif_napi_rx_data_collect`. -/
def collectStep (q : RxqIndex) (hwWrIdx : Nat) (s : RxFlow) : Option RxFlow :=
  match (s.queue q).pc with
  | .collecting budget workDone onceMore =>
    if workDone < budget then
      match rxStartBegin hwWrIdx (budget - workDone).toNat (s.side q) with
      | (side, none) => some (s.setSide q side (.collected budget workDone onceMore))
      | (side, some l) => some (s.setSide q side (.receiving budget workDone onceMore l))
    else some (s.setSide q (s.side q) (.collected budget workDone onceMore))
  | _ => none

def afterRxStart (budget workDone : Int) (onceMore : Bool) (rxCnt : Int) : PollAt :=
  if 0 < rxCnt then .collecting budget (workDone + rxCnt) onceMore
  else .collected budget workDone onceMore

def entryStep (q : RxqIndex) (entry : RxEntry) (s : RxFlow) : Option RxFlow :=
  match (s.queue q).pc with
  | .receiving budget workDone onceMore l =>
    match rxStartRound entry l (s.side q) with
    | (side, .next l) => some (s.setSide q side (.receiving budget workDone onceMore l))
    | (side, .left l) =>
      let (side, rxCnt) := rxStartTail entry.pitAddReady l side
      some (s.setSide q side (afterRxStart budget workDone onceMore rxCnt))
    | (side, .returned rxCnt) => some (s.setSide q side (afterRxStart budget workDone true rxCnt))
  | _ => none

def pollFinish (run : RxqRun) : Option RxqRun :=
  match run.pc with
  | .collected budget workDone onceMore =>
    some (endPoll budget (napiRxFinish budget [] (workDone, onceMore)) run)
  | _ => none

/-- Stopping the data path clears the queues too; PIT entries come through the polls. -/
def flowPath (label : RxLabel) (s : RxFlow) : Option RxFlow :=
  match label with
  | .rxPkt .. | .rxFrag .. => none
  | .stop =>
    (rxStop s.path).map fun path =>
      { path, queue := fun q => { s.queue q with rxq := stopRxq (s.queue q).rxq } }
  | label => (rxStep s.path label).map fun path => { s with path }

def RxFlow.setNapi (s : RxFlow) (q : RxqIndex) (napi : Kernel.Napi) : RxFlow :=
  s.setQueue q { s.queue q with napi }

def RxFlow.step (s : RxFlow) : FlowLabel → Option RxFlow
  | .path label => flowPath label s
  | .napiSchedule q => some (s.setNapi q (s.queue q).napi.schedule)
  | .napiDisable q => some (s.setNapi q (s.queue q).napi.disableBegin)
  | .napiDisabled q => (s.queue q).napi.disableDone.map (s.setNapi q)
  | .napiEnable q => (s.queue q).napi.enable.map (s.setNapi q)
  | .pollBegin q budget lockAcquired =>
    (pollBegin s.path.queStarted budget lockAcquired (s.queue q)).map (s.setQueue q)
  | .collect q hwWrIdx => collectStep q hwWrIdx s
  | .entry q entry => entryStep q entry s
  | .pollFinish q => (pollFinish (s.queue q)).map (s.setQueue q)

/-- The state after the allocation of the data path, with NAPI still disabled. -/
def flowInit : RxFlow where
  path := rxInit
  queue := fun _ =>
    { rxq := rxAlloc
      poll := { sleepLockPending := false, rxProcessing := false }
      napi := { sched := true, missed := false, disabling := false, disabled := true,
                listed := false, polling := false }
      pc := .outside
      calls := [] }

def RxFlow.Processes (s : RxFlow) (q : RxqIndex) (entry : RxEntry) : Prop :=
  match (s.queue q).pc with
  | .receiving _ _ _ l => Reaches entry l (s.queue q).rxq
  | _ => False

instance (s : RxFlow) (q : RxqIndex) (entry : RxEntry) : Decidable (s.Processes q entry) := by
  unfold RxFlow.Processes
  split <;> infer_instance

theorem processes_receiving {s : RxFlow} {q : RxqIndex} {entry : RxEntry} {budget workDone : Int}
    {onceMore : Bool} {l : RxLocals} (pc : (s.queue q).pc = .receiving budget workDone onceMore l) :
    s.Processes q entry ↔ Reaches entry l (s.queue q).rxq := by
  unfold RxFlow.Processes
  rw [pc]

section Moves

/-- What a step may do to the NAPI context of a queue outside the poll function. -/
inductive NapiMove (n : Kernel.Napi) : Kernel.Napi → Prop
  | scheduled : NapiMove n n.schedule
  | disabling : NapiMove n n.disableBegin
  | disabled {m : Kernel.Napi} (taken : n.disableDone = some m) : NapiMove n m
  | enabled {m : Kernel.Napi} (taken : n.enable = some m) : NapiMove n m

/-- The state of a queue after its entry was processed, and the locals of the loop. -/
def rxEntered (entry : RxEntry) (l : RxLocals) (s : RxSide) : RxSide × RxLocals :=
  rxProcess entry l (rxChecked entry l s)

/-- What a round of `t7xx_dpmaif_rx_start` does to its queue. -/
inductive EntryMove (s : RxFlow) (q : RxqIndex) (entry : RxEntry) : RxqRun → Prop
  | unreached {budget workDone rxCnt : Int} {onceMore more : Bool} {l : RxLocals}
      {rxq : RxQueue}
      (pc : (s.queue q).pc = .receiving budget workDone onceMore l)
      (stays : ¬ Reaches entry l (s.queue q).rxq)
      (untouched : Untouched (s.queue q).rxq rxq ∨ Untouched (rxChecked entry l (s.side q)).rxq rxq)
      (counted : l.ret ≤ 0 → rxCnt ≤ l.recvSkbCnt) :
      EntryMove s q entry { s.queue q with rxq, pc := afterRxStart budget workDone more rxCnt }
  | advanced {budget workDone : Int} {onceMore : Bool} {l m : RxLocals}
      {rxq : RxQueue}
      (pc : (s.queue q).pc = .receiving budget workDone onceMore l)
      (reaches : Reaches entry l (s.queue q).rxq)
      (untouched : Untouched (rxAdvance (rxEntered entry l (s.side q)).2
        (rxEntered entry l (s.side q)).1).1.rxq rxq)
      (advances : m.budget = (rxEntered entry l (s.side q)).2.budget ∧
        m.recvSkbCnt = (rxEntered entry l (s.side q)).2.recvSkbCnt ∧
        m.curPit = (rxAdvance (rxEntered entry l (s.side q)).2
          (rxEntered entry l (s.side q)).1).2.curPit ∧ (l.ret ≤ 0 → m.ret ≤ 0)) :
      EntryMove s q entry { s.queue q with rxq, pc := .receiving budget workDone onceMore m }
  | failed {budget workDone : Int} {onceMore : Bool} {l : RxLocals}
      {rxq : RxQueue}
      (pc : (s.queue q).pc = .receiving budget workDone onceMore l)
      (reaches : Reaches entry l (s.queue q).rxq)
      (untouched : Untouched (rxAdvance (rxEntered entry l (s.side q)).2
        (rxEntered entry l (s.side q)).1).1.rxq rxq) :
      EntryMove s q entry { s.queue q with rxq, pc := .collected budget workDone onceMore }

inductive QueueMove (s : RxFlow) (label : FlowLabel) (q : RxqIndex) : RxqRun → Prop
  | same : QueueMove s label q (s.queue q)
  | stopped (stop : label = .path .stop) :
      QueueMove s label q { s.queue q with rxq := stopRxq (s.queue q).rxq }
  | napi {napi : Kernel.Napi} (move : NapiMove (s.queue q).napi napi) :
      QueueMove s label q { s.queue q with napi }
  | began {budget : Int} {lockAcquired : Bool} {run : RxqRun}
      (polled : label = .pollBegin q budget lockAcquired)
      (taken : pollBegin s.path.queStarted budget lockAcquired (s.queue q) = some run) :
      QueueMove s label q run
  | collected {budget workDone : Int} {onceMore : Bool} {rxq : RxQueue}
      (pc : (s.queue q).pc = .collecting budget workDone onceMore)
      (untouched : Untouched (s.queue q).rxq rxq) :
      QueueMove s label q { s.queue q with rxq, pc := .collected budget workDone onceMore }
  | received {budget workDone : Int} {onceMore : Bool} {l : RxLocals} {rxq : RxQueue}
      (pc : (s.queue q).pc = .collecting budget workDone onceMore) (below : workDone < budget)
      (untouched : Untouched (s.queue q).rxq rxq)
      (fresh : l.budget = (budget - workDone).toNat ∧ l.curPit = (s.queue q).rxq.pitRdIdx ∧
        l.recvSkbCnt = 0 ∧ l.ret = 0) :
      QueueMove s label q { s.queue q with rxq, pc := .receiving budget workDone onceMore l }
  | entered {entry : RxEntry} {run : RxqRun} (entered : label = .entry q entry)
      (move : EntryMove s q entry run) : QueueMove s label q run
  | finished {budget workDone : Int} {onceMore : Bool}
      (pc : (s.queue q).pc = .collected budget workDone onceMore) :
      QueueMove s label q
        (endPoll budget (napiRxFinish budget [] (workDone, onceMore)) (s.queue q))

theorem setQueue_queue (s : RxFlow) (p q : RxqIndex) (run : RxqRun) :
    (s.setQueue p run).queue q = if q = p then run else s.queue q := by
  by_cases same : q = p
  · rw [if_pos same, same]
    exact Function.update_self ..
  · rw [if_neg same]
    exact Function.update_of_ne same ..

theorem QueueMove.of_setQueue {s : RxFlow} {label : FlowLabel} {p : RxqIndex} {run : RxqRun}
    (path : RxPath) (move : QueueMove s label p run) (q : RxqIndex) :
    QueueMove s label q ((RxFlow.setQueue { s with path := path } p run).queue q) := by
  rw [setQueue_queue]
  split
  · rename_i here
    rw [here]
    exact move
  · exact QueueMove.same

theorem rxStartBegin_fresh {hwWrIdx budget : Nat} {s side : RxSide} {l : RxLocals}
    (begun : rxStartBegin hwWrIdx budget s = (side, some l)) :
    l.budget = budget ∧ l.curPit = s.rxq.pitRdIdx ∧ l.recvSkbCnt = 0 ∧ l.ret = 0 := by
  unfold rxStartBegin at begun
  split at begun
  · cases begun
  · dsimp only at begun
    split at begun
    · cases begun
    · cases begun
      exact ⟨rfl, rfl, rfl, rfl⟩

theorem collectStep_move {s t : RxFlow} {label : FlowLabel} {p : RxqIndex} {hwWrIdx : Nat}
    (taken : collectStep p hwWrIdx s = some t) (q : RxqIndex) :
    QueueMove s label q (t.queue q) := by
  unfold collectStep at taken
  split at taken
  · rename_i budget workDone onceMore pc
    have untouched := rxStartBegin_untouched hwWrIdx (budget - workDone).toNat (s.side p)
    split at taken
    · rename_i below
      split at taken
      · rename_i side begun
        cases taken
        rw [begun] at untouched
        exact (QueueMove.collected pc untouched).of_setQueue _ q
      · rename_i side l begun
        cases taken
        rw [begun] at untouched
        exact (QueueMove.received pc below untouched (rxStartBegin_fresh begun)).of_setQueue _ q
    · cases taken
      exact (QueueMove.collected pc (Untouched.refl _)).of_setQueue _ q
  · cases taken

theorem rxStartTail_counted (pitAddReady : Bool) (l : RxLocals) (s : RxSide) (negative : l.ret ≤ 0) :
    (rxStartTail pitAddReady l s).2 ≤ l.recvSkbCnt := by
  have notified := (rxNotifyHw_untouched pitAddReady s).2
  unfold rxStartTail
  split
  · show (if (rxNotifyHw pitAddReady s).2 ≠ 0 then (rxNotifyHw pitAddReady s).2
      else (l.recvSkbCnt : Int)) ≤ l.recvSkbCnt
    split
    · omega
    · exact le_rfl
  · show l.ret ≤ l.recvSkbCnt
    omega

theorem entryStep_move {s t : RxFlow} {p : RxqIndex} {entry : RxEntry}
    (taken : entryStep p entry s = some t) :
    ∃ run path, t = RxFlow.setQueue { s with path := path } p run ∧ EntryMove s p entry run := by
  unfold entryStep at taken
  split at taken
  · rename_i budget workDone onceMore l pc
    by_cases reaches : Reaches entry l (s.queue p).rxq
    · obtain ⟨untouched, ended⟩ := rxRoundEnd_cases entry.pitAddReady
        (rxAdvance (rxEntered entry l (s.side p)).2 (rxEntered entry l (s.side p)).1).2
        (rxAdvance (rxEntered entry l (s.side p)).2 (rxEntered entry l (s.side p)).1).1
      have round : rxStartRound entry l (s.side p) = rxRoundEnd entry.pitAddReady
        (rxAdvance (rxEntered entry l (s.side p)).2 (rxEntered entry l (s.side p)).1).2
        (rxAdvance (rxEntered entry l (s.side p)).2 (rxEntered entry l (s.side p)).1).1 :=
        rxStartRound_reached reaches
      rw [round] at taken
      revert taken untouched ended
      generalize rxRoundEnd entry.pitAddReady _ _ = result
      intro taken untouched ended
      obtain ⟨side, next⟩ := result
      rcases ended with rfl | ⟨ret, negative, rfl⟩
      · cases taken
        refine ⟨_, _, rfl, EntryMove.advanced pc reaches untouched ⟨rfl, rfl, rfl, fun before => ?_⟩⟩
        dsimp only
        split
        · exact le_rfl
        · exact rxProcess_ret entry l (rxChecked entry l (s.side p)) before
      · have error : ret ≠ 0 := by omega
        have nothing : ¬ 0 < ret := by omega
        dsimp only [rxStartTail, afterRxStart] at taken
        rw [if_neg error] at taken
        dsimp only at taken
        rw [if_neg nothing] at taken
        cases taken
        exact ⟨_, _, rfl, EntryMove.failed pc reaches untouched⟩
    · rcases rxStartRound_unreached entry l (s.side p) reaches with ⟨_, left⟩ | returned
      · rw [left] at taken
        cases taken
        refine ⟨_, _, rfl, EntryMove.unreached pc reaches (Or.inl ?_) ?_⟩
        · exact rxStartTail_untouched entry.pitAddReady l (s.side p)
        · exact rxStartTail_counted entry.pitAddReady l (s.side p)
      · rw [returned] at taken
        cases taken
        exact ⟨_, _, rfl, EntryMove.unreached pc reaches (Or.inr (Untouched.refl _)) fun _ => le_rfl⟩
  · cases taken

theorem flowPath_move {s t : RxFlow} {label : RxLabel} (taken : flowPath label s = some t)
    (q : RxqIndex) : QueueMove s (.path label) q (t.queue q) := by
  have kept : ∀ u, (rxStep s.path label).map (fun path => { s with path }) = some u →
      QueueMove s (.path label) q (u.queue q) := by
    intro u moved
    obtain ⟨path, _, rfl⟩ := Option.map_eq_some_iff.mp moved
    exact QueueMove.same
  unfold flowPath at taken
  split at taken
  · cases taken
  · cases taken
  · obtain ⟨path, _, rfl⟩ := Option.map_eq_some_iff.mp taken
    exact QueueMove.stopped rfl
  · exact kept t taken

theorem pollFinish_move {s : RxFlow} {label : FlowLabel} {p : RxqIndex} {run : RxqRun}
    (taken : pollFinish (s.queue p) = some run) : QueueMove s label p run := by
  unfold pollFinish at taken
  split at taken
  · rename_i pc
    cases taken
    exact QueueMove.finished pc
  · cases taken

theorem flow_moves {s t : RxFlow} {label : FlowLabel} (taken : s.step label = some t)
    (q : RxqIndex) : QueueMove s label q (t.queue q) := by
  cases label with
  | path label => exact flowPath_move taken q
  | napiSchedule p =>
    cases taken
    exact (QueueMove.napi NapiMove.scheduled).of_setQueue _ q
  | napiDisable p =>
    cases taken
    exact (QueueMove.napi NapiMove.disabling).of_setQueue _ q
  | napiDisabled p =>
    obtain ⟨napi, disabled, rfl⟩ := Option.map_eq_some_iff.mp taken
    exact (QueueMove.napi (NapiMove.disabled disabled)).of_setQueue _ q
  | napiEnable p =>
    obtain ⟨napi, enabled, rfl⟩ := Option.map_eq_some_iff.mp taken
    exact (QueueMove.napi (NapiMove.enabled enabled)).of_setQueue _ q
  | pollBegin p budget lockAcquired =>
    obtain ⟨run, begun, rfl⟩ := Option.map_eq_some_iff.mp taken
    rw [setQueue_queue]
    split
    · rename_i here
      rw [here]
      exact QueueMove.began rfl begun
    · exact QueueMove.same
  | collect p hwWrIdx => exact collectStep_move taken q
  | entry p entry =>
    obtain ⟨run, path, rfl, move⟩ := entryStep_move taken
    rw [setQueue_queue]
    split
    · rename_i here
      rw [here]
      exact QueueMove.entered rfl move
    · exact QueueMove.same
  | pollFinish p =>
    obtain ⟨run, done, rfl⟩ := Option.map_eq_some_iff.mp taken
    exact (pollFinish_move done).of_setQueue _ q

end Moves

section Started

def onePage (i : Nat) : Option Nat := if i = 0 then some 4096 else none

/-- The normal BAT with one skb posted in its first entry. -/
def onePosted : Bat := { (clearBitmap (batAlloc .normal)).post 0 4096 with batWrIdx := 1 }

theorem rxBufAlloc_onePage {bufCnt : Nat} (two : 2 ≤ bufCnt) (most : bufCnt < DPMAIF_BAT_COUNT) :
    rxBufAlloc onePage true none bufCnt (clearBitmap (batAlloc .normal)) = (onePosted, 0) := by
  have room := @emptyRoom (clearBitmap (batAlloc .normal)) (by decide) rfl rfl
  have size : (clearBitmap (batAlloc .normal)).batSizeCnt = DPMAIF_BAT_COUNT := rfl
  have filled : fillBat onePage (clearBitmap (batAlloc .normal)).batWrIdx bufCnt 0
      (clearBitmap (batAlloc .normal)) = ((clearBitmap (batAlloc .normal)).post 0 4096, 1) := by
    obtain ⟨rounds, rfl⟩ := Nat.exists_eq_add_of_le' two
    rfl
  unfold rxBufAlloc
  rw [room, size, if_neg (by omega), if_neg (by omega), filled]
  rfl

/-- The data path started with one skb and with the fragment table `frag`. -/
def flowStarted (frag : Bat) : RxFlow :=
  { flowInit with path := ⟨onePosted, frag, true, .pwron, .idle⟩ }

theorem flowStep_start (bufAllocs fragAllocs : Nat → Option Nat) (hwReady : Bool) (s : RxFlow) :
    s.step (.path (.start bufAllocs fragAllocs hwReady)) =
      (rxStart bufAllocs fragAllocs hwReady s.path).map fun path => { s with path } := rfl

theorem flow_started :
    ∃ frag, flowInit.step (.path (.start onePage pages true)) = some (flowStarted frag) := by
  obtain ⟨frag, filled, _⟩ := @rxFragAlloc_full pages (batAlloc .frag)
    (fun _ => Option.some_ne_none _) (by decide) rfl rfl
  have normal := @rxBufAlloc_onePage (DPMAIF_BAT_COUNT - 1) (by decide) (by decide)
  have started := @rxStart_filled onePage pages rxInit onePosted frag (by decide) rfl normal filled
  refine ⟨frag, ?_⟩
  rw [flowStep_start, show flowInit.path = rxInit from rfl, started]
  rfl

end Started

end T7xxModel.Dpmaif
