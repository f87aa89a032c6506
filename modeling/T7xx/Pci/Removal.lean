import T7xx.Cldma.LateInit
import T7xx.Cldma.PortRecv
import T7xx.Dpmaif.DoneWorks
import T7xx.Fsm.CommandQueue

namespace T7xxModel.Pci

open Transition Fsm
open Cldma (CldmaId Dir Qno)
open Dpmaif (TxqIndex RxqIndex txq0)

inductive IrqLine where
  | dpmaif (q : RxqIndex)
  | cldma (id : CldmaId)
  | mhccif
  | sapRgu
deriving DecidableEq, Repr

inductive Workqueue where
  | handshake
  | cldma (id : CldmaId) (dir : Dir) (q : Qno)
  | dpmaifTx (q : TxqIndex)
deriving DecidableEq, Repr

/-- A call of a handler that must not come after `t7xx_md_exit`. -/
inductive HandlerCall where
  | queueWork (wq : Workqueue)
  | appendCmd (cmdId : FsmCmdId) (flag : BitVec 32)
deriving DecidableEq, Repr

/-- A handler or its thread: not running, before its `calls` with the interrupts it will acknowledge
    after them, or in `t7xx_reset_device` before the calls that precede the reset. -/
inductive Handler where
  | idle
  | acting (calls : List HandlerCall) (ack : BitVec 32)
  | resetting (calls : List HandlerCall)
deriving DecidableEq, Repr

/-- For each queue whether a status bit is set for which `t7xx_cldma_irq_work_cb` queues its work, and
    whether the queue is masked. -/
structure CldmaInts where
  status : Dir → Qno → Bool
  masked : Dir → Qno → Bool

structure DpmaifInts where
  poweredOn : Bool
  status : TxqIndex → Bool
  masked : TxqIndex → Bool

/-- The next action of `t7xx_md_exit`, which reads the mode first. -/
inductive ExitPc where
  | entry
  | clearRgu (mode : Mode)
  | sendPreStop (mode : Mode)
  | cldmaStop (id : CldmaId)
  | cldmaDestroy (id : CldmaId)
  | dpmaifStop
  | dpmaifDestroy
  | stopThread
  | flush
  | destroyHandshakeWq
  | exited
  | skipped
deriving DecidableEq, Repr

/-- `sent` interrupts were sent to the host and not handled yet, `woken` ones wait for their thread,
    and `rguReset` says that the device status asks for a PLDR or FLDR. -/
structure ExitRun where
  fsm : FsmRun
  fsmExited : Bool
  pc : ExitPc
  registered : IrqLine → Bool
  enabled : IrqLine → Bool
  sent : IrqLine → Bool
  woken : IrqLine → Bool
  handler : IrqLine → Handler
  cldma : CldmaId → CldmaInts
  dpmaif : DpmaifInts
  rguReset : Bool

/-- Who calls `t7xx_md_exit`; only the first frees the interrupts. -/
inductive ExitCaller where
  | remove
  | shutdown
deriving DecidableEq, Repr

/-- The labels from `cldmaStart` to `rguEnable` are other threads of the driver, those from
    `cldmaStatus` to `send` the device. -/
inductive ExitLabel where
  | fsm (label : FsmLabel)
  | cldmaStart (id : CldmaId)
  | cldmaStop (id : CldmaId)
  | cldmaWorkEnd (id : CldmaId) (dir : Dir) (q : Qno)
  | dpmaifStart
  | dpmaifStop
  | txDoneEnd (q : TxqIndex)
  | rguEnable (irqEn set : Bool)
  | cldmaStatus (id : CldmaId) (dir : Dir) (q : Qno)
  | ulStatus (q : TxqIndex)
  | rguStatus (reset : Bool)
  | send (int : IrqLine)
  | handler (int : IrqLine)
  | thread (int : IrqLine)
  | call (int : IrqLine)
  | resetOver (ret : Int)
  | finish (int : IrqLine)
  | exit (allocated : Bool)
  | freeIrq (int : IrqLine)
deriving DecidableEq, Repr

section Steps

def ExitRun.modem (s : ExitRun) : Modem := s.fsm.m

def ExitRun.setModem (s : ExitRun) (m : Modem) : ExitRun := { s with fsm := { s.fsm with m } }

def ExitRun.setInt (s : ExitRun) (int : IrqLine) (enabled : Bool) : ExitRun :=
  { s with enabled := Function.update s.enabled int enabled }

def ExitRun.setHandler (s : ExitRun) (int : IrqLine) (handler : Handler) : ExitRun :=
  { s with handler := Function.update s.handler int handler }

def ExitRun.wake (s : ExitRun) (int : IrqLine) : ExitRun :=
  { s with woken := Function.update s.woken int true }

def ExitRun.setCldma (s : ExitRun) (id : CldmaId) (ints : CldmaInts) : ExitRun :=
  { s with cldma := Function.update s.cldma id ints }

/-- `t7xx_pci_mhccif_isr` up to its call of `t7xx_fsm_append_cmd` or `queue_work`. -/
def mhccifCalls (m : Modem) : Modem × List HandlerCall :=
  let m := { m with expId := m.expId ||| (m.swIntSts &&& D2H_SW_INT_MASK) }
  if m.expId &&& D2H_INT_EXCEPTION_INIT ≠ 0 then
    if m.mdState = .invalid ∨ m.mdState = .waitingForHs1 ∨ m.mdState = .waitingForHs2 ∨
        m.mdState = .ready then
      ({ m with expId := m.expId &&& ~~~D2H_INT_EXCEPTION_INIT, expFlg := true },
        [.appendCmd .exception (FSM_CMD_FLAG_IN_INTERRUPT ||| FSM_CMD_EX_REASON_EVENT)])
    else (m, [])
  else if m.expId &&& D2H_INT_PORT_ENUM ≠ 0 then
    let m := { m with expId := m.expId &&& ~~~D2H_INT_PORT_ENUM }
    if m.currState = .init ∨ m.currState = .preStart ∨ m.currState = .stopped then
      (m, [.appendCmd .start FSM_CMD_FLAG_IN_INTERRUPT])
    else (m, [])
  else if m.mdState = .waitingForHs1 then
    if m.expId &&& D2H_INT_ASYNC_MD_HK ≠ 0 ∧ m.mhccifMask &&& D2H_INT_ASYNC_MD_HK = 0 then
      ({ m with expId := m.expId &&& ~~~D2H_INT_ASYNC_MD_HK }, [.queueWork .handshake])
    else (m, [])
  else (m, [])

/-- `t7xx_mhccif_isr_thread` up to the same call. -/
def mhccifThread (m : Modem) : Modem × List HandlerCall :=
  if m.swIntSts &&& D2H_SW_INT_MASK ≠ 0 then mhccifCalls m else (m, [])

def HandlerCall.perform : HandlerCall → Modem → Modem
  | .appendCmd cmdId flag, m => fsmAppendCmd cmdId flag m
  | .queueWork .handshake, m => queueHandshakeWork .md m
  | .queueWork _, m => m

def CldmaInts.found (ints : CldmaInts) (dir : Dir) (q : Qno) : Bool :=
  ints.status dir q && !ints.masked dir q

/-- `t7xx_cldma_irq_work_cb` up to its calls of `queue_work`; it masks the queues it has found. -/
def CldmaInts.handle (ints : CldmaInts) (id : CldmaId) : CldmaInts × List HandlerCall :=
  let calls (dir : Dir) := ((List.finRange _).filter (ints.found dir)).map fun q =>
    HandlerCall.queueWork (.cldma id dir q)
  ({ status := fun dir q => ints.status dir q && ints.masked dir q
     masked := fun dir q => ints.masked dir q || ints.found dir q },
    calls .tx ++ calls .rx)

def CldmaInts.stopped : CldmaInts := { status := fun _ _ => false, masked := fun _ _ => true }

def DpmaifInts.found (ints : DpmaifInts) (q : TxqIndex) : Bool := ints.status q && !ints.masked q

/-- `t7xx_dpmaif_irq_cb` up to its calls of `queue_work`: the TX queues belong to the first line. -/
def DpmaifInts.handle (ints : DpmaifInts) (line : RxqIndex) : DpmaifInts × List HandlerCall :=
  if line.val = 0 then
    ({ ints with
        status := fun q => ints.status q && ints.masked q
        masked := fun q => ints.masked q || ints.found q },
      ((List.finRange _).filter ints.found).map fun q => .queueWork (.dpmaifTx q))
  else (ints, [])

def ExitRun.handlerStep (s : ExitRun) : IrqLine → Option ExitRun
  | .mhccif => some (s.wake .mhccif)
  | .cldma id =>
    if s.handler (.cldma id) = .idle then
      let (ints, calls) := (s.cldma id).handle id
      some (((s.setInt (.cldma id) false).setCldma id ints).setHandler (.cldma id) (.acting calls 0))
    else none
  | .dpmaif q =>
    if s.dpmaif.poweredOn then some ((s.setInt (.dpmaif q) false).wake (.dpmaif q)) else some s
  | .sapRgu =>
    if s.modem.dev.rguPciIrqEn then some ((s.setInt .sapRgu false).wake .sapRgu) else some s

def ExitRun.threadStep (s : ExitRun) : IrqLine → Option ExitRun
  | .mhccif =>
    let (m, calls) := mhccifThread s.modem
    some ((s.setModem m).setHandler .mhccif (.acting calls s.modem.swIntSts))
  | .cldma _ => none
  | .dpmaif q =>
    let (dpmaif, calls) := s.dpmaif.handle q
    some ({ s with dpmaif }.setHandler (.dpmaif q) (.acting calls 0))
  | .sapRgu =>
    if s.rguReset then
      some (s.setHandler .sapRgu (.resetting [.appendCmd .stop FSM_CMD_FLAG_WAIT_FOR_COMPLETION]))
    else some (s.setHandler .sapRgu (.acting [] 0))

def ExitRun.callStep (s : ExitRun) (int : IrqLine) : Option ExitRun :=
  match s.handler int with
  | .acting (call :: calls) ack =>
    some ((s.setModem (call.perform s.modem)).setHandler int (.acting calls ack))
  | .resetting (call :: calls) =>
    some ((s.setModem (call.perform s.modem)).setHandler int (.resetting calls))
  | _ => none

/-- `t7xx_reset_device` once `FSM_CMD_STOP` is handled or its wait is over: a reset or a reinit that
    fails ends it, otherwise it enables the interrupts again and is about to start the modem. -/
def ExitRun.resetOver (s : ExitRun) (ret : Int) : Option ExitRun :=
  if s.handler .sapRgu = .resetting [] then
    let s := s.setModem (modeUpdate .reset s.modem)
    if ret ≠ 0 then some (s.setHandler .sapRgu (.acting [] 0))
    else
      let s := s.setModem { s.modem with dev := { s.modem.dev with rguPciIrqEn := true } }
      let s := { s with enabled := fun int => int = IrqLine.mhccif || int = IrqLine.sapRgu }
      some (s.setHandler .sapRgu (.acting [.appendCmd .start 0] 0))
  else none

/-- The ends of the handlers; that of `t7xx_rgu_isr_thread` enables nothing. -/
def ExitRun.finishStep (s : ExitRun) (int : IrqLine) : Option ExitRun :=
  match s.handler int with
  | .acting [] ack =>
    let s := s.setModem { s.modem with swIntSts := s.modem.swIntSts &&& ~~~ack }
    let s := s.setHandler int .idle
    if int = .sapRgu then some s else some (s.setInt int true)
  | _ => none

/-- The next action of `t7xx_md_exit`: `kthread_stop` waits for the main thread and
    `destroy_workqueue` for the handshake works, while the wait for the PRE_STOP command may be over
    at any time. -/
def ExitRun.exitStep (s : ExitRun) (allocated : Bool) : Option ExitRun :=
  match s.pc with
  | .entry => some { s with pc := .clearRgu s.modem.dev.mode }
  | .clearRgu mode =>
    some { s.setInt .sapRgu false with
      pc := if s.modem.mdInitFinish then .sendPreStop mode else .skipped }
  | .sendPreStop mode =>
    if mode ≠ .reset ∧ mode ≠ .unknown ∧ allocated = true then
      some { s.setModem (fsmAppendCmd .preStop FSM_CMD_FLAG_WAIT_FOR_COMPLETION s.modem) with
        pc := .cldmaStop .ap }
    else some { s with pc := .cldmaStop .ap }
  | .cldmaStop id =>
    some { (s.setInt (.cldma id) false).setCldma id .stopped with pc := .cldmaDestroy id }
  | .cldmaDestroy .ap => some { s with pc := .cldmaStop .md }
  | .cldmaDestroy .md => some { s with pc := .dpmaifStop }
  | .dpmaifStop =>
    let enabled (int : IrqLine) := match int with
      | .dpmaif _ => false
      | _ => s.enabled int
    if s.dpmaif.poweredOn then
      some { s with enabled, dpmaif := { s.dpmaif with poweredOn := false }, pc := .dpmaifDestroy }
    else some { s with pc := .dpmaifDestroy }
  | .dpmaifDestroy => some { s with pc := .stopThread }
  | .stopThread =>
    if s.fsm.thread = .idle then some { s with fsmExited := true, pc := .flush } else none
  | .flush => some { s.setModem (fsmFlushEventCmdQs s.modem) with pc := .destroyHandshakeWq }
  | .destroyHandshakeWq =>
    if (s.fsm.mdWork = .idle ∧ s.modem.handshakeWork = false) ∧
        s.fsm.apWork = .idle ∧ s.modem.apHandshakeWork = false then
      some { s with pc := .exited }
    else none
  | .exited | .skipped => none

/-- The main thread until it is stopped, the handshake works until their queue is destroyed, and what
    others do to the state machine; the MHCCIF interrupt has its own steps. -/
def ExitRun.fsmStep (s : ExitRun) (label : FsmLabel) : Option ExitRun :=
  if label.byThread = true ∧ s.fsmExited = true then none
  else
    match label with
    | .mhccifIsr => none
    | .workStart _ | .workEvent _ | .workFinish _ _ =>
      if s.pc = .exited then none else (s.fsm.step label).map fun fsm => { s with fsm }
    | _ => (s.fsm.step label).map fun fsm => { s with fsm }

/-- What the main thread, the works and the data path do to the interrupts until they are gone. -/
def ExitRun.driverStep (s : ExitRun) : ExitLabel → Option ExitRun
  | .cldmaStart id =>
    some ((s.setInt (.cldma id) true).setCldma id
      { s.cldma id with masked := fun _ _ => false })
  | .cldmaStop id => some ((s.setInt (.cldma id) false).setCldma id .stopped)
  | .cldmaWorkEnd id dir q =>
    some (s.setCldma id { s.cldma id with
      masked := Function.update (s.cldma id).masked dir
        (Function.update ((s.cldma id).masked dir) q false) })
  | .dpmaifStart =>
    let enabled (int : IrqLine) := match int with
      | .dpmaif _ => true
      | _ => s.enabled int
    some { s with enabled, dpmaif := ⟨true, fun _ => false, fun _ => false⟩ }
  | .dpmaifStop =>
    let enabled (int : IrqLine) := match int with
      | .dpmaif _ => false
      | _ => s.enabled int
    some { s with enabled, dpmaif := { s.dpmaif with poweredOn := false } }
  | .txDoneEnd q =>
    some { s with dpmaif := { s.dpmaif with masked := Function.update s.dpmaif.masked q false } }
  | _ => none

def ExitRun.deviceStep (s : ExitRun) : ExitLabel → Option ExitRun
  | .cldmaStatus id dir q =>
    some (s.setCldma id { s.cldma id with
      status := Function.update (s.cldma id).status dir
        (Function.update ((s.cldma id).status dir) q true) })
  | .ulStatus q =>
    some { s with dpmaif := { s.dpmaif with status := Function.update s.dpmaif.status q true } }
  | .rguStatus rguReset => some { s with rguReset }
  | .send int =>
    if s.enabled int then some { s with sent := Function.update s.sent int true } else none
  | _ => none

def ExitRun.step (caller : ExitCaller) (s : ExitRun) (label : ExitLabel) : Option ExitRun :=
  match label with
  | .fsm label => s.fsmStep label
  | .cldmaStatus .. | .ulStatus _ | .rguStatus _ | .send _ => s.deviceStep label
  | .rguEnable irqEn set =>
    let dev := { s.modem.dev with rguPciIrqEn := irqEn }
    some ((s.setModem { s.modem with dev }).setInt .sapRgu set)
  | .handler int =>
    if s.registered int = true ∧ s.sent int = true then
      { s with sent := Function.update s.sent int false }.handlerStep int
    else none
  | .thread int =>
    if s.woken int = true ∧ s.handler int = .idle then
      { s with woken := Function.update s.woken int false }.threadStep int
    else none
  | .call int => s.callStep int
  | .resetOver ret => s.resetOver ret
  | .finish int => s.finishStep int
  | .exit allocated => s.exitStep allocated
  | .freeIrq int =>
    if caller = .remove ∧ s.pc = .exited ∧ s.woken int = false ∧ s.handler int = .idle then
      some { s with registered := Function.update s.registered int false }
    else none
  | label => if s.pc = .exited then none else s.driverStep label

/-- The same modem when `t7xx_md_exit` is called. -/
def ExitRun.entering (s : ExitRun) : ExitRun := { s with pc := .entry }

end Steps

section Contract

def Handler.calls : Handler → List HandlerCall
  | .idle => []
  | .acting calls _ | .resetting calls => calls

/-- Once `t7xx_md_exit` has stopped the main thread and destroyed all workqueues, no handler is about
    to queue a work or to append a command. -/
def NoLateCall (s : ExitRun) : Prop := s.pc = .exited → ∀ int, (s.handler int).calls = []

/-- The tests of `t7xx_pci_mhccif_isr` find nothing to do: an exception or a port enumeration comes in
    a state in which it is ignored, and a handshake is not expected or masked. -/
def Ignored (m : Modem) : Prop :=
  let found := m.expId ||| (m.swIntSts &&& D2H_SW_INT_MASK)
  m.swIntSts &&& D2H_SW_INT_MASK ≠ 0 →
    if found &&& D2H_INT_EXCEPTION_INIT ≠ 0 then
      m.mdState = .exception ∨ m.mdState = .waitingToStop ∨ m.mdState = .stopped
    else if found &&& D2H_INT_PORT_ENUM ≠ 0 then
      m.currState ≠ .init ∧ m.currState ≠ .preStart ∧ m.currState ≠ .stopped
    else
      m.mdState = .waitingForHs1 → found &&& D2H_INT_ASYNC_MD_HK ≠ 0 →
        m.mhccifMask &&& D2H_INT_ASYNC_MD_HK ≠ 0

/-- When `t7xx_md_exit` ends no handler has a call left, and a handler that looks at its interrupt
    after that finds nothing to do. -/
def FindsNothing (s : ExitRun) : ExitLabel → Prop
  | .exit _ => s.pc = .destroyHandshakeWq → ∀ int, (s.handler int).calls = []
  | .thread .mhccif => s.pc = .exited → Ignored s.modem
  | .handler (.cldma id) =>
    s.pc = .exited → ∀ dir q, (s.cldma id).status dir q = true → (s.cldma id).masked dir q = true
  | .thread (.dpmaif line) =>
    s.pc = .exited → line.val = 0 → ∀ q, s.dpmaif.status q = true → s.dpmaif.masked q = true
  | .thread .sapRgu => s.pc = .exited → s.rguReset = false
  | .resetOver ret => s.pc = .exited → ret ≠ 0
  | _ => True

end Contract

section Handlers

theorem performs_calls (m : Modem) :
    (mhccifCalls m).2.foldl (fun m call => call.perform m) (mhccifCalls m).1 = pciMhccifIsr m := by
  unfold mhccifCalls pciMhccifIsr
  dsimp only
  split
  · split <;> rfl
  · split
    · split <;> rfl
    · split
      · split <;> rfl
      · rfl

/-- The steps of the MHCCIF handler without others between them are `t7xx_mhccif_isr_thread`. -/
theorem mhccifThread_isr (m : Modem) :
    let after := (mhccifThread m).2.foldl (fun m call => call.perform m) (mhccifThread m).1
    { after with swIntSts := after.swIntSts &&& ~~~m.swIntSts } = mhccifIsrThread m := by
  unfold mhccifThread mhccifIsrThread
  dsimp only
  split
  · rw [performs_calls]
  · rfl

theorem handled_states (state : MdState) :
    (state = .invalid ∨ state = .waitingForHs1 ∨ state = .waitingForHs2 ∨ state = .ready) ↔
      ¬ (state = .exception ∨ state = .waitingToStop ∨ state = .stopped) := by
  cases state <;> decide

theorem mhccifThread_nothing (m : Modem) : (mhccifThread m).2 = [] ↔ Ignored m := by
  unfold mhccifThread Ignored
  by_cases pending : m.swIntSts &&& D2H_SW_INT_MASK ≠ 0
  · rw [if_pos pending, imp_iff_right pending]
    unfold mhccifCalls
    dsimp only
    split
    · split
      · rename_i handled
        refine iff_of_false (List.cons_ne_nil _ _) fun ignored => ?_
        exact (handled_states m.mdState).mp handled ignored
      · rename_i ignored
        exact iff_of_true rfl (not_not.mp fun other => ignored ((handled_states m.mdState).mpr other))
    · split
      · split
        · rename_i starts
          refine iff_of_false (List.cons_ne_nil _ _) fun ignored => ?_
          rcases starts with init | preStart | stopped
          · exact ignored.1 init
          · exact ignored.2.1 preStart
          · exact ignored.2.2 stopped
        · rename_i ignored
          rw [not_or, not_or] at ignored
          exact iff_of_true rfl ignored
      · by_cases waits : m.mdState = .waitingForHs1
        · rw [if_pos waits, imp_iff_right waits]
          split
          · rename_i found
            exact iff_of_false (List.cons_ne_nil _ _) fun masked => masked found.1 found.2
          · rename_i found
            exact iff_of_true rfl fun raised unmasked => found ⟨raised, unmasked⟩
        · rw [if_neg waits]
          exact iff_of_true rfl fun waiting => absurd waiting waits
  · rw [if_neg pending]
    exact iff_of_true rfl fun found => absurd found pending

theorem found_none {length : Nat} {status masked : Fin length → Bool} {call : Fin length → HandlerCall} :
    ((List.finRange length).filter fun q => status q && !masked q).map call = [] ↔
      ∀ q, status q = true → masked q = true := by
  rw [List.map_eq_nil_iff, List.filter_eq_nil_iff]
  refine forall_congr' fun q => ?_
  rw [imp_iff_right (List.mem_finRange q), Bool.and_eq_true, Bool.not_eq_true', not_and,
    Bool.not_eq_false]

theorem cldmaHandle_nothing (ints : CldmaInts) (id : CldmaId) :
    (ints.handle id).2 = [] ↔ ∀ dir q, ints.status dir q = true → ints.masked dir q = true := by
  have both : (ints.handle id).2 = [] ↔ (∀ q, ints.status .tx q = true → ints.masked .tx q = true) ∧
      ∀ q, ints.status .rx q = true → ints.masked .rx q = true :=
    List.append_eq_nil_iff.trans (and_congr found_none found_none)
  rw [both]
  constructor
  · rintro ⟨tx, rx⟩ dir
    cases dir with
    | tx => exact tx
    | rx => exact rx
  · exact fun all => ⟨all .tx, all .rx⟩

theorem dpmaifHandle_nothing (ints : DpmaifInts) (line : RxqIndex) :
    (ints.handle line).2 = [] ↔ (line.val = 0 → ∀ q, ints.status q = true → ints.masked q = true) := by
  unfold DpmaifInts.handle
  split
  · rename_i first
    exact found_none.trans (imp_iff_right first).symm
  · rename_i other
    exact iff_of_true rfl fun first => absurd first other

end Handlers

section Exactness

variable {caller : ExitCaller} {s t : ExitRun} {int : IrqLine}

theorem NoLateCall.same (safe : NoLateCall s) (pc : t.pc = s.pc) (handler : t.handler = s.handler) :
    NoLateCall t := by
  intro exited
  rw [handler]
  exact safe (pc ▸ exited)

theorem NoLateCall.moved {handler : Handler} (safe : NoLateCall s) (pc : t.pc = s.pc)
    (moved : t.handler = Function.update s.handler int handler) :
    NoLateCall t ↔ (s.pc = .exited → handler.calls = []) := by
  constructor
  · intro after exited
    have none := after (pc.trans exited) int
    rw [moved, Function.update_self] at none
    exact none
  · intro none exited other
    have before := pc ▸ exited
    rw [moved]
    by_cases own : other = int
    · rw [own, Function.update_self]
      exact none before
    · rw [Function.update_of_ne own]
      exact safe before other

theorem handlerStep_exact (safe : NoLateCall s) (taken : s.handlerStep int = some t) :
    NoLateCall t ↔ FindsNothing s (.handler int) := by
  cases int with
  | mhccif =>
    cases taken
    exact iff_of_true (safe.same rfl rfl) trivial
  | cldma id =>
    obtain ⟨_, taken⟩ := Option.ite_none_right_eq_some.mp taken
    cases taken
    exact Iff.trans (safe.moved rfl rfl) (imp_congr_right fun _ => cldmaHandle_nothing (s.cldma id) id)
  | dpmaif q =>
    dsimp only [ExitRun.handlerStep] at taken
    split at taken <;> cases taken
    · exact iff_of_true (safe.same rfl rfl) trivial
    · exact iff_of_true safe trivial
  | sapRgu =>
    dsimp only [ExitRun.handlerStep] at taken
    split at taken <;> cases taken
    · exact iff_of_true (safe.same rfl rfl) trivial
    · exact iff_of_true safe trivial

theorem isrThreadStep_exact (safe : NoLateCall s) (taken : s.threadStep int = some t) :
    NoLateCall t ↔ FindsNothing s (.thread int) := by
  cases int with
  | mhccif =>
    cases taken
    exact Iff.trans (safe.moved rfl rfl) (imp_congr_right fun _ => mhccifThread_nothing s.modem)
  | cldma id => cases taken
  | dpmaif line =>
    cases taken
    exact Iff.trans (safe.moved rfl rfl) (imp_congr_right fun _ => dpmaifHandle_nothing s.dpmaif line)
  | sapRgu =>
    dsimp only [ExitRun.threadStep] at taken
    split at taken <;> rename_i reset <;> cases taken
    · refine Iff.trans (safe.moved rfl rfl) (imp_congr_right fun _ => iff_of_false (List.cons_ne_nil _ _) ?_)
      rw [reset]
      nofun
    · exact Iff.trans (safe.moved rfl rfl)
        (imp_congr_right fun _ => iff_of_true rfl (Bool.eq_false_iff.mpr reset))

theorem callStep_safe (safe : NoLateCall s) (taken : s.callStep int = some t) : NoLateCall t := by
  unfold ExitRun.callStep at taken
  split at taken
  · rename_i call calls ack acting
    cases taken
    refine Iff.mpr (safe.moved rfl rfl) fun exited => ?_
    have none := safe exited int
    rw [acting] at none
    cases none
  · rename_i call calls resetting
    cases taken
    refine Iff.mpr (safe.moved rfl rfl) fun exited => ?_
    have none := safe exited int
    rw [resetting] at none
    cases none
  · cases taken

theorem resetOver_exact {ret : Int} (safe : NoLateCall s) (taken : s.resetOver ret = some t) :
    NoLateCall t ↔ FindsNothing s (.resetOver ret) := by
  obtain ⟨_, taken⟩ := Option.ite_none_right_eq_some.mp taken
  dsimp only at taken
  split at taken
  · rename_i failed
    cases taken
    exact Iff.trans (safe.moved rfl rfl) (imp_congr_right fun _ => iff_of_true rfl failed)
  · rename_i succeeded
    cases taken
    refine Iff.trans (safe.moved rfl rfl) (imp_congr_right fun _ => iff_of_false (List.cons_ne_nil _ _) ?_)
    exact succeeded

theorem finishStep_safe (safe : NoLateCall s) (taken : s.finishStep int = some t) : NoLateCall t := by
  unfold ExitRun.finishStep at taken
  split at taken
  · dsimp only at taken
    split at taken <;> cases taken <;> exact Iff.mpr (safe.moved rfl rfl) fun _ => rfl
  · cases taken

theorem exitStep_exact {allocated : Bool} (taken : s.exitStep allocated = some t) :
    NoLateCall t ↔ FindsNothing s (.exit allocated) := by
  have early (reached : t.pc ≠ .exited) (before : s.pc ≠ .destroyHandshakeWq) :
      NoLateCall t ↔ FindsNothing s (.exit allocated) :=
    iff_of_true (fun exited => absurd exited reached) fun last => absurd last before
  unfold ExitRun.exitStep at taken
  split at taken <;> rename_i here
  · cases taken
    exact early nofun (by rw [here]; nofun)
  · cases taken
    refine early ?_ (by rw [here]; nofun)
    dsimp only
    split <;> nofun
  · split at taken <;> cases taken <;> exact early nofun (by rw [here]; nofun)
  · cases taken
    exact early nofun (by rw [here]; nofun)
  · cases taken
    exact early nofun (by rw [here]; nofun)
  · cases taken
    exact early nofun (by rw [here]; nofun)
  · split at taken <;> cases taken <;> exact early nofun (by rw [here]; nofun)
  · cases taken
    exact early nofun (by rw [here]; nofun)
  · split at taken <;> cases taken
    exact early nofun (by rw [here]; nofun)
  · cases taken
    exact early nofun (by rw [here]; nofun)
  · split at taken <;> cases taken
    exact ⟨fun safe _ => safe rfl, fun none _ => none here⟩
  · cases taken
  · cases taken

theorem fsmStep_safe {label : FsmLabel} (safe : NoLateCall s) (taken : s.fsmStep label = some t) :
    NoLateCall t := by
  have moved {fsm : Option FsmRun} (taken : (fsm.map fun fsm => { s with fsm }) = some t) :
      NoLateCall t := by
    obtain ⟨fsm, _, rfl⟩ := Option.map_eq_some_iff.mp taken
    exact safe.same rfl rfl
  unfold ExitRun.fsmStep at taken
  split at taken
  · cases taken
  split at taken
  · cases taken
  · exact moved (Option.ite_none_left_eq_some.mp taken).2
  · exact moved (Option.ite_none_left_eq_some.mp taken).2
  · exact moved (Option.ite_none_left_eq_some.mp taken).2
  · exact moved taken

theorem driverStep_safe {label : ExitLabel} (safe : NoLateCall s)
    (taken : s.driverStep label = some t) : NoLateCall t := by
  unfold ExitRun.driverStep at taken
  split at taken <;> cases taken <;> exact safe.same rfl rfl

theorem deviceStep_safe (label : ExitLabel) (safe : NoLateCall s)
    (taken : s.deviceStep label = some t) : NoLateCall t := by
  unfold ExitRun.deviceStep at taken
  split at taken
  · cases taken
    exact safe.same rfl rfl
  · cases taken
    exact safe.same rfl rfl
  · cases taken
    exact safe.same rfl rfl
  · split at taken <;> cases taken
    exact safe.same rfl rfl
  · cases taken

theorem exitRun_exact (s : ExitRun) (label : ExitLabel) (t : ExitRun) (safe : NoLateCall s)
    (taken : s.step caller label = some t) : NoLateCall t ↔ FindsNothing s label := by
  have driver (taken : (if s.pc = .exited then none else s.driverStep label) = some t) :
      NoLateCall t := driverStep_safe safe (Option.ite_none_left_eq_some.mp taken).2
  cases label with
  | fsm label => exact iff_of_true (fsmStep_safe safe taken) trivial
  | cldmaStart id => exact iff_of_true (driver taken) trivial
  | cldmaStop id => exact iff_of_true (driver taken) trivial
  | cldmaWorkEnd id dir q => exact iff_of_true (driver taken) trivial
  | dpmaifStart => exact iff_of_true (driver taken) trivial
  | dpmaifStop => exact iff_of_true (driver taken) trivial
  | txDoneEnd q => exact iff_of_true (driver taken) trivial
  | rguEnable irqEn set =>
    cases taken
    exact iff_of_true (safe.same rfl rfl) trivial
  | cldmaStatus id dir q => exact iff_of_true (deviceStep_safe (.cldmaStatus id dir q) safe taken) trivial
  | ulStatus q => exact iff_of_true (deviceStep_safe (.ulStatus q) safe taken) trivial
  | rguStatus reset => exact iff_of_true (deviceStep_safe (.rguStatus reset) safe taken) trivial
  | send int => exact iff_of_true (deviceStep_safe (.send int) safe taken) trivial
  | handler int =>
    have taken := (Option.ite_none_right_eq_some.mp taken).2
    exact @handlerStep_exact { s with sent := Function.update s.sent int false } t int safe taken
  | thread int =>
    have taken := (Option.ite_none_right_eq_some.mp taken).2
    exact @isrThreadStep_exact { s with woken := Function.update s.woken int false } t int safe taken
  | call int => exact iff_of_true (callStep_safe safe taken) trivial
  | resetOver ret => exact resetOver_exact safe taken
  | finish int => exact iff_of_true (finishStep_safe safe taken) trivial
  | exit allocated => exact exitStep_exact taken
  | freeIrq int =>
    cases (Option.ite_none_right_eq_some.mp taken).2
    exact iff_of_true (safe.same rfl rfl) trivial

/-- Whatever state the modem is in when `t7xx_md_exit` is called, no handler queues a work on a
    destroyed workqueue or appends a command after the main thread was stopped exactly if the handlers
    that run on find nothing to do. -/
theorem no_late_call_iff_nothing_found (caller : ExitCaller) (s : ExitRun) (labels : List ExitLabel) :
    Visits NoLateCall (ExitRun.step caller) s.entering labels ↔
      Obeys FindsNothing (ExitRun.step caller) s.entering labels :=
  visits_iff_obeys (fun _ => True) (fun _ _ _ _ _ _ => trivial)
    (fun s label t _ safe taken => exitRun_exact s label t safe taken) trivial nofun

end Exactness

section FailedHandshake

/-- The modem as `t7xx_pci_probe` leaves it, with its interrupts requested. -/
def exitProbed : ExitRun where
  fsm := FsmRun.probed { probedDev with mode := .unknown }
  fsmExited := false
  pc := .entry
  registered := fun _ => true
  enabled := fun _ => true
  sent := fun _ => false
  woken := fun _ => false
  handler := fun _ => .idle
  cldma := fun _ => .stopped
  dpmaif := { poweredOn := false, status := fun _ => false, masked := fun _ => true }
  rguReset := false

def mhccifInt (bits : BitVec 32) : List ExitLabel :=
  [.fsm (.deviceInt bits), .send .mhccif, .handler .mhccif, .thread .mhccif, .call .mhccif,
    .finish .mhccif]

/-- A start up to its wait for the handshakes. -/
def bootTo (handshakes : BitVec 32) : List ExitLabel :=
  [.fsm .dequeue, .fsm (.devStage false linuxStatus)] ++ mhccifInt D2H_INT_PORT_ENUM ++
    [.fsm .dequeue, .fsm (.devStage false linuxStatus), .fsm .broadcastHs1,
      .fsm (.deviceInt handshakes), .fsm .notifyStart]

/-- Both handshakes time out, the modem is removed, and then its interrupts come. -/
def failedHandshake : List ExitLabel :=
  bootTo 0 ++ [.fsm .handshakeWake] ++ List.replicate 12 (.exit true) ++
    mhccifInt D2H_INT_ASYNC_MD_HK ++ mhccifInt D2H_INT_EXCEPTION_INIT

/-- A modem that is ready handles PRE_STOP in time, and then a port enumeration comes. -/
def stoppedInTime : List ExitLabel :=
  bootTo (D2H_INT_ASYNC_MD_HK ||| D2H_INT_ASYNC_AP_HK) ++
    (mdHandshake ++ apHandshake ++ [FsmLabel.handshakeWake]).map .fsm ++ List.replicate 3 (.exit true) ++
    [.fsm .dequeue, .fsm .stopDelayOver] ++ List.replicate 9 (.exit true) ++
    mhccifInt D2H_INT_PORT_ENUM

theorem late_calls_after_exit :
    ((execute (ExitRun.step .remove) exitProbed failedHandshake).map fun t =>
        (t.pc, t.fsmExited, t.modem.dev.mode, t.modem.handshakeWork, t.modem.commandQueue.map (·.cmdId))) =
      some (.exited, true, .unknown, true, [.exception]) ∧
    ((execute (ExitRun.step .shutdown) exitProbed stoppedInTime).map fun t =>
        (t.pc, t.fsmExited, t.modem.currState, t.modem.commandQueue.map (·.cmdId))) =
      some (.exited, true, .stopped, [.start]) ∧
    ¬ ∀ caller s labels, Visits NoLateCall (ExitRun.step caller) (ExitRun.entering s) labels := by
  refine ⟨by decide, by decide, fun all => ?_⟩
  have reached : (execute (ExitRun.step .remove) exitProbed.entering (failedHandshake.take 30)).map
      (fun t => (t.pc, (t.handler .mhccif).calls)) = some (.exited, [.queueWork .handshake]) := by
    decide
  obtain ⟨t, run, same⟩ := Option.map_eq_some_iff.mp reached
  obtain ⟨exited, calls⟩ := Prod.mk.inj same
  have none := (all .remove exitProbed _).finish run exited .mhccif
  rw [calls] at none
  cases none

end FailedHandshake

end T7xxModel.Pci
