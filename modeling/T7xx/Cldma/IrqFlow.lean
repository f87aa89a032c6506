import T7xx.Cldma.IrqRegs
import T7xx.Transition.Runs

namespace T7xxModel.Cldma

open Register Transition

/-- Who accesses a controller: its interrupt handler, the works of its queues, and a call that has
    taken `cldma_lock`. -/
inductive Thread where
  | isr
  | work (dir : Dir) (q : Qno)
  | call
deriving DecidableEq, Repr

/-- An access of a thread. Those that read carry the locals of their function; what these lead to is
    put in their place. `int` is a write to the L1 interrupt of the controller, `ack` the read of
    `t7xx_cldma_hw_tx_done` and `t7xx_cldma_hw_rx_done`, whose write follows, and `ret` the value that
    `t7xx_cldma_gpd_rx_collect` returns, not zero for an error. -/
inductive IrqOp where
  | int (on : Bool)
  | l2TxInt
  | l2RxInt (tx : BitVec 32)
  | l2TxIntMsk (tx rx : BitVec 32)
  | l2RxIntMsk (tx rx txMsk : BitVec 32)
  | ack (reg : HwReg) (mask : BitVec 32)
  | write (w : HwWrite)
  | rmw (reg : HwReg) (edit : Edit 32)
  | emptyHndl (q : Qno)
  | queue (dir : Dir) (q : Qno)
  | collect (dir : Dir) (q : Qno)
  | readInt (dir : Dir) (q : Qno) (overBudget : Bool)
  | lockTest (dir : Dir) (q : Qno) (overBudget : Bool)
  | queueStatus (q : Qno)
  | unlock
  | ret (q : Qno) (failed : Bool)
  | active (dir : Dir) (on : Bool)
deriving DecidableEq, Repr

/-- A controller among its threads. `left` counts the GPDs that the device has completed and no work has
    collected, `owes` is that the status bit of the last one is still to be raised, and `short` that
    the last execution of an RX work stopped at its budget, or failed on a queue no longer active. -/
structure IrqCtrl where
  regs : Bank HwReg 32
  l1On : Bool
  active : Dir → BitVec 16
  left : Dir → Qno → Nat
  owes : Dir → Qno → Bool
  pending : Dir → Qno → Bool
  short : Dir → Qno → Bool
  prog : Thread → Option (List IrqOp)
  lock : Option Thread

/-- The calls that take `cldma_lock`, with the addresses that they write. -/
inductive CtrlCall where
  | start (trDone : Dir → Qno → Option (BitVec 64))
  | suspend
  | suspendLate
  | resumeEarly (hwMode : BitVec 32) (txNext trDone : Qno → BitVec 64)
  | resume
  | stopAllQs (dir : Dir)

inductive Collected where
  | took
  | drained
  | overBudget
  | failed
deriving DecidableEq, Repr

/-- `complete` and `raise` are of the device, which may raise its status bits later than it hands back
    a GPD; `device` changes any other register. `resumes` is whether `t7xx_cldma_txq_empty_hndl` finds
    the queue to be resumed. -/
inductive IrqLabel where
  | complete (dir : Dir) (q : Qno)
  | raise (dir : Dir) (bits : BitVec 32)
  | device (reg : HwReg) (value : BitVec 32)
  | interrupt
  | workBegin (dir : Dir) (q : Qno)
  | collect (dir : Dir) (q : Qno) (how : Collected)
  | access (t : Thread) (resumes : Bool)
  | returns (t : Thread)
  | call (c : CtrlCall)
  | clearQ (dir : Dir) (q : Qno)

section Programs

def serviceQueue (dir : Dir) (q : Qno) : List IrqOp :=
  [.write (hwIrqDisEq q.val dir), .write (hwIrqDisTxrx q.val dir), .queue dir q]

def txServices (l2TxInt : BitVec 32) : List IrqOp :=
  (List.finRange _).flatMap (fun q : Qno => if l2TxInt.getLsbD q.val then serviceQueue .tx q else []) ++
  (List.finRange _).flatMap (fun q : Qno =>
    if l2TxInt.getLsbD (q.val + CLDMA_TXQ_NUM) then [IrqOp.emptyHndl q] else [])

def rxServices (l2RxInt : BitVec 32) : List IrqOp :=
  (List.finRange _).flatMap fun q : Qno =>
    if (l2RxInt ||| l2RxInt >>> CLDMA_TXQ_NUM).getLsbD q.val then serviceQueue .rx q else []

def serviceInt (dir : Dir) (found : BitVec 32) (services : BitVec 32 → List IrqOp) : List IrqOp :=
  if found = 0 then []
  else
    (if found &&& (ERR_INT_BITMASK ||| ACTIVE_START_ERR_INT_BITMASK) ≠ 0 then
      (l3Isars dir).map fun reg => .ack reg (BitVec.allOnes 32) else []) ++
    [.ack (isar dir) found] ++
    if found &&& (TXRX_STATUS_BITMASK.setWidth 32 ||| EMPTY_STATUS_BITMASK) ≠ 0 then services found else []

def irqWorkCb (l2TxInt l2RxInt : BitVec 32) : List IrqOp :=
  serviceInt .tx l2TxInt txServices ++ serviceInt .rx l2RxInt rxServices

def isrHandler : List IrqOp := [.int false, .l2TxInt, .int true]

def ipBusy : IrqOp := .rmw (.pdn, REG_CLDMA_IP_BUSY) (orIn IP_BUSY_WAKEUP)

def txDoneTail (q : Qno) (l2TxInt : BitVec 32) : List IrqOp :=
  (if l2TxInt &&& EQ_STA_BIT q ≠ 0 then [.ack (isar .tx) (EQ_STA_BIT q), .emptyHndl q] else []) ++
  if l2TxInt &&& BIT q ≠ 0 then [.ack (isar .tx) (BIT q), .queue .tx q] else [.lockTest .tx q false]

def txDoneEnables (q : Qno) (active : Bool) : List IrqOp :=
  if active then [ipBusy, .write (hwIrqEnEq q.val .tx), .write (hwIrqEnTxrx q.val .tx), .unlock]
  else [.unlock]

def rxCollectTests (q : Qno) (overBudget active : Bool) : List IrqOp :=
  if active then [.queueStatus q, .readInt .rx q overBudget] else [.unlock, .ret q false]

def lockedTail (dir : Dir) (q : Qno) (overBudget active : Bool) : List IrqOp :=
  match dir with
  | .tx => txDoneEnables q active
  | .rx => rxCollectTests q overBudget active

def rxCollectTail (q : Qno) (overBudget : Bool) (pendingRxInt : BitVec 32) : List IrqOp :=
  if pendingRxInt = 0 then [.unlock, .ret q false]
  else
    [.ack (isar .rx) pendingRxInt, .unlock] ++ if overBudget then [.ret q true] else [.collect .rx q]

def intTail (dir : Dir) (q : Qno) (overBudget : Bool) (l2Int : BitVec 32) : List IrqOp :=
  match dir with
  | .tx => txDoneTail q (l2Int &&& (BIT q ||| EQ_STA_BIT q))
  | .rx => rxCollectTail q overBudget (l2Int &&& BIT q)

def rxDoneTail (q : Qno) (requeues : Bool) : List IrqOp :=
  if requeues then [.queue .rx q]
  else [ipBusy, .write (hwIrqEnTxrx q.val .rx), .write (hwIrqEnEq q.val .rx)]

def startAddrs (q : Qno) (dir : Dir) (address : Option (BitVec 64)) : List IrqOp :=
  match address with
  | none => []
  | some address => (hwSetStartAddr q address dir).map .write

def UL_CFG_BIT_MODE_MASK : BitVec 32 := genmask 7 5
def REG_CLDMA_UL_CFG : Nat := 0x0098
def REG_CLDMA_UL_MEM : Nat := 0x009c
def REG_CLDMA_DL_MEM : Nat := 0x0508

/-- `t7xx_cldma_hw_restore`, with the bit of the mode that `hw_mode` stands for. -/
def hwRestore (hwMode : BitVec 32) : List IrqOp :=
  [.rmw (.pdn, REG_CLDMA_UL_CFG) (assign UL_CFG_BIT_MODE_MASK hwMode), .write ((.pdn, REG_CLDMA_UL_MEM), 1),
   .write ((.pdn, REG_CLDMA_DL_MEM), 1)]

def CtrlCall.program : CtrlCall → List IrqOp
  | .start trDone =>
    [.int true] ++ (List.finRange _).flatMap (fun q => startAddrs q .tx (trDone .tx q)) ++
      (List.finRange _).flatMap (fun q => startAddrs q .rx (trDone .rx q)) ++
      [.write (hwStartQueue CLDMA_ALL_Q .rx)] ++ hwStart.map .write ++ [.active .tx true, .active .rx true]
  | .suspend =>
    [.write (hwIrqDisEq CLDMA_ALL_Q .tx), .write (hwIrqDisTxrx CLDMA_ALL_Q .tx), .active .tx false,
     .write (hwStopAllQs .tx)]
  | .suspendLate =>
    [.write (hwIrqDisEq CLDMA_ALL_Q .rx), .write (hwIrqDisTxrx CLDMA_ALL_Q .rx), .active .rx false,
     .write (hwStopAllQs .rx), ipBusy, .int false]
  | .resumeEarly hwMode txNext trDone =>
    hwRestore hwMode ++ (List.finRange _).flatMap (fun q =>
      startAddrs q .tx (some (txNext q)) ++ startAddrs q .rx (some (trDone q))) ++
      [.int true, .write (hwStartQueue CLDMA_ALL_Q .rx), .active .rx true,
       .write (hwIrqEnEq CLDMA_ALL_Q .rx), .write (hwIrqEnTxrx CLDMA_ALL_Q .rx)]
  | .resume =>
    [.active .tx true, .write (hwIrqEnTxrx CLDMA_ALL_Q .tx), .write (hwIrqEnEq CLDMA_ALL_Q .tx)]
  | .stopAllQs dir =>
    [.write (hwIrqDisEq CLDMA_ALL_Q dir), .write (hwIrqDisTxrx CLDMA_ALL_Q dir), .active dir false,
     .write (hwStopAllQs dir)]

end Programs

section Steps

def put₂ {α : Type*} (f : Dir → Qno → α) (dir : Dir) (q : Qno) (a : α) : Dir → Qno → α :=
  Function.update f dir (Function.update (f dir) q a)

namespace IrqCtrl

def writeReg (s : IrqCtrl) (w : HwWrite) : IrqCtrl := { s with regs := afterWrite s.regs w }

def setProg (s : IrqCtrl) (t : Thread) (ops : Option (List IrqOp)) : IrqCtrl :=
  { s with prog := Function.update s.prog t ops }

def isActive (s : IrqCtrl) (dir : Dir) (q : Qno) : Bool := (s.active dir).getLsbD q.val

/-- One access, with what is put in its place. -/
def perform (s : IrqCtrl) (t : Thread) (resumes : Bool) : IrqOp → Option (IrqCtrl × List IrqOp)
  | .int on => some ({ s with l1On := on }, [])
  | .l2TxInt => some (s, [.l2RxInt (s.regs (isar .tx))])
  | .l2RxInt tx => some (s, [.l2TxIntMsk tx (s.regs (isar .rx))])
  | .l2TxIntMsk tx rx => some (s, [.l2RxIntMsk tx rx (s.regs (imr .tx))])
  | .l2RxIntMsk tx rx txMsk => some (s, irqWorkCb (tx &&& ~~~txMsk) (rx &&& ~~~(s.regs (imr .rx))))
  | .ack reg mask => some (s, [.write (reg, s.regs reg &&& mask)])
  | .write w => some (s.writeReg w, [])
  | .rmw reg edit => some (s.writeReg (reg, edit.apply (s.regs reg)), [])
  | .emptyHndl q =>
    if s.isActive .tx q = false then some (s, [])
    else if s.lock = none then some (if resumes then s.writeReg (hwResumeQueue q .tx) else s, [])
    else none
  | .queue dir q => some ({ s with pending := put₂ s.pending dir q true }, [])
  | .collect _ _ => none
  | .readInt dir q overBudget => some (s, intTail dir q overBudget (s.regs (isar dir)))
  | .lockTest dir q overBudget =>
    if s.lock = none then some ({ s with lock := some t }, lockedTail dir q overBudget (s.isActive dir q))
    else none
  | .queueStatus q => some (if rxQueueStatus s.regs q = 0 then s.writeReg (hwResumeQueue q .rx) else s, [])
  | .unlock => some ({ s with lock := none }, [])
  | .ret q failed =>
    some ({ s with short := if failed && !s.isActive .rx q then put₂ s.short .rx q true else s.short },
      rxDoneTail q (failed && s.isActive .rx q))
  | .active dir on =>
    some ({ s with active := Function.update s.active dir (if on then s.active dir ||| TXRX_STATUS_BITMASK
      else s.active dir &&& ~~~TXRX_STATUS_BITMASK) }, [])

def access (s : IrqCtrl) (t : Thread) (resumes : Bool) : Option IrqCtrl :=
  match s.prog t with
  | none | some [] => none
  | some (op :: rest) => (s.perform t resumes op).map fun (u, new) => u.setProg t (some (new ++ rest))

/-- A round of collecting. A failing one may have taken a GPD before. -/
def collect (s : IrqCtrl) (dir : Dir) (q : Qno) (how : Collected) : Option IrqCtrl :=
  if s.prog (.work dir q) ≠ some [.collect dir q] then none
  else
    match how, dir with
    | .took, _ =>
      if 0 < s.left dir q then some { s with left := put₂ s.left dir q (s.left dir q - 1) } else none
    | .drained, .tx =>
      if s.left .tx q = 0 then some (s.setProg (.work .tx q) (some [.readInt .tx q false])) else none
    | .drained, .rx =>
      if s.left .rx q = 0 then some (s.setProg (.work .rx q) (some [.lockTest .rx q false])) else none
    | .overBudget, .rx =>
      some ({ s with short := put₂ s.short .rx q true }.setProg (.work .rx q) (some [.lockTest .rx q true]))
    | .failed, .rx => some (s.setProg (.work .rx q) (some [.ret q true]))
    | _, .tx => none

def workBegin (s : IrqCtrl) (dir : Dir) (q : Qno) : Option IrqCtrl :=
  if s.pending dir q = true ∧ s.prog (.work dir q) = none then
    some ({ s with pending := put₂ s.pending dir q false, short := put₂ s.short dir q false }.setProg
      (.work dir q) (some [.collect dir q]))
  else none

def step (s : IrqCtrl) : IrqLabel → Option IrqCtrl
  | .complete dir q =>
    some { s with left := put₂ s.left dir q (s.left dir q + 1), owes := put₂ s.owes dir q true }
  | .raise dir bits =>
    some { s with
      regs := Function.update s.regs (isar dir) (s.regs (isar dir) ||| bits)
      owes := Function.update s.owes dir fun q => s.owes dir q && !bits.getLsbD q.val }
  | .device reg value =>
    if reg = isar .tx ∨ reg = isar .rx ∨ reg = imr .tx ∨ reg = imr .rx then none
    else some { s with regs := Function.update s.regs reg value }
  | .interrupt => if s.prog .isr = none then some (s.setProg .isr (some isrHandler)) else none
  | .workBegin dir q => s.workBegin dir q
  | .collect dir q how => s.collect dir q how
  | .access t resumes => s.access t resumes
  | .returns t =>
    if s.prog t = some [] then
      some ({ s with lock := if t = Thread.call then none else s.lock }.setProg t none)
    else none
  | .call c =>
    if s.prog .call = none ∧ s.lock = none then
      some ({ s with lock := some .call }.setProg .call (some c.program))
    else none
  | .clearQ dir q => some { s with left := put₂ s.left dir q 0 }

end IrqCtrl

end Steps

end T7xxModel.Cldma
