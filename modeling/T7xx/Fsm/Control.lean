import T7xx.Pci.PowerManagement

namespace T7xxModel.Fsm

open Pci

inductive FsmState where
  | init
  | preStart
  | starting
  | ready
  | exception
  | stopping
  | stopped
deriving DecidableEq, Repr

inductive MdState where
  | invalid
  | waitingForHs1
  | waitingForHs2
  | ready
  | exception
  | waitingToStop
  | stopped
deriving DecidableEq, Repr

inductive FsmEventId where
  | invalid
  | mdHs2
  | apHs2
  | mdEx
  | mdExRecOk
  | mdExPass
  | mdHs2Exit
  | apHs2Exit
deriving DecidableEq, Repr

inductive FsmCmdId where
  | invalid
  | start
  | exception
  | preStop
  | stop
deriving DecidableEq, Repr

structure FsmCommand where
  cmdId : FsmCmdId
  flag : BitVec 32
deriving DecidableEq, Repr

inductive ExReason where
  | hsTimeout
  | event
  | other
deriving DecidableEq, Repr

inductive Core where
  | md
  | ap
deriving DecidableEq, Repr

structure SysInfo where
  ready : Bool
  handshakeOngoing : Bool
deriving DecidableEq, Repr

/-- `struct t7xx_modem` with its `struct t7xx_fsm_ctl`, the MHCCIF registers and the queued
    handshake works; `finished` lists the results of finished commands. -/
structure Modem where
  dev : PciDev
  currState : FsmState
  mdState : MdState
  expFlg : Bool
  status : BitVec 32
  commandQueue : List FsmCommand
  eventQueue : List FsmEventId
  finished : List (FsmCommand × Int)
  coreMd : SysInfo
  coreAp : SysInfo
  mdInitFinish : Bool
  expId : BitVec 32
  swIntSts : BitVec 32
  mhccifMask : BitVec 32
  handshakeWork : Bool
  apHandshakeWork : Bool
deriving DecidableEq, Repr

def D2H_INT_ASYNC_AP_HK : BitVec 32 := 1#32 <<< 15
def D2H_INT_ASYNC_MD_HK : BitVec 32 := 1#32 <<< 16

def D2H_SW_INT_MASK : BitVec 32 :=
  D2H_INT_EXCEPTION_INIT ||| D2H_INT_EXCEPTION_INIT_DONE ||| D2H_INT_EXCEPTION_CLEARQ_DONE |||
    D2H_INT_EXCEPTION_ALLQ_RESET ||| D2H_INT_PORT_ENUM ||| D2H_INT_ASYNC_AP_HK ||| D2H_INT_ASYNC_MD_HK

def FSM_CMD_FLAG_WAIT_FOR_COMPLETION : BitVec 32 := 1#32 <<< 0
def FSM_CMD_FLAG_IN_INTERRUPT : BitVec 32 := 1#32 <<< 2

def FSM_CMD_EX_REASON_EVENT : BitVec 32 := 1#32 <<< 16

def T7XX_DEV_STAGE_INIT : BitVec 32 := 0
def T7XX_DEV_STAGE_BROM_PRE : BitVec 32 := 1
def T7XX_DEV_STAGE_BROM_POST : BitVec 32 := 2
def T7XX_DEV_STAGE_LK : BitVec 32 := 3
def T7XX_DEV_STAGE_LINUX : BitVec 32 := 4

def LK_EVENT_CREATE_PD_PORT : BitVec 32 := 1
def LK_EVENT_CREATE_POST_DL_PORT : BitVec 32 := 2

def miscStage (status : BitVec 32) : BitVec 32 := status &&& 7#32

def miscLkEvent (status : BitVec 32) : BitVec 32 := (status >>> 8) &&& 0xf#32

def FsmCommand.exReason (cmd : FsmCommand) : ExReason :=
  let reason := (cmd.flag >>> 16) &&& 0xff#32
  if reason = 0 then .hsTimeout else if reason = 1 then .event else .other

def Modem.core (m : Modem) : Core → SysInfo
  | .md => m.coreMd
  | .ap => m.coreAp

def mhccifMaskSet (bits : BitVec 32) (m : Modem) : Modem := { m with mhccifMask := m.mhccifMask ||| bits }

def mhccifMaskClr (bits : BitVec 32) (m : Modem) : Modem :=
  { m with mhccifMask := m.mhccifMask &&& ~~~bits }

def modeUpdate (mode : Mode) (m : Modem) : Modem := { m with dev := { m.dev with mode := mode } }

def fsmAppendCmd (cmdId : FsmCmdId) (flag : BitVec 32) (m : Modem) : Modem :=
  { m with commandQueue := m.commandQueue ++ [{ cmdId, flag }] }

def fsmAppendEvent (event : FsmEventId) (m : Modem) : Modem :=
  { m with eventQueue := m.eventQueue ++ [event] }

def fsmClrEvent (event : FsmEventId) (m : Modem) : Modem :=
  { m with eventQueue := m.eventQueue.filter (fun queued => queued ≠ event) }

def fsmFinishCommand (cmd : FsmCommand) (result : Int) (m : Modem) : Modem :=
  { m with finished := m.finished ++ [(cmd, result)] }

def fsmFlushEventCmdQs (m : Modem) : Modem :=
  { m with
    finished := m.finished ++ m.commandQueue.map (fun cmd => (cmd, -EINVAL))
    commandQueue := []
    eventQueue := [] }

def fsmBroadcastState (state : MdState) (m : Modem) : Modem := { m with mdState := state }

def fsmReset (m : Modem) : Modem :=
  { fsmFlushEventCmdQs m with currState := .stopped, expFlg := false, status := T7XX_DEV_STAGE_INIT }

def coreReset (m : Modem) : Modem × Int :=
  let m := { m with coreMd := { m.coreMd with ready := false } }
  let m := if m.coreMd.handshakeOngoing then fsmAppendEvent .mdHs2Exit m else m
  ({ m with coreMd := { m.coreMd with handshakeOngoing := false } }, 0)

def mdReset (m : Modem) : Modem × Int :=
  let m := { m with mdInitFinish := false, expId := 0 }
  let m := fsmReset m
  coreReset { m with mdInitFinish := true }

def fsmStoppedHandler (m : Modem) : Modem × Int :=
  let m := { m with currState := .stopped }
  if m.dev.mode = .fastbootDownload ∨ m.dev.mode = .fastbootDump then (m, 0)
  else mdReset (fsmBroadcastState .stopped m)

def fsmRecvPortEnum (m : Modem) : Modem := fsmAppendCmd .start FSM_CMD_FLAG_IN_INTERRUPT m

def fsmRecvCcifEx (m : Modem) : Modem :=
  fsmAppendCmd .exception (FSM_CMD_FLAG_IN_INTERRUPT ||| FSM_CMD_EX_REASON_EVENT) { m with expFlg := true }

/-- `queue_work` on the handshake work of a core: a work that is queued stays queued once. -/
def queueHandshakeWork (core : Core) (m : Modem) : Modem :=
  match core with
  | .md => { m with handshakeWork := true }
  | .ap => { m with apHandshakeWork := true }

def Core.hkInt : Core → BitVec 32
  | .md => D2H_INT_ASYNC_MD_HK
  | .ap => D2H_INT_ASYNC_AP_HK

/-- One handshake interrupt found by `FSM_START`: queue its work, acknowledge and mask it. -/
def startHandshakeWork (core : Core) (m : Modem) : Modem :=
  if m.expId &&& core.hkInt ≠ 0 then
    let m := queueHandshakeWork core m
    let m := { m with expId := m.expId &&& ~~~core.hkInt, swIntSts := m.swIntSts &&& ~~~core.hkInt }
    mhccifMaskSet core.hkInt m
  else m

def mdEventPreStart (m : Modem) : Modem :=
  mhccifMaskClr (D2H_INT_PORT_ENUM ||| D2H_INT_ASYNC_MD_HK ||| D2H_INT_ASYNC_AP_HK) m

def mdEventStart (m : Modem) : Modem :=
  let m := mhccifMaskSet D2H_INT_PORT_ENUM m
  let m := { m with expId := m.expId ||| (m.swIntSts &&& D2H_SW_INT_MASK) }
  let handshakes := D2H_INT_ASYNC_MD_HK ||| D2H_INT_ASYNC_AP_HK
  let m :=
    if m.expId &&& D2H_INT_EXCEPTION_INIT ≠ 0 then
      { m with expFlg := true, expId := m.expId &&& ~~~D2H_INT_EXCEPTION_INIT &&& ~~~handshakes }
    else if m.expFlg then { m with expId := m.expId &&& ~~~handshakes }
    else startHandshakeWork .ap (startHandshakeWork .md m)
  mhccifMaskClr (D2H_INT_EXCEPTION_INIT ||| D2H_INT_EXCEPTION_INIT_DONE |||
    D2H_INT_EXCEPTION_CLEARQ_DONE ||| D2H_INT_EXCEPTION_ALLQ_RESET) m

def mdEventReady (m : Modem) : Modem :=
  mhccifMaskSet D2H_INT_ASYNC_AP_HK (mhccifMaskSet D2H_INT_ASYNC_MD_HK m)

def pciMhccifIsr (m : Modem) : Modem :=
  let m := { m with expId := m.expId ||| (m.swIntSts &&& D2H_SW_INT_MASK) }
  if m.expId &&& D2H_INT_EXCEPTION_INIT ≠ 0 then
    if m.mdState = .invalid ∨ m.mdState = .waitingForHs1 ∨ m.mdState = .waitingForHs2 ∨
        m.mdState = .ready then
      fsmRecvCcifEx { m with expId := m.expId &&& ~~~D2H_INT_EXCEPTION_INIT }
    else m
  else if m.expId &&& D2H_INT_PORT_ENUM ≠ 0 then
    let m := { m with expId := m.expId &&& ~~~D2H_INT_PORT_ENUM }
    if m.currState = .init ∨ m.currState = .preStart ∨ m.currState = .stopped then fsmRecvPortEnum m
    else m
  else if m.mdState = .waitingForHs1 then
    if m.expId &&& D2H_INT_ASYNC_MD_HK ≠ 0 ∧ m.mhccifMask &&& D2H_INT_ASYNC_MD_HK = 0 then
      queueHandshakeWork .md { m with expId := m.expId &&& ~~~D2H_INT_ASYNC_MD_HK }
    else m
  else m

/-- `t7xx_mhccif_isr_thread` as far as the state machine sees it. -/
def mhccifIsrThread (m : Modem) : Modem :=
  let intStatus := m.swIntSts
  let m := if intStatus &&& D2H_SW_INT_MASK ≠ 0 then pciMhccifIsr m else m
  { m with swIntSts := m.swIntSts &&& ~~~intStatus }

def lkStageEventHandling (status : BitVec 32) (m : Modem) : Modem :=
  if miscLkEvent status = LK_EVENT_CREATE_POST_DL_PORT then modeUpdate .fastbootDownload m
  else if miscLkEvent status = LK_EVENT_CREATE_PD_PORT then modeUpdate .fastbootDump m
  else m

def fsmBroadcastReadyState (m : Modem) : Modem :=
  if m.mdState ≠ .waitingForHs2 then m else { m with mdState := .ready }

def fsmRoutineReady (m : Modem) : Modem :=
  let m := fsmBroadcastReadyState { m with currState := .ready }
  mdEventReady (modeUpdate .ready m)

end T7xxModel.Fsm
