import T7xx.Fsm.Control

namespace T7xxModel.Fsm

open Pci

inductive FsmThread where
  | idle
  | waitStage (cmd : FsmCommand)
  | linuxStage (cmd : FsmCommand) (status : BitVec 32)
  | startNotify (cmd : FsmCommand) (status : BitVec 32)
  | waitHandshake (cmd : FsmCommand) (status : BitVec 32)
  | waitRecOk (cmd : FsmCommand)
  | waitPass (cmd : FsmCommand)
  | stopDelay (cmd : FsmCommand)
deriving DecidableEq, Repr

inductive HkWork where
  | idle
  | waitEvent
  | parsing
deriving DecidableEq, Repr

/-- The modem, its threads, and which handshakes have completed since `WAITING_FOR_HS1` was last
    broadcast. -/
structure FsmRun where
  m : Modem
  thread : FsmThread
  mdWork : HkWork
  apWork : HkWork
  mdHk : Bool
  apHk : Bool
deriving DecidableEq, Repr

inductive FsmLabel where
  | appendCmd (cmdId : FsmCmdId) (flag : BitVec 32)
  | appendEvent (event : FsmEventId)
  | modeUpdate (mode : Mode)
  | deviceInt (bits : BitVec 32)
  | mhccifIsr
  | dequeue
  | devStage (timedOut : Bool) (status : BitVec 32)
  | broadcastHs1
  | notifyStart
  | handshakeWake
  | pollEvent
  | pollGivesUp
  | stopDelayOver
  | workStart (core : Core)
  | workEvent (core : Core)
  | workFinish (core : Core) (parsed : Bool)
deriving DecidableEq, Repr

def fsmRoutineException (cmd : FsmCommand) (m : Modem) : Modem × FsmThread :=
  if m.currState ≠ .ready ∧ m.currState ≠ .starting then (fsmFinishCommand cmd (-EINVAL) m, .idle)
  else
    let m := { m with currState := .exception }
    if cmd.exReason = .event then
      let m := fsmBroadcastState .exception m
      ({ m with dev := pciPmExpDetected m.dev }, .waitRecOk cmd)
    else (fsmFinishCommand cmd 0 m, .idle)

def fsmRoutineStopped (cmd : FsmCommand) (m : Modem) : Modem × FsmThread :=
  if m.currState = .stopped then (fsmFinishCommand cmd (-EINVAL) m, .idle)
  else
    let (m, ret) := fsmStoppedHandler m
    (fsmFinishCommand cmd ret m, .idle)

/-- `fsm_routine_stopping` up to its delay. -/
def fsmRoutineStopping (cmd : FsmCommand) (m : Modem) : Modem × FsmThread :=
  if m.currState = .stopped ∨ m.currState = .stopping then (fsmFinishCommand cmd (-EINVAL) m, .idle)
  else (fsmBroadcastState .waitingToStop { m with currState := .stopping }, .stopDelay cmd)

/-- `fsm_routine_start` up to the wait for the device stage. -/
def fsmRoutineStart (cmd : FsmCommand) (m : Modem) : Modem × FsmThread :=
  if m.currState ≠ .init ∧ m.currState ≠ .preStart ∧ m.currState ≠ .stopped then
    (fsmFinishCommand cmd (-EINVAL) m, .idle)
  else (mdEventPreStart { m with currState := .preStart }, .waitStage cmd)

/-- The `finish_command` label of `fsm_routine_start`. -/
def fsmFinishStart (cmd : FsmCommand) (ret : Int) (m : Modem) : Modem :=
  fsmFinishCommand cmd ret (if ret ≠ 0 then modeUpdate .unknown m else m)

/-- `fsm_routine_start` after the wait for the device stage. -/
def fsmDevStage (cmd : FsmCommand) (timedOut : Bool) (status : BitVec 32) (m : Modem) :
    Modem × FsmThread :=
  if timedOut then (fsmFinishStart cmd (-ETIMEDOUT) m, .idle)
  else if status ≠ m.status ∨ cmd.flag ≠ 0 then
    let stage := miscStage status
    if stage = T7XX_DEV_STAGE_INIT ∨ stage = T7XX_DEV_STAGE_BROM_PRE ∨
        stage = T7XX_DEV_STAGE_BROM_POST then
      (fsmFinishStart cmd 0 { fsmAppendCmd .start 0 m with status }, .idle)
    else if stage = T7XX_DEV_STAGE_LK then
      (fsmFinishStart cmd 0 { lkStageEventHandling status m with status }, .idle)
    else if stage = T7XX_DEV_STAGE_LINUX then
      let m := mdEventPreStart m
      if cmd.flag = 0 then (fsmFinishStart cmd 0 { m with status }, .idle)
      else (m, .linuxStage cmd status)
    else (fsmFinishStart cmd 0 { m with status }, .idle)
  else (fsmFinishStart cmd 0 m, .idle)

/-- The failing ends of `fsm_routine_starting`: `fsm_routine_exception` with `EXCEPTION_HS_TIMEOUT`. -/
def fsmHandshakeTimeout (core : Core) (m : Modem) : Modem :=
  let exit := match core with | .md => FsmEventId.mdHs2Exit | .ap => .apHs2Exit
  let m := if (m.core core).handshakeOngoing then fsmAppendEvent exit m else m
  if m.currState ≠ .ready ∧ m.currState ≠ .starting then m else { m with currState := .exception }

/-- `fsm_routine_starting` after its wait. -/
def fsmStartingResult (m : Modem) : Modem × Int :=
  if m.coreMd.ready = false then (fsmHandshakeTimeout .md m, -ETIMEDOUT)
  else if m.coreAp.ready = false then (fsmHandshakeTimeout .ap m, -ETIMEDOUT)
  else (fsmRoutineReady { m with dev := pciPmInitLate m.dev }, 0)

def fsmDequeue (m : Modem) : Option (Modem × FsmThread) :=
  match m.commandQueue with
  | [] => none
  | cmd :: commandQueue =>
    let m := { m with commandQueue }
    match cmd.cmdId with
    | .start => some (fsmRoutineStart cmd m)
    | .exception => some (fsmRoutineException cmd m)
    | .preStop => some (fsmRoutineStopping cmd m)
    | .stop => some (fsmRoutineStopped cmd m)
    | .invalid => some (fsmFlushEventCmdQs (fsmFinishCommand cmd (-EINVAL) m), .idle)

/-- One poll of `fsm_wait_for_event`: whether the expected event was received. -/
def fsmPollEvent (expected ignored : FsmEventId) (m : Modem) : Modem × Bool :=
  match m.eventQueue with
  | [] => (m, false)
  | event :: eventQueue =>
    if event = expected then ({ m with eventQueue }, true)
    else if event = ignored then ({ m with eventQueue }, false)
    else (m, false)

def Core.hs2 : Core → FsmEventId
  | .md => .mdHs2
  | .ap => .apHs2

def Core.hs2Exit : Core → FsmEventId
  | .md => .mdHs2Exit
  | .ap => .apHs2Exit

/-- The workqueue hands the work of a core to its worker. -/
def hkWorkTake (core : Core) (m : Modem) : Modem :=
  match core with
  | .md => { m with handshakeWork := false }
  | .ap => { m with apHandshakeWork := false }

/-- A handshake work before `t7xx_cldma_switch_cfg`. -/
def hkWorkBegin (core : Core) (m : Modem) : Modem := fsmClrEvent core.hs2Exit (hkWorkTake core m)

/-- A handshake work from `t7xx_cldma_start` to its wait for the HS2 event. -/
def hkWorkBroadcast (core : Core) (m : Modem) : Modem :=
  match core with
  | .md =>
    let m := fsmBroadcastState .waitingForHs2 m
    { m with coreMd := { m.coreMd with handshakeOngoing := true } }
  | .ap => { m with coreAp := { m.coreAp with handshakeOngoing := true } }

def hkWorkStart (core : Core) (m : Modem) : Modem := hkWorkBroadcast core (hkWorkBegin core m)

/-- The scan of the event queue in `t7xx_core_hk_handler`: the first HS2 or exit event is taken. -/
def hkTakeEvent (core : Core) : List FsmEventId → Option (FsmEventId × List FsmEventId)
  | [] => none
  | event :: rest =>
    if event = core.hs2Exit ∨ event = core.hs2 then some (event, rest)
    else (hkTakeEvent core rest).map fun (taken, kept) => (taken, event :: kept)

def FsmRun.work (run : FsmRun) : Core → HkWork
  | .md => run.mdWork
  | .ap => run.apWork

def FsmRun.setWork (run : FsmRun) (core : Core) (work : HkWork) : FsmRun :=
  match core with
  | .md => { run with mdWork := work }
  | .ap => { run with apWork := work }

def Modem.workQueued (m : Modem) : Core → Bool
  | .md => m.handshakeWork
  | .ap => m.apHandshakeWork

def FsmRun.completeHandshake (run : FsmRun) : Core → FsmRun
  | .md => { run with
      m := { run.m with coreMd := { ready := true, handshakeOngoing := false } }, mdHk := true }
  | .ap => { run with
      m := { run.m with coreAp := { ready := true, handshakeOngoing := false } }, apHk := true }

def FsmRun.threadStep (run : FsmRun) : FsmLabel → Option FsmRun
  | .dequeue =>
    if run.thread = .idle then
      (fsmDequeue run.m).map fun (m, thread) => { run with m, thread }
    else none
  | .devStage timedOut status =>
    match run.thread with
    | .waitStage cmd =>
      let (m, thread) := fsmDevStage cmd timedOut status run.m
      some { run with m, thread }
    | _ => none
  | .broadcastHs1 =>
    match run.thread with
    | .linuxStage cmd status =>
      let m := fsmBroadcastState .waitingForHs1 { run.m with currState := .starting }
      some { run with m, thread := .startNotify cmd status, mdHk := false, apHk := false }
    | _ => none
  | .notifyStart =>
    match run.thread with
    | .startNotify cmd status =>
      some { run with m := mdEventStart run.m, thread := .waitHandshake cmd status }
    | _ => none
  | .handshakeWake =>
    match run.thread with
    | .waitHandshake cmd status =>
      let (m, ret) := fsmStartingResult run.m
      some { run with m := fsmFinishStart cmd ret { m with status }, thread := .idle }
    | _ => none
  | .pollEvent =>
    match run.thread with
    | .waitRecOk cmd =>
      let (m, received) := fsmPollEvent .mdExRecOk .mdEx run.m
      some { run with m, thread := if received then .waitPass cmd else .waitRecOk cmd }
    | .waitPass cmd =>
      let (m, received) := fsmPollEvent .mdExPass .invalid run.m
      if received then some { run with m := fsmFinishCommand cmd 0 m, thread := .idle }
      else some { run with m }
    | _ => none
  | .pollGivesUp =>
    match run.thread with
    | .waitRecOk cmd => some { run with thread := .waitPass cmd }
    | .waitPass cmd => some { run with m := fsmFinishCommand cmd 0 run.m, thread := .idle }
    | _ => none
  | .stopDelayOver =>
    match run.thread with
    | .stopDelay cmd =>
      let (m, ret) := fsmStoppedHandler run.m
      some { run with m := fsmFinishCommand cmd ret m, thread := .idle }
    | _ => none
  | _ => none

def FsmRun.workStep (run : FsmRun) : FsmLabel → Option FsmRun
  | .workStart core =>
    if run.m.workQueued core = true ∧ run.work core = .idle then
      some ({ run with m := hkWorkStart core run.m }.setWork core .waitEvent)
    else none
  | .workEvent core =>
    if run.work core = .waitEvent then
      (hkTakeEvent core run.m.eventQueue).map fun (event, eventQueue) =>
        { run with m := { run.m with eventQueue } }.setWork core
          (if event = core.hs2 then .parsing else .idle)
    else none
  | .workFinish core parsed =>
    if run.work core = .parsing then
      let run := run.setWork core .idle
      some (if run.m.expFlg = false ∧ parsed = true then run.completeHandshake core else run)
    else none
  | _ => none

def FsmRun.step (run : FsmRun) : FsmLabel → Option FsmRun
  | .appendCmd cmdId flag => some { run with m := fsmAppendCmd cmdId flag run.m }
  | .appendEvent event => some { run with m := fsmAppendEvent event run.m }
  | .modeUpdate mode => some { run with m := Fsm.modeUpdate mode run.m }
  | .deviceInt bits => some { run with m := { run.m with swIntSts := run.m.swIntSts ||| bits } }
  | .mhccifIsr => some { run with m := mhccifIsrThread run.m }
  | .workStart core => run.workStep (.workStart core)
  | .workEvent core => run.workStep (.workEvent core)
  | .workFinish core parsed => run.workStep (.workFinish core parsed)
  | label => run.threadStep label

end T7xxModel.Fsm
