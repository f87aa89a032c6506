import T7xx.Fsm.CommandQueue

namespace T7xxModel.Fsm

open Pci

/-- What becomes of the STOP command that a PM callback waits for: it is behind `ahead` others in the
    queue, was taken out of it in the state `currState`, was also finished, or was flushed. -/
inductive StopFate where
  | queued (ahead : Nat)
  | taken (currState : FsmState)
  | handled (currState : FsmState)
  | flushed
deriving DecidableEq, Repr

inductive StopReason where
  | reprobe
  | unknownState
deriving DecidableEq, Repr

inductive PmPc where
  | idle
  | suspendRequests
  | resumeEarly (answers : ResumeAnswers) (entities : List PmEntity)
  | sendStop (answers : ResumeAnswers) (reason : StopReason)
  | stopWait (answers : ResumeAnswers) (reason : StopReason) (fate : StopFate)
  | reprobe (answers : ResumeAnswers)

/-- A resume that took a reprobe branch and returned: whether no allocation and no call of
    `pcim_enable_device` failed in it, and whether it appended a START command. -/
structure Reprobe where
  resources : Bool
  started : Bool
deriving DecidableEq, Repr

/-- The state machine with the PM callbacks beside it. -/
structure PmRun where
  run : FsmRun
  pm : PmPc
  reprobes : List Reprobe

inductive PmLabel where
  | fsm (label : FsmLabel)
  | suspend
  | suspendRequests (answers : SuspendAnswers)
  | resume (answers : ResumeAnswers) (stateCheck : Bool)
  | resumeEarly
  | resumeRequests
  | sendStop (allocated : Bool)
  | stopFinished
  | stopWaitOver
  | reprobe (allocated : Bool)
  | pmReinit

section Branches

inductive ResumeBranch where
  | skip
  | reprobe
  | exception
  | unknownState
  | handshake (reinit : Bool)
deriving DecidableEq, Repr

def resumeBranch (answers : ResumeAnswers) (stateCheck : Bool) (dev : PciDev) : ResumeBranch :=
  let prevState := answers.resumeState
  if dev.mdPmState.value ≤ PmState.init.value then .skip
  else if stateCheck then
    if prevState = PM_RESUME_REG_STATE_L3 ∨
        (prevState = PM_RESUME_REG_STATE_INIT ∧ (answers.atr = ATR_SRC_ADDR_INVALID ∨ answers.atr = 0)) then
      .reprobe
    else if prevState = PM_RESUME_REG_STATE_EXP ∨ prevState = PM_RESUME_REG_STATE_L2_EXP then .exception
    else if prevState = PM_RESUME_REG_STATE_L2 then .handshake true
    else if prevState ≠ PM_RESUME_REG_STATE_L1 ∧ prevState ≠ PM_RESUME_REG_STATE_INIT then .unknownState
    else .handshake false
  else .handshake false

theorem pciPmResume_branch (answers : ResumeAnswers) (stateCheck : Bool) (dev : PciDev) :
    pciPmResume answers stateCheck dev =
      match resumeBranch answers stateCheck dev with
      | .skip => (dev.act (.aspmLowpwr true), 0)
      | .reprobe => reprobeDevice answers (dev.act .macInterruptsEn)
      | .exception => resumeException answers (dev.act .macInterruptsEn)
      | .unknownState => resumeUnknown answers (dev.act .macInterruptsEn)
      | .handshake true =>
        let (dev, ret) := pcieReinit answers false (dev.act .macInterruptsEn)
        if ret ≠ 0 then (dev, ret) else resumeHandshake answers dev
      | .handshake false => resumeHandshake answers (dev.act .macInterruptsEn) := by
  unfold pciPmResume resumeBranch
  dsimp only
  split_ifs <;> rfl

end Branches

section Stops

/-- `cmd->result` of a STOP command that the FSM thread takes out of the queue. -/
def stopResult (currState : FsmState) : Int := if currState = .stopped then -EINVAL else 0

def StopFate.after (label : FsmLabel) (before after : Modem) : StopFate → StopFate
  | .queued ahead =>
    let stays := fun place => if place < after.commandQueue.length then StopFate.queued place else .flushed
    if label = .dequeue then
      match ahead with
      | 0 => .taken before.currState
      | ahead + 1 => stays ahead
    else stays ahead
  | fate => fate

def PmPc.after (label : FsmLabel) (before after : Modem) : PmPc → PmPc
  | .stopWait answers reason fate => .stopWait answers reason (fate.after label before after)
  | pc => pc

/-- What the wait for the STOP command returns; a command that is not finished when it ends has timed
    out, also one that the FSM thread has taken. -/
def StopFate.ret : StopFate → Int
  | .queued _ => -ETIMEDOUT
  | .taken _ => -ETIMEDOUT
  | .handled currState => stopResult currState
  | .flushed => -EINVAL

end Stops

section Steps

def PmRun.setDev (s : PmRun) (dev : PciDev) : PmRun :=
  { s with run := { s.run with m := { s.run.m with dev } } }

def PmRun.fsmStep (s : PmRun) (label : FsmLabel) : Option PmRun :=
  (s.run.step label).map fun run => { s with run, pm := s.pm.after label s.run.m run.m }

/-- The callbacks of the entities that `__t7xx_pci_pm_suspend` calls all return 0. -/
def PmRun.suspendStep (s : PmRun) : PmRun :=
  let dev := s.run.m.dev
  if dev.mdPmState.value ≤ PmState.init.value ∨ dev.mode ≠ .ready then s
  else
    let (dev, _) := Pci.suspendEntities (fun _ => 0) dev.mdPmEntities (suspendEntry dev)
    { s.setDev dev with pm := .suspendRequests }

def PmRun.resumeStep (s : PmRun) (answers : ResumeAnswers) (stateCheck : Bool) : PmRun :=
  let dev := s.run.m.dev
  let enabled := dev.act .macInterruptsEn
  match resumeBranch answers stateCheck dev with
  | .skip => s.setDev (dev.act (.aspmLowpwr true))
  | .reprobe => { s.setDev enabled with pm := .sendStop answers .reprobe }
  | .exception => s.setDev (resumeException answers enabled).1
  | .unknownState => { s.setDev enabled with pm := .sendStop answers .unknownState }
  | .handshake reinit =>
    let (dev, ret) := if reinit then pcieReinit answers false enabled else (enabled, 0)
    if ret ≠ 0 then s.setDev dev
    else
      let dev := (dev.act (.aspmLowpwr false)).act .waitPmConfig
      { s.setDev dev with pm := .resumeEarly answers dev.mdPmEntities }

def PmRun.earlyStep (s : PmRun) (answers : ResumeAnswers) (entity : PmEntity) (rest : List PmEntity) :
    PmRun :=
  let dev := s.run.m.dev
  let dev := if entity.resumeEarly then dev.act (.entityCall .resumeEarly entity.id) else dev
  { s.setDev dev with pm := .resumeEarly answers rest }

def PmRun.requestsStep (s : PmRun) (answers : ResumeAnswers) : PmRun :=
  let (dev, ret) := sendPmRequest .resumeReq answers.resumeAck s.run.m.dev
  if ret ≠ 0 then
    if dev.resumeReprobeCount ≥ maxResumeReprobeAttempts then { s.setDev dev with pm := .idle }
    else
      { s.setDev (dev.setReprobeCount (dev.resumeReprobeCount + 1)) with pm := .sendStop answers .reprobe }
  else
    let (dev, ret) := sendPmRequest .resumeReqAp answers.resumeAckAp dev
    if ret ≠ 0 ∧ answers.resumeState = PM_RESUME_REG_STATE_INIT ∧
        dev.resumeReprobeCount < maxResumeReprobeAttempts then
      { s.setDev (dev.setReprobeCount (dev.resumeReprobeCount + 1)) with pm := .sendStop answers .reprobe }
    else { s.setDev (resumeTail answers dev).1 with pm := .idle }

def PmRun.finish (s : PmRun) (reason : StopReason) (resources started : Bool) : PmRun :=
  { s with
    pm := .idle
    reprobes := if reason = .reprobe then s.reprobes ++ [⟨resources, started⟩] else s.reprobes }

def PmRun.sendStopStep (s : PmRun) (answers : ResumeAnswers) (reason : StopReason) (allocated : Bool) :
    PmRun :=
  let dev := s.run.m.dev
  let dev := if reason = .reprobe then dev.act .reprobeEarly else dev
  let dev :=
    if reason = .reprobe ∧ dev.mode = .fastbootDownload then dev.act .runtimePutNoidle else dev
  let s' := s.setDev (dev.act (.fsmCommand .stop))
  if allocated then
    let m := fsmAppendCmd .stop FSM_CMD_FLAG_WAIT_FOR_COMPLETION s'.run.m
    { s' with
      run := { s'.run with m }
      pm := .stopWait answers reason (.queued s.run.m.commandQueue.length) }
  else s'.finish reason false false

def PmRun.stopWaitStep (s : PmRun) (answers : ResumeAnswers) (reason : StopReason) (fate : StopFate) :
    PmRun :=
  if fate.ret ≠ 0 then s.finish reason true false
  else
    match reason with
    | .reprobe => { s with pm := .reprobe answers }
    | .unknownState =>
      (s.setDev ((s.run.m.dev.act .clearRguIrq).setPmState .suspended)).finish reason true false

def PmRun.reprobeStep (s : PmRun) (answers : ResumeAnswers) (allocated : Bool) : PmRun :=
  let (dev, ret) := pcieReinit answers true (s.run.m.dev.act (.reprobe true))
  if ret ≠ 0 then (s.setDev dev).finish .reprobe false false
  else
    let dev := ((dev.act .clearRguIrq).act (.macClearInt .sapRgu)).act (.macClearIntStatus .sapRgu)
    let dev := ((dev.setRgu true).act (.macSetInt .sapRgu)).act (.fsmCommand .start)
    let s := s.setDev dev
    if allocated then
      { s with run := { s.run with m := fsmAppendCmd .start 0 s.run.m } }.finish .reprobe true true
    else s.finish .reprobe false false

/-- `stopFinished` is the `complete_all` with which the FSM thread ends the STOP command it has taken,
    `pmReinit` the call of `t7xx_pci_pm_reinit` by `t7xx_reset_device`, at any time. -/
def PmRun.step (s : PmRun) (label : PmLabel) : Option PmRun :=
  match label, s.pm with
  | .fsm label, _ => s.fsmStep label
  | .pmReinit, _ => some (s.setDev (pciPmReinit s.run.m.dev))
  | .suspend, .idle => some s.suspendStep
  | .suspendRequests answers, .suspendRequests =>
    some { s.setDev (Pci.suspendRequests answers s.run.m.dev).1 with pm := .idle }
  | .resume answers stateCheck, .idle => some (s.resumeStep answers stateCheck)
  | .resumeEarly, .resumeEarly answers (entity :: rest) => some (s.earlyStep answers entity rest)
  | .resumeRequests, .resumeEarly answers [] => some (s.requestsStep answers)
  | .sendStop allocated, .sendStop answers reason => some (s.sendStopStep answers reason allocated)
  | .stopFinished, .stopWait answers reason (.taken currState) =>
    some { s with pm := .stopWait answers reason (.handled currState) }
  | .stopWaitOver, .stopWait answers reason fate => some (s.stopWaitStep answers reason fate)
  | .reprobe allocated, .reprobe answers => some (s.reprobeStep answers allocated)
  | _, _ => none

def suspendAcked : List PmLabel := [.suspend, .suspendRequests ⟨fun _ => 0, true, true⟩]

def resumeFrom (resumeState : BitVec 32) : PmLabel :=
  .resume ⟨resumeState, 0, true, true, fun _ => 0, 0, fun _ => 0⟩ true

def resumedUnknown : List PmLabel :=
  suspendAcked ++ [resumeFrom 6, .sendStop true, .fsm .dequeue, .stopFinished, .stopWaitOver]

end Steps

end T7xxModel.Fsm
