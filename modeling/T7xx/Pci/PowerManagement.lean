import T7xx.Pci.Device

namespace T7xxModel.Pci

open Kernel

def pciPmInitLate (dev : PciDev) : PciDev :=
  let dev := dev.act (.mhccifMaskClr (D2H_INT_DS_LOCK_ACK ||| D2H_INT_SUSPEND_ACK |||
    D2H_INT_RESUME_ACK ||| D2H_INT_SUSPEND_ACK_AP ||| D2H_INT_RESUME_ACK_AP))
  let dev := dev.act (.aspmLowpwr true)
  let dev := dev.setPmState .resumed
  let dev := ((dev.act .runtimeMarkLastBusy).act .runtimeAllow).act .runtimePutNoidle
  { dev with initDone := dev.initDone.completeAll }

/-- `t7xx_pci_pm_reinit`; the wait for the PM configuration always returns 0. -/
def pciPmReinit (dev : PciDev) : PciDev :=
  let dev := dev.setPmState .init
  ((dev.act .runtimeGetNoresume).act (.aspmLowpwr false)).act .waitPmConfig

def pciPmExpDetected (dev : PciDev) : PciDev :=
  ((dev.act (.aspmLowpwr false)).act .waitPmConfig).setPmState .exception

structure SuspendAnswers where
  entitySuspend : PmId → Int
  suspendAck : Bool
  suspendAckAp : Bool

/-- `t7xx_send_pm_request` seen by its caller: an acknowledgement in time, or a timeout. -/
def sendPmRequest (channel : Channel) (acked : Bool) (dev : PciDev) : PciDev × Int :=
  (dev.act (.pmRequest channel acked), if acked then 0 else -ETIMEDOUT)

/-- The loop over the `suspend` callbacks: its result and the entity that failed. -/
def suspendEntities (answer : PmId → Int) : List PmEntity → PciDev → PciDev × Int × PmId
  | [], dev => (dev, 0, .invalid)
  | entity :: rest, dev =>
    if !entity.suspend then suspendEntities answer rest dev
    else
      let dev := dev.act (.entityCall .suspend entity.id)
      if answer entity.id ≠ 0 then (dev, answer entity.id, entity.id)
      else suspendEntities answer rest dev

def suspendLateEntities (entities : List PmEntity) (dev : PciDev) : PciDev :=
  entities.foldl (fun dev entity =>
    if entity.suspendLate then dev.act (.entityCall .suspendLate entity.id) else dev) dev

/-- The `abort_suspend` tail: the entities before the failed one are resumed. -/
def abortSuspend (failed : PmId) (dev : PciDev) : PciDev :=
  let resumed := dev.mdPmEntities.takeWhile (fun entity => entity.id ≠ failed)
  let dev := resumed.foldl (fun dev entity =>
    if entity.resume then dev.act (.entityCall .resume entity.id) else dev) dev
  let dev := dev.act (.aspmLowpwr true)
  let dev := dev.setPmState .resumed
  dev.act (.macSetInt .sapRgu)

/-- The two requests of a suspend and what follows from their answers. -/
def suspendRequests (answers : SuspendAnswers) (dev : PciDev) : PciDev × Int :=
  let (dev, ret) := sendPmRequest .suspendReq answers.suspendAck dev
  if ret ≠ 0 then (abortSuspend .invalid dev, ret)
  else
    let (dev, _) := sendPmRequest .suspendReqAp answers.suspendAckAp dev
    let dev := suspendLateEntities dev.mdPmEntities dev
    (dev.act (.aspmLowpwr true), 0)

/-- `__t7xx_pci_pm_suspend` up to its first callback. -/
def suspendEntry (dev : PciDev) : PciDev :=
  let dev := (dev.act (.aspmLowpwr false)).act .waitPmConfig
  let dev := dev.setPmState .suspended
  (dev.act (.macClearInt .sapRgu)).setRgu false

def pciPmSuspend (answers : SuspendAnswers) (dev : PciDev) : PciDev × Int :=
  if dev.mdPmState.value ≤ PmState.init.value ∨ dev.mode ≠ .ready then (dev, -EFAULT)
  else
    let dev := suspendEntry dev
    let (dev, ret, failed) := suspendEntities answers.entitySuspend dev.mdPmEntities dev
    if ret ≠ 0 then (abortSuspend failed dev, ret)
    else suspendRequests answers dev

structure ResumeAnswers where
  resumeState : BitVec 32
  atr : BitVec 32
  resumeAck : Bool
  resumeAckAp : Bool
  entityResume : PmId → Int
  enableDevice : Int
  fsmCommand : FsmCmd → Int

def pcieReinit (answers : ResumeAnswers) (isD3 : Bool) (dev : PciDev) : PciDev × Int :=
  let dev := dev.act .enableDevice
  if answers.enableDevice ≠ 0 then (dev, answers.enableDevice)
  else
    let dev := dev.act .macAtrInit
    let dev := (dev.act .macMsixCfg).act .imaskHostMsixClr
    let dev := (dev.act .macInterruptsEn).act (.macSetInt .mhccif)
    if isD3 then (pciPmReinit (dev.act .mhccifInit), 0) else (dev, 0)

def sendFsmCommand (answers : ResumeAnswers) (cmd : FsmCmd) (dev : PciDev) : PciDev × Int :=
  match cmd with
  | .stop => (dev.act (.fsmCommand .stop), answers.fsmCommand .stop)
  | .start =>
    let dev := (dev.act (.macClearInt .sapRgu)).act (.macClearIntStatus .sapRgu)
    let dev := dev.setRgu true
    let dev := dev.act (.macSetInt .sapRgu)
    (dev.act (.fsmCommand .start), answers.fsmCommand .start)

def pciReprobeEarly (answers : ResumeAnswers) (dev : PciDev) : PciDev × Int :=
  let dev := dev.act .reprobeEarly
  let dev := if dev.mode = .fastbootDownload then dev.act .runtimePutNoidle else dev
  sendFsmCommand answers .stop dev

def pciReprobe (answers : ResumeAnswers) (boot : Bool) (dev : PciDev) : PciDev × Int :=
  let dev := dev.act (.reprobe boot)
  let (dev, ret) := pcieReinit answers boot dev
  if ret ≠ 0 then (dev, ret)
  else sendFsmCommand answers .start (dev.act .clearRguIrq)

def reprobeDevice (answers : ResumeAnswers) (dev : PciDev) : PciDev × Int :=
  let (dev, ret) := pciReprobeEarly answers dev
  if ret ≠ 0 then (dev, ret) else pciReprobe answers true dev

/-- The loop over the `resume` callbacks keeps the last result. -/
def resumeEntities (answer : PmId → Int) : List PmEntity → PciDev × Int → PciDev × Int
  | [], result => result
  | entity :: rest, (dev, ret) =>
    if entity.resume then
      resumeEntities answer rest (dev.act (.entityCall .resume entity.id), answer entity.id)
    else resumeEntities answer rest (dev, ret)

def resumeEarlyEntities (entities : List PmEntity) (dev : PciDev) : PciDev :=
  entities.foldl (fun dev entity =>
    if entity.resumeEarly then dev.act (.entityCall .resumeEarly entity.id) else dev) dev

def resumeTail (answers : ResumeAnswers) (dev : PciDev) : PciDev × Int :=
  let (dev, ret) := resumeEntities answers.entityResume dev.mdPmEntities (dev, 0)
  let dev := dev.setRgu true
  let dev := (dev.act (.macSetInt .sapRgu)).act (.aspmLowpwr true)
  let dev := (dev.act .runtimeMarkLastBusy).setPmState .resumed
  (dev.setReprobeCount 0, ret)

def resumeRequests (answers : ResumeAnswers) (dev : PciDev) : PciDev × Int :=
  let (dev, ret) := sendPmRequest .resumeReq answers.resumeAck dev
  if ret ≠ 0 then
    if dev.resumeReprobeCount ≥ maxResumeReprobeAttempts then (dev, ret)
    else reprobeDevice answers (dev.setReprobeCount (dev.resumeReprobeCount + 1))
  else
    let (dev, ret) := sendPmRequest .resumeReqAp answers.resumeAckAp dev
    if ret ≠ 0 ∧ answers.resumeState = PM_RESUME_REG_STATE_INIT ∧
        dev.resumeReprobeCount < maxResumeReprobeAttempts then
      reprobeDevice answers (dev.setReprobeCount (dev.resumeReprobeCount + 1))
    else resumeTail answers dev

def resumeHandshake (answers : ResumeAnswers) (dev : PciDev) : PciDev × Int :=
  let dev := (dev.act (.aspmLowpwr false)).act .waitPmConfig
  resumeRequests answers (resumeEarlyEntities dev.mdPmEntities dev)

def resumeException (answers : ResumeAnswers) (dev : PciDev) : PciDev × Int :=
  let (dev, ret) :=
    if answers.resumeState = PM_RESUME_REG_STATE_L2_EXP then pcieReinit answers false dev else (dev, 0)
  if ret ≠ 0 then (dev, ret)
  else
    let dev := (dev.setPmState .suspended).setRgu true
    let dev := dev.act (.macSetInt .sapRgu)
    (dev.act (.mhccifMaskClr (D2H_INT_EXCEPTION_INIT ||| D2H_INT_EXCEPTION_INIT_DONE |||
      D2H_INT_EXCEPTION_CLEARQ_DONE ||| D2H_INT_EXCEPTION_ALLQ_RESET ||| D2H_INT_PORT_ENUM)), 0)

def resumeUnknown (answers : ResumeAnswers) (dev : PciDev) : PciDev × Int :=
  let (dev, ret) := sendFsmCommand answers .stop dev
  if ret ≠ 0 then (dev, ret)
  else ((dev.act .clearRguIrq).setPmState .suspended, 0)

def pciPmResume (answers : ResumeAnswers) (stateCheck : Bool) (dev : PciDev) : PciDev × Int :=
  if dev.mdPmState.value ≤ PmState.init.value then (dev.act (.aspmLowpwr true), 0)
  else
    let dev := dev.act .macInterruptsEn
    let prevState := answers.resumeState
    if stateCheck then
      if prevState = PM_RESUME_REG_STATE_L3 ∨
          (prevState = PM_RESUME_REG_STATE_INIT ∧ (answers.atr = ATR_SRC_ADDR_INVALID ∨ answers.atr = 0)) then
        reprobeDevice answers dev
      else if prevState = PM_RESUME_REG_STATE_EXP ∨ prevState = PM_RESUME_REG_STATE_L2_EXP then
        resumeException answers dev
      else if prevState = PM_RESUME_REG_STATE_L2 then
        let (dev, ret) := pcieReinit answers false dev
        if ret ≠ 0 then (dev, ret) else resumeHandshake answers dev
      else if prevState ≠ PM_RESUME_REG_STATE_L1 ∧ prevState ≠ PM_RESUME_REG_STATE_INIT then
        resumeUnknown answers dev
      else resumeHandshake answers dev
    else resumeHandshake answers dev

end T7xxModel.Pci
