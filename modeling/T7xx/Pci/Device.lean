import Mathlib.Order.Basic
import T7xx.Kernel.Primitives
import T7xx.Kernel.Errno

namespace T7xxModel.Pci

open Kernel

inductive PmState where
  | exception
  | init
  | suspended
  | resumed
deriving DecidableEq, Repr

def PmState.value : PmState → Nat
  | .exception => 0
  | .init => 1
  | .suspended => 2
  | .resumed => 3

inductive Mode where
  | unknown
  | ready
  | reset
  | fastbootSwitching
  | fastbootDownload
  | fastbootDump
deriving DecidableEq, Repr

inductive PmId where
  | ctrl1
  | ctrl2
  | data
  | invalid
deriving DecidableEq, Repr

inductive Channel where
  | dsLock
  | suspendReq
  | resumeReq
  | suspendReqAp
  | resumeReqAp
deriving DecidableEq, Repr

def Channel.number : Channel → Nat
  | .dsLock => 3
  | .suspendReq => 9
  | .resumeReq => 10
  | .suspendReqAp => 11
  | .resumeReqAp => 12

inductive PmCallback where
  | suspend
  | suspendLate
  | resumeEarly
  | resume
deriving DecidableEq, Repr

structure PmEntity where
  id : PmId
  suspend : Bool
  suspendLate : Bool
  resumeEarly : Bool
  resume : Bool
deriving DecidableEq, Repr

inductive FsmCmd where
  | start
  | stop
deriving DecidableEq, Repr

inductive ExtInt where
  | mhccif
  | sapRgu
deriving DecidableEq, Repr

/-- What a call does to the hardware, the firmware and the PM core, in program order. -/
inductive Action where
  | aspmLowpwr (enable : Bool)
  | waitPmConfig
  | macInterruptsEn
  | macSetInt (int : ExtInt)
  | macClearInt (int : ExtInt)
  | macClearIntStatus (int : ExtInt)
  | macAtrInit
  | macMsixCfg
  | imaskHostMsixClr
  | enableDevice
  | mhccifInit
  | mhccifMaskClr (bits : BitVec 32)
  | swintTrigger (channel : Channel)
  | pmRequest (channel : Channel) (acked : Bool)
  | entityCall (callback : PmCallback) (id : PmId)
  | reprobeEarly
  | reprobe (boot : Bool)
  | fsmCommand (cmd : FsmCmd)
  | clearRguIrq
  | runtimeGetNoresume
  | runtimePutNoidle
  | runtimeAllow
  | runtimeMarkLastBusy
deriving DecidableEq, Repr

/-- `struct t7xx_pci_dev` and the misc control register; `actions` collects what the code did. -/
structure PciDev where
  mdPmState : PmState
  mode : Mode
  rguPciIrqEn : Bool
  initDone : Completion
  sleepLockAcquire : Completion
  sleepDisableCount : BitVec 32
  resumeReprobeCount : Nat
  mdPmEntities : List PmEntity
  miscCtrl : BitVec 32
  actions : List Action
deriving DecidableEq, Repr

def probedDev : PciDev where
  mdPmState := .init
  mode := .ready
  rguPciIrqEn := true
  initDone := { done := 0 }
  sleepLockAcquire := { done := 0 }
  sleepDisableCount := 0
  resumeReprobeCount := 0
  mdPmEntities := [⟨.data, true, false, false, true⟩, ⟨.ctrl1, true, true, true, true⟩,
    ⟨.ctrl2, true, true, true, true⟩]
  miscCtrl := 0
  actions := []

def PciDev.act (dev : PciDev) (action : Action) : PciDev :=
  { dev with actions := dev.actions ++ [action] }

def PciDev.setPmState (dev : PciDev) (state : PmState) : PciDev :=
  { dev with mdPmState := state }

def PciDev.setRgu (dev : PciDev) (enabled : Bool) : PciDev :=
  { dev with rguPciIrqEn := enabled }

def PciDev.setReprobeCount (dev : PciDev) (count : Nat) : PciDev :=
  { dev with resumeReprobeCount := count }

def maxResumeReprobeAttempts : Nat := 3

def D2H_INT_DS_LOCK_ACK : BitVec 32 := 1#32 <<< 0
def D2H_INT_EXCEPTION_INIT : BitVec 32 := 1#32 <<< 1
def D2H_INT_EXCEPTION_INIT_DONE : BitVec 32 := 1#32 <<< 2
def D2H_INT_EXCEPTION_CLEARQ_DONE : BitVec 32 := 1#32 <<< 3
def D2H_INT_EXCEPTION_ALLQ_RESET : BitVec 32 := 1#32 <<< 4
def D2H_INT_PORT_ENUM : BitVec 32 := 1#32 <<< 5
def D2H_INT_SUSPEND_ACK : BitVec 32 := 1#32 <<< 11
def D2H_INT_RESUME_ACK : BitVec 32 := 1#32 <<< 12
def D2H_INT_SUSPEND_ACK_AP : BitVec 32 := 1#32 <<< 13
def D2H_INT_RESUME_ACK_AP : BitVec 32 := 1#32 <<< 14

def miscMacSleepDis : BitVec 32 := 1#32 <<< 7

def resourceStsMsk : BitVec 32 := 0x1f#32

def PM_RESUME_REG_STATE_L3 : BitVec 32 := 0
def PM_RESUME_REG_STATE_L1 : BitVec 32 := 1
def PM_RESUME_REG_STATE_INIT : BitVec 32 := 2
def PM_RESUME_REG_STATE_EXP : BitVec 32 := 3
def PM_RESUME_REG_STATE_L2 : BitVec 32 := 4
def PM_RESUME_REG_STATE_L2_EXP : BitVec 32 := 5

def ATR_SRC_ADDR_INVALID : BitVec 32 := 0x7f

/-- The sleep lock was not touched: neither its counter nor its register. -/
structure SameSleepLock (before after : PciDev) : Prop where
  count : after.sleepDisableCount = before.sleepDisableCount
  register : after.miscCtrl = before.miscCtrl

theorem SameSleepLock.refl (dev : PciDev) : SameSleepLock dev dev := ⟨rfl, rfl⟩

theorem SameSleepLock.trans {first second third : PciDev} (left : SameSleepLock first second)
    (right : SameSleepLock second third) : SameSleepLock first third :=
  ⟨right.count.trans left.count, right.register.trans left.register⟩

@[simp] theorem act_mdPmState (dev : PciDev) (action : Action) :
    (dev.act action).mdPmState = dev.mdPmState := rfl

@[simp] theorem act_resumeReprobeCount (dev : PciDev) (action : Action) :
    (dev.act action).resumeReprobeCount = dev.resumeReprobeCount := rfl

@[simp] theorem act_actions (dev : PciDev) (action : Action) :
    (dev.act action).actions = dev.actions ++ [action] := rfl

@[simp] theorem setPmState_mdPmState (dev : PciDev) (state : PmState) :
    (dev.setPmState state).mdPmState = state := rfl

end T7xxModel.Pci
