import T7xx.Pci.Device

namespace T7xxModel.Pci

def devSetSleepCapability (enable : Bool) (dev : PciDev) : PciDev :=
  if enable then { dev with miscCtrl := dev.miscCtrl &&& ~~~miscMacSleepDis }
  else { dev with miscCtrl := dev.miscCtrl ||| miscMacSleepDis }

/-- `t7xx_pci_disable_sleep`; `status` is what `T7XX_PCIE_RESOURCE_STATUS` reads. -/
def pciDisableSleep (status : BitVec 32) (dev : PciDev) : PciDev :=
  let dev := { dev with sleepDisableCount := dev.sleepDisableCount + 1 }
  if dev.mdPmState.value < PmState.resumed.value then
    { dev with sleepLockAcquire := dev.sleepLockAcquire.completeAll }
  else if dev.sleepDisableCount = 1 then
    let dev := { dev with sleepLockAcquire := dev.sleepLockAcquire.reinit }
    let dev := devSetSleepCapability false dev
    if status &&& resourceStsMsk ≠ 0 then
      { dev with sleepLockAcquire := dev.sleepLockAcquire.completeAll }
    else
      dev.act (.swintTrigger .dsLock)
  else
    dev

def pciEnableSleep (dev : PciDev) : PciDev :=
  let dev := { dev with sleepDisableCount := dev.sleepDisableCount - 1 }
  if dev.mdPmState.value < PmState.resumed.value then dev
  else if dev.sleepDisableCount = 0 then devSetSleepCapability true dev
  else dev

def sleepDisabled (dev : PciDev) : Bool := dev.miscCtrl &&& miscMacSleepDis ≠ 0

theorem set_masked (misc : BitVec 32) : (misc ||| miscMacSleepDis) &&& miscMacSleepDis ≠ 0 := by
  have absorbed : (misc ||| miscMacSleepDis) &&& miscMacSleepDis = miscMacSleepDis := by
    ext i
    simp only [BitVec.getElem_and, BitVec.getElem_or]
    cases misc[i] <;> simp
  rw [absorbed]
  decide

theorem clear_masked (misc : BitVec 32) : (misc &&& ~~~miscMacSleepDis) &&& miscMacSleepDis = 0 := by
  ext i
  simp only [BitVec.getElem_and, BitVec.getElem_not]
  cases miscMacSleepDis[i] <;> simp

theorem below_resumed (state : PmState) : state.value < PmState.resumed.value ↔ state ≠ .resumed := by
  cases state <;> decide

@[simp] theorem disableSleep_count (status : BitVec 32) (dev : PciDev) :
    (pciDisableSleep status dev).sleepDisableCount = dev.sleepDisableCount + 1 := by
  simp only [pciDisableSleep, devSetSleepCapability]
  split_ifs <;> rfl

@[simp] theorem disableSleep_state (status : BitVec 32) (dev : PciDev) :
    (pciDisableSleep status dev).mdPmState = dev.mdPmState := by
  simp only [pciDisableSleep, devSetSleepCapability]
  split_ifs <;> rfl

theorem disableSleep_miscCtrl (status : BitVec 32) (dev : PciDev) :
    (pciDisableSleep status dev).miscCtrl =
      if dev.mdPmState = .resumed ∧ dev.sleepDisableCount + 1 = 1 then dev.miscCtrl ||| miscMacSleepDis
      else dev.miscCtrl := by
  by_cases resumed : dev.mdPmState = .resumed
  · simp only [pciDisableSleep, below_resumed, devSetSleepCapability, resumed, true_and]
    split_ifs <;> first | rfl | contradiction
  · simp [pciDisableSleep, below_resumed, resumed]

@[simp] theorem enableSleep_count (dev : PciDev) :
    (pciEnableSleep dev).sleepDisableCount = dev.sleepDisableCount - 1 := by
  simp only [pciEnableSleep, devSetSleepCapability]
  split_ifs <;> rfl

@[simp] theorem enableSleep_state (dev : PciDev) : (pciEnableSleep dev).mdPmState = dev.mdPmState := by
  simp only [pciEnableSleep, devSetSleepCapability]
  split_ifs <;> rfl

theorem enableSleep_miscCtrl (dev : PciDev) :
    (pciEnableSleep dev).miscCtrl =
      if dev.mdPmState = .resumed ∧ dev.sleepDisableCount - 1 = 0 then dev.miscCtrl &&& ~~~miscMacSleepDis
      else dev.miscCtrl := by
  by_cases resumed : dev.mdPmState = .resumed
  · simp only [pciEnableSleep, below_resumed, devSetSleepCapability, resumed, true_and]
    split_ifs <;> first | rfl | contradiction
  · simp [pciEnableSleep, below_resumed, resumed]

theorem disableSleep_register_unresumed (status : BitVec 32) (dev : PciDev)
    (unresumed : dev.mdPmState ≠ .resumed) :
    sleepDisabled (pciDisableSleep status dev) = sleepDisabled dev := by
  simp [sleepDisabled, disableSleep_miscCtrl, unresumed]

theorem enableSleep_register_unresumed (dev : PciDev) (unresumed : dev.mdPmState ≠ .resumed) :
    sleepDisabled (pciEnableSleep dev) = sleepDisabled dev := by
  simp [sleepDisabled, enableSleep_miscCtrl, unresumed]

theorem disableSleep_register_resumed (status : BitVec 32) (dev : PciDev)
    (resumed : dev.mdPmState = .resumed) :
    sleepDisabled (pciDisableSleep status dev) =
      (decide (dev.sleepDisableCount = 0) || sleepDisabled dev) := by
  have first : dev.sleepDisableCount + 1 = 1 ↔ dev.sleepDisableCount = 0 := by
    constructor <;> intro h <;> bv_omega
  by_cases zero : dev.sleepDisableCount = 0
  · have written := disableSleep_miscCtrl status dev
    rw [if_pos ⟨resumed, first.mpr zero⟩] at written
    simpa [sleepDisabled, written, zero] using set_masked dev.miscCtrl
  · simp only [sleepDisabled, disableSleep_miscCtrl, first, zero, and_false, if_false, decide_false,
      Bool.false_or]

theorem enableSleep_register_resumed (dev : PciDev) (resumed : dev.mdPmState = .resumed) :
    sleepDisabled (pciEnableSleep dev) =
      (!decide (dev.sleepDisableCount = 1) && sleepDisabled dev) := by
  have last : dev.sleepDisableCount - 1 = 0 ↔ dev.sleepDisableCount = 1 := by
    constructor <;> intro h <;> bv_omega
  by_cases one : dev.sleepDisableCount = 1
  · have written := enableSleep_miscCtrl dev
    rw [if_pos ⟨resumed, last.mpr one⟩] at written
    simpa [sleepDisabled, written, one] using clear_masked dev.miscCtrl
  · simp only [sleepDisabled, enableSleep_miscCtrl, last, one, and_false, if_false, decide_false,
      Bool.not_false, Bool.true_and]

end T7xxModel.Pci
