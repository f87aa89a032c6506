import T7xx.Cldma.LateInit
import T7xx.Register.Bank

namespace T7xxModel.Cldma

open Register

/-- The two mappings of a `struct t7xx_cldma_hw`, `ap_ao_base` and `ap_pdn_base`. -/
inductive HwBase where
  | ao
  | pdn
deriving DecidableEq, Repr

abbrev HwReg := HwBase × Nat

abbrev HwWrite := HwReg × BitVec 32

def CLDMA_ALL_Q : Nat := 0xff
def EQ_STA_BIT_OFFSET : Nat := 8
def EMPTY_STATUS_BITMASK : BitVec 32 := genmask 15 8
def ERR_INT_BITMASK : BitVec 32 := genmask 23 16
def ACTIVE_START_ERR_INT_BITMASK : BitVec 32 := genmask 31 24

def REG_CLDMA_UL_START_ADDRL_0 : Nat := 0x0004
def REG_CLDMA_UL_START_CMD : Nat := 0x0088
def REG_CLDMA_UL_RESUME_CMD : Nat := 0x008c
def REG_CLDMA_UL_STOP_CMD : Nat := 0x0090
def REG_CLDMA_DL_START_ADDRL_0 : Nat := 0x0478
def REG_CLDMA_DL_STATUS : Nat := 0x04f8
def REG_CLDMA_DL_START_CMD : Nat := 0x05bc
def REG_CLDMA_DL_RESUME_CMD : Nat := 0x05c0
def REG_CLDMA_DL_STOP_CMD : Nat := 0x05c4
def REG_CLDMA_L2TISAR0 : Nat := 0x0810
def REG_CLDMA_L2TIMR0 : Nat := 0x0818
def REG_CLDMA_L2TIMCR0 : Nat := 0x0820
def REG_CLDMA_L2TIMSR0 : Nat := 0x0828
def REG_CLDMA_L3TISAR0 : Nat := 0x0830
def REG_CLDMA_L3TISAR1 : Nat := 0x0834
def REG_CLDMA_L2RISAR0 : Nat := 0x0850
def REG_CLDMA_L2RIMR0 : Nat := 0x0858
def REG_CLDMA_L2RIMCR0 : Nat := 0x0860
def REG_CLDMA_L2RIMSR0 : Nat := 0x0868
def REG_CLDMA_L3RISAR0 : Nat := 0x0870
def REG_CLDMA_L3RISAR1 : Nat := 0x0874
def REG_CLDMA_IP_BUSY : Nat := 0x08b4
def IP_BUSY_WAKEUP : BitVec 32 := 1

/-- `BIT(qno)`, or all queues for `CLDMA_ALL_Q`. -/
def qMask (qno : Nat) : BitVec 32 := if qno = CLDMA_ALL_Q then BitVec.ofNat 32 CLDMA_ALL_Q else 1 <<< qno

def BIT (q : Qno) : BitVec 32 := 1 <<< q.val

def EQ_STA_BIT (q : Qno) : BitVec 32 := 1 <<< (q.val + EQ_STA_BIT_OFFSET) &&& EMPTY_STATUS_BITMASK

section Registers

/-- The L2 status register, whose bits are cleared by writing them. -/
def isar : Dir → HwReg
  | .tx => (.pdn, REG_CLDMA_L2TISAR0)
  | .rx => (.pdn, REG_CLDMA_L2RISAR0)

/-- The L2 mask register, which changes by writes to two others only. -/
def imr : Dir → HwReg
  | .tx => (.pdn, REG_CLDMA_L2TIMR0)
  | .rx => (.ao, REG_CLDMA_L2RIMR0)

def imcr : Dir → HwReg
  | .tx => (.pdn, REG_CLDMA_L2TIMCR0)
  | .rx => (.ao, REG_CLDMA_L2RIMCR0)

def imsr : Dir → HwReg
  | .tx => (.pdn, REG_CLDMA_L2TIMSR0)
  | .rx => (.ao, REG_CLDMA_L2RIMSR0)

def l3Isars : Dir → List HwReg
  | .tx => [(.pdn, REG_CLDMA_L3TISAR0), (.pdn, REG_CLDMA_L3TISAR1)]
  | .rx => [(.pdn, REG_CLDMA_L3RISAR0), (.pdn, REG_CLDMA_L3RISAR1)]

/-- What the device makes of a write: status bits are cleared by writing them, the mask is set and
    cleared through its two registers. -/
def iowrite32 (w : HwWrite) : Access HwReg 32 :=
  if w.1 = imsr .tx then ⟨imr .tx, orIn w.2⟩
  else if w.1 = imsr .rx then ⟨imr .rx, orIn w.2⟩
  else if w.1 = imcr .tx then ⟨imr .tx, andNot w.2⟩
  else if w.1 = imcr .rx then ⟨imr .rx, andNot w.2⟩
  else if w.1 ∈ [isar .tx, isar .rx] ++ l3Isars .tx ++ l3Isars .rx then ⟨w.1, andNot w.2⟩
  else if w.1 ∈ [imr .tx, imr .rx] then ⟨w.1, orIn 0⟩
  else write w.1 w.2

def hwStartQueue (qno : Nat) : Dir → HwWrite
  | .tx => ((.pdn, REG_CLDMA_UL_START_CMD), qMask qno)
  | .rx => ((.pdn, REG_CLDMA_DL_START_CMD), qMask qno)

def hwStart : List HwWrite :=
  [(imcr .tx, TXRX_STATUS_BITMASK.setWidth 32), (imcr .rx, TXRX_STATUS_BITMASK.setWidth 32),
   (imcr .tx, EMPTY_STATUS_BITMASK), (imcr .rx, EMPTY_STATUS_BITMASK)]

def startAddrReg (q : Qno) : Dir → HwReg
  | .tx => (.pdn, REG_CLDMA_UL_START_ADDRL_0 + q.val * 8)
  | .rx => (.ao, REG_CLDMA_DL_START_ADDRL_0 + q.val * 8)

/-- `iowrite64_lo_hi` of the start address, which has a register for each half. -/
def hwSetStartAddr (q : Qno) (address : BitVec 64) (dir : Dir) : List HwWrite :=
  [(startAddrReg q dir, address.setWidth 32),
   (((startAddrReg q dir).1, (startAddrReg q dir).2 + 4), (address >>> 32).setWidth 32)]

def hwResumeQueue (q : Qno) : Dir → HwWrite
  | .tx => ((.pdn, REG_CLDMA_UL_RESUME_CMD), BIT q)
  | .rx => ((.pdn, REG_CLDMA_DL_RESUME_CMD), BIT q)

/-- `t7xx_cldma_hw_queue_status` of an RX queue. -/
def rxQueueStatus (regs : Bank HwReg 32) (q : Qno) : BitVec 32 := regs (.ao, REG_CLDMA_DL_STATUS) &&& BIT q

def hwIrqDisTxrx (qno : Nat) (dir : Dir) : HwWrite := (imsr dir, qMask qno)
def hwIrqDisEq (qno : Nat) (dir : Dir) : HwWrite := (imsr dir, qMask qno <<< EQ_STA_BIT_OFFSET)
def hwIrqEnTxrx (qno : Nat) (dir : Dir) : HwWrite := (imcr dir, qMask qno)
def hwIrqEnEq (qno : Nat) (dir : Dir) : HwWrite := (imcr dir, qMask qno <<< EQ_STA_BIT_OFFSET)

def hwStopAllQs : Dir → HwWrite
  | .tx => ((.pdn, REG_CLDMA_UL_STOP_CMD), qMask CLDMA_ALL_Q)
  | .rx => ((.pdn, REG_CLDMA_DL_STOP_CMD), qMask CLDMA_ALL_Q)

end Registers

section Bits

theorem bit_getLsbD : ∀ q p : Qno, (BIT q).getLsbD p.val = decide (q = p) := by decide

theorem eqStaBit_getLsbD : ∀ q p : Qno, (EQ_STA_BIT q).getLsbD p.val = false := by decide

theorem qMask_one : ∀ q : Qno, qMask q.val = BIT q := by decide

theorem qMask_all : ∀ q : Qno, (qMask CLDMA_ALL_Q).getLsbD q.val = true := by decide

theorem eqMask_getLsbD (value : BitVec 32) (q : Qno) : (value <<< EQ_STA_BIT_OFFSET).getLsbD q.val = false := by
  have below : q.val < EQ_STA_BIT_OFFSET := q.isLt
  simp [BitVec.getLsbD_shiftLeft, below]

end Bits

section Writes

variable (regs : Bank HwReg 32) (w : HwWrite)

def afterWrite : Bank HwReg 32 :=
  Function.update regs (iowrite32 w).reg ((iowrite32 w).edit.apply (regs (iowrite32 w).reg))

theorem iowrite32_isar (dir : Dir) (same : w.1 = isar dir) : iowrite32 w = ⟨isar dir, andNot w.2⟩ := by
  obtain ⟨reg, value⟩ := w
  cases same
  cases dir <;> rfl

theorem iowrite32_imsr (dir : Dir) (same : w.1 = imsr dir) : iowrite32 w = ⟨imr dir, orIn w.2⟩ := by
  obtain ⟨reg, value⟩ := w
  cases same
  cases dir <;> rfl

theorem iowrite32_imcr (dir : Dir) (same : w.1 = imcr dir) : iowrite32 w = ⟨imr dir, andNot w.2⟩ := by
  obtain ⟨reg, value⟩ := w
  cases same
  cases dir <;> rfl

theorem imr_ne_isar : ∀ d e, imr d ≠ isar e := by
  rintro (_ | _) (_ | _) <;> decide

theorem imr_apart : imr .tx ≠ imr .rx := by decide

theorem iowrite32_other_isar (dir : Dir) (other : w.1 ≠ isar dir) : (iowrite32 w).reg ≠ isar dir := by
  unfold iowrite32
  split_ifs
  · exact imr_ne_isar .tx dir
  · exact imr_ne_isar .rx dir
  · exact imr_ne_isar .tx dir
  · exact imr_ne_isar .rx dir
  · exact other
  · exact other
  · exact other

theorem iowrite32_other_imr (dir : Dir) (unset : w.1 ≠ imsr dir) (uncleared : w.1 ≠ imcr dir) :
    (iowrite32 w).reg ≠ imr dir ∨ (iowrite32 w).edit = orIn 0 := by
  unfold iowrite32
  split_ifs with setTx setRx clearTx clearRx status
  · cases dir with
    | tx => exact absurd setTx unset
    | rx => exact .inl imr_apart
  · cases dir with
    | tx => exact .inl imr_apart.symm
    | rx => exact absurd setRx unset
  · cases dir with
    | tx => exact absurd clearTx uncleared
    | rx => exact .inl imr_apart
  · cases dir with
    | tx => exact .inl imr_apart.symm
    | rx => exact absurd clearRx uncleared
  · have apart : ∀ dir, imr dir ∉ [isar .tx, isar .rx] ++ l3Isars .tx ++ l3Isars .rx := by
      rintro (_ | _) <;> decide
    refine .inl fun same => ?_
    exact apart dir (same ▸ status)
  · exact .inr rfl
  · rename_i known
    refine .inl fun same => known ?_
    change w.1 = imr dir at same
    rw [same]
    cases dir <;> decide

theorem afterWrite_isar (dir : Dir) (q : Qno) :
    (afterWrite regs w (isar dir)).getLsbD q.val =
      ((regs (isar dir)).getLsbD q.val && !(decide (w.1 = isar dir) && w.2.getLsbD q.val)) := by
  have inside : q.val < 32 := Nat.lt_trans q.isLt (by decide)
  unfold afterWrite
  by_cases same : w.1 = isar dir
  · rw [iowrite32_isar w dir same, Function.update_self, andNot_apply]
    simp [same, inside]
  · rw [Function.update_of_ne (Ne.symm (iowrite32_other_isar w dir same))]
    simp [same]

theorem imsr_ne_imcr : ∀ dir, imsr dir ≠ imcr dir := by
  rintro (_ | _) <;> decide

theorem afterWrite_imr (dir : Dir) (q : Qno) :
    (afterWrite regs w (imr dir)).getLsbD q.val =
      (((regs (imr dir)).getLsbD q.val || (decide (w.1 = imsr dir) && w.2.getLsbD q.val)) &&
        !(decide (w.1 = imcr dir) && w.2.getLsbD q.val)) := by
  have inside : q.val < 32 := Nat.lt_trans q.isLt (by decide)
  unfold afterWrite
  by_cases sets : w.1 = imsr dir
  · rw [iowrite32_imsr w dir sets, Function.update_self, orIn_apply]
    simp [sets, imsr_ne_imcr]
  by_cases clears : w.1 = imcr dir
  · rw [iowrite32_imcr w dir clears, Function.update_self, andNot_apply]
    simp [clears, (imsr_ne_imcr dir).symm, inside]
  have same : afterWrite regs w (imr dir) = regs (imr dir) := by
    unfold afterWrite
    obtain other | kept := iowrite32_other_imr w dir sets clears
    · rw [Function.update_of_ne (Ne.symm other)]
    · by_cases reg : (iowrite32 w).reg = imr dir
      · rw [reg, Function.update_self, kept, orIn_apply]
        exact BitVec.or_zero
      · rw [Function.update_of_ne (Ne.symm reg)]
  change (afterWrite regs w (imr dir)).getLsbD q.val = _
  rw [same]
  simp [sets, clears]

end Writes

end T7xxModel.Cldma
