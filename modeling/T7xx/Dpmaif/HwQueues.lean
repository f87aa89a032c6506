import T7xx.Dpmaif.HwInit

namespace T7xxModel.Dpmaif

open Register Kernel

/-- The calls that write to the hardware while it is initialised: those of suspend and resume, the
    announcements of new entries, and the masking of interrupts. -/
inductive HwCall where
  | stopAllTxq (busy : Nat → Bool)
  | stopAllRxq (busy unsynced : Nat → Bool)
  | startHw
  | ulUpdateHwDrbCnt (ready : Bool) (q : TxqIndex) (cnt : BitVec 32)
  | dlqAddPitRemainCnt (ready : Bool) (q : RxqIndex) (cnt : BitVec 32)
  | dlSndHwBatCnt (ready : Bool) (cnt : BitVec 32)
  | dlSndHwFrgCnt (ready : Bool) (cnt : BitVec 32)
  | intrMask (reg : Fin intrMaskRegs.length) (value : BitVec 32)

def HwCall.run (bus : HwBus) : HwCall → HwBus
  | .stopAllTxq busy => (hwStopAllTxq busy bus).1
  | .stopAllRxq busy unsynced => (hwStopAllRxq busy unsynced bus).1
  | .startHw => startHwRegs bus
  | .ulUpdateHwDrbCnt ready q cnt => ulUpdateHwDrbCntRegs ready q cnt bus
  | .dlqAddPitRemainCnt ready q cnt => dlqAddPitRemainCntRegs ready q cnt bus
  | .dlSndHwBatCnt ready cnt => dlSndHwBatCntRegs ready cnt bus
  | .dlSndHwFrgCnt ready cnt => dlSndHwFrgCntRegs ready cnt bus
  | .intrMask reg value => bus.run [write (intrMaskRegs.get reg) value]

/-- What the calls are for: two switches, and what the hardware is told of the second. -/
structure HwGate where
  tx : Bool
  rx : Bool
  told : List Bool
deriving DecidableEq, Repr

def HwGate.call (g : HwGate) : HwCall → HwGate
  | .stopAllTxq _ => { g with tx := false }
  | .stopAllRxq .. => { g with rx := false, told := g.told ++ [false] }
  | .startHw => { tx := true, rx := true, told := g.told ++ [true] }
  | _ => g

def HwGate.opened : HwGate := ⟨true, true, []⟩

/-- `DPMAIF_UL_ALL_QUE_ARB_EN` has bits for four of the five UL queues. -/
def txqGate (g : HwGate) (q : TxqIndex) : Bool := g.tx || decide (q.val = 4)

/-- The hardware has what it was initialised with, and its switches stand as the calls say. -/
structure HwGate.Shown (para : HwParams) (before : List TableLoad) (g : HwGate) (bus : HwBus) : Prop where
  programmed : Programmed para bus.regs
  arb : ∀ q : TxqIndex, (bus.regs DPMAIF_AO_UL_CHNL_ARB0).getLsbD (q.val + 8) = txqGate g q
  batEn : HwBank.batEn bus.regs = g.rx
  loads : bus.loads = before ++
    g.told.map (.batEnable (para.pktBatBaseAddr rxq0) (para.pktBatSizeCnt rxq0 &&& DPMAIF_BAT_SIZE_MSK))

section Steps

variable {para : HwParams} {before : List TableLoad} {g : HwGate} {bus : HwBus}

/-- The registers that only an initialisation writes. -/
def settledRegs : List Nat :=
  hwSettings.map HwSetting.reg ++ [DPMAIF_DL_BAT_INIT_CON0, DPMAIF_DL_BAT_INIT_CON3] ++
    (List.finRange DPMAIF_TXQ_NUM).flatMap fun q =>
      [DPMAIF_UL_DRBSIZE_ADDRH_n q, DPMAIF_ULQSAR_n q, DPMAIF_UL_DRB_ADDRH_n q]

theorem ring_settled : ∀ q : TxqIndex, DPMAIF_UL_DRBSIZE_ADDRH_n q ∈ settledRegs ∧
    DPMAIF_ULQSAR_n q ∈ settledRegs ∧ DPMAIF_UL_DRB_ADDRH_n q ∈ settledRegs := by decide

theorem Programmed.same {regs after : HwBank} (programmed : Programmed para regs)
    (settled : ∀ reg ∈ settledRegs, after reg = regs reg)
    (ready : ∀ q : TxqIndex, (after DPMAIF_AO_UL_CHNL_ARB0).getLsbD q.val =
      (regs DPMAIF_AO_UL_CHNL_ARB0).getLsbD q.val)
    (size : after.batSize = regs.batSize) : Programmed para after := by
  have low := settled DPMAIF_DL_BAT_INIT_CON0 (by decide)
  have high := settled DPMAIF_DL_BAT_INIT_CON3 (by decide)
  refine ⟨?_, ?_, ?_, ?_, ?_, ?_⟩
  · intro q
    rw [settled _ (ring_settled q).2.1, settled _ (ring_settled q).2.2]
    exact programmed.drbBase q
  · intro q
    rw [settled _ (ring_settled q).1]
    exact programmed.drbSize q
  · exact fun q => (ready q).trans (programmed.ulRdy q)
  · unfold HwBank.batBase
    rw [low, high]
    exact programmed.batBase
  · exact size.trans programmed.batSize
  · intro setting member
    rw [settled _ (List.mem_append_left _ (List.mem_append_left _ (List.mem_map_of_mem member)))]
    exact programmed.settings setting member

/-- A write to a register that is none of the hardware's settings or switches shows in none of them. -/
theorem shown_write {reg : Nat} (value : BitVec 32) (shown : g.Shown para before bus)
    (other : reg ∉ settledRegs ∧ reg ≠ DPMAIF_AO_UL_CHNL_ARB0 ∧ reg ≠ DPMAIF_DL_BAT_INIT_CON1 ∧
      loadsTable reg = false) : g.Shown para before (bus.run [write reg value]) := by
  obtain ⟨unsettled, notArb, notCon1, quiet⟩ := other
  have same : ∀ {r}, reg ≠ r → (bus.run [write reg value]).regs r = bus.regs r := by
    intro r different
    apply run_untouched
    intro a member
    rw [List.mem_singleton.mp member]
    exact different
  have loads : (bus.run [write reg value]).loads = bus.loads := by
    apply loads_quiet
    intro a member
    rw [List.mem_singleton.mp member]
    exact quiet
  refine ⟨shown.programmed.same ?_ ?_ ?_, ?_, ?_, ?_⟩
  · intro r settled
    apply same
    rintro rfl
    exact unsettled settled
  · intro q
    rw [same notArb]
  · unfold HwBank.batSize
    rw [same notCon1]
  · intro q
    rw [same notArb]
    exact shown.arb q
  · unfold HwBank.batEn
    rw [same notCon1]
    exact shown.batEn
  · rw [loads]
    exact shown.loads

theorem shown_addCount {reg : Nat} (ready : Bool) (value : BitVec 32) (shown : g.Shown para before bus)
    (other : reg ∉ settledRegs ∧ reg ≠ DPMAIF_AO_UL_CHNL_ARB0 ∧ reg ≠ DPMAIF_DL_BAT_INIT_CON1 ∧
      loadsTable reg = false) : g.Shown para before (addCount ready reg value bus) := by
  cases ready with
  | false => exact shown
  | true => exact shown_write value shown other

theorem ulAllQEn_shown (enable : Bool) (shown : g.Shown para before bus) :
    { g with tx := enable }.Shown para before (bus.run (ulAllQEn enable)) := by
  have same : ∀ {r}, DPMAIF_AO_UL_CHNL_ARB0 ≠ r → (bus.run (ulAllQEn enable)).regs r = bus.regs r := by
    intro r different
    apply run_untouched
    intro a member
    rw [List.mem_singleton.mp member]
    exact different
  have arb : (bus.run (ulAllQEn enable)).regs DPMAIF_AO_UL_CHNL_ARB0 =
      (enableBits DPMAIF_UL_ALL_QUE_ARB_EN enable).apply (bus.regs DPMAIF_AO_UL_CHNL_ARB0) := by
    have edit : editOf DPMAIF_AO_UL_CHNL_ARB0 (ulAllQEn enable) =
        (⟨BitVec.allOnes 32, 0⟩ : Edit 32).andThen (enableBits DPMAIF_UL_ALL_QUE_ARB_EN enable) := rfl
    rw [bus_run_regs, edit, keepAll_andThen]
  have loads : (bus.run (ulAllQEn enable)).loads = bus.loads := by
    apply loads_quiet
    intro a member
    rw [List.mem_singleton.mp member]
    rfl
  refine ⟨shown.programmed.same ?_ ?_ ?_, ?_, ?_, ?_⟩
  · intro r settled
    apply same
    rintro rfl
    revert settled
    decide
  · intro q
    have outside : ∀ q : TxqIndex, DPMAIF_UL_ALL_QUE_ARB_EN.getLsbD q.val = false := by decide
    have inside : q.val < 32 := q.isLt.trans (by decide)
    rw [arb, enableBits_getLsbD inside, outside q, if_neg (by decide)]
  · rfl
  · intro q
    have bits : ∀ q : TxqIndex, DPMAIF_UL_ALL_QUE_ARB_EN.getLsbD (q.val + 8) = !decide (q.val = 4) := by decide
    have inside : q.val + 8 < 32 := Nat.add_lt_add_right (q.isLt.trans_le (by decide)) 8
    have now := shown.arb q
    unfold txqGate at now ⊢
    rw [arb, enableBits_getLsbD inside, bits q, now]
    by_cases fifth : q.val = 4
    · simp [fifth]
    · simp [fifth]
  · exact shown.batEn
  · rw [loads]
    exact shown.loads

theorem dlAllQEn_shown (enable : Bool) (shown : g.Shown para before bus) :
    { g with rx := enable, told := g.told ++ [enable] }.Shown para before (bus.run (dlAllQEn enable)) := by
  have same : ∀ {r}, DPMAIF_DL_BAT_INIT_CON1 ≠ r → DPMAIF_DL_BAT_INIT ≠ r →
      (bus.run (dlAllQEn enable)).regs r = bus.regs r := by
    intro r notCon1 notLoad
    apply run_untouched
    intro a member
    rcases List.mem_cons.mp member with rfl | member
    · exact notCon1
    · rw [List.mem_singleton.mp member]
      exact notLoad
  have con1 : (bus.run (dlAllQEn enable)).regs DPMAIF_DL_BAT_INIT_CON1 =
      (enableBits DPMAIF_BAT_EN_MSK enable).apply (bus.regs DPMAIF_DL_BAT_INIT_CON1) := by
    have edit : editOf DPMAIF_DL_BAT_INIT_CON1 (dlAllQEn enable) =
        (⟨BitVec.allOnes 32, 0⟩ : Edit 32).andThen (enableBits DPMAIF_BAT_EN_MSK enable) := rfl
    rw [bus_run_regs, edit, keepAll_andThen]
  have unsettled : DPMAIF_DL_BAT_INIT_CON1 ∉ settledRegs ∧ DPMAIF_DL_BAT_INIT ∉ settledRegs := by decide
  refine ⟨shown.programmed.same ?_ ?_ ?_, ?_, ?_, ?_⟩
  · intro r settled
    apply same
    · rintro rfl
      exact unsettled.1 settled
    · rintro rfl
      exact unsettled.2 settled
  · intro q
    rw [same (by decide) (by decide)]
  · unfold HwBank.batSize
    rw [con1, enableBits_keeps (by decide)]
  · intro q
    rw [same (by decide) (by decide)]
    exact shown.arb q
  · unfold HwBank.batEn
    rw [con1]
    exact enableBits_bit (by decide) enable _
  · rw [dlAllQEn_loads, shown.loads, shown.programmed.batBase, shown.programmed.batSize, List.map_append,
      List.append_assoc]
    rfl

theorem call_shown (call : HwCall) (shown : g.Shown para before bus) :
    (g.call call).Shown para before (call.run bus) := by
  have free : ∀ reg ∈ [DPMAIF_DL_BAT_ADD, DPMAIF_DL_DLQPIT_ADD] ++ intrMaskRegs ++
      (List.finRange DPMAIF_TXQ_NUM).map DPMAIF_ULQ_ADD_DESC_CH_n,
      reg ∉ settledRegs ∧ reg ≠ DPMAIF_AO_UL_CHNL_ARB0 ∧ reg ≠ DPMAIF_DL_BAT_INIT_CON1 ∧
        loadsTable reg = false := by decide
  cases call with
  | stopAllTxq busy => exact ulAllQEn_shown false shown
  | stopAllRxq busy unsynced =>
    have stopped := dlAllQEn_shown false shown
    unfold HwCall.run hwStopAllRxq
    dsimp only
    split
    · exact stopped
    · exact stopped
  | startHw =>
    unfold HwCall.run startHwRegs
    rw [bus_run_append]
    exact dlAllQEn_shown true (ulAllQEn_shown true shown)
  | ulUpdateHwDrbCnt ready q cnt =>
    apply shown_addCount ready _ shown
    apply free
    exact List.mem_append_right _ (List.mem_map_of_mem (List.mem_finRange q))
  | dlqAddPitRemainCnt ready q cnt => exact shown_addCount ready _ shown (free _ (by decide))
  | dlSndHwBatCnt ready cnt => exact shown_addCount ready _ shown (free _ (by decide))
  | dlSndHwFrgCnt ready cnt => exact shown_addCount ready _ shown (free _ (by decide))
  | intrMask reg value =>
    apply shown_write value shown
    apply free
    exact List.mem_append_left _ (List.mem_append_right _ (List.get_mem _ reg))

end Steps

def resetState : HwState where
  info := ⟨fun _ => ⟨false, 0, 0, 0, 0, 0, 0⟩, fun _ => ⟨false, 0, 0⟩, ⟨0, 0, 0, 0⟩⟩
  bus := ⟨fun _ => 0, []⟩

/-- The rings of a queue `q` at distinct places. -/
def somePara : HwParams where
  drbBaseAddr := fun q => BitVec.ofNat 64 (0x100000000 + 0x10000 * q.val)
  drbSizeCnt := fun _ => 6144
  pktBatBaseAddr := fun _ => 0x200000000
  pktBatSizeCnt := fun _ => 8192
  frgBatBaseAddr := fun _ => 0x300000000
  frgBatSizeCnt := fun _ => 4814
  pitBaseAddr := fun q => BitVec.ofNat 64 (0x400000000 + 0x10000 * q.val)
  pitSizeCnt := fun _ => 16384

end T7xxModel.Dpmaif
