import Mathlib.Data.BitVec
import Mathlib.Tactic.Abel
import T7xx.Kernel.Errno
import T7xx.Register.Bank

namespace T7xxModel.Pci

open Register

def T7XX_PCIE_REG_TRSL_ADDR_CHIP : BitVec 32 := 0x10000000
def T7XX_PCIE_REG_SIZE_CHIP : BitVec 64 := 0x00400000
def ATR_PORT_OFFSET : Nat := 0x100
def ATR_TABLE_OFFSET : Nat := 0x20
def ATR_TABLE_NUM_PER_ATR : Nat := 8
def ATR_TRANSPARENT_SIZE : Int := 0x3f
def ATR_PCIE_WIN0_T0_ATR_PARAM_SRC_ADDR : Nat := 0x0600
def ATR_PCIE_WIN0_T0_TRSL_ADDR : Nat := 0x0608
def ATR_PCIE_WIN0_T0_TRSL_PARAM : Nat := 0x0610
def ATR_PCIE_WIN0_ADDR_ALGMT : BitVec 64 := genmask 63 12

inductive AtrSrcPort where
  | pciWin0
  | pciWin1
  | axis0
  | axis1
  | axis2
  | axis3
deriving DecidableEq, Repr

def AtrSrcPort.value : AtrSrcPort → Nat
  | .pciWin0 => 0
  | .pciWin1 => 1
  | .axis0 => 2
  | .axis1 => 3
  | .axis2 => 4
  | .axis3 => 5

def ATR_DST_PCI_TRX : BitVec 32 := 0
def ATR_DST_AXIM_0 : BitVec 32 := 4

structure AtrConfig where
  srcAddr : BitVec 64
  trslAddr : BitVec 64
  size : BitVec 64
  port : AtrSrcPort
  table : Nat
  trslId : BitVec 32
  transparent : Bool

section Programs

def iowrite64LoHi (value : BitVec 64) (reg : Nat) : List (Access Nat 32) :=
  [write reg (value.extractLsb' 0 32), write (reg + 4) (value.extractLsb' 32 32)]

def atrOffset (port : AtrSrcPort) (table : Nat) : Nat :=
  ATR_PORT_OFFSET * port.value + ATR_TABLE_OFFSET * table

def pcieMacAtrTablesDis (port : AtrSrcPort) : List (Access Nat 32) :=
  (List.range ATR_TABLE_NUM_PER_ATR).flatMap fun i =>
    iowrite64LoHi 0 (ATR_PCIE_WIN0_T0_ATR_PARAM_SRC_ADDR + atrOffset port i)

/-- `__ffs64`, which says nothing of 0. -/
def ffs64 (word : BitVec 64) : Nat := ((List.range 64).find? word.getLsbD).getD 0

def AtrConfig.atrSize (cfg : AtrConfig) : Int :=
  if cfg.transparent then ATR_TRANSPARENT_SIZE else (ffs64 cfg.size : Int) - 1

def AtrConfig.Misaligned (cfg : AtrConfig) : Prop :=
  cfg.transparent = false ∧ (cfg.srcAddr &&& (cfg.size - 1) ≠ 0 ∨ cfg.trslAddr &&& (cfg.size - 1) ≠ 0)

instance (cfg : AtrConfig) : Decidable cfg.Misaligned := inferInstanceAs (Decidable (_ ∧ _))

def AtrConfig.srcValue (cfg : AtrConfig) : BitVec 64 :=
  cfg.srcAddr &&& ATR_PCIE_WIN0_ADDR_ALGMT ||| BitVec.ofInt 64 (2 * cfg.atrSize) ||| 1

/-- `t7xx_pcie_mac_atr_cfg`, its result and its writes. -/
def pcieMacAtrCfg (cfg : AtrConfig) : Int × List (Access Nat 32) :=
  if cfg.Misaligned then (-EINVAL, [])
  else
    let offset := atrOffset cfg.port cfg.table
    (0,
      iowrite64LoHi (cfg.trslAddr &&& ATR_PCIE_WIN0_ADDR_ALGMT) (ATR_PCIE_WIN0_T0_TRSL_ADDR + offset) ++
        [write (ATR_PCIE_WIN0_T0_TRSL_PARAM + offset) cfg.trslId] ++
        iowrite64LoHi cfg.srcValue (ATR_PCIE_WIN0_T0_ATR_PARAM_SRC_ADDR + offset))

/-- The window through which the host reaches the registers behind the BAR that starts at `bar`. -/
def regConfig (bar : BitVec 64) : AtrConfig where
  srcAddr := bar
  size := T7XX_PCIE_REG_SIZE_CHIP
  trslAddr := T7XX_PCIE_REG_TRSL_ADDR_CHIP.setWidth 64
  port := .pciWin0
  table := 0
  trslId := ATR_DST_AXIM_0
  transparent := false

/-- The windows through which the device reaches the memory of the host. -/
def dmaConfig (port : AtrSrcPort) : AtrConfig where
  srcAddr := 0
  size := 0
  trslAddr := 0
  port := port
  table := 0
  trslId := ATR_DST_PCI_TRX
  transparent := true

def pcieMacAtrDmaPort (port : AtrSrcPort) : List (Access Nat 32) :=
  pcieMacAtrTablesDis port ++ (pcieMacAtrCfg (dmaConfig port)).2

/-- `t7xx_pcie_mac_atr_init`, which looks at no result. -/
def pcieMacAtrInit (bar : BitVec 64) : List (Access Nat 32) :=
  [.pciWin0, .pciWin1, .axis0, .axis1, .axis2, .axis3].flatMap pcieMacAtrTablesDis ++
    pcieMacAtrTablesDis .pciWin0 ++ (pcieMacAtrCfg (regConfig bar)).2 ++
    [.axis0, .axis1, .axis2].flatMap pcieMacAtrDmaPort

end Programs

section Device

/-- A table as the device reads it: it is enabled by the lowest bit of the source address register,
    and the space it translates is 2^(atr_size + 1) addresses from there on. -/
structure AtrTable where
  src : BitVec 64
  trsl : BitVec 64
  param : BitVec 32
deriving DecidableEq, Repr

def AtrTable.base (table : AtrTable) : BitVec 64 := table.src &&& ATR_PCIE_WIN0_ADDR_ALGMT
def AtrTable.atrSize (table : AtrTable) : Nat := (table.src.extractLsb' 1 6).toNat

def AtrTable.translate (table : AtrTable) (addr : BitVec 64) : Option (BitVec 32 × BitVec 64) :=
  if table.src.getLsbD 0 ∧ (addr - table.base).toNat < 2 ^ (table.atrSize + 1) then
    some (table.param, table.trsl + (addr - table.base))
  else none

def ioread64 (regs : Bank Nat 32) (reg : Nat) : BitVec 64 := regs (reg + 4) ++ regs reg

def atrTable (regs : Bank Nat 32) (port : AtrSrcPort) (i : Nat) : AtrTable where
  src := ioread64 regs (ATR_PCIE_WIN0_T0_ATR_PARAM_SRC_ADDR + atrOffset port i)
  trsl := ioread64 regs (ATR_PCIE_WIN0_T0_TRSL_ADDR + atrOffset port i)
  param := regs (ATR_PCIE_WIN0_T0_TRSL_PARAM + atrOffset port i)

def translations (regs : Bank Nat 32) (port : AtrSrcPort) (addr : BitVec 64) :
    List (BitVec 32 × BitVec 64) :=
  (List.range ATR_TABLE_NUM_PER_ATR).filterMap fun i => (atrTable regs port i).translate addr

def written (regs : Bank Nat 32) (program : List (Access Nat 32)) : Bank Nat 32 :=
  (Bus.run (fun _ => false) ⟨regs, []⟩ program).regs

end Device

section Encoding

theorem ffs64_twoPow (k : Fin 64) : ffs64 (BitVec.twoPow 64 k) = k := by
  revert k
  decide

theorem atrSize_bits (size : BitVec 6) :
    BitVec.ofInt 64 (2 * (size.toNat : Int)) = size.setWidth 64 <<< 1 := by
  revert size
  decide

theorem algmt_getLsbD (i : Nat) :
    ATR_PCIE_WIN0_ADDR_ALGMT.getLsbD i = decide (12 ≤ i ∧ i < 64) := by
  unfold ATR_PCIE_WIN0_ADDR_ALGMT genmask
  simp only [BitVec.getLsbD_shiftLeft, BitVec.getLsbD_setWidth, BitVec.getLsbD_allOnes]
  rw [Bool.eq_iff_iff]
  simp
  omega

theorem srcValue_decode (addr : BitVec 64) (size : BitVec 6) :
    let value := addr &&& ATR_PCIE_WIN0_ADDR_ALGMT ||| size.setWidth 64 <<< 1 ||| 1
    value.getLsbD 0 = true ∧ value.extractLsb' 1 6 = size ∧
      value &&& ATR_PCIE_WIN0_ADDR_ALGMT = addr &&& ATR_PCIE_WIN0_ADDR_ALGMT := by
  refine ⟨by simp, ?_, ?_⟩
  · apply BitVec.eq_of_getLsbD_eq
    intro i inside
    have low : ¬ 12 ≤ 1 + i := by omega
    have below : 1 + i < 64 := by omega
    have first : ¬ 1 + i < 1 := by omega
    have back : 1 + i - 1 = i := by omega
    simp only [BitVec.getLsbD_extractLsb', BitVec.getLsbD_or, BitVec.getLsbD_and, algmt_getLsbD,
      BitVec.getLsbD_shiftLeft, BitVec.getLsbD_setWidth, inside, low, below, first, back]
    simp
    omega
  · apply BitVec.eq_of_getLsbD_eq
    intro i inside
    simp only [BitVec.getLsbD_and, BitVec.getLsbD_or, algmt_getLsbD, BitVec.getLsbD_shiftLeft,
      BitVec.getLsbD_setWidth]
    by_cases high : 12 ≤ i
    · have beyond := BitVec.getLsbD_of_ge size (i - 1) (by omega)
      have other : i ≠ 0 := by omega
      simp [beyond, other]
    · simp [high]

/-- An address aligned to a size of at least a page has no bits that the register drops. -/
theorem aligned_kept {addr : BitVec 64} {k : Nat} (page : 12 ≤ k) (below : k < 64)
    (aligned : addr &&& (BitVec.twoPow 64 k - 1) = 0) : addr &&& ATR_PCIE_WIN0_ADDR_ALGMT = addr := by
  apply BitVec.eq_of_getLsbD_eq
  intro i inside
  have mask : (BitVec.twoPow 64 k - 1).getLsbD i = decide (i < k) := by
    rw [BitVec.getLsbD, BitVec.toNat_sub, BitVec.toNat_twoPow_of_lt below]
    have total : 2 ^ 64 - BitVec.toNat (1 : BitVec 64) + 2 ^ k = 2 ^ 64 + (2 ^ k - 1) := by
      have positive := Nat.two_pow_pos k
      simp
      omega
    rw [total, Nat.add_mod_left, Nat.mod_eq_of_lt, Nat.testBit_two_pow_sub_one]
    exact Nat.lt_of_le_of_lt (Nat.sub_le _ _) (Nat.pow_lt_pow_right (by decide) below)
  have bit := congrArg (fun word => word.getLsbD i) aligned
  simp only [BitVec.getLsbD_and, mask] at bit
  rw [BitVec.getLsbD_and, algmt_getLsbD]
  by_cases high : 12 ≤ i
  · simp [high, inside]
  · have low : i < k := by omega
    simp [low] at bit
    simp [bit]

end Encoding

section Windows

def AtrConfig.entry (cfg : AtrConfig) : AtrTable :=
  ⟨cfg.srcValue, cfg.trslAddr &&& ATR_PCIE_WIN0_ADDR_ALGMT, cfg.trslId⟩

theorem entry_decode {cfg : AtrConfig} {size : BitVec 6} (fits : cfg.atrSize = (size.toNat : Int)) :
    cfg.entry.src.getLsbD 0 = true ∧ cfg.entry.atrSize = size.toNat ∧
      cfg.entry.base = cfg.srcAddr &&& ATR_PCIE_WIN0_ADDR_ALGMT := by
  have bits : cfg.entry.src =
      cfg.srcAddr &&& ATR_PCIE_WIN0_ADDR_ALGMT ||| size.setWidth 64 <<< 1 ||| 1 := by
    show cfg.srcValue = _
    unfold AtrConfig.srcValue
    rw [fits, atrSize_bits]
  obtain ⟨enabled, field, base⟩ := srcValue_decode cfg.srcAddr size
  unfold AtrTable.atrSize AtrTable.base
  rw [bits]
  exact ⟨enabled, congrArg BitVec.toNat field, base⟩

/-- A window of a power of two, of a page or more, translates its own addresses and no others. -/
theorem entry_translate {cfg : AtrConfig} {k : Nat} (page : 12 ≤ k) (below : k < 64)
    (size : cfg.size = BitVec.twoPow 64 k) (converts : cfg.transparent = false)
    (aligned : ¬ cfg.Misaligned) (addr : BitVec 64) :
    cfg.entry.translate addr =
      if (addr - cfg.srcAddr).toNat < cfg.size.toNat then
        some (cfg.trslId, cfg.trslAddr + (addr - cfg.srcAddr))
      else none := by
  have both : cfg.srcAddr &&& (cfg.size - 1) = 0 ∧ cfg.trslAddr &&& (cfg.size - 1) = 0 := by
    unfold AtrConfig.Misaligned at aligned
    simpa [converts] using aligned
  rw [size] at both
  have field : (BitVec.ofNat 6 (k - 1)).toNat = k - 1 := by
    rw [BitVec.toNat_ofNat]
    exact Nat.mod_eq_of_lt (by omega)
  have fits : cfg.atrSize = ((BitVec.ofNat 6 (k - 1)).toNat : Int) := by
    unfold AtrConfig.atrSize
    rw [converts, size, ffs64_twoPow ⟨k, below⟩, field]
    simp
    omega
  obtain ⟨enabled, width, base⟩ := entry_decode fits
  have out : cfg.entry.trsl = cfg.trslAddr := aligned_kept page below both.2
  have whole : k - 1 + 1 = k := by omega
  unfold AtrTable.translate
  rw [enabled, width, base, out, aligned_kept page below both.1, field, whole, size,
    BitVec.toNat_twoPow_of_lt below]
  simp [AtrConfig.entry]

theorem transparent_translate {cfg : AtrConfig} (transparent : cfg.transparent = true)
    (src : cfg.srcAddr = 0) (trsl : cfg.trslAddr = 0) (addr : BitVec 64) :
    cfg.entry.translate addr = some (cfg.trslId, addr) := by
  have fits : cfg.atrSize = ((BitVec.allOnes 6).toNat : Int) := by
    unfold AtrConfig.atrSize
    rw [if_pos transparent]
    rfl
  obtain ⟨enabled, width, base⟩ := entry_decode fits
  have origin : (0 : BitVec 64) &&& ATR_PCIE_WIN0_ADDR_ALGMT = 0 := BitVec.zero_and
  rw [src, origin] at base
  have out : cfg.entry.trsl = 0 := by
    unfold AtrConfig.entry
    rw [trsl]
    exact BitVec.zero_and
  have apart : addr - 0 = addr := BitVec.sub_zero addr
  unfold AtrTable.translate
  have same : 0 + addr = addr := BitVec.zero_add addr
  rw [enabled, width, base, out, apart, same, if_pos ⟨rfl, addr.isLt⟩]
  rfl

end Windows

section Writing

variable (regs : Bank Nat 32)

theorem written_append (first second : List (Access Nat 32)) :
    written regs (first ++ second) = written (written regs first) second := by
  funext reg
  simp only [written, run_regs, editOf_append, andThen_apply]

theorem written_kept {program : List (Access Nat 32)} {reg : Nat}
    (untouched : ∀ a ∈ program, a.reg ≠ reg) : written regs program reg = regs reg :=
  run_untouched _ untouched _

theorem written_one (reg other : Nat) (value : BitVec 32) :
    written regs [write reg value] other = if reg = other then value else regs other := by
  have one := access_regs (fun _ => false) ⟨regs, []⟩ (write reg value) other
  unfold write at one
  rw [put_apply] at one
  exact one

theorem written_lo_hi (value : BitVec 64) (reg : Nat) :
    ioread64 (written regs (iowrite64LoHi value reg)) reg = value := by
  have both : iowrite64LoHi value reg =
      [write reg (value.extractLsb' 0 32)] ++ [write (reg + 4) (value.extractLsb' 32 32)] := rfl
  have apart : ¬ reg + 4 = reg := by omega
  unfold ioread64
  rw [both, written_append, written_one, if_pos rfl, written_one, if_neg apart, written_one, if_pos rfl]
  exact BitVec.extractLsb'_append_extractLsb'

def atrReg (port : AtrSrcPort) (i field : Nat) : Nat :=
  ATR_PCIE_WIN0_T0_ATR_PARAM_SRC_ADDR + atrOffset port i + field

theorem src_reg (port : AtrSrcPort) (i : Nat) :
    ATR_PCIE_WIN0_T0_ATR_PARAM_SRC_ADDR + atrOffset port i = atrReg port i 0 := rfl

theorem trsl_reg (port : AtrSrcPort) (i : Nat) :
    ATR_PCIE_WIN0_T0_TRSL_ADDR + atrOffset port i = atrReg port i 8 := by
  unfold atrReg ATR_PCIE_WIN0_T0_TRSL_ADDR ATR_PCIE_WIN0_T0_ATR_PARAM_SRC_ADDR
  omega

theorem param_reg (port : AtrSrcPort) (i : Nat) :
    ATR_PCIE_WIN0_T0_TRSL_PARAM + atrOffset port i = atrReg port i 16 := by
  unfold atrReg ATR_PCIE_WIN0_T0_TRSL_PARAM ATR_PCIE_WIN0_T0_ATR_PARAM_SRC_ADDR
  omega

theorem atrReg_high (port : AtrSrcPort) (i field : Nat) :
    atrReg port i field + 4 = atrReg port i (field + 4) := rfl

/-- The tables of all ports lie apart. -/
theorem atrReg_inj {port other : AtrSrcPort} {i j field place : Nat} (first : i < ATR_TABLE_NUM_PER_ATR)
    (second : j < ATR_TABLE_NUM_PER_ATR) (inside : field < ATR_TABLE_OFFSET)
    (within : place < ATR_TABLE_OFFSET) (same : atrReg port i field = atrReg other j place) :
    other = port ∧ i = j ∧ field = place := by
  unfold atrReg atrOffset ATR_PORT_OFFSET ATR_TABLE_OFFSET ATR_TABLE_NUM_PER_ATR at *
  have ports : other.value = port.value := by omega
  refine ⟨?_, by omega, by omega⟩
  revert ports
  cases other <;> cases port <;> simp [AtrSrcPort.value]

def WritesTo (port : AtrSrcPort) (places : List Nat) (program : List (Access Nat 32)) : Prop :=
  ∀ a ∈ program, ∃ i ∈ places, ∃ field < ATR_TABLE_OFFSET, a.reg = atrReg port i field

theorem lo_hi_writesTo (value : BitVec 64) (port : AtrSrcPort) (i : Nat) {field : Nat}
    (inside : field + 4 < ATR_TABLE_OFFSET) :
    WritesTo port [i] (iowrite64LoHi value (atrReg port i field)) := by
  intro a member
  unfold iowrite64LoHi at member
  simp only [List.mem_cons, List.not_mem_nil, or_false] at member
  rcases member with rfl | rfl
  · exact ⟨i, List.mem_singleton_self i, field, by omega, rfl⟩
  · exact ⟨i, List.mem_singleton_self i, field + 4, inside, rfl⟩

theorem atrTable_kept {port other : AtrSrcPort} {places : List Nat} {program : List (Access Nat 32)}
    (writes : WritesTo port places program) (few : ∀ i ∈ places, i < ATR_TABLE_NUM_PER_ATR) {j : Nat}
    (below : j < ATR_TABLE_NUM_PER_ATR) (apart : other = port → j ∉ places) :
    atrTable (written regs program) other j = atrTable regs other j := by
  have kept (field : Nat) (inside : field < ATR_TABLE_OFFSET) :
      written regs program (atrReg other j field) = regs (atrReg other j field) := by
    apply written_kept
    intro a member same
    obtain ⟨i, listed, place, within, here⟩ := writes a member
    obtain ⟨rfl, rfl, _⟩ := atrReg_inj (few i listed) below within inside (here.symm.trans same)
    exact apart rfl listed
  unfold atrTable ioread64
  rw [src_reg, trsl_reg, param_reg, atrReg_high, atrReg_high, kept 0 (by decide), kept (0 + 4) (by decide),
    kept 8 (by decide), kept (8 + 4) (by decide), kept 16 (by decide)]

theorem tablesDis_writesTo (port : AtrSrcPort) (places : List Nat) :
    WritesTo port places (places.flatMap fun i =>
      iowrite64LoHi 0 (ATR_PCIE_WIN0_T0_ATR_PARAM_SRC_ADDR + atrOffset port i)) := by
  intro a member
  obtain ⟨i, listed, written⟩ := List.mem_flatMap.mp member
  obtain ⟨j, here, field, inside, reg⟩ := @lo_hi_writesTo 0 port i 0 (by decide) a written
  rw [List.mem_singleton.mp here] at reg
  exact ⟨i, listed, field, inside, reg⟩

theorem disable_table (port : AtrSrcPort) {i : Nat} (below : i < ATR_TABLE_NUM_PER_ATR) :
    atrTable (written regs (iowrite64LoHi 0 (atrReg port i 0))) port i =
      { atrTable regs port i with src := 0 } := by
  have kept (field : Nat) (above : 4 < field) (inside : field < ATR_TABLE_OFFSET) :
      written regs (iowrite64LoHi 0 (atrReg port i 0)) (atrReg port i field) =
        regs (atrReg port i field) := by
    apply written_kept
    intro a member same
    unfold iowrite64LoHi at member
    simp only [List.mem_cons, List.not_mem_nil, or_false] at member
    rcases member with rfl | rfl
    · have places := (atrReg_inj below below (by decide) inside same).2.2
      omega
    · have places := (atrReg_inj below below (show 4 < ATR_TABLE_OFFSET by decide) inside same).2.2
      omega
  unfold atrTable
  rw [src_reg, trsl_reg, param_reg, written_lo_hi]
  unfold ioread64
  rw [atrReg_high, kept 8 (by decide) (by decide), kept (8 + 4) (by decide) (by decide),
    kept 16 (by decide) (by decide)]

theorem disable_tables (port : AtrSrcPort) (places : List Nat)
    (few : ∀ i ∈ places, i < ATR_TABLE_NUM_PER_ATR) {j : Nat} (listed : j ∈ places) :
    (atrTable (written regs (places.flatMap fun i =>
      iowrite64LoHi 0 (ATR_PCIE_WIN0_T0_ATR_PARAM_SRC_ADDR + atrOffset port i))) port j).src = 0 := by
  induction places generalizing regs with
  | nil => cases listed
  | cons i places ih =>
    rw [List.flatMap_cons, written_append]
    have rest (k : Nat) (member : k ∈ places) := few k (List.mem_cons_of_mem i member)
    by_cases again : j ∈ places
    · exact ih _ rest again
    · rcases List.mem_cons.mp listed with rfl | later
      · rw [atrTable_kept _ (tablesDis_writesTo port places) rest (few j listed) fun _ => again,
          src_reg, disable_table regs port (few j listed)]
      · exact absurd later again

theorem tablesDis_src (port other : AtrSrcPort) {j : Nat} (below : j < ATR_TABLE_NUM_PER_ATR)
    (before : other ≠ port → (atrTable regs other j).src = 0) :
    (atrTable (written regs (pcieMacAtrTablesDis port)) other j).src = 0 := by
  have few (i : Nat) (member : i ∈ List.range ATR_TABLE_NUM_PER_ATR) := List.mem_range.mp member
  by_cases same : other = port
  · subst same
    exact disable_tables regs other _ few (List.mem_range.mpr below)
  · unfold pcieMacAtrTablesDis
    rw [atrTable_kept regs (tablesDis_writesTo port _) few below fun equal => absurd equal same]
    exact before same

theorem atrCfg_writesTo (cfg : AtrConfig) : WritesTo cfg.port [cfg.table] (pcieMacAtrCfg cfg).2 := by
  unfold pcieMacAtrCfg
  split
  · intro a member
    cases member
  · dsimp only
    rw [trsl_reg, param_reg, src_reg]
    intro a member
    rcases List.mem_append.mp member with early | source
    · rcases List.mem_append.mp early with target | param
      · exact lo_hi_writesTo _ _ _ (by decide) a target
      · cases List.mem_singleton.mp param
        exact ⟨_, List.mem_singleton_self _, 16, by decide, rfl⟩
    · exact lo_hi_writesTo _ _ _ (by decide) a source

theorem atrCfg_table {cfg : AtrConfig} (aligned : ¬ cfg.Misaligned)
    (below : cfg.table < ATR_TABLE_NUM_PER_ATR) :
    atrTable (written regs (pcieMacAtrCfg cfg).2) cfg.port cfg.table = cfg.entry := by
  have passes {value : BitVec 64} {field place : Nat} (inside : field + 4 < ATR_TABLE_OFFSET)
      (within : place < ATR_TABLE_OFFSET) (apart : place ≠ field ∧ place ≠ field + 4) (before : Bank Nat 32) :
      written before (iowrite64LoHi value (atrReg cfg.port cfg.table field)) (atrReg cfg.port cfg.table place) =
        before (atrReg cfg.port cfg.table place) := by
    apply written_kept
    intro a member same
    unfold iowrite64LoHi at member
    simp only [List.mem_cons, List.not_mem_nil, or_false] at member
    rcases member with rfl | rfl
    · have places := (atrReg_inj below below (by omega) within same).2.2
      omega
    · have places := (atrReg_inj below below inside within same).2.2
      omega
  have param (before : Bank Nat 32) (place : Nat) (within : place < ATR_TABLE_OFFSET) :
      written before [write (atrReg cfg.port cfg.table 16) cfg.trslId] (atrReg cfg.port cfg.table place) =
        if place = 16 then cfg.trslId else before (atrReg cfg.port cfg.table place) := by
    rw [written_one]
    by_cases here : place = 16
    · rw [here, if_pos rfl, if_pos rfl]
    · rw [if_neg here, if_neg]
      intro same
      exact here (atrReg_inj below below (by decide) within same).2.2.symm
  unfold pcieMacAtrCfg
  rw [if_neg aligned]
  unfold atrTable
  dsimp only
  rw [src_reg, trsl_reg, param_reg, written_append, written_append, written_lo_hi]
  unfold AtrConfig.entry
  congr 1
  · unfold ioread64
    rw [atrReg_high, passes (by decide) (by decide) (by decide), passes (by decide) (by decide) (by decide),
      param _ _ (by decide), param _ _ (by decide), if_neg (by decide), if_neg (by decide)]
    exact written_lo_hi regs _ _
  · rw [passes (by decide) (by decide) (by decide), param _ _ (by decide), if_pos rfl]

theorem atrCfg_others (cfg : AtrConfig) (below : cfg.table < ATR_TABLE_NUM_PER_ATR) {other : AtrSrcPort}
    {j : Nat} (inside : j < ATR_TABLE_NUM_PER_ATR) (apart : other = cfg.port → j ≠ cfg.table) :
    atrTable (written regs (pcieMacAtrCfg cfg).2) other j = atrTable regs other j := by
  refine atrTable_kept regs (atrCfg_writesTo cfg) (fun i member => ?_) inside fun same listed => ?_
  · rw [List.mem_singleton.mp member]
    exact below
  · exact apart same (List.mem_singleton.mp listed)

theorem atrCfg_misaligned {cfg : AtrConfig} (misaligned : cfg.Misaligned) :
    written regs (pcieMacAtrCfg cfg).2 = regs := by
  funext reg
  apply written_kept
  unfold pcieMacAtrCfg
  rw [if_pos misaligned]
  exact fun a member => absurd member List.not_mem_nil

end Writing

section Translating

variable {regs : Bank Nat 32} {port : AtrSrcPort}

/-- A port has at most its first table enabled. -/
def OnlyFirst (regs : Bank Nat 32) (port : AtrSrcPort) : Prop :=
  ∀ i < ATR_TABLE_NUM_PER_ATR, i ≠ 0 → (atrTable regs port i).src = 0

def Disabled (regs : Bank Nat 32) (port : AtrSrcPort) : Prop :=
  ∀ i < ATR_TABLE_NUM_PER_ATR, (atrTable regs port i).src = 0

theorem translate_disabled {table : AtrTable} (off : table.src = 0) (addr : BitVec 64) :
    table.translate addr = none := by
  unfold AtrTable.translate
  rw [off, if_neg]
  rintro ⟨on, _⟩
  exact absurd on (by decide)

theorem OnlyFirst.translations (only : OnlyFirst regs port) (addr : BitVec 64) :
    translations regs port addr = ((atrTable regs port 0).translate addr).toList := by
  have range : List.range ATR_TABLE_NUM_PER_ATR = 0 :: (List.range 7).map Nat.succ := rfl
  have rest : ((List.range 7).map Nat.succ).filterMap (fun i => (atrTable regs port i).translate addr) = [] := by
    rw [List.filterMap_eq_nil_iff]
    intro i member
    obtain ⟨j, below, rfl⟩ := List.mem_map.mp member
    have inside := List.mem_range.mp below
    exact translate_disabled (only _ (by unfold ATR_TABLE_NUM_PER_ATR; omega) (Nat.succ_ne_zero j)) addr
  unfold Pci.translations
  rw [range, List.filterMap_cons, rest]
  cases (atrTable regs port 0).translate addr <;> rfl

theorem Disabled.translations (disabled : Disabled regs port) (addr : BitVec 64) :
    Pci.translations regs port addr = [] := by
  have only : OnlyFirst regs port := fun i below _ => disabled i below
  rw [only.translations, translate_disabled (disabled 0 (by decide))]
  rfl

theorem tablesDis_disabled (regs : Bank Nat 32) (port : AtrSrcPort) :
    Disabled (written regs (pcieMacAtrTablesDis port)) port :=
  fun _ below => tablesDis_src regs port port below fun other => absurd rfl other

theorem Disabled.tablesDis (disabled : Disabled regs port) (other : AtrSrcPort) :
    Disabled (written regs (pcieMacAtrTablesDis other)) port :=
  fun i below => tablesDis_src regs other port below fun _ => disabled i below

theorem Disabled.atrCfg (disabled : Disabled regs port) {cfg : AtrConfig} (first : cfg.table = 0)
    (apart : port ≠ cfg.port) : Disabled (written regs (pcieMacAtrCfg cfg).2) port := by
  intro i below
  rw [atrCfg_others regs cfg (by rw [first]; decide) below fun same => absurd same apart]
  exact disabled i below

theorem Disabled.configured {cfg : AtrConfig} (disabled : Disabled regs cfg.port) (first : cfg.table = 0) :
    OnlyFirst (written regs (pcieMacAtrCfg cfg).2) cfg.port := by
  intro i below other
  rw [atrCfg_others regs cfg (by rw [first]; decide) below fun _ => first ▸ other]
  exact disabled i below

theorem translations_kept {after : Bank Nat 32}
    (same : ∀ i < ATR_TABLE_NUM_PER_ATR, atrTable after port i = atrTable regs port i) (addr : BitVec 64) :
    translations after port addr = translations regs port addr := by
  apply List.filterMap_congr
  intro i member
  rw [same i (List.mem_range.mp member)]

theorem Disabled.ports (disabled : Disabled regs port) (ports : List AtrSrcPort) :
    Disabled (written regs (ports.flatMap pcieMacAtrTablesDis)) port := by
  induction ports generalizing regs with
  | nil => exact disabled
  | cons first ports ih =>
    rw [List.flatMap_cons, written_append]
    exact ih (disabled.tablesDis first)

theorem disable_ports (regs : Bank Nat 32) (ports : List AtrSrcPort) {port : AtrSrcPort}
    (listed : port ∈ ports) : Disabled (written regs (ports.flatMap pcieMacAtrTablesDis)) port := by
  induction ports generalizing regs with
  | nil => cases listed
  | cons first ports ih =>
    rw [List.flatMap_cons, written_append]
    rcases List.mem_cons.mp listed with rfl | later
    · exact (tablesDis_disabled regs port).ports ports
    · exact ih _ later

theorem configured_translations {cfg : AtrConfig} (disabled : Disabled regs cfg.port) (first : cfg.table = 0)
    (aligned : ¬ cfg.Misaligned) (addr : BitVec 64) :
    translations (written regs (pcieMacAtrCfg cfg).2) cfg.port addr = (cfg.entry.translate addr).toList := by
  have table := atrCfg_table regs aligned (by rw [first]; decide)
  rw [first] at table
  rw [OnlyFirst.translations (disabled.configured first), table]

theorem dmaPort_translations (regs : Bank Nat 32) (port : AtrSrcPort) (addr : BitVec 64) :
    translations (written regs (pcieMacAtrDmaPort port)) port addr =
      [(ATR_DST_PCI_TRX, addr)] := by
  have aligned : ¬ (dmaConfig port).Misaligned := fun misaligned => nomatch misaligned.1
  have whole := @transparent_translate (dmaConfig port) rfl rfl rfl addr
  rw [pcieMacAtrDmaPort, written_append]
  refine (@configured_translations _ (dmaConfig port) (tablesDis_disabled regs port) rfl aligned addr).trans ?_
  rw [whole]
  rfl

theorem dmaPort_others (regs : Bank Nat 32) {port other : AtrSrcPort} (apart : other ≠ port) (addr : BitVec 64) :
    translations (written regs (pcieMacAtrDmaPort port)) other addr =
      translations regs other addr := by
  apply translations_kept
  intro i below
  have few (j : Nat) (member : j ∈ List.range ATR_TABLE_NUM_PER_ATR) := List.mem_range.mp member
  rw [pcieMacAtrDmaPort, written_append,
    atrCfg_others _ (dmaConfig port) (Nat.zero_lt_succ 7) below fun same => absurd same apart]
  exact atrTable_kept regs (tablesDis_writesTo port _) few below fun same => absurd same apart

/-- Where an address goes once the translation is set up. The registers of the device are behind the
    first window of the host, if the BAR is aligned to its size; the device sees the memory of the host
    through three of its ports as it is, and the other ports lead nowhere. -/
def atrTarget (bar : BitVec 64) (port : AtrSrcPort) (addr : BitVec 64) : List (BitVec 32 × BitVec 64) :=
  match port with
  | .pciWin0 =>
    if bar &&& (T7XX_PCIE_REG_SIZE_CHIP - 1) = 0 ∧ (addr - bar).toNat < T7XX_PCIE_REG_SIZE_CHIP.toNat then
      [(ATR_DST_AXIM_0, T7XX_PCIE_REG_TRSL_ADDR_CHIP.setWidth 64 + (addr - bar))]
    else []
  | .axis0 | .axis1 | .axis2 => [(ATR_DST_PCI_TRX, addr)]
  | .pciWin1 | .axis3 => []

theorem regConfig_misaligned_iff (bar : BitVec 64) :
    (regConfig bar).Misaligned ↔ bar &&& (T7XX_PCIE_REG_SIZE_CHIP - 1) ≠ 0 := by
  have target : T7XX_PCIE_REG_TRSL_ADDR_CHIP.setWidth 64 &&& (T7XX_PCIE_REG_SIZE_CHIP - 1) = 0 := by decide
  unfold AtrConfig.Misaligned regConfig
  dsimp only
  rw [target]
  simp

theorem regPort_translations {regs : Bank Nat 32} (disabled : Disabled regs .pciWin0)
    (bar addr : BitVec 64) :
    translations (written regs (pcieMacAtrCfg (regConfig bar)).2) .pciWin0 addr =
      atrTarget bar .pciWin0 addr := by
  unfold atrTarget
  by_cases misaligned : (regConfig bar).Misaligned
  · have off := (regConfig_misaligned_iff bar).mp misaligned
    rw [atrCfg_misaligned regs misaligned, Disabled.translations disabled, if_neg fun both => off both.1]
  · have aligned : bar &&& (T7XX_PCIE_REG_SIZE_CHIP - 1) = 0 :=
      not_not.mp fun off => misaligned ((regConfig_misaligned_iff bar).mpr off)
    have size : T7XX_PCIE_REG_SIZE_CHIP = BitVec.twoPow 64 22 := by decide
    have window : (regConfig bar).entry.translate addr =
        if (addr - bar).toNat < T7XX_PCIE_REG_SIZE_CHIP.toNat then
          some (ATR_DST_AXIM_0, T7XX_PCIE_REG_TRSL_ADDR_CHIP.setWidth 64 + (addr - bar))
        else none :=
      @entry_translate (regConfig bar) 22 (by decide) (by decide) size rfl misaligned addr
    refine (@configured_translations regs (regConfig bar) disabled rfl misaligned addr).trans ?_
    rw [window]
    by_cases inside : (addr - bar).toNat < T7XX_PCIE_REG_SIZE_CHIP.toNat
    · rw [if_pos inside, if_pos ⟨aligned, inside⟩]
      rfl
    · rw [if_neg inside, if_neg fun both => inside both.2]
      rfl

theorem atrInit_translations (regs : Bank Nat 32) (bar : BitVec 64) (port : AtrSrcPort) (addr : BitVec 64) :
    translations (written regs (pcieMacAtrInit bar)) port addr = atrTarget bar port addr := by
  have off := @disable_ports regs [.pciWin0, .pciWin1, .axis0, .axis1, .axis2, .axis3] port (by
    cases port <;> decide)
  have cleared := off.tablesDis .pciWin0
  have split : [AtrSrcPort.axis0, .axis1, .axis2].flatMap pcieMacAtrDmaPort =
      pcieMacAtrDmaPort .axis0 ++ (pcieMacAtrDmaPort .axis1 ++ pcieMacAtrDmaPort .axis2) := rfl
  unfold pcieMacAtrInit
  rw [split, written_append, written_append, written_append, written_append, written_append]
  -- Only the last program that is about a port has a say in it.
  cases port with
  | pciWin0 =>
    rw [dmaPort_others _ (by decide), dmaPort_others _ (by decide), dmaPort_others _ (by decide)]
    exact regPort_translations cleared bar addr
  | axis0 =>
    rw [dmaPort_others _ (by decide), dmaPort_others _ (by decide)]
    exact dmaPort_translations _ .axis0 addr
  | axis1 =>
    rw [dmaPort_others _ (by decide)]
    exact dmaPort_translations _ .axis1 addr
  | axis2 => exact dmaPort_translations _ .axis2 addr
  | pciWin1 | axis3 =>
    rw [dmaPort_others _ (by decide), dmaPort_others _ (by decide), dmaPort_others _ (by decide)]
    exact (@Disabled.atrCfg _ _ cleared (regConfig bar) rfl nofun).translations addr

end Translating

section Registers

def INFRACFG_AO_DEV_CHIP : BitVec 32 := 0x10001000
def MHCCIF_RC_DEV_BASE : BitVec 32 := 0x10024000
def TOPRGU_CH_PCIE_IRQ_STA : BitVec 32 := 0x1000790c
def CLDMA0_AO_BASE : BitVec 32 := 0x10049000
def CLDMA0_PD_BASE : BitVec 32 := 0x1021d000
def CLDMA1_AO_BASE : BitVec 32 := 0x1004b000
def CLDMA1_PD_BASE : BitVec 32 := 0x1021f000
def DPMAIF_PD_BASE : BitVec 32 := 0x1022d000
def DPMAIF_AO_BASE : BitVec 32 := 0x10014000

/-- `struct t7xx_addr_base` as far as `t7xx_pci_probe` and `t7xx_pcie_mac_atr_init` set it. -/
structure AddrBase where
  pcieExtRegBase : BitVec 64
  pcieDevRegTrslAddr : BitVec 32

/-- `t7xx_pcie_addr_transfer`, and what `t7xx_pci_infracfg_ao_calc`, `t7xx_mhccif_init` and
    `t7xx_clr_device_irq_via_pcie` do with an address of the device. -/
def pcieAddrTransfer (addr : BitVec 64) (addrTrs1 phyAddr : BitVec 32) : BitVec 64 :=
  addr + phyAddr.setWidth 64 - addrTrs1.setWidth 64

/-- `hw_info.pcie_base`, which DPMAIF adds the addresses of its registers to. -/
def dpmaifPcieBase (pbase : AddrBase) : BitVec 64 :=
  pbase.pcieExtRegBase - pbase.pcieDevRegTrslAddr.setWidth 64

/-- The register blocks of the device that the driver accesses, with the pointers it computes. -/
def registerBlocks (pbase : AddrBase) : List (BitVec 64 × BitVec 32) :=
  let transferred := [INFRACFG_AO_DEV_CHIP, MHCCIF_RC_DEV_BASE, TOPRGU_CH_PCIE_IRQ_STA, CLDMA0_AO_BASE,
    CLDMA0_PD_BASE, CLDMA1_AO_BASE, CLDMA1_PD_BASE]
  let added := [DPMAIF_PD_BASE, DPMAIF_AO_BASE]
  (transferred.map fun phy => (pcieAddrTransfer pbase.pcieExtRegBase pbase.pcieDevRegTrslAddr phy, phy)) ++
    added.map fun phy => (dpmaifPcieBase pbase + phy.setWidth 64, phy)

/-- Where an access of the host to the mapped BAR goes. -/
def hostAccess (regs : Bank Nat 32) (pbase : AddrBase) (bar pointer : BitVec 64) :
    List (BitVec 32 × BitVec 64) :=
  translations regs .pciWin0 (bar + (pointer - pbase.pcieExtRegBase))

theorem registerBlocks_pointer {pbase : AddrBase} {pointer : BitVec 64} {phy : BitVec 32}
    (listed : (pointer, phy) ∈ registerBlocks pbase) :
    pointer = pbase.pcieExtRegBase + (phy.setWidth 64 - pbase.pcieDevRegTrslAddr.setWidth 64) ∧
      T7XX_PCIE_REG_TRSL_ADDR_CHIP.toNat ≤ phy.toNat := by
  have blocks : ∀ block ∈ [INFRACFG_AO_DEV_CHIP, MHCCIF_RC_DEV_BASE, TOPRGU_CH_PCIE_IRQ_STA, CLDMA0_AO_BASE,
      CLDMA0_PD_BASE, CLDMA1_AO_BASE, CLDMA1_PD_BASE], T7XX_PCIE_REG_TRSL_ADDR_CHIP.toNat ≤ block.toNat := by
    simp [T7XX_PCIE_REG_TRSL_ADDR_CHIP, INFRACFG_AO_DEV_CHIP, MHCCIF_RC_DEV_BASE, TOPRGU_CH_PCIE_IRQ_STA,
      CLDMA0_AO_BASE, CLDMA0_PD_BASE, CLDMA1_AO_BASE, CLDMA1_PD_BASE]
  have dpmaif : ∀ block ∈ [DPMAIF_PD_BASE, DPMAIF_AO_BASE],
      T7XX_PCIE_REG_TRSL_ADDR_CHIP.toNat ≤ block.toNat := by
    simp [T7XX_PCIE_REG_TRSL_ADDR_CHIP, DPMAIF_PD_BASE, DPMAIF_AO_BASE]
  unfold registerBlocks at listed
  rcases List.mem_append.mp listed with transferred | added
  · obtain ⟨block, member, same⟩ := List.mem_map.mp transferred
    cases same
    refine ⟨?_, blocks phy member⟩
    unfold pcieAddrTransfer
    abel
  · obtain ⟨block, member, same⟩ := List.mem_map.mp added
    cases same
    refine ⟨?_, dpmaif phy member⟩
    unfold dpmaifPcieBase
    abel

/-- An offset from a pointer of the driver is that offset from the block of the device. -/
theorem block_reached {pbase : AddrBase} (bar : BitVec 64)
    (chip : pbase.pcieDevRegTrslAddr = T7XX_PCIE_REG_TRSL_ADDR_CHIP)
    (aligned : bar &&& (T7XX_PCIE_REG_SIZE_CHIP - 1) = 0) {pointer : BitVec 64} {phy : BitVec 32}
    (listed : (pointer, phy) ∈ registerBlocks pbase) (offset : BitVec 64)
    (inside : phy.toNat + offset.toNat <
      T7XX_PCIE_REG_TRSL_ADDR_CHIP.toNat + T7XX_PCIE_REG_SIZE_CHIP.toNat) :
    atrTarget bar .pciWin0 (bar + (pointer + offset - pbase.pcieExtRegBase)) =
      [(ATR_DST_AXIM_0, phy.setWidth 64 + offset)] := by
  obtain ⟨rfl, above⟩ := registerBlocks_pointer listed
  rw [chip]
  have apart : bar + (pbase.pcieExtRegBase +
      (phy.setWidth 64 - T7XX_PCIE_REG_TRSL_ADDR_CHIP.setWidth 64) + offset - pbase.pcieExtRegBase) - bar =
        phy.setWidth 64 - T7XX_PCIE_REG_TRSL_ADDR_CHIP.setWidth 64 + offset := by abel
  have within : (phy.setWidth 64 - T7XX_PCIE_REG_TRSL_ADDR_CHIP.setWidth 64 + offset).toNat <
      T7XX_PCIE_REG_SIZE_CHIP.toNat := by
    unfold T7XX_PCIE_REG_TRSL_ADDR_CHIP T7XX_PCIE_REG_SIZE_CHIP at *
    bv_omega
  have whole : T7XX_PCIE_REG_TRSL_ADDR_CHIP.setWidth 64 +
      (phy.setWidth 64 - T7XX_PCIE_REG_TRSL_ADDR_CHIP.setWidth 64 + offset) = phy.setWidth 64 + offset := by
    abel
  unfold atrTarget
  rw [apart, if_pos ⟨aligned, within⟩, whole]

/-- Whatever the registers held, each port translates every address as it should and in one way; every
    register of the device that the driver has a pointer to is the one it accesses. -/
theorem atrInit_set_up (regs : Bank Nat 32) (bar : BitVec 64) :
    (∀ port addr, translations (written regs (pcieMacAtrInit bar)) port addr = atrTarget bar port addr) ∧
      ∀ pbase : AddrBase, pbase.pcieDevRegTrslAddr = T7XX_PCIE_REG_TRSL_ADDR_CHIP →
        bar &&& (T7XX_PCIE_REG_SIZE_CHIP - 1) = 0 → ∀ pointer phy, (pointer, phy) ∈ registerBlocks pbase →
          ∀ offset : BitVec 64, phy.toNat + offset.toNat <
              T7XX_PCIE_REG_TRSL_ADDR_CHIP.toNat + T7XX_PCIE_REG_SIZE_CHIP.toNat →
            hostAccess (written regs (pcieMacAtrInit bar)) pbase bar (pointer + offset) =
              [(ATR_DST_AXIM_0, phy.setWidth 64 + offset)] := by
  refine ⟨atrInit_translations regs bar, fun pbase chip aligned pointer phy listed offset inside => ?_⟩
  unfold hostAccess
  rw [atrInit_translations]
  exact block_reached bar chip aligned listed offset inside

/-- The BAR lies at 0xf0000000, and a register of MHCCIF is read through the mapping at 0xb00000. -/
theorem atrInit_set_up_aligned :
    hostAccess (written (fun _ => 0) (pcieMacAtrInit 0xf0000000)) ⟨0xb00000, T7XX_PCIE_REG_TRSL_ADDR_CHIP⟩
        0xf0000000 (pcieAddrTransfer 0xb00000 T7XX_PCIE_REG_TRSL_ADDR_CHIP MHCCIF_RC_DEV_BASE + 0x18) =
      [(ATR_DST_AXIM_0, MHCCIF_RC_DEV_BASE.setWidth 64 + 0x18)] := by
  have listed : (pcieAddrTransfer 0xb00000 T7XX_PCIE_REG_TRSL_ADDR_CHIP MHCCIF_RC_DEV_BASE, MHCCIF_RC_DEV_BASE) ∈
      registerBlocks ⟨0xb00000, T7XX_PCIE_REG_TRSL_ADDR_CHIP⟩ := by
    simp [registerBlocks]
  exact (atrInit_set_up (fun _ => 0) 0xf0000000).2 ⟨0xb00000, T7XX_PCIE_REG_TRSL_ADDR_CHIP⟩ rfl
    (by decide) _ _ listed 0x18 (by decide)

end Registers

end T7xxModel.Pci
