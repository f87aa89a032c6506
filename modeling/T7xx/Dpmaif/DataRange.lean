import T7xx.Dpmaif.RxStart
import T7xx.Format.Words

namespace T7xxModel.Dpmaif

/-- `struct sk_buff`: `data` as its distance from `head`, and the offsets `tail` and `end`. -/
structure RxSkBuff where
  data : BitVec 64
  tail : BitVec 32
  tailEnd : BitVec 32
  len : BitVec 32
deriving DecidableEq, Repr

/-- `struct dpmaif_bat_skb` of a slot with an skb, whose mapping lies in the address space. -/
structure BatSkb where
  skb : RxSkBuff
  dataBusAddr : BitVec 64
  dataLen : Nat
  mapped : dataBusAddr.toNat + dataLen < 2^64

/-- `struct dpmaif_bat_page`; a page is known by a number. The fragment lies in its page. -/
structure BatPage where
  page : Option Nat
  dataBusAddr : BitVec 64
  offset : BitVec 32
  dataLen : Nat
  mapped : dataBusAddr.toNat + dataLen < 2^64
  inPage : offset.toNat + dataLen < 2^31

structure SkbFrag where
  page : Nat
  offset : BitVec 32
  size : Nat
  truesize : Nat
deriving DecidableEq, Repr

section Source

def skbResetTailPointer (skb : RxSkBuff) : RxSkBuff := { skb with tail := skb.data.setWidth 32 }

def skbReserve (len : BitVec 32) (skb : RxSkBuff) : RxSkBuff :=
  { skb with data := skb.data + len.signExtend 64, tail := skb.tail + len }

def skbPut (len : BitVec 32) (skb : RxSkBuff) : RxSkBuff :=
  { skb with tail := skb.tail + len, len := skb.len + len }

def dataOffset (pit : DpmaifPit) (dataBaseAddr : BitVec 64) : BitVec 32 :=
  (pit.dataBusAddr - dataBaseAddr).setWidth 32

/-- `t7xx_dpmaif_set_data_to_skb`: the slot, `cur_skb` if the data were taken, and the result. -/
def setDataToSkb (pit : DpmaifPit) (slot : BatSkb) : Option BatSkb × Option RxSkBuff × Int :=
  let dataLen := BitVec.ofNat 32 pit.dataLen
  let skb := skbReserve (dataOffset pit slot.dataBusAddr) (skbResetTailPointer { slot.skb with len := 0 })
  if skb.tailEnd < skb.tail + dataLen then (some { slot with skb }, none, -ENOBUFS)
  else (none, some (skbPut dataLen skb), 0)

def setFragToSkb (pit : DpmaifPit) (slot : BatPage) : BatPage × Option SkbFrag × Int :=
  match slot.page with
  | none => (slot, none, -EINVAL)
  | some page =>
    let offset := dataOffset pit slot.dataBusAddr + slot.offset
    ({ slot with
        page := none, offset := 0, dataLen := 0
        mapped := Nat.lt_of_le_of_lt (Nat.le_add_right _ _) slot.mapped
        inPage := by decide },
      some ⟨page, offset, pit.dataLen, slot.dataLen⟩, 0)

end Source

section Contract

def DpmaifPit.Inside (pit : DpmaifPit) (base len : Nat) : Prop :=
  base ≤ pit.dataBusAddr.toNat ∧ pit.dataBusAddr.toNat + pit.dataLen ≤ base + len

instance (pit : DpmaifPit) (base len : Nat) : Decidable (pit.Inside base len) :=
  inferInstanceAs (Decidable (_ ∧ _))

def DpmaifPit.distance (pit : DpmaifPit) (base : BitVec 64) : Nat := (pit.dataBusAddr - base).toNat

def BatSkb.reach (slot : BatSkb) (pit : DpmaifPit) : Nat :=
  (slot.skb.data.setWidth 32).toNat + pit.distance slot.dataBusAddr + pit.dataLen

/-- Data that are taken lie in the mapped range, and no offset wrapped around. -/
def DataInside (pit : DpmaifPit) (slot : BatSkb) : Prop :=
  (setDataToSkb pit slot).2.2 = 0 →
    pit.Inside slot.dataBusAddr.toNat slot.dataLen ∧ slot.reach pit < 2^32

instance (pit : DpmaifPit) (slot : BatSkb) : Decidable (DataInside pit slot) :=
  inferInstanceAs (Decidable (_ → _ ∧ _))

def FragInside (pit : DpmaifPit) (slot : BatPage) : Prop :=
  ∀ frag ∈ (setFragToSkb pit slot).2.1,
    pit.Inside slot.dataBusAddr.toNat slot.dataLen ∧
      frag.offset.toInt = pit.distance slot.dataBusAddr + slot.offset.toNat

/-- The end of the data fits the width of `tail` and is in the mapped part or beyond the skb, or what
    the width leaves of it is beyond the skb. -/
def ReachBounded (pit : DpmaifPit) (slot : BatSkb) : Prop :=
  if slot.reach pit < 2^32 then
    pit.distance slot.dataBusAddr + pit.dataLen ≤ slot.dataLen ∨ slot.skb.tailEnd.toNat < slot.reach pit
  else slot.skb.tailEnd.toNat < slot.reach pit % 2^32

def FragBounded (pit : DpmaifPit) (slot : BatPage) : Prop :=
  slot.page ≠ none → pit.distance slot.dataBusAddr + pit.dataLen ≤ slot.dataLen

end Contract

section Ranges

variable {pit : DpmaifPit}

theorem dataLen_lt (pit : DpmaifPit) : pit.dataLen < 2^16 := (pit.header.extractLsb 31 16).isLt

theorem inside_iff {base : BitVec 64} {len : Nat} (mapped : base.toNat + len < 2^64) :
    pit.Inside base.toNat len ↔ pit.distance base + pit.dataLen ≤ len := by
  have addr := pit.dataBusAddr.isLt
  unfold DpmaifPit.Inside DpmaifPit.distance
  rw [BitVec.toNat_sub]
  omega

theorem setDataToSkb_taken (slot : BatSkb) :
    (setDataToSkb pit slot).2.2 = 0 ↔ slot.reach pit % 2^32 ≤ slot.skb.tailEnd.toNat := by
  have short := dataLen_lt pit
  have tail : ((slot.skb.data.setWidth 32 + dataOffset pit slot.dataBusAddr) +
      BitVec.ofNat 32 pit.dataLen).toNat = slot.reach pit % 2^32 := by
    unfold BatSkb.reach DpmaifPit.distance dataOffset
    simp only [BitVec.toNat_add, BitVec.toNat_setWidth, BitVec.toNat_ofNat]
    omega
  unfold setDataToSkb
  dsimp only [skbReserve, skbResetTailPointer]
  split
  · rename_i full
    rw [BitVec.lt_def, tail] at full
    exact ⟨fun taken => absurd taken (by show -ENOBUFS ≠ 0; decide), fun fits => by omega⟩
  · rename_i fits
    rw [BitVec.lt_def, tail] at fits
    exact ⟨fun _ => Nat.not_lt.mp fits, fun _ => rfl⟩

theorem dataInside_iff (slot : BatSkb) : DataInside pit slot ↔ ReachBounded pit slot := by
  unfold DataInside ReachBounded
  rw [setDataToSkb_taken, inside_iff slot.mapped]
  split
  · rename_i small
    rw [Nat.mod_eq_of_lt small]
    omega
  · omega

theorem fragInside_iff (slot : BatPage) : FragInside pit slot ↔ FragBounded pit slot := by
  have mapped := @inside_iff pit _ _ slot.mapped
  have inPage := slot.inPage
  unfold FragInside FragBounded setFragToSkb
  cases page : slot.page with
  | none => exact ⟨fun _ present => absurd rfl present, fun _ => nofun⟩
  | some page =>
    simp only [Option.mem_def, Option.some.injEq, forall_eq', mapped]
    refine ⟨fun inside _ => inside.1, fun bounded => ?_⟩
    have within := bounded nofun
    refine ⟨within, ?_⟩
    have near : pit.distance slot.dataBusAddr + slot.offset.toNat < 2^31 := by omega
    have offset : (dataOffset pit slot.dataBusAddr + slot.offset).toNat =
        pit.distance slot.dataBusAddr + slot.offset.toNat := by
      unfold dataOffset
      rw [BitVec.toNat_add, BitVec.toNat_setWidth]
      change ((pit.distance slot.dataBusAddr) % 2^32 + slot.offset.toNat) % 2^32 = _
      omega
    rw [BitVec.toInt_eq_toNat_cond, offset]
    omega

/-- What the receive path takes lies in its mapped buffer exactly for these entries. -/
theorem accepted_inside_iff (pit : DpmaifPit) :
    (∀ slot : BatSkb, DataInside pit slot ↔ ReachBounded pit slot) ∧
      ∀ slot : BatPage, FragInside pit slot ↔ FragBounded pit slot :=
  ⟨dataInside_iff, fragInside_iff⟩

def postedSkb : BatSkb := ⟨⟨64, 64, 3776, 0⟩, 4096, 3584, by decide⟩

def postedPage : BatPage := ⟨some 0, 4096, 0, 128, by decide, by decide⟩

/-- 100 bytes at an address that is 4 GiB above `addr`. -/
def farAbove (addr : BitVec 32) : DpmaifPit := ⟨100 <<< 16, addr, 1, 0⟩

theorem far_data_accepted :
    ¬ DataInside (farAbove 4096) postedSkb ∧ ¬ FragInside (farAbove 4096) postedPage := by
  refine ⟨by decide, fun inside => ?_⟩
  exact absurd (inside _ rfl).1 (by decide)

/-- `rx_start` asks the same of an entry when its slot has this skb. -/
theorem dataFits_iff {bat : Bat} {entry : RxEntry} {slot : BatSkb}
    (posted : bat.batSkb entry.pit.normalPitBid = some slot.dataBusAddr.toNat)
    (room : entry.room = ⟨slot.skb.data.setWidth 32, slot.skb.tailEnd⟩) :
    dataFits bat entry = true ↔ (setDataToSkb entry.pit slot).2.2 = 0 := by
  have base : BitVec.ofNat 64 ((bat.batSkb entry.pit.normalPitBid).getD 0) = slot.dataBusAddr := by
    rw [posted]
    exact BitVec.ofNat_toNat 64 slot.dataBusAddr
  unfold dataFits setDataToSkb
  rw [base, room]
  dsimp only [skbReserve, skbResetTailPointer, dataOffset]
  split
  · rename_i full
    simp only [decide_eq_true full, Bool.not_true, Bool.false_eq_true, false_iff]
    show -ENOBUFS ≠ 0
    decide
  · rename_i fits
    simp [fits]

end Ranges

section FragCheck

variable (ptr : Nat → BitVec 64)

def BatPage.pointer (slot : BatPage) : BitVec 64 := (slot.page.map ptr).getD 0

/-- The members of `struct dpmaif_bat_page` in memory. -/
def BatPage.byte (slot : BatPage) (i : Nat) : BitVec 8 :=
  if i < 8 then (slot.pointer ptr).extractLsb' (8 * i) 8
  else if i < 16 then slot.dataBusAddr.extractLsb' (8 * (i - 8)) 8
  else if i < 20 then slot.offset.extractLsb' (8 * (i - 16)) 8
  else (BitVec.ofNat 32 slot.dataLen).extractLsb' (8 * (i - 20)) 8

def fragTableByte (table : Nat → BatPage) (i : Nat) : BitVec 8 :=
  (table (i / batPageSize)).byte ptr (i % batPageSize)

/-- What `t7xx_frag_bat_cur_bid_check` finds at the byte offset `curBid` of the table. -/
def fragWord (table : Nat → BatPage) (curBid : Nat) : BitVec 64 :=
  Words.load (fragTableByte ptr table) (curBid + 4) ++ Words.load (fragTableByte ptr table) curBid

variable {ptr} {table : Nat → BatPage} {k : Nat}

theorem fragTableByte_entry (k : Nat) {i : Nat} (inside : i < batPageSize) :
    fragTableByte ptr table (batPageSize * k + i) = (table k).byte ptr i := by
  unfold fragTableByte
  rw [Nat.mul_add_div (by decide), Nat.div_eq_of_lt inside, Nat.mul_add_mod, Nat.mod_eq_of_lt inside,
    Nat.add_zero]

theorem load_entry {w : Nat} (member : BitVec w) (at_ place : Nat) (inside : at_ + 4 ≤ batPageSize)
    (bytes : ∀ i < 4, (table k).byte ptr (at_ + i) = member.extractLsb' (8 * (place + i)) 8) :
    Words.load (fragTableByte ptr table) (batPageSize * k + at_) = member.extractLsb' (8 * place) 32 := by
  rw [← Words.load_extract member place]
  refine Words.load_congr fun i below => ?_
  rw [Nat.add_assoc, fragTableByte_entry k (by omega)]
  exact bytes i below

theorem fragWord_page (k : Nat) : fragWord ptr table (batPageSize * k) = (table k).pointer ptr := by
  have low := @load_entry ptr table k _ ((table k).pointer ptr) 0 0 (by decide)
    fun i below => by
      rw [Nat.zero_add]
      exact if_pos (by omega)
  have high := @load_entry ptr table k _ ((table k).pointer ptr) 4 4 (by decide)
    fun i below => if_pos (by omega)
  rw [Nat.add_zero] at low
  unfold fragWord
  rw [high, low]
  exact @BitVec.extractLsb'_append_extractLsb' 32 32 ((table k).pointer ptr)

theorem fragWord_sizes (k : Nat) :
    fragWord ptr table (batPageSize * k + 16) = BitVec.ofNat 32 (table k).dataLen ++ (table k).offset := by
  have low := @load_entry ptr table k _ (table k).offset 16 0 (by decide)
    fun i below => by
      rw [BatPage.byte, if_neg (by omega), if_neg (by omega), if_pos (by omega), Nat.add_sub_cancel_left,
        Nat.zero_add]
  have high := @load_entry ptr table k _ (BitVec.ofNat 32 (table k).dataLen) 20 0
    (by decide) fun i below => by
      rw [BatPage.byte, if_neg (by omega), if_neg (by omega), if_neg (by omega), Nat.add_sub_cancel_left,
        Nat.zero_add]
  unfold fragWord
  rw [show batPageSize * k + 16 + 4 = batPageSize * k + 20 from Nat.add_assoc .., high, low,
    BitVec.extractLsb'_eq_self, BitVec.extractLsb'_eq_self]

/-- Once fragment `k` is taken, the buffer ids `24 * k` and `24 * k + 16` are refused whatever is posted
    under them. -/
theorem taken_fragment_refuses {pit : DpmaifPit} {entry : RxEntry} (s : RxSide)
    (held : (table k).page ≠ none)
    (named : entry.pit.normalPitBid = batPageSize * k ∨ entry.pit.normalPitBid = batPageSize * k + 16)
    (found : entry.fragWord = fragWord ptr (Function.update table k (setFragToSkb pit (table k)).1)
      entry.pit.normalPitBid) :
    (rxGetFrag entry s).2 = -EINVAL ∧ (rxGetFrag entry s).1.frag = s.frag := by
  obtain ⟨page, some_⟩ := Option.ne_none_iff_exists'.mp held
  have zero : entry.fragWord = 0 := by
    rw [found]
    rcases named with pageBid | sizeBid
    · rw [pageBid, fragWord_page, Function.update_self]
      simp [setFragToSkb, some_, BatPage.pointer]
    · rw [sizeBid, fragWord_sizes, Function.update_self]
      simp [setFragToSkb, some_]
  have refused : fragBatCurBidCheck entry.pit.normalPitBid entry.fragWord = false := by
    rw [zero]
    exact Bool.and_false _
  unfold rxGetFrag
  dsimp only
  rw [if_pos refused]
  exact ⟨rfl, rfl⟩

end FragCheck

end T7xxModel.Dpmaif
