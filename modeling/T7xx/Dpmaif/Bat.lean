import Mathlib.Logic.Function.Basic
import T7xx.Kernel.Errno
import T7xx.Ring.Slots

namespace T7xxModel.Dpmaif

inductive DpmaifState where
  | min
  | pwroff
  | pwron
deriving DecidableEq, Repr

inductive RdWr where
  | read
  | write
deriving DecidableEq, Repr

def ringBufGetNextWrIdx (bufLen bufIdx : Nat) : Nat :=
  if bufIdx + 1 < bufLen then bufIdx + 1 else 0

/-- `t7xx_ring_buf_rd_wr_count`; the indices stay far below the range of `int`. -/
def ringBufRdWrCount (totalCnt rdIdx wrIdx : Nat) (rdWr : RdWr) : Nat :=
  let pktCnt : Int := match rdWr with
    | .read => (wrIdx : Int) - rdIdx
    | .write => (rdIdx : Int) - wrIdx - 1
  (if pktCnt < 0 then pktCnt + totalCnt else pktCnt).toNat

theorem ringBufGetNextWrIdx_eq (bufLen bufIdx : Nat) :
    ringBufGetNextWrIdx bufLen bufIdx = Ring.next bufLen bufIdx := rfl

theorem ringBufGetNextWrIdx_mod {bufLen : Nat} (a : Nat) (pos : 0 < bufLen) :
    ringBufGetNextWrIdx bufLen (a % bufLen) = (a + 1) % bufLen := Ring.next_mod a pos

theorem ringBufRdWrCount_read (totalCnt rdIdx wrIdx : Nat) :
    ringBufRdWrCount totalCnt rdIdx wrIdx .read = Ring.distance totalCnt rdIdx wrIdx := by
  simp only [ringBufRdWrCount, Ring.distance]
  split <;> split <;> omega

theorem ringBufRdWrCount_write (totalCnt rdIdx wrIdx : Nat) (first : rdIdx < totalCnt)
    (second : wrIdx < totalCnt) :
    ringBufRdWrCount totalCnt rdIdx wrIdx .write = totalCnt - 1 - Ring.distance totalCnt rdIdx wrIdx := by
  simp only [ringBufRdWrCount, Ring.distance]
  split <;> split <;> omega

def DPMAIF_BAT_COUNT : Nat := 8192
def DPMAIF_FRG_COUNT : Nat := 4814
def DPMAIF_BAT_CNT_THRESHOLD : Nat := 30
def DPMAIF_RXQ_NUM : Int := 2

inductive BatType where
  | normal
  | frag
deriving DecidableEq, Repr

/-- `struct dpmaif_bat_request`. A buffer, an skb or a page, is known by its bus address; `freed`
    says that `bat_bitmap` and `bat_base` have been given back. -/
structure Bat where
  batSizeCnt : Nat
  batWrIdx : Nat
  batReleaseRdIdx : Nat
  batBase : Nat → Nat
  batSkb : Nat → Option Nat
  batBitmap : Nat → Bool
  refcnt : Int
  freed : Bool

/-- `t7xx_dpmaif_bat_alloc` and the references that the RX queues take. -/
def batAlloc : BatType → Bat
  | .normal => ⟨DPMAIF_BAT_COUNT, 0, 0, fun _ => 0, fun _ => none, fun _ => false, DPMAIF_RXQ_NUM, false⟩
  | .frag => ⟨DPMAIF_FRG_COUNT, 0, 0, fun _ => 0, fun _ => none, fun _ => false, DPMAIF_RXQ_NUM, false⟩

def Bat.wrap (bat : Bat) (idx : Nat) : Nat :=
  if bat.batSizeCnt ≤ idx then idx - bat.batSizeCnt else idx

def Bat.post (bat : Bat) (idx addr : Nat) : Bat :=
  { bat with
    batSkb := Function.update bat.batSkb idx (some addr)
    batBase := Function.update bat.batBase idx addr }

/-- `t7xx_unmap_bat_skb` and `t7xx_unmap_bat_page` -/
def unmapBatBuf (idx : Nat) (bat : Bat) : Bat :=
  { bat with batSkb := Function.update bat.batSkb idx none }

def updateBatWrIdx (queStarted : Bool) (batCnt : Nat) (bat : Bat) : Bat × Int :=
  let oldRlIdx := bat.batReleaseRdIdx
  let oldWrIdx := bat.batWrIdx
  let newWrIdx := oldWrIdx + batCnt
  if queStarted = false then (bat, -EINVAL)
  else if oldWrIdx < oldRlIdx ∧ oldRlIdx ≤ newWrIdx then (bat, -EINVAL)
  else if bat.batSizeCnt ≤ newWrIdx then
    if oldRlIdx ≤ newWrIdx - bat.batSizeCnt then (bat, -EINVAL)
    else ({ bat with batWrIdx := newWrIdx - bat.batSizeCnt }, 0)
  else ({ bat with batWrIdx := newWrIdx }, 0)

/-- The loop that fills entries from `start` on, and how many it filled. An entry that has a buffer
    keeps it; round `i` allocates `allocs i`, or ends the loop. -/
def fillBat (allocs : Nat → Option Nat) (start : Nat) : (rounds i : Nat) → Bat → Bat × Nat
  | 0, i, bat => (bat, i)
  | rounds + 1, i, bat =>
    let cur := bat.wrap (start + i)
    match bat.batSkb cur with
    | some addr => fillBat allocs start rounds (i + 1) (bat.post cur addr)
    | none =>
      match allocs i with
      | none => (bat, i)
      | some addr => fillBat allocs start rounds (i + 1) (bat.post cur addr)

/-- The `err_unmap_skbs` loop: it counts down from entry `i - 1`, wherever the filling started. -/
def unmapFirst : Nat → Bat → Bat
  | 0, bat => bat
  | i + 1, bat => unmapFirst i (unmapBatBuf i bat)

/-- What the hardware answers to a count of new entries: the result of `dl_snd_hw_bat_cnt` and the
    write index it then reports. -/
structure HwBatAnswer where
  sent : Int
  wrIdx : Nat
deriving DecidableEq, Repr

/-- `t7xx_dpmaif_rx_buf_alloc`; the initial filling does not tell the hardware. -/
def rxBufAlloc (allocs : Nat → Option Nat) (queStarted : Bool) (hw : Option HwBatAnswer)
    (bufCnt : Nat) (bat : Bat) : Bat × Int :=
  if bufCnt = 0 ∨ bat.batSizeCnt < bufCnt then (bat, -EINVAL)
  else if ringBufRdWrCount bat.batSizeCnt bat.batReleaseRdIdx bat.batWrIdx .write < bufCnt then
    (bat, -ENOMEM)
  else
    let (filled, i) := fillBat allocs bat.batWrIdx bufCnt 0 bat
    if i = 0 then (filled, -ENOMEM)
    else
      let (posted, ret) := updateBatWrIdx queStarted i filled
      if ret ≠ 0 then (unmapFirst i posted, ret)
      else match hw with
        | none => (posted, 0)
        | some answer =>
          if answer.sent ≠ 0 then (unmapFirst i posted, answer.sent)
          else if answer.wrIdx ≠ posted.batWrIdx then (unmapFirst i posted, -EFAULT)
          else (posted, 0)

/-- The `while (--i > 0)` loop of `t7xx_dpmaif_rx_frag_alloc`: entry 0 keeps its page. -/
def unmapAboveFirst : Nat → Bat → Bat
  | 0, bat => bat
  | 1, bat => bat
  | i + 2, bat => unmapAboveFirst (i + 1) (unmapBatBuf (i + 1) bat)

/-- `t7xx_dpmaif_rx_frag_alloc`; what the hardware answers is not looked at. -/
def rxFragAlloc (allocs : Nat → Option Nat) (initial : Bool) (bufCnt : Nat) (bat : Bat) : Bat × Int :=
  if bufCnt = 0 ∨ bat.batSizeCnt < bufCnt then (bat, -EINVAL)
  else if ringBufRdWrCount bat.batSizeCnt bat.batReleaseRdIdx bat.batWrIdx .write < bufCnt then
    (bat, -EINVAL)
  else
    let (filled, i) := fillBat allocs bat.batWrIdx bufCnt 0 bat
    let posted := { filled with batWrIdx := filled.wrap (bat.batWrIdx + i) }
    if i < bufCnt then (if initial then unmapAboveFirst i posted else posted, -ENOMEM)
    else (posted, 0)

def batCurBidCheck (bat : Bat) (curBid : Nat) : Bool :=
  curBid < bat.batSizeCnt && (bat.batSkb curBid).isSome

def takeBatBuf (curBid : Nat) (bat : Bat) : Bat :=
  { bat with
    batSkb := Function.update bat.batSkb curBid none
    batBitmap := Function.update bat.batBitmap curBid true }

/-- `t7xx_dpmaif_get_rx_pkt`; `fits` says whether `t7xx_dpmaif_set_data_to_skb` finds room for the
    data. -/
def getRxPkt (curBid : Nat) (fits : Bool) (bat : Bat) : Bat :=
  if batCurBidCheck bat curBid && fits then takeBatBuf curBid bat else bat

/-- `t7xx_frag_bat_cur_bid_check`. It adds the buffer id to an untyped pointer, so that it tests the
    eight bytes at that byte offset of the table, `word`, and not the page of the entry. -/
def fragBatCurBidCheck (curBid : Nat) (word : BitVec 64) : Bool :=
  curBid < DPMAIF_FRG_COUNT && word != 0

/-- `t7xx_dpmaif_get_frag`, which tests the page of the entry in `t7xx_dpmaif_set_frag_to_skb`. -/
def getFrag (curBid : Nat) (word : BitVec 64) (bat : Bat) : Bat :=
  if fragBatCurBidCheck curBid word && batCurBidCheck bat curBid then takeBatBuf curBid bat else bat

def findNextZeroBit (bitmap : Nat → Bool) : (rounds idx : Nat) → Nat
  | 0, idx => idx
  | rounds + 1, idx => if bitmap idx then findNextZeroBit bitmap rounds (idx + 1) else idx

def availPktBatCnt (bat : Bat) : Nat :=
  let zeroIndex := findNextZeroBit bat.batBitmap (bat.batSizeCnt - bat.batReleaseRdIdx)
    bat.batReleaseRdIdx
  if zeroIndex < bat.batSizeCnt then zeroIndex - bat.batReleaseRdIdx
  else bat.batSizeCnt - bat.batReleaseRdIdx + findNextZeroBit bat.batBitmap bat.batReleaseRdIdx 0

def clearBits : (relEntryNum : Nat) → Bat → Nat → Bool
  | 0, bat => bat.batBitmap
  | i + 1, bat => Function.update (clearBits i bat) (bat.wrap (bat.batReleaseRdIdx + i)) false

def releaseBatEntry (queStarted : Bool) (relEntryNum hwRdIdx : Nat) (bat : Bat) : Bat × Int :=
  let oldRelIdx := bat.batReleaseRdIdx
  let newRelIdx := oldRelIdx + relEntryNum
  if queStarted = false ∨ relEntryNum = 0 ∨ bat.batSizeCnt ≤ relEntryNum then (bat, -EINVAL)
  else if bat.batWrIdx = oldRelIdx then (bat, 0)
  else if oldRelIdx ≤ hwRdIdx ∧ hwRdIdx < newRelIdx then (bat, -EINVAL)
  else if bat.batSizeCnt ≤ newRelIdx ∧ hwRdIdx < newRelIdx - bat.batSizeCnt then (bat, -EINVAL)
  else
    ({ bat with batBitmap := clearBits relEntryNum bat, batReleaseRdIdx := bat.wrap newRelIdx },
      relEntryNum)

def batFree (bat : Bat) : Bat :=
  let bat := { bat with refcnt := bat.refcnt - 1 }
  if bat.refcnt ≠ 0 then bat
  else
    { bat with
      batBitmap := fun _ => false
      batSkb := fun i => if i < bat.batSizeCnt then none else bat.batSkb i
      freed := true }

section Filling

/-- Two tables that differ in their buffers only. -/
structure SameRing (t u : Bat) : Prop where
  size : u.batSizeCnt = t.batSizeCnt
  write : u.batWrIdx = t.batWrIdx
  release : u.batReleaseRdIdx = t.batReleaseRdIdx
  bitmap : u.batBitmap = t.batBitmap
  freed : u.freed = t.freed

theorem SameRing.refl (bat : Bat) : SameRing bat bat := ⟨rfl, rfl, rfl, rfl, rfl⟩

theorem SameRing.trans {t u v : Bat} (first : SameRing t u) (second : SameRing u v) :
    SameRing t v :=
  ⟨second.size.trans first.size, second.write.trans first.write,
    second.release.trans first.release, second.bitmap.trans first.bitmap,
    second.freed.trans first.freed⟩

theorem SameRing.wrap {t u : Bat} (same : SameRing t u) (idx : Nat) : u.wrap idx = t.wrap idx := by
  unfold Bat.wrap
  rw [same.size]

theorem post_ring (bat : Bat) (idx addr : Nat) : SameRing bat (bat.post idx addr) :=
  ⟨rfl, rfl, rfl, rfl, rfl⟩

theorem unmapBatBuf_ring (idx : Nat) (bat : Bat) : SameRing bat (unmapBatBuf idx bat) :=
  ⟨rfl, rfl, rfl, rfl, rfl⟩

theorem fillBat_ring (allocs : Nat → Option Nat) (start rounds i : Nat) (bat : Bat) :
    SameRing bat (fillBat allocs start rounds i bat).1 := by
  induction rounds generalizing i bat with
  | zero => exact SameRing.refl bat
  | succ rounds ih =>
    unfold fillBat
    dsimp only
    split
    · exact (post_ring bat _ _).trans (ih _ _)
    · split
      · exact SameRing.refl bat
      · exact (post_ring bat _ _).trans (ih _ _)

theorem fillBat_count (allocs : Nat → Option Nat) (start rounds i : Nat) (bat : Bat) :
    i ≤ (fillBat allocs start rounds i bat).2 ∧
      (fillBat allocs start rounds i bat).2 ≤ i + rounds := by
  induction rounds generalizing i bat with
  | zero => exact ⟨le_rfl, le_rfl⟩
  | succ rounds ih =>
    unfold fillBat
    dsimp only
    split
    · rename_i addr _
      have rest := ih (i + 1) (bat.post (bat.wrap (start + i)) addr)
      omega
    · split
      · dsimp only
        omega
      · rename_i addr _
        have rest := ih (i + 1) (bat.post (bat.wrap (start + i)) addr)
        omega

theorem fillBat_outside (allocs : Nat → Option Nat) (start rounds i : Nat) (bat : Bat) (idx : Nat)
    (outside : ∀ j, i ≤ j → j < i + rounds → idx ≠ bat.wrap (start + j)) :
    (fillBat allocs start rounds i bat).1.batSkb idx = bat.batSkb idx := by
  induction rounds generalizing i bat with
  | zero => rfl
  | succ rounds ih =>
    have here : idx ≠ bat.wrap (start + i) := outside i le_rfl (by omega)
    have later : ∀ j, i + 1 ≤ j → j < i + 1 + rounds → idx ≠ bat.wrap (start + j) :=
      fun j low high => outside j (by omega) (by omega)
    unfold fillBat
    dsimp only
    split
    · rename_i addr _
      exact (ih (i + 1) (bat.post (bat.wrap (start + i)) addr) later).trans
        (Function.update_of_ne here _ _)
    · split
      · rfl
      · rename_i addr _
        exact (ih (i + 1) (bat.post (bat.wrap (start + i)) addr) later).trans
          (Function.update_of_ne here _ _)

theorem fillBat_full (allocs : Nat → Option Nat) (full : ∀ i, allocs i ≠ none)
    (start rounds i : Nat) (bat : Bat) :
    (fillBat allocs start rounds i bat).2 = i + rounds ∧
      (∀ idx, bat.batSkb idx ≠ none → (fillBat allocs start rounds i bat).1.batSkb idx ≠ none) ∧
      ∀ j, i ≤ j → j < i + rounds →
        (fillBat allocs start rounds i bat).1.batSkb (bat.wrap (start + j)) ≠ none := by
  induction rounds generalizing i bat with
  | zero => exact ⟨rfl, fun _ present => present, fun j low high => by omega⟩
  | succ rounds ih =>
    have step : ∃ addr, fillBat allocs start (rounds + 1) i bat =
        fillBat allocs start rounds (i + 1) (bat.post (bat.wrap (start + i)) addr) := by
      cases held : bat.batSkb (bat.wrap (start + i)) with
      | some addr => exact ⟨addr, by simp [fillBat, held]⟩
      | none =>
        obtain ⟨addr, given⟩ := Option.ne_none_iff_exists'.mp (full i)
        exact ⟨addr, by simp [fillBat, held, given]⟩
    obtain ⟨addr, next⟩ := step
    obtain ⟨count, kept, filled⟩ := ih (i + 1) (bat.post (bat.wrap (start + i)) addr)
    have posted : (bat.post (bat.wrap (start + i)) addr).batSkb (bat.wrap (start + i)) ≠ none := by
      simp [Bat.post]
    rw [next]
    refine ⟨by omega, fun idx present => kept idx ?_, fun j low high => ?_⟩
    · by_cases here : idx = bat.wrap (start + i)
      · rw [here]
        exact posted
      · simpa [Bat.post, here] using present
    · by_cases first : j = i
      · rw [first]
        exact kept _ posted
      · exact filled j (by omega) (by omega)

theorem unmapFirst_ring (i : Nat) (bat : Bat) : SameRing bat (unmapFirst i bat) := by
  induction i generalizing bat with
  | zero => exact SameRing.refl bat
  | succ i ih => exact (unmapBatBuf_ring i bat).trans (ih (unmapBatBuf i bat))

theorem unmapBatBuf_empty (i idx : Nat) (bat : Bat) (empty : bat.batSkb idx = none) :
    (unmapBatBuf i bat).batSkb idx = none := by
  by_cases here : idx = i
  · simp [unmapBatBuf, here]
  · simpa [unmapBatBuf, here] using empty

theorem unmapFirst_empty (i idx : Nat) (bat : Bat) (empty : bat.batSkb idx = none) :
    (unmapFirst i bat).batSkb idx = none := by
  induction i generalizing bat with
  | zero => exact empty
  | succ i ih => exact ih _ (unmapBatBuf_empty i idx bat empty)

theorem unmapAboveFirst_ring (i : Nat) (bat : Bat) : SameRing bat (unmapAboveFirst i bat) := by
  induction i, bat using unmapAboveFirst.induct with
  | case1 bat => exact SameRing.refl bat
  | case2 bat => exact SameRing.refl bat
  | case3 i bat ih => exact (unmapBatBuf_ring (i + 1) bat).trans ih

theorem unmapAboveFirst_empty (i idx : Nat) (bat : Bat) (empty : bat.batSkb idx = none) :
    (unmapAboveFirst i bat).batSkb idx = none := by
  induction i, bat using unmapAboveFirst.induct with
  | case1 bat => exact empty
  | case2 bat => exact empty
  | case3 i bat ih => exact ih (unmapBatBuf_empty (i + 1) idx bat empty)

end Filling

section Counting

theorem findNextZeroBit_spec (bitmap : Nat → Bool) (rounds idx : Nat) :
    findNextZeroBit bitmap rounds idx ≤ idx + rounds ∧ idx ≤ findNextZeroBit bitmap rounds idx ∧
      ∀ i, idx ≤ i → i < findNextZeroBit bitmap rounds idx → bitmap i = true := by
  induction rounds generalizing idx with
  | zero => exact ⟨le_rfl, le_rfl, fun i low high => absurd high (by simp [findNextZeroBit, low])⟩
  | succ rounds ih =>
    unfold findNextZeroBit
    split
    · rename_i set
      obtain ⟨most, least, ones⟩ := ih (idx + 1)
      refine ⟨by omega, by omega, fun i low high => ?_⟩
      by_cases first : i = idx
      · rw [first]
        exact set
      · exact ones i (by omega) high
    · exact ⟨by omega, le_rfl, fun i low high => by omega⟩

/-- The slots counted for a release are as many set bits in a row, round the end of the table. -/
theorem availPktBatCnt_bits {bat : Bat} (release : bat.batReleaseRdIdx < bat.batSizeCnt) :
    availPktBatCnt bat ≤ bat.batSizeCnt ∧
      ∀ j < availPktBatCnt bat, bat.batBitmap (bat.wrap (bat.batReleaseRdIdx + j)) = true := by
  obtain ⟨most, least, ones⟩ := findNextZeroBit_spec bat.batBitmap
    (bat.batSizeCnt - bat.batReleaseRdIdx) bat.batReleaseRdIdx
  obtain ⟨mostFirst, _, onesFirst⟩ := findNextZeroBit_spec bat.batBitmap bat.batReleaseRdIdx 0
  unfold availPktBatCnt
  dsimp only
  split
  · refine ⟨by omega, fun j below => ?_⟩
    unfold Bat.wrap
    rw [if_neg (by omega)]
    exact ones _ (by omega) (by omega)
  · refine ⟨by omega, fun j below => ?_⟩
    unfold Bat.wrap
    split
    · exact onesFirst _ (by omega) (by omega)
    · exact ones _ (by omega) (by omega)

theorem clearBits_set {relEntryNum idx : Nat} {bat : Bat}
    (set : clearBits relEntryNum bat idx = true) :
    bat.batBitmap idx = true ∧ ∀ j < relEntryNum, idx ≠ bat.wrap (bat.batReleaseRdIdx + j) := by
  induction relEntryNum with
  | zero => exact ⟨set, nofun⟩
  | succ i ih =>
    unfold clearBits at set
    by_cases here : idx = bat.wrap (bat.batReleaseRdIdx + i)
    · rw [here, Function.update_self] at set
      cases set
    · rw [Function.update_of_ne here] at set
      obtain ⟨before, apart⟩ := ih set
      refine ⟨before, fun j below => ?_⟩
      by_cases last : j = i
      · rw [last]
        exact here
      · exact apart j (by omega)

end Counting

end T7xxModel.Dpmaif
