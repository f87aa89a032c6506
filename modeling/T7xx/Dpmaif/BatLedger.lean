import T7xx.Dpmaif.BatHardware

namespace T7xxModel.Dpmaif

open Transition

section Ledgers

variable {bat u : Bat} {hw : HwBat}

/-- The counts of a running table: its indices are theirs, and what the hardware may use is recorded. -/
structure BatLedger (bat : Bat) (hw : HwBat) : Prop where
  big : 1 < bat.batSizeCnt
  release : bat.batReleaseRdIdx = hw.released % bat.batSizeCnt
  write : bat.batWrIdx = hw.posted % bat.batSizeCnt
  used : hw.released ≤ hw.used
  posted : hw.used ≤ hw.posted
  room : hw.posted < hw.released + bat.batSizeCnt
  recorded : ∀ k, hw.used ≤ k → k < hw.posted → RecordedAt bat (k % bat.batSizeCnt)

theorem BatLedger.positive (ledger : BatLedger bat hw) : 0 < bat.batSizeCnt :=
  Nat.zero_lt_of_lt ledger.big

theorem BatLedger.bounds (ledger : BatLedger bat hw) : BatBounds bat := by
  have positive := ledger.positive
  refine ⟨?_, ?_⟩
  · rw [ledger.write]
    exact Nat.mod_lt _ positive
  · rw [ledger.release]
    exact Nat.mod_lt _ positive

theorem BatLedger.distance (ledger : BatLedger bat hw) :
    Ring.distance bat.batSizeCnt bat.batReleaseRdIdx bat.batWrIdx = hw.posted - hw.released := by
  have used := ledger.used
  have posted := ledger.posted
  rw [ledger.release, ledger.write]
  exact Ring.distance_mod (by omega) ledger.room

theorem wrap_mod (positive : 0 < bat.batSizeCnt) (a : Nat) {d : Nat} (room : d ≤ bat.batSizeCnt) :
    bat.wrap (a % bat.batSizeCnt + d) = (a + d) % bat.batSizeCnt :=
  Ring.advance_mod a room positive

theorem BatLedger.grow (ledger : BatLedger bat hw) {count : Nat} (grown : Grown bat u count)
    (told : Nat) :
    BatLedger u { hw with told, posted := hw.posted + count } ∧
      advanced bat u Bat.batWrIdx = count := by
  have positive := ledger.positive
  have fits := grown.fits
  have used := ledger.used
  have posted := ledger.posted
  rw [ledger.distance] at fits
  have write : u.batWrIdx = (hw.posted + count) % bat.batSizeCnt := by
    rw [grown.write, ledger.write]
    exact wrap_mod positive _ (by omega)
  refine ⟨⟨?_, ?_, ?_, used, ?_, ?_, fun k low high => ?_⟩, ?_⟩
  · rw [grown.size]
    exact ledger.big
  · rw [grown.release, grown.size]
    exact ledger.release
  · rw [grown.size]
    exact write
  · dsimp only
    omega
  · rw [grown.size]
    dsimp only
    omega
  · dsimp only at low high
    rw [grown.size]
    by_cases old : k < hw.posted
    · exact grown.kept _ (ledger.recorded k low old)
    · obtain ⟨j, rfl⟩ := Nat.exists_eq_add_of_le (Nat.not_lt.mp old)
      have new := grown.recorded j (by omega)
      rwa [ledger.write, wrap_mod positive _ (by omega)] at new
  · unfold advanced
    rw [write, ledger.write, Ring.distance_mod (Nat.le_add_right _ _) (by omega)]
    omega

theorem BatLedger.apart (ledger : BatLedger bat hw) {curBid k : Nat}
    (named : curBid ∈ Ring.slots bat.batSizeCnt hw.released (hw.used - hw.released))
    (low : hw.used ≤ k) (high : k < hw.posted) : k % bat.batSizeCnt ≠ curBid := by
  obtain ⟨d, near, rfl⟩ := Ring.mem_slots.mp named
  have room := ledger.room
  have used := ledger.used
  intro same
  obtain ⟨e, rfl⟩ := Nat.exists_eq_add_of_le (show hw.released ≤ k by omega)
  have equal := Ring.add_mod_inj (by omega) (by omega) same
  omega

theorem BatLedger.take (ledger : BatLedger bat hw) {curBid : Nat}
    (named : curBid ∈ Ring.slots bat.batSizeCnt hw.released (hw.used - hw.released)) :
    BatLedger (takeBatBuf curBid bat) hw := by
  refine ⟨ledger.big, ledger.release, ledger.write, ledger.used, ledger.posted, ledger.room,
    fun k low high => ?_⟩
  have recorded := ledger.recorded k low high
  have apart := ledger.apart named low high
  unfold RecordedAt takeBatBuf at *
  dsimp only
  rw [Function.update_of_ne apart]
  exact recorded

/-- The hardware's read index keeps the driver from releasing more than was used. -/
theorem BatLedger.releaseEntry (ledger : BatLedger bat hw) (relEntryNum : Nat)
    (released : u = (releaseBatEntry true relEntryNum (hw.used % bat.batSizeCnt) bat).1) :
    BatLedger u { hw with released := hw.released + advanced bat u Bat.batReleaseRdIdx } := by
  have positive := ledger.positive
  have used := ledger.used
  have posted := ledger.posted
  have room := ledger.room
  have still (same : u = bat) :
      BatLedger u { hw with released := hw.released + advanced bat u Bat.batReleaseRdIdx } := by
    unfold advanced
    rw [same, Ring.distance_self]
    exact ledger
  unfold releaseBatEntry at released
  dsimp only at released
  split at released
  · exact still released
  rename_i usable
  split at released
  · exact still released
  split at released
  · exact still released
  rename_i before
  split at released
  · exact still released
  rename_i after
  have few : relEntryNum < bat.batSizeCnt := by omega
  have within : hw.released + relEntryNum ≤ hw.used := by
    obtain ⟨d, past⟩ := Nat.exists_eq_add_of_le used
    rw [past, ledger.release] at before after
    rcases Ring.mod_cases hw.released (show d ≤ bat.batSizeCnt by omega) positive with
      ⟨stays, value⟩ | ⟨wraps, value⟩
    · rw [value] at before after
      omega
    · rw [value] at before after
      omega
  have index : bat.wrap (bat.batReleaseRdIdx + relEntryNum) =
      (hw.released + relEntryNum) % bat.batSizeCnt := by
    rw [ledger.release]
    exact wrap_mod positive _ (by omega)
  have moved : advanced bat u Bat.batReleaseRdIdx = relEntryNum := by
    unfold advanced
    rw [released]
    dsimp only
    rw [index, ledger.release, Ring.distance_mod (Nat.le_add_right _ _) (by omega)]
    omega
  rw [moved, released]
  refine ⟨ledger.big, index, ledger.write, within, posted, ?_, ledger.recorded⟩
  dsimp only
  omega

theorem BatLedger.use (ledger : BatLedger bat hw) (told : hw.told = hw.posted)
    (more : hw.used < hw.told) : BatLedger bat { hw with used := hw.used + 1 } := by
  have used := ledger.used
  refine ⟨ledger.big, ledger.release, ledger.write, ?_, ?_, ledger.room, fun k low high => ?_⟩
  · dsimp only
    omega
  · dsimp only
    omega
  · dsimp only at low high
    exact ledger.recorded k (by omega) high

theorem BatLedger.allRecorded (ledger : BatLedger bat hw) (told : hw.told = hw.posted) : Recorded bat hw := by
  intro k low high
  rw [told] at high
  exact ledger.recorded k low high

end Ledgers

section Starting

variable {bufAllocs fragAllocs : Nat → Option Nat} {hwReady : Bool} {s t : BatHw}

theorem filledCnt_write {allocs : Nat → Option Nat} {bat : Bat}
    (release : bat.batReleaseRdIdx = 0) (write : bat.batWrIdx < bat.batSizeCnt)
    (filled : 0 < filledCnt allocs (bat.batSizeCnt - 1) bat) : bat.batWrIdx = 0 := by
  unfold filledCnt at filled
  split at filled
  · omega
  split at filled
  · omega
  rename_i enough
  rw [release, ringBufRdWrCount_write _ _ _ (by omega) write] at enough
  unfold Ring.distance at enough
  rw [if_pos (Nat.zero_le _)] at enough
  omega

theorem filledCnt_start {allocs : Nat → Option Nat} {bat : Bat} (big : 1 < bat.batSizeCnt)
    (release : bat.batReleaseRdIdx = 0) (write : bat.batWrIdx = 0) :
    (0 < filledCnt allocs (bat.batSizeCnt - 1) bat ↔ Supplies allocs bat 1) ∧
      (filledCnt allocs (bat.batSizeCnt - 1) bat = bat.batSizeCnt - 1 ↔
        Supplies allocs bat (bat.batSizeCnt - 1)) := by
  have room := emptyRoom big release write
  unfold filledCnt
  rw [if_neg (by omega), if_neg (by omega), write]
  refine ⟨fillBat_positive (by omega) big, ?_⟩
  have count := fillBat_count_iff allocs (bat.batSizeCnt - 1) 0 bat (by omega)
  rw [Nat.zero_add] at count
  rw [count]
  exact forall_congr' fun idx => imp_iff_right (Nat.zero_le idx)

theorem rxFragAlloc_release {allocs : Nat → Option Nat} {initial : Bool} {bufCnt : Nat} {bat : Bat} :
    (rxFragAlloc allocs initial bufCnt bat).1.batReleaseRdIdx = bat.batReleaseRdIdx := by
  have ring := fillBat_ring allocs bat.batWrIdx bufCnt 0 bat
  unfold rxFragAlloc
  split
  · rfl
  split
  · rfl
  generalize fillBat allocs bat.batWrIdx bufCnt 0 bat = result at ring
  obtain ⟨filled, i⟩ := result
  dsimp only
  split
  · split
    · exact (unmapAboveFirst_ring i _).release.trans ring.release
    · exact ring.release
  · exact ring.release

theorem batFree_ring (bat : Bat) :
    (batFree bat).batSizeCnt = bat.batSizeCnt ∧
      (batFree bat).batReleaseRdIdx = bat.batReleaseRdIdx ∧
        (batFree bat).batWrIdx = bat.batWrIdx := by
  unfold batFree
  dsimp only
  split <;> exact ⟨rfl, rfl, rfl⟩

/-- How a start ends: it is given up at one of three points, or it goes through. -/
theorem rxStart_cases {p q : RxPath} (taken : rxStart bufAllocs fragAllocs hwReady p = some q) :
    ∃ normal frag, normal = rxBufAlloc bufAllocs true none (p.normal.batSizeCnt - 1)
        (clearBitmap p.normal) ∧
      frag = rxFragAlloc fragAllocs true (p.frag.batSizeCnt - 1) p.frag ∧
      (normal.2 ≠ 0 ∧ q = { p with queStarted := true, normal := normal.1 } ∨
        normal.2 = 0 ∧ frag.2 ≠ 0 ∧
          q = { p with queStarted := true, normal := batFree normal.1, frag := frag.1 } ∨
        normal.2 = 0 ∧ frag.2 = 0 ∧ hwReady = false ∧
          q = { p with
            queStarted := true
            normal := batFree normal.1
            frag := batFree frag.1 } ∨
        normal.2 = 0 ∧ frag.2 = 0 ∧ hwReady = true ∧
          q = { p with
            queStarted := true
            normal := normal.1
            frag := frag.1
            state := .pwron }) := by
  refine ⟨_, _, rfl, rfl, ?_⟩
  unfold rxStart at taken
  split at taken
  · cases taken
  dsimp only at taken
  split at taken
  · rename_i failed
    cases taken
    exact .inl ⟨failed, rfl⟩
  rename_i filled
  have filled := Decidable.not_not.mp filled
  split at taken
  · rename_i failed
    cases taken
    exact .inr (.inl ⟨filled, failed, rfl⟩)
  rename_i fragFilled
  have fragFilled := Decidable.not_not.mp fragFilled
  split at taken
  · rename_i refused
    cases taken
    exact .inr (.inr (.inl ⟨filled, fragFilled, refused, rfl⟩))
  · rename_i ready
    cases taken
    exact .inr (.inr (.inr ⟨filled, fragFilled, by simpa using ready, rfl⟩))

theorem startHw_ledger {bat u : Bat} {count : Nat} (rest : AtRest bat) (write : bat.batWrIdx = 0)
    (grown : Grown bat u count) :
    BatLedger u (startHw bat u) ∧ (startHw bat u).posted = count := by
  have release := rest.release
  have fits := grown.fits
  rw [release, write, Ring.distance_self] at fits
  have place : u.batWrIdx = count := by
    rw [grown.write, write]
    unfold Bat.wrap
    rw [if_neg (by omega)]
    omega
  have posted : advanced bat u Bat.batWrIdx = count := by
    unfold advanced Ring.distance
    rw [place, write, if_pos (Nat.zero_le _)]
    omega
  refine ⟨⟨?_, ?_, ?_, Nat.le_refl 0, Nat.zero_le _, ?_, fun k _ below => ?_⟩, posted⟩
  · rw [grown.size]
    exact rest.big
  · rw [grown.release, release]
    exact (Nat.zero_mod _).symm
  · show u.batWrIdx = advanced bat u Bat.batWrIdx % u.batSizeCnt
    rw [posted, place, grown.size, Nat.mod_eq_of_lt (by omega)]
  · show advanced bat u Bat.batWrIdx < 0 + u.batSizeCnt
    rw [posted, grown.size]
    omega
  · have below : k < advanced bat u Bat.batWrIdx := below
    rw [posted] at below
    have recorded := grown.recorded k below
    rw [write] at recorded
    unfold Bat.wrap at recorded
    rw [if_neg (by omega), Nat.zero_add] at recorded
    rw [grown.size, Nat.mod_eq_of_lt (by omega)]
    exact recorded

/-- A start tells the hardware of the slot at which the filling gave up, unless all are filled. -/
theorem startHw_filled {bat u : Bat} {count : Nat} (size : u.batSizeCnt = bat.batSizeCnt)
    (first : bat.batWrIdx = 0)
    (hole : count < bat.batSizeCnt - 1 → u.batSkb (bat.wrap (bat.batWrIdx + count)) = none)
    (recorded : Recorded u (startHw bat u)) : bat.batSizeCnt - 1 ≤ count := by
  by_contra short
  have told : count < (startHw bat u).told := by
    show count < u.batSizeCnt - 1
    omega
  have slot := recorded count (Nat.zero_le count) told
  have empty := hole (by omega)
  rw [first, Nat.zero_add, Bat.wrap, if_neg (by omega)] at empty
  unfold RecordedAt at slot
  rw [size, Nat.mod_eq_of_lt (by omega), empty] at slot
  cases slot

theorem AtRest.bounds {bat : Bat} (rest : AtRest bat) : BatBounds bat := by
  have big := rest.big
  exact ⟨rest.write, by rw [rest.release]; omega⟩

theorem AtRest.batFree {bat : Bat} (rest : AtRest bat) : AtRest (batFree bat) := by
  obtain ⟨size, release, write⟩ := batFree_ring bat
  refine ⟨?_, release.trans rest.release, ?_⟩
  · rw [size]
    exact rest.big
  · rw [write, size]
    exact rest.write

theorem normalStart {allocs : Nat → Option Nat} {bat : Bat} {filled : Bat × Int} (rest : AtRest bat)
    (result : filled = rxBufAlloc allocs true none (bat.batSizeCnt - 1) (clearBitmap bat)) :
    AtRest filled.1 ∧ (filled.2 = 0 ↔ bat.batWrIdx = 0 ∧ Supplies allocs bat 1) ∧
      (filled.2 = 0 → BatLedger filled.1 (startHw bat filled.1) ∧
        ((startHw bat filled.1).told = (startHw bat filled.1).posted ↔
          Supplies allocs bat (bat.batSizeCnt - 1)) ∧
        (Recorded filled.1 (startHw bat filled.1) →
          (startHw bat filled.1).told = (startHw bat filled.1).posted)) := by
  have big := rest.big
  have clear : AtRest (clearBitmap bat) := ⟨rest.big, rest.release, rest.write⟩
  obtain ⟨grown, positive, stops⟩ :=
    @rxBufAlloc_grown allocs _ (bat.batSizeCnt - 1) clear.bounds none nofun
  have posts := rxBufAlloc_posts allocs true none (bat.batSizeCnt - 1) clear.bounds
  rw [← result] at grown positive stops posts
  have size : filled.1.batSizeCnt = bat.batSizeCnt := posts.size
  have empty (filledSome : 0 < filledCnt allocs (bat.batSizeCnt - 1) (clearBitmap bat)) :
      bat.batWrIdx = 0 :=
    @filledCnt_write allocs (clearBitmap bat) clear.release clear.write filledSome
  refine ⟨⟨by omega, grown.release.trans rest.release, posts.bounds.write⟩, ?_, fun succeeded => ?_⟩
  · rw [positive]
    constructor
    · intro filledSome
      exact ⟨empty filledSome, (filledCnt_start clear.big clear.release (empty filledSome)).1.mp
        filledSome⟩
    · rintro ⟨first, supplied⟩
      exact (filledCnt_start clear.big clear.release first).1.mpr supplied
  · have first := empty (positive.mp succeeded)
    obtain ⟨ledger, posted⟩ := @startHw_ledger (clearBitmap bat) _ _ clear first grown
    have told : (startHw bat filled.1).told = bat.batSizeCnt - 1 := by
      show filled.1.batSizeCnt - 1 = bat.batSizeCnt - 1
      rw [size]
    have passed : (startHw bat filled.1).posted =
        filledCnt allocs (bat.batSizeCnt - 1) (clearBitmap bat) := posted
    rw [told, passed]
    refine ⟨ledger, ?_, fun recorded => ?_⟩
    · rw [eq_comm]
      exact (filledCnt_start clear.big clear.release first).2
    · have all := @startHw_filled (clearBitmap bat) _ _ size first
        (stops (positive.mp succeeded)) recorded
      have fits : filledCnt allocs (bat.batSizeCnt - 1) (clearBitmap bat) < bat.batSizeCnt :=
        filledCnt_fits clear.bounds
      have whole : bat.batSizeCnt - 1 ≤ filledCnt allocs (bat.batSizeCnt - 1) (clearBitmap bat) := all
      omega

theorem fragStart {allocs : Nat → Option Nat} {bat : Bat} {filled : Bat × Int} (rest : AtRest bat)
    (result : filled = rxFragAlloc allocs true (bat.batSizeCnt - 1) bat) :
    AtRest filled.1 ∧
      (filled.2 = 0 ↔ bat.batWrIdx = 0 ∧ Supplies allocs bat (bat.batSizeCnt - 1)) ∧
      (filled.2 = 0 → BatLedger filled.1 (startHw bat filled.1) ∧
        (startHw bat filled.1).told = (startHw bat filled.1).posted) := by
  have big := rest.big
  obtain ⟨full, grown⟩ := @rxFragAlloc_grown allocs _ (bat.batSizeCnt - 1) true rest.bounds
  have posts := rxFragAlloc_posts allocs true (bat.batSizeCnt - 1) rest.bounds
  have release := @rxFragAlloc_release allocs true (bat.batSizeCnt - 1) bat
  rw [← result] at full grown posts release
  have size := posts.size
  have empty (all : filledCnt allocs (bat.batSizeCnt - 1) bat = bat.batSizeCnt - 1) :
      bat.batWrIdx = 0 := @filledCnt_write allocs _ rest.release rest.write (by omega)
  refine ⟨⟨by omega, release.trans rest.release, posts.bounds.write⟩, ?_, fun succeeded => ?_⟩
  · rw [full]
    constructor
    · rintro ⟨_, all⟩
      exact ⟨empty all, (filledCnt_start big rest.release (empty all)).2.mp all⟩
    · rintro ⟨first, supplied⟩
      exact ⟨by omega, (filledCnt_start big rest.release first).2.mpr supplied⟩
  · have all := (full.mp succeeded).2
    obtain ⟨ledger, posted⟩ := startHw_ledger rest (empty all) (grown (.inr succeeded))
    refine ⟨ledger, ?_⟩
    rw [posted, all]
    show filled.1.batSizeCnt - 1 = bat.batSizeCnt - 1
    rw [size]

end Starting

end T7xxModel.Dpmaif
