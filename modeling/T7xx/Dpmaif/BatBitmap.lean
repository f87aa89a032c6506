import T7xx.Dpmaif.BatRun

namespace T7xxModel.Dpmaif

open Transition

structure BatBounds (bat : Bat) : Prop where
  write : bat.batWrIdx < bat.batSizeCnt
  release : bat.batReleaseRdIdx < bat.batSizeCnt

/-- A table that is filled further keeps its taken slots. -/
structure Posts (t u : Bat) : Prop where
  bounds : BatBounds u
  size : u.batSizeCnt = t.batSizeCnt
  bitmap : u.batBitmap = t.batBitmap
  taken : ∀ idx < t.batSizeCnt, SlotTaken t idx → SlotTaken u idx

theorem Posts.bitsTaken {t u : Bat} (posts : Posts t u) (taken : BitsTaken t) : BitsTaken u := by
  intro idx below set
  rw [posts.size] at below
  rw [posts.bitmap] at set
  exact posts.taken idx below (taken idx below set)

theorem Posts.trans {t u v : Bat} (first : Posts t u) (second : Posts u v) : Posts t v := by
  refine ⟨second.bounds, second.size.trans first.size, second.bitmap.trans first.bitmap, ?_⟩
  intro idx below taken
  apply second.taken idx
  · rwa [first.size]
  · exact first.taken idx below taken

theorem SameRing.bounds {t u : Bat} (ring : SameRing t u) (bounds : BatBounds t) : BatBounds u := by
  refine ⟨?_, ?_⟩
  · rw [ring.write, ring.size]
    exact bounds.write
  · rw [ring.release, ring.size]
    exact bounds.release

theorem Posts.of_ring {t u : Bat} (bounds : BatBounds t) (ring : SameRing t u)
    (empty : ∀ idx, t.batSkb idx = none → u.batSkb idx = none) : Posts t u := by
  refine ⟨ring.bounds bounds, ring.size, ring.bitmap, fun idx _ taken => ⟨?_, empty idx taken.2⟩⟩
  rw [ring.size, ring.release, ring.write]
  exact taken.1

theorem BatBounds.turn {bat : Bat} {n : Nat} (bounds : BatBounds bat)
    (free : n ≤ ringBufRdWrCount bat.batSizeCnt bat.batReleaseRdIdx bat.batWrIdx .write) :
    Ring.distance bat.batSizeCnt bat.batReleaseRdIdx bat.batWrIdx + n < bat.batSizeCnt := by
  have write := bounds.write
  have release := bounds.release
  have posted := Ring.distance_lt release write
  rw [ringBufRdWrCount_write _ _ _ release write] at free
  omega

section Filling

theorem fillBat_posts {bat : Bat} (allocs : Nat → Option Nat) {bufCnt : Nat} (bounds : BatBounds bat)
    (free : bufCnt ≤ ringBufRdWrCount bat.batSizeCnt bat.batReleaseRdIdx bat.batWrIdx .write) :
    Posts bat (fillBat allocs bat.batWrIdx bufCnt 0 bat).1 := by
  have ring := fillBat_ring allocs bat.batWrIdx bufCnt 0 bat
  refine ⟨ring.bounds bounds, ring.size, ring.bitmap, fun idx _ taken => ⟨?_, ?_⟩⟩
  · rw [ring.size, ring.release, ring.write]
    exact taken.1
  · rw [fillBat_outside]
    · exact taken.2
    · rintro j _ below rfl
      have turn := bounds.turn (show j ≤ _ by omega)
      exact Ring.past_not_within bounds.release bounds.write turn taken.1

theorem writeAt_posts {bat : Bat} {n : Nat} (bounds : BatBounds bat)
    (free : n ≤ ringBufRdWrCount bat.batSizeCnt bat.batReleaseRdIdx bat.batWrIdx .write) :
    Posts bat { bat with batWrIdx := bat.wrap (bat.batWrIdx + n) } := by
  have write := bounds.write
  have turn := bounds.turn free
  refine ⟨⟨Ring.wrap_lt (by omega), bounds.release⟩, rfl, rfl, fun idx below taken => ⟨?_, taken.2⟩⟩
  exact Ring.within_extend bounds.release write below turn taken.1

theorem updateBatWrIdx_cases (queStarted : Bool) (batCnt : Nat) (bat : Bat) :
    updateBatWrIdx queStarted batCnt bat = (bat, -EINVAL) ∨
      updateBatWrIdx queStarted batCnt bat =
        ({ bat with batWrIdx := bat.wrap (bat.batWrIdx + batCnt) }, 0) := by
  unfold updateBatWrIdx Bat.wrap
  dsimp only
  split
  · exact Or.inl rfl
  · split
    · exact Or.inl rfl
    · split
      · split
        · exact Or.inl rfl
        · exact Or.inr rfl
      · exact Or.inr rfl

theorem updateBatWrIdx_accepts {bat : Bat} {count : Nat} (bounds : BatBounds bat)
    (fits : Ring.distance bat.batSizeCnt bat.batReleaseRdIdx bat.batWrIdx + count <
      bat.batSizeCnt) :
    updateBatWrIdx true count bat =
      ({ bat with batWrIdx := bat.wrap (bat.batWrIdx + count) }, 0) := by
  have write := bounds.write
  have release := bounds.release
  unfold Ring.distance at fits
  unfold updateBatWrIdx Bat.wrap
  dsimp only
  rw [if_neg Bool.noConfusion]
  by_cases wraps : bat.batSizeCnt ≤ bat.batWrIdx + count
  · rw [if_neg (by split at fits <;> omega), if_pos wraps, if_neg (by split at fits <;> omega),
      if_pos wraps]
  · rw [if_neg (by split at fits <;> omega), if_neg wraps, if_neg wraps]

theorem unmapFirst_posts {bat : Bat} (i : Nat) (bounds : BatBounds bat) :
    Posts bat (unmapFirst i bat) :=
  Posts.of_ring bounds (unmapFirst_ring i bat) fun idx => unmapFirst_empty i idx bat

theorem posts_refl {bat : Bat} (bounds : BatBounds bat) : Posts bat bat :=
  Posts.of_ring bounds (SameRing.refl bat) fun _ empty => empty

theorem fillBat_moved {bat t : Bat} {bufCnt i : Nat} (allocs : Nat → Option Nat)
    (bounds : BatBounds bat)
    (free : bufCnt ≤ ringBufRdWrCount bat.batSizeCnt bat.batReleaseRdIdx bat.batWrIdx .write)
    (result : fillBat allocs bat.batWrIdx bufCnt 0 bat = (t, i)) :
    Posts bat t ∧ t.batWrIdx = bat.batWrIdx ∧
      Posts bat { t with batWrIdx := t.wrap (bat.batWrIdx + i) } := by
  have filled := fillBat_posts allocs bounds free
  have ring := fillBat_ring allocs bat.batWrIdx bufCnt 0 bat
  have count := (fillBat_count allocs bat.batWrIdx bufCnt 0 bat).2
  rw [result] at filled ring count
  dsimp only at filled ring count
  have moved : Posts t { t with batWrIdx := t.wrap (t.batWrIdx + i) } := by
    apply writeAt_posts filled.bounds
    rw [ring.size, ring.release, ring.write]
    omega
  have posted := filled.trans moved
  rw [ring.write] at posted
  exact ⟨filled, ring.write, posted⟩

theorem rxBufAlloc_posts {bat : Bat} (allocs : Nat → Option Nat) (queStarted : Bool)
    (hw : Option HwBatAnswer) (bufCnt : Nat) (bounds : BatBounds bat) :
    Posts bat (rxBufAlloc allocs queStarted hw bufCnt bat).1 := by
  unfold rxBufAlloc
  split
  · exact posts_refl bounds
  · split
    · exact posts_refl bounds
    · rename_i bad full
      rcases result : fillBat allocs bat.batWrIdx bufCnt 0 bat with ⟨t, i⟩
      obtain ⟨filled, write, posted⟩ := fillBat_moved allocs bounds (by omega) result
      dsimp only
      split
      · exact filled
      · rcases updateBatWrIdx_cases queStarted i t with refused | accepted
        · rw [refused]
          exact filled.trans (unmapFirst_posts i filled.bounds)
        · rw [accepted, write]
          dsimp only
          rw [if_neg (by simp)]
          split
          · exact posted
          · split
            · exact posted.trans (unmapFirst_posts i posted.bounds)
            · split
              · exact posted.trans (unmapFirst_posts i posted.bounds)
              · exact posted

theorem rxFragAlloc_posts {bat : Bat} (allocs : Nat → Option Nat) (initial : Bool) (bufCnt : Nat)
    (bounds : BatBounds bat) : Posts bat (rxFragAlloc allocs initial bufCnt bat).1 := by
  unfold rxFragAlloc
  split
  · exact posts_refl bounds
  · split
    · exact posts_refl bounds
    · rename_i bad full
      rcases result : fillBat allocs bat.batWrIdx bufCnt 0 bat with ⟨t, i⟩
      obtain ⟨-, -, posted⟩ := fillBat_moved allocs bounds (by omega) result
      dsimp only
      split
      · cases initial
        · exact posted
        · exact posted.trans (Posts.of_ring posted.bounds (unmapAboveFirst_ring i _)
            fun idx => unmapAboveFirst_empty i idx _)
      · exact posted

end Filling

section Steps

/-- Besides `BitmapsSound`, the indices lie inside the tables. -/
structure BitmapInvariant (s : RxPath) : Prop where
  normal : BatBounds s.normal
  frag : BatBounds s.frag
  sound : BitmapsSound s

theorem BitmapInvariant.table {s : RxPath} (inv : BitmapInvariant s) (type : BatType) :
    BatBounds (s.table type) ∧ BitsTaken (s.table type) := by
  cases type
  · exact ⟨inv.normal, inv.sound.1⟩
  · exact ⟨inv.frag, inv.sound.2.1⟩

theorem BitmapInvariant.of_uncounted {s : RxPath} (normal : BatBounds s.normal)
    (frag : BatBounds s.frag) (normalTaken : BitsTaken s.normal) (fragTaken : BitsTaken s.frag)
    (uncounted : ∀ type bidCnt, s.work ≠ .counted type bidCnt) : BitmapInvariant s :=
  ⟨normal, frag, normalTaken, fragTaken, fun type bidCnt counted =>
    absurd counted (uncounted type bidCnt)⟩

theorem getRxPkt_cases (curBid : Nat) (fits : Bool) (bat : Bat) :
    getRxPkt curBid fits bat = bat ∨
      (fits = true ∧ batCurBidCheck bat curBid = true ∧
        getRxPkt curBid fits bat = takeBatBuf curBid bat) := by
  unfold getRxPkt
  split
  · rename_i passes
    rw [Bool.and_eq_true] at passes
    exact Or.inr ⟨passes.2, passes.1, rfl⟩
  · exact Or.inl rfl

theorem getFrag_cases (curBid : Nat) (word : BitVec 64) (bat : Bat) :
    getFrag curBid word bat = bat ∨
      (fragBatCurBidCheck curBid word = true ∧ batCurBidCheck bat curBid = true ∧
        getFrag curBid word bat = takeBatBuf curBid bat) := by
  unfold getFrag
  split
  · rename_i passes
    rw [Bool.and_eq_true] at passes
    exact Or.inr ⟨passes.1, passes.2, rfl⟩
  · exact Or.inl rfl

theorem takeBatBuf_taken {bat : Bat} {curBid idx : Nat} (taken : SlotTaken bat idx) :
    SlotTaken (takeBatBuf curBid bat) idx := by
  refine ⟨taken.1, ?_⟩
  by_cases here : idx = curBid
  · simp [takeBatBuf, here]
  · simpa [takeBatBuf, here] using taken.2

theorem takeBatBuf_bits {bat : Bat} {curBid : Nat} (bits : BitsTaken bat)
    (posted : Ring.Within bat.batSizeCnt bat.batReleaseRdIdx bat.batWrIdx curBid) :
    BitsTaken (takeBatBuf curBid bat) := by
  intro idx below set
  by_cases here : idx = curBid
  · rw [here]
    exact ⟨posted, by simp [takeBatBuf]⟩
  · apply takeBatBuf_taken
    apply bits idx below
    simpa [takeBatBuf, here] using set

theorem take_invariant {s : RxPath} {curBid : Nat} (type : BatType) (inv : BitmapInvariant s)
    (posted : Ring.Within (s.table type).batSizeCnt (s.table type).batReleaseRdIdx
      (s.table type).batWrIdx curBid) :
    BitmapInvariant (s.setTable type (takeBatBuf curBid (s.table type))) := by
  obtain ⟨normalTaken, fragTaken, counts⟩ := inv.sound
  cases type with
  | normal =>
    refine ⟨⟨inv.normal.1, inv.normal.2⟩, inv.frag, takeBatBuf_bits normalTaken posted, fragTaken, ?_⟩
    intro type bidCnt counted filled j below
    cases type with
    | normal => exact takeBatBuf_taken (counts .normal bidCnt counted filled j below)
    | frag => exact counts .frag bidCnt counted filled j below
  | frag =>
    refine ⟨inv.normal, ⟨inv.frag.1, inv.frag.2⟩, normalTaken, takeBatBuf_bits fragTaken posted, ?_⟩
    intro type bidCnt counted filled j below
    cases type with
    | normal => exact counts .normal bidCnt counted filled j below
    | frag => exact takeBatBuf_taken (counts .frag bidCnt counted filled j below)

theorem batFree_bounds {bat : Bat} (bounds : BatBounds bat) : BatBounds (batFree bat) := by
  unfold batFree
  dsimp only
  split
  · exact ⟨bounds.1, bounds.2⟩
  · exact ⟨bounds.1, bounds.2⟩

theorem batFree_bits {bat : Bat} (bits : BitsTaken bat) : BitsTaken (batFree bat) := by
  unfold batFree
  dsimp only
  split
  · exact bits
  · exact fun idx _ set => absurd set (by simp)

theorem clearBitmap_bits (bat : Bat) : BitsTaken (clearBitmap bat) :=
  fun _ _ set => absurd set (by simp [clearBitmap])

theorem start_invariant {s t : RxPath} {bufAllocs fragAllocs : Nat → Option Nat} {hwReady : Bool}
    (inv : BitmapInvariant s) (uncounted : ∀ type bidCnt, s.work ≠ .counted type bidCnt)
    (taken : rxStart bufAllocs fragAllocs hwReady s = some t) : BitmapInvariant t := by
  have cleared : BatBounds (clearBitmap s.normal) := ⟨inv.normal.1, inv.normal.2⟩
  have normal := rxBufAlloc_posts bufAllocs true none (s.normal.batSizeCnt - 1) cleared
  have normalBits := normal.bitsTaken (clearBitmap_bits s.normal)
  have frag := rxFragAlloc_posts fragAllocs true (s.frag.batSizeCnt - 1) inv.frag
  have fragBits := frag.bitsTaken inv.sound.2.1
  unfold rxStart at taken
  split at taken
  · cases taken
  · dsimp only at taken
    split at taken
    · cases taken
      exact BitmapInvariant.of_uncounted normal.bounds inv.frag normalBits inv.sound.2.1 uncounted
    · split at taken
      · cases taken
        exact BitmapInvariant.of_uncounted (batFree_bounds normal.bounds) frag.bounds
          (batFree_bits normalBits) fragBits uncounted
      · split at taken
        · cases taken
          exact BitmapInvariant.of_uncounted (batFree_bounds normal.bounds)
            (batFree_bounds frag.bounds) (batFree_bits normalBits) (batFree_bits fragBits) uncounted
        · cases taken
          exact BitmapInvariant.of_uncounted normal.bounds frag.bounds normalBits fragBits uncounted

theorem stop_invariant {s t : RxPath} (inv : BitmapInvariant s)
    (clear : ∀ idx < s.frag.batSizeCnt, s.frag.batBitmap idx = false)
    (taken : rxStop s = some t) : BitmapInvariant t := by
  have normalPos : 0 < s.normal.batSizeCnt := Nat.lt_of_le_of_lt (Nat.zero_le _) inv.normal.write
  have fragPos : 0 < s.frag.batSizeCnt := Nat.lt_of_le_of_lt (Nat.zero_le _) inv.frag.write
  unfold rxStop at taken
  split at taken
  · cases taken
  · cases taken
    refine ⟨⟨normalPos, normalPos⟩, ⟨fragPos, fragPos⟩, ?_, ?_, ?_⟩
    · exact fun _ _ set => absurd set (by simp [resetIndices, clearBitmap])
    · intro idx below set
      have unset : s.frag.batBitmap idx = false := clear idx below
      exact absurd (set.symm.trans unset) (by decide)
    · intro type bidCnt _ filled
      cases type <;> exact absurd rfl filled

theorem workCount_invariant {s t : RxPath} {type : BatType} (inv : BitmapInvariant s)
    (taken : workCount type s = some t) : BitmapInvariant t := by
  obtain ⟨bounds, bits⟩ := inv.table type
  unfold workCount at taken
  split at taken
  · cases taken
  · dsimp only at taken
    split at taken
    · cases taken
      exact inv
    · cases taken
      refine ⟨inv.normal, inv.frag, inv.sound.1, inv.sound.2.1, ?_⟩
      intro other bidCnt counted filled j below
      cases counted
      obtain ⟨most, ones⟩ := availPktBatCnt_bits bounds.release
      have place : (s.table type).wrap ((s.table type).batReleaseRdIdx + j) <
          (s.table type).batSizeCnt := Ring.wrap_lt (by have := bounds.release; omega)
      exact bits _ place (ones j below)

/-- A release is refused with another value than its count, or none of its slots is one the hardware may
    still read. -/
theorem releaseBatEntry_cases {bat : Bat} (queStarted : Bool) (k hwRdIdx : Nat) (bounds : BatBounds bat) :
    (∃ ret ≤ 0, ret ≠ (k : Int) ∧ releaseBatEntry queStarted k hwRdIdx bat = (bat, ret)) ∨
    (releaseBatEntry queStarted k hwRdIdx bat =
        ({ bat with
          batBitmap := clearBits k bat
          batReleaseRdIdx := bat.wrap (bat.batReleaseRdIdx + k) }, (k : Int)) ∧
      k < bat.batSizeCnt ∧ k ≤ Ring.distance bat.batSizeCnt bat.batReleaseRdIdx hwRdIdx) := by
  have release := bounds.release
  have invalid : (-EINVAL : Int) ≤ 0 := by decide
  have other : (-EINVAL : Int) ≠ k := by
    have negative : (-EINVAL : Int) < 0 := by decide
    omega
  unfold releaseBatEntry Ring.distance
  dsimp only
  split
  · exact Or.inl ⟨_, invalid, other, rfl⟩
  · rename_i counted
    split
    · exact Or.inl ⟨0, le_rfl, by omega, rfl⟩
    · split
      · exact Or.inl ⟨_, invalid, other, rfl⟩
      · rename_i ahead
        split
        · exact Or.inl ⟨_, invalid, other, rfl⟩
        · rename_i behind
          refine Or.inr ⟨rfl, by omega, ?_⟩
          split <;> omega

theorem releaseBatEntry_bits {bat : Bat} (queStarted : Bool) (relEntryNum hwRdIdx : Nat)
    (bounds : BatBounds bat) (bits : BitsTaken bat) :
    BatBounds (releaseBatEntry queStarted relEntryNum hwRdIdx bat).1 ∧
      BitsTaken (releaseBatEntry queStarted relEntryNum hwRdIdx bat).1 := by
  have release := bounds.release
  rcases releaseBatEntry_cases queStarted relEntryNum hwRdIdx bounds with
    ⟨ret, _, _, same⟩ | ⟨moved, few, _⟩
  · rw [same]
    exact ⟨bounds, bits⟩
  · rw [moved]
    refine ⟨⟨bounds.write, Ring.wrap_lt (by omega)⟩, ?_⟩
    intro idx below set
    obtain ⟨before, apart⟩ := clearBits_set set
    obtain ⟨within, empty⟩ := bits idx below before
    exact ⟨Ring.within_drop release bounds.write below few apart within, empty⟩

theorem workRelease_invariant {s t : RxPath} {hwRdIdx : Nat} (inv : BitmapInvariant s)
    (taken : workRelease hwRdIdx s = some t) : BitmapInvariant t := by
  unfold workRelease at taken
  split at taken
  · rename_i type bidCnt counted
    obtain ⟨bounds, bits⟩ := inv.table type
    obtain ⟨after, kept⟩ := releaseBatEntry_bits s.queStarted bidCnt hwRdIdx bounds bits
    split at taken
    · cases taken
    · generalize releaseBatEntry s.queStarted bidCnt hwRdIdx (s.table type) = result
        at after kept taken
      obtain ⟨bat, ret⟩ := result
      cases taken
      cases type with
      | normal =>
        refine BitmapInvariant.of_uncounted ?_ inv.frag ?_ inv.sound.2.1 ?_
        · exact after
        · exact kept
        · intro other cnt
          dsimp only
          split <;> nofun
      | frag =>
        refine BitmapInvariant.of_uncounted inv.normal ?_ inv.sound.1 ?_ ?_
        · exact after
        · exact kept
        · intro other cnt
          dsimp only
          split <;> nofun
  · cases taken

theorem workAlloc_invariant {s t : RxPath} {allocs : Nat → Option Nat} {answer : HwBatAnswer}
    (inv : BitmapInvariant s) (taken : workAlloc allocs answer s = some t) : BitmapInvariant t := by
  unfold workAlloc at taken
  split at taken
  · rename_i bidCnt released
    have posts := rxBufAlloc_posts allocs s.queStarted (some answer) bidCnt inv.normal
    split at taken
    · cases taken
    · cases taken
      exact BitmapInvariant.of_uncounted posts.bounds inv.frag (posts.bitsTaken inv.sound.1)
        inv.sound.2.1 nofun
  · rename_i bidCnt released
    have posts := rxFragAlloc_posts allocs false bidCnt inv.frag
    split at taken
    · cases taken
    · cases taken
      exact BitmapInvariant.of_uncounted inv.normal posts.bounds inv.sound.1
        (posts.bitsTaken inv.sound.2.1) nofun
  · cases taken

theorem rxStep_invariant (s : RxPath) (label : RxLabel) (t : RxPath) (inv : BitmapInvariant s)
    (allowed : KeepsBitmaps s label) (taken : rxStep s label = some t) : BitmapInvariant t := by
  cases label with
  | start bufAllocs fragAllocs hwReady => exact start_invariant inv allowed taken
  | stop => exact stop_invariant inv allowed taken
  | suspend | resume =>
    cases taken
    exact ⟨inv.normal, inv.frag, inv.sound⟩
  | rxPkt curBid fits =>
    simp only [rxStep] at taken
    split at taken
    · cases taken
      rcases getRxPkt_cases curBid fits s.normal with same | ⟨room, passes, takes⟩
      · rw [same]
        exact inv
      · rw [takes]
        exact take_invariant .normal inv (allowed room passes)
    · cases taken
  | rxFrag curBid word =>
    simp only [rxStep] at taken
    split at taken
    · cases taken
      rcases getFrag_cases curBid word s.frag with same | ⟨found, passes, takes⟩
      · rw [same]
        exact inv
      · rw [takes]
        exact take_invariant .frag inv (allowed found passes)
    · cases taken
  | workCount type => exact workCount_invariant inv taken
  | workRelease hwRdIdx => exact workRelease_invariant inv taken
  | workAlloc allocs answer => exact workAlloc_invariant inv taken

theorem rxInit_invariant : BitmapInvariant rxInit := by
  refine ⟨⟨by decide, by decide⟩, ⟨by decide, by decide⟩, ?_, ?_, nofun⟩
  · exact fun _ _ set => absurd set (by simp [rxInit, batAlloc])
  · exact fun _ _ set => absurd set (by simp [rxInit, batAlloc])

/-- Bits stand for taken slots as long as no stop leaves fragment bits behind. -/
theorem bitmaps_stay_sound (labels : List RxLabel) (kept : Obeys KeepsBitmaps rxStep rxInit labels) :
    Visits BitmapsSound rxStep rxInit labels :=
  Visits.of_invariant BitmapInvariant (fun _ inv => inv.sound) rxStep_invariant rxInit_invariant kept

end Steps

section Starting

variable {allocs : Nat → Option Nat}

theorem emptyRoom {bat : Bat} (big : 1 < bat.batSizeCnt) (release : bat.batReleaseRdIdx = 0)
    (write : bat.batWrIdx = 0) :
    ringBufRdWrCount bat.batSizeCnt bat.batReleaseRdIdx bat.batWrIdx .write = bat.batSizeCnt - 1 := by
  rw [release, write, ringBufRdWrCount_write _ _ _ (by omega) (by omega), Ring.distance_self]
  rfl

theorem rxBufAlloc_full {bat : Bat} (full : ∀ i, allocs i ≠ none) (big : 1 < bat.batSizeCnt)
    (release : bat.batReleaseRdIdx = 0) (write : bat.batWrIdx = 0) :
    ∃ t, rxBufAlloc allocs true none (bat.batSizeCnt - 1) bat = (t, 0) ∧
      t.batSizeCnt = bat.batSizeCnt ∧ t.batReleaseRdIdx = 0 ∧ t.batWrIdx = bat.batSizeCnt - 1 ∧
      t.freed = bat.freed := by
  have room := emptyRoom big release write
  have ring := fillBat_ring allocs bat.batWrIdx (bat.batSizeCnt - 1) 0 bat
  obtain ⟨count, _, _⟩ := fillBat_full allocs full bat.batWrIdx (bat.batSizeCnt - 1) 0 bat
  unfold rxBufAlloc
  rw [if_neg (by omega), if_neg (by omega)]
  generalize fillBat allocs bat.batWrIdx (bat.batSizeCnt - 1) 0 bat = result at ring count
  obtain ⟨t, i⟩ := result
  dsimp only at ring count ⊢
  have written : updateBatWrIdx true i t = ({ t with batWrIdx := bat.batSizeCnt - 1 }, 0) := by
    unfold updateBatWrIdx
    rw [ring.write, ring.release, ring.size, write, release, count]
    dsimp only
    rw [if_neg (by simp), if_neg (by omega), if_neg (by omega)]
    simp
  rw [if_neg (by omega), written]
  exact ⟨_, rfl, ring.size, ring.release.trans release, rfl, ring.freed⟩

theorem rxFragAlloc_full {bat : Bat} (full : ∀ i, allocs i ≠ none) (big : 1 < bat.batSizeCnt)
    (release : bat.batReleaseRdIdx = 0) (write : bat.batWrIdx = 0) :
    ∃ t, rxFragAlloc allocs true (bat.batSizeCnt - 1) bat = (t, 0) ∧
      t.batSizeCnt = bat.batSizeCnt ∧ t.batBitmap = bat.batBitmap ∧ t.batSkb 0 ≠ none := by
  have room := emptyRoom big release write
  have ring := fillBat_ring allocs bat.batWrIdx (bat.batSizeCnt - 1) 0 bat
  obtain ⟨count, _, filled⟩ := fillBat_full allocs full bat.batWrIdx (bat.batSizeCnt - 1) 0 bat
  have first := filled 0 le_rfl (by omega)
  rw [show bat.wrap (bat.batWrIdx + 0) = 0 by simp [Bat.wrap, write]] at first
  unfold rxFragAlloc
  rw [if_neg (by omega), if_neg (by omega)]
  generalize fillBat allocs bat.batWrIdx (bat.batSizeCnt - 1) 0 bat = result at ring count first
  obtain ⟨t, i⟩ := result
  dsimp only at ring count first ⊢
  rw [if_neg (by omega)]
  exact ⟨_, rfl, ring.size, ring.bitmap, first⟩

theorem rxStart_filled {bufAllocs fragAllocs : Nat → Option Nat} {s : RxPath} {normal frag : Bat}
    (off : s.state ≠ .pwron) (alive : s.normal.freed = false)
    (normalFilled : rxBufAlloc bufAllocs true none (s.normal.batSizeCnt - 1) (clearBitmap s.normal) =
      (normal, 0))
    (fragFilled : rxFragAlloc fragAllocs true (s.frag.batSizeCnt - 1) s.frag = (frag, 0)) :
    rxStart bufAllocs fragAllocs true s =
      some { s with normal, frag, queStarted := true, state := .pwron } := by
  unfold rxStart
  rw [if_neg (by simp [off, alive])]
  dsimp only
  rw [normalFilled]
  dsimp only
  rw [if_neg (by simp), fragFilled]
  simp

theorem rxStart_full {s : RxPath} (full : ∀ i, allocs i ≠ none) (off : s.state ≠ .pwron)
    (alive : s.normal.freed = false) (normalBig : 1 < s.normal.batSizeCnt)
    (fragBig : 1 < s.frag.batSizeCnt)
    (normalEmpty : s.normal.batReleaseRdIdx = 0 ∧ s.normal.batWrIdx = 0)
    (fragEmpty : s.frag.batReleaseRdIdx = 0 ∧ s.frag.batWrIdx = 0) :
    ∃ normal frag, rxStart allocs allocs true s =
        some { s with normal, frag, queStarted := true, state := .pwron } ∧
      (normal.freed = false ∧ Ring.Within normal.batSizeCnt normal.batReleaseRdIdx
        normal.batWrIdx 0) ∧
      frag.batSizeCnt = s.frag.batSizeCnt ∧ frag.batBitmap = s.frag.batBitmap ∧
      frag.batSkb 0 ≠ none := by
  obtain ⟨normal, filled, normalSize, release, write, kept⟩ := @rxBufAlloc_full allocs
    (clearBitmap s.normal) full normalBig normalEmpty.1 normalEmpty.2
  obtain ⟨frag, fragFilled, fragSize, bitmap, first⟩ := rxFragAlloc_full full fragBig fragEmpty.1
    fragEmpty.2
  have within : Ring.Within normal.batSizeCnt normal.batReleaseRdIdx normal.batWrIdx 0 := by
    have size : (clearBitmap s.normal).batSizeCnt = s.normal.batSizeCnt := rfl
    rw [release, write, normalSize, size]
    unfold Ring.Within Ring.distance
    rw [if_pos le_rfl, if_pos (Nat.zero_le _)]
    omega
  have started := rxStart_filled off alive filled fragFilled
  exact ⟨normal, frag, started, ⟨kept.trans alive, within⟩, fragSize, bitmap, first⟩

def pages (i : Nat) : Option Nat := some (i + 1)

theorem firstStart_full :
    ∃ normal frag, rxStep rxInit (.start pages pages true) =
        some ⟨normal, frag, true, .pwron, .idle⟩ ∧
      (normal.freed = false ∧ Ring.Within normal.batSizeCnt normal.batReleaseRdIdx
        normal.batWrIdx 0) ∧
      frag.batSizeCnt = DPMAIF_FRG_COUNT ∧ frag.batBitmap = (fun _ => false) ∧
      frag.batSkb 0 ≠ none :=
  @rxStart_full pages rxInit (fun _ => Option.some_ne_none _) (by decide) rfl (by decide)
    (by decide) ⟨rfl, rfl⟩ ⟨rfl, rfl⟩

theorem bitmaps_stay_sound_restart :
    Visits BitmapsSound rxStep rxInit
      [.start pages pages true, .rxPkt 0 true, .stop, .start pages pages true] := by
  refine bitmaps_stay_sound _ ?_
  obtain ⟨normal, frag, started, ⟨alive, posted⟩, _, clear, _⟩ := firstStart_full
  intro s taken
  rw [started] at taken
  cases taken
  refine ⟨fun _ _ => nofun, fun s taken => ?_⟩
  cases taken
  refine ⟨fun _ _ => posted, fun s taken => ⟨fun _ _ => congrFun clear _, ?_⟩⟩
  intro t restarted
  simp only [rxStep, rxStop] at taken
  split at taken
  · cases taken
  · cases taken
    exact ⟨fun _ _ => nofun, trivial⟩

/-- A fragment taken before a stop leaves its bit, and the restarted table is empty of it. -/
theorem stop_keeps_fragment_bit : ¬ ∀ labels, Visits BitmapsSound rxStep rxInit labels := by
  intro always
  obtain ⟨normal, frag, started, ⟨alive, posted⟩, size, _, page⟩ := firstStart_full
  have first := (always [.start pages pages true, .rxFrag 0 1, .stop]).2 _ started
  have passes : batCurBidCheck frag 0 = true := by
    simp [batCurBidCheck, size, DPMAIF_FRG_COUNT, Option.isSome_iff_ne_none, page]
  have second := first.2 _ rfl
  rw [show getFrag 0 1 frag = takeBatBuf 0 frag by
    simp [getFrag, passes, fragBatCurBidCheck, DPMAIF_FRG_COUNT]] at second
  have stop : rxStep ⟨normal, takeBatBuf 0 frag, true, .pwron, .idle⟩ .stop =
      some ⟨resetIndices (clearBitmap { normal with batBase := fun _ => 0 }),
        resetIndices (takeBatBuf 0 frag), false, .pwroff, .idle⟩ := by
    simp [rxStep, rxStop, alive]
  obtain ⟨_, bits, _⟩ : BitmapsSound _ := second.2 _ stop
  have taken := bits 0 (by simp [resetIndices, takeBatBuf, size, DPMAIF_FRG_COUNT])
    (by simp [resetIndices, takeBatBuf])
  exact absurd taken.1 (by simp [resetIndices, Ring.Within, Ring.distance])

end Starting

end T7xxModel.Dpmaif
