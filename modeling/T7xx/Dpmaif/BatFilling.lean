import T7xx.Dpmaif.BatBitmap

namespace T7xxModel.Dpmaif

/-- The slot records the buffer whose bus address its entry holds. -/
def RecordedAt (bat : Bat) (idx : Nat) : Prop := bat.batSkb idx = some (bat.batBase idx)

/-- How many entries the loop of an allocation fills. -/
def filledCnt (allocs : Nat → Option Nat) (bufCnt : Nat) (bat : Bat) : Nat :=
  if bufCnt = 0 ∨ bat.batSizeCnt < bufCnt then 0
  else if ringBufRdWrCount bat.batSizeCnt bat.batReleaseRdIdx bat.batWrIdx .write < bufCnt then 0
  else (fillBat allocs bat.batWrIdx bufCnt 0 bat).2

/-- What `t7xx_dpmaif_rx_buf_alloc` gives to `t7xx_dpmaif_dl_snd_hw_bat_cnt` after the start. -/
def sentBatCnt (allocs : Nat → Option Nat) (queStarted : Bool) (bufCnt : Nat) (bat : Bat) : Nat :=
  let i := filledCnt allocs bufCnt bat
  if (updateBatWrIdx queStarted i (fillBat allocs bat.batWrIdx bufCnt 0 bat).1).2 = 0 then i else 0

/-- Each of the first `count` slots has a buffer or is given one. -/
def Supplies (allocs : Nat → Option Nat) (bat : Bat) (count : Nat) : Prop :=
  ∀ idx < count, bat.batSkb idx = none → allocs idx ≠ none

section Filling

variable {allocs : Nat → Option Nat} {bat filled : Bat}

/-- What filling slots from `bat_wr_idx` on does to a table, when it ends with `count` of them
    passed. -/
structure Grown (t u : Bat) (count : Nat) : Prop where
  size : u.batSizeCnt = t.batSizeCnt
  release : u.batReleaseRdIdx = t.batReleaseRdIdx
  write : u.batWrIdx = t.wrap (t.batWrIdx + count)
  fits : Ring.distance t.batSizeCnt t.batReleaseRdIdx t.batWrIdx + count < t.batSizeCnt
  kept : ∀ idx, RecordedAt t idx → RecordedAt u idx
  recorded : ∀ j < count, RecordedAt u (t.wrap (t.batWrIdx + j))

theorem post_recorded (bat : Bat) (idx addr other : Nat) :
    RecordedAt (bat.post idx addr) other ↔ other = idx ∨ RecordedAt bat other := by
  unfold RecordedAt Bat.post
  by_cases here : other = idx
  · simp [here]
  · simp [here]

theorem fillBat_recorded (allocs : Nat → Option Nat) (start rounds i : Nat) (bat : Bat) :
    (∀ idx, RecordedAt bat idx → RecordedAt (fillBat allocs start rounds i bat).1 idx) ∧
      ∀ j, i ≤ j → j < (fillBat allocs start rounds i bat).2 →
        RecordedAt (fillBat allocs start rounds i bat).1 (bat.wrap (start + j)) := by
  induction rounds generalizing i bat with
  | zero => exact ⟨fun _ recorded => recorded, fun j low high => absurd high (Nat.not_lt.mpr low)⟩
  | succ rounds ih =>
    have step (addr : Nat) :
        (∀ idx, RecordedAt bat idx → RecordedAt
          (fillBat allocs start rounds (i + 1) (bat.post (bat.wrap (start + i)) addr)).1 idx) ∧
        ∀ j, i ≤ j →
          j < (fillBat allocs start rounds (i + 1) (bat.post (bat.wrap (start + i)) addr)).2 →
            RecordedAt (fillBat allocs start rounds (i + 1)
              (bat.post (bat.wrap (start + i)) addr)).1 (bat.wrap (start + j)) := by
      obtain ⟨kept, filled⟩ := ih (i + 1) (bat.post (bat.wrap (start + i)) addr)
      refine ⟨fun idx recorded => kept idx ((post_recorded _ _ _ _).mpr (.inr recorded)),
        fun j low high => ?_⟩
      by_cases first : j = i
      · rw [first]
        exact kept _ ((post_recorded _ _ _ _).mpr (.inl rfl))
      · exact filled j (by omega) high
    unfold fillBat
    dsimp only
    split
    · rename_i addr _
      exact step addr
    · split
      · exact ⟨fun _ recorded => recorded, fun j low high => absurd high (Nat.not_lt.mpr low)⟩
      · rename_i addr _
        exact step addr

theorem fillBat_stops (allocs : Nat → Option Nat) (start rounds i : Nat) (bat : Bat)
    (short : (fillBat allocs start rounds i bat).2 < i + rounds) :
    (fillBat allocs start rounds i bat).1.batSkb
      (bat.wrap (start + (fillBat allocs start rounds i bat).2)) = none := by
  induction rounds generalizing i bat with
  | zero => exact absurd short (Nat.lt_irrefl _)
  | succ rounds ih =>
    unfold fillBat at short ⊢
    dsimp only at short ⊢
    split at short
    · exact ih _ _ (by omega)
    · split at short
      · assumption
      · exact ih _ _ (by omega)

theorem fillBat_count_iff (allocs : Nat → Option Nat) (rounds i : Nat) (bat : Bat)
    (fits : i + rounds ≤ bat.batSizeCnt) :
    (fillBat allocs 0 rounds i bat).2 = i + rounds ↔
      ∀ idx, i ≤ idx → idx < i + rounds → bat.batSkb idx = none → allocs idx ≠ none := by
  induction rounds generalizing i bat with
  | zero => exact iff_of_true rfl fun idx low high => absurd high (by omega)
  | succ rounds ih =>
    have here : bat.wrap (0 + i) = i := by
      unfold Bat.wrap
      rw [if_neg (by omega), Nat.zero_add]
    have later (addr : Nat) (supplied : bat.batSkb i = none → allocs i ≠ none) :
        (fillBat allocs 0 rounds (i + 1) (bat.post i addr)).2 = i + (rounds + 1) ↔
          ∀ idx, i ≤ idx → idx < i + (rounds + 1) → bat.batSkb idx = none → allocs idx ≠ none := by
      have rest := ih (i + 1) (bat.post i addr) (by
        show i + 1 + rounds ≤ bat.batSizeCnt
        omega)
      rw [show i + 1 + rounds = i + (rounds + 1) by omega] at rest
      rw [rest]
      refine forall_congr' fun idx => ?_
      by_cases first : idx = i
      · rw [first]
        exact iff_of_true (fun low => absurd low (by omega)) fun _ _ => supplied
      · simp only [Bat.post, Function.update_of_ne first]
        exact imp_congr_left (by omega)
    unfold fillBat
    rw [here]
    cases held : bat.batSkb i with
    | some addr =>
      simp only [held]
      exact later addr fun free => by rw [held] at free; cases free
    | none =>
      cases given : allocs i with
      | none =>
        simp only [held]
        refine iff_of_false (by omega) fun all => ?_
        exact all i le_rfl (by omega) held given
      | some addr =>
        simp only [held]
        exact later addr fun _ => by rw [given]; exact Option.some_ne_none addr

theorem fillBat_grown {bufCnt : Nat} (bounds : BatBounds bat)
    (free : bufCnt ≤ ringBufRdWrCount bat.batSizeCnt bat.batReleaseRdIdx bat.batWrIdx .write)
    (written : filled = { (fillBat allocs bat.batWrIdx bufCnt 0 bat).1 with
      batWrIdx := bat.wrap (bat.batWrIdx + (fillBat allocs bat.batWrIdx bufCnt 0 bat).2) }) :
    Grown bat filled (fillBat allocs bat.batWrIdx bufCnt 0 bat).2 := by
  have ring := fillBat_ring allocs bat.batWrIdx bufCnt 0 bat
  have count := (fillBat_count allocs bat.batWrIdx bufCnt 0 bat).2
  obtain ⟨kept, new⟩ := fillBat_recorded allocs bat.batWrIdx bufCnt 0 bat
  rw [written]
  exact ⟨ring.size, ring.release, rfl, bounds.turn (by omega), kept,
    fun j below => new j (Nat.zero_le j) below⟩

theorem grown_refl (bounds : BatBounds bat) : Grown bat bat 0 := by
  have write := bounds.write
  refine ⟨rfl, rfl, ?_, Ring.distance_lt bounds.release write, fun _ recorded => recorded,
    fun j below => absurd below (Nat.not_lt_zero j)⟩
  unfold Bat.wrap
  rw [Nat.add_zero, if_neg (by omega)]

/-- `t7xx_dpmaif_rx_buf_alloc` with a hardware that takes what it is told: the slots it fills are
    passed, and it succeeds if there are any. -/
theorem rxBufAlloc_grown {bufCnt : Nat} (bounds : BatBounds bat) (hw : Option HwBatAnswer)
    (takes : ∀ answer ∈ hw,
      answer = ⟨0, bat.wrap (bat.batWrIdx + filledCnt allocs bufCnt bat)⟩) :
    Grown bat (rxBufAlloc allocs true hw bufCnt bat).1 (filledCnt allocs bufCnt bat) ∧
      ((rxBufAlloc allocs true hw bufCnt bat).2 = 0 ↔ 0 < filledCnt allocs bufCnt bat) ∧
      (0 < filledCnt allocs bufCnt bat → filledCnt allocs bufCnt bat < bufCnt →
        (rxBufAlloc allocs true hw bufCnt bat).1.batSkb
          (bat.wrap (bat.batWrIdx + filledCnt allocs bufCnt bat)) = none) := by
  unfold rxBufAlloc filledCnt at *
  split at takes
  · rename_i bad
    rw [if_pos bad, if_pos bad]
    exact ⟨grown_refl bounds, iff_of_false (by dsimp only; decide) (Nat.lt_irrefl 0), nofun⟩
  rename_i good
  rw [if_neg good, if_neg good]
  split at takes
  · rename_i short
    rw [if_pos short, if_pos short]
    exact ⟨grown_refl bounds, iff_of_false (by dsimp only; decide) (Nat.lt_irrefl 0), nofun⟩
  rename_i enough
  rw [if_neg enough, if_neg enough]
  have free : bufCnt ≤
      ringBufRdWrCount bat.batSizeCnt bat.batReleaseRdIdx bat.batWrIdx .write := by omega
  have grown := @fillBat_grown allocs bat _ bufCnt bounds free rfl
  have ring := fillBat_ring allocs bat.batWrIdx bufCnt 0 bat
  have stops := fillBat_stops allocs bat.batWrIdx bufCnt 0 bat
  rw [Nat.zero_add] at stops
  generalize fillBat allocs bat.batWrIdx bufCnt 0 bat = result at *
  obtain ⟨t, i⟩ := result
  dsimp only at grown ring takes stops ⊢
  have filledBounds : BatBounds t := ring.bounds bounds
  by_cases nothing : i = 0
  · rw [if_pos nothing]
    refine ⟨?_, iff_of_false (by dsimp only; decide) (by omega), fun filled => by omega⟩
    rw [nothing] at grown ⊢
    have same : bat.wrap (bat.batWrIdx + 0) = t.batWrIdx := by
      have write := bounds.write
      unfold Bat.wrap
      rw [Nat.add_zero, if_neg (by omega), ring.write]
    rwa [same] at grown
  · rw [if_neg nothing]
    have accepted := @updateBatWrIdx_accepts _ i filledBounds (by
      rw [ring.size, ring.release, ring.write]
      exact grown.fits)
    rw [ring.wrap, ring.write] at accepted
    rw [accepted]
    dsimp only
    rw [if_neg (by simp)]
    cases hw with
    | none => exact ⟨grown, iff_of_true rfl (by omega), fun _ => stops⟩
    | some answer =>
      rw [takes answer rfl]
      dsimp only
      rw [if_neg (by simp), if_neg (by simp)]
      exact ⟨grown, iff_of_true rfl (by omega), fun _ => stops⟩

theorem filledCnt_fits {bufCnt : Nat} (bounds : BatBounds bat) :
    filledCnt allocs bufCnt bat < bat.batSizeCnt := by
  have write := bounds.write
  have room := ringBufRdWrCount_write bat.batSizeCnt bat.batReleaseRdIdx bat.batWrIdx
    bounds.release bounds.write
  have count := (fillBat_count allocs bat.batWrIdx bufCnt 0 bat).2
  have near := Ring.distance_lt bounds.release bounds.write
  unfold filledCnt
  split
  · omega
  split
  · omega
  · omega

theorem sentBatCnt_eq {bufCnt : Nat} (bounds : BatBounds bat) :
    sentBatCnt allocs true bufCnt bat = filledCnt allocs bufCnt bat := by
  unfold sentBatCnt filledCnt
  dsimp only
  split
  · simp
  · split
    · simp
    · rename_i good enough
      have free : bufCnt ≤
          ringBufRdWrCount bat.batSizeCnt bat.batReleaseRdIdx bat.batWrIdx .write := by omega
      have grown := @fillBat_grown allocs bat _ bufCnt bounds free rfl
      have ring := fillBat_ring allocs bat.batWrIdx bufCnt 0 bat
      have accepted := @updateBatWrIdx_accepts _ _ (ring.bounds bounds) (by
        rw [ring.size, ring.release, ring.write]
        exact grown.fits)
      rw [accepted, if_pos rfl]

/-- `t7xx_dpmaif_rx_frag_alloc` passes the slots that it fills, and succeeds if they are all. -/
theorem rxFragAlloc_grown {bufCnt : Nat} (initial : Bool) (bounds : BatBounds bat) :
    ((rxFragAlloc allocs initial bufCnt bat).2 = 0 ↔
      0 < bufCnt ∧ filledCnt allocs bufCnt bat = bufCnt) ∧
      (initial = false ∨ (rxFragAlloc allocs initial bufCnt bat).2 = 0 →
        Grown bat (rxFragAlloc allocs initial bufCnt bat).1 (filledCnt allocs bufCnt bat)) := by
  unfold rxFragAlloc filledCnt
  split
  · rename_i bad
    refine ⟨iff_of_false (by dsimp only; decide) fun ⟨positive, _⟩ => ?_, fun _ => grown_refl bounds⟩
    omega
  split
  · rename_i good short
    refine ⟨iff_of_false (by dsimp only; decide) fun ⟨positive, full⟩ => ?_, fun _ => grown_refl bounds⟩
    omega
  rename_i good enough
  have free : bufCnt ≤
      ringBufRdWrCount bat.batSizeCnt bat.batReleaseRdIdx bat.batWrIdx .write := by omega
  have grown := @fillBat_grown allocs bat _ bufCnt bounds free rfl
  have ring := fillBat_ring allocs bat.batWrIdx bufCnt 0 bat
  have count := (fillBat_count allocs bat.batWrIdx bufCnt 0 bat).2
  rw [← ring.wrap] at grown
  generalize fillBat allocs bat.batWrIdx bufCnt 0 bat = result at *
  obtain ⟨t, i⟩ := result
  dsimp only at grown count ⊢
  split
  · refine ⟨iff_of_false (by dsimp only; decide) fun ⟨_, full⟩ => by omega, fun asked => ?_⟩
    rcases asked with later | succeeded
    · rw [later]
      exact grown
    · cases succeeded
  · exact ⟨iff_of_true rfl ⟨by omega, by omega⟩, fun _ => grown⟩

theorem fillBat_positive {rounds : Nat} (some_rounds : 0 < rounds)
    (big : 1 < bat.batSizeCnt) :
    0 < (fillBat allocs 0 rounds 0 bat).2 ↔ Supplies allocs bat 1 := by
  obtain ⟨rounds, rfl⟩ := Nat.exists_eq_succ_of_ne_zero (Nat.pos_iff_ne_zero.mp some_rounds)
  have here : bat.wrap (0 + 0) = 0 := by
    unfold Bat.wrap
    rw [if_neg (by omega)]
  have more (addr : Nat) := (fillBat_count allocs 0 rounds 1 (bat.post 0 addr)).1
  have first : Supplies allocs bat 1 ↔ (bat.batSkb 0 = none → allocs 0 ≠ none) := by
    unfold Supplies
    constructor
    · exact fun all => all 0 Nat.one_pos
    · intro supplied idx below
      rw [Nat.lt_one_iff.mp below]
      exact supplied
  rw [first]
  unfold fillBat
  rw [here]
  cases held : bat.batSkb 0 with
  | some addr =>
    simp only [held]
    exact iff_of_true (more addr) fun free => absurd free (Option.some_ne_none addr)
  | none =>
    cases given : allocs 0 with
    | none =>
      simp only [held]
      exact iff_of_false (Nat.lt_irrefl 0) fun supplied => supplied trivial rfl
    | some addr =>
      simp only [held]
      exact iff_of_true (more addr) fun _ => Option.some_ne_none addr

end Filling

end T7xxModel.Dpmaif
