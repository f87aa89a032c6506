import T7xx.Dpmaif.BatBitmap
import Mathlib.Data.Nat.Find

namespace T7xxModel.Dpmaif

/-- Round `i` of the filling loop finds a buffer in its slot or allocates one. -/
def Supplied (allocs : Nat → Option Nat) (bat : Bat) (i : Nat) : Prop :=
  bat.batSkb (bat.wrap (bat.batWrIdx + i)) ≠ none ∨ allocs i ≠ none

instance (allocs : Nat → Option Nat) (bat : Bat) (i : Nat) : Decidable (Supplied allocs bat i) :=
  inferInstanceAs (Decidable (_ ∨ _))

/-- How many slots can be filled from the write index on, `bufCnt` at most. -/
def fillable (allocs : Nat → Option Nat) (bufCnt : Nat) (bat : Bat) : Nat :=
  Nat.findGreatest (fun n => ∀ i < n, Supplied allocs bat i) bufCnt

def InFillRange (n : Nat) (bat : Bat) (idx : Nat) : Prop :=
  ∃ i < n, idx = bat.wrap (bat.batWrIdx + i)

instance (n : Nat) (bat : Bat) (idx : Nat) : Decidable (InFillRange n bat idx) :=
  inferInstanceAs (Decidable (∃ i < n, idx = bat.wrap (bat.batWrIdx + i)))

/-- What an error of `t7xx_dpmaif_rx_buf_alloc` leaves: no buffer from outside the slots it was
    filling is gone, and the write index is back. -/
structure CleanedUp (n : Nat) (bat u : Bat) : Prop where
  freed : ∀ idx, bat.batSkb idx ≠ none → u.batSkb idx = none → InFillRange n bat idx
  write : u.batWrIdx = bat.batWrIdx

def HwAccepts (newWrIdx : Nat) : Option HwBatAnswer → Prop
  | none => True
  | some answer => answer.sent = 0 ∧ answer.wrIdx = newWrIdx

/-- The inputs on which no error comes behind the update of the write index, and those on which the
    cleanup behind a refused update frees the first slots of the table while no buffer lies there, or
    only buffers of the range. -/
def CleansUp (allocs : Nat → Option Nat) (queStarted : Bool) (hw : Option HwBatAnswer) (bufCnt : Nat)
    (bat : Bat) : Prop :=
  bufCnt = 0 ∨ bat.batSizeCnt < bufCnt ∨
  ringBufRdWrCount bat.batSizeCnt bat.batReleaseRdIdx bat.batWrIdx .write < bufCnt ∨
  fillable allocs bufCnt bat = 0 ∨
  (queStarted = false ∧ ∀ idx < fillable allocs bufCnt bat, bat.batSkb idx ≠ none →
    InFillRange (fillable allocs bufCnt bat) bat idx) ∨
  (queStarted = true ∧ HwAccepts (bat.wrap (bat.batWrIdx + fillable allocs bufCnt bat)) hw)

section Filling

variable {allocs : Nat → Option Nat} {bat : Bat}

theorem fillBat_kept (allocs : Nat → Option Nat) (start rounds i : Nat) (bat : Bat) (idx : Nat)
    (present : bat.batSkb idx ≠ none) : (fillBat allocs start rounds i bat).1.batSkb idx ≠ none := by
  induction rounds generalizing i bat with
  | zero => exact present
  | succ rounds ih =>
    have posted : ∀ addr, (bat.post (bat.wrap (start + i)) addr).batSkb idx ≠ none := by
      intro addr
      by_cases here : idx = bat.wrap (start + i)
      · simp [Bat.post, here]
      · simpa [Bat.post, here] using present
    unfold fillBat
    dsimp only
    split
    · exact ih _ _ (posted _)
    · split
      · exact present
      · exact ih _ _ (posted _)

theorem fillBat_supplied (allocs : Nat → Option Nat) (start rounds i : Nat) (u : Bat)
    (size : u.batSizeCnt = bat.batSizeCnt)
    (here : start = bat.batWrIdx) (room : i + rounds ≤ bat.batSizeCnt)
    (same : ∀ j, i ≤ j → j < i + rounds →
      u.batSkb (bat.wrap (start + j)) = bat.batSkb (bat.wrap (start + j))) :
    (∀ j, i ≤ j → j < (fillBat allocs start rounds i u).2 → Supplied allocs bat j) ∧
      ((fillBat allocs start rounds i u).2 < i + rounds →
        ¬ Supplied allocs bat (fillBat allocs start rounds i u).2) := by
  induction rounds generalizing i u with
  | zero =>
    exact ⟨fun j low high => absurd high (Nat.not_lt.mpr low), fun less => absurd less (lt_irrefl i)⟩
  | succ rounds ih =>
    have slot := same i le_rfl (by omega)
    have wrapped : u.wrap (start + i) = bat.wrap (start + i) := by
      unfold Bat.wrap
      rw [size]
    have next : ∀ addr, Supplied allocs bat i →
        (∀ j, i ≤ j → j < (fillBat allocs start rounds (i + 1) (u.post (bat.wrap (start + i)) addr)).2 →
          Supplied allocs bat j) ∧
        ((fillBat allocs start rounds (i + 1) (u.post (bat.wrap (start + i)) addr)).2 < i + (rounds + 1) →
          ¬ Supplied allocs bat
            (fillBat allocs start rounds (i + 1) (u.post (bat.wrap (start + i)) addr)).2) := by
      intro addr supplied
      obtain ⟨early, stops⟩ := ih (i + 1) (u.post (bat.wrap (start + i)) addr) size (by omega) (by
        intro j low high
        have apart : bat.wrap (start + j) ≠ bat.wrap (start + i) := by
          unfold Bat.wrap
          split <;> split <;> omega
        exact (Function.update_of_ne apart _ _).trans (same j (by omega) (by omega)))
      refine ⟨fun j low high => ?_, fun less => stops (by omega)⟩
      by_cases first : j = i
      · rw [first]
        exact supplied
      · exact early j (by omega) high
    unfold fillBat
    dsimp only
    rw [wrapped, slot]
    unfold Supplied at next ⊢
    rw [← here] at next ⊢
    split
    · rename_i addr held
      exact next addr (Or.inl (by simp [held]))
    · rename_i held
      split
      · rename_i failed
        exact ⟨fun j low high => absurd high (Nat.not_lt.mpr low), fun _ => by simp [held, failed]⟩
      · rename_i addr given
        exact next addr (Or.inr (by simp [given]))

theorem fillBat_fillable (allocs : Nat → Option Nat) {bufCnt : Nat} (room : bufCnt ≤ bat.batSizeCnt) :
    (fillBat allocs bat.batWrIdx bufCnt 0 bat).2 = fillable allocs bufCnt bat := by
  obtain ⟨early, stops⟩ := fillBat_supplied allocs bat.batWrIdx bufCnt 0 bat rfl rfl
    (by omega) fun _ _ _ => rfl
  have count := (fillBat_count allocs bat.batWrIdx bufCnt 0 bat).2
  symm
  apply Nat.findGreatest_eq_iff.mpr
  refine ⟨by omega, fun _ j below => early j (Nat.zero_le j) below, fun n past most supplied => ?_⟩
  exact stops (by omega) (supplied _ past)

theorem unmapFirst_slot (i idx : Nat) (bat : Bat) :
    (unmapFirst i bat).batSkb idx = if idx < i then none else bat.batSkb idx := by
  induction i generalizing bat with
  | zero => rfl
  | succ i ih =>
    rw [unmapFirst, ih]
    by_cases last : idx = i
    · simp [last, unmapBatBuf]
    · have same : (unmapBatBuf i bat).batSkb idx = bat.batSkb idx := Function.update_of_ne last _ _
      rw [same]
      split <;> split <;> first | rfl | omega

end Filling

section Cleanup

variable {allocs : Nat → Option Nat} {bat : Bat} {bufCnt n : Nat}

theorem cleanedUp_refl (n : Nat) (bat : Bat) : CleanedUp n bat bat :=
  ⟨fun _ present gone => absurd gone present, rfl⟩

theorem cleanedUp_kept {filled : Bat} (ring : SameRing bat filled)
    (kept : ∀ idx, bat.batSkb idx ≠ none → filled.batSkb idx ≠ none) : CleanedUp n bat filled :=
  ⟨fun idx present gone => absurd gone (kept idx present), ring.write⟩

theorem cleanedUp_unmapFirst {filled : Bat} (ring : SameRing bat filled)
    (kept : ∀ idx, bat.batSkb idx ≠ none → filled.batSkb idx ≠ none) :
    CleanedUp n bat (unmapFirst n filled) ↔
      ∀ idx < n, bat.batSkb idx ≠ none → InFillRange n bat idx := by
  constructor
  · intro cleaned idx below present
    apply cleaned.freed idx present
    rw [unmapFirst_slot, if_pos below]
  · intro inside
    refine ⟨fun idx present gone => ?_, (unmapFirst_ring n filled).write.trans ring.write⟩
    rw [unmapFirst_slot] at gone
    split at gone
    · rename_i below
      exact inside idx below present
    · exact absurd gone (kept idx present)

theorem updateBatWrIdx_stopped (n : Nat) (filled : Bat) :
    updateBatWrIdx false n filled = (filled, -EINVAL) := rfl

theorem wrap_moved (some_ : n ≠ 0) (few : n < bat.batSizeCnt) :
    bat.wrap (bat.batWrIdx + n) ≠ bat.batWrIdx := by
  unfold Bat.wrap
  split <;> omega

/-- Once the write index has moved, an error of the hardware leaves it so. -/
theorem announce_cleans {posted : Bat} (hw : Option HwBatAnswer)
    (moved : posted.batWrIdx ≠ bat.batWrIdx) :
    let result : Bat × Int := match hw with
      | none => (posted, 0)
      | some answer =>
        if answer.sent ≠ 0 then (unmapFirst n posted, answer.sent)
        else if answer.wrIdx ≠ posted.batWrIdx then (unmapFirst n posted, -EFAULT)
        else (posted, 0)
    (result.2 ≠ 0 → CleanedUp n bat result.1) ↔ HwAccepts posted.batWrIdx hw := by
  have stays : ¬ CleanedUp n bat (unmapFirst n posted) := by
    intro cleaned
    have write := cleaned.write
    rw [(unmapFirst_ring n posted).write] at write
    exact moved write
  intro result
  cases hw with
  | none => simp [result, HwAccepts]
  | some answer =>
    by_cases sent : answer.sent = 0
    · by_cases reported : answer.wrIdx = posted.batWrIdx
      · simp [result, HwAccepts, sent, reported]
      · have fault : EFAULT ≠ 0 := by decide
        simp [result, HwAccepts, sent, reported, stays, fault]
    · simp [result, HwAccepts, sent, stays]

/-- A call that fills slots is decided by whether the queue is started. -/
theorem cleansUp_filling {queStarted : Bool} {hw : Option HwBatAnswer}
    (asked : ¬ (bufCnt = 0 ∨ bat.batSizeCnt < bufCnt))
    (room : ¬ ringBufRdWrCount bat.batSizeCnt bat.batReleaseRdIdx bat.batWrIdx .write < bufCnt)
    (some_ : fillable allocs bufCnt bat ≠ 0) :
    CleansUp allocs queStarted hw bufCnt bat ↔
      if queStarted then HwAccepts (bat.wrap (bat.batWrIdx + fillable allocs bufCnt bat)) hw
      else ∀ idx < fillable allocs bufCnt bat, bat.batSkb idx ≠ none →
        InFillRange (fillable allocs bufCnt bat) bat idx := by
  obtain ⟨positive, fits⟩ := not_or.mp asked
  unfold CleansUp
  cases queStarted <;> simp [positive, fits, room, some_]

end Cleanup

/-- An error of the buffer allocation frees only what it was filling and restores the write index
    exactly on these inputs. -/
theorem rx_buf_alloc_cleans_up (allocs : Nat → Option Nat) (queStarted : Bool)
    (hw : Option HwBatAnswer) (bufCnt : Nat) (bat : Bat) (bounds : BatBounds bat) :
    ((rxBufAlloc allocs queStarted hw bufCnt bat).2 ≠ 0 →
      CleanedUp (fillable allocs bufCnt bat) bat (rxBufAlloc allocs queStarted hw bufCnt bat).1) ↔
    CleansUp allocs queStarted hw bufCnt bat := by
  unfold rxBufAlloc
  by_cases bad : bufCnt = 0 ∨ bat.batSizeCnt < bufCnt
  · rw [if_pos bad]
    exact iff_of_true (fun _ => cleanedUp_refl _ _) (by unfold CleansUp; tauto)
  by_cases full : ringBufRdWrCount bat.batSizeCnt bat.batReleaseRdIdx bat.batWrIdx .write < bufCnt
  · rw [if_neg bad, if_pos full]
    exact iff_of_true (fun _ => cleanedUp_refl _ _) (by unfold CleansUp; tauto)
  have turn := bounds.turn (Nat.not_lt.mp full)
  have ring := fillBat_ring allocs bat.batWrIdx bufCnt 0 bat
  have kept := fillBat_kept allocs bat.batWrIdx bufCnt 0 bat
  have count := fillBat_fillable allocs (show bufCnt ≤ bat.batSizeCnt by omega)
  have most : fillable allocs bufCnt bat ≤ bufCnt := Nat.findGreatest_le bufCnt
  rw [if_neg bad, if_neg full]
  dsimp only
  rw [count]
  generalize (fillBat allocs bat.batWrIdx bufCnt 0 bat).1 = filled at ring kept
  by_cases none_ : fillable allocs bufCnt bat = 0
  · rw [if_pos none_]
    exact iff_of_true (fun _ => cleanedUp_kept ring kept) (by unfold CleansUp; tauto)
  rw [if_neg none_, cleansUp_filling bad full none_]
  generalize fillable allocs bufCnt bat = n at most none_
  cases queStarted with
  | false =>
    rw [updateBatWrIdx_stopped]
    dsimp only
    rw [if_pos (by decide)]
    dsimp only
    rw [cleanedUp_unmapFirst ring kept]
    exact forall_prop_of_true (by decide)
  | true =>
    rw [updateBatWrIdx_accepts (ring.bounds bounds)
      (by rw [ring.size, ring.release, ring.write]; omega)]
    dsimp only
    rw [if_neg (by simp), ring.wrap, ring.write]
    have moved : ({ filled with batWrIdx := bat.wrap (bat.batWrIdx + n) } : Bat).batWrIdx ≠
        bat.batWrIdx := wrap_moved none_ (by omega)
    exact announce_cleans hw moved

/-- A table whose first slot holds a buffer that is not consumed, about to fill from slot 5 on. -/
def postedBat : Bat :=
  { batAlloc .normal with
    batWrIdx := 5
    batSkb := fun idx => if idx < 5 then some (idx + 1) else none }

theorem postedBat_bounds : BatBounds postedBat := ⟨by decide, by decide⟩

theorem postedBat_cleansUp : CleansUp (fun i => some (i + 6)) true (some ⟨0, 7⟩) 2 postedBat := by
  have two : fillable (fun i => some (i + 6)) 2 postedBat = 2 := by decide
  unfold CleansUp
  rw [two]
  simp [HwAccepts, postedBat, batAlloc, Bat.wrap, DPMAIF_BAT_COUNT]

theorem rx_buf_alloc_cleans_up_accepted :
    ((rxBufAlloc (fun i => some (i + 6)) true (some ⟨0, 7⟩) 2 postedBat).2 ≠ 0 →
      CleanedUp (fillable (fun i => some (i + 6)) 2 postedBat) postedBat
        (rxBufAlloc (fun i => some (i + 6)) true (some ⟨0, 7⟩) 2 postedBat).1) ∧
    CleansUp (fun i => some (i + 6)) true (some ⟨0, 7⟩) 2 postedBat :=
  ⟨(rx_buf_alloc_cleans_up _ true (some ⟨0, 7⟩) 2 postedBat postedBat_bounds).mpr postedBat_cleansUp,
    postedBat_cleansUp⟩

/-- The hardware reports another write index: the two buffers in front are freed in place of the two
    new ones, and the write index stays where it was moved. -/
theorem rx_buf_alloc_frees_posted :
    ¬ ∀ allocs queStarted hw bufCnt bat, BatBounds bat →
      (rxBufAlloc allocs queStarted hw bufCnt bat).2 ≠ 0 →
      CleanedUp (fillable allocs bufCnt bat) bat (rxBufAlloc allocs queStarted hw bufCnt bat).1 := by
  intro always
  have cleaned := always (fun i => some (i + 6)) true (some ⟨0, 5⟩) 2 postedBat postedBat_bounds
    (by decide)
  exact absurd cleaned.write (by decide)

end T7xxModel.Dpmaif
