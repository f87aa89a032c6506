import T7xx.Dpmaif.BatBitmap

namespace T7xxModel.Dpmaif

/-- `n` slots from the release index on have their bit set, and no more of them do. -/
structure LongestRun (bat : Bat) (n : Nat) : Prop where
  most : n ≤ bat.batSizeCnt
  set : ∀ j < n, bat.batBitmap ((bat.batReleaseRdIdx + j) % bat.batSizeCnt) = true
  ends : n < bat.batSizeCnt → bat.batBitmap ((bat.batReleaseRdIdx + n) % bat.batSizeCnt) = false

/-- A release of `k` slots: all of them lie before the hardware read index, their bits are cleared,
    and the release index moves behind them. -/
structure ReleasedSlots (k hwRdIdx : Nat) (bat u : Bat) : Prop where
  before : k ≤ Ring.distance bat.batSizeCnt bat.batReleaseRdIdx hwRdIdx
  cleared : ∀ idx, u.batBitmap idx =
    if idx ∈ Ring.slots bat.batSizeCnt bat.batReleaseRdIdx k then false else bat.batBitmap idx
  release : u.batReleaseRdIdx = (bat.batReleaseRdIdx + k) % bat.batSizeCnt
  others : u = { bat with batBitmap := u.batBitmap, batReleaseRdIdx := u.batReleaseRdIdx }

section Counting

variable {bat : Bat}

theorem LongestRun.unique {m n : Nat} (first : LongestRun bat m) (second : LongestRun bat n) :
    m = n := by
  rcases Nat.lt_trichotomy m n with less | same | more
  · have zero := first.ends (Nat.lt_of_lt_of_le less second.most)
    rw [second.set m less] at zero
    cases zero
  · exact same
  · have zero := second.ends (Nat.lt_of_lt_of_le more first.most)
    rw [first.set n more] at zero
    cases zero

/-- Where the search ends within its bounds it has found a zero bit. -/
theorem findNextZeroBit_zero (bitmap : Nat → Bool) (rounds idx : Nat)
    (found : findNextZeroBit bitmap rounds idx < idx + rounds) :
    bitmap (findNextZeroBit bitmap rounds idx) = false := by
  induction rounds generalizing idx with
  | zero => exact absurd found (lt_irrefl idx)
  | succ rounds ih =>
    unfold findNextZeroBit at found ⊢
    split
    · rename_i set
      rw [if_pos set] at found
      exact ih (idx + 1) (by omega)
    · rename_i clear
      simpa using clear

theorem wrap_slot (release : bat.batReleaseRdIdx < bat.batSizeCnt) {j : Nat}
    (room : j ≤ bat.batSizeCnt) :
    bat.wrap (bat.batReleaseRdIdx + j) = (bat.batReleaseRdIdx + j) % bat.batSizeCnt := by
  have turned := Ring.advance_mod bat.batReleaseRdIdx room (Nat.zero_lt_of_lt release)
  rwa [Nat.mod_eq_of_lt release] at turned

/-- The two searches, up to the end of the table and from its start, count one run. -/
theorem availPktBatCnt_longest (release : bat.batReleaseRdIdx < bat.batSizeCnt) :
    LongestRun bat (availPktBatCnt bat) := by
  obtain ⟨most, bits⟩ := availPktBatCnt_bits release
  refine ⟨most, fun j below => ?_, fun short => ?_⟩
  · rw [← wrap_slot release (by omega)]
    exact bits j below
  · obtain ⟨_, least, _⟩ := findNextZeroBit_spec bat.batBitmap
      (bat.batSizeCnt - bat.batReleaseRdIdx) bat.batReleaseRdIdx
    have zero := findNextZeroBit_zero bat.batBitmap (bat.batSizeCnt - bat.batReleaseRdIdx)
      bat.batReleaseRdIdx
    have zeroFirst := findNextZeroBit_zero bat.batBitmap bat.batReleaseRdIdx 0
    rw [← wrap_slot release (by omega)]
    unfold availPktBatCnt at short ⊢
    dsimp only at short ⊢
    unfold Bat.wrap
    split at short
    · rename_i inside
      rw [if_pos inside, if_neg (by omega), Nat.add_sub_cancel' least]
      exact zero (by omega)
    · rename_i outside
      rw [if_neg outside, if_pos (by omega)]
      rw [show bat.batReleaseRdIdx + (bat.batSizeCnt - bat.batReleaseRdIdx +
        findNextZeroBit bat.batBitmap bat.batReleaseRdIdx 0) - bat.batSizeCnt =
          findNextZeroBit bat.batBitmap bat.batReleaseRdIdx 0 by omega]
      exact zeroFirst (by omega)

end Counting

section Releasing

variable {bat : Bat} {k : Nat}

theorem clearBits_slots (release : bat.batReleaseRdIdx < bat.batSizeCnt) (few : k ≤ bat.batSizeCnt)
    (idx : Nat) :
    clearBits k bat idx =
      if idx ∈ Ring.slots bat.batSizeCnt bat.batReleaseRdIdx k then false else bat.batBitmap idx := by
  induction k with
  | zero => simp [clearBits, Ring.slots_zero]
  | succ k ih =>
    rw [clearBits, wrap_slot release (by omega), Ring.slots_add]
    by_cases last : idx = (bat.batReleaseRdIdx + k) % bat.batSizeCnt
    · simp [last, Ring.slots]
    · rw [Function.update_of_ne last, ih (by omega)]
      simp [Ring.slots_succ, Ring.slots_zero, last]

end Releasing

/-- The count of consumed slots is the longest run of set bits, and a release of that count frees
    exactly these slots, all of which the hardware has read, or changes nothing. -/
theorem bat_release_frees_run (queStarted : Bool) (hwRdIdx : Nat) (bat : Bat) (bounds : BatBounds bat) :
    LongestRun bat (availPktBatCnt bat) ∧
    ((releaseBatEntry queStarted (availPktBatCnt bat) hwRdIdx bat).2 = availPktBatCnt bat →
      ReleasedSlots (availPktBatCnt bat) hwRdIdx bat
        (releaseBatEntry queStarted (availPktBatCnt bat) hwRdIdx bat).1) ∧
    ((releaseBatEntry queStarted (availPktBatCnt bat) hwRdIdx bat).2 ≠ availPktBatCnt bat →
      (releaseBatEntry queStarted (availPktBatCnt bat) hwRdIdx bat).1 = bat) := by
  have release := bounds.release
  refine ⟨availPktBatCnt_longest release, ?_⟩
  rcases releaseBatEntry_cases queStarted (availPktBatCnt bat) hwRdIdx bounds with
    ⟨ret, _, other, result⟩ | ⟨result, few, before⟩
  · rw [result]
    exact ⟨fun same => absurd same other, fun _ => rfl⟩
  · rw [result]
    refine ⟨fun _ => ⟨before, ?_, ?_, rfl⟩, fun other => absurd rfl other⟩
    · exact clearBits_slots release (Nat.le_of_lt few)
    · exact wrap_slot release (Nat.le_of_lt few)

def wrappedBat : Bat :=
  { batAlloc .normal with
    batWrIdx := 100
    batReleaseRdIdx := 8190
    batBitmap := fun idx => decide (idx = 8190 ∨ idx = 8191 ∨ idx < 2) }

theorem bat_release_frees_run_wrapped :
    LongestRun wrappedBat (availPktBatCnt wrappedBat) ∧
    ((releaseBatEntry true (availPktBatCnt wrappedBat) 2 wrappedBat).2 =
        availPktBatCnt wrappedBat →
      ReleasedSlots (availPktBatCnt wrappedBat) 2 wrappedBat
        (releaseBatEntry true (availPktBatCnt wrappedBat) 2 wrappedBat).1) ∧
    ((releaseBatEntry true (availPktBatCnt wrappedBat) 2 wrappedBat).2 ≠
        availPktBatCnt wrappedBat →
      (releaseBatEntry true (availPktBatCnt wrappedBat) 2 wrappedBat).1 = wrappedBat) :=
  bat_release_frees_run true 2 wrappedBat ⟨by decide, by decide⟩

end T7xxModel.Dpmaif
