import Mathlib.Data.List.Basic

namespace Words

/-- The little-endian word at a place of a buffer. -/
def load (bytes : Nat → BitVec 8) (place : Nat) : BitVec 32 :=
  bytes (place + 3) ++ bytes (place + 2) ++ bytes (place + 1) ++ bytes place

def store (bytes : Nat → BitVec 8) (place : Nat) (word : BitVec 32) (i : Nat) : BitVec 8 :=
  if place ≤ i ∧ i < place + 4 then word.extractLsb' (8 * (i - place)) 8 else bytes i

def storeAll (bytes : Nat → BitVec 8) : Nat → List (BitVec 32) → Nat → BitVec 8
  | _, [] => bytes
  | place, word :: words => storeAll (store bytes place word) (place + 4) words

def loadAll (bytes : Nat → BitVec 8) (place : Nat) : Nat → List (BitVec 32)
  | 0 => []
  | count + 1 => load bytes place :: loadAll bytes (place + 4) count

variable {bytes other : Nat → BitVec 8} {place away : Nat}

theorem load_congr (same : ∀ i < 4, other (away + i) = bytes (place + i)) :
    load other away = load bytes place := by
  have first := same 0 (by decide)
  rw [Nat.add_zero, Nat.add_zero] at first
  unfold load
  rw [same 3 (by decide), same 2 (by decide), same 1 (by decide), first]

/-- The word at a place of a buffer that holds the bytes of `word`. -/
theorem load_extract {w : Nat} (word : BitVec w) (place : Nat) :
    load (fun i => word.extractLsb' (8 * i) 8) place = word.extractLsb' (8 * place) 32 := by
  unfold load
  apply BitVec.eq_of_getLsbD_eq
  intro i inside
  simp only [BitVec.getLsbD_append, BitVec.getLsbD_extractLsb', inside, decide_true, Bool.true_and]
  -- Which of the four bytes the bit is in.
  by_cases low : i < 8
  · simp [low]
  by_cases second : i - 8 < 8
  · have bit : 8 * (place + 1) + (i - 8) = 8 * place + i := by omega
    simp [low, second, bit]
  by_cases third : i - 8 - 8 < 8
  · have bit : 8 * (place + 2) + (i - 8 - 8) = 8 * place + i := by omega
    simp [low, second, third, bit]
  · have bit : 8 * (place + 3) + (i - 8 - 8 - 8) = 8 * place + i := by omega
    have fourth : i - 8 - 8 - 8 < 8 := by omega
    simp [low, second, third, fourth, bit]

theorem load_store (bytes : Nat → BitVec 8) (place : Nat) (word : BitVec 32) :
    load (store bytes place word) place = word := by
  have byte (i : Nat) (below : i < 4) :
      store bytes place word (place + i) = word.extractLsb' (8 * (0 + i)) 8 := by
    unfold store
    rw [if_pos ⟨Nat.le_add_right place i, by omega⟩, Nat.add_sub_cancel_left, Nat.zero_add]
  have same : load (store bytes place word) place = load (fun i => word.extractLsb' (8 * i) 8) 0 :=
    load_congr byte
  rw [same, load_extract]
  exact BitVec.extractLsb'_eq_self

theorem store_apart {i : Nat} (apart : i < place ∨ place + 4 ≤ i) (word : BitVec 32) :
    store bytes place word i = bytes i := if_neg (by omega)

theorem storeAll_apart {i : Nat} (words : List (BitVec 32))
    (apart : i < place ∨ place + 4 * words.length ≤ i) : storeAll bytes place words i = bytes i := by
  induction words generalizing bytes place with
  | nil => rfl
  | cons word words ih =>
    rw [List.length_cons] at apart
    rw [storeAll, ih (by omega), store_apart (by omega)]

theorem loadAll_congr {count : Nat} (same : ∀ i < 4 * count, other (away + i) = bytes (place + i)) :
    loadAll other away count = loadAll bytes place count := by
  induction count generalizing away place with
  | zero => rfl
  | succ count ih =>
    rw [loadAll, loadAll, load_congr fun i below => same i (by omega), ih]
    intro i below
    rw [Nat.add_assoc, Nat.add_assoc]
    exact same (4 + i) (by omega)

/-- Words that were stored one after the other are loaded again. -/
theorem loadAll_storeAll (bytes : Nat → BitVec 8) (place : Nat) (words : List (BitVec 32)) :
    loadAll (storeAll bytes place words) place words.length = words := by
  induction words generalizing bytes place with
  | nil => rfl
  | cons word words ih =>
    have kept : load (storeAll (store bytes place word) (place + 4) words) place = word := by
      rw [← load_store bytes place word]
      apply load_congr
      intro i below
      rw [load_store]
      exact storeAll_apart words (by omega)
    rw [List.length_cons, loadAll, storeAll, kept, ih]

end Words
