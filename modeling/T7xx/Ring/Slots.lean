import Mathlib.Data.Fin.Basic
import Mathlib.Data.List.Perm.Basic
import Mathlib.Data.List.Perm.Subperm
import Mathlib.Data.List.Nodup
import Mathlib.Data.List.Range
import Mathlib.Data.Nat.ModEq
import Mathlib.Tactic.SplitIfs

namespace Ring

def next (n i : Nat) : Nat := if i + 1 < n then i + 1 else 0

def wrap (n i : Nat) : Nat := if n ≤ i then i - n else i

def distance (n i j : Nat) : Nat := if i ≤ j then j - i else n + j - i

/-- An index lies from `i` on and before `j`, going round the ring. -/
def Within (n i j k : Nat) : Prop := distance n i k < distance n i j

instance (n i j k : Nat) : Decidable (Within n i j k) :=
  inferInstanceAs (Decidable (distance n i k < distance n i j))

/-- The `count` indices of a ring of `n` from `start` on; `start` itself may have wrapped. -/
def slots (n start count : Nat) : List Nat := (List.range count).map fun k => (start + k) % n

section Indices

variable {n a b i j : Nat}

theorem mod_cases (a : Nat) {n d : Nat} (room : d ≤ n) (pos : 0 < n) :
    (a % n + d < n ∧ (a + d) % n = a % n + d) ∨ (n ≤ a % n + d ∧ (a + d) % n = a % n + d - n) := by
  have below : a % n < n := Nat.mod_lt a pos
  have split : (a + d) % n = (a % n + d) % n := (Nat.mod_add_mod a n d).symm
  by_cases wraps : a % n + d < n
  · left
    exact ⟨wraps, by rw [split, Nat.mod_eq_of_lt wraps]⟩
  · right
    refine ⟨by omega, ?_⟩
    rw [split, Nat.mod_eq_sub_mod (by omega), Nat.mod_eq_of_lt (by omega)]

theorem next_mod (a : Nat) (pos : 0 < n) : next n (a % n) = (a + 1) % n := by
  unfold next
  rcases mod_cases a (show 1 ≤ n from pos) pos with ⟨stays, value⟩ | ⟨wraps, value⟩
  · rw [if_pos stays, value]
  · have below : a % n < n := Nat.mod_lt a pos
    rw [if_neg (by omega), value]
    omega

theorem advance_mod (a : Nat) {n d : Nat} (room : d ≤ n) (pos : 0 < n) :
    (if n ≤ a % n + d then a % n + d - n else a % n + d) = (a + d) % n := by
  rcases mod_cases a room pos with ⟨stays, value⟩ | ⟨wraps, value⟩
  · rw [if_neg (by omega), value]
  · rw [if_pos wraps, value]

theorem distance_lt (first : i < n) (second : j < n) : distance n i j < n := by
  unfold distance
  split <;> omega

theorem distance_mod (ordered : a ≤ b) (room : b < a + n) :
    distance n (a % n) (b % n) = b - a := by
  obtain ⟨d, rfl⟩ := Nat.exists_eq_add_of_le ordered
  have below : a % n < n := Nat.mod_lt a (by omega)
  unfold distance
  rcases mod_cases a (show d ≤ n by omega) (by omega) with ⟨stays, value⟩ | ⟨wraps, value⟩
  · rw [value, if_pos (by omega)]
    omega
  · rw [value]
    split <;> omega

theorem distance_emod (first : i < n) (second : j < n) :
    (distance n i j : Int) = ((j : Int) - i) % n := by
  unfold distance
  split
  · rw [Int.emod_eq_of_lt (by omega) (by omega)]
    omega
  · rw [Int.emod_eq_add_self_emod, Int.emod_eq_of_lt (by omega) (by omega)]
    omega

/-- The room from `j` on up to the place before `i`. -/
theorem room_emod (first : i < n) (second : j < n) :
    ((n - 1 - distance n i j : Nat) : Int) = ((i : Int) - j - 1) % n := by
  unfold distance
  split
  · rw [Int.emod_eq_add_self_emod, Int.emod_eq_of_lt (by omega) (by omega)]
    omega
  · rw [Int.emod_eq_of_lt (by omega) (by omega)]
    omega

theorem distance_self (n i : Nat) : distance n i i = 0 := by
  simp [distance]

theorem add_distance (first : i < n) (second : j < n) : (i + distance n i j) % n = j := by
  unfold distance
  split
  · rw [show i + (j - i) = j by omega, Nat.mod_eq_of_lt second]
  · rw [show i + (n + j - i) = j + n by omega, Nat.add_mod_right, Nat.mod_eq_of_lt second]

theorem eq_of_distance_zero (first : i < n) (second : j < n) (none_ : distance n i j = 0) :
    i = j := by
  have whole := add_distance first second
  rwa [none_, Nat.add_zero, Nat.mod_eq_of_lt first] at whole

theorem wrap_lt (near : i < 2 * n) : wrap n i < n := by
  unfold wrap
  split <;> omega

theorem past_not_within {d : Nat} (first : i < n) (second : j < n)
    (turn : distance n i j + d < n) : ¬ Within n i j (wrap n (j + d)) := by
  unfold Within
  unfold distance wrap at *
  split_ifs at * <;> omega

theorem within_extend {d k : Nat} (first : i < n) (second : j < n) (place : k < n)
    (turn : distance n i j + d < n) (within : Within n i j k) : Within n i (wrap n (j + d)) k := by
  unfold Within at *
  unfold distance wrap at *
  split_ifs at * <;> omega

theorem within_drop {d k : Nat} (first : i < n) (second : j < n) (place : k < n) (few : d < n)
    (kept : ∀ c < d, k ≠ wrap n (i + c)) (within : Within n i j k) :
    Within n (wrap n (i + d)) j k := by
  have far : d ≤ distance n i k := by
    by_contra near
    apply kept (distance n i k) (by omega)
    unfold distance wrap
    split_ifs <;> omega
  unfold Within at *
  unfold distance wrap at *
  split_ifs at * <;> omega

end Indices

section Lists

variable {n start count k i : Nat}

theorem slots_zero (n start : Nat) : slots n start 0 = [] := rfl

theorem slots_mod (n start count : Nat) : slots n (start % n) count = slots n start count := by
  simp [slots]

theorem slots_add (n start c d : Nat) :
    slots n start (c + d) = slots n start c ++ slots n (start + c) d := by
  simp only [slots, List.range_add, List.map_append, List.map_map]
  congr 1
  apply List.map_congr_left
  intro k _
  simp [Nat.add_assoc]

theorem slots_succ (n start count : Nat) :
    slots n start (count + 1) = start % n :: slots n (start + 1) count := by
  rw [Nat.add_comm count 1, slots_add]
  rfl

theorem mem_slots : i ∈ slots n start count ↔ ∃ k < count, (start + k) % n = i := by
  simp [slots]

theorem lt_of_mem_slots (pos : 0 < n) (member : i ∈ slots n start count) : i < n := by
  obtain ⟨k, _, rfl⟩ := mem_slots.mp member
  exact Nat.mod_lt _ pos

theorem add_mod_inj {j : Nat} (first : k < n) (second : j < n)
    (same : (start + k) % n = (start + j) % n) : k = j := by
  have equal : k % n = j % n := Nat.ModEq.add_left_cancel' start same
  rwa [Nat.mod_eq_of_lt first, Nat.mod_eq_of_lt second] at equal

theorem slots_nodup (n start : Nat) (fits : count ≤ n) : (slots n start count).Nodup := by
  apply List.Nodup.map_on _ List.nodup_range
  intro k first j second same
  rw [List.mem_range] at first second
  exact add_mod_inj (by omega) (by omega) same

theorem end_not_mem_slots (n start : Nat) (fits : count < n) :
    (start + count) % n ∉ slots n start count := by
  intro member
  obtain ⟨k, before, same⟩ := mem_slots.mp member
  have equal := add_mod_inj (by omega) fits same
  omega

theorem slots_length (n start count : Nat) : (slots n start count).length = count := by
  simp [slots]

theorem slots_take (n start : Nat) (fewer : k ≤ count) :
    (slots n start count).take k = slots n start k := by
  obtain ⟨d, rfl⟩ := Nat.exists_eq_add_of_le fewer
  rw [slots_add, List.take_left' (slots_length n start k)]

/-- Logging over a whole ring is logging over the places that log anything. -/
theorem filterMap_range_perm {β : Type*} {f : Nat → Option β} {places : List Nat}
    (nodup : places.Nodup) (bounded : ∀ i ∈ places, i < n)
    (outside : ∀ i < n, i ∉ places → f i = none) :
    ((List.range n).filterMap f).Perm (places.filterMap f) := by
  have parts : (List.range n).Perm (places ++ (List.range n).filter (· ∉ places)) := by
    apply (List.perm_ext_iff_of_nodup List.nodup_range _).mpr
    · intro i
      simp only [List.mem_range, List.mem_append, List.mem_filter, decide_eq_true_eq]
      constructor
      · intro below
        by_cases member : i ∈ places
        · exact Or.inl member
        · exact Or.inr ⟨below, member⟩
      · rintro (member | ⟨below, _⟩)
        · exact bounded i member
        · exact below
    · apply List.Nodup.append nodup (List.nodup_range.filter _)
      intro i member other
      simp only [List.mem_filter, decide_eq_true_eq] at other
      exact other.2 member
  have silent : ((List.range n).filter (· ∉ places)).filterMap f = [] := by
    apply List.filterMap_eq_nil_iff.mpr
    intro i member
    simp only [List.mem_filter, List.mem_range, decide_eq_true_eq] at member
    exact outside i member.1 member.2
  have logged := parts.filterMap f
  rwa [List.filterMap_append, silent, List.append_nil] at logged

/-- What a ring of `n` holds after one of its places changed. -/
theorem filterMap_range_update {β : Type*} (f : Nat → Option β) (place : i < n) (b : Option β) :
    ((List.range n).filterMap (Function.update f i b)).Perm
      (b.toList ++ ((List.range n).erase i).filterMap f) := by
  have first := List.perm_cons_erase (List.mem_range.mpr place)
  have elsewhere : ((List.range n).erase i).filterMap (Function.update f i b) =
      ((List.range n).erase i).filterMap f := by
    apply List.filterMap_congr
    intro j member
    rw [Function.update_of_ne ((List.nodup_range.mem_erase_iff).mp member).1]
  have moved := first.filterMap (Function.update f i b)
  rw [List.filterMap_cons, Function.update_self, elsewhere] at moved
  cases b with
  | none => exact moved
  | some value => exact moved

end Lists

section Walks

variable {n : Nat} [NeZero n]

/-- The `count` places of a ring from `start` on. -/
def walk : Nat → Fin n → List (Fin n)
  | 0, _ => []
  | count + 1, start => start :: walk count (start + 1)

theorem succ_val (i : Fin n) : ((i + 1 : Fin n) : Nat) = next n i := by
  have below := i.isLt
  have value : ((i + 1 : Fin n) : Nat) = (i + 1) % n := by
    rw [Fin.val_add, Fin.val_one', Nat.add_mod_mod]
  rw [value, ← next_mod i (by omega), Nat.mod_eq_of_lt below]

theorem mem_walk {count : Nat} {start i : Fin n} (fits : count ≤ n) :
    i ∈ walk count start ↔ distance n start i < count := by
  induction count generalizing start with
  | zero => simp [walk]
  | succ count ih =>
    have first := start.isLt
    have last := i.isLt
    rw [walk, List.mem_cons, ih (by omega), succ_val, Fin.ext_iff]
    unfold distance next
    split_ifs <;> omega

end Walks

end Ring
