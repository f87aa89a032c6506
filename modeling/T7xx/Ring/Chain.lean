import T7xx.Ring.Slots

namespace Ring

section Chains

variable {α β : Type*} {link : α → Option α} {far : β → Option β} {f : α → β} {Node : α → Prop}

/-- The `count` nodes from `node` on, each of which the one before links to. -/
def chain (link : α → Option α) : Nat → α → List α
  | 0, _ => []
  | count + 1, node => node :: ((link node).map (chain link count)).getD []

theorem chain_succ {node after : α} (linked : link node = some after) (count : Nat) :
    chain link (count + 1) node = node :: chain link count after := by
  simp [chain, linked]

/-- Two chains that are linked alike meet the same nodes. -/
theorem chain_map (alike : ∀ node, Node node → ∃ after, link node = some after ∧ Node after ∧
    far (f node) = some (f after)) (count : Nat) {node : α} (start : Node node) :
    chain far count (f node) = (chain link count node).map f := by
  induction count generalizing node with
  | zero => rfl
  | succ count ih =>
    obtain ⟨after, linked, inside, same⟩ := alike node start
    rw [chain_succ same, chain_succ linked, ih inside, List.map_cons]

end Chains

section Circles

variable {n i : Nat} {link : Nat → Option Nat}

theorem next_lt (place : i < n) : next n i < n := by
  unfold next
  split <;> omega

theorem chain_slots (circular : ∀ i < n, link i = some (next n i)) (count : Nat) (place : i < n) :
    chain link count i = slots n i count := by
  induction count generalizing i with
  | zero => rfl
  | succ count ih =>
    have after : next n i = (i + 1) % n := by
      rw [← next_mod i (by omega), Nat.mod_eq_of_lt place]
    rw [chain_succ (circular i place), ih (next_lt place), after, slots_mod, slots_succ,
      Nat.mod_eq_of_lt place]

theorem slots_perm (start : Nat) (positive : 0 < n) : (slots n start n).Perm (List.range n) := by
  have inside : slots n start n ⊆ List.range n := fun _ member =>
    List.mem_range.mpr (lt_of_mem_slots positive member)
  have few : (List.range n).length ≤ (slots n start n).length := by
    rw [slots_length, List.length_range]
  exact ((slots_nodup n start (Nat.le_refl n)).subperm inside).perm_of_length_le few

theorem slots_turn (place : i < n) : slots n i (n + 1) = slots n i n ++ [i] := by
  rw [slots_add, slots_succ, Nat.add_mod_right, Nat.mod_eq_of_lt place, slots_zero]

end Circles

end Ring
