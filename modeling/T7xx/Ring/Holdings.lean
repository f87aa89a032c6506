import Mathlib.Algebra.BigOperators.Group.Finset.Basic
import Mathlib.Algebra.Order.BigOperators.Group.Finset
import Mathlib.Algebra.Order.Group.Multiset

namespace Ring

variable {Place Slot Item : Type*} {places : Finset Place} {held : Slot → Multiset Item}
  {slot other : Place → Slot}

/-- What the slots of a table hold. -/
def holdings (places : Finset Place) (held : Slot → Multiset Item) (slot : Place → Slot) :
    Multiset Item := ∑ i ∈ places, held (slot i)

theorem holdings_congr (same : ∀ i ∈ places, held (slot i) = held (other i)) :
    holdings places held slot = holdings places held other := Finset.sum_congr rfl same

theorem holdings_eq_zero : holdings places held slot = 0 ↔ ∀ i ∈ places, held (slot i) = 0 :=
  Finset.sum_eq_zero_iff

/-- What a slot with room for one thing holds. -/
def single : Option Item → Multiset Item
  | some item => {item}
  | none => 0

@[simp] theorem single_none : single (none : Option Item) = 0 := rfl

@[simp] theorem single_some (item : Item) : single (some item) = {item} := rfl

section Writing

variable [DecidableEq Place] {i : Place}

theorem holdings_changed (inside : i ∈ places)
    (elsewhere : ∀ j ∈ places, j ≠ i → held (other j) = held (slot j)) :
    held (slot i) + holdings places held other = held (other i) + holdings places held slot := by
  have before := Finset.add_sum_erase places (fun j => held (slot j)) inside
  have after := Finset.add_sum_erase places (fun j => held (other j)) inside
  have others : ∑ j ∈ places.erase i, held (other j) = ∑ j ∈ places.erase i, held (slot j) :=
    Finset.sum_congr rfl fun j member =>
      elsewhere j (Finset.mem_of_mem_erase member) (Finset.ne_of_mem_erase member)
  rw [others] at after
  unfold holdings
  rw [← after, ← before, ← add_assoc, ← add_assoc, add_comm (held (slot i))]

theorem holdings_update (inside : i ∈ places) (held : Slot → Multiset Item) (slot : Place → Slot)
    (written : Slot) :
    held (slot i) + holdings places held (Function.update slot i written) =
      held written + holdings places held slot := by
  have both := @holdings_changed _ _ _ _ held slot (Function.update slot i written) _ i inside
    fun j _ apart => by rw [Function.update_of_ne apart]
  rwa [Function.update_self] at both

theorem holdings_fill (inside : i ∈ places) (empty : held (slot i) = 0) (written : Slot) :
    holdings places held (Function.update slot i written) =
      held written + holdings places held slot := by
  have both := holdings_update inside held slot written
  rwa [empty, zero_add] at both

theorem holdings_empty (inside : i ∈ places) (held : Slot → Multiset Item) (slot : Place → Slot)
    {written : Slot} (empty : held written = 0) :
    held (slot i) + holdings places held (Function.update slot i written) =
      holdings places held slot := by
  have both := holdings_update inside held slot written
  rwa [empty, zero_add] at both

end Writing

end Ring
