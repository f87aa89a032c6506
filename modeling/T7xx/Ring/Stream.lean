import Mathlib.Logic.Function.Basic
import T7xx.Ring.Slots

namespace Ring

variable {Item : Type*} {n first : Nat} {held other : Nat → Option Item} {items : List Item} {x : Item}

/-- The places of a ring of `n`, from the one with running number `first` on, hold `items` in order,
    and the places after these hold nothing. -/
structure Carries (n : Nat) (held : Nat → Option Item) (first : Nat) (items : List Item) : Prop where
  fits : items.length ≤ n
  places : ∀ k < n, held ((first + k) % n) = items[k]?

theorem Carries.empty (first : Nat) (nothing : ∀ i < n, held i = none) : Carries n held first [] := by
  refine ⟨Nat.zero_le n, fun k below => ?_⟩
  rw [nothing _ (Nat.mod_lt _ (by omega)), List.getElem?_nil]

theorem Carries.front (carries : Carries n held first items) (pos : 0 < n) :
    held (first % n) = items.head? := by
  have place := carries.places 0 pos
  rwa [Nat.add_zero, ← List.head?_eq_getElem?] at place

theorem Carries.congr (carries : Carries n held first items)
    (same : ∀ i < n, other i = held i) : Carries n other first items := by
  refine ⟨carries.fits, fun k below => ?_⟩
  rw [same _ (Nat.mod_lt _ (by omega)), carries.places k below]

/-- A place that holds nothing is not among the first ones. -/
theorem Carries.vacant (carries : Carries n held first items) {k : Nat} (below : k < n)
    (empty : held ((first + k) % n) = none) : items.length ≤ k := by
  rw [carries.places k below] at empty
  exact List.getElem?_eq_none_iff.mp empty

theorem Carries.room (carries : Carries n held first items) (pos : 0 < n)
    (empty : held ((first + items.length) % n) = none) : items.length < n := by
  by_contra whole
  have full : items.length = n := Nat.le_antisymm carries.fits (by omega)
  rw [full, Nat.add_mod_right] at empty
  have short := carries.vacant pos (by rwa [Nat.add_zero])
  omega

theorem Carries.push (carries : Carries n held first items) (room : items.length < n) (x : Item) :
    Carries n (Function.update held ((first + items.length) % n) (some x)) first (items ++ [x]) := by
  refine ⟨by rw [List.length_append]; exact room, fun k below => ?_⟩
  by_cases last : k = items.length
  · subst last
    rw [Function.update_self, List.getElem?_concat_length]
  · have apart : (first + k) % n ≠ (first + items.length) % n :=
      fun same => last (add_mod_inj below room same)
    rw [Function.update_of_ne apart, carries.places k below]
    rcases Nat.lt_or_gt_of_ne last with before | after
    · rw [List.getElem?_append_left before]
    · rw [List.getElem?_eq_none (by omega), List.getElem?_eq_none (by simp; omega)]

theorem Carries.pop (carries : Carries n held first (x :: items)) :
    Carries n (Function.update held (first % n) none) (first + 1) items := by
  have fits := carries.fits
  rw [List.length_cons] at fits
  refine ⟨by omega, fun k below => ?_⟩
  have shifted : first + 1 + k = first + (k + 1) := by omega
  rw [shifted]
  by_cases last : k + 1 = n
  · rw [last, Nat.add_mod_right, Function.update_self, List.getElem?_eq_none (by omega)]
  · have apart : (first + (k + 1)) % n ≠ first % n := by
      intro same
      have zero := @add_mod_inj n first (k + 1) 0 (by omega) (by omega) same
      omega
    rw [Function.update_of_ne apart, carries.places (k + 1) (by omega), List.getElem?_cons_succ]

end Ring
