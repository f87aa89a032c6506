import Mathlib.Data.List.Nodup
import Mathlib.Data.List.Infix

namespace Kernel

variable {α : Type*} [DecidableEq α]

/-- What the `next` pointer of an entry of a circular list leads to: the poison of a deleted entry, the
    head of the list, or another entry. -/
inductive Link (α : Type*) where
  | poison
  | head
  | entry (next : α)
deriving DecidableEq, Repr

def linkOf : Option α → Link α
  | none => .head
  | some next => .entry next

/-- The `next` pointer of `x`, when the list holds `entries` in this order. -/
def nextLink : List α → α → Link α
  | [], _ => .poison
  | y :: after, x => if y = x then linkOf after.head? else nextLink after x

/-- The members of `kept` in a list. -/
def only (kept entries : List α) : List α := entries.filter (· ∈ kept)

section Links

variable {entries before after : List α} {x : α}

theorem nextLink_split (fresh : x ∉ before) :
    nextLink (before ++ x :: after) x = linkOf after.head? := by
  induction before with
  | nil => exact if_pos rfl
  | cons y before ih =>
    have other : y ≠ x := fun same => fresh (same ▸ List.mem_cons_self)
    rw [List.cons_append, nextLink, if_neg other]
    exact ih fun member => fresh (List.mem_cons_of_mem y member)

end Links

/-- A walk that stands at `x`: of the entries it owes a visit it has met those before `x`. -/
structure Stands (entries owed met : List α) (x : α) : Prop where
  nodup : entries.Nodup
  listed : only owed entries = owed
  place : ∃ before after, entries = before ++ x :: after ∧ only owed met = only owed before

/-- A walk that has reached the end. -/
def Ended (owed met : List α) : Prop := only owed met = owed

section Walks

variable {entries owed met : List α} {x z : α}

theorem only_append (kept first second : List α) :
    only kept (first ++ second) = only kept first ++ only kept second := List.filter_append ..

theorem only_self (entries : List α) : only entries entries = entries :=
  List.filter_eq_self.mpr fun _ member => decide_eq_true member

theorem only_deleted (kept entries : List α) (z : α) :
    only (kept.filter (· ≠ z)) entries = (only kept entries).filter (· ≠ z) := by
  unfold only
  rw [List.filter_filter]
  apply List.filter_congr
  intro y _
  simp [List.mem_filter, and_comm]

theorem only_filter (kept entries : List α) (p : α → Bool) :
    only kept (entries.filter p) = (only kept entries).filter p := by
  unfold only
  rw [List.filter_filter, List.filter_filter]
  exact List.filter_congr fun y _ => Bool.and_comm _ _

theorem only_subset (listed : only owed entries = owed) {y : α} (member : y ∈ owed) : y ∈ entries := by
  rw [← listed] at member
  exact List.mem_of_mem_filter member

/-- A walk begins at the first entry and owes every one a visit. -/
theorem Stands.begin (nodup : (x :: entries).Nodup) : Stands (x :: entries) (x :: entries) [] x :=
  ⟨nodup, only_self _, [], entries, rfl, rfl⟩

theorem Stands.mem (stands : Stands entries owed met x) : x ∈ entries := by
  obtain ⟨before, after, rfl, _⟩ := stands.place
  exact List.mem_append_right _ List.mem_cons_self

/-- Once the entry is met, the walk stands at the next one or has ended. -/
theorem Stands.next (stands : Stands entries owed met x) :
    match nextLink entries x with
    | .poison => False
    | .head => Ended owed (met ++ [x])
    | .entry y => Stands entries owed (met ++ [x]) y := by
  obtain ⟨before, after, rfl, same⟩ := stands.place
  have nodup := stands.nodup
  have fresh : x ∉ before := by
    intro member
    exact (List.nodup_append.mp nodup).2.2 x member x List.mem_cons_self rfl
  rw [nextLink_split fresh]
  have step : only owed (met ++ [x]) = only owed (before ++ [x]) := by
    rw [only_append, only_append, same]
  cases after with
  | nil =>
    show only owed (met ++ [x]) = owed
    rw [step]
    exact stands.listed
  | cons y after =>
    refine ⟨nodup, stands.listed, before ++ [x], after, ?_, step⟩
    rw [List.append_assoc]
    rfl

/-- An entry added at the end is not owed a visit. -/
theorem Stands.add (stands : Stands entries owed met x) (fresh : z ∉ entries) :
    Stands (entries ++ [z]) owed met x := by
  obtain ⟨before, after, split, same⟩ := stands.place
  refine ⟨?_, ?_, before, after ++ [z], ?_, same⟩
  · rw [List.nodup_append]
    refine ⟨stands.nodup, List.nodup_singleton z, fun y member w last equal => ?_⟩
    rw [List.mem_singleton.mp last] at equal
    exact fresh (equal ▸ member)
  · have unowed : z ∉ owed := fun member => fresh (only_subset stands.listed member)
    rw [only_append, stands.listed]
    unfold only
    simp [unowed]
  · rw [split, List.append_assoc]
    rfl

/-- Any entry but the one that the walk stands at may be deleted. -/
theorem Stands.delete (stands : Stands entries owed met x) (other : x ≠ z) :
    Stands (entries.filter (· ≠ z)) (owed.filter (· ≠ z)) met x := by
  obtain ⟨before, after, split, same⟩ := stands.place
  refine ⟨stands.nodup.filter _, ?_, before.filter (· ≠ z), after.filter (· ≠ z), ?_, ?_⟩
  · rw [only_deleted, only_filter, stands.listed, List.filter_filter]
    simp only [Bool.and_self]
  · rw [split, List.filter_append, List.filter_cons_of_pos (by simpa using other)]
  · rw [only_deleted, only_deleted, only_filter, same, List.filter_filter]
    simp only [Bool.and_self]

end Walks

end Kernel
