import Mathlib.Logic.Function.Basic
import Mathlib.Data.List.Basic

namespace Kernel

/-- A pointer as a creating call returns it: NULL, an `ERR_PTR`, or an object of its kind. -/
inductive Handle (Kind : Type) where
  | null
  | err
  | obj (kind : Kind) (id : Nat)
deriving DecidableEq, Repr

/-- The creation of an object, its removal, and the other calls that are given one. -/
inductive ObjCall (Kind : Type) where
  | create (kind : Kind) (id : Nat)
  | remove (kind : Kind) (handle : Handle Kind)
  | use (kind : Kind) (handle : Handle Kind)
deriving DecidableEq, Repr

variable {Kind : Type}

section Contract

def Handle.Empty (handle : Handle Kind) : Prop := ∀ kind id, handle ≠ .obj kind id

/-- The object was created and has not been removed since. -/
def Alive (past : List (ObjCall Kind)) (kind : Kind) (handle : Handle Kind) : Prop :=
  ∃ id, handle = .obj kind id ∧ .create kind id ∈ past ∧ .remove kind handle ∉ past

def ObjCall.Valid (past : List (ObjCall Kind)) : ObjCall Kind → Prop
  | .create kind id => .create kind id ∉ past
  | .remove kind handle => Alive past kind handle
  | .use kind handle => Alive past kind handle

/-- Calls, the last one first, that were each valid when they were made. -/
def Sound : List (ObjCall Kind) → Prop
  | [] => True
  | call :: past => call.Valid past ∧ Sound past

def RemovedOnce [DecidableEq Kind] (calls : List (ObjCall Kind)) : Prop :=
  ∀ kind id, .create kind id ∈ calls → calls.count (.remove kind (.obj kind id)) = 1

theorem Sound.created {calls : List (ObjCall Kind)} {kind : Kind} {id : Nat} (sound : Sound calls)
    (removed : .remove kind (.obj kind id) ∈ calls) :
    .create kind id ∈ calls := by
  induction calls with
  | nil => cases removed
  | cons call past ih =>
    rcases List.mem_cons.mp removed with here | before
    · obtain ⟨valid, _⟩ := sound
      rw [← here] at valid
      obtain ⟨other, same, created, _⟩ := valid
      cases same
      exact List.mem_cons_of_mem _ created
    · exact List.mem_cons_of_mem _ (ih sound.2 before)

end Contract

variable [DecidableEq Kind]

/-- Of the objects of a kind, `handle` points to the one that is left, or none is left. -/
structure Holds (calls : List (ObjCall Kind)) (kind : Kind) (handle : Handle Kind) : Prop where
  kinds : ∀ other id, handle = .obj other id → other = kind
  created : ∀ id, handle = .obj kind id → .create kind id ∈ calls
  removed : ∀ id, .create kind id ∈ calls →
    calls.count (.remove kind (.obj kind id)) = if handle = .obj kind id then 0 else 1

/-- An owner that has a handle for each kind, whose creations are numbered by the calls before. -/
structure Tracked (calls : List (ObjCall Kind)) (handles : Kind → Handle Kind) : Prop where
  sound : Sound calls
  numbered : ∀ kind id, .create kind id ∈ calls → id < calls.length
  holds : ∀ kind, Holds calls kind (handles kind)

section Rules

variable {calls : List (ObjCall Kind)} {kind : Kind} {handle : Handle Kind} {id : Nat}
  {handles : Kind → Handle Kind}

theorem Holds.cases (holds : Holds calls kind handle) :
    handle = .null ∨ handle = .err ∨ ∃ id, handle = .obj kind id := by
  cases handle with
  | null => exact .inl rfl
  | err => exact .inr (.inl rfl)
  | obj other id =>
    rw [holds.kinds other id rfl]
    exact .inr (.inr ⟨id, rfl⟩)

theorem Holds.alive (holds : Holds calls kind (.obj kind id)) : Alive calls kind (.obj kind id) := by
  have created := holds.created id rfl
  have removed := holds.removed id created
  rw [if_pos rfl] at removed
  exact ⟨id, rfl, created, List.count_eq_zero.mp removed⟩

theorem Holds.empty (holds : Holds calls kind handle) (empty : handle.Empty) {other : Handle Kind}
    (otherEmpty : other.Empty) : Holds calls kind other := by
  refine ⟨fun _ _ same => (otherEmpty _ _ same).elim, fun _ same => (otherEmpty _ _ same).elim,
    fun id created => ?_⟩
  have removed := holds.removed id created
  rw [if_neg (empty kind id)] at removed
  rw [if_neg (otherEmpty kind id)]
  exact removed

/-- A call that neither creates nor removes an object of the kind. -/
theorem Holds.frame (holds : Holds calls kind handle) {call : ObjCall Kind}
    (creates : ∀ id, call ≠ .create kind id) (removes : ∀ id, call ≠ .remove kind (.obj kind id)) :
    Holds (call :: calls) kind handle := by
  refine ⟨holds.kinds, fun id same => List.mem_cons_of_mem _ (holds.created id same),
    fun id created => ?_⟩
  rcases List.mem_cons.mp created with here | before
  · exact (creates id here.symm).elim
  · rw [List.count_cons_of_ne (removes id)]
    exact holds.removed id before

theorem Holds.create (holds : Holds calls kind handle) (sound : Sound calls) (empty : handle.Empty)
    (fresh : .create kind id ∉ calls) : Holds (.create kind id :: calls) kind (.obj kind id) := by
  refine ⟨fun _ _ same => by cases same; rfl, fun other same => ?_, fun other created => ?_⟩
  · cases same
    exact List.mem_cons_self
  rw [List.count_cons_of_ne (by simp)]
  by_cases here : other = id
  · rw [here, if_pos rfl, List.count_eq_zero]
    exact fun removed => fresh (sound.created removed)
  · have before : .create kind other ∈ calls := by
      rcases List.mem_cons.mp created with same | before
      · cases same
        exact (here rfl).elim
      · exact before
    have removed := holds.removed other before
    rw [if_neg (empty kind other)] at removed
    rw [removed, if_neg]
    intro same
    cases same
    exact here rfl

theorem Holds.remove (holds : Holds calls kind (.obj kind id)) :
    Holds (.remove kind (.obj kind id) :: calls) kind .null := by
  refine ⟨nofun, nofun, fun other created => ?_⟩
  rw [if_neg nofun]
  have before : .create kind other ∈ calls := by
    rcases List.mem_cons.mp created with same | before
    · cases same
    · exact before
  have removed := holds.removed other before
  by_cases here : other = id
  · rw [here] at removed ⊢
    rw [if_pos rfl] at removed
    rw [List.count_cons_self, removed]
  · have apart : (Handle.obj kind id : Handle Kind) ≠ .obj kind other := by
      intro same
      cases same
      exact here rfl
    rw [if_neg apart] at removed
    rw [List.count_cons_of_ne (fun same => apart (by cases same; rfl))]
    exact removed

end Rules

section Owners

variable {calls : List (ObjCall Kind)} {kind : Kind} {id : Nat} {handles next : Kind → Handle Kind}

theorem tracked_nil : Tracked ([] : List (ObjCall Kind)) fun _ => .null :=
  ⟨trivial, nofun, fun _ => ⟨nofun, nofun, nofun⟩⟩

theorem Tracked.create (tracked : Tracked calls handles) (empty : (handles kind).Empty)
    (same : next = Function.update handles kind (.obj kind calls.length)) :
    Tracked (.create kind calls.length :: calls) next := by
  have fresh : .create kind calls.length ∉ calls := by
    intro before
    exact Nat.lt_irrefl _ (tracked.numbered kind _ before)
  refine ⟨⟨fresh, tracked.sound⟩, fun other id created => ?_, fun other => ?_⟩
  · rcases List.mem_cons.mp created with here | before
    · cases here
      exact Nat.lt_succ_self _
    · exact Nat.lt_succ_of_lt (tracked.numbered other id before)
  · rw [same]
    by_cases here : other = kind
    · rw [here, Function.update_self]
      exact (tracked.holds kind).create tracked.sound empty fresh
    · rw [Function.update_of_ne here]
      refine (tracked.holds other).frame (fun id same => ?_) nofun
      cases same
      exact here rfl

theorem Tracked.remove (tracked : Tracked calls handles) (held : handles kind = .obj kind id)
    (same : next = Function.update handles kind .null) :
    Tracked (.remove kind (.obj kind id) :: calls) next := by
  have holds := tracked.holds kind
  rw [held] at holds
  refine ⟨⟨holds.alive, tracked.sound⟩, fun other id created => ?_, fun other => ?_⟩
  · rcases List.mem_cons.mp created with here | before
    · cases here
    · exact Nat.lt_succ_of_lt (tracked.numbered other id before)
  · rw [same]
    by_cases here : other = kind
    · rw [here, Function.update_self]
      exact holds.remove
    · rw [Function.update_of_ne here]
      refine (tracked.holds other).frame nofun fun id same => ?_
      cases same
      exact here rfl

theorem Tracked.use (tracked : Tracked calls handles) (held : handles kind = .obj kind id) :
    Tracked (.use kind (.obj kind id) :: calls) handles := by
  have holds := tracked.holds kind
  rw [held] at holds
  refine ⟨⟨holds.alive, tracked.sound⟩, fun other id created => ?_, fun other => ?_⟩
  · rcases List.mem_cons.mp created with here | before
    · cases here
    · exact Nat.lt_succ_of_lt (tracked.numbered other id before)
  · exact (tracked.holds other).frame nofun nofun

/-- Other handles that point to the same objects. -/
theorem Tracked.empty (tracked : Tracked calls handles)
    (same : ∀ kind, next kind = handles kind ∨ (next kind).Empty ∧ (handles kind).Empty) :
    Tracked calls next := by
  refine ⟨tracked.sound, tracked.numbered, fun kind => ?_⟩
  rcases same kind with equal | ⟨nextEmpty, empty⟩
  · rw [equal]
    exact tracked.holds kind
  · exact (tracked.holds kind).empty empty nextEmpty

theorem Tracked.removedOnce (tracked : Tracked calls handles)
    (empty : ∀ kind, (handles kind).Empty) : RemovedOnce calls := by
  intro kind id created
  have removed := (tracked.holds kind).removed id created
  rw [if_neg (empty kind kind id)] at removed
  exact removed

end Owners

end Kernel
