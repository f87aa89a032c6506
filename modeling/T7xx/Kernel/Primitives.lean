import Mathlib.Data.List.Basic
import Mathlib.Order.Basic

namespace Kernel

structure Kref where
  refcount : Nat
deriving DecidableEq, Repr

namespace Kref

def init : Kref := { refcount := 1 }

def get (k : Kref) : Kref := { refcount := k.refcount + 1 }

/-- `kref_put`, with whether the release function is called. -/
def put (k : Kref) : Kref × Bool := ({ refcount := k.refcount - 1 }, k.refcount = 1)

/-- A reference that is not the last one is dropped without a release. -/
theorem put_shared {k : Kref} {others : Nat} (held : k.refcount = others + 2) :
    k.put = ({ refcount := others + 1 }, false) := by
  have several : ¬ k.refcount = 1 := by omega
  have left : k.refcount - 1 = others + 1 := by omega
  unfold put
  rw [left, decide_eq_false several]

end Kref

/-- `UINT_MAX`, which `complete_all` stores and no waiter consumes. -/
def uintMax : Nat := 4294967295

structure Completion where
  done : Nat
deriving DecidableEq, Repr

namespace Completion

def reinit (_ : Completion) : Completion := { done := 0 }

def complete (c : Completion) : Completion :=
  if c.done ≠ uintMax then { done := c.done + 1 } else c

def completeAll (_ : Completion) : Completion := { done := uintMax }

def tryWait (c : Completion) : Option Completion :=
  if c.done = 0 then none
  else if c.done ≠ uintMax then some { done := c.done - 1 }
  else some c

theorem tryWait_pos {c d : Completion} (taken : c.tryWait = some d) : 0 < c.done := by
  unfold tryWait at taken
  split at taken
  · cases taken
  · omega

end Completion

/-- A live streaming mapping: a bus address and the memory behind it. -/
structure Mapping (Memory : Type*) where
  addr : Nat
  memory : Memory
deriving DecidableEq, Repr

section Tables

variable {Memory : Type*} {live rest : List (Mapping Memory)} {mapping : Mapping Memory}

/-- A new mapping gets an address that no live one has, and never 0. -/
def dmaMap (live : List (Mapping Memory)) (mapping : Mapping Memory) :
    Option (List (Mapping Memory)) :=
  if mapping.addr ≠ 0 ∧ ∀ other ∈ live, other.addr ≠ mapping.addr then some (mapping :: live)
  else none

def dmaUnmap (live : List (Mapping Memory)) (addr : Nat) : List (Mapping Memory) :=
  live.filter fun mapping => mapping.addr ≠ addr

theorem mem_dmaUnmap {addr : Nat} :
    mapping ∈ dmaUnmap live addr ↔ mapping ∈ live ∧ mapping.addr ≠ addr := by
  unfold dmaUnmap
  rw [List.mem_filter, decide_eq_true_eq]

theorem dmaMap_some (mapped : dmaMap live mapping = some rest) :
    rest = mapping :: live ∧ ∀ other ∈ live, other.addr ≠ mapping.addr := by
  unfold dmaMap at mapped
  split at mapped
  · rename_i fresh
    cases mapped
    exact ⟨rfl, fresh.2⟩
  · cases mapped

end Tables

end Kernel
