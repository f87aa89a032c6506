import Mathlib.Data.List.Basic
import Mathlib.Logic.Function.Basic

namespace Register

variable {α : Type*} {w : Nat}

/-- A change of a register that keeps the bits of `keep` and sets those of `set`. -/
structure Edit (w : Nat) where
  keep : BitVec w
  set : BitVec w
deriving DecidableEq, Repr

def Edit.apply (e : Edit w) (old : BitVec w) : BitVec w := old &&& e.keep ||| e.set

/-- The value is stored whatever the register holds. -/
def put (value : BitVec w) : Edit w := ⟨0, value⟩
def orIn (mask : BitVec w) : Edit w := ⟨BitVec.allOnes w, mask⟩
def andNot (mask : BitVec w) : Edit w := ⟨~~~mask, 0⟩
def assign (mask value : BitVec w) : Edit w := ⟨~~~mask, value⟩

def Edit.andThen (first second : Edit w) : Edit w :=
  ⟨first.keep &&& second.keep, first.set &&& second.keep ||| second.set⟩

section Edits

theorem put_apply (value old : BitVec w) : (put value).apply old = value := by
  apply BitVec.eq_of_getLsbD_eq
  intro i inside
  simp [put, Edit.apply]

theorem orIn_apply (mask old : BitVec w) : (orIn mask).apply old = old ||| mask := by
  apply BitVec.eq_of_getLsbD_eq
  intro i inside
  simp [orIn, Edit.apply, inside]

theorem andNot_apply (mask old : BitVec w) : (andNot mask).apply old = old &&& ~~~mask := by
  apply BitVec.eq_of_getLsbD_eq
  intro i inside
  simp [andNot, Edit.apply]

theorem andThen_apply (first second : Edit w) (old : BitVec w) :
    (first.andThen second).apply old = second.apply (first.apply old) := by
  apply BitVec.eq_of_getLsbD_eq
  intro i inside
  unfold Edit.andThen Edit.apply
  simp only [BitVec.getLsbD_and, BitVec.getLsbD_or]
  cases second.keep.getLsbD i <;> simp [Bool.or_assoc]

theorem keepAll_apply (old : BitVec w) : Edit.apply ⟨BitVec.allOnes w, 0⟩ old = old := by
  apply BitVec.eq_of_getLsbD_eq
  intro i inside
  simp [Edit.apply, inside]

theorem keepAll_andThen (e : Edit w) : Edit.andThen ⟨BitVec.allOnes w, 0⟩ e = e := by
  unfold Edit.andThen
  congr 1
  · exact BitVec.allOnes_and
  · simp

theorem andThen_keepAll (e : Edit w) : e.andThen ⟨BitVec.allOnes w, 0⟩ = e := by
  unfold Edit.andThen
  congr 1
  · exact BitVec.and_allOnes
  · simp

theorem andThen_assoc (first second third : Edit w) :
    (first.andThen second).andThen third = first.andThen (second.andThen third) := by
  unfold Edit.andThen
  congr 1
  · exact BitVec.and_assoc ..
  · apply BitVec.eq_of_getLsbD_eq
    intro i inside
    simp only [BitVec.getLsbD_and, BitVec.getLsbD_or]
    cases third.keep.getLsbD i <;> simp [Bool.or_assoc]

/-- Bits that are set, or not kept, read back as they were set. -/
theorem apply_reads {e : Edit w} {mask : BitVec w} (written : e.keep &&& mask &&& ~~~e.set = 0)
    (old : BitVec w) : e.apply old &&& mask = e.set &&& mask := by
  apply BitVec.eq_of_getLsbD_eq
  intro i inside
  have bit := congrArg (fun value => value.getLsbD i) written
  unfold Edit.apply
  simp only [BitVec.getLsbD_and, BitVec.getLsbD_or, BitVec.getLsbD_not, inside, decide_true,
    Bool.true_and] at bit ⊢
  cases masked : mask.getLsbD i <;> cases kept : e.keep.getLsbD i <;> cases set : e.set.getLsbD i <;> simp_all

theorem assign_reads (mask value old : BitVec w) :
    (assign mask (value &&& mask)).apply old &&& mask = value &&& mask := by
  have dropped : (assign mask (value &&& mask)).keep &&& mask = 0 := BitVec.not_and_self ..
  rw [apply_reads ((congrArg (· &&& _) dropped).trans BitVec.zero_and)]
  exact (BitVec.and_assoc ..).trans (congrArg _ (BitVec.and_self ..))

/-- Bits that are kept and not set read back as they were. -/
theorem apply_keeps {e : Edit w} {mask : BitVec w} (kept : e.keep &&& mask = mask)
    (unset : e.set &&& mask = 0) (old : BitVec w) : e.apply old &&& mask = old &&& mask := by
  apply BitVec.eq_of_getLsbD_eq
  intro i inside
  have keepBit := congrArg (fun value => value.getLsbD i) kept
  have setBit := congrArg (fun value => value.getLsbD i) unset
  unfold Edit.apply
  simp only [BitVec.getLsbD_and, BitVec.getLsbD_or] at keepBit setBit ⊢
  cases masked : mask.getLsbD i <;> cases bit : e.keep.getLsbD i <;> simp_all

/-- A contiguous mask of the bits from `lo` up to `hi`. -/
def genmask (hi lo : Nat) : BitVec w := (BitVec.allOnes (hi - lo + 1)).setWidth w <<< lo

/-- The value moved up to the lowest bit of the mask. -/
def fieldPrep (mask value : BitVec w) : BitVec w := (value * (mask &&& -mask)) &&& mask

end Edits

abbrev Bank (α : Type*) (w : Nat) := α → BitVec w

/-- One access of a program: the register is read, changed and written back. -/
structure Access (α : Type*) (w : Nat) where
  reg : α
  edit : Edit w

/-- A plain write takes no notice of what the register holds. -/
def write (reg : α) (value : BitVec w) : Access α w := ⟨reg, put value⟩

/-- A write that starts an operation of the device, with the registers that the operation finds. -/
structure Command (α : Type*) (w : Nat) where
  reg : α
  value : BitVec w
  regs : Bank α w

structure Bus (α : Type*) (w : Nat) where
  regs : Bank α w
  commands : List (Command α w)

section Programs

variable [DecidableEq α] (starts : α → Bool)

def Bus.access (bus : Bus α w) (a : Access α w) : Bus α w where
  regs := Function.update bus.regs a.reg (a.edit.apply (bus.regs a.reg))
  commands :=
    if starts a.reg then bus.commands ++ [⟨a.reg, a.edit.apply (bus.regs a.reg), bus.regs⟩]
    else bus.commands

def Bus.run (bus : Bus α w) (program : List (Access α w)) : Bus α w :=
  program.foldl (Bus.access starts) bus

theorem run_append (bus : Bus α w) (first second : List (Access α w)) :
    bus.run starts (first ++ second) = (bus.run starts first).run starts second := List.foldl_append

theorem run_cons (bus : Bus α w) (a : Access α w) (program : List (Access α w)) :
    bus.run starts (a :: program) = (bus.access starts a).run starts program := rfl

/-- What a program does to one register. -/
def editOf (reg : α) (program : List (Access α w)) : Edit w :=
  program.foldl (fun e a => if a.reg = reg then e.andThen a.edit else e) ⟨BitVec.allOnes w, 0⟩

theorem editOf_from (reg : α) (program : List (Access α w)) (e : Edit w) :
    program.foldl (fun e a => if a.reg = reg then e.andThen a.edit else e) e =
      e.andThen (editOf reg program) := by
  unfold editOf
  induction program generalizing e with
  | nil => exact (andThen_keepAll e).symm
  | cons a program ih =>
    rw [List.foldl_cons, List.foldl_cons, ih]
    split
    · rw [ih (Edit.andThen _ _), keepAll_andThen, andThen_assoc]
    · rfl

theorem editOf_append (reg : α) (first second : List (Access α w)) :
    editOf reg (first ++ second) = (editOf reg first).andThen (editOf reg second) := by
  rw [← editOf_from]
  exact List.foldl_append

theorem editOf_flatMap {β : Type*} {reg : α} {f g : β → List (Access α w)}
    (same : ∀ x, editOf reg (f x) = editOf reg (g x)) (xs : List β) :
    editOf reg (xs.flatMap f) = editOf reg (xs.flatMap g) := by
  induction xs with
  | nil => rfl
  | cons x xs ih => rw [List.flatMap_cons, List.flatMap_cons, editOf_append, editOf_append, ih, same]

theorem fold_apply (reg : α) (program : List (Access α w)) (e : Edit w) (old : BitVec w) :
    (program.foldl (fun e a => if a.reg = reg then e.andThen a.edit else e) e).apply old =
      program.foldl (fun value a => if a.reg = reg then a.edit.apply value else value) (e.apply old) := by
  induction program generalizing e with
  | nil => rfl
  | cons a program ih =>
    rw [List.foldl_cons, List.foldl_cons, ih]
    split
    · rw [andThen_apply]
    · rfl

theorem access_regs (bus : Bus α w) (a : Access α w) (reg : α) :
    (bus.access starts a).regs reg =
      if a.reg = reg then a.edit.apply (bus.regs reg) else bus.regs reg := by
  change Function.update bus.regs a.reg (a.edit.apply (bus.regs a.reg)) reg = _
  by_cases same : a.reg = reg
  · rw [if_pos same, ← same, Function.update_self]
  · rw [if_neg same, Function.update_of_ne (Ne.symm same)]

/-- The registers after a program, each by its own accesses. -/
theorem run_regs (bus : Bus α w) (program : List (Access α w)) (reg : α) :
    (bus.run starts program).regs reg = (editOf reg program).apply (bus.regs reg) := by
  unfold editOf
  rw [fold_apply, keepAll_apply]
  induction program generalizing bus with
  | nil => rfl
  | cons a program ih => rw [run_cons, ih, access_regs, List.foldl_cons]

theorem editOf_untouched {reg : α} {program : List (Access α w)}
    (untouched : ∀ a ∈ program, a.reg ≠ reg) : editOf reg program = ⟨BitVec.allOnes w, 0⟩ := by
  unfold editOf
  induction program with
  | nil => rfl
  | cons a program ih =>
    rw [List.forall_mem_cons] at untouched
    rw [List.foldl_cons, if_neg untouched.1, ih untouched.2]

theorem run_untouched {reg : α} {program : List (Access α w)} (untouched : ∀ a ∈ program, a.reg ≠ reg)
    (bus : Bus α w) : (bus.run starts program).regs reg = bus.regs reg := by
  rw [run_regs, editOf_untouched untouched, keepAll_apply]

theorem run_commands_quiet {program : List (Access α w)} (quiet : ∀ a ∈ program, starts a.reg = false)
    (bus : Bus α w) : (bus.run starts program).commands = bus.commands := by
  induction program generalizing bus with
  | nil => rfl
  | cons a program ih =>
    rw [List.forall_mem_cons] at quiet
    rw [run_cons, ih quiet.2]
    unfold Bus.access
    rw [quiet.1]
    rfl

end Programs

end Register
