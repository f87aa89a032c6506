import Mathlib.Data.List.Range

namespace Kernel

variable {State : Type*}

/-- Goes on only if the call before returned 0. -/
def onSuccess (r : State × Int) (f : State → State × Int) : State × Int := if r.2 ≠ 0 then r else f r.1

theorem onSuccess_failed {r : State × Int} (failed : r.2 ≠ 0) (f : State → State × Int) : onSuccess r f = r :=
  if_pos failed

theorem onSuccess_done {r : State × Int} (done : r.2 = 0) (f : State → State × Int) : onSuccess r f = f r.1 :=
  if_neg (not_not.mpr done)

/-- A loop over `init` that stops at the first call that fails: with the state, what the last call
    returned and the index the loop stopped at. -/
def initLoop (init : Nat → State → State × Int) : (rounds i : Nat) → State → State × Int × Nat
  | 0, i, s => (s, 0, i)
  | rounds + 1, i, s =>
    let (s, ret) := init i s
    if ret ≠ 0 then (s, ret, i) else initLoop init rounds (i + 1) s

def freeLoop (free : Nat → State → State) (count : Nat) (s : State) : State :=
  (List.range count).foldl (fun s i => free i s) s

/-- How such a loop ends: `Made i` holds after `i` calls that succeed, `Failed i` when call `i` fails. -/
inductive LoopEnd (Made Failed : Nat → State → Prop) (last : Nat) : State × Int × Nat → Prop where
  | done {s} (made : Made last s) : LoopEnd Made Failed last (s, 0, last)
  | failed {s ret i} (error : ret ≠ 0) (before : i < last) (failed : Failed i s) :
    LoopEnd Made Failed last (s, ret, i)

section Rules

variable {init : Nat → State → State × Int} (Made Failed : Nat → State → Prop)
  (goes : ∀ i s, Made i s → (init i s).2 = 0 → Made (i + 1) (init i s).1)
  (fails : ∀ i s, Made i s → (init i s).2 ≠ 0 → Failed i (init i s).1)

include goes fails

theorem initLoop_from (rounds i : Nat) (s : State) (made : Made i s) :
    LoopEnd Made Failed (i + rounds) (initLoop init rounds i s) := by
  induction rounds generalizing i s with
  | zero => exact .done made
  | succ rounds ih =>
    unfold initLoop
    dsimp only
    split
    · rename_i error
      exact .failed error (by omega) (fails i s made error)
    · rename_i succeeds
      have next := ih (i + 1) _ (goes i s made (not_not.mp succeeds))
      rwa [Nat.add_assoc, Nat.add_comm 1 rounds] at next

theorem initLoop_rule (rounds : Nat) (s : State) (made : Made 0 s) :
    LoopEnd Made Failed rounds (initLoop init rounds 0 s) := by
  have result := initLoop_from Made Failed goes fails rounds 0 s made
  rwa [Nat.zero_add] at result

end Rules

theorem freeLoop_rule {free : Nat → State → State} {count : Nat} (Freed : Nat → State → Prop)
    (goes : ∀ i < count, ∀ s, Freed i s → Freed (i + 1) (free i s)) {s : State} (none : Freed 0 s) :
    Freed count (freeLoop free count s) := by
  have upTo (i : Nat) (below : i ≤ count) : Freed i (freeLoop free i s) := by
    induction i with
    | zero => exact none
    | succ i ih =>
      unfold freeLoop
      rw [List.range_succ, List.foldl_append]
      exact goes i below _ (ih (Nat.le_of_succ_le below))
  exact upTo count (Nat.le_refl count)

end Kernel
