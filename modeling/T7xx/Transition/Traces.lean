import T7xx.Transition.Runs

namespace Transition

variable {State Label : Type*}

/-- A run that never ends. -/
structure Trace (step : State → Label → Option State) where
  state : Nat → State
  label : Nat → Label
  steps : ∀ n, step (state n) (label n) = some (state (n + 1))

namespace Trace

variable {step : State → Label → Option State} (trace : Trace step)

theorem always (Invariant : State → Prop)
    (kept : ∀ s label t, Invariant s → step s label = some t → Invariant t) {n : Nat}
    (initial : Invariant (trace.state n)) : ∀ m ≥ n, Invariant (trace.state m) := by
  intro m later
  induction later with
  | refl => exact initial
  | @step m _ ih => exact kept _ _ _ ih (trace.steps m)

/-- A rank that no step raises and that the helpful steps lower cannot keep a trace away from its
    goal when there is always another helpful step to come. -/
theorem leads_to_of_wellFounded {Rank : Type*} {below : Rank → Rank → Prop}
    (wellFounded : WellFounded below) (Goal : State → Prop) (rank : State → Rank)
    (helpful : Label → Prop) {n : Nat}
    (kept : ∀ m ≥ n, ¬ Goal (trace.state m) → Goal (trace.state (m + 1)) ∨
      rank (trace.state (m + 1)) = rank (trace.state m) ∨
        below (rank (trace.state (m + 1))) (rank (trace.state m)))
    (lower : ∀ m ≥ n, ¬ Goal (trace.state m) → helpful (trace.label m) →
      Goal (trace.state (m + 1)) ∨ below (rank (trace.state (m + 1))) (rank (trace.state m)))
    (fair : ∀ m ≥ n, ¬ Goal (trace.state m) → ∃ k ≥ m, helpful (trace.label k)) :
    ∃ m ≥ n, Goal (trace.state m) := by
  by_contra never
  have away (m : Nat) (later : m ≥ n) : ¬ Goal (trace.state m) :=
    fun reached => never ⟨m, later, reached⟩
  have next (m : Nat) (later : m ≥ n) : ¬ Goal (trace.state (m + 1)) :=
    away (m + 1) (Nat.le_succ_of_le later)
  have keeps (m : Nat) (later : m ≥ n) (k : Nat) (order : k ≥ m) :
      rank (trace.state k) = rank (trace.state m) ∨
        ∃ j ≥ m, below (rank (trace.state j)) (rank (trace.state m)) := by
    induction order with
    | refl => exact .inl rfl
    | @step k order ih =>
      have past : k ≥ n := Nat.le_trans later order
      rcases ih with same | lowered
      · rcases (kept k past (away k past)).resolve_left (next k past) with still | less
        · exact .inl (still.trans same)
        · exact .inr ⟨k + 1, Nat.le_succ_of_le order, same ▸ less⟩
      · exact .inr lowered
  have descends (reached : Rank) : ∀ m ≥ n, rank (trace.state m) = reached → False := by
    induction reached using wellFounded.induction with
    | _ reached ih =>
      rintro m later rfl
      obtain ⟨k, order, helps⟩ := fair m later (away m later)
      have past : k ≥ n := Nat.le_trans later order
      rcases keeps m later k order with same | ⟨j, after, less⟩
      · have less := (lower k past (away k past) helps).resolve_left (next k past)
        exact ih _ (same ▸ less) (k + 1) (Nat.le_succ_of_le past) rfl
      · exact ih _ less j (Nat.le_trans later after) rfl
  exact descends _ n (Nat.le_refl n) rfl

theorem leads_to (Goal : State → Prop) (rank : State → Nat) (helpful : Label → Prop) {n : Nat}
    (kept : ∀ m ≥ n, ¬ Goal (trace.state m) →
      Goal (trace.state (m + 1)) ∨ rank (trace.state (m + 1)) ≤ rank (trace.state m))
    (lower : ∀ m ≥ n, ¬ Goal (trace.state m) → helpful (trace.label m) →
      Goal (trace.state (m + 1)) ∨ rank (trace.state (m + 1)) < rank (trace.state m))
    (fair : ∀ m ≥ n, ¬ Goal (trace.state m) → ∃ k ≥ m, helpful (trace.label k)) :
    ∃ m ≥ n, Goal (trace.state m) :=
  trace.leads_to_of_wellFounded Nat.lt_wfRel.wf Goal rank helpful
    (fun m later away => (kept m later away).imp id Nat.eq_or_lt_of_le) lower fair

end Trace

section Stuttering

variable {step : State → Label → Option State}

/-- The states of a finite run, then its last one for ever. -/
def replay (step : State → Label → Option State) : State → List Label → Nat → State
  | s, _, 0 => s
  | s, [], _ + 1 => s
  | s, label :: labels, n + 1 =>
    match step s label with
    | some t => replay step t labels n
    | none => s

theorem replay_cons {s u : State} {label : Label} {labels : List Label} (taken : step s label = some u)
    (n : Nat) : replay step s (label :: labels) (n + 1) = replay step u labels n := by
  rw [replay, taken]

theorem replay_end {s t : State} {labels : List Label} (run : execute step s labels = some t) :
    ∀ n ≥ labels.length, replay step s labels n = t := by
  induction labels generalizing s with
  | nil =>
    cases run
    intro n _
    cases n <;> rfl
  | cons label labels ih =>
    simp only [execute, Option.bind_eq_some_iff] at run
    obtain ⟨u, taken, rest⟩ := run
    intro n past
    cases n with
    | zero => exact absurd past (Nat.not_succ_le_zero _)
    | succ n =>
      rw [replay_cons taken]
      exact ih rest n (Nat.le_of_succ_le_succ past)

theorem replay_taken {s t : State} {labels : List Label} (run : execute step s labels = some t)
    {n : Nat} (inside : n < labels.length) :
    step (replay step s labels n) labels[n] = some (replay step s labels (n + 1)) := by
  induction labels generalizing s n with
  | nil => exact absurd inside (Nat.not_lt_zero n)
  | cons label labels ih =>
    simp only [execute, Option.bind_eq_some_iff] at run
    obtain ⟨u, taken, rest⟩ := run
    cases n with
    | zero =>
      rw [replay_cons taken]
      cases labels <;> exact taken
    | succ n =>
      rw [replay_cons taken, replay_cons taken]
      exact ih rest (Nat.lt_of_succ_lt_succ inside)

theorem replay_step {s t : State} {labels : List Label} {idle : Label}
    (run : execute step s labels = some t) (stutters : step t idle = some t) (n : Nat) :
    step (replay step s labels n) (labels.getD n idle) = some (replay step s labels (n + 1)) := by
  by_cases inside : n < labels.length
  · rw [List.getD_eq_getElem?_getD, List.getElem?_eq_getElem inside, Option.getD_some]
    exact replay_taken run inside
  · have past := Nat.not_lt.mp inside
    rw [List.getD_eq_getElem?_getD, List.getElem?_eq_none past, Option.getD_none, replay_end run n past,
      replay_end run (n + 1) (Nat.le_succ_of_le past)]
    exact stutters

/-- A finite run followed by a step that changes nothing, for ever. -/
def Trace.stutter (s : State) (labels : List Label) (idle : Label)
    (ends : ∃ t ∈ execute step s labels, step t idle = some t) : Trace step where
  state := replay step s labels
  label n := labels.getD n idle
  steps n := by
    obtain ⟨t, run, stutters⟩ := ends
    exact replay_step run stutters n

/-- A finite run followed by another one that ends where it begins, for ever. -/
def Trace.lasso {s t : State} {labels cycle : List Label} (around : 0 < cycle.length)
    (arrives : execute step s labels = some t) (returns : execute step t cycle = some t) :
    Trace step where
  state n :=
    if n < labels.length then replay step s labels n
    else replay step t cycle ((n - labels.length) % cycle.length)
  label n :=
    if inside : n < labels.length then labels[n]
    else cycle.get ⟨(n - labels.length) % cycle.length, Nat.mod_lt _ around⟩
  steps n := by
    by_cases inside : n < labels.length
    · rw [dif_pos inside, if_pos inside, replay_taken arrives inside]
      by_cases last : n + 1 < labels.length
      · rw [if_pos last]
      · have here : n + 1 = labels.length := by omega
        rw [if_neg last, here, Nat.sub_self, Nat.zero_mod, replay_end arrives _ (Nat.le_refl _)]
        cases cycle <;> rfl
    · have later : ¬ n + 1 < labels.length := by omega
      have next : n + 1 - labels.length = (n - labels.length) + 1 := by omega
      have below := Nat.mod_lt (n - labels.length) around
      rw [dif_neg inside, if_neg inside, if_neg later, List.get_eq_getElem,
        replay_taken returns below, next]
      by_cases last : (n - labels.length) % cycle.length + 1 < cycle.length
      · have stays : (n - labels.length + 1) % cycle.length =
            (n - labels.length) % cycle.length + 1 := by
          rw [← Nat.mod_add_mod, Nat.mod_eq_of_lt last]
        rw [stays]
      · have here : (n - labels.length) % cycle.length + 1 = cycle.length := by omega
        have turned : (n - labels.length + 1) % cycle.length = 0 := by
          rw [← Nat.mod_add_mod, here, Nat.mod_self]
        rw [here, turned, replay_end returns _ (Nat.le_refl _)]
        cases cycle <;> rfl

section Around

variable {s t : State} {labels cycle : List Label} {around : 0 < cycle.length}
  {arrives : execute step s labels = some t} {returns : execute step t cycle = some t}

theorem lasso_state {n : Nat} (later : labels.length ≤ n) :
    (Trace.lasso around arrives returns).state n =
      replay step t cycle ((n - labels.length) % cycle.length) := if_neg (Nat.not_lt.mpr later)

theorem lasso_label {n : Nat} (later : labels.length ≤ n) :
    (Trace.lasso around arrives returns).label n ∈ cycle := by
  have label : (Trace.lasso around arrives returns).label n =
      cycle.get ⟨(n - labels.length) % cycle.length, Nat.mod_lt _ around⟩ :=
    dif_neg (Nat.not_lt.mpr later)
  rw [label]
  exact List.getElem_mem _

/-- Every step of the cycle is taken again and again. -/
theorem lasso_again (n : Nat) {k : Nat} (inside : k < cycle.length) :
    ∃ m ≥ n, (Trace.lasso around arrives returns).label m = cycle[k] := by
  have many : n ≤ cycle.length * n := Nat.le_mul_of_pos_left n around
  refine ⟨labels.length + (k + cycle.length * n), by omega, ?_⟩
  have place : (labels.length + (k + cycle.length * n) - labels.length) % cycle.length = k := by
    rw [Nat.add_sub_cancel_left, Nat.add_mul_mod_self_left, Nat.mod_eq_of_lt inside]
  show (if here : _ then _ else cycle.get _) = _
  rw [dif_neg (by omega)]
  congr

end Around

end Stuttering

section Latching

variable {Sets Holds Resets : Nat → Prop}

/-- What is set by some steps and reset by others holds again, after the last reset, exactly if
    every reset is followed by a step that sets it. -/
theorem latch (next : ∀ n, Holds (n + 1) ↔ (Holds n ∨ Sets n) ∧ ¬ Resets n) (initial : Holds 0)
    {bound : Nat} (quiet : ∀ n ≥ bound, ¬ Resets n) :
    (∃ m ≥ bound, Holds m) ↔ ∀ k, Resets k → ∃ m > k, Sets m := by
  constructor
  · rintro ⟨m, late, holds⟩ k reset
    by_contra none
    have down (d : Nat) : ¬ Holds (k + 1 + d) := by
      induction d with
      | zero => exact fun up => ((next k).mp up).2 reset
      | succ d ih =>
        intro up
        rcases ((next (k + 1 + d)).mp up).1 with before | set
        · exact ih before
        · exact none ⟨k + 1 + d, by omega, set⟩
    have early : k < bound := by
      by_contra after
      exact quiet k (Nat.not_lt.mp after) reset
    obtain ⟨d, rfl⟩ := Nat.exists_eq_add_of_le (Nat.le_trans early late)
    exact down d holds
  · intro follows
    by_contra never
    have down (m : Nat) (late : m ≥ bound) : ¬ Holds m := fun holds => never ⟨m, late, holds⟩
    have last (n : Nat) : Holds n ∨ ∃ k < n, Resets k ∧ ∀ j, k < j → j < n → ¬ Sets j := by
      induction n with
      | zero => exact .inl initial
      | succ n ih =>
        by_cases up : Holds (n + 1)
        · exact .inl up
        refine .inr ?_
        by_cases reset : Resets n
        · exact ⟨n, Nat.lt_succ_self n, reset, fun j after before => by omega⟩
        have unset : ¬ (Holds n ∨ Sets n) := fun either => up ((next n).mpr ⟨either, reset⟩)
        rw [not_or] at unset
        obtain ⟨k, before, resets, silent⟩ := ih.resolve_left unset.1
        refine ⟨k, Nat.lt_succ_of_lt before, resets, fun j after early => ?_⟩
        by_cases here : j = n
        · rw [here]
          exact unset.2
        · exact silent j after (by omega)
    obtain ⟨k, before, resets, silent⟩ := (last bound).resolve_left (down bound (Nat.le_refl _))
    obtain ⟨m, after, set⟩ := follows k resets
    by_cases early : m < bound
    · exact silent m after early set
    · have late := Nat.not_lt.mp early
      exact down (m + 1) (Nat.le_succ_of_le late) ((next m).mpr ⟨.inr set, quiet m late⟩)

end Latching

end Transition
