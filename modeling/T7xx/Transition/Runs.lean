import Mathlib.Order.Basic

namespace Transition

variable {State Label : Type*}

def execute (step : State → Label → Option State) : State → List Label → Option State
  | s, [] => some s
  | s, label :: labels => (step s label).bind fun t => execute step t labels

theorem execute_append (step : State → Label → Option State) (s : State) (first second : List Label) :
    execute step s (first ++ second) = (execute step s first).bind fun t => execute step t second := by
  induction first generalizing s with
  | nil => rfl
  | cons label first ih =>
    rw [List.cons_append, execute, execute, Option.bind_assoc]
    exact congrArg _ (funext ih)

/-- A block of labels that leads from each state of a sequence to the next one may be repeated. -/
theorem execute_repeat (step : State → Label → Option State) (at_ : Nat → State) (block : List Label)
    (first count : Nat)
    (turns : ∀ n, first ≤ n → n < first + count → execute step (at_ n) block = some (at_ (n + 1))) :
    execute step (at_ first) (List.replicate count block).flatten = some (at_ (first + count)) := by
  induction count with
  | zero => rfl
  | succ count ih =>
    have before := ih fun n from_ below => turns n from_ (Nat.lt_succ_of_lt below)
    rw [List.replicate_succ', List.flatten_append, List.flatten_singleton, execute_append, before]
    exact turns (first + count) (Nat.le_add_right _ _) (Nat.lt_succ_self _)

/-- `P` holds at the start and after every label of a run. A label that is not enabled ends it. -/
def Visits (P : State → Prop) (step : State → Label → Option State) : State → List Label → Prop
  | s, [] => P s
  | s, label :: labels => P s ∧ ∀ t ∈ step s label, Visits P step t labels

/-- Every label of a run is taken in a state that allows it. -/
def Obeys (allowed : State → Label → Prop) (step : State → Label → Option State) :
    State → List Label → Prop
  | _, [] => True
  | s, label :: labels => ∀ t ∈ step s label, allowed s label ∧ Obeys allowed step t labels

section Decisions

variable {P : State → Prop} {allowed : State → Label → Prop} {step : State → Label → Option State}

instance Visits.decidable [DecidablePred P] :
    (s : State) → (labels : List Label) → Decidable (Visits P step s labels)
  | s, [] => inferInstanceAs (Decidable (P s))
  | s, label :: labels =>
    have : ∀ t, Decidable (Visits P step t labels) := fun t => Visits.decidable t labels
    inferInstanceAs (Decidable (P s ∧ ∀ t ∈ step s label, Visits P step t labels))

instance Obeys.decidable [∀ s label, Decidable (allowed s label)] :
    (s : State) → (labels : List Label) → Decidable (Obeys allowed step s labels)
  | _, [] => inferInstanceAs (Decidable True)
  | s, label :: labels =>
    have : ∀ t, Decidable (Obeys allowed step t labels) := fun t => Obeys.decidable t labels
    inferInstanceAs (Decidable (∀ t ∈ step s label, allowed s label ∧ Obeys allowed step t labels))

end Decisions

section Rules

variable {P : State → Prop} {allowed : State → Label → Prop}
  {step : State → Label → Option State}

theorem Visits.start {s : State} {labels : List Label} (visits : Visits P step s labels) : P s := by
  cases labels with
  | nil => exact visits
  | cons label labels => exact visits.1

/-- The state a run ends in is one of those it visits. -/
theorem Visits.finish {s t : State} {labels : List Label} (visits : Visits P step s labels)
    (run : execute step s labels = some t) : P t := by
  induction labels generalizing s with
  | nil =>
    cases run
    exact visits
  | cons label labels ih =>
    simp only [execute, Option.bind_eq_some_iff] at run
    obtain ⟨u, taken, rest⟩ := run
    exact ih (visits.2 u taken) rest

/-- An invariant kept by every allowed step holds throughout a run of allowed steps. -/
theorem Visits.of_invariant (Invariant : State → Prop) (safe : ∀ s, Invariant s → P s)
    (kept : ∀ s label t, Invariant s → allowed s label → step s label = some t → Invariant t)
    {s : State} {labels : List Label} (initial : Invariant s) (obeys : Obeys allowed step s labels) :
    Visits P step s labels := by
  induction labels generalizing s with
  | nil => exact safe s initial
  | cons label labels ih =>
    refine ⟨safe s initial, fun t taken => ?_⟩
    obtain ⟨permitted, rest⟩ := obeys t taken
    exact ih (kept s label t initial permitted taken) rest

theorem Obeys.unrestricted (s : State) (labels : List Label) :
    Obeys (fun _ _ => True) step s labels := by
  induction labels generalizing s with
  | nil => exact trivial
  | cons label labels ih => exact fun t _ => ⟨trivial, ih t⟩

/-- What holds of every label of a run may be asked of each step. -/
theorem Obeys.and_labels {Q : Label → Prop} {s : State} {labels : List Label}
    (obeys : Obeys allowed step s labels) (all : ∀ label ∈ labels, Q label) :
    Obeys (fun s label => allowed s label ∧ Q label) step s labels := by
  induction labels generalizing s with
  | nil => exact trivial
  | cons label labels ih =>
    intro t taken
    obtain ⟨permitted, rest⟩ := obeys t taken
    refine ⟨⟨permitted, all label List.mem_cons_self⟩, ?_⟩
    exact ih rest fun later member => all later (List.mem_cons_of_mem label member)

theorem Visits.of_kept (Invariant : State → Prop) (safe : ∀ s, Invariant s → P s)
    (kept : ∀ s label t, Invariant s → step s label = some t → Invariant t)
    {s : State} (labels : List Label) (initial : Invariant s) : Visits P step s labels :=
  Visits.of_invariant Invariant safe (fun s label t inv _ taken => kept s label t inv taken) initial
    (Obeys.unrestricted s labels)

/-- When each step from a safe state is safe exactly if it is allowed, a run is safe exactly
    if all its steps are. -/
theorem visits_iff_obeys (Invariant : State → Prop)
    (kept : ∀ s label t, Invariant s → P s → step s label = some t → Invariant t)
    (exact_step : ∀ s label t, Invariant s → P s → step s label = some t → (P t ↔ allowed s label))
    {s : State} {labels : List Label} (initial : Invariant s) (safe : P s) :
    Visits P step s labels ↔ Obeys allowed step s labels := by
  induction labels generalizing s with
  | nil => exact ⟨fun _ => trivial, fun _ => safe⟩
  | cons label labels ih =>
    constructor
    · intro visits t taken
      have reached : P t := (visits.2 t taken).start
      refine ⟨(exact_step s label t initial safe taken).mp reached, ?_⟩
      exact (ih (kept s label t initial safe taken) reached).mp (visits.2 t taken)
    · intro obeys
      refine ⟨safe, fun t taken => ?_⟩
      obtain ⟨permitted, rest⟩ := obeys t taken
      have reached : P t := (exact_step s label t initial safe taken).mpr permitted
      exact (ih (kept s label t initial safe taken) reached).mpr rest

/-- The same for an invariant that the allowed steps keep and that makes every state safe. -/
theorem visits_iff_obeys_of_invariant (Invariant : State → Prop) (safe : ∀ s, Invariant s → P s)
    (kept : ∀ s label t, Invariant s → allowed s label → step s label = some t → Invariant t)
    (needed : ∀ s label t, Invariant s → step s label = some t → P t → allowed s label)
    {s : State} {labels : List Label} (initial : Invariant s) :
    Visits P step s labels ↔ Obeys allowed step s labels := by
  refine ⟨fun visits => ?_, Visits.of_invariant Invariant safe kept initial⟩
  induction labels generalizing s with
  | nil => exact trivial
  | cons label labels ih =>
    intro t taken
    have permitted := needed s label t initial taken (visits.2 t taken).start
    exact ⟨permitted, ih (kept s label t initial permitted taken) (visits.2 t taken)⟩

/-- When each step ends in `P` exactly if it began in `P` and is allowed, so does a whole run. -/
theorem finish_iff_obeys (Invariant : State → Prop)
    (exact_step : ∀ s label t, Invariant s → step s label = some t →
      Invariant t ∧ (P t ↔ P s ∧ allowed s label))
    {s t : State} {labels : List Label} (initial : Invariant s) (run : execute step s labels = some t) :
    P t ↔ P s ∧ Obeys allowed step s labels := by
  induction labels generalizing s with
  | nil =>
    cases run
    exact (and_iff_left trivial).symm
  | cons label labels ih =>
    simp only [execute, Option.bind_eq_some_iff] at run
    obtain ⟨u, taken, rest⟩ := run
    obtain ⟨kept, one⟩ := exact_step s label u initial taken
    have obeys : Obeys allowed step s (label :: labels) ↔ allowed s label ∧ Obeys allowed step u labels := by
      refine ⟨fun all => all u taken, fun both v other => ?_⟩
      cases taken.symm.trans other
      exact both
    rw [ih kept rest, one, obeys, and_assoc]

end Rules

end Transition
