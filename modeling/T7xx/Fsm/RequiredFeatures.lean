import Mathlib.Algebra.Ring.Nat
import T7xx.Fsm.RuntimeData

namespace T7xxModel.Fsm

/-- Where the loop looks for record `i`: its offset is an `int`. -/
def readOffset (event : FsmEvent) : Nat → Int
  | 0 => featureQuerySize
  | i + 1 => toInt32 (nextOffset event (readOffset event i))

def Required (featureSet : Nat → BitVec 8) (i : Nat) : Prop :=
  featureMsk (featureSet i) = MTK_FEATURE_MUST_BE_SUPPORTED

def MarkedAt (event : FsmEvent) (offset : Int) : Prop :=
  featureMsk (event.data (offset + 1)) = MTK_FEATURE_MUST_BE_SUPPORTED

def EndsInside (event : FsmEvent) (i : Nat) : Prop := recordOffset event (i + 1) ≤ event.length.toNat

/-- The loop gets to record `i` unless it rejects one before. -/
def Reaches (event : FsmEvent) (i : Nat) : Prop := ∀ j ≤ i, readOffset event j < event.length.toInt

section Loop

variable {event : FsmEvent} {featureSet : Nat → BitVec 8} {i : Nat}

/-- The loop accepts the data exactly if no record that it gets to misses a required mark. -/
theorem parseHostRtData_accepts (event : FsmEvent) (featureSet : Nat → BitVec 8) (rounds i : Nat) :
    (parseHostRtData event featureSet rounds i (readOffset event i)).2 = 0 ↔
      ∀ k, i ≤ k → k < i + rounds → (∀ j, i ≤ j → j ≤ k → readOffset event j < event.length.toInt) →
        Required featureSet k → MarkedAt event (readOffset event k) := by
  induction rounds generalizing i with
  | zero => exact ⟨fun _ k low high => by omega, fun _ => rfl⟩
  | succ rounds ih =>
    have result := parseRtFeature_rejects event featureSet i (readOffset event i)
    unfold parseHostRtData
    by_cases inside : readOffset event i < event.length.toInt
    · rw [if_pos inside]
      generalize parseRtFeature event featureSet i (readOffset event i) = parsed at result
      obtain ⟨steps, ret⟩ := parsed
      dsimp only at result ⊢
      by_cases rejected : ret = 0
      · rw [if_neg (not_not.mpr rejected)]
        dsimp only
        have later := ih (i + 1)
        rw [readOffset] at later
        rw [later]
        constructor
        · intro all k low high reached required
          by_cases here : k = i
          · rw [here] at required ⊢
            by_contra unmarked
            exact result.mpr ⟨required, unmarked⟩ rejected
          · exact all k (by omega) (by omega) (fun j from_ to_ => reached j (by omega) to_) required
        · intro all k low high reached required
          apply all k (by omega) (by omega) _ required
          intro j from_ to_
          by_cases first : j = i
          · rw [first]
            exact inside
          · exact reached j (by omega) to_
      · rw [if_pos rejected]
        refine ⟨fun zero => absurd zero rejected, fun all => ?_⟩
        obtain ⟨required, unmarked⟩ := result.mp rejected
        refine absurd (all i (Nat.le_refl i) (by omega) (fun j from_ to_ => ?_) required) unmarked
        rw [Nat.le_antisymm to_ from_]
        exact inside
    · rw [if_neg inside]
      refine ⟨fun _ k low _ reached => ?_, fun _ => rfl⟩
      exact absurd (reached i (Nat.le_refl i) low) inside

/-- Up to a record that lies in the event the loop reads where the records are. -/
theorem readOffset_exact (short : event.length.toNat < 2 ^ 31) {j : Nat}
    (inside : recordOffset event j ≤ event.length.toNat) : readOffset event j = recordOffset event j := by
  induction j with
  | zero => rfl
  | succ j ih =>
    have before := nextOffset_lt event (recordOffset event j)
    change nextOffset event (recordOffset event j) ≤ _ at inside
    rw [readOffset, ih (by omega), recordOffset]
    exact (toInt32_eq_iff (recordOffset_pos event (j + 1))).mpr (by
      change nextOffset event (recordOffset event j) < _
      omega)

theorem EndsInside.reaches (short : event.length.toNat < 2 ^ 31) (inside : EndsInside event i) :
    Reaches event i := by
  intro j before
  have least := recordOffset_mono event (show j + 1 ≤ i + 1 by omega)
  have smaller := nextOffset_lt event (recordOffset event j)
  change recordOffset event j < recordOffset event (j + 1) at smaller
  unfold EndsInside at inside
  rw [readOffset_exact short (by omega), BitVec.toInt_eq_toNat_of_lt (by omega)]
  omega

end Loop

/-- Accepted data holds a marked record of each required feature exactly if the loop meets a required
    record that is not marked, or the records of all required features end within the event; where its
    length is none of an `int` the loop looks at no record. -/
theorem required_features_parsed (event : FsmEvent) (featureSet : Nat → BitVec 8) :
    ((parseHostRtData event featureSet FEATURE_COUNT 0 featureQuerySize).2 = 0 →
      ∀ i < FEATURE_COUNT, Required featureSet i →
        EndsInside event i ∧ MarkedAt event (recordOffset event i)) ↔
    (∃ i < FEATURE_COUNT, Reaches event i ∧ Required featureSet i ∧
      ¬ MarkedAt event (readOffset event i)) ∨
    ∀ i < FEATURE_COUNT, Required featureSet i →
      EndsInside event i ∧ (2 ^ 31 ≤ event.length.toNat → MarkedAt event (recordOffset event i)) := by
  have accepts := parseHostRtData_accepts event featureSet FEATURE_COUNT 0
  rw [show readOffset event 0 = featureQuerySize from rfl] at accepts
  constructor
  · intro found
    by_cases met : ∃ i < FEATURE_COUNT, Reaches event i ∧ Required featureSet i ∧
        ¬ MarkedAt event (readOffset event i)
    · exact Or.inl met
    · right
      have zero := accepts.mpr fun k _ below reached required => by
        by_contra unmarked
        exact met ⟨k, by omega, fun j before => reached j (Nat.zero_le j) before, required, unmarked⟩
      intro i below required
      obtain ⟨inside, marked⟩ := found zero i below required
      exact ⟨inside, fun _ => marked⟩
  · rintro (⟨i, below, reached, required, unmarked⟩ | inside) zero k bounded needed
    · exact absurd (accepts.mp zero i (Nat.zero_le i) (by omega) (fun j _ => reached j) required) unmarked
    · obtain ⟨ends, long⟩ := inside k bounded needed
      refine ⟨ends, ?_⟩
      by_cases short : event.length.toNat < 2 ^ 31
      · have marked := accepts.mp zero k (Nat.zero_le k) (by omega)
          (fun j _ => ends.reaches short j) needed
        have smaller := nextOffset_lt event (recordOffset event k)
        change recordOffset event k < recordOffset event (k + 1) at smaller
        unfold EndsInside at ends
        rwa [readOffset_exact short (by omega)] at marked
      · exact long (by omega)

def emptyHs2 : FsmEvent where
  data := fun _ => 0
  length := 72

/-- Data without any record is accepted by a host that must have the port enumeration. -/
theorem missing_feature_accepted :
    ¬ ∀ event featureSet, (parseHostRtData event featureSet FEATURE_COUNT 0 featureQuerySize).2 = 0 →
      ∀ i < FEATURE_COUNT, Required featureSet i →
        EndsInside event i ∧ MarkedAt event (recordOffset event i) := by
  intro always
  obtain ⟨inside, _⟩ := always emptyHs2 (fun i => if i = RT_ID_MD_PORT_ENUM then 2 else 0) (by decide)
    RT_ID_MD_PORT_ENUM (by decide) (by unfold Required; decide)
  unfold EndsInside at inside
  exact absurd inside (by decide)

end T7xxModel.Fsm
