import Mathlib.Algebra.Ring.Int.Defs
import T7xx.Kernel.Errno

namespace T7xxModel.Fsm

def FEATURE_COUNT : Nat := 64
def MD_FEATURE_QUERY_ID : BitVec 32 := 0x49434343
def MTK_FEATURE_DOES_NOT_EXIST : BitVec 4 := 0
def MTK_FEATURE_MUST_BE_SUPPORTED : BitVec 4 := 2
def RT_ID_MD_PORT_ENUM : Nat := 0
def RT_ID_AP_PORT_ENUM : Nat := 1
def PORT_ENUM_VER : BitVec 16 := 0
def PORT_ENUM_HEAD_PATTERN : BitVec 32 := 0x5a5a5a5a
def PORT_ENUM_TAIL_PATTERN : BitVec 32 := 0xa5a5a5a5

/-- The sizes of `struct feature_query`, `struct mtk_runtime_feature` and `struct port_msg`. -/
def featureQuerySize : Int := 72
def runtimeFeatureSize : Int := 8
def portMsgSize : Int := 12

/-- `struct t7xx_fsm_event`; `data` is the memory by offset from its data, which `length` ends. -/
structure FsmEvent where
  data : Int → BitVec 8
  length : BitVec 32

def FsmEvent.le32 (event : FsmEvent) (offset : Int) : BitVec 32 :=
  event.data (offset + 3) ++ event.data (offset + 2) ++ event.data (offset + 1) ++ event.data offset

def featureMsk (byte : BitVec 8) : BitVec 4 := byte.extractLsb 3 0

/-- What the handlers do with the event: they read bytes of it, and they advance the running offset,
    which is an `int`, to a sum. -/
inductive RtStep where
  | read (offset : Int) (size : Nat)
  | advance (sum : Int)
deriving DecidableEq, Repr

def toInt32 (sum : Int) : Int := (BitVec.ofInt 32 sum).toInt

def RtStep.InEvent (length : BitVec 32) : RtStep → Prop
  | .read offset size => 0 ≤ offset ∧ offset + size ≤ length.toNat
  | .advance sum => 0 ≤ sum ∧ toInt32 sum = sum

instance (length : BitVec 32) : DecidablePred (RtStep.InEvent length) := fun step => by
  cases step <;> unfold RtStep.InEvent <;> infer_instance

def portMsgVersion (info : BitVec 32) : BitVec 16 := info.extractLsb 31 16
def portMsgPrtCnt (info : BitVec 32) : Nat := (info.extractLsb 15 0).toNat

/-- The checks of a port message that begins at `msg`. -/
def PortMsgValid (event : FsmEvent) (msg : Int) : Prop :=
  portMsgVersion (event.le32 (msg + 4)) = PORT_ENUM_VER ∧ event.le32 msg = PORT_ENUM_HEAD_PATTERN ∧
    event.le32 (msg + 8) = PORT_ENUM_TAIL_PATTERN

instance (event : FsmEvent) (msg : Int) : Decidable (PortMsgValid event msg) :=
  inferInstanceAs (Decidable (_ ∧ _ ∧ _))

/-- `t7xx_port_enum_msg_handler`; a message that is not valid has its patterns read for the report. -/
def portEnumMsgHandler (event : FsmEvent) (msg : Int) : List RtStep × Int :=
  let header := [.read (msg + 4) 4, .read msg 4, .read (msg + 8) 4]
  if ¬ PortMsgValid event msg then (header, -EFAULT)
  else
    let portCount := portMsgPrtCnt (event.le32 (msg + 4))
    (header ++ (List.range portCount).map fun i => .read (msg + portMsgSize + 4 * i) 4, 0)

def nextOffset (event : FsmEvent) (offset : Int) : Int :=
  offset + runtimeFeatureSize + (event.le32 (offset + 4)).toNat

def parseRtFeature (event : FsmEvent) (featureSet : Nat → BitVec 8) (i : Nat) (offset : Int) :
    List RtStep × Int :=
  let header := [.read (offset + 4) 4, .advance (nextOffset event offset)]
  if featureMsk (featureSet i) ≠ MTK_FEATURE_MUST_BE_SUPPORTED then (header, 0)
  else
    let header := header ++ [.read (offset + 1) 1]
    if featureMsk (event.data (offset + 1)) ≠ MTK_FEATURE_MUST_BE_SUPPORTED then (header, -EINVAL)
    else if i = RT_ID_MD_PORT_ENUM ∨ i = RT_ID_AP_PORT_ENUM then
      (header ++ (portEnumMsgHandler event (offset + runtimeFeatureSize)).1, 0)
    else (header, 0)

def parseHostRtData (event : FsmEvent) (featureSet : Nat → BitVec 8) :
    (rounds i : Nat) → (offset : Int) → List RtStep × Int
  | 0, _, _ => ([], 0)
  | rounds + 1, i, offset =>
    if offset < event.length.toInt then
      let (steps, ret) := parseRtFeature event featureSet i offset
      if ret ≠ 0 then (steps, ret)
      else
        let (rest, ret) := parseHostRtData event featureSet rounds (i + 1)
          (toInt32 (nextOffset event offset))
        (steps ++ rest, ret)
    else ([], 0)

/-- `t7xx_prepare_device_rt_data`, whose second loop runs if the answer could be allocated. -/
def prepareDeviceRtData (event : FsmEvent) (allocated : Bool) : List RtStep × Int :=
  let patterns := [.read 0 4, .read 68 4]
  if event.le32 0 ≠ MD_FEATURE_QUERY_ID ∨ event.le32 68 ≠ MD_FEATURE_QUERY_ID then (patterns, -EINVAL)
  else
    let counted := (List.range FEATURE_COUNT).map fun i => .read (4 + i) 1
    if allocated = false then (patterns ++ counted, -ENOMEM)
    else
      let filled := (List.range FEATURE_COUNT).flatMap fun (i : Nat) =>
        if featureMsk (event.data (4 + i)) = MTK_FEATURE_DOES_NOT_EXIST then
          [.read (4 + i) 1, .read (4 + i) 1]
        else [.read (4 + i) 1]
      (patterns ++ counted ++ filled, 0)

/-- `t7xx_core_hk_handler` with its HS2 event; `exp_flg` is looked at before and after the parsing. -/
def coreHkHandler (event : FsmEvent) (featureSet : Nat → BitVec 8)
    (expFlgBefore expFlgAfter allocated : Bool) : List RtStep :=
  if expFlgBefore then []
  else
    let (steps, ret) := parseHostRtData event featureSet FEATURE_COUNT 0 featureQuerySize
    if ret ≠ 0 ∨ expFlgAfter then steps else steps ++ (prepareDeviceRtData event allocated).1

section Format

/-- Where record `i` begins if no length is cut off. -/
def recordOffset (event : FsmEvent) : Nat → Int
  | 0 => featureQuerySize
  | i + 1 => nextOffset event (recordOffset event i)

def Rejects (event : FsmEvent) (featureSet : Nat → BitVec 8) (i : Nat) : Prop :=
  featureMsk (featureSet i) = MTK_FEATURE_MUST_BE_SUPPORTED ∧
    featureMsk (event.data (recordOffset event i + 1)) ≠ MTK_FEATURE_MUST_BE_SUPPORTED

instance (event : FsmEvent) (featureSet : Nat → BitVec 8) (i : Nat) :
    Decidable (Rejects event featureSet i) := inferInstanceAs (Decidable (_ ∧ _))

def Begins (event : FsmEvent) (featureSet : Nat → BitVec 8) (i : Nat) : Prop :=
  recordOffset event i < event.length.toInt ∧ ∀ j < i, ¬ Rejects event featureSet j

def portMsgEnd (event : FsmEvent) (msg : Int) : Int :=
  msg + portMsgSize +
    if PortMsgValid event msg then 4 * (portMsgPrtCnt (event.le32 (msg + 4)) : Int) else 0

def CarriesPorts (event : FsmEvent) (featureSet : Nat → BitVec 8) (i : Nat) : Prop :=
  featureMsk (featureSet i) = MTK_FEATURE_MUST_BE_SUPPORTED ∧ ¬ Rejects event featureSet i ∧
    (i = RT_ID_MD_PORT_ENUM ∨ i = RT_ID_AP_PORT_ENUM)

/-- The header of record `i` and the port message in it lie in the event, and the length it gives
    ends below 2^31. -/
structure RecordFits (event : FsmEvent) (featureSet : Nat → BitVec 8) (i : Nat) : Prop where
  header : recordOffset event i + runtimeFeatureSize ≤ event.length.toNat
  ends : recordOffset event (i + 1) < 2 ^ 31
  ports : CarriesPorts event featureSet i →
    portMsgEnd event (recordOffset event i + runtimeFeatureSize) ≤ event.length.toNat

end Format

section Reads

theorem toInt32_eq_iff {sum : Int} (positive : 0 ≤ sum) : toInt32 sum = sum ↔ sum < 2 ^ 31 := by
  unfold toInt32
  rw [BitVec.toInt_ofInt]
  constructor
  · intro same
    have bound := @Int.bmod_lt sum (2 ^ 32) (by decide)
    omega
  · intro small
    exact Int.bmod_eq_of_le_mul_two (by omega) (by omega)

theorem inEvent_read {length : BitVec 32} {offset : Int} {size : Nat} (positive : 0 ≤ offset) :
    (RtStep.read offset size).InEvent length ↔ offset + size ≤ length.toNat := and_iff_right positive

theorem inEvent_advance {length : BitVec 32} {sum : Int} (positive : 0 ≤ sum) :
    (RtStep.advance sum).InEvent length ↔ sum < 2 ^ 31 :=
  (and_iff_right positive).trans (toInt32_eq_iff positive)

theorem portEnumMsgHandler_reads {event : FsmEvent} {msg limit : Int} {P : RtStep → Prop}
    (bounded : ∀ (offset : Int) (size : Nat), msg ≤ offset →
      (P (.read offset size) ↔ offset + size ≤ limit)) :
    (∀ step ∈ (portEnumMsgHandler event msg).1, P step) ↔ portMsgEnd event msg ≤ limit := by
  have header : (∀ step ∈ [RtStep.read (msg + 4) 4, .read msg 4, .read (msg + 8) 4], P step) ↔
      msg + portMsgSize ≤ limit := by
    rw [List.forall_mem_cons, List.forall_mem_cons, List.forall_mem_singleton,
      bounded _ _ (by omega), bounded _ _ (Int.le_refl msg), bounded _ _ (by omega)]
    unfold portMsgSize
    omega
  unfold portEnumMsgHandler portMsgEnd
  dsimp only
  by_cases valid : PortMsgValid event msg
  · rw [if_neg (not_not.mpr valid), if_pos valid]
    dsimp only
    rw [List.forall_mem_append, header, List.forall_mem_map]
    constructor
    · rintro ⟨start, ports⟩
      cases count : portMsgPrtCnt (event.le32 (msg + 4)) with
      | zero => simpa using start
      | succ last =>
        have within := ports last (List.mem_range.mpr (by omega))
        rw [bounded _ _ (by unfold portMsgSize; omega)] at within
        omega
    · intro fits
      refine ⟨by omega, fun i member => ?_⟩
      have below := List.mem_range.mp member
      rw [bounded _ _ (by unfold portMsgSize; omega)]
      omega
  · rw [if_pos valid, if_neg valid, Int.add_zero]
    exact header

theorem portEnumMsgHandler_inEvent {event : FsmEvent} {msg : Int} (positive : 0 ≤ msg) :
    (∀ step ∈ (portEnumMsgHandler event msg).1, step.InEvent event.length) ↔
      portMsgEnd event msg ≤ event.length.toNat :=
  portEnumMsgHandler_reads fun _ _ later => inEvent_read (Int.le_trans positive later)

theorem nextOffset_lt (event : FsmEvent) (offset : Int) : offset < nextOffset event offset := by
  unfold nextOffset runtimeFeatureSize
  omega

theorem recordOffset_pos (event : FsmEvent) (i : Nat) : 0 ≤ recordOffset event i := by
  induction i with
  | zero =>
    show (0 : Int) ≤ featureQuerySize
    decide
  | succ i ih => exact Int.le_trans ih (Int.le_of_lt (nextOffset_lt event _))

theorem recordOffset_mono (event : FsmEvent) {i j : Nat} (before : i ≤ j) :
    recordOffset event i ≤ recordOffset event j := by
  induction before with
  | refl => exact Int.le_refl _
  | step _ ih => exact Int.le_trans ih (Int.le_of_lt (nextOffset_lt event _))

theorem parseRtFeature_inEvent (event : FsmEvent) (featureSet : Nat → BitVec 8) (i : Nat) :
    (∀ step ∈ (parseRtFeature event featureSet i (recordOffset event i)).1, step.InEvent event.length) ↔
      RecordFits event featureSet i := by
  have positive := recordOffset_pos event i
  have later := nextOffset_lt event (recordOffset event i)
  have header : (∀ step ∈ [RtStep.read (recordOffset event i + 4) 4,
      .advance (nextOffset event (recordOffset event i))], step.InEvent event.length) ↔
        recordOffset event i + runtimeFeatureSize ≤ event.length.toNat ∧
          recordOffset event (i + 1) < 2 ^ 31 := by
    rw [List.forall_mem_cons, List.forall_mem_singleton, inEvent_read (by omega),
      inEvent_advance (by omega)]
    refine and_congr ?_ Iff.rfl
    unfold runtimeFeatureSize
    omega
  have info : (∀ step ∈ [RtStep.read (recordOffset event i + 4) 4,
      .advance (nextOffset event (recordOffset event i))] ++ [.read (recordOffset event i + 1) 1],
        step.InEvent event.length) ↔
          recordOffset event i + runtimeFeatureSize ≤ event.length.toNat ∧
            recordOffset event (i + 1) < 2 ^ 31 := by
    rw [List.forall_mem_append, header, List.forall_mem_singleton, inEvent_read (by omega)]
    unfold runtimeFeatureSize
    omega
  have fits : ¬ CarriesPorts event featureSet i → (RecordFits event featureSet i ↔
      recordOffset event i + runtimeFeatureSize ≤ event.length.toNat ∧
        recordOffset event (i + 1) < 2 ^ 31) :=
    fun plain => ⟨fun record => ⟨record.header, record.ends⟩,
      fun both => ⟨both.1, both.2, fun carries => absurd carries plain⟩⟩
  unfold parseRtFeature
  dsimp only
  split
  · rename_i optional
    exact header.trans (fits fun carries => optional carries.1).symm
  · rename_i must
    rw [not_not] at must
    split
    · rename_i unsupported
      exact info.trans (fits fun carries => carries.2.1 ⟨must, unsupported⟩).symm
    · rename_i supported
      have kept : ¬ Rejects event featureSet i := fun rejects => supported rejects.2
      split
      · rename_i ports
        have carries : CarriesPorts event featureSet i := ⟨must, kept, ports⟩
        dsimp only
        rw [List.forall_mem_append, info,
          portEnumMsgHandler_inEvent (by unfold runtimeFeatureSize; omega)]
        exact ⟨fun ⟨⟨start, ends⟩, ported⟩ => ⟨start, ends, fun _ => ported⟩,
          fun record => ⟨⟨record.header, record.ends⟩, record.ports carries⟩⟩
      · rename_i plain
        exact info.trans (fits fun carries => plain carries.2.2).symm

theorem parseRtFeature_rejects (event : FsmEvent) (featureSet : Nat → BitVec 8) (i : Nat)
    (offset : Int) :
    (parseRtFeature event featureSet i offset).2 ≠ 0 ↔
      featureMsk (featureSet i) = MTK_FEATURE_MUST_BE_SUPPORTED ∧
        featureMsk (event.data (offset + 1)) ≠ MTK_FEATURE_MUST_BE_SUPPORTED := by
  have invalid : -EINVAL ≠ 0 := by decide
  unfold parseRtFeature
  dsimp only
  split
  · rename_i optional
    exact ⟨fun other => absurd rfl other, fun rejects => absurd rejects.1 optional⟩
  · rename_i must
    split
    · rename_i unsupported
      exact ⟨fun _ => ⟨not_not.mp must, unsupported⟩, fun _ => invalid⟩
    · rename_i supported
      split
      · exact ⟨fun other => absurd rfl other, fun rejects => absurd rejects.2 supported⟩
      · exact ⟨fun other => absurd rfl other, fun rejects => absurd rejects.2 supported⟩

theorem parseRtFeature_ret (event : FsmEvent) (featureSet : Nat → BitVec 8) (i : Nat) :
    (parseRtFeature event featureSet i (recordOffset event i)).2 ≠ 0 ↔ Rejects event featureSet i :=
  parseRtFeature_rejects event featureSet i (recordOffset event i)

theorem first_and_later {event : FsmEvent} {featureSet : Nat → BitVec 8} {rounds i : Nat}
    {P : Nat → Prop} (begins : Begins event featureSet i) :
    (∀ j, i ≤ j → j < i + (rounds + 1) → Begins event featureSet j → P j) ↔
      P i ∧ ∀ j, i + 1 ≤ j → j < i + 1 + rounds → Begins event featureSet j → P j := by
  constructor
  · intro all
    exact ⟨all i (Nat.le_refl i) (by omega) begins, fun j low high => all j (by omega) (by omega)⟩
  · rintro ⟨first, later⟩ j low high other
    by_cases here : j = i
    · rw [here]
      exact first
    · exact later j (by omega) (by omega) other

/-- The loop reads within the event exactly if every record that it meets fits, and then it rejects the
    data exactly if one of these is rejected. -/
theorem parseHostRtData_inEvent (event : FsmEvent) (featureSet : Nat → BitVec 8) (rounds i : Nat)
    (kept : ∀ j < i, ¬ Rejects event featureSet j) :
    ((∀ step ∈ (parseHostRtData event featureSet rounds i (recordOffset event i)).1,
        step.InEvent event.length) ↔
      ∀ j, i ≤ j → j < i + rounds → Begins event featureSet j → RecordFits event featureSet j) ∧
    ((∀ j, i ≤ j → j < i + rounds → Begins event featureSet j → RecordFits event featureSet j) →
      ((parseHostRtData event featureSet rounds i (recordOffset event i)).2 = 0 ↔
        ∀ j, i ≤ j → j < i + rounds → Begins event featureSet j → ¬ Rejects event featureSet j)) := by
  induction rounds generalizing i with
  | zero =>
    have nothing : ∀ {j}, i ≤ j → j < i + 0 → False := fun low high => by omega
    refine ⟨⟨fun _ j low high => (nothing low high).elim, fun _ step member => ?_⟩, fun _ => ?_⟩
    · exact absurd member List.not_mem_nil
    · exact ⟨fun _ j low high => (nothing low high).elim, fun _ => rfl⟩
  | succ rounds ih =>
    have record := parseRtFeature_inEvent event featureSet i
    have result := parseRtFeature_ret event featureSet i
    unfold parseHostRtData
    by_cases inside : recordOffset event i < event.length.toInt
    · have begins : Begins event featureSet i := ⟨inside, kept⟩
      rw [if_pos inside]
      generalize parseRtFeature event featureSet i (recordOffset event i) = parsed at record result
      obtain ⟨steps, ret⟩ := parsed
      dsimp only at record result ⊢
      by_cases rejects : Rejects event featureSet i
      · -- The loop ends here, and no later record counts.
        have only : ∀ {j}, i ≤ j → Begins event featureSet j → j = i := by
          intro j low other
          by_contra different
          exact other.2 i (by omega) rejects
        rw [if_pos (result.mpr rejects)]
        dsimp only
        refine ⟨record.trans ⟨fun fits j low _ other => ?_, fun all => ?_⟩, fun _ => ⟨fun zero => ?_,
          fun all => ?_⟩⟩
        · rw [only low other]
          exact fits
        · exact all i (Nat.le_refl i) (by omega) begins
        · exact absurd zero (result.mpr rejects)
        · exact absurd rejects (all i (Nat.le_refl i) (by omega) begins)
      · have later : ∀ j < i + 1, ¬ Rejects event featureSet j := by
          intro j below
          by_cases last : j = i
          · rw [last]
            exact rejects
          · exact kept j (by omega)
        obtain ⟨reads, results⟩ := ih (i + 1) later
        rw [if_neg (mt result.mp rejects)]
        dsimp only
        by_cases fits : RecordFits event featureSet i
        · have exact : toInt32 (nextOffset event (recordOffset event i)) = recordOffset event (i + 1) :=
            (toInt32_eq_iff (recordOffset_pos event (i + 1))).mpr fits.ends
          rw [exact]
          refine ⟨?_, fun all => ?_⟩
          · rw [List.forall_mem_append, record, reads, first_and_later begins]
          · rw [results ((first_and_later begins).mp all).2, first_and_later begins, and_iff_right rejects]
        · have misses : ¬ ∀ j, i ≤ j → j < i + (rounds + 1) → Begins event featureSet j →
              RecordFits event featureSet j :=
            fun all => fits (all i (Nat.le_refl i) (by omega) begins)
          refine ⟨⟨fun all => ?_, fun all => absurd all misses⟩, fun all => absurd all misses⟩
          exact absurd (record.mp (List.forall_mem_append.mp all).1) fits
    · -- No record from here on begins in the event.
      have beyond : ∀ {j}, i ≤ j → ¬ Begins event featureSet j := fun low other =>
        inside (Int.lt_of_le_of_lt (recordOffset_mono event low) other.1)
      rw [if_neg inside]
      refine ⟨⟨fun _ j low _ other => absurd other (beyond low), fun _ step member => ?_⟩, fun _ => ?_⟩
      · exact absurd member List.not_mem_nil
      · exact ⟨fun _ j low _ other => absurd other (beyond low), fun _ => rfl⟩

theorem prepareDeviceRtData_inEvent (event : FsmEvent) (allocated : Bool) :
    (∀ step ∈ (prepareDeviceRtData event allocated).1, step.InEvent event.length) ↔
      featureQuerySize ≤ event.length.toNat := by
  have patterns : (∀ step ∈ [RtStep.read 0 4, .read 68 4], step.InEvent event.length) ↔
      featureQuerySize ≤ event.length.toNat := by
    rw [List.forall_mem_cons, List.forall_mem_singleton, inEvent_read (by omega), inEvent_read (by omega)]
    unfold featureQuerySize
    omega
  have feature : featureQuerySize ≤ event.length.toNat → ∀ i ∈ List.range FEATURE_COUNT,
      (RtStep.read (4 + i) 1).InEvent event.length := by
    intro whole i member
    have below : i < 64 := List.mem_range.mp member
    unfold featureQuerySize at whole
    rw [inEvent_read (by omega)]
    omega
  unfold prepareDeviceRtData
  dsimp only
  split
  · exact patterns
  · split
    · dsimp only
      rw [List.forall_mem_append, patterns, List.forall_mem_map]
      exact and_iff_left_of_imp feature
    · dsimp only
      rw [List.forall_mem_append, List.forall_mem_append, patterns, List.forall_mem_map,
        and_iff_left_of_imp feature]
      refine and_iff_left_of_imp fun whole step member => ?_
      obtain ⟨i, ranged, read⟩ := List.mem_flatMap.mp member
      have within := feature whole i ranged
      split at read
      · simp only [List.mem_cons, List.not_mem_nil, or_false, or_self] at read
        rw [read]
        exact within
      · rw [List.mem_singleton.mp read]
        exact within

/-- Every byte of an HS2 event is read within it, and the running offset stays exact, exactly if each
    record that begins in the event fits, and the event holds a whole feature query if the parsing
    ends without a rejection or an exception. -/
theorem hs2_read_in_event_iff (event : FsmEvent) (featureSet : Nat → BitVec 8)
    (expFlgBefore expFlgAfter allocated : Bool) :
    (∀ step ∈ coreHkHandler event featureSet expFlgBefore expFlgAfter allocated,
        step.InEvent event.length) ↔
      (expFlgBefore = false →
        (∀ i < FEATURE_COUNT, Begins event featureSet i → RecordFits event featureSet i) ∧
        (expFlgAfter = false →
          (∀ i < FEATURE_COUNT, Begins event featureSet i → ¬ Rejects event featureSet i) →
            featureQuerySize ≤ event.length.toNat)) := by
  obtain ⟨reads, results⟩ := parseHostRtData_inEvent event featureSet FEATURE_COUNT 0 nofun
  have prepared := prepareDeviceRtData_inEvent event allocated
  have fromStart : ∀ P : Nat → Prop,
      (∀ j, 0 ≤ j → j < 0 + FEATURE_COUNT → Begins event featureSet j → P j) ↔
        ∀ i < FEATURE_COUNT, Begins event featureSet i → P i := by
    intro P
    rw [Nat.zero_add]
    exact ⟨fun all i => all i (Nat.zero_le i), fun all j _ => all j⟩
  rw [fromStart] at reads results
  rw [fromStart] at results
  rw [show recordOffset event 0 = featureQuerySize from rfl] at reads results
  unfold coreHkHandler
  generalize parseHostRtData event featureSet FEATURE_COUNT 0 featureQuerySize = parsed at reads results
  obtain ⟨steps, ret⟩ := parsed
  dsimp only at reads results
  cases expFlgBefore with
  | true => exact ⟨fun _ => nofun, fun _ step member => absurd member List.not_mem_nil⟩
  | false =>
    rw [if_neg Bool.false_ne_true, forall_prop_of_true rfl]
    dsimp only
    split
    · rename_i stops
      refine reads.trans ⟨fun all => ⟨all, fun calm kept => ?_⟩, And.left⟩
      rcases stops with rejected | exception
      · exact absurd ((results all).mpr kept) rejected
      · rw [calm] at exception
        cases exception
    · rename_i goes
      rw [not_or, not_not] at goes
      have calm : expFlgAfter = false := Bool.eq_false_iff.mpr goes.2
      rw [List.forall_mem_append, prepared, reads]
      exact and_congr_right fun all => ⟨fun whole _ _ => whole,
        fun whole => whole calm ((results all).mp goes.1)⟩

/-- A feature query, and one more byte: the header of the first record is cut off. -/
def truncatedHs2 : FsmEvent where
  data := fun offset =>
    if offset = 3 ∨ offset = 71 then 0x49
    else if 0 ≤ offset ∧ offset < 3 ∨ 68 ≤ offset ∧ offset < 71 then 0x43
    else 0
  length := 73

theorem truncated_record_read_beyond :
    ¬ ∀ step ∈ coreHkHandler truncatedHs2 (fun _ => 0) false false true,
      step.InEvent truncatedHs2.length := by
  intro all
  have header : RtStep.read 76 4 ∈ coreHkHandler truncatedHs2 (fun _ => 0) false false true := by decide
  exact absurd (all _ header) (by decide)

end Reads

end T7xxModel.Fsm
