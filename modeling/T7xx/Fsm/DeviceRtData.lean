import T7xx.Cldma.PortRecv
import T7xx.Format.Records
import T7xx.Fsm.RuntimeData

namespace T7xxModel.Fsm

open Cldma

/-- The sizes of `struct ctrl_msg_header` and `struct mtk_runtime_feature`. -/
def ctrlMsgHeaderSize : Nat := 12
def rtFeatureSize : Nat := 8

/-- A buffer for a control message: `size` bytes of `memory`, with the payload from `data` on. -/
structure CtrlSkb where
  memory : Nat → BitVec 8
  size : Nat
  data : Nat
  payload : List (BitVec 8)

/-- `struct mtk_runtime_feature` as the peer reads it, with the `data_len` bytes of its `data`. -/
structure RuntimeFeature where
  featureId : BitVec 8
  supportInfo : BitVec 8
  reserved : BitVec 8 × BitVec 8
  dataLen : BitVec 32
  data : List (BitVec 8)
  sized : data.length = dataLen.toNat

section Buffers

def CtrlSkb.reserve (len : Nat) (skb : CtrlSkb) : CtrlSkb := { skb with data := skb.data + len }

/-- `skb_put`, which panics at `none`; the new bytes are those of the memory. -/
def CtrlSkb.put (len : Nat) (skb : CtrlSkb) : Option CtrlSkb :=
  let tail := skb.data + skb.payload.length
  if tail + len ≤ skb.size then
    some { skb with payload := skb.payload ++ (List.range len).map fun k => skb.memory (tail + k) }
  else none

/-- `t7xx_port_alloc_skb`; `allocated` is what `__dev_alloc_skb` finds in the memory it returns. -/
def portAllocSkb (allocated : Option (Nat → BitVec 8)) (payload : Nat) : Option CtrlSkb :=
  allocated.map fun memory =>
    CtrlSkb.reserve ccciHeaderSize ⟨memory, payload + ccciHeaderSize, 0, []⟩

def ctrlAllocSkb (allocated : Option (Nat → BitVec 8)) (payload : Nat) : Option CtrlSkb :=
  (portAllocSkb allocated (payload + ctrlMsgHeaderSize)).map (CtrlSkb.reserve ctrlMsgHeaderSize)

def storeByte (payload : List (BitVec 8)) (offset : Nat) (byte : BitVec 8) :
    Option (List (BitVec 8)) := if offset < payload.length then some (payload.set offset byte) else none

end Buffers

section Preparing

def mdFeature (event : FsmEvent) (i : Nat) : BitVec 8 := event.data (4 + i)

def Answered (event : FsmEvent) (i : Nat) : Prop :=
  featureMsk (mdFeature event i) ≠ MTK_FEATURE_MUST_BE_SUPPORTED

instance (event : FsmEvent) : DecidablePred (Answered event) := fun i =>
  inferInstanceAs (Decidable (featureMsk (mdFeature event i) ≠ MTK_FEATURE_MUST_BE_SUPPORTED))

def rtDataLen (event : FsmEvent) : Nat :=
  (List.range FEATURE_COUNT).foldl
    (fun len i => if Answered event i then len + rtFeatureSize else len) 0

/-- Its second loop, over the features that are left; `rtFeature` is the offset of the record that
    is filled next. -/
def fillRtData (event : FsmEvent) : List Nat → List (BitVec 8) → Nat → Option (List (BitVec 8))
  | [], payload, _ => some payload
  | i :: rest, payload, rtFeature =>
    let mdFeatureMask := featureMsk (mdFeature event i)
    if mdFeatureMask = MTK_FEATURE_MUST_BE_SUPPORTED then fillRtData event rest payload rtFeature
    else
      (storeByte payload rtFeature (BitVec.ofNat 8 i)).bind fun payload =>
        (if mdFeatureMask = MTK_FEATURE_DOES_NOT_EXIST then
          storeByte payload (rtFeature + 1) (mdFeature event i)
        else some payload).bind fun payload =>
          fillRtData event rest payload (rtFeature + rtFeatureSize)

/-- `t7xx_prepare_device_rt_data` with the HS3 message it sends; `none` is a store outside the
    payload, or the panic of `skb_put`. -/
def Hs3.prepareDeviceRtData (event : FsmEvent) (allocated : Option (Nat → BitVec 8)) :
    Option (Int × Option CtrlSkb) :=
  if event.le32 0 ≠ MD_FEATURE_QUERY_ID ∨ event.le32 68 ≠ MD_FEATURE_QUERY_ID then
    some (-EINVAL, none)
  else
    match ctrlAllocSkb allocated (rtDataLen event) with
    | none => some (-ENOMEM, none)
    | some skb =>
      (skb.put (rtDataLen event)).bind fun skb =>
        let zeroed := skb.payload.map fun _ => 0
        (fillRtData event (List.range FEATURE_COUNT) zeroed 0).map fun payload =>
          (0, some { skb with payload })

end Preparing

section Format

def RuntimeFeature.encode (feature : RuntimeFeature) : List (BitVec 8) :=
  [feature.featureId, feature.supportInfo, feature.reserved.1, feature.reserved.2,
    feature.dataLen.extractLsb' 0 8, feature.dataLen.extractLsb' 8 8,
    feature.dataLen.extractLsb' 16 8, feature.dataLen.extractLsb' 24 8] ++ feature.data

def takeRuntimeFeature : List (BitVec 8) → Option (RuntimeFeature × List (BitVec 8))
  | featureId :: supportInfo :: first :: second :: b0 :: b1 :: b2 :: b3 :: rest =>
    let dataLen := b3 ++ b2 ++ b1 ++ b0
    if whole : dataLen.toNat ≤ rest.length then
      let data := rest.take dataLen.toNat
      some (⟨featureId, supportInfo, (first, second), dataLen, data, List.length_take_of_le whole⟩,
        rest.drop dataLen.toNat)
    else none
  | _ => none

theorem bytes_le32 (word : BitVec 32) :
    word.extractLsb' 24 8 ++ word.extractLsb' 16 8 ++ word.extractLsb' 8 8 ++ word.extractLsb' 0 8 =
      word := by
  ext i below
  simp only [BitVec.getElem_append, BitVec.getElem_extractLsb']
  split_ifs <;> grind

theorem takeRuntimeFeature_encode (feature : RuntimeFeature) (rest : List (BitVec 8)) :
    takeRuntimeFeature (feature.encode ++ rest) = some (feature, rest) := by
  obtain ⟨featureId, supportInfo, ⟨first, second⟩, dataLen, data, sized⟩ := feature
  have whole : dataLen.toNat ≤ (data ++ rest).length := by
    rw [List.length_append]
    omega
  simp only [RuntimeFeature.encode, List.cons_append, List.nil_append, takeRuntimeFeature, bytes_le32]
  rw [dif_pos whole]
  simp [← sized]

def rtDataFormat : Records.Format (BitVec 8) RuntimeFeature where
  encode := RuntimeFeature.encode
  take := takeRuntimeFeature
  solid := fun _ => List.cons_ne_nil _ _
  takes := takeRuntimeFeature_encode

end Format

section Answers

variable {event : FsmEvent}

def answer (event : FsmEvent) (i : Nat) : RuntimeFeature where
  featureId := BitVec.ofNat 8 i
  supportInfo :=
    if featureMsk (mdFeature event i) = MTK_FEATURE_DOES_NOT_EXIST then mdFeature event i else 0
  reserved := (0, 0)
  dataLen := 0
  data := []
  sized := rfl

theorem storeByte_next (before rest : List (BitVec 8)) (old byte : BitVec 8) :
    storeByte (before ++ old :: rest) before.length byte = some (before ++ byte :: rest) := by
  simp [storeByte]

theorem fillRtData_answered {i : Nat} (answered : Answered event i) (is : List Nat)
    (before rest : List (BitVec 8)) :
    fillRtData event (i :: is) (before ++ (List.replicate rtFeatureSize 0 ++ rest)) before.length =
      fillRtData event is ((before ++ (answer event i).encode) ++ rest)
        (before ++ (answer event i).encode).length := by
  have info (byte : BitVec 8) := storeByte_next (before ++ [BitVec.ofNat 8 i])
    ([0, 0, 0, 0, 0, 0] ++ rest) 0 byte
  simp only [List.append_assoc, List.cons_append, List.nil_append, List.length_append,
    List.length_singleton] at info
  have zeros : List.replicate rtFeatureSize (0 : BitVec 8) = [0, 0, 0, 0, 0, 0, 0, 0] := rfl
  rw [fillRtData, if_neg answered, zeros]
  dsimp only [List.cons_append, List.nil_append]
  rw [storeByte_next, Option.bind_some]
  split
  · rename_i absent
    rw [info, Option.bind_some]
    simp [answer, RuntimeFeature.encode, absent, rtFeatureSize]
  · rename_i present
    simp [answer, RuntimeFeature.encode, present, rtFeatureSize]

def answeredFeatures (event : FsmEvent) : List Nat := (List.range FEATURE_COUNT).filter (Answered event)

theorem fillRtData_eq (is : List Nat) (before : List (BitVec 8)) :
    fillRtData event is
        (before ++ List.replicate ((is.filter (Answered event)).length * rtFeatureSize) 0)
        before.length =
      some (before ++ rtDataFormat.encodeAll ((is.filter (Answered event)).map (answer event))) := by
  induction is generalizing before with
  | nil => simp [fillRtData, Records.Format.encodeAll]
  | cons i is ih =>
    by_cases answered : Answered event i
    · have more : ((i :: is).filter (Answered event)).length * rtFeatureSize =
          rtFeatureSize + (is.filter (Answered event)).length * rtFeatureSize := by
        rw [List.filter_cons_of_pos (by simpa using answered), List.length_cons, Nat.succ_mul,
          Nat.add_comm]
      rw [more, List.replicate_add, fillRtData_answered answered, ih,
        List.filter_cons_of_pos (by simpa using answered)]
      simp [Records.Format.encodeAll, rtDataFormat]
    · have must := not_not.mp answered
      rw [List.filter_cons_of_neg (by simpa using answered), fillRtData, if_pos must, ih]

theorem rtDataLen_eq (event : FsmEvent) :
    rtDataLen event = ((List.range FEATURE_COUNT).filter (Answered event)).length * rtFeatureSize := by
  have counted (is : List Nat) (len : Nat) :
      is.foldl (fun len i => if Answered event i then len + rtFeatureSize else len) len =
        len + (is.filter (Answered event)).length * rtFeatureSize := by
    induction is generalizing len with
    | nil => simp
    | cons i is ih =>
      rw [List.foldl_cons, ih, List.filter_cons]
      by_cases answered : Answered event i
      · simp only [answered, if_true, decide_true, List.length_cons]
        rw [Nat.succ_mul, Nat.add_right_comm, Nat.add_assoc]
      · simp [answered]
  rw [rtDataLen, counted, Nat.zero_add]

/-- The decoded HS3 payload: one record, without data, for each feature that the host need not
    support, by its number; it carries the modem's byte exactly if the modem lacks the feature. -/
structure AnswersQuery (event : FsmEvent) (records : List RuntimeFeature) : Prop where
  increasing : (records.map fun record => record.featureId.toNat).Pairwise (· < ·)
  features : ∀ i, i ∈ records.map (fun record => record.featureId.toNat) ↔
    i < FEATURE_COUNT ∧ featureMsk (mdFeature event i) ≠ MTK_FEATURE_MUST_BE_SUPPORTED
  bare : ∀ record ∈ records, record.dataLen = 0
  info : ∀ record ∈ records, record.supportInfo = mdFeature event record.featureId.toNat ↔
    featureMsk (mdFeature event record.featureId.toNat) = MTK_FEATURE_DOES_NOT_EXIST

theorem answer_featureId {i : Nat} (small : i < FEATURE_COUNT) :
    (answer event i).featureId.toNat = i := by
  unfold FEATURE_COUNT at small
  simp only [answer, BitVec.toNat_ofNat]
  omega

theorem answer_supportInfo (event : FsmEvent) (i : Nat) :
    (answer event i).supportInfo = mdFeature event i ↔
      featureMsk (mdFeature event i) = MTK_FEATURE_DOES_NOT_EXIST := by
  unfold answer
  dsimp only
  split
  · rename_i absent
    exact iff_of_true rfl absent
  · rename_i present
    refine iff_of_false (fun zero => present ?_) present
    rw [← zero]
    decide

theorem answersQuery (event : FsmEvent) :
    AnswersQuery event ((answeredFeatures event).map (answer event)) := by
  have small {i : Nat} (member : i ∈ answeredFeatures event) : i < FEATURE_COUNT :=
    List.mem_range.mp (List.mem_filter.mp member).1
  have ids : ((answeredFeatures event).map (answer event)).map (fun record => record.featureId.toNat) =
      answeredFeatures event := by
    rw [List.map_map]
    calc _ = (answeredFeatures event).map id :=
          List.map_congr_left fun i member => answer_featureId (small member)
      _ = answeredFeatures event := List.map_id _
  constructor
  · rw [ids]
    exact List.pairwise_lt_range.filter _
  · intro i
    rw [ids, answeredFeatures, List.mem_filter, List.mem_range, decide_eq_true_eq, Answered]
  · intro record member
    obtain ⟨i, -, rfl⟩ := List.mem_map.mp member
    rfl
  · intro record member
    obtain ⟨i, answered, rfl⟩ := List.mem_map.mp member
    rw [answer_featureId (small answered)]
    exact answer_supportInfo event i

end Answers

section Message

variable {event : FsmEvent}

theorem prepareDeviceRtData_sent (memory : Nat → BitVec 8) (head : event.le32 0 = MD_FEATURE_QUERY_ID)
    (tail : event.le32 68 = MD_FEATURE_QUERY_ID) :
    Hs3.prepareDeviceRtData event (some memory) = some (0, some
      { memory
        size := rtDataLen event + ctrlMsgHeaderSize + ccciHeaderSize
        data := ccciHeaderSize + ctrlMsgHeaderSize
        payload := rtDataFormat.encodeAll ((answeredFeatures event).map (answer event)) }) := by
  have valid : ¬ (event.le32 0 ≠ MD_FEATURE_QUERY_ID ∨ event.le32 68 ≠ MD_FEATURE_QUERY_ID) := by
    simp [head, tail]
  have filled := @fillRtData_eq event (List.range FEATURE_COUNT) []
  rw [List.nil_append, List.nil_append, List.length_nil, ← rtDataLen_eq] at filled
  have room : ccciHeaderSize + ctrlMsgHeaderSize + rtDataLen event ≤
      rtDataLen event + ctrlMsgHeaderSize + ccciHeaderSize := by omega
  unfold Hs3.prepareDeviceRtData
  rw [if_neg valid]
  simpa [ctrlAllocSkb, portAllocSkb, CtrlSkb.reserve, CtrlSkb.put, room, Function.comp_def,
    answeredFeatures] using filled

/-- The HS3 payload fills what was allocated for it, no store misses it, and its records answer the
    modem's feature query. -/
theorem hs3_payload_answers_query (event : FsmEvent) (memory : Nat → BitVec 8)
    (head : event.le32 0 = MD_FEATURE_QUERY_ID) (tail : event.le32 68 = MD_FEATURE_QUERY_ID) :
    ∃ skb records, Hs3.prepareDeviceRtData event (some memory) = some (0, some skb) ∧
      skb.payload.length = rtDataLen event ∧ skb.data + skb.payload.length = skb.size ∧
      rtDataFormat.decode skb.payload = some records ∧ AnswersQuery event records := by
  have length : (rtDataFormat.encodeAll ((answeredFeatures event).map (answer event))).length =
      rtDataLen event := by
    rw [rtDataLen_eq, ← answeredFeatures, ← @List.length_map _ _ (answeredFeatures event) (answer event)]
    apply Records.encodeAll_length
    intro record member
    obtain ⟨i, -, rfl⟩ := List.mem_map.mp member
    rfl
  refine ⟨_, _, prepareDeviceRtData_sent memory head tail, length, ?_,
    Records.decode_encodeAll rtDataFormat _, answersQuery event⟩
  dsimp only
  rw [length]
  omega

/-- A query with one feature of each kind, and 61 that the modem does not have. -/
def mixedQuery : FsmEvent where
  data := fun offset =>
    if offset = 3 ∨ offset = 71 then 0x49
    else if 0 ≤ offset ∧ offset < 3 ∨ 68 ≤ offset ∧ offset < 71 then 0x43
    else if offset = 4 then 0x12
    else if offset = 5 then 0x21
    else if offset = 6 then 0x13
    else 0x10
  length := 72

theorem mixed_query_answered :
    ∃ skb records, Hs3.prepareDeviceRtData mixedQuery (some fun _ => 0xff) = some (0, some skb) ∧
      skb.payload.length = rtDataLen mixedQuery ∧ skb.data + skb.payload.length = skb.size ∧
      rtDataFormat.decode skb.payload = some records ∧ AnswersQuery mixedQuery records :=
  hs3_payload_answers_query mixedQuery (fun _ => 0xff) (by decide) (by decide)

end Message

end T7xxModel.Fsm
