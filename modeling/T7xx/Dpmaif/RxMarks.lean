import T7xx.Dpmaif.RxSkb

namespace T7xxModel.Dpmaif

open Transition

def DpmaifPit.batType (pit : DpmaifPit) : BatType := if pit.IsFrag then .frag else .normal

def RxSide.table (s : RxSide) : BatType → Bat
  | .normal => s.normal
  | .frag => s.frag

def BatType.count : BatType → Nat
  | .normal => DPMAIF_BAT_COUNT
  | .frag => DPMAIF_FRG_COUNT

def RxEntry.slotBit (entry : RxEntry) (s : RxSide) : Bool :=
  (s.table entry.pit.batType).batBitmap entry.pit.normalPitBid

/-- A payload entry that names a slot with a buffer in it. -/
def NamesBuffer (entry : RxEntry) (s : RxSide) : Prop :=
  ¬ entry.pit.IsMsg ∧ entry.pit.normalPitBid < entry.pit.batType.count ∧
    (s.table entry.pit.batType).batSkb entry.pit.normalPitBid ≠ none

instance (entry : RxEntry) (s : RxSide) : Decidable (NamesBuffer entry s) :=
  inferInstanceAs (Decidable (_ ∧ _ ∧ _))

/-- There is room for the data of a normal entry; for a fragment there is a head skb, and the eight
    bytes that `t7xx_frag_bat_cur_bid_check` looks at are not all zero. -/
def HasRoom (entry : RxEntry) (s : RxSide) : Prop :=
  if entry.pit.IsFrag then s.rxq.rxDataInfo.curSkb ≠ none ∧ entry.fragWord ≠ 0
  else dataFits s.normal entry = true

instance (entry : RxEntry) (s : RxSide) : Decidable (HasRoom entry s) := by
  unfold HasRoom
  infer_instance

/-- A slot whose entry was consumed, and its bit after that. -/
structure ConsumedSlot where
  type : BatType
  idx : Nat
  marked : Bool
deriving DecidableEq, Repr

structure MarkRun where
  flow : RxFlow
  consumed : List ConsumedSlot

def consumedBy (s t : RxFlow) : FlowLabel → List ConsumedSlot
  | .entry q entry =>
    if s.Processes q entry ∧ NamesBuffer entry (s.side q) then
      [⟨entry.pit.batType, entry.pit.normalPitBid, entry.slotBit (t.side q)⟩]
    else []
  | _ => []

def MarkRun.step (s : MarkRun) (label : FlowLabel) : Option MarkRun :=
  (s.flow.step label).map fun flow => { flow, consumed := s.consumed ++ consumedBy s.flow flow label }

def markInit : MarkRun := ⟨flowInit, []⟩

def ConsumedMarked (s : MarkRun) : Prop := ∀ slot ∈ s.consumed, slot.marked = true

instance (s : MarkRun) : Decidable (ConsumedMarked s) :=
  inferInstanceAs (Decidable (∀ slot ∈ s.consumed, slot.marked = true))

/-- A consumed entry that names a buffer has room for it, or finds the bit of its slot set. -/
def MarksSlot (s : MarkRun) : FlowLabel → Prop
  | .entry q entry => s.flow.Processes q entry → NamesBuffer entry (s.flow.side q) →
      HasRoom entry (s.flow.side q) ∨ entry.slotBit (s.flow.side q) = true
  | _ => True

section Tables

structure SameTables (before after : RxSide) : Prop where
  normal : after.normal = before.normal
  frag : after.frag = before.frag

theorem SameTables.refl (s : RxSide) : SameTables s s := ⟨rfl, rfl⟩

theorem SameTables.trans {s t u : RxSide} (first : SameTables s t) (second : SameTables t u) :
    SameTables s u :=
  ⟨second.normal.trans first.normal, second.frag.trans first.frag⟩

theorem SameTables.slotBit {s t : RxSide} (same : SameTables s t) (entry : RxEntry) :
    entry.slotBit t = entry.slotBit s := by
  have table : t.table entry.pit.batType = s.table entry.pit.batType := by
    cases entry.pit.batType with
    | normal => exact same.normal
    | frag => exact same.frag
  unfold RxEntry.slotBit
  rw [table]

theorem releasePitEntry_tables (relEntryNum : Nat) (pitAddReady : Bool) (s : RxSide) :
    SameTables s (releasePitEntry relEntryNum pitAddReady s).1 := by
  unfold releasePitEntry
  dsimp only
  split_ifs <;> exact ⟨rfl, rfl⟩

theorem rxNotifyHw_tables (pitAddReady : Bool) (s : RxSide) :
    SameTables s (rxNotifyHw pitAddReady s).1 := by
  have released := releasePitEntry_tables s.rxq.pitRemainReleaseCnt pitAddReady s
  unfold rxNotifyHw
  dsimp only
  split_ifs
  · exact .refl s
  · exact released
  · exact ⟨released.normal, released.frag⟩

theorem rxStartTail_tables (pitAddReady : Bool) (l : RxLocals) (s : RxSide) :
    SameTables s (rxStartTail pitAddReady l s).1 := by
  unfold rxStartTail
  split
  · exact rxNotifyHw_tables pitAddReady s
  · exact .refl s

theorem rxRoundEnd_tables (pitAddReady : Bool) (l : RxLocals) (s : RxSide) :
    SameTables s (rxRoundEnd pitAddReady l s).1 := by
  have notified := rxNotifyHw_tables pitAddReady s
  unfold rxRoundEnd
  dsimp only
  split_ifs
  · exact notified
  · exact notified
  · exact .refl s

theorem rxMark_tables (ret : Int) (s : RxSide) : SameTables s (rxMark ret s) := by
  unfold rxMark
  split <;> exact ⟨rfl, rfl⟩

theorem rxPacketEnd_tables (s : RxSide) : SameTables s (rxPacketEnd s) := by
  unfold rxPacketEnd rxSkb
  dsimp only
  split
  · split
    · exact ⟨rfl, rfl⟩
    · split <;> exact ⟨rfl, rfl⟩
  · split <;> exact ⟨rfl, rfl⟩

theorem rxPdEntry_tables (entry : RxEntry) (l : RxLocals) (s : RxSide) :
    SameTables (rxPayload entry s).1 (rxPdEntry entry l s).1 := by
  have marked := rxMark_tables (rxPayload entry s).2 (rxPayload entry s).1
  rcases rxPdEntry_cases entry l s with ⟨_, ended⟩ | ⟨_, going⟩
  · rw [ended]
    exact marked.trans (rxPacketEnd_tables _)
  · rw [going]
    exact marked

end Tables

section Entries

variable {entry : RxEntry} {s : RxSide}

theorem takeBatBuf_bit (curBid : Nat) (bat : Bat) : (takeBatBuf curBid bat).batBitmap curBid = true :=
  Function.update_self ..

/-- The buffer that an entry names is taken, and its bit set, exactly if there is room. -/
theorem rxPayload_bit (names : NamesBuffer entry s) :
    entry.slotBit (rxPayload entry s).1 = true ↔ HasRoom entry s ∨ entry.slotBit s = true := by
  obtain ⟨-, below, posted⟩ := names
  unfold rxPayload HasRoom
  by_cases frag : entry.pit.IsFrag
  · have type : entry.pit.batType = .frag := if_pos frag
    rw [type] at below posted
    change entry.pit.normalPitBid < DPMAIF_FRG_COUNT at below
    change s.frag.batSkb entry.pit.normalPitBid ≠ none at posted
    rw [if_neg (not_not.mpr frag), if_pos frag]
    split
    · rename_i missing
      exact ⟨Or.inr, fun set => set.resolve_left fun both => both.1 missing⟩
    · rename_i present
      by_cases zero : entry.fragWord = 0
      · have refused : fragBatCurBidCheck entry.pit.normalPitBid entry.fragWord = false :=
          Bool.eq_false_iff.mpr fun found => ((fragBatCurBidCheck_iff _ _).mp found).2 zero
        have kept : entry.slotBit (rxGetFrag entry s).1 = entry.slotBit s := by
          unfold rxGetFrag
          dsimp only
          rw [if_pos refused]
          rfl
        rw [kept]
        exact ⟨Or.inr, fun set => set.resolve_left fun both => both.2 zero⟩
      · have found := (fragBatCurBidCheck_iff _ _).mpr ⟨below, zero⟩
        have taken : entry.slotBit (rxGetFrag entry s).1 = true := by
          unfold RxEntry.slotBit rxGetFrag
          dsimp only
          rw [if_neg (ne_false_of_eq_true found), if_neg posted, type]
          exact takeBatBuf_bit _ _
        exact ⟨fun _ => .inl ⟨present, zero⟩, fun _ => taken⟩
  · have type : entry.pit.batType = .normal := if_neg frag
    rw [type] at below posted
    change entry.pit.normalPitBid < DPMAIF_BAT_COUNT at below
    change s.normal.batSkb entry.pit.normalPitBid ≠ none at posted
    rw [if_pos frag, if_neg frag]
    unfold rxGetPkt
    dsimp only
    rw [if_neg (not_or.mpr ⟨Nat.not_le.mpr below, posted⟩)]
    split
    · rename_i full
      rw [full]
      exact ⟨Or.inr, fun set => set.resolve_left nofun⟩
    · rename_i room
      have taken : entry.slotBit ((s.takeSkb entry.pit.normalPitBid).access
          (batCurBidAccesses DPMAIF_BAT_COUNT .batSkb entry.pit.normalPitBid ++
            [.batSkb entry.pit.normalPitBid, .batBitmap entry.pit.normalPitBid])) = true := by
        unfold RxEntry.slotBit
        rw [type]
        exact takeBatBuf_bit _ _
      exact ⟨fun _ => .inl (Bool.eq_true_of_not_eq_false room), fun _ => taken⟩

theorem rxChecked_tables (entry : RxEntry) (l : RxLocals) (s : RxSide) :
    SameTables s (rxChecked entry l s) :=
  ⟨(rxChecked_normal entry l s).1, (rxChecked_normal entry l s).2⟩

theorem rxEntered_bit (l : RxLocals) (names : NamesBuffer entry s) :
    entry.slotBit (rxEntered entry l s).1 = true ↔ HasRoom entry s ∨ entry.slotBit s = true := by
  have same := rxChecked_tables entry l s
  have info := (rxChecked_skbs entry l s).info
  have checked : NamesBuffer entry (rxChecked entry l s) := by
    unfold NamesBuffer RxSide.table at names ⊢
    rw [same.normal, same.frag]
    exact names
  have room : HasRoom entry (rxChecked entry l s) ↔ HasRoom entry s := by
    unfold HasRoom
    rw [same.normal, info]
  have processed : rxProcess entry l (rxChecked entry l s) = rxPdEntry entry l (rxChecked entry l s) :=
    if_neg names.1
  unfold rxEntered
  rw [processed, (rxPdEntry_tables entry l _).slotBit, rxPayload_bit checked, room, same.slotBit]

end Entries

section Runs

variable {s t : RxFlow} {q : RxqIndex} {entry : RxEntry}

theorem entryStep_bit (processes : s.Processes q entry) (names : NamesBuffer entry (s.side q))
    (taken : entryStep q entry s = some t) :
    entry.slotBit (t.side q) = true ↔
      HasRoom entry (s.side q) ∨ entry.slotBit (s.side q) = true := by
  unfold entryStep at taken
  split at taken
  · rename_i budget workDone onceMore l pc
    have reaches := (processes_receiving pc).mp processes
    have round := @rxStartRound_reached entry l (s.side q) reaches
    have ended := rxRoundEnd_tables entry.pitAddReady
      (rxAdvance (rxEntered entry l (s.side q)).2 (rxEntered entry l (s.side q)).1).2
      (rxAdvance (rxEntered entry l (s.side q)).2 (rxEntered entry l (s.side q)).1).1
    have entered : entry.slotBit (rxStartRound entry l (s.side q)).1 =
        entry.slotBit (rxEntered entry l (s.side q)).1 := by
      rw [round]
      exact ended.slotBit entry
    rw [← rxEntered_bit l names, ← entered]
    generalize rxStartRound entry l (s.side q) = result at taken
    obtain ⟨side, next | left | rxCnt⟩ := result
    · cases taken
      exact Iff.rfl
    · have tail := (rxStartTail_tables entry.pitAddReady left side).slotBit entry
      cases taken
      exact iff_of_eq (congrArg (· = true) tail)
    · cases taken
      exact Iff.rfl
  · cases taken

theorem markStep_exact {s t : MarkRun} {label : FlowLabel} (safe : ConsumedMarked s)
    (taken : s.step label = some t) : ConsumedMarked t ↔ MarksSlot s label := by
  obtain ⟨flow, stepped, rfl⟩ := Option.map_eq_some_iff.mp taken
  have appended : ConsumedMarked { flow, consumed := s.consumed ++ consumedBy s.flow flow label } ↔
      ∀ slot ∈ consumedBy s.flow flow label, slot.marked = true := by
    constructor
    · exact fun all slot member => all slot (List.mem_append_right _ member)
    · intro new slot member
      rcases List.mem_append.mp member with old | added
      · exact safe slot old
      · exact new slot added
  rw [appended]
  cases label with
  | entry q entry =>
    unfold consumedBy MarksSlot
    by_cases consumes : s.flow.Processes q entry ∧ NamesBuffer entry (s.flow.side q)
    · have bit := entryStep_bit consumes.1 consumes.2 stepped
      dsimp only
      rw [if_pos consumes]
      simp only [List.mem_singleton, forall_eq]
      rw [bit]
      exact ⟨fun marked _ _ => marked, fun marks => marks consumes.1 consumes.2⟩
    · dsimp only
      rw [if_neg consumes]
      exact ⟨fun _ processes names => absurd ⟨processes, names⟩ consumes, fun _ => nofun⟩
  | _ => exact ⟨fun _ => trivial, fun _ => nofun⟩

/-- Every consumed slot has its bit set exactly in the runs where each entry that names a buffer has
    room for it. -/
theorem consumed_marked_iff (labels : List FlowLabel) :
    Visits ConsumedMarked MarkRun.step markInit labels ↔
      Obeys MarksSlot MarkRun.step markInit labels :=
  visits_iff_obeys (fun _ => True) (fun _ _ _ _ _ _ => trivial)
    (fun _ _ _ _ safe taken => markStep_exact safe taken) trivial nofun

/-- A payload of 4096 bytes for the skb in slot 0, which has room for 3712. -/
def oversizedPayload : List FlowLabel :=
  [.napiEnable rxq0, .napiSchedule rxq0, .pollBegin rxq0 64 true, .collect rxq0 1,
    .entry rxq0 ⟨⟨0x10000000, 4096, 0, 0⟩, ⟨64, 3776⟩, 0, true⟩]

theorem oversized_payload_unmarked :
    ¬ Visits ConsumedMarked MarkRun.step markInit
      (.path (.start onePage pages true) :: oversizedPayload) := by
  intro visits
  have unmarked : ¬ Visits ConsumedMarked MarkRun.step ⟨flowStarted flow_started.choose, []⟩
      oversizedPayload := by decide
  have started : MarkRun.step markInit (.path (.start onePage pages true)) =
      some ⟨flowStarted flow_started.choose, []⟩ :=
    Option.map_eq_some_iff.mpr ⟨flowStarted flow_started.choose, flow_started.choose_spec, rfl⟩
  exact unmarked (visits.2 _ started)

end Runs

end T7xxModel.Dpmaif
