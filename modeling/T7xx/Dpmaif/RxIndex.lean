import T7xx.Dpmaif.NapiContract

namespace T7xxModel.Dpmaif

open Transition

def AccessesInRange (s : RxFlow) : Prop :=
  ∀ q, ∀ access ∈ (s.queue q).rxq.accesses, access.InRange

instance (s : RxFlow) : Decidable (AccessesInRange s) := by
  unfold AccessesInRange
  infer_instance

/-- An entry ends a good packet whose message entry named an interface beyond `ccmni_inst`. -/
def EntryMisdirects (entry : RxEntry) (s : RxSide) : Prop :=
  ¬ entry.pit.IsMsg ∧ entry.pit.IsLast ∧ PayloadAccepted entry s ∧
    s.rxq.rxDataInfo.errPayload = false ∧ s.rxq.rxDataInfo.pitDp = 0 ∧
    NIC_DEV_MAX ≤ s.rxq.rxDataInfo.netifId

instance (entry : RxEntry) (s : RxSide) : Decidable (EntryMisdirects entry s) :=
  inferInstanceAs (Decidable (_ ∧ _ ∧ _ ∧ _ ∧ _ ∧ _))

def NamesInterface (s : RxFlow) : FlowLabel → Prop
  | .entry q entry => ¬ (s.Processes q entry ∧ EntryMisdirects entry (s.side q))
  | _ => True

instance : ∀ (s : RxFlow) label, Decidable (NamesInterface s label) := fun s label => by
  unfold NamesInterface
  split <;> infer_instance

section Entries

/-- A payload touches no more of `rx_data_info` than the current skb, which is there afterwards if
    it was accepted. -/
theorem rxPayload_info (entry : RxEntry) (s : RxSide) :
    ∃ cur, (rxPayload entry s).1.rxq.rxDataInfo = { s.rxq.rxDataInfo with curSkb := cur } ∧
      (PayloadAccepted entry s → cur ≠ none) := by
  by_cases accepted : PayloadAccepted entry s
  · by_cases frag : entry.pit.IsFrag
    · refine ⟨s.rxq.rxDataInfo.curSkb, (rxPayload_frag frag accepted).2.1.info, fun _ => ?_⟩
      unfold PayloadAccepted at accepted
      rw [if_pos frag] at accepted
      exact accepted.1
    · rw [rxPayload_normal frag]
      exact ⟨some s.rxq.taken, (rxGetPkt_accepted frag accepted).2.1.info,
        fun _ => Option.some_ne_none _⟩
  · exact ⟨s.rxq.rxDataInfo.curSkb, (rxPayload_rejected accepted).2.1.info,
      fun other => absurd other accepted⟩

/-- After its payload a packet will be handed over if nothing was wrong with it. -/
theorem rxMarked_handsOver (entry : RxEntry) (s : RxSide) :
    let marked := rxMark (rxPayload entry s).2 (rxPayload entry s).1
    (marked.rxq.rxDataInfo.HandsOver ↔ PayloadAccepted entry s ∧
        s.rxq.rxDataInfo.errPayload = false ∧ s.rxq.rxDataInfo.pitDp = 0) ∧
      marked.rxq.rxDataInfo.netifId = s.rxq.rxDataInfo.netifId := by
  obtain ⟨cur, info, present⟩ := rxPayload_info entry s
  obtain ⟨_, refused⟩ := rxPayload_ret entry s
  dsimp only
  unfold rxMark
  split
  · rename_i negative
    refine ⟨⟨fun handed => absurd handed.1 Bool.true_eq_false_eq_False, fun good => ?_⟩, ?_⟩
    · exact absurd good.1 (refused.mp negative)
    · show (rxPayload entry s).1.rxq.rxDataInfo.netifId = _
      rw [info]
      rfl
  · rename_i negative
    have accepted : PayloadAccepted entry s := not_not.mp fun other => negative (refused.mpr other)
    rw [info]
    exact ⟨⟨fun handed => ⟨accepted, handed.1, handed.2.2⟩,
      fun good => ⟨good.2.1, present accepted, good.2.2⟩⟩, rfl⟩

/-- Processing an entry keeps its accesses in range unless it misdirects a packet. -/
theorem rxProcess_inRange {entry : RxEntry} {l : RxLocals} {s : RxSide}
    (before : ∀ access ∈ s.rxq.accesses, access.InRange) :
    (∀ access ∈ (rxProcess entry l s).1.rxq.accesses, access.InRange) ↔ ¬ EntryMisdirects entry s := by
  unfold rxProcess
  split
  · rename_i msg
    exact ⟨fun _ misdirects => misdirects.1 msg, fun _ => before⟩
  · rename_i pd
    obtain ⟨_, _, accesses, added, ranged⟩ := rxPayload_accesses entry s
    obtain ⟨_, _, unmarked⟩ := rxMark_ring (rxPayload entry s).2 (rxPayload entry s).1
    have marked := unmarked.trans added
    have payload : ∀ access ∈ s.rxq.accesses ++ accesses, access.InRange :=
      checked_append_inRange before ranged
    obtain ⟨handsOver, netif⟩ := rxMarked_handsOver entry s
    rcases rxPdEntry_cases entry l s with ⟨last, ended⟩ | ⟨more, going⟩
    · rw [ended]
      dsimp only
      rw [rxPacketEnd_accesses, marked]
      by_cases handed : PayloadAccepted entry s ∧ s.rxq.rxDataInfo.errPayload = false ∧
          s.rxq.rxDataInfo.pitDp = 0
      · rw [if_pos (handsOver.mpr handed), netif]
        constructor
        · rintro all ⟨_, _, _, _, _, beyond⟩
          have looked : s.rxq.rxDataInfo.netifId < NIC_DEV_MAX :=
            all _ (List.mem_append_right _ List.mem_cons_self)
          omega
        · intro direct
          refine checked_append_inRange payload fun access member => ?_
          rw [List.mem_singleton.mp member]
          show s.rxq.rxDataInfo.netifId < NIC_DEV_MAX
          by_contra beyond
          exact direct ⟨pd, last, handed.1, handed.2.1, handed.2.2, Nat.not_lt.mp beyond⟩
      · rw [if_neg fun other => handed (handsOver.mp other), List.append_nil]
        exact ⟨fun _ misdirects => handed ⟨misdirects.2.2.1, misdirects.2.2.2.1, misdirects.2.2.2.2.1⟩,
          fun _ => payload⟩
    · rw [going]
      dsimp only
      rw [marked]
      exact ⟨fun _ misdirects => more misdirects.2.1, fun _ => payload⟩

end Entries

section PitIndices

def PcInRange : PollAt → Prop
  | .receiving _ _ _ l => l.curPit < DPMAIF_PIT_COUNT
  | _ => True

/-- The indices into the PIT table that a queue keeps. -/
structure PitSound (run : RxqRun) : Prop where
  size : run.rxq.pitSizeCnt = DPMAIF_PIT_COUNT
  rdIdx : run.rxq.pitRdIdx < DPMAIF_PIT_COUNT
  curPit : PcInRange run.pc

theorem ringBufGetNextWrIdx_lt {bufLen : Nat} (some : 0 < bufLen) (bufIdx : Nat) :
    ringBufGetNextWrIdx bufLen bufIdx < bufLen := by
  unfold ringBufGetNextWrIdx
  split
  · assumption
  · exact some

theorem afterRxStart_pit (budget workDone rxCnt : Int) (onceMore : Bool) :
    PcInRange (afterRxStart budget workDone onceMore rxCnt) := by
  unfold afterRxStart
  split
  · trivial
  · trivial

theorem pollBegin_rxq {queStarted lockAcquired : Bool} {budget : Int} {run next : RxqRun}
    (taken : pollBegin queStarted budget lockAcquired run = some next) :
    next.rxq = run.rxq ∧ PcInRange next.pc := by
  unfold pollBegin at taken
  split at taken
  · obtain ⟨napi, _, rfl⟩ := Option.map_eq_some_iff.mp taken
    dsimp only
    split
    · exact ⟨rfl, trivial⟩
    · exact ⟨rfl, trivial⟩
  · cases taken

theorem Untouched.pitSound {run : RxqRun} {rxq : RxQueue} {pc : PollAt}
    (sound : PitSound run) (untouched : Untouched run.rxq rxq) (inRange : PcInRange pc) :
    PitSound { run with rxq, pc } :=
  ⟨untouched.size.trans sound.size, by rw [untouched.rdIdx]; exact sound.rdIdx, inRange⟩

/-- A processed entry moves the read index to the next one of the table. -/
theorem rxAdvance_pit (entry : RxEntry) (l : RxLocals) (s : RxSide)
    (size : s.rxq.pitSizeCnt = DPMAIF_PIT_COUNT) :
    let advanced := rxAdvance (rxEntered entry l s).2 (rxEntered entry l s).1
    advanced.1.rxq.pitSizeCnt = DPMAIF_PIT_COUNT ∧ advanced.1.rxq.pitRdIdx < DPMAIF_PIT_COUNT ∧
      advanced.2.curPit < DPMAIF_PIT_COUNT := by
  have entered : (rxEntered entry l s).1.rxq.pitSizeCnt = DPMAIF_PIT_COUNT :=
    (rxProcess_ring entry l (rxChecked entry l s)).1.trans
      ((rxChecked_untouched entry l s).size.trans size)
  have next : ringBufGetNextWrIdx (rxEntered entry l s).1.rxq.pitSizeCnt
      (rxEntered entry l s).2.curPit < DPMAIF_PIT_COUNT := by
    rw [entered]
    exact ringBufGetNextWrIdx_lt (by decide) _
  exact ⟨entered, next, next⟩

theorem entryMove_pit {s : RxFlow} {q : RxqIndex} {entry : RxEntry} {run : RxqRun}
    (sound : PitSound (s.queue q)) (move : EntryMove s q entry run) : PitSound run := by
  cases move with
  | @unreached _ _ _ _ _ l _ pc stays untouched counted =>
    rcases untouched with kept | checked
    · exact kept.pitSound sound (afterRxStart_pit _ _ _ _)
    · have kept := rxChecked_untouched entry l (s.side q)
      refine ⟨checked.size.trans (kept.size.trans sound.size), ?_, afterRxStart_pit _ _ _ _⟩
      rw [checked.rdIdx, kept.rdIdx]
      exact sound.rdIdx
  | @advanced _ _ _ l _ _ pc reaches untouched advances =>
    obtain ⟨size, rdIdx, curPit⟩ := rxAdvance_pit entry l (s.side q) sound.size
    refine ⟨untouched.size.trans size, ?_, ?_⟩
    · rw [untouched.rdIdx]
      exact rdIdx
    · show _ < _
      rw [advances.2.2.1]
      exact curPit
  | @failed _ _ _ l _ pc reaches untouched =>
    obtain ⟨size, rdIdx, _⟩ := rxAdvance_pit entry l (s.side q) sound.size
    refine ⟨untouched.size.trans size, ?_, trivial⟩
    rw [untouched.rdIdx]
    exact rdIdx

theorem queueMove_pit {s : RxFlow} {label : FlowLabel} {q : RxqIndex} {run : RxqRun}
    (sound : PitSound (s.queue q)) (move : QueueMove s label q run) : PitSound run := by
  cases move with
  | same => exact sound
  | stopped _ => exact ⟨sound.size, by show 0 < _; decide, sound.curPit⟩
  | napi _ => exact ⟨sound.size, sound.rdIdx, sound.curPit⟩
  | began _ taken =>
    obtain ⟨same, pc⟩ := pollBegin_rxq taken
    exact ⟨by rw [same]; exact sound.size, by rw [same]; exact sound.rdIdx, pc⟩
  | collected _ untouched => exact untouched.pitSound sound trivial
  | received _ _ untouched fresh =>
    refine untouched.pitSound sound ?_
    show _ < _
    rw [fresh.2.1]
    exact sound.rdIdx
  | entered _ move => exact entryMove_pit sound move
  | finished _ => exact ⟨sound.size, sound.rdIdx, trivial⟩

end PitIndices

section Runs

/-- After a processed entry the accesses are in range if they were and no packet was misdirected. -/
theorem rxEntered_inRange {entry : RxEntry} {l : RxLocals} {s : RxSide}
    (before : ∀ access ∈ s.rxq.accesses, access.InRange) (curPit : l.curPit < DPMAIF_PIT_COUNT) :
    (∀ access ∈ (rxEntered entry l s).1.rxq.accesses, access.InRange) ↔ ¬ EntryMisdirects entry s := by
  have untouched := rxChecked_untouched entry l s
  have checked : ∀ access ∈ (rxChecked entry l s).rxq.accesses, access.InRange := by
    rw [untouched.accesses]
    refine checked_append_inRange before fun access member => ?_
    rw [List.mem_singleton.mp member]
    exact curPit
  have same : EntryMisdirects entry (rxChecked entry l s) ↔ EntryMisdirects entry s := by
    have info := (rxChecked_skbs entry l s).info
    obtain ⟨normal, frag⟩ := rxChecked_normal entry l s
    unfold EntryMisdirects PayloadAccepted
    rw [info, normal, frag]
  exact (rxProcess_inRange checked).trans (not_congr same)

theorem entryMove_inRange {s : RxFlow} {q : RxqIndex} {entry : RxEntry} {run : RxqRun}
    (sound : PitSound (s.queue q)) (before : ∀ access ∈ (s.queue q).rxq.accesses, access.InRange)
    (move : EntryMove s q entry run) :
    (∀ access ∈ run.rxq.accesses, access.InRange) ↔
      ¬ (s.Processes q entry ∧ EntryMisdirects entry (s.side q)) := by
  have curPit := sound.curPit
  cases move with
  | unreached pc stays untouched _ =>
    have unprocessed := mt (processes_receiving pc).mp stays
    rw [pc] at curPit
    refine ⟨fun _ processed => unprocessed processed.1, fun _ => ?_⟩
    rcases untouched with kept | checked
    · rw [kept.accesses]
      exact before
    · rw [checked.accesses, (rxChecked_untouched entry _ (s.side q)).accesses]
      refine checked_append_inRange before fun access member => ?_
      rw [List.mem_singleton.mp member]
      exact curPit
  | advanced pc reaches untouched _ =>
    have processed := (processes_receiving pc).mpr reaches
    rw [pc] at curPit
    rw [untouched.accesses]
    exact (rxEntered_inRange before curPit).trans (not_congr (and_iff_right processed).symm)
  | failed pc reaches untouched =>
    have processed := (processes_receiving pc).mpr reaches
    rw [pc] at curPit
    rw [untouched.accesses]
    exact (rxEntered_inRange before curPit).trans (not_congr (and_iff_right processed).symm)

theorem queueMove_inRange {s : RxFlow} {label : FlowLabel} {q : RxqIndex} {run : RxqRun}
    (sound : PitSound (s.queue q)) (before : ∀ access ∈ (s.queue q).rxq.accesses, access.InRange)
    (named : NamesInterface s label) (move : QueueMove s label q run) :
    ∀ access ∈ run.rxq.accesses, access.InRange := by
  cases move with
  | same => exact before
  | stopped _ => exact before
  | napi _ => exact before
  | began _ taken =>
    rw [(pollBegin_rxq taken).1]
    exact before
  | collected _ untouched =>
    rw [untouched.accesses]
    exact before
  | received _ _ untouched _ =>
    rw [untouched.accesses]
    exact before
  | entered entered move =>
    rw [entered] at named
    exact (entryMove_inRange sound before move).mpr named
  | finished _ => exact before

def SystemPitSound (s : RxFlow) : Prop := ∀ q, PitSound (s.queue q)

theorem pitSound_flowInit : SystemPitSound flowInit :=
  fun _ => ⟨rfl, by show 0 < DPMAIF_PIT_COUNT; decide, trivial⟩

theorem pitStep_sound {s t : RxFlow} {label : FlowLabel} (sound : SystemPitSound s)
    (taken : s.step label = some t) : SystemPitSound t :=
  fun q => queueMove_pit (sound q) (flow_moves taken q)

theorem indexStep_exact {s t : RxFlow} {label : FlowLabel} (sound : SystemPitSound s)
    (before : AccessesInRange s) (taken : s.step label = some t) :
    AccessesInRange t ↔ NamesInterface s label := by
  constructor
  · intro after
    cases label with
    | entry p entry =>
      obtain ⟨run, path, rfl, move⟩ := entryStep_move taken
      have here := after p
      rw [setQueue_queue, if_pos rfl] at here
      exact (entryMove_inRange (sound p) (before p) move).mp here
    | _ => trivial
  · intro named q
    exact queueMove_inRange (sound q) (before q) named (flow_moves taken q)

/-- Every table of the receive path is indexed in range exactly if no good packet ends whose message
    entry named an interface that `ccmni_inst` does not have. -/
theorem accesses_in_range_iff_named_interfaces (labels : List FlowLabel) :
    Visits AccessesInRange RxFlow.step flowInit labels ↔
      Obeys NamesInterface RxFlow.step flowInit labels := by
  refine visits_iff_obeys SystemPitSound (fun s label t sound _ taken => pitStep_sound sound taken)
    (fun s label t sound before taken => indexStep_exact sound before taken) ?_ ?_
  · exact pitSound_flowInit
  · exact fun _ access member => absurd member List.not_mem_nil

/-- A message entry for channel 21, and a packet that is one entry, in buffer 0. -/
def packetForChannel21 : List FlowLabel :=
  let room : SkbRoom := ⟨64, 4096⟩
  [.napiEnable rxq0, .napiSchedule rxq0, .pollBegin rxq0 64 true, .collect rxq0 2,
    .entry rxq0 ⟨⟨0x00150001, 0, 0, 0⟩, room, 0, true⟩,
    .entry rxq0 ⟨⟨0, 4096, 0, 1⟩, room, 0, true⟩]

theorem channel_beyond_ccmni_inst :
    ¬ Visits AccessesInRange RxFlow.step flowInit
      (.path (.start onePage pages true) :: packetForChannel21) := by
  intro visits
  have beyond : ¬ Visits AccessesInRange RxFlow.step (flowStarted flow_started.choose)
      packetForChannel21 := by decide
  exact beyond (visits.2 _ flow_started.choose_spec)

end Runs

end T7xxModel.Dpmaif
