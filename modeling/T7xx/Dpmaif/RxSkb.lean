import T7xx.Dpmaif.RxIndex

namespace T7xxModel.Dpmaif

open Transition

/-- The skbs that a queue handed over, freed or still assembles. -/
def RxQueue.ledger (r : RxQueue) : List Nat :=
  r.received.map RecvSkb.skb ++ r.freed ++ r.rxDataInfo.curSkb.toList

/-- Every skb that was taken is in one place, and none was handed over that is not there. -/
def RxQueue.Accounted (r : RxQueue) : Prop :=
  r.skbMissing = false ∧ r.ledger.Perm (List.range r.taken)

instance (r : RxQueue) : Decidable r.Accounted := inferInstanceAs (Decidable (_ ∧ _))

def SkbsAccounted (s : RxFlow) : Prop := ∀ q, (s.queue q).rxq.Accounted

instance (s : RxFlow) : Decidable (SkbsAccounted s) := by
  unfold SkbsAccounted
  infer_instance

/-- The entry brings a new skb while the queue still has one that it is assembling. -/
def EntryReplaces (entry : RxEntry) (s : RxSide) : Prop :=
  ¬ entry.pit.IsMsg ∧ ¬ entry.pit.IsFrag ∧ PayloadAccepted entry s ∧ s.rxq.rxDataInfo.curSkb ≠ none

instance (entry : RxEntry) (s : RxSide) : Decidable (EntryReplaces entry s) :=
  inferInstanceAs (Decidable (_ ∧ _ ∧ _ ∧ _))

def KeepsSkb (s : RxFlow) : FlowLabel → Prop
  | .entry q entry => ¬ (s.Processes q entry ∧ EntryReplaces entry (s.side q))
  | .path .stop => ∀ q, (s.queue q).rxq.rxDataInfo.curSkb = none
  | _ => True

instance (s : RxFlow) : ∀ label, Decidable (KeepsSkb s label)
  | .entry q entry =>
    inferInstanceAs (Decidable (¬ (s.Processes q entry ∧ EntryReplaces entry (s.side q))))
  | .path .stop => inferInstanceAs (Decidable (∀ q, (s.queue q).rxq.rxDataInfo.curSkb = none))
  | .path (.start ..) | .path .suspend | .path .resume | .path (.rxPkt ..) | .path (.rxFrag ..)
  | .path (.workCount _) | .path (.workRelease _) | .path (.workAlloc ..) | .napiSchedule _
  | .napiDisable _ | .napiDisabled _ | .napiEnable _ | .pollBegin .. | .collect ..
  | .pollFinish _ => isTrue trivial

section Entries

theorem SameSkbs.accounted {before after : RxQueue} (same : SameSkbs before after) :
    after.Accounted ↔ before.Accounted := by
  unfold RxQueue.Accounted RxQueue.ledger
  rw [same.missing, same.received, same.freed, same.info, same.taken]

/-- Taking an skb is accounted for exactly if there was none to lose. -/
theorem takeSkb_accounted {s : RxSide} (before : s.rxq.Accounted) (curBid : Nat) :
    (s.takeSkb curBid).rxq.Accounted ↔ s.rxq.rxDataInfo.curSkb = none := by
  obtain ⟨present, ledger⟩ := before
  have written : (s.takeSkb curBid).rxq.ledger =
      s.rxq.received.map RecvSkb.skb ++ s.rxq.freed ++ [s.rxq.taken] := rfl
  constructor
  · rintro ⟨_, after⟩
    have counted := after.length_eq
    have total := ledger.length_eq
    rw [written, List.length_append, List.length_range] at counted
    rw [RxQueue.ledger, List.length_append, List.length_range] at total
    have more : (s.takeSkb curBid).rxq.taken = s.rxq.taken + 1 := rfl
    have one : [s.rxq.taken].length = 1 := rfl
    cases current : s.rxq.rxDataInfo.curSkb with
    | none => rfl
    | some skb =>
      rw [current] at total
      have held : (some skb).toList.length = 1 := rfl
      omega
  · intro none
    rw [RxQueue.ledger, none, Option.toList_none, List.append_nil] at ledger
    refine ⟨present, ?_⟩
    show (s.takeSkb curBid).rxq.ledger.Perm (List.range (s.rxq.taken + 1))
    rw [written, List.range_succ]
    exact ledger.append_right _

theorem rxPayload_accounted {entry : RxEntry} {s : RxSide} (pd : ¬ entry.pit.IsMsg)
    (before : s.rxq.Accounted) :
    (rxPayload entry s).1.rxq.Accounted ↔ ¬ EntryReplaces entry s := by
  by_cases accepted : PayloadAccepted entry s
  · by_cases frag : entry.pit.IsFrag
    · have same := (rxPayload_frag frag accepted).2.1
      exact ⟨fun _ replaces => replaces.2.1 frag, fun _ => same.accounted.mpr before⟩
    · have same := (rxGetPkt_accepted frag accepted).2.1
      rw [rxPayload_normal frag, same.accounted, takeSkb_accounted before]
      constructor
      · exact fun none replaces => replaces.2.2.2 none
      · intro keeps
        by_contra current
        exact keeps ⟨pd, frag, accepted, current⟩
  · have same := (rxPayload_rejected accepted).2.1
    exact ⟨fun _ replaces => accepted replaces.2.2.1, fun _ => same.accounted.mpr before⟩

theorem rxMark_accounted (ret : Int) (s : RxSide) :
    (rxMark ret s).rxq.Accounted ↔ s.rxq.Accounted := by
  unfold rxMark
  split
  · exact Iff.rfl
  · exact Iff.rfl

/-- A packet that is not marked bad has an skb when it ends. -/
theorem rxMarked_present (entry : RxEntry) (s : RxSide) :
    let marked := rxMark (rxPayload entry s).2 (rxPayload entry s).1
    marked.rxq.rxDataInfo.errPayload = true ∨ marked.rxq.rxDataInfo.curSkb ≠ none := by
  obtain ⟨cur, info, present⟩ := rxPayload_info entry s
  dsimp only
  unfold rxMark
  split
  · exact Or.inl rfl
  · rename_i good
    have accepted : PayloadAccepted entry s :=
      not_not.mp fun other => good ((rxPayload_ret entry s).2.mpr other)
    rw [info]
    exact Or.inr (present accepted)

/-- The end of a packet moves its skb to those handed over or freed. -/
theorem rxPacketEnd_accounted {s : RxSide}
    (present : s.rxq.rxDataInfo.errPayload = true ∨ s.rxq.rxDataInfo.curSkb ≠ none) :
    (rxPacketEnd s).rxq.Accounted ↔ s.rxq.Accounted := by
  have moved : ∀ r : RxQueue, r.taken = s.rxq.taken → r.skbMissing = s.rxq.skbMissing →
      r.ledger.Perm s.rxq.ledger → (r.Accounted ↔ s.rxq.Accounted) := by
    intro r taken missing ledger
    unfold RxQueue.Accounted
    rw [taken, missing]
    exact and_congr_right fun _ => ledger.congr_left _
  unfold rxPacketEnd
  split
  · rename_i good
    unfold rxSkb
    dsimp only
    split
    · rename_i missing
      rw [good] at present
      exact absurd missing (present.resolve_left nofun)
    · rename_i skb current
      split
      · refine moved _ rfl rfl ?_
        show (s.rxq.received.map RecvSkb.skb ++ (s.rxq.freed ++ [skb]) ++ []).Perm _
        rw [RxQueue.ledger, current, List.append_nil, ← List.append_assoc]
        exact List.Perm.refl _
      · refine moved _ rfl rfl ?_
        show ((s.rxq.received ++ [_]).map RecvSkb.skb ++ s.rxq.freed ++ []).Perm _
        rw [RxQueue.ledger, current, List.append_nil, List.map_append, List.append_assoc,
          List.append_assoc]
        exact (List.perm_append_comm).append_left _
  · split
    · rename_i current
      refine moved _ rfl rfl ?_
      show (s.rxq.received.map RecvSkb.skb ++ s.rxq.freed ++ []).Perm _
      rw [RxQueue.ledger, current]
      exact List.Perm.refl _
    · rename_i skb current
      refine moved _ rfl rfl ?_
      show (s.rxq.received.map RecvSkb.skb ++ (s.rxq.freed ++ [skb]) ++ []).Perm _
      rw [RxQueue.ledger, current, List.append_nil, ← List.append_assoc]
      exact List.Perm.refl _

theorem rxProcess_accounted {entry : RxEntry} {l : RxLocals} {s : RxSide} (before : s.rxq.Accounted) :
    (rxProcess entry l s).1.rxq.Accounted ↔ ¬ EntryReplaces entry s := by
  unfold rxProcess
  split
  · rename_i msg
    exact ⟨fun _ replaces => replaces.1 msg, fun _ => before⟩
  · rename_i pd
    have marked := (rxMark_accounted (rxPayload entry s).2 (rxPayload entry s).1).trans
      (rxPayload_accounted pd before)
    rcases rxPdEntry_cases entry l s with ⟨_, ended⟩ | ⟨_, going⟩
    · rw [ended]
      exact (rxPacketEnd_accounted (rxMarked_present entry s)).trans marked
    · rw [going]
      exact marked

theorem rxEntered_accounted {entry : RxEntry} {l : RxLocals} {s : RxSide} (before : s.rxq.Accounted) :
    (rxEntered entry l s).1.rxq.Accounted ↔ ¬ EntryReplaces entry s := by
  have skbs := rxChecked_skbs entry l s
  obtain ⟨normal, frag⟩ := rxChecked_normal entry l s
  have same : EntryReplaces entry (rxChecked entry l s) ↔ EntryReplaces entry s := by
    unfold EntryReplaces PayloadAccepted
    rw [skbs.info, normal, frag]
  exact (rxProcess_accounted (skbs.accounted.mpr before)).trans (not_congr same)

end Entries

section Runs

theorem entryMove_accounted {s : RxFlow} {q : RxqIndex} {entry : RxEntry} {run : RxqRun}
    (before : (s.queue q).rxq.Accounted) (move : EntryMove s q entry run) :
    run.rxq.Accounted ↔ ¬ (s.Processes q entry ∧ EntryReplaces entry (s.side q)) := by
  cases move with
  | unreached pc stays untouched _ =>
    have unprocessed := mt (processes_receiving pc).mp stays
    refine ⟨fun _ processed => unprocessed processed.1, fun _ => ?_⟩
    rcases untouched with kept | checked
    · exact kept.toSameSkbs.accounted.mpr before
    · exact ((rxChecked_skbs entry _ (s.side q)).trans checked.toSameSkbs).accounted.mpr before
  | advanced pc reaches untouched _ =>
    have processed := (processes_receiving pc).mpr reaches
    exact ((rxAdvance_skbs _ _).trans untouched.toSameSkbs).accounted.trans
      ((rxEntered_accounted before).trans (not_congr (and_iff_right processed).symm))
  | failed pc reaches untouched =>
    have processed := (processes_receiving pc).mpr reaches
    exact ((rxAdvance_skbs _ _).trans untouched.toSameSkbs).accounted.trans
      ((rxEntered_accounted before).trans (not_congr (and_iff_right processed).symm))

/-- A stop forgets the skb of the packet that a queue is assembling. -/
theorem stopRxq_accounted {r : RxQueue} (before : r.Accounted) :
    (stopRxq r).Accounted ↔ r.rxDataInfo.curSkb = none := by
  obtain ⟨present, ledger⟩ := before
  have written : (stopRxq r).ledger = r.received.map RecvSkb.skb ++ r.freed := List.append_nil _
  constructor
  · rintro ⟨_, after⟩
    have counted : (stopRxq r).ledger.length = (List.range r.taken).length := after.length_eq
    have total := ledger.length_eq
    rw [written] at counted
    rw [RxQueue.ledger, List.length_append] at total
    have empty : r.rxDataInfo.curSkb.toList.length = 0 := by omega
    cases current : r.rxDataInfo.curSkb with
    | none => rfl
    | some skb =>
      rw [current] at empty
      cases empty
  · intro none
    rw [RxQueue.ledger, none, Option.toList_none, List.append_nil] at ledger
    refine ⟨present, ?_⟩
    rw [written]
    exact ledger

theorem queueMove_accounted {s : RxFlow} {label : FlowLabel} {q : RxqIndex} {run : RxqRun}
    (before : (s.queue q).rxq.Accounted) (keeps : KeepsSkb s label) (move : QueueMove s label q run) :
    run.rxq.Accounted := by
  cases move with
  | same => exact before
  | stopped stop =>
    rw [stop] at keeps
    exact (stopRxq_accounted before).mpr (keeps q)
  | napi _ => exact before
  | began _ taken =>
    rw [(pollBegin_rxq taken).1]
    exact before
  | collected _ untouched => exact untouched.toSameSkbs.accounted.mpr before
  | received _ _ untouched _ => exact untouched.toSameSkbs.accounted.mpr before
  | entered entered move =>
    rw [entered] at keeps
    exact (entryMove_accounted before move).mpr keeps
  | finished _ => exact before

theorem flowStop_queue {s t : RxFlow} (taken : s.step (.path .stop) = some t) (q : RxqIndex) :
    (t.queue q).rxq = stopRxq (s.queue q).rxq := by
  obtain ⟨path, _, rfl⟩ := Option.map_eq_some_iff.mp taken
  rfl

theorem skbStep_exact {s t : RxFlow} {label : FlowLabel} (before : SkbsAccounted s)
    (taken : s.step label = some t) : SkbsAccounted t ↔ KeepsSkb s label := by
  constructor
  · intro after
    cases label with
    | entry p entry =>
      obtain ⟨run, path, rfl, move⟩ := entryStep_move taken
      have here := after p
      rw [setQueue_queue, if_pos rfl] at here
      exact (entryMove_accounted (before p) move).mp here
    | path label =>
      cases label with
      | stop =>
        intro q
        have here := after q
        rw [flowStop_queue taken] at here
        exact (stopRxq_accounted (before q)).mp here
      | _ => trivial
    | _ => trivial
  · intro keeps q
    exact queueMove_accounted (before q) keeps (flow_moves taken q)

/-- Every skb taken from the normal BAT is handed over or freed once exactly if no packet gets a
    second skb before it ends and no stop falls into a packet that has one. -/
theorem skbs_accounted_iff_kept (labels : List FlowLabel) :
    Visits SkbsAccounted RxFlow.step flowInit labels ↔ Obeys KeepsSkb RxFlow.step flowInit labels :=
  visits_iff_obeys (fun _ => True) (fun _ _ _ _ _ _ => trivial)
    (fun _ _ _ _ before taken => skbStep_exact before taken) trivial
    fun _ => ⟨rfl, List.Perm.refl _⟩

/-- A poll takes an skb for a packet that goes on, and the data path stops after it. -/
def stopInPacket : List FlowLabel :=
  let entry : RxEntry := ⟨⟨2, 4096, 0, 0⟩, ⟨64, 4096⟩, 0, true⟩
  [.napiEnable rxq0, .napiSchedule rxq0, .pollBegin rxq0 64 true, .collect rxq0 1,
    .entry rxq0 entry, .entry rxq0 entry, .pollFinish rxq0, .path .stop]

theorem stop_in_packet_loses_skb :
    ¬ Visits SkbsAccounted RxFlow.step flowInit
      (.path (.start onePage pages true) :: stopInPacket) := by
  intro visits
  have lost : ¬ Visits SkbsAccounted RxFlow.step (flowStarted flow_started.choose) stopInPacket := by
    decide
  exact lost (visits.2 _ flow_started.choose_spec)

end Runs

end T7xxModel.Dpmaif
