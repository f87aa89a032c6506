import T7xx.Dpmaif.RxSkb
import T7xx.Format.Segments

namespace T7xxModel.Dpmaif

open Segments Transition

/-- A PIT entry that was processed: whether the buffer that a payload names could be used, and the
    number that its queue gives to the next skb it takes. -/
structure RxItem where
  pit : DpmaifPit
  usable : Bool
  skb : Nat
deriving DecidableEq, Repr

/-- A buffer is posted under this id; the data of a normal one has room in it, and a fragment passes
    `t7xx_frag_bat_cur_bid_check`. -/
def RxEntry.usable (entry : RxEntry) (s : RxSide) : Bool :=
  if entry.pit.IsFrag then
    fragBatCurBidCheck entry.pit.normalPitBid entry.fragWord ∧
      s.frag.batSkb entry.pit.normalPitBid ≠ none
  else
    entry.pit.normalPitBid < DPMAIF_BAT_COUNT ∧ s.normal.batSkb entry.pit.normalPitBid ≠ none ∧
      dataFits s.normal entry

def RxEntry.item (entry : RxEntry) (s : RxSide) : RxItem := ⟨entry.pit, entry.usable s, s.rxq.taken⟩

def RxItem.isPayload (item : RxItem) : Bool := ¬ item.pit.IsMsg

/-- The item brings the skb that later fragments go into. -/
def RxItem.isHead (item : RxItem) : Bool := item.isPayload ∧ ¬ item.pit.IsFrag ∧ item.usable

def RxItem.endsPacket (item : RxItem) : Bool := item.isPayload ∧ item.pit.IsLast

section Packets

/-- The last message entry of a packet; one that has none is treated as if its bits were zero. -/
def packetMsg (packet : List RxItem) : DpmaifPit :=
  ((packet.filter fun item => item.pit.IsMsg).getLast?.map RxItem.pit).getD ⟨0, 0, 0, 0⟩

def packetSkb (packet : List RxItem) : Option Nat := (packet.filter RxItem.isHead).getLast?.map RxItem.skb

/-- A payload of the packet could not be used, or it begins with a fragment. -/
def packetSpoiled (packet : List RxItem) : Bool :=
  packet.any (fun item => item.isPayload && !item.usable) ||
    (packet.find? RxItem.isPayload).any fun item => item.pit.IsFrag

/-- What the network layer is given for a packet. -/
def packetDelivery (packet : List RxItem) : Option RecvSkb :=
  let msg := packetMsg packet
  if packetSpoiled packet ∨ msg.msgDp ≠ 0 then none
  else (packetSkb packet).map fun skb =>
    { skb, netifIdx := msg.msgChannelId &&& NETIF_MASK, rxPktType := msg.msgIp,
      csumUnnecessary := msg.msgChecksum = DPMAIF_CS_RESULT_PASS }

def packetDrop (packet : List RxItem) : Option Nat :=
  if packetSpoiled packet ∨ (packetMsg packet).msgDp ≠ 0 then packetSkb packet else none

/-- The packets of the entries that were processed between two stops. -/
def packets (session : List RxItem) : List (List RxItem) := (cut RxItem.endsPacket session).1

def unfinished (session : List RxItem) : List RxItem := (cut RxItem.endsPacket session).2

/-- `rx_data_info` after these entries of a packet. -/
def packetInfo (packet : List RxItem) : CurRxSkbInfo where
  msgPitReceived := packet.any fun item => item.pit.IsMsg
  curSkb := packetSkb packet
  curChnIdx := (packetMsg packet).msgChannelId
  checkSum := (packetMsg packet).msgChecksum
  pitDp := (packetMsg packet).msgDp
  pktType := (packetMsg packet).msgIp
  errPayload := packetSpoiled packet

variable {packet : List RxItem} {item : RxItem} {session : List RxItem}

theorem packetInfo_nil : packetInfo [] = .zero := by decide

theorem packets_append_end (last : item.endsPacket = true) :
    packets (session ++ [item]) = packets session ++ [unfinished session ++ [item]] ∧
      unfinished (session ++ [item]) = [] := by
  unfold packets unfinished
  rw [cut_append_end last]
  exact ⟨rfl, rfl⟩

theorem packets_append_more (more : item.endsPacket = false) :
    packets (session ++ [item]) = packets session ∧
      unfinished (session ++ [item]) = unfinished session ++ [item] := by
  unfold packets unfinished
  rw [cut_append_more more]
  exact ⟨rfl, rfl⟩

theorem packetInfo_msg (msg : item.pit.IsMsg) :
    packetInfo (packet ++ [item]) =
      { packetInfo packet with
        msgPitReceived := true
        curChnIdx := item.pit.msgChannelId
        checkSum := item.pit.msgChecksum
        pitDp := item.pit.msgDp
        pktType := item.pit.msgIp } := by
  have payload : item.isPayload = false := decide_eq_false (not_not.mpr msg)
  have last : packetMsg (packet ++ [item]) = item.pit := by
    simp [packetMsg, List.filter_append, msg]
  have skb : packetSkb (packet ++ [item]) = packetSkb packet := by
    simp [packetSkb, List.filter_append, RxItem.isHead, payload]
  have spoiled : packetSpoiled (packet ++ [item]) = packetSpoiled packet := by
    simp [packetSpoiled, payload]
  unfold packetInfo
  rw [last, skb, spoiled]
  simp [msg]

theorem packetSkb_first (good : packetSpoiled packet = false) (first : packet.any RxItem.isPayload = true) :
    packetSkb packet ≠ none := by
  unfold packetSpoiled at good
  rw [Bool.or_eq_false_iff, List.any_eq_false] at good
  obtain ⟨usable, normal⟩ := good
  obtain ⟨head, found⟩ := Option.isSome_iff_exists.mp (List.find?_isSome.mpr (List.any_eq_true.mp first))
  have payload := List.find?_some found
  have member := List.mem_of_find?_eq_some found
  rw [found] at normal
  have use := usable head member
  have isHead : head.isHead = true := by
    simp_all [RxItem.isHead]
  unfold packetSkb
  rw [ne_eq, Option.map_eq_none_iff, List.getLast?_eq_none_iff, List.filter_eq_nil_iff]
  exact fun none => none head member isHead

theorem packetSkb_none (first : packet.find? RxItem.isPayload = none) : packetSkb packet = none := by
  have none : packet.filter RxItem.isHead = [] := by
    rw [List.filter_eq_nil_iff]
    intro item member head
    have payload := List.find?_eq_none.mp first item member
    simp_all [RxItem.isHead]
  unfold packetSkb
  rw [none]
  rfl

theorem packetSpoiled_payload (payload : item.isPayload = true) :
    packetSpoiled (packet ++ [item]) =
      (packetSpoiled packet || !item.usable || (decide item.pit.IsFrag && (packetSkb packet).isNone)) := by
  have one : packetSpoiled (packet ++ [item]) =
      (packet.any (fun item => item.isPayload && !item.usable) || !item.usable ||
        ((packet.find? RxItem.isPayload).or (some item)).any fun item => decide item.pit.IsFrag) := by
    simp [packetSpoiled, List.find?_append, payload]
  rw [one]
  cases first : packet.find? RxItem.isPayload with
  | none =>
    rw [packetSkb_none first]
    simp [packetSpoiled, first]
  | some head =>
    have spoiled : packetSpoiled packet = (packet.any (fun item => item.isPayload && !item.usable) ||
        decide head.pit.IsFrag) := by
      simp [packetSpoiled, first]
    cases bad : packetSpoiled packet with
    | true =>
      rw [bad] at spoiled
      have either := Bool.or_eq_true_iff.mp spoiled.symm
      rcases either with any | frag
      · simp [any]
      · simp [of_decide_eq_true frag]
    | false =>
      have some_ : packet.any RxItem.isPayload = true :=
        List.any_eq_true.mpr ⟨head, List.mem_of_find?_eq_some first, List.find?_some first⟩
      obtain ⟨skb, held⟩ := Option.ne_none_iff_exists'.mp (packetSkb_first bad some_)
      rw [bad] at spoiled
      obtain ⟨usable, normal⟩ := Bool.or_eq_false_iff.mp spoiled.symm
      simp [usable, of_decide_eq_false normal, held]

theorem packetSkb_payload (payload : item.isPayload = true) :
    packetSkb (packet ++ [item]) =
      if ¬ item.pit.IsFrag ∧ item.usable = true then some item.skb else packetSkb packet := by
  have head : item.isHead = decide (¬ item.pit.IsFrag ∧ item.usable = true) := by
    simp [RxItem.isHead, payload]
  unfold packetSkb
  rw [List.filter_append]
  split
  · rename_i brings
    simp [head, brings]
  · rename_i keeps
    simp [head, keeps]

theorem packetMsg_payload (payload : item.isPayload = true) :
    packetMsg (packet ++ [item]) = packetMsg packet ∧
      (packet ++ [item]).any (fun item => item.pit.IsMsg) = packet.any fun item => item.pit.IsMsg := by
  have pd : ¬ item.pit.IsMsg := of_decide_eq_true payload
  refine ⟨?_, by simp [pd]⟩
  simp [packetMsg, List.filter_append, pd]

end Packets

section Entries

variable {entry : RxEntry} {s : RxSide} {packet : List RxItem}

theorem usable_accepted :
    PayloadAccepted entry s ↔
      entry.usable s = true ∧ (entry.pit.IsFrag → s.rxq.rxDataInfo.curSkb ≠ none) := by
  unfold PayloadAccepted RxEntry.usable
  by_cases frag : entry.pit.IsFrag
  · simp only [frag, if_true, decide_eq_true_eq, forall_const]
    exact and_comm
  · simp only [frag, if_false, decide_eq_true_eq, false_implies, and_true]

/-- A payload and its mark take `rx_data_info` to that of the longer packet. -/
theorem rxPayload_packetInfo (pd : ¬ entry.pit.IsMsg) (info : s.rxq.rxDataInfo = packetInfo packet) :
    (rxMark (rxPayload entry s).2 (rxPayload entry s).1).rxq.rxDataInfo =
      packetInfo (packet ++ [entry.item s]) := by
  have payload : (entry.item s).isPayload = true := decide_eq_true pd
  obtain ⟨msg, any⟩ := @packetMsg_payload packet _ payload
  have held : s.rxq.rxDataInfo.curSkb = packetSkb packet := congrArg CurRxSkbInfo.curSkb info
  have usable := @usable_accepted entry s
  rw [held] at usable
  have longer : packetInfo (packet ++ [entry.item s]) =
      { packetInfo packet with
        curSkb := if ¬ entry.pit.IsFrag ∧ entry.usable s = true then some s.rxq.taken else packetSkb packet
        errPayload := packetSpoiled packet || !entry.usable s ||
          (decide entry.pit.IsFrag && (packetSkb packet).isNone) } := by
    unfold packetInfo
    rw [msg, any, packetSkb_payload payload, packetSpoiled_payload payload]
    rfl
  rw [longer]
  by_cases accepted : PayloadAccepted entry s
  · obtain ⟨use, present⟩ := usable.mp accepted
    have fine : rxMark (rxPayload entry s).2 (rxPayload entry s).1 = (rxPayload entry s).1 :=
      if_neg fun negative => (rxPayload_ret entry s).2.mp negative accepted
    rw [fine]
    by_cases frag : entry.pit.IsFrag
    · obtain ⟨skb, some_⟩ := Option.ne_none_iff_exists'.mp (present frag)
      rw [(rxPayload_frag frag accepted).2.1.info, info]
      simp [frag, use, some_, packetInfo]
    · rw [rxPayload_normal frag, (rxGetPkt_accepted frag accepted).2.1.info]
      simp [frag, use, RxSide.takeSkb, info, packetInfo]
  · obtain ⟨negative, same, _⟩ := rxPayload_rejected accepted
    have marked : rxMark (rxPayload entry s).2 (rxPayload entry s).1 =
        (rxPayload entry s).1.setInfo { (rxPayload entry s).1.rxq.rxDataInfo with errPayload := true } :=
      if_pos negative
    rw [marked]
    show { (rxPayload entry s).1.rxq.rxDataInfo with errPayload := true } = _
    rw [same.info, info]
    have refused := mt usable.mpr accepted
    by_cases frag : entry.pit.IsFrag
    · cases use : entry.usable s
      · simp [frag, packetInfo]
      · have none : packetSkb packet = none := by simpa [frag, use] using refused
        simp [frag, none, packetInfo]
    · have unusable : entry.usable s = false := by simpa [frag] using refused
      simp [unusable, packetInfo]

theorem rxPayload_holds (entry : RxEntry) (s : RxSide) :
    (rxPayload entry s).1.rxq.received = s.rxq.received ∧ (rxPayload entry s).1.rxq.freed = s.rxq.freed ∧
      (rxPayload entry s).1.rxq.skbMissing = s.rxq.skbMissing := by
  by_cases accepted : PayloadAccepted entry s
  · by_cases frag : entry.pit.IsFrag
    · have same := (rxPayload_frag frag accepted).2.1
      exact ⟨same.received, same.freed, same.missing⟩
    · have same := (rxGetPkt_accepted frag accepted).2.1
      rw [rxPayload_normal frag]
      exact ⟨same.received, same.freed, same.missing⟩
  · have same := (rxPayload_rejected accepted).2.1
    exact ⟨same.received, same.freed, same.missing⟩

theorem rxMark_holds (ret : Int) (s : RxSide) :
    (rxMark ret s).rxq.received = s.rxq.received ∧ (rxMark ret s).rxq.freed = s.rxq.freed ∧
      (rxMark ret s).rxq.skbMissing = s.rxq.skbMissing := by
  unfold rxMark
  split <;> exact ⟨rfl, rfl, rfl⟩

theorem rxPacketEnd_packet (info : s.rxq.rxDataInfo = packetInfo packet)
    (present : packetSpoiled packet = false → packetSkb packet ≠ none) :
    (rxPacketEnd s).rxq.received = s.rxq.received ++ (packetDelivery packet).toList ∧
      (rxPacketEnd s).rxq.freed = s.rxq.freed ++ (packetDrop packet).toList ∧
      (rxPacketEnd s).rxq.skbMissing = s.rxq.skbMissing := by
  have err : s.rxq.rxDataInfo.errPayload = packetSpoiled packet := congrArg CurRxSkbInfo.errPayload info
  have held : s.rxq.rxDataInfo.curSkb = packetSkb packet := congrArg CurRxSkbInfo.curSkb info
  unfold rxPacketEnd packetDelivery packetDrop
  rcases Bool.eq_false_or_eq_true (packetSpoiled packet) with spoiled | good
  · rw [if_neg (by rw [err, spoiled]; decide), held]
    cases packetSkb packet <;> simp [spoiled, RxSide.freeSkb, RxSide.setInfo]
  · obtain ⟨skb, some_⟩ := Option.ne_none_iff_exists'.mp (present good)
    rw [if_pos (err.trans good)]
    unfold rxSkb
    dsimp only
    rw [held, some_, info]
    by_cases wanted : (packetMsg packet).msgDp = 0
    · simp [wanted, good, packetInfo, RxSide.setInfo, RxSide.recvSkb, CurRxSkbInfo.netifId]
    · simp [wanted, packetInfo, RxSide.setInfo, RxSide.freeSkb]

end Entries

section Sessions

/-- `sessions` are the entries that a queue has processed, divided by the stops of the data path. -/
structure Parsed (earlier : List (List RxItem)) (current : List RxItem) (rxq : RxQueue) : Prop where
  received : rxq.received =
    (earlier ++ [current]).flatMap fun session => (packets session).filterMap packetDelivery
  freed : rxq.freed = (earlier ++ [current]).flatMap fun session => (packets session).filterMap packetDrop
  missing : rxq.skbMissing = false
  info : rxq.rxDataInfo = packetInfo (unfinished current)

variable {earlier : List (List RxItem)} {current : List RxItem} {entry : RxEntry} {l : RxLocals} {s : RxSide}

theorem SameSkbs.parsed {before after : RxQueue} (same : SameSkbs before after)
    (parsed : Parsed earlier current before) : Parsed earlier current after :=
  ⟨same.received.trans parsed.received, same.freed.trans parsed.freed, same.missing.trans parsed.missing,
    same.info.trans parsed.info⟩

theorem flatMap_packets_end {β : Type} (f : List RxItem → Option β) {item : RxItem}
    (last : item.endsPacket = true) :
    ((earlier ++ [current ++ [item]]).flatMap fun session => (packets session).filterMap f) =
      ((earlier ++ [current]).flatMap fun session => (packets session).filterMap f) ++
        (f (unfinished current ++ [item])).toList := by
  simp only [List.flatMap_append, List.flatMap_singleton, (packets_append_end last).1,
    List.filterMap_append, List.append_assoc]
  cases given : f (unfinished current ++ [item]) <;> simp [given]

theorem flatMap_packets_more {β : Type} (f : List RxItem → Option β) {item : RxItem}
    (more : item.endsPacket = false) :
    ((earlier ++ [current ++ [item]]).flatMap fun session => (packets session).filterMap f) =
      ((earlier ++ [current]).flatMap fun session => (packets session).filterMap f) := by
  simp only [List.flatMap_append, List.flatMap_singleton, (packets_append_more more).1]

theorem rxProcess_parsed (parsed : Parsed earlier current s.rxq) :
    Parsed earlier (current ++ [entry.item s]) (rxProcess entry l s).1.rxq := by
  unfold rxProcess
  split
  · rename_i msg
    have more : (entry.item s).endsPacket = false := by
      simp [RxItem.endsPacket, RxItem.isPayload, RxEntry.item, msg]
    refine ⟨?_, ?_, parsed.missing, ?_⟩
    · rw [flatMap_packets_more _ more]
      exact parsed.received
    · rw [flatMap_packets_more _ more]
      exact parsed.freed
    · rw [(packets_append_more more).2, packetInfo_msg (show (entry.item s).pit.IsMsg from msg), ← parsed.info]
      rfl
  · rename_i pd
    have payload : (entry.item s).isPayload = true := decide_eq_true pd
    have info := rxPayload_packetInfo pd parsed.info
    obtain ⟨received, freed, missing⟩ := rxPayload_holds entry s
    have marked := rxMark_holds (rxPayload entry s).2 (rxPayload entry s).1
    rcases rxPdEntry_cases entry l s with ⟨last, ended⟩ | ⟨goes, going⟩
    · have ends : (entry.item s).endsPacket = true := decide_eq_true ⟨payload, last⟩
      have present : packetSpoiled (unfinished current ++ [entry.item s]) = false →
          packetSkb (unfinished current ++ [entry.item s]) ≠ none :=
        fun good => packetSkb_first good (by simp [payload])
      obtain ⟨handed, dropped, kept⟩ := rxPacketEnd_packet info present
      rw [ended]
      refine ⟨?_, ?_, ?_, ?_⟩
      · rw [flatMap_packets_end _ ends, ← parsed.received, ← received, ← marked.1]
        exact handed
      · rw [flatMap_packets_end _ ends, ← parsed.freed, ← freed, ← marked.2.1]
        exact dropped
      · exact kept.trans (marked.2.2.trans (missing.trans parsed.missing))
      · rw [(packets_append_end ends).2]
        exact rxPacketEnd_info _
    · have more : (entry.item s).endsPacket = false := decide_eq_false fun ends => goes ends.2
      rw [going]
      refine ⟨?_, ?_, ?_, ?_⟩
      · rw [flatMap_packets_more _ more]
        exact marked.1.trans (received.trans parsed.received)
      · rw [flatMap_packets_more _ more]
        exact marked.2.1.trans (freed.trans parsed.freed)
      · exact marked.2.2.trans (missing.trans parsed.missing)
      · rw [(packets_append_more more).2]
        exact info

theorem rxEntered_parsed (parsed : Parsed earlier current s.rxq) :
    Parsed earlier (current ++ [entry.item s]) (rxEntered entry l s).1.rxq := by
  have skbs := rxChecked_skbs entry l s
  obtain ⟨normal, frag⟩ := rxChecked_normal entry l s
  have same : entry.item (rxChecked entry l s) = entry.item s := by
    unfold RxEntry.item RxEntry.usable dataFits
    rw [normal, frag, skbs.taken]
  rw [← same]
  exact rxProcess_parsed (skbs.parsed parsed)

end Sessions

section Runs

/-- The receive path with the entries that each queue has processed since it was last stopped, and
    those of the times before. -/
structure PacketRun where
  flow : RxFlow
  earlier : RxqIndex → List (List RxItem)
  current : RxqIndex → List RxItem

def itemsBy (s : RxFlow) (q : RxqIndex) : FlowLabel → List RxItem
  | .entry p entry => if p = q ∧ s.Processes p entry then [entry.item (s.side p)] else []
  | _ => []

def PacketRun.after (s : PacketRun) (flow : RxFlow) : FlowLabel → PacketRun
  | .path .stop => { flow, earlier := fun q => s.earlier q ++ [s.current q], current := fun _ => [] }
  | label => { s with flow, current := fun q => s.current q ++ itemsBy s.flow q label }

def PacketRun.step (s : PacketRun) (label : FlowLabel) : Option PacketRun :=
  (s.flow.step label).map fun flow => s.after flow label

def PacketRun.Parses (s : PacketRun) : Prop :=
  ∀ q, Parsed (s.earlier q) (s.current q) (s.flow.queue q).rxq

variable {s : RxFlow} {q : RxqIndex} {earlier : List (List RxItem)} {current : List RxItem}

theorem entryMove_parsed {entry : RxEntry} {run : RxqRun}
    (parsed : Parsed earlier current (s.queue q).rxq) (move : EntryMove s q entry run) :
    Parsed earlier (current ++ itemsBy s q (.entry q entry)) run.rxq := by
  unfold itemsBy
  dsimp only
  cases move with
  | unreached pc stays untouched _ =>
    rw [if_neg fun both => stays ((processes_receiving pc).mp both.2), List.append_nil]
    rcases untouched with kept | checked
    · exact kept.toSameSkbs.parsed parsed
    · exact ((rxChecked_skbs entry _ (s.side q)).trans checked.toSameSkbs).parsed parsed
  | advanced pc reaches untouched _ =>
    rw [if_pos ⟨rfl, (processes_receiving pc).mpr reaches⟩]
    exact ((rxAdvance_skbs _ _).trans untouched.toSameSkbs).parsed (rxEntered_parsed parsed)
  | failed pc reaches untouched =>
    rw [if_pos ⟨rfl, (processes_receiving pc).mpr reaches⟩]
    exact ((rxAdvance_skbs _ _).trans untouched.toSameSkbs).parsed (rxEntered_parsed parsed)

theorem stopRxq_parsed {rxq : RxQueue} (parsed : Parsed earlier current rxq) :
    Parsed (earlier ++ [current]) [] (stopRxq rxq) := by
  have empty {β : Type} (f : List RxItem → Option β) :
      ((earlier ++ [current] ++ [[]]).flatMap fun session => (packets session).filterMap f) =
        (earlier ++ [current]).flatMap fun session => (packets session).filterMap f := by
    rw [List.flatMap_append]
    exact List.append_nil _
  exact ⟨(empty _).symm ▸ parsed.received, (empty _).symm ▸ parsed.freed, parsed.missing, rfl⟩

/-- Of the steps of a run only the processed entries and the stops reach the sessions of a queue. -/
theorem queueMove_parsed {label : FlowLabel} {run : RxqRun} (parsed : Parsed earlier current (s.queue q).rxq)
    (going : label ≠ .path .stop) (other : ∀ p entry, label ≠ .entry p entry)
    (move : QueueMove s label q run) : Parsed earlier current run.rxq := by
  cases move with
  | same => exact parsed
  | stopped stop => exact absurd stop going
  | napi _ => exact parsed
  | began _ taken =>
    rw [(pollBegin_rxq taken).1]
    exact parsed
  | collected _ untouched => exact untouched.toSameSkbs.parsed parsed
  | received _ _ untouched _ => exact untouched.toSameSkbs.parsed parsed
  | entered entered _ => exact absurd entered (other _ _)
  | finished _ => exact parsed

theorem packetStep_parses {s t : PacketRun} {label : FlowLabel} (parses : s.Parses)
    (taken : s.step label = some t) : t.Parses := by
  obtain ⟨flow, moved, rfl⟩ := Option.map_eq_some_iff.mp taken
  intro q
  unfold PacketRun.after
  split
  · rw [flowStop_queue moved q]
    exact stopRxq_parsed (parses q)
  · rename_i going
    dsimp only
    by_cases entry : ∃ p entry, label = .entry p entry
    · obtain ⟨p, entry, rfl⟩ := entry
      obtain ⟨run, path, rfl, move⟩ := entryStep_move moved
      rw [setQueue_queue]
      by_cases here : q = p
      · subst here
        rw [if_pos rfl]
        exact entryMove_parsed (parses q) move
      · have elsewhere : itemsBy s.flow q (.entry p entry) = [] := if_neg fun both => here both.1.symm
        rw [if_neg here, elsewhere, List.append_nil]
        exact parses q
    · have none : itemsBy s.flow q label = [] := by
        cases label with
        | entry p item => exact absurd ⟨p, item, rfl⟩ entry
        | _ => rfl
      rw [none, List.append_nil]
      exact queueMove_parsed (parses q) going (fun p item same => entry ⟨p, item, same⟩) (flow_moves moved q)

/-- What a queue hands over are the packets of the entries that it processed, each with what the checks
    of its buffers found. -/
theorem received_packets (labels : List FlowLabel) :
    Visits PacketRun.Parses PacketRun.step ⟨flowInit, fun _ => [], fun _ => []⟩ labels :=
  Visits.of_kept PacketRun.Parses (fun _ parses => parses)
    (fun _ _ _ parses taken => packetStep_parses parses taken) labels fun _ => ⟨rfl, rfl, rfl, packetInfo_nil.symm⟩

end Runs

end T7xxModel.Dpmaif
