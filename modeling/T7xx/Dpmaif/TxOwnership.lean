import T7xx.Dpmaif.TxCounters
import T7xx.Dpmaif.TxEntries

namespace T7xxModel.Dpmaif

open Transition

def inFlight (txq : Txq) : List Nat :=
  Ring.slots txq.drbSizeCnt txq.drbReleaseRdIdx
    (ringBufRdWrCount txq.drbSizeCnt txq.drbReleaseRdIdx txq.drbWrIdx .read)

/-- Each mapping was unmapped once or is in the ring, each skb added was freed once or is there. -/
def OwnedOnce (s : TxPath) : Prop :=
  s.log.mapped.Nodup ∧ (s.log.unmapped ++ mappingsAt s.txq (inFlight s.txq)).Perm s.log.mapped ∧
    s.log.added.Nodup ∧ (s.log.freed ++ skbsAt s.txq (inFlight s.txq)).Perm s.log.added

instance (s : TxPath) : Decidable (OwnedOnce s) :=
  inferInstanceAs (Decidable (s.log.mapped.Nodup ∧
    (s.log.unmapped ++ mappingsAt s.txq (inFlight s.txq)).Perm s.log.mapped ∧
    s.log.added.Nodup ∧ (s.log.freed ++ skbsAt s.txq (inFlight s.txq)).Perm s.log.added))

/-- No payload entry outside the ring still names an skb. -/
def noStaleEntry (txq : Txq) : Bool :=
  (List.range txq.drbSizeCnt).all fun i =>
    (flushUnmaps (txq.drbSkbBase i)).isNone || (inFlight txq).contains i

/-- A stop finds no entry left behind by an earlier one, `tx_done` finds a DRB to release, and no
    start falls between a burst and its announcement. -/
def KeepsOwners (s : TxPath) : TxLabel → Prop
  | .stop => noStaleEntry s.txq = true
  | .txDone => relCnt s ≠ 0
  | .start true => s.push.held = 0
  | _ => True

instance (s : TxPath) : (label : TxLabel) → Decidable (KeepsOwners s label)
  | .stop => inferInstanceAs (Decidable (noStaleEntry s.txq = true))
  | .txDone => inferInstanceAs (Decidable (relCnt s ≠ 0))
  | .start true => inferInstanceAs (Decidable (s.push.held = 0))
  | .start false | .suspend | .resume | .send _ | .pushWake | .pushResume _ | .pushSelect
  | .pushRound _ | .sleepDisabled _ | .pushAnnounce | .pushLoop | .hwProgress _ | .ringCheck =>
    inferInstanceAs (Decidable True)

def TxLabel.MapsAll : TxLabel → Prop
  | .pushRound fails => fails = none
  | _ => True

instance : (label : TxLabel) → Decidable label.MapsAll
  | .pushRound fails => inferInstanceAs (Decidable (fails = none))
  | .start _ | .stop | .suspend | .resume | .send _ | .pushWake | .pushResume _ | .pushSelect
  | .sleepDisabled _ | .pushAnnounce | .pushLoop | .hwProgress _ | .txDone | .ringCheck =>
    inferInstanceAs (Decidable True)

/-- Addresses are given out in order, skbs are added in the order they are sent, and the ring holds
    what is mapped and not unmapped, added and not freed. -/
structure Ledger (txq : Txq) (log : TxLog) (sent : Nat) : Prop where
  entries : ∀ i ∈ inFlight txq, EntryOk (txq.drbBase i) (txq.drbSkbBase i)
  lastPayload : ∀ i, (txq.drbSkbBase i).isLast = true → (txq.drbSkbBase i).isMsg = false
  addresses : log.mapped = List.range' 1 log.mapped.length
  queue : log.added ++ txq.txSkbHead.map Skb.id = List.range sent
  maps : (log.unmapped ++ mappingsAt txq (inFlight txq)).Perm log.mapped
  skbs : (log.freed ++ skbsAt txq (inFlight txq)).Perm log.added

structure Owned (s : TxPath) : Prop where
  aligned : ∃ credit, Aligned credit s
  ledger : Ledger s.txq s.log s.sent

theorem Ledger.ownedOnce {s : TxPath} (ledger : Ledger s.txq s.log s.sent) : OwnedOnce s := by
  refine ⟨?_, ledger.maps, ?_, ledger.skbs⟩
  · rw [ledger.addresses]
    exact List.nodup_range'
  · have all : (s.log.added ++ s.txq.txSkbHead.map Skb.id).Nodup := by
      rw [ledger.queue]
      exact List.nodup_range
    exact (List.nodup_append.mp all).1

section Places

theorem inFlight_of {txq : Txq} {a c : Nat} (release : txq.drbReleaseRdIdx = a % txq.drbSizeCnt)
    (write : txq.drbWrIdx = (a + c) % txq.drbSizeCnt) (fits : c < txq.drbSizeCnt) :
    inFlight txq = Ring.slots txq.drbSizeCnt a c := by
  unfold inFlight
  rw [ringBufRdWrCount_read, release, write, Ring.distance_mod (by omega) (by omega), Ring.slots_mod]
  congr 1
  omega

theorem inFlight_empty {txq : Txq} (release : txq.drbReleaseRdIdx = 0) (write : txq.drbWrIdx = 0) :
    inFlight txq = [] := by
  unfold inFlight
  rw [ringBufRdWrCount_read, release, write, Ring.distance_self, Ring.slots_zero]

theorem inFlight_congr {t u : Txq} (size : u.drbSizeCnt = t.drbSizeCnt)
    (release : u.drbReleaseRdIdx = t.drbReleaseRdIdx) (write : u.drbWrIdx = t.drbWrIdx) :
    inFlight u = inFlight t := by
  unfold inFlight
  rw [size, release, write]

theorem RingCounts.inFlight {credit : Int} {released seen : Nat} {s : TxPath}
    (counts : RingCounts credit released seen s) (size : s.txq.drbSizeCnt = DPMAIF_DRB_LIST_LEN) :
    Dpmaif.inFlight s.txq = Ring.slots s.txq.drbSizeCnt released (s.written - released) := by
  have ordered := counts.released_le
  have room := counts.room
  apply inFlight_of
  · rw [size]
    exact counts.release
  · rw [size, Nat.add_sub_cancel' ordered]
    exact counts.write
  · omega

end Places

section Flushing

theorem flushUnmaps_of_entry {drb : Drb} {drbSkb : DrbSkb} (entry : EntryOk drb drbSkb) :
    flushUnmaps drbSkb = drbSkb.mapping := by
  rcases entry with ⟨_, isMsg, _⟩ | ⟨_, isMsg, ⟨id, owner⟩, _⟩
  · simp [flushUnmaps, DrbSkb.mapping, isMsg]
  · simp [flushUnmaps, DrbSkb.mapping, isMsg, owner]

theorem flushFrees_of_silent {drbSkb : DrbSkb} (kind : drbSkb.isLast = true → drbSkb.isMsg = false)
    (silent : flushUnmaps drbSkb = none) : flushFrees drbSkb = none := by
  unfold flushFrees
  split
  · rename_i last
    have payload := kind last
    cases owner : drbSkb.skb with
    | none => rfl
    | some id => simp [flushUnmaps, owner, payload] at silent
  · rfl

theorem silent_of_noStale {txq : Txq} (fresh : noStaleEntry txq = true) :
    ∀ i < txq.drbSizeCnt, i ∉ inFlight txq → flushUnmaps (txq.drbSkbBase i) = none := by
  intro i below absent
  have checked := List.all_eq_true.mp fresh i (List.mem_range.mpr below)
  rw [Bool.or_eq_true, List.contains_iff_mem] at checked
  rcases checked with silent | present
  · exact Option.isNone_iff_eq_none.mp silent
  · exact absurd present absent

/-- Without stale entries, a flush gives back what is in the ring. -/
theorem txFreeDrbSkb_settles {txq : Txq} (log : TxLog) (pos : 0 < txq.drbSizeCnt)
    (nodup : (inFlight txq).Nodup)
    (entries : ∀ i ∈ inFlight txq, EntryOk (txq.drbBase i) (txq.drbSkbBase i))
    (lastPayload : ∀ i, (txq.drbSkbBase i).isLast = true → (txq.drbSkbBase i).isMsg = false)
    (fresh : noStaleEntry txq = true) :
    (txFreeDrbSkb txq log).2.unmapped.Perm (log.unmapped ++ mappingsAt txq (inFlight txq)) ∧
      (txFreeDrbSkb txq log).2.freed.Perm (log.freed ++ skbsAt txq (inFlight txq)) := by
  have silent := silent_of_noStale fresh
  have bounded : ∀ i ∈ inFlight txq, i < txq.drbSizeCnt :=
    fun i member => Ring.lt_of_mem_slots pos member
  have unmaps := Ring.filterMap_range_perm nodup bounded silent
  have frees := Ring.filterMap_range_perm nodup bounded fun i below absent =>
    flushFrees_of_silent (lastPayload i) (silent i below absent)
  have same : (inFlight txq).filterMap (fun i => flushUnmaps (txq.drbSkbBase i)) =
      mappingsAt txq (inFlight txq) := by
    apply List.filterMap_congr
    intro i member
    exact flushUnmaps_of_entry (entries i member)
  rw [same] at unmaps
  exact ⟨unmaps.append_left log.unmapped, frees.append_left log.freed⟩

end Flushing

section Steps

variable {credit : Int} {s t : TxPath}

theorem Ledger.frame {t u : Txq} {log : TxLog} {sent : Nat} (ledger : Ledger t log sent)
    (drbs : u.drbBase = t.drbBase) (records : u.drbSkbBase = t.drbSkbBase)
    (size : u.drbSizeCnt = t.drbSizeCnt) (release : u.drbReleaseRdIdx = t.drbReleaseRdIdx)
    (write : u.drbWrIdx = t.drbWrIdx) (waiting : u.txSkbHead = t.txSkbHead) :
    Ledger u log sent := by
  have places : inFlight u = inFlight t := inFlight_congr size release write
  constructor
  · rw [places, drbs, records]
    exact ledger.entries
  · rw [records]
    exact ledger.lastPayload
  · exact ledger.addresses
  · rw [waiting]
    exact ledger.queue
  · rw [places, mappingsAt_congr fun i _ => congrFun records i]
    exact ledger.maps
  · rw [places, skbsAt_congr fun i _ => congrFun records i]
    exact ledger.skbs

theorem stop_ledger (aligned : Aligned credit s) (ledger : Ledger s.txq s.log s.sent)
    (fresh : noStaleEntry s.txq = true) (taken : txStop s = some t) :
    Ledger t.txq t.log t.sent := by
  have pos : 0 < s.txq.drbSizeCnt := by
    rw [aligned.size]
    exact ringLen_pos
  have nodup : (inFlight s.txq).Nodup := by
    by_cases powered : s.state = .pwron
    · obtain ⟨released, seen, counts⟩ := aligned.running powered
      have room := counts.room
      rw [counts.inFlight aligned.size]
      apply Ring.slots_nodup
      rw [aligned.size]
      omega
    · have cleared := aligned.cleared powered
      rw [inFlight_empty cleared.release cleared.write]
      exact List.nodup_nil
  obtain ⟨unmaps, frees⟩ := txFreeDrbSkb_settles s.log pos nodup ledger.entries ledger.lastPayload
    fresh
  unfold txStop at taken
  split at taken
  · cases taken
  · cases taken
    have places : inFlight (txqFlushRel s.txq s.log).1 = [] := inFlight_empty rfl rfl
    constructor
    · change ∀ i ∈ inFlight (txqFlushRel s.txq s.log).1, _
      rw [places]
      nofun
    · intro i
      dsimp only
      split
      · exact ledger.lastPayload i
      · exact ledger.lastPayload i
    · exact ledger.addresses
    · exact ledger.queue
    · change ((txFreeDrbSkb s.txq s.log).2.unmapped ++ mappingsAt (txqFlushRel s.txq s.log).1
        (inFlight (txqFlushRel s.txq s.log).1)).Perm s.log.mapped
      rw [places, mappingsAt, List.filterMap_nil, List.append_nil]
      exact unmaps.trans ledger.maps
    · change ((txFreeDrbSkb s.txq s.log).2.freed ++ skbsAt (txqFlushRel s.txq s.log).1
        (inFlight (txqFlushRel s.txq s.log).1)).Perm s.log.added
      rw [places, skbsAt, List.filterMap_nil, List.append_nil]
      exact frees.trans ledger.skbs

/-- An skb added at the write index takes the places behind those of the ring. -/
theorem added_inFlight {skb : Skb} {released seen : Nat} {txq : Txq} {log : TxLog} {ret : Int}
    (size : s.txq.drbSizeCnt = DPMAIF_DRB_LIST_LEN) (counts : RingCounts credit released seen s)
    (room : s.written + skbDrbCnt skb < released + DPMAIF_DRB_LIST_LEN)
    (added : addSkbToRing s.state skb none s.txq s.log = (txq, log, ret)) (succeeded : 0 ≤ ret) :
    inFlight txq = inFlight s.txq ++ Ring.slots s.txq.drbSizeCnt s.written (skbDrbCnt skb) ∧
      ∀ i ∈ inFlight s.txq, i ∉ Ring.slots s.txq.drbSizeCnt s.written (skbDrbCnt skb) := by
  rcases addSkbToRing_cases added with ⟨failed, _⟩ | ⟨_, _, control⟩
  · omega
  have ordered := counts.released_le
  have before := counts.inFlight size
  have sizes : txq.drbSizeCnt = s.txq.drbSizeCnt := control.size
  have at_ : s.txq.drbWrIdx = s.written % s.txq.drbSizeCnt := by
    rw [size]
    exact counts.write
  have start : txq.drbReleaseRdIdx = released % txq.drbSizeCnt := by
    rw [control.release, sizes, size]
    exact counts.release
  have stepped : txq.drbWrIdx =
      (released + (s.written - released + skbDrbCnt skb)) % txq.drbSizeCnt := by
    rw [control.write, sizes,
      reserveDrbs_write at_ (by rw [size]; omega) (by rw [size]; exact ringLen_pos)]
    congr 1
    omega
  have after : inFlight txq =
      Ring.slots txq.drbSizeCnt released (s.written - released + skbDrbCnt skb) := by
    apply inFlight_of start stepped
    rw [sizes, size]
    omega
  constructor
  · rw [after, sizes, before, Ring.slots_add, Nat.add_sub_cancel' ordered]
  · have nodup := Ring.slots_nodup s.txq.drbSizeCnt released
      (show s.written - released + skbDrbCnt skb ≤ s.txq.drbSizeCnt by rw [size]; omega)
    rw [Ring.slots_add, Nat.add_sub_cancel' ordered, ← before] at nodup
    exact List.disjoint_of_nodup_append nodup

theorem add_ledger {skb : Skb} {rest : List Skb} {txq : Txq} {log : TxLog} {ret : Int}
    {wait : Bool} {i remain cnt : Nat} (aligned : Aligned credit s)
    (ledger : Ledger s.txq s.log s.sent) (place : s.push = .burst wait i remain cnt)
    (queue : s.txq.txSkbHead = skb :: rest) (fits : skbDrbCnt skb ≤ remain)
    (added : addSkbToRing s.state skb none s.txq s.log = (txq, log, ret)) (succeeded : 0 ≤ ret) :
    Ledger { txq with txSkbHead := rest } log s.sent := by
  rcases addSkbToRing_cases added with ⟨failed, _⟩ | ⟨_, powered, _⟩
  · omega
  obtain ⟨released, seen, counts⟩ := aligned.running powered
  have size := aligned.size
  have room := counts.room
  have ordered := counts.released_le
  rw [place] at room
  simp only [TxPush.remain] at room
  have at_ : s.txq.drbWrIdx = s.written % s.txq.drbSizeCnt := by
    rw [size]
    exact counts.write
  obtain ⟨pieces, logged, drbs⟩ := addSkbToRing_added at_ (by rw [size]; omega) added succeeded
  obtain ⟨joined, apart⟩ := added_inFlight size counts (by omega) added succeeded
  have after : inFlight { txq with txSkbHead := rest } =
      inFlight s.txq ++ Ring.slots s.txq.drbSizeCnt s.written (skbDrbCnt skb) := joined
  have kept : ∀ i ∈ inFlight s.txq, txq.drbSkbBase i = s.txq.drbSkbBase i :=
    fun i member => (drbs.outside i (apart i member)).2
  rw [logged]
  constructor
  · rw [after]
    intro i member
    rcases List.mem_append.mp member with early | late
    · change EntryOk (txq.drbBase i) (txq.drbSkbBase i)
      rw [kept i early, (drbs.outside i (apart i early)).1]
      exact ledger.entries i early
    · exact drbs.entries i late
  · intro i last
    by_cases late : i ∈ Ring.slots s.txq.drbSizeCnt s.written (skbDrbCnt skb)
    · rcases drbs.entries i late with ⟨_, _, notLast⟩ | ⟨_, isMsg, _, _⟩
      · exact absurd (last.symm.trans notLast) (by decide)
      · exact isMsg
    · change (txq.drbSkbBase i).isMsg = false
      change (txq.drbSkbBase i).isLast = true at last
      rw [(drbs.outside i late).2] at last ⊢
      exact ledger.lastPayload i last
  · dsimp only
    rw [List.length_append, List.length_range', Nat.add_comm s.log.mapped.length pieces,
      Nat.add_comm pieces, ← List.range'_append_1, ← ledger.addresses, Nat.add_comm 1]
  · dsimp only
    have order := ledger.queue
    rw [queue] at order
    simpa using order
  · rw [after, mappingsAt_append]
    have old : mappingsAt { txq with txSkbHead := rest } (inFlight s.txq) =
        mappingsAt s.txq (inFlight s.txq) := mappingsAt_congr kept
    have new : mappingsAt { txq with txSkbHead := rest }
        (Ring.slots s.txq.drbSizeCnt s.written (skbDrbCnt skb)) = _ := drbs.mapped
    rw [old, new, ← List.append_assoc]
    exact ledger.maps.append_right _
  · rw [after, skbsAt_append]
    have old : skbsAt { txq with txSkbHead := rest } (inFlight s.txq) =
        skbsAt s.txq (inFlight s.txq) := skbsAt_congr kept
    have new : skbsAt { txq with txSkbHead := rest }
        (Ring.slots s.txq.drbSizeCnt s.written (skbDrbCnt skb)) = _ := drbs.owned
    rw [old, new, ← List.append_assoc]
    exact ledger.skbs.append_right _

theorem release_ledger {txq : Txq} {log : TxLog} {sent a c k : Nat} (ledger : Ledger txq log sent)
    (release : txq.drbReleaseRdIdx = a % txq.drbSizeCnt)
    (write : txq.drbWrIdx = (a + c) % txq.drbSizeCnt) (fits : c < txq.drbSizeCnt) (few : k ≤ c) :
    Ledger (releaseTxBuffer k txq log).1 (releaseTxBuffer k txq log).2 sent := by
  have before : inFlight txq =
      Ring.slots txq.drbSizeCnt a k ++ Ring.slots txq.drbSizeCnt (a + k) (c - k) := by
    rw [inFlight_of release write fits, ← Ring.slots_add, Nat.add_sub_cancel' few]
  have nodup := Ring.slots_nodup txq.drbSizeCnt a (show k + (c - k) ≤ txq.drbSizeCnt by omega)
  rw [Ring.slots_add] at nodup
  have apart : ∀ i ∈ Ring.slots txq.drbSizeCnt (a + k) (c - k), i ∉ Ring.slots txq.drbSizeCnt a k :=
    fun i late early => List.disjoint_of_nodup_append nodup early late
  obtain ⟨u, result, moved, kept⟩ := releaseTxBuffer_settles k a txq log release (by omega)
    (by omega) fun i member => ledger.entries i (by
      rw [before]
      exact List.mem_append_left _ member)
  have after : inFlight u = Ring.slots txq.drbSizeCnt (a + k) (c - k) := by
    rw [← moved.size]
    apply inFlight_of
    · rw [moved.size]
      exact moved.release a release
    · rw [moved.size, moved.write, write]
      congr 1
      omega
    · rw [moved.size]
      omega
  have same : ∀ i ∈ Ring.slots txq.drbSizeCnt (a + k) (c - k),
      u.drbSkbBase i = txq.drbSkbBase i := fun i member => kept.outside i (apart i member)
  have maps := ledger.maps
  have skbs := ledger.skbs
  rw [before, mappingsAt_append, ← List.append_assoc] at maps
  rw [before, skbsAt_append, ← List.append_assoc] at skbs
  rw [result]
  constructor
  · rw [after]
    intro i member
    rw [kept.drbs, same i member]
    apply ledger.entries
    rw [before]
    exact List.mem_append_right _ member
  · intro i last
    change (u.drbSkbBase i).isLast = true at last
    change (u.drbSkbBase i).isMsg = false
    rw [kept.isLast] at last
    rw [kept.isMsg]
    exact ledger.lastPayload i last
  · exact ledger.addresses
  · dsimp only
    rw [moved.waiting]
    exact ledger.queue
  · rw [after, mappingsAt_congr same]
    exact maps
  · rw [after, skbsAt_congr same]
    exact skbs

theorem updateDrbRdIdx_ledger {txq : Txq} {log : TxLog} {sent : Nat} (newHwRdIdx : Nat)
    (ledger : Ledger txq log sent) : Ledger (updateDrbRdIdx newHwRdIdx txq).1 log sent := by
  unfold updateDrbRdIdx
  split
  · exact ledger
  · split
    · exact ledger
    · exact ledger.frame rfl rfl rfl rfl rfl rfl

theorem txDone_ledger (aligned : Aligned credit s) (ledger : Ledger s.txq s.log s.sent)
    (allowed : relCnt s ≠ 0) (taken : txDoneStep s = some t) : Ledger t.txq t.log t.sent := by
  unfold txDoneStep at taken
  split at taken
  · rename_i powered
    obtain ⟨released, now, k, few, kept, size, release⟩ := aligned.released allowed powered
    have ordered := kept.released_le
    have read := kept.seenRead
    have announced := kept.readAnnounced
    have written := kept.announcedWritten
    have room := kept.room
    simp only [DPMAIF_UL_DRB_SIZE_WORD] at announced written
    simp only at read room ordered
    rw [release] at taken
    cases taken
    apply release_ledger (updateDrbRdIdx_ledger _ ledger)
    · rw [size]
      exact kept.release
    · rw [size, Nat.add_sub_cancel' ordered]
      exact kept.write
    · rw [size]
      omega
    · omega
  · cases taken

theorem burstRound_ledger {wait : Bool} {i remain cnt : Nat} (aligned : Aligned credit s)
    (ledger : Ledger s.txq s.log s.sent) (place : s.push = .burst wait i remain cnt) :
    Ledger (burstRound none wait i remain cnt s).txq (burstRound none wait i remain cnt s).log
      (burstRound none wait i remain cnt s).sent := by
  rcases burstRound_cases none wait i remain cnt s with
    ends | rereads | ⟨skb, txq, log, ret, added, failed, ends⟩ |
    ⟨skb, rest, txq, log, ret, queue, room, added, succeeded, goes⟩
  · rw [ends]
    exact ledger
  · rw [rereads]
    exact ledger
  · obtain ⟨sameTxq, sameLog⟩ := addSkbToRing_refused added failed
    rw [ends, sameTxq, sameLog]
    exact ledger
  · have joined := add_ledger aligned ledger place queue room added succeeded
    rw [goes]
    exact joined

theorem pushStep_ledger {label : TxLabel} (aligned : Aligned credit s)
    (ledger : Ledger s.txq s.log s.sent) (maps : label.MapsAll)
    (taken : pushStep label s = some t) : Ledger t.txq t.log t.sent := by
  cases pushStep_moves taken with
  | @round fails wait i remain cnt place =>
    have succeeds : fails = none := maps
    rw [succeeds]
    exact burstRound_ledger aligned ledger place
  | enter | full | drop | awake | announce => exact ledger

theorem send_ledger {skb : Skb} {txq : Txq} (ledger : Ledger s.txq s.log s.sent)
    (sends : txSendSkb { skb with id := s.sent } s.txq = some txq) :
    Ledger txq s.log (s.sent + 1) := by
  unfold txSendSkb at sends
  split at sends
  · cases sends
  · cases sends
    refine ⟨ledger.entries, ledger.lastPayload, ledger.addresses, ?_, ledger.maps, ledger.skbs⟩
    dsimp only
    rw [List.map_append, ← List.append_assoc, ledger.queue, List.range_succ]
    rfl

theorem txStep_ledger {label : TxLabel} (aligned : Aligned credit s)
    (ledger : Ledger s.txq s.log s.sent) (allowed : KeepsOwners s label) (maps : label.MapsAll)
    (taken : txStep s label = some t) : Ledger t.txq t.log t.sent := by
  cases label with
  | start hwReady =>
    simp only [txStep, txStart] at taken
    split at taken
    · cases taken
    · cases hwReady
      · cases taken
        exact ledger.frame rfl rfl rfl rfl rfl rfl
      · cases taken
        exact ledger.frame rfl rfl rfl rfl rfl rfl
  | stop => exact stop_ledger aligned ledger allowed taken
  | suspend | resume =>
    cases taken
    exact ledger.frame rfl rfl rfl rfl rfl rfl
  | send skb =>
    simp only [txStep, Option.map_eq_some_iff] at taken
    obtain ⟨txq, sends, rfl⟩ := taken
    exact send_ledger ledger sends
  | hwProgress drbs =>
    simp only [txStep] at taken
    split at taken
    · cases taken
      exact ledger
    · cases taken
  | txDone => exact txDone_ledger aligned ledger allowed taken
  | ringCheck =>
    simp only [txStep] at taken
    split at taken
    · cases taken
      exact updateDrbRdIdx_ledger _ ledger
    · cases taken
  | pushWake | pushResume | pushSelect | pushRound | sleepDisabled | pushAnnounce | pushLoop =>
    exact pushStep_ledger aligned ledger maps taken

theorem txStep_owned (s : TxPath) (label : TxLabel) (t : TxPath) (owned : Owned s)
    (allowed : KeepsOwners s label ∧ label.MapsAll) (taken : txStep s label = some t) :
    Owned t := by
  obtain ⟨credit, aligned⟩ := owned.aligned
  refine ⟨?_, txStep_ledger aligned owned.ledger allowed.1 allowed.2 taken⟩
  by_cases stops : label = .stop
  · rw [stops] at taken
    exact ⟨s.txq.txBudget, stop_aligned aligned taken⟩
  · refine ⟨credit, txStep_aligned aligned ?_ stops taken⟩
    cases label with
    | start hwReady =>
      cases hwReady
      · exact trivial
      · exact allowed.1
    | txDone => exact allowed.1
    | stop => exact absurd rfl stops
    | _ => exact trivial

end Steps

theorem txInit_owned : Owned txInit := by
  refine ⟨⟨_, txInit_aligned⟩, ?_⟩
  have places : inFlight txInit.txq = [] := inFlight_empty rfl rfl
  constructor
  · rw [places]
    nofun
  · intro i last
    cases last
  · rfl
  · rfl
  · rw [places]
    exact List.Perm.refl _
  · rw [places]
    exact List.Perm.refl _

def linearSkb : Skb := ⟨0, 100, 100, [], 0, by decide⟩

def secondStop : List TxLabel :=
  .start true :: .send fragmentedSkb ::
    (burstLabels ++ announceLabels ++ [TxLabel.stop, .start true, .stop])

end T7xxModel.Dpmaif
