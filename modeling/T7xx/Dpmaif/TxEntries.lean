import T7xx.Dpmaif.TxQueue

namespace T7xxModel.Dpmaif

def DrbSkb.mapping (drbSkb : DrbSkb) : Option Nat :=
  if drbSkb.isMsg then none else some drbSkb.busAddr

/-- How a DRB and its record agree while they are in the ring: a message keeps nothing, a payload
    keeps its mapping, and the last payload keeps the skb. -/
def EntryOk (drb : Drb) (drbSkb : DrbSkb) : Prop :=
  (drb.dtyp ≠ DES_DTYP_PD ∧ drbSkb.isMsg = true ∧ drbSkb.isLast = false) ∨
  (drb.dtyp = DES_DTYP_PD ∧ drbSkb.isMsg = false ∧ (∃ id, drbSkb.skb = some id) ∧
    drb.cont = !drbSkb.isLast)

def mappingsAt (txq : Txq) (places : List Nat) : List Nat :=
  places.filterMap fun i => (txq.drbSkbBase i).mapping

def skbsAt (txq : Txq) (places : List Nat) : List Nat :=
  places.filterMap fun i => flushFrees (txq.drbSkbBase i)

theorem mappingsAt_append (txq : Txq) (first second : List Nat) :
    mappingsAt txq (first ++ second) = mappingsAt txq first ++ mappingsAt txq second := by
  simp [mappingsAt]

theorem skbsAt_append (txq : Txq) (first second : List Nat) :
    skbsAt txq (first ++ second) = skbsAt txq first ++ skbsAt txq second := by
  simp [skbsAt]

theorem mappingsAt_cons (txq : Txq) (i : Nat) (places : List Nat) :
    mappingsAt txq (i :: places) = (txq.drbSkbBase i).mapping.toList ++ mappingsAt txq places := by
  rw [mappingsAt, List.filterMap_cons]
  cases (txq.drbSkbBase i).mapping <;> rfl

theorem skbsAt_cons (txq : Txq) (i : Nat) (places : List Nat) :
    skbsAt txq (i :: places) = (flushFrees (txq.drbSkbBase i)).toList ++ skbsAt txq places := by
  rw [skbsAt, List.filterMap_cons]
  cases flushFrees (txq.drbSkbBase i) <;> rfl

theorem mappingsAt_congr {t u : Txq} {places : List Nat}
    (same : ∀ i ∈ places, u.drbSkbBase i = t.drbSkbBase i) :
    mappingsAt u places = mappingsAt t places := by
  apply List.filterMap_congr
  intro i member
  rw [same i member]

theorem skbsAt_congr {t u : Txq} {places : List Nat}
    (same : ∀ i ∈ places, u.drbSkbBase i = t.drbSkbBase i) : skbsAt u places = skbsAt t places := by
  apply List.filterMap_congr
  intro i member
  rw [same i member]

/-- Writing at `places` puts these mappings and skbs into the ring and touches nothing else. -/
structure DrbsAdded (mappings skbs places : List Nat) (t u : Txq) : Prop where
  outside : ∀ i ∉ places, u.drbBase i = t.drbBase i ∧ u.drbSkbBase i = t.drbSkbBase i
  entries : ∀ i ∈ places, EntryOk (u.drbBase i) (u.drbSkbBase i)
  mapped : mappingsAt u places = mappings
  owned : skbsAt u places = skbs

theorem DrbsAdded.none_ (txq : Txq) : DrbsAdded [] [] [] txq txq :=
  ⟨fun _ _ => ⟨rfl, rfl⟩, nofun, rfl, rfl⟩

theorem DrbsAdded.append {m m' o o' p p' : List Nat} {t u v : Txq} (first : DrbsAdded m o p t u)
    (second : DrbsAdded m' o' p' u v) (disjoint : ∀ i ∈ p, i ∉ p') :
    DrbsAdded (m ++ m') (o ++ o') (p ++ p') t v := by
  have kept : ∀ i ∈ p, v.drbBase i = u.drbBase i ∧ v.drbSkbBase i = u.drbSkbBase i :=
    fun i member => second.outside i (disjoint i member)
  constructor
  · intro i absent
    rw [List.mem_append, not_or] at absent
    obtain ⟨drb, record⟩ := second.outside i absent.2
    obtain ⟨before, recorded⟩ := first.outside i absent.1
    exact ⟨drb.trans before, record.trans recorded⟩
  · intro i member
    rcases List.mem_append.mp member with early | late
    · rw [(kept i early).1, (kept i early).2]
      exact first.entries i early
    · exact second.entries i late
  · rw [mappingsAt_append, mappingsAt_congr fun i member => (kept i member).2, first.mapped,
      second.mapped]
  · rw [skbsAt_append, skbsAt_congr fun i member => (kept i member).2, first.owned, second.owned]

section Writing

theorem dtyp_msg (dataLen : Nat) : drbHdr DES_DTYP_MSG true dataLen &&& 3#32 = DES_DTYP_MSG :=
  dtyp_drbHdr _ _ _ (by decide)

theorem dtyp_pd (cont : Bool) (dataLen : Nat) :
    drbHdr DES_DTYP_PD cont dataLen &&& 3#32 = DES_DTYP_PD :=
  dtyp_drbHdr _ _ _ (by decide)

theorem reserve_added (skb : Skb) (txq : Txq) :
    DrbsAdded [] [] [txq.drbWrIdx] txq (reserveDrbs skb txq) := by
  constructor
  · intro i absent
    rw [List.mem_singleton] at absent
    exact ⟨Function.update_of_ne absent _ _, Function.update_of_ne absent _ _⟩
  · intro i member
    rw [List.mem_singleton] at member
    left
    simp only [reserveDrbs, recordDrbSkb, setupMsgDrb, Txq.setDrb, Txq.setDrbSkb, member,
      Function.update_self, Drb.dtyp, dtyp_msg]
    exact ⟨by decide, trivial, trivial⟩
  · simp [mappingsAt, reserveDrbs, recordDrbSkb, setupMsgDrb, Txq.setDrb, Txq.setDrbSkb,
      DrbSkb.mapping]
  · simp [skbsAt, reserveDrbs, recordDrbSkb, setupMsgDrb, Txq.setDrb, Txq.setDrbSkb, flushFrees]

def writePiece (skb curIdx busAddr dataLen : Nat) (isFrag isLastOne : Bool) (txq : Txq) : Txq :=
  recordDrbSkb curIdx skb false isFrag isLastOne busAddr dataLen
    (setupPayloadDrb curIdx busAddr dataLen isLastOne txq)

theorem piece_added (skb curIdx busAddr dataLen : Nat) (isFrag isLastOne : Bool) (txq : Txq) :
    DrbsAdded [busAddr] (if isLastOne then [skb] else []) [curIdx] txq
      (writePiece skb curIdx busAddr dataLen isFrag isLastOne txq) := by
  constructor
  · intro i absent
    rw [List.mem_singleton] at absent
    exact ⟨Function.update_of_ne absent _ _, Function.update_of_ne absent _ _⟩
  · intro i member
    rw [List.mem_singleton] at member
    right
    simp only [writePiece, recordDrbSkb, setupPayloadDrb, Txq.setDrb, Txq.setDrbSkb, member,
      Function.update_self, Drb.dtyp, Drb.cont, dtyp_pd]
    refine ⟨trivial, trivial, ⟨skb, rfl⟩, ?_⟩
    rw [cont_drbHdr _ _ _ (by decide)]
    cases isLastOne <;> decide
  · simp [mappingsAt, writePiece, recordDrbSkb, setupPayloadDrb, Txq.setDrb, Txq.setDrbSkb,
      DrbSkb.mapping]
  · cases isLastOne <;>
      simp [skbsAt, writePiece, recordDrbSkb, setupPayloadDrb, Txq.setDrb, Txq.setDrbSkb, flushFrees]

theorem slot_apart {n a c : Nat} (fits : c < n) :
    ∀ i ∈ [a % n], i ∉ Ring.slots n (a + 1) c := by
  intro i member
  rw [List.mem_singleton] at member
  have nodup := Ring.slots_nodup n a (show c + 1 ≤ n by omega)
  rw [Ring.slots_succ, List.nodup_cons] at nodup
  rw [member]
  exact nodup.1

theorem addPieces_added (skb wrCnt a : Nat) (pieces : List (Nat × Bool)) (txq : Txq) (log : TxLog)
    (fits : pieces.length < txq.drbSizeCnt) :
    ∃ u, addPieces skb none pieces wrCnt (a % txq.drbSizeCnt) txq log =
        (u, { log with mapped := log.mapped ++ List.range' (log.mapped.length + 1) pieces.length },
          none) ∧
      DrbsAdded (List.range' (log.mapped.length + 1) pieces.length)
        (if pieces.isEmpty then [] else [skb]) (Ring.slots txq.drbSizeCnt (a + 1) pieces.length)
        txq u := by
  induction pieces generalizing wrCnt a txq log with
  | nil =>
    refine ⟨txq, ?_, DrbsAdded.none_ txq⟩
    simp [addPieces]
  | cons piece pieces ih =>
    obtain ⟨dataLen, isFrag⟩ := piece
    have short : pieces.length + 1 < txq.drbSizeCnt := fits
    have next := ringBufGetNextWrIdx_mod a (show 0 < txq.drbSizeCnt by omega)
    have first := piece_added skb ((a + 1) % txq.drbSizeCnt) (log.mapped.length + 1) dataLen isFrag
      pieces.isEmpty txq
    obtain ⟨u, result, rest⟩ := ih (wrCnt + 1) (a + 1)
      (writePiece skb ((a + 1) % txq.drbSizeCnt) (log.mapped.length + 1) dataLen isFrag
        pieces.isEmpty txq)
      { log with mapped := log.mapped ++ [log.mapped.length + 1] } (by
        change pieces.length < txq.drbSizeCnt
        omega)
    refine ⟨u, ?_, ?_⟩
    · unfold addPieces
      rw [if_neg (by simp)]
      dsimp only
      rw [next]
      change addPieces skb none pieces (wrCnt + 1) ((a + 1) % txq.drbSizeCnt) _ _ = _ at result
      rw [← writePiece, result]
      simp [List.range'_succ]
    · have both := first.append rest (slot_apart (by omega))
      rw [show (if List.isEmpty ((dataLen, isFrag) :: pieces) then [] else [skb]) =
        (if pieces.isEmpty then [skb] else []) ++ (if pieces.isEmpty then [] else [skb]) by
          cases pieces <;> rfl]
      rw [List.length_cons, Ring.slots_succ, List.range'_succ]
      simp only [List.length_append, List.length_singleton] at both
      exact both

theorem addPieces_none (skb wrCnt curIdx : Nat) (pieces : List (Nat × Bool)) (txq : Txq)
    (log : TxLog) : (addPieces skb none pieces wrCnt curIdx txq log).2.2 = none := by
  induction pieces generalizing wrCnt curIdx txq log with
  | nil => rfl
  | cons piece pieces ih =>
    obtain ⟨dataLen, isFrag⟩ := piece
    unfold addPieces
    rw [if_neg (by simp)]
    exact ih _ _ _ _

theorem addSkbToRing_refused {state : DpmaifState} {skb : Skb} {txq u : Txq} {log after : TxLog}
    {ret : Int} (added : addSkbToRing state skb none txq log = (u, after, ret)) (failed : ret < 0) :
    u = txq ∧ after = log := by
  unfold addSkbToRing at added
  split at added
  · cases added
    exact ⟨rfl, rfl⟩
  · have whole := addPieces_none skb.id 0 txq.drbWrIdx skb.pieces (reserveDrbs skb txq) log
    split at added
    · cases added
      exact absurd failed (by decide)
    · rename_i broken
      rw [broken] at whole
      cases whole

theorem skbDrbCnt_pieces (skb : Skb) : skbDrbCnt skb = skb.pieces.length + 1 := by
  simp [skbDrbCnt, Skb.pieces]

/-- An skb that is added takes consecutive places for its message and its pieces, each piece under a
    mapping of its own, and its last piece keeps the skb. -/
theorem addSkbToRing_added {state : DpmaifState} {skb : Skb} {txq u : Txq} {log after : TxLog}
    {ret : Int} {a : Nat} (at_ : txq.drbWrIdx = a % txq.drbSizeCnt)
    (fits : skbDrbCnt skb ≤ txq.drbSizeCnt)
    (added : addSkbToRing state skb none txq log = (u, after, ret)) (succeeded : 0 ≤ ret) :
    ∃ pieces,
      after = { log with
        mapped := log.mapped ++ List.range' (log.mapped.length + 1) pieces
        added := log.added ++ [skb.id] } ∧
      DrbsAdded (List.range' (log.mapped.length + 1) pieces) [skb.id]
        (Ring.slots txq.drbSizeCnt a (skbDrbCnt skb)) txq u := by
  unfold addSkbToRing at added
  split at added
  · cases added
    exact absurd succeeded (by decide)
  · have count : skbDrbCnt skb = skb.pieces.length + 1 := by simp [skbDrbCnt, Skb.pieces]
    have message := reserve_added skb txq
    obtain ⟨written, result, payload⟩ := addPieces_added skb.id 0 a skb.pieces
      (reserveDrbs skb txq) log (by
        change skb.pieces.length < txq.drbSizeCnt
        omega)
    change addPieces skb.id none skb.pieces 0 (a % txq.drbSizeCnt) _ _ = _ at result
    rw [at_, result] at added
    cases added
    refine ⟨skb.pieces.length, rfl, ?_⟩
    rw [at_] at message
    have both := message.append payload (slot_apart (by omega))
    rw [count, Ring.slots_succ]
    exact ⟨both.outside, both.entries, both.mapped, both.owned⟩

end Writing

section Releasing

structure DrbsKept (places : List Nat) (t u : Txq) : Prop where
  drbs : u.drbBase = t.drbBase
  outside : ∀ i ∉ places, u.drbSkbBase i = t.drbSkbBase i
  isMsg : ∀ i, (u.drbSkbBase i).isMsg = (t.drbSkbBase i).isMsg
  isLast : ∀ i, (u.drbSkbBase i).isLast = (t.drbSkbBase i).isLast

theorem DrbsKept.refl (txq : Txq) (places : List Nat) : DrbsKept places txq txq :=
  ⟨rfl, fun _ _ => rfl, fun _ => rfl, fun _ => rfl⟩

theorem clearDrbSkb_kept (curIdx : Nat) (txq : Txq) :
    DrbsKept [curIdx] txq (clearDrbSkb curIdx txq) := by
  constructor
  · rfl
  · intro i absent
    rw [List.mem_singleton] at absent
    exact Function.update_of_ne absent _ _
  · intro i
    by_cases here : i = curIdx
    · simp [clearDrbSkb, Txq.setDrbSkb, here]
    · simp [clearDrbSkb, Txq.setDrbSkb, here]
  · intro i
    by_cases here : i = curIdx
    · simp [clearDrbSkb, Txq.setDrbSkb, here]
    · simp [clearDrbSkb, Txq.setDrbSkb, here]

def TxLog.settle (log : TxLog) (drbSkb : DrbSkb) : TxLog :=
  { log with
    unmapped := log.unmapped ++ drbSkb.mapping.toList
    freed := log.freed ++ (flushFrees drbSkb).toList }

theorem releaseDrb_settles (txq : Txq) (log : TxLog)
    (entry : EntryOk (txq.drbBase txq.drbReleaseRdIdx) (txq.drbSkbBase txq.drbReleaseRdIdx)) :
    ∃ u, releaseDrb txq log =
        (advanceRelease u, log.settle (txq.drbSkbBase txq.drbReleaseRdIdx)) ∧
      SameControl txq u ∧ DrbsKept [txq.drbReleaseRdIdx] txq u := by
  have cleared := clearDrbSkb_control txq.drbReleaseRdIdx txq
  have kept := clearDrbSkb_kept txq.drbReleaseRdIdx txq
  unfold releaseDrb
  dsimp only
  rcases entry with ⟨message, isMsg, notLast⟩ | ⟨payload, isMsg, ⟨id, owner⟩, cont⟩
  · refine ⟨txq, ?_, SameControl.refl txq, DrbsKept.refl txq _⟩
    rw [if_neg message]
    simp [TxLog.settle, DrbSkb.mapping, flushFrees, isMsg, notLast]
  · refine ⟨clearDrbSkb txq.drbReleaseRdIdx txq, ?_, cleared, kept⟩
    rw [if_pos payload]
    cases last : (txq.drbSkbBase txq.drbReleaseRdIdx).isLast
    · simp [cont, last, TxLog.settle, TxLog.unmap, DrbSkb.mapping, flushFrees, isMsg]
    · simp [cont, last, TxLog.settle, TxLog.unmap, TxLog.free, DrbSkb.mapping, flushFrees, isMsg,
        owner]

/-- Releasing the first DRBs of the ring gives back what they stand for, in ring order. -/
theorem releaseTxBuffer_settles (k a : Nat) (txq : Txq) (log : TxLog)
    (at_ : txq.drbReleaseRdIdx = a % txq.drbSizeCnt) (fits : k ≤ txq.drbSizeCnt)
    (pos : 0 < txq.drbSizeCnt)
    (entries : ∀ i ∈ Ring.slots txq.drbSizeCnt a k, EntryOk (txq.drbBase i) (txq.drbSkbBase i)) :
    ∃ u, releaseTxBuffer k txq log =
        (u, { log with
          unmapped := log.unmapped ++ mappingsAt txq (Ring.slots txq.drbSizeCnt a k)
          freed := log.freed ++ skbsAt txq (Ring.slots txq.drbSizeCnt a k) }) ∧
      Released k txq u ∧ DrbsKept (Ring.slots txq.drbSizeCnt a k) txq u := by
  induction k generalizing a txq log with
  | zero =>
    refine ⟨txq, ?_, released_zero txq, DrbsKept.refl txq _⟩
    simp [releaseTxBuffer, Ring.slots_zero, mappingsAt, skbsAt]
  | succ k ih =>
    rw [Ring.slots_succ] at entries ⊢
    have entry := entries _ List.mem_cons_self
    rw [← at_] at entry
    obtain ⟨t, first, control, kept⟩ := releaseDrb_settles txq log entry
    have moved := released_advance control pos
    have apart : a % txq.drbSizeCnt ∉ Ring.slots txq.drbSizeCnt (a + 1) k :=
      slot_apart (by omega) _ List.mem_cons_self
    have later : ∀ i ∈ Ring.slots txq.drbSizeCnt (a + 1) k,
        t.drbSkbBase i = txq.drbSkbBase i := by
      intro i member
      apply kept.outside
      rw [List.mem_singleton, at_]
      rintro rfl
      exact apart member
    have size : (advanceRelease t).drbSizeCnt = txq.drbSizeCnt := control.size
    obtain ⟨u, rest, released, keptRest⟩ := ih (a + 1) (advanceRelease t)
      (log.settle (txq.drbSkbBase txq.drbReleaseRdIdx))
      (by rw [size]; exact moved.release a at_) (by rw [size]; omega) (by rw [size]; exact pos)
      (by
        rw [size]
        intro i member
        change EntryOk (t.drbBase i) (t.drbSkbBase i)
        rw [kept.drbs, later i member]
        exact entries i (List.mem_cons_of_mem _ member))
    rw [size] at rest keptRest
    refine ⟨u, ?_, ?_, ?_⟩
    · rw [releaseTxBuffer, first, rest]
      have maps : mappingsAt (advanceRelease t) (Ring.slots txq.drbSizeCnt (a + 1) k) =
          mappingsAt txq (Ring.slots txq.drbSizeCnt (a + 1) k) := mappingsAt_congr later
      have skbs : skbsAt (advanceRelease t) (Ring.slots txq.drbSizeCnt (a + 1) k) =
          skbsAt txq (Ring.slots txq.drbSizeCnt (a + 1) k) := skbsAt_congr later
      rw [maps, skbs, mappingsAt_cons, skbsAt_cons, ← List.append_assoc, ← List.append_assoc, ← at_]
      rfl
    · have both := moved.trans released
      rwa [Nat.add_comm 1 k] at both
    · constructor
      · exact keptRest.drbs.trans kept.drbs
      · intro i absent
        rw [List.mem_cons, not_or] at absent
        rw [keptRest.outside i absent.2]
        apply kept.outside
        rw [List.mem_singleton, at_]
        exact absent.1
      · intro i
        exact (keptRest.isMsg i).trans (kept.isMsg i)
      · intro i
        exact (keptRest.isLast i).trans (kept.isLast i)

end Releasing

end T7xxModel.Dpmaif
