import T7xx.Dpmaif.TxCounters
import T7xx.Dpmaif.TxLayout
import T7xx.Format.Segments

namespace T7xxModel.Dpmaif

open Segments Transition

/-- A packet as the hardware finds it in DRBs: what its message says, and where its pieces are. -/
structure TxPacket where
  channelId : Nat
  len : Nat
  pieces : List (BitVec 64 × Nat)
deriving DecidableEq, Repr

/-- The hardware goes on to the next packet behind a DRB without CONT. -/
def Drb.endsPacket (drb : Drb) : Bool := !drb.cont

def Drb.piece (drb : Drb) : BitVec 64 × Nat := (drb.dataAddr, drb.dataLen)

/-- One message and the payloads behind it. -/
def decodeDrbs : List Drb → Option TxPacket
  | [] => none
  | msg :: payloads =>
    if msg.dtyp = DES_DTYP_MSG ∧ ∀ drb ∈ payloads, drb.dtyp = DES_DTYP_PD then
      some ⟨msg.channelId, msg.dataLen, payloads.map Drb.piece⟩
    else none

/-- The packet of an skb whose pieces are mapped at the addresses from `addr` on. -/
def Skb.txPacket (skb : Skb) (addr : Nat) : TxPacket where
  channelId := skb.netifIdx % 2 ^ 8
  len := skb.len % 2 ^ 16
  pieces := skb.pieces.mapIdx fun j piece => (BitVec.ofNat 64 (addr + j), piece.1 % 2 ^ 16)

section Encoding

/-- The payload DRBs that are written for these pieces. -/
def pieceDrbs : List (Nat × Bool) → (addr : Nat) → List Drb
  | [], _ => []
  | (dataLen, _) :: pieces, addr =>
    ⟨drbHdr DES_DTYP_PD (!pieces.isEmpty) dataLen, BitVec.ofNat 32 addr, BitVec.ofNat 32 (addr / 2 ^ 32)⟩ ::
      pieceDrbs pieces (addr + 1)

def msgDrb (pktLen channelId : Nat) (word2 : BitVec 32) : Drb :=
  ⟨drbHdr DES_DTYP_MSG true pktLen, ((BitVec.ofNat 32 channelId <<< 16) &&& 0xff0000#32) ||| 0x20000000#32, word2⟩

theorem channelId_msgDrb (pktLen channelId : Nat) (word2 : BitVec 32) :
    (msgDrb pktLen channelId word2).channelId = channelId % 2 ^ 8 := by
  have low : (BitVec.ofNat 32 channelId <<< 16) &&& 0xff0000#32 =
      (BitVec.ofNat 32 (channelId % 2 ^ 8) <<< 16) &&& 0xff0000#32 := by
    have mask : ∀ i : Fin 32, ¬ (16 ≤ i.val ∧ i.val < 24) → (0xff0000#32).getLsbD i = false := by decide
    apply BitVec.eq_of_getLsbD_eq
    intro i below
    rw [BitVec.getLsbD_and, BitVec.getLsbD_and]
    by_cases inside : 16 ≤ i ∧ i < 24
    · have byte : (BitVec.ofNat 32 channelId).getLsbD (i - 16) =
          (BitVec.ofNat 32 (channelId % 2 ^ 8)).getLsbD (i - 16) := by
        rw [BitVec.getLsbD_ofNat, BitVec.getLsbD_ofNat, Nat.testBit_mod_two_pow,
          decide_eq_true (show i - 16 < 8 by omega), Bool.true_and]
      rw [BitVec.getLsbD_shiftLeft, BitVec.getLsbD_shiftLeft, byte]
    · rw [show (0xff0000#32).getLsbD i = false from mask ⟨i, below⟩ inside, Bool.and_false, Bool.and_false]
  unfold Drb.channelId msgDrb
  dsimp only
  rw [low]
  exact channelId_msgHdr ⟨channelId % 2 ^ 8, Nat.mod_lt _ (by decide)⟩

theorem dataAddr_ofNat (header : BitVec 32) (addr : Nat) :
    Drb.dataAddr ⟨header, BitVec.ofNat 32 addr, BitVec.ofNat 32 (addr / 2 ^ 32)⟩ = BitVec.ofNat 64 addr := by
  apply BitVec.eq_of_toNat_eq
  unfold Drb.dataAddr
  dsimp only
  rw [BitVec.toNat_append, BitVec.toNat_ofNat, BitVec.toNat_ofNat, BitVec.toNat_ofNat,
    ← Nat.shiftLeft_add_eq_or_of_lt (Nat.mod_lt _ (by decide)), Nat.shiftLeft_eq]
  omega

theorem pieceDrbs_decode (pieces : List (Nat × Bool)) (addr : Nat) :
    (∀ drb ∈ pieceDrbs pieces addr, drb.dtyp = DES_DTYP_PD) ∧
      (pieceDrbs pieces addr).map Drb.piece =
        pieces.mapIdx fun j piece => (BitVec.ofNat 64 (addr + j), piece.1 % 2 ^ 16) := by
  induction pieces generalizing addr with
  | nil => exact ⟨nofun, rfl⟩
  | cons piece pieces ih =>
    obtain ⟨kinds, rest⟩ := ih (addr + 1)
    have length : Drb.dataLen ⟨drbHdr DES_DTYP_PD (!pieces.isEmpty) piece.1, BitVec.ofNat 32 addr,
        BitVec.ofNat 32 (addr / 2 ^ 32)⟩ = piece.1 % 2 ^ 16 := dataLen_drbHdr _ _ _ (by decide)
    constructor
    · intro drb member
      rcases List.mem_cons.mp member with rfl | later
      · exact dtyp_pd _ _
      · exact kinds drb later
    · unfold pieceDrbs
      rw [List.map_cons, rest, List.mapIdx_cons]
      unfold Drb.piece
      rw [dataAddr_ofNat, length]
      refine congrArg _ (List.mapIdx_eq_mapIdx_iff.mpr fun j _ => ?_)
      rw [Nat.add_assoc, Nat.add_comm 1]

/-- The DRBs of an skb are one packet, which the hardware reads as the skb. -/
theorem decode_skb (skb : Skb) (addr : Nat) (word2 : BitVec 32) :
    decodeDrbs (msgDrb skb.len skb.netifIdx word2 :: pieceDrbs skb.pieces addr) = some (skb.txPacket addr) := by
  obtain ⟨kinds, pieces⟩ := pieceDrbs_decode skb.pieces addr
  have length : (msgDrb skb.len skb.netifIdx word2).dataLen = skb.len % 2 ^ 16 :=
    dataLen_drbHdr _ _ _ (by decide)
  unfold decodeDrbs
  dsimp only
  rw [if_pos ⟨dtyp_msg _, kinds⟩, channelId_msgDrb, length, pieces]
  rfl

theorem pieceDrbs_segment (pieces : List (Nat × Bool)) (addr : Nat) (some_ : pieces ≠ []) :
    ∃ run last, pieceDrbs pieces addr = run ++ [last] ∧ (∀ drb ∈ run, drb.endsPacket = false) ∧
      last.endsPacket = true := by
  induction pieces generalizing addr with
  | nil => exact absurd rfl some_
  | cons piece pieces ih =>
    have ends : ∀ cont, Drb.endsPacket ⟨drbHdr DES_DTYP_PD cont piece.1, BitVec.ofNat 32 addr,
        BitVec.ofNat 32 (addr / 2 ^ 32)⟩ = !cont := by
      intro cont
      unfold Drb.endsPacket Drb.cont
      dsimp only
      rw [cont_drbHdr _ _ _ (by decide)]
      cases cont <;> rfl
    cases pieces with
    | nil => exact ⟨[], _, rfl, nofun, ends false⟩
    | cons next pieces =>
      obtain ⟨run, last, split, goes, stops⟩ := ih (addr + 1) (List.cons_ne_nil _ _)
      refine ⟨_ :: run, last, congrArg (List.cons _) split, ?_, stops⟩
      intro drb member
      rcases List.mem_cons.mp member with rfl | later
      · exact ends true
      · exact goes drb later

/-- Only the last DRB of an skb ends its packet. -/
theorem skbDrbs_segment (skb : Skb) (addr : Nat) (word2 : BitVec 32) :
    ∃ run last, msgDrb skb.len skb.netifIdx word2 :: pieceDrbs skb.pieces addr = run ++ [last] ∧
      (∀ drb ∈ run, drb.endsPacket = false) ∧ last.endsPacket = true := by
  obtain ⟨run, last, split, goes, stops⟩ := pieceDrbs_segment skb.pieces addr (List.cons_ne_nil _ _)
  have more : (msgDrb skb.len skb.netifIdx word2).endsPacket = false := by
    unfold Drb.endsPacket Drb.cont msgDrb
    dsimp only
    rw [cont_drbHdr _ _ _ (by decide)]
    rfl
  refine ⟨_ :: run, last, congrArg (List.cons _) split, ?_, stops⟩
  intro drb member
  rcases List.mem_cons.mp member with rfl | later
  · exact more
  · exact goes drb later

end Encoding

section Writing

variable {skb : Skb} {txq u : Txq} {log after : TxLog} {ret : Int} {a : Nat}

theorem addPieces_outside (id : Nat) (fails : Option Nat) (wrCnt a : Nat) (pieces : List (Nat × Bool))
    (txq : Txq) (log : TxLog) (pos : 0 < txq.drbSizeCnt) :
    ∀ i ∉ Ring.slots txq.drbSizeCnt (a + 1) pieces.length,
      (addPieces id fails pieces wrCnt (a % txq.drbSizeCnt) txq log).1.drbBase i = txq.drbBase i := by
  induction pieces generalizing wrCnt a txq log with
  | nil => exact fun _ _ => rfl
  | cons piece pieces ih =>
    intro i absent
    rw [List.length_cons, Ring.slots_succ, List.mem_cons, not_or] at absent
    unfold addPieces
    split
    · rfl
    · dsimp only
      rw [ringBufGetNextWrIdx_mod a pos]
      refine (ih (wrCnt + 1) (a + 1) (writePiece id ((a + 1) % txq.drbSizeCnt) _ piece.1 piece.2
        pieces.isEmpty txq) _ pos i absent.2).trans ?_
      exact Function.update_of_ne absent.1 _ _

/-- A payload loop in which no mapping fails writes what it would write if none could. -/
theorem addPieces_whole (id : Nat) (fails : Option Nat) (wrCnt curIdx : Nat) (pieces : List (Nat × Bool))
    (txq : Txq) (log : TxLog) (whole : (addPieces id fails pieces wrCnt curIdx txq log).2.2 = none) :
    addPieces id fails pieces wrCnt curIdx txq log = addPieces id none pieces wrCnt curIdx txq log := by
  induction pieces generalizing wrCnt curIdx txq log with
  | nil => rfl
  | cons piece pieces ih =>
    unfold addPieces at whole ⊢
    split at whole
    · cases whole
    · rename_i maps
      rw [if_neg maps, if_neg (by simp)]
      exact ih _ _ _ _ whole

theorem addPieces_drbs (id wrCnt a : Nat) (pieces : List (Nat × Bool)) (txq : Txq) (log : TxLog)
    (fits : pieces.length < txq.drbSizeCnt) :
    (Ring.slots txq.drbSizeCnt (a + 1) pieces.length).map
        (addPieces id none pieces wrCnt (a % txq.drbSizeCnt) txq log).1.drbBase =
      pieceDrbs pieces (log.mapped.length + 1) := by
  induction pieces generalizing wrCnt a txq log with
  | nil => rfl
  | cons piece pieces ih =>
    rw [List.length_cons] at fits
    have pos : 0 < txq.drbSizeCnt := by omega
    have kept := addPieces_outside id none (wrCnt + 1) (a + 1) pieces
      (writePiece id ((a + 1) % txq.drbSizeCnt) (log.mapped.length + 1) piece.1 piece.2 pieces.isEmpty txq)
      { log with mapped := log.mapped ++ [log.mapped.length + 1] } pos ((a + 1) % txq.drbSizeCnt)
      (slot_apart (show pieces.length < txq.drbSizeCnt by omega) _ List.mem_cons_self)
    have rest := ih (wrCnt + 1) (a + 1)
      (writePiece id ((a + 1) % txq.drbSizeCnt) (log.mapped.length + 1) piece.1 piece.2 pieces.isEmpty txq)
      { log with mapped := log.mapped ++ [log.mapped.length + 1] }
      (by change pieces.length < txq.drbSizeCnt; omega)
    change _ = pieceDrbs pieces ((log.mapped ++ [log.mapped.length + 1]).length + 1) at rest
    rw [List.length_append, List.length_singleton] at rest
    unfold addPieces pieceDrbs
    rw [if_neg (by simp)]
    dsimp only
    rw [ringBufGetNextWrIdx_mod a pos, List.length_cons, Ring.slots_succ, List.map_cons]
    refine congrArg₂ _ (kept.trans ?_) rest
    exact Function.update_self ..

/-- A call that fails, at whatever piece, has written in the places of its skb only. -/
theorem addSkbToRing_outside {state : DpmaifState} {fails : Option Nat}
    (at_ : txq.drbWrIdx = a % txq.drbSizeCnt) (pos : 0 < txq.drbSizeCnt)
    (added : addSkbToRing state skb fails txq log = (u, after, ret)) :
    ∀ i ∉ Ring.slots txq.drbSizeCnt a (skbDrbCnt skb), u.drbBase i = txq.drbBase i := by
  intro i absent
  rw [skbDrbCnt_pieces, Ring.slots_succ, List.mem_cons, not_or] at absent
  have message : (reserveDrbs skb txq).drbBase i = txq.drbBase i :=
    ((reserve_added skb txq).outside i (by rw [List.mem_singleton, at_]; exact absent.1)).1
  have pieces := addPieces_outside skb.id fails 0 a skb.pieces (reserveDrbs skb txq) log pos i absent.2
  change (addPieces _ _ _ _ (a % txq.drbSizeCnt) _ _).1.drbBase i = _ at pieces
  rw [← at_] at pieces
  unfold addSkbToRing at added
  split at added
  · cases added
    rfl
  · split at added
    all_goals
      rename_i written
      rw [written] at pieces
      cases added
      exact pieces.trans message

/-- An skb that was added stands in its places as it is to be read. -/
theorem addSkbToRing_drbs {state : DpmaifState} {fails : Option Nat}
    (at_ : txq.drbWrIdx = a % txq.drbSizeCnt) (fits : skbDrbCnt skb ≤ txq.drbSizeCnt)
    (added : addSkbToRing state skb fails txq log = (u, after, ret)) (succeeded : 0 ≤ ret) :
    ∃ word2, (Ring.slots txq.drbSizeCnt a (skbDrbCnt skb)).map u.drbBase =
      msgDrb skb.len skb.netifIdx word2 :: pieceDrbs skb.pieces (log.mapped.length + 1) := by
  have count := skbDrbCnt_pieces skb
  have pos : 0 < txq.drbSizeCnt := by omega
  unfold addSkbToRing at added
  split at added
  · cases added
    exact absurd succeeded (by decide)
  · split at added
    · rename_i written mapped whole
      have maps := addPieces_whole skb.id fails 0 txq.drbWrIdx skb.pieces (reserveDrbs skb txq) log
        (by rw [whole])
      have payload := addPieces_drbs skb.id 0 a skb.pieces (reserveDrbs skb txq) log
        (by change skb.pieces.length < txq.drbSizeCnt; omega)
      have kept := addPieces_outside skb.id none 0 a skb.pieces (reserveDrbs skb txq) log pos (a % txq.drbSizeCnt)
        (slot_apart (show skb.pieces.length < txq.drbSizeCnt by omega) _ List.mem_cons_self)
      change (Ring.slots txq.drbSizeCnt (a + 1) _).map (addPieces _ _ _ _ (a % txq.drbSizeCnt) _ _).1.drbBase = _
        at payload
      change (addPieces _ _ _ _ (a % txq.drbSizeCnt) _ _).1.drbBase _ = _ at kept
      rw [← at_, ← maps, whole] at payload kept
      cases added
      refine ⟨(txq.drbBase txq.drbWrIdx).word2, ?_⟩
      rw [count, Ring.slots_succ, List.map_cons, ← at_]
      refine congrArg₂ _ (kept.trans ?_) payload
      exact Function.update_self ..
    · cases added
      exact absurd succeeded (by decide)

end Writing

section Runs

/-- The TX queue with all skbs it was given, those placed in its ring since the hardware was initialised,
    each with the address its first piece was mapped at, and the DRBs that the hardware has read since. -/
structure DrbStream where
  path : TxPath
  accepted : List Skb
  placed : List (Skb × Nat)
  read : List Drb

/-- The skb that a round of the burst moves into the ring. -/
def placedBy (s t : TxPath) : List (Skb × Nat) :=
  if s.written < t.written then (s.txq.txSkbHead.take 1).map fun skb => (skb, s.log.mapped.length + 1) else []

def DrbStream.after (s : DrbStream) (path : TxPath) : TxLabel → DrbStream
  | .start true => { s with path, placed := [], read := [] }
  | .send skb => { s with path, accepted := s.accepted ++ [{ skb with id := s.path.sent }] }
  | .pushRound _ => { s with path, placed := s.placed ++ placedBy s.path path }
  | .hwProgress drbs =>
    { s with path
             read := s.read ++ (Ring.slots s.path.txq.drbSizeCnt s.path.hwRead drbs).map s.path.txq.drbBase }
  | _ => { s with path }

def DrbStream.step (s : DrbStream) (label : TxLabel) : Option DrbStream :=
  (txStep s.path label).map fun path => s.after path label

def drbStreamInit : DrbStream := ⟨txInit, [], [], []⟩

def DrbStream.received (s : DrbStream) : List (Option TxPacket) :=
  (cut Drb.endsPacket s.read).1.map decodeDrbs

def DrbStream.sent (s : DrbStream) : List (Option TxPacket) :=
  s.placed.map fun (skb, addr) => some (skb.txPacket addr)

/-- The skbs go through the ring in the order in which they were given, and the hardware finds in it the
    packets of those that were placed, of all of them once it has read all DRBs. -/
def DrbStream.InOrder (s : DrbStream) : Prop :=
  (∃ earlier, s.accepted = earlier ++ s.placed.map Prod.fst ++ s.path.txq.txSkbHead) ∧
    s.read.length = s.path.hwRead ∧ s.received <+: s.sent ∧
    (s.path.hwRead = s.path.written → s.received = s.sent)

/-- `laid` are all DRBs that were written since the hardware was initialised. -/
structure DrbStream.Inv (s : DrbStream) (laid : List Drb) : Prop where
  aligned : ∃ credit, Aligned credit s.path
  length : laid.length = s.path.written
  behind : s.path.hwRead ≤ s.path.written
  read : s.read = laid.take s.path.hwRead
  content : s.path.state = .pwron →
    (Ring.slots s.path.txq.drbSizeCnt s.path.hwRead (s.path.written - s.path.hwRead)).map s.path.txq.drbBase =
      laid.drop s.path.hwRead
  whole : (cut Drb.endsPacket laid).2 = []
  packets : (cut Drb.endsPacket laid).1.map decodeDrbs = s.sent
  order : ∃ earlier, s.accepted = earlier ++ s.placed.map Prod.fst ++ s.path.txq.txSkbHead

variable {s t : DrbStream} {laid : List Drb}

theorem DrbStream.Inv.inOrder (inv : s.Inv laid) : s.InOrder := by
  have split := List.take_append_drop s.path.hwRead laid
  have part := @cut_isPrefix Drb Drb.endsPacket (laid.take s.path.hwRead) (laid.drop s.path.hwRead)
  refine ⟨inv.order, ?_, ?_, fun all => ?_⟩
  · rw [inv.read, List.length_take, inv.length]
    exact Nat.min_eq_left inv.behind
  · rw [split] at part
    unfold DrbStream.received
    rw [inv.read, ← inv.packets]
    exact part.map _
  · unfold DrbStream.received
    rw [inv.read, all, ← inv.length, List.take_length]
    exact inv.packets

theorem DrbStream.Inv.size_pos (inv : s.Inv laid) : 0 < s.path.txq.drbSizeCnt := by
  obtain ⟨_, aligned⟩ := inv.aligned
  rw [aligned.size]
  exact ringLen_pos

/-- A step that keeps the counts of the hardware and the DRBs that are laid and not read. -/
theorem DrbStream.Inv.frame {path : TxPath} (inv : s.Inv laid) (aligned : ∃ credit, Aligned credit path)
    (read : path.hwRead = s.path.hwRead) (written : path.written = s.path.written)
    (powered : path.state = .pwron → s.path.state = .pwron)
    (queue : path.txq.txSkbHead = s.path.txq.txSkbHead)
    (drbs : ∀ i ∈ Ring.slots s.path.txq.drbSizeCnt s.path.hwRead (s.path.written - s.path.hwRead),
      path.txq.drbBase i = s.path.txq.drbBase i) : DrbStream.Inv { s with path } laid := by
  have size : path.txq.drbSizeCnt = s.path.txq.drbSizeCnt := by
    obtain ⟨⟨_, before⟩, ⟨_, after⟩⟩ := inv.aligned, aligned
    exact after.size.trans before.size.symm
  refine ⟨aligned, inv.length.trans written.symm, ?_, ?_, fun on => ?_, inv.whole, inv.packets, ?_⟩
  · rw [read, written]
    exact inv.behind
  · dsimp only
    rw [read]
    exact inv.read
  · dsimp only
    rw [read, written, size, ← inv.content (powered on)]
    exact List.map_congr_left drbs
  · obtain ⟨earlier, order⟩ := inv.order
    refine ⟨earlier, order.trans ?_⟩
    dsimp only
    rw [queue]

theorem releaseTxBuffer_drbs (k : Nat) (txq : Txq) (log : TxLog) :
    (releaseTxBuffer k txq log).1.drbBase = txq.drbBase := by
  induction k generalizing txq log with
  | zero => rfl
  | succ k ih =>
    refine (ih _ _).trans ?_
    unfold releaseDrb
    dsimp only
    split
    · split
      · rfl
      · split <;> rfl
    · rfl

theorem updateDrbRdIdx_drbs (newHwRdIdx : Nat) (txq : Txq) :
    (updateDrbRdIdx newHwRdIdx txq).1.drbBase = txq.drbBase ∧
      (updateDrbRdIdx newHwRdIdx txq).1.txSkbHead = txq.txSkbHead ∧
      (updateDrbRdIdx newHwRdIdx txq).1.drbSizeCnt = txq.drbSizeCnt := by
  unfold updateDrbRdIdx
  split
  · exact ⟨rfl, rfl, rfl⟩
  · split <;> exact ⟨rfl, rfl, rfl⟩

theorem DrbStream.Inv.txDone {path : TxPath} (inv : s.Inv laid) (aligned : ∃ credit, Aligned credit path)
    (taken : txDoneStep s.path = some path) : DrbStream.Inv { s with path } laid := by
  unfold txDoneStep at taken
  split at taken
  · rename_i powered
    obtain ⟨drbs, waiting, size⟩ := updateDrbRdIdx_drbs (ulGetRdIdx s.path) s.path.txq
    have pos : 0 < (updateDrbRdIdx (ulGetRdIdx s.path) s.path.txq).1.drbSizeCnt := by
      rw [size]
      exact inv.size_pos
    unfold txRelease at taken
    dsimp only at taken
    obtain ⟨_, _, released⟩ := releaseTxBuffer_released _ _ s.path.log pos
    cases taken
    refine inv.frame aligned rfl rfl (fun _ => powered) ?_ fun i _ => ?_
    · exact released.waiting.trans waiting
    · dsimp only
      rw [releaseTxBuffer_drbs, drbs]
  · cases taken

/-- The hardware reads on: what it meets is what was laid. -/
theorem DrbStream.Inv.hwProgress {path : TxPath} {drbs : Nat} (inv : s.Inv laid)
    (aligned : ∃ credit, Aligned credit path) (taken : txStep s.path (.hwProgress drbs) = some path) :
    (s.after path (.hwProgress drbs)).Inv laid := by
  simp only [txStep] at taken
  split at taken
  · rename_i progress
    cases taken
    obtain ⟨_, aligned'⟩ := aligned
    obtain ⟨_, _, counts⟩ := aligned'.running progress.1
    have announced := counts.readAnnounced
    have written := counts.announcedWritten
    have length := inv.length
    unfold DPMAIF_UL_DRB_SIZE_WORD at announced written
    dsimp only at announced written
    have content := inv.content progress.1
    have shift : s.path.written - s.path.hwRead = drbs + (s.path.written - (s.path.hwRead + drbs)) := by omega
    rw [shift, Ring.slots_add, List.map_append] at content
    have taken : (Ring.slots s.path.txq.drbSizeCnt s.path.hwRead drbs).map s.path.txq.drbBase =
        (laid.drop s.path.hwRead).take drbs := by
      rw [← content, List.take_left' (by rw [List.length_map, Ring.slots_length])]
    have left : (Ring.slots s.path.txq.drbSizeCnt (s.path.hwRead + drbs)
        (s.path.written - (s.path.hwRead + drbs))).map s.path.txq.drbBase =
        laid.drop (s.path.hwRead + drbs) := by
      rw [← List.drop_drop, ← content, List.drop_left' (by rw [List.length_map, Ring.slots_length])]
    refine ⟨⟨_, aligned'⟩, length, ?_, ?_, fun _ => left, inv.whole, inv.packets, inv.order⟩
    · show s.path.hwRead + drbs ≤ s.path.written
      omega
    · show s.read ++ _ = laid.take (s.path.hwRead + drbs)
      rw [taken, inv.read, ← List.take_add]
  · cases taken

/-- A round of the burst leaves the ring alone, or writes the first skb of the queue into the room that the
    burst has read. -/
theorem burstRound_adds (fails : Option Nat) (wait : Bool) (i remain cnt : Nat) (s : TxPath) :
    ((burstRound fails wait i remain cnt s).txq = s.txq ∧
      (burstRound fails wait i remain cnt s).written = s.written) ∨
    ∃ skb rest txq log ret, s.txq.txSkbHead = skb :: rest ∧ skbDrbCnt skb ≤ remain ∧
      addSkbToRing s.state skb fails s.txq s.log = (txq, log, ret) ∧
      (ret < 0 ∧ burstRound fails wait i remain cnt s = { s with txq, log, push := afterBurst wait cnt } ∨
        0 ≤ ret ∧ burstRound fails wait i remain cnt s =
          { s with
            txq := { txq with txSkbHead := rest }
            log
            written := s.written + skbDrbCnt skb
            push := .burst wait (i + 1) (remain - skbDrbCnt skb) (cnt + skbDrbCnt skb) }) := by
  unfold burstRound
  cases queue : s.txq.txSkbHead with
  | nil => exact .inl ⟨rfl, rfl⟩
  | cons skb rest =>
    dsimp only
    by_cases short : remain < skbDrbCnt skb
    · rw [if_pos short]
      exact .inl ⟨rfl, rfl⟩
    · rw [if_neg short]
      rcases added : addSkbToRing s.state skb fails s.txq s.log with ⟨txq, log, ret⟩
      refine .inr ⟨skb, rest, txq, log, ret, rfl, Nat.le_of_not_lt short, added, ?_⟩
      dsimp only
      by_cases failed : ret < 0
      · exact .inl ⟨failed, if_pos failed⟩
      · exact .inr ⟨Int.not_lt.mp failed, if_neg failed⟩

/-- The room of a burst lies outside the DRBs that are laid and not read. -/
theorem DrbStream.Inv.apart {skb : Skb} {wait : Bool} {i remain cnt : Nat} (inv : s.Inv laid)
    (powered : s.path.state = .pwron) (place : s.path.push = .burst wait i remain cnt)
    (fits : skbDrbCnt skb ≤ remain) :
    s.path.txq.drbWrIdx = s.path.written % s.path.txq.drbSizeCnt ∧
      skbDrbCnt skb ≤ s.path.txq.drbSizeCnt ∧
      ∀ j ∈ Ring.slots s.path.txq.drbSizeCnt s.path.hwRead (s.path.written - s.path.hwRead),
        j ∉ Ring.slots s.path.txq.drbSizeCnt s.path.written (skbDrbCnt skb) := by
  obtain ⟨_, aligned⟩ := inv.aligned
  obtain ⟨released, seen, counts⟩ := aligned.running powered
  have room := counts.room
  have ordered := counts.releasedSeen
  have seenRead := counts.seenRead
  have behind := inv.behind
  rw [place] at room
  change _ + remain < _ at room
  have size := aligned.size
  have nodup := Ring.slots_nodup s.path.txq.drbSizeCnt s.path.hwRead
    (show s.path.written - s.path.hwRead + skbDrbCnt skb ≤ s.path.txq.drbSizeCnt by omega)
  rw [Ring.slots_add, Nat.add_sub_cancel' behind] at nodup
  refine ⟨?_, by have := skbDrbCnt_le skb; omega, List.disjoint_of_nodup_append nodup⟩
  rw [size]
  exact counts.write

/-- An skb that is added lies behind what was laid before, as one packet. -/
theorem DrbStream.Inv.add {skb : Skb} {rest : List Skb} {fails : Option Nat} {txq : Txq} {log : TxLog} {ret : Int}
    {wait : Bool} {i remain cnt : Nat} {push : TxPush} (inv : s.Inv laid)
    (place : s.path.push = .burst wait i remain cnt)
    (queue : s.path.txq.txSkbHead = skb :: rest) (fits : skbDrbCnt skb ≤ remain)
    (added : addSkbToRing s.path.state skb fails s.path.txq s.path.log = (txq, log, ret)) (succeeded : 0 ≤ ret)
    (aligned : ∃ credit, Aligned credit { s.path with
      txq := { txq with txSkbHead := rest }, log, written := s.path.written + skbDrbCnt skb, push }) :
    ∃ laid, DrbStream.Inv { s with
      path := { s.path with
        txq := { txq with txSkbHead := rest }, log, written := s.path.written + skbDrbCnt skb, push }
      placed := s.placed ++ [(skb, s.path.log.mapped.length + 1)] } laid := by
  have powered : s.path.state = .pwron := by
    rcases addSkbToRing_cases added with ⟨failed, _⟩ | ⟨_, powered, _⟩
    · omega
    · exact powered
  obtain ⟨at_, within, apart⟩ := inv.apart powered place fits
  have behind := inv.behind
  have size : txq.drbSizeCnt = s.path.txq.drbSizeCnt := by
    rcases addSkbToRing_cases added with ⟨_, same⟩ | ⟨_, _, same⟩ <;> exact same.size
  have outside := addSkbToRing_outside at_ inv.size_pos added
  obtain ⟨word2, drbs⟩ := addSkbToRing_drbs at_ within added succeeded
  obtain ⟨run, last, segment, goes, stops⟩ := skbDrbs_segment skb (s.path.log.mapped.length + 1) word2
  have decoded := decode_skb skb (s.path.log.mapped.length + 1) word2
  rw [segment] at drbs decoded
  have joined := cut_append_segment inv.whole goes stops
  refine ⟨laid ++ (run ++ [last]), aligned, ?_, ?_, ?_, fun _ => ?_, ?_, ?_, ?_⟩
  · have count := congrArg List.length drbs
    rw [List.length_map, Ring.slots_length] at count
    rw [List.length_append, inv.length]
    exact congrArg (s.path.written + ·) count.symm
  · show s.path.hwRead ≤ s.path.written + skbDrbCnt skb
    omega
  · show s.read = (laid ++ _).take s.path.hwRead
    rw [List.take_append_of_le_length (by rw [inv.length]; exact behind)]
    exact inv.read
  · show (Ring.slots txq.drbSizeCnt s.path.hwRead (s.path.written + skbDrbCnt skb - s.path.hwRead)).map
      txq.drbBase = (laid ++ _).drop s.path.hwRead
    rw [List.drop_append_of_le_length (by rw [inv.length]; exact behind), size, Nat.sub_add_comm behind,
      Ring.slots_add, Nat.add_sub_cancel' behind, List.map_append, drbs, ← inv.content powered]
    refine congrArg (· ++ _) (List.map_congr_left fun j member => outside j (apart j member))
  · exact congrArg Prod.snd joined
  · refine (congrArg (fun parts => parts.1.map decodeDrbs) joined).trans ?_
    unfold DrbStream.sent
    rw [List.map_append, List.map_append, inv.packets]
    exact congrArg (_ ++ [·]) decoded
  · obtain ⟨earlier, order⟩ := inv.order
    refine ⟨earlier, ?_⟩
    dsimp only
    rw [order, queue, List.map_append]
    simp

theorem placedBy_none {s t : TxPath} (same : t.written = s.written) : placedBy s t = [] :=
  if_neg (by rw [same]; exact Nat.lt_irrefl _)

theorem placedBy_push (s : TxPath) (push : TxPush) : placedBy s { s with push } = [] := placedBy_none rfl

theorem placedBy_first {s t : TxPath} {skb : Skb} {rest : List Skb} (queue : s.txq.txSkbHead = skb :: rest)
    (more : s.written < t.written) : placedBy s t = [(skb, s.log.mapped.length + 1)] := by
  unfold placedBy
  rw [if_pos more, queue]
  rfl

theorem DrbStream.Inv.round {fails : Option Nat} {wait : Bool} {i remain cnt : Nat} (inv : s.Inv laid)
    (place : s.path.push = .burst wait i remain cnt)
    (aligned : ∃ credit, Aligned credit (burstRound fails wait i remain cnt s.path)) :
    ∃ laid, (s.after (burstRound fails wait i remain cnt s.path) (.pushRound fails)).Inv laid := by
  show ∃ laid, DrbStream.Inv { s with path := burstRound fails wait i remain cnt s.path, placed := _ } laid
  rcases burstRound_adds fails wait i remain cnt s.path with
    ⟨same, written⟩ | ⟨skb, rest, txq, log, ret, queue, fits, added, ⟨failed, goes⟩ | ⟨succeeded, goes⟩⟩
  · have state := burstRound_state fails wait i remain cnt s.path
    have read : (burstRound fails wait i remain cnt s.path).hwRead = s.path.hwRead := by
      rcases burstRound_cases fails wait i remain cnt s.path with
        ends | ends | ⟨_, _, _, _, _, _, ends⟩ | ⟨_, _, _, _, _, _, _, _, _, ends⟩ <;> rw [ends]
    rw [placedBy_none written, List.append_nil]
    refine ⟨laid, inv.frame aligned read written (fun on => state.symm.trans on) (by rw [same]) fun i _ => ?_⟩
    rw [same]
  · rw [goes] at aligned ⊢
    have none_ : placedBy s.path { s.path with txq, log, push := afterBurst wait cnt } = [] := placedBy_none rfl
    rw [none_, List.append_nil]
    rcases addSkbToRing_cases added with ⟨_, control⟩ | ⟨zero, _, _⟩
    · refine ⟨laid, inv.frame aligned rfl rfl id control.waiting fun j member => ?_⟩
      by_cases powered : s.path.state = .pwron
      · obtain ⟨at_, _, apart⟩ := inv.apart powered place fits
        exact addSkbToRing_outside at_ inv.size_pos added j (apart j member)
      · unfold addSkbToRing at added
        rw [if_pos (.inr powered)] at added
        cases added
        rfl
    · omega
  · rw [goes] at aligned ⊢
    have more : s.path.written < s.path.written + skbDrbCnt skb := by
      unfold skbDrbCnt
      omega
    rw [placedBy_first queue more]
    exact inv.add place queue fits added succeeded aligned

theorem drbStep_inv {label : TxLabel} (inv : ∃ laid, s.Inv laid) (allowed : KeepsCounts s.path label)
    (taken : s.step label = some t) : ∃ laid, t.Inv laid := by
  obtain ⟨laid, inv⟩ := inv
  obtain ⟨path, moved, rfl⟩ := Option.map_eq_some_iff.mp taken
  have aligned : ∃ credit, Aligned credit path := by
    obtain ⟨_, before⟩ := inv.aligned
    by_cases stop : label = .stop
    · subst stop
      exact ⟨_, stop_aligned before moved⟩
    · exact ⟨_, txStep_aligned before allowed stop moved⟩
  cases label with
  | start hwReady =>
    simp only [txStep, txStart] at moved
    split at moved
    · cases moved
    cases hwReady with
    | true =>
      cases moved
      obtain ⟨earlier, order⟩ := inv.order
      refine ⟨[], aligned, rfl, le_rfl, rfl, fun _ => rfl, rfl, rfl, earlier ++ s.placed.map Prod.fst, ?_⟩
      show s.accepted = (earlier ++ s.placed.map Prod.fst) ++ [] ++ s.path.txq.txSkbHead
      rw [List.append_nil]
      exact order
    | false =>
      cases moved
      exact ⟨laid, inv.frame aligned rfl rfl id rfl fun _ _ => rfl⟩
  | stop =>
    simp only [txStep, txStop] at moved
    split at moved
    · cases moved
    · cases moved
      exact ⟨laid, inv.frame aligned rfl rfl (fun on => by cases on) rfl fun _ _ => rfl⟩
  | suspend | resume =>
    cases moved
    exact ⟨laid, inv.frame aligned rfl rfl id rfl fun _ _ => rfl⟩
  | send skb =>
    simp only [txStep, txSendSkb, Option.map_eq_some_iff] at moved
    obtain ⟨txq, sent, rfl⟩ := moved
    split at sent
    · cases sent
    · cases sent
      obtain ⟨earlier, order⟩ := inv.order
      refine ⟨laid, aligned, inv.length, inv.behind, inv.read, inv.content, inv.whole, inv.packets, earlier, ?_⟩
      show s.accepted ++ _ = _
      rw [order, List.append_assoc]
      rfl
  | hwProgress drbs => exact ⟨laid, inv.hwProgress aligned moved⟩
  | txDone => exact ⟨laid, inv.txDone aligned moved⟩
  | ringCheck =>
    simp only [txStep] at moved
    split at moved
    · rename_i powered
      cases moved
      obtain ⟨drbs, waiting, _⟩ := updateDrbRdIdx_drbs (ulGetRdIdx s.path) s.path.txq
      exact ⟨laid, inv.frame aligned rfl rfl (fun _ => powered) waiting fun i _ => congrFun drbs i⟩
    · cases moved
  | pushRound fails =>
    cases pushStep_moves moved with
    | enter | full =>
      show ∃ laid, DrbStream.Inv { s with path := _, placed := _ } laid
      rw [placedBy_push, List.append_nil]
      exact ⟨laid, inv.frame aligned rfl rfl id rfl fun _ _ => rfl⟩
    | round place => exact inv.round place aligned
  | pushWake | pushResume | pushSelect | sleepDisabled | pushAnnounce | pushLoop =>
    cases pushStep_moves moved <;> exact ⟨laid, inv.frame aligned rfl rfl id rfl fun _ _ => rfl⟩

/-- As long as `tx_done` finds a DRB to release and no start falls between a burst and its announcement,
    the hardware reads the packets of the skbs that were given, in their order and each once. -/
theorem sent_packets_read (labels : List TxLabel)
    (obeys : Obeys (fun s => KeepsCounts s.path) DrbStream.step drbStreamInit labels) :
    Visits DrbStream.InOrder DrbStream.step drbStreamInit labels :=
  Visits.of_invariant (fun s => ∃ laid, s.Inv laid) (fun _ ⟨_, inv⟩ => inv.inOrder)
    (fun _ _ _ inv allowed taken => drbStep_inv inv allowed taken)
    ⟨[], ⟨_, txInit_aligned⟩, rfl, le_rfl, rfl, nofun, rfl, rfl, [], rfl⟩ obeys

instance (s : TxPath) : (label : TxLabel) → Decidable (KeepsCounts s label)
  | .txDone => inferInstanceAs (Decidable (relCnt s ≠ 0))
  | .start true => inferInstanceAs (Decidable (s.push.held = 0))
  | .start false | .stop | .suspend | .resume | .send _ | .pushWake | .pushResume _ | .pushSelect
  | .pushRound _ | .sleepDisabled _ | .pushAnnounce | .pushLoop | .hwProgress _ | .ringCheck =>
    inferInstanceAs (Decidable True)

theorem sent_packets_read_fragments :
    Visits DrbStream.InOrder DrbStream.step drbStreamInit
      ([.start true, .send fragmentedSkb] ++ burstLabels ++ announceLabels ++ [.hwProgress 4, .txDone]) :=
  sent_packets_read _ (by decide +kernel)

end Runs

end T7xxModel.Dpmaif
