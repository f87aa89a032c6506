import T7xx.Dpmaif.TxEntries

namespace T7xxModel.Dpmaif

def Drb.dataLen (drb : Drb) : Nat := (drb.header >>> 16).toNat

def Drb.dataAddr (drb : Drb) : BitVec 64 := drb.word2 ++ drb.word1

def Drb.channelId (drb : Drb) : Nat := ((drb.word1 >>> 16) &&& 0xff#32).toNat

/-- The payload loop of `t7xx_dpmaif_add_skb_to_ring` where every mapping succeeds; piece `wrCnt` is
    mapped at `busAddr wrCnt`. -/
def layPieces (skb : Nat) (busAddr : Nat → BitVec 64) :
    List (Nat × Bool) → (wrCnt curIdx : Nat) → Txq → Txq
  | [], _, _, txq => txq
  | (dataLen, isFrag) :: pieces, wrCnt, curIdx, txq =>
    let curIdx := ringBufGetNextWrIdx txq.drbSizeCnt curIdx
    layPieces skb busAddr pieces (wrCnt + 1) curIdx
      (writePiece skb curIdx (busAddr wrCnt).toNat dataLen isFrag pieces.isEmpty txq)

/-- `t7xx_dpmaif_add_skb_to_ring` where every mapping succeeds. -/
def addSkbMapped (state : DpmaifState) (skb : Skb) (busAddr : Nat → BitVec 64) (txq : Txq) :
    Txq × Int :=
  if txq.queStarted = false ∨ state ≠ .pwron then (txq, -ENODEV)
  else
    let written := layPieces skb.id busAddr skb.pieces 0 txq.drbWrIdx (reserveDrbs skb txq)
    ({ written with txBudget := written.txBudget - skbDrbCnt skb }, 0)

/-- The entries that the release loop visits from `curIdx` on, in at most `rounds` rounds: what it
    unmaps, up to the DRB without CONT, and the skb it frees there. -/
def walkDrbs (txq : Txq) : (rounds curIdx : Nat) → List (Nat × Nat) × Option Nat
  | 0, _ => ([], none)
  | rounds + 1, curIdx =>
    let curDrb := txq.drbBase curIdx
    let curDrbSkb := txq.drbSkbBase curIdx
    let rest := walkDrbs txq rounds (ringBufGetNextWrIdx txq.drbSizeCnt curIdx)
    if curDrb.dtyp = DES_DTYP_PD then
      let piece := if curDrbSkb.isMsg then [] else [(curDrbSkb.busAddr, curDrbSkb.dataLen)]
      if curDrb.cont then (piece ++ rest.1, rest.2) else (piece, curDrbSkb.skb)
    else rest

def Skb.mappedPieces (skb : Skb) (busAddr : Nat → BitVec 64) : List (Nat × Nat) :=
  skb.pieces.zipIdx.map fun (piece, j) => ((busAddr j).toNat, piece.1)

section Fields

theorem dataLen_drbHdr (dtyp : BitVec 32) (cont : Bool) (dataLen : Nat)
    (small : dtyp.toNat < 2 ^ 16) : (drbHdr dtyp cont dataLen >>> 16).toNat = dataLen % 2 ^ 16 := by
  have flag : (if cont then 4#32 else 0#32).toNat / 2 ^ 16 = 0 := by cases cont <;> rfl
  unfold drbHdr
  rw [BitVec.toNat_ushiftRight, BitVec.toNat_or, BitVec.toNat_or, BitVec.toNat_shiftLeft,
    Nat.shiftRight_or_distrib, Nat.shiftRight_or_distrib]
  simp only [Nat.shiftRight_eq_div_pow, Nat.shiftLeft_eq, BitVec.toNat_ofNat, flag,
    Nat.div_eq_of_lt small, Nat.or_self, Nat.zero_or]
  omega

theorem channelId_msgHdr : ∀ channelId : Fin 256,
    (((((BitVec.ofNat 32 channelId <<< 16) &&& 0xff0000#32) ||| 0x20000000#32) >>> 16) &&&
      0xff#32).toNat = channelId := by
  decide +kernel

theorem dataAddr_words (busAddr : BitVec 64) :
    BitVec.ofNat 32 (busAddr.toNat / 2 ^ 32) ++ BitVec.ofNat 32 busAddr.toNat = busAddr := by
  apply BitVec.eq_of_toNat_eq
  have below := busAddr.isLt
  rw [BitVec.toNat_append, BitVec.toNat_ofNat, BitVec.toNat_ofNat,
    ← Nat.shiftLeft_add_eq_or_of_lt (Nat.mod_lt _ (by decide)), Nat.shiftLeft_eq]
  omega

end Fields

/-- A payload DRB and its record, as they stand for one piece of an skb. -/
structure PayloadAt (skb : Nat) (busAddr : BitVec 64) (dataLen : Nat) (isLastOne : Bool) (drb : Drb)
    (drbSkb : DrbSkb) : Prop where
  dtyp : drb.dtyp = DES_DTYP_PD
  cont : drb.cont = !isLastOne
  length : drb.dataLen = dataLen
  address : drb.dataAddr = busAddr
  isMsg : drbSkb.isMsg = false
  recorded : (drbSkb.busAddr, drbSkb.dataLen) = (busAddr.toNat, dataLen)
  owner : drbSkb.skb = some skb

section Writing

theorem writePiece_payload (skb curIdx dataLen : Nat) (busAddr : BitVec 64) (isFrag isLastOne : Bool)
    (txq : Txq) (short : dataLen < 2 ^ 16) :
    PayloadAt skb busAddr dataLen isLastOne
      ((writePiece skb curIdx busAddr.toNat dataLen isFrag isLastOne txq).drbBase curIdx)
      ((writePiece skb curIdx busAddr.toNat dataLen isFrag isLastOne txq).drbSkbBase curIdx) := by
  have drb : (writePiece skb curIdx busAddr.toNat dataLen isFrag isLastOne txq).drbBase curIdx =
      ⟨drbHdr DES_DTYP_PD (!isLastOne) dataLen, BitVec.ofNat 32 busAddr.toNat,
        BitVec.ofNat 32 (busAddr.toNat / 2 ^ 32)⟩ := by
    simp [writePiece, recordDrbSkb, setupPayloadDrb, Txq.setDrb, Txq.setDrbSkb]
  have drbSkb : (writePiece skb curIdx busAddr.toNat dataLen isFrag isLastOne txq).drbSkbBase curIdx =
      ⟨some skb, busAddr.toNat, dataLen, curIdx % 2 ^ 13, false, isFrag, isLastOne⟩ := by
    simp [writePiece, recordDrbSkb, setupPayloadDrb, Txq.setDrb, Txq.setDrbSkb]
  rw [drb, drbSkb]
  refine ⟨dtyp_pd _ _, ?_, ?_, dataAddr_words busAddr, rfl, rfl, rfl⟩
  · unfold Drb.cont
    rw [cont_drbHdr _ _ _ (by decide)]
    cases isLastOne <;> decide
  · unfold Drb.dataLen
    rw [dataLen_drbHdr _ _ _ (by decide), Nat.mod_eq_of_lt short]

theorem writePiece_control (skb curIdx busAddr dataLen : Nat) (isFrag isLastOne : Bool) (txq : Txq) :
    SameControl txq (writePiece skb curIdx busAddr dataLen isFrag isLastOne txq) :=
  ⟨rfl, rfl, rfl, rfl, rfl, rfl, rfl⟩

theorem layPieces_control (skb : Nat) (busAddr : Nat → BitVec 64) (pieces : List (Nat × Bool))
    (wrCnt curIdx : Nat) (txq : Txq) :
    SameControl txq (layPieces skb busAddr pieces wrCnt curIdx txq) := by
  induction pieces generalizing wrCnt curIdx txq with
  | nil => exact SameControl.refl txq
  | cons piece pieces ih =>
    exact (writePiece_control skb _ _ piece.1 piece.2 pieces.isEmpty txq).trans (ih _ _ _)

theorem layPieces_outside (skb wrCnt a : Nat) (busAddr : Nat → BitVec 64)
    (pieces : List (Nat × Bool)) (txq : Txq) (pos : 0 < txq.drbSizeCnt) :
    ∀ i ∉ Ring.slots txq.drbSizeCnt (a + 1) pieces.length,
      (layPieces skb busAddr pieces wrCnt (a % txq.drbSizeCnt) txq).drbBase i = txq.drbBase i ∧
      (layPieces skb busAddr pieces wrCnt (a % txq.drbSizeCnt) txq).drbSkbBase i =
        txq.drbSkbBase i := by
  induction pieces generalizing wrCnt a txq with
  | nil => exact fun _ _ => ⟨rfl, rfl⟩
  | cons piece pieces ih =>
    intro i absent
    rw [List.length_cons, Ring.slots_succ, List.mem_cons, not_or] at absent
    have next := ringBufGetNextWrIdx_mod a (show 0 < txq.drbSizeCnt by omega)
    have first := (piece_added skb ((a + 1) % txq.drbSizeCnt) (busAddr wrCnt).toNat piece.1 piece.2
      pieces.isEmpty txq).outside i (by rw [List.mem_singleton]; exact absent.1)
    have rest := ih (wrCnt + 1) (a + 1)
      (writePiece skb ((a + 1) % txq.drbSizeCnt) (busAddr wrCnt).toNat piece.1 piece.2
        pieces.isEmpty txq) pos i absent.2
    unfold layPieces
    dsimp only
    rw [next]
    exact ⟨rest.1.trans first.1, rest.2.trans first.2⟩

/-- Piece `j` is written in the `j`-th place after the message. -/
theorem layPieces_payload (skb wrCnt a : Nat) (busAddr : Nat → BitVec 64)
    (pieces : List (Nat × Bool)) (txq : Txq) (fits : pieces.length < txq.drbSizeCnt)
    (short : ∀ piece ∈ pieces, piece.1 < 2 ^ 16) :
    ∀ j piece, pieces[j]? = some piece →
      PayloadAt skb (busAddr (wrCnt + j)) piece.1 (j + 1 = pieces.length)
        ((layPieces skb busAddr pieces wrCnt (a % txq.drbSizeCnt) txq).drbBase
          ((a + 1 + j) % txq.drbSizeCnt))
        ((layPieces skb busAddr pieces wrCnt (a % txq.drbSizeCnt) txq).drbSkbBase
          ((a + 1 + j) % txq.drbSizeCnt)) := by
  induction pieces generalizing wrCnt a txq with
  | nil => simp
  | cons first pieces ih =>
    intro j piece found
    have room : pieces.length + 1 < txq.drbSizeCnt := fits
    have next := ringBufGetNextWrIdx_mod a (show 0 < txq.drbSizeCnt by omega)
    unfold layPieces
    dsimp only
    rw [next]
    cases j with
    | zero =>
      cases found
      have kept := layPieces_outside skb (wrCnt + 1) (a + 1) busAddr pieces
        (writePiece skb ((a + 1) % txq.drbSizeCnt) (busAddr wrCnt).toNat first.1 first.2
          pieces.isEmpty txq) (by change 0 < txq.drbSizeCnt; omega) _
        (slot_apart (show pieces.length < txq.drbSizeCnt by omega) _ List.mem_cons_self)
      change (layPieces skb busAddr pieces (wrCnt + 1) ((a + 1) % txq.drbSizeCnt) _).drbBase _ = _ ∧
        (layPieces skb busAddr pieces (wrCnt + 1) ((a + 1) % txq.drbSizeCnt) _).drbSkbBase _ = _
        at kept
      have written := writePiece_payload skb ((a + 1) % txq.drbSizeCnt) first.1 (busAddr wrCnt)
        first.2 pieces.isEmpty txq (short _ List.mem_cons_self)
      have last : decide (0 + 1 = (first :: pieces).length) = pieces.isEmpty := by
        cases pieces <;> simp
      rw [Nat.add_zero, kept.1, kept.2, last]
      exact written
    | succ j =>
      have later := ih (wrCnt + 1) (a + 1)
        (writePiece skb ((a + 1) % txq.drbSizeCnt) (busAddr wrCnt).toNat first.1 first.2
          pieces.isEmpty txq) (by change pieces.length < txq.drbSizeCnt; omega)
        (fun piece member => short piece (List.mem_cons_of_mem _ member)) j piece found
      have last : decide (j + 1 + 1 = (first :: pieces).length) = decide (j + 1 = pieces.length) := by
        simp
      rw [show a + 1 + (j + 1) = a + 1 + 1 + j by omega, show wrCnt + (j + 1) = wrCnt + 1 + j by omega,
        last]
      exact later

end Writing

section Walking

/-- Walking from the first of the places that hold pieces gives these pieces and the skb. -/
theorem walkDrbs_payload (skb wrCnt a more : Nat) (busAddr : Nat → BitVec 64)
    (pieces : List (Nat × Bool)) (txq : Txq) (some_ : pieces ≠ []) (pos : 0 < txq.drbSizeCnt)
    (laid : ∀ j piece, pieces[j]? = some piece →
      PayloadAt skb (busAddr (wrCnt + j)) piece.1 (j + 1 = pieces.length)
        (txq.drbBase ((a + j) % txq.drbSizeCnt)) (txq.drbSkbBase ((a + j) % txq.drbSizeCnt))) :
    walkDrbs txq (pieces.length + more) (a % txq.drbSizeCnt) =
      ((pieces.zipIdx wrCnt).map fun (piece, j) => ((busAddr j).toNat, piece.1), some skb) := by
  induction pieces generalizing wrCnt a with
  | nil => exact absurd rfl some_
  | cons first pieces ih =>
    have here := laid 0 first rfl
    have next := ringBufGetNextWrIdx_mod a pos
    simp only [Nat.add_zero] at here
    rw [List.length_cons, Nat.add_right_comm, List.zipIdx_cons, List.map_cons]
    unfold walkDrbs
    dsimp only
    rw [if_pos here.dtyp, here.cont, here.isMsg, here.owner, here.recorded, next]
    cases pieces with
    | nil => simp
    | cons second pieces =>
      rw [ih (wrCnt + 1) (a + 1) (by simp)]
      · simp
      · intro j piece found
        have later := laid (j + 1) piece found
        have last : decide (j + 1 + 1 = (first :: second :: pieces).length) =
            decide (j + 1 = (second :: pieces).length) := by
          simp
        rw [last] at later
        rwa [show a + 1 + j = a + (j + 1) by omega, show wrCnt + 1 + j = wrCnt + (j + 1) by omega]

end Walking

structure LaidOut (skb : Skb) (busAddr : Nat → BitVec 64) (txq u : Txq) : Prop where
  msgDtyp : (u.drbBase txq.drbWrIdx).dtyp = DES_DTYP_MSG
  msgCont : (u.drbBase txq.drbWrIdx).cont = true
  msgLen : (u.drbBase txq.drbWrIdx).dataLen = skb.len
  msgChannel : (u.drbBase txq.drbWrIdx).channelId = skb.netifIdx
  payload : ∀ j piece, skb.pieces[j]? = some piece →
    PayloadAt skb.id (busAddr j) piece.1 (j + 1 = skb.pieces.length)
      (u.drbBase ((txq.drbWrIdx + 1 + j) % txq.drbSizeCnt))
      (u.drbSkbBase ((txq.drbWrIdx + 1 + j) % txq.drbSizeCnt))
  write : u.drbWrIdx = (txq.drbWrIdx + skbDrbCnt skb) % txq.drbSizeCnt
  outside : ∀ i ∉ Ring.slots txq.drbSizeCnt txq.drbWrIdx (skbDrbCnt skb),
    u.drbBase i = txq.drbBase i ∧ u.drbSkbBase i = txq.drbSkbBase i
  walk : ∀ more, walkDrbs u (skbDrbCnt skb + more) txq.drbWrIdx =
    (skb.mappedPieces busAddr, some skb.id)

section Layout

variable {skb : Skb} {txq : Txq}

theorem room_of_available (release : txq.drbReleaseRdIdx < txq.drbSizeCnt)
    (write : txq.drbWrIdx < txq.drbSizeCnt) (room : skbDrbCnt skb ≤ txqDrbWrAvailable txq) :
    skbDrbCnt skb < txq.drbSizeCnt := by
  unfold txqDrbWrAvailable at room
  rw [ringBufRdWrCount_write _ _ _ release write] at room
  omega

/-- The message DRB, which no piece of the same skb is written over. -/
theorem message_kept (busAddr : Nat → BitVec 64) (write : txq.drbWrIdx < txq.drbSizeCnt)
    (fits : skbDrbCnt skb < txq.drbSizeCnt) :
    let written := layPieces skb.id busAddr skb.pieces 0 txq.drbWrIdx (reserveDrbs skb txq)
    (written.drbBase txq.drbWrIdx).header = drbHdr DES_DTYP_MSG true skb.len ∧
    (written.drbBase txq.drbWrIdx).word1 =
      (((BitVec.ofNat 32 skb.netifIdx <<< 16) &&& 0xff0000#32) ||| 0x20000000#32) := by
  have here : txq.drbWrIdx % txq.drbSizeCnt = txq.drbWrIdx := Nat.mod_eq_of_lt write
  have count := skbDrbCnt_pieces skb
  have kept := layPieces_outside skb.id 0 txq.drbWrIdx busAddr skb.pieces (reserveDrbs skb txq)
    (Nat.zero_lt_of_lt write) (txq.drbWrIdx % txq.drbSizeCnt)
    (slot_apart (show skb.pieces.length < txq.drbSizeCnt by omega) _ List.mem_cons_self)
  change (layPieces _ _ _ _ (txq.drbWrIdx % txq.drbSizeCnt) _).drbBase _ = _ ∧
    (layPieces _ _ _ _ (txq.drbWrIdx % txq.drbSizeCnt) _).drbSkbBase _ = _ at kept
  rw [here] at kept
  intro written
  rw [kept.1]
  simp [reserveDrbs, recordDrbSkb, setupMsgDrb, Txq.setDrb, Txq.setDrbSkb]

/-- A message and the pieces behind it make a laid out skb. -/
theorem laidOut_of_drbs {u : Txq} (busAddr : Nat → BitVec 64) (pos : 0 < txq.drbSizeCnt)
    (size : u.drbSizeCnt = txq.drbSizeCnt) (here : txq.drbWrIdx % txq.drbSizeCnt = txq.drbWrIdx)
    (whole : skb.len < 2 ^ 16) (channel : skb.netifIdx < 256)
    (header : (u.drbBase txq.drbWrIdx).header = drbHdr DES_DTYP_MSG true skb.len)
    (word1 : (u.drbBase txq.drbWrIdx).word1 =
      (((BitVec.ofNat 32 skb.netifIdx <<< 16) &&& 0xff0000#32) ||| 0x20000000#32))
    (payload : ∀ j piece, skb.pieces[j]? = some piece →
      PayloadAt skb.id (busAddr j) piece.1 (j + 1 = skb.pieces.length)
        (u.drbBase ((txq.drbWrIdx + 1 + j) % txq.drbSizeCnt))
        (u.drbSkbBase ((txq.drbWrIdx + 1 + j) % txq.drbSizeCnt)))
    (write : u.drbWrIdx = (txq.drbWrIdx + skbDrbCnt skb) % txq.drbSizeCnt)
    (outside : ∀ i ∉ Ring.slots txq.drbSizeCnt txq.drbWrIdx (skbDrbCnt skb),
      u.drbBase i = txq.drbBase i ∧ u.drbSkbBase i = txq.drbSkbBase i) :
    LaidOut skb busAddr txq u := by
  have msgDtyp : (u.drbBase txq.drbWrIdx).dtyp = DES_DTYP_MSG := by
    unfold Drb.dtyp
    rw [header, dtyp_msg]
  refine ⟨msgDtyp, ?_, ?_, ?_, payload, write, outside, fun more => ?_⟩
  · unfold Drb.cont
    rw [header, cont_drbHdr _ _ _ (by decide)]
    decide
  · unfold Drb.dataLen
    rw [header, dataLen_drbHdr _ _ _ (by decide), Nat.mod_eq_of_lt whole]
  · unfold Drb.channelId
    rw [word1]
    exact channelId_msgHdr ⟨skb.netifIdx, channel⟩
  · have next := ringBufGetNextWrIdx_mod txq.drbWrIdx pos
    have rest := walkDrbs_payload skb.id 0 (txq.drbWrIdx + 1) more busAddr skb.pieces u
      (by simp [Skb.pieces])
      (by rw [size]; exact pos) (by rw [size]; simpa using payload)
    rw [here] at next
    rw [size] at rest
    rw [skbDrbCnt_pieces, Nat.add_right_comm]
    unfold walkDrbs
    dsimp only
    rw [if_neg (by rw [msgDtyp]; decide), size, next, rest]
    rfl

theorem addSkbMapped_laidOut {state : DpmaifState} (busAddr : Nat → BitVec 64)
    (active : txq.queStarted = true ∧ state = .pwron) (write : txq.drbWrIdx < txq.drbSizeCnt)
    (fits : skbDrbCnt skb < txq.drbSizeCnt) (short : ∀ piece ∈ skb.pieces, piece.1 < 2 ^ 16)
    (whole : skb.len < 2 ^ 16) (channel : skb.netifIdx < 256) :
    LaidOut skb busAddr txq (addSkbMapped state skb busAddr txq).1 := by
  have here : txq.drbWrIdx % txq.drbSizeCnt = txq.drbWrIdx := Nat.mod_eq_of_lt write
  have pos : 0 < txq.drbSizeCnt := Nat.zero_lt_of_lt write
  have count := skbDrbCnt_pieces skb
  obtain ⟨header, word1⟩ := message_kept busAddr write fits
  have control := layPieces_control skb.id busAddr skb.pieces 0 txq.drbWrIdx (reserveDrbs skb txq)
  have outside := layPieces_outside skb.id 0 txq.drbWrIdx busAddr skb.pieces (reserveDrbs skb txq) pos
  have payload := layPieces_payload skb.id 0 txq.drbWrIdx busAddr skb.pieces (reserveDrbs skb txq)
    (by change skb.pieces.length < txq.drbSizeCnt; omega) short
  change ∀ i ∉ Ring.slots txq.drbSizeCnt (txq.drbWrIdx + 1) skb.pieces.length,
    (layPieces _ _ _ _ (txq.drbWrIdx % txq.drbSizeCnt) _).drbBase i = _ ∧
    (layPieces _ _ _ _ (txq.drbWrIdx % txq.drbSizeCnt) _).drbSkbBase i = _ at outside
  change ∀ j piece, skb.pieces[j]? = some piece → PayloadAt _ _ _ _
    ((layPieces _ _ _ _ (txq.drbWrIdx % txq.drbSizeCnt) _).drbBase
      ((txq.drbWrIdx + 1 + j) % txq.drbSizeCnt))
    ((layPieces _ _ _ _ (txq.drbWrIdx % txq.drbSizeCnt) _).drbSkbBase
      ((txq.drbWrIdx + 1 + j) % txq.drbSizeCnt)) at payload
  simp only [Nat.zero_add] at payload
  rw [here] at outside payload
  unfold addSkbMapped
  rw [if_neg (by simp [active.1, active.2])]
  refine laidOut_of_drbs busAddr pos control.size here whole channel header word1 payload ?_ ?_
  · exact control.write.trans (reserveDrbs_write here.symm (Nat.le_of_lt fits) pos)
  · intro i absent
    rw [count, Ring.slots_succ, List.mem_cons, not_or] at absent
    have message := (reserve_added skb txq).outside i (by
      rw [List.mem_singleton, ← here]
      exact absent.1)
    exact ⟨(outside i absent.2).1.trans message.1, (outside i absent.2).2.trans message.2⟩

/-- With addresses given out in order this is what `addSkbToRing` writes. -/
theorem addPieces_layPieces (skb b wrCnt curIdx : Nat) (pieces : List (Nat × Bool)) (txq : Txq)
    (log : TxLog) (at_ : log.mapped.length + 1 = b + wrCnt)
    (small : log.mapped.length + pieces.length < 2 ^ 64) :
    (addPieces skb none pieces wrCnt curIdx txq log).1 =
      layPieces skb (fun j => BitVec.ofNat 64 (b + j)) pieces wrCnt curIdx txq := by
  induction pieces generalizing wrCnt curIdx txq log with
  | nil => rfl
  | cons piece pieces ih =>
    obtain ⟨dataLen, isFrag⟩ := piece
    simp only [List.length_cons] at small
    have address : (BitVec.ofNat 64 (b + wrCnt)).toNat = log.mapped.length + 1 := by
      rw [BitVec.toNat_ofNat, ← at_]
      omega
    unfold addPieces layPieces
    rw [if_neg (by simp)]
    dsimp only
    rw [ih (wrCnt + 1) _ _ { log with mapped := log.mapped ++ [log.mapped.length + 1] }
      (by simp; omega) (by simp; omega), address]
    rfl

theorem addSkbToRing_addSkbMapped (state : DpmaifState) (skb : Skb) (txq : Txq) (log : TxLog)
    (small : log.mapped.length + skbDrbCnt skb < 2 ^ 64) :
    (addSkbToRing state skb none txq log).1 =
      (addSkbMapped state skb (fun j => BitVec.ofNat 64 (log.mapped.length + 1 + j)) txq).1 := by
  have laid := addPieces_layPieces skb.id (log.mapped.length + 1) 0 txq.drbWrIdx skb.pieces
    (reserveDrbs skb txq) log rfl (by rw [skbDrbCnt_pieces] at small; omega)
  have whole := addPieces_none skb.id 0 txq.drbWrIdx skb.pieces (reserveDrbs skb txq) log
  unfold addSkbToRing addSkbMapped
  split
  · rfl
  · dsimp only
    rw [← laid]
    split
    · rename_i written _ result
      rw [result]
    · rename_i broken
      rw [broken] at whole
      cases whole

end Layout

/-- Every skb shorter than 64 KiB that fits is laid out in the ring piece by piece. -/
theorem skb_laid_out (state : DpmaifState) (skb : Skb) (busAddr : Nat → BitVec 64) (txq : Txq)
    (active : txq.queStarted = true ∧ state = .pwron)
    (release : txq.drbReleaseRdIdx < txq.drbSizeCnt) (write : txq.drbWrIdx < txq.drbSizeCnt)
    (room : skb.frags.length + 2 ≤ txqDrbWrAvailable txq)
    (short : ∀ piece ∈ skb.pieces, piece.1 < 2 ^ 16) (channel : skb.netifIdx < 256)
    (whole : skb.len < 2 ^ 16) :
    (addSkbMapped state skb busAddr txq).2 = 0 ∧
      LaidOut skb busAddr txq (addSkbMapped state skb busAddr txq).1 := by
  constructor
  · unfold addSkbMapped
    rw [if_neg (by simp [active.1, active.2])]
  · exact addSkbMapped_laidOut busAddr active write (room_of_available release write room) short whole
      channel

def nearlyFullTxq : Txq :=
  { txqInit with queStarted := true, drbWrIdx := 6142, drbReleaseRdIdx := 5, drbRdIdx := 7 }

theorem skb_laid_out_wraps :
    (addSkbMapped .pwron ⟨0, 300, 100, [120, 80], 3, by decide⟩ (fun j => BitVec.ofNat 64 (4096 * j))
      nearlyFullTxq).2 = 0 ∧
    LaidOut ⟨0, 300, 100, [120, 80], 3, by decide⟩ (fun j => BitVec.ofNat 64 (4096 * j))
      nearlyFullTxq
      (addSkbMapped .pwron ⟨0, 300, 100, [120, 80], 3, by decide⟩
        (fun j => BitVec.ofNat 64 (4096 * j)) nearlyFullTxq).1 :=
  skb_laid_out _ _ _ _ ⟨rfl, rfl⟩ (by decide) (by decide) (by decide) (by decide) (by decide)
    (by decide)

/-- The length field of the message has 16 bits: two pieces of 35000 bytes are announced as 4464. -/
theorem long_skb_truncated :
    ¬ ∀ state skb busAddr txq, txq.queStarted = true ∧ state = .pwron →
      txq.drbReleaseRdIdx < txq.drbSizeCnt → txq.drbWrIdx < txq.drbSizeCnt →
      skb.frags.length + 2 ≤ txqDrbWrAvailable txq → (∀ piece ∈ skb.pieces, piece.1 < 2 ^ 16) →
      skb.netifIdx < 256 → LaidOut skb busAddr txq (addSkbMapped state skb busAddr txq).1 := by
  intro always
  have laid := always .pwron ⟨0, 70000, 35000, [35000], 3, by decide⟩ (fun _ => 4096#64)
    nearlyFullTxq ⟨rfl, rfl⟩ (by decide) (by decide) (by decide) (by decide) (by decide)
  exact absurd laid.msgLen (by decide)

end T7xxModel.Dpmaif
