import T7xx.Dpmaif.Bat
import Mathlib.Data.BitVec
import Mathlib.Logic.Function.Basic

namespace T7xxModel.Dpmaif

def DPMAIF_SKB_TX_BURST_CNT : Nat := 5
def DPMAIF_DRB_LIST_LEN : Nat := 6144
def MAX_SKB_FRAGS : Nat := 17
def DES_DTYP_PD : BitVec 32 := 0
def DES_DTYP_MSG : BitVec 32 := 1

structure Skb where
  id : Nat
  len : Nat
  headlen : Nat
  frags : List Nat
  netifIdx : Nat
  fragsBound : frags.length ≤ MAX_SKB_FRAGS
deriving DecidableEq, Repr

structure Drb where
  header : BitVec 32
  word1 : BitVec 32
  word2 : BitVec 32
deriving DecidableEq, Repr

structure DrbSkb where
  skb : Option Nat
  busAddr : Nat
  dataLen : Nat
  index : Nat
  isMsg : Bool
  isFrag : Bool
  isLast : Bool
deriving DecidableEq, Repr

structure Txq where
  queStarted : Bool
  txBudget : Int
  drbSizeCnt : Nat
  drbWrIdx : Nat
  drbRdIdx : Nat
  drbReleaseRdIdx : Nat
  drbBase : Nat → Drb
  drbSkbBase : Nat → DrbSkb
  txSkbHead : List Skb

/-- What the queue has asked of the DMA layer and of the owner of the buffers. A mapping is known by
    its bus address, and no address is given out twice. -/
structure TxLog where
  mapped : List Nat
  unmapped : List Nat
  added : List Nat
  freed : List Nat
deriving DecidableEq, Repr

def drbHdr (dtyp : BitVec 32) (cont : Bool) (dataLen : Nat) : BitVec 32 :=
  dtyp ||| (if cont then 4#32 else 0#32) ||| (BitVec.ofNat 32 dataLen <<< 16)

def Drb.dtyp (drb : Drb) : BitVec 32 := drb.header &&& 3#32

def Drb.cont (drb : Drb) : Bool := drb.header &&& 4#32 ≠ 0#32

def Txq.setDrb (txq : Txq) (curIdx : Nat) (drb : Drb) : Txq :=
  { txq with drbBase := Function.update txq.drbBase curIdx drb }

def Txq.setDrbSkb (txq : Txq) (curIdx : Nat) (drbSkb : DrbSkb) : Txq :=
  { txq with drbSkbBase := Function.update txq.drbSkbBase curIdx drbSkb }

/-- `t7xx_setup_msg_drb` for `count_l` 0, with `DRB_MSG_L4_CHK` set. -/
def setupMsgDrb (curIdx pktLen channelId : Nat) (txq : Txq) : Txq :=
  txq.setDrb curIdx
    { txq.drbBase curIdx with
      header := drbHdr DES_DTYP_MSG true pktLen
      word1 := ((BitVec.ofNat 32 channelId <<< 16) &&& 0xff0000#32) ||| 0x20000000#32 }

def setupPayloadDrb (curIdx dataAddr pktSize : Nat) (lastOne : Bool) (txq : Txq) : Txq :=
  txq.setDrb curIdx
    { header := drbHdr DES_DTYP_PD (!lastOne) pktSize
      word1 := BitVec.ofNat 32 dataAddr
      word2 := BitVec.ofNat 32 (dataAddr / 2 ^ 32) }

def recordDrbSkb (curIdx skb : Nat) (isMsg isFrag isLastOne : Bool) (busAddr dataLen : Nat)
    (txq : Txq) : Txq :=
  txq.setDrbSkb curIdx
    { skb := some skb
      busAddr := busAddr
      dataLen := dataLen
      index := curIdx % 2 ^ 13
      isMsg := isMsg
      isFrag := isFrag
      isLast := isLastOne }

def Skb.pieces (skb : Skb) : List (Nat × Bool) :=
  (skb.headlen, false) :: skb.frags.map fun size => (size, true)

def skbDrbCnt (skb : Skb) : Nat := skb.frags.length + 2

/-- The payload loop of `t7xx_dpmaif_add_skb_to_ring`; the mapping of piece `fails` fails. When it
    does, the number of pieces written before and the last index written are returned. -/
def addPieces (skb : Nat) (fails : Option Nat) :
    List (Nat × Bool) → (wrCnt curIdx : Nat) → Txq → TxLog → Txq × TxLog × Option (Nat × Nat)
  | [], _, _, txq, log => (txq, log, none)
  | (dataLen, isFrag) :: pieces, wrCnt, curIdx, txq, log =>
    if fails = some wrCnt then (txq, log, some (wrCnt, curIdx))
    else
      let busAddr := log.mapped.length + 1
      let curIdx := ringBufGetNextWrIdx txq.drbSizeCnt curIdx
      let txq := setupPayloadDrb curIdx busAddr dataLen pieces.isEmpty txq
      let txq := recordDrbSkb curIdx skb false isFrag pieces.isEmpty busAddr dataLen txq
      addPieces skb fails pieces (wrCnt + 1) curIdx txq
        { log with mapped := log.mapped ++ [busAddr] }

/-- The `unmap_buffers` loop: it steps back before the first unmapping. -/
def unmapBuffers (txq : Txq) : (wrCnt curIdx : Nat) → TxLog → TxLog
  | 0, _, log => log
  | wrCnt + 1, curIdx, log =>
    let curIdx := if curIdx ≠ 0 then curIdx - 1 else txq.drbSizeCnt - 1
    unmapBuffers txq wrCnt curIdx
      { log with unmapped := log.unmapped ++ [(txq.drbSkbBase curIdx).busAddr] }

def reserveDrbs (skb : Skb) (txq : Txq) : Txq :=
  let curIdx := txq.drbWrIdx
  let drbWrIdx := txq.drbWrIdx + skbDrbCnt skb
  let drbWrIdx := if txq.drbSizeCnt ≤ drbWrIdx then drbWrIdx - txq.drbSizeCnt else drbWrIdx
  recordDrbSkb curIdx skb.id true false false 0 0
    (setupMsgDrb curIdx skb.len skb.netifIdx { txq with drbWrIdx })

def addSkbToRing (state : DpmaifState) (skb : Skb) (fails : Option Nat) (txq : Txq) (log : TxLog) :
    Txq × TxLog × Int :=
  if txq.queStarted = false ∨ state ≠ .pwron then (txq, log, -ENODEV)
  else
    match addPieces skb.id fails skb.pieces 0 txq.drbWrIdx (reserveDrbs skb txq) log with
    | (written, log, none) =>
      ({ written with txBudget := written.txBudget - skbDrbCnt skb },
        { log with added := log.added ++ [skb.id] }, 0)
    | (written, log, some (wrCnt, curIdx)) =>
      ({ written with drbWrIdx := txq.drbWrIdx }, unmapBuffers written wrCnt curIdx log, -ENOMEM)

/-- `t7xx_dpmaif_tx_send_skb`: `tx_budget` is compared as an unsigned number. -/
def txSendSkb (skb : Skb) (txq : Txq) : Option Txq :=
  if (txq.txBudget % 2 ^ 32).toNat ≤ skbDrbCnt skb then none
  else some { txq with txSkbHead := txq.txSkbHead ++ [skb] }

def txqDrbWrAvailable (txq : Txq) : Nat :=
  ringBufRdWrCount txq.drbSizeCnt txq.drbReleaseRdIdx txq.drbWrIdx .write

def updateDrbRdIdx (newHwRdIdx : Nat) (txq : Txq) : Txq × Nat :=
  if txq.queStarted = false then (txq, 0)
  else if DPMAIF_DRB_LIST_LEN ≤ newHwRdIdx then (txq, 0)
  else
    let drbCnt := if txq.drbRdIdx ≤ newHwRdIdx then newHwRdIdx - txq.drbRdIdx
      else txq.drbSizeCnt - txq.drbRdIdx + newHwRdIdx
    ({ txq with drbRdIdx := newHwRdIdx }, drbCnt)

def advanceRelease (txq : Txq) : Txq :=
  { txq with
    drbReleaseRdIdx := ringBufGetNextWrIdx txq.drbSizeCnt txq.drbReleaseRdIdx
    txBudget := txq.txBudget + 1 }

def clearDrbSkb (curIdx : Nat) (txq : Txq) : Txq :=
  txq.setDrbSkb curIdx { txq.drbSkbBase curIdx with skb := none }

def TxLog.unmap (busAddr : Nat) (log : TxLog) : TxLog :=
  { log with unmapped := log.unmapped ++ [busAddr] }

def TxLog.free (skb : Nat) (log : TxLog) : TxLog :=
  { log with freed := log.freed ++ [skb] }

/-- One round of the loop in `t7xx_dpmaif_release_tx_buffer`. A last DRB without an skb is retried
    in the next round. -/
def releaseDrb (txq : Txq) (log : TxLog) : Txq × TxLog :=
  let curIdx := txq.drbReleaseRdIdx
  let curDrb := txq.drbBase curIdx
  let curDrbSkb := txq.drbSkbBase curIdx
  if curDrb.dtyp = DES_DTYP_PD then
    let log := if curDrbSkb.isMsg then log else log.unmap curDrbSkb.busAddr
    if curDrb.cont then (advanceRelease (clearDrbSkb curIdx txq), log)
    else match curDrbSkb.skb with
      | none => (txq, log)
      | some skb => (advanceRelease (clearDrbSkb curIdx txq), log.free skb)
  else (advanceRelease txq, log)

/-- `t7xx_dpmaif_release_tx_buffer`; it always returns `release_cnt`. -/
def releaseTxBuffer : (releaseCnt : Nat) → Txq → TxLog → Txq × TxLog
  | 0, txq, log => (txq, log)
  | releaseCnt + 1, txq, log =>
    releaseTxBuffer releaseCnt (releaseDrb txq log).1 (releaseDrb txq log).2

def minNotZero (x y : Nat) : Nat := if x = 0 then y else if y = 0 then x else min x y

def txRelease (budget newHwRdIdx : Nat) (txq : Txq) (log : TxLog) : Txq × TxLog :=
  let txq := (updateDrbRdIdx newHwRdIdx txq).1
  let relCnt := ringBufRdWrCount txq.drbSizeCnt txq.drbReleaseRdIdx txq.drbRdIdx .read
  releaseTxBuffer (minNotZero budget relCnt) txq log

def flushUnmaps (drbSkb : DrbSkb) : Option Nat :=
  if drbSkb.skb = none ∨ drbSkb.isMsg then none else some drbSkb.busAddr

def flushFrees (drbSkb : DrbSkb) : Option Nat :=
  if drbSkb.isLast then drbSkb.skb else none

/-- `t7xx_dpmaif_tx_free_drb_skb`; its round `i` reads and writes entry `i` only. -/
def txFreeDrbSkb (txq : Txq) (log : TxLog) : Txq × TxLog :=
  let entries := List.range txq.drbSizeCnt
  ({ txq with drbSkbBase := fun i =>
      if i < txq.drbSizeCnt ∧ (txq.drbSkbBase i).isLast then { txq.drbSkbBase i with skb := none }
      else txq.drbSkbBase i },
    { log with
      unmapped := log.unmapped ++ entries.filterMap fun i => flushUnmaps (txq.drbSkbBase i)
      freed := log.freed ++ entries.filterMap fun i => flushFrees (txq.drbSkbBase i) })

def txqFlushRel (txq : Txq) (log : TxLog) : Txq × TxLog :=
  let (txq, log) := txFreeDrbSkb { txq with queStarted := false } log
  ({ txq with drbRdIdx := 0, drbWrIdx := 0, drbReleaseRdIdx := 0 }, log)

def txqInit : Txq where
  queStarted := false
  txBudget := DPMAIF_DRB_LIST_LEN
  drbSizeCnt := DPMAIF_DRB_LIST_LEN
  drbWrIdx := 0
  drbRdIdx := 0
  drbReleaseRdIdx := 0
  drbBase := fun _ => ⟨0, 0, 0⟩
  drbSkbBase := fun _ => ⟨none, 0, 0, 0, false, false, false⟩
  txSkbHead := []

section Headers

theorem shifted_and_low (x low : BitVec 32) (small : low.toNat < 2 ^ 16) :
    (x <<< 16) &&& low = 0#32 := by
  apply BitVec.eq_of_getLsbD_eq
  intro i below
  rw [BitVec.getLsbD_and, BitVec.getLsbD_shiftLeft, BitVec.getLsbD_zero]
  by_cases early : i < 16
  · simp [early]
  · have high : low.getLsbD i = false := by
      apply Nat.testBit_lt_two_pow
      exact Nat.lt_of_lt_of_le small (Nat.pow_le_pow_right (by decide) (by omega))
    simp [high]

theorem dtyp_drbHdr (dtyp : BitVec 32) (cont : Bool) (dataLen : Nat) (small : dtyp &&& 3#32 = dtyp) :
    drbHdr dtyp cont dataLen &&& 3#32 = dtyp := by
  have noCont : (if cont then 4#32 else 0#32) &&& 3#32 = 0#32 := by cases cont <;> decide
  unfold drbHdr
  rw [BitVec.and_or_distrib_right, BitVec.and_or_distrib_right, small, noCont,
    shifted_and_low _ _ (by decide), BitVec.or_zero, BitVec.or_zero]

theorem cont_drbHdr (dtyp : BitVec 32) (cont : Bool) (dataLen : Nat) (small : dtyp &&& 4#32 = 0#32) :
    drbHdr dtyp cont dataLen &&& 4#32 = if cont then 4#32 else 0#32 := by
  have kept : (if cont then 4#32 else 0#32) &&& 4#32 = if cont then 4#32 else 0#32 := by
    cases cont <;> decide
  unfold drbHdr
  rw [BitVec.and_or_distrib_right, BitVec.and_or_distrib_right, small, kept,
    shifted_and_low _ _ (by decide), BitVec.or_zero, BitVec.zero_or]

end Headers

/-- Two states of a queue that differ in the contents of the ring only. -/
structure SameControl (t u : Txq) : Prop where
  started : u.queStarted = t.queStarted
  budget : u.txBudget = t.txBudget
  size : u.drbSizeCnt = t.drbSizeCnt
  write : u.drbWrIdx = t.drbWrIdx
  read : u.drbRdIdx = t.drbRdIdx
  release : u.drbReleaseRdIdx = t.drbReleaseRdIdx
  waiting : u.txSkbHead = t.txSkbHead

theorem SameControl.refl (txq : Txq) : SameControl txq txq := ⟨rfl, rfl, rfl, rfl, rfl, rfl, rfl⟩

theorem SameControl.trans {t u v : Txq} (first : SameControl t u) (second : SameControl u v) :
    SameControl t v :=
  ⟨second.started.trans first.started, second.budget.trans first.budget,
    second.size.trans first.size, second.write.trans first.write, second.read.trans first.read,
    second.release.trans first.release, second.waiting.trans first.waiting⟩

theorem addPieces_control (skb : Nat) (fails : Option Nat) (pieces : List (Nat × Bool))
    (wrCnt curIdx : Nat) (txq : Txq) (log : TxLog) :
    SameControl txq (addPieces skb fails pieces wrCnt curIdx txq log).1 := by
  induction pieces generalizing wrCnt curIdx txq log with
  | nil => exact SameControl.refl txq
  | cons piece pieces ih =>
    obtain ⟨dataLen, isFrag⟩ := piece
    unfold addPieces
    split
    · exact SameControl.refl txq
    · apply SameControl.trans _ (ih _ _ _ _)
      exact ⟨rfl, rfl, rfl, rfl, rfl, rfl, rfl⟩

theorem reserveDrbs_control (skb : Skb) (txq : Txq) :
    SameControl { txq with drbWrIdx := (reserveDrbs skb txq).drbWrIdx } (reserveDrbs skb txq) :=
  ⟨rfl, rfl, rfl, rfl, rfl, rfl, rfl⟩

theorem reserveDrbs_write {skb : Skb} {txq : Txq} {a : Nat} (at_ : txq.drbWrIdx = a % txq.drbSizeCnt)
    (fits : skbDrbCnt skb ≤ txq.drbSizeCnt) (pos : 0 < txq.drbSizeCnt) :
    (reserveDrbs skb txq).drbWrIdx = (a + skbDrbCnt skb) % txq.drbSizeCnt := by
  change (if txq.drbSizeCnt ≤ txq.drbWrIdx + skbDrbCnt skb then _ else _) = _
  rw [at_]
  exact Ring.advance_mod a fits pos

theorem addSkbToRing_cases {state : DpmaifState} {skb : Skb} {fails : Option Nat} {txq u : Txq}
    {log after : TxLog} {ret : Int} (added : addSkbToRing state skb fails txq log = (u, after, ret)) :
    (ret < 0 ∧ SameControl txq u) ∨
    (ret = 0 ∧ state = .pwron ∧
      SameControl { txq with
        drbWrIdx := (reserveDrbs skb txq).drbWrIdx
        txBudget := txq.txBudget - skbDrbCnt skb } u) := by
  unfold addSkbToRing at added
  split at added
  · cases added
    exact Or.inl ⟨by decide, SameControl.refl txq⟩
  · rename_i active
    have frame := (reserveDrbs_control skb txq).trans
      (addPieces_control skb.id fails skb.pieces 0 txq.drbWrIdx (reserveDrbs skb txq) log)
    split at added
    all_goals
      rename_i written
      rw [written] at frame
      cases added
    · right
      refine ⟨rfl, by simp_all, ?_⟩
      exact ⟨frame.started, by rw [frame.budget], frame.size, frame.write, frame.read,
        frame.release, frame.waiting⟩
    · left
      exact ⟨by decide, frame.started, frame.budget, frame.size, rfl, frame.read, frame.release,
        frame.waiting⟩

structure Released (k : Nat) (t u : Txq) : Prop where
  started : u.queStarted = t.queStarted
  budget : u.txBudget = t.txBudget + k
  size : u.drbSizeCnt = t.drbSizeCnt
  write : u.drbWrIdx = t.drbWrIdx
  read : u.drbRdIdx = t.drbRdIdx
  release : ∀ a, t.drbReleaseRdIdx = a % t.drbSizeCnt → u.drbReleaseRdIdx = (a + k) % t.drbSizeCnt
  waiting : u.txSkbHead = t.txSkbHead

theorem released_zero (txq : Txq) : Released 0 txq txq :=
  ⟨rfl, by simp, rfl, rfl, rfl, fun _ at_ => at_, rfl⟩

theorem released_advance {t u : Txq} (same : SameControl t u) (pos : 0 < t.drbSizeCnt) :
    Released 1 t (advanceRelease u) := by
  refine ⟨same.started, ?_, same.size, same.write, same.read, fun a at_ => ?_, same.waiting⟩
  · change u.txBudget + 1 = t.txBudget + 1
    rw [same.budget]
  · change ringBufGetNextWrIdx u.drbSizeCnt u.drbReleaseRdIdx = _
    rw [same.size, same.release, at_, ringBufGetNextWrIdx_eq, Ring.next_mod a pos]

theorem clearDrbSkb_control (curIdx : Nat) (txq : Txq) : SameControl txq (clearDrbSkb curIdx txq) :=
  ⟨rfl, rfl, rfl, rfl, rfl, rfl, rfl⟩

theorem Released.trans {j k : Nat} {t u v : Txq} (first : Released j t u) (second : Released k u v) :
    Released (j + k) t v := by
  refine ⟨second.started.trans first.started, ?_, second.size.trans first.size,
    second.write.trans first.write, second.read.trans first.read, fun a at_ => ?_,
    second.waiting.trans first.waiting⟩
  · rw [second.budget, first.budget]
    omega
  · have moved := second.release (a + j)
    rw [first.size] at moved
    rw [moved (first.release a at_), Nat.add_assoc]

theorem releaseDrb_released (txq : Txq) (log : TxLog) (pos : 0 < txq.drbSizeCnt) :
    ∃ k ≤ 1, Released k txq (releaseDrb txq log).1 := by
  unfold releaseDrb
  dsimp only
  split
  · split
    · exact ⟨1, le_rfl, released_advance (clearDrbSkb_control _ txq) pos⟩
    · split
      · exact ⟨0, Nat.zero_le 1, released_zero txq⟩
      · exact ⟨1, le_rfl, released_advance (clearDrbSkb_control _ txq) pos⟩
  · exact ⟨1, le_rfl, released_advance (SameControl.refl txq) pos⟩

theorem releaseTxBuffer_released (releaseCnt : Nat) (txq : Txq) (log : TxLog)
    (pos : 0 < txq.drbSizeCnt) :
    ∃ k ≤ releaseCnt, Released k txq (releaseTxBuffer releaseCnt txq log).1 := by
  induction releaseCnt generalizing txq log with
  | zero => exact ⟨0, le_rfl, released_zero txq⟩
  | succ releaseCnt ih =>
    obtain ⟨j, one, first⟩ := releaseDrb_released txq log pos
    have still : 0 < (releaseDrb txq log).1.drbSizeCnt := by
      rw [first.size]
      exact pos
    obtain ⟨k, rest, second⟩ := ih (releaseDrb txq log).1 (releaseDrb txq log).2 still
    exact ⟨j + k, by omega, first.trans second⟩

end T7xxModel.Dpmaif
