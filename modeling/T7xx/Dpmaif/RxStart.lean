import T7xx.Dpmaif.Bat
import T7xx.Dpmaif.NapiPoll

namespace T7xxModel.Dpmaif

def DPMAIF_PIT_COUNT : Nat := DPMAIF_BAT_COUNT * 2
def DPMAIF_PIT_CNT_THRESHOLD : Nat := 60
def DPMAIF_NOTIFY_RELEASE_COUNT : Nat := 128
def DPMAIF_DL_PIT_SEQ_VALUE : Nat := 251
def DPMAIF_CS_RESULT_PASS : Nat := 0
def NIC_DEV_MAX : Nat := 21

def DES_PT_MSG : Nat := 1
def PKT_BUF_FRAG : Nat := 1

/-- `struct dpmaif_pit`; the last word is `pd.footer` or `msg.params_3`. -/
structure DpmaifPit where
  header : BitVec 32
  dataAddrL : BitVec 32
  dataAddrH : BitVec 32
  footer : BitVec 32
deriving DecidableEq, Repr

namespace DpmaifPit

def dataLen (pit : DpmaifPit) : Nat := (pit.header.extractLsb 31 16).toNat
def bufferId (pit : DpmaifPit) : Nat := (pit.header.extractLsb 15 3).toNat
def bufferType (pit : DpmaifPit) : Nat := (pit.header.extractLsb 2 2).toNat
def cont (pit : DpmaifPit) : Nat := (pit.header.extractLsb 1 1).toNat
def packetType (pit : DpmaifPit) : Nat := (pit.header.extractLsb 0 0).toNat
def hBid (pit : DpmaifPit) : Nat := (pit.footer.extractLsb 10 8).toNat
def pitSeq (pit : DpmaifPit) : Nat := (pit.footer.extractLsb 7 0).toNat

def msgDp (pit : DpmaifPit) : Nat := (pit.header.extractLsb 31 31).toNat
def msgChannelId (pit : DpmaifPit) : Nat := (pit.header.extractLsb 23 16).toNat
def msgChecksum (pit : DpmaifPit) : Nat := (pit.header.extractLsb 3 2).toNat
def msgIp (pit : DpmaifPit) : Nat := (pit.footer.extractLsb 23 23).toNat

def dataBusAddr (pit : DpmaifPit) : BitVec 64 :=
  (pit.dataAddrH.setWidth 64 <<< 32) + pit.dataAddrL.setWidth 64

def normalPitBid (pit : DpmaifPit) : Nat := (pit.hBid <<< 13) + pit.bufferId

def IsMsg (pit : DpmaifPit) : Prop := pit.packetType = DES_PT_MSG
def IsFrag (pit : DpmaifPit) : Prop := pit.bufferType = PKT_BUF_FRAG
def IsLast (pit : DpmaifPit) : Prop := pit.cont = 0

instance (pit : DpmaifPit) : Decidable pit.IsMsg := inferInstanceAs (Decidable (_ = _))
instance (pit : DpmaifPit) : Decidable pit.IsFrag := inferInstanceAs (Decidable (_ = _))
instance (pit : DpmaifPit) : Decidable pit.IsLast := inferInstanceAs (Decidable (_ = _))

end DpmaifPit

inductive RxAccess where
  | pit (idx : Nat)
  | batSkb (idx : Nat)
  | batBitmap (idx : Nat)
  | fragPage (idx : Nat)
  | fragBitmap (idx : Nat)
  | ccmniInst (idx : Nat)
deriving DecidableEq, Repr

def RxAccess.InRange : RxAccess → Prop
  | .pit idx => idx < DPMAIF_PIT_COUNT
  | .batSkb idx => idx < DPMAIF_BAT_COUNT
  | .batBitmap idx => idx < DPMAIF_BAT_COUNT
  | .fragPage idx => idx < DPMAIF_FRG_COUNT
  | .fragBitmap idx => idx < DPMAIF_FRG_COUNT
  | .ccmniInst idx => idx < NIC_DEV_MAX

instance : DecidablePred RxAccess.InRange := fun access => by
  cases access <;> exact Nat.decLt _ _

/-- `struct dpmaif_cur_rx_skb_info`. An skb that was taken is known by its number in the order in
    which its queue took them. -/
structure CurRxSkbInfo where
  msgPitReceived : Bool
  curSkb : Option Nat
  curChnIdx : Nat
  checkSum : Nat
  pitDp : Nat
  pktType : Nat
  errPayload : Bool
deriving DecidableEq, Repr

def CurRxSkbInfo.zero : CurRxSkbInfo := ⟨false, none, 0, 0, 0, 0, false⟩

structure RecvSkb where
  skb : Nat
  netifIdx : Nat
  rxPktType : Nat
  csumUnnecessary : Bool
deriving DecidableEq, Repr

/-- `struct dpmaif_rx_queue`, and what the receive path did: the number of skbs it took, those it
    handed over or freed, whether it used an skb that is not there, and the tables it indexed. -/
structure RxQueue where
  pitSizeCnt : Nat
  pitRdIdx : Nat
  pitWrIdx : Nat
  pitReleaseRdIdx : Nat
  expectPitSeq : Nat
  pitRemainReleaseCnt : Nat
  rxDataInfo : CurRxSkbInfo
  taken : Nat
  received : List RecvSkb
  freed : List Nat
  skbMissing : Bool
  accesses : List RxAccess
deriving DecidableEq, Repr

def rxAlloc : RxQueue where
  pitSizeCnt := DPMAIF_PIT_COUNT
  pitRdIdx := 0
  pitWrIdx := 0
  pitReleaseRdIdx := 0
  expectPitSeq := 0
  pitRemainReleaseCnt := 0
  rxDataInfo := .zero
  taken := 0
  received := []
  freed := []
  skbMissing := false
  accesses := []

/-- What rx_start works on: its queue and the BAT tables that the queues share. -/
structure RxSide where
  rxq : RxQueue
  normal : Bat
  frag : Bat
  queStarted : Bool

def RxSide.setInfo (s : RxSide) (info : CurRxSkbInfo) : RxSide :=
  { s with rxq := { s.rxq with rxDataInfo := info } }

def RxSide.access (s : RxSide) (accesses : List RxAccess) : RxSide :=
  { s with rxq := { s.rxq with accesses := s.rxq.accesses ++ accesses } }

/-- Where the data of a posted skb may go: offsets from its head, modulo the width of `tail`. -/
structure SkbRoom where
  data : BitVec 32
  tailEnd : BitVec 32
deriving DecidableEq, Repr

/-- What one round of the loop in `t7xx_dpmaif_rx_start` meets: the entry, the room of the skb it
    names, what `t7xx_frag_bat_cur_bid_check` finds for its buffer id, and whether the hardware takes a
    release of PIT entries in time. -/
structure RxEntry where
  pit : DpmaifPit
  room : SkbRoom
  fragWord : BitVec 64
  pitAddReady : Bool
deriving DecidableEq, Repr

def dlqAddPitRemainCnt (ready : Bool) : Int := if ready then 0 else -ETIMEDOUT

/-- The check of `t7xx_dpmaif_set_data_to_skb` after `skb_reserve`. -/
def dataFits (bat : Bat) (entry : RxEntry) : Bool :=
  let dataBaseAddr := BitVec.ofNat 64 ((bat.batSkb entry.pit.normalPitBid).getD 0)
  let dataOffset := (entry.pit.dataBusAddr - dataBaseAddr).setWidth 32
  let tail := entry.room.data + dataOffset
  !(entry.room.tailEnd < tail + BitVec.ofNat 32 entry.pit.dataLen)

def parseMsgPit (pit : DpmaifPit) (s : RxSide) : RxSide :=
  s.setInfo { s.rxq.rxDataInfo with
    msgPitReceived := true
    curChnIdx := pit.msgChannelId
    checkSum := pit.msgChecksum
    pitDp := pit.msgDp
    pktType := pit.msgIp }

/-- `t7xx_bat_cur_bid_check`, which looks into the table for a buffer id below its size only. -/
def batCurBidAccesses (count : Nat) (table : Nat → RxAccess) (curBid : Nat) : List RxAccess :=
  if count ≤ curBid then [] else [table curBid]

/-- `sizeof(struct dpmaif_bat_page)` -/
def batPageSize : Nat := 24

/-- The entries in which the eight bytes lie that `t7xx_frag_bat_cur_bid_check` looks at. -/
def fragBatCurBidAccesses (curBid : Nat) : List RxAccess :=
  if DPMAIF_FRG_COUNT ≤ curBid then []
  else [.fragPage (curBid / batPageSize), .fragPage ((curBid + 7) / batPageSize)]

/-- `t7xx_dpmaif_set_data_to_skb` and `t7xx_dpmaif_set_bat_mask` -/
def RxSide.takeSkb (s : RxSide) (curBid : Nat) : RxSide :=
  { s with
    rxq := { s.rxq with
      rxDataInfo := { s.rxq.rxDataInfo with curSkb := some s.rxq.taken }
      taken := s.rxq.taken + 1 }
    normal := takeBatBuf curBid s.normal }

def rxGetPkt (entry : RxEntry) (s : RxSide) : RxSide × Int :=
  let curBid := entry.pit.normalPitBid
  let checked := batCurBidAccesses DPMAIF_BAT_COUNT .batSkb curBid
  if DPMAIF_BAT_COUNT ≤ curBid ∨ s.normal.batSkb curBid = none then (s.access checked, -EINVAL)
  else if dataFits s.normal entry = false then (s.access (checked ++ [.batSkb curBid]), -ENOBUFS)
  else ((s.takeSkb curBid).access (checked ++ [.batSkb curBid, .batBitmap curBid]), 0)

/-- `t7xx_dpmaif_get_frag`; `t7xx_dpmaif_set_frag_to_skb` tests the page of the entry. -/
def rxGetFrag (entry : RxEntry) (s : RxSide) : RxSide × Int :=
  let curBid := entry.pit.normalPitBid
  let checked := fragBatCurBidAccesses curBid
  if fragBatCurBidCheck curBid entry.fragWord = false then (s.access checked, -EINVAL)
  else if s.frag.batSkb curBid = none then (s.access (checked ++ [.fragPage curBid]), -EINVAL)
  else
    let t := { s with frag := takeBatBuf curBid s.frag }
    (t.access (checked ++ [.fragPage curBid, .fragBitmap curBid]), 0)

def rxPayload (entry : RxEntry) (s : RxSide) : RxSide × Int :=
  if ¬ entry.pit.IsFrag then rxGetPkt entry s
  else if s.rxq.rxDataInfo.curSkb = none then (s, -EINVAL)
  else rxGetFrag entry s

def NETIF_MASK : Nat := 0x1f

def RxSide.freeSkb (s : RxSide) (skb : Nat) : RxSide :=
  { s with rxq := { s.rxq with freed := s.rxq.freed ++ [skb] } }

/-- `t7xx_ccmni_recv_skb`, which looks the interface up. -/
def RxSide.recvSkb (s : RxSide) (call : RecvSkb) : RxSide :=
  { s with rxq := { s.rxq with
      received := s.rxq.received ++ [call]
      accesses := s.rxq.accesses ++ [.ccmniInst call.netifIdx] } }

def RxSide.missSkb (s : RxSide) : RxSide := { s with rxq := { s.rxq with skbMissing := true } }

def CurRxSkbInfo.netifId (info : CurRxSkbInfo) : Nat := info.curChnIdx &&& NETIF_MASK

def rxSkb (s : RxSide) : RxSide :=
  let info := s.rxq.rxDataInfo
  let t := s.setInfo { info with curSkb := none }
  match info.curSkb with
  | none => t.missSkb
  | some skb =>
    if info.pitDp ≠ 0 then t.freeSkb skb
    else t.recvSkb { skb, netifIdx := info.netifId, rxPktType := info.pktType,
                     csumUnnecessary := info.checkSum = DPMAIF_CS_RESULT_PASS }

def rxPacketEnd (s : RxSide) : RxSide :=
  if s.rxq.rxDataInfo.errPayload = false then (rxSkb s).setInfo .zero
  else match s.rxq.rxDataInfo.curSkb with
    | none => s.setInfo .zero
    | some skb => (s.freeSkb skb).setInfo .zero

structure RxLocals where
  pitCnt : Nat
  budget : Nat
  curPit : Nat
  rxCnt : Nat
  recvSkbCnt : Nat
  ret : Int
deriving DecidableEq, Repr

def rxMark (ret : Int) (s : RxSide) : RxSide :=
  if ret < 0 then s.setInfo { s.rxq.rxDataInfo with errPayload := true } else s

def rxPdEntry (entry : RxEntry) (l : RxLocals) (s : RxSide) : RxSide × RxLocals :=
  let (s, ret) := rxPayload entry s
  if entry.pit.IsLast then (rxPacketEnd (rxMark ret s), { l with ret, recvSkbCnt := l.recvSkbCnt + 1 })
  else (rxMark ret s, { l with ret })

def rxProcess (entry : RxEntry) (l : RxLocals) (s : RxSide) : RxSide × RxLocals :=
  if entry.pit.IsMsg then (parseMsgPit entry.pit s, l) else rxPdEntry entry l s

def releasePitEntry (relEntryNum : Nat) (pitAddReady : Bool) (s : RxSide) : RxSide × Int :=
  if s.queStarted = false then (s, 0)
  else if s.rxq.pitSizeCnt ≤ relEntryNum then (s, -EINVAL)
  else
    let newRelIdx := s.rxq.pitReleaseRdIdx + relEntryNum
    let newRelIdx :=
      if s.rxq.pitWrIdx < s.rxq.pitReleaseRdIdx ∧ s.rxq.pitSizeCnt ≤ newRelIdx then
        newRelIdx - s.rxq.pitSizeCnt
      else newRelIdx
    let ret := dlqAddPitRemainCnt pitAddReady
    if ret ≠ 0 then (s, ret)
    else ({ s with rxq := { s.rxq with pitReleaseRdIdx := newRelIdx } }, 0)

/-- `t7xx_dpmaifq_rx_notify_hw` with `t7xx_dpmaif_pit_release_and_add`. -/
def rxNotifyHw (pitAddReady : Bool) (s : RxSide) : RxSide × Int :=
  if s.rxq.pitRemainReleaseCnt < DPMAIF_PIT_CNT_THRESHOLD then (s, 0)
  else
    let (s, ret) := releasePitEntry s.rxq.pitRemainReleaseCnt pitAddReady s
    if ret ≠ 0 then (s, ret)
    else ({ s with rxq := { s.rxq with pitRemainReleaseCnt := 0 } }, 0)

/-- How a round of the loop ends: `left` leaves the loop and `returned` the function. -/
inductive RxRound where
  | next (l : RxLocals)
  | left (l : RxLocals)
  | returned (result : Int)
deriving DecidableEq, Repr

def rxAdvance (l : RxLocals) (s : RxSide) : RxSide × RxLocals :=
  let curPit := ringBufGetNextWrIdx s.rxq.pitSizeCnt l.curPit
  ({ s with rxq := { s.rxq with
      pitRdIdx := curPit, pitRemainReleaseCnt := s.rxq.pitRemainReleaseCnt + 1 } },
    { l with curPit })

def rxRoundEnd (pitAddReady : Bool) (l : RxLocals) (s : RxSide) : RxSide × RxRound :=
  if 0 < l.rxCnt ∧ l.rxCnt % DPMAIF_NOTIFY_RELEASE_COUNT = 0 then
    let (s, ret) := rxNotifyHw pitAddReady s
    if ret < 0 then (s, .left { l with ret }) else (s, .next { l with ret, rxCnt := l.rxCnt + 1 })
  else (s, .next { l with rxCnt := l.rxCnt + 1 })

def NotifyRound (rxCnt : Nat) : Prop := 0 < rxCnt ∧ rxCnt % DPMAIF_NOTIFY_RELEASE_COUNT = 0

instance (rxCnt : Nat) : Decidable (NotifyRound rxCnt) := inferInstanceAs (Decidable (_ ∧ _))

def checkPitSeq (pit : DpmaifPit) (s : RxSide) : RxSide × Int :=
  if pit.pitSeq ≠ s.rxq.expectPitSeq then (s, -EFAULT)
  else
    let expectPitSeq := s.rxq.expectPitSeq + 1
    ({ s with rxq := { s.rxq with
      expectPitSeq := if DPMAIF_DL_PIT_SEQ_VALUE ≤ expectPitSeq then 0 else expectPitSeq } }, 0)

/-- One round of the loop of `t7xx_dpmaif_rx_start`. A failed sequence check returns at once, with
    `once_more` set. -/
def rxStartRound (entry : RxEntry) (l : RxLocals) (s : RxSide) : RxSide × RxRound :=
  if l.pitCnt ≤ l.rxCnt then (s, .left l)
  else if s.rxq.rxDataInfo.msgPitReceived = false ∧ l.budget ≤ l.recvSkbCnt then (s, .left l)
  else
    let (s, seq) := checkPitSeq entry.pit (s.access [.pit l.curPit])
    if seq ≠ 0 then (s, .returned l.recvSkbCnt)
    else
      let (s, l) := rxProcess entry l s
      let (s, l) := rxAdvance l s
      rxRoundEnd entry.pitAddReady l s

/-- `t7xx_dpmaif_rx_start` after its loop. -/
def rxStartTail (pitAddReady : Bool) (l : RxLocals) (s : RxSide) : RxSide × Int :=
  if l.ret = 0 then
    let (s, ret) := rxNotifyHw pitAddReady s
    (s, if ret ≠ 0 then ret else l.recvSkbCnt)
  else (s, l.ret)

/-- `t7xx_dpmaifq_poll_pit` and the start of `t7xx_dpmaif_rx_start`. -/
def rxStartBegin (hwWrIdx budget : Nat) (s : RxSide) : RxSide × Option RxLocals :=
  if s.queStarted = false then (s, none)
  else
    let pitCnt := ringBufRdWrCount s.rxq.pitSizeCnt s.rxq.pitRdIdx hwWrIdx .read
    let s := { s with rxq := { s.rxq with pitWrIdx := hwWrIdx } }
    if pitCnt = 0 then (s, none)
    else (s, some { pitCnt, budget, curPit := s.rxq.pitRdIdx, rxCnt := 0, recvSkbCnt := 0, ret := 0 })

/-- `t7xx_dpmaif_stop_rxq` for the queue itself; the tables are cleared with it. -/
def stopRxq (rxq : RxQueue) : RxQueue :=
  { rxq with
    rxDataInfo := .zero
    pitRdIdx := 0
    pitWrIdx := 0
    pitReleaseRdIdx := 0
    expectPitSeq := 0
    pitRemainReleaseCnt := 0 }

section Frames

/-- The skbs of a queue and what it knows of the packet it is receiving are the same. -/
structure SameSkbs (before after : RxQueue) : Prop where
  info : after.rxDataInfo = before.rxDataInfo
  taken : after.taken = before.taken
  received : after.received = before.received
  freed : after.freed = before.freed
  missing : after.skbMissing = before.skbMissing

/-- Only counters of the PIT ring, and indices other than the one read at, have changed. -/
structure Untouched (before after : RxQueue) : Prop extends SameSkbs before after where
  size : after.pitSizeCnt = before.pitSizeCnt
  rdIdx : after.pitRdIdx = before.pitRdIdx
  accesses : after.accesses = before.accesses

theorem SameSkbs.trans {r t u : RxQueue} (first : SameSkbs r t) (second : SameSkbs t u) :
    SameSkbs r u :=
  ⟨second.info.trans first.info, second.taken.trans first.taken,
    second.received.trans first.received, second.freed.trans first.freed,
    second.missing.trans first.missing⟩

theorem Untouched.refl (r : RxQueue) : Untouched r r := ⟨⟨rfl, rfl, rfl, rfl, rfl⟩, rfl, rfl, rfl⟩

theorem Untouched.trans {r t u : RxQueue} (first : Untouched r t) (second : Untouched t u) :
    Untouched r u :=
  ⟨first.toSameSkbs.trans second.toSameSkbs, second.size.trans first.size,
    second.rdIdx.trans first.rdIdx, second.accesses.trans first.accesses⟩

theorem checkPitSeq_untouched (pit : DpmaifPit) (s : RxSide) :
    Untouched s.rxq (checkPitSeq pit s).1.rxq := by
  unfold checkPitSeq
  split
  · exact Untouched.refl _
  · exact ⟨⟨rfl, rfl, rfl, rfl, rfl⟩, rfl, rfl, rfl⟩

theorem checkPitSeq_zero (pit : DpmaifPit) (s : RxSide) :
    (checkPitSeq pit s).2 = 0 ↔ pit.pitSeq = s.rxq.expectPitSeq := by
  unfold checkPitSeq
  split
  · rename_i other
    exact ⟨fun failed => absurd failed (by show -EFAULT ≠ 0; decide), fun same => absurd same other⟩
  · rename_i same
    exact ⟨fun _ => not_not.mp same, fun _ => rfl⟩

theorem access_skbs (s : RxSide) (accesses : List RxAccess) : SameSkbs s.rxq (s.access accesses).rxq :=
  ⟨rfl, rfl, rfl, rfl, rfl⟩

theorem releasePitEntry_untouched (relEntryNum : Nat) (pitAddReady : Bool) (s : RxSide) :
    Untouched s.rxq (releasePitEntry relEntryNum pitAddReady s).1.rxq ∧
      (releasePitEntry relEntryNum pitAddReady s).2 ≤ 0 := by
  have answered : dlqAddPitRemainCnt pitAddReady ≤ 0 := by cases pitAddReady <;> decide
  unfold releasePitEntry
  split
  · exact ⟨Untouched.refl _, le_rfl⟩
  · split
    · refine ⟨Untouched.refl _, ?_⟩
      show -EINVAL ≤ 0
      decide
    · dsimp only
      split
      · exact ⟨Untouched.refl _, answered⟩
      · exact ⟨⟨⟨rfl, rfl, rfl, rfl, rfl⟩, rfl, rfl, rfl⟩, le_rfl⟩

theorem rxNotifyHw_untouched (pitAddReady : Bool) (s : RxSide) :
    Untouched s.rxq (rxNotifyHw pitAddReady s).1.rxq ∧ (rxNotifyHw pitAddReady s).2 ≤ 0 := by
  obtain ⟨released, answered⟩ := releasePitEntry_untouched s.rxq.pitRemainReleaseCnt pitAddReady s
  unfold rxNotifyHw
  split
  · exact ⟨Untouched.refl _, le_rfl⟩
  · dsimp only
    split
    · exact ⟨released, answered⟩
    · exact ⟨released.trans ⟨⟨rfl, rfl, rfl, rfl, rfl⟩, rfl, rfl, rfl⟩, le_rfl⟩

theorem rxAdvance_skbs (l : RxLocals) (s : RxSide) :
    SameSkbs s.rxq (rxAdvance l s).1.rxq := ⟨rfl, rfl, rfl, rfl, rfl⟩

theorem rxStartTail_untouched (pitAddReady : Bool) (l : RxLocals) (s : RxSide) :
    Untouched s.rxq (rxStartTail pitAddReady l s).1.rxq := by
  unfold rxStartTail
  split
  · exact (rxNotifyHw_untouched pitAddReady s).1
  · exact Untouched.refl _

theorem rxStartBegin_untouched (hwWrIdx budget : Nat) (s : RxSide) :
    Untouched s.rxq (rxStartBegin hwWrIdx budget s).1.rxq := by
  unfold rxStartBegin
  split
  · exact Untouched.refl _
  · dsimp only
    split
    · exact ⟨⟨rfl, rfl, rfl, rfl, rfl⟩, rfl, rfl, rfl⟩
    · exact ⟨⟨rfl, rfl, rfl, rfl, rfl⟩, rfl, rfl, rfl⟩

end Frames

section Rounds

def Reaches (entry : RxEntry) (l : RxLocals) (rxq : RxQueue) : Prop :=
  l.rxCnt < l.pitCnt ∧ ¬ (rxq.rxDataInfo.msgPitReceived = false ∧ l.budget ≤ l.recvSkbCnt) ∧
    entry.pit.pitSeq = rxq.expectPitSeq

instance (entry : RxEntry) (l : RxLocals) (rxq : RxQueue) : Decidable (Reaches entry l rxq) :=
  inferInstanceAs (Decidable (_ ∧ _ ∧ _))

def rxChecked (entry : RxEntry) (l : RxLocals) (s : RxSide) : RxSide :=
  (checkPitSeq entry.pit (s.access [.pit l.curPit])).1

theorem rxChecked_untouched (entry : RxEntry) (l : RxLocals) (s : RxSide) :
    Untouched (s.access [.pit l.curPit]).rxq (rxChecked entry l s).rxq :=
  checkPitSeq_untouched entry.pit (s.access [.pit l.curPit])

theorem rxChecked_skbs (entry : RxEntry) (l : RxLocals) (s : RxSide) :
    SameSkbs s.rxq (rxChecked entry l s).rxq :=
  (access_skbs s _).trans (rxChecked_untouched entry l s).toSameSkbs

theorem rxChecked_normal (entry : RxEntry) (l : RxLocals) (s : RxSide) :
    (rxChecked entry l s).normal = s.normal ∧ (rxChecked entry l s).frag = s.frag := by
  unfold rxChecked checkPitSeq
  split
  · exact ⟨rfl, rfl⟩
  · exact ⟨rfl, rfl⟩

theorem rxStartRound_reached {entry : RxEntry} {l : RxLocals} {s : RxSide}
    (reaches : Reaches entry l s.rxq) :
    rxStartRound entry l s =
      rxRoundEnd entry.pitAddReady
        (rxAdvance (rxProcess entry l (rxChecked entry l s)).2 (rxProcess entry l (rxChecked entry l s)).1).2
        (rxAdvance (rxProcess entry l (rxChecked entry l s)).2 (rxProcess entry l (rxChecked entry l s)).1).1 := by
  obtain ⟨more, wanted, sequence⟩ := reaches
  have checked : (checkPitSeq entry.pit (s.access [.pit l.curPit])).2 = 0 :=
    (checkPitSeq_zero entry.pit _).mpr sequence
  unfold rxStartRound
  rw [if_neg (Nat.not_le.mpr more), if_neg wanted]
  show (if (checkPitSeq entry.pit (s.access [.pit l.curPit])).2 ≠ 0 then _ else _) = _
  rw [if_neg (not_not.mpr checked)]
  rfl

theorem rxStartRound_unreached (entry : RxEntry) (l : RxLocals) (s : RxSide)
    (unreached : ¬ Reaches entry l s.rxq) :
    (l.pitCnt ≤ l.rxCnt ∨ s.rxq.rxDataInfo.msgPitReceived = false ∧ l.budget ≤ l.recvSkbCnt) ∧
        rxStartRound entry l s = (s, .left l) ∨
      rxStartRound entry l s = (rxChecked entry l s, .returned l.recvSkbCnt) := by
  unfold rxStartRound
  split
  · rename_i done
    exact Or.inl ⟨Or.inl done, rfl⟩
  · rename_i more
    split
    · rename_i spent
      exact Or.inl ⟨Or.inr spent, rfl⟩
    · rename_i wanted
      have sequence : entry.pit.pitSeq ≠ s.rxq.expectPitSeq :=
        fun same => unreached ⟨Nat.not_le.mp more, wanted, same⟩
      have checked : (checkPitSeq entry.pit (s.access [.pit l.curPit])).2 ≠ 0 :=
        fun passed => sequence ((checkPitSeq_zero entry.pit (s.access [.pit l.curPit])).mp passed)
      right
      show (if (checkPitSeq entry.pit (s.access [.pit l.curPit])).2 ≠ 0 then _ else _) = _
      rw [if_pos checked]
      rfl

theorem rxRoundEnd_cases (pitAddReady : Bool) (l : RxLocals) (s : RxSide) :
    Untouched s.rxq (rxRoundEnd pitAddReady l s).1.rxq ∧
      ((rxRoundEnd pitAddReady l s).2 =
          .next { l with ret := if NotifyRound l.rxCnt then 0 else l.ret, rxCnt := l.rxCnt + 1 } ∨
        ∃ ret < (0 : Int), (rxRoundEnd pitAddReady l s).2 = .left { l with ret }) := by
  obtain ⟨notified, answered⟩ := rxNotifyHw_untouched pitAddReady s
  unfold rxRoundEnd
  by_cases notify : NotifyRound l.rxCnt
  · have now : 0 < l.rxCnt ∧ l.rxCnt % DPMAIF_NOTIFY_RELEASE_COUNT = 0 := notify
    rw [if_pos now, if_pos notify]
    dsimp only
    split
    · rename_i failed
      exact ⟨notified, Or.inr ⟨_, failed, rfl⟩⟩
    · rename_i answer
      have zero : (rxNotifyHw pitAddReady s).2 = 0 := by omega
      rw [zero]
      exact ⟨notified, Or.inl rfl⟩
  · have later : ¬ (0 < l.rxCnt ∧ l.rxCnt % DPMAIF_NOTIFY_RELEASE_COUNT = 0) := notify
    rw [if_neg later, if_neg notify]
    exact ⟨Untouched.refl _, Or.inl rfl⟩

end Rounds

section Payloads

/-- The receive path accepts the payload that an entry names. -/
def PayloadAccepted (entry : RxEntry) (s : RxSide) : Prop :=
  if entry.pit.IsFrag then
    s.rxq.rxDataInfo.curSkb ≠ none ∧ fragBatCurBidCheck entry.pit.normalPitBid entry.fragWord = true ∧
      s.frag.batSkb entry.pit.normalPitBid ≠ none
  else
    entry.pit.normalPitBid < DPMAIF_BAT_COUNT ∧ s.normal.batSkb entry.pit.normalPitBid ≠ none ∧
      dataFits s.normal entry = true

instance (entry : RxEntry) (s : RxSide) : Decidable (PayloadAccepted entry s) := by
  unfold PayloadAccepted
  infer_instance

def PayloadAccesses (before after : RxQueue) : Prop :=
  after.pitSizeCnt = before.pitSizeCnt ∧ after.pitRdIdx = before.pitRdIdx ∧
    ∃ accesses, after.accesses = before.accesses ++ accesses ∧ ∀ access ∈ accesses, access.InRange

theorem batCurBidAccesses_inRange {count curBid : Nat} {table : Nat → RxAccess}
    (sized : ∀ idx < count, (table idx).InRange) :
    ∀ access ∈ batCurBidAccesses count table curBid, access.InRange := by
  intro access member
  unfold batCurBidAccesses at member
  split at member
  · cases member
  · rename_i below
    cases List.mem_singleton.mp member
    exact sized curBid (Nat.not_le.mp below)

theorem fragBatCurBidAccesses_inRange {curBid : Nat} :
    ∀ access ∈ fragBatCurBidAccesses curBid, access.InRange := by
  intro access member
  unfold fragBatCurBidAccesses batPageSize at member
  split at member
  · cases member
  · rename_i below
    unfold DPMAIF_FRG_COUNT at below
    simp only [List.mem_cons, List.not_mem_nil, or_false] at member
    rcases member with rfl | rfl
    · show curBid / 24 < 4814
      omega
    · show (curBid + 7) / 24 < 4814
      omega

theorem fragBatCurBidCheck_iff (curBid : Nat) (word : BitVec 64) :
    fragBatCurBidCheck curBid word = true ↔ curBid < DPMAIF_FRG_COUNT ∧ word ≠ 0 := by
  simp [fragBatCurBidCheck]

theorem checked_append_inRange {checked more : List RxAccess}
    (first : ∀ access ∈ checked, access.InRange) (second : ∀ access ∈ more, access.InRange) :
    ∀ access ∈ checked ++ more, access.InRange := by
  intro access member
  rcases List.mem_append.mp member with early | late
  · exact first access early
  · exact second access late

theorem rxGetPkt_rejected {entry : RxEntry} {s : RxSide} (normal : ¬ entry.pit.IsFrag)
    (rejected : ¬ PayloadAccepted entry s) :
    (rxGetPkt entry s).2 < 0 ∧ SameSkbs s.rxq (rxGetPkt entry s).1.rxq ∧
      PayloadAccesses s.rxq (rxGetPkt entry s).1.rxq := by
  have looked : ∀ access ∈ batCurBidAccesses DPMAIF_BAT_COUNT .batSkb entry.pit.normalPitBid,
      access.InRange := batCurBidAccesses_inRange fun idx below => below
  unfold PayloadAccepted at rejected
  rw [if_neg normal] at rejected
  unfold rxGetPkt
  dsimp only
  split
  · refine ⟨?_, access_skbs s _, rfl, rfl, _, rfl, looked⟩
    show -EINVAL < 0
    decide
  · rename_i posted
    rw [not_or, Nat.not_le] at posted
    split
    · refine ⟨?_, access_skbs s _, rfl, rfl, _, rfl, checked_append_inRange looked ?_⟩
      · show -ENOBUFS < 0
        decide
      · intro access member
        cases List.mem_singleton.mp member
        exact posted.1
    · rename_i fits
      exact absurd ⟨posted.1, posted.2, Bool.eq_true_of_not_eq_false fits⟩ rejected

theorem rxGetPkt_accepted {entry : RxEntry} {s : RxSide} (normal : ¬ entry.pit.IsFrag)
    (accepted : PayloadAccepted entry s) :
    (rxGetPkt entry s).2 = 0 ∧ SameSkbs (s.takeSkb entry.pit.normalPitBid).rxq (rxGetPkt entry s).1.rxq ∧
      PayloadAccesses s.rxq (rxGetPkt entry s).1.rxq := by
  unfold PayloadAccepted at accepted
  rw [if_neg normal] at accepted
  obtain ⟨below, posted, fits⟩ := accepted
  have room : ¬ dataFits s.normal entry = false := by
    rw [fits]
    decide
  unfold rxGetPkt
  dsimp only
  rw [if_neg (not_or.mpr ⟨Nat.not_le.mpr below, posted⟩), if_neg room]
  refine ⟨rfl, access_skbs _ _, rfl, rfl, _, rfl, checked_append_inRange ?_ ?_⟩
  · exact batCurBidAccesses_inRange fun idx small => small
  · intro access member
    simp only [List.mem_cons, List.not_mem_nil, or_false] at member
    rcases member with rfl | rfl
    · exact below
    · exact below

theorem rxGetFrag_spec (entry : RxEntry) (s : RxSide) :
    (rxGetFrag entry s).2 = (if fragBatCurBidCheck entry.pit.normalPitBid entry.fragWord = true ∧
        s.frag.batSkb entry.pit.normalPitBid ≠ none then 0 else -EINVAL) ∧
      SameSkbs s.rxq (rxGetFrag entry s).1.rxq ∧ PayloadAccesses s.rxq (rxGetFrag entry s).1.rxq := by
  have looked : ∀ access ∈ fragBatCurBidAccesses entry.pit.normalPitBid, access.InRange :=
    fragBatCurBidAccesses_inRange
  unfold rxGetFrag
  dsimp only
  split
  · rename_i unfound
    refine ⟨?_, access_skbs s _, rfl, rfl, _, rfl, looked⟩
    rw [if_neg]
    rintro ⟨found, _⟩
    rw [unfound] at found
    cases found
  · rename_i found
    have found := Bool.eq_true_of_not_eq_false found
    have below := ((fragBatCurBidCheck_iff _ _).mp found).1
    split
    · rename_i missing
      refine ⟨?_, access_skbs s _, rfl, rfl, _, rfl, checked_append_inRange looked ?_⟩
      · rw [if_neg fun both => both.2 missing]
      · intro access member
        cases List.mem_singleton.mp member
        exact below
    · rename_i posted
      refine ⟨?_, access_skbs _ _, rfl, rfl, _, rfl, checked_append_inRange looked ?_⟩
      · rw [if_pos ⟨found, posted⟩]
      · intro access member
        simp only [List.mem_cons, List.not_mem_nil, or_false] at member
        rcases member with rfl | rfl
        · exact below
        · exact below

theorem rxPayload_rejected {entry : RxEntry} {s : RxSide} (rejected : ¬ PayloadAccepted entry s) :
    (rxPayload entry s).2 < 0 ∧ SameSkbs s.rxq (rxPayload entry s).1.rxq ∧
      PayloadAccesses s.rxq (rxPayload entry s).1.rxq := by
  have invalid : -EINVAL < 0 := by decide
  unfold rxPayload
  split
  · rename_i normal
    exact rxGetPkt_rejected normal rejected
  · rename_i frag
    split
    · refine ⟨invalid, ⟨rfl, rfl, rfl, rfl, rfl⟩, rfl, rfl, [], (List.append_nil _).symm, ?_⟩
      intro access member
      cases member
    · rename_i current
      obtain ⟨ret, same, accesses⟩ := rxGetFrag_spec entry s
      refine ⟨?_, same, accesses⟩
      rw [ret, if_neg]
      · exact invalid
      · intro posted
        refine rejected ?_
        unfold PayloadAccepted
        rw [if_pos (not_not.mp frag)]
        exact ⟨current, posted⟩

theorem rxPayload_frag {entry : RxEntry} {s : RxSide} (frag : entry.pit.IsFrag)
    (accepted : PayloadAccepted entry s) :
    (rxPayload entry s).2 = 0 ∧ SameSkbs s.rxq (rxPayload entry s).1.rxq ∧
      PayloadAccesses s.rxq (rxPayload entry s).1.rxq := by
  unfold PayloadAccepted at accepted
  rw [if_pos frag] at accepted
  obtain ⟨ret, same, accesses⟩ := rxGetFrag_spec entry s
  unfold rxPayload
  rw [if_neg (not_not.mpr frag), if_neg accepted.1]
  refine ⟨?_, same, accesses⟩
  rw [ret, if_pos accepted.2]

theorem rxPayload_normal {entry : RxEntry} (normal : ¬ entry.pit.IsFrag) (s : RxSide) :
    rxPayload entry s = rxGetPkt entry s := by
  unfold rxPayload
  rw [if_pos normal]

theorem rxPayload_accesses (entry : RxEntry) (s : RxSide) :
    PayloadAccesses s.rxq (rxPayload entry s).1.rxq := by
  by_cases accepted : PayloadAccepted entry s
  · by_cases frag : entry.pit.IsFrag
    · exact (rxPayload_frag frag accepted).2.2
    · rw [rxPayload_normal frag]
      exact (rxGetPkt_accepted frag accepted).2.2
  · exact (rxPayload_rejected accepted).2.2

theorem rxPayload_ret (entry : RxEntry) (s : RxSide) :
    (rxPayload entry s).2 ≤ 0 ∧ ((rxPayload entry s).2 < 0 ↔ ¬ PayloadAccepted entry s) := by
  by_cases accepted : PayloadAccepted entry s
  · have zero : (rxPayload entry s).2 = 0 := by
      by_cases frag : entry.pit.IsFrag
      · exact (rxPayload_frag frag accepted).1
      · rw [rxPayload_normal frag]
        exact (rxGetPkt_accepted frag accepted).1
    rw [zero]
    exact ⟨le_rfl, fun negative => absurd negative (by decide), fun rejected => absurd accepted rejected⟩
  · have negative := (rxPayload_rejected accepted).1
    exact ⟨negative.le, fun _ => accepted, fun _ => negative⟩

end Payloads

section Packets

theorem rxPacketEnd_info (s : RxSide) : (rxPacketEnd s).rxq.rxDataInfo = .zero := by
  unfold rxPacketEnd
  split
  · rfl
  · split
    · rfl
    · rfl

/-- `t7xx_dpmaif_rx_skb` is called for this packet, to hand its skb over. -/
def CurRxSkbInfo.HandsOver (info : CurRxSkbInfo) : Prop :=
  info.errPayload = false ∧ info.curSkb ≠ none ∧ info.pitDp = 0

instance (info : CurRxSkbInfo) : Decidable info.HandsOver := inferInstanceAs (Decidable (_ ∧ _ ∧ _))

theorem rxPacketEnd_ring (s : RxSide) :
    (rxPacketEnd s).rxq.pitSizeCnt = s.rxq.pitSizeCnt ∧ (rxPacketEnd s).rxq.pitRdIdx = s.rxq.pitRdIdx := by
  unfold rxPacketEnd rxSkb
  dsimp only
  split
  · split
    · exact ⟨rfl, rfl⟩
    · split
      · exact ⟨rfl, rfl⟩
      · exact ⟨rfl, rfl⟩
  · split
    · exact ⟨rfl, rfl⟩
    · exact ⟨rfl, rfl⟩

theorem rxPacketEnd_accesses (s : RxSide) :
    (rxPacketEnd s).rxq.accesses = s.rxq.accesses ++
      if s.rxq.rxDataInfo.HandsOver then [.ccmniInst s.rxq.rxDataInfo.netifId] else [] := by
  have dropped : ∀ t : RxSide, t.rxq.accesses = s.rxq.accesses → ¬ s.rxq.rxDataInfo.HandsOver →
      t.rxq.accesses = s.rxq.accesses ++
        if s.rxq.rxDataInfo.HandsOver then [.ccmniInst s.rxq.rxDataInfo.netifId] else [] := by
    intro t same kept
    rw [if_neg kept, List.append_nil, same]
  unfold rxPacketEnd
  split
  · rename_i good
    unfold rxSkb
    dsimp only
    split
    · rename_i missing
      exact dropped _ rfl fun handed => handed.2.1 missing
    · rename_i skb current
      split
      · rename_i refused
        exact dropped _ rfl fun handed => refused handed.2.2
      · rename_i wanted
        have present : s.rxq.rxDataInfo.curSkb ≠ none := by
          rw [current]
          exact Option.some_ne_none skb
        have handed : s.rxq.rxDataInfo.HandsOver := ⟨good, present, not_not.mp wanted⟩
        rw [if_pos handed]
        rfl
  · rename_i bad
    split
    · exact dropped _ rfl fun handed => bad handed.1
    · exact dropped _ rfl fun handed => bad handed.1

theorem rxMark_ring (ret : Int) (s : RxSide) :
    (rxMark ret s).rxq.pitSizeCnt = s.rxq.pitSizeCnt ∧ (rxMark ret s).rxq.pitRdIdx = s.rxq.pitRdIdx ∧
      (rxMark ret s).rxq.accesses = s.rxq.accesses := by
  unfold rxMark
  split
  · exact ⟨rfl, rfl, rfl⟩
  · exact ⟨rfl, rfl, rfl⟩

/-- Where a `DES_PT_PD` entry leads: its payload is taken and marked, and the packet may end. -/
theorem rxPdEntry_cases (entry : RxEntry) (l : RxLocals) (s : RxSide) :
    let marked := rxMark (rxPayload entry s).2 (rxPayload entry s).1
    let ret := (rxPayload entry s).2
    entry.pit.IsLast ∧
        rxPdEntry entry l s = (rxPacketEnd marked, { l with ret, recvSkbCnt := l.recvSkbCnt + 1 }) ∨
      ¬ entry.pit.IsLast ∧ rxPdEntry entry l s = (marked, { l with ret }) := by
  dsimp only
  by_cases last : entry.pit.IsLast
  · exact Or.inl ⟨last, if_pos last⟩
  · exact Or.inr ⟨last, if_neg last⟩

theorem rxProcess_locals (entry : RxEntry) (l : RxLocals) (s : RxSide) :
    ∃ ret, (l.ret ≤ 0 → ret ≤ (0 : Int)) ∧
      ((rxProcess entry l s).2 = { l with ret } ∨
        (rxProcess entry l s).2 = { l with ret, recvSkbCnt := l.recvSkbCnt + 1 } ∧
          (rxProcess entry l s).1.rxq.rxDataInfo.msgPitReceived = false) := by
  unfold rxProcess
  split
  · exact ⟨l.ret, id, Or.inl rfl⟩
  · have negative := (rxPayload_ret entry s).1
    rcases rxPdEntry_cases entry l s with ⟨_, ended⟩ | ⟨_, going⟩
    · rw [ended]
      exact ⟨_, fun _ => negative, Or.inr ⟨rfl, by rw [rxPacketEnd_info]; rfl⟩⟩
    · rw [going]
      exact ⟨_, fun _ => negative, Or.inl rfl⟩

theorem rxProcess_ret (entry : RxEntry) (l : RxLocals) (s : RxSide) (negative : l.ret ≤ 0) :
    (rxProcess entry l s).2.ret ≤ 0 := by
  obtain ⟨ret, bound, kept | ⟨counted, _⟩⟩ := rxProcess_locals entry l s
  · rw [kept]
    exact bound negative
  · rw [counted]
    exact bound negative

theorem rxProcess_ring (entry : RxEntry) (l : RxLocals) (s : RxSide) :
    (rxProcess entry l s).1.rxq.pitSizeCnt = s.rxq.pitSizeCnt ∧
      (rxProcess entry l s).1.rxq.pitRdIdx = s.rxq.pitRdIdx := by
  unfold rxProcess
  split
  · exact ⟨rfl, rfl⟩
  · obtain ⟨size, rdIdx, _⟩ := rxPayload_accesses entry s
    obtain ⟨markedSize, markedIdx, _⟩ := rxMark_ring (rxPayload entry s).2 (rxPayload entry s).1
    rcases rxPdEntry_cases entry l s with ⟨_, ended⟩ | ⟨_, going⟩
    · rw [ended]
      obtain ⟨endSize, endIdx⟩ := rxPacketEnd_ring (rxMark (rxPayload entry s).2 (rxPayload entry s).1)
      exact ⟨endSize.trans (markedSize.trans size), endIdx.trans (markedIdx.trans rdIdx)⟩
    · rw [going]
      exact ⟨markedSize.trans size, markedIdx.trans rdIdx⟩

end Packets

end T7xxModel.Dpmaif
