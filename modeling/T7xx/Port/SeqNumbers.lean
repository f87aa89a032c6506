import T7xx.Cldma.TxCursors
import T7xx.Port.Handles
import Mathlib.Data.List.Chain

namespace T7xxModel.Port

open Cldma Fsm Transition

def CCCI_H_AST_BIT : BitVec 32 := 0x80000000
def CCCI_H_SEQ_FLD : BitVec 32 := 0x7fff0000

structure CcciHeader where
  packetHeader : BitVec 32
  packetLen : BitVec 32
  status : BitVec 32
  exMsg : BitVec 32
deriving DecidableEq, Repr

/-- `FIELD_GET(CCCI_H_SEQ_FLD, status)`. -/
def CcciHeader.seqNum (header : CcciHeader) : BitVec 15 := header.status.extractLsb' 16 15

def CcciHeader.assertBit (header : CcciHeader) : Bool := header.status &&& CCCI_H_AST_BIT ≠ 0

structure PortTxConf where
  txCh : BitVec 16
  txqIndex : Nat
  txqExpIndex : Nat
deriving DecidableEq, Repr

/-- What `t7xx_port_send_ccci_skb` is called with. -/
structure PortMsg where
  skb : SkBuff
  pktHeader : BitVec 32
  exMsg : BitVec 32
deriving DecidableEq, Repr

/-- The next action of a `t7xx_port_send_ccci_skb` call; `read` is the counter that its header was
    filled with. The increment of `seq_nums[MTK_TX]` is a load and a store. -/
inductive PortSendPc (length : Nat) where
  | idle
  | fillHeader (msg : PortMsg)
  | queueNo (skb : SkBuff) (header : CcciHeader) (read : BitVec 16)
  | sendSkb (skb : SkBuff) (header : CcciHeader) (read : BitVec 16) (qno : Nat) (pc : SendPc length)
  | loadSeq
  | storeSeq (loaded : BitVec 16)
deriving DecidableEq, Repr

/-- A thread that sends on the port. `given` is what its call has placed in the ring. -/
structure PortSender (length : Nat) where
  pc : PortSendPc length
  given : List (Given length)
  answers : SendAnswers

/-- A port, its senders and the CLDMA controller that they share with the rest of the driver. `placed`
    are the headers of the messages that were placed in the ring since the numbers were reset. -/
structure PortTxRun (senders length : Nat) where
  ctrl : CldmaCtrl length
  usage : Int
  sleepDisable : Int
  disposed : List Disposed
  seqNum : BitVec 16
  sender : Fin senders → PortSender length
  placed : List CcciHeader

/-- `others` are the steps of the device, of power management and of the other threads. -/
inductive PortTxLabel (senders length : Nat) where
  | enter (k : Fin senders) (msg : PortMsg)
  | fillHeader (k : Fin senders)
  | queueNo (k : Fin senders) (mdState : MdState)
  | call (k : Fin senders) (label : SendLabel length)
  | sendRet (k : Fin senders)
  | loadSeq (k : Fin senders)
  | storeSeq (k : Fin senders)
  | proxyReset
  | others (label : SendLabel length)
deriving DecidableEq, Repr

section Headers

def ccciStatus (conf : PortTxConf) (seqNum : BitVec 16) : BitVec 32 :=
  conf.txCh.setWidth 32 ||| (seqNum.setWidth 32 <<< 16 &&& CCCI_H_SEQ_FLD) ||| CCCI_H_AST_BIT

/-- `skb_push` of the header. -/
def pushCcciHeader (skb : SkBuff) : SkBuff :=
  { addr := skb.addr - ccciHeaderSize, len := skb.len + ccciHeaderSize }

def ccciHeader (conf : PortTxConf) (seqNum : BitVec 16) (msg : PortMsg) : CcciHeader where
  packetHeader := msg.pktHeader
  packetLen := BitVec.ofNat 32 (pushCcciHeader msg.skb).len
  status := ccciStatus conf seqNum
  exMsg := msg.exMsg

/-- Whether `t7xx_port_next_rx_seq_num` warns, with `seq_nums[MTK_RX]` given. -/
def rxOutOfOrder (rxSeqNum : BitVec 16) (header : CcciHeader) : Bool :=
  header.assertBit && decide (rxSeqNum ≠ INVALID_SEQ_NUM ∧ header.seqNum.setWidth 16 ≠ rxSeqNum)

/-- A receiver of the messages, which keeps what `t7xx_port_next_rx_seq_num` returns. -/
def rxInOrder : BitVec 16 → List CcciHeader → Bool
  | _, [] => true
  | rxSeqNum, header :: rest =>
    !rxOutOfOrder rxSeqNum header && rxInOrder (portNextRxSeqNum header.status) rest

end Headers

section Steps

variable {senders length : Nat}

def PortSender.holdsRing (sender : PortSender length) (q : Nat) : Bool :=
  match sender.pc with
  | .sendSkb _ _ _ qno pc => qno == q && pc.holdsRing
  | _ => false

def PortTxRun.ringHeld (s : PortTxRun senders length) (q : Nat) : Prop :=
  ∃ k, (s.sender k).holdsRing q = true

instance (s : PortTxRun senders length) (q : Nat) : Decidable (s.ringHeld q) :=
  inferInstanceAs (Decidable (∃ k, (s.sender k).holdsRing q = true))

def PortTxRun.setPc (s : PortTxRun senders length) (k : Fin senders) (pc : PortSendPc length) :
    PortTxRun senders length :=
  { s with sender := Function.update s.sender k { s.sender k with pc := pc } }

def PortTxRun.setQueue (s : PortTxRun senders length) (q : Nat) (queue : CldmaQueue length) :
    PortTxRun senders length :=
  { s with ctrl := s.ctrl.setTxq q queue }

def idleSender : PortSender length := ⟨.idle, [], ⟨0, false, none, false, false, false⟩⟩

def PortTxRun.leave (s : PortTxRun senders length) (k : Fin senders) : PortTxRun senders length :=
  { s with sender := Function.update s.sender k idleSender }

def fillHeaderStep (conf : PortTxConf) (k : Fin senders) (s : PortTxRun senders length) :
    Option (PortTxRun senders length) :=
  match (s.sender k).pc with
  | .fillHeader msg =>
    some (s.setPc k (.queueNo (pushCcciHeader msg.skb) (ccciHeader conf s.seqNum msg) s.seqNum))
  | _ => none

/-- `t7xx_port_get_queue_no`. -/
def PortTxConf.queueNo (conf : PortTxConf) (mdState : MdState) : Nat :=
  if mdState = .exception then conf.txqExpIndex else conf.txqIndex

def queueNoStep (conf : PortTxConf) (k : Fin senders) (mdState : MdState)
    (s : PortTxRun senders length) : Option (PortTxRun senders length) :=
  match (s.sender k).pc with
  | .queueNo skb header read =>
    some (s.setPc k (.sendSkb skb header read (conf.queueNo mdState) .pmGet))
  | _ => none

def PortTxRun.sendRun (s : PortTxRun senders length) (k : Fin senders) (pc : SendPc length) :
    SendRun length where
  ctrl := s.ctrl
  pc := pc
  usage := s.usage
  sleepDisable := s.sleepDisable
  given := (s.sender k).given
  disposed := s.disposed
  answers := (s.sender k).answers

/-- The header of a message that the next action of the call places in the ring. -/
def placing (header : CcciHeader) : SendPc length → List CcciHeader
  | .storeSkb .. => [header]
  | _ => []

def sendRetStep (k : Fin senders) (s : PortTxRun senders length) :
    Option (PortTxRun senders length) :=
  match (s.sender k).pc with
  | .sendSkb _ _ _ _ (.done ret) => some (if ret ≠ 0 then s.leave k else s.setPc k .loadSeq)
  | _ => none

def loadSeqStep (k : Fin senders) (s : PortTxRun senders length) :
    Option (PortTxRun senders length) :=
  match (s.sender k).pc with
  | .loadSeq => some (s.setPc k (.storeSeq s.seqNum))
  | _ => none

def storeSeqStep (k : Fin senders) (s : PortTxRun senders length) :
    Option (PortTxRun senders length) :=
  match (s.sender k).pc with
  | .storeSeq loaded => some { s.leave k with seqNum := loaded + 1 }
  | _ => none

variable [NeZero length]

/-- The ring lock of a queue is taken by one sender at a time. -/
def portCallStep (k : Fin senders) (label : SendLabel length) (s : PortTxRun senders length) :
    Option (PortTxRun senders length) :=
  match (s.sender k).pc with
  | .sendSkb skb header read qno pc =>
    if label = .takeRing ∧ s.ringHeld qno then none
    else
      (callStep qno skb (s.sendRun k pc) pc label).map fun call =>
        { s with
          ctrl := call.ctrl
          usage := call.usage
          sleepDisable := call.sleepDisable
          disposed := call.disposed
          sender := Function.update s.sender k
            ⟨.sendSkb skb header read qno call.pc, call.given, call.answers⟩
          placed := s.placed ++ placing header pc }
  | _ => none

def portOthersStep (s : PortTxRun senders length) :
    SendLabel length → Option (PortTxRun senders length)
  | .stopAllQs => some { s with ctrl := stopAllQs s.ctrl }
  | .suspend => some { s with ctrl := suspend s.ctrl }
  | .resume => some { s with ctrl := resume s.ctrl }
  | .powerOff => some { s with ctrl := { s.ctrl with ulStartAddr := fun _ => 0 } }
  | .hwDone q i => some (s.setQueue q (completeGpd (s.ctrl.txq q) i))
  | .txCollect q =>
    if s.ringHeld q then none
    else
      (gpdTxCollect (s.ctrl.txq q)).map fun (queue, disposed) =>
        { s.setQueue q queue with disposed := s.disposed ++ [disposed] }
  | .clearTxq q =>
    if s.ringHeld q then none
    else
      let (queue, disposed) := clearTxq (s.ctrl.txq q)
      some { s.setQueue q queue with disposed := s.disposed ++ disposed }
  | .otherSend q other mapping =>
    let queue := s.ctrl.txq q
    if s.ringHeld q ∨ queue.hasRoom = false then none
    else some (s.setQueue q (queue.send other mapping (s.ctrl.isActive q)))
  | _ => none

def portTxStep (conf : PortTxConf) (s : PortTxRun senders length) :
    PortTxLabel senders length → Option (PortTxRun senders length)
  | .enter k msg => if (s.sender k).pc = .idle then some (s.setPc k (.fillHeader msg)) else none
  | .fillHeader k => fillHeaderStep conf k s
  | .queueNo k mdState => queueNoStep conf k mdState s
  | .call k label => portCallStep k label s
  | .sendRet k => sendRetStep k s
  | .loadSeq k => loadSeqStep k s
  | .storeSeq k => storeSeqStep k s
  | .proxyReset => some { s with seqNum := 0, placed := [] }
  | .others label => portOthersStep s label

def portTxInit (ctrl : CldmaCtrl length) (usage sleepDisable : Int) (seqNum : BitVec 16) :
    PortTxRun senders length where
  ctrl := ctrl
  usage := usage
  sleepDisable := sleepDisable
  disposed := []
  seqNum := seqNum
  sender := fun _ => idleSender
  placed := []

end Steps

section Contract

variable {senders length : Nat}

/-- Consecutive numbers modulo 2^15, which a receiver that knows none yet accepts. -/
structure InSequence (placed : List CcciHeader) : Prop where
  consecutive : placed.IsChain fun header next => next.seqNum = header.seqNum + 1
  accepted : rxInOrder INVALID_SEQ_NUM placed = true

/-- A message that was placed is counted, and one that was refused by `dma_map_single` is not. -/
def CountsPlaced (answers : SendAnswers) : Prop :=
  match answers.mapping with
  | none => True
  | some none => answers.slept = false ∨ answers.pm ≠ 0 ∧ answers.waited = false
  | some (some _) => answers.slept = true ∧ (answers.pm = 0 ∨ answers.waited = true)

/-- The counter has the value that the header was filled with, up to the width of the field. -/
def PortSendPc.current (seqNum : BitVec 16) : PortSendPc length → Prop
  | .sendSkb _ _ read _ _ => read.setWidth 15 = seqNum.setWidth 15
  | _ => True

instance (seqNum : BitVec 16) : (pc : PortSendPc length) → Decidable (pc.current seqNum)
  | .sendSkb _ _ read _ _ => inferInstanceAs (Decidable (read.setWidth 15 = seqNum.setWidth 15))
  | .idle | .fillHeader _ | .queueNo _ _ _ | .loadSeq | .storeSeq _ => inferInstanceAs (Decidable True)

instance : (answers : SendAnswers) → Decidable (CountsPlaced answers)
  | ⟨_, _, none, _, _, _⟩ => inferInstanceAs (Decidable True)
  | ⟨pm, waited, some none, _, _, slept⟩ =>
    inferInstanceAs (Decidable (slept = false ∨ pm ≠ 0 ∧ waited = false))
  | ⟨pm, waited, some (some _), _, _, slept⟩ =>
    inferInstanceAs (Decidable (slept = true ∧ (pm = 0 ∨ waited = true)))

/-- A message is placed under the value that the counter has, with no other placed message to count,
    and a call returns 0 exactly if it has placed its message. -/
def NumbersKept (s : PortTxRun senders length) : PortTxLabel senders length → Prop
  | .call k label =>
    label = .storeSkb → (s.sender k).pc.current s.seqNum ∧ ∀ j ≠ k, (s.sender j).given = []
  | .sendRet k => CountsPlaced (s.sender k).answers
  | _ => True

instance (s : PortTxRun senders length) :
    (label : PortTxLabel senders length) → Decidable (NumbersKept s label)
  | .call k label =>
    inferInstanceAs (Decidable (label = .storeSkb →
      (s.sender k).pc.current s.seqNum ∧ ∀ j ≠ k, (s.sender j).given = []))
  | .sendRet k => inferInstanceAs (Decidable (CountsPlaced (s.sender k).answers))
  | .enter _ _ | .fillHeader _ | .queueNo _ _ | .loadSeq _ | .storeSeq _ | .proxyReset | .others _ =>
    inferInstanceAs (Decidable True)

end Contract

section Numbers

variable (conf : PortTxConf) (seqNum : BitVec 16) (msg : PortMsg)

@[simp] theorem ccciHeader_seqNum : (ccciHeader conf seqNum msg).seqNum = seqNum.setWidth 15 := by
  have masks : ∀ i : Fin 15, CCCI_H_SEQ_FLD.getLsbD (16 + i) = true ∧
      CCCI_H_AST_BIT.getLsbD (16 + i) = false := by decide
  unfold CcciHeader.seqNum ccciHeader ccciStatus
  dsimp only
  ext i small
  obtain ⟨field, assert⟩ := masks ⟨i, small⟩
  dsimp only at field assert
  have inside : 16 + i < 32 ∧ ¬ 16 + i < 16 ∧ i < 32 := by omega
  simp only [BitVec.getElem_extractLsb', BitVec.getLsbD_or, BitVec.getLsbD_and,
    BitVec.getLsbD_shiftLeft, BitVec.getLsbD_setWidth, field, assert, inside]
  simpa using fun _ => inside.2.2

/-- The 16-bit counter wraps where the field does. -/
theorem setWidth_succ : (seqNum + 1).setWidth 15 = seqNum.setWidth 15 + (1 : BitVec 15) := by
  apply BitVec.eq_of_toNat_eq
  simp only [BitVec.toNat_setWidth, BitVec.toNat_add]
  simp

theorem portNextRxSeqNum_eq (header : CcciHeader) :
    portNextRxSeqNum header.status = (header.seqNum + 1).setWidth 16 := by
  unfold portNextRxSeqNum CcciHeader.seqNum
  dsimp only
  generalize header.status.extractLsb' 16 15 = n
  have small := n.isLt
  have mask := Nat.and_two_pow_sub_one_eq_mod (n.toNat + 1) 15
  apply BitVec.eq_of_toNat_eq
  simp only [BitVec.toNat_and, BitVec.toNat_setWidth, BitVec.toNat_add, BitVec.toNat_ofNat,
    BitVec.ofNat_eq_ofNat, Nat.reducePow, Nat.reduceMod, Nat.reduceSub] at *
  have number : n.toNat % 65536 = n.toNat := Nat.mod_eq_of_lt (by omega)
  have next : (n.toNat + 1) % 65536 = n.toNat + 1 := Nat.mod_eq_of_lt (by omega)
  rw [number, next, mask]
  omega

theorem rxInOrder_of_chain {placed : List CcciHeader} {rxSeqNum : BitVec 16}
    (chain : placed.IsChain fun header next => next.seqNum = header.seqNum + 1)
    (first : ∀ header ∈ placed.head?,
      rxSeqNum = INVALID_SEQ_NUM ∨ header.seqNum.setWidth 16 = rxSeqNum) :
    rxInOrder rxSeqNum placed = true := by
  induction placed generalizing rxSeqNum with
  | nil => rfl
  | cons header rest ih =>
    have expected := first header rfl
    have quiet : rxOutOfOrder rxSeqNum header = false := by
      unfold rxOutOfOrder
      rcases expected with invalid | same
      · simp [invalid]
      · simp [same]
    have later : rxInOrder (portNextRxSeqNum header.status) rest = true := by
      obtain ⟨follows, chain⟩ := List.isChain_cons.mp chain
      refine ih chain fun next member => .inr ?_
      rw [portNextRxSeqNum_eq, follows next member]
    simp [rxInOrder, quiet, later]

end Numbers

section Calls

variable {length : Nat} {qno : Nat} {skb : SkBuff} {s t : SendRun length}

def Marked (given : List (Given length)) : Option (Option Nat) → Prop
  | none => False
  | some none => given = []
  | some (some _) => given ≠ []

/-- What the answers to a call say of its message and of its result. -/
def CallMarked (given : List (Given length)) (answers : SendAnswers) : SendPc length → Prop
  | .pmGet => given = [] ∧ answers.mapping = none ∧ answers.waited = false
  | .checkActive ret | .takeRing ret | .mapSkb ret _ =>
    given = [] ∧ answers.mapping = none ∧ RetOf answers ret
  | .setHwo ret _ | .storeSkb ret _ _ =>
    given = [] ∧ (∃ addr, answers.mapping = some (some addr)) ∧ RetOf answers ret
  | .sleepWait ret _ => Marked given answers.mapping ∧ RetOf answers ret
  | .startSend ret _ => Marked given answers.mapping ∧ RetOf answers ret ∧ answers.slept = true
  | .sleepWaitFull _ | .resumeQueue _ | .waitRoom _ => given = [] ∧ answers.mapping = none
  | .done ret =>
    (given = [] ∧ answers.mapping = none ∧ ret ≠ 0) ∨
      Marked given answers.mapping ∧ (answers.slept = true ∧ RetOf answers ret ∨
        answers.slept = false ∧ ret = -ETIMEDOUT)

theorem callMarked_zero_iff {given : List (Given length)} {answers : SendAnswers} {ret : Int}
    (marked : CallMarked given answers (.done ret)) (counts : CountsPlaced answers) :
    ret = 0 ↔ given ≠ [] := by
  unfold CountsPlaced at counts
  rcases marked with ⟨none, -, fails⟩ | ⟨marked, how⟩
  · simp [none, fails]
  cases answer : answers.mapping with
  | none =>
    rw [answer] at marked
    exact marked.elim
  | some mapping =>
    rw [answer] at marked counts
    cases mapping with
    | none =>
      refine iff_of_false ?_ fun placed => placed marked
      rcases how with ⟨slept, retOf⟩ | ⟨-, rfl⟩
      · obtain ⟨fails, unwaited⟩ := counts.resolve_left (by simp [slept])
        rw [retOf, unwaited]
        exact fails
      · decide
    | some addr =>
      refine iff_of_true ?_ marked
      obtain ⟨slept, resumed⟩ := counts
      rcases how with ⟨-, retOf⟩ | ⟨unslept, -⟩
      · rw [retOf]
        rcases resumed with resumed | waited
        · simp [resumed]
        · simp [waited]
      · simp [slept] at unslept

variable [NeZero length]

theorem callStep_marked {pc : SendPc length} {label : SendLabel length}
    (marked : CallMarked s.given s.answers pc) (taken : callStep qno skb s pc label = some t) :
    CallMarked t.given t.answers t.pc := by
  unfold callStep at taken
  split at taken
  case h_1 ret =>
    obtain ⟨none, unanswered, unwaited⟩ := marked
    cases taken
    unfold pmGetStep
    split
    · exact .inl ⟨none, unanswered, by decide⟩
    · dsimp only
      split
      · exact .inl ⟨none, unanswered, by omega⟩
      · exact ⟨none, unanswered, by simp [RetOf, unwaited]⟩
  case h_2 ret =>
    cases taken
    unfold checkActiveStep
    split
    · exact marked
    · exact .inl ⟨marked.1, marked.2.1, by decide⟩
  case h_3 ret =>
    cases taken
    unfold takeRingStep
    dsimp only
    split
    · exact marked
    · exact ⟨marked.1, marked.2.1⟩
  case h_4 ret txReq mapping =>
    cases taken
    cases mapping with
    | none => exact ⟨marked.1, marked.2.2⟩
    | some addr => exact ⟨marked.1, ⟨addr, rfl⟩, marked.2.2⟩
  case h_5 ret txReq =>
    cases taken
    exact marked
  case h_6 ret txReq hwo =>
    obtain ⟨-, ⟨addr, mapped⟩, retOf⟩ := marked
    cases taken
    refine ⟨?_, retOf⟩
    simp [storeSkbStep, SendRun.setQueue, mapped, Marked]
  case h_7 ret txReq acquired =>
    cases taken
    cases acquired
    · exact .inr ⟨marked.1, .inr ⟨rfl, rfl⟩⟩
    · exact ⟨marked.1, marked.2, rfl⟩
  case h_8 ret txReq queueStatus =>
    obtain ⟨placed, retOf, slept⟩ := marked
    cases taken
    exact .inr ⟨placed, .inl ⟨slept, retOf⟩⟩
  case h_9 ret acquired =>
    cases taken
    cases acquired
    · exact .inl ⟨marked.1, marked.2, by decide⟩
    · exact marked
  case h_10 ret queueStatus =>
    cases taken
    unfold resumeQueueStep
    dsimp only
    split <;> exact marked
  case h_11 ret interrupted =>
    unfold waitRoomStep at taken
    split at taken
    · cases taken
      exact .inl ⟨marked.1, marked.2, by decide⟩
    · split at taken
      · cases taken
        exact ⟨marked.1, marked.2, rfl⟩
      · cases taken
  case h_12 => cases taken

/-- Only `storeSkb` places a message. -/
theorem callStep_given {pc : SendPc length} {label : SendLabel length}
    (taken : callStep qno skb s pc label = some t) :
    (t.given = s.given ∧ ∀ header, placing header pc = []) ∨
      (label = .storeSkb ∧ t.given ≠ [] ∧ ∃ ret txReq hwo, pc = .storeSkb ret txReq hwo) := by
  unfold callStep at taken
  split at taken
  case h_6 ret txReq hwo =>
    cases taken
    exact .inr ⟨rfl, by simp [storeSkbStep, SendRun.setQueue], ret, txReq, hwo, rfl⟩
  case h_1 ret =>
    cases taken
    refine .inl ⟨?_, fun _ => rfl⟩
    unfold pmGetStep
    split
    · rfl
    · dsimp only
      split <;> rfl
  case h_2 ret =>
    cases taken
    refine .inl ⟨?_, fun _ => rfl⟩
    unfold checkActiveStep
    split <;> rfl
  case h_3 ret =>
    cases taken
    refine .inl ⟨?_, fun _ => rfl⟩
    unfold takeRingStep
    dsimp only
    split <;> rfl
  case h_4 ret txReq mapping =>
    cases taken
    exact .inl ⟨by cases mapping <;> rfl, fun _ => rfl⟩
  case h_5 ret txReq =>
    cases taken
    exact .inl ⟨rfl, fun _ => rfl⟩
  case h_7 ret txReq acquired =>
    cases taken
    exact .inl ⟨by cases acquired <;> rfl, fun _ => rfl⟩
  case h_8 ret txReq queueStatus =>
    cases taken
    exact .inl ⟨rfl, fun _ => rfl⟩
  case h_9 ret acquired =>
    cases taken
    exact .inl ⟨by cases acquired <;> rfl, fun _ => rfl⟩
  case h_10 ret queueStatus =>
    cases taken
    exact .inl ⟨by cases queueStatus <;> rfl, fun _ => rfl⟩
  case h_11 ret interrupted =>
    unfold waitRoomStep at taken
    split at taken
    · cases taken
      exact .inl ⟨rfl, fun _ => rfl⟩
    · split at taken
      · cases taken
        exact .inl ⟨rfl, fun _ => rfl⟩
      · cases taken
  case h_12 => cases taken

end Calls

section Senders

variable {senders length : Nat}

/-- A sender that has placed a message comes to count it, and its header has the number it read. -/
def SenderMarked (sender : PortSender length) : Prop :=
  match sender.pc with
  | .idle | .fillHeader _ =>
    sender.given = [] ∧ sender.answers.mapping = none ∧ sender.answers.waited = false
  | .queueNo _ header read =>
    (sender.given = [] ∧ sender.answers.mapping = none ∧ sender.answers.waited = false) ∧
      header.seqNum = read.setWidth 15
  | .sendSkb _ header read _ pc =>
    CallMarked sender.given sender.answers pc ∧ header.seqNum = read.setWidth 15
  | .loadSeq | .storeSeq _ => sender.given ≠ []

/-- The counter and the messages: a sender that has placed one and not counted it holds the counter
    at its number, and otherwise the counter is at the number that comes next. -/
structure SeqBooks (s : PortTxRun senders length) : Prop where
  marked : ∀ k, SenderMarked (s.sender k)
  single : ∀ j k, (s.sender j).given ≠ [] → (s.sender k).given ≠ [] → j = k
  loaded : ∀ k loaded, (s.sender k).pc = .storeSeq loaded → s.placed ≠ [] → loaded = s.seqNum
  chain : s.placed.IsChain fun header next => next.seqNum = header.seqNum + 1
  counted : (∀ k, (s.sender k).given = []) →
    ∀ last ∈ s.placed.getLast?, last.seqNum + 1 = s.seqNum.setWidth 15
  pending : ∀ k, (s.sender k).given ≠ [] →
    ∀ last ∈ s.placed.getLast?, last.seqNum = s.seqNum.setWidth 15

variable {s t : PortTxRun senders length} {k : Fin senders}

theorem SeqBooks.inSequence (books : SeqBooks s) : InSequence s.placed :=
  ⟨books.chain, rxInOrder_of_chain books.chain fun _ _ => .inl rfl⟩

theorem SeqBooks.same (books : SeqBooks s) (seqNum : t.seqNum = s.seqNum)
    (placed : t.placed = s.placed)
    (given : ∀ j, (t.sender j).given = [] ↔ (s.sender j).given = [])
    (marked : ∀ j, SenderMarked (t.sender j))
    (loaded : ∀ j loaded, (t.sender j).pc = .storeSeq loaded → t.placed ≠ [] → loaded = t.seqNum) :
    SeqBooks t := by
  refine ⟨marked, fun i j holds another => ?_, loaded, ?_, fun none => ?_, fun j holds => ?_⟩
  · exact books.single i j (mt (given i).mpr holds) (mt (given j).mpr another)
  · rw [placed]
    exact books.chain
  · rw [placed, seqNum]
    exact books.counted fun j => (given j).mp (none j)
  · rw [placed, seqNum]
    exact books.pending j (mt (given j).mpr holds)

theorem SeqBooks.moved (books : SeqBooks s) (sender : PortSender length)
    (seqNum : t.seqNum = s.seqNum) (placed : t.placed = s.placed)
    (changed : t.sender = Function.update s.sender k sender) (marked : SenderMarked sender)
    (given : sender.given = [] ↔ (s.sender k).given = [])
    (loaded : ∀ loaded, sender.pc = .storeSeq loaded → loaded = s.seqNum) : SeqBooks t := by
  refine books.same seqNum placed (fun j => ?_) (fun j => ?_) fun j number at_pc nonempty => ?_
  · rw [changed]
    by_cases here : j = k
    · subst here
      rw [Function.update_self]
      exact given
    · rw [Function.update_of_ne here]
  · rw [changed]
    by_cases here : j = k
    · subst here
      rwa [Function.update_self]
    · rw [Function.update_of_ne here]
      exact books.marked j
  · rw [changed] at at_pc
    rw [seqNum]
    by_cases here : j = k
    · subst here
      rw [Function.update_self] at at_pc
      exact loaded number at_pc
    · rw [Function.update_of_ne here] at at_pc
      exact books.loaded j number at_pc (by rwa [← placed])

theorem enter_books (books : SeqBooks s) (idle : (s.sender k).pc = .idle) (msg : PortMsg) :
    SeqBooks (s.setPc k (.fillHeader msg)) := by
  have marked := books.marked k
  unfold SenderMarked at marked
  rw [idle] at marked
  exact books.moved _ rfl rfl rfl marked Iff.rfl nofun

theorem fillHeader_books (books : SeqBooks s) {conf : PortTxConf}
    (taken : fillHeaderStep conf k s = some t) : SeqBooks t := by
  have marked := books.marked k
  unfold SenderMarked at marked
  unfold fillHeaderStep at taken
  split at taken
  · rename_i msg at_pc
    rw [at_pc] at marked
    cases taken
    exact books.moved _ rfl rfl rfl ⟨marked, ccciHeader_seqNum conf s.seqNum msg⟩ Iff.rfl nofun
  · cases taken

theorem queueNo_books (books : SeqBooks s) {conf : PortTxConf} {mdState : MdState}
    (taken : queueNoStep conf k mdState s = some t) : SeqBooks t := by
  have marked := books.marked k
  unfold SenderMarked at marked
  unfold queueNoStep at taken
  split at taken
  · rename_i skb header read at_pc
    rw [at_pc] at marked
    cases taken
    exact books.moved _ rfl rfl rfl marked Iff.rfl nofun
  · cases taken

/-- A placed message carries the number after the last one, and is then the one to count. -/
theorem SeqBooks.place (books : SeqBooks s) (sender : PortSender length) (header : CcciHeader)
    (seqNum : t.seqNum = s.seqNum) (placed : t.placed = s.placed ++ [header])
    (changed : t.sender = Function.update s.sender k sender) (marked : SenderMarked sender)
    (holds : sender.given ≠ []) (free : ∀ j, (s.sender j).given = [])
    (current : header.seqNum = s.seqNum.setWidth 15)
    (sending : ∀ loaded, sender.pc ≠ .storeSeq loaded) : SeqBooks t := by
  have others (j : Fin senders) (apart : j ≠ k) : t.sender j = s.sender j := by
    rw [changed, Function.update_of_ne apart]
  have own : t.sender k = sender := by
    rw [changed, Function.update_self]
  have only (j : Fin senders) (given : (t.sender j).given ≠ []) : j = k := by
    by_contra apart
    rw [others j apart] at given
    exact given (free j)
  refine ⟨fun j => ?_, fun i j holds another => ?_, fun j loaded at_pc _ => ?_, ?_,
    fun none => ?_, fun j _ last member => ?_⟩
  · by_cases here : j = k
    · subst here
      rwa [own]
    · rw [others j here]
      exact books.marked j
  · rw [only i holds, only j another]
  · by_cases here : j = k
    · subst here
      rw [own] at at_pc
      exact absurd at_pc (sending loaded)
    · rw [others j here] at at_pc
      have counting := books.marked j
      unfold SenderMarked at counting
      rw [at_pc] at counting
      exact absurd (free j) counting
  · rw [placed]
    refine List.isChain_append.mpr ⟨books.chain, .singleton header, fun last member next first => ?_⟩
    cases first
    rw [current]
    exact (books.counted free last member).symm
  · have given := none k
    rw [own] at given
    exact absurd given holds
  · rw [placed, List.getLast?_concat] at member
    cases member
    rw [seqNum]
    exact current

theorem portCall_books [NeZero length] (books : SeqBooks s) {label : SendLabel length}
    (allowed : NumbersKept s (.call k label)) (taken : portCallStep k label s = some t) :
    SeqBooks t := by
  have marked := books.marked k
  unfold SenderMarked at marked
  unfold portCallStep at taken
  split at taken
  · rename_i skb header read qno pc at_pc
    rw [at_pc] at marked
    obtain ⟨marked, number⟩ := marked
    split at taken
    · cases taken
    obtain ⟨call, called, rfl⟩ := Option.map_eq_some_iff.mp taken
    have stays : SenderMarked ⟨.sendSkb skb header read qno call.pc, call.given, call.answers⟩ :=
      ⟨callStep_marked marked called, number⟩
    rcases callStep_given called with ⟨kept, nothing⟩ | ⟨rfl, gives, ret, txReq, hwo, rfl⟩
    · refine books.moved _ rfl ?_ rfl stays ?_ fun _ same => by cases same
      · show s.placed ++ placing header _ = s.placed
        rw [nothing, List.append_nil]
      · show call.given = [] ↔ _
        rw [kept]
        rfl
    · obtain ⟨current, alone⟩ := allowed rfl
      rw [at_pc] at current
      have free (j : Fin senders) : (s.sender j).given = [] := by
        by_cases here : j = k
        · subst here
          exact marked.1
        · exact alone j here
      exact books.place _ header rfl rfl rfl stays gives free (number.trans current) fun _ same => by
        cases same
  · cases taken

theorem sendRet_books (books : SeqBooks s) (allowed : CountsPlaced (s.sender k).answers)
    (taken : sendRetStep k s = some t) : SeqBooks t := by
  have marked := books.marked k
  unfold SenderMarked at marked
  unfold sendRetStep at taken
  split at taken
  · rename_i skb header read qno ret at_pc
    rw [at_pc] at marked
    have placed := callMarked_zero_iff marked.1 allowed
    cases taken
    split
    · rename_i fails
      have none : (s.sender k).given = [] := Decidable.not_not.mp (mt placed.mpr fails)
      exact books.moved idleSender rfl rfl rfl ⟨rfl, rfl, rfl⟩ (iff_of_true rfl none) nofun
    · rename_i returns
      have some_given := placed.mp (Decidable.not_not.mp returns)
      exact books.moved _ rfl rfl rfl some_given Iff.rfl nofun
  · cases taken

theorem loadSeq_books (books : SeqBooks s) (taken : loadSeqStep k s = some t) : SeqBooks t := by
  have marked := books.marked k
  unfold SenderMarked at marked
  unfold loadSeqStep at taken
  split at taken
  · rename_i at_pc
    rw [at_pc] at marked
    cases taken
    refine books.moved _ rfl rfl rfl marked Iff.rfl fun loaded same => ?_
    cases same
    rfl
  · cases taken

theorem storeSeq_books (books : SeqBooks s) (taken : storeSeqStep k s = some t) : SeqBooks t := by
  have marked := books.marked k
  unfold SenderMarked at marked
  unfold storeSeqStep at taken
  split at taken
  · rename_i loaded at_pc
    rw [at_pc] at marked
    cases taken
    have only (j : Fin senders) (apart : j ≠ k) : (s.sender j).given = [] := by
      by_contra holds
      exact apart (books.single j k holds marked)
    have none (j : Fin senders) : ((s.leave k).sender j).given = [] := by
      unfold PortTxRun.leave
      by_cases here : j = k
      · subst here
        simp [idleSender]
      · simpa [here] using only j here
    refine ⟨fun j => ?_, fun j _ holds => absurd (none j) holds, fun j number pc nonempty => ?_,
      books.chain, fun _ last member => ?_, fun j holds => absurd (none j) holds⟩
    · by_cases here : j = k
      · subst here
        simp [PortTxRun.leave, SenderMarked, idleSender]
      · simpa [PortTxRun.leave, here] using books.marked j
    · by_cases here : j = k
      · subst here
        simp [PortTxRun.leave, idleSender] at pc
      · have counting := books.marked j
        simp only [PortTxRun.leave, Function.update_of_ne here] at pc
        unfold SenderMarked at counting
        rw [pc] at counting
        exact absurd (only j here) counting
    · have member : last ∈ s.placed.getLast? := member
      have nonempty : s.placed ≠ [] := by
        rintro empty
        rw [empty] at member
        cases member
      rw [books.loaded k loaded at_pc nonempty, setWidth_succ, books.pending k marked last member]
  · cases taken

theorem proxyReset_books (books : SeqBooks s) :
    SeqBooks { s with seqNum := 0, placed := [] } :=
  ⟨books.marked, books.single, fun _ _ _ none => absurd rfl none, .nil, fun _ => nofun,
    fun _ _ => nofun⟩

theorem others_books [NeZero length] (books : SeqBooks s) {label : SendLabel length}
    (taken : portOthersStep s label = some t) : SeqBooks t := by
  obtain ⟨seqNum, sender, placed⟩ : t.seqNum = s.seqNum ∧ t.sender = s.sender ∧
      t.placed = s.placed := by
    cases label with
    | txCollect q =>
      simp only [portOthersStep] at taken
      split at taken
      · cases taken
      · obtain ⟨collected, -, rfl⟩ := Option.map_eq_some_iff.mp taken
        exact ⟨rfl, rfl, rfl⟩
    | clearTxq q =>
      simp only [portOthersStep] at taken
      split at taken
      · cases taken
      · cases taken
        exact ⟨rfl, rfl, rfl⟩
    | otherSend q other mapping =>
      simp only [portOthersStep] at taken
      split at taken
      · cases taken
      · cases taken
        exact ⟨rfl, rfl, rfl⟩
    | stopAllQs | suspend | resume | powerOff | hwDone q i =>
      cases taken
      exact ⟨rfl, rfl, rfl⟩
    | _ => cases taken
  refine books.same seqNum placed (fun j => by rw [sender]) (fun j => ?_) ?_
  · rw [sender]
    exact books.marked j
  · rw [sender, placed, seqNum]
    exact books.loaded

theorem portTxStep_books [NeZero length] (books : SeqBooks s) {conf : PortTxConf}
    {label : PortTxLabel senders length} (allowed : NumbersKept s label)
    (taken : portTxStep conf s label = some t) : SeqBooks t := by
  cases label with
  | enter k msg =>
    simp only [portTxStep] at taken
    split at taken
    · rename_i idle
      cases taken
      exact enter_books books idle msg
    · cases taken
  | fillHeader k => exact fillHeader_books books taken
  | queueNo k mdState => exact queueNo_books books taken
  | call k label => exact portCall_books books allowed taken
  | sendRet k => exact sendRet_books books allowed taken
  | loadSeq k => exact loadSeq_books books taken
  | storeSeq k => exact storeSeq_books books taken
  | proxyReset =>
    cases taken
    exact proxyReset_books books
  | others label => exact others_books books taken

theorem portTxInit_books (ctrl : CldmaCtrl length) (usage sleepDisable : Int)
    (seqNum : BitVec 16) :
    SeqBooks (portTxInit ctrl usage sleepDisable seqNum : PortTxRun senders length) where
  marked := fun _ => ⟨rfl, rfl, rfl⟩
  single := fun _ _ holds => absurd rfl holds
  loaded := fun _ _ _ nonempty => absurd rfl nonempty
  chain := .nil
  counted := fun _ => nofun
  pending := fun _ _ => nofun

end Senders

/-- Under any number of senders, and whatever else goes on, the messages that are placed carry
    consecutive numbers as long as each is placed under the value that the counter has, with no
    other one to count, and each call returns 0 exactly if it has placed its message. -/
theorem placed_in_sequence {senders length : Nat} [NeZero length] (conf : PortTxConf)
    (ctrl : CldmaCtrl length) (usage sleepDisable : Int) (seqNum : BitVec 16)
    (labels : List (PortTxLabel senders length))
    (kept : Obeys NumbersKept (portTxStep conf) (portTxInit ctrl usage sleepDisable seqNum) labels) :
    Visits (fun s => InSequence s.placed) (portTxStep conf)
      (portTxInit ctrl usage sleepDisable seqNum) labels :=
  Visits.of_invariant SeqBooks (fun _ books => books.inSequence)
    (fun _ _ _ books allowed taken => portTxStep_books books allowed taken)
    (portTxInit_books ctrl usage sleepDisable seqNum) kept

section Examples

/-- The handshake work and the receive thread of the control port. -/
def hkWork : Fin 2 := ⟨0, by decide⟩

def rxThread : Fin 2 := ⟨1, by decide⟩

def ctrlPortConf : PortTxConf := ⟨PORT_CH_CONTROL_TX, 0, 0⟩

/-- The steps of a send of 64 bytes up to the wait for the sleep lock. -/
def placeMessage {senders : Nat} (k : Fin senders) (addr : Nat) :
    List (PortTxLabel senders MAX_TX_BUDGET) :=
  [.enter k ⟨⟨addr, 64⟩, 0, 0⟩, .fillHeader k, .queueNo k .ready, .call k (.pmGet 0),
    .call k .checkActive, .call k .takeRing, .call k (.mapSkb (some addr)), .call k .setHwo,
    .call k .storeSkb]

def countMessage {senders : Nat} (k : Fin senders) : List (PortTxLabel senders MAX_TX_BUDGET) :=
  [.call k (.sleepWait true), .call k (.startSend false), .sendRet k, .loadSeq k, .storeSeq k]

/-- Two senders in turn, past the wrap of the counter. -/
theorem placed_in_sequence_wrap :
    Visits (fun s => InSequence s.placed) (portTxStep ctrlPortConf)
      (portTxInit firstCall.ctrl 0 0 0xffff)
      (placeMessage hkWork 0x8000 ++ countMessage hkWork ++
        (placeMessage rxThread 0x9000 ++ countMessage rxThread)) :=
  placed_in_sequence ctrlPortConf firstCall.ctrl 0 0 0xffff _ (by decide +kernel)

/-- The send that does not get the sleep lock returns an error for a message that is in the ring, so
    that the next message carries its number. -/
def timedOutSend : List (PortTxLabel 2 MAX_TX_BUDGET) :=
  placeMessage hkWork 0x8000 ++
    [PortTxLabel.call hkWork (.sleepWait false), .sendRet hkWork] ++
    placeMessage rxThread 0x9000

theorem timed_out_number_again :
    ¬ Visits (fun s => InSequence s.placed) (portTxStep ctrlPortConf)
      (portTxInit firstCall.ctrl 0 0 0) timedOutSend := by
  have ends : ((execute (portTxStep ctrlPortConf) (portTxInit firstCall.ctrl 0 0 0)
      timedOutSend).any fun s => s.placed.map CcciHeader.seqNum = [0, 0]) = true := by
    decide +kernel
  obtain ⟨s, run, numbers⟩ := (Option.any_eq_true _ _).mp ends
  have numbers := of_decide_eq_true numbers
  intro visits
  have chain : List.IsChain (fun number next : BitVec 15 => next = number + 1) [0, 0] := by
    rw [← numbers]
    exact (List.isChain_map CcciHeader.seqNum).mpr (visits.finish run).consecutive
  simp at chain

end Examples

end T7xxModel.Port
