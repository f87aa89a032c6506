import T7xx.Cldma.PortRecv
import T7xx.Fsm.RuntimeData

namespace T7xxModel.Port

open Cldma (RxSkb PORT_CH_CONTROL_RX PORT_CH_AP_CONTROL_RX)
open Fsm (FsmEvent FsmEventId MdState RtStep portEnumMsgHandler portEnumMsgHandler_reads portMsgEnd
  portMsgSize)

def CTL_ID_HS2_MSG : BitVec 32 := 0x1
def CTL_ID_MD_EX : BitVec 32 := 0x4
def CTL_ID_DRV_VER_ERROR : BitVec 32 := 0x5
def CTL_ID_MD_EX_ACK : BitVec 32 := 0x6
def CTL_ID_MD_EX_PASS : BitVec 32 := 0x8
def CTL_ID_PORT_ENUM : BitVec 32 := 0x9
def MD_EX_CHK_ID : BitVec 32 := 0x45584350
def MD_EX_CHK_ACK_ID : BitVec 32 := 0x45524543
def PORT_ENUM_VER_MISMATCH : BitVec 32 := 0x00657272

structure CtrlMsgHeader where
  ctrlMsgId : BitVec 32
  exMsg : BitVec 32
  dataLength : BitVec 32
deriving DecidableEq, Repr

def ctrlMsgHeaderSize : Nat := 12

/-- The buffer of an skb by offset, as it is read where no length is given. -/
def rxBuffer (skb : RxSkb) : FsmEvent where
  data offset := skb.bytes offset.toNat
  length := BitVec.ofNat 32 skb.size

def ctrlMsgHeader (skb : RxSkb) : CtrlMsgHeader where
  ctrlMsgId := (rxBuffer skb).le32 skb.data
  exMsg := (rxBuffer skb).le32 (skb.data + 4)
  dataLength := (rxBuffer skb).le32 (skb.data + 8)

/-- What the calls that `control_msg_handler` makes find and answer. -/
structure CtrlAnswers where
  mdState : MdState
  eventAllocated : Bool
  replyAllocated : Bool
  sendRet : Int
deriving DecidableEq, Repr

/-- An answer to the modem; its skb is freed here unless `t7xx_port_send_ctl_skb` took it. -/
structure CtrlReply where
  msg : BitVec 32
  exMsg : BitVec 32
  freed : Bool
deriving DecidableEq, Repr

/-- What a call did; `frees` counts how often it freed the message. -/
structure CtrlRun where
  ret : Int
  reads : List RtStep
  appended : List FsmEventId
  replies : List CtrlReply
  frees : Nat
deriving DecidableEq, Repr

def CtrlRun.returns (ret : Int) : CtrlRun := ⟨ret, [], [], [], 0⟩

def CtrlRun.after (reads : List RtStep) (run : CtrlRun) : CtrlRun :=
  { run with reads := reads ++ run.reads }

/-- The second call is made if the first one returned 0. -/
def CtrlRun.onSuccess (first second : CtrlRun) : CtrlRun :=
  if first.ret ≠ 0 then first
  else ⟨second.ret, first.reads ++ second.reads, first.appended ++ second.appended,
    first.replies ++ second.replies, first.frees + second.frees⟩

def CtrlRun.thenFree (run : CtrlRun) : CtrlRun := { run with frees := run.frees + 1 }

/-- `t7xx_fsm_append_event`, whose `data` may be NULL. -/
def appendEvent (answers : CtrlAnswers) (eventId : FsmEventId) (data : Option Nat)
    (length : BitVec 32) : CtrlRun :=
  if eventId = .invalid then .returns (-EINVAL)
  else if answers.eventAllocated = false then .returns (-ENOMEM)
  else
    match data with
    | none => { CtrlRun.returns 0 with appended := [eventId] }
    | some start =>
      let copied := if length = 0 then [] else [.read start length.toNat]
      { CtrlRun.returns 0 with reads := copied, appended := [eventId] }

def portCtlSendMsgToMd (answers : CtrlAnswers) (msg exMsg : BitVec 32) : CtrlRun :=
  if answers.replyAllocated = false then .returns (-ENOMEM)
  else { CtrlRun.returns answers.sendRet with replies := [⟨msg, exMsg, answers.sendRet ≠ 0⟩] }

def fsmEeMessageHandler (answers : CtrlAnswers) (skb : RxSkb) : CtrlRun :=
  let ctrlMsgH := ctrlMsgHeader skb
  let ctrlMsgId := RtStep.read skb.data 4
  let exMsg := RtStep.read (skb.data + 4) 4
  if answers.mdState ≠ .exception then (CtrlRun.returns (-EINVAL)).after [exMsg]
  else if ctrlMsgH.ctrlMsgId = CTL_ID_MD_EX then
    if ctrlMsgH.exMsg ≠ MD_EX_CHK_ID then
      (CtrlRun.returns (-EINVAL)).after [ctrlMsgId, exMsg, exMsg]
    else
      ((portCtlSendMsgToMd answers CTL_ID_MD_EX MD_EX_CHK_ID).onSuccess
        (appendEvent answers .mdEx none 0)).after [ctrlMsgId, exMsg]
  else if ctrlMsgH.ctrlMsgId = CTL_ID_MD_EX_ACK then
    if ctrlMsgH.exMsg ≠ MD_EX_CHK_ACK_ID then
      (CtrlRun.returns (-EINVAL)).after [ctrlMsgId, exMsg, exMsg]
    else (appendEvent answers .mdExRecOk none 0).after [ctrlMsgId, exMsg]
  else if ctrlMsgH.ctrlMsgId = CTL_ID_MD_EX_PASS then
    (appendEvent answers .mdExPass none 0).after [ctrlMsgId]
  -- `CTL_ID_DRV_VER_ERROR` is only reported.
  else (CtrlRun.returns (-EINVAL)).after [ctrlMsgId]

/-- The types that `control_msg_handler` passes on to `fsm_ee_message_handler`. -/
def eeMsgIds : List (BitVec 32) :=
  [CTL_ID_MD_EX, CTL_ID_MD_EX_ACK, CTL_ID_MD_EX_PASS, CTL_ID_DRV_VER_ERROR]

def controlMsgHandler (rxCh : BitVec 16) (answers : CtrlAnswers) (skb : RxSkb) : CtrlRun :=
  let ctrlMsgH := ctrlMsgHeader skb
  let ctrlMsgId := RtStep.read skb.data 4
  if ctrlMsgH.ctrlMsgId = CTL_ID_HS2_MSG then
    let pulled := skb.pull ctrlMsgHeaderSize
    let run :=
      if rxCh = PORT_CH_CONTROL_RX ∨ rxCh = PORT_CH_AP_CONTROL_RX then
        let event := if rxCh = PORT_CH_CONTROL_RX then FsmEventId.mdHs2 else FsmEventId.apHs2
        (appendEvent answers event (some pulled.data) ctrlMsgH.dataLength).after
          [.read (skb.data + 8) 4]
      else .returns 0
    (run.after [ctrlMsgId]).thenFree
  else if ctrlMsgH.ctrlMsgId ∈ eeMsgIds then
    ((fsmEeMessageHandler answers skb).after [ctrlMsgId]).thenFree
  else if ctrlMsgH.ctrlMsgId = CTL_ID_PORT_ENUM then
    let pulled := skb.pull ctrlMsgHeaderSize
    let (steps, ret) := portEnumMsgHandler (rxBuffer skb) pulled.data
    let exMsg := if ret = 0 then 0 else PORT_ENUM_VER_MISMATCH
    (portCtlSendMsgToMd answers CTL_ID_PORT_ENUM exMsg).after (ctrlMsgId :: steps)
  else (CtrlRun.returns (-EINVAL)).after [ctrlMsgId, ctrlMsgId]

section Reads

/-- The bytes that are read lie in the data of the skb. -/
def InSkb (skb : RxSkb) : RtStep → Prop
  | .read offset size => (skb.data : Int) ≤ offset ∧ offset + size ≤ skb.data + skb.len
  | .advance _ => True

instance (skb : RxSkb) : DecidablePred (InSkb skb)
  | .read offset size =>
    inferInstanceAs (Decidable ((skb.data : Int) ≤ offset ∧ offset + size ≤ skb.data + skb.len))
  | .advance _ => .isTrue trivial

def ReadsInSkb (skb : RxSkb) (reads : List RtStep) : Prop := ∀ step ∈ reads, InSkb skb step

instance (skb : RxSkb) (reads : List RtStep) : Decidable (ReadsInSkb skb reads) :=
  inferInstanceAs (Decidable (∀ step ∈ reads, InSkb skb step))

/-- `fsm_ee_message_handler` looks at `ex_msg`, be it for its report. -/
def UsesExMsg (answers : CtrlAnswers) (skb : RxSkb) : Prop :=
  answers.mdState ≠ .exception ∨ (ctrlMsgHeader skb).ctrlMsgId = CTL_ID_MD_EX ∨
    (ctrlMsgHeader skb).ctrlMsgId = CTL_ID_MD_EX_ACK

instance (answers : CtrlAnswers) (skb : RxSkb) : Decidable (UsesExMsg answers skb) :=
  inferInstanceAs (Decidable (_ ∨ _ ∨ _))

/-- The fields of its header that a message of this type uses, the data whose length it gives and the
    ports that it counts end within the skb. -/
structure MessageFits (rxCh : BitVec 16) (answers : CtrlAnswers) (skb : RxSkb) : Prop where
  ctrlMsgId : 4 ≤ skb.len
  hs2 : (ctrlMsgHeader skb).ctrlMsgId = CTL_ID_HS2_MSG →
    rxCh = PORT_CH_CONTROL_RX ∨ rxCh = PORT_CH_AP_CONTROL_RX →
      ctrlMsgHeaderSize ≤ skb.len ∧ (answers.eventAllocated = true →
        ctrlMsgHeaderSize + (ctrlMsgHeader skb).dataLength.toNat ≤ skb.len)
  ee : (ctrlMsgHeader skb).ctrlMsgId ∈ eeMsgIds → UsesExMsg answers skb → 8 ≤ skb.len
  portEnum : (ctrlMsgHeader skb).ctrlMsgId = CTL_ID_PORT_ENUM →
    portMsgEnd (rxBuffer skb) (skb.data + ctrlMsgHeaderSize) ≤ skb.data + skb.len

variable {skb : RxSkb}

theorem inSkb_read {offset size : Nat} :
    InSkb skb (.read (skb.data + offset) size) ↔ offset + size ≤ skb.len := by
  unfold InSkb
  omega

theorem inSkb_start {size : Nat} : InSkb skb (.read skb.data size) ↔ size ≤ skb.len := by
  unfold InSkb
  omega

theorem readsInSkb_cons {step : RtStep} {reads : List RtStep} :
    ReadsInSkb skb (step :: reads) ↔ InSkb skb step ∧ ReadsInSkb skb reads := List.forall_mem_cons

theorem readsInSkb_append {first rest : List RtStep} :
    ReadsInSkb skb (first ++ rest) ↔ ReadsInSkb skb first ∧ ReadsInSkb skb rest :=
  List.forall_mem_append

theorem readsInSkb_nil : ReadsInSkb skb [] := fun _ member => absurd member List.not_mem_nil

theorem appendEvent_null (answers : CtrlAnswers) (eventId : FsmEventId) (length : BitVec 32) :
    (appendEvent answers eventId none length).reads = [] := by
  unfold appendEvent
  split
  · rfl
  split
  · rfl
  · rfl

theorem portCtlSendMsgToMd_reads (answers : CtrlAnswers) (msg exMsg : BitVec 32) :
    (portCtlSendMsgToMd answers msg exMsg).reads = [] := by
  unfold portCtlSendMsgToMd
  split
  · rfl
  · rfl

theorem onSuccess_reads {first second : CtrlRun} (none : first.reads = []) (nor : second.reads = []) :
    (first.onSuccess second).reads = [] := by
  unfold CtrlRun.onSuccess
  split
  · exact none
  · show first.reads ++ second.reads = []
    rw [none, nor]
    rfl

theorem appendEvent_reads (answers : CtrlAnswers) {eventId : FsmEventId} (valid : eventId ≠ .invalid)
    {start : Nat} (length : BitVec 32) (inside : start ≤ skb.len) :
    ReadsInSkb skb (appendEvent answers eventId (some (skb.data + start)) length).reads ↔
      (answers.eventAllocated = true → start + length.toNat ≤ skb.len) := by
  unfold appendEvent
  rw [if_neg valid]
  cases answers.eventAllocated with
  | false => exact iff_of_true readsInSkb_nil (fun allocated => by cases allocated)
  | true =>
    rw [if_neg (by decide), imp_iff_right rfl]
    dsimp only [CtrlRun.returns]
    by_cases empty : length = 0
    · rw [if_pos empty, empty]
      exact iff_of_true readsInSkb_nil inside
    · rw [if_neg empty, readsInSkb_cons, Nat.cast_add, inSkb_read]
      exact and_iff_left readsInSkb_nil

theorem fsmEeMessageHandler_reads (answers : CtrlAnswers) (typed : 4 ≤ skb.len) :
    ReadsInSkb skb (fsmEeMessageHandler answers skb).reads ↔
      (UsesExMsg answers skb → 8 ≤ skb.len) := by
  have ctrlMsgId : InSkb skb (.read skb.data 4) := inSkb_start.mpr typed
  have exMsg : InSkb skb (.read (skb.data + 4) 4) ↔ 8 ≤ skb.len := @inSkb_read skb 4 4
  have both (reads : List RtStep) (rest : reads = [] ∨ reads = [.read (skb.data + 4) 4]) :
      ReadsInSkb skb (.read skb.data 4 :: .read (skb.data + 4) 4 :: reads) ↔ 8 ≤ skb.len := by
    rw [readsInSkb_cons, readsInSkb_cons, and_iff_right ctrlMsgId, exMsg, and_iff_left_iff_imp]
    intro fits
    rcases rest with rfl | rfl
    · exact readsInSkb_nil
    · exact readsInSkb_cons.mpr ⟨exMsg.mpr fits, readsInSkb_nil⟩
  unfold fsmEeMessageHandler
  dsimp only
  by_cases invalid : answers.mdState ≠ .exception
  · have uses : UsesExMsg answers skb := Or.inl invalid
    rw [if_pos invalid, imp_iff_right uses, ← exMsg]
    exact readsInSkb_cons.trans (and_iff_left readsInSkb_nil)
  rw [if_neg invalid]
  by_cases ex : (ctrlMsgHeader skb).ctrlMsgId = CTL_ID_MD_EX
  · have uses : UsesExMsg answers skb := Or.inr (Or.inl ex)
    rw [if_pos ex, imp_iff_right uses]
    split
    · exact both _ (Or.inr rfl)
    · exact both _ (Or.inl (onSuccess_reads (portCtlSendMsgToMd_reads _ _ _) (appendEvent_null _ _ _)))
  rw [if_neg ex]
  by_cases ack : (ctrlMsgHeader skb).ctrlMsgId = CTL_ID_MD_EX_ACK
  · have uses : UsesExMsg answers skb := Or.inr (Or.inr ack)
    rw [if_pos ack, imp_iff_right uses]
    split
    · exact both _ (Or.inr rfl)
    · exact both _ (Or.inl (appendEvent_null _ _ _))
  rw [if_neg ack]
  have unused : ¬ UsesExMsg answers skb := by
    rintro (state | same | same)
    · exact invalid state
    · exact ex same
    · exact ack same
  refine iff_of_true ?_ fun uses => absurd uses unused
  split
  · show ReadsInSkb skb (.read skb.data 4 :: (appendEvent answers .mdExPass none 0).reads)
    rw [appendEvent_null]
    exact readsInSkb_cons.mpr ⟨ctrlMsgId, readsInSkb_nil⟩
  · exact readsInSkb_cons.mpr ⟨ctrlMsgId, readsInSkb_nil⟩

theorem portMsgSize_le_end (event : FsmEvent) (msg : Int) : msg + portMsgSize ≤ portMsgEnd event msg := by
  unfold portMsgEnd
  split
  · omega
  · omega

theorem portEnum_reads (start : Nat) (inside : start = (skb.pull ctrlMsgHeaderSize).data) :
    ReadsInSkb skb (portEnumMsgHandler (rxBuffer skb) start).1 ↔
      portMsgEnd (rxBuffer skb) (skb.data + ctrlMsgHeaderSize) ≤ skb.data + skb.len := by
  have reads : ReadsInSkb skb (portEnumMsgHandler (rxBuffer skb) start).1 ↔
      portMsgEnd (rxBuffer skb) start ≤ skb.data + skb.len := by
    refine portEnumMsgHandler_reads fun offset size later => ?_
    have after : skb.data ≤ start := by
      rw [inside]
      unfold RxSkb.pull
      split
      · exact Nat.le_refl _
      · exact Nat.le_add_right _ _
    exact and_iff_right (by omega)
  rw [reads, inside]
  unfold RxSkb.pull
  split
  · rename_i short
    have here := portMsgSize_le_end (rxBuffer skb) skb.data
    have there := portMsgSize_le_end (rxBuffer skb) (skb.data + ctrlMsgHeaderSize)
    unfold portMsgSize at here there
    unfold ctrlMsgHeaderSize at short there ⊢
    exact iff_of_false (by omega) (by omega)
  · rfl

theorem hs2_reads (rxCh : BitVec 16) (answers : CtrlAnswers)
    (hs2 : (ctrlMsgHeader skb).ctrlMsgId = CTL_ID_HS2_MSG) :
    ReadsInSkb skb (controlMsgHandler rxCh answers skb).reads ↔ 4 ≤ skb.len ∧
      (rxCh = PORT_CH_CONTROL_RX ∨ rxCh = PORT_CH_AP_CONTROL_RX → ctrlMsgHeaderSize ≤ skb.len ∧
        (answers.eventAllocated = true →
          ctrlMsgHeaderSize + (ctrlMsgHeader skb).dataLength.toNat ≤ skb.len)) := by
  unfold controlMsgHandler
  dsimp only
  rw [if_pos hs2]
  refine readsInSkb_cons.trans (and_congr inSkb_start ?_)
  by_cases control : rxCh = PORT_CH_CONTROL_RX ∨ rxCh = PORT_CH_AP_CONTROL_RX
  · rw [if_pos control, imp_iff_right control]
    refine readsInSkb_cons.trans ((and_congr_left' (@inSkb_read skb 8 4)).trans ?_)
    refine and_congr_right fun header => ?_
    have pulled : (skb.pull ctrlMsgHeaderSize).data = skb.data + ctrlMsgHeaderSize := by
      unfold RxSkb.pull
      have long : ¬ skb.len < ctrlMsgHeaderSize := Nat.not_lt.mpr header
      rw [if_neg long]
    rw [pulled]
    apply appendEvent_reads answers
    · split
      · exact nofun
      · exact nofun
    · exact header
  · rw [if_neg control]
    exact iff_of_true readsInSkb_nil fun here => absurd here control

/-- The handler and what it calls read within the skb exactly if the message fits in it. -/
theorem control_msg_reads_inside_iff_fits (rxCh : BitVec 16) (answers : CtrlAnswers) (skb : RxSkb) :
    ReadsInSkb skb (controlMsgHandler rxCh answers skb).reads ↔ MessageFits rxCh answers skb := by
  by_cases hs2 : (ctrlMsgHeader skb).ctrlMsgId = CTL_ID_HS2_MSG
  · rw [hs2_reads rxCh answers hs2]
    constructor
    · rintro ⟨typed, copied⟩
      refine ⟨typed, fun _ => copied, fun ee => ?_, fun portEnum => ?_⟩
      · rw [hs2] at ee
        exact absurd ee (by decide)
      · exact absurd (hs2.symm.trans portEnum) (by decide)
    · exact fun fits => ⟨fits.ctrlMsgId, fits.hs2 hs2⟩
  unfold controlMsgHandler
  dsimp only
  rw [if_neg hs2]
  by_cases ee : (ctrlMsgHeader skb).ctrlMsgId ∈ eeMsgIds
  · rw [if_pos ee]
    refine readsInSkb_cons.trans ?_
    rw [inSkb_start]
    constructor
    · rintro ⟨typed, reads⟩
      refine ⟨typed, fun same => absurd same hs2,
        fun _ => (fsmEeMessageHandler_reads answers typed).mp reads, fun portEnum => ?_⟩
      rw [portEnum] at ee
      exact absurd ee (by decide)
    · exact fun fits =>
        ⟨fits.ctrlMsgId, (fsmEeMessageHandler_reads answers fits.ctrlMsgId).mpr (fits.ee ee)⟩
  rw [if_neg ee]
  by_cases portEnum : (ctrlMsgHeader skb).ctrlMsgId = CTL_ID_PORT_ENUM
  · rw [if_pos portEnum]
    refine readsInSkb_append.trans ?_
    rw [portCtlSendMsgToMd_reads, and_iff_left readsInSkb_nil, readsInSkb_cons, inSkb_start,
      portEnum_reads _ rfl]
    exact ⟨fun ⟨typed, ports⟩ =>
        ⟨typed, fun same => absurd same hs2, fun same => absurd same ee, fun _ => ports⟩,
      fun fits => ⟨fits.ctrlMsgId, fits.portEnum portEnum⟩⟩
  · rw [if_neg portEnum]
    refine (readsInSkb_cons.trans ?_)
    rw [inSkb_start]
    constructor
    · rintro ⟨typed, _⟩
      exact ⟨typed, fun same => absurd same hs2, fun same => absurd same ee,
        fun same => absurd same portEnum⟩
    · intro fits
      have typed : InSkb skb (.read skb.data 4) := inSkb_start.mpr fits.ctrlMsgId
      exact ⟨fits.ctrlMsgId, readsInSkb_cons.mpr ⟨typed, readsInSkb_nil⟩⟩

def ctrlSkb (bytes : List (BitVec 8)) : RxSkb where
  id := 0
  size := 3584
  data := 16
  len := bytes.length
  bytes i := bytes.getD (i - 16) 0

/-- A handshake message of its header alone that announces 100 bytes of data. -/
def hs2Skb : RxSkb := ctrlSkb [1, 0, 0, 0, 0, 0, 0, 0, 100, 0, 0, 0]

/-- A port enumeration message that counts a port, and ends before it. -/
def portEnumSkb : RxSkb :=
  ctrlSkb ([9, 0, 0, 0, 0, 0, 0, 0, 12, 0, 0, 0] ++ [0x5a, 0x5a, 0x5a, 0x5a] ++ [1, 0, 0, 0] ++
    [0xa5, 0xa5, 0xa5, 0xa5])

def workingAnswers : CtrlAnswers := ⟨.ready, true, true, 0⟩

theorem lengths_of_message_exceed_skb :
    ¬ ReadsInSkb hs2Skb (controlMsgHandler PORT_CH_CONTROL_RX workingAnswers hs2Skb).reads ∧
      ¬ ReadsInSkb portEnumSkb
        (controlMsgHandler PORT_CH_CONTROL_RX workingAnswers portEnumSkb).reads := by
  decide

end Reads

end T7xxModel.Port
