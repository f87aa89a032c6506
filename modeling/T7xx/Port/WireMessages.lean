import T7xx.Format.Words
import T7xx.Port.ControlMsg
import T7xx.Port.SeqNumbers

namespace T7xxModel.Port

open Cldma Fsm Words

def CCCI_HEADER_NO_DATA : BitVec 32 := 0xffffffff

/-- `skb_push` of a header that is filled with these words. -/
def pushHeader (skb : RxSkb) (words : List (BitVec 32)) : Option RxSkb :=
  (skb.push (4 * words.length)).map fun pushed =>
    { pushed with bytes := storeAll pushed.bytes pushed.data words }

/-- `struct ccci_header` and `struct ctrl_msg_header` in the order of their fields. -/
def CcciHeader.words (header : CcciHeader) : List (BitVec 32) :=
  [header.packetHeader, header.packetLen, header.status, header.exMsg]

def CtrlMsgHeader.words (header : CtrlMsgHeader) : List (BitVec 32) :=
  [header.ctrlMsgId, header.exMsg, header.dataLength]

/-- What `t7xx_port_send_ccci_skb` makes of an skb before it sends it. -/
def portSendCcciSkb (conf : PortTxConf) (seqNum : BitVec 16) (pktHeader exMsg : BitVec 32) (skb : RxSkb) :
    Option RxSkb :=
  pushHeader skb (ccciHeader conf seqNum ⟨⟨skb.data, skb.len⟩, pktHeader, exMsg⟩).words

/-- The same for `t7xx_port_send_ctl_skb`. -/
def portSendCtlSkb (conf : PortTxConf) (seqNum : BitVec 16) (msg exMsg : BitVec 32) (skb : RxSkb) :
    Option RxSkb :=
  let pktHeader := if skb.len = 0 then CCCI_HEADER_NO_DATA else 0
  (pushHeader skb (CtrlMsgHeader.words ⟨msg, exMsg, BitVec.ofNat 32 skb.len⟩)).bind
    (portSendCcciSkb conf seqNum pktHeader exMsg)

/-- `t7xx_ctrl_alloc_skb` of a buffer whose data began at `data`, and `skb_put` of the payload. -/
def ctrlAllocSkb (size data payload : Nat) (bytes : Nat → BitVec 8) : RxSkb :=
  ⟨0, size, data + ccciHeaderSize + ctrlMsgHeaderSize, payload, bytes⟩

section Frames

/-- An skb that holds these words and then the payload. -/
structure Framed (words : List (BitVec 32)) (payload : List (BitVec 8)) (skb : RxSkb) : Prop where
  size : skb.len = 4 * words.length + payload.length
  header : loadAll skb.bytes skb.data words.length = words
  body : (skb.pull (4 * words.length)).payload = payload

variable {skb other : RxSkb} {words : List (BitVec 32)} {payload : List (BitVec 8)}

theorem payload_length (skb : RxSkb) : skb.payload.length = skb.len := by
  unfold RxSkb.payload
  rw [List.length_map, List.length_range]

theorem payload_byte {i : Nat} (same : other.payload = skb.payload) (inside : i < skb.len) :
    other.bytes (other.data + i) = skb.bytes (skb.data + i) := by
  have length := congrArg List.length same
  rw [payload_length, payload_length] at length
  have byte := congrArg (fun bytes => bytes[i]?) same
  unfold RxSkb.payload at byte
  rw [List.getElem?_map, List.getElem?_map, List.getElem?_range (by omega), List.getElem?_range inside] at byte
  exact Option.some.inj byte

theorem pull_payload {size : Nat} (fits : size ≤ skb.len) :
    (skb.pull size).payload = skb.payload.drop size := by
  unfold RxSkb.pull
  rw [if_neg (by omega)]
  unfold RxSkb.payload
  dsimp only
  rw [← List.map_drop, List.range_eq_range', List.range_eq_range', List.drop_range',
    List.range'_eq_map_range, List.range'_eq_map_range, List.map_map, List.map_map]
  apply List.map_congr_left
  intro i _
  simp only [Function.comp, Nat.zero_add, Nat.mul_one]
  show skb.bytes (skb.data + size + i) = skb.bytes (skb.data + (size + i))
  rw [Nat.add_assoc]

/-- A frame is told by its bytes alone. -/
theorem Framed.received (framed : Framed words payload skb) (same : other.payload = skb.payload) :
    Framed words payload other := by
  have length := congrArg List.length same
  rw [payload_length, payload_length] at length
  have long := framed.size
  refine ⟨length.trans long, ?_, ?_⟩
  · refine (loadAll_congr fun i below => ?_).trans framed.header
    exact payload_byte same (by omega)
  · rw [pull_payload (by omega), same, ← pull_payload (by omega)]
    exact framed.body

/-- With room before its data, an skb becomes the payload of a frame. -/
theorem pushHeader_framed (words : List (BitVec 32)) (room : 4 * words.length ≤ skb.data) :
    ∃ frame, pushHeader skb words = some frame ∧ frame.data + 4 * words.length = skb.data ∧
      frame.len = skb.len + 4 * words.length ∧ Framed words skb.payload frame := by
  unfold pushHeader RxSkb.push
  rw [if_neg (by omega)]
  refine ⟨_, rfl, Nat.sub_add_cancel room, rfl, ?_, loadAll_storeAll _ _ _, ?_⟩
  · rw [payload_length]
    exact Nat.add_comm ..
  · unfold RxSkb.pull RxSkb.payload
    dsimp only
    rw [if_neg (by omega)]
    dsimp only
    rw [Nat.sub_add_cancel room, Nat.add_sub_cancel]
    apply List.map_congr_left
    intro i _
    exact storeAll_apart words (by omega)

end Frames

section Headers

variable {conf : PortTxConf} {seqNum : BitVec 16} {msg : PortMsg} {skb : RxSkb} {payload : List (BitVec 8)}

theorem ccciStatus_channel : (ccciHeader conf seqNum msg).status.extractLsb' 0 16 = conf.txCh := by
  have masks : ∀ i : Fin 16, CCCI_H_SEQ_FLD.getLsbD i = false ∧ CCCI_H_AST_BIT.getLsbD i = false := by
    decide
  unfold ccciHeader ccciStatus
  dsimp only
  ext i small
  obtain ⟨field, assert⟩ := masks ⟨i, small⟩
  dsimp only at field assert
  simp only [BitVec.getElem_extractLsb', BitVec.getLsbD_or, BitVec.getLsbD_and, BitVec.getLsbD_setWidth,
    field, assert, Nat.zero_add, Bool.and_false, Bool.or_false]
  have inside : i < 32 := by omega
  simp [inside, small]

/-- The fields that a receiver reads from the front of an skb. -/
theorem framed_status {header : CcciHeader} (framed : Framed header.words payload skb) :
    skb.status = header.status := by
  have words := framed.header
  simp only [CcciHeader.words, List.length_cons, List.length_nil, loadAll, List.cons.injEq] at words
  exact words.2.2.1

theorem rxBuffer_le32 (skb : RxSkb) (place : Nat) :
    (rxBuffer skb).le32 place = load skb.bytes place := by
  have offset (i : Nat) : ((place : Int) + i).toNat = place + i := by omega
  unfold FsmEvent.le32 rxBuffer load
  dsimp only
  rw [show ((place : Int) + 3) = (place : Int) + (3 : Nat) from rfl,
    show ((place : Int) + 2) = (place : Int) + (2 : Nat) from rfl,
    show ((place : Int) + 1) = (place : Int) + (1 : Nat) from rfl, offset, offset, offset, Int.toNat_natCast]

theorem framed_ctrlMsgHeader {header : CtrlMsgHeader} (framed : Framed header.words payload skb) :
    ctrlMsgHeader skb = header := by
  have words := framed.header
  simp only [CtrlMsgHeader.words, List.length_cons, List.length_nil, loadAll, List.cons.injEq] at words
  have first := (rxBuffer_le32 skb skb.data).trans words.1
  have second := (rxBuffer_le32 skb (skb.data + 4)).trans words.2.1
  have third := (rxBuffer_le32 skb (skb.data + 4 + 4)).trans words.2.2.1
  have eight : (skb.data : Int) + 8 = ((skb.data + 4 + 4 : Nat) : Int) := by omega
  unfold ctrlMsgHeader
  rw [first, eight, third]
  exact congrArg (fun exMsg => CtrlMsgHeader.mk header.ctrlMsgId exMsg header.dataLength) second

end Headers

section RoundTrip

variable {conf : PortTxConf} {seqNum : BitVec 16} {msg exMsg : BitVec 32} {skb frame : RxSkb}

/-- A control message as it is sent: both headers, which say how long it is, and the payload. -/
theorem portSendCtlSkb_framed (conf : PortTxConf) (seqNum : BitVec 16) (msg exMsg : BitVec 32)
    (headroom : ccciHeaderSize + ctrlMsgHeaderSize ≤ skb.data) :
    ∃ frame header inner, portSendCtlSkb conf seqNum msg exMsg skb = some frame ∧
      frame.len = skb.len + ccciHeaderSize + ctrlMsgHeaderSize ∧
      Framed (ccciHeader conf seqNum header).words inner frame ∧
      (∀ received : RxSkb, received.payload = inner →
        Framed (CtrlMsgHeader.words ⟨msg, exMsg, BitVec.ofNat 32 skb.len⟩) skb.payload received) := by
  unfold ccciHeaderSize ctrlMsgHeaderSize at headroom
  obtain ⟨inner, pushed, place, len, framed⟩ := @pushHeader_framed skb
    (CtrlMsgHeader.words ⟨msg, exMsg, BitVec.ofNat 32 skb.len⟩) (by show 4 * 3 ≤ _; omega)
  have shorter : inner.data + 4 * 3 = skb.data := place
  have longer : inner.len = skb.len + 4 * 3 := len
  let header : PortMsg :=
    ⟨⟨inner.data, inner.len⟩, if skb.len = 0 then CCCI_HEADER_NO_DATA else 0, exMsg⟩
  obtain ⟨frame, sent, _, whole, outer⟩ := @pushHeader_framed inner
    (ccciHeader conf seqNum header).words (by show 4 * 4 ≤ _; omega)
  have size : frame.len = inner.len + 4 * 4 := whole
  refine ⟨frame, header, inner.payload, ?_, ?_, outer, fun received same => framed.received same⟩
  · unfold portSendCtlSkb
    dsimp only
    rw [pushed]
    exact sent
  · unfold ccciHeaderSize ctrlMsgHeaderSize
    omega

/-- A control message that arrives with its bytes unchanged is what was sent, at the port of its channel:
    the number of the sender, one further, the type and `ex_msg` of the message and its payload. -/
theorem sent_message_received (conf : PortTxConf) (seqNum : BitVec 16) (msg exMsg : BitVec 32) (skb : RxSkb)
    (headroom : ccciHeaderSize + ctrlMsgHeaderSize ≤ skb.data) :
    ∃ frame, portSendCtlSkb conf seqNum msg exMsg skb = some frame ∧
      ∀ (arrived : RxSkb) (hifId : CldmaId) (mdState : MdState) (proxy : PortProxy) (i : Nat),
        arrived.payload = frame.payload → mdState ≠ .invalid →
        portProxyFindPort proxy hifId conf.txCh = some i → (proxy.ports i).conf.ops = .ctl →
        ¬ (proxy.ports i).Refuses →
        ∃ received ∈ portProxyRecvSkb hifId mdState proxy arrived, ∃ message,
          received.ret = 0 ∧
          received.proxy = proxy.setPort i { proxy.ports i with
            rxSkbList := (proxy.ports i).rxSkbList ++ [message]
            rxSeqNum := (seqNum.setWidth 15).setWidth 16 + 1 &&& 0x7fff } ∧
          ctrlMsgHeader message = ⟨msg, exMsg, BitVec.ofNat 32 skb.len⟩ ∧
          (message.pull ctrlMsgHeaderSize).payload = skb.payload := by
  obtain ⟨frame, header, inner, sent, _, outer, within⟩ :=
    portSendCtlSkb_framed conf seqNum msg exMsg headroom
  refine ⟨frame, sent, fun arrived hifId mdState proxy i same ready found ops accepts => ?_⟩
  have framed := outer.received same
  have status := framed_status framed
  have channel : arrived.channel = conf.txCh := by
    unfold RxSkb.channel
    rw [status]
    exact ccciStatus_channel
  have number : portNextRxSeqNum arrived.status = (seqNum.setWidth 15).setWidth 16 + 1 &&& 0x7fff := by
    unfold portNextRxSeqNum
    rw [status, ← @ccciHeader_seqNum conf seqNum header]
    rfl
  have body : Framed (CtrlMsgHeader.words ⟨msg, exMsg, BitVec.ofNat 32 skb.len⟩) skb.payload
      (arrived.pull ccciHeaderSize) := within _ framed.body
  have room : ¬ (proxy.ports i).rxLengthTh ≤ (proxy.ports i).rxSkbList.length := by
    unfold Cldma.Port.Refuses at accepts
    rwa [ops] at accepts
  have taken : portRecvSkb (proxy.ports i) (arrived.pull ccciHeaderSize) =
      ⟨0, [.enqueued], { proxy.ports i with
        rxSkbList := (proxy.ports i).rxSkbList ++ [arrived.pull ccciHeaderSize] }⟩ := by
    unfold portRecvSkb
    rw [ops]
    exact if_neg room
  let port := { proxy.ports i with
    rxSkbList := (proxy.ports i).rxSkbList ++ [arrived.pull ccciHeaderSize]
    rxSeqNum := portNextRxSeqNum arrived.status }
  refine ⟨⟨0, arrived.pull ccciHeaderSize, [.enqueued], proxy.setPort i port⟩, ?_,
    arrived.pull ccciHeaderSize, rfl, ?_, framed_ctrlMsgHeader body, body.body⟩
  · unfold portProxyRecvSkb
    dsimp only
    rw [if_neg ready, channel, found]
    dsimp only
    rw [taken]
    exact if_neg (not_not_intro rfl)
  · show proxy.setPort i port = _
    unfold port
    rw [number]

/-- The answer that a modem in an exception waits for, at the port of the control channel. -/
theorem sent_message_received_control :
    ∃ frame, portSendCtlSkb ⟨PORT_CH_CONTROL_RX, 0, 0⟩ 3 CTL_ID_MD_EX_ACK MD_EX_CHK_ACK_ID
        (ctrlAllocSkb 92 64 0 fun _ => 0) = some frame ∧
      ∃ received ∈ portProxyRecvSkb .md .exception (Cldma.portProxySetCfg (Cldma.portConf false)) frame,
        ∃ message, received.proxy.ports 2 = { Cldma.initPort ⟨PORT_CH_CONTROL_RX, 0, .md, .ctl, false⟩ with
          rxSkbList := [message], rxSeqNum := 4 } ∧
        ctrlMsgHeader message = ⟨CTL_ID_MD_EX_ACK, MD_EX_CHK_ACK_ID, 0⟩ := by
  obtain ⟨frame, sent, arrives⟩ := sent_message_received ⟨PORT_CH_CONTROL_RX, 0, 0⟩ 3 CTL_ID_MD_EX_ACK
    MD_EX_CHK_ACK_ID (ctrlAllocSkb 92 64 0 fun _ => 0) (by decide)
  obtain ⟨received, taken, message, _, proxy, header, _⟩ :=
    arrives frame .md .exception
      (Cldma.portProxySetCfg (Cldma.portConf false)) 2 rfl (by decide) rfl rfl (by decide)
  refine ⟨frame, sent, received, taken, message, ?_, header⟩
  rw [proxy]
  rfl

end RoundTrip

end T7xxModel.Port
