import Mathlib.Data.List.Range
import Mathlib.Logic.Function.Basic
import T7xx.Fsm.Control

namespace T7xxModel.Cldma

open Fsm

def RX_QUEUE_MAXLEN : Int := 32
def CTRL_QUEUE_MAXLEN : Int := 16
def INVALID_SEQ_NUM : BitVec 16 := 0xffff
def CLDMA_Q_IDX_DUMP : Nat := 1
def CLDMA_RXQ_NUM : Nat := 8
def CLDMA_SHARED_Q_BUFF_SZ : Nat := 3584
def CLDMA_DEDICATED_Q_BUFF_SZ : Nat := 2048

def PORT_CH_AP_CONTROL_RX : BitVec 16 := 0x1000
def PORT_CH_AP_ADB_RX : BitVec 16 := 0x100a
def PORT_CH_CONTROL_RX : BitVec 16 := 0x2000
def PORT_CH_UART2_RX : BitVec 16 := 0x200a
def PORT_CH_MD_LOG_RX : BitVec 16 := 0x202a
def PORT_CH_MIPC_RX : BitVec 16 := 0x20ce
def PORT_CH_MBIM_RX : BitVec 16 := 0x20d0
def PORT_CH_UNIMPORTANT : BitVec 16 := 0xffff

inductive CldmaId where
  | md
  | ap
deriving DecidableEq, Repr

/-- A linear RX skb. `data` is the offset of its data in the buffer of `size` bytes, which ends
    `len` bytes later; `id` tells the buffers apart. -/
structure RxSkb where
  id : Nat
  size : Nat
  data : Nat
  len : Nat
  bytes : Nat → BitVec 8

/-- `skb_pull`, which returns NULL and leaves an skb that is too short as it is. -/
def RxSkb.pull (skb : RxSkb) (len : Nat) : RxSkb :=
  if skb.len < len then skb else { skb with data := skb.data + len, len := skb.len - len }

/-- `skb_push`, `none` where it panics. -/
def RxSkb.push (skb : RxSkb) (len : Nat) : Option RxSkb :=
  if skb.data < len then none else some { skb with data := skb.data - len, len := skb.len + len }

def RxSkb.put (skb : RxSkb) (len : Nat) : Option RxSkb :=
  if skb.size < skb.data + skb.len + len then none else some { skb with len := skb.len + len }

def RxSkb.payload (skb : RxSkb) : List (BitVec 8) :=
  (List.range skb.len).map fun i => skb.bytes (skb.data + i)

def ccciHeaderSize : Nat := 16
def CLDMA_JUMBO_BUFF_SZ : Nat := 63 * 1024 + ccciHeaderSize

/-- The `status` of the `struct ccci_header` at `skb->data`, whatever the length of the skb. -/
def RxSkb.status (skb : RxSkb) : BitVec 32 :=
  let byte i := skb.bytes (skb.data + 8 + i)
  byte 3 ++ byte 2 ++ byte 1 ++ byte 0

def RxSkb.channel (skb : RxSkb) : BitVec 16 := skb.status.extractLsb' 0 16

inductive PortOps where
  | ctl
  | wwan
  | trace
deriving DecidableEq, Repr

structure PortConf where
  rxCh : BitVec 16
  rxqIndex : Nat
  pathId : CldmaId
  ops : PortOps
  debug : Bool
deriving DecidableEq, Repr

/-- `struct t7xx_port` as far as it receives. `relaych` is what was written to the relay channel,
    where there is one. -/
structure Port where
  conf : PortConf
  rxSeqNum : BitVec 16
  usageCnt : Int
  rxSkbList : List RxSkb
  rxLengthTh : Int
  chanEnable : Bool
  relaych : Option (List (BitVec 8))

structure PortProxy where
  ports : Nat → Port
  portCount : Nat

inductive RxDisposal where
  | freed
  | enqueued
  | wwanRx
deriving DecidableEq, Repr

structure PortReceived where
  ret : Int
  disposals : List RxDisposal
  port : Port

def portEnqueueSkb (port : Port) (skb : RxSkb) : PortReceived :=
  if port.rxLengthTh ≤ port.rxSkbList.length then ⟨- ENOBUFS, [], port⟩
  else ⟨0, [.enqueued], { port with rxSkbList := port.rxSkbList ++ [skb] }⟩

def portWwanRecvSkb (port : Port) : PortReceived :=
  if port.usageCnt = 0 ∨ port.chanEnable = false then ⟨0, [.freed], port⟩
  else ⟨0, [.wwanRx], port⟩

def tracePortRecvSkb (port : Port) (skb : RxSkb) : PortReceived :=
  match port.relaych with
  | none => ⟨-EINVAL, [], port⟩
  | some written => ⟨0, [.freed], { port with relaych := some (written ++ skb.payload) }⟩

def portRecvSkb (port : Port) (skb : RxSkb) : PortReceived :=
  match port.conf.ops with
  | .ctl => portEnqueueSkb port skb
  | .wwan => portWwanRecvSkb port
  | .trace => tracePortRecvSkb port skb

structure Received where
  ret : Int
  skb : RxSkb
  disposals : List RxDisposal
  proxy : PortProxy

def PortProxy.setPort (proxy : PortProxy) (i : Nat) (port : Port) : PortProxy :=
  { proxy with ports := Function.update proxy.ports i port }

def PortProxy.rxChPorts (proxy : PortProxy) (chId : BitVec 8) : List Nat :=
  (List.range proxy.portCount).filter fun i => (proxy.ports i).conf.rxCh.extractLsb' 0 8 = chId

def portProxyFindPort (proxy : PortProxy) (hifId : CldmaId) (channel : BitVec 16) : Option Nat :=
  (proxy.rxChPorts (channel.extractLsb' 0 8)).find? fun i =>
    (proxy.ports i).conf.pathId = hifId && (proxy.ports i).conf.rxCh = channel

/-- `t7xx_port_next_rx_seq_num`; a number out of order is only logged. -/
def portNextRxSeqNum (status : BitVec 32) : BitVec 16 :=
  let seqNum := (status.extractLsb' 16 15).setWidth 16
  (seqNum + 1) &&& 0x7fff

/-- `t7xx_port_proxy_recv_skb`, `none` where `skb_push` panics. -/
def portProxyRecvSkb (hifId : CldmaId) (mdState : MdState) (proxy : PortProxy) (skb : RxSkb) :
    Option Received :=
  let channel := skb.channel
  if mdState = .invalid then some ⟨0, skb, [.freed], proxy⟩
  else
    match portProxyFindPort proxy hifId channel with
    | none => some ⟨0, skb, [.freed], proxy⟩
    | some i =>
      let seqNum := portNextRxSeqNum skb.status
      let pulled := skb.pull ccciHeaderSize
      let result := portRecvSkb (proxy.ports i) pulled
      if result.ret ≠ 0 then
        (pulled.push ccciHeaderSize).map fun pushed =>
          ⟨result.ret, pushed, result.disposals, proxy.setPort i result.port⟩
      else
        some ⟨0, pulled, result.disposals,
          proxy.setPort i { result.port with rxSeqNum := seqNum }⟩

def portProxyRecvSkbFromDedicatedQueue (index : Nat) (proxy : PortProxy) (skb : RxSkb) : Received :=
  let port := proxy.ports 0
  if port.conf.rxqIndex ≠ index then ⟨-EINVAL, skb, [.freed], proxy⟩
  else
    let result := portRecvSkb port skb
    let dropped := if result.ret < 0 ∧ result.ret ≠ - ENOBUFS then [RxDisposal.freed] else []
    ⟨result.ret, skb, result.disposals ++ dropped, proxy.setPort 0 result.port⟩

inductive CldmaCfg where
  | sharedQ
  | dedicatedQ
deriving DecidableEq, Repr

inductive RecvSkb where
  | portProxy
  | dedicatedQueue
deriving DecidableEq, Repr

/-- What `t7xx_cldma_adjust_config` sets for an RX queue: its `pkt_size` and its callback. -/
def adjustConfig (cfgId : CldmaCfg) (qno : Nat) : Nat × RecvSkb :=
  if cfgId = .dedicatedQ ∧ qno = CLDMA_Q_IDX_DUMP then (CLDMA_DEDICATED_Q_BUFF_SZ, .dedicatedQueue)
  else if qno = CLDMA_RXQ_NUM - 1 then (CLDMA_JUMBO_BUFF_SZ, .portProxy)
  else (CLDMA_SHARED_Q_BUFF_SZ, .portProxy)

def RecvSkb.call (recvSkb : RecvSkb) (hifId : CldmaId) (index : Nat) (mdState : MdState)
    (proxy : PortProxy) (skb : RxSkb) : Option Received :=
  match recvSkb with
  | .portProxy => portProxyRecvSkb hifId mdState proxy skb
  | .dedicatedQueue => some (portProxyRecvSkbFromDedicatedQueue index proxy skb)

section Configurations

def portConf (wwanDebugfs : Bool) : List PortConf :=
  [⟨PORT_CH_UART2_RX, 5, .md, .wwan, false⟩, ⟨PORT_CH_MBIM_RX, 2, .md, .wwan, false⟩] ++
    (if wwanDebugfs then [⟨PORT_CH_MD_LOG_RX, 7, .md, .trace, false⟩] else []) ++
    [⟨PORT_CH_CONTROL_RX, 0, .md, .ctl, false⟩, ⟨PORT_CH_AP_CONTROL_RX, 0, .ap, .ctl, false⟩,
      ⟨PORT_CH_AP_ADB_RX, 3, .ap, .wwan, true⟩, ⟨PORT_CH_MIPC_RX, 2, .md, .wwan, true⟩]

def earlyPortConf : List PortConf := [⟨PORT_CH_UNIMPORTANT, CLDMA_Q_IDX_DUMP, .ap, .wwan, false⟩]

/-- The `init` operation of a port sets its threshold. A trace port has none, and that of a debug
    port does not run here. -/
def PortConf.rxLengthTh (conf : PortConf) : Int :=
  if conf.debug then 0
  else
    match conf.ops with
    | .ctl => CTRL_QUEUE_MAXLEN
    | .wwan => RX_QUEUE_MAXLEN
    | .trace => 0

def initPort (conf : PortConf) : Port := ⟨conf, INVALID_SEQ_NUM, 0, [], conf.rxLengthTh, false, none⟩

def portProxySetCfg (table : List PortConf) : PortProxy :=
  { ports := fun i => initPort (table.getD i ⟨0, 0, .md, .wwan, false⟩)
    portCount := table.length }

end Configurations

section Contract

/-- What the caller of a callback reads from the sign of its result. -/
def Honours (skb : RxSkb) (received : Received) : Prop :=
  if received.ret < 0 then
    received.disposals = [] ∧ received.skb.data = skb.data ∧ received.skb.len = skb.len
  else received.disposals.length = 1

instance (skb : RxSkb) (received : Received) : Decidable (Honours skb received) := by
  unfold Honours
  infer_instance

def Port.Refuses (port : Port) : Prop :=
  match port.conf.ops with
  | .ctl => port.rxLengthTh ≤ port.rxSkbList.length
  | .wwan => False
  | .trace => port.relaych = none

instance (port : Port) : Decidable port.Refuses := by
  unfold Port.Refuses
  split <;> infer_instance

/-- A port on a shared queue refuses only what has a whole header; the port of a dedicated queue is
    that queue's and refuses only for want of room. -/
def RecvSafe (recvSkb : RecvSkb) (hifId : CldmaId) (index : Nat) (mdState : MdState)
    (proxy : PortProxy) (skb : RxSkb) : Prop :=
  match recvSkb with
  | .portProxy =>
    mdState = .invalid ∨
      ∀ i ∈ portProxyFindPort proxy hifId skb.channel, (proxy.ports i).Refuses →
        ccciHeaderSize ≤ skb.len
  | .dedicatedQueue =>
    (proxy.ports 0).conf.rxqIndex = index ∧
      ((proxy.ports 0).Refuses → (proxy.ports 0).conf.ops = .ctl)

instance (recvSkb : RecvSkb) (hifId : CldmaId) (index : Nat) (mdState : MdState)
    (proxy : PortProxy) (skb : RxSkb) :
    Decidable (RecvSafe recvSkb hifId index mdState proxy skb) := by
  unfold RecvSafe
  cases recvSkb <;> infer_instance

theorem portRecvSkb_spec (port : Port) (skb : RxSkb) :
    let result := portRecvSkb port skb
    (port.Refuses ∧ result.disposals = [] ∧
        result.ret = if port.conf.ops = .ctl then - ENOBUFS else -EINVAL) ∨
      (¬ port.Refuses ∧ result.disposals.length = 1 ∧ result.ret = 0) := by
  unfold portRecvSkb Port.Refuses
  dsimp only
  cases kind : port.conf.ops with
  | ctl =>
    dsimp only
    unfold portEnqueueSkb
    split
    · rename_i full
      exact Or.inl ⟨full, rfl, rfl⟩
    · rename_i room
      exact Or.inr ⟨room, rfl, rfl⟩
  | wwan =>
    dsimp only
    unfold portWwanRecvSkb
    split
    · exact Or.inr ⟨id, rfl, rfl⟩
    · exact Or.inr ⟨id, rfl, rfl⟩
  | trace =>
    dsimp only
    unfold tracePortRecvSkb
    cases relay : port.relaych with
    | none => exact Or.inl ⟨rfl, rfl, rfl⟩
    | some written => exact Or.inr ⟨nofun, rfl, rfl⟩

theorem refused_negative (port : Port) (skb : RxSkb) (refuses : port.Refuses) :
    (portRecvSkb port skb).ret < 0 ∧ (portRecvSkb port skb).disposals = [] := by
  rcases portRecvSkb_spec port skb with ⟨_, nothing, ret⟩ | ⟨accepts, _⟩
  · refine ⟨?_, nothing⟩
    rw [ret]
    split <;> decide
  · exact absurd refuses accepts

theorem accepted_zero (port : Port) (skb : RxSkb) (accepts : ¬ port.Refuses) :
    (portRecvSkb port skb).ret = 0 ∧ (portRecvSkb port skb).disposals.length = 1 := by
  rcases portRecvSkb_spec port skb with ⟨refuses, _⟩ | ⟨_, once, ret⟩
  · exact absurd refuses accepts
  · exact ⟨ret, once⟩

theorem RxSkb.pull_push {skb : RxSkb} {len : Nat} (whole : len ≤ skb.len) :
    (skb.pull len).push len = some skb := by
  have shorter : ¬ skb.len < len := by omega
  unfold pull push
  rw [if_neg shorter]
  dsimp only
  rw [if_neg (by omega), Nat.add_sub_cancel, Nat.sub_add_cancel whole]

theorem RxSkb.short_push {skb pushed : RxSkb} {len : Nat} (short : skb.len < len)
    (moved : (skb.pull len).push len = some pushed) : pushed.len ≠ skb.len := by
  unfold pull push at moved
  rw [if_pos short] at moved
  split at moved
  · cases moved
  · cases moved
    dsimp only
    omega

theorem portProxyRecvSkb_honours (hifId : CldmaId) (index : Nat) (mdState : MdState)
    (proxy : PortProxy) (skb : RxSkb) :
    (∃ received ∈ portProxyRecvSkb hifId mdState proxy skb, Honours skb received) ↔
      RecvSafe .portProxy hifId index mdState proxy skb := by
  unfold portProxyRecvSkb RecvSafe
  dsimp only
  by_cases gone : mdState = .invalid
  · rw [if_pos gone]
    exact ⟨fun _ => Or.inl gone, fun _ => ⟨_, rfl, rfl⟩⟩
  rw [if_neg gone]
  cases found : portProxyFindPort proxy hifId skb.channel with
  | none => exact ⟨fun _ => Or.inr nofun, fun _ => ⟨_, rfl, rfl⟩⟩
  | some i =>
    dsimp only
    have only : (mdState = .invalid ∨ ∀ j ∈ some i, (proxy.ports j).Refuses →
        ccciHeaderSize ≤ skb.len) ↔ ((proxy.ports i).Refuses → ccciHeaderSize ≤ skb.len) := by
      simp [gone]
    rw [only]
    by_cases refuses : (proxy.ports i).Refuses
    · obtain ⟨negative, nothing⟩ :=
        refused_negative (proxy.ports i) (skb.pull ccciHeaderSize) refuses
      rw [if_pos (Int.ne_of_lt negative), nothing]
      constructor
      · rintro ⟨received, returned, honours⟩ _
        obtain ⟨pushed, moved, rfl⟩ := Option.map_eq_some_iff.mp returned
        by_contra short
        have longer := RxSkb.short_push (by omega) moved
        rw [Honours, if_pos negative] at honours
        exact longer honours.2.2
      · intro whole
        rw [RxSkb.pull_push (whole refuses)]
        refine ⟨_, rfl, ?_⟩
        rw [Honours, if_pos negative]
        exact ⟨rfl, rfl, rfl⟩
    · obtain ⟨zero, once⟩ := accepted_zero (proxy.ports i) (skb.pull ccciHeaderSize) refuses
      rw [if_neg (not_not.mpr zero)]
      exact ⟨fun _ refused => absurd refused refuses, fun _ => ⟨_, rfl, once⟩⟩

theorem dedicatedQueue_honours (hifId : CldmaId) (index : Nat) (mdState : MdState)
    (proxy : PortProxy) (skb : RxSkb) :
    Honours skb (portProxyRecvSkbFromDedicatedQueue index proxy skb) ↔
      RecvSafe .dedicatedQueue hifId index mdState proxy skb := by
  unfold portProxyRecvSkbFromDedicatedQueue RecvSafe
  dsimp only
  by_cases own : (proxy.ports 0).conf.rxqIndex = index
  · rw [if_neg (not_not.mpr own)]
    rcases portRecvSkb_spec (proxy.ports 0) skb with ⟨refuses, nothing, ret⟩ | ⟨accepts, once, zero⟩
    · rw [ret, nothing]
      by_cases full : (proxy.ports 0).conf.ops = .ctl
      · rw [if_pos full]
        exact ⟨fun _ => ⟨own, fun _ => full⟩, fun _ => ⟨rfl, rfl, rfl⟩⟩
      · rw [if_neg full]
        constructor
        · intro honours
          cases honours.1
        · intro safe
          exact absurd (safe.2 refuses) full
    · rw [zero]
      refine ⟨fun _ => ⟨own, fun refuses => absurd refuses accepts⟩, fun _ => ?_⟩
      show (_ ++ []).length = 1
      rw [List.append_nil]
      exact once
  · rw [if_pos own]
    constructor
    · intro honours
      cases honours.1
    · intro safe
      exact absurd safe.1 own

/-- A callback keeps to the contract exactly if it is called safely. -/
theorem RecvSkb.call_honours (recvSkb : RecvSkb) (hifId : CldmaId) (index : Nat) (mdState : MdState)
    (proxy : PortProxy) (skb : RxSkb) :
    (∃ received ∈ recvSkb.call hifId index mdState proxy skb, Honours skb received) ↔
      RecvSafe recvSkb hifId index mdState proxy skb := by
  cases recvSkb with
  | portProxy => exact portProxyRecvSkb_honours hifId index mdState proxy skb
  | dedicatedQueue =>
    rw [← dedicatedQueue_honours hifId index mdState proxy skb]
    constructor
    · rintro ⟨_, returned, honours⟩
      cases returned
      exact honours
    · exact fun honours => ⟨_, rfl, honours⟩

end Contract

end T7xxModel.Cldma
