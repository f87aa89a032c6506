import Mathlib.Algebra.GroupWithZero.Nat
import Mathlib.Data.Fin.Basic
import Mathlib.Data.List.FinRange
import Mathlib.Logic.Function.Basic
import T7xx.Kernel.Errno

namespace T7xxModel.Cldma

def CLDMA_TXQ_NUM : Nat := 8
def TXRX_STATUS_BITMASK : BitVec 16 := 0x00ff
def MAX_TX_BUDGET : Nat := 16
instance : NeZero MAX_TX_BUDGET := ⟨by decide⟩

def GPD_FLAGS_HWO : BitVec 8 := 0x01
def GPD_FLAGS_IOC : BitVec 8 := 0x80

structure SkBuff where
  addr : Nat
  len : Nat
deriving DecidableEq, Repr

structure CldmaGpd where
  flags : BitVec 8
  dataBuffBdPtr : Nat
  dataBuffLen : BitVec 16
deriving DecidableEq, Repr

/-- `struct cldma_request`; `mappedBuff` is `none` where it holds a mapping error. -/
structure CldmaRequest where
  gpd : CldmaGpd
  gpdAddr : Nat
  skb : Option SkBuff
  mappedBuff : Option Nat
deriving DecidableEq, Repr

/-- A TX `struct cldma_queue` with the requests of its ring, in the order of `gpd_ring`. -/
structure CldmaQueue (length : Nat) where
  request : Fin length → CldmaRequest
  trDone : Fin length
  txNext : Fin length
  budget : Int

inductive UlCommand where
  | start (qno : Nat)
  | resume (qno : Nat)
  | stopAll
deriving DecidableEq, Repr

/-- The TX side of `struct cldma_ctrl`. Of the registers it keeps the start addresses, 0 after the
    device was powered off, and the commands written. -/
structure CldmaCtrl (length : Nat) where
  txq : Nat → CldmaQueue length
  txqActive : BitVec 16
  txqStarted : BitVec 16
  ulStartAddr : Nat → Nat
  ulCommands : List UlCommand

structure Disposed where
  skb : SkBuff
  unmapped : Option (Option Nat × BitVec 16)
deriving DecidableEq, Repr

def CldmaGpd.hwo (gpd : CldmaGpd) : Bool := gpd.flags &&& GPD_FLAGS_HWO ≠ 0

theorem hwo_cleared (flags : BitVec 8) : flags &&& ~~~GPD_FLAGS_HWO &&& GPD_FLAGS_HWO = 0 := by
  rw [BitVec.and_assoc, BitVec.and_comm (~~~GPD_FLAGS_HWO), BitVec.and_not_self]
  exact BitVec.and_zero

variable {length : Nat}

def CldmaQueue.setRequest (queue : CldmaQueue length) (i : Fin length) (req : CldmaRequest) :
    CldmaQueue length :=
  { queue with request := Function.update queue.request i req }

def CldmaCtrl.setTxq (ctrl : CldmaCtrl length) (qno : Nat) (queue : CldmaQueue length) :
    CldmaCtrl length :=
  { ctrl with txq := Function.update ctrl.txq qno queue }

def CldmaCtrl.isActive (ctrl : CldmaCtrl length) (qno : Nat) : Bool := ctrl.txqActive.getLsbD qno

section Sending

/-- The first lines of `t7xx_cldma_gpd_handle_tx_request`, with the result of `dma_map_single`. On
    an error they are all it does. -/
def mapTxRequest (queue : CldmaQueue length) (txReq : Fin length) (skb : SkBuff)
    (mapping : Option Nat) : CldmaQueue length :=
  let req := { queue.request txReq with mappedBuff := mapping }
  match mapping with
  | none => queue.setRequest txReq req
  | some addr =>
    queue.setRequest txReq
      { req with gpd := ⟨req.gpd.flags, addr, BitVec.ofNat 16 skb.len⟩ }

def setGpdHwo (queue : CldmaQueue length) (txReq : Fin length) (active : Bool) : CldmaQueue length :=
  let req := queue.request txReq
  if active then
    queue.setRequest txReq { req with gpd := { req.gpd with flags := req.gpd.flags ||| GPD_FLAGS_HWO } }
  else queue

def storeTxSkb (queue : CldmaQueue length) (txReq : Fin length) (skb : SkBuff) : CldmaQueue length :=
  queue.setRequest txReq { queue.request txReq with skb := some skb }

/-- `t7xx_cldma_gpd_handle_tx_request`; its result is not looked at. -/
def gpdHandleTxRequest (queue : CldmaQueue length) (txReq : Fin length) (skb : SkBuff)
    (mapping : Option Nat) (active : Bool) : CldmaQueue length :=
  let queue := mapTxRequest queue txReq skb mapping
  if mapping = none then queue else storeTxSkb (setGpdHwo queue txReq active) txReq skb

def CldmaQueue.hasRoom (queue : CldmaQueue length) : Bool :=
  0 < queue.budget && (queue.request queue.txNext).skb.isNone

def CldmaQueue.takeBudget (queue : CldmaQueue length) : CldmaQueue length :=
  { queue with budget := queue.budget - 1 }

variable [NeZero length] in
def CldmaQueue.advance (queue : CldmaQueue length) (txReq : Fin length) : CldmaQueue length :=
  { queue with txNext := txReq + 1 }

/-- `t7xx_cldma_hw_start_send`; `queueStatus` is what the status register says of the queue. -/
def hwStartSend (ctrl : CldmaCtrl length) (qno : Nat) (prevReq : Fin length) (queueStatus : Bool) :
    CldmaCtrl length :=
  let bit := BitVec.twoPow 16 qno
  let ctrl :=
    if ctrl.ulStartAddr qno ≠ 0 then ctrl
    else
      { ctrl with
        ulStartAddr := Function.update ctrl.ulStartAddr qno ((ctrl.txq qno).request prevReq).gpdAddr
        txqStarted := ctrl.txqStarted &&& ~~~bit }
  if queueStatus then ctrl
  else
    let command := if ctrl.txqStarted &&& bit ≠ 0 then UlCommand.resume qno else .start qno
    { ctrl with ulCommands := ctrl.ulCommands ++ [command], txqStarted := ctrl.txqStarted ||| bit }

theorem hwStartSend_txq (ctrl : CldmaCtrl length) (qno : Nat) (prevReq : Fin length)
    (queueStatus : Bool) : (hwStartSend ctrl qno prevReq queueStatus).txq = ctrl.txq := by
  unfold hwStartSend
  dsimp only
  split <;> split <;> rfl

end Sending

section Reclaiming

variable [NeZero length]

/-- One round of `t7xx_cldma_gpd_tx_collect`, which ends the loop at `none`. -/
def gpdTxCollect (queue : CldmaQueue length) : Option (CldmaQueue length × Disposed) :=
  let req := queue.request queue.trDone
  match req.skb with
  | none => none
  | some skb =>
    if req.gpd.hwo then none
    else
      let rest := queue.setRequest queue.trDone { req with skb := none }
      some ({ rest with budget := queue.budget + 1, trDone := queue.trDone + 1 },
        ⟨skb, some (req.mappedBuff, req.gpd.dataBuffLen)⟩)

def qReset (queue : CldmaQueue length) : CldmaQueue length :=
  { queue with trDone := 0, txNext := 0, budget := length }

def txqInit (gpdAddr : Fin length → Nat) : CldmaQueue length :=
  qReset ⟨fun i => ⟨⟨GPD_FLAGS_IOC, 0, 0⟩, gpdAddr i, none, none⟩, 0, 0, 0⟩

/-- `t7xx_cldma_clear_txq`, which unmaps nothing, and the buffers it frees. -/
def clearTxq (queue : CldmaQueue length) : CldmaQueue length × List Disposed :=
  let clear (req : CldmaRequest) : CldmaRequest :=
    { req with gpd := ⟨req.gpd.flags &&& ~~~GPD_FLAGS_HWO, 0, 0⟩, skb := none }
  ({ qReset queue with request := fun i => clear (queue.request i) },
    (List.finRange length).filterMap fun i => (queue.request i).skb.map (⟨·, none⟩))

end Reclaiming

section Stopping

/-- `t7xx_cldma_stop_all_qs` for TX, which `t7xx_cldma_suspend` does too. -/
def stopAllQs (ctrl : CldmaCtrl length) : CldmaCtrl length :=
  { ctrl with
    txqActive := ctrl.txqActive &&& ~~~TXRX_STATUS_BITMASK
    ulCommands := ctrl.ulCommands ++ [.stopAll] }

def suspend (ctrl : CldmaCtrl length) : CldmaCtrl length := { stopAllQs ctrl with txqStarted := 0 }

def resume (ctrl : CldmaCtrl length) : CldmaCtrl length :=
  { ctrl with txqActive := ctrl.txqActive ||| TXRX_STATUS_BITMASK }

end Stopping

section Holding

def CldmaQueue.Holds (queue : CldmaQueue length) (skb : SkBuff) : Prop :=
  ∃ i, (queue.request i).skb = some skb

theorem setGpdHwo_kept (queue : CldmaQueue length) (txReq i : Fin length) (active : Bool) :
    ((setGpdHwo queue txReq active).request i).skb = (queue.request i).skb ∧
      ((setGpdHwo queue txReq active).request i).mappedBuff = (queue.request i).mappedBuff := by
  unfold setGpdHwo
  split
  · by_cases here : i = txReq
    · simp [CldmaQueue.setRequest, here]
    · simp [CldmaQueue.setRequest, here]
  · exact ⟨rfl, rfl⟩

theorem setGpdHwo_hwo (queue : CldmaQueue length) (txReq : Fin length) (active : Bool) :
    ((setGpdHwo queue txReq active).request txReq).gpd.hwo =
      (active || (queue.request txReq).gpd.hwo) := by
  cases active
  · simp [setGpdHwo]
  · have set (flags : BitVec 8) : (flags ||| GPD_FLAGS_HWO) &&& GPD_FLAGS_HWO ≠ 0 := by
      intro clear
      have bit := congrArg (BitVec.getLsbD · 0) clear
      simp [GPD_FLAGS_HWO] at bit
    have kept := set (queue.request txReq).gpd.flags
    simpa [setGpdHwo, CldmaQueue.setRequest, CldmaGpd.hwo] using kept

theorem mapTxRequest_skb (queue : CldmaQueue length) (txReq i : Fin length) (skb : SkBuff)
    (mapping : Option Nat) :
    ((mapTxRequest queue txReq skb mapping).request i).skb = (queue.request i).skb := by
  unfold mapTxRequest
  by_cases here : i = txReq
  · cases mapping <;> simp [CldmaQueue.setRequest, here]
  · cases mapping <;> simp [CldmaQueue.setRequest, here]

theorem storeTxSkb_holds {queue : CldmaQueue length} {txReq : Fin length}
    (free : (queue.request txReq).skb = none) (skb other : SkBuff) :
    (storeTxSkb queue txReq skb).Holds other ↔ queue.Holds other ∨ skb = other := by
  constructor
  · rintro ⟨i, held⟩
    by_cases here : i = txReq
    · right
      simpa [storeTxSkb, CldmaQueue.setRequest, here] using held
    · left
      exact ⟨i, by simpa [storeTxSkb, CldmaQueue.setRequest, here] using held⟩
  · rintro (⟨i, held⟩ | rfl)
    · have elsewhere : i ≠ txReq := by
        rintro rfl
        rw [free] at held
        cases held
      exact ⟨i, by simpa [storeTxSkb, CldmaQueue.setRequest, elsewhere] using held⟩
    · exact ⟨txReq, by simp [storeTxSkb, CldmaQueue.setRequest]⟩

variable [NeZero length]

theorem gpdTxCollect_holds {queue rest : CldmaQueue length} {disposed : Disposed}
    (collected : gpdTxCollect queue = some (rest, disposed)) (skb : SkBuff) :
    queue.Holds skb ↔ rest.Holds skb ∨ disposed.skb = skb := by
  simp only [gpdTxCollect] at collected
  split at collected
  · cases collected
  rename_i done present
  split at collected
  · cases collected
  cases collected
  constructor
  · rintro ⟨i, held⟩
    by_cases here : i = queue.trDone
    · right
      rw [here, present] at held
      exact Option.some.inj held
    · left
      exact ⟨i, by simpa [CldmaQueue.setRequest, here] using held⟩
  · rintro (⟨i, held⟩ | same)
    · by_cases here : i = queue.trDone
      · simp [CldmaQueue.setRequest, here] at held
      · exact ⟨i, by simpa [CldmaQueue.setRequest, here] using held⟩
    · exact ⟨queue.trDone, by rw [present, ← same]⟩

theorem clearTxq_holds (queue : CldmaQueue length) (skb : SkBuff) :
    queue.Holds skb ↔ ∃ disposed ∈ (clearTxq queue).2, disposed.skb = skb := by
  constructor
  · rintro ⟨i, held⟩
    refine ⟨⟨skb, none⟩, ?_, rfl⟩
    exact List.mem_filterMap.mpr ⟨i, List.mem_finRange i, by rw [held]; rfl⟩
  · rintro ⟨disposed, member, rfl⟩
    obtain ⟨i, _, freed⟩ := List.mem_filterMap.mp member
    obtain ⟨skb, held, rfl⟩ := Option.map_eq_some_iff.mp freed
    exact ⟨i, held⟩

theorem clearTxq_empty (queue : CldmaQueue length) (skb : SkBuff) :
    ¬ (clearTxq queue).1.Holds skb := by
  rintro ⟨i, held⟩
  cases held

end Holding

end T7xxModel.Cldma
