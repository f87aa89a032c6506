import T7xx.Cldma.LateInit
import T7xx.Ring.Chain

namespace T7xxModel.Cldma.Gpd

open Transition

/-- `struct cldma_gpd` as it lies in memory. -/
structure CldmaGpd where
  flags : BitVec 8
  rxDataAllowLen : BitVec 16
  nextGpdPtrH : BitVec 32
  nextGpdPtrL : BitVec 32
  dataBuffBdPtrH : BitVec 32
  dataBuffBdPtrL : BitVec 32
  dataBuffLen : BitVec 16
deriving DecidableEq, Repr

structure CldmaRequest where
  gpd : CldmaGpd
  gpdAddr : BitVec 64
  skb : Option SkBuff
  mappedBuff : Option (BitVec 64)
deriving DecidableEq, Repr

/-- `struct cldma_ring`; its requests go by the number of their allocation. -/
structure CldmaRing extends RequestRing where
  pktSize : Nat
  request : Nat → CldmaRequest

structure CldmaQueue where
  dir : Dir
  trRing : CldmaRing
  trDone : Option Nat
  rxRefill : Option Nat
  txNext : Option Nat
  budget : Int

/-- How `t7xx_cldma_alloc_and_map_skb` ends. -/
inductive SkbAlloc where
  | noMemory
  | mappingError
  | mapped (skb : SkBuff) (addr : BitVec 64)

/-- What becomes of the allocations for a request: `gpdAddr` is the bus address that `dma_pool_zalloc`
    finds for its GPD. -/
structure RequestAlloc where
  req : Bool
  gpdAddr : Option (BitVec 64)
  skb : SkbAlloc

def DMA_MAPPING_ERROR : BitVec 64 := ~~~0

section Pointers

def upper32Bits (n : BitVec 64) : BitVec 32 := n.extractLsb' 32 32
def lower32Bits (n : BitVec 64) : BitVec 32 := n.extractLsb' 0 32

def CldmaGpd.setDataPtr (dataPtr : BitVec 64) (gpd : CldmaGpd) : CldmaGpd :=
  { gpd with dataBuffBdPtrH := upper32Bits dataPtr, dataBuffBdPtrL := lower32Bits dataPtr }

def CldmaGpd.setNextPtr (nextPtr : BitVec 64) (gpd : CldmaGpd) : CldmaGpd :=
  { gpd with nextGpdPtrH := upper32Bits nextPtr, nextGpdPtrL := lower32Bits nextPtr }

def CldmaGpd.nextPtr (gpd : CldmaGpd) : BitVec 64 := gpd.nextGpdPtrH ++ gpd.nextGpdPtrL

def CldmaRing.setRequest (ring : CldmaRing) (i : Nat) (req : CldmaRequest) : CldmaRing :=
  { ring with request := Function.update ring.request i req }

def CldmaQueue.setRequest (queue : CldmaQueue) (i : Nat) (req : CldmaRequest) : CldmaQueue :=
  { queue with trRing := queue.trRing.setRequest i req }

end Pointers

section Setup

def zeroRequest : CldmaRequest := ⟨⟨0, 0, 0, 0, 0, 0, 0⟩, 0, none, none⟩

def allocAndMapSkb (alloc : SkbAlloc) (req : CldmaRequest) : CldmaRequest × Int :=
  match alloc with
  | .noMemory => ({ req with skb := none }, -ENOMEM)
  | .mappingError => ({ req with skb := none, mappedBuff := none }, -ENOMEM)
  | .mapped skb addr => ({ req with skb := some skb, mappedBuff := some addr }, 0)

def allocTxRequest (alloc : RequestAlloc) : Option CldmaRequest :=
  if alloc.req = false then none
  else
    match alloc.gpdAddr with
    | none => none
    | some gpdAddr => some { zeroRequest with gpdAddr }

def allocRxRequest (alloc : RequestAlloc) : Option CldmaRequest :=
  if alloc.req = false then none
  else
    match alloc.gpdAddr with
    | none => none
    | some gpdAddr =>
      let (req, val) := allocAndMapSkb alloc.skb { zeroRequest with gpdAddr }
      if val ≠ 0 then none else some req

/-- A request as the loop of `t7xx_cldma_tx_ring_init` adds it to the ring. -/
def newTxRequest (alloc : RequestAlloc) : Option CldmaRequest :=
  (allocTxRequest alloc).map fun req => { req with gpd := { req.gpd with flags := GPD_FLAGS_IOC } }

def newRxRequest (pktSize : Nat) (alloc : RequestAlloc) : Option CldmaRequest :=
  (allocRxRequest alloc).map fun req =>
    { req with
      gpd := { req.gpd.setDataPtr (req.mappedBuff.getD 0) with
        rxDataAllowLen := BitVec.ofNat 16 pktSize
        flags := GPD_FLAGS_IOC ||| GPD_FLAGS_HWO } }

/-- The first loop of both functions, with the request that `gpd` belongs to after it; without memory
    the requests made so far are freed again. -/
def fillRing (made : RequestAlloc → Option CldmaRequest) (allocs : Nat → RequestAlloc) :
    Nat → CldmaRing → Option Nat → Option (CldmaRing × Option Nat)
  | 0, ring, gpd => some (ring, gpd)
  | left + 1, ring, _ =>
    let i := ring.gpdRing.length
    match made (allocs i) with
    | none => none
    | some req =>
      let ring := { ring.setRequest i req with gpdRing := ring.gpdRing ++ [i] }
      fillRing made allocs left ring (some i)

/-- The second loop, over the requests that are left; it writes through `gpd` first and sets it then. -/
def linkRing : List Nat → Option Nat → CldmaRing → Option CldmaRing
  | [], _, ring => some ring
  | _ :: _, none, _ => none
  | req :: rest, some gpd, ring =>
    let last := ring.request gpd
    let linked := { last with gpd := last.gpd.setNextPtr (ring.request req).gpdAddr }
    linkRing rest (some req) (ring.setRequest gpd linked)

def ringInit (made : RequestAlloc → Option CldmaRequest) (length pktSize : Nat)
    (allocs : Nat → RequestAlloc) : Option CldmaRing :=
  let empty : CldmaRing := { gpdRing := [], length, pktSize, request := fun _ => zeroRequest }
  (fillRing made allocs length empty none).bind fun (ring, gpd) => linkRing ring.gpdRing gpd ring

/-- `t7xx_cldma_tx_ring_init` and `t7xx_cldma_rx_ring_init`, for any length. -/
def txRingInit (length pktSize : Nat) (allocs : Nat → RequestAlloc) : Option CldmaRing :=
  ringInit newTxRequest length pktSize allocs

def rxRingInit (length pktSize : Nat) (allocs : Nat → RequestAlloc) : Option CldmaRing :=
  ringInit (newRxRequest pktSize) length pktSize allocs

def qReset (queue : CldmaQueue) : CldmaQueue :=
  let req := queue.trRing.gpdRing.head?
  let queue := { queue with trDone := req, budget := queue.trRing.length }
  match queue.dir with
  | .tx => { queue with txNext := req }
  | .rx => { queue with rxRefill := req }

/-- `t7xx_cldma_txq_init` and `t7xx_cldma_rxq_init`. -/
def qInit (dir : Dir) (trRing : CldmaRing) : CldmaQueue :=
  qReset { dir, trRing, trDone := none, rxRefill := none, txNext := none, budget := 0 }

end Setup

section Traffic

/-- What a round of `t7xx_cldma_gpd_rx_from_q` meets: the result of the callback and the buffer it
    leaves, the new buffer. -/
structure RoundAnswers where
  ret : Int
  left : SkBuff
  alloc : SkbAlloc

def CldmaGpd.hwo (gpd : CldmaGpd) : Bool := gpd.flags &&& GPD_FLAGS_HWO ≠ 0

/-- `t7xx_cldma_gpd_handle_tx_request`; a mapping error ends it at once. -/
def gpdHandleTxRequest (skb : SkBuff) (mapping : Option (BitVec 64)) (active : Bool)
    (txReq : CldmaRequest) : CldmaRequest :=
  match mapping with
  | none => { txReq with mappedBuff := some DMA_MAPPING_ERROR }
  | some mappedBuff =>
    let gpd := { txReq.gpd.setDataPtr mappedBuff with dataBuffLen := BitVec.ofNat 16 skb.len }
    let flags := if active then gpd.flags ||| GPD_FLAGS_HWO else gpd.flags
    { txReq with gpd := { gpd with flags }, skb := some skb, mappedBuff := some mappedBuff }

/-- The part of `t7xx_cldma_send_skb` that fills a request; without room for it the call waits. -/
def sendSkb (skb : SkBuff) (mapping : Option (BitVec 64)) (active : Bool) (queue : CldmaQueue) :
    Option CldmaQueue :=
  match queue.txNext with
  | none => none
  | some txReq =>
    let req := queue.trRing.request txReq
    if 0 < queue.budget ∧ req.skb = none then
      let filled := queue.setRequest txReq (gpdHandleTxRequest skb mapping active req)
      some { filled with
        budget := queue.budget - 1
        txNext := queue.trRing.stepForward txReq }
    else none

/-- A round of `t7xx_cldma_gpd_tx_collect`, which ends the loop at `none`. -/
def gpdTxCollect (queue : CldmaQueue) : Option CldmaQueue :=
  match queue.trDone with
  | none => none
  | some done =>
    let req := queue.trRing.request done
    if req.gpd.hwo = true ∨ req.skb = none then none
    else
      let freed := queue.setRequest done { req with skb := none }
      some { freed with budget := queue.budget + 1, trDone := queue.trRing.stepForward done }

/-- The end of a round of `t7xx_cldma_gpd_rx_from_q`: a new buffer for the request at `rx_refill`. -/
def rxRefill (alloc : SkbAlloc) (queue : CldmaQueue) : CldmaQueue :=
  match queue.rxRefill with
  | none => queue
  | some refill =>
    let (req, ret) := allocAndMapSkb alloc (queue.trRing.request refill)
    if ret ≠ 0 then queue.setRequest refill req
    else
      let gpd := req.gpd.setDataPtr (req.mappedBuff.getD 0)
      let posted := queue.setRequest refill { req with
        gpd := { gpd with dataBuffLen := 0, flags := GPD_FLAGS_IOC ||| GPD_FLAGS_HWO } }
      { posted with rxRefill := queue.trRing.stepForward refill }

/-- A round of `t7xx_cldma_gpd_rx_from_q`; where there is nothing to receive it only polls. -/
def gpdRxFromQ (answers : RoundAnswers) (queue : CldmaQueue) : CldmaQueue :=
  match queue.trDone with
  | none => queue
  | some done =>
    let req := { queue.trRing.request done with mappedBuff := none }
    if req.gpd.hwo = true ∨ req.skb = none then queue
    else if answers.ret < 0 then queue.setRequest done { req with skb := some answers.left }
    else
      let taken := queue.setRequest done { req with skb := none, gpd := req.gpd.setDataPtr 0 }
      rxRefill answers.alloc { taken with trDone := queue.trRing.stepForward done }

def clearTxRequest (req : CldmaRequest) : CldmaRequest :=
  let gpd := { req.gpd with flags := req.gpd.flags &&& ~~~GPD_FLAGS_HWO }
  { req with gpd := { gpd.setDataPtr 0 with dataBuffLen := 0 }, skb := none }

def clearRxRequest (req : CldmaRequest) : CldmaRequest :=
  { req with
    gpd := { req.gpd with flags := GPD_FLAGS_IOC ||| GPD_FLAGS_HWO, dataBuffLen := 0 }
    skb := req.skb.map fun skb => { skb with len := 0 } }

/-- `list_for_each_entry` with a body that changes the request. -/
def forEachRequest (body : CldmaRequest → CldmaRequest) (gpdRing : List Nat) (ring : CldmaRing) :
    CldmaRing := gpdRing.foldl (fun ring i => ring.setRequest i (body (ring.request i))) ring

def clearTxq (queue : CldmaQueue) : CldmaQueue :=
  let queue := qReset queue
  { queue with trRing := forEachRequest clearTxRequest queue.trRing.gpdRing queue.trRing }

/-- The second loop of `t7xx_cldma_clear_rxq`, which the first error ends. -/
def clearRefill (alloc : Nat → SkbAlloc) : List Nat → CldmaRing → CldmaRing
  | [], ring => ring
  | i :: rest, ring =>
    if (ring.request i).skb.isSome then clearRefill alloc rest ring
    else
      let (req, ret) := allocAndMapSkb (alloc i) (ring.request i)
      if ret ≠ 0 then ring.setRequest i req
      else
        let gpd := req.gpd.setDataPtr (req.mappedBuff.getD 0)
        clearRefill alloc rest (ring.setRequest i { req with gpd })

def clearRxq (alloc : Nat → SkbAlloc) (queue : CldmaQueue) : CldmaQueue :=
  let queue := qReset queue
  let cleared := forEachRequest clearRxRequest queue.trRing.gpdRing queue.trRing
  { queue with trRing := clearRefill alloc cleared.gpdRing cleared }

/-- The device is done with a GPD: it takes HWO away and, on RX, says how much it received. -/
def hwDone (dir : Dir) (dataBuffLen : BitVec 16) (req : CldmaRequest) : CldmaRequest :=
  let gpd := { req.gpd with flags := req.gpd.flags &&& ~~~GPD_FLAGS_HWO }
  match dir with
  | .tx => { req with gpd }
  | .rx => { req with gpd := { gpd with dataBuffLen } }

inductive QueueLabel where
  | send (skb : SkBuff) (mapping : Option (BitVec 64)) (active : Bool)
  | collect
  | receive (answers : RoundAnswers)
  | clearTx
  | clearRx (alloc : Nat → SkbAlloc)
  | hwDone (i : Nat) (dataBuffLen : BitVec 16)

def CldmaQueue.step (queue : CldmaQueue) : QueueLabel → Option CldmaQueue
  | .send skb mapping active => if queue.dir = .tx then sendSkb skb mapping active queue else none
  | .collect => if queue.dir = .tx then gpdTxCollect queue else none
  | .receive answers => if queue.dir = .rx then some (gpdRxFromQ answers queue) else none
  | .clearTx => if queue.dir = .tx then some (clearTxq queue) else none
  | .clearRx alloc => if queue.dir = .rx then some (clearRxq alloc queue) else none
  | .hwDone i dataBuffLen =>
    let req := queue.trRing.request i
    if i ∈ queue.trRing.gpdRing ∧ req.gpd.hwo = true then
      some (queue.setRequest i (hwDone queue.dir dataBuffLen req))
    else none

end Traffic

section Walking

def CldmaRing.gpdAt (ring : CldmaRing) (addr : BitVec 64) : Option CldmaGpd :=
  (ring.gpdRing.find? fun i => (ring.request i).gpdAddr = addr).map fun i => (ring.request i).gpd

/-- Where the device goes from the GPD at `addr`. -/
def CldmaRing.hwNext (ring : CldmaRing) (addr : BitVec 64) : Option (BitVec 64) :=
  (ring.gpdAt addr).map CldmaGpd.nextPtr

/-- From any request the list and the device go through all requests of the ring, each once, in the
    same order, and are then back. -/
def CircuitFrom (ring : CldmaRing) (req : Nat) : Prop :=
  ∃ walk, walk.Perm ring.gpdRing ∧
    Ring.chain ring.stepForward (ring.length + 1) req = walk ++ [req] ∧
    Ring.chain ring.hwNext (ring.length + 1) (ring.request req).gpdAddr =
      (walk ++ [req]).map fun i => (ring.request i).gpdAddr

structure HwFollowsList (ring : CldmaRing) : Prop where
  count : ring.gpdRing.length = ring.length
  apart : (ring.gpdRing.map fun i => (ring.request i).gpdAddr).Nodup
  circuit : ∀ req ∈ ring.gpdRing, CircuitFrom ring req

/-- What the linking has to achieve, place by place. -/
structure Linked (n : Nat) (ring : CldmaRing) : Prop where
  numbers : ring.gpdRing = List.range n
  length : ring.length = n
  links : ∀ i < n, (ring.request i).gpd.nextPtr = (ring.request (Ring.next n i)).gpdAddr
  apart : ∀ i < n, ∀ j < n, (ring.request i).gpdAddr = (ring.request j).gpdAddr → i = j

variable {n : Nat} {ring : CldmaRing} {i : Nat}

theorem Linked.stepForward (linked : Linked n ring) (place : i < n) :
    ring.stepForward i = some (Ring.next n i) := by
  have positive : 0 < n := by omega
  have after : Ring.next n i = (i + 1) % n := by
    rw [← Ring.next_mod i positive, Nat.mod_eq_of_lt place]
  have index : (List.range n).idxOf i = i := by
    have inside := List.idxOf_lt_length_iff.mpr (List.mem_range.mpr place)
    have found := List.getElem_idxOf inside
    rwa [List.getElem_range] at found
  unfold RequestRing.stepForward
  rw [linked.numbers, if_pos (List.mem_range.mpr place), index, List.length_range, after]
  exact List.getElem?_range (Nat.mod_lt _ positive)

theorem Linked.gpdAt (linked : Linked n ring) (place : i < n) :
    ring.gpdAt (ring.request i).gpdAddr = some (ring.request i).gpd := by
  have found : ∃ j, (ring.gpdRing.find? fun j =>
      (ring.request j).gpdAddr = (ring.request i).gpdAddr) = some j := by
    rw [← Option.isSome_iff_exists, List.find?_isSome]
    exact ⟨i, by rw [linked.numbers]; exact List.mem_range.mpr place, by simp⟩
  obtain ⟨j, first⟩ := found
  have same := List.find?_some first
  have member := List.mem_of_find?_eq_some first
  rw [linked.numbers, List.mem_range] at member
  rw [decide_eq_true_eq] at same
  unfold CldmaRing.gpdAt
  rw [first, Option.map_some, linked.apart j member i place same]

theorem Linked.hwNext (linked : Linked n ring) (place : i < n) :
    ring.hwNext (ring.request i).gpdAddr = some (ring.request (Ring.next n i)).gpdAddr := by
  unfold CldmaRing.hwNext
  rw [linked.gpdAt place, Option.map_some, linked.links i place]

theorem Linked.hwFollowsList (linked : Linked n ring) : HwFollowsList ring := by
  refine ⟨?_, ?_, ?_⟩
  · rw [linked.numbers, linked.length, List.length_range]
  · rw [linked.numbers]
    apply List.Nodup.map_on _ List.nodup_range
    intro i first j second
    exact linked.apart i (List.mem_range.mp first) j (List.mem_range.mp second)
  · intro req member
    rw [linked.numbers, List.mem_range] at member
    have listed := Ring.chain_slots (fun i place => linked.stepForward place) (n + 1) member
    have followed := @Ring.chain_map _ _ ring.stepForward ring.hwNext
      (fun i => (ring.request i).gpdAddr) (· < n)
      (fun i place => ⟨_, linked.stepForward place, Ring.next_lt place, linked.hwNext place⟩)
      (n + 1) req member
    refine ⟨Ring.slots n req n, ?_, ?_, ?_⟩
    · rw [linked.numbers]
      exact Ring.slots_perm req (by omega)
    · rw [linked.length, listed, Ring.slots_turn member]
    · rw [linked.length, followed, listed, Ring.slots_turn member]

end Walking

section Linking

variable {n k left gpd : Nat} {ring : CldmaRing}

theorem nextPtr_setNextPtr (addr : BitVec 64) (gpd : CldmaGpd) : (gpd.setNextPtr addr).nextPtr = addr := by
  unfold CldmaGpd.setNextPtr CldmaGpd.nextPtr upper32Bits lower32Bits
  exact BitVec.extractLsb'_append_extractLsb'

theorem linkRing_requestRing {reqs : List Nat} {gpd : Option Nat} {linked : CldmaRing}
    (done : linkRing reqs gpd ring = some linked) : linked.toRequestRing = ring.toRequestRing := by
  induction reqs generalizing gpd ring with
  | nil =>
    cases done
    rfl
  | cons req rest ih =>
    cases gpd with
    | none => cases done
    | some gpd =>
      have kept := ih done
      exact kept

/-- The loop links each request that is left to the one behind it, and `gpd` to the first of them. -/
theorem linkRing_range (whole : k + left = n) :
    ∃ linked, linkRing (List.range' k left) (some gpd) ring = some linked ∧ ∀ i,
        (linked.request i).gpdAddr = (ring.request i).gpdAddr ∧
        (linked.request i).gpd.nextPtr =
          if k ≤ i ∧ i + 1 < n then (ring.request (i + 1)).gpdAddr
          else if i = gpd ∧ k < n then (ring.request k).gpdAddr
          else (ring.request i).gpd.nextPtr := by
  induction left generalizing k gpd ring with
  | zero =>
    refine ⟨ring, rfl, fun i => ⟨rfl, ?_⟩⟩
    rw [if_neg (by omega), if_neg (by omega)]
  | succ left ih =>
    let written := { ring.request gpd with
      gpd := (ring.request gpd).gpd.setNextPtr (ring.request k).gpdAddr }
    have addr (i : Nat) : ((ring.setRequest gpd written).request i).gpdAddr =
        (ring.request i).gpdAddr := by
      by_cases here : i = gpd
      · simp [CldmaRing.setRequest, here, written]
      · simp [CldmaRing.setRequest, here]
    have next (i : Nat) : ((ring.setRequest gpd written).request i).gpd.nextPtr =
        if i = gpd then (ring.request k).gpdAddr else (ring.request i).gpd.nextPtr := by
      by_cases here : i = gpd
      · simp [CldmaRing.setRequest, here, written, nextPtr_setNextPtr]
      · simp [CldmaRing.setRequest, here]
    obtain ⟨linked, done, links⟩ := @ih (k + 1) k (ring.setRequest gpd written) (by omega)
    refine ⟨linked, done, fun i => ⟨(links i).1.trans (addr i), ?_⟩⟩
    rw [(links i).2, addr, addr, next]
    by_cases later : k + 1 ≤ i ∧ i + 1 < n
    · rw [if_pos later, if_pos ⟨by omega, later.2⟩]
    · by_cases first : i = k ∧ k + 1 < n
      · obtain ⟨rfl, more⟩ := first
        rw [if_neg later, if_pos ⟨rfl, more⟩, if_pos ⟨Nat.le_refl i, more⟩]
      · have beyond : ¬ (k ≤ i ∧ i + 1 < n) := by omega
        rw [if_neg later, if_neg first, if_neg beyond]
        by_cases here : i = gpd
        · rw [if_pos here, if_pos ⟨here, by omega⟩]
        · rw [if_neg here, if_neg fun both => here both.1]

theorem fillRing_length {made : RequestAlloc → Option CldmaRequest} {allocs : Nat → RequestAlloc}
    {left : Nat} {ring full : CldmaRing} {gpd last : Option Nat}
    (done : fillRing made allocs left ring gpd = some (full, last)) : full.length = ring.length := by
  induction left generalizing ring gpd with
  | zero =>
    cases done
    rfl
  | succ left ih =>
    rw [fillRing] at done
    dsimp only at done
    cases alloc : made (allocs ring.gpdRing.length) with
    | none =>
      rw [alloc] at done
      cases done
    | some req =>
      rw [alloc] at done
      have kept := ih done
      exact kept

/-- What the first loop has made after `count` rounds. -/
structure Filled (allocs : Nat → RequestAlloc) (count : Nat) (ring : CldmaRing) (gpd : Option Nat) :
    Prop where
  numbers : ring.gpdRing = List.range count
  addrs : ∀ i < count, (allocs i).gpdAddr = some (ring.request i).gpdAddr
  last : ∀ i, count = i + 1 → gpd = some i

theorem fillRing_filled {made : RequestAlloc → Option CldmaRequest} {allocs : Nat → RequestAlloc}
    (kept : ∀ alloc req, made alloc = some req → alloc.gpdAddr = some req.gpdAddr)
    {left count : Nat} {ring full : CldmaRing} {gpd last : Option Nat}
    (filled : Filled allocs count ring gpd)
    (done : fillRing made allocs left ring gpd = some (full, last)) :
    Filled allocs (count + left) full last := by
  induction left generalizing count ring gpd with
  | zero =>
    cases done
    exact filled
  | succ left ih =>
    have number : ring.gpdRing.length = count := by rw [filled.numbers, List.length_range]
    rw [fillRing, number] at done
    dsimp only at done
    cases alloc : made (allocs count) with
    | none =>
      rw [alloc] at done
      cases done
    | some req =>
      rw [alloc] at done
      have more : Filled allocs (count + 1)
          { ring.setRequest count req with gpdRing := ring.gpdRing ++ [count] } (some count) := by
        refine ⟨?_, ?_, ?_⟩
        · rw [filled.numbers, List.range_succ]
        · intro i below
          by_cases here : i = count
          · rw [here, kept _ _ alloc]
            simp [CldmaRing.setRequest]
          · rw [filled.addrs i (by omega)]
            simp [CldmaRing.setRequest, here]
        · intro i last
          rw [Nat.succ_inj.mp last]
      have whole := ih more done
      rwa [Nat.add_right_comm] at whole

theorem ringInit_linked {made : RequestAlloc → Option CldmaRequest} {allocs : Nat → RequestAlloc}
    {length pktSize : Nat} (kept : ∀ alloc req, made alloc = some req → alloc.gpdAddr = some req.gpdAddr)
    (positive : 0 < length)
    (apart : ∀ i < length, ∀ j < length, ∀ addr, (allocs i).gpdAddr = some addr →
      (allocs j).gpdAddr = some addr → i = j)
    (done : ringInit made length pktSize allocs = some ring) : Linked length ring := by
  unfold ringInit at done
  dsimp only at done
  obtain ⟨⟨full, last⟩, filled, linked⟩ := Option.bind_eq_some_iff.mp done
  have empty : Filled allocs 0
      { gpdRing := [], length, pktSize, request := fun _ => zeroRequest } none :=
    ⟨rfl, fun i below => absurd below (Nat.not_lt_zero i), fun i none => by cases none⟩
  have whole := fillRing_filled kept empty filled
  rw [Nat.zero_add] at whole
  have same := linkRing_requestRing linked
  have count := fillRing_length filled
  obtain ⟨before, rfl⟩ := Nat.exists_eq_add_of_le' positive
  obtain ⟨after, made, links⟩ := @linkRing_range (before + 1) 0 (before + 1) before full (Nat.zero_add _)
  rw [whole.numbers, whole.last before rfl, List.range_eq_range', made] at linked
  obtain rfl : after = ring := Option.some.inj linked
  have addr {i : Nat} (place : i < before + 1) :
      (allocs i).gpdAddr = some (after.request i).gpdAddr := by
    rw [(links i).1, whole.addrs i place]
  refine ⟨?_, ?_, ?_, ?_⟩
  · rw [same, whole.numbers]
  · rw [same, count]
  · intro i place
    rw [(links i).2, Ring.next]
    by_cases more : i + 1 < before + 1
    · rw [if_pos ⟨Nat.zero_le i, more⟩, if_pos more, (links (i + 1)).1]
    · have last : i = before := by omega
      rw [if_neg (fun both => more both.2), if_pos ⟨last, positive⟩, if_neg more, (links 0).1]
  · intro i first j second equal
    exact apart i first j second _ (addr first) (by rw [addr second, equal])

theorem fillRing_gpdRing (made : RequestAlloc → Option CldmaRequest) (allocs : Nat → RequestAlloc)
    (left : Nat) (ring : CldmaRing) (gpd : Option Nat) :
    (fillRing made allocs left ring gpd).map (fun full => full.1.gpdRing) =
      allocRequests (fun i => (made (allocs i)).map fun _ => i) left ring.gpdRing := by
  induction left generalizing ring gpd with
  | zero => rfl
  | succ left ih =>
    rw [fillRing, allocRequests]
    dsimp only
    cases made (allocs ring.gpdRing.length) with
    | none => rfl
    | some req => exact ih _ _

/-- The ring of `t7xx_cldma_late_init` is this one without the contents of its requests. -/
theorem ringInit_requestRing {made : RequestAlloc → Option CldmaRequest} {allocs : Nat → RequestAlloc}
    {length pktSize : Nat} (done : ringInit made length pktSize allocs = some ring) :
    Cldma.ringInit length (fun i => (made (allocs i)).map fun _ => i) = (ring.toRequestRing, true) := by
  unfold ringInit at done
  dsimp only at done
  obtain ⟨⟨full, last⟩, filled, linked⟩ := Option.bind_eq_some_iff.mp done
  have numbers := fillRing_gpdRing made allocs length
    { gpdRing := [], length, pktSize, request := fun _ => zeroRequest } none
  rw [filled] at numbers
  unfold Cldma.ringInit
  rw [← numbers, linkRing_requestRing linked, Option.map_some]
  have kept := fillRing_length filled
  dsimp only at kept ⊢
  rw [← kept]

theorem newTxRequest_gpdAddr (alloc : RequestAlloc) (req : CldmaRequest)
    (made : newTxRequest alloc = some req) : alloc.gpdAddr = some req.gpdAddr := by
  obtain ⟨fresh, allocated, rfl⟩ := Option.map_eq_some_iff.mp made
  unfold allocTxRequest at allocated
  split at allocated
  · cases allocated
  · split at allocated
    · cases allocated
    · rename_i addr found
      cases allocated
      exact found

theorem newRxRequest_gpdAddr (pktSize : Nat) (alloc : RequestAlloc) (req : CldmaRequest)
    (made : newRxRequest pktSize alloc = some req) : alloc.gpdAddr = some req.gpdAddr := by
  obtain ⟨fresh, allocated, rfl⟩ := Option.map_eq_some_iff.mp made
  unfold allocRxRequest at allocated
  split at allocated
  · cases allocated
  · split at allocated
    · cases allocated
    · rename_i addr found
      rw [found]
      cases skb : alloc.skb <;> simp [allocAndMapSkb, skb, ENOMEM] at allocated
      rw [← allocated]

end Linking

section Frame

def CldmaRequest.link (req : CldmaRequest) : BitVec 32 × BitVec 32 × BitVec 64 :=
  (req.gpd.nextGpdPtrH, req.gpd.nextGpdPtrL, req.gpdAddr)

structure SameLinks (before after : CldmaRing) : Prop where
  ring : after.toRequestRing = before.toRequestRing
  links : ∀ i, (after.request i).link = (before.request i).link

inductive CursorStep (ring : RequestRing) (clears : Prop) (before : Option Nat) : Option Nat → Prop
  | stays : CursorStep ring clears before before
  | advances : CursorStep ring clears before (before.bind ring.stepForward)
  | resets (cleared : clears) : CursorStep ring clears before ring.gpdRing.head?

/-- What an operation on a queue may do to its ring and to its cursors. -/
structure QueueEffect (clears : Prop) (before after : CldmaQueue) : Prop where
  links : SameLinks before.trRing after.trRing
  done : CursorStep before.trRing.toRequestRing clears before.trDone after.trDone
  next : CursorStep before.trRing.toRequestRing clears before.txNext after.txNext
  refill : CursorStep before.trRing.toRequestRing clears before.rxRefill after.rxRefill

variable {ring : CldmaRing} {queue after : CldmaQueue} {clears : Prop}

theorem SameLinks.refl (ring : CldmaRing) : SameLinks ring ring := ⟨rfl, fun _ => rfl⟩

theorem SameLinks.trans {before middle after : CldmaRing} (first : SameLinks before middle)
    (second : SameLinks middle after) : SameLinks before after :=
  ⟨second.ring.trans first.ring, fun i => (second.links i).trans (first.links i)⟩

theorem setRequest_sameLinks {i : Nat} {req : CldmaRequest} (same : req.link = (ring.request i).link) :
    SameLinks ring (ring.setRequest i req) := by
  refine ⟨rfl, fun j => ?_⟩
  by_cases here : j = i
  · simp [CldmaRing.setRequest, here, same]
  · simp [CldmaRing.setRequest, here]

theorem gpdHandleTxRequest_link (skb : SkBuff) (mapping : Option (BitVec 64)) (active : Bool)
    (req : CldmaRequest) : (gpdHandleTxRequest skb mapping active req).link = req.link := by
  cases mapping <;> rfl

theorem allocAndMapSkb_link (alloc : SkbAlloc) (req : CldmaRequest) :
    (allocAndMapSkb alloc req).1.link = req.link := by
  cases alloc <;> rfl

theorem hwDone_link (dir : Dir) (dataBuffLen : BitVec 16) (req : CldmaRequest) :
    (hwDone dir dataBuffLen req).link = req.link := by
  cases dir <;> rfl

theorem forEachRequest_sameLinks {body : CldmaRequest → CldmaRequest}
    (kept : ∀ req, (body req).link = req.link) (gpdRing : List Nat) (ring : CldmaRing) :
    SameLinks ring (forEachRequest body gpdRing ring) := by
  unfold forEachRequest
  induction gpdRing generalizing ring with
  | nil => exact .refl ring
  | cons i rest ih =>
    rw [List.foldl_cons]
    exact (setRequest_sameLinks (kept (ring.request i))).trans (ih _)

theorem clearRefill_sameLinks (alloc : Nat → SkbAlloc) (gpdRing : List Nat) (ring : CldmaRing) :
    SameLinks ring (clearRefill alloc gpdRing ring) := by
  induction gpdRing generalizing ring with
  | nil => exact .refl ring
  | cons i rest ih =>
    have link := allocAndMapSkb_link (alloc i) (ring.request i)
    unfold clearRefill
    split
    · exact ih ring
    · dsimp only
      split
      · exact setRequest_sameLinks link
      · refine SameLinks.trans ?_ (ih _)
        exact setRequest_sameLinks link

theorem sendSkb_effect {skb : SkBuff} {mapping : Option (BitVec 64)} {active : Bool}
    (sent : sendSkb skb mapping active queue = some after) : QueueEffect False queue after := by
  unfold sendSkb at sent
  cases next : queue.txNext with
  | none =>
    rw [next] at sent
    cases sent
  | some txReq =>
    rw [next] at sent
    dsimp only at sent
    split at sent
    · cases sent
      refine ⟨setRequest_sameLinks (gpdHandleTxRequest_link skb mapping active _), .stays, ?_, .stays⟩
      rw [next]
      exact .advances
    · cases sent

theorem gpdTxCollect_effect (collected : gpdTxCollect queue = some after) :
    QueueEffect False queue after := by
  unfold gpdTxCollect at collected
  cases done : queue.trDone with
  | none =>
    rw [done] at collected
    cases collected
  | some req =>
    rw [done] at collected
    dsimp only at collected
    split at collected
    · cases collected
    · cases collected
      refine ⟨setRequest_sameLinks rfl, ?_, .stays, .stays⟩
      rw [done]
      exact .advances

theorem rxRefill_effect (alloc : SkbAlloc) (queue : CldmaQueue) :
    SameLinks queue.trRing (rxRefill alloc queue).trRing ∧
      (rxRefill alloc queue).trDone = queue.trDone ∧ (rxRefill alloc queue).txNext = queue.txNext ∧
      CursorStep queue.trRing.toRequestRing False queue.rxRefill (rxRefill alloc queue).rxRefill := by
  unfold rxRefill
  cases refill : queue.rxRefill with
  | none =>
    dsimp only
    rw [refill]
    exact ⟨.refl _, rfl, rfl, .stays⟩
  | some req =>
    have link := allocAndMapSkb_link alloc (queue.trRing.request req)
    dsimp only
    split
    · refine ⟨setRequest_sameLinks link, rfl, rfl, ?_⟩
      rw [← refill]
      exact .stays
    · exact ⟨setRequest_sameLinks link, rfl, rfl, .advances⟩

theorem gpdRxFromQ_effect (answers : RoundAnswers) (queue : CldmaQueue) :
    QueueEffect False queue (gpdRxFromQ answers queue) := by
  unfold gpdRxFromQ
  cases done : queue.trDone with
  | none => exact ⟨.refl _, .stays, .stays, .stays⟩
  | some req =>
    dsimp only
    split
    · exact ⟨.refl _, .stays, .stays, .stays⟩
    · split
      · exact ⟨setRequest_sameLinks rfl, .stays, .stays, .stays⟩
      · let freed : CldmaRequest := { queue.trRing.request req with mappedBuff := none, skb := none }
        let taken := queue.setRequest req { freed with gpd := freed.gpd.setDataPtr 0 }
        have same : SameLinks queue.trRing taken.trRing := setRequest_sameLinks rfl
        obtain ⟨links, kept, next, refill⟩ := rxRefill_effect answers.alloc
          { taken with trDone := queue.trRing.stepForward req }
        refine ⟨same.trans links, ?_, ?_, refill⟩
        · rw [kept, done]
          exact .advances
        · rw [next]
          exact .stays

theorem qReset_trRing (queue : CldmaQueue) : (qReset queue).trRing = queue.trRing := by
  unfold qReset
  cases queue.dir <;> rfl

theorem qReset_cursors (queue : CldmaQueue) (cleared : clears) :
    CursorStep queue.trRing.toRequestRing clears queue.trDone (qReset queue).trDone ∧
      CursorStep queue.trRing.toRequestRing clears queue.txNext (qReset queue).txNext ∧
      CursorStep queue.trRing.toRequestRing clears queue.rxRefill (qReset queue).rxRefill := by
  unfold qReset
  cases queue.dir with
  | tx => exact ⟨.resets cleared, .resets cleared, .stays⟩
  | rx => exact ⟨.resets cleared, .stays, .resets cleared⟩

theorem clearTxq_effect (queue : CldmaQueue) : QueueEffect True queue (clearTxq queue) := by
  obtain ⟨done, next, refill⟩ := qReset_cursors queue trivial
  refine ⟨?_, done, next, refill⟩
  rw [← qReset_trRing queue]
  exact @forEachRequest_sameLinks clearTxRequest (fun _ => rfl) _ _

theorem clearRxq_effect (alloc : Nat → SkbAlloc) (queue : CldmaQueue) :
    QueueEffect True queue (clearRxq alloc queue) := by
  obtain ⟨done, next, refill⟩ := qReset_cursors queue trivial
  refine ⟨?_, done, next, refill⟩
  rw [← qReset_trRing queue]
  refine SameLinks.trans ?_ (clearRefill_sameLinks alloc _ _)
  exact @forEachRequest_sameLinks clearRxRequest (fun _ => rfl) _ _

theorem QueueEffect.weaken (effect : QueueEffect False queue after) :
    QueueEffect clears queue after := by
  have weaken {before after : Option Nat}
      (moved : CursorStep queue.trRing.toRequestRing False before after) :
      CursorStep queue.trRing.toRequestRing clears before after := by
    cases moved with
    | stays => exact .stays
    | advances => exact .advances
    | resets cleared => exact cleared.elim
  exact ⟨effect.links, weaken effect.done, weaken effect.next, weaken effect.refill⟩

def QueueLabel.Clears : QueueLabel → Prop
  | .clearTx | .clearRx _ => True
  | _ => False

theorem step_effect {label : QueueLabel} (taken : queue.step label = some after) :
    QueueEffect label.Clears queue after := by
  cases label with
  | send skb mapping active =>
    obtain ⟨-, sent⟩ := Option.ite_none_right_eq_some.mp taken
    exact sendSkb_effect sent
  | collect =>
    obtain ⟨-, collected⟩ := Option.ite_none_right_eq_some.mp taken
    exact gpdTxCollect_effect collected
  | receive answers =>
    obtain ⟨-, received⟩ := Option.ite_none_right_eq_some.mp taken
    cases received
    exact gpdRxFromQ_effect answers queue
  | clearTx =>
    obtain ⟨-, cleared⟩ := Option.ite_none_right_eq_some.mp taken
    cases cleared
    exact clearTxq_effect queue
  | clearRx alloc =>
    obtain ⟨-, cleared⟩ := Option.ite_none_right_eq_some.mp taken
    cases cleared
    exact clearRxq_effect alloc queue
  | hwDone i dataBuffLen =>
    obtain ⟨-, finished⟩ := Option.ite_none_right_eq_some.mp taken
    cases finished
    exact ⟨setRequest_sameLinks (hwDone_link _ _ _), .stays, .stays, .stays⟩

end Frame

section Runs

/-- A cursor is left where it is, or goes where both the list and the device go from there, or is
    back at the first request. -/
inductive Moves (ring : CldmaRing) (clears : Prop) (before : Option Nat) : Option Nat → Prop
  | stays : Moves ring clears before before
  | advances {req next : Nat} (cursor : before = some req)
      (listed : ring.stepForward req = some next)
      (followed : ring.hwNext (ring.request req).gpdAddr = some (ring.request next).gpdAddr) :
      Moves ring clears before (some next)
  | resets (cleared : clears) : Moves ring clears before ring.gpdRing.head?

structure CursorsMove (queue : CldmaQueue) (label : QueueLabel) (after : CldmaQueue) : Prop where
  done : Moves queue.trRing label.Clears queue.trDone after.trDone
  next : Moves queue.trRing label.Clears queue.txNext after.txNext
  refill : Moves queue.trRing label.Clears queue.rxRefill after.rxRefill

/-- What the traffic on a queue keeps of the ring it was set up with. -/
structure RingKept (made : CldmaRing) (queue : CldmaQueue) : Prop where
  walks : HwFollowsList queue.trRing
  links : SameLinks made queue.trRing
  cursors : ∀ label after, queue.step label = some after → CursorsMove queue label after

structure CursorsInside (n : Nat) (queue : CldmaQueue) : Prop where
  done : ∀ i ∈ queue.trDone, i < n
  next : ∀ i ∈ queue.txNext, i < n
  refill : ∀ i ∈ queue.rxRefill, i < n

structure Invariant (n : Nat) (made : CldmaRing) (queue : CldmaQueue) : Prop where
  same : SameLinks made queue.trRing
  linked : Linked n queue.trRing
  inside : CursorsInside n queue

variable {n : Nat} {ring made : CldmaRing} {queue after : CldmaQueue} {clears : Prop}
  {cursor moved : Option Nat}

theorem Linked.of_sameLinks (linked : Linked n made) (same : SameLinks made ring) : Linked n ring := by
  have addr (i : Nat) : (ring.request i).gpdAddr = (made.request i).gpdAddr :=
    congrArg (fun link => link.2.2) (same.links i)
  have next (i : Nat) : (ring.request i).gpd.nextPtr = (made.request i).gpd.nextPtr :=
    congrArg (fun link => link.1 ++ link.2.1) (same.links i)
  refine ⟨?_, ?_, ?_, ?_⟩
  · rw [same.ring, linked.numbers]
  · rw [same.ring, linked.length]
  · intro i place
    rw [next, addr, linked.links i place]
  · intro i first j second equal
    rw [addr, addr] at equal
    exact linked.apart i first j second equal

theorem Linked.head_lt (linked : Linked n ring) : ∀ i ∈ ring.gpdRing.head?, i < n := by
  intro i first
  have member := List.mem_of_head? first
  rw [linked.numbers] at member
  exact List.mem_range.mp member

theorem Linked.inside (linked : Linked n ring) (inside : ∀ i ∈ cursor, i < n)
    (step : CursorStep ring.toRequestRing clears cursor moved) : ∀ i ∈ moved, i < n := by
  cases step with
  | stays => exact inside
  | advances =>
    intro i reached
    obtain ⟨req, here, next⟩ := Option.bind_eq_some_iff.mp reached
    have place := inside req here
    rw [linked.stepForward place] at next
    cases next
    exact Ring.next_lt place
  | resets cleared => exact linked.head_lt

theorem Linked.moves (linked : Linked n ring) (inside : ∀ i ∈ cursor, i < n)
    (step : CursorStep ring.toRequestRing clears cursor moved) : Moves ring clears cursor moved := by
  cases step with
  | stays => exact .stays
  | advances =>
    cases here : cursor with
    | none => exact .stays
    | some req =>
      have place := inside req here
      rw [Option.bind_some, linked.stepForward place]
      exact .advances rfl (linked.stepForward place) (linked.hwNext place)
  | resets cleared => exact .resets cleared

theorem Invariant.step (invariant : Invariant n made queue) {label : QueueLabel}
    (taken : queue.step label = some after) :
    Invariant n made after ∧ CursorsMove queue label after := by
  obtain ⟨same, linked, done, next, refill⟩ := invariant
  have effect := step_effect taken
  constructor
  · refine ⟨same.trans effect.links, linked.of_sameLinks effect.links, ?_, ?_, ?_⟩
    · exact linked.inside done effect.done
    · exact linked.inside next effect.next
    · exact linked.inside refill effect.refill
  · refine ⟨?_, ?_, ?_⟩
    · exact linked.moves done effect.done
    · exact linked.moves next effect.next
    · exact linked.moves refill effect.refill

theorem Invariant.ringKept (invariant : Invariant n made queue) : RingKept made queue :=
  ⟨invariant.linked.hwFollowsList, invariant.same, fun _ _ taken => (invariant.step taken).2⟩

theorem qInit_invariant (dir : Dir) (linked : Linked n ring) : Invariant n ring (qInit dir ring) := by
  have start : (qInit dir ring).trRing = ring := qReset_trRing _
  have unset : ∀ i ∈ (none : Option Nat), i < n := fun i none => by cases none
  refine ⟨?_, ?_, ?_⟩
  · rw [start]
    exact .refl ring
  · rwa [start]
  · cases dir with
    | tx => exact ⟨linked.head_lt, linked.head_lt, unset⟩
    | rx => exact ⟨linked.head_lt, unset, linked.head_lt⟩

/-- A ring that was set up stays the circle that the list is, whatever goes through its queue. -/
theorem gpd_links_kept {dir : Dir} {length pktSize : Nat} {allocs : Nat → RequestAlloc}
    {labels : List QueueLabel} (positive : 0 < length)
    (apart : ∀ i < length, ∀ j < length, ∀ addr, (allocs i).gpdAddr = some addr →
      (allocs j).gpdAddr = some addr → i = j)
    (init : dir = .tx ∧ txRingInit length pktSize allocs = some ring ∨
      dir = .rx ∧ rxRingInit length pktSize allocs = some ring)
    (run : execute CldmaQueue.step (qInit dir ring) labels = some queue) : RingKept ring queue := by
  have linked : Linked length ring := by
    obtain ⟨-, made⟩ | ⟨-, made⟩ := init
    · exact ringInit_linked newTxRequest_gpdAddr positive apart made
    · exact ringInit_linked (newRxRequest_gpdAddr pktSize) positive apart made
  have visits : Visits (Invariant length ring) CldmaQueue.step (qInit dir ring) labels := by
    refine Visits.of_kept _ (fun _ invariant => invariant) ?_ labels (qInit_invariant dir linked)
    intro queue label after invariant taken
    exact (invariant.step taken).1
  exact (visits.finish run).ringKept

/-- GPDs on both sides of a multiple of 2^32. -/
def threeAllocs (i : Nat) : RequestAlloc where
  req := true
  gpdAddr := some (0x1ffffffc0 + 64 * BitVec.ofNat 64 i)
  skb := .mapped ⟨i, 0⟩ (0x500000000 + 4096 * BitVec.ofNat 64 i)

def threeBuffers : List QueueLabel :=
  [.hwDone 0 100, .receive ⟨0, ⟨0, 100⟩, .mapped ⟨3, 0⟩ 0x500003000⟩, .hwDone 1 8,
    .receive ⟨0, ⟨1, 8⟩, .noMemory⟩, .clearRx fun _ => .mapped ⟨4, 0⟩ 0x500004000]

theorem three_gpds_kept :
    ∃ ring queue, rxRingInit 3 3584 threeAllocs = some ring ∧
      execute CldmaQueue.step (qInit .rx ring) threeBuffers = some queue ∧ RingKept ring queue := by
  have different : ∀ i < 3, ∀ j < 3, (threeAllocs i).gpdAddr = (threeAllocs j).gpdAddr → i = j := by
    decide
  have reached : ((rxRingInit 3 3584 threeAllocs).bind fun ring =>
      execute CldmaQueue.step (qInit .rx ring) threeBuffers).isSome = true := by decide
  obtain ⟨queue, done⟩ := Option.isSome_iff_exists.mp reached
  obtain ⟨ring, made, run⟩ := Option.bind_eq_some_iff.mp done
  refine ⟨ring, queue, made, run, gpd_links_kept (by decide) ?_ (.inr ⟨rfl, made⟩) run⟩
  intro i first j second addr one other
  exact different i first j second (one.trans other.symm)

end Runs

end T7xxModel.Cldma.Gpd
