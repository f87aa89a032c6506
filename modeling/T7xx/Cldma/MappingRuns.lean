import T7xx.Cldma.RxRefill
import T7xx.Cldma.TxCursors
import T7xx.Cldma.LateInit
import T7xx.Ring.Holdings
import Mathlib.Algebra.BigOperators.Fin
import Mathlib.Tactic.Abel

namespace T7xxModel.Cldma

open Transition

/-- What `t7xx_cldma_late_init` is given: whether it gets its pool and the TX rings, the addresses of
    the GPDs, and how it gets on with each request of an RX ring. -/
structure RingAllocs where
  txRings : Bool
  txGpdAddr : Qno → Fin MAX_TX_BUDGET → Nat
  rxGpdAddr : Qno → Nat → Nat
  rx : Qno → Nat → AllocAndMap

/-- A controller with its mappings, each known by a number of its own: those that were made so far,
    and those given to `dma_unmap_single`. `collected` is what a `t7xx_cldma_gpd_tx_collect` has
    taken and unmaps next, and `skbCleared` says that `t7xx_cldma_clear_txq` has found an skb. -/
structure MapRun where
  isLateInit : Bool
  txq : Qno → CldmaQueue MAX_TX_BUDGET
  rxq : Qno → DmaRun
  collected : Qno → Option (Option Nat)
  mapped : Multiset Nat
  unmapped : Multiset Nat
  skbCleared : Bool

/-- `txDone` is the device completing a TX GPD. A configuration switch is a late release and a late
    init with another `cfgId`; neither comes in the middle of a round of a queue's work. -/
inductive MapLabel where
  | lateInit (cfgId : CldmaCfg) (allocs : RingAllocs)
  | lateRelease
  | send (q : Qno) (skb : SkBuff) (mapping : Option Nat) (active : Bool)
  | txDone (q : Qno) (i : Fin MAX_TX_BUDGET)
  | txCollect (q : Qno)
  | txUnmap (q : Qno)
  | clearTxq (q : Qno)
  | rx (q : Qno) (label : RxLabel)
  | clearRxq (q : Qno) (alloc : Nat → AllocAndMap)

section Rings

def CldmaRequest.mapping (req : CldmaRequest) : Multiset Nat :=
  if req.skb.isSome then Ring.single req.mappedBuff else 0

def RxRequest.mapping (req : RxRequest) : Multiset Nat :=
  if req.skb.isSome then Ring.single req.mappedBuff else 0

def CldmaQueue.mappings (queue : CldmaQueue MAX_TX_BUDGET) : Multiset Nat :=
  Ring.holdings Finset.univ CldmaRequest.mapping queue.request

def CldmaRxq.mappings (rxq : CldmaRxq) : Multiset Nat :=
  Ring.holdings (Finset.range MAX_RX_BUDGET) RxRequest.mapping rxq.request

def MapRun.ringMappings (s : MapRun) : Multiset Nat :=
  Ring.holdings Finset.univ CldmaQueue.mappings s.txq +
    Ring.holdings Finset.univ (fun rxq : DmaRun => rxq.run.rxq.mappings) s.rxq

def AllocAndMap.buffer : AllocAndMap → RxBuffer
  | .mapped buffer _ => buffer
  | _ => ⟨0, 0, fun _ => 0⟩

def AllocAndMap.addr : AllocAndMap → Nat
  | .mapped _ addr => addr
  | _ => 0

def rxRingMappings (alloc : Nat → AllocAndMap) : (left i : Nat) → Multiset Nat × Bool
  | 0, _ => (0, true)
  | left + 1, i =>
    match alloc i with
    | .mapped _ addr =>
      let (rest, ok) := rxRingMappings alloc left (i + 1)
      (addr ::ₘ rest, ok)
    | _ => (0, false)

def rxRingsMappings (rx : Qno → Nat → AllocAndMap) : List Qno → Multiset Nat × Bool
  | [] => (0, true)
  | q :: rest =>
    let (ring, ok) := rxRingMappings (rx q) MAX_RX_BUDGET 0
    if ok then
      let (others, ok) := rxRingsMappings rx rest
      (ring + others, ok)
    else (ring, false)

end Rings

section Steps

def MapRun.addMapped (s : MapRun) (new : Multiset Nat) : Option MapRun :=
  if new.Nodup ∧ ∀ mapping ∈ new, mapping ∉ s.mapped then
    some { s with mapped := s.mapped + new }
  else none

/-- On an error the mappings made so far are undone. -/
def mapLateInit (hifId : CldmaId) (cfgId : CldmaCfg) (allocs : RingAllocs) (s : MapRun) :
    Option MapRun :=
  if s.isLateInit ∨ allocs.txRings = false then some s
  else
    let (new, ok) := rxRingsMappings allocs.rx (List.finRange _)
    (s.addMapped new).map fun s =>
      if ok then
        { s with
          isLateInit := true
          txq := fun q => txqInit (allocs.txGpdAddr q)
          rxq := fun q =>
            let rxq := rxqInit cfgId q hifId (fun i => (allocs.rx q i).buffer)
              (fun i => (allocs.rx q i).addr) (allocs.rxGpdAddr q)
            dmaStart rxq (s.rxq q).run.proxy (s.rxq q).run.mdState }
      else { s with unmapped := s.unmapped + new }

def mapLateRelease (s : MapRun) : MapRun :=
  if s.isLateInit = false then s
  else { s with isLateInit := false, unmapped := s.unmapped + s.ringMappings }

def MapRun.setTxq (s : MapRun) (q : Qno) (queue : CldmaQueue MAX_TX_BUDGET) : MapRun :=
  { s with txq := Function.update s.txq q queue }

def MapRun.setRxq (s : MapRun) (q : Qno) (rxq : DmaRun) : MapRun :=
  { s with rxq := Function.update s.rxq q rxq }

def MapRun.setCollected (s : MapRun) (q : Qno) (mappedBuff : Option (Option Nat)) : MapRun :=
  { s with collected := Function.update s.collected q mappedBuff }

def mapSend (q : Qno) (skb : SkBuff) (mapping : Option Nat) (active : Bool) (s : MapRun) :
    Option MapRun :=
  if (s.txq q).hasRoom then
    (s.addMapped (Ring.single mapping)).map fun t => t.setTxq q ((s.txq q).send skb mapping active)
  else none

def mapTxCollect (q : Qno) (s : MapRun) : Option MapRun :=
  match s.collected q, gpdTxCollect (s.txq q) with
  | none, some (rest, _) =>
    some ((s.setTxq q rest).setCollected q (some ((s.txq q).request (s.txq q).trDone).mappedBuff))
  | _, _ => none

def mapTxUnmap (q : Qno) (s : MapRun) : Option MapRun :=
  (s.collected q).map fun mappedBuff =>
    { s.setCollected q none with unmapped := s.unmapped + Ring.single mappedBuff }

def mapClearTxq (q : Qno) (s : MapRun) : MapRun :=
  { s.setTxq q (clearTxq (s.txq q)).1 with
    skbCleared := s.skbCleared || decide ((s.txq q).occupied ≠ []) }

def rxMapped (s t : DmaRun) : RxLabel → Multiset Nat
  | .round answers => Ring.single ((s.run.maps t.run answers).map Kernel.Mapping.addr)
  | _ => 0

def rxUnmapped (s : DmaRun) : RxLabel → Multiset Nat
  | .round _ => Ring.single s.run.unmaps
  | _ => 0

def mapRx (q : Qno) (label : RxLabel) (s : MapRun) : Option MapRun :=
  ((s.rxq q).rxStep label).bind fun rxq =>
    if rxq.run.panicked then none
    else
      (s.addMapped (rxMapped (s.rxq q) rxq label)).map fun t =>
        { t.setRxq q rxq with unmapped := t.unmapped + rxUnmapped (s.rxq q) label }

/-- The mappings that `t7xx_cldma_clear_rxq` makes before its first error. -/
def clearRxqMapped (alloc : Nat → AllocAndMap) (rxq : CldmaRxq) : List Nat → Multiset Nat
  | [] => 0
  | i :: rest =>
    if (rxq.request i).skb.isSome then clearRxqMapped alloc rxq rest
    else
      match alloc i with
      | .mapped _ addr => addr ::ₘ clearRxqMapped alloc rxq rest
      | _ => 0

def mapClearRxq (q : Qno) (alloc : Nat → AllocAndMap) (s : MapRun) : Option MapRun :=
  ((s.rxq q).step (.clear alloc)).bind fun rxq =>
    let new := clearRxqMapped alloc (s.rxq q).run.rxq (List.range MAX_RX_BUDGET)
    (s.addMapped new).map fun t => t.setRxq q rxq

/-- Without its rings a controller is only initialized, or finishes a collection. -/
def MapRun.step (hifId : CldmaId) (s : MapRun) : MapLabel → Option MapRun
  | .lateInit cfgId allocs => mapLateInit hifId cfgId allocs s
  | .lateRelease => some (mapLateRelease s)
  | .txUnmap q => mapTxUnmap q s
  | label =>
    if s.isLateInit = false then none
    else
      match label with
      | .send q skb mapping active => mapSend q skb mapping active s
      | .txDone q i => some (s.setTxq q (completeGpd (s.txq q) i))
      | .txCollect q => mapTxCollect q s
      | .clearTxq q => some (mapClearTxq q s)
      | .rx q label => mapRx q label s
      | .clearRxq q alloc => mapClearRxq q alloc s
      | _ => none

def mapInit (hifId : CldmaId) (proxy : PortProxy) (mdState : Fsm.MdState) : MapRun where
  isLateInit := false
  txq := fun _ => txqInit fun _ => 0
  rxq := fun q => dmaStart (rxqInit .sharedQ q hifId (fun _ => ⟨0, 0, fun _ => 0⟩) (fun _ => 0)
    (fun _ => 0)) proxy mdState
  collected := fun _ => none
  mapped := 0
  unmapped := 0
  skbCleared := false

end Steps

section Contract

/-- Each mapping is unmapped at most once, and without the rings none is left. -/
structure UnmappedOnce (s : MapRun) : Prop where
  once : s.unmapped.Nodup
  made : ∀ mapping ∈ s.unmapped, mapping ∈ s.mapped
  released : s.isLateInit = false → ∀ mapping ∈ s.mapped, mapping ∈ s.unmapped

/-- `t7xx_cldma_late_release` frees the rings only if no `t7xx_cldma_clear_txq` has found an skb and
    no collection is about to unmap one. -/
def ReleasesAll (s : MapRun) : MapLabel → Prop
  | .lateRelease => s.isLateInit = true → s.skbCleared = false ∧ ∀ q, s.collected q = none
  | _ => True

def takenMapping : Option (Option Nat) → Multiset Nat
  | some mappedBuff => Ring.single mappedBuff
  | none => 0

def MapRun.taken (s : MapRun) : Multiset Nat := Ring.holdings Finset.univ takenMapping s.collected

def TxMapped (queue : CldmaQueue MAX_TX_BUDGET) : Prop :=
  ∀ i, (queue.request i).skb.isSome = true → (queue.request i).mappedBuff.isSome = true

structure RingsSound (s : MapRun) : Prop where
  txMapped : ∀ q, TxMapped (s.txq q)
  rxWindow : ∀ q, ∃ lag, (s.rxq q).run.rxq.Window lag

def MapRun.known (s : MapRun) : Multiset Nat :=
  s.unmapped + s.taken + if s.isLateInit then s.ringMappings else 0

/-- Only `t7xx_cldma_clear_txq` loses a mapping, when it finds an skb. -/
structure MapBooks (s : MapRun) : Prop where
  fresh : s.mapped.Nodup
  balance : ∃ lost, s.mapped = s.known + lost ∧ (lost = 0 ↔ s.skbCleared = false)
  collects : ∀ q, s.collected q ≠ some none
  rings : s.isLateInit = true → RingsSound s

end Contract

end T7xxModel.Cldma
