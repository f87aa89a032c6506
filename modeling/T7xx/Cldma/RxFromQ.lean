import T7xx.Cldma.PortRecv
import T7xx.Cldma.TxRing
import T7xx.Ring.Slots
import T7xx.Transition.Runs

namespace T7xxModel.Cldma

open Fsm Transition

def MAX_RX_BUDGET : Nat := 16

structure RxRequest where
  gpd : CldmaGpd
  gpdAddr : Nat
  skb : Option RxSkb
  mappedBuff : Option Nat

/-- An RX `struct cldma_queue` with the requests of its ring, in the order of `gpd_ring`. -/
structure CldmaRxq where
  index : Nat
  hifId : CldmaId
  pktSize : Nat
  recvSkb : RecvSkb
  request : Nat → RxRequest
  trDone : Option Nat
  rxRefill : Nat

structure RxLoop where
  budget : Int
  count : Int
  hwoPollingCount : Nat
deriving DecidableEq, Repr

/-- One call of the callback: the skb it was given, and what it left unless it panicked. -/
structure RecvCall where
  skb : RxSkb
  received : Option Received

/-- A queue whose GPDs are received. Buffers are numbered as they are allocated, `disposed` lists
    those that were freed or handed over, and `ret` is what the last call returned. -/
structure RxRun where
  rxq : CldmaRxq
  proxy : PortProxy
  mdState : MdState
  allocated : Nat
  disposed : List Nat
  calls : List RecvCall
  loop : Option RxLoop
  ret : Option Int
  overBudget : Bool
  panicked : Bool

structure RxBuffer where
  size : Nat
  data : Nat
  bytes : Nat → BitVec 8

inductive AllocAndMap where
  | noMemory
  | mappingError
  | mapped (buffer : RxBuffer) (addr : Nat)

structure RoundAnswers where
  present : Bool
  currentAddr : Nat
  alloc : AllocAndMap
  needResched : Bool

/-- `enter` and `round` are calls of `t7xx_cldma_gpd_rx_from_q` and the rounds of its loop, `hwDone`
    is the device completing a GPD, and `others` leaves the ports and the modem as the other threads
    of the driver do. -/
inductive RxLabel where
  | enter (budget : Int)
  | round (answers : RoundAnswers)
  | hwDone (i : Nat) (dataBuffLen : BitVec 16) (content : Nat → BitVec 8)
  | others (proxy : PortProxy) (mdState : MdState)

section Rounds

def CldmaRxq.setRequest (rxq : CldmaRxq) (i : Nat) (req : RxRequest) : CldmaRxq :=
  { rxq with request := Function.update rxq.request i req }

/-- What a round finds at `tr_done`: no ring, a GPD to wait for, one whose length does not fit in
    its buffer, so that `skb_put` panics, or a message. -/
inductive RoundStart where
  | noRing
  | pending (done : Nat)
  | overrun (done : Nat)
  | message (done : Nat) (skb : RxSkb)

def CldmaRxq.roundStart (rxq : CldmaRxq) : RoundStart :=
  match rxq.trDone with
  | none => .noRing
  | some done =>
    let req := rxq.request done
    match req.skb with
    | none => .pending done
    | some skb =>
      if req.gpd.hwo then .pending done
      else
        match ({ skb with len := 0 } : RxSkb).put req.gpd.dataBuffLen.toNat with
        | none => .overrun done
        | some filled => .message done filled

def RxRun.return (s : RxRun) (ret : Int) : RxRun := { s with loop := none, ret := some ret }

def rxPollHwo (answers : RoundAnswers) (loop : RxLoop) (done : Nat) (s : RxRun) : RxRun :=
  if answers.present = false then s.return (-ENODEV)
  else if (s.rxq.request done).gpdAddr = answers.currentAddr ∨ 100 ≤ loop.hwoPollingCount then
    s.return 0
  else { s with loop := some { loop with hwoPollingCount := loop.hwoPollingCount + 1 } }

def rxRefill (answers : RoundAnswers) (loop : RxLoop) (s : RxRun) : RxRun :=
  let rxq := s.rxq
  let req := rxq.request rxq.rxRefill
  match answers.alloc with
  | .noMemory =>
    let s := { s with rxq := rxq.setRequest rxq.rxRefill { req with skb := none } }
    s.return (-ENOMEM)
  | .mappingError =>
    let s : RxRun :=
      { s with
        rxq := rxq.setRequest rxq.rxRefill { req with skb := none, mappedBuff := none }
        allocated := s.allocated + 1
        disposed := s.disposed ++ [s.allocated] }
    s.return (-ENOMEM)
  | .mapped buffer addr =>
    let posted : RxRequest :=
      { req with
        gpd := ⟨GPD_FLAGS_IOC ||| GPD_FLAGS_HWO, addr, 0⟩
        skb := some ⟨s.allocated, buffer.size, buffer.data, 0, buffer.bytes⟩
        mappedBuff := some addr }
    let filled := rxq.setRequest rxq.rxRefill posted
    let s : RxRun :=
      { s with
        rxq := { filled with rxRefill := Ring.next MAX_RX_BUDGET rxq.rxRefill }
        allocated := s.allocated + 1 }
    let count := loop.count + 1
    if count < loop.budget ∨ answers.needResched = false then
      { s with loop := some ⟨loop.budget, count, 0⟩ }
    else RxRun.return { s with overBudget := true } 0

/-- The callback's buffer is kept or forgotten by the sign of the result. -/
def rxDeliver (answers : RoundAnswers) (loop : RxLoop) (done : Nat) (skb : RxSkb) (s : RxRun) :
    RxRun :=
  let req := { s.rxq.request done with mappedBuff := none }
  match s.rxq.recvSkb.call s.rxq.hifId s.rxq.index s.mdState s.proxy skb with
  | none => { s with calls := s.calls ++ [⟨skb, none⟩], panicked := true }
  | some received =>
    let s : RxRun :=
      { s with
        proxy := received.proxy
        disposed := s.disposed ++ received.disposals.map fun _ => skb.id
        calls := s.calls ++ [⟨skb, some received⟩] }
    if received.ret < 0 then
      let kept := s.rxq.setRequest done { req with skb := some received.skb }
      RxRun.return { s with rxq := kept } received.ret
    else
      let rest := s.rxq.setRequest done { req with
        gpd := { req.gpd with dataBuffBdPtr := 0 }
        skb := none }
      rxRefill answers loop
        { s with rxq := { rest with trDone := some (Ring.next MAX_RX_BUDGET done) } }

def rxRound (answers : RoundAnswers) (loop : RxLoop) (s : RxRun) : RxRun :=
  match s.rxq.roundStart with
  | .noRing => s.return (-ENODATA)
  | .pending done => rxPollHwo answers loop done s
  | .overrun _ => { s with panicked := true }
  | .message done skb => rxDeliver answers loop done skb s

/-- The device writes into the mapped buffer and takes HWO away. -/
def hwDone (pktSize : Nat) (dataBuffLen : BitVec 16) (content : Nat → BitVec 8) (req : RxRequest) :
    RxRequest :=
  { req with
    gpd := { req.gpd with flags := req.gpd.flags &&& ~~~GPD_FLAGS_HWO, dataBuffLen := dataBuffLen }
    skb := req.skb.map fun skb =>
      { skb with
        bytes := fun i =>
          if skb.data ≤ i ∧ i < skb.data + pktSize then content (i - skb.data) else skb.bytes i } }

def RxRun.step (s : RxRun) (label : RxLabel) : Option RxRun :=
  if s.panicked then none
  else
    match label with
    | .enter budget => if s.loop.isNone then some { s with loop := some ⟨budget, 0, 0⟩ } else none
    | .round answers => s.loop.map fun loop => rxRound answers loop s
    | .hwDone i dataBuffLen content =>
      if i < MAX_RX_BUDGET ∧ (s.rxq.request i).gpd.hwo = true then
        some { s with
          rxq := s.rxq.setRequest i (hwDone s.rxq.pktSize dataBuffLen content (s.rxq.request i)) }
      else none
    | .others proxy mdState => some { s with proxy, mdState }

/-- `t7xx_cldma_rx_ring_init` and `t7xx_cldma_rxq_init`. -/
def rxqInit (cfgId : CldmaCfg) (qno : Nat) (hifId : CldmaId) (buffer : Nat → RxBuffer)
    (addr gpdAddr : Nat → Nat) : CldmaRxq :=
  { index := qno
    hifId
    pktSize := (adjustConfig cfgId qno).1
    recvSkb := (adjustConfig cfgId qno).2
    request := fun i =>
      { gpd := ⟨GPD_FLAGS_IOC ||| GPD_FLAGS_HWO, addr i, 0⟩
        gpdAddr := gpdAddr i
        skb := some ⟨i, (buffer i).size, (buffer i).data, 0, (buffer i).bytes⟩
        mappedBuff := some (addr i) }
    trDone := some 0
    rxRefill := 0 }

def rxStart (rxq : CldmaRxq) (proxy : PortProxy) (mdState : MdState) : RxRun :=
  { rxq, proxy, mdState
    allocated := MAX_RX_BUDGET
    disposed := []
    calls := []
    loop := none
    ret := none
    overBudget := false
    panicked := false }

end Rounds

section Ledger

def CldmaRxq.idAt (rxq : CldmaRxq) (i : Nat) : Option Nat := (rxq.request i).skb.map RxSkb.id

def CldmaRxq.ringIds (rxq : CldmaRxq) : List Nat := (List.range MAX_RX_BUDGET).filterMap rxq.idAt

/-- Every buffer allocated is in the ring or was disposed of, and only one of them, once. -/
def Accounted (s : RxRun) : Prop := (s.rxq.ringIds ++ s.disposed).Perm (List.range s.allocated)

instance (s : RxRun) : Decidable (Accounted s) := inferInstanceAs (Decidable (List.Perm _ _))

def RecvCall.Honoured (call : RecvCall) : Prop :=
  ∃ received ∈ call.received, Honours call.skb received

instance (call : RecvCall) : Decidable call.Honoured :=
  inferInstanceAs (Decidable (∃ received ∈ call.received, Honours call.skb received))

/-- Every call so far kept to the contract, and every buffer is disposed of at most once. -/
def Disposes (s : RxRun) : Prop := (∀ call ∈ s.calls, call.Honoured) ∧ Accounted s

instance (s : RxRun) : Decidable (Disposes s) := inferInstanceAs (Decidable (_ ∧ _))

def RxRun.SafeRound (s : RxRun) : Prop :=
  match s.rxq.roundStart with
  | .message _ skb => RecvSafe s.rxq.recvSkb s.rxq.hifId s.rxq.index s.mdState s.proxy skb
  | _ => True

instance (s : RxRun) : Decidable s.SafeRound := by
  unfold RxRun.SafeRound
  split <;> infer_instance

def SafeLabel (s : RxRun) : RxLabel → Prop
  | .round _ => s.SafeRound
  | _ => True

instance : ∀ (s : RxRun) label, Decidable (SafeLabel s label) := fun s label => by
  unfold SafeLabel
  split <;> infer_instance

variable {rxq : CldmaRxq} {i : Nat}

theorem idAt_setRequest (rxq : CldmaRxq) (i : Nat) (req : RxRequest) :
    (rxq.setRequest i req).idAt = Function.update rxq.idAt i (req.skb.map RxSkb.id) := by
  funext j
  by_cases here : j = i
  · subst here
    simp [CldmaRxq.idAt, CldmaRxq.setRequest]
  · simp [CldmaRxq.idAt, CldmaRxq.setRequest, here]

theorem ringIds_setRequest (place : i < MAX_RX_BUDGET) (req : RxRequest) :
    (rxq.setRequest i req).ringIds.Perm
      ((req.skb.map RxSkb.id).toList ++ ((List.range MAX_RX_BUDGET).erase i).filterMap rxq.idAt) := by
  unfold CldmaRxq.ringIds
  rw [idAt_setRequest]
  exact Ring.filterMap_range_update rxq.idAt place (req.skb.map RxSkb.id)

theorem ringIds_kept {req : RxRequest} (same : req.skb.map RxSkb.id = rxq.idAt i) :
    (rxq.setRequest i req).ringIds = rxq.ringIds := by
  unfold CldmaRxq.ringIds
  rw [idAt_setRequest, same, Function.update_eq_self]

theorem ringIds_split (place : i < MAX_RX_BUDGET) :
    rxq.ringIds.Perm
      ((rxq.idAt i).toList ++ ((List.range MAX_RX_BUDGET).erase i).filterMap rxq.idAt) := by
  have self := @ringIds_setRequest rxq i place (rxq.request i)
  rwa [ringIds_kept rfl] at self

theorem ringIds_taken {req : RxRequest} {id : Nat} (place : i < MAX_RX_BUDGET)
    (held : rxq.idAt i = some id) (empty : req.skb = none) :
    rxq.ringIds.Perm (id :: (rxq.setRequest i req).ringIds) := by
  have before := @ringIds_split rxq i place
  have after := @ringIds_setRequest rxq i place req
  rw [held] at before
  rw [empty] at after
  exact before.trans (after.symm.cons id)

theorem ringIds_filled {req : RxRequest} {id : Nat} (place : i < MAX_RX_BUDGET)
    (empty : rxq.idAt i = none) (held : req.skb.map RxSkb.id = some id) :
    (rxq.setRequest i req).ringIds.Perm (id :: rxq.ringIds) := by
  have before := @ringIds_split rxq i place
  have after := @ringIds_setRequest rxq i place req
  rw [empty] at before
  rw [held] at after
  exact after.trans (before.symm.cons id)

theorem accounted_same {s t : RxRun} (ring : t.rxq.ringIds = s.rxq.ringIds)
    (disposed : t.disposed = s.disposed) (allocated : t.allocated = s.allocated)
    (accounted : Accounted s) : Accounted t := by
  unfold Accounted
  rwa [ring, disposed, allocated]

theorem accounted_fresh {s t : RxRun} (accounted : Accounted s)
    (more : t.allocated = s.allocated + 1)
    (ledger : (t.rxq.ringIds ++ t.disposed).Perm (s.allocated :: (s.rxq.ringIds ++ s.disposed))) :
    Accounted t := by
  unfold Accounted at *
  rw [more, List.range_succ]
  have listed := ledger.trans (accounted.cons s.allocated)
  exact listed.trans (List.perm_append_singleton _ _).symm

end Ledger

section Refilling

/-- The requests from `rx_refill` to `tr_done` wait for a buffer; there are `lag` of them. -/
structure CldmaRxq.Window (rxq : CldmaRxq) (lag : Nat) : Prop where
  first : rxq.rxRefill < MAX_RX_BUDGET
  fits : lag ≤ MAX_RX_BUDGET
  last : rxq.trDone = some ((rxq.rxRefill + lag) % MAX_RX_BUDGET)
  empty : ∀ k < lag, (rxq.request ((rxq.rxRefill + k) % MAX_RX_BUDGET)).skb = none

variable {rxq : CldmaRxq} {lag : Nat}

theorem CldmaRxq.Window.done_lt (window : rxq.Window lag) {done : Nat}
    (current : rxq.trDone = some done) : done < MAX_RX_BUDGET := by
  rw [window.last] at current
  cases current
  exact Nat.mod_lt _ (by decide)

theorem CldmaRxq.Window.lag_lt (window : rxq.Window lag) {done : Nat} {skb : RxSkb}
    (current : rxq.trDone = some done) (held : (rxq.request done).skb = some skb) :
    lag < MAX_RX_BUDGET := by
  by_contra whole
  have full : lag = MAX_RX_BUDGET := by
    have fits := window.fits
    omega
  have place : done = (rxq.rxRefill + 0) % MAX_RX_BUDGET := by
    have last := window.last
    rw [current, full, Nat.add_mod_right] at last
    exact Option.some.inj last
  have none := window.empty 0 (by rw [full]; decide)
  rw [← place, held] at none
  cases none

theorem CldmaRxq.Window.refill_empty (window : rxq.Window (lag + 1)) :
    (rxq.request rxq.rxRefill).skb = none := by
  have empty := window.empty 0 (Nat.succ_pos lag)
  rwa [Nat.add_zero, Nat.mod_eq_of_lt window.first] at empty

theorem CldmaRxq.Window.kept (window : rxq.Window lag) {i : Nat} {req : RxRequest}
    (same : (rxq.request i).skb = none → req.skb = none) : (rxq.setRequest i req).Window lag := by
  refine ⟨window.first, window.fits, window.last, fun k below => ?_⟩
  have empty := window.empty k below
  by_cases here : (rxq.rxRefill + k) % MAX_RX_BUDGET = i
  · rw [here] at empty
    simpa [CldmaRxq.setRequest, here] using same empty
  · simpa [CldmaRxq.setRequest, here] using empty

theorem CldmaRxq.Window.take (window : rxq.Window lag) {done : Nat} {req : RxRequest}
    (current : rxq.trDone = some done) (room : lag < MAX_RX_BUDGET) (empty : req.skb = none) :
    ({ rxq.setRequest done req with trDone := some (Ring.next MAX_RX_BUDGET done) } :
      CldmaRxq).Window (lag + 1) := by
  have place : done = (rxq.rxRefill + lag) % MAX_RX_BUDGET := by
    have last := window.last
    rw [current] at last
    exact Option.some.inj last
  have cleared : (rxq.setRequest done req).Window lag := window.kept fun _ => empty
  refine ⟨window.first, room, ?_, fun k below => ?_⟩
  · show some (Ring.next MAX_RX_BUDGET done) = _
    rw [place, Ring.next_mod _ (by decide)]
    rfl
  · by_cases last : k = lag
    · subst last
      show (Function.update rxq.request done req ((rxq.rxRefill + k) % MAX_RX_BUDGET)).skb = none
      rw [← place, Function.update_self, empty]
    · exact cleared.empty k (by omega)

theorem CldmaRxq.Window.refill (window : rxq.Window (lag + 1)) (req : RxRequest) :
    ({ rxq.setRequest rxq.rxRefill req with
      rxRefill := Ring.next MAX_RX_BUDGET rxq.rxRefill } : CldmaRxq).Window lag := by
  have first := window.first
  have fits := window.fits
  have moved : Ring.next MAX_RX_BUDGET rxq.rxRefill = (rxq.rxRefill + 1) % MAX_RX_BUDGET := by
    have next := Ring.next_mod rxq.rxRefill (n := MAX_RX_BUDGET) (by decide)
    rwa [Nat.mod_eq_of_lt first] at next
  refine ⟨?_, by omega, ?_, fun k below => ?_⟩
  · show Ring.next MAX_RX_BUDGET rxq.rxRefill < MAX_RX_BUDGET
    rw [moved]
    exact Nat.mod_lt _ (by decide)
  · show rxq.trDone = some ((Ring.next MAX_RX_BUDGET rxq.rxRefill + lag) % MAX_RX_BUDGET)
    rw [moved, Nat.mod_add_mod, Nat.add_assoc, Nat.add_comm 1 lag]
    exact window.last
  · show (Function.update rxq.request rxq.rxRefill req
      ((Ring.next MAX_RX_BUDGET rxq.rxRefill + k) % MAX_RX_BUDGET)).skb = none
    have empty := window.empty (k + 1) (by omega)
    have elsewhere : (rxq.rxRefill + (k + 1)) % MAX_RX_BUDGET ≠ rxq.rxRefill := by
      intro same
      have start : (rxq.rxRefill + 0) % MAX_RX_BUDGET = rxq.rxRefill := Nat.mod_eq_of_lt first
      have zero := Ring.add_mod_inj (by omega) (by omega) (same.trans start.symm)
      omega
    rw [moved, Nat.mod_add_mod, Nat.add_assoc, Nat.add_comm 1 k, Function.update_of_ne elsewhere]
    exact empty

end Refilling

section Rounding

variable {s : RxRun} {lag : Nat} {answers : RoundAnswers} {loop : RxLoop}

theorem roundStart_message {rxq : CldmaRxq} {done : Nat} {skb : RxSkb}
    (start : rxq.roundStart = .message done skb) :
    rxq.trDone = some done ∧ rxq.idAt done = some skb.id := by
  unfold CldmaRxq.roundStart at start
  split at start
  · cases start
  rename_i place current
  dsimp only at start
  split at start
  · cases start
  rename_i held present
  split at start
  · cases start
  split at start
  · cases start
  rename_i filled put
  cases start
  refine ⟨current, ?_⟩
  unfold RxSkb.put at put
  split at put
  · cases put
  · cases put
    rw [CldmaRxq.idAt, present]
    rfl

theorem rxRefill_calls (answers : RoundAnswers) (loop : RxLoop) (s : RxRun) :
    (rxRefill answers loop s).calls = s.calls := by
  unfold rxRefill
  dsimp only
  split
  · rfl
  · rfl
  · split <;> rfl

theorem rxRefill_window (window : s.rxq.Window (lag + 1)) :
    ∃ lag', (rxRefill answers loop s).rxq.Window lag' := by
  unfold rxRefill
  dsimp only
  split
  · exact ⟨lag + 1, window.kept fun _ => rfl⟩
  · exact ⟨lag + 1, window.kept fun _ => rfl⟩
  · split
    · exact ⟨lag, window.refill _⟩
    · exact ⟨lag, window.refill _⟩

theorem rxRefill_accounted (window : s.rxq.Window (lag + 1)) (accounted : Accounted s) :
    Accounted (rxRefill answers loop s) := by
  have empty := window.refill_empty
  have vacant : s.rxq.idAt s.rxq.rxRefill = none := by
    rw [CldmaRxq.idAt, empty]
    rfl
  have same (req : RxRequest) (none : req.skb = none) :
      (s.rxq.setRequest s.rxq.rxRefill req).ringIds = s.rxq.ringIds := by
    apply ringIds_kept
    rw [none, vacant]
    rfl
  unfold rxRefill
  dsimp only
  split
  · exact accounted_same (same _ (by rfl)) rfl rfl accounted
  · apply accounted_fresh accounted rfl
    have ring := same { s.rxq.request s.rxq.rxRefill with skb := none, mappedBuff := none } rfl
    show (CldmaRxq.ringIds (s.rxq.setRequest s.rxq.rxRefill _) ++
      (s.disposed ++ [s.allocated])).Perm _
    rw [ring, ← List.append_assoc]
    exact List.perm_append_singleton _ _
  · rename_i buffer addr _
    have filled := @ringIds_filled s.rxq s.rxq.rxRefill
      { s.rxq.request s.rxq.rxRefill with
        gpd := ⟨GPD_FLAGS_IOC ||| GPD_FLAGS_HWO, addr, 0⟩
        skb := some ⟨s.allocated, buffer.size, buffer.data, 0, buffer.bytes⟩
        mappedBuff := some addr } s.allocated window.first vacant rfl
    have listed := filled.append_right s.disposed
    split
    · exact accounted_fresh accounted rfl listed
    · exact accounted_fresh accounted rfl listed

theorem rxDeliver_calls (done : Nat) (skb : RxSkb) (s : RxRun) :
    (rxDeliver answers loop done skb s).calls = s.calls ++
      [⟨skb, s.rxq.recvSkb.call s.rxq.hifId s.rxq.index s.mdState s.proxy skb⟩] := by
  unfold rxDeliver
  dsimp only
  split
  · rename_i panics
    rw [panics]
  · rename_i received returned
    rw [returned]
    split
    · rfl
    · exact rxRefill_calls _ _ _

theorem call_id {recvSkb : RecvSkb} {hifId : CldmaId} {index : Nat} {mdState : MdState}
    {proxy : PortProxy} {skb : RxSkb} {received : Received}
    (returned : recvSkb.call hifId index mdState proxy skb = some received) :
    received.skb.id = skb.id := by
  have pulled (len : Nat) : (skb.pull len).id = skb.id := by
    unfold RxSkb.pull
    split <;> rfl
  cases recvSkb with
  | dedicatedQueue =>
    cases returned
    unfold portProxyRecvSkbFromDedicatedQueue
    dsimp only
    split <;> rfl
  | portProxy =>
    dsimp only [RecvSkb.call] at returned
    unfold portProxyRecvSkb at returned
    dsimp only at returned
    split at returned
    · cases returned
      rfl
    split at returned
    · cases returned
      rfl
    split at returned
    · obtain ⟨pushed, moved, rfl⟩ := Option.map_eq_some_iff.mp returned
      unfold RxSkb.push at moved
      split at moved
      · cases moved
      · cases moved
        exact pulled ccciHeaderSize
    · cases returned
      exact pulled ccciHeaderSize

theorem rxDeliver_window (window : s.rxq.Window lag) {done : Nat} {skb : RxSkb}
    (start : s.rxq.roundStart = .message done skb) :
    ∃ lag', (rxDeliver answers loop done skb s).rxq.Window lag' := by
  obtain ⟨current, held⟩ := roundStart_message start
  obtain ⟨old, present, _⟩ := Option.map_eq_some_iff.mp held
  unfold rxDeliver
  dsimp only
  split
  · exact ⟨lag, window⟩
  · split
    · refine ⟨lag, window.kept fun empty => ?_⟩
      rw [present] at empty
      cases empty
    · exact rxRefill_window (window.take current (window.lag_lt current present) rfl)

theorem rxDeliver_accounted (window : s.rxq.Window lag) (accounted : Accounted s) {done : Nat}
    {skb : RxSkb} (start : s.rxq.roundStart = .message done skb) {received : Received}
    (returned : s.rxq.recvSkb.call s.rxq.hifId s.rxq.index s.mdState s.proxy skb = some received)
    (honours : Honours skb received) : Accounted (rxDeliver answers loop done skb s) := by
  obtain ⟨current, held⟩ := roundStart_message start
  obtain ⟨old, present, _⟩ := Option.map_eq_some_iff.mp held
  have place := window.done_lt current
  unfold rxDeliver
  rw [returned]
  dsimp only
  unfold Honours at honours
  split at honours
  · rename_i negative
    rw [if_pos negative]
    obtain ⟨nothing, _⟩ := honours
    refine accounted_same (ringIds_kept ?_) ?_ rfl accounted
    · rw [held, ← call_id returned]
      rfl
    · rw [nothing]
      exact List.append_nil s.disposed
  · rename_i accepted
    rw [if_neg accepted]
    obtain ⟨disposal, once⟩ := List.length_eq_one_iff.mp honours
    apply rxRefill_accounted (window.take current (window.lag_lt current present) rfl)
    show (CldmaRxq.ringIds (s.rxq.setRequest done _) ++
      (s.disposed ++ received.disposals.map fun _ => skb.id)).Perm (List.range s.allocated)
    rw [once]
    have taken := @ringIds_taken s.rxq done
      { s.rxq.request done with
        mappedBuff := none
        gpd := { (s.rxq.request done).gpd with dataBuffBdPtr := 0 }
        skb := none } skb.id place held rfl
    have listed := (taken.append_right s.disposed).symm.trans accounted
    refine List.Perm.trans ?_ listed
    rw [← List.append_assoc]
    exact List.perm_append_singleton _ _

/-- A round from a good state ends in one exactly if its callback is called safely. -/
theorem rxRound_disposes (window : s.rxq.Window lag) (before : Disposes s) :
    Disposes (rxRound answers loop s) ↔ s.SafeRound := by
  unfold rxRound RxRun.SafeRound
  cases start : s.rxq.roundStart with
  | noRing => exact iff_of_true before trivial
  | pending done =>
    refine iff_of_true ?_ trivial
    dsimp only
    unfold rxPollHwo
    split
    · exact before
    · split <;> exact before
  | overrun done => exact iff_of_true before trivial
  | message done skb =>
    dsimp only
    rw [← RecvSkb.call_honours]
    unfold Disposes
    rw [rxDeliver_calls]
    constructor
    · rintro ⟨honoured, _⟩
      exact honoured _ (List.mem_append_right _ List.mem_cons_self)
    · rintro ⟨received, returned, honours⟩
      refine ⟨fun call member => ?_,
        rxDeliver_accounted window before.2 start returned honours⟩
      rcases List.mem_append.mp member with earlier | last
      · exact before.1 call earlier
      · cases List.mem_singleton.mp last
        exact ⟨received, returned, honours⟩

theorem rxRound_window (window : s.rxq.Window lag) :
    ∃ lag', (rxRound answers loop s).rxq.Window lag' := by
  unfold rxRound
  split
  · exact ⟨lag, window⟩
  · refine ⟨lag, ?_⟩
    unfold rxPollHwo
    split
    · exact window
    · split <;> exact window
  · exact ⟨lag, window⟩
  · rename_i start
    exact rxDeliver_window window start

end Rounding

section Running

theorem hwDone_id (pktSize : Nat) (dataBuffLen : BitVec 16) (content : Nat → BitVec 8)
    (req : RxRequest) :
    (hwDone pktSize dataBuffLen content req).skb.map RxSkb.id = req.skb.map RxSkb.id := by
  unfold hwDone
  rw [Option.map_map]
  rfl

/-- What a step of an RX queue does, in the order of its labels. -/
inductive RxStep (s : RxRun) : RxLabel → RxRun → Prop
  | enter (budget : Int) (returned : s.loop.isNone = true) :
    RxStep s (.enter budget) { s with loop := some ⟨budget, 0, 0⟩ }
  | round (answers : RoundAnswers) (loop : RxLoop) (called : s.loop = some loop) :
    RxStep s (.round answers) (rxRound answers loop s)
  | hwDone (i : Nat) (dataBuffLen : BitVec 16) (content : Nat → BitVec 8)
    (owned : i < MAX_RX_BUDGET ∧ (s.rxq.request i).gpd.hwo = true) :
    RxStep s (.hwDone i dataBuffLen content)
      { s with
        rxq := s.rxq.setRequest i (hwDone s.rxq.pktSize dataBuffLen content (s.rxq.request i)) }
  | others (proxy : PortProxy) (mdState : MdState) :
    RxStep s (.others proxy mdState) { s with proxy, mdState }

theorem step_cases {s t : RxRun} {label : RxLabel} (taken : s.step label = some t) :
    s.panicked = false ∧ RxStep s label t := by
  unfold RxRun.step at taken
  split at taken
  · cases taken
  rename_i alive
  refine ⟨Bool.eq_false_iff.mpr alive, ?_⟩
  cases label with
  | enter budget =>
    dsimp only at taken
    split at taken
    · rename_i returned
      cases taken
      exact .enter budget returned
    · cases taken
  | round answers =>
    obtain ⟨loop, called, rfl⟩ := Option.map_eq_some_iff.mp taken
    exact .round answers loop called
  | hwDone i dataBuffLen content =>
    dsimp only at taken
    split at taken
    · rename_i owned
      cases taken
      exact .hwDone i dataBuffLen content owned
    · cases taken
  | others proxy mdState =>
    cases taken
    exact .others proxy mdState

theorem step_window {s t : RxRun} {label : RxLabel} (window : ∃ lag, s.rxq.Window lag)
    (taken : s.step label = some t) : ∃ lag, t.rxq.Window lag := by
  obtain ⟨lag, window⟩ := window
  cases (step_cases taken).2 with
  | enter | others => exact ⟨lag, window⟩
  | round answers loop called => exact rxRound_window window
  | hwDone i dataBuffLen content owned =>
    refine ⟨lag, window.kept fun empty => ?_⟩
    unfold hwDone
    rw [empty]
    rfl

theorem step_disposes {s t : RxRun} {label : RxLabel} (window : ∃ lag, s.rxq.Window lag)
    (before : Disposes s) (taken : s.step label = some t) : Disposes t ↔ SafeLabel s label := by
  obtain ⟨lag, window⟩ := window
  cases (step_cases taken).2 with
  | enter | others => exact iff_of_true before trivial
  | round answers loop called => exact rxRound_disposes window before
  | hwDone i dataBuffLen content owned =>
    refine iff_of_true ⟨before.1, ?_⟩ trivial
    show (CldmaRxq.ringIds _ ++ s.disposed).Perm (List.range s.allocated)
    rw [ringIds_kept (hwDone_id _ _ _ _)]
    exact before.2

theorem rxqInit_window (cfgId : CldmaCfg) (qno : Nat) (hifId : CldmaId)
    (buffer : Nat → RxBuffer) (addr gpdAddr : Nat → Nat) :
    (rxqInit cfgId qno hifId buffer addr gpdAddr).Window 0 :=
  ⟨Nat.zero_lt_succ 15, Nat.zero_le _, rfl, nofun⟩

theorem rxStart_disposes (cfgId : CldmaCfg) (qno : Nat) (hifId : CldmaId)
    (buffer : Nat → RxBuffer) (addr gpdAddr : Nat → Nat) (proxy : PortProxy) (mdState : MdState) :
    Disposes (rxStart (rxqInit cfgId qno hifId buffer addr gpdAddr) proxy mdState) := by
  refine ⟨nofun, ?_⟩
  show (List.filterMap some (List.range MAX_RX_BUDGET) ++ []).Perm (List.range MAX_RX_BUDGET)
  rw [List.filterMap_some, List.append_nil]

/-- Over any retries, the callback an RX queue was given keeps to its contract, and every buffer is
    disposed of exactly once, if and only if every round calls it safely. -/
theorem received_disposed_once_iff (cfgId : CldmaCfg) (qno : Nat) (hifId : CldmaId)
    (buffer : Nat → RxBuffer) (addr gpdAddr : Nat → Nat) (proxy : PortProxy) (mdState : MdState)
    (labels : List RxLabel) :
    let start := rxStart (rxqInit cfgId qno hifId buffer addr gpdAddr) proxy mdState
    Visits Disposes RxRun.step start labels ↔ Obeys SafeLabel RxRun.step start labels := by
  apply visits_iff_obeys fun s => ∃ lag, s.rxq.Window lag
  · intro s label t window _ taken
    exact step_window window taken
  · intro s label t window before taken
    exact step_disposes window before taken
  · exact ⟨0, rxqInit_window cfgId qno hifId buffer addr gpdAddr⟩
  · exact rxStart_disposes cfgId qno hifId buffer addr gpdAddr proxy mdState

def plainBuffer (size : Nat) : RxBuffer := ⟨64 + size, 64, fun _ => 0⟩

def plainRxq (cfgId : CldmaCfg) (qno : Nat) (hifId : CldmaId) : CldmaRxq :=
  rxqInit cfgId qno hifId (fun _ => plainBuffer (adjustConfig cfgId qno).1)
    (fun i => 4096 * (i + 1)) (fun i => 16 * (i + 1))

/-- The ports with sixteen messages waiting for the control thread of the modem. -/
def fullControl : PortProxy :=
  let proxy := portProxySetCfg (portConf false)
  proxy.setPort 2
    { proxy.ports 2 with rxSkbList := List.replicate 16 ⟨99, 3648, 80, 16, fun _ => 0⟩ }

def refilled (size : Nat) : RoundAnswers := ⟨true, 0, .mapped (plainBuffer size) 69632, false⟩

def shortControl : List RxLabel :=
  [.hwDone 0 12 fun i => if i = 9 then 0x20 else 0, .enter 16, .round (refilled 3584)]

/-- A message for the early port that comes when other ports are in its place, and one retry. -/
def earlyMessage : List RxLabel :=
  [.hwDone 0 12 fun _ => 0, .enter 16, .round (refilled 2048), .enter 16, .round (refilled 2048)]

theorem refused_without_header_not_restored :
    ¬ Visits Disposes RxRun.step (rxStart (plainRxq .sharedQ 0 .md) fullControl .ready)
        shortControl ∧
      ¬ Visits Disposes RxRun.step
        (rxStart (plainRxq .dedicatedQ CLDMA_Q_IDX_DUMP .ap) (portProxySetCfg (portConf false))
          .waitingForHs1) earlyMessage := by
  decide

end Running

end T7xxModel.Cldma
