import T7xx.Cldma.MappingRuns

namespace T7xxModel.Cldma

open Transition

section TxQueues

variable {queue rest : CldmaQueue MAX_TX_BUDGET}

theorem send_mappings (room : queue.hasRoom = true) (skb : SkBuff) (mapping : Option Nat)
    (active : Bool) :
    (queue.send skb mapping active).mappings = Ring.single mapping + queue.mappings := by
  have free := (hasRoom_iff.mp room).2
  have empty : (queue.request queue.txNext).mapping = 0 := by simp [CldmaRequest.mapping, free]
  have filled : ((queue.send skb mapping active).request queue.txNext).mapping =
      Ring.single mapping := by
    cases mapping with
    | none =>
      rw [send_unmapped]
      simp [CldmaRequest.mapping, free]
    | some addr =>
      cases active <;>
        simp [CldmaRequest.mapping, CldmaQueue.send, gpdHandleTxRequest, mapTxRequest, setGpdHwo,
          storeTxSkb, CldmaQueue.setRequest, CldmaQueue.takeBudget, CldmaQueue.advance]
  have changed := Ring.holdings_changed (Finset.mem_univ queue.txNext)
    fun j _ (apart : j ≠ queue.txNext) =>
      congrArg CldmaRequest.mapping (send_elsewhere skb mapping active apart)
  rwa [empty, filled, zero_add] at changed

theorem send_txMapped (sound : TxMapped queue) (room : queue.hasRoom = true) (skb : SkBuff)
    (mapping : Option Nat) (active : Bool) : TxMapped (queue.send skb mapping active) := by
  have free := (hasRoom_iff.mp room).2
  intro i held
  by_cases here : i = queue.txNext
  · subst here
    cases mapping with
    | none =>
      rw [send_unmapped] at held
      simp [free] at held
    | some addr =>
      cases active <;>
        simp [CldmaQueue.send, gpdHandleTxRequest, mapTxRequest, setGpdHwo, storeTxSkb,
          CldmaQueue.setRequest, CldmaQueue.takeBudget, CldmaQueue.advance]
  · rw [send_elsewhere skb mapping active here] at held ⊢
    exact sound i held

theorem completeGpd_kept (i j : Fin MAX_TX_BUDGET) :
    ((completeGpd queue i).request j).skb = (queue.request j).skb ∧
      ((completeGpd queue i).request j).mappedBuff = (queue.request j).mappedBuff := by
  by_cases here : j = i
  · simp [completeGpd, CldmaQueue.setRequest, here]
  · simp [completeGpd, CldmaQueue.setRequest, here]

theorem completeGpd_mappings (i : Fin MAX_TX_BUDGET) :
    (completeGpd queue i).mappings = queue.mappings := by
  refine Ring.holdings_congr fun j _ => ?_
  obtain ⟨skb, mappedBuff⟩ := @completeGpd_kept queue i j
  unfold CldmaRequest.mapping
  rw [skb, mappedBuff]

theorem completeGpd_txMapped (sound : TxMapped queue) (i : Fin MAX_TX_BUDGET) :
    TxMapped (completeGpd queue i) := by
  intro j held
  obtain ⟨skb, mappedBuff⟩ := @completeGpd_kept queue i j
  rw [skb] at held
  rw [mappedBuff]
  exact sound j held

/-- What a collection takes leaves the ring, and is the mapping of an skb. -/
theorem gpdTxCollect_mappings {disposed : Disposed} (sound : TxMapped queue)
    (collected : gpdTxCollect queue = some (rest, disposed)) :
    Ring.single (queue.request queue.trDone).mappedBuff + rest.mappings = queue.mappings ∧
      (queue.request queue.trDone).mappedBuff ≠ none ∧ TxMapped rest := by
  obtain ⟨skb, present, -, -, rfl⟩ := gpdTxCollect_cases collected
  have held : (queue.request queue.trDone).mapping =
      Ring.single (queue.request queue.trDone).mappedBuff := by
    simp [CldmaRequest.mapping, present]
  have mapped := sound queue.trDone (by rw [present]; rfl)
  refine ⟨?_, Option.isSome_iff_ne_none.mp mapped, fun i some_skb => ?_⟩
  · rw [← held]
    exact Ring.holdings_empty (Finset.mem_univ _) CldmaRequest.mapping queue.request rfl
  · by_cases here : i = queue.trDone
    · simp [here] at some_skb
    · simp only [Function.update_of_ne here] at some_skb ⊢
      exact sound i some_skb

theorem clearTxq_mappings : (clearTxq queue).1.mappings = 0 ∧ TxMapped (clearTxq queue).1 := by
  refine ⟨Ring.holdings_eq_zero.mpr fun i _ => ?_, fun i held => ?_⟩
  · simp [clearTxq, CldmaRequest.mapping]
  · simp [clearTxq] at held

theorem mappings_eq_zero (sound : TxMapped queue) : queue.mappings = 0 ↔ queue.occupied = [] := by
  unfold CldmaQueue.mappings CldmaQueue.occupied
  rw [Ring.holdings_eq_zero, List.filter_eq_nil_iff]
  constructor
  · intro none i _ held
    obtain ⟨addr, mapped⟩ := Option.isSome_iff_exists.mp (sound i held)
    have empty := none i (Finset.mem_univ i)
    simp [CldmaRequest.mapping, held, mapped] at empty
  · intro empty i _
    have free := empty i (List.mem_finRange i)
    simp [CldmaRequest.mapping, free]

end TxQueues

section RxQueues

variable {s : RxRun} {lag : Nat} {answers : RoundAnswers} {loop : RxLoop}

theorem mapping_of_empty {req : RxRequest} (empty : req.skb = none) : req.mapping = 0 := by
  simp [RxRequest.mapping, empty]

theorem mapping_of_unmapped {req : RxRequest} (unmapped : req.mappedBuff = none) :
    req.mapping = 0 := by
  simp [RxRequest.mapping, unmapped]

theorem mapping_of_skb {req : RxRequest} {skb : RxSkb} (present : req.skb = some skb) :
    req.mapping = Ring.single req.mappedBuff := by
  simp [RxRequest.mapping, present]

theorem setRequest_mappings {rxq : CldmaRxq} {i : Nat} (place : i < MAX_RX_BUDGET)
    (req : RxRequest) :
    (rxq.request i).mapping + (rxq.setRequest i req).mappings = req.mapping + rxq.mappings :=
  Ring.holdings_update (Finset.mem_range.mpr place) RxRequest.mapping rxq.request req

theorem setRequest_taken {rxq : CldmaRxq} {i : Nat} {skb : RxSkb} {req : RxRequest}
    (place : i < MAX_RX_BUDGET) (present : (rxq.request i).skb = some skb)
    (gone : req.mapping = 0) :
    Ring.single (rxq.request i).mappedBuff + (rxq.setRequest i req).mappings = rxq.mappings := by
  rw [← mapping_of_skb present]
  exact Ring.holdings_empty (Finset.mem_range.mpr place) RxRequest.mapping rxq.request gone

theorem setRequest_filled {rxq : CldmaRxq} {i : Nat} (place : i < MAX_RX_BUDGET)
    (empty : (rxq.request i).skb = none) (req : RxRequest) :
    (rxq.setRequest i req).mappings = req.mapping + rxq.mappings :=
  Ring.holdings_fill (Finset.mem_range.mpr place) (mapping_of_empty empty) req

/-- The mapping that the end of a round makes. -/
def refillMapping : AllocAndMap → Option Nat
  | .mapped _ addr => some addr
  | _ => none

theorem rxRefill_mappings (window : s.rxq.Window (lag + 1)) :
    (rxRefill answers loop s).rxq.mappings =
      Ring.single (refillMapping answers.alloc) + s.rxq.mappings := by
  have filled := setRequest_filled window.first window.refill_empty
  unfold rxRefill
  dsimp only
  split
  · rename_i answer
    rw [answer]
    exact filled _
  · rename_i answer
    rw [answer]
    exact filled _
  · rename_i buffer addr answer
    rw [answer]
    split
    · exact filled _
    · exact filled _

theorem rxRefill_allocated (answers : RoundAnswers) (loop : RxLoop) (s : RxRun) {buffer : RxBuffer}
    {addr : Nat} (answer : answers.alloc = .mapped buffer addr) :
    (rxRefill answers loop s).allocated = s.allocated + 1 := by
  simp only [rxRefill, answer]
  split <;> rfl

/-- A round unmaps the buffer that it hands over, and maps the one that it posts. -/
theorem rxRound_mappings (window : s.rxq.Window lag)
    (alive : (rxRound answers loop s).panicked = false) :
    Ring.single s.unmaps + (rxRound answers loop s).rxq.mappings =
      Ring.single ((s.maps (rxRound answers loop s) answers).map Kernel.Mapping.addr) +
        s.rxq.mappings := by
  unfold rxRound RxRun.unmaps at *
  cases start : s.rxq.roundStart with
  | noRing =>
    have idle : (s.return (-ENODATA)).allocated = s.allocated := rfl
    dsimp only
    rw [maps_none idle]
    rfl
  | pending done =>
    dsimp only
    have waits : (rxPollHwo answers loop done s).rxq = s.rxq ∧
        (rxPollHwo answers loop done s).allocated = s.allocated := by
      unfold rxPollHwo
      split
      · exact ⟨rfl, rfl⟩
      · split <;> exact ⟨rfl, rfl⟩
    rw [maps_none waits.2, waits.1]
    rfl
  | overrun done =>
    simp only [start] at alive
    cases alive
  | message done skb =>
    simp only [start] at alive ⊢
    obtain ⟨current, held⟩ := roundStart_message start
    obtain ⟨old, present, _⟩ := Option.map_eq_some_iff.mp held
    have place := window.done_lt current
    unfold rxDeliver at alive ⊢
    dsimp only at alive ⊢
    split at alive
    · cases alive
    rename_i received returned
    split
    · rw [maps_none]
      · refine Eq.trans ?_ (zero_add _).symm
        exact setRequest_taken place present (mapping_of_unmapped rfl)
      · rfl
    · have taken := @setRequest_taken s.rxq done old
        { s.rxq.request done with
          mappedBuff := none
          gpd := { (s.rxq.request done).gpd with dataBuffBdPtr := 0 }
          skb := none } place present (mapping_of_empty rfl)
      refine Eq.trans (congrArg (_ + ·) (rxRefill_mappings
        (window.take current (window.lag_lt current present) rfl))) ?_
      rw [add_left_comm]
      refine congrArg₂ (· + ·) ?_ taken
      unfold RxRun.maps refillMapping
      cases answer : answers.alloc with
      | noMemory => rfl
      | mappingError => rfl
      | mapped buffer addr =>
        dsimp only
        rw [rxRefill_allocated answers loop _ answer, if_pos rfl]
        rfl

theorem rxStep_mappings {s t : DmaRun} {label : RxLabel} (window : ∃ lag, s.run.rxq.Window lag)
    (taken : s.rxStep label = some t) (alive : t.run.panicked = false) :
    rxUnmapped s label + t.run.rxq.mappings = rxMapped s t label + s.run.rxq.mappings := by
  obtain ⟨lag, window⟩ := window
  have step := (step_cases (rxStep_run taken)).2
  unfold rxUnmapped rxMapped
  generalize t.run = run at step alive ⊢
  cases step with
  | enter | others => rfl
  | round answers loop called => exact rxRound_mappings window alive
  | hwDone i dataBuffLen content owned =>
    have kept := @setRequest_mappings s.run.rxq i owned.1
      (hwDone s.run.rxq.pktSize dataBuffLen content (s.run.rxq.request i))
    have same : (hwDone s.run.rxq.pktSize dataBuffLen content (s.run.rxq.request i)).mapping =
        (s.run.rxq.request i).mapping := by
      simp [RxRequest.mapping, hwDone]
    rw [same] at kept
    exact congrArg (0 + ·) (add_left_cancel kept)

theorem clearRxqMapped_congr {alloc : Nat → AllocAndMap} {rxq other : CldmaRxq} {places : List Nat}
    (same : ∀ i ∈ places, (other.request i).skb.isSome = (rxq.request i).skb.isSome) :
    clearRxqMapped alloc other places = clearRxqMapped alloc rxq places := by
  induction places with
  | nil => rfl
  | cons i places ih =>
    obtain ⟨here, later⟩ := List.forall_mem_cons.mp same
    unfold clearRxqMapped
    rw [here, ih later]

theorem clearRefill_mappings {s t : DmaRun} {alloc : Nat → AllocAndMap} {places : List Nat}
    (nodup : places.Nodup) (below : ∀ i ∈ places, i < MAX_RX_BUDGET)
    (taken : clearRefill alloc places s = some t) :
    t.run.rxq.mappings = clearRxqMapped alloc s.run.rxq places + s.run.rxq.mappings := by
  induction places generalizing s with
  | nil =>
    cases taken
    exact (zero_add _).symm
  | cons i places ih =>
    obtain ⟨fresh, nodup⟩ := List.nodup_cons.mp nodup
    obtain ⟨place, rest⟩ := List.forall_mem_cons.mp below
    unfold clearRefill at taken
    unfold clearRxqMapped
    dsimp only at taken
    split at taken
    · rename_i present
      rw [if_pos present]
      exact ih nodup rest taken
    · rename_i absent
      have empty : (s.run.rxq.request i).skb = none := by simpa using absent
      have filled := setRequest_filled place empty
      rw [if_neg absent]
      cases answer : alloc i with
      | noMemory =>
        simp only [answer] at taken
        cases taken
        exact (zero_add _).symm
      | mappingError =>
        simp only [answer] at taken
        cases taken
        have unmapped := filled { s.run.rxq.request i with mappedBuff := none }
        rw [mapping_of_unmapped rfl] at unmapped
        exact unmapped
      | mapped buffer addr =>
        simp only [answer, Option.bind_eq_some_iff] at taken
        obtain ⟨live, -, taken⟩ := taken
        have later := ih nodup rest taken
        have posted := filled
          { s.run.rxq.request i with
            gpd := { (s.run.rxq.request i).gpd with dataBuffBdPtr := addr }
            skb := some ⟨s.run.allocated, buffer.size, buffer.data, 0, buffer.bytes⟩
            mappedBuff := some addr }
        have same : clearRxqMapped alloc s.run.rxq places = clearRxqMapped alloc
            (s.run.rxq.setRequest i
              { s.run.rxq.request i with
                gpd := { (s.run.rxq.request i).gpd with dataBuffBdPtr := addr }
                skb := some ⟨s.run.allocated, buffer.size, buffer.data, 0, buffer.bytes⟩
                mappedBuff := some addr }) places := by
          refine (clearRxqMapped_congr fun j member => ?_).symm
          have apart : j ≠ i := fun here => fresh (here ▸ member)
          simp [CldmaRxq.setRequest, apart]
        rw [mapping_of_skb rfl, Ring.single_some, Multiset.singleton_add] at posted
        dsimp only
        rw [same, Multiset.cons_add, ← Multiset.add_cons, ← posted]
        exact later

theorem clearRxq_mappings {s t : DmaRun} {alloc : Nat → AllocAndMap}
    (taken : clearRxq alloc s = some t) :
    t.run.rxq.mappings =
      clearRxqMapped alloc s.run.rxq (List.range MAX_RX_BUDGET) + s.run.rxq.mappings := by
  have refilled := clearRefill_mappings List.nodup_range
    (fun i member => List.mem_range.mp member) taken
  have kept : Ring.holdings (Finset.range MAX_RX_BUDGET) RxRequest.mapping
      (fun i => clearRxGpd (s.run.rxq.request i)) = s.run.rxq.mappings := by
    refine Ring.holdings_congr fun i _ => ?_
    simp [RxRequest.mapping, clearRxGpd]
  have same : clearRxqMapped alloc
      { s.run.rxq with
        request := fun i => clearRxGpd (s.run.rxq.request i)
        trDone := some 0
        rxRefill := 0 } (List.range MAX_RX_BUDGET) =
      clearRxqMapped alloc s.run.rxq (List.range MAX_RX_BUDGET) :=
    clearRxqMapped_congr fun i _ => by simp [clearRxGpd]
  rw [refilled]
  exact congrArg₂ (· + ·) same kept

end RxQueues

end T7xxModel.Cldma
