import T7xx.Cldma.RxFromQ
import T7xx.Kernel.Primitives

namespace T7xxModel.Cldma

open Kernel Transition

/-- The memory of a buffer from `skb->data` on. -/
structure SkbData where
  id : Nat
  data : Nat
deriving DecidableEq, Repr

/-- A queue whose GPDs are received, with the live mappings of its buffers. -/
structure DmaRun where
  run : RxRun
  live : List (Mapping SkbData)

/-- A step of the queue, and `t7xx_cldma_clear_rxq`, which `t7xx_cldma_stop` lets begin when no work
    of the queue runs; `alloc` answers for each request that needs a buffer. -/
inductive DmaLabel where
  | rx (label : RxLabel)
  | clear (alloc : Nat → AllocAndMap)

section Steps

/-- The mapping that a round gives up before its callback. -/
def RxRun.unmaps (s : RxRun) : Option Nat :=
  match s.rxq.roundStart with
  | .message done _ => (s.rxq.request done).mappedBuff
  | _ => none

/-- The mapping that a round from `s` to `t` makes for the buffer it posts. -/
def RxRun.maps (s t : RxRun) (answers : RoundAnswers) : Option (Mapping SkbData) :=
  match answers.alloc with
  | .mapped buffer addr =>
    if t.allocated = s.allocated + 1 then some ⟨addr, s.allocated, buffer.data⟩ else none
  | _ => none

def unmapBuff (live : List (Mapping SkbData)) : Option Nat → List (Mapping SkbData)
  | none => live
  | some addr => dmaUnmap live addr

def mapBuff (live : List (Mapping SkbData)) :
    Option (Mapping SkbData) → Option (List (Mapping SkbData))
  | none => some live
  | some mapping => dmaMap live mapping

/-- A panic ends the run. -/
def DmaRun.rxStep (s : DmaRun) (label : RxLabel) : Option DmaRun :=
  (s.run.step label).bind fun run =>
    match label with
    | .round answers =>
      if run.panicked then some { s with run }
      else
        (mapBuff (unmapBuff s.live s.run.unmaps) (s.run.maps run answers)).map fun live =>
          { run, live }
    | _ => some { s with run }

def DmaRun.setRequest (s : DmaRun) (i : Nat) (req : RxRequest) : DmaRun :=
  { s with run := { s.run with rxq := s.run.rxq.setRequest i req } }

/-- The first loop of `t7xx_cldma_clear_rxq`. -/
def clearRxGpd (req : RxRequest) : RxRequest :=
  { req with
    gpd := ⟨GPD_FLAGS_IOC ||| GPD_FLAGS_HWO, req.gpd.dataBuffBdPtr, 0⟩
    skb := req.skb.map fun skb => { skb with len := 0 } }

/-- Its second loop, which the first error ends. -/
def clearRefill (alloc : Nat → AllocAndMap) : List Nat → DmaRun → Option DmaRun
  | [], s => some s
  | i :: rest, s =>
    let req := s.run.rxq.request i
    if req.skb.isSome then clearRefill alloc rest s
    else
      match alloc i with
      | .noMemory => some s
      | .mappingError =>
        let run : RxRun :=
          { s.run with
            allocated := s.run.allocated + 1
            disposed := s.run.disposed ++ [s.run.allocated] }
        some ({ s with run }.setRequest i { req with mappedBuff := none })
      | .mapped buffer addr =>
        let id := s.run.allocated
        let posted : RxRequest :=
          { req with
            gpd := { req.gpd with dataBuffBdPtr := addr }
            skb := some ⟨id, buffer.size, buffer.data, 0, buffer.bytes⟩
            mappedBuff := some addr }
        (dmaMap s.live ⟨addr, id, buffer.data⟩).bind fun live =>
          let run : RxRun := { s.run with allocated := id + 1 }
          clearRefill alloc rest (DmaRun.setRequest { run, live } i posted)

def clearRxq (alloc : Nat → AllocAndMap) (s : DmaRun) : Option DmaRun :=
  let rxq := s.run.rxq
  let cleared : CldmaRxq :=
    { rxq with
      request := fun i => clearRxGpd (rxq.request i)
      trDone := some 0
      rxRefill := 0 }
  clearRefill alloc (List.range MAX_RX_BUDGET) { s with run := { s.run with rxq := cleared } }

def DmaRun.step (s : DmaRun) : DmaLabel → Option DmaRun
  | .rx label => s.rxStep label
  | .clear alloc =>
    if s.run.loop.isSome ∨ s.run.panicked = true then none else clearRxq alloc s

def dmaStart (rxq : CldmaRxq) (proxy : PortProxy) (mdState : Fsm.MdState) : DmaRun where
  run := rxStart rxq proxy mdState
  live := (List.range MAX_RX_BUDGET).filterMap fun i =>
    match (rxq.request i).skb, (rxq.request i).mappedBuff with
    | some skb, some addr => some ⟨addr, skb.id, skb.data⟩
    | _, _ => none

end Steps

section Contract

/-- The GPD points to a live mapping of the request's own buffer. -/
def RxRequest.MapsAt (req : RxRequest) (live : List (Mapping SkbData)) (addr : Nat) : Prop :=
  req.gpd.dataBuffBdPtr = addr ∧
    ∃ skb ∈ req.skb, (⟨addr, skb.id, skb.data⟩ : Mapping SkbData) ∈ live

/-- Every GPD that the device owns points to its live `mapped_buff`, which maps its skb. -/
def HwoMapped (s : DmaRun) : Prop :=
  ∀ i < MAX_RX_BUDGET, (s.run.rxq.request i).gpd.hwo = true →
    ∃ addr ∈ (s.run.rxq.request i).mappedBuff, (s.run.rxq.request i).MapsAt s.live addr

/-- The buffer of a request is mapped, or it has none and gets one. -/
def RxRequest.Refills (req : RxRequest) (answer : AllocAndMap) : Prop :=
  match req.skb with
  | some _ => req.mappedBuff ≠ none
  | none => ∃ buffer addr, answer = .mapped buffer addr

/-- A clear finds every buffer of the ring mapped, and gets a mapped buffer for each request
    without one. -/
def ClearsMapped (s : DmaRun) : DmaLabel → Prop
  | .clear alloc => ∀ i < MAX_RX_BUDGET, (s.run.rxq.request i).Refills (alloc i)
  | _ => True

/-- What every run keeps: a `mapped_buff` is live and the request's own, and no two are the same. -/
structure Maps (request : Nat → RxRequest) (live : List (Mapping SkbData)) : Prop where
  sound : ∀ i < MAX_RX_BUDGET, ∀ addr ∈ (request i).mappedBuff, (request i).MapsAt live addr
  apart : ∀ i < MAX_RX_BUDGET, ∀ j < MAX_RX_BUDGET, ∀ addr ∈ (request i).mappedBuff,
    addr ∈ (request j).mappedBuff → i = j

def Owned (request : Nat → RxRequest) : Prop :=
  ∀ i < MAX_RX_BUDGET, (request i).gpd.hwo = true → (request i).mappedBuff ≠ none

def DmaRun.Mapped (s : DmaRun) : Prop :=
  (∃ lag, s.run.rxq.Window lag) ∧ (s.run.panicked = false → Maps s.run.rxq.request s.live)

end Contract

section Tables

variable {request other : Nat → RxRequest} {live rest : List (Mapping SkbData)} {i : Nat}

theorem Maps.unmapped_of_empty (maps : Maps request live) (place : i < MAX_RX_BUDGET)
    (free : (request i).skb = none) : (request i).mappedBuff = none := by
  by_contra mapped
  obtain ⟨addr, held⟩ := Option.ne_none_iff_exists'.mp mapped
  obtain ⟨_, skb, present, _⟩ := maps.sound i place addr held
  rw [free] at present
  cases present

theorem Maps.congr (maps : Maps request live)
    (same : ∀ j < MAX_RX_BUDGET, (other j).mappedBuff = (request j).mappedBuff)
    (pointer : ∀ j < MAX_RX_BUDGET,
      (other j).gpd.dataBuffBdPtr = (request j).gpd.dataBuffBdPtr)
    (buffer : ∀ j < MAX_RX_BUDGET, ∀ skb ∈ (request j).skb, ∃ left ∈ (other j).skb,
      left.id = skb.id ∧ left.data = skb.data) : Maps other live := by
  refine ⟨fun j place addr held => ?_, fun j first k second addr held again => ?_⟩
  · rw [same j place] at held
    obtain ⟨points, skb, present, mapped⟩ := maps.sound j place addr held
    obtain ⟨left, kept, id, data⟩ := buffer j place skb present
    exact ⟨(pointer j place).trans points, left, kept, by rwa [id, data]⟩
  · rw [same j first] at held
    rw [same k second] at again
    exact maps.apart j first k second addr held again

/-- A request may lose its mapping, which ends or is given up. -/
theorem Maps.forget (maps : Maps request live) {req : RxRequest} (none : req.mappedBuff = none)
    (left : ∀ j < MAX_RX_BUDGET, j ≠ i → ∀ mapping ∈ live,
      mapping.addr ∈ (request j).mappedBuff → mapping ∈ rest) :
    Maps (Function.update request i req) rest := by
  refine ⟨fun j place addr held => ?_, fun j first k second addr held again => ?_⟩
  · by_cases here : j = i
    · rw [here, Function.update_self, none] at held
      cases held
    · rw [Function.update_of_ne here] at held ⊢
      obtain ⟨points, skb, present, mapped⟩ := maps.sound j place addr held
      exact ⟨points, skb, present, left j place here _ mapped held⟩
  · by_cases here : j = i
    · rw [here, Function.update_self, none] at held
      cases held
    · by_cases there : k = i
      · rw [there, Function.update_self, none] at again
        cases again
      · rw [Function.update_of_ne here] at held
        rw [Function.update_of_ne there] at again
        exact maps.apart j first k second addr held again

theorem Maps.unmap (maps : Maps request live) (place : i < MAX_RX_BUDGET) {req : RxRequest}
    (none : req.mappedBuff = none) :
    Maps (Function.update request i req) (unmapBuff live (request i).mappedBuff) := by
  apply maps.forget none
  intro j below elsewhere mapping member held
  cases mine : (request i).mappedBuff with
  | none => exact member
  | some addr =>
    refine mem_dmaUnmap.mpr ⟨member, fun same => elsewhere ?_⟩
    rw [same] at held
    exact maps.apart j below i place addr held mine

/-- A fresh mapping belongs to the request it is made for. -/
theorem Maps.post (maps : Maps request live) {req : RxRequest} {mapping : Mapping SkbData}
    (mapped : dmaMap live mapping = some rest) (held : req.mappedBuff = some mapping.addr)
    (points : req.gpd.dataBuffBdPtr = mapping.addr)
    (buffer : ∃ skb ∈ req.skb, mapping.memory = ⟨skb.id, skb.data⟩) :
    Maps (Function.update request i req) rest := by
  obtain ⟨rfl, fresh⟩ := dmaMap_some mapped
  have unlike (j : Nat) (place : j < MAX_RX_BUDGET) :
      mapping.addr ∉ (request j).mappedBuff := by
    intro same
    obtain ⟨_, skb, _, live⟩ := maps.sound j place mapping.addr same
    exact fresh _ live rfl
  refine ⟨fun j place addr mine => ?_, fun j first k second addr mine again => ?_⟩
  · by_cases here : j = i
    · rw [here, Function.update_self] at mine ⊢
      obtain ⟨skb, present, memory⟩ := buffer
      rw [held] at mine
      cases mine
      refine ⟨points, skb, present, ?_⟩
      rw [← memory]
      exact List.mem_cons_self
    · rw [Function.update_of_ne here] at mine ⊢
      obtain ⟨target, skb, present, live⟩ := maps.sound j place addr mine
      exact ⟨target, skb, present, List.mem_cons_of_mem _ live⟩
  · by_cases here : j = i
    · by_cases there : k = i
      · rw [here, there]
      · rw [here, Function.update_self, held] at mine
        cases mine
        rw [Function.update_of_ne there] at again
        exact (unlike k second again).elim
    · by_cases there : k = i
      · rw [there, Function.update_self, held] at again
        cases again
        rw [Function.update_of_ne here] at mine
        exact (unlike j first mine).elim
      · rw [Function.update_of_ne here] at mine
        rw [Function.update_of_ne there] at again
        exact maps.apart j first k second addr mine again

theorem Owned.update (owned : Owned request) {req : RxRequest}
    (mine : req.gpd.hwo = true → req.mappedBuff ≠ none) : Owned (Function.update request i req) := by
  intro j place hwo
  by_cases here : j = i
  · rw [here, Function.update_self] at hwo ⊢
    exact mine hwo
  · rw [Function.update_of_ne here] at hwo ⊢
    exact owned j place hwo

theorem Maps.hwoMapped_iff {s : DmaRun} (maps : Maps s.run.rxq.request s.live) :
    HwoMapped s ↔ Owned s.run.rxq.request := by
  constructor
  · intro mapped i place hwo unmapped
    obtain ⟨addr, held, _⟩ := mapped i place hwo
    rw [unmapped] at held
    cases held
  · intro owned i place hwo
    obtain ⟨addr, held⟩ := Option.ne_none_iff_exists'.mp (owned i place hwo)
    exact ⟨addr, held, maps.sound i place addr held⟩

end Tables

section Rounds

variable {s t : RxRun} {live rest : List (Mapping SkbData)} {lag : Nat} {answers : RoundAnswers}
  {loop : RxLoop}

def KeptMaps (t : RxRun) (rest : List (Mapping SkbData)) : Prop :=
  Maps t.rxq.request rest ∧ Owned t.rxq.request

theorem rxRefill_keptMaps (window : s.rxq.Window (lag + 1)) (kept : KeptMaps s live)
    (mapped : mapBuff live (s.maps (rxRefill answers loop s) answers) = some rest) :
    KeptMaps (rxRefill answers loop s) rest := by
  obtain ⟨maps, owned⟩ := kept
  have place : s.rxq.rxRefill < MAX_RX_BUDGET := window.first
  have unmapped := maps.unmapped_of_empty place window.refill_empty
  cases answer : answers.alloc with
  | noMemory =>
    have same : rest = live := by
      simp only [RxRun.maps, answer, mapBuff] at mapped
      exact (Option.some.inj mapped).symm
    rw [same]
    simp only [rxRefill, answer]
    exact ⟨maps.forget unmapped fun j _ _ mapping member _ => member,
      owned.update fun hwo => owned _ place hwo⟩
  | mappingError =>
    have same : rest = live := by
      simp only [RxRun.maps, answer, mapBuff] at mapped
      exact (Option.some.inj mapped).symm
    rw [same]
    simp only [rxRefill, answer]
    exact ⟨maps.forget rfl fun j _ _ mapping member _ => member,
      owned.update fun hwo => absurd unmapped (owned _ place hwo)⟩
  | mapped buffer addr =>
    have one : (rxRefill answers loop s).allocated = s.allocated + 1 := by
      simp only [rxRefill, answer]
      split <;> rfl
    simp only [RxRun.maps, answer, if_pos one, mapBuff] at mapped
    have posted : (rxRefill answers loop s).rxq.request =
        Function.update s.rxq.request s.rxq.rxRefill
          { s.rxq.request s.rxq.rxRefill with
            gpd := ⟨GPD_FLAGS_IOC ||| GPD_FLAGS_HWO, addr, 0⟩
            skb := some ⟨s.allocated, buffer.size, buffer.data, 0, buffer.bytes⟩
            mappedBuff := some addr } := by
      simp only [rxRefill, answer]
      split <;> rfl
    unfold KeptMaps
    rw [posted]
    exact ⟨maps.post mapped rfl rfl ⟨_, rfl, rfl⟩, owned.update fun _ => Option.some_ne_none addr⟩

theorem roundStart_owner {done : Nat} {skb : RxSkb} (start : s.rxq.roundStart = .message done skb) :
    (s.rxq.request done).gpd.hwo = false := by
  unfold CldmaRxq.roundStart at start
  split at start
  · cases start
  dsimp only at start
  split at start
  · cases start
  split at start
  · cases start
  rename_i clear
  split at start
  · cases start
  · cases start
    exact Bool.eq_false_iff.mpr clear

theorem rxDeliver_keptMaps (window : s.rxq.Window lag) (kept : KeptMaps s live) {done : Nat}
    {skb : RxSkb} (start : s.rxq.roundStart = .message done skb)
    (alive : (rxDeliver answers loop done skb s).panicked = false)
    (mapped : mapBuff (unmapBuff live (s.rxq.request done).mappedBuff)
      (s.maps (rxDeliver answers loop done skb s) answers) = some rest) :
    KeptMaps (rxDeliver answers loop done skb s) rest := by
  obtain ⟨maps, owned⟩ := kept
  obtain ⟨current, held⟩ := roundStart_message start
  obtain ⟨old, present, _⟩ := Option.map_eq_some_iff.mp held
  have place := window.done_lt current
  have clear := roundStart_owner start
  unfold rxDeliver at alive mapped ⊢
  dsimp only at alive mapped ⊢
  split at alive
  · cases alive
  rename_i received returned
  rw [returned] at mapped
  dsimp only at mapped
  by_cases refused : received.ret < 0
  · rw [if_pos refused] at mapped ⊢
    have same : rest = unmapBuff live (s.rxq.request done).mappedBuff := by
      unfold RxRun.maps at mapped
      split at mapped
      · rw [if_neg (by simp [RxRun.return])] at mapped
        exact (Option.some.inj mapped).symm
      · exact (Option.some.inj mapped).symm
    rw [same]
    exact ⟨maps.unmap place rfl, owned.update fun hwo => by rw [clear] at hwo; cases hwo⟩
  · rw [if_neg refused] at mapped ⊢
    refine rxRefill_keptMaps (window.take current (window.lag_lt current present) rfl) ?_ mapped
    exact ⟨maps.unmap place rfl, owned.update fun hwo => by
      have flags : (s.rxq.request done).gpd.hwo = true := hwo
      rw [clear] at flags
      cases flags⟩

theorem maps_none {answers : RoundAnswers} (same : t.allocated = s.allocated) :
    s.maps t answers = none := by
  unfold RxRun.maps
  split
  · rw [if_neg (by omega)]
  · rfl

theorem rxRound_keptMaps (window : s.rxq.Window lag) (kept : KeptMaps s live)
    (alive : (rxRound answers loop s).panicked = false)
    (mapped : mapBuff (unmapBuff live s.unmaps) (s.maps (rxRound answers loop s) answers) =
      some rest) : KeptMaps (rxRound answers loop s) rest := by
  have idle {t : RxRun} (request : t.rxq.request = s.rxq.request)
      (allocated : t.allocated = s.allocated)
      (unchanged : mapBuff live (s.maps t answers) = some rest) : KeptMaps t rest := by
    rw [maps_none allocated] at unchanged
    cases unchanged
    unfold KeptMaps
    rw [request]
    exact kept
  unfold RxRun.unmaps rxRound at *
  cases start : s.rxq.roundStart with
  | noRing =>
    simp only [start] at mapped ⊢
    exact idle rfl rfl mapped
  | pending done =>
    simp only [start] at mapped ⊢
    have waits : (rxPollHwo answers loop done s).rxq.request = s.rxq.request ∧
        (rxPollHwo answers loop done s).allocated = s.allocated := by
      unfold rxPollHwo
      split
      · exact ⟨rfl, rfl⟩
      · split <;> exact ⟨rfl, rfl⟩
    exact idle waits.1 waits.2 mapped
  | overrun done =>
    simp only [start] at alive
    cases alive
  | message done skb =>
    simp only [start] at alive mapped ⊢
    exact rxDeliver_keptMaps window kept start alive mapped

end Rounds

section Clearing

variable {s t : DmaRun} {alloc : Nat → AllocAndMap} {places : List Nat}

/-- What the second loop of `t7xx_cldma_clear_rxq` does to the requests of `places`. -/
structure Refilled (alloc : Nat → AllocAndMap) (places : List Nat) (s t : DmaRun) : Prop where
  maps : Maps t.run.rxq.request t.live
  elsewhere : ∀ i ∉ places, t.run.rxq.request i = s.run.rxq.request i
  hwo : ∀ i, (t.run.rxq.request i).gpd.hwo = (s.run.rxq.request i).gpd.hwo
  ring : t.run.rxq.trDone = s.run.rxq.trDone ∧ t.run.rxq.rxRefill = s.run.rxq.rxRefill
  filled : (∀ i ∈ places, (t.run.rxq.request i).mappedBuff ≠ none) ↔
    ∀ i ∈ places, (s.run.rxq.request i).Refills (alloc i)

theorem Refilled.skip {i : Nat} {skb : RxSkb} (rest : Refilled alloc places s t)
    (fresh : i ∉ places) (present : (s.run.rxq.request i).skb = some skb) :
    Refilled alloc (i :: places) s t := by
  obtain ⟨kept, elsewhere, hwo, ring, filled⟩ := rest
  refine ⟨kept, fun j outside => ?_, hwo, ring, ?_⟩
  · exact elsewhere j fun member => outside (List.mem_cons_of_mem _ member)
  · rw [List.forall_mem_cons, List.forall_mem_cons, filled, elsewhere i fresh]
    simp only [RxRequest.Refills, present]

/-- The first empty request that gets no mapped buffer ends the loop. -/
theorem Refilled.stop {i : Nat} (maps : Maps t.run.rxq.request t.live)
    (present : (s.run.rxq.request i).skb = none)
    (failed : ∀ buffer addr, alloc i ≠ .mapped buffer addr)
    (elsewhere : ∀ j ≠ i, t.run.rxq.request j = s.run.rxq.request j)
    (unmapped : (t.run.rxq.request i).mappedBuff = none)
    (same : (t.run.rxq.request i).gpd.hwo = (s.run.rxq.request i).gpd.hwo)
    (ring : t.run.rxq.trDone = s.run.rxq.trDone ∧ t.run.rxq.rxRefill = s.run.rxq.rxRefill) :
    Refilled alloc (i :: places) s t := by
  refine ⟨maps, fun j outside => ?_, fun j => ?_, ring, iff_of_false (fun all => ?_) fun all => ?_⟩
  · exact elsewhere j fun here => outside (here ▸ List.mem_cons_self)
  · by_cases here : j = i
    · rw [here]
      exact same
    · rw [elsewhere j here]
  · exact all i List.mem_cons_self unmapped
  · have refills := all i List.mem_cons_self
    simp only [RxRequest.Refills, present] at refills
    obtain ⟨buffer, addr, answer⟩ := refills
    exact failed buffer addr answer

/-- An empty request gets a mapped buffer, before the loop goes on from `next`. -/
theorem Refilled.post {i : Nat} {next : DmaRun} {posted : RxRequest} {buffer : RxBuffer}
    {addr : Nat} (rest : Refilled alloc places next t) (fresh : i ∉ places)
    (present : (s.run.rxq.request i).skb = none) (answer : alloc i = .mapped buffer addr)
    (request : next.run.rxq.request = Function.update s.run.rxq.request i posted)
    (bus : posted.mappedBuff = some addr)
    (same : posted.gpd.hwo = (s.run.rxq.request i).gpd.hwo)
    (ring : next.run.rxq.trDone = s.run.rxq.trDone ∧
      next.run.rxq.rxRefill = s.run.rxq.rxRefill) :
    Refilled alloc (i :: places) s t := by
  obtain ⟨kept, elsewhere, hwo, loop, filled⟩ := rest
  have others (j : Nat) (apart : j ≠ i) : next.run.rxq.request j = s.run.rxq.request j := by
    rw [request]
    exact Function.update_of_ne apart _ _
  have mine : next.run.rxq.request i = posted := by
    rw [request]
    exact Function.update_self i posted s.run.rxq.request
  refine ⟨kept, fun j outside => ?_, fun j => (hwo j).trans ?_,
    ⟨loop.1.trans ring.1, loop.2.trans ring.2⟩, ?_⟩
  · have left := elsewhere j fun member => outside (List.mem_cons_of_mem _ member)
    exact left.trans (others j fun here => outside (here ▸ List.mem_cons_self))
  · by_cases here : j = i
    · rw [here, mine]
      exact same
    · rw [others j here]
  · have done : (s.run.rxq.request i).Refills (alloc i) := by
      simp only [RxRequest.Refills, present]
      exact ⟨buffer, addr, answer⟩
    have later : (∀ j ∈ places, (next.run.rxq.request j).Refills (alloc j)) ↔
        ∀ j ∈ places, (s.run.rxq.request j).Refills (alloc j) := by
      refine forall₂_congr fun j member => ?_
      rw [others j fun here => fresh (here ▸ member)]
    rw [List.forall_mem_cons, List.forall_mem_cons, filled, elsewhere i fresh, mine, bus]
    rw [and_iff_right done]
    exact (and_iff_right (Option.some_ne_none addr)).trans later

theorem clearRefill_refilled (nodup : places.Nodup) (below : ∀ i ∈ places, i < MAX_RX_BUDGET)
    (maps : Maps s.run.rxq.request s.live) (taken : clearRefill alloc places s = some t) :
    Refilled alloc places s t := by
  induction places generalizing s with
  | nil =>
    cases taken
    exact ⟨maps, fun _ _ => rfl, fun _ => rfl, ⟨rfl, rfl⟩, by simp⟩
  | cons i places ih =>
    obtain ⟨fresh, nodup⟩ := List.nodup_cons.mp nodup
    have place := below i List.mem_cons_self
    have rest : ∀ j ∈ places, j < MAX_RX_BUDGET :=
      fun j member => below j (List.mem_cons_of_mem _ member)
    unfold clearRefill at taken
    dsimp only at taken
    cases present : (s.run.rxq.request i).skb with
    | some skb =>
      rw [if_pos (by rw [present]; rfl)] at taken
      exact (ih nodup rest maps taken).skip fresh present
    | none =>
      rw [if_neg (by rw [present]; exact Bool.false_ne_true)] at taken
      cases answer : alloc i with
      | noMemory =>
        simp only [answer] at taken
        cases taken
        refine Refilled.stop maps present (fun buffer addr mapped => ?_) (fun _ _ => rfl)
          (maps.unmapped_of_empty place present) rfl ⟨rfl, rfl⟩
        rw [answer] at mapped
        cases mapped
      | mappingError =>
        simp only [answer] at taken
        cases taken
        refine Refilled.stop (maps.forget rfl fun j _ _ mapping member _ => member) present
          (fun buffer addr mapped => ?_) (fun j apart => Function.update_of_ne apart _ _) ?_ ?_
          ⟨rfl, rfl⟩
        · rw [answer] at mapped
          cases mapped
        · simp [DmaRun.setRequest, CldmaRxq.setRequest]
        · simp [DmaRun.setRequest, CldmaRxq.setRequest]
      | mapped buffer addr =>
        simp only [answer, Option.bind_eq_some_iff] at taken
        obtain ⟨live, mapped, taken⟩ := taken
        let posted : RxRequest :=
          { s.run.rxq.request i with
            gpd := { (s.run.rxq.request i).gpd with dataBuffBdPtr := addr }
            skb := some ⟨s.run.allocated, buffer.size, buffer.data, 0, buffer.bytes⟩
            mappedBuff := some addr }
        have gained := @Maps.post _ _ _ i maps posted _ mapped rfl rfl ⟨_, rfl, rfl⟩
        have later := ih nodup rest gained taken
        exact later.post fresh present answer rfl rfl rfl ⟨rfl, rfl⟩

/-- All GPDs have HWO after `t7xx_cldma_clear_rxq`, so that all their requests must be mapped. -/
theorem clearRxq_mapped (maps : Maps s.run.rxq.request s.live) (taken : clearRxq alloc s = some t) :
    Maps t.run.rxq.request t.live ∧ t.run.rxq.Window 0 ∧
      (Owned t.run.rxq.request ↔
        ∀ i < MAX_RX_BUDGET, (s.run.rxq.request i).Refills (alloc i)) := by
  have cleared : Maps (fun i => clearRxGpd (s.run.rxq.request i)) s.live := by
    refine maps.congr (fun _ _ => rfl) (fun _ _ => rfl) fun j _ skb present => ?_
    exact ⟨{ skb with len := 0 }, by simp [clearRxGpd, Option.mem_def.mp present], rfl, rfl⟩
  have refilled := clearRefill_refilled List.nodup_range
    (fun i member => List.mem_range.mp member) cleared taken
  have first : t.run.rxq.rxRefill = 0 := refilled.ring.2
  have done : t.run.rxq.trDone = some 0 := refilled.ring.1
  refine ⟨refilled.maps, ⟨?_, Nat.zero_le _, ?_, fun k below => absurd below (Nat.not_lt_zero k)⟩,
    ?_⟩
  · rw [first]
    exact Nat.zero_lt_succ 15
  · rw [done, first]
    rfl
  · have owns (i : Nat) : (t.run.rxq.request i).gpd.hwo = true := by
      rw [refilled.hwo i]
      have set : (GPD_FLAGS_IOC ||| GPD_FLAGS_HWO) &&& GPD_FLAGS_HWO ≠ 0 := by decide
      exact decide_eq_true set
    have same (i : Nat) : (clearRxGpd (s.run.rxq.request i)).Refills (alloc i) ↔
        (s.run.rxq.request i).Refills (alloc i) := by
      unfold RxRequest.Refills clearRxGpd
      cases (s.run.rxq.request i).skb <;> exact Iff.rfl
    have filled := refilled.filled
    simp only [List.mem_range] at filled
    constructor
    · intro owned i place
      exact (same i).mp (filled.mp (fun j below => owned j below (owns j)) i place)
    · intro all i place _
      exact filled.mpr (fun j below => (same j).mpr (all j below)) i place

end Clearing

section Running

variable {s t : DmaRun}

theorem hwDone_keptMaps {request : Nat → RxRequest} {live : List (Mapping SkbData)} (i : Nat)
    (pktSize : Nat) (dataBuffLen : BitVec 16) (content : Nat → BitVec 8)
    (maps : Maps request live) (owned : Owned request) :
    Maps (Function.update request i (hwDone pktSize dataBuffLen content (request i))) live ∧
      Owned (Function.update request i (hwDone pktSize dataBuffLen content (request i))) := by
  have clear : (hwDone pktSize dataBuffLen content (request i)).gpd.hwo = false := by
    simp [hwDone, CldmaGpd.hwo, hwo_cleared]
  refine ⟨maps.congr (fun j _ => ?_) (fun j _ => ?_) fun j _ skb present => ?_,
    owned.update fun hwo => by rw [clear] at hwo; cases hwo⟩
  · by_cases here : j = i
    · rw [here, Function.update_self]
      rfl
    · rw [Function.update_of_ne here]
  · by_cases here : j = i
    · rw [here, Function.update_self]
      rfl
    · rw [Function.update_of_ne here]
  · by_cases here : j = i
    · rw [here] at present ⊢
      rw [Function.update_self]
      unfold hwDone
      rw [Option.mem_def.mp present]
      exact ⟨_, rfl, rfl, rfl⟩
    · rw [Function.update_of_ne here]
      exact ⟨skb, present, rfl, rfl⟩

/-- A step of the queue itself keeps the mappings right, unless it panics. -/
theorem rxStep_keptMaps {label : RxLabel} (window : ∃ lag, s.run.rxq.Window lag)
    (kept : KeptMaps s.run s.live) (taken : s.rxStep label = some t)
    (alive : t.run.panicked = false) : KeptMaps t.run t.live := by
  obtain ⟨lag, window⟩ := window
  unfold DmaRun.rxStep at taken
  obtain ⟨run, stepped, taken⟩ := Option.bind_eq_some_iff.mp taken
  cases (step_cases stepped).2 with
  | enter | others =>
    cases taken
    exact kept
  | round answers loop called =>
    dsimp only at taken
    split at taken
    · rename_i panics
      cases taken
      rw [panics] at alive
      cases alive
    · obtain ⟨live, mapped, rfl⟩ := Option.map_eq_some_iff.mp taken
      exact rxRound_keptMaps window kept alive mapped
  | hwDone i dataBuffLen content owned =>
    cases taken
    exact hwDone_keptMaps i _ dataBuffLen content kept.1 kept.2

theorem rxRefill_panicked {s : RxRun} (answers : RoundAnswers) (loop : RxLoop) :
    (rxRefill answers loop s).panicked = s.panicked := by
  unfold rxRefill
  dsimp only
  split
  · rfl
  · rfl
  · split <;> rfl

/-- A round that panics has changed no request. -/
theorem rxRound_panics {s : RxRun} {answers : RoundAnswers} {loop : RxLoop}
    (alive : s.panicked = false) (panics : (rxRound answers loop s).panicked = true) :
    (rxRound answers loop s).rxq = s.rxq := by
  unfold rxRound at panics ⊢
  split
  · rfl
  · unfold rxPollHwo
    split
    · rfl
    · split <;> rfl
  · rfl
  · rename_i done skb start
    simp only [start] at panics
    unfold rxDeliver at panics ⊢
    dsimp only at panics ⊢
    split
    · rfl
    · rename_i received returned
      simp only [returned] at panics
      split at panics
      · have still : s.panicked = true := panics
        rw [alive] at still
        cases still
      · rw [rxRefill_panicked, alive] at panics
        cases panics

theorem rxStep_panics {label : RxLabel} (taken : s.rxStep label = some t)
    (panics : t.run.panicked = true) :
    t.run.rxq.request = s.run.rxq.request ∧ t.live = s.live := by
  unfold DmaRun.rxStep at taken
  obtain ⟨run, stepped, taken⟩ := Option.bind_eq_some_iff.mp taken
  obtain ⟨alive, step⟩ := step_cases stepped
  cases step with
  | enter | hwDone | others =>
    cases taken
    exact absurd (alive.symm.trans panics) Bool.false_ne_true
  | round answers loop called =>
    dsimp only at taken
    split at taken
    · rename_i panicked
      cases taken
      exact ⟨congrArg CldmaRxq.request (rxRound_panics alive panicked), rfl⟩
    · rename_i running
      obtain ⟨live, _, rfl⟩ := Option.map_eq_some_iff.mp taken
      exact absurd panics running

theorem rxStep_window {label : RxLabel} (window : ∃ lag, s.run.rxq.Window lag)
    (taken : s.rxStep label = some t) : ∃ lag, t.run.rxq.Window lag := by
  unfold DmaRun.rxStep at taken
  obtain ⟨run, stepped, taken⟩ := Option.bind_eq_some_iff.mp taken
  have kept := step_window window stepped
  split at taken
  · split at taken
    · cases taken
      exact kept
    · obtain ⟨live, _, rfl⟩ := Option.map_eq_some_iff.mp taken
      exact kept
  · cases taken
    exact kept

theorem rxStep_alive {label : RxLabel} (taken : s.rxStep label = some t) :
    s.run.panicked = false := by
  unfold DmaRun.rxStep at taken
  obtain ⟨run, stepped, _⟩ := Option.bind_eq_some_iff.mp taken
  exact (step_cases stepped).1

theorem step_mapped (s : DmaRun) (label : DmaLabel) (t : DmaRun) (mapped : s.Mapped)
    (before : HwoMapped s) (taken : s.step label = some t) :
    t.Mapped ∧ (HwoMapped t ↔ ClearsMapped s label) := by
  cases label with
  | rx label =>
    have alive := rxStep_alive taken
    have maps := mapped.2 alive
    have window := rxStep_window mapped.1 taken
    cases panics : t.run.panicked with
    | true =>
      obtain ⟨request, live⟩ := rxStep_panics taken panics
      refine ⟨⟨window, fun running => by rw [panics] at running; cases running⟩, ?_⟩
      refine iff_of_true ?_ trivial
      unfold HwoMapped
      rw [request, live]
      exact before
    | false =>
      have kept := rxStep_keptMaps mapped.1 ⟨maps, maps.hwoMapped_iff.mp before⟩ taken panics
      exact ⟨⟨window, fun _ => kept.1⟩, iff_of_true (kept.1.hwoMapped_iff.mpr kept.2) trivial⟩
  | clear alloc =>
    simp only [DmaRun.step] at taken
    split at taken
    · cases taken
    · rename_i allowed
      rw [not_or, Bool.not_eq_true, Bool.not_eq_true] at allowed
      obtain ⟨maps, window, owned⟩ := clearRxq_mapped (mapped.2 allowed.2) taken
      exact ⟨⟨⟨0, window⟩, fun _ => maps⟩, maps.hwoMapped_iff.trans owned⟩

theorem dmaStart_maps (cfgId : CldmaCfg) (qno : Nat) (hifId : CldmaId) (buffer : Nat → RxBuffer)
    {addr : Nat → Nat} (gpdAddr : Nat → Nat) (proxy : PortProxy) (mdState : Fsm.MdState)
    (distinct : ∀ i < MAX_RX_BUDGET, ∀ j < MAX_RX_BUDGET, addr i = addr j → i = j) :
    let s := dmaStart (rxqInit cfgId qno hifId buffer addr gpdAddr) proxy mdState
    Maps s.run.rxq.request s.live := by
  refine ⟨fun i place a held => ?_, fun i first j second a held again => ?_⟩
  · cases held
    refine ⟨rfl, _, rfl, ?_⟩
    exact List.mem_filterMap.mpr ⟨i, List.mem_range.mpr place, rfl⟩
  · cases held
    exact distinct i first j second (Option.some.inj again).symm

/-- Over any order of steps, what an RX queue owns is mapped if and only if every clear finds the
    buffers of the ring mapped and fills the rest of it. -/
theorem hwo_mapped_iff (cfgId : CldmaCfg) (qno : Nat) (hifId : CldmaId) (buffer : Nat → RxBuffer)
    (addr gpdAddr : Nat → Nat) (proxy : PortProxy) (mdState : Fsm.MdState)
    (distinct : ∀ i < MAX_RX_BUDGET, ∀ j < MAX_RX_BUDGET, addr i = addr j → i = j)
    (labels : List DmaLabel) :
    let start := dmaStart (rxqInit cfgId qno hifId buffer addr gpdAddr) proxy mdState
    Visits HwoMapped DmaRun.step start labels ↔ Obeys ClearsMapped DmaRun.step start labels := by
  intro start
  have maps := dmaStart_maps cfgId qno hifId buffer gpdAddr proxy mdState distinct
  have owned : Owned start.run.rxq.request := fun i _ _ => Option.some_ne_none (addr i)
  apply visits_iff_obeys DmaRun.Mapped
  · intro s label t mapped before taken
    exact (step_mapped s label t mapped before taken).1
  · intro s label t mapped before taken
    exact (step_mapped s label t mapped before taken).2
  · exact ⟨⟨0, rxqInit_window cfgId qno hifId buffer addr gpdAddr⟩, fun _ => maps⟩
  · exact maps.hwoMapped_iff.mpr owned

end Running

section Examples

def plainStart : DmaRun := dmaStart (plainRxq .sharedQ 0 .md) fullControl .ready

/-- A message to the control thread that is refused, and the exception that clears the queue. -/
def refusedThenCleared : List DmaLabel :=
  [.rx (.hwDone 0 16 fun i => if i = 9 then 0x20 else 0), .rx (.enter 16),
    .rx (.round (refilled 3584)), .clear fun _ => .noMemory]

theorem hwo_mapped_iff_refused :
    Visits HwoMapped DmaRun.step plainStart refusedThenCleared ↔
      Obeys ClearsMapped DmaRun.step plainStart refusedThenCleared :=
  hwo_mapped_iff .sharedQ 0 .md (fun _ => plainBuffer (adjustConfig .sharedQ 0).1)
    (fun i => 4096 * (i + 1)) (fun i => 16 * (i + 1)) fullControl .ready
    (fun i _ j _ same => by omega) refusedThenCleared

theorem refused_buffer_posted_unmapped :
    ¬ ∀ labels : List DmaLabel, Visits HwoMapped DmaRun.step plainStart labels := by
  intro always
  have visits := always refusedThenCleared
  obtain ⟨s, run, owns, unmapped⟩ : ∃ s,
      execute DmaRun.step plainStart refusedThenCleared = some s ∧
        (s.run.rxq.request 0).gpd.hwo = true ∧ (s.run.rxq.request 0).mappedBuff = none :=
    ⟨_, rfl, rfl, rfl⟩
  obtain ⟨addr, held, _⟩ := visits.finish run 0 (Nat.zero_lt_succ 15) owns
  rw [unmapped] at held
  cases held

end Examples

end T7xxModel.Cldma
