import T7xx.Cldma.RxMapping
import T7xx.Transition.Traces

namespace T7xxModel.Cldma

open Transition

section Contract

/-- The device owns the request and has a buffer to receive into. -/
def RxRequest.Posted (req : RxRequest) : Prop := req.gpd.hwo = true ∧ req.skb ≠ none

/-- The device is done with the request, whose buffer was not collected yet. -/
def RxRequest.Completed (req : RxRequest) : Prop := req.gpd.hwo = false ∧ req.skb ≠ none

def CldmaRxq.AllPosted (rxq : CldmaRxq) : Prop :=
  ∀ i < MAX_RX_BUDGET, (rxq.request i).Posted ∨ (rxq.request i).Completed

def AllocAndMap.Fails : AllocAndMap → Prop
  | .mapped _ _ => False
  | _ => True

/-- The round finds a message that the callback takes, so that it asks for a new buffer. -/
def RxRun.Takes (s : RxRun) : Prop :=
  match s.rxq.roundStart with
  | .message _ skb => ∃ received ∈
      s.rxq.recvSkb.call s.rxq.hifId s.rxq.index s.mdState s.proxy skb, 0 ≤ received.ret
  | _ => False

/-- A call of `t7xx_cldma_alloc_and_map_skb` fails in the step. -/
def AllocFails (s : DmaRun) : DmaLabel → Prop
  | .rx (.round answers) => s.run.Takes ∧ answers.alloc.Fails
  | .clear alloc => ∃ i < MAX_RX_BUDGET, (s.run.rxq.request i).skb = none ∧ (alloc i).Fails
  | _ => False

def DmaLabel.Clears : DmaLabel → Prop
  | .clear _ => True
  | _ => False

section Traces

variable (trace : Trace DmaRun.step)

def AllocsSucceed (bound : Nat) : Prop :=
  ∀ n ≥ bound, ¬ AllocFails (trace.state n) (trace.label n)

/-- Once allocations succeed again, the queue comes to have a buffer in every request. -/
def Reposts : Prop :=
  ∀ bound, AllocsSucceed trace bound → ∃ m ≥ bound, (trace.state m).run.rxq.AllPosted

/-- In a run whose failures come to an end, each is followed by `t7xx_cldma_clear_rxq`. -/
def FailuresCleared : Prop :=
  ∀ bound, AllocsSucceed trace bound →
    ∀ k, AllocFails (trace.state k) (trace.label k) → ∃ m > k, (trace.label m).Clears

def DeviceCompletes : Prop :=
  ∀ n, ∀ i < MAX_RX_BUDGET, ((trace.state n).run.rxq.request i).gpd.hwo = true →
    ∃ m ≥ n, ((trace.state m).run.rxq.request i).gpd.hwo = false

def RoundsRun : Prop := ∀ n, ∃ m ≥ n, ∃ answers, trace.label m = .rx (.round answers)

end Traces

end Contract

section Filling

variable {rxq : CldmaRxq} {lag : Nat}

theorem allPosted_iff : rxq.AllPosted ↔ ∀ i < MAX_RX_BUDGET, (rxq.request i).skb ≠ none := by
  refine forall₂_congr fun i place => ?_
  unfold RxRequest.Posted RxRequest.Completed
  cases (rxq.request i).gpd.hwo <;> simp

theorem allPosted_setRequest (i : Nat) (req : RxRequest) :
    (rxq.setRequest i req).AllPosted ↔
      (i < MAX_RX_BUDGET → req.skb ≠ none) ∧
        ∀ j < MAX_RX_BUDGET, j ≠ i → (rxq.request j).skb ≠ none := by
  rw [allPosted_iff]
  constructor
  · intro all
    refine ⟨fun place => ?_, fun j place apart => ?_⟩
    · simpa [CldmaRxq.setRequest] using all i place
    · simpa [CldmaRxq.setRequest, apart] using all j place
  · rintro ⟨here, others⟩ j place
    by_cases same : j = i
    · subst same
      simpa [CldmaRxq.setRequest] using here place
    · simpa [CldmaRxq.setRequest, same] using others j place same

/-- Filling the request at `rx_refill` fills the queue exactly if the request that was just emptied
    is that one, which it is while nothing waits for a buffer. -/
theorem taken_refilled {done : Nat} {req : RxRequest} (window : rxq.Window lag)
    (current : rxq.trDone = some done) (present : (rxq.request done).skb ≠ none)
    (empty : req.skb = none) :
    (∀ j < MAX_RX_BUDGET, j ≠ rxq.rxRefill → ((rxq.setRequest done req).request j).skb ≠ none) ↔
      rxq.AllPosted := by
  have place := window.done_lt current
  have emptied : ((rxq.setRequest done req).request done).skb = none := by
    simpa [CldmaRxq.setRequest] using empty
  have kept (j : Nat) (apart : j ≠ done) : (rxq.setRequest done req).request j = rxq.request j := by
    simp [CldmaRxq.setRequest, apart]
  rw [allPosted_iff]
  constructor
  · intro others j below
    have here : done = rxq.rxRefill := by
      by_contra apart
      exact others done place apart emptied
    by_cases same : j = done
    · rw [same]
      exact present
    · have left := others j below (here ▸ same)
      rwa [kept j same] at left
  · intro all j below apart
    have none : lag = 0 := by
      by_contra some_wait
      exact all _ (Nat.mod_lt _ (by decide)) (window.empty 0 (by omega))
    have here : done = rxq.rxRefill := by
      have last := window.last
      rw [current, none, Nat.add_zero, Nat.mod_eq_of_lt window.first] at last
      exact Option.some.inj last
    rw [kept j (here ▸ apart)]
    exact all j below

end Filling

section Rounds

variable {s : RxRun} {lag : Nat} {answers : RoundAnswers} {loop : RxLoop}

theorem rxRefill_posted (place : s.rxq.rxRefill < MAX_RX_BUDGET) :
    (rxRefill answers loop s).rxq.AllPosted ↔
      (∀ j < MAX_RX_BUDGET, j ≠ s.rxq.rxRefill → (s.rxq.request j).skb ≠ none) ∧
        ¬ answers.alloc.Fails := by
  unfold rxRefill
  dsimp only
  split
  · rename_i answer
    simp only [RxRun.return, answer, AllocAndMap.Fails, not_true_eq_false, and_false, iff_false]
    exact fun all => ((allPosted_setRequest _ _).mp all).1 place rfl
  · rename_i answer
    simp only [RxRun.return, answer, AllocAndMap.Fails, not_true_eq_false, and_false, iff_false]
    exact fun all => ((allPosted_setRequest _ _).mp all).1 place rfl
  · rename_i buffer addr answer
    have filled := @allPosted_setRequest s.rxq s.rxq.rxRefill
      { s.rxq.request s.rxq.rxRefill with
        gpd := ⟨GPD_FLAGS_IOC ||| GPD_FLAGS_HWO, addr, 0⟩
        skb := some ⟨s.allocated, buffer.size, buffer.data, 0, buffer.bytes⟩
        mappedBuff := some addr }
    simp only [answer, AllocAndMap.Fails, not_false_eq_true, and_true]
    rw [imp_iff_right place, and_iff_right (Option.some_ne_none _)] at filled
    split
    · exact filled
    · exact filled

/-- A round leaves the queue filled exactly if it found it so and its allocation, if it comes to
    one, succeeds. -/
theorem rxRound_posted (window : s.rxq.Window lag) :
    (rxRound answers loop s).rxq.AllPosted ↔
      s.rxq.AllPosted ∧ ¬ (s.Takes ∧ answers.alloc.Fails) := by
  unfold rxRound RxRun.Takes
  cases start : s.rxq.roundStart with
  | noRing => simp [RxRun.return]
  | pending done =>
    have waits : (rxPollHwo answers loop done s).rxq = s.rxq := by
      unfold rxPollHwo
      split
      · rfl
      · split <;> rfl
    simp [waits]
  | overrun done => simp
  | message done skb =>
    obtain ⟨current, held⟩ := roundStart_message start
    obtain ⟨old, found, _⟩ := Option.map_eq_some_iff.mp held
    have present : (s.rxq.request done).skb ≠ none := by
      rw [found]
      exact Option.some_ne_none old
    dsimp only
    unfold rxDeliver
    dsimp only
    cases returned : s.rxq.recvSkb.call s.rxq.hifId s.rxq.index s.mdState s.proxy skb with
    | none => simp
    | some received =>
      dsimp only
      split
      · rename_i refused
        have untaken : ¬ ∃ other ∈ some received, 0 ≤ other.ret := by
          rintro ⟨other, same, accepted⟩
          cases same
          omega
        simp only [untaken, false_and, not_false_eq_true, and_true, RxRun.return]
        rw [allPosted_setRequest, allPosted_iff]
        constructor
        · rintro ⟨-, others⟩ j below
          by_cases here : j = done
          · rw [here]
            exact present
          · exact others j below here
        · exact fun all => ⟨fun _ => Option.some_ne_none _, fun j below _ => all j below⟩
      · rename_i accepted
        have taken : ∃ other ∈ some received, 0 ≤ other.ret :=
          ⟨received, rfl, Int.not_lt.mp accepted⟩
        simp only [taken, true_and]
        refine Iff.trans (rxRefill_posted ?_) (and_congr_left fun _ => ?_)
        · exact window.first
        · exact taken_refilled window current present rfl

theorem hwDone_posted {rxq : CldmaRxq} (i : Nat) (dataBuffLen : BitVec 16)
    (content : Nat → BitVec 8) :
    (rxq.setRequest i (hwDone rxq.pktSize dataBuffLen content (rxq.request i))).AllPosted ↔
      rxq.AllPosted := by
  have same : (hwDone rxq.pktSize dataBuffLen content (rxq.request i)).skb ≠ none ↔
      (rxq.request i).skb ≠ none := by
    unfold hwDone
    simp
  rw [allPosted_setRequest, allPosted_iff, same]
  constructor
  · rintro ⟨here, others⟩ j below
    by_cases this : j = i
    · rw [this] at below ⊢
      exact here below
    · exact others j below this
  · exact fun all => ⟨fun place => all i place, fun j below _ => all j below⟩

end Rounds

section Clearing

variable {s t : DmaRun} {alloc : Nat → AllocAndMap} {places : List Nat}

theorem clearRefill_posted (nodup : places.Nodup) (taken : clearRefill alloc places s = some t) :
    (∀ i ∉ places, t.run.rxq.request i = s.run.rxq.request i) ∧
      ((∀ i ∈ places, (t.run.rxq.request i).skb ≠ none) ↔
        ∀ i ∈ places, (s.run.rxq.request i).skb = none → ¬ (alloc i).Fails) := by
  induction places generalizing s with
  | nil =>
    cases taken
    exact ⟨fun _ _ => rfl, by simp⟩
  | cons i places ih =>
    obtain ⟨fresh, nodup⟩ := List.nodup_cons.mp nodup
    rw [List.forall_mem_cons, List.forall_mem_cons]
    unfold clearRefill at taken
    dsimp only at taken
    cases present : (s.run.rxq.request i).skb with
    | some skb =>
      rw [if_pos (by rw [present]; rfl)] at taken
      obtain ⟨elsewhere, filled⟩ := ih nodup taken
      refine ⟨fun j outside => elsewhere j fun member => outside (List.mem_cons_of_mem _ member), ?_⟩
      rw [filled, elsewhere i fresh, present]
      simp
    | none =>
      rw [if_neg (by rw [present]; exact Bool.false_ne_true)] at taken
      cases answer : alloc i with
      | noMemory =>
        simp only [answer] at taken
        cases taken
        simp [present, AllocAndMap.Fails]
      | mappingError =>
        simp only [answer] at taken
        cases taken
        refine ⟨fun j outside => ?_, ?_⟩
        · have apart : j ≠ i := fun here => outside (here ▸ List.mem_cons_self)
          simp [DmaRun.setRequest, CldmaRxq.setRequest, apart]
        · simp [DmaRun.setRequest, CldmaRxq.setRequest, present, AllocAndMap.Fails]
      | mapped buffer addr =>
        simp only [answer, Option.bind_eq_some_iff] at taken
        obtain ⟨live, -, taken⟩ := taken
        obtain ⟨elsewhere, filled⟩ := ih nodup taken
        have others (j : Nat) (apart : j ≠ i) : t.run.rxq.request j = s.run.rxq.request j ∨
            j ∈ places := by
          by_cases member : j ∈ places
          · exact .inr member
          · refine .inl ((elsewhere j member).trans ?_)
            simp [DmaRun.setRequest, CldmaRxq.setRequest, apart]
        refine ⟨fun j outside => ?_, ?_⟩
        · have apart : j ≠ i := fun here => outside (here ▸ List.mem_cons_self)
          exact (others j apart).resolve_right fun member => outside (List.mem_cons_of_mem _ member)
        · have mine : (t.run.rxq.request i).skb ≠ none := by
            rw [elsewhere i fresh]
            simp [DmaRun.setRequest, CldmaRxq.setRequest]
          have later : (∀ j ∈ places, (t.run.rxq.request j).skb ≠ none) ↔
              ∀ j ∈ places, (s.run.rxq.request j).skb = none → ¬ (alloc j).Fails := by
            rw [filled]
            refine forall₂_congr fun j member => ?_
            have apart : j ≠ i := fun here => fresh (here ▸ member)
            simp [DmaRun.setRequest, CldmaRxq.setRequest, apart]
          rw [and_iff_right mine, later, and_iff_right]
          exact fun _ => id

theorem clearRefill_ring (taken : clearRefill alloc places s = some t) :
    t.run.rxq.trDone = s.run.rxq.trDone ∧ t.run.rxq.rxRefill = s.run.rxq.rxRefill := by
  induction places generalizing s with
  | nil =>
    cases taken
    exact ⟨rfl, rfl⟩
  | cons i places ih =>
    unfold clearRefill at taken
    dsimp only at taken
    split at taken
    · exact ih taken
    · split at taken
      · cases taken
        exact ⟨rfl, rfl⟩
      · cases taken
        exact ⟨rfl, rfl⟩
      · obtain ⟨live, -, rest⟩ := Option.bind_eq_some_iff.mp taken
        have kept := ih rest
        exact kept

/-- Both cursors are back at the first request, whether or not every request got a buffer. -/
theorem clearRxq_window (taken : clearRxq alloc s = some t) : t.run.rxq.Window 0 := by
  obtain ⟨done, refill⟩ := clearRefill_ring taken
  have first : t.run.rxq.rxRefill = 0 := refill
  refine ⟨?_, Nat.zero_le _, ?_, fun k below => absurd below (Nat.not_lt_zero k)⟩
  · rw [first]
    exact Nat.zero_lt_succ 15
  · rw [done, first]
    rfl

theorem clearRxq_posted (taken : clearRxq alloc s = some t) :
    t.run.rxq.AllPosted ↔ ¬ AllocFails s (.clear alloc) := by
  obtain ⟨-, filled⟩ := clearRefill_posted List.nodup_range taken
  simp only [List.mem_range] at filled
  have same (i : Nat) : (clearRxGpd (s.run.rxq.request i)).skb = none ↔
      (s.run.rxq.request i).skb = none := by
    unfold clearRxGpd
    simp
  rw [allPosted_iff, filled]
  simp only [AllocFails, not_exists, not_and]
  refine forall₂_congr fun i place => ?_
  rw [same i]

end Clearing

section Steps

variable {s t : DmaRun} {label : DmaLabel}

theorem rxStep_run {label : RxLabel} (taken : s.rxStep label = some t) :
    s.run.step label = some t.run := by
  unfold DmaRun.rxStep at taken
  obtain ⟨run, stepped, taken⟩ := Option.bind_eq_some_iff.mp taken
  rw [stepped]
  split at taken
  · split at taken
    · cases taken
      rfl
    · obtain ⟨live, _, rfl⟩ := Option.map_eq_some_iff.mp taken
      rfl
  · cases taken
    rfl

/-- A step leaves a buffer in every request if the step before did, or the queue is cleared, and no
    allocation fails. -/
theorem step_posted (window : ∃ lag, s.run.rxq.Window lag) (taken : s.step label = some t) :
    t.run.rxq.AllPosted ↔ (s.run.rxq.AllPosted ∨ label.Clears) ∧ ¬ AllocFails s label := by
  obtain ⟨lag, window⟩ := window
  cases label with
  | clear alloc =>
    simp only [DmaRun.step] at taken
    split at taken
    · cases taken
    · rw [clearRxq_posted taken]
      simp [DmaLabel.Clears]
  | rx label =>
    have step := (step_cases (rxStep_run taken)).2
    generalize t.run = run at step ⊢
    cases step with
    | enter | others => simp [DmaLabel.Clears, AllocFails]
    | round answers loop called =>
      rw [rxRound_posted window]
      simp [DmaLabel.Clears, AllocFails]
    | hwDone i dataBuffLen content owned =>
      rw [hwDone_posted]
      simp [DmaLabel.Clears, AllocFails]

theorem dmaStep_window (window : ∃ lag, s.run.rxq.Window lag) (taken : s.step label = some t) :
    ∃ lag, t.run.rxq.Window lag := by
  cases label with
  | rx label => exact rxStep_window window taken
  | clear alloc =>
    simp only [DmaRun.step] at taken
    split at taken
    · cases taken
    · exact ⟨0, clearRxq_window taken⟩

end Steps

section Running

variable {cfgId : CldmaCfg} {qno : Nat} {hifId : CldmaId} {buffer : Nat → RxBuffer}
  {addr gpdAddr : Nat → Nat} {proxy : PortProxy} {mdState : Fsm.MdState}

def CldmaRxq.Starved (rxq : CldmaRxq) : Prop :=
  ∀ i < MAX_RX_BUDGET, (rxq.request i).skb = none

theorem starved_step {s t : DmaRun} {label : DmaLabel} (window : ∃ lag, s.run.rxq.Window lag)
    (starved : s.run.rxq.Starved) (taken : s.step label = some t) (unclear : ¬ label.Clears) :
    t.run.rxq.Starved ∧ t.run.calls = s.run.calls := by
  obtain ⟨lag, window⟩ := window
  cases label with
  | clear alloc => exact absurd trivial unclear
  | rx label =>
    have step := (step_cases (rxStep_run taken)).2
    generalize t.run = run at step ⊢
    cases step with
    | enter | others => exact ⟨starved, rfl⟩
    | round answers loop called =>
      have empty := starved _ (window.done_lt window.last)
      have waits : s.run.rxq.roundStart =
          .pending ((s.run.rxq.rxRefill + lag) % MAX_RX_BUDGET) := by
        unfold CldmaRxq.roundStart
        simp only [window.last, empty]
      have polls : (rxRound answers loop s.run).rxq = s.run.rxq ∧
          (rxRound answers loop s.run).calls = s.run.calls := by
        unfold rxRound rxPollHwo
        rw [waits]
        dsimp only
        split
        · exact ⟨rfl, rfl⟩
        · split <;> exact ⟨rfl, rfl⟩
      rw [polls.1, polls.2]
      exact ⟨starved, rfl⟩
    | hwDone i dataBuffLen content owned =>
      refine ⟨fun j place => ?_, rfl⟩
      have empty := starved j place
      by_cases here : j = i
      · subst here
        simp [CldmaRxq.setRequest, hwDone, empty]
      · simp [CldmaRxq.setRequest, here, empty]

/-- A queue without a single buffer receives nothing until it is cleared. -/
theorem starved_silent (trace : Trace DmaRun.step) {n : Nat}
    (window : ∃ lag, (trace.state n).run.rxq.Window lag)
    (starved : (trace.state n).run.rxq.Starved) (unclear : ∀ m ≥ n, ¬ (trace.label m).Clears) :
    ∀ m ≥ n, (trace.state m).run.rxq.Starved ∧
      (trace.state m).run.calls = (trace.state n).run.calls := by
  have windows := trace.always (fun s => ∃ lag, s.run.rxq.Window lag)
    (fun s label t kept taken => dmaStep_window kept taken) window
  intro m later
  induction later with
  | refl => exact ⟨starved, rfl⟩
  | @step m later ih =>
    obtain ⟨empty, same⟩ := ih
    have next := starved_step (windows m later) empty (trace.steps m) (unclear m later)
    exact ⟨next.1, next.2.trans same⟩

end Running

section Starving

/-- The device completes a GPD with a message to the control channel, whose buffer is not replaced. -/
def failingMessage (i : Nat) : List DmaLabel :=
  [.rx (.hwDone i 16 fun j => if j = 9 then 0x20 else 0), .rx (.enter 16),
    .rx (.round ⟨true, 0, .noMemory, false⟩)]

/-- A call of `t7xx_cldma_gpd_rx_from_q` that finds nothing to collect. -/
def idleCall : List DmaLabel := [.rx (.enter 16), .rx (.round ⟨true, 16, .noMemory, false⟩)]

/-- Each buffer of the ring is received and not replaced, and the queue is asked once more. -/
def sixteenFailures : List DmaLabel := (List.range 16).flatMap failingMessage ++ idleCall

def controlStart : DmaRun :=
  dmaStart (plainRxq .sharedQ 0 .md) (portProxySetCfg (portConf false)) .ready

def quietTrace : Trace DmaRun.step :=
  Trace.stutter controlStart [] (.rx (.others (portProxySetCfg (portConf false)) .ready))
    ⟨controlStart, rfl, rfl⟩

/-- What is left of the queue: no buffer, and nothing that the device owns. -/
structure Idle (s : DmaRun) : Prop where
  between : s.run.loop = none ∧ s.run.ret = some 0 ∧ s.run.panicked = false
  current : s.run.rxq.trDone = some 0
  waits : (s.run.rxq.request 0).gpdAddr = 16
  window : s.run.rxq.rxRefill = 0
  starved : s.run.rxq.Starved
  unowned : ∀ i < MAX_RX_BUDGET, (s.run.rxq.request i).gpd.hwo = false

theorem sixteenFailures_run :
    ∃ s, execute DmaRun.step controlStart sixteenFailures = some s ∧ Idle s := by
  have idle : (execute DmaRun.step controlStart sixteenFailures).any fun s => decide
      ((s.run.loop = none ∧ s.run.ret = some 0 ∧ s.run.panicked = false) ∧
        s.run.rxq.trDone = some 0 ∧ (s.run.rxq.request 0).gpdAddr = 16 ∧ s.run.rxq.rxRefill = 0 ∧
          (∀ i < MAX_RX_BUDGET, (s.run.rxq.request i).skb = none) ∧
            ∀ i < MAX_RX_BUDGET, (s.run.rxq.request i).gpd.hwo = false) := by decide +kernel
  obtain ⟨s, run, facts⟩ := (Option.any_eq_true _ _).mp idle
  obtain ⟨between, current, waits, refill, starved, unowned⟩ := of_decide_eq_true facts
  exact ⟨s, run, between, current, waits, refill, starved, unowned⟩

theorem Idle.entered {s : DmaRun} (idle : Idle s) :
    s.step (.rx (.enter 16)) =
      some { s with run := { s.run with loop := some ⟨16, 0, 0⟩ } } := by
  obtain ⟨loop, -, alive⟩ := idle.between
  simp [DmaRun.step, DmaRun.rxStep, RxRun.step, loop, alive]

theorem Idle.returns {s : DmaRun} (idle : Idle s) : execute DmaRun.step s idleCall = some s := by
  obtain ⟨loop, ret, alive⟩ := idle.between
  have empty := idle.starved 0 (by decide)
  have waits : s.run.rxq.roundStart = .pending 0 := by
    simp only [CldmaRxq.roundStart, idle.current, empty]
  have polled : ({ s.run with loop := some ⟨16, 0, 0⟩ } : RxRun).step
      (.round ⟨true, 16, .noMemory, false⟩) = some s.run := by
    unfold RxRun.step
    rw [if_neg (by simp [alive])]
    simp only [rxRound, waits, rxPollHwo, idle.waits, RxRun.return]
    rw [← loop, ← ret]
    rfl
  have asked : ({ s with run := { s.run with loop := some ⟨16, 0, 0⟩ } } : DmaRun).step
      (.rx (.round ⟨true, 16, .noMemory, false⟩)) = some s := by
    simp only [DmaRun.step, DmaRun.rxStep]
    rw [polled]
    simp [RxRun.unmaps, RxRun.maps, waits, unmapBuff, mapBuff]
  simp only [idleCall, execute, idle.entered, Option.bind_some, asked]

end Starving

end T7xxModel.Cldma
