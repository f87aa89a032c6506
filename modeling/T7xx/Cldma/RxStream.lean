import T7xx.Cldma.RxFromQ
import T7xx.Ring.Stream

namespace T7xxModel.Cldma

open Fsm Transition

/-- The message that waits in a request, which its GPD says the length of. -/
def RxRequest.message (req : RxRequest) : Option (List (BitVec 8)) :=
  req.skb.bind fun skb =>
    if req.gpd.hwo then none
    else some ({ skb with len := req.gpd.dataBuffLen.toNat } : RxSkb).payload

def CldmaRxq.messages (rxq : CldmaRxq) (i : Nat) : Option (List (BitVec 8)) := (rxq.request i).message

/-- The message that the callback took, freed or not. -/
def RecvCall.accepted (call : RecvCall) : Option (List (BitVec 8)) :=
  call.received.bind fun received => if received.ret < 0 then none else some call.skb.payload

def RxRun.accepted (s : RxRun) : List (List (BitVec 8)) := s.calls.filterMap RecvCall.accepted

/-- A queue and the messages that the device has written for it. -/
structure RxStream where
  run : RxRun
  arrived : List (List (BitVec 8))

def RxStream.step (s : RxStream) (label : RxLabel) : Option RxStream :=
  (s.run.step label).map fun run =>
    match label with
    | .hwDone _ dataBuffLen content => ⟨run, s.arrived ++ [(List.range dataBuffLen.toNat).map content]⟩
    | _ => ⟨run, s.arrived⟩

/-- `__dev_alloc_skb` returns a buffer as large as asked for. -/
def RoundAnswers.Roomy (answers : RoundAnswers) (pktSize : Nat) : Prop :=
  match answers.alloc with
  | .mapped buffer _ => buffer.data + pktSize ≤ buffer.size
  | _ => True

instance (answers : RoundAnswers) (pktSize : Nat) : Decidable (answers.Roomy pktSize) := by
  unfold RoundAnswers.Roomy
  split <;> infer_instance

/-- The device completes the GPDs of the ring one after the other and keeps to the size of their
    buffers; the callback is called safely. -/
def StreamLabel (s : RxStream) : RxLabel → Prop
  | .hwDone i dataBuffLen _ =>
    i = s.arrived.length % MAX_RX_BUDGET ∧ dataBuffLen.toNat ≤ s.run.rxq.pktSize
  | .round answers => s.run.SafeRound ∧ answers.Roomy s.run.rxq.pktSize
  | _ => True

instance (s : RxStream) : ∀ label, Decidable (StreamLabel s label)
  | .hwDone .. => inferInstanceAs (Decidable (_ = _ ∧ _ ≤ _))
  | .round answers => inferInstanceAs (Decidable (s.run.SafeRound ∧ answers.Roomy s.run.rxq.pktSize))
  | .enter _ | .others .. => isTrue trivial

/-- What was accepted is what arrived, but for at most a ring of messages; the next round is given the
    first of these, or has to wait where there is none. -/
def RxStream.InOrder (s : RxStream) : Prop :=
  s.run.panicked = false ∧
    ∃ rest, s.arrived = s.run.accepted ++ rest ∧ rest.length ≤ MAX_RX_BUDGET ∧
      match rest with
      | [] => ∃ done, s.run.rxq.roundStart = .pending done
      | message :: _ => ∃ done skb, s.run.rxq.roundStart = .message done skb ∧ skb.payload = message

section Requests

/-- A request that the device owns has a buffer, and what is written to a buffer fits. -/
structure RxRequest.Sound (pktSize : Nat) (req : RxRequest) : Prop where
  posted : req.gpd.hwo = true → req.skb ≠ none
  room : ∀ skb ∈ req.skb, skb.data + pktSize ≤ skb.size
  fits : req.gpd.hwo = false → req.skb ≠ none → req.gpd.dataBuffLen.toNat ≤ pktSize

variable {rxq : CldmaRxq} {req : RxRequest} {i : Nat}

theorem messages_setRequest (rxq : CldmaRxq) (i : Nat) (req : RxRequest) :
    (rxq.setRequest i req).messages = Function.update rxq.messages i req.message := by
  funext j
  by_cases here : j = i
  · subst here
    simp [CldmaRxq.messages, CldmaRxq.setRequest]
  · simp [CldmaRxq.messages, CldmaRxq.setRequest, here]

theorem messages_kept (same : req.message = rxq.messages i) :
    (rxq.setRequest i req).messages = rxq.messages := by
  rw [messages_setRequest, same, Function.update_eq_self]

theorem sound_setRequest {pktSize : Nat} (sound : ∀ j, (rxq.request j).Sound pktSize)
    (written : req.Sound pktSize) (j : Nat) : ((rxq.setRequest i req).request j).Sound pktSize := by
  by_cases here : j = i
  · subst here
    simpa [CldmaRxq.setRequest] using written
  · simpa [CldmaRxq.setRequest, here] using sound j

theorem posted_hwo (addr : Nat) : (⟨GPD_FLAGS_IOC ||| GPD_FLAGS_HWO, addr, 0⟩ : CldmaGpd).hwo = true := by
  simp [CldmaGpd.hwo, GPD_FLAGS_IOC, GPD_FLAGS_HWO]

theorem message_owned (owned : req.gpd.hwo = true) : req.message = none := by
  unfold RxRequest.message
  rw [owned]
  cases req.skb <;> rfl

theorem roundStart_filled {done : Nat} {skb : RxSkb} (start : rxq.roundStart = .message done skb) :
    ∃ old, rxq.trDone = some done ∧ (rxq.request done).skb = some old ∧
      (rxq.request done).gpd.hwo = false ∧
      skb = { old with len := (rxq.request done).gpd.dataBuffLen.toNat } := by
  unfold CldmaRxq.roundStart at start
  split at start
  · cases start
  rename_i place current
  dsimp only at start
  split at start
  · cases start
  rename_i held present
  split at start
  · cases start
  rename_i completed
  split at start
  · cases start
  rename_i filled put
  cases start
  refine ⟨held, current, present, Bool.eq_false_iff.mpr completed, ?_⟩
  unfold RxSkb.put at put
  split at put
  · cases put
  · cases put
    dsimp only
    rw [Nat.zero_add]

/-- Where a message waits at `tr_done` a round finds it, and where none does it has to wait. -/
theorem roundStart_messages {pktSize done : Nat} (sound : (rxq.request done).Sound pktSize)
    (current : rxq.trDone = some done) :
    match rxq.messages done with
    | none => rxq.roundStart = .pending done
    | some message => ∃ skb, rxq.roundStart = .message done skb ∧ skb.payload = message := by
  unfold CldmaRxq.messages RxRequest.message CldmaRxq.roundStart
  rw [current]
  dsimp only
  cases present : (rxq.request done).skb with
  | none => rfl
  | some skb =>
    dsimp only [Option.bind]
    cases owned : (rxq.request done).gpd.hwo with
    | true => simp
    | false =>
      have room := sound.room skb present
      have fits := sound.fits owned (by rw [present]; exact Option.some_ne_none skb)
      have put : ({ skb with len := 0 } : RxSkb).put (rxq.request done).gpd.dataBuffLen.toNat =
          some { skb with len := (rxq.request done).gpd.dataBuffLen.toNat } := by
        unfold RxSkb.put
        dsimp only
        rw [if_neg (by omega), Nat.zero_add]
      simp [put]

theorem hwDone_message {pktSize : Nat} {dataBuffLen : BitVec 16} {content : Nat → BitVec 8}
    (held : req.skb ≠ none) (fits : dataBuffLen.toNat ≤ pktSize) :
    (hwDone pktSize dataBuffLen content req).message =
      some ((List.range dataBuffLen.toNat).map content) := by
  obtain ⟨skb, present⟩ := Option.ne_none_iff_exists'.mp held
  have completed : (hwDone pktSize dataBuffLen content req).gpd.hwo = false := by
    unfold hwDone CldmaGpd.hwo
    rw [hwo_cleared]
    rfl
  unfold RxRequest.message
  rw [completed]
  unfold hwDone
  rw [present]
  simp only [Option.map_some, Option.bind_some, Bool.false_eq_true, if_false, RxSkb.payload]
  congr 1
  apply List.map_congr_left
  intro i member
  have below := List.mem_range.mp member
  rw [if_pos (by omega), Nat.add_sub_cancel_left]

theorem hwDone_sound {pktSize : Nat} {dataBuffLen : BitVec 16} {content : Nat → BitVec 8}
    (sound : req.Sound pktSize) (owned : req.gpd.hwo = true) (fits : dataBuffLen.toNat ≤ pktSize) :
    (hwDone pktSize dataBuffLen content req).Sound pktSize := by
  refine ⟨fun _ => ?_, fun skb present => ?_, fun _ _ => fits⟩
  · have held := sound.posted owned
    unfold hwDone
    simpa using held
  · unfold hwDone at present
    obtain ⟨old, before, rfl⟩ := Option.map_eq_some_iff.mp (Option.mem_def.mp present)
    exact sound.room old before

end Requests

section Deliveries

/-- A callback that keeps to the contract gives back the very skb it refuses. -/
theorem refused_restored {recvSkb : RecvSkb} {hifId : CldmaId} {index : Nat} {mdState : MdState}
    {proxy : PortProxy} {skb : RxSkb} {received : Received}
    (returned : recvSkb.call hifId index mdState proxy skb = some received)
    (honours : Honours skb received) (negative : received.ret < 0) : received.skb = skb := by
  have buffer : received.skb.id = skb.id ∧ received.skb.size = skb.size ∧
      received.skb.bytes = skb.bytes := by
    have pulled (len : Nat) : (skb.pull len).id = skb.id ∧ (skb.pull len).size = skb.size ∧
        (skb.pull len).bytes = skb.bytes := by
      unfold RxSkb.pull
      split <;> exact ⟨rfl, rfl, rfl⟩
    cases recvSkb with
    | dedicatedQueue =>
      cases returned
      unfold portProxyRecvSkbFromDedicatedQueue
      dsimp only
      split <;> exact ⟨rfl, rfl, rfl⟩
    | portProxy =>
      dsimp only [RecvSkb.call] at returned
      unfold portProxyRecvSkb at returned
      dsimp only at returned
      split at returned
      · cases returned
        exact ⟨rfl, rfl, rfl⟩
      split at returned
      · cases returned
        exact ⟨rfl, rfl, rfl⟩
      split at returned
      · obtain ⟨pushed, moved, rfl⟩ := Option.map_eq_some_iff.mp returned
        unfold RxSkb.push at moved
        split at moved
        · cases moved
        · cases moved
          exact pulled ccciHeaderSize
      · cases returned
        exact pulled ccciHeaderSize
  rw [Honours, if_pos negative] at honours
  obtain ⟨id, size, bytes⟩ := buffer
  obtain ⟨_, data, len⟩ := honours
  cases skb
  cases received with
  | mk ret given disposals proxy =>
    cases given
    simp_all

variable {s : RxRun} {lag : Nat} {answers : RoundAnswers} {loop : RxLoop}

/-- A refill changes neither what waits in the ring nor where the next round looks. -/
structure Refills (s t : RxRun) : Prop where
  pktSize : t.rxq.pktSize = s.rxq.pktSize
  sound : ∀ i, (t.rxq.request i).Sound s.rxq.pktSize
  messages : t.rxq.messages = s.rxq.messages
  trDone : t.rxq.trDone = s.rxq.trDone
  calls : t.calls = s.calls
  panicked : t.panicked = s.panicked

theorem rxRefill_refills (window : s.rxq.Window (lag + 1))
    (sound : ∀ i, (s.rxq.request i).Sound s.rxq.pktSize) (roomy : answers.Roomy s.rxq.pktSize) :
    Refills s (rxRefill answers loop s) := by
  have empty := window.refill_empty
  have vacant : s.rxq.messages s.rxq.rxRefill = none := by
    unfold CldmaRxq.messages RxRequest.message
    rw [empty]
    rfl
  -- A request that waits for a buffer is not the device's.
  have driven : (s.rxq.request s.rxq.rxRefill).gpd.hwo ≠ true :=
    fun owned => (sound s.rxq.rxRefill).posted owned empty
  have unfilled (mapped : Option Nat) :
      ({ s.rxq.request s.rxq.rxRefill with skb := none, mappedBuff := mapped } : RxRequest).Sound
        s.rxq.pktSize := ⟨fun owned => absurd owned driven, nofun, fun _ held => absurd rfl held⟩
  have silent (mapped : Option Nat) := @messages_kept s.rxq
    { s.rxq.request s.rxq.rxRefill with skb := none, mappedBuff := mapped } s.rxq.rxRefill vacant.symm
  unfold rxRefill
  dsimp only
  cases outcome : answers.alloc with
  | noMemory =>
    have same := unfilled (s.rxq.request s.rxq.rxRefill).mappedBuff
    exact ⟨rfl, sound_setRequest sound same, silent _, rfl, rfl, rfl⟩
  | mappingError => exact ⟨rfl, sound_setRequest sound (unfilled none), silent none, rfl, rfl, rfl⟩
  | mapped buffer addr =>
    have filled : ({ s.rxq.request s.rxq.rxRefill with
        gpd := ⟨GPD_FLAGS_IOC ||| GPD_FLAGS_HWO, addr, 0⟩
        skb := some ⟨s.allocated, buffer.size, buffer.data, 0, buffer.bytes⟩
        mappedBuff := some addr } : RxRequest).Sound s.rxq.pktSize := by
      refine ⟨fun _ => Option.some_ne_none _, fun skb present => ?_, fun driver => ?_⟩
      · cases present
        rwa [RoundAnswers.Roomy, outcome] at roomy
      · exact absurd ((posted_hwo addr).symm.trans driver) (by decide)
    have waiting := @messages_kept s.rxq { s.rxq.request s.rxq.rxRefill with
        gpd := ⟨GPD_FLAGS_IOC ||| GPD_FLAGS_HWO, addr, 0⟩
        skb := some ⟨s.allocated, buffer.size, buffer.data, 0, buffer.bytes⟩
        mappedBuff := some addr } s.rxq.rxRefill
      ((message_owned (posted_hwo addr)).trans vacant.symm)
    dsimp only
    split
    · exact ⟨rfl, sound_setRequest sound filled, waiting, rfl, rfl, rfl⟩
    · exact ⟨rfl, sound_setRequest sound filled, waiting, rfl, rfl, rfl⟩

end Deliveries

section Streaming

/-- The messages that have arrived and were not accepted wait in the ring from `tr_done` on. -/
structure RxStream.Inv (s : RxStream) : Prop where
  alive : s.run.panicked = false
  window : ∃ lag, s.run.rxq.Window lag
  sound : ∀ i, (s.run.rxq.request i).Sound s.run.rxq.pktSize
  current : s.run.rxq.trDone = some (s.run.accepted.length % MAX_RX_BUDGET)
  carried : ∃ rest, s.arrived = s.run.accepted ++ rest ∧
    Ring.Carries MAX_RX_BUDGET s.run.rxq.messages s.run.accepted.length rest

variable {s : RxStream} {answers : RoundAnswers} {loop : RxLoop}

theorem RxStream.Inv.inOrder (inv : s.Inv) : s.InOrder := by
  obtain ⟨rest, arrived, carries⟩ := inv.carried
  refine ⟨inv.alive, rest, arrived, carries.fits, ?_⟩
  have found := roundStart_messages (inv.sound _) inv.current
  rw [carries.front (by decide)] at found
  cases rest with
  | nil => exact ⟨_, found⟩
  | cons message rest => exact ⟨_, found⟩

/-- The message of a round is the first one that waits. -/
theorem RxStream.Inv.next (inv : s.Inv) {done : Nat} {skb : RxSkb}
    (start : s.run.rxq.roundStart = .message done skb) :
    ∃ rest, s.arrived = s.run.accepted ++ skb.payload :: rest ∧
      Ring.Carries MAX_RX_BUDGET s.run.rxq.messages s.run.accepted.length (skb.payload :: rest) := by
  obtain ⟨rest, arrived, carries⟩ := inv.carried
  have found := roundStart_messages (inv.sound _) inv.current
  rw [carries.front (by decide), start] at found
  cases rest with
  | nil => cases found
  | cons message rest =>
    obtain ⟨other, same, rfl⟩ := found
    cases same
    exact ⟨rest, arrived, carries⟩

theorem accepted_append (calls : List RecvCall) (call : RecvCall) :
    (calls ++ [call]).filterMap RecvCall.accepted =
      calls.filterMap RecvCall.accepted ++ call.accepted.toList := by
  rw [List.filterMap_append]
  cases taken : call.accepted with
  | none => simp [taken]
  | some message => simp [taken]

theorem RxStream.Inv.of_accepted {t : RxRun} {arrived accepted : List (List (BitVec 8))}
    (alive : t.panicked = false) (window : ∃ lag, t.rxq.Window lag)
    (sound : ∀ i, (t.rxq.request i).Sound t.rxq.pktSize) (taken : t.accepted = accepted)
    (current : t.rxq.trDone = some (accepted.length % MAX_RX_BUDGET))
    (carried : ∃ rest, arrived = accepted ++ rest ∧
      Ring.Carries MAX_RX_BUDGET t.rxq.messages accepted.length rest) : RxStream.Inv ⟨t, arrived⟩ := by
  subst taken
  exact ⟨alive, window, sound, current, carried⟩

/-- What a refill changes is not part of the stream. -/
theorem RxStream.Inv.refilled {lag : Nat} (inv : s.Inv) (window : s.run.rxq.Window (lag + 1))
    (roomy : answers.Roomy s.run.rxq.pktSize) :
    RxStream.Inv ⟨rxRefill answers loop s.run, s.arrived⟩ := by
  have refills := @rxRefill_refills s.run lag answers loop window inv.sound roomy
  have accepted : (rxRefill answers loop s.run).accepted = s.run.accepted := by
    unfold RxRun.accepted
    rw [refills.calls]
  apply RxStream.Inv.of_accepted (refills.panicked.trans inv.alive) (rxRefill_window window) ?_ accepted
  · rw [refills.trDone]
    exact inv.current
  · rw [refills.messages]
    exact inv.carried
  · rw [refills.pktSize]
    exact refills.sound

theorem deliver_inv (inv : s.Inv) {done : Nat} {skb : RxSkb}
    (start : s.run.rxq.roundStart = .message done skb) (safe : s.run.SafeRound)
    (roomy : answers.Roomy s.run.rxq.pktSize) :
    RxStream.Inv ⟨rxDeliver answers loop done skb s.run, s.arrived⟩ := by
  obtain ⟨lag, window⟩ := inv.window
  obtain ⟨old, current, present, driver, filled⟩ := roundStart_filled start
  obtain ⟨rest, arrived, carries⟩ := inv.next start
  have place : s.run.accepted.length % MAX_RX_BUDGET = done :=
    Option.some.inj (inv.current.symm.trans current)
  unfold RxRun.SafeRound at safe
  rw [start] at safe
  obtain ⟨received, returned, honours⟩ := (RecvSkb.call_honours _ _ _ _ _ _).mpr safe
  have sound := inv.sound done
  have logged := accepted_append s.run.calls ⟨skb, some received⟩
  unfold rxDeliver
  rw [Option.mem_def.mp returned]
  dsimp only
  by_cases negative : received.ret < 0
  · rw [if_pos negative]
    have restored := refused_restored returned honours negative
    have refused : (s.run.calls ++ [RecvCall.mk skb (some received)]).filterMap RecvCall.accepted =
        s.run.accepted := by
      rw [logged]
      simp [RecvCall.accepted, negative, RxRun.accepted]
    have unread : ({ s.run.rxq.request done with skb := some received.skb, mappedBuff := none } :
        RxRequest).message = s.run.rxq.messages done := by
      unfold CldmaRxq.messages RxRequest.message
      rw [present, restored, filled]
      rfl
    have kept := messages_kept unread
    have bounded : ({ s.run.rxq.request done with skb := some received.skb, mappedBuff := none } :
        RxRequest).Sound s.run.rxq.pktSize := by
      refine ⟨fun _ => Option.some_ne_none _, fun buffer held => ?_, fun completed _ => ?_⟩
      · cases held
        rw [restored, filled]
        exact sound.room old present
      · exact sound.fits completed (by rw [present]; exact Option.some_ne_none old)
    refine RxStream.Inv.of_accepted inv.alive ⟨lag, window.kept fun empty => ?_⟩
      (sound_setRequest inv.sound bounded) refused inv.current ⟨skb.payload :: rest, arrived, ?_⟩
    · rw [present] at empty
      cases empty
    · show Ring.Carries _ (CldmaRxq.messages (s.run.rxq.setRequest done _)) _ _
      rw [kept]
      exact carries
  · rw [if_neg negative]
    have accepted : (s.run.calls ++ [RecvCall.mk skb (some received)]).filterMap RecvCall.accepted =
        s.run.accepted ++ [skb.payload] := by
      rw [logged]
      simp [RecvCall.accepted, negative, RxRun.accepted]
    have taken : ({ s.run.rxq.request done with
        gpd := { (s.run.rxq.request done).gpd with dataBuffBdPtr := 0 }
        skb := none
        mappedBuff := none } : RxRequest).Sound s.run.rxq.pktSize :=
      ⟨fun owned => absurd (owned.symm.trans driver) (by decide), nofun, fun _ held => absurd rfl held⟩
    have longer := @CldmaRxq.Window.take _ _ window done { s.run.rxq.request done with
      gpd := { (s.run.rxq.request done).gpd with dataBuffBdPtr := 0 }
      skb := none
      mappedBuff := none } current (window.lag_lt current present) rfl
    refine @RxStream.Inv.refilled ⟨_, s.arrived⟩ _ _ _ ?_ longer roomy
    refine RxStream.Inv.of_accepted inv.alive ⟨lag + 1, longer⟩ (sound_setRequest inv.sound taken)
      accepted ?_ ⟨rest, ?_, ?_⟩
    · rw [List.length_append, ← place]
      exact congrArg some (Ring.next_mod _ (by decide))
    · rw [List.append_assoc]
      exact arrived
    · show Ring.Carries _ (CldmaRxq.messages (s.run.rxq.setRequest done _)) _ _
      rw [List.length_append, messages_setRequest, ← place]
      exact carries.pop

theorem round_inv (inv : s.Inv) (safe : s.run.SafeRound) (roomy : answers.Roomy s.run.rxq.pktSize) :
    RxStream.Inv ⟨rxRound answers loop s.run, s.arrived⟩ := by
  unfold rxRound
  cases start : s.run.rxq.roundStart with
  | noRing => exact ⟨inv.alive, inv.window, inv.sound, inv.current, inv.carried⟩
  | pending done =>
    dsimp only
    unfold rxPollHwo
    split
    · exact ⟨inv.alive, inv.window, inv.sound, inv.current, inv.carried⟩
    · split <;> exact ⟨inv.alive, inv.window, inv.sound, inv.current, inv.carried⟩
  | overrun done =>
    -- What waits fits in its buffer.
    obtain ⟨_, rest, _, _, next⟩ := inv.inOrder
    rw [start] at next
    cases rest with
    | nil =>
      obtain ⟨_, other⟩ := next
      cases other
    | cons message rest =>
      obtain ⟨_, _, other, _⟩ := next
      cases other
  | message done skb => exact deliver_inv inv start safe roomy

theorem hwDone_inv {dataBuffLen : BitVec 16} {content : Nat → BitVec 8} {i : Nat} (inv : s.Inv)
    (owned : (s.run.rxq.request i).gpd.hwo = true) (order : i = s.arrived.length % MAX_RX_BUDGET)
    (fits : dataBuffLen.toNat ≤ s.run.rxq.pktSize) :
    RxStream.Inv
      ⟨{ s.run with
          rxq := s.run.rxq.setRequest i
            (hwDone s.run.rxq.pktSize dataBuffLen content (s.run.rxq.request i)) },
        s.arrived ++ [(List.range dataBuffLen.toNat).map content]⟩ := by
  obtain ⟨lag, window⟩ := inv.window
  obtain ⟨rest, arrived, carries⟩ := inv.carried
  have sound := inv.sound i
  have held := sound.posted owned
  rw [arrived, List.length_append] at order
  have unread : s.run.rxq.messages i = none := by
    unfold CldmaRxq.messages RxRequest.message
    rw [owned]
    cases (s.run.rxq.request i).skb <;> rfl
  have room := carries.room (by decide) (order ▸ unread)
  refine ⟨inv.alive, ⟨lag, window.kept fun empty => absurd empty held⟩,
    sound_setRequest inv.sound (hwDone_sound sound owned fits), inv.current,
    rest ++ [(List.range dataBuffLen.toNat).map content], ?_, ?_⟩
  · show s.arrived ++ _ = s.run.accepted ++ _
    rw [arrived, List.append_assoc]
  · show Ring.Carries _ (CldmaRxq.messages (s.run.rxq.setRequest i _)) s.run.accepted.length _
    rw [messages_setRequest, hwDone_message held fits, order]
    exact carries.push room _

theorem RxStream.Inv.step {t : RxStream} {label : RxLabel} (inv : s.Inv)
    (allowed : StreamLabel s label) (taken : s.step label = some t) : t.Inv := by
  obtain ⟨run, stepped, rfl⟩ := Option.map_eq_some_iff.mp taken
  cases (step_cases stepped).2 with
  | enter | others => exact ⟨inv.alive, inv.window, inv.sound, inv.current, inv.carried⟩
  | round answers loop called => exact round_inv inv allowed.1 allowed.2
  | hwDone i dataBuffLen content owned => exact hwDone_inv inv owned.2 allowed.1 allowed.2

theorem rxqInit_inv (cfgId : CldmaCfg) (qno : Nat) (hifId : CldmaId) (buffer : Nat → RxBuffer)
    (addr gpdAddr : Nat → Nat) (proxy : PortProxy) (mdState : MdState)
    (room : ∀ i, (buffer i).data + (adjustConfig cfgId qno).1 ≤ (buffer i).size) :
    RxStream.Inv ⟨rxStart (rxqInit cfgId qno hifId buffer addr gpdAddr) proxy mdState, []⟩ := by
  refine ⟨rfl, ⟨0, rxqInit_window cfgId qno hifId buffer addr gpdAddr⟩, fun i => ?_, rfl, [], rfl, ?_⟩
  · refine ⟨fun _ => Option.some_ne_none _, fun skb present => ?_, fun driver => ?_⟩
    · cases present
      exact room i
    · exact absurd ((posted_hwo (addr i)).symm.trans driver) (by decide)
  · exact Ring.Carries.empty _ fun i _ => message_owned (posted_hwo (addr i))

/-- Whatever is refused and whichever allocations fail, the messages of an RX queue are accepted in
    the order in which the device wrote them, none is lost and none is given out twice. -/
theorem received_in_order (cfgId : CldmaCfg) (qno : Nat) (hifId : CldmaId) (buffer : Nat → RxBuffer)
    (addr gpdAddr : Nat → Nat) (proxy : PortProxy) (mdState : MdState) (labels : List RxLabel)
    (room : ∀ i, (buffer i).data + (adjustConfig cfgId qno).1 ≤ (buffer i).size)
    (obeys : Obeys StreamLabel RxStream.step
      ⟨rxStart (rxqInit cfgId qno hifId buffer addr gpdAddr) proxy mdState, []⟩ labels) :
    Visits RxStream.InOrder RxStream.step
      ⟨rxStart (rxqInit cfgId qno hifId buffer addr gpdAddr) proxy mdState, []⟩ labels := by
  apply Visits.of_invariant RxStream.Inv (fun s inv => inv.inOrder) _ _ obeys
  · exact fun s label t inv allowed taken => inv.step allowed taken
  · exact rxqInit_inv cfgId qno hifId buffer addr gpdAddr proxy mdState room

/-- Two messages to the full control port: the first one is refused, and when the port has room it is
    taken though no buffer can be allocated in its place. -/
def refusedOnce : List RxLabel :=
  let header (seq : BitVec 8) (i : Nat) : BitVec 8 := if i = 9 then 0x20 else if i = 10 then seq else 0
  [.hwDone 0 16 (header 0), .enter 16, .round (refilled 3584), .hwDone 1 16 (header 1),
    .others (portProxySetCfg (portConf false)) .ready, .enter 16, .round ⟨true, 0, .noMemory, false⟩,
    .enter 16, .round (refilled 3584)]

theorem received_in_order_refused :
    Visits RxStream.InOrder RxStream.step ⟨rxStart (plainRxq .sharedQ 0 .md) fullControl .ready, []⟩
      refusedOnce :=
  received_in_order .sharedQ 0 .md (fun _ => plainBuffer (adjustConfig .sharedQ 0).1)
    (fun i => 4096 * (i + 1)) (fun i => 16 * (i + 1)) fullControl .ready refusedOnce
    (fun _ => Nat.le_refl _) (by decide)

end Streaming

end T7xxModel.Cldma
