import T7xx.Cldma.TxCursors
import T7xx.Ring.Stream

namespace T7xxModel.Cldma

open Transition

/-- A TX queue since it was last cleared: the skbs sent with their mappings, what the GPDs said as the
    device was done with them, and what was collected. -/
structure TxStream (length : Nat) where
  queue : CldmaQueue length
  sent : List (SkBuff × Nat)
  transmitted : List (Nat × BitVec 16)
  collected : List Disposed

/-- The buffer that the GPD of a sent skb describes. -/
def gpdBuffer (sent : SkBuff × Nat) : Nat × BitVec 16 := (sent.2, BitVec.ofNat 16 sent.1.len)

/-- What a sent skb is freed with and unmapped by. -/
def txDisposed (sent : SkBuff × Nat) : Disposed :=
  ⟨sent.1, some (some sent.2, BitVec.ofNat 16 sent.1.len)⟩

section Streams

variable {length : Nat} [NeZero length]

def TxStream.step (s : TxStream length) (label : TxLabel length) : Option (TxStream length) :=
  match label with
  | .send skb mapping active =>
    if s.queue.hasRoom then
      some { s with
        queue := s.queue.send skb mapping active
        sent := s.sent ++ (mapping.map fun addr => (skb, addr)).toList }
    else none
  | .hwDone i =>
    let gpd := (s.queue.request i).gpd
    some { s with
      queue := completeGpd s.queue i
      transmitted := s.transmitted ++ [(gpd.dataBuffBdPtr, gpd.dataBuffLen)] }
  | .collect =>
    (gpdTxCollect s.queue).map fun (rest, disposed) =>
      { s with queue := rest, collected := s.collected ++ [disposed] }
  | .clear => some ⟨(clearTxq s.queue).1, [], [], []⟩

/-- The skbs of an active queue are mapped, and the device does its GPDs one after the other. -/
def TxStreamLabel (s : TxStream length) : TxLabel length → Prop
  | .send _ mapping active => mapping ≠ none ∧ active = true
  | .hwDone i => (i : Nat) = s.transmitted.length % length ∧ (s.queue.request i).gpd.hwo = true
  | _ => True

instance : ∀ (s : TxStream length) label, Decidable (TxStreamLabel s label) := fun s label => by
  unfold TxStreamLabel
  split <;> infer_instance

/-- The device transmits what was sent, and the driver collects what was transmitted, in the order
    in which it was sent. A round collects the next skb as soon as it was transmitted, and there is
    room for another one unless the ring is full of those not collected. -/
structure TxStream.InOrder (s : TxStream length) : Prop where
  transmitted : s.transmitted <+: s.sent.map gpdBuffer
  collected : s.collected <+: s.sent.map txDisposed
  behind : s.collected.length ≤ s.transmitted.length
  next : (gpdTxCollect s.queue).map Prod.snd =
    if s.collected.length < s.transmitted.length then (s.sent[s.collected.length]?).map txDisposed
    else none
  room : s.queue.hasRoom = true ↔ s.sent.length < s.collected.length + length

end Streams

section Views

variable {length : Nat} [NeZero length] {α : Type*}

/-- What a request has for the device. -/
def CldmaRequest.pending (req : CldmaRequest) : Option (Nat × BitVec 16) :=
  if req.gpd.hwo then some (req.gpd.dataBuffBdPtr, req.gpd.dataBuffLen) else none

/-- What is to be freed of a request. -/
def CldmaRequest.held (req : CldmaRequest) : Option Disposed :=
  req.skb.map fun skb => ⟨skb, some (req.mappedBuff, req.gpd.dataBuffLen)⟩

def CldmaQueue.view (queue : CldmaQueue length) (f : CldmaRequest → Option α) (i : Nat) : Option α :=
  f (queue.request (Fin.ofNat length i))

variable {queue rest : CldmaQueue length} {f : CldmaRequest → Option α} {i : Fin length}

theorem view_mod (queue : CldmaQueue length) (f : CldmaRequest → Option α) {place : Nat}
    (here : (i : Nat) = place % length) : queue.view f (place % length) = f (queue.request i) := by
  unfold CldmaQueue.view
  congr 2
  apply Fin.ext
  rw [Fin.val_ofNat, Nat.mod_mod, here]

theorem view_written {req : CldmaRequest} (written : rest.request = Function.update queue.request i req)
    (j : Nat) (below : j < length) : rest.view f j = Function.update (queue.view f) i (f req) j := by
  unfold CldmaQueue.view
  rw [written]
  have value : ((Fin.ofNat length j : Fin length) : Nat) = j := Nat.mod_eq_of_lt below
  by_cases here : j = i
  · have same : (Fin.ofNat length j : Fin length) = i := Fin.ext (value.trans here)
    rw [same, here, Function.update_self, Function.update_self]
  · have apart : (Fin.ofNat length j : Fin length) ≠ i := by
      rintro rfl
      exact here value.symm
    rw [Function.update_of_ne apart, Function.update_of_ne here]

/-- A write that does not show leaves what the ring carries. -/
theorem carries_kept {req : CldmaRequest} {first : Nat} {items : List α}
    (written : rest.request = Function.update queue.request i req)
    (same : f req = f (queue.request i))
    (carries : Ring.Carries length (queue.view f) first items) :
    Ring.Carries length (rest.view f) first items := by
  apply carries.congr
  intro j below
  rw [view_written written j below, same, ← view_mod queue f (Nat.mod_eq_of_lt i.isLt).symm,
    Nat.mod_eq_of_lt i.isLt, Function.update_eq_self]

theorem carries_push {req : CldmaRequest} {first : Nat} {items : List α} {x : α}
    (written : rest.request = Function.update queue.request i req) (fresh : f req = some x)
    (place : (i : Nat) = (first + items.length) % length) (room : items.length < length)
    (carries : Ring.Carries length (queue.view f) first items) :
    Ring.Carries length (rest.view f) first (items ++ [x]) := by
  apply (carries.push room x).congr
  intro j below
  rw [view_written written j below, fresh, place]

theorem carries_pop {req : CldmaRequest} {first : Nat} {items : List α} {x : α}
    (written : rest.request = Function.update queue.request i req) (gone : f req = none)
    (place : (i : Nat) = first % length)
    (carries : Ring.Carries length (queue.view f) first (x :: items)) :
    Ring.Carries length (rest.view f) (first + 1) items := by
  apply carries.pop.congr
  intro j below
  rw [view_written written j below, gone, place]

/-- What `t7xx_cldma_send_skb` leaves of the request at `tx_next` on an active queue. -/
def sentRequest (req : CldmaRequest) (skb : SkBuff) (addr : Nat) : CldmaRequest :=
  { req with
    gpd := ⟨req.gpd.flags ||| GPD_FLAGS_HWO, addr, BitVec.ofNat 16 skb.len⟩
    skb := some skb
    mappedBuff := some addr }

theorem send_request (queue : CldmaQueue length) (skb : SkBuff) (addr : Nat) :
    (queue.send skb (some addr) true).request =
      Function.update queue.request queue.txNext
        (sentRequest (queue.request queue.txNext) skb addr) := by
  funext i
  by_cases here : i = queue.txNext
  · simp [here, sentRequest, CldmaQueue.send, gpdHandleTxRequest, mapTxRequest, setGpdHwo, storeTxSkb,
      CldmaQueue.setRequest, CldmaQueue.takeBudget, CldmaQueue.advance]
  · rw [send_elsewhere skb (some addr) true here, Function.update_of_ne here]

theorem sentRequest_pending (req : CldmaRequest) (skb : SkBuff) (addr : Nat) :
    (sentRequest req skb addr).pending = some (gpdBuffer (skb, addr)) := by
  have set (flags : BitVec 8) : (flags ||| GPD_FLAGS_HWO) &&& GPD_FLAGS_HWO ≠ 0 := by
    intro clear
    have bit := congrArg (BitVec.getLsbD · 0) clear
    simp [GPD_FLAGS_HWO] at bit
  have owned : (sentRequest req skb addr).gpd.hwo = true := by
    unfold CldmaGpd.hwo
    exact decide_eq_true (set req.gpd.flags)
  unfold CldmaRequest.pending
  rw [if_pos owned]
  rfl

omit [NeZero length] in
theorem completeGpd_view (queue : CldmaQueue length) (i : Fin length) :
    ∃ req : CldmaRequest, (completeGpd queue i).request = Function.update queue.request i req ∧
      req.pending = none ∧ req.held = (queue.request i).held := by
  refine ⟨_, rfl, ?_, rfl⟩
  simp [CldmaRequest.pending, CldmaGpd.hwo, hwo_cleared]

end Views

section Streaming

variable {length : Nat} [NeZero length] {s t : TxStream length}

/-- The skbs not transmitted and those not collected lie in the ring, each from where the device and
    the driver go on. -/
structure TxStream.Inv (s : TxStream length) : Prop where
  pending : ∃ waiting, s.sent.map gpdBuffer = s.transmitted ++ waiting ∧
    Ring.Carries length (s.queue.view CldmaRequest.pending) s.transmitted.length waiting
  held : ∃ uncollected, s.sent.map txDisposed = s.collected ++ uncollected ∧
    Ring.Carries length (s.queue.view CldmaRequest.held) s.collected.length uncollected
  behind : s.collected.length ≤ s.transmitted.length
  trDone : (s.queue.trDone : Nat) = s.collected.length % length
  txNext : (s.queue.txNext : Nat) = s.sent.length % length
  budget : s.queue.budget = length + s.collected.length - s.sent.length

theorem TxStream.Inv.transmitted_le (inv : s.Inv) : s.transmitted.length ≤ s.sent.length := by
  obtain ⟨waiting, sent, _⟩ := inv.pending
  have total := congrArg List.length sent
  simp only [List.length_map, List.length_append] at total
  omega

theorem TxStream.Inv.uncollected_le (inv : s.Inv) :
    s.sent.length ≤ s.collected.length + length := by
  obtain ⟨uncollected, sent, carries⟩ := inv.held
  have total := congrArg List.length sent
  simp only [List.length_map, List.length_append] at total
  have fits := carries.fits
  omega

/-- The GPD at `tr_done` is the device's exactly if all that it transmitted is collected. -/
theorem TxStream.Inv.done_pending (inv : s.Inv) (left : s.collected.length < s.sent.length) :
    (s.queue.request s.queue.trDone).gpd.hwo = false ↔ s.collected.length < s.transmitted.length := by
  obtain ⟨waiting, sent, carries⟩ := inv.pending
  have total := congrArg List.length sent
  simp only [List.length_map, List.length_append] at total
  have bound := inv.uncollected_le
  have behind := inv.behind
  have shown : (s.queue.request s.queue.trDone).gpd.hwo = false ↔
      s.queue.view CldmaRequest.pending (s.collected.length % length) = none := by
    rw [view_mod s.queue CldmaRequest.pending inv.trDone]
    unfold CldmaRequest.pending
    cases (s.queue.request s.queue.trDone).gpd.hwo <;> simp
  have pos : 0 < length := Nat.pos_of_neZero length
  rw [shown]
  rcases Nat.lt_or_ge s.collected.length s.transmitted.length with before | same
  · -- Round the ring, past all that waits.
    refine iff_of_true ?_ before
    obtain ⟨apart, far⟩ := Nat.exists_eq_add_of_le behind
    have place : (s.transmitted.length + (length - apart)) % length = s.collected.length % length := by
      rw [far, Nat.add_assoc, Nat.add_sub_cancel' (by omega), Nat.add_mod_right]
    have none := carries.places (length - apart) (by omega)
    rw [place, List.getElem?_eq_none (by omega)] at none
    exact none
  · refine iff_of_false ?_ (by omega)
    have equal : s.collected.length = s.transmitted.length := Nat.le_antisymm behind same
    rw [equal, carries.front pos]
    cases waiting with
    | nil => simp at total; omega
    | cons buffer waiting => exact Option.some_ne_none buffer

theorem TxStream.Inv.held_done (inv : s.Inv) :
    (s.queue.request s.queue.trDone).held = (s.sent[s.collected.length]?).map txDisposed := by
  obtain ⟨uncollected, sent, carries⟩ := inv.held
  rw [← view_mod s.queue CldmaRequest.held inv.trDone, carries.front (Nat.pos_of_neZero length),
    ← List.getElem?_map, sent, List.getElem?_append_right (Nat.le_refl _), Nat.sub_self,
    List.head?_eq_getElem?]

theorem gpdTxCollect_held (queue : CldmaQueue length) :
    (gpdTxCollect queue).map Prod.snd =
      if (queue.request queue.trDone).gpd.hwo then none else (queue.request queue.trDone).held := by
  unfold gpdTxCollect CldmaRequest.held
  dsimp only
  cases (queue.request queue.trDone).skb with
  | none => simp
  | some skb =>
    cases (queue.request queue.trDone).gpd.hwo <;> simp

theorem TxStream.Inv.inOrder (inv : s.Inv) : s.InOrder := by
  obtain ⟨waiting, sent, pending⟩ := inv.pending
  obtain ⟨uncollected, freed, held⟩ := inv.held
  refine ⟨⟨waiting, sent.symm⟩, ⟨uncollected, freed.symm⟩, inv.behind, ?_, ?_⟩
  · rw [gpdTxCollect_held, inv.held_done]
    rcases Nat.lt_or_ge s.collected.length s.sent.length with left | all
    · have done := inv.done_pending left
      by_cases before : s.collected.length < s.transmitted.length
      · rw [done.mpr before, if_pos before]
        rfl
      · have owned : (s.queue.request s.queue.trDone).gpd.hwo = true := by
          by_contra clear
          exact before (done.mp (Bool.eq_false_iff.mpr clear))
        rw [owned, if_neg before]
        rfl
    · have fewer := inv.transmitted_le
      have none_left : ¬ s.collected.length < s.transmitted.length := by omega
      rw [List.getElem?_eq_none all, if_neg none_left, Option.map_none, ite_self]
  · rw [hasRoom_iff]
    have budget := inv.budget
    refine ⟨fun room => by omega, fun room => ⟨by omega, ?_⟩⟩
    have total := congrArg List.length freed
    simp only [List.length_map, List.length_append] at total
    have empty := held.places uncollected.length (by omega)
    rw [List.getElem?_eq_none (Nat.le_refl _), ← total, view_mod s.queue _ inv.txNext] at empty
    unfold CldmaRequest.held at empty
    simpa using empty

theorem TxStream.Inv.send (inv : s.Inv) (room : s.queue.hasRoom = true) (skb : SkBuff) (addr : Nat) :
    TxStream.Inv { s with
      queue := s.queue.send skb (some addr) true
      sent := s.sent ++ [(skb, addr)] } := by
  obtain ⟨waiting, sent, pending⟩ := inv.pending
  obtain ⟨uncollected, freed, held⟩ := inv.held
  have left := inv.inOrder.room.mp room
  have written := send_request s.queue skb addr
  have fresh := sentRequest_pending (s.queue.request s.queue.txNext) skb addr
  obtain ⟨sameDone, next, less⟩ := @send_cursors _ _ s.queue skb (some addr) true
  have behind := inv.behind
  have ahead := congrArg List.length sent
  have total := congrArg List.length freed
  simp only [List.length_map, List.length_append] at ahead total
  have budget := inv.budget
  have longer : (s.sent ++ [(skb, addr)]).length = s.sent.length + 1 := List.length_append
  refine ⟨⟨waiting ++ [gpdBuffer (skb, addr)], ?_, ?_⟩,
    ⟨uncollected ++ [txDisposed (skb, addr)], ?_, ?_⟩, behind, ?_, ?_, ?_⟩
  · rw [List.map_append, sent, List.append_assoc]
    rfl
  · exact carries_push written fresh (by rw [inv.txNext, ahead]) (by omega) pending
  · rw [List.map_append, freed, List.append_assoc]
    rfl
  · exact carries_push written rfl (by rw [inv.txNext, total]) (by omega) held
  · exact (congrArg Fin.val sameDone).trans inv.trDone
  · show ((s.queue.send skb (some addr) true).txNext : Nat) = (s.sent ++ [(skb, addr)]).length % length
    rw [next, Ring.succ_val, inv.txNext, longer]
    exact Ring.next_mod _ (Nat.pos_of_neZero length)
  · show (s.queue.send skb (some addr) true).budget =
      length + s.collected.length - (s.sent ++ [(skb, addr)]).length
    rw [less, longer]
    omega

theorem TxStream.Inv.transmit (inv : s.Inv) {i : Fin length}
    (order : (i : Nat) = s.transmitted.length % length)
    (owned : (s.queue.request i).gpd.hwo = true) :
    TxStream.Inv { s with
      queue := completeGpd s.queue i
      transmitted := s.transmitted ++
        [((s.queue.request i).gpd.dataBuffBdPtr, (s.queue.request i).gpd.dataBuffLen)] } := by
  obtain ⟨waiting, sent, pending⟩ := inv.pending
  obtain ⟨uncollected, freed, held⟩ := inv.held
  obtain ⟨req, written, done, kept⟩ := completeGpd_view s.queue i
  have front := pending.front (Nat.pos_of_neZero length)
  rw [view_mod s.queue _ order, CldmaRequest.pending, if_pos owned] at front
  cases waiting with
  | nil => cases front
  | cons buffer waiting =>
    cases front
    have behind := inv.behind
    refine ⟨⟨waiting, ?_, ?_⟩, ⟨uncollected, freed, carries_kept written kept held⟩, ?_, inv.trDone,
      inv.txNext, inv.budget⟩
    · rw [sent, List.append_assoc]
      rfl
    · rw [List.length_append]
      exact carries_pop written done order pending
    · rw [List.length_append]
      exact Nat.le_succ_of_le behind

theorem TxStream.Inv.collect (inv : s.Inv) {rest : CldmaQueue length} {disposed : Disposed}
    (collected : gpdTxCollect s.queue = some (rest, disposed)) :
    TxStream.Inv { s with queue := rest, collected := s.collected ++ [disposed] } := by
  obtain ⟨waiting, sent, pending⟩ := inv.pending
  obtain ⟨uncollected, freed, held⟩ := inv.held
  have next := inv.inOrder.next
  rw [collected] at next
  have before : s.collected.length < s.transmitted.length := by
    by_contra all
    rw [if_neg all] at next
    cases next
  obtain ⟨skb, present, -, done, rfl⟩ := gpdTxCollect_cases collected
  have taken : (s.queue.request s.queue.trDone).held = some disposed := by
    rw [if_pos before, ← inv.held_done] at next
    exact next.symm
  have front := held.front (Nat.pos_of_neZero length)
  rw [view_mod s.queue _ inv.trDone, taken] at front
  cases uncollected with
  | nil => cases front
  | cons first uncollected =>
    cases front
    have budget := inv.budget
    refine ⟨⟨waiting, sent, carries_kept rfl ?_ pending⟩, ⟨uncollected, ?_, ?_⟩, ?_, ?_, inv.txNext, ?_⟩
    · simp [CldmaRequest.pending]
    · rw [freed, List.append_assoc]
      rfl
    · rw [List.length_append]
      exact carries_pop rfl rfl inv.trDone held
    · rw [List.length_append]
      exact before
    · show ((s.queue.trDone + 1 : Fin length) : Nat) = (s.collected ++ [disposed]).length % length
      rw [Ring.succ_val, inv.trDone, List.length_append]
      exact Ring.next_mod _ (Nat.pos_of_neZero length)
    · show s.queue.budget + 1 = length + ((s.collected ++ [disposed]).length : Int) - s.sent.length
      rw [List.length_append, List.length_singleton, budget]
      push_cast
      omega

theorem TxStream.inv_of_empty {queue : CldmaQueue length} (idle : ∀ i, (queue.request i).gpd.hwo = false)
    (empty : ∀ i, (queue.request i).skb = none) (trDone : queue.trDone = 0) (txNext : queue.txNext = 0)
    (budget : queue.budget = length) : TxStream.Inv ⟨queue, [], [], []⟩ := by
  have zero : ((0 : Fin length) : Nat) = 0 % length := (Nat.zero_mod length).symm
  refine ⟨⟨[], rfl, Ring.Carries.empty 0 fun i _ => ?_⟩, ⟨[], rfl, Ring.Carries.empty 0 fun i _ => ?_⟩,
    Nat.le_refl 0, trDone ▸ zero, txNext ▸ zero, ?_⟩
  · simp [CldmaQueue.view, CldmaRequest.pending, idle]
  · simp [CldmaQueue.view, CldmaRequest.held, empty]
  · simpa using budget

theorem TxStream.Inv.step {label : TxLabel length} (inv : s.Inv) (allowed : TxStreamLabel s label)
    (taken : s.step label = some t) : t.Inv := by
  cases label with
  | send skb mapping active =>
    simp only [TxStream.step] at taken
    split at taken
    · rename_i room
      cases taken
      obtain ⟨mapped, rfl⟩ := allowed
      obtain ⟨addr, rfl⟩ := Option.ne_none_iff_exists'.mp mapped
      exact inv.send room skb addr
    · cases taken
  | hwDone i =>
    cases taken
    exact inv.transmit allowed.1 allowed.2
  | collect =>
    obtain ⟨⟨rest, disposed⟩, collected, rfl⟩ := Option.map_eq_some_iff.mp taken
    exact inv.collect collected
  | clear =>
    cases taken
    refine TxStream.inv_of_empty (fun i => ?_) (fun _ => rfl) rfl rfl rfl
    simp [clearTxq, CldmaGpd.hwo, hwo_cleared]

/-- As long as every skb is mapped and sent to an active queue, a TX ring is a queue of skbs with two
    readers, of which the driver follows the device. -/
theorem transmitted_in_order (gpdAddr : Fin length → Nat) (labels : List (TxLabel length))
    (obeys : Obeys TxStreamLabel TxStream.step ⟨txqInit gpdAddr, [], [], []⟩ labels) :
    Visits TxStream.InOrder TxStream.step ⟨txqInit gpdAddr, [], [], []⟩ labels := by
  apply Visits.of_invariant TxStream.Inv (fun s inv => inv.inOrder) _ _ obeys
  · exact fun s label t inv allowed taken => inv.step allowed taken
  · have idle : CldmaGpd.hwo ⟨GPD_FLAGS_IOC, 0, 0⟩ = false := by decide
    exact TxStream.inv_of_empty (fun _ => idle) (fun _ => rfl) rfl rfl rfl

def twoInFlight : List (TxLabel MAX_TX_BUDGET) :=
  [.send firstSkb (some 0x9000) true, .send ⟨0x800, 70000⟩ (some 0xa000) true, .hwDone 0, .collect, .collect,
    .hwDone 1]

theorem transmitted_in_order_two :
    Visits TxStream.InOrder TxStream.step ⟨txqInit fun i : Fin MAX_TX_BUDGET => 0x1000 + 16 * i, [], [], []⟩
      twoInFlight :=
  transmitted_in_order (fun i => 0x1000 + 16 * i) twoInFlight (by decide)

end Streaming

end T7xxModel.Cldma
