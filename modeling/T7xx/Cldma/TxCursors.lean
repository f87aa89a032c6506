import T7xx.Cldma.SendSkb
import T7xx.Ring.Slots

namespace T7xxModel.Cldma

open Transition

section Steps

variable {length : Nat} [NeZero length]

/-- What happens to a TX queue under its `ring_lock`: the part of `t7xx_cldma_send_skb` that fills a
    request, one round of `t7xx_cldma_gpd_tx_collect`, `t7xx_cldma_clear_txq`, and the device
    completing a GPD, whichever it is. -/
inductive TxLabel (length : Nat) where
  | send (skb : SkBuff) (mapping : Option Nat) (active : Bool)
  | hwDone (i : Fin length)
  | collect
  | clear
deriving DecidableEq, Repr

/-- What `t7xx_cldma_send_skb` does with a free request. -/
def CldmaQueue.send (queue : CldmaQueue length) (skb : SkBuff) (mapping : Option Nat)
    (active : Bool) : CldmaQueue length :=
  (gpdHandleTxRequest queue.takeBudget queue.txNext skb mapping active).advance queue.txNext

def txStep (queue : CldmaQueue length) : TxLabel length → Option (CldmaQueue length)
  | .send skb mapping active => if queue.hasRoom then some (queue.send skb mapping active) else none
  | .hwDone i => some (completeGpd queue i)
  | .collect => (gpdTxCollect queue).map Prod.fst
  | .clear => some (clearTxq queue).1

/-- The loop of `t7xx_cldma_gpd_tx_collect`. -/
def txCollectRounds : Nat → CldmaQueue length → CldmaQueue length × List Disposed
  | 0, queue => (queue, [])
  | rounds + 1, queue =>
    match gpdTxCollect queue with
    | none => (queue, [])
    | some (rest, disposed) =>
      let (last, more) := txCollectRounds rounds rest
      (last, disposed :: more)

/-- A round takes one skb from the ring, so that the loop ends after `length` of them. -/
def txCollect (queue : CldmaQueue length) : CldmaQueue length × List Disposed :=
  txCollectRounds length queue

end Steps

section Bookkeeping

variable {length : Nat}

def CldmaQueue.occupied (queue : CldmaQueue length) : List (Fin length) :=
  (List.finRange length).filter fun i => (queue.request i).skb.isSome

/-- Requests taken from the budget. -/
def CldmaQueue.queued (queue : CldmaQueue length) : Nat := (length - queue.budget).toNat

/-- The requests with an skb are those from `tr_done` up to `tx_next`, or all of them, and the budget
    counts the others. -/
structure Booked (queue : CldmaQueue length) : Prop where
  budget : queue.budget = length - queue.occupied.length
  next : (queue.txNext : Nat) = Ring.wrap length (queue.trDone + queue.occupied.length)
  held : ∀ i : Fin length, (queue.request i).skb.isSome = true ↔
    Ring.distance length queue.trDone i < queue.occupied.length

def CldmaQueue.AllDone (queue : CldmaQueue length) : Prop :=
  ∀ i, (queue.request i).gpd.hwo = false

/-- What every run keeps: a request may have been taken from the budget without an skb. -/
structure Laid (queue : CldmaQueue length) : Prop where
  least : 0 ≤ queue.budget
  most : queue.budget ≤ length
  next : (queue.txNext : Nat) = Ring.wrap length (queue.trDone + queue.queued)
  held : ∀ i : Fin length, (queue.request i).skb.isSome = true →
    Ring.distance length queue.trDone i < queue.queued
  owned : ∀ i, (queue.request i).gpd.hwo = true → (queue.request i).skb.isSome = true

def Gapless (queue : CldmaQueue length) : Prop :=
  ∀ i : Fin length, Ring.distance length queue.trDone i < queue.queued →
    (queue.request i).skb.isSome = true

variable {queue : CldmaQueue length}

theorem Laid.queued_eq (laid : Laid queue) : (queue.queued : Int) = length - queue.budget := by
  have most := laid.most
  unfold CldmaQueue.queued
  omega

theorem Laid.queued_le (laid : Laid queue) : queue.queued ≤ length := by
  have total := laid.queued_eq
  have least := laid.least
  omega

/-- As many requests lie within `count` of a place. -/
theorem count_near (start : Fin length) {count : Nat} (fits : count ≤ length) :
    ((List.finRange length).filter fun i : Fin length =>
      Ring.distance length start i < count).length = count := by
  have listed : (((List.finRange length).filter fun i : Fin length =>
      Ring.distance length start i < count).map Fin.val).Perm (Ring.slots length start count) := by
    apply (List.perm_ext_iff_of_nodup _ (Ring.slots_nodup length start fits)).mpr
    · intro place
      simp only [List.mem_map, List.mem_filter, List.mem_finRange, true_and, decide_eq_true_eq,
        Ring.mem_slots]
      constructor
      · rintro ⟨i, near, rfl⟩
        refine ⟨Ring.distance length start i, near, ?_⟩
        have first := start.isLt
        have second := i.isLt
        unfold Ring.distance
        split
        · rw [Nat.mod_eq_of_lt (by omega)]
          omega
        · rw [show (start : Nat) + (length + i - start) = i + length by omega, Nat.add_mod_right,
            Nat.mod_eq_of_lt second]
      · rintro ⟨k, near, rfl⟩
        have first := start.isLt
        refine ⟨⟨(start + k) % length, Nat.mod_lt _ (by omega)⟩, ?_, rfl⟩
        have apart := Ring.distance_mod (Nat.le_add_right (start : Nat) k) (n := length) (by omega)
        rw [Nat.mod_eq_of_lt first] at apart
        show Ring.distance length start ((start + k) % length) < count
        omega
    · exact ((List.nodup_finRange length).filter _).map Fin.val_injective
  have same := listed.length_eq
  rwa [List.length_map, Ring.slots, List.length_map, List.length_range] at same

/-- Without a gap, and only then, the books are right. -/
theorem Laid.booked_iff (laid : Laid queue) : Booked queue ↔ Gapless queue := by
  have total := laid.queued_eq
  constructor
  · intro booked i near
    have counted := booked.budget
    have same : queue.queued = queue.occupied.length := by omega
    rw [same] at near
    exact (booked.held i).mpr near
  · intro gapless
    have held (i : Fin length) : (queue.request i).skb.isSome = true ↔
        Ring.distance length queue.trDone i < queue.queued := ⟨laid.held i, gapless i⟩
    have least := laid.least
    have counted : queue.occupied.length = queue.queued := by
      rw [← count_near queue.trDone (show queue.queued ≤ length by omega)]
      unfold CldmaQueue.occupied
      congr 2
      funext i
      rw [Bool.eq_iff_iff, decide_eq_true_eq]
      exact held i
    refine ⟨?_, ?_, ?_⟩
    · rw [counted]
      omega
    · rw [counted]
      exact laid.next
    · rw [counted]
      exact held

theorem hasRoom_iff : queue.hasRoom = true ↔
    0 < queue.budget ∧ (queue.request queue.txNext).skb = none := by
  simp [CldmaQueue.hasRoom]

theorem completeGpd_request (i j : Fin length) :
    ((completeGpd queue i).request j).skb = (queue.request j).skb ∧
      ((completeGpd queue i).request j).gpdAddr = (queue.request j).gpdAddr ∧
        ((completeGpd queue i).request j).gpd.hwo = (decide (j ≠ i) && (queue.request j).gpd.hwo) := by
  by_cases here : j = i
  · simp [completeGpd, CldmaQueue.setRequest, CldmaGpd.hwo, here, hwo_cleared]
  · simp [completeGpd, CldmaQueue.setRequest, here]

theorem Laid.next_distance (laid : Laid queue) (room : 0 < queue.budget) :
    Ring.distance length queue.trDone queue.txNext = queue.queued := by
  have total := laid.queued_eq
  have first := queue.trDone.isLt
  rw [laid.next]
  unfold Ring.distance Ring.wrap
  split_ifs <;> omega

/-- A GPD at `tx_next` is pending only when that has come round. -/
theorem Laid.next_pending (laid : Laid queue)
    (pending : (queue.request queue.txNext).gpd.hwo = true) :
    queue.budget = 0 ∧ queue.txNext = queue.trDone := by
  have within := laid.held queue.txNext (laid.owned queue.txNext pending)
  have total := laid.queued_eq
  have least := laid.least
  have full : queue.budget = 0 := by
    by_contra left
    have apart := laid.next_distance (by omega)
    omega
  refine ⟨full, Fin.ext ?_⟩
  have place := laid.next
  have first := queue.trDone.isLt
  unfold Ring.wrap at place
  split at place <;> omega

theorem queued_of_full (full : queue.budget = length) : queue.queued = 0 := by
  unfold CldmaQueue.queued
  omega

theorem gapless_of_full (full : queue.budget = length) : Gapless queue := by
  intro i near
  rw [queued_of_full full] at near
  omega

theorem laid_of_empty (full : queue.budget = length) (same : queue.txNext = queue.trDone)
    (noSkb : ∀ i, (queue.request i).skb = none) (noHwo : queue.AllDone) : Laid queue := by
  refine ⟨by omega, by omega, ?_, fun i held => ?_, fun i hwo => ?_⟩
  · have first := queue.trDone.isLt
    rw [queued_of_full full, same]
    unfold Ring.wrap
    split_ifs <;> omega
  · rw [noSkb i] at held
    cases held
  · rw [noHwo i] at hwo
    cases hwo

theorem Laid.hwDone (laid : Laid queue) (i : Fin length) : Laid (completeGpd queue i) := by
  refine ⟨laid.least, laid.most, laid.next, fun j held => ?_, fun j hwo => ?_⟩
  · rw [(completeGpd_request i j).1] at held
    exact laid.held j held
  · rw [(completeGpd_request i j).2.2, Bool.and_eq_true] at hwo
    rw [(completeGpd_request i j).1]
    exact laid.owned j hwo.2

end Bookkeeping

section Keeping

variable {length : Nat} [NeZero length] {queue rest : CldmaQueue length}

theorem send_elsewhere (skb : SkBuff) (mapping : Option Nat) (active : Bool) {i : Fin length}
    (elsewhere : i ≠ queue.txNext) :
    (queue.send skb mapping active).request i = queue.request i := by
  cases mapping with
  | none =>
    simp [CldmaQueue.send, gpdHandleTxRequest, mapTxRequest, CldmaQueue.setRequest,
      CldmaQueue.takeBudget, CldmaQueue.advance, elsewhere]
  | some addr =>
    cases active <;>
      simp [CldmaQueue.send, gpdHandleTxRequest, mapTxRequest, setGpdHwo, storeTxSkb,
        CldmaQueue.setRequest, CldmaQueue.takeBudget, CldmaQueue.advance, elsewhere]

/-- A mapping error leaves the GPD and the skb as they were. -/
theorem send_unmapped (skb : SkBuff) (active : Bool) :
    (queue.send skb none active).request queue.txNext =
      { queue.request queue.txNext with mappedBuff := none } := by
  simp [CldmaQueue.send, gpdHandleTxRequest, mapTxRequest, CldmaQueue.setRequest,
    CldmaQueue.takeBudget, CldmaQueue.advance]

theorem send_mapped (skb : SkBuff) (addr : Nat) (active : Bool) :
    ((queue.send skb (some addr) active).request queue.txNext).skb = some skb ∧
      ((queue.send skb (some addr) active).request queue.txNext).gpdAddr =
        (queue.request queue.txNext).gpdAddr := by
  cases active <;>
    simp [CldmaQueue.send, gpdHandleTxRequest, mapTxRequest, setGpdHwo, storeTxSkb,
      CldmaQueue.setRequest, CldmaQueue.takeBudget, CldmaQueue.advance]

theorem send_cursors (skb : SkBuff) (mapping : Option Nat) (active : Bool) :
    (queue.send skb mapping active).trDone = queue.trDone ∧
      (queue.send skb mapping active).txNext = queue.txNext + 1 ∧
        (queue.send skb mapping active).budget = queue.budget - 1 := by
  cases mapping <;> cases active <;> exact ⟨rfl, rfl, rfl⟩

/-- A round takes the skb at `tr_done`, whose GPD the device has done. -/
theorem gpdTxCollect_cases {disposed : Disposed}
    (collected : gpdTxCollect queue = some (rest, disposed)) :
    ∃ skb, (queue.request queue.trDone).skb = some skb ∧ disposed.skb = skb ∧
      (queue.request queue.trDone).gpd.hwo = false ∧
        rest = { queue with
          request := Function.update queue.request queue.trDone
            { queue.request queue.trDone with skb := none }
          budget := queue.budget + 1
          trDone := queue.trDone + 1 } := by
  simp only [gpdTxCollect] at collected
  split at collected
  · cases collected
  rename_i skb present
  split at collected
  · cases collected
  rename_i done
  cases collected
  exact ⟨skb, present, rfl, by simpa using done, rfl⟩

theorem Laid.send_queued (laid : Laid queue) (skb : SkBuff) (mapping : Option Nat)
    (active : Bool) :
    (queue.send skb mapping active).queued = queue.queued + 1 := by
  have most := laid.most
  unfold CldmaQueue.queued
  rw [(send_cursors skb mapping active).2.2]
  omega

theorem Laid.send (laid : Laid queue) (room : queue.hasRoom = true) (skb : SkBuff)
    (mapping : Option Nat) (active : Bool) : Laid (queue.send skb mapping active) := by
  obtain ⟨positive, free⟩ := hasRoom_iff.mp room
  obtain ⟨sameDone, next, less⟩ := @send_cursors _ _ queue skb mapping active
  have total := laid.queued_eq
  have least := laid.least
  have most := laid.most
  have more := laid.send_queued skb mapping active
  have place := laid.next
  have first := queue.trDone.isLt
  have here := laid.next_distance positive
  refine ⟨by omega, by omega, ?_, fun i held => ?_, fun i hwo => ?_⟩
  · rw [next, sameDone, more, Ring.succ_val, place]
    unfold Ring.wrap Ring.next
    split_ifs <;> omega
  · rw [sameDone, more]
    by_cases named : i = queue.txNext
    · rw [named]
      omega
    · rw [send_elsewhere skb mapping active named] at held
      have within := laid.held i held
      omega
  · by_cases named : i = queue.txNext
    · rw [named] at hwo ⊢
      cases mapping with
      | none =>
        rw [send_unmapped] at hwo
        have held := laid.owned _ hwo
        rw [free] at held
        cases held
      | some addr =>
        rw [(send_mapped skb addr active).1]
        rfl
    · rw [send_elsewhere skb mapping active named] at hwo ⊢
      exact laid.owned i hwo

theorem Laid.collect (laid : Laid queue) {disposed : Disposed}
    (collected : gpdTxCollect queue = some (rest, disposed)) :
    Laid rest ∧ rest.queued + 1 = queue.queued := by
  obtain ⟨skb, present, -, done, rfl⟩ := gpdTxCollect_cases collected
  have total := laid.queued_eq
  have least := laid.least
  have most := laid.most
  have place := laid.next
  have first := queue.trDone.isLt
  have within := laid.held queue.trDone (by rw [present]; rfl)
  rw [Ring.distance_self] at within
  have fewer : (length - (queue.budget + 1)).toNat + 1 = queue.queued := by omega
  refine ⟨⟨?_, ?_, ?_, fun i held => ?_, fun i hwo => ?_⟩, fewer⟩
  · dsimp only
    omega
  · dsimp only
    omega
  · show (queue.txNext : Nat) =
      Ring.wrap length ((queue.trDone + 1 : Fin length) + (length - (queue.budget + 1)).toNat)
    rw [place, Ring.succ_val]
    unfold Ring.wrap Ring.next
    split_ifs <;> omega
  · show Ring.distance length (queue.trDone + 1 : Fin length) i <
      (length - (queue.budget + 1)).toNat
    by_cases here : i = queue.trDone
    · simp [here] at held
    · simp only [Function.update_of_ne here] at held
      have near := laid.held i held
      have apart : (i : Nat) ≠ queue.trDone := fun same => here (Fin.ext same)
      have last := i.isLt
      rw [Ring.succ_val]
      unfold Ring.distance Ring.next at *
      split_ifs at * <;> omega
  · by_cases here : i = queue.trDone
    · simp [here, done] at hwo
    · simp only [Function.update_of_ne here] at hwo ⊢
      exact laid.owned i hwo

theorem Laid.clear (queue : CldmaQueue length) : Laid (clearTxq queue).1 := by
  refine laid_of_empty rfl rfl (fun i => rfl) fun i => ?_
  simp [clearTxq, CldmaGpd.hwo, hwo_cleared]

theorem txStep_laid (queue : CldmaQueue length) (label : TxLabel length) (rest : CldmaQueue length)
    (laid : Laid queue) (taken : txStep queue label = some rest) : Laid rest := by
  cases label with
  | send skb mapping active =>
    simp only [txStep] at taken
    split at taken
    · rename_i room
      cases taken
      exact laid.send room skb mapping active
    · cases taken
  | hwDone i =>
    cases taken
    exact laid.hwDone i
  | collect =>
    simp only [txStep, Option.map_eq_some_iff] at taken
    obtain ⟨⟨_, disposed⟩, collected, rfl⟩ := taken
    exact (laid.collect collected).1
  | clear =>
    cases taken
    exact Laid.clear queue

end Keeping

section Reclaims

variable {length : Nat} [NeZero length] {queue rest : CldmaQueue length}

/-- Collecting gives the whole budget back once the device is done. -/
def Reclaims (queue : CldmaQueue length) : Prop :=
  queue.AllDone → (txCollect queue).1.budget = length

/-- A send that finds a free request gets its skb mapped. -/
def TxLabel.Mapped (_ : CldmaQueue length) : TxLabel length → Prop
  | .send _ mapping _ => mapping ≠ none
  | _ => True

theorem Gapless.collect (laid : Laid queue) (gapless : Gapless queue) {disposed : Disposed}
    (collected : gpdTxCollect queue = some (rest, disposed)) : Gapless rest := by
  have fewer := (laid.collect collected).2
  obtain ⟨skb, present, -, done, left⟩ := gpdTxCollect_cases collected
  have moved : rest.trDone = queue.trDone + 1 := by rw [left]
  have emptied : rest.request = Function.update queue.request queue.trDone
      { queue.request queue.trDone with skb := none } := by rw [left]
  intro i near
  rw [moved, Ring.succ_val] at near
  have first := queue.trDone.isLt
  have last := i.isLt
  have least := laid.least
  have total := laid.queued_eq
  have apart : i ≠ queue.trDone := by
    rintro rfl
    have far : Ring.distance length (Ring.next length queue.trDone) queue.trDone = length - 1 := by
      unfold Ring.distance Ring.next
      split_ifs <;> omega
    omega
  have places : (i : Nat) ≠ queue.trDone := fun same => apart (Fin.ext same)
  rw [emptied, Function.update_of_ne apart]
  apply gapless i
  have nearer : Ring.distance length queue.trDone i =
      Ring.distance length (Ring.next length queue.trDone) i + 1 := by
    unfold Ring.distance Ring.next
    split_ifs <;> omega
  omega

theorem CldmaQueue.AllDone.collect (allDone : queue.AllDone) {disposed : Disposed}
    (collected : gpdTxCollect queue = some (rest, disposed)) : rest.AllDone := by
  obtain ⟨skb, present, -, done, rfl⟩ := gpdTxCollect_cases collected
  intro i
  by_cases here : i = queue.trDone
  · simpa [here] using done
  · simpa [here] using allDone i

/-- A round gives one of the budget back, so that none is left after as many as were queued. -/
theorem txCollectRounds_ends {rounds : Nat} (laid : Laid queue) (enough : queue.queued ≤ rounds) :
    gpdTxCollect (txCollectRounds rounds queue).1 = none := by
  induction rounds generalizing queue with
  | zero =>
    have empty : (queue.request queue.trDone).skb = none := by
      by_contra present
      have within := laid.held queue.trDone (Option.isSome_iff_ne_none.mpr present)
      omega
    simp [txCollectRounds, gpdTxCollect, empty]
  | succ rounds ih =>
    cases round : gpdTxCollect queue with
    | none =>
      simp only [txCollectRounds, round]
    | some collected =>
      obtain ⟨rest, disposed⟩ := collected
      obtain ⟨kept, fewer⟩ := laid.collect round
      simp only [txCollectRounds, round]
      exact ih kept (by omega)

theorem txCollect_ends (laid : Laid queue) : gpdTxCollect (txCollect queue).1 = none :=
  txCollectRounds_ends laid laid.queued_le

theorem txCollectRounds_budget (rounds : Nat) (laid : Laid queue) (gapless : Gapless queue)
    (allDone : queue.AllDone) (ends : gpdTxCollect (txCollectRounds rounds queue).1 = none) :
    (txCollectRounds rounds queue).1.budget = length := by
  have stops {queue : CldmaQueue length} (laid : Laid queue) (gapless : Gapless queue)
      (allDone : queue.AllDone) (ends : gpdTxCollect queue = none) : queue.budget = length := by
    have total := laid.queued_eq
    have most := laid.most
    by_contra short
    have held := gapless queue.trDone (by rw [Ring.distance_self]; omega)
    obtain ⟨skb, present⟩ := Option.isSome_iff_exists.mp held
    simp [gpdTxCollect, present, allDone queue.trDone] at ends
  induction rounds generalizing queue with
  | zero => exact stops laid gapless allDone ends
  | succ rounds ih =>
    cases round : gpdTxCollect queue with
    | none =>
      simp only [txCollectRounds, round]
      exact stops laid gapless allDone round
    | some collected =>
      obtain ⟨rest, disposed⟩ := collected
      simp only [txCollectRounds, round] at ends ⊢
      exact ih (laid.collect round).1 (gapless.collect laid round) (allDone.collect round) ends

theorem Laid.reclaims (laid : Laid queue) (gapless : Gapless queue) : Reclaims queue :=
  fun allDone => txCollectRounds_budget length laid gapless allDone (txCollect_ends laid)

theorem send_gapless_iff (laid : Laid queue) (gapless : Gapless queue)
    (room : queue.hasRoom = true) (skb : SkBuff) (mapping : Option Nat) (active : Bool) :
    Gapless (queue.send skb mapping active) ↔ mapping ≠ none := by
  obtain ⟨positive, free⟩ := hasRoom_iff.mp room
  obtain ⟨sameDone, next, less⟩ := @send_cursors _ _ queue skb mapping active
  have total := laid.queued_eq
  have least := laid.least
  have most := laid.most
  have more := laid.send_queued skb mapping active
  have place := laid.next
  have first := queue.trDone.isLt
  have here := laid.next_distance positive
  constructor
  · rintro filled rfl
    have held := filled queue.txNext (by rw [sameDone, more]; omega)
    rw [send_unmapped] at held
    rw [show ({ queue.request queue.txNext with mappedBuff := none } : CldmaRequest).skb =
      (queue.request queue.txNext).skb from rfl, free] at held
    cases held
  · intro mapped i near
    obtain ⟨addr, rfl⟩ := Option.ne_none_iff_exists'.mp mapped
    by_cases named : i = queue.txNext
    · rw [named, (send_mapped skb addr active).1]
      rfl
    · rw [send_elsewhere skb (some addr) active named]
      apply gapless i
      rw [sameDone, more] at near
      have apart : (i : Nat) ≠ queue.txNext := fun same => named (Fin.ext same)
      have last := i.isLt
      unfold Ring.distance at *
      split_ifs at * <;> omega

theorem txStep_gapless_iff (queue : CldmaQueue length) (label : TxLabel length)
    (rest : CldmaQueue length) (laid : Laid queue) (gapless : Gapless queue)
    (taken : txStep queue label = some rest) : Gapless rest ↔ label.Mapped queue := by
  cases label with
  | send skb mapping active =>
    simp only [txStep] at taken
    split at taken
    · rename_i room
      cases taken
      exact send_gapless_iff laid gapless room skb mapping active
    · cases taken
  | hwDone i =>
    cases taken
    refine iff_of_true (fun j near => ?_) trivial
    rw [(completeGpd_request i j).1]
    exact gapless j near
  | collect =>
    simp only [txStep, Option.map_eq_some_iff] at taken
    obtain ⟨⟨_, disposed⟩, collected, rfl⟩ := taken
    exact iff_of_true (gapless.collect laid collected) trivial
  | clear =>
    cases taken
    exact iff_of_true (gapless_of_full rfl) trivial

theorem txqInit_laid (gpdAddr : Fin length → Nat) : Laid (txqInit gpdAddr) := by
  have idle : CldmaGpd.hwo ⟨GPD_FLAGS_IOC, 0, 0⟩ = false := by decide
  exact laid_of_empty rfl rfl (fun i => rfl) fun i => idle

/-- The books of a TX queue stay right as long as every skb sent is mapped. -/
theorem tx_books_right_iff (gpdAddr : Fin length → Nat) (labels : List (TxLabel length)) :
    Visits (fun queue => Booked queue ∧ Reclaims queue) txStep (txqInit gpdAddr) labels ↔
      Obeys TxLabel.Mapped txStep (txqInit gpdAddr) labels := by
  have right_iff (queue : CldmaQueue length) (laid : Laid queue) :
      Booked queue ∧ Reclaims queue ↔ Gapless queue := by
    rw [laid.booked_iff]
    exact and_iff_left_of_imp laid.reclaims
  have initial := txqInit_laid gpdAddr
  have safe : Gapless (txqInit gpdAddr) := gapless_of_full rfl
  refine visits_iff_obeys Laid (fun queue label rest laid _ taken => ?_)
    (fun queue label rest laid right taken => ?_) initial ((right_iff _ initial).mpr safe)
  · exact txStep_laid queue label rest laid taken
  · have kept := txStep_laid queue label rest laid taken
    rw [right_iff rest kept]
    exact txStep_gapless_iff queue label rest laid ((right_iff queue laid).mp right) taken

theorem tx_books_right_iff_sent :
    Visits (fun queue => Booked queue ∧ Reclaims queue) txStep
        (txqInit fun i : Fin MAX_TX_BUDGET => 0x1000 + 16 * i)
        [.send firstSkb (some 0x9000) true, .hwDone 0] ↔
      Obeys TxLabel.Mapped txStep (txqInit fun i : Fin MAX_TX_BUDGET => 0x1000 + 16 * i)
        [.send firstSkb (some 0x9000) true, .hwDone 0] :=
  tx_books_right_iff (fun i => 0x1000 + 16 * i) _

/-- A mapping error stops the collection for good: the device is done with the second skb, and the
    budget stays two short. -/
theorem unmapped_send_stops_collect :
    ¬ ∀ labels : List (TxLabel MAX_TX_BUDGET),
      Visits (fun queue => Booked queue ∧ Reclaims queue) txStep
        (txqInit fun i => 0x1000 + 16 * i) labels := by
  intro always
  have visits := always [.send firstSkb none true, .send firstSkb (some 0x9000) true, .hwDone 1]
  obtain ⟨queue, run, done, short⟩ : ∃ queue, execute txStep (txqInit fun i => 0x1000 + 16 * i)
      [.send firstSkb none true, .send firstSkb (some 0x9000) true, .hwDone 1] = some queue ∧
      (∀ i : Fin MAX_TX_BUDGET, (queue.request i).gpd.hwo = false) ∧
        (txCollect queue).1.budget = 14 := ⟨_, rfl, by decide, rfl⟩
  have whole := (visits.finish run).2 done
  rw [short] at whole
  exact absurd whole (by decide)

end Reclaims

end T7xxModel.Cldma
