import T7xx.Cldma.RxFromQ
import T7xx.Cldma.TxRing

namespace T7xxModel.Cldma

/-- There are as many RX queues as TX queues. -/
abbrev Qno := Fin CLDMA_TXQ_NUM

def firstQno : Qno := ⟨0, by decide⟩

inductive Dir where
  | tx
  | rx
deriving DecidableEq, Repr

/-- `struct cldma_ring` with the addresses of its requests; none of them is left once it was freed. -/
structure RequestRing where
  gpdRing : List Nat
  length : Nat
deriving DecidableEq, Repr

/-- The pointers of a `struct cldma_queue`; `none` is NULL. -/
structure QueueRefs where
  trRing : Option Qno
  trDone : Option Nat
  rxRefill : Option Nat
  txNext : Option Nat
  budget : Nat
deriving DecidableEq, Repr

/-- What `t7xx_cldma_late_init` sets up in a `struct cldma_ctrl`. -/
structure RingCtrl where
  isLateInit : Bool
  gpdDmapool : Bool
  txRing : Qno → RequestRing
  rxRing : Qno → RequestRing
  txq : Qno → QueueRefs
  rxq : Qno → QueueRefs

/-- The allocations of `t7xx_cldma_late_init`: the pool, and for each ring the address of its i-th
    request. -/
structure LateAllocs where
  pool : Bool
  tx : Qno → Nat → Option Nat
  rx : Qno → Nat → Option Nat

section Setup

/-- The loop of `t7xx_cldma_tx_ring_init` and `t7xx_cldma_rx_ring_init`. -/
def allocRequests (alloc : Nat → Option Nat) : Nat → List Nat → Option (List Nat)
  | 0, gpdRing => some gpdRing
  | left + 1, gpdRing =>
    match alloc gpdRing.length with
    | none => none
    | some req => allocRequests alloc left (gpdRing ++ [req])

/-- On an error the requests made so far are freed again. -/
def ringInit (length : Nat) (alloc : Nat → Option Nat) : RequestRing × Bool :=
  match allocRequests alloc length [] with
  | none => (⟨[], length⟩, false)
  | some gpdRing => (⟨gpdRing, length⟩, true)

def RequestRing.free (ring : RequestRing) : RequestRing := { ring with gpdRing := [] }

def freeRings (qs : List Qno) (rings : Qno → RequestRing) : Qno → RequestRing :=
  fun q => if q ∈ qs then (rings q).free else rings q

/-- A loop over the rings of one direction: the rings, those that were made, and whether all were. -/
def initRings (length : Nat) (alloc : Qno → Nat → Option Nat) :
    List Qno → List Qno → (Qno → RequestRing) → (Qno → RequestRing) × List Qno × Bool
  | [], made, rings => (rings, made, true)
  | q :: rest, made, rings =>
    let (ring, ok) := ringInit length (alloc q)
    let rings := Function.update rings q ring
    if ok then initRings length alloc rest (made ++ [q]) rings else (rings, made, false)

/-- `t7xx_cldma_q_reset`; `list_first_entry` of an empty ring is no request. -/
def QueueRefs.qReset (queue : QueueRefs) (dir : Dir) (ring : RequestRing) : QueueRefs :=
  let req := ring.gpdRing.head?
  let queue := { queue with trDone := req, budget := ring.length }
  match dir with
  | .tx => { queue with txNext := req }
  | .rx => { queue with rxRefill := req }

def RingCtrl.txqInit (ctrl : RingCtrl) (q : Qno) : QueueRefs :=
  { ctrl.txq q with trRing := some q }.qReset .tx (ctrl.txRing q)

def RingCtrl.rxqInit (ctrl : RingCtrl) (q : Qno) : QueueRefs :=
  { ctrl.rxq q with trRing := some q }.qReset .rx (ctrl.rxRing q)

def cldmaLateInit (allocs : LateAllocs) (ctrl : RingCtrl) : RingCtrl × Int :=
  if ctrl.isLateInit then (ctrl, -EALREADY)
  else if allocs.pool = false then ({ ctrl with gpdDmapool := false }, -ENOMEM)
  else
    let ctrl := { ctrl with gpdDmapool := true }
    let (txRing, txMade, ok) := initRings MAX_TX_BUDGET allocs.tx (List.finRange _) [] ctrl.txRing
    if ok = false then ({ ctrl with txRing := freeRings txMade txRing }, -ENOMEM)
    else
      let (rxRing, rxMade, ok) := initRings MAX_RX_BUDGET allocs.rx (List.finRange _) [] ctrl.rxRing
      if ok = false then
        let rxRing := freeRings rxMade rxRing
        ({ ctrl with txRing := freeRings txMade txRing, rxRing }, -ENOMEM)
      else
        let ctrl := { ctrl with txRing, rxRing }
        ({ ctrl with txq := ctrl.txqInit, rxq := ctrl.rxqInit, isLateInit := true }, 0)

def cldmaLateRelease (ctrl : RingCtrl) : RingCtrl :=
  if ctrl.isLateInit = false then ctrl
  else
    { ctrl with
      txRing := fun q => (ctrl.txRing q).free
      rxRing := fun q => (ctrl.rxRing q).free
      gpdDmapool := false
      isLateInit := false }

/-- `md_cd_queue_struct_reset`; `rx_refill` keeps its value. -/
def QueueRefs.structReset (queue : QueueRefs) : QueueRefs :=
  { queue with trRing := none, trDone := none, txNext := none }

def cldmaReset (ctrl : RingCtrl) : RingCtrl :=
  cldmaLateRelease { ctrl with
    txq := fun q => (ctrl.txq q).structReset
    rxq := fun q => (ctrl.rxq q).structReset }

/-- `t7xx_cldma_clear_txq`; without a ring it does not get past the first line. -/
def cldmaClearTxq (ctrl : RingCtrl) (q : Qno) : RingCtrl :=
  match (ctrl.txq q).trRing with
  | none => ctrl
  | some ring =>
    { ctrl with txq := Function.update ctrl.txq q ((ctrl.txq q).qReset .tx (ctrl.txRing ring)) }

def cldmaClearRxq (ctrl : RingCtrl) (q : Qno) : RingCtrl :=
  match (ctrl.rxq q).trRing with
  | none => ctrl
  | some ring =>
    { ctrl with rxq := Function.update ctrl.rxq q ((ctrl.rxq q).qReset .rx (ctrl.rxRing ring)) }

/-- The request behind `req`, with the ring closed to a circle. -/
def RequestRing.stepForward (ring : RequestRing) (req : Nat) : Option Nat :=
  if req ∈ ring.gpdRing then ring.gpdRing[(ring.gpdRing.idxOf req + 1) % ring.gpdRing.length]?
  else some req

inductive Cursor where
  | txNext
  | txDone
  | rxDone
  | rxRefill
deriving DecidableEq, Repr

/-- Traffic on a queue moves one of its cursors on to the next request of its ring. -/
def RingCtrl.moveCursor (ctrl : RingCtrl) (cursor : Cursor) (q : Qno) : RingCtrl :=
  let txq := ctrl.txq q
  let rxq := ctrl.rxq q
  match cursor with
  | .txNext =>
    let txNext := txq.txNext.bind (ctrl.txRing q).stepForward
    { ctrl with txq := Function.update ctrl.txq q { txq with txNext } }
  | .txDone =>
    let trDone := txq.trDone.bind (ctrl.txRing q).stepForward
    { ctrl with txq := Function.update ctrl.txq q { txq with trDone } }
  | .rxDone =>
    let trDone := rxq.trDone.bind (ctrl.rxRing q).stepForward
    { ctrl with rxq := Function.update ctrl.rxq q { rxq with trDone } }
  | .rxRefill =>
    let rxRefill := rxq.rxRefill.bind (ctrl.rxRing q).stepForward
    { ctrl with rxq := Function.update ctrl.rxq q { rxq with rxRefill } }

/-- A controller as `t7xx_cldma_alloc` and `t7xx_cldma_init` leave it. -/
def RingCtrl.allocated : RingCtrl where
  isLateInit := false
  gpdDmapool := false
  txRing := fun _ => ⟨[], 0⟩
  rxRing := fun _ => ⟨[], 0⟩
  txq := fun _ => ⟨none, none, none, none, 0⟩
  rxq := fun _ => ⟨none, none, none, none, 0⟩

end Setup

section Liveness

/-- A pointer to a request that belongs to the ring. -/
def RequestRing.Holds (ring : RequestRing) (req : Option Nat) : Prop := ∃ r ∈ req, r ∈ ring.gpdRing

instance (ring : RequestRing) (req : Option Nat) : Decidable (ring.Holds req) :=
  inferInstanceAs (Decidable (∃ r ∈ req, r ∈ ring.gpdRing))

structure RingCtrl.TxqLive (ctrl : RingCtrl) (q : Qno) : Prop where
  trRing : (ctrl.txq q).trRing = some q
  trDone : (ctrl.txRing q).Holds (ctrl.txq q).trDone
  txNext : (ctrl.txRing q).Holds (ctrl.txq q).txNext

structure RingCtrl.RxqLive (ctrl : RingCtrl) (q : Qno) : Prop where
  trRing : (ctrl.rxq q).trRing = some q
  trDone : (ctrl.rxRing q).Holds (ctrl.rxq q).trDone

instance (ctrl : RingCtrl) (q : Qno) : Decidable (ctrl.TxqLive q) :=
  decidable_of_iff ((ctrl.txq q).trRing = some q ∧ (ctrl.txRing q).Holds (ctrl.txq q).trDone ∧
      (ctrl.txRing q).Holds (ctrl.txq q).txNext)
    ⟨fun ⟨ring, done, next⟩ => ⟨ring, done, next⟩, fun live => ⟨live.trRing, live.trDone, live.txNext⟩⟩

instance (ctrl : RingCtrl) (q : Qno) : Decidable (ctrl.RxqLive q) :=
  decidable_of_iff ((ctrl.rxq q).trRing = some q ∧ (ctrl.rxRing q).Holds (ctrl.rxq q).trDone)
    ⟨fun ⟨ring, done⟩ => ⟨ring, done⟩, fun live => ⟨live.trRing, live.trDone⟩⟩

/-- The rings are live from the end of `t7xx_cldma_late_init` on, and empty otherwise. -/
structure RingCtrl.Sound (ctrl : RingCtrl) : Prop where
  txLive : ctrl.isLateInit = true → ∀ q, ctrl.TxqLive q
  rxLive : ctrl.isLateInit = true → ∀ q, ctrl.RxqLive q
  txFreed : ctrl.isLateInit = false → ∀ q, (ctrl.txRing q).gpdRing = []
  rxFreed : ctrl.isLateInit = false → ∀ q, (ctrl.rxRing q).gpdRing = []

theorem RequestRing.Holds.not_empty {ring : RequestRing} {req : Option Nat} (holds : ring.Holds req) :
    ring.gpdRing ≠ [] := by
  obtain ⟨r, _, member⟩ := holds
  exact List.ne_nil_of_mem member

variable {ctrl : RingCtrl}

theorem RingCtrl.Sound.txqLive_iff (sound : ctrl.Sound) (q : Qno) :
    ctrl.TxqLive q ↔ ctrl.isLateInit = true := by
  refine ⟨fun live => ?_, fun init => sound.txLive init q⟩
  cases late : ctrl.isLateInit with
  | true => rfl
  | false => exact absurd (sound.txFreed late q) live.trDone.not_empty

theorem RingCtrl.Sound.rxqLive_iff (sound : ctrl.Sound) (q : Qno) :
    ctrl.RxqLive q ↔ ctrl.isLateInit = true := by
  refine ⟨fun live => ?_, fun init => sound.rxLive init q⟩
  cases late : ctrl.isLateInit with
  | true => rfl
  | false => exact absurd (sound.rxFreed late q) live.trDone.not_empty

theorem allocated_sound : RingCtrl.allocated.Sound := ⟨nofun, nofun, fun _ _ => rfl, fun _ _ => rfl⟩

theorem sound_of_freed (late : ctrl.isLateInit = false) (tx : ∀ q, (ctrl.txRing q).gpdRing = [])
    (rx : ∀ q, (ctrl.rxRing q).gpdRing = []) : ctrl.Sound := by
  have never : ctrl.isLateInit ≠ true := fun done => absurd (late.symm.trans done) Bool.false_ne_true
  exact ⟨fun done => absurd done never, fun done => absurd done never, fun _ => tx, fun _ => rx⟩

theorem lateRelease_sound (sound : ctrl.Sound) :
    (cldmaLateRelease ctrl).Sound ∧ (cldmaLateRelease ctrl).isLateInit = false := by
  unfold cldmaLateRelease
  split
  · rename_i done
    exact ⟨sound, done⟩
  · exact ⟨sound_of_freed rfl (fun _ => rfl) (fun _ => rfl), rfl⟩

/-- The queues lose their pointers before the rings are freed. -/
theorem reset_sound (sound : ctrl.Sound) :
    (cldmaReset ctrl).Sound ∧ (cldmaReset ctrl).isLateInit = false := by
  unfold cldmaReset cldmaLateRelease
  dsimp only
  split
  · rename_i done
    exact ⟨sound_of_freed done (sound.txFreed done) (sound.rxFreed done), done⟩
  · exact ⟨sound_of_freed rfl (fun _ => rfl) (fun _ => rfl), rfl⟩

end Liveness

section Allocation

variable {length : Nat} {alloc : Nat → Option Nat}

theorem allocRequests_some {left : Nat} {gpdRing : List Nat} :
    (allocRequests alloc left gpdRing).isSome = true ↔
      ∀ i, gpdRing.length ≤ i → i < gpdRing.length + left → (alloc i).isSome = true := by
  induction left generalizing gpdRing with
  | zero => exact ⟨fun _ i low high => by omega, fun _ => rfl⟩
  | succ left ih =>
    unfold allocRequests
    cases first : alloc gpdRing.length with
    | none =>
      refine ⟨nofun, fun all => ?_⟩
      have here := all gpdRing.length (Nat.le_refl _) (by omega)
      rw [first] at here
      cases here
    | some req =>
      rw [ih, List.length_append, List.length_singleton]
      constructor
      · intro rest i low high
        rcases Nat.eq_or_lt_of_le low with rfl | later
        · rw [first]
          rfl
        · exact rest i later (by omega)
      · exact fun all i low high => all i (by omega) (by omega)

theorem allocRequests_length {left : Nat} {gpdRing made : List Nat}
    (all : allocRequests alloc left gpdRing = some made) : made.length = gpdRing.length + left := by
  induction left generalizing gpdRing with
  | zero =>
    cases all
    rfl
  | succ left ih =>
    unfold allocRequests at all
    split at all
    · cases all
    · rw [ih all, List.length_append, List.length_singleton]
      omega

theorem ringInit_ok :
    (ringInit length alloc).2 = true ↔ ∀ i < length, (alloc i).isSome = true := by
  have made := @allocRequests_some alloc length []
  simp only [List.length_nil, Nat.zero_le, Nat.zero_add, true_implies] at made
  rw [← made]
  unfold ringInit
  split
  · rename_i failed
    rw [failed]
    exact ⟨nofun, nofun⟩
  · rename_i gpdRing filled
    rw [filled]
    exact ⟨fun _ => rfl, fun _ => rfl⟩

theorem ringInit_length (ok : (ringInit length alloc).2 = true) :
    (ringInit length alloc).1.gpdRing.length = length := by
  unfold ringInit at ok ⊢
  split
  · rename_i failed
    rw [failed] at ok
    cases ok
  · rename_i gpdRing filled
    exact (allocRequests_length filled).trans (Nat.zero_add _)

theorem ringInit_failed (failed : (ringInit length alloc).2 = false) :
    (ringInit length alloc).1.gpdRing = [] := by
  unfold ringInit at failed ⊢
  split
  · rfl
  · rename_i gpdRing filled
    rw [filled] at failed
    cases failed

variable {allocs : Qno → Nat → Option Nat} {qs made : List Qno} {rings : Qno → RequestRing}

theorem initRings_ok :
    (initRings length allocs qs made rings).2.2 = true ↔
      ∀ q ∈ qs, ∀ i < length, (allocs q i).isSome = true := by
  induction qs generalizing made rings with
  | nil => exact ⟨fun _ q member => absurd member List.not_mem_nil, fun _ => rfl⟩
  | cons q rest ih =>
    unfold initRings
    dsimp only
    rw [List.forall_mem_cons, ← ringInit_ok]
    split
    · rename_i ok
      rw [ih]
      exact ⟨fun others => ⟨ok, others⟩, And.right⟩
    · rename_i failed
      exact ⟨nofun, fun all => absurd all.1 failed⟩

theorem initRings_short (failed : (initRings length allocs qs made rings).2.2 = false) :
    ¬ ∀ q ∈ qs, ∀ i < length, (allocs q i).isSome = true :=
  mt initRings_ok.mpr (Bool.eq_false_iff.mp failed)

theorem initRings_made (ok : (initRings length allocs qs made rings).2.2 = true) :
    (initRings length allocs qs made rings).2.1 = made ++ qs := by
  induction qs generalizing made rings with
  | nil => exact (List.append_nil made).symm
  | cons q rest ih =>
    unfold initRings at ok ⊢
    dsimp only at ok ⊢
    split at ok
    · rename_i first
      rw [if_pos first, ih ok, List.append_assoc]
      rfl
    · cases ok

/-- After a success every ring of the loop is full, after an error only those already made are. -/
theorem initRings_full (nodup : qs.Nodup)
    (ok : (initRings length allocs qs made rings).2.2 = true) :
    (∀ q ∈ qs, ((initRings length allocs qs made rings).1 q).gpdRing.length = length) ∧
      ∀ q ∉ qs, (initRings length allocs qs made rings).1 q = rings q := by
  induction qs generalizing made rings with
  | nil => exact ⟨fun q member => absurd member List.not_mem_nil, fun _ _ => rfl⟩
  | cons q rest ih =>
    obtain ⟨fresh, distinct⟩ := List.nodup_cons.mp nodup
    unfold initRings at ok ⊢
    dsimp only at ok ⊢
    split at ok
    · rename_i first
      rw [if_pos first]
      obtain ⟨full, others⟩ := ih distinct ok
      constructor
      · intro other member
        rcases List.mem_cons.mp member with rfl | later
        · rw [others other fresh, Function.update_self]
          exact ringInit_length first
        · exact full other later
      · intro other outside
        obtain ⟨different, notLater⟩ := not_or.mp (mt List.mem_cons.mpr outside)
        rw [others other notLater, Function.update_of_ne different]
    · cases ok

theorem initRings_failed (empty : ∀ q ∉ made, (rings q).gpdRing = [])
    (failed : (initRings length allocs qs made rings).2.2 = false) :
    ∀ q ∉ (initRings length allocs qs made rings).2.1,
      ((initRings length allocs qs made rings).1 q).gpdRing = [] := by
  induction qs generalizing made rings with
  | nil => cases failed
  | cons q rest ih =>
    unfold initRings at failed ⊢
    dsimp only at failed ⊢
    split at failed
    · rename_i first
      rw [if_pos first]
      refine ih (fun other outside => ?_) failed
      rw [List.mem_append, List.mem_singleton, not_or] at outside
      rw [Function.update_of_ne outside.2]
      exact empty other outside.1
    · rename_i first
      rw [if_neg first]
      intro other outside
      show (Function.update rings q (ringInit length (allocs q)).1 other).gpdRing = []
      by_cases here : other = q
      · rw [here, Function.update_self]
        exact ringInit_failed (Bool.eq_false_iff.mpr first)
      · rw [Function.update_of_ne here]
        exact empty other outside

theorem initRings_made_empty (empty : ∀ q, (rings q).gpdRing = [])
    (failed : (initRings length allocs qs [] rings).2.2 = false) (q : Qno) :
    (freeRings (initRings length allocs qs [] rings).2.1
      (initRings length allocs qs [] rings).1 q).gpdRing = [] := by
  unfold freeRings
  split
  · rfl
  · rename_i outside
    exact initRings_failed (fun q _ => empty q) failed q outside

end Allocation

section Rings

/-- No allocation of `t7xx_cldma_late_init` fails. -/
structure LateAllocs.Suffice (allocs : LateAllocs) : Prop where
  pool : allocs.pool = true
  tx : ∀ q, ∀ i < MAX_TX_BUDGET, (allocs.tx q i).isSome = true
  rx : ∀ q, ∀ i < MAX_RX_BUDGET, (allocs.rx q i).isSome = true

instance (allocs : LateAllocs) : Decidable allocs.Suffice :=
  decidable_of_iff (allocs.pool = true ∧ (∀ q, ∀ i < MAX_TX_BUDGET, (allocs.tx q i).isSome = true) ∧
      ∀ q, ∀ i < MAX_RX_BUDGET, (allocs.rx q i).isSome = true)
    ⟨fun ⟨pool, tx, rx⟩ => ⟨pool, tx, rx⟩, fun all => ⟨all.pool, all.tx, all.rx⟩⟩

variable {ctrl : RingCtrl}

theorem holds_head {ring : RequestRing} {length : Nat} (full : ring.gpdRing.length = length + 1) :
    ring.Holds ring.gpdRing.head? := by
  obtain ⟨r, rest, cons⟩ := List.exists_cons_of_length_eq_add_one full
  rw [cons]
  exact ⟨r, rfl, by rw [cons]; exact List.mem_cons_self⟩

theorem holds_stepForward {ring : RequestRing} {req : Option Nat} (holds : ring.Holds req) :
    ring.Holds (req.bind ring.stepForward) := by
  obtain ⟨r, rfl, member⟩ := holds
  have positive : 0 < ring.gpdRing.length := List.length_pos_of_mem member
  have inside := Nat.mod_lt (ring.gpdRing.idxOf r + 1) positive
  refine ⟨ring.gpdRing[(ring.gpdRing.idxOf r + 1) % ring.gpdRing.length], ?_, List.getElem_mem inside⟩
  show ring.stepForward r = _
  unfold RequestRing.stepForward
  rw [if_pos member]
  exact List.getElem?_eq_getElem inside

theorem lateInit_sound (allocs : LateAllocs) (sound : ctrl.Sound) :
    (cldmaLateInit allocs ctrl).1.Sound ∧ ((cldmaLateInit allocs ctrl).1.isLateInit = true ↔
      ctrl.isLateInit = true ∨ allocs.Suffice) := by
  unfold cldmaLateInit
  cases late : ctrl.isLateInit with
  | true => exact ⟨sound, fun _ => Or.inl rfl, fun _ => late⟩
  | false =>
    have txFreed := sound.txFreed late
    have rxFreed := sound.rxFreed late
    dsimp only
    simp only [Bool.false_eq_true, if_false, false_or]
    split
    · rename_i noPool
      exact ⟨sound_of_freed rfl txFreed rxFreed, nofun,
        fun all => absurd (noPool.symm.trans all.pool) Bool.false_ne_true⟩
    split
    · rename_i failed
      exact ⟨sound_of_freed rfl (initRings_made_empty txFreed failed) rxFreed, nofun,
        fun all => absurd (fun q _ => all.tx q) (initRings_short failed)⟩
    rename_i pool txOk
    have txOk := Bool.eq_true_of_not_eq_false txOk
    split
    · rename_i failed
      have txEmpty : ∀ q, (freeRings (initRings MAX_TX_BUDGET allocs.tx (List.finRange CLDMA_TXQ_NUM) []
          ctrl.txRing).2.1 (initRings MAX_TX_BUDGET allocs.tx (List.finRange CLDMA_TXQ_NUM) []
          ctrl.txRing).1 q).gpdRing = [] := by
        intro q
        unfold freeRings
        rw [initRings_made txOk, if_pos (List.mem_append_right _ (List.mem_finRange q))]
        rfl
      exact ⟨sound_of_freed rfl txEmpty (initRings_made_empty rxFreed failed), nofun,
        fun all => absurd (fun q _ => all.rx q) (initRings_short failed)⟩
    · rename_i rxOk
      have rxOk := Bool.eq_true_of_not_eq_false rxOk
      have txFull := fun q => (initRings_full (List.nodup_finRange _) txOk).1 q (List.mem_finRange q)
      have rxFull := fun q => (initRings_full (List.nodup_finRange _) rxOk).1 q (List.mem_finRange q)
      refine ⟨⟨fun _ q => ⟨rfl, holds_head (txFull q), holds_head (txFull q)⟩,
        fun _ q => ⟨rfl, holds_head (rxFull q)⟩, nofun, nofun⟩, fun _ => ⟨?_, ?_, ?_⟩, fun _ => rfl⟩
      · exact Bool.eq_true_of_not_eq_false pool
      · exact fun q => initRings_ok.mp txOk q (List.mem_finRange q)
      · exact fun q => initRings_ok.mp rxOk q (List.mem_finRange q)

theorem RingCtrl.Sound.setTxq (sound : ctrl.Sound) (q : Qno) {refs : QueueRefs}
    (live : ctrl.TxqLive q → refs.trRing = some q ∧ (ctrl.txRing q).Holds refs.trDone ∧
      (ctrl.txRing q).Holds refs.txNext) :
    RingCtrl.Sound { ctrl with txq := Function.update ctrl.txq q refs } := by
  have rxKept : ctrl.isLateInit = true → ∀ other,
      RingCtrl.RxqLive { ctrl with txq := Function.update ctrl.txq q refs } other :=
    fun late other => ⟨(sound.rxLive late other).trRing, (sound.rxLive late other).trDone⟩
  refine ⟨fun late other => ?_, rxKept, sound.txFreed, sound.rxFreed⟩
  have before := sound.txLive late other
  by_cases here : other = q
  · subst here
    obtain ⟨ring, done, next⟩ := live before
    refine ⟨?_, ?_, ?_⟩ <;> dsimp only <;> rw [Function.update_self] <;> assumption
  · refine ⟨?_, ?_, ?_⟩ <;> dsimp only <;> rw [Function.update_of_ne here]
    · exact before.trRing
    · exact before.trDone
    · exact before.txNext

theorem RingCtrl.Sound.setRxq (sound : ctrl.Sound) (q : Qno) {refs : QueueRefs}
    (live : ctrl.RxqLive q → refs.trRing = some q ∧ (ctrl.rxRing q).Holds refs.trDone) :
    RingCtrl.Sound { ctrl with rxq := Function.update ctrl.rxq q refs } := by
  have txKept : ctrl.isLateInit = true → ∀ other,
      RingCtrl.TxqLive { ctrl with rxq := Function.update ctrl.rxq q refs } other := by
    intro late other
    have live := sound.txLive late other
    exact ⟨live.trRing, live.trDone, live.txNext⟩
  refine ⟨txKept, fun late other => ?_, sound.txFreed, sound.rxFreed⟩
  have before := sound.rxLive late other
  by_cases here : other = q
  · subst here
    obtain ⟨ring, done⟩ := live before
    refine ⟨?_, ?_⟩ <;> dsimp only <;> rw [Function.update_self] <;> assumption
  · refine ⟨?_, ?_⟩ <;> dsimp only <;> rw [Function.update_of_ne here]
    · exact before.trRing
    · exact before.trDone

theorem RequestRing.Holds.head {ring : RequestRing} {req : Option Nat} (holds : ring.Holds req) :
    ring.Holds ring.gpdRing.head? := by
  obtain ⟨count, positive⟩ := Nat.exists_eq_succ_of_ne_zero (mt List.length_eq_zero_iff.mp holds.not_empty)
  exact holds_head positive

theorem clearTxq_sound (sound : ctrl.Sound) (q : Qno) :
    (cldmaClearTxq ctrl q).Sound ∧ (cldmaClearTxq ctrl q).isLateInit = ctrl.isLateInit := by
  unfold cldmaClearTxq
  split
  · exact ⟨sound, rfl⟩
  · rename_i ring refers
    refine ⟨sound.setTxq q fun live => ?_, rfl⟩
    have own : ring = q := Option.some.inj (refers.symm.trans live.trRing)
    subst own
    exact ⟨refers, live.trDone.head, live.trDone.head⟩

theorem clearRxq_sound (sound : ctrl.Sound) (q : Qno) :
    (cldmaClearRxq ctrl q).Sound ∧ (cldmaClearRxq ctrl q).isLateInit = ctrl.isLateInit := by
  unfold cldmaClearRxq
  split
  · exact ⟨sound, rfl⟩
  · rename_i ring refers
    refine ⟨sound.setRxq q fun live => ?_, rfl⟩
    have own : ring = q := Option.some.inj (refers.symm.trans live.trRing)
    subst own
    exact ⟨refers, live.trDone.head⟩

theorem moveCursor_sound (sound : ctrl.Sound) (cursor : Cursor) (q : Qno) :
    (ctrl.moveCursor cursor q).Sound ∧
      (ctrl.moveCursor cursor q).isLateInit = ctrl.isLateInit := by
  cases cursor with
  | txNext =>
    exact ⟨sound.setTxq q fun live => ⟨live.trRing, live.trDone, holds_stepForward live.txNext⟩, rfl⟩
  | txDone =>
    exact ⟨sound.setTxq q fun live => ⟨live.trRing, holds_stepForward live.trDone, live.txNext⟩, rfl⟩
  | rxDone =>
    exact ⟨sound.setRxq q fun live => ⟨live.trRing, holds_stepForward live.trDone⟩, rfl⟩
  | rxRefill => exact ⟨sound.setRxq q fun live => ⟨live.trRing, live.trDone⟩, rfl⟩

end Rings

end T7xxModel.Cldma
