import Mathlib.Algebra.BigOperators.Group.List.Basic
import Mathlib.Algebra.Order.Group.Multiset
import T7xx.Cldma.RingCalls

namespace T7xxModel.Cldma

/-- What `t7xx_cldma_late_init` allocates; the parts of a request go by its address. -/
inductive LateObject where
  | pool
  | request (r : Nat)
  | gpd (r : Nat)
  | skb (r : Nat)
  | mapping (r : Nat)
deriving DecidableEq, Repr

/-- The allocations of one call that were not freed since. -/
abbrev LateLive := Multiset LateObject

/-- What becomes of the allocations for a request: `req` is the address that `kzalloc` returns, `mapped`
    whether `dma_map_single` maps the buffer, to an address that is not 0. -/
structure RequestAnswers where
  req : Option Nat
  gpd : Bool
  skb : Bool
  mapped : Bool
deriving DecidableEq, Repr

structure LateAnswers where
  pool : Bool
  tx : Qno → Nat → RequestAnswers
  rx : Qno → Nat → RequestAnswers

section Alloc

def allocTxRequest (answers : RequestAnswers) (live : LateLive) : LateLive × Option Nat :=
  match answers.req with
  | none => (live, none)
  | some r =>
    let live := live + {.request r}
    if answers.gpd = false then (live - {.request r}, none) else (live + {.gpd r}, some r)

def allocAndMapSkb (answers : RequestAnswers) (r : Nat) (live : LateLive) : LateLive × Int :=
  if answers.skb = false then (live, - ENOMEM)
  else
    let live := live + {.skb r}
    if answers.mapped = false then (live - {.skb r}, - ENOMEM) else (live + {.mapping r}, 0)

def allocRxRequest (answers : RequestAnswers) (live : LateLive) : LateLive × Option Nat :=
  match answers.req with
  | none => (live, none)
  | some r =>
    let live := live + {.request r}
    if answers.gpd = false then (live - {.request r}, none)
    else
      let live := live + {.gpd r}
      let (live, val) := allocAndMapSkb answers r live
      if val ≠ 0 then (live - {.gpd r} - {.request r}, none) else (live, some r)

def allocRequest : Dir → RequestAnswers → LateLive → LateLive × Option Nat
  | .tx => allocTxRequest
  | .rx => allocRxRequest

/-- A round of `t7xx_cldma_ring_free` on a request of a new ring; a TX request has no buffer yet. -/
def requestFree : Dir → LateLive → Nat → LateLive
  | .tx, live, r => live - {.gpd r} - {.request r}
  | .rx, live, r => live - {.mapping r} - {.skb r} - {.gpd r} - {.request r}

def ringFree (dir : Dir) (gpdRing : List Nat) (live : LateLive) : LateLive :=
  gpdRing.foldl (requestFree dir) live

def fillRing (dir : Dir) (answers : Nat → RequestAnswers) : Nat → List Nat → LateLive → LateLive × List Nat × Bool
  | 0, gpdRing, live => (live, gpdRing, true)
  | left + 1, gpdRing, live =>
    match allocRequest dir (answers gpdRing.length) live with
    | (live, none) => (live, gpdRing, false)
    | (live, some req) => fillRing dir answers left (gpdRing ++ [req]) live

def ringInitLive (dir : Dir) (length : Nat) (answers : Nat → RequestAnswers) (live : LateLive) :
    LateLive × RequestRing × Bool :=
  let (live, gpdRing, ok) := fillRing dir answers length [] live
  if ok then (live, ⟨gpdRing, length⟩, true) else (ringFree dir gpdRing live, ⟨[], length⟩, false)

def txRingInit := ringInitLive .tx MAX_TX_BUDGET

def rxRingInit := ringInitLive .rx MAX_RX_BUDGET

def initRingsLive (init : (Nat → RequestAnswers) → LateLive → LateLive × RequestRing × Bool)
    (answers : Qno → Nat → RequestAnswers) :
    List Qno → List Qno → (Qno → RequestRing) → LateLive → LateLive × (Qno → RequestRing) × List Qno × Bool
  | [], made, rings, live => (live, rings, made, true)
  | q :: rest, made, rings, live =>
    let (live, ring, ok) := init (answers q) live
    let rings := Function.update rings q ring
    if ok then initRingsLive init answers rest (made ++ [q]) rings live else (live, rings, made, false)

/-- The loops behind `err_free_rx_ring` and `err_free_tx_ring`, which count down. -/
def freeRingsLive (dir : Dir) (made : List Qno) (rings : Qno → RequestRing) (live : LateLive) : LateLive :=
  made.reverse.foldl (fun live q => ringFree dir (rings q).gpdRing live) live

/-- `t7xx_cldma_late_init` with what is left of its allocations. -/
def lateInitLive (answers : LateAnswers) (ctrl : RingCtrl) : LateLive × RingCtrl × Int :=
  if ctrl.isLateInit then (0, ctrl, -EALREADY)
  else if answers.pool = false then (0, { ctrl with gpdDmapool := false }, - ENOMEM)
  else
    let ctrl := { ctrl with gpdDmapool := true }
    let (live, txRing, txMade, ok) :=
      initRingsLive txRingInit answers.tx (List.finRange _) [] ctrl.txRing {.pool}
    if ok = false then
      (freeRingsLive .tx txMade txRing live, { ctrl with txRing := freeRings txMade txRing }, - ENOMEM)
    else
      let (live, rxRing, rxMade, ok) :=
        initRingsLive rxRingInit answers.rx (List.finRange _) [] ctrl.rxRing live
      if ok = false then
        let live := freeRingsLive .rx rxMade rxRing live
        (freeRingsLive .tx txMade txRing live,
          { ctrl with txRing := freeRings txMade txRing, rxRing := freeRings rxMade rxRing }, - ENOMEM)
      else
        let ctrl := { ctrl with txRing, rxRing }
        (live, { ctrl with txq := ctrl.txqInit, rxq := ctrl.rxqInit, isLateInit := true }, 0)

/-- `t7xx_cldma_adjust_config`, in between, leaves the requests and the pointers to them alone. -/
def cldmaSwitchCfg (answers : LateAnswers) (ctrl : RingCtrl) : LateLive × RingCtrl :=
  let (live, ctrl, _) := lateInitLive answers (cldmaLateRelease ctrl)
  (live, ctrl)

end Alloc

section Parts

def requestParts : Dir → Nat → LateLive
  | .tx, r => {.request r} + {.gpd r}
  | .rx, r => {.request r} + {.gpd r} + {.skb r} + {.mapping r}

def ringLive (dir : Dir) (gpdRing : List Nat) : LateLive := (gpdRing.map (requestParts dir)).sum

def ringsLive (dir : Dir) (made : List Qno) (rings : Qno → RequestRing) : LateLive :=
  (made.map fun q => ringLive dir (rings q).gpdRing).sum

def RequestAnswers.address (answers : RequestAnswers) : Dir → Option Nat
  | .tx => if answers.gpd then answers.req else none
  | .rx => if answers.gpd && answers.skb && answers.mapped then answers.req else none

def LateAnswers.allocs (answers : LateAnswers) : LateAllocs where
  pool := answers.pool
  tx := fun q i => (answers.tx q i).address .tx
  rx := fun q i => (answers.rx q i).address .rx

/-- An allocation of a request that fails half-way frees its own parts. -/
theorem allocRequest_eq (dir : Dir) (answers : RequestAnswers) (live : LateLive) :
    allocRequest dir answers live =
      match answers.address dir with
      | none => (live, none)
      | some r => (live + requestParts dir r, some r) := by
  obtain ⟨req, gpd, skb, mapped⟩ := answers
  cases dir with
  | tx =>
    cases req with
    | none => cases gpd <;> rfl
    | some r =>
      cases gpd with
      | false => exact congrArg (·, none) (add_tsub_cancel_right _ _)
      | true => exact congrArg (·, some r) (add_assoc _ _ _)
  | rx =>
    cases req with
    | none => cases gpd <;> cases skb <;> cases mapped <;> rfl
    | some r =>
      cases gpd with
      | false => exact congrArg (·, none) (add_tsub_cancel_right _ _)
      | true =>
        cases skb with
        | false =>
          show (live + {.request r} + {.gpd r} - {.gpd r} - {.request r}, none) = (live, none)
          rw [add_tsub_cancel_right, add_tsub_cancel_right]
        | true =>
          cases mapped with
          | false =>
            show (live + {.request r} + {.gpd r} + {.skb r} - {.skb r} - {.gpd r} - {.request r}, none) = (live, none)
            rw [add_tsub_cancel_right, add_tsub_cancel_right, add_tsub_cancel_right]
          | true =>
            show (live + {.request r} + {.gpd r} + {.skb r} + {.mapping r}, some r) =
              (live + ({.request r} + {.gpd r} + {.skb r} + {.mapping r}), some r)
            rw [add_assoc, add_assoc, add_assoc, add_assoc, add_assoc]

theorem requestFree_eq (dir : Dir) (live : LateLive) (r : Nat) : requestFree dir live r = live - requestParts dir r := by
  cases dir with
  | tx =>
    show live - {.gpd r} - {.request r} = live - ({.request r} + {.gpd r})
    rw [tsub_tsub, add_comm]
  | rx =>
    show live - {.mapping r} - {.skb r} - {.gpd r} - {.request r} =
      live - ({.request r} + {.gpd r} + {.skb r} + {.mapping r})
    rw [tsub_tsub, tsub_tsub, tsub_tsub]
    congr 1
    ac_rfl

end Parts

section Rings

variable {dir : Dir} {answers : Nat → RequestAnswers} {live base : LateLive}

theorem ringLive_append (gpdRing : List Nat) (r : Nat) :
    ringLive dir (gpdRing ++ [r]) = ringLive dir gpdRing + requestParts dir r := by
  unfold ringLive
  rw [List.map_append, List.sum_append]
  exact congrArg _ (List.sum_singleton)

theorem ringFree_eq (gpdRing : List Nat) : ringFree dir gpdRing (base + ringLive dir gpdRing) = base := by
  have frees (gpdRing : List Nat) (live : LateLive) : ringFree dir gpdRing live = live - ringLive dir gpdRing := by
    unfold ringFree ringLive
    induction gpdRing generalizing live with
    | nil => exact (tsub_zero _).symm
    | cons r rest ih =>
      rw [List.foldl_cons, ih, requestFree_eq, tsub_tsub, List.map_cons, List.sum_cons]
  rw [frees, add_tsub_cancel_right]

/-- What `fillRing` has put in a ring is all that it has left allocated. -/
theorem fillRing_eq (left : Nat) (gpdRing : List Nat) :
    ∃ filled ok, fillRing dir answers left gpdRing (base + ringLive dir gpdRing) =
        (base + ringLive dir filled, filled, ok) ∧
      allocRequests (fun i => (answers i).address dir) left gpdRing = if ok then some filled else none := by
  induction left generalizing gpdRing with
  | zero => exact ⟨gpdRing, true, rfl, rfl⟩
  | succ left ih =>
    unfold fillRing allocRequests
    rw [allocRequest_eq]
    cases (answers gpdRing.length).address dir with
    | none => exact ⟨gpdRing, false, rfl, rfl⟩
    | some r =>
      dsimp only
      rw [add_assoc, ← ringLive_append]
      exact ih (gpdRing ++ [r])

theorem ringInitLive_eq (length : Nat) :
    ringInitLive dir length answers live =
      (live + ringLive dir (ringInit length fun i => (answers i).address dir).1.gpdRing,
        ringInit length fun i => (answers i).address dir) := by
  obtain ⟨filled, ok, fills, coarse⟩ := @fillRing_eq dir answers live length []
  have nothing : live + ringLive dir [] = live := add_zero live
  rw [nothing] at fills
  unfold ringInitLive ringInit
  rw [fills, coarse]
  cases ok with
  | true => rfl
  | false => exact congrArg (·, _) ((ringFree_eq filled).trans nothing.symm)

theorem ringsLive_update {made : List Qno} {rings : Qno → RequestRing} {q : Qno} (new : q ∉ made)
    (ring : RequestRing) : ringsLive dir made (Function.update rings q ring) = ringsLive dir made rings := by
  unfold ringsLive
  refine congrArg List.sum (List.map_congr_left fun other member => ?_)
  have apart : other ≠ q := by
    rintro rfl
    exact new member
  rw [Function.update_of_ne apart]

theorem ringsLive_append (made : List Qno) (rings : Qno → RequestRing) (q : Qno) :
    ringsLive dir (made ++ [q]) rings = ringsLive dir made rings + ringLive dir (rings q).gpdRing := by
  unfold ringsLive
  rw [List.map_append, List.sum_append]
  exact congrArg _ List.sum_singleton

theorem initRingsLive_eq {length : Nat} {answers : Qno → Nat → RequestAnswers} {qs made : List Qno}
    {rings : Qno → RequestRing} (distinct : (made ++ qs).Nodup) :
    let after := initRings length (fun q i => (answers q i).address dir) qs made rings
    initRingsLive (ringInitLive dir length) answers qs made rings (base + ringsLive dir made rings) =
      (base + ringsLive dir after.2.1 after.1, after) := by
  induction qs generalizing made rings with
  | nil => rfl
  | cons q rest ih =>
    have new : q ∉ made := by
      intro member
      exact (List.disjoint_of_nodup_append distinct) member List.mem_cons_self
    have distinct : ((made ++ [q]) ++ rest).Nodup := by
      rwa [List.append_assoc]
    unfold initRingsLive initRings
    rw [ringInitLive_eq]
    generalize call : ringInit length (fun i => (answers q i).address dir) = result
    obtain ⟨ring, ok⟩ := result
    dsimp only
    cases ok with
    | true =>
      have next := @ih (made ++ [q]) (Function.update rings q ring) distinct
      rw [ringsLive_append, ringsLive_update new, Function.update_self, ← add_assoc] at next
      exact next
    | false =>
      have empty : ring.gpdRing = [] := by
        have failed : (ringInit length fun i => (answers q i).address dir).2 = false := by rw [call]
        have none := ringInit_failed failed
        rwa [call] at none
      rw [empty]
      show (_ + 0, _) = _
      rw [add_zero, ← ringsLive_update new ring]
      rfl

theorem freeRingsLive_eq (made : List Qno) (rings : Qno → RequestRing) :
    freeRingsLive dir made rings (base + ringsLive dir made rings) = base := by
  induction made using List.reverseRecOn with
  | nil => exact add_zero base
  | append_singleton made q ih =>
    unfold freeRingsLive at ih ⊢
    rw [List.reverse_append, ringsLive_append, ← add_assoc]
    show (made.reverse).foldl _ (ringFree dir (rings q).gpdRing _) = _
    rw [ringFree_eq]
    exact ih

end Rings

section Switch

variable {ctrl : RingCtrl} {answers : LateAnswers}

/-- All rings are initialised, and every pointer of a queue is to a request of its ring. -/
def RingCtrl.RingsReady (ctrl : RingCtrl) : Prop :=
  ∀ q, (ctrl.txRing q).gpdRing.length = MAX_TX_BUDGET ∧ (ctrl.rxRing q).gpdRing.length = MAX_RX_BUDGET ∧
    ctrl.TxqLive q ∧ ctrl.RxqLive q ∧ (ctrl.rxRing q).Holds (ctrl.rxq q).rxRefill

def RequestRing.Inside (ring : RequestRing) (req : Option Nat) : Prop := ∀ r ∈ req, r ∈ ring.gpdRing

def RingCtrl.NoneDangles (ctrl : RingCtrl) : Prop :=
  ∀ q, (ctrl.txRing q).Inside (ctrl.txq q).trDone ∧ (ctrl.txRing q).Inside (ctrl.txq q).txNext ∧
    (ctrl.rxRing q).Inside (ctrl.rxq q).trDone ∧ (ctrl.rxRing q).Inside (ctrl.rxq q).rxRefill

def RingCtrl.live (ctrl : RingCtrl) : LateLive :=
  ringsLive .tx (List.finRange _) ctrl.txRing + ringsLive .rx (List.finRange _) ctrl.rxRing

theorem initAllRings_eq (dir : Dir) (length : Nat) (answers : Qno → Nat → RequestAnswers)
    (rings : Qno → RequestRing) (base : LateLive) :
    let after := initRings length (fun q i => (answers q i).address dir) (List.finRange _) [] rings
    initRingsLive (ringInitLive dir length) answers (List.finRange _) [] rings base =
        (base + ringsLive dir after.2.1 after.1, after) ∧ (after.2.2 = true → after.2.1 = List.finRange _) := by
  have nothing : base + ringsLive dir [] rings = base := add_zero base
  have loop := @initRingsLive_eq dir base length answers (List.finRange _) [] rings (List.nodup_finRange CLDMA_TXQ_NUM)
  rw [nothing] at loop
  exact ⟨loop, initRings_made⟩

/-- The pool is never given back, and the rings give back all that belongs to them. -/
theorem lateInitLive_eq (late : ctrl.isLateInit = false) :
    let after := cldmaLateInit answers.allocs ctrl
    lateInitLive answers ctrl =
      (if answers.pool = false then 0 else if after.2 = 0 then {.pool} + after.1.live else {.pool}, after) := by
  have txLoop := initAllRings_eq .tx MAX_TX_BUDGET answers.tx ctrl.txRing {.pool}
  have rxLoop (base : LateLive) := initAllRings_eq .rx MAX_RX_BUDGET answers.rx ctrl.rxRing base
  have error : - ENOMEM ≠ 0 := by decide
  have txSame : (fun q i => (answers.tx q i).address .tx) = answers.allocs.tx := rfl
  have rxSame : (fun q i => (answers.rx q i).address .rx) = answers.allocs.rx := rfl
  have pools : answers.allocs.pool = answers.pool := rfl
  unfold lateInitLive cldmaLateInit txRingInit rxRingInit
  rw [txSame] at txLoop
  rw [rxSame] at rxLoop
  simp only [late, pools, Bool.false_eq_true, if_false]
  cases answers.pool with
  | false => rfl
  | true =>
    simp only [Bool.true_eq_false, if_false]
    generalize initRings MAX_TX_BUDGET answers.allocs.tx (List.finRange CLDMA_TXQ_NUM) [] ctrl.txRing = tx at txLoop
    obtain ⟨txRing, txMade, txOk⟩ := tx
    obtain ⟨txLoop, txAll⟩ := txLoop
    rw [txLoop]
    cases txOk with
    | false =>
      simp only [if_true, if_neg error]
      rw [freeRingsLive_eq]
    | true =>
      simp only [Bool.true_eq_false, if_false]
      have rxLoop := rxLoop ({.pool} + ringsLive .tx txMade txRing)
      generalize initRings MAX_RX_BUDGET answers.allocs.rx (List.finRange CLDMA_TXQ_NUM) [] ctrl.rxRing = rx at rxLoop
      obtain ⟨rxRing, rxMade, rxOk⟩ := rx
      obtain ⟨rxLoop, rxAll⟩ := rxLoop
      rw [rxLoop]
      cases rxOk with
      | false =>
        simp only [if_true, if_neg error]
        rw [freeRingsLive_eq, freeRingsLive_eq]
      | true =>
        simp only [Bool.true_eq_false, if_false, if_true]
        have txAll : txMade = List.finRange _ := txAll rfl
        have rxAll : rxMade = List.finRange _ := rxAll rfl
        rw [txAll, rxAll, add_assoc]
        rfl

theorem lateInit_ready (late : ctrl.isLateInit = false) {allocs : LateAllocs} (all : allocs.Suffice) :
    (cldmaLateInit allocs ctrl).1.RingsReady := by
  have txOk : (initRings MAX_TX_BUDGET allocs.tx (List.finRange _) [] ctrl.txRing).2.2 = true :=
    initRings_ok.mpr fun q _ => all.tx q
  have rxOk : (initRings MAX_RX_BUDGET allocs.rx (List.finRange _) [] ctrl.rxRing).2.2 = true :=
    initRings_ok.mpr fun q _ => all.rx q
  have txFull (q : Qno) := (initRings_full (List.nodup_finRange _) txOk).1 q (List.mem_finRange q)
  have rxFull (q : Qno) := (initRings_full (List.nodup_finRange _) rxOk).1 q (List.mem_finRange q)
  unfold cldmaLateInit
  simp only [late, all.pool, txOk, rxOk, Bool.false_eq_true, Bool.true_eq_false, if_false]
  intro q
  exact ⟨txFull q, rxFull q, ⟨rfl, holds_head (txFull q), holds_head (txFull q)⟩, ⟨rfl, holds_head (rxFull q)⟩,
    holds_head (rxFull q)⟩

theorem lateInit_fails (late : ctrl.isLateInit = false) {allocs : LateAllocs} (short : ¬ allocs.Suffice) :
    (cldmaLateInit allocs ctrl).2 ≠ 0 ∧ (cldmaLateInit allocs ctrl).1.txq = ctrl.txq := by
  have error : - ENOMEM ≠ 0 := by decide
  unfold cldmaLateInit
  simp only [late, Bool.false_eq_true, if_false]
  split
  · exact ⟨error, rfl⟩
  rename_i pool
  split
  · exact ⟨error, rfl⟩
  rename_i txOk
  split
  · exact ⟨error, rfl⟩
  rename_i rxOk
  have txAll := initRings_ok.mp (Bool.eq_true_of_not_eq_false txOk)
  have rxAll := initRings_ok.mp (Bool.eq_true_of_not_eq_false rxOk)
  refine absurd ⟨Bool.eq_true_of_not_eq_false pool, fun q => ?_, fun q => ?_⟩ short
  · exact txAll q (List.mem_finRange q)
  · exact rxAll q (List.mem_finRange q)

/-- A controller that its functions have led to, from `t7xx_cldma_alloc` on. -/
def ringsAfter (ops : List RingOp) : RingCtrl := ops.foldl RingOp.apply .allocated

theorem ringsAfter_sound (ops : List RingOp) : (ringsAfter ops).Sound := by
  have kept (ops : List RingOp) (ctrl : RingCtrl) (history : RingHistory) (sound : HistorySound ctrl history) :
      (ops.foldl RingOp.apply ctrl).Sound := by
    induction ops generalizing ctrl history with
    | nil => exact sound.sound
    | cons op rest ih => exact ih _ _ (sound.apply op)
  exact kept ops .allocated .allocated ⟨allocated_sound, nofun, nofun⟩

/-- After a failure the queues still point to the requests that were freed before. -/
theorem lateRelease_dangles (sound : ctrl.Sound) (late : ctrl.isLateInit = true) {allocs : LateAllocs}
    (short : ¬ allocs.Suffice) :
    ¬ (cldmaLateInit allocs (cldmaLateRelease ctrl)).1.RingsReady ∧
      ¬ (cldmaLateInit allocs (cldmaLateRelease ctrl)).1.NoneDangles := by
  obtain ⟨released, unset⟩ := lateRelease_sound sound
  obtain ⟨after, done⟩ := lateInit_sound allocs released
  have failed : ¬ (cldmaLateInit allocs (cldmaLateRelease ctrl)).1.isLateInit = true := by
    rw [done, unset]
    simp [short]
  constructor
  · intro ready
    exact failed ((after.txqLive_iff firstQno).mp (ready firstQno).2.2.1)
  · intro inside
    have kept : (cldmaLateRelease ctrl).txq = ctrl.txq := by
      unfold cldmaLateRelease
      split <;> rfl
    obtain ⟨r, present, -⟩ := (sound.txLive late firstQno).trDone
    have held := (inside firstQno).1 r (by rwa [(lateInit_fails unset short).2, kept])
    rw [after.txFreed (Bool.eq_false_iff.mpr failed)] at held
    exact absurd held List.not_mem_nil

/-- A switch of the configuration ends with new rings, or with nothing at all, exactly if none of its
    allocations fails. -/
theorem switch_cfg_settles_iff (ops : List RingOp) (answers : LateAnswers)
    (late : (ringsAfter ops).isLateInit = true) :
    let (live, ctrl) := cldmaSwitchCfg answers (ringsAfter ops)
    (ctrl.RingsReady ∨ live = 0 ∧ ctrl.NoneDangles) ↔ answers.allocs.Suffice := by
  have sound := ringsAfter_sound ops
  have unset := (lateRelease_sound sound).2
  unfold cldmaSwitchCfg
  rw [lateInitLive_eq unset]
  dsimp only
  refine ⟨fun settled => ?_, fun all => .inl (lateInit_ready unset all)⟩
  by_contra short
  obtain ⟨ready, dangles⟩ := lateRelease_dangles sound late short
  rcases settled with new | ⟨-, none⟩
  · exact ready new
  · exact dangles none

theorem switch_cfg_settles_again :
    (ringsAfter [.init allAllocated]).isLateInit = true ∧
      let answers : LateAnswers := ⟨true, fun _ i => ⟨some i, true, true, true⟩, fun _ i => ⟨some i, true, true, true⟩⟩
      let (live, ctrl) := cldmaSwitchCfg answers (ringsAfter [.init allAllocated])
      (ctrl.RingsReady ∨ live = 0 ∧ ctrl.NoneDangles) ↔ answers.allocs.Suffice :=
  have late : (ringsAfter [.init allAllocated]).isLateInit = true := rfl
  ⟨late, switch_cfg_settles_iff [.init allAllocated] _ late⟩

/-- The pool is created, and then there is no memory for the first request. -/
def noTxRequest : LateAnswers := ⟨true, fun _ _ => ⟨none, false, false, false⟩, fun _ _ => ⟨none, false, false, false⟩⟩

theorem failed_switch_keeps_pointers :
    let (live, ctrl) := cldmaSwitchCfg noTxRequest (ringsAfter [.init allAllocated])
    (ringsAfter [.init allAllocated]).isLateInit = true ∧ live = {.pool} ∧
      (ctrl.txq firstQno).trDone = some 0 ∧ (ctrl.txRing firstQno).gpdRing = [] ∧
      ¬ (ctrl.RingsReady ∨ live = 0 ∧ ctrl.NoneDangles) := by
  have pool : (cldmaSwitchCfg noTxRequest (ringsAfter [.init allAllocated])).1 = {.pool} := rfl
  have empty : ((cldmaSwitchCfg noTxRequest (ringsAfter [.init allAllocated])).2.txRing firstQno).gpdRing = [] := rfl
  refine ⟨rfl, pool, rfl, empty, ?_⟩
  rintro (ready | ⟨gone, -⟩)
  · exact absurd ((congrArg List.length empty).symm.trans (ready firstQno).1) (by decide)
  · exact absurd (pool.symm.trans gone) (by decide)

/-- What a failed switch leaves allocated is the pool, if it got that. -/
theorem failed_switch_live (ops : List RingOp) {answers : LateAnswers} (short : ¬ answers.allocs.Suffice) :
    (cldmaSwitchCfg answers (ringsAfter ops)).1 = if answers.pool = false then 0 else {.pool} := by
  have unset := (lateRelease_sound (ringsAfter_sound ops)).2
  unfold cldmaSwitchCfg
  rw [lateInitLive_eq unset]
  dsimp only
  rw [if_neg (lateInit_fails unset short).1]

end Switch

end T7xxModel.Cldma
