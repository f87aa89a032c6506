import T7xx.Dpmaif.DoneWorks
import T7xx.Kernel.Unwind

namespace T7xxModel.Dpmaif

open Kernel

/-- What `t7xx_dpmaif_rxtx_sw_allocs` creates and has to release by itself. -/
inductive SwResource where
  | batBase (type : BatType)
  | batBitmap (type : BatType)
  | pitBase (q : Nat)
  | drbBase (q : Nat)
  | txWorker (q : Nat)
  | txThread
  | batReleaseWq
deriving DecidableEq, Repr

/-- `ptr` says which of the pointers in `struct dpmaif_ctrl` are not NULL. -/
structure SwCtrl where
  ptr : SwResource → Bool
  refcnt : BatType → Int
  created : List SwResource
  released : List SwResource

/-- Which allocations succeed, in the order of the calls; `txThread` is what `kthread_run` comes to. -/
structure SwAnswers where
  batBase : BatType → Bool
  batSkb : BatType → Bool
  batBitmap : BatType → Bool
  pitBase : Nat → Bool
  drbBase : Nat → Bool
  drbSkbBase : Nat → Bool
  txWorker : Nat → Bool
  txThread : Int
  batReleaseWq : Bool

namespace SwCtrl

def alloc (r : SwResource) (ok : Bool) (s : SwCtrl) : SwCtrl :=
  { s with ptr := Function.update s.ptr r ok, created := if ok then s.created ++ [r] else s.created }

/-- A pointer that is not NULL is given back, and keeps its value. -/
def release (r : SwResource) (s : SwCtrl) : SwCtrl :=
  if s.ptr r then { s with released := s.released ++ [r] } else s

def batAlloc (answers : SwAnswers) (type : BatType) (s : SwCtrl) : SwCtrl × Int :=
  let s := s.alloc (.batBase type) (answers.batBase type)
  if answers.batBase type = false then (s, - ENOMEM)
  else if answers.batSkb type = false then (s.release (.batBase type), - ENOMEM)
  else
    let s := s.alloc (.batBitmap type) (answers.batBitmap type)
    if answers.batBitmap type = false then (s.release (.batBase type), - ENOMEM)
    else ({ s with refcnt := Function.update s.refcnt type 0 }, 0)

/-- `t7xx_dpmaif_bat_free`; no entry has a buffer yet that would be unmapped. -/
def batFree (type : BatType) (s : SwCtrl) : SwCtrl :=
  let s := { s with refcnt := Function.update s.refcnt type (s.refcnt type - 1) }
  if s.refcnt type ≠ 0 then s
  else
    let s := s.release (.batBitmap type)
    release (.batBase type) { s with ptr := Function.update s.ptr (.batBitmap type) false }

def rxqInit (answers : SwAnswers) (q : Nat) (s : SwCtrl) : SwCtrl × Int :=
  let s := s.alloc (.pitBase q) (answers.pitBase q)
  if answers.pitBase q = false then (s, - ENOMEM)
  else ({ s with refcnt := fun type => s.refcnt type + 1 }, 0)

/-- `t7xx_dpmaif_rxq_free` of a queue whose `dpmaif_ctrl` the loop over `t7xx_dpmaif_rxq_init` has set. -/
def rxqFree (q : Nat) (s : SwCtrl) : SwCtrl :=
  ((s.batFree .normal).batFree .frag).release (.pitBase q)

def txqInit (answers : SwAnswers) (q : Nat) (s : SwCtrl) : SwCtrl × Int :=
  let s := s.alloc (.drbBase q) (answers.drbBase q)
  if answers.drbBase q = false then (s, - ENOMEM)
  else if answers.drbSkbBase q = false then (s.release (.drbBase q), - ENOMEM)
  else
    let s := s.alloc (.txWorker q) (answers.txWorker q)
    if answers.txWorker q = false then (s, - ENOMEM) else (s, 0)

def txqFree (q : Nat) (s : SwCtrl) : SwCtrl := (s.release (.txWorker q)).release (.drbBase q)

/-- `t7xx_dpmaif_tx_thread_init`, which stores an error pointer too. -/
def txThreadInit (answers : SwAnswers) (s : SwCtrl) : SwCtrl × Int :=
  ({ s with
    ptr := Function.update s.ptr .txThread true
    created := if answers.txThread = 0 then s.created ++ [SwResource.txThread] else s.created }, answers.txThread)

def txThreadRel (s : SwCtrl) : SwCtrl := s.release .txThread

def batRelWqAlloc (answers : SwAnswers) (s : SwCtrl) : SwCtrl × Int :=
  (s.alloc .batReleaseWq answers.batReleaseWq, if answers.batReleaseWq then 0 else - ENOMEM)

/-- The label `err_free_rxq` and what follows it. -/
def errFreeRxq (rxIdx : Nat) (s : SwCtrl) : SwCtrl :=
  ((freeLoop rxqFree rxIdx s).batFree .frag).batFree .normal

def errFreeTxq (txIdx rxIdx : Nat) (s : SwCtrl) : SwCtrl :=
  errFreeRxq rxIdx (freeLoop txqFree txIdx s)

/-- `t7xx_dpmaif_rxtx_sw_allocs` from `t7xx_dpmaif_tx_thread_init` on. -/
def threadTail (answers : SwAnswers) (rxIdx txIdx : Nat) (s : SwCtrl) : SwCtrl × Int :=
  let (s, ret) := s.txThreadInit answers
  if ret ≠ 0 then (s.errFreeTxq txIdx rxIdx, ret)
  else
    let (s, ret) := s.batRelWqAlloc answers
    if ret ≠ 0 then (s.txThreadRel.errFreeTxq txIdx rxIdx, ret) else (s, 0)

/-- `t7xx_dpmaif_rxtx_sw_allocs` from the loop over the TX queues on. -/
def txSwAllocs (answers : SwAnswers) (rxIdx : Nat) (s : SwCtrl) : SwCtrl × Int :=
  let (s, ret, txIdx) := initLoop (txqInit answers) DPMAIF_TXQ_NUM 0 s
  if ret ≠ 0 then (s.errFreeTxq txIdx rxIdx, ret) else s.threadTail answers rxIdx txIdx

def rxtxSwAllocs (answers : SwAnswers) (s : SwCtrl) : SwCtrl × Int :=
  let (s, ret) := s.batAlloc answers .normal
  if ret ≠ 0 then (s, ret)
  else
    let (s, ret) := s.batAlloc answers .frag
    if ret ≠ 0 then (s.batFree .normal, ret)
    else
      let (s, ret, rxIdx) := initLoop (rxqInit answers) DPMAIF_RXQ_NUM.toNat 0 s
      if ret ≠ 0 then (s.errFreeRxq rxIdx, ret) else txSwAllocs answers rxIdx s

def zeroed : SwCtrl where
  ptr := fun _ => false
  refcnt := fun _ => 0
  created := []
  released := []

end SwCtrl

/-- All that was created has been released, each resource once. -/
def ReleasedOnce (s : SwCtrl) : Prop := ∀ r ∈ s.created, s.released.count r = 1

instance : DecidablePred ReleasedOnce := fun s =>
  inferInstanceAs (Decidable (∀ r ∈ s.created, s.released.count r = 1))

namespace SwAnswers

variable (answers : SwAnswers)

def Bat (type : BatType) : Prop :=
  answers.batBase type = true ∧ answers.batSkb type = true ∧ answers.batBitmap type = true

def Txq (q : Nat) : Prop :=
  answers.drbBase q = true ∧ answers.drbSkbBase q = true ∧ answers.txWorker q = true

/-- The first allocation that fails is one whose cleanup misses something: it belongs to the frag BAT
    table, is the PIT of the first RX queue, or is the workqueue of a TX queue. -/
def CleanupMisses : Prop :=
  answers.Bat .normal ∧
    (¬ answers.Bat .frag ∨ answers.pitBase 0 = false ∨
      ((∀ q < DPMAIF_RXQ_NUM.toNat, answers.pitBase q = true) ∧
        ∃ q < DPMAIF_TXQ_NUM, (∀ i < q, answers.Txq i) ∧ answers.drbBase q = true ∧
          answers.drbSkbBase q = true ∧ answers.txWorker q = false))

end SwAnswers

def batResources : List SwResource :=
  [.batBase .normal, .batBitmap .normal, .batBase .frag, .batBitmap .frag]

def pitResources (n : Nat) : List SwResource := (List.range n).map .pitBase

def txqResources (n : Nat) : List SwResource := (List.range n).flatMap fun q => [.drbBase q, .txWorker q]

/-- The books of a controller, the pointers to `live` resources that it holds and the reference count of
    both BAT tables. -/
structure Holds (live created released : List SwResource) (refs : Int) (s : SwCtrl) : Prop where
  created : s.created = created
  released : s.released = released
  refcnt : ∀ type, s.refcnt type = refs
  ptr : ∀ r ∈ live, s.ptr r = true

section Allocs

variable {live created released : List SwResource} {refs : Int} {s : SwCtrl} {answers : SwAnswers}

theorem Holds.alloc (holds : Holds live created released refs s) (r : SwResource) :
    Holds (live ++ [r]) (created ++ [r]) released refs (s.alloc r true) := by
  refine ⟨congrArg (· ++ [r]) holds.created, holds.released, holds.refcnt, fun other member => ?_⟩
  show Function.update s.ptr r true other = true
  by_cases same : other = r
  · rw [same, Function.update_self]
  · rw [Function.update_of_ne same]
    exact holds.ptr other ((List.mem_append.mp member).resolve_right (by simpa using same))

theorem Holds.alloc_fails (holds : Holds live created released refs s) {r : SwResource} (new : r ∉ live) :
    Holds live created released refs (s.alloc r false) := by
  refine ⟨holds.created, holds.released, holds.refcnt, fun other member => ?_⟩
  show Function.update s.ptr r false other = true
  have apart : other ≠ r := by
    rintro rfl
    exact new member
  rw [Function.update_of_ne apart]
  exact holds.ptr other member

theorem Holds.release (holds : Holds live created released refs s) {r : SwResource} (member : r ∈ live) :
    Holds live created (released ++ [r]) refs (s.release r) := by
  unfold SwCtrl.release
  rw [if_pos (holds.ptr r member)]
  exact ⟨holds.created, congrArg (· ++ [r]) holds.released, holds.refcnt, holds.ptr⟩

theorem Holds.weaken (holds : Holds live created released refs s) {fewer : List SwResource}
    (subset : fewer ⊆ live) : Holds fewer created released refs s :=
  ⟨holds.created, holds.released, holds.refcnt, fun r member => holds.ptr r (subset member)⟩

theorem Holds.recount (holds : Holds live created released refs s) {refcnt : BatType → Int} {count : Int}
    (counts : ∀ type, refcnt type = count) : Holds live created released count { s with refcnt } :=
  ⟨holds.created, holds.released, counts, holds.ptr⟩

theorem batAlloc_succeeds (holds : Holds live created released 0 s) {type : BatType}
    (allocated : answers.Bat type) :
    (s.batAlloc answers type).2 = 0 ∧
      Holds (live ++ [SwResource.batBase type, SwResource.batBitmap type])
        (created ++ [SwResource.batBase type, SwResource.batBitmap type]) released 0 (s.batAlloc answers type).1 := by
  obtain ⟨base, skb, bitmap⟩ := allocated
  unfold SwCtrl.batAlloc
  simp only [base, skb, bitmap, Bool.true_eq_false, if_false]
  have both := (holds.alloc (.batBase type)).alloc (.batBitmap type)
  rw [List.append_assoc, List.append_assoc] at both
  refine ⟨trivial, both.recount fun other => ?_⟩
  by_cases same : other = type
  · rw [same, Function.update_self]
  · rw [Function.update_of_ne same]
    exact holds.refcnt other

theorem batAlloc_fails (holds : Holds live created released 0 s) {type : BatType}
    (new : .batBase type ∉ live ∧ .batBitmap type ∉ live) (fails : ¬ answers.Bat type) :
    (s.batAlloc answers type).2 ≠ 0 ∧ ∃ own, (own = [] ∨ own = [.batBase type]) ∧
      Holds live (created ++ own) (released ++ own) 0 (s.batAlloc answers type).1 := by
  have error : (- ENOMEM) ≠ 0 := by decide
  have made := holds.alloc (.batBase type)
  have base : .batBase type ∈ live ++ [SwResource.batBase type] := List.mem_append_right _ List.mem_cons_self
  have kept : live ⊆ live ++ [SwResource.batBase type] := List.subset_append_left _ _
  unfold SwCtrl.batAlloc
  cases baseOk : answers.batBase type with
  | false =>
    refine ⟨error, [], .inl rfl, ?_⟩
    rw [List.append_nil, List.append_nil]
    exact holds.alloc_fails new.1
  | true =>
    cases skbOk : answers.batSkb type with
    | false => exact ⟨error, [.batBase type], .inr rfl, (made.release base).weaken kept⟩
    | true =>
      cases bitmapOk : answers.batBitmap type with
      | false =>
        have newBitmap : .batBitmap type ∉ live ++ [SwResource.batBase type] := by
          simpa using new.2
        exact ⟨error, [.batBase type], .inr rfl, ((made.alloc_fails newBitmap).release base).weaken kept⟩
      | true => exact absurd ⟨baseOk, skbOk, bitmapOk⟩ fails

theorem rxqInit_succeeds (holds : Holds live created released refs s) {q : Nat}
    (allocated : answers.pitBase q = true) :
    (s.rxqInit answers q).2 = 0 ∧
      Holds (live ++ [SwResource.pitBase q]) (created ++ [SwResource.pitBase q]) released (refs + 1)
        (s.rxqInit answers q).1 := by
  unfold SwCtrl.rxqInit
  simp only [allocated, Bool.true_eq_false, if_false]
  have made := holds.alloc (.pitBase q)
  exact ⟨trivial, made.recount fun type => congrArg (· + 1) (made.refcnt type)⟩

theorem rxqInit_fails (holds : Holds live created released refs s) {q : Nat} (new : .pitBase q ∉ live)
    (fails : answers.pitBase q = false) :
    (s.rxqInit answers q).2 ≠ 0 ∧ Holds live created released refs (s.rxqInit answers q).1 := by
  have error : (- ENOMEM) ≠ 0 := by decide
  unfold SwCtrl.rxqInit
  rw [if_pos fails, fails]
  exact ⟨error, holds.alloc_fails new⟩

theorem txqInit_succeeds (holds : Holds live created released refs s) {q : Nat} (allocated : answers.Txq q) :
    (s.txqInit answers q).2 = 0 ∧
      Holds (live ++ [SwResource.drbBase q, SwResource.txWorker q])
        (created ++ [SwResource.drbBase q, SwResource.txWorker q]) released refs (s.txqInit answers q).1 := by
  obtain ⟨base, skb, worker⟩ := allocated
  unfold SwCtrl.txqInit
  simp only [base, skb, worker, Bool.true_eq_false, if_false]
  have both := (holds.alloc (.drbBase q)).alloc (.txWorker q)
  rw [List.append_assoc, List.append_assoc] at both
  exact ⟨trivial, both⟩

/-- The DRBs of a TX queue are forgotten exactly if it is the workqueue that cannot be allocated. -/
theorem txqInit_fails (holds : Holds live created released refs s) {q : Nat}
    (new : .drbBase q ∉ live ∧ .txWorker q ∉ live) (fails : ¬ answers.Txq q) :
    (s.txqInit answers q).2 ≠ 0 ∧ ∃ own freed, (own = [] ∨ own = [.drbBase q]) ∧
      Holds live (created ++ own) (released ++ freed) refs (s.txqInit answers q).1 ∧
      if answers.drbBase q = true ∧ answers.drbSkbBase q = true then own = [.drbBase q] ∧ freed = []
      else freed = own := by
  have error : (- ENOMEM) ≠ 0 := by decide
  have made := holds.alloc (.drbBase q)
  have base : .drbBase q ∈ live ++ [SwResource.drbBase q] := List.mem_append_right _ List.mem_cons_self
  have kept : live ⊆ live ++ [SwResource.drbBase q] := List.subset_append_left _ _
  unfold SwCtrl.txqInit
  cases baseOk : answers.drbBase q with
  | false =>
    refine ⟨error, [], [], .inl rfl, ?_, rfl⟩
    rw [List.append_nil, List.append_nil]
    exact holds.alloc_fails new.1
  | true =>
    cases skbOk : answers.drbSkbBase q with
    | false => exact ⟨error, [.drbBase q], [.drbBase q], .inr rfl, (made.release base).weaken kept, rfl⟩
    | true =>
      cases workerOk : answers.txWorker q with
      | false =>
        have newWorker : .txWorker q ∉ live ++ [SwResource.drbBase q] := by
          simpa using new.2
        refine ⟨error, [.drbBase q], [], .inr rfl, ?_, rfl, rfl⟩
        rw [List.append_nil]
        exact (made.alloc_fails newWorker).weaken kept
      | true => exact absurd ⟨baseOk, skbOk, workerOk⟩ fails

end Allocs

section Frees

variable {s t : SwCtrl} {type : BatType}

/-- A call gave `freed` back and dropped a reference to a BAT table. -/
structure DropsBat (type : BatType) (freed : List SwResource) (s t : SwCtrl) : Prop where
  created : t.created = s.created
  released : t.released = s.released ++ freed
  refcnt : t.refcnt = Function.update s.refcnt type (s.refcnt type - 1)
  ptr : ∀ r, r ≠ .batBitmap type → t.ptr r = s.ptr r
  kept : freed = [] → t.ptr = s.ptr

theorem batFree_shared (shared : s.refcnt type ≠ 1) : DropsBat type [] s (s.batFree type) := by
  have left : Function.update s.refcnt type (s.refcnt type - 1) type ≠ 0 := by
    rw [Function.update_self]
    omega
  have result : s.batFree type = { s with refcnt := Function.update s.refcnt type (s.refcnt type - 1) } :=
    if_pos left
  rw [result]
  exact ⟨rfl, (List.append_nil _).symm, rfl, fun _ _ => rfl, fun _ => rfl⟩

theorem batFree_last (last : s.refcnt type = 1) (base : s.ptr (.batBase type) = true)
    (bitmap : s.ptr (.batBitmap type) = true) :
    DropsBat type [.batBitmap type, .batBase type] s (s.batFree type) := by
  have none : ¬ Function.update s.refcnt type (s.refcnt type - 1) type ≠ 0 := by
    rw [Function.update_self]
    omega
  have apart : SwResource.batBase type ≠ .batBitmap type := nofun
  have still : Function.update s.ptr (.batBitmap type) false (.batBase type) = true := by
    rw [Function.update_of_ne apart]
    exact base
  have result : s.batFree type =
      { s with
        ptr := Function.update s.ptr (.batBitmap type) false
        refcnt := Function.update s.refcnt type (s.refcnt type - 1)
        released := s.released ++ [SwResource.batBitmap type] ++ [SwResource.batBase type] } := by
    refine (if_neg none).trans ?_
    unfold SwCtrl.release
    dsimp only
    rw [if_pos bitmap]
    exact if_pos still
  rw [result]
  exact ⟨rfl, List.append_assoc .., rfl, fun r other => Function.update_of_ne other .., nofun⟩

def bothFree (s : SwCtrl) : SwCtrl := (s.batFree .normal).batFree .frag

structure DropsBoth (refs : Int) (freed : List SwResource) (s t : SwCtrl) : Prop where
  created : t.created = s.created
  released : t.released = s.released ++ freed
  refcnt : ∀ type, t.refcnt type = refs - 1
  ptr : ∀ r, (∀ type, r ≠ .batBitmap type) → t.ptr r = s.ptr r
  kept : freed = [] → t.ptr = s.ptr

theorem DropsBat.both {u : SwCtrl} {refs : Int} {first second : List SwResource}
    (refcnt : ∀ type, s.refcnt type = refs) (normal : DropsBat .normal first s t)
    (frag : DropsBat .frag second t u) : DropsBoth refs (first ++ second) s u := by
  have apart : BatType.frag ≠ .normal := nofun
  refine ⟨frag.created.trans normal.created, ?_, fun type => ?_, fun r other => ?_, fun none => ?_⟩
  · rw [frag.released, normal.released, List.append_assoc]
  · rw [frag.refcnt]
    cases type with
    | normal => rw [Function.update_of_ne apart.symm, normal.refcnt, Function.update_self, refcnt]
    | frag => rw [Function.update_self, normal.refcnt, Function.update_of_ne apart, refcnt]
  · rw [frag.ptr r (other .frag), normal.ptr r (other .normal)]
  · obtain ⟨noFirst, noSecond⟩ := List.append_eq_nil_iff.mp none
    rw [frag.kept noSecond, normal.kept noFirst]

theorem bothFree_shared {refs : Int} (refcnt : ∀ type, s.refcnt type = refs) (shared : refs ≠ 1) :
    DropsBoth refs [] s (bothFree s) := by
  have apart : BatType.frag ≠ .normal := nofun
  have normal : DropsBat .normal [] s (s.batFree .normal) := batFree_shared (by rw [refcnt]; exact shared)
  refine normal.both refcnt (batFree_shared ?_)
  rw [normal.refcnt, Function.update_of_ne apart, refcnt]
  exact shared

theorem bothFree_last (refcnt : ∀ type, s.refcnt type = 1) (ptr : ∀ r ∈ batResources, s.ptr r = true) :
    DropsBoth 1 [.batBitmap .normal, .batBase .normal, .batBitmap .frag, .batBase .frag] s (bothFree s) := by
  have apart : BatType.frag ≠ .normal := nofun
  have normal := batFree_last (refcnt .normal) (ptr _ (by decide)) (ptr _ (by decide))
  refine normal.both refcnt (batFree_last ?_ ?_ ?_)
  · rw [normal.refcnt, Function.update_of_ne apart, refcnt]
  · exact (normal.ptr (.batBase .frag) nofun).trans (ptr _ (by decide))
  · exact (normal.ptr (.batBitmap .frag) (by decide)).trans (ptr _ (by decide))

/-- The books in the loop over `t7xx_dpmaif_rxq_free`: the last of `count` queues frees the BAT tables. -/
structure RxqsFreed (count : Nat) (before : SwCtrl) (i : Nat) (s : SwCtrl) : Prop where
  created : s.created = before.created
  released : ∀ r, s.released.count r = before.released.count r +
    (if i = count ∧ 0 < count then batResources.count r else 0) + (pitResources i).count r
  refcnt : ∀ type, s.refcnt type = (count : Int) - i
  bats : i < count → ∀ r ∈ batResources, s.ptr r = true
  pits : ∀ q < count, s.ptr (.pitBase q) = true

theorem pitResources_succ (n : Nat) : pitResources (n + 1) = pitResources n ++ [SwResource.pitBase n] := by
  unfold pitResources
  rw [List.range_succ, List.map_append]
  rfl

theorem release_held {r : SwResource} (held : s.ptr r = true) :
    s.release r = { s with released := s.released ++ [r] } := if_pos held

theorem rxqFree_freed {count i : Nat} {before : SwCtrl} (inside : i < count)
    (freed : RxqsFreed count before i s) : RxqsFreed count before (i + 1) (s.rxqFree i) := by
  have refcnt (type : BatType) : s.refcnt type = ((count - i : Nat) : Int) := by
    rw [freed.refcnt]
    omega
  obtain ⟨own, drops, counts, none⟩ : ∃ own, DropsBoth ((count - i : Nat) : Int) own s (bothFree s) ∧
      (∀ r, own.count r = if i + 1 = count then batResources.count r else 0) ∧
      (i + 1 ≠ count → own = []) := by
    by_cases last : i + 1 = count
    · have one : ((count - i : Nat) : Int) = 1 := by omega
      rw [one] at refcnt ⊢
      refine ⟨_, bothFree_last refcnt (freed.bats inside), fun r => ?_, fun other => absurd last other⟩
      rw [if_pos last]
      exact List.Perm.count_eq (by decide) r
    · have several : ((count - i : Nat) : Int) ≠ 1 := by omega
      refine ⟨[], bothFree_shared refcnt several, fun r => ?_, fun _ => rfl⟩
      rw [if_neg last]
      rfl
  have held : (bothFree s).ptr (.pitBase i) = true :=
    (drops.ptr (.pitBase i) fun _ => nofun).trans (freed.pits i inside)
  have result : s.rxqFree i =
      { bothFree s with released := (bothFree s).released ++ [SwResource.pitBase i] } :=
    release_held held
  rw [result]
  refine ⟨drops.created.trans freed.created, fun r => ?_, fun type => ?_, fun more r member => ?_, fun q below => ?_⟩
  · show ((bothFree s).released ++ [SwResource.pitBase i]).count r = _
    rw [drops.released, List.count_append, List.count_append, freed.released, counts, pitResources_succ,
      List.count_append, if_neg (by omega)]
    by_cases last : i + 1 = count
    · rw [if_pos last, if_pos ⟨last, by omega⟩]
      omega
    · rw [if_neg last, if_neg fun both => last both.1]
      omega
  · rw [drops.refcnt]
    omega
  · show (bothFree s).ptr r = true
    rw [drops.kept (none (Nat.ne_of_lt more))]
    exact freed.bats inside r member
  · exact (drops.ptr (.pitBase q) fun _ => nofun).trans (freed.pits q below)

variable {live created released : List SwResource}

/-- From `count` initialised RX queues on, `err_free_rxq` gives back their PITs, and the BAT tables if
    there was a queue to hold them. -/
theorem errFreeRxq_frees {count : Nat} (holds : Holds (batResources ++ pitResources count) created released count s) :
    (s.errFreeRxq count).created = created ∧ ∀ r, (s.errFreeRxq count).released.count r =
      released.count r + (if 0 < count then batResources.count r else 0) + (pitResources count).count r := by
  have start : RxqsFreed count s 0 s := by
    refine ⟨rfl, fun r => ?_, fun type => (holds.refcnt type).trans (by omega), fun _ r member => ?_, fun q below => ?_⟩
    · rw [if_neg (by omega)]
      rfl
    · exact holds.ptr r (List.mem_append_left _ member)
    · refine holds.ptr _ (List.mem_append_right _ ?_)
      exact List.mem_map_of_mem (List.mem_range.mpr below)
  have freed := freeLoop_rule (RxqsFreed count s) (fun i inside t => rxqFree_freed inside) start
  unfold SwCtrl.errFreeRxq
  generalize freeLoop SwCtrl.rxqFree count s = t at freed
  have unreferenced (type : BatType) : t.refcnt type ≠ 1 := by
    rw [freed.refcnt]
    omega
  have frag := batFree_shared (unreferenced .frag)
  have apart : BatType.normal ≠ .frag := nofun
  have normal : DropsBat .normal [] (t.batFree .frag) ((t.batFree .frag).batFree .normal) := by
    refine batFree_shared ?_
    rw [frag.refcnt, Function.update_of_ne apart]
    exact unreferenced .normal
  refine ⟨?_, fun r => ?_⟩
  · rw [normal.created, frag.created, freed.created, holds.created]
  · rw [normal.released, frag.released, List.append_nil, List.append_nil, freed.released, holds.released]
    congr 2
    by_cases some_ : 0 < count
    · rw [if_pos ⟨rfl, some_⟩, if_pos some_]
    · rw [if_neg fun both => some_ both.2, if_neg some_]

theorem txqResources_succ (n : Nat) :
    txqResources (n + 1) = txqResources n ++ [SwResource.drbBase n, SwResource.txWorker n] := by
  unfold txqResources
  rw [List.range_succ, List.flatMap_append]
  rfl

structure TxqsFreed (before : SwCtrl) (i : Nat) (s : SwCtrl) : Prop where
  others : s = { before with released := s.released }
  released : ∀ r, s.released.count r = before.released.count r + (txqResources i).count r

theorem freeTxqs_frees {count : Nat} {refs : Int}
    (holds : Holds (live ++ txqResources count) created released refs s) :
    ∃ freed, Holds live created freed refs (freeLoop SwCtrl.txqFree count s) ∧
      ∀ r, freed.count r = released.count r + (txqResources count).count r := by
  have start : TxqsFreed s 0 s := ⟨rfl, fun r => rfl⟩
  have held (q : Nat) (below : q < count) :
      s.ptr (.drbBase q) = true ∧ s.ptr (.txWorker q) = true := by
    have own (r : SwResource) (member : r ∈ [.drbBase q, .txWorker q]) : s.ptr r = true := by
      refine holds.ptr r (List.mem_append_right _ ?_)
      exact List.mem_flatMap.mpr ⟨q, List.mem_range.mpr below, member⟩
    exact ⟨own _ List.mem_cons_self, own _ (List.mem_cons_of_mem _ List.mem_cons_self)⟩
  have freed : TxqsFreed s count (freeLoop SwCtrl.txqFree count s) := by
    refine freeLoop_rule (TxqsFreed s) (fun q below t freed => ?_) start
    obtain ⟨base, worker⟩ := held q below
    have result : t.txqFree q = { t with released := t.released ++ [SwResource.txWorker q] ++ [SwResource.drbBase q] } := by
      unfold SwCtrl.txqFree
      have first : t.ptr (.txWorker q) = true := by rw [freed.others]; exact worker
      have second : t.ptr (.drbBase q) = true := by rw [freed.others]; exact base
      rw [release_held first]
      exact release_held second
    rw [result]
    refine ⟨?_, fun r => ?_⟩
    · show SwCtrl.mk t.ptr t.refcnt t.created _ = _
      rw [freed.others]
    · show (t.released ++ [SwResource.txWorker q] ++ [SwResource.drbBase q]).count r = _
      rw [List.count_append, List.count_append, freed.released, txqResources_succ, List.count_append,
        List.count_cons, List.count_cons, List.count_cons, List.count_cons]
      simp only [List.count_nil]
      omega
  refine ⟨_, ?_, fun r => (freed.released r).trans (by rw [holds.released])⟩
  generalize freeLoop SwCtrl.txqFree count s = t at freed
  rw [freed.others]
  exact ⟨holds.created, rfl, holds.refcnt, fun r member => holds.ptr r (List.mem_append_left _ member)⟩

abbrev RXQ_COUNT : Nat := DPMAIF_RXQ_NUM.toNat

def rxResources : List SwResource := batResources ++ pitResources RXQ_COUNT

theorem errFreeTxq_frees {count : Nat}
    (holds : Holds (rxResources ++ txqResources count) created released RXQ_COUNT s) :
    (s.errFreeTxq count RXQ_COUNT).created = created ∧ ∀ r, (s.errFreeTxq count RXQ_COUNT).released.count r =
      released.count r + (rxResources ++ txqResources count).count r := by
  obtain ⟨freed, rest, counts⟩ := freeTxqs_frees holds
  obtain ⟨same, all⟩ := errFreeRxq_frees rest
  refine ⟨same, fun r => (all r).trans ?_⟩
  rw [counts, if_pos (by decide), List.count_append, rxResources, List.count_append]
  omega

theorem released_once {resources own : List SwResource} (nodup : (resources ++ own).Nodup)
    (same : s.created = resources ++ own)
    (counts : ∀ r, s.released.count r = own.count r + resources.count r) : ReleasedOnce s := by
  intro r member
  rw [same] at member
  have once := List.count_eq_one_of_mem nodup member
  rw [List.count_append] at once
  rw [counts]
  omega

theorem not_released_once {r : SwResource} (member : r ∈ s.created) (kept : s.released.count r = 0) :
    ¬ ReleasedOnce s := by
  intro once
  rw [once r member] at kept
  cases kept

end Frees

section Unwinding

variable {answers : SwAnswers} {s : SwCtrl}

def RxqsMade (answers : SwAnswers) (n : Nat) (s : SwCtrl) : Prop :=
  Holds (batResources ++ pitResources n) (batResources ++ pitResources n) [] n s ∧
    ∀ q < n, answers.pitBase q = true

def TxqsMade (answers : SwAnswers) (n : Nat) (s : SwCtrl) : Prop :=
  Holds (rxResources ++ txqResources n) (rxResources ++ txqResources n) [] RXQ_COUNT s ∧
    ∀ q < n, answers.Txq q

def TxqFailed (answers : SwAnswers) (n : Nat) (s : SwCtrl) : Prop :=
  (∀ q < n, answers.Txq q) ∧ ¬ answers.Txq n ∧ ∃ own freed, (own = [] ∨ own = [.drbBase n]) ∧
    Holds (rxResources ++ txqResources n) (rxResources ++ txqResources n ++ own) freed RXQ_COUNT s ∧
    if answers.drbBase n = true ∧ answers.drbSkbBase n = true then own = [.drbBase n] ∧ freed = []
    else freed = own

theorem up_to_succ {P : Nat → Prop} {n : Nat} (before : ∀ q < n, P q) (here : P n) : ∀ q < n + 1, P q := by
  intro q below
  rcases Nat.lt_succ_iff_lt_or_eq.mp below with less | rfl
  · exact before q less
  · exact here

theorem rxqs_end (made : RxqsMade answers 0 s) :
    LoopEnd (RxqsMade answers) (fun n s => RxqsMade answers n s ∧ answers.pitBase n = false) RXQ_COUNT
      (initLoop (SwCtrl.rxqInit answers) RXQ_COUNT 0 s) := by
  have fresh (n : Nat) : .pitBase n ∉ batResources ++ pitResources n := by
    simp [batResources, pitResources]
  refine initLoop_rule _ _ (fun n s made ok => ?_) (fun n s made error => ?_) RXQ_COUNT s made
  · obtain ⟨holds, before⟩ := made
    cases allocated : answers.pitBase n with
    | false => exact absurd ok (rxqInit_fails holds (fresh n) allocated).1
    | true =>
      have next := (rxqInit_succeeds holds allocated).2
      rw [List.append_assoc, ← pitResources_succ] at next
      exact ⟨next, up_to_succ before allocated⟩
  · obtain ⟨holds, before⟩ := made
    cases allocated : answers.pitBase n with
    | false => exact ⟨⟨(rxqInit_fails holds (fresh n) allocated).2, before⟩, rfl⟩
    | true => exact absurd (rxqInit_succeeds holds allocated).1 error

theorem txqs_end (made : TxqsMade answers 0 s) :
    LoopEnd (TxqsMade answers) (TxqFailed answers) DPMAIF_TXQ_NUM
      (initLoop (SwCtrl.txqInit answers) DPMAIF_TXQ_NUM 0 s) := by
  have fresh (n : Nat) : .drbBase n ∉ rxResources ++ txqResources n ∧
      .txWorker n ∉ rxResources ++ txqResources n := by
    simp [rxResources, batResources, pitResources, txqResources]
  refine initLoop_rule _ _ (fun n s made ok => ?_) (fun n s made error => ?_) DPMAIF_TXQ_NUM s made
  · obtain ⟨holds, before⟩ := made
    by_cases allocated : answers.Txq n
    · have next := (txqInit_succeeds holds allocated).2
      rw [List.append_assoc, ← txqResources_succ] at next
      exact ⟨next, up_to_succ before allocated⟩
    · exact absurd ok (txqInit_fails holds (fresh n) allocated).1
  · obtain ⟨holds, before⟩ := made
    by_cases allocated : answers.Txq n
    · exact absurd (txqInit_succeeds holds allocated).1 error
    · obtain ⟨own, freed, shape, holds, books⟩ := (txqInit_fails holds (fresh n) allocated).2
      exact ⟨before, allocated, own, freed, shape, holds, books⟩

/-- On an error everything was released, exactly if the cleanup for it misses nothing. -/
def Unwinds (answers : SwAnswers) (result : SwCtrl × Int) : Prop :=
  (result.2 ≠ 0 → ReleasedOnce result.1) ↔ ¬ answers.CleanupMisses

theorem Unwinds.of_clean {result : SwCtrl × Int} (complete : ¬ answers.CleanupMisses)
    (once : result.2 ≠ 0 → ReleasedOnce result.1) : Unwinds answers result :=
  ⟨fun _ => complete, fun _ => once⟩

theorem Unwinds.of_missed {result : SwCtrl × Int} (misses : answers.CleanupMisses) (error : result.2 ≠ 0)
    (leaks : ¬ ReleasedOnce result.1) : Unwinds answers result :=
  ⟨fun once => absurd (once error) leaks, fun complete => absurd misses complete⟩

/-- The thread and the release workqueue come last, and everything before them is complete. -/
theorem threadTail_once (holds : Holds (rxResources ++ txqResources DPMAIF_TXQ_NUM)
    (rxResources ++ txqResources DPMAIF_TXQ_NUM) [] RXQ_COUNT s) :
    let (t, ret) := s.threadTail answers RXQ_COUNT DPMAIF_TXQ_NUM
    ret ≠ 0 → ReleasedOnce t := by
  have nodup : (rxResources ++ txqResources DPMAIF_TXQ_NUM ++ [SwResource.txThread]).Nodup := by decide
  have started := holds.alloc .txThread
  unfold SwCtrl.threadTail SwCtrl.txThreadInit
  dsimp only
  by_cases runs : answers.txThread = 0
  · rw [if_neg (not_not.mpr runs), if_pos runs]
    unfold SwCtrl.batRelWqAlloc
    cases wq : answers.batReleaseWq with
    | true =>
      intro error
      exact absurd rfl error
    | false =>
      have failed := (started.alloc_fails (r := .batReleaseWq) (by decide)).release (r := .txThread) (by decide)
      obtain ⟨created, counts⟩ := errFreeTxq_frees (failed.weaken (List.subset_append_left _ _))
      exact fun _ => released_once nodup created counts
  · rw [if_pos runs, if_neg runs]
    have same : Holds (rxResources ++ txqResources DPMAIF_TXQ_NUM) (rxResources ++ txqResources DPMAIF_TXQ_NUM) []
        RXQ_COUNT { s with ptr := Function.update s.ptr .txThread true } :=
      ⟨holds.created, holds.released, holds.refcnt,
        fun r member => started.ptr r (List.mem_append_left _ member)⟩
    obtain ⟨created, counts⟩ := errFreeTxq_frees same
    have all : _ = (rxResources ++ txqResources DPMAIF_TXQ_NUM) ++ [] := created.trans (List.append_nil _).symm
    refine fun _ => released_once ?_ all counts
    rw [List.append_nil]
    exact nodup.of_append_left

/-- Once all that comes before the TX queues is allocated, only the workqueue of one of them is missed. -/
theorem misses_iff_worker (normal : answers.Bat .normal) (frag : answers.Bat .frag)
    (pits : ∀ q < RXQ_COUNT, answers.pitBase q = true) :
    answers.CleanupMisses ↔ ∃ q < DPMAIF_TXQ_NUM, (∀ i < q, answers.Txq i) ∧
      answers.drbBase q = true ∧ answers.drbSkbBase q = true ∧ answers.txWorker q = false := by
  have first : answers.pitBase 0 ≠ false := by
    rw [pits 0 (by decide)]
    exact nofun
  unfold SwAnswers.CleanupMisses
  rw [and_iff_right normal, or_iff_right (not_not.mpr frag), or_iff_right first, and_iff_right pits]

theorem txq_fails_unwinds {k : Nat} {error : Int} (normal : answers.Bat .normal) (frag : answers.Bat .frag)
    (pits : ∀ q < RXQ_COUNT, answers.pitBase q = true) (below : k < DPMAIF_TXQ_NUM)
    (stopped : TxqFailed answers k s) (failed : error ≠ 0) : Unwinds answers (s.errFreeTxq k RXQ_COUNT, error) := by
  obtain ⟨before, fails, own, freed, shape, holds, books⟩ := stopped
  obtain ⟨created, counts⟩ := errFreeTxq_frees holds
  by_cases forgotten : answers.drbBase k = true ∧ answers.drbSkbBase k = true
  · rw [if_pos forgotten] at books
    obtain ⟨rfl, rfl⟩ := books
    have worker : answers.txWorker k = false := by
      by_contra allocated
      exact fails ⟨forgotten.1, forgotten.2, eq_true_of_ne_false allocated⟩
    have misses := (misses_iff_worker normal frag pits).mpr ⟨k, below, before, forgotten.1, forgotten.2, worker⟩
    refine .of_missed misses failed ?_
    have other : (rxResources ++ txqResources k).count (.drbBase k) = 0 := by
      rw [List.count_eq_zero]
      simp [rxResources, batResources, pitResources, txqResources]
    refine not_released_once (r := .drbBase k) ?_ ?_
    · rw [created]
      exact List.mem_append_right _ List.mem_cons_self
    · rw [counts, other]
      rfl
  · rw [if_neg forgotten] at books
    subst books
    refine .of_clean ?_ fun _ => released_once ?_ created counts
    · rw [misses_iff_worker normal frag pits]
      rintro ⟨q, -, all, base, skb, worker⟩
      rcases Nat.lt_trichotomy q k with less | rfl | more
      · exact absurd ((before q less).2.2.symm.trans worker) (by decide)
      · exact forgotten ⟨base, skb⟩
      · exact fails (all k more)
    · have nodup : ∀ k < DPMAIF_TXQ_NUM, (rxResources ++ txqResources k ++ [SwResource.drbBase k]).Nodup := by
        decide
      rcases shape with rfl | rfl
      · rw [List.append_nil]
        exact (nodup k below).of_append_left
      · exact nodup k below

theorem txSwAllocs_unwinds (normal : answers.Bat .normal) (frag : answers.Bat .frag)
    (pits : ∀ q < RXQ_COUNT, answers.pitBase q = true) (made : TxqsMade answers 0 s) :
    Unwinds answers (s.txSwAllocs answers RXQ_COUNT) := by
  have ends := txqs_end made
  unfold SwCtrl.txSwAllocs
  generalize initLoop (SwCtrl.txqInit answers) DPMAIF_TXQ_NUM 0 s = result at ends
  cases ends with
  | @failed t ret k error below failed =>
    dsimp only
    rw [if_pos error]
    exact txq_fails_unwinds normal frag pits below failed error
  | @done t made =>
    obtain ⟨holds, all⟩ := made
    have complete : ¬ answers.CleanupMisses := by
      rw [misses_iff_worker normal frag pits]
      rintro ⟨q, below, -, -, -, worker⟩
      exact absurd ((all q below).2.2.symm.trans worker) (by decide)
    refine .of_clean complete ?_
    dsimp only
    rw [if_neg (not_not.mpr rfl)]
    exact threadTail_once holds

/-- A normal BAT table that was complete when something else failed stays allocated without RX queues. -/
theorem normalBat_leaks (created : s.created = batResources ∨ .batBase .normal ∈ s.created)
    (kept : SwResource.batBase .normal ∉ s.released) : ¬ ReleasedOnce s := by
  refine not_released_once (r := .batBase .normal) ?_ (List.count_eq_zero.mpr kept)
  rcases created with all | member
  · rw [all]
    decide
  · exact member

theorem rxq_fails_unwinds {n : Nat} {error : Int} (normal : answers.Bat .normal) (frag : answers.Bat .frag)
    (below : n < RXQ_COUNT) (made : RxqsMade answers n s) (fails : answers.pitBase n = false)
    (failed : error ≠ 0) : Unwinds answers (s.errFreeRxq n, error) := by
  obtain ⟨holds, before⟩ := made
  obtain ⟨created, counts⟩ := errFreeRxq_frees holds
  rcases Nat.eq_zero_or_pos n with rfl | some_
  · refine .of_missed ⟨normal, .inr (.inl fails)⟩ failed (normalBat_leaks (.inl created) ?_)
    rw [← List.count_eq_zero, counts, if_neg (by decide)]
    decide
  · have complete : ¬ answers.CleanupMisses := by
      rintro ⟨-, noFrag | first | ⟨all, -⟩⟩
      · exact noFrag frag
      · exact absurd ((before 0 some_).symm.trans first) (by decide)
      · exact absurd ((all n below).symm.trans fails) (by decide)
    have nodup : ∀ n < RXQ_COUNT, (batResources ++ pitResources n ++ []).Nodup := by
      decide
    refine .of_clean complete fun _ => released_once (nodup n below) ?_ fun r => ?_
    · exact created.trans (List.append_nil _).symm
    · rw [counts, if_pos some_, List.count_append]
      exact Nat.add_assoc ..

theorem rxtxSwAllocs_unwinds (answers : SwAnswers) :
    Unwinds answers (SwCtrl.zeroed.rxtxSwAllocs answers) := by
  have start : Holds [] [] [] 0 SwCtrl.zeroed := ⟨rfl, rfl, fun _ => rfl, nofun⟩
  unfold SwCtrl.rxtxSwAllocs
  by_cases normal : answers.Bat .normal
  · obtain ⟨ok, holds⟩ := batAlloc_succeeds start normal
    generalize SwCtrl.zeroed.batAlloc answers .normal = first at ok holds
    dsimp only
    rw [if_neg (not_not.mpr ok)]
    by_cases frag : answers.Bat .frag
    · obtain ⟨ok, holds⟩ := batAlloc_succeeds holds frag
      generalize first.1.batAlloc answers .frag = second at ok holds
      rw [if_neg (not_not.mpr ok)]
      have made : RxqsMade answers 0 second.1 := ⟨holds, fun q below => absurd below (Nat.not_lt_zero q)⟩
      have ends := rxqs_end made
      generalize initLoop (SwCtrl.rxqInit answers) DPMAIF_RXQ_NUM.toNat 0 second.1 = third at ends
      cases ends with
      | @failed t ret n error below failed =>
        dsimp only
        rw [if_pos error]
        exact rxq_fails_unwinds normal frag below failed.1 failed.2 error
      | @done t made =>
        dsimp only
        rw [if_neg (not_not.mpr rfl)]
        refine txSwAllocs_unwinds normal frag made.2 ⟨?_, fun q below => absurd below (Nat.not_lt_zero q)⟩
        rw [show txqResources 0 = [] from rfl, List.append_nil]
        exact made.1
    · obtain ⟨error, own, shape, holds⟩ := batAlloc_fails holds (by decide) frag
      generalize first.1.batAlloc answers .frag = second at error holds
      rw [if_pos error]
      have shared : second.1.refcnt .normal ≠ 1 := by
        rw [holds.refcnt]
        decide
      have drops := batFree_shared shared
      refine .of_missed ⟨normal, .inl frag⟩ error (normalBat_leaks (.inr ?_) ?_)
      · rw [drops.created, holds.created]
        exact List.mem_append_left _ List.mem_cons_self
      · rw [drops.released, holds.released]
        rcases shape with rfl | rfl <;> decide
  · obtain ⟨error, own, shape, holds⟩ := batAlloc_fails start (by decide) normal
    generalize SwCtrl.zeroed.batAlloc answers .normal = first at error holds
    dsimp only
    rw [if_pos error]
    refine .of_clean (fun misses => normal misses.1) fun _ => ?_
    have nodup : ([] ++ own).Nodup := by
      rcases shape with rfl | rfl <;> decide
    refine released_once nodup holds.created fun r => ?_
    rw [holds.released]
    rfl

/-- Whatever step of `t7xx_dpmaif_rxtx_sw_allocs` fails first, the error path releases all that was created
    once, unless it is a step of the frag BAT table, the PIT of the first RX queue or a TX workqueue. -/
theorem sw_allocs_unwind_iff (answers : SwAnswers) :
    let (s, ret) := SwCtrl.zeroed.rxtxSwAllocs answers
    (ret ≠ 0 → ReleasedOnce s) ↔ ¬ answers.CleanupMisses :=
  rxtxSwAllocs_unwinds answers

def noFragTable : SwAnswers where
  batBase := fun type => type = .normal
  batSkb := fun _ => true
  batBitmap := fun _ => true
  pitBase := fun _ => true
  drbBase := fun _ => true
  drbSkbBase := fun _ => true
  txWorker := fun _ => true
  txThread := 0
  batReleaseWq := true

/-- Without an RX queue the normal BAT table has no reference that could be dropped. -/
theorem unreferenced_bat_leaks :
    let (s, ret) := SwCtrl.zeroed.rxtxSwAllocs noFragTable
    ret = - ENOMEM ∧ s.created = [.batBase .normal, .batBitmap .normal] ∧ s.released = [] ∧
      ¬ ReleasedOnce s := by decide

end Unwinding

end T7xxModel.Dpmaif
