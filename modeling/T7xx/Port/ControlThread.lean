import T7xx.Port.ControlMsg
import T7xx.Transition.Runs

namespace T7xxModel.Port

open Cldma (RxSkb CTRL_QUEUE_MAXLEN)
open Transition

/-- Where `port_ctl_rx_thread` is; `none` if `port->thread` is NULL. -/
inductive CtrlThread where
  | none
  | loop
  | locked
  | waiting
  | handling (skb : RxSkb)
  | exited

/-- The call of `port_ctl_init` or `port_ctl_uninit` that is under way. -/
inductive CtrlLife where
  | idle
  | starting
  | stopping
  | joined
deriving DecidableEq, Repr

/-- A control port. An skb is known by its id; `accepted` are those that were ever taken from the queue
    of the controller, and `frees` counts how often each was freed. -/
structure CtrlPort where
  rxCh : BitVec 16
  rxSkbList : List RxSkb
  rxLengthTh : Int
  thread : CtrlThread
  shouldStop : Bool
  life : CtrlLife
  accepted : List RxSkb
  frees : Nat → Nat

inductive CtrlLabel where
  | enqueueSkb (skb : RxSkb)
  | threadStep (interrupted : Bool)
  | handleMsg (answers : CtrlAnswers)
  | init (started : Bool)
  | initLength
  | uninit
  | joinThread
  | drain

/-- `t7xx_port_enqueue_skb`; without room it leaves the skb to its caller. -/
def CtrlPort.enqueueSkb (s : CtrlPort) (skb : RxSkb) : CtrlPort :=
  if s.rxSkbList.length ≥ s.rxLengthTh then s
  else { s with rxSkbList := s.rxSkbList ++ [skb], accepted := s.accepted ++ [skb] }

/-- The rest of the critical section of the thread. -/
def CtrlPort.takeSkb (s : CtrlPort) : CtrlPort :=
  if s.shouldStop then { s with thread := .exited }
  else
    match s.rxSkbList with
    | [] => s
    | skb :: rest => { s with thread := .handling skb, rxSkbList := rest }

def CtrlPort.threadStep (s : CtrlPort) (interrupted : Bool) : Option CtrlPort :=
  match s.thread with
  | .loop => some { s with thread := if s.shouldStop then .exited else .locked }
  | .locked => some (if s.rxSkbList = [] then { s with thread := .waiting } else s.takeSkb)
  | .waiting =>
    if interrupted then some { s with thread := .loop }
    else if s.rxSkbList ≠ [] ∨ s.shouldStop then some s.takeSkb
    else none
  | _ => none

def CtrlPort.freed (s : CtrlPort) (skb : RxSkb) (times : Nat) : CtrlPort :=
  { s with frees := Function.update s.frees skb.id (s.frees skb.id + times) }

/-- The loop at the end of `port_ctl_uninit`. -/
def CtrlPort.freeList : List RxSkb → CtrlPort → CtrlPort
  | [], s => { s with rxSkbList := [] }
  | skb :: rest, s => freeList rest (s.freed skb 1)

/-- A step of the port. Interrupts and the thread may come between the steps of `port_ctl_init` and of
    `port_ctl_uninit`, which the port proxy never calls at the same time. -/
def CtrlPort.step (s : CtrlPort) : CtrlLabel → Option CtrlPort
  | .enqueueSkb skb => if skb.id ∈ s.accepted.map RxSkb.id then none else some (s.enqueueSkb skb)
  | .threadStep interrupted => s.threadStep interrupted
  | .handleMsg answers =>
    match s.thread with
    | .handling skb =>
      some { s.freed skb (controlMsgHandler s.rxCh answers skb).frees with thread := .loop }
    | _ => none
  | .init started =>
    match s.life, s.thread with
    -- `t7xx_port_struct_init` comes first.
    | .idle, .none =>
      if started then
        some { s with rxSkbList := [], thread := .loop, shouldStop := false, life := .starting }
      else some { s with rxSkbList := [] }
    | _, _ => none
  | .initLength =>
    match s.life with
    | .starting => some { s with rxLengthTh := CTRL_QUEUE_MAXLEN, life := .idle }
    | _ => none
  | .uninit =>
    match s.life, s.thread with
    | .idle, .none => some { s with life := .joined }
    | .idle, _ => some { s with shouldStop := true, life := .stopping }
    | _, _ => none
  | .joinThread =>
    match s.life, s.thread with
    | .stopping, .exited => some { s with thread := .none, life := .joined }
    | _, _ => none
  | .drain =>
    match s.life with
    | .joined => some { CtrlPort.freeList s.rxSkbList s with rxLengthTh := 0, life := .idle }
    | _ => none

def ctrlPortInit (rxCh : BitVec 16) : CtrlPort where
  rxCh
  rxSkbList := []
  rxLengthTh := 0
  thread := .none
  shouldStop := false
  life := .idle
  accepted := []
  frees := fun _ => 0

section Books

def CtrlThread.held : CtrlThread → List Nat
  | .handling skb => [skb.id]
  | _ => []

def CtrlPort.held (s : CtrlPort) : List Nat := s.thread.held ++ s.rxSkbList.map RxSkb.id

def CtrlPort.balance (s : CtrlPort) (id : Nat) : Nat := s.frees id + s.held.count id

/-- Each accepted skb is held once and was not freed, or it was freed once. -/
def FreedOnce (s : CtrlPort) : Prop := ∀ skb ∈ s.accepted, s.balance skb.id = 1

instance (s : CtrlPort) : Decidable (FreedOnce s) :=
  inferInstanceAs (Decidable (∀ skb ∈ s.accepted, s.balance skb.id = 1))

def freeingMsgIds : List (BitVec 32) := CTL_ID_HS2_MSG :: eeMsgIds

/-- Every message that the thread handles is of a type that is freed. -/
def HandlesFreeing (s : CtrlPort) : CtrlLabel → Prop
  | .handleMsg _ =>
    match s.thread with
    | .handling skb => (ctrlMsgHeader skb).ctrlMsgId ∈ freeingMsgIds
    | _ => True
  | _ => True

structure CtrlInv (s : CtrlPort) : Prop where
  unseen : ∀ id, id ∉ s.accepted.map RxSkb.id → s.balance id = 0
  quiet : s.life = .idle → s.thread = .none → s.rxLengthTh ≤ 0 ∧ s.rxSkbList = []
  starting : s.life = .starting → s.thread ≠ .none

structure SameBooks (s t : CtrlPort) : Prop where
  accepted : t.accepted = s.accepted
  balance : ∀ id, t.balance id = s.balance id

variable {s t : CtrlPort} {label : CtrlLabel}

theorem SameBooks.freedOnce_iff (same : SameBooks s t) : FreedOnce t ↔ FreedOnce s := by
  unfold FreedOnce
  simp only [same.accepted, same.balance]

theorem SameBooks.unseen (same : SameBooks s t)
    (unseen : ∀ id, id ∉ s.accepted.map RxSkb.id → s.balance id = 0) :
    ∀ id, id ∉ t.accepted.map RxSkb.id → t.balance id = 0 := by
  intro id fresh
  rw [same.accepted] at fresh
  rw [same.balance]
  exact unseen id fresh

theorem appendEvent_frees (answers : CtrlAnswers) (eventId : Fsm.FsmEventId) (data : Option Nat)
    (length : BitVec 32) : (appendEvent answers eventId data length).frees = 0 := by
  unfold appendEvent
  split
  · rfl
  split
  · rfl
  split
  · rfl
  · rfl

theorem portCtlSendMsgToMd_frees (answers : CtrlAnswers) (msg exMsg : BitVec 32) :
    (portCtlSendMsgToMd answers msg exMsg).frees = 0 := by
  unfold portCtlSendMsgToMd
  split
  · rfl
  · rfl

theorem onSuccess_frees {first second : CtrlRun} (none : first.frees = 0) (nor : second.frees = 0) :
    (first.onSuccess second).frees = 0 := by
  unfold CtrlRun.onSuccess
  split
  · exact none
  · show first.frees + second.frees = 0
    rw [none, nor]

theorem fsmEeMessageHandler_frees (answers : CtrlAnswers) (skb : RxSkb) :
    (fsmEeMessageHandler answers skb).frees = 0 := by
  unfold fsmEeMessageHandler
  dsimp only
  split
  · rfl
  split
  · split
    · rfl
    · exact onSuccess_frees (portCtlSendMsgToMd_frees _ _ _) (appendEvent_frees _ _ _ _)
  split
  · split
    · rfl
    · exact appendEvent_frees _ _ _ _
  split
  · exact appendEvent_frees _ _ _ _
  · rfl

theorem controlMsgHandler_frees (rxCh : BitVec 16) (answers : CtrlAnswers) (skb : RxSkb) :
    (controlMsgHandler rxCh answers skb).frees =
      if (ctrlMsgHeader skb).ctrlMsgId ∈ freeingMsgIds then 1 else 0 := by
  have freeing : (ctrlMsgHeader skb).ctrlMsgId ∈ freeingMsgIds ↔
      (ctrlMsgHeader skb).ctrlMsgId = CTL_ID_HS2_MSG ∨ (ctrlMsgHeader skb).ctrlMsgId ∈ eeMsgIds :=
    List.mem_cons
  unfold controlMsgHandler
  dsimp only
  by_cases hs2 : (ctrlMsgHeader skb).ctrlMsgId = CTL_ID_HS2_MSG
  · rw [if_pos hs2, if_pos (freeing.mpr (Or.inl hs2))]
    refine congrArg Nat.succ ?_
    show (ite _ _ _ : CtrlRun).frees = 0
    split
    · exact appendEvent_frees _ _ _ _
    · rfl
  rw [if_neg hs2]
  by_cases ee : (ctrlMsgHeader skb).ctrlMsgId ∈ eeMsgIds
  · rw [if_pos ee, if_pos (freeing.mpr (Or.inr ee))]
    exact congrArg Nat.succ (fsmEeMessageHandler_frees answers skb)
  have other : ¬ (ctrlMsgHeader skb).ctrlMsgId ∈ freeingMsgIds := by
    rw [freeing]
    rintro (same | same)
    · exact hs2 same
    · exact ee same
  rw [if_neg ee, if_neg other]
  split
  · exact portCtlSendMsgToMd_frees _ _ _
  · rfl

theorem freeList_books (skbs : List RxSkb) (s : CtrlPort) :
    (CtrlPort.freeList skbs s).accepted = s.accepted ∧
      (CtrlPort.freeList skbs s).thread = s.thread ∧ (CtrlPort.freeList skbs s).rxSkbList = [] ∧
      ∀ id, (CtrlPort.freeList skbs s).frees id = s.frees id + (skbs.map RxSkb.id).count id := by
  induction skbs generalizing s with
  | nil => exact ⟨rfl, rfl, rfl, fun _ => rfl⟩
  | cons skb rest ih =>
    obtain ⟨accepted, thread, list, frees⟩ := ih (s.freed skb 1)
    refine ⟨accepted, thread, list, fun id => (frees id).trans ?_⟩
    rw [List.map_cons, List.count_cons]
    show Function.update s.frees skb.id (s.frees skb.id + 1) id + _ = _
    by_cases same : id = skb.id
    · rw [same, Function.update_self]
      simp only [BEq.rfl, if_true]
      omega
    · rw [Function.update_of_ne same, if_neg (by simpa using Ne.symm same), Nat.add_zero]

theorem moved_books {thread : CtrlThread} (free : s.thread.held = []) (still : thread.held = []) :
    SameBooks s { s with thread := thread } := by
  refine ⟨rfl, fun id => ?_⟩
  unfold CtrlPort.balance CtrlPort.held
  dsimp only
  rw [free, still]

theorem takeSkb_books (free : s.thread.held = []) : SameBooks s s.takeSkb := by
  unfold CtrlPort.takeSkb
  split
  · exact moved_books free rfl
  · split
    · exact ⟨rfl, fun _ => rfl⟩
    · rename_i skb rest waits
      refine ⟨rfl, fun id => ?_⟩
      unfold CtrlPort.balance CtrlPort.held
      rw [free, waits]
      rfl

theorem takeSkb_frame (s : CtrlPort) :
    s.takeSkb.life = s.life ∧ (s.takeSkb.thread = .none → s.thread = .none) := by
  unfold CtrlPort.takeSkb
  split
  · exact ⟨rfl, nofun⟩
  · split
    · exact ⟨rfl, id⟩
    · exact ⟨rfl, nofun⟩

theorem threadStep_spec {interrupted : Bool} (taken : s.threadStep interrupted = some t) :
    SameBooks s t ∧ t.life = s.life ∧ t.thread ≠ .none := by
  unfold CtrlPort.threadStep at taken
  split at taken
  · rename_i here
    have free : s.thread.held = [] := by rw [here]; rfl
    cases taken
    refine ⟨moved_books free ?_, rfl, ?_⟩
    · split
      · rfl
      · rfl
    · show (ite _ _ _ : CtrlThread) ≠ .none
      split
      · exact nofun
      · exact nofun
  · rename_i here
    have free : s.thread.held = [] := by rw [here]; rfl
    have some : s.thread ≠ .none := by rw [here]; exact nofun
    cases taken
    split
    · exact ⟨moved_books free rfl, rfl, nofun⟩
    · obtain ⟨life, thread⟩ := takeSkb_frame s
      exact ⟨takeSkb_books free, life, fun none => some (thread none)⟩
  · rename_i here
    have free : s.thread.held = [] := by rw [here]; rfl
    have some : s.thread ≠ .none := by rw [here]; exact nofun
    split at taken
    · cases taken
      exact ⟨moved_books free rfl, rfl, nofun⟩
    split at taken
    · cases taken
      obtain ⟨life, thread⟩ := takeSkb_frame s
      exact ⟨takeSkb_books free, life, fun none => some (thread none)⟩
    · cases taken
  · cases taken

theorem handle_balance (skb : RxSkb) (handles : s.thread = .handling skb) (times id : Nat) :
    ({ s.freed skb times with thread := .loop } : CtrlPort).balance id + (if id = skb.id then 1 else 0) =
      s.balance id + (if id = skb.id then times else 0) := by
  have held : s.held = skb.id :: s.rxSkbList.map RxSkb.id := by
    unfold CtrlPort.held
    rw [handles]
    rfl
  unfold CtrlPort.balance
  rw [held, List.count_cons]
  show Function.update s.frees skb.id (s.frees skb.id + times) id +
    (s.rxSkbList.map RxSkb.id).count id + _ = _
  by_cases same : id = skb.id
  · rw [same, Function.update_self]
    simp only [BEq.rfl, if_true]
    omega
  · rw [Function.update_of_ne same, if_neg same, if_neg same, if_neg (by simpa using Ne.symm same)]
    rfl

theorem enqueueSkb_accepts (skb : RxSkb) (room : ¬ s.rxSkbList.length ≥ s.rxLengthTh) (id : Nat) :
    (s.enqueueSkb skb).balance id = s.balance id + if id = skb.id then 1 else 0 := by
  unfold CtrlPort.enqueueSkb
  rw [if_neg room]
  unfold CtrlPort.balance CtrlPort.held
  dsimp only
  rw [List.map_append, ← List.append_assoc, List.count_append]
  show _ + (_ + List.count id [skb.id]) = _
  rw [List.count_singleton]
  by_cases same : id = skb.id
  · rw [same, if_pos rfl, if_pos BEq.rfl]
    omega
  · rw [if_neg same, if_neg (by simpa using Ne.symm same)]
    omega

theorem drain_books (s : CtrlPort) :
    SameBooks s { CtrlPort.freeList s.rxSkbList s with rxLengthTh := 0, life := .idle } := by
  obtain ⟨accepted, thread, list, frees⟩ := freeList_books s.rxSkbList s
  refine ⟨accepted, fun id => ?_⟩
  unfold CtrlPort.balance CtrlPort.held
  dsimp only
  rw [thread, list, frees, List.count_append, List.count_append]
  show _ + (_ + 0) = _
  omega

end Books

section Runs

variable {s t : CtrlPort} {label : CtrlLabel}

theorem other_books (inv : CtrlInv s) (taken : s.step label = some t)
    (arrives : ∀ skb, label ≠ .enqueueSkb skb) (handles : ∀ answers, label ≠ .handleMsg answers) :
    SameBooks s t ∧ (t.life = .idle → t.thread = .none → t.rxLengthTh ≤ 0 ∧ t.rxSkbList = []) ∧
      (t.life = .starting → t.thread ≠ .none) := by
  cases label with
  | enqueueSkb skb => exact absurd rfl (arrives skb)
  | handleMsg answers => exact absurd rfl (handles answers)
  | threadStep interrupted =>
    obtain ⟨books, _, some⟩ := threadStep_spec taken
    exact ⟨books, fun _ none => absurd none some, fun _ => some⟩
  | init started =>
    simp only [CtrlPort.step] at taken
    split at taken
    · rename_i idle none
      obtain ⟨closed, empty⟩ := inv.quiet idle none
      have free : s.thread.held = [] := by rw [none]; rfl
      split at taken
      · cases taken
        refine ⟨⟨rfl, fun id => ?_⟩, nofun, fun _ => nofun⟩
        unfold CtrlPort.balance CtrlPort.held
        rw [free, empty]
        rfl
      · cases taken
        refine ⟨⟨rfl, fun id => ?_⟩, fun _ _ => ⟨closed, rfl⟩, fun starts => ?_⟩
        · unfold CtrlPort.balance CtrlPort.held
          rw [empty]
        · exact absurd (idle.symm.trans starts) nofun
    · cases taken
  | initLength =>
    simp only [CtrlPort.step] at taken
    split at taken
    · rename_i starts
      cases taken
      exact ⟨⟨rfl, fun _ => rfl⟩, fun _ none => absurd none (inv.starting starts), nofun⟩
    · cases taken
  | uninit =>
    simp only [CtrlPort.step] at taken
    split at taken
    · cases taken
      exact ⟨⟨rfl, fun _ => rfl⟩, nofun, nofun⟩
    · cases taken
      exact ⟨⟨rfl, fun _ => rfl⟩, nofun, nofun⟩
    · cases taken
  | joinThread =>
    simp only [CtrlPort.step] at taken
    split at taken
    · rename_i gone
      have free : s.thread.held = [] := by rw [gone]; rfl
      have moved : SameBooks s { s with thread := .none } := moved_books free rfl
      cases taken
      exact ⟨⟨rfl, moved.balance⟩, nofun, nofun⟩
    · cases taken
  | drain =>
    simp only [CtrlPort.step] at taken
    split at taken
    · cases taken
      refine ⟨drain_books s, fun _ _ => ⟨Int.le_refl 0, ?_⟩, nofun⟩
      exact (freeList_books s.rxSkbList s).2.2.1
    · cases taken

theorem enqueue_step (skb : RxSkb) (inv : CtrlInv s) (once : FreedOnce s)
    (fresh : skb.id ∉ s.accepted.map RxSkb.id) :
    CtrlInv (s.enqueueSkb skb) ∧ FreedOnce (s.enqueueSkb skb) := by
  by_cases full : s.rxSkbList.length ≥ s.rxLengthTh
  · unfold CtrlPort.enqueueSkb
    rw [if_pos full]
    exact ⟨inv, once⟩
  have balance := enqueueSkb_accepts skb full
  have taken : s.enqueueSkb skb =
      { s with rxSkbList := s.rxSkbList ++ [skb], accepted := s.accepted ++ [skb] } := if_neg full
  refine ⟨⟨fun id other => ?_, fun idle none => ?_, ?_⟩, fun member accepted => ?_⟩
  · rw [taken] at other
    simp only [List.map_append, List.mem_append, not_or] at other
    have another : id ≠ skb.id := fun same => other.2 (List.mem_singleton.mpr same)
    rw [balance, inv.unseen id other.1, if_neg another]
  · rw [taken] at idle none
    obtain ⟨closed, empty⟩ := inv.quiet idle none
    rw [empty] at full
    exact absurd closed full
  · rw [taken]
    exact inv.starting
  · rw [taken] at accepted
    rw [balance]
    rcases List.mem_append.mp accepted with before | here
    · have other : member.id ≠ skb.id := fun same => fresh (same ▸ List.mem_map_of_mem before)
      rw [if_neg other]
      exact once member before
    · rw [List.mem_singleton.mp here, if_pos rfl, inv.unseen skb.id fresh]

theorem handle_step (skb : RxSkb) (answers : CtrlAnswers) (inv : CtrlInv s) (once : FreedOnce s)
    (handles : s.thread = .handling skb) {t : CtrlPort}
    (handled : t = { s.freed skb (controlMsgHandler s.rxCh answers skb).frees with thread := .loop }) :
    CtrlInv t ∧ (FreedOnce t ↔ (ctrlMsgHeader skb).ctrlMsgId ∈ freeingMsgIds) := by
  have balance (id : Nat) : t.balance id + (if id = skb.id then 1 else 0) = s.balance id +
      (if id = skb.id then (controlMsgHandler s.rxCh answers skb).frees else 0) := by
    rw [handled]
    exact handle_balance skb handles _ id
  have accepted : t.accepted = s.accepted := by rw [handled]; rfl
  have owned : skb.id ∈ s.accepted.map RxSkb.id := by
    by_contra fresh
    have none := inv.unseen skb.id fresh
    have here := balance skb.id
    have held : s.held = skb.id :: s.rxSkbList.map RxSkb.id := by
      unfold CtrlPort.held
      rw [handles]
      rfl
    unfold CtrlPort.balance at none
    rw [held, List.count_cons_self] at none
    omega
  have others {id : Nat} (other : id ≠ skb.id) : t.balance id = s.balance id := by
    have same := balance id
    rw [if_neg other, if_neg other] at same
    exact same
  have self : t.balance skb.id = (controlMsgHandler s.rxCh answers skb).frees := by
    obtain ⟨member, before, same⟩ := List.mem_map.mp owned
    have one := once member before
    have here := balance skb.id
    rw [same] at one
    rw [if_pos rfl, if_pos rfl, one] at here
    omega
  refine ⟨⟨fun id fresh => ?_, ?_, ?_⟩, ?_⟩
  · rw [accepted] at fresh
    have other : id ≠ skb.id := fun same => fresh (same ▸ owned)
    rw [others other]
    exact inv.unseen id fresh
  · rw [handled]
    exact nofun
  · rw [handled]
    exact fun _ => nofun
  · rw [controlMsgHandler_frees] at self
    constructor
    · intro after
      obtain ⟨member, before, same⟩ := List.mem_map.mp owned
      have one := after member (accepted ▸ before)
      rw [same, self] at one
      by_contra leaves
      rw [if_neg leaves] at one
      cases one
    · intro freeing member before
      rw [accepted] at before
      by_cases here : member.id = skb.id
      · rw [here, self, if_pos freeing]
      · rw [others here]
        exact once member before

theorem step_freedOnce (inv : CtrlInv s) (once : FreedOnce s) (taken : s.step label = some t) :
    CtrlInv t ∧ (FreedOnce t ↔ HandlesFreeing s label) := by
  by_cases arrives : ∃ skb, label = .enqueueSkb skb
  · obtain ⟨skb, rfl⟩ := arrives
    simp only [CtrlPort.step] at taken
    split at taken
    · cases taken
    · rename_i fresh
      cases taken
      obtain ⟨kept, after⟩ := enqueue_step skb inv once fresh
      exact ⟨kept, iff_of_true after trivial⟩
  by_cases handled : ∃ answers, label = .handleMsg answers
  · obtain ⟨answers, rfl⟩ := handled
    simp only [CtrlPort.step] at taken
    unfold HandlesFreeing
    split at taken
    · rename_i skb handles
      cases taken
      exact handle_step skb answers inv once handles rfl
    · cases taken
  obtain ⟨books, quiet, starting⟩ := other_books inv taken (fun skb same => arrives ⟨skb, same⟩)
    (fun answers same => handled ⟨answers, same⟩)
  refine ⟨⟨books.unseen inv.unseen, quiet, starting⟩, iff_of_true (books.freedOnce_iff.mpr once) ?_⟩
  cases label with
  | handleMsg answers => exact absurd ⟨answers, rfl⟩ handled
  | _ => exact trivial

/-- Each message that a control port accepts is freed once exactly in the runs in which every message
    that its thread handles is of a type that is freed. -/
theorem freed_once_iff_freeing_types (rxCh : BitVec 16) (labels : List CtrlLabel) :
    Visits FreedOnce CtrlPort.step (ctrlPortInit rxCh) labels ↔
      Obeys HandlesFreeing CtrlPort.step (ctrlPortInit rxCh) labels := by
  apply visits_iff_obeys CtrlInv
  · exact fun _ _ _ inv once taken => (step_freedOnce inv once taken).1
  · exact fun _ _ _ inv once taken => (step_freedOnce inv once taken).2
  · exact ⟨fun _ _ => rfl, fun _ _ => ⟨Int.le_refl 0, rfl⟩, nofun⟩
  · exact nofun

/-- A port enumeration message is handled and never freed. -/
def enumLeakLabels : List CtrlLabel :=
  [.init true, .initLength, .enqueueSkb portEnumSkb, .threadStep false, .threadStep false,
    .handleMsg workingAnswers]

theorem port_enum_message_leaks :
    ¬ Visits FreedOnce CtrlPort.step (ctrlPortInit Cldma.PORT_CH_CONTROL_RX) enumLeakLabels := by
  decide

end Runs

end T7xxModel.Port
