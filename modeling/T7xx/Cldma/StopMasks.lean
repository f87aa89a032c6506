import Mathlib.Data.List.Nodup
import T7xx.Cldma.LateInit
import T7xx.Transition.Runs

namespace T7xxModel.Cldma

open Transition

/-- The L2 interrupts of a queue, of `TXRX_STATUS_BITMASK` and of `EMPTY_STATUS_BITMASK`. -/
inductive L2Int where
  | done
  | empty
deriving DecidableEq, Repr

/-- The accesses of `t7xx_cldma_stop`; `mask` is one of the two writes of `t7xx_cldma_hw_stop`. -/
inductive StopOp where
  | inactive (dir : Dir)
  | disableIrq
  | mask (int : L2Int) (dir : Dir)
  | flush (dir : Dir) (q : Qno)
  | poll
deriving DecidableEq, Repr

/-- What is left to do of `t7xx_cldma_irq_work_cb`. -/
inductive HandlerOp where
  | reads (dir : Dir)
  | mask (int : L2Int) (dir : Dir) (q : Qno)
  | queueWork (dir : Dir) (q : Qno)
deriving DecidableEq, Repr

/-- `enabling` has the interrupts that a work still has to enable before it returns. -/
inductive WorkAt where
  | collecting
  | enabling (left : List L2Int)
deriving DecidableEq, Repr

structure StopWork where
  pending : Bool
  run : Option WorkAt
  completed : Nat
deriving DecidableEq, Repr

/-- A controller with the call of `t7xx_cldma_stop`, which has made `stopped` of its accesses. `raised`
    is an interrupt whose handler has not begun, `flushing` how many executions `flush_work` waits for. -/
structure StopCtrl where
  isLateInit : Bool
  active : Dir → Qno → Bool
  unmasked : L2Int → Dir → Qno → Bool
  l1On : Bool
  raised : Bool
  handler : Option (List HandlerOp)
  work : Dir → Qno → StopWork
  stopped : Nat
  flushing : Option Nat

/-- `isr` is the next access of `t7xx_cldma_irq_work_cb`, with the raw status bits if it reads them.
    `workDecides` has whether the work found more to do. -/
inductive StopLabel where
  | stop
  | raise
  | isrBegin
  | isr (status : L2Int → Qno → Bool)
  | isrEnd
  | workBegin (dir : Dir) (q : Qno)
  | workDecides (dir : Dir) (q : Qno) (again : Bool)
  | workEnables (dir : Dir) (q : Qno)
  | workEnds (dir : Dir) (q : Qno)

section Steps

def flushOps : List StopOp := (List.finRange _).map (.flush .tx) ++ (List.finRange _).map (.flush .rx)

def stopOps (isLateInit : Bool) : List StopOp :=
  [StopOp.inactive .rx, StopOp.inactive .tx, StopOp.disableIrq, StopOp.mask .done .rx, StopOp.mask .empty .rx,
    StopOp.mask .done .tx, StopOp.mask .empty .tx] ++ (if isLateInit then flushOps else []) ++ [StopOp.poll]

def serviceOps (dir : Dir) (q : Qno) : List HandlerOp :=
  [.mask .empty dir q, .mask .done dir q, .queueWork dir q]

/-- The empty interrupt of a TX queue alone does not queue its work. -/
def foundOps (dir : Dir) (found : L2Int → Qno → Bool) : List HandlerOp :=
  (List.finRange _).flatMap fun q =>
    if found .done q || (dir = .rx && found .empty q) then serviceOps dir q else []

namespace StopWork

def owed (w : StopWork) : Nat := (if w.pending then 1 else 0) + if w.run = none then 0 else 1

def begins (w : StopWork) : Option StopWork :=
  if w.pending = true ∧ w.run = none then some { w with pending := false, run := some .collecting }
  else none

/-- `t7xx_cldma_tx_done` queues itself whatever `txq_active` is, and enables only an active queue;
    `t7xx_cldma_rx_done` queues itself on an active queue only, and else enables. -/
def decides (dir : Dir) (active again : Bool) (w : StopWork) : Option StopWork :=
  if w.run ≠ some .collecting then none
  else
    let queued := { w with pending := true, run := none, completed := w.completed + 1 }
    match dir with
    | .tx =>
      if again then some queued
      else some { w with run := some (.enabling (if active then [.empty, .done] else [])) }
    | .rx =>
      if again && active then some queued
      else some { w with run := some (.enabling [.done, .empty]) }

def ends (w : StopWork) : Option StopWork :=
  if w.run = some (.enabling []) then some { w with run := none, completed := w.completed + 1 } else none

end StopWork

namespace StopCtrl

def setWork (s : StopCtrl) (dir : Dir) (q : Qno) (w : StopWork) : StopCtrl :=
  { s with work := fun d p => if d = dir ∧ p = q then w else s.work d p }

def setMask (s : StopCtrl) (int : L2Int) (dir : Dir) (q : Qno) (on : Bool) : StopCtrl :=
  { s with unmasked := fun i d p => if i = int ∧ d = dir ∧ p = q then on else s.unmasked i d p }

def hwStop (s : StopCtrl) (int : L2Int) (dir : Dir) : StopCtrl :=
  { s with unmasked := fun i d p => if i = int ∧ d = dir then false else s.unmasked i d p }

/-- `flush_work` waits for what is under way and what is queued when it is called. -/
def flushStep (s : StopCtrl) (dir : Dir) (q : Qno) : Option StopCtrl :=
  match s.flushing with
  | none => some { s with flushing := some ((s.work dir q).completed + (s.work dir q).owed) }
  | some target =>
    if target ≤ (s.work dir q).completed then some { s with flushing := none, stopped := s.stopped + 1 }
    else none

def nextOp (s : StopCtrl) : Option StopOp := (stopOps s.isLateInit)[s.stopped]?

def stopStep (s : StopCtrl) : Option StopCtrl :=
  let done := { s with stopped := s.stopped + 1 }
  match s.nextOp with
  | none => none
  | some (.inactive dir) =>
    some { done with active := fun d p => if d = dir then false else s.active d p }
  | some .disableIrq => some { done with l1On := false }
  | some (.mask int dir) => some (done.hwStop int dir)
  | some (.flush dir q) => s.flushStep dir q
  | some .poll => some done

def isrStep (s : StopCtrl) (status : L2Int → Qno → Bool) : Option StopCtrl :=
  match s.handler with
  | none | some [] => none
  | some (.reads dir :: ops) =>
    some { s with handler := some (ops ++ foundOps dir fun int q => status int q && s.unmasked int dir q) }
  | some (.mask int dir q :: ops) => some { s.setMask int dir q false with handler := some ops }
  | some (.queueWork dir q :: ops) =>
    some { s.setWork dir q { s.work dir q with pending := true } with handler := some ops }

def workEnables (s : StopCtrl) (dir : Dir) (q : Qno) : Option StopCtrl :=
  match (s.work dir q).run with
  | some (.enabling (int :: left)) =>
    some ((s.setMask int dir q true).setWork dir q { s.work dir q with run := some (.enabling left) })
  | _ => none

/-- A step of `t7xx_cldma_stop`, of the handler or of a work. `t7xx_cldma_stop` does not take `cldma_lock`,
    under which `t7xx_cldma_tx_done` reads `txq_active` and enables. -/
def step (s : StopCtrl) : StopLabel → Option StopCtrl
  | .stop => s.stopStep
  | .raise => if s.l1On then some { s with raised := true } else none
  | .isrBegin =>
    if s.raised = true ∧ s.handler = none then
      some { s with raised := false, l1On := false, handler := some [.reads .tx, .reads .rx] }
    else none
  | .isr status => s.isrStep status
  | .isrEnd => if s.handler = some [] then some { s with handler := none, l1On := true } else none
  | .workBegin dir q => (s.work dir q).begins.map (s.setWork dir q)
  | .workDecides dir q again => ((s.work dir q).decides dir (s.active dir q) again).map (s.setWork dir q)
  | .workEnables dir q => s.workEnables dir q
  | .workEnds dir q => (s.work dir q).ends.map (s.setWork dir q)

def Returned (s : StopCtrl) : Prop := s.stopped = (stopOps s.isLateInit).length

/-- Once `t7xx_cldma_stop` has returned and nothing is still executing, everything is off. -/
def StoppedOff (s : StopCtrl) : Prop :=
  s.isLateInit = true → s.Returned → s.handler = none → (∀ dir q, (s.work dir q).run = none) →
    (∀ dir q, s.active dir q = false) ∧ s.l1On = false ∧ ∀ int dir q, s.unmasked int dir q = false

def Settled (s : StopCtrl) : Prop :=
  s.isLateInit = true ∧ s.Returned ∧ s.handler = none ∧ s.raised = false ∧
    ∀ dir q, (s.work dir q).run = none ∧ (s.work dir q).pending = false

end StopCtrl

/-- A work that still has to enable an interrupt, also of a queue that is no longer active. -/
def StopWork.willEnable (w : StopWork) (dir : Dir) (int : L2Int) : Bool :=
  (w.pending && dir = .rx) ||
    match w.run with
    | none => false
    | some .collecting => dir = .rx
    | some (.enabling left) => left.contains int

/-- `t7xx_cldma_stop` disables the L1 interrupt when no handler is under way, and masks the L2 interrupts
    of a direction when none of its works will still enable them. -/
def StopCtrl.Finds (s : StopCtrl) : Option StopOp → Prop
  | some .disableIrq => s.raised = false ∧ s.handler = none
  | some (.mask int dir) => ∀ q, (s.work dir q).willEnable dir int = false
  | _ => True

instance (s : StopCtrl) : (op : Option StopOp) → Decidable (s.Finds op)
  | none | some (.inactive _) | some (.flush _ _) | some .poll => inferInstanceAs (Decidable True)
  | some .disableIrq => inferInstanceAs (Decidable (s.raised = false ∧ s.handler = none))
  | some (.mask int dir) => inferInstanceAs (Decidable (∀ q, (s.work dir q).willEnable dir int = false))

def StopFinds (s : StopCtrl) : StopLabel → Prop
  | .stop => s.Finds s.nextOp
  | _ => True

instance (s : StopCtrl) : (label : StopLabel) → Decidable (StopFinds s label)
  | .stop => inferInstanceAs (Decidable (s.Finds s.nextOp))
  | .raise | .isrBegin | .isr _ | .isrEnd | .workBegin _ _ | .workDecides _ _ _ | .workEnables _ _ | .workEnds _ _ =>
    inferInstanceAs (Decidable True)

end Steps

section Program

variable {α : Type*} [DecidableEq α]

/-- In a program that has each operation once, a step past `op` adds `op` to those done. -/
theorem idxOf_lt_succ_iff {program : List α} (nodup : program.Nodup) {n : Nat} {op : α}
    (next : program[n]? = some op) (other : α) :
    program.idxOf other < n + 1 ↔ program.idxOf other < n ∨ other = op := by
  obtain ⟨below, here⟩ := List.getElem?_eq_some_iff.mp next
  have place : program.idxOf op = n := by
    rw [← here]
    exact nodup.idxOf_getElem n below
  rw [Nat.lt_succ_iff_lt_or_eq]
  refine or_congr_right ⟨fun same => ?_, fun same => same ▸ place⟩
  exact (List.idxOf_inj (List.idxOf_lt_length_iff.mp (same ▸ below))).mp (same.trans place.symm)

theorem stopOps_nodup (isLateInit : Bool) : (stopOps isLateInit).Nodup := by
  cases isLateInit <;> decide

end Program

section Progress

variable {s t : StopCtrl} {label : StopLabel}

def StopCtrl.Did (s : StopCtrl) (op : StopOp) : Prop := (stopOps s.isLateInit).idxOf op < s.stopped

theorem did_succ {op : StopOp} (next : s.nextOp = some op) (same : t.isLateInit = s.isLateInit)
    (moved : t.stopped = s.stopped + 1) (other : StopOp) : t.Did other ↔ s.Did other ∨ other = op := by
  unfold StopCtrl.Did
  rw [same, moved]
  exact idxOf_lt_succ_iff (stopOps_nodup _) next other

theorem not_did_next {op : StopOp} (next : s.nextOp = some op) : ¬ s.Did op := by
  obtain ⟨below, here⟩ := List.getElem?_eq_some_iff.mp next
  unfold StopCtrl.Did
  rw [← here, (stopOps_nodup _).idxOf_getElem s.stopped below]
  exact Nat.lt_irrefl _

/-- `t7xx_cldma_stop` masks an interrupt after it has cleared the active bits and disabled L1. -/
theorem did_before_mask {int : L2Int} {dir : Dir} (did : s.Did (.mask int dir)) :
    s.Did .disableIrq ∧ s.Did (.inactive dir) := by
  have order : (stopOps s.isLateInit).idxOf .disableIrq < (stopOps s.isLateInit).idxOf (.mask int dir) ∧
      (stopOps s.isLateInit).idxOf (.inactive dir) < (stopOps s.isLateInit).idxOf (.mask int dir) := by
    cases s.isLateInit <;> cases int <;> cases dir <;> decide
  exact ⟨order.1.trans did, order.2.trans did⟩

theorem did_when_returned (returned : s.Returned) {op : StopOp} (member : op ∈ stopOps s.isLateInit) : s.Did op := by
  unfold StopCtrl.Did
  rw [returned]
  exact List.idxOf_lt_length_iff.mpr member

theorem mem_stopOps (isLateInit : Bool) (int : L2Int) (dir : Dir) :
    .inactive dir ∈ stopOps isLateInit ∧ .disableIrq ∈ stopOps isLateInit ∧ .mask int dir ∈ stopOps isLateInit := by
  cases isLateInit <;> cases int <;> cases dir <;> decide

end Progress

section Steps

variable {s t : StopCtrl} {label : StopLabel}

def StopCtrl.Quiet (s : StopCtrl) : Prop := s.l1On = false ∧ s.raised = false ∧ s.handler = none

def StopCtrl.MaskedOff (s : StopCtrl) (int : L2Int) (dir : Dir) (q : Qno) : Prop :=
  s.unmasked int dir q = false ∧ (s.work dir q).willEnable dir int = false

def StopCtrl.Inactive (s : StopCtrl) : Prop := ∀ dir, s.Did (.inactive dir) → ∀ q, s.active dir q = false

structure LeftOff (s : StopCtrl) : Prop where
  irq : s.Did .disableIrq → s.Quiet
  masked : ∀ int dir, s.Did (.mask int dir) → ∀ q, s.MaskedOff int dir q

/-- A step of the handler or of a work moves neither `t7xx_cldma_stop` nor what only that call writes. -/
structure Aside (s t : StopCtrl) : Prop where
  isLateInit : t.isLateInit = s.isLateInit
  stopped : t.stopped = s.stopped
  active : t.active = s.active

theorem Aside.did (aside : Aside s t) (op : StopOp) : t.Did op ↔ s.Did op := by
  unfold StopCtrl.Did
  rw [aside.isLateInit, aside.stopped]

theorem Aside.inactive (aside : Aside s t) (inactive : s.Inactive) : t.Inactive := by
  intro dir did
  rw [aside.active]
  exact inactive dir ((aside.did _).mp did)

/-- While a handler is under way, or may come, nothing was switched off. -/
theorem loud_leftOff_iff (loud : ¬ s.Quiet) : LeftOff s ↔ ¬ s.Did .disableIrq := by
  refine ⟨fun off did => loud (off.irq did), fun before => ⟨fun did => absurd did before, ?_⟩⟩
  exact fun int dir did => absurd (did_before_mask did).1 before

theorem loud_step (aside : Aside s t) (before : ¬ s.Quiet) (after : ¬ t.Quiet) :
    Aside s t ∧ (LeftOff t ↔ LeftOff s) := by
  rw [loud_leftOff_iff before, loud_leftOff_iff after, aside.did]
  exact ⟨aside, Iff.rfl⟩

theorem quiet_step (aside : Aside s t) (inactive : s.Inactive) (quiet : t.Quiet ↔ s.Quiet)
    (off : ∀ int dir q, s.active dir q = false → (t.MaskedOff int dir q ↔ s.MaskedOff int dir q)) :
    Aside s t ∧ (LeftOff t ↔ LeftOff s) := by
  have irq : (t.Did .disableIrq → t.Quiet) ↔ (s.Did .disableIrq → s.Quiet) := imp_congr (aside.did _) quiet
  have masked : (∀ int dir, t.Did (.mask int dir) → ∀ q, t.MaskedOff int dir q) ↔
      ∀ int dir, s.Did (.mask int dir) → ∀ q, s.MaskedOff int dir q := by
    refine forall_congr' fun int => forall_congr' fun dir => ?_
    rw [aside.did]
    refine imp_congr_right fun did => forall_congr' fun q => off int dir q ?_
    exact inactive dir (did_before_mask did).2 q
  refine ⟨aside, fun all => ?_, fun all => ?_⟩
  · exact ⟨irq.mp all.irq, masked.mp all.masked⟩
  · exact ⟨irq.mpr all.irq, masked.mpr all.masked⟩

theorem isr_loud {status : L2Int → Qno → Bool} (taken : s.isrStep status = some t) :
    Aside s t ∧ ¬ s.Quiet ∧ ¬ t.Quiet := by
  unfold StopCtrl.isrStep at taken
  have busy {u : StopCtrl} {ops : List HandlerOp} (handler : u.handler = some ops) : ¬ u.Quiet := by
    intro quiet
    exact absurd (handler.symm.trans quiet.2.2) nofun
  split at taken
  · cases taken
  · cases taken
  · rename_i handler
    cases taken
    exact ⟨⟨rfl, rfl, rfl⟩, busy handler, busy rfl⟩
  · rename_i handler
    cases taken
    exact ⟨⟨rfl, rfl, rfl⟩, busy handler, busy rfl⟩
  · rename_i handler
    cases taken
    exact ⟨⟨rfl, rfl, rfl⟩, busy handler, busy rfl⟩

theorem setWork_off {w : StopWork} {dir : Dir} {q : Qno}
    (same : ∀ int, w.willEnable dir int = (s.work dir q).willEnable dir int) (int : L2Int) (d : Dir) (p : Qno) :
    (s.setWork dir q w).MaskedOff int d p ↔ s.MaskedOff int d p := by
  unfold StopCtrl.MaskedOff StopCtrl.setWork
  refine and_congr_right fun _ => ?_
  dsimp only
  by_cases here : d = dir ∧ p = q
  · obtain ⟨rfl, rfl⟩ := here
    rw [if_pos ⟨rfl, rfl⟩, same]
  · rw [if_neg here]

theorem begins_willEnable {w after : StopWork} (taken : w.begins = some after) (dir : Dir) (int : L2Int) :
    after.willEnable dir int = w.willEnable dir int := by
  unfold StopWork.begins at taken
  split at taken
  · rename_i ready
    cases taken
    unfold StopWork.willEnable
    rw [ready.1, ready.2]
    cases dir <;> rfl
  · cases taken

theorem ends_willEnable {w after : StopWork} (taken : w.ends = some after) (dir : Dir) (int : L2Int) :
    after.willEnable dir int = w.willEnable dir int := by
  unfold StopWork.ends at taken
  split at taken
  · rename_i finished
    cases taken
    unfold StopWork.willEnable
    rw [finished]
    rfl
  · cases taken

/-- On an inactive queue `t7xx_cldma_tx_done` enables nothing, and `t7xx_cldma_rx_done` enables both. -/
theorem decides_willEnable {w after : StopWork} {dir : Dir} {again : Bool}
    (taken : w.decides dir false again = some after) (int : L2Int) :
    after.willEnable dir int = w.willEnable dir int := by
  unfold StopWork.decides at taken
  split at taken
  · cases taken
  rename_i collecting
  have collecting := not_not.mp collecting
  cases dir with
  | tx =>
    cases again with
    | true =>
      cases taken
      unfold StopWork.willEnable
      rw [collecting]
      simp
    | false =>
      cases taken
      unfold StopWork.willEnable
      rw [collecting]
      rfl
  | rx =>
    have enables : some { w with run := some (.enabling [.done, .empty]) } = some after := by
      cases again <;> exact taken
    cases enables
    unfold StopWork.willEnable
    rw [collecting]
    cases int <;> simp

theorem workEnables_off {dir : Dir} {q : Qno} (taken : s.workEnables dir q = some t) (int : L2Int) (d : Dir) (p : Qno) :
    t.MaskedOff int d p ↔ s.MaskedOff int d p := by
  unfold StopCtrl.workEnables at taken
  split at taken
  · rename_i enabled left run
    cases taken
    unfold StopCtrl.MaskedOff StopCtrl.setMask StopCtrl.setWork StopWork.willEnable
    dsimp only
    by_cases here : d = dir ∧ p = q
    · obtain ⟨rfl, rfl⟩ := here
      rw [run]
      by_cases same : int = enabled
      · subst same
        simp
      · simp [same]
    · rw [if_neg here, if_neg fun all => here all.2]
  · cases taken

theorem aside_exact (other : label ≠ .stop) (inactive : s.Inactive) (taken : s.step label = some t) :
    Aside s t ∧ (LeftOff t ↔ LeftOff s) := by
  cases label with
  | stop => exact absurd rfl other
  | raise =>
    simp only [StopCtrl.step] at taken
    split at taken
    · rename_i enabled
      cases taken
      refine loud_step ⟨rfl, rfl, rfl⟩ (fun quiet => ?_) fun quiet => absurd quiet.2.1 nofun
      exact absurd (enabled.symm.trans quiet.1) nofun
    · cases taken
  | isrBegin =>
    simp only [StopCtrl.step] at taken
    split at taken
    · rename_i ready
      cases taken
      refine loud_step ⟨rfl, rfl, rfl⟩ (fun quiet => ?_) fun quiet => absurd quiet.2.2 nofun
      exact absurd (ready.1.symm.trans quiet.2.1) nofun
    · cases taken
  | isr status =>
    obtain ⟨aside, before, after⟩ := isr_loud taken
    exact loud_step aside before after
  | isrEnd =>
    simp only [StopCtrl.step] at taken
    split at taken
    · rename_i finished
      cases taken
      refine loud_step ⟨rfl, rfl, rfl⟩ (fun quiet => ?_) fun quiet => absurd quiet.1 nofun
      exact absurd (finished.symm.trans quiet.2.2) nofun
    · cases taken
  | workBegin dir q =>
    obtain ⟨w, begun, rfl⟩ := Option.map_eq_some_iff.mp taken
    refine quiet_step ⟨rfl, rfl, rfl⟩ inactive Iff.rfl fun int d p _ => ?_
    exact setWork_off (begins_willEnable begun dir) int d p
  | workDecides dir q again =>
    obtain ⟨w, decided, rfl⟩ := Option.map_eq_some_iff.mp taken
    refine quiet_step ⟨rfl, rfl, rfl⟩ inactive Iff.rfl fun int d p idle => ?_
    by_cases here : d = dir ∧ p = q
    · obtain ⟨rfl, rfl⟩ := here
      rw [idle] at decided
      exact setWork_off (decides_willEnable decided) int d p
    · unfold StopCtrl.MaskedOff StopCtrl.setWork
      dsimp only
      rw [if_neg here]
  | workEnables dir q =>
    have off := workEnables_off taken
    simp only [StopCtrl.step, StopCtrl.workEnables] at taken
    split at taken
    · cases taken
      exact quiet_step ⟨rfl, rfl, rfl⟩ inactive Iff.rfl fun int d p _ => off int d p
    · cases taken
  | workEnds dir q =>
    obtain ⟨w, ended, rfl⟩ := Option.map_eq_some_iff.mp taken
    refine quiet_step ⟨rfl, rfl, rfl⟩ inactive Iff.rfl fun int d p _ => ?_
    exact setWork_off (ends_willEnable ended dir) int d p

theorem unmasking_step {op : StopOp} (next : s.nextOp = some op) (same : t.isLateInit = s.isLateInit)
    (moved : t.stopped = s.stopped + 1 ∨ t.stopped = s.stopped) (quiet : t.Quiet ↔ s.Quiet)
    (off : ∀ int dir q, t.MaskedOff int dir q ↔ s.MaskedOff int dir q)
    (other : op ≠ .disableIrq ∧ ∀ int dir, op ≠ .mask int dir) : LeftOff t ↔ LeftOff s ∧ s.Finds s.nextOp := by
  have free : s.Finds s.nextOp := by
    rw [next]
    cases op with
    | disableIrq => exact absurd rfl other.1
    | mask int dir => exact absurd rfl (other.2 int dir)
    | inactive | flush | poll => trivial
  have did (known : StopOp) (differs : known ≠ op) : t.Did known ↔ s.Did known := by
    rcases moved with on | still
    · rw [did_succ next same on, or_iff_left differs]
    · unfold StopCtrl.Did
      rw [same, still]
  have irq := imp_congr (did .disableIrq other.1.symm) quiet
  have masked (int : L2Int) (dir : Dir) : (t.Did (.mask int dir) → ∀ q, t.MaskedOff int dir q) ↔
      (s.Did (.mask int dir) → ∀ q, s.MaskedOff int dir q) :=
    imp_congr (did _ (other.2 int dir).symm) (forall_congr' fun q => off int dir q)
  rw [and_iff_left free]
  exact ⟨fun all => ⟨irq.mp all.irq, fun int dir => (masked int dir).mp (all.masked int dir)⟩,
    fun all => ⟨irq.mpr all.irq, fun int dir => (masked int dir).mpr (all.masked int dir)⟩⟩

theorem hwStop_off (s : StopCtrl) (int i : L2Int) (dir d : Dir) (q : Qno) :
    (s.hwStop int dir).MaskedOff i d q ↔
      if i = int ∧ d = dir then (s.work d q).willEnable d i = false else s.MaskedOff i d q := by
  unfold StopCtrl.MaskedOff StopCtrl.hwStop
  dsimp only
  split
  · exact and_iff_right rfl
  · exact Iff.rfl

theorem flushStep_cases {dir : Dir} {q : Qno} (taken : s.flushStep dir q = some t) :
    ∃ flushing stopped, (stopped = s.stopped + 1 ∨ stopped = s.stopped) ∧ t = { s with flushing, stopped } := by
  unfold StopCtrl.flushStep at taken
  split at taken
  · cases taken
    exact ⟨_, _, .inr rfl, rfl⟩
  · split at taken
    · cases taken
      exact ⟨_, _, .inl rfl, rfl⟩
    · cases taken

/-- Before L1 is disabled nothing was promised, and afterwards it is off if nothing was under way. -/
theorem disableIrq_exact (next : s.nextOp = some .disableIrq) :
    LeftOff { s with stopped := s.stopped + 1, l1On := false } ↔
      LeftOff s ∧ s.raised = false ∧ s.handler = none := by
  have before := not_did_next next
  have did := did_succ (t := { s with stopped := s.stopped + 1, l1On := false }) next rfl rfl
  have unmasked {int : L2Int} {dir : Dir} (d : s.Did (.mask int dir)) : False := before (did_before_mask d).1
  constructor
  · intro off
    obtain ⟨-, raised, handler⟩ := off.irq ((did .disableIrq).mpr (.inr rfl))
    exact ⟨⟨fun d => absurd d before, fun int dir d => (unmasked d).elim⟩, raised, handler⟩
  · rintro ⟨-, raised, handler⟩
    refine ⟨fun _ => ⟨rfl, raised, handler⟩, fun int dir d => ?_⟩
    rcases (did (.mask int dir)).mp d with d | same
    · exact (unmasked d).elim
    · cases same

theorem mask_exact {int : L2Int} {dir : Dir} (next : s.nextOp = some (.mask int dir)) :
    LeftOff ({ s with stopped := s.stopped + 1 }.hwStop int dir) ↔
      LeftOff s ∧ ∀ q, (s.work dir q).willEnable dir int = false := by
  have did := did_succ (t := { s with stopped := s.stopped + 1 }.hwStop int dir) next rfl rfl
  have irq : ({ s with stopped := s.stopped + 1 }.hwStop int dir).Did .disableIrq ↔ s.Did .disableIrq := by
    rw [did, or_iff_left nofun]
  have other {i : L2Int} {d : Dir} (d' : s.Did (.mask i d)) : ¬ (i = int ∧ d = dir) := by
    rintro ⟨rfl, rfl⟩
    exact not_did_next next d'
  constructor
  · intro off
    refine ⟨⟨fun d => off.irq (irq.mpr d), fun i d did' q => ?_⟩, fun q => ?_⟩
    · have kept := off.masked i d ((did _).mpr (.inl did')) q
      rw [hwStop_off, if_neg (other did')] at kept
      exact kept
    · have kept := off.masked int dir ((did _).mpr (.inr rfl)) q
      rw [hwStop_off, if_pos ⟨rfl, rfl⟩] at kept
      exact kept
  · rintro ⟨off, none⟩
    refine ⟨fun d => off.irq (irq.mp d), fun i d did' q => ?_⟩
    rw [hwStop_off]
    rcases (did (.mask i d)).mp did' with before | same
    · rw [if_neg (other before)]
      exact off.masked i d before q
    · cases same
      rw [if_pos ⟨rfl, rfl⟩]
      exact none q

theorem stop_exact (taken : s.stopStep = some t) : LeftOff t ↔ LeftOff s ∧ StopFinds s .stop := by
  unfold StopFinds
  unfold StopCtrl.stopStep at taken
  dsimp only at taken
  split at taken
  · cases taken
  · rename_i next
    cases taken
    exact unmasking_step next rfl (.inl rfl) Iff.rfl (fun _ _ _ => Iff.rfl) ⟨nofun, nofun⟩
  · rename_i next
    cases taken
    rw [next]
    exact disableIrq_exact next
  · rename_i next
    cases taken
    rw [next]
    exact mask_exact next
  · rename_i next
    obtain ⟨flushing, stopped, moved, rfl⟩ := flushStep_cases taken
    exact unmasking_step next rfl moved Iff.rfl (fun _ _ _ => Iff.rfl) ⟨nofun, nofun⟩
  · rename_i next
    cases taken
    exact unmasking_step next rfl (.inl rfl) Iff.rfl (fun _ _ _ => Iff.rfl) ⟨nofun, nofun⟩

theorem stop_inactive (inactive : s.Inactive) (taken : s.stopStep = some t) : t.Inactive := by
  have moved {op : StopOp} (next : s.nextOp = some op) {u : StopCtrl} (same : u.isLateInit = s.isLateInit)
      (on : u.stopped = s.stopped + 1) (others : ∀ dir, op ≠ .inactive dir) (active : u.active = s.active) :
      u.Inactive := by
    intro dir did
    rw [active]
    exact inactive dir (((did_succ next same on _).mp did).resolve_right (others dir).symm)
  unfold StopCtrl.stopStep at taken
  dsimp only at taken
  split at taken
  · cases taken
  · rename_i dir next
    cases taken
    intro d did q
    generalize after : StopCtrl.mk .. = u at did
    have on : u.isLateInit = s.isLateInit ∧ u.stopped = s.stopped + 1 := after ▸ ⟨rfl, rfl⟩
    rw [← after]
    dsimp only
    by_cases here : d = dir
    · exact if_pos here
    · rw [if_neg here]
      refine inactive d (((did_succ next on.1 on.2 _).mp did).resolve_right fun same => ?_) q
      cases same
      exact here rfl
  · rename_i next
    cases taken
    exact moved next rfl rfl nofun rfl
  · rename_i next
    cases taken
    exact moved next rfl rfl nofun rfl
  · rename_i dir q next
    obtain ⟨flushing, stopped, on | still, rfl⟩ := flushStep_cases taken
    · exact moved next rfl on nofun rfl
    · subst still
      exact inactive
  · rename_i next
    cases taken
    exact moved next rfl rfl nofun rfl

theorem stopCtrl_step_exact (inactive : s.Inactive) (taken : s.step label = some t) :
    t.Inactive ∧ (LeftOff t ↔ LeftOff s ∧ StopFinds s label) := by
  by_cases stops : label = .stop
  · subst stops
    exact ⟨stop_inactive inactive taken, stop_exact taken⟩
  · obtain ⟨aside, kept⟩ := aside_exact stops inactive taken
    have free : StopFinds s label := by
      cases label with
      | stop => exact absurd rfl stops
      | _ => exact trivial
    exact ⟨aside.inactive inactive, kept.trans (and_iff_left free).symm⟩

end Steps

section Runs

variable {s t : StopCtrl} {labels : List StopLabel}

def StopCtrl.Begins (s : StopCtrl) : Prop := s.stopped = 0 ∧ s.flushing = none

theorem begins_off (begins : s.Begins) : s.Inactive ∧ LeftOff s := by
  have none (op : StopOp) : ¬ s.Did op := by
    unfold StopCtrl.Did
    rw [begins.1]
    exact Nat.not_lt_zero _
  exact ⟨fun dir did => absurd did (none _), fun did => absurd did (none _), fun int dir did => absurd did (none _)⟩

theorem leftOff_stoppedOff (inactive : s.Inactive) (off : LeftOff s) : s.StoppedOff := by
  intro _ returned _ _
  have did (int : L2Int) (dir : Dir) := mem_stopOps s.isLateInit int dir
  refine ⟨fun dir => inactive dir (did_when_returned returned (did .done dir).1), ?_, fun int dir q => ?_⟩
  · exact (off.irq (did_when_returned returned (did .done .rx).2.1)).1
  · exact (off.masked int dir (did_when_returned returned (did int dir).2.2) q).1

theorem settled_stoppedOff_iff (inactive : s.Inactive) (settled : s.Settled) : s.StoppedOff ↔ LeftOff s := by
  refine ⟨fun off => ?_, leftOff_stoppedOff inactive⟩
  obtain ⟨lateInit, returned, handler, raised, idle⟩ := settled
  obtain ⟨-, l1Off, masked⟩ := off lateInit returned handler fun dir q => (idle dir q).1
  refine ⟨fun _ => ⟨l1Off, raised, handler⟩, fun int dir _ q => ⟨masked int dir q, ?_⟩⟩
  unfold StopWork.willEnable
  rw [(idle dir q).1, (idle dir q).2]
  rfl

/-- From any controller on which `t7xx_cldma_stop` begins, a run in which it finds no handler and no work
    left to enable leaves everything off. In a run that settles everything is off only if it found so. -/
theorem cldma_stop_leaves_off (s : StopCtrl) (labels : List StopLabel) (begins : s.Begins) :
    (Obeys StopFinds StopCtrl.step s labels → Visits StopCtrl.StoppedOff StopCtrl.step s labels) ∧
      ∀ t, execute StopCtrl.step s labels = some t → t.Settled →
        (t.StoppedOff ↔ Obeys StopFinds StopCtrl.step s labels) := by
  obtain ⟨inactive, off⟩ := begins_off begins
  constructor
  · refine Visits.of_invariant (fun s => s.Inactive ∧ LeftOff s) (fun s both => leftOff_stoppedOff both.1 both.2) ?_
      ⟨inactive, off⟩
    intro s label t both finds taken
    obtain ⟨kept, exact_step⟩ := stopCtrl_step_exact both.1 taken
    exact ⟨kept, exact_step.mpr ⟨both.2, finds⟩⟩
  · intro t run settled
    have whole : LeftOff t ↔ LeftOff s ∧ Obeys StopFinds StopCtrl.step s labels :=
      finish_iff_obeys StopCtrl.Inactive (fun s label t inactive taken => stopCtrl_step_exact inactive taken) inactive run
    have last : t.Inactive := by
      refine (Visits.of_kept StopCtrl.Inactive (fun _ => id) ?_ labels inactive).finish run
      exact fun s label t inactive taken => (stopCtrl_step_exact inactive taken).1
    rw [settled_stoppedOff_iff last settled, whole, and_iff_right off]

/-- A started controller whose interrupts are idle; only the work of `queue` is queued, if any. -/
def startedWith (queue : Option (Dir × Qno)) : StopCtrl where
  isLateInit := true
  active := fun _ _ => true
  unmasked := fun _ dir q => queue ≠ some (dir, q)
  l1On := true
  raised := false
  handler := none
  work := fun dir q => { pending := queue = some (dir, q), run := none, completed := 0 }
  stopped := 0
  flushing := none

def lateWorkRun (dir : Dir) (enables : Nat) : List StopLabel :=
  List.replicate 7 StopLabel.stop ++ [StopLabel.workBegin dir firstQno, StopLabel.workDecides dir firstQno false] ++
    List.replicate enables (StopLabel.workEnables dir firstQno) ++ [StopLabel.workEnds dir firstQno] ++
    List.replicate 33 StopLabel.stop

theorem late_tx_work_leaves_off :
    (startedWith (some (.tx, firstQno))).Begins ∧
      Visits StopCtrl.StoppedOff StopCtrl.step (startedWith (some (.tx, firstQno))) (lateWorkRun .tx 0) := by
  have begins : (startedWith (some (.tx, firstQno))).Begins := ⟨rfl, rfl⟩
  have finds : Obeys StopFinds StopCtrl.step (startedWith (some (.tx, firstQno))) (lateWorkRun .tx 0) := by
    decide
  exact ⟨begins, (cldma_stop_leaves_off _ _ begins).1 finds⟩

/-- An RX work that was queued when the masks were set unmasks its queue before `flush_work` returns. -/
theorem late_rx_work_unmasks :
    ¬ ∀ s labels, s.Begins → Visits StopCtrl.StoppedOff StopCtrl.step s labels := by
  intro always
  obtain ⟨t, run, lateInit, returned, handler, idle, unmasked⟩ : ∃ t,
      execute StopCtrl.step (startedWith (some (.rx, firstQno))) (lateWorkRun .rx 2) = some t ∧
        t.isLateInit = true ∧ t.Returned ∧ t.handler = none ∧ (∀ dir q, (t.work dir q).run = none) ∧
        t.unmasked .done .rx firstQno = true :=
    ⟨_, rfl, rfl, rfl, rfl, fun dir => by cases dir <;> decide, rfl⟩
  have off := (always _ _ ⟨rfl, rfl⟩).finish run lateInit returned handler idle
  exact absurd (unmasked.symm.trans (off.2.2 .done .rx firstQno)) nofun

end Runs

end T7xxModel.Cldma
