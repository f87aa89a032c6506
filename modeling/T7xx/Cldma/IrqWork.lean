import T7xx.Cldma.LateInit
import T7xx.Transition.Runs

namespace T7xxModel.Cldma

open Transition

/-- A queue between its interrupts and `cldma_work`. `canceling` lasts while `cancel_work_sync` waits
    for the work, `taken` and `dropped` count its runtime PM references. -/
structure QueueWork where
  irqOn : Bool
  active : Bool
  pending : Bool
  running : Bool
  canceling : Bool
  taken : Nat
  dropped : Nat
deriving DecidableEq, Repr

structure CtrlWorks where
  work : Dir → Qno → QueueWork

/-- `interrupt` has the unmasked status bits that `t7xx_cldma_irq_work_cb` found, `again` whether the
    work found more to do, and `cancelBegin` and `cancelEnd` are the calls of `cancel_work_sync` by
    `t7xx_cldma_reset`. -/
inductive WorkLabel where
  | interrupt (status : Dir → Qno → Bool)
  | workBegin (dir : Dir) (q : Qno)
  | workEnd (dir : Dir) (q : Qno) (again : Bool)
  | resetInactive
  | cancelBegin (dir : Dir) (q : Qno)
  | cancelEnd (dir : Dir) (q : Qno)
  | start
  | stop
  | stopAllQs (dir : Dir)
  | hifHwInit
  | resumeEarly
  | resume
  | suspend
  | suspendLate

section Steps

/-- `queue_work` leaves a work alone that is pending or being cancelled. -/
def QueueWork.canQueue (w : QueueWork) : Bool := !w.pending && !w.canceling

def QueueWork.queueWork (w : QueueWork) : QueueWork :=
  if w.canQueue then { w with pending := true } else w

/-- The part of `t7xx_cldma_irq_work_cb` for one queue; `pm_runtime_get` takes its reference always. -/
def QueueWork.interrupt (w : QueueWork) (status : Bool) : QueueWork :=
  if status = true ∧ w.irqOn = true then
    { w with taken := w.taken + 1, irqOn := false }.queueWork
  else w

def QueueWork.begin (w : QueueWork) : Option QueueWork :=
  if w.pending = true ∧ w.running = false then some { w with pending := false, running := true }
  else none

/-- `t7xx_cldma_rx_done` queues itself again only on an active queue. -/
def QueueWork.requeues (dir : Dir) (w : QueueWork) (again : Bool) : Bool :=
  match dir with
  | .tx => again
  | .rx => again && w.active

/-- The ends of `t7xx_cldma_tx_done` and `t7xx_cldma_rx_done`; the former enables the interrupts only
    of an active queue. -/
def QueueWork.finish (dir : Dir) (w : QueueWork) (again : Bool) : Option QueueWork :=
  if w.running = false then none
  else if w.requeues dir again then some { w.queueWork with running := false }
  else
    let irqOn := match dir with
      | .tx => w.irqOn || w.active
      | .rx => true
    some { w with irqOn, dropped := w.dropped + 1, running := false }

def QueueWork.cancelBegin (w : QueueWork) : QueueWork := { w with pending := false, canceling := true }

def QueueWork.cancelEnd (w : QueueWork) : Option QueueWork :=
  if w.canceling = true ∧ w.running = false then some { w with canceling := false } else none

def CtrlWorks.set (s : CtrlWorks) (dir : Dir) (q : Qno) (w : QueueWork) : CtrlWorks :=
  { work := Function.update s.work dir (Function.update (s.work dir) q w) }

def CtrlWorks.setIrqs (s : CtrlWorks) (dir : Dir) (irqOn active : Bool) : CtrlWorks :=
  { work := Function.update s.work dir fun q => { s.work dir q with irqOn, active } }

def CtrlWorks.step (s : CtrlWorks) : WorkLabel → Option CtrlWorks
  | .interrupt status => some { work := fun dir q => (s.work dir q).interrupt (status dir q) }
  | .workBegin dir q => (s.work dir q).begin.map (s.set dir q)
  | .workEnd dir q again => ((s.work dir q).finish dir again).map (s.set dir q)
  | .resetInactive => some { work := fun dir q => { s.work dir q with active := false } }
  | .cancelBegin dir q => some (s.set dir q (s.work dir q).cancelBegin)
  | .cancelEnd dir q => (s.work dir q).cancelEnd.map (s.set dir q)
  | .start => some ((s.setIrqs .tx true true).setIrqs .rx true true)
  | .stop => some ((s.setIrqs .rx false false).setIrqs .tx false false)
  | .stopAllQs dir => some (s.setIrqs dir false false)
  | .hifHwInit => some { work := fun dir q => { s.work dir q with irqOn := false } }
  | .resumeEarly => some (s.setIrqs .rx true true)
  | .resume => some (s.setIrqs .tx true true)
  | .suspend => some (s.setIrqs .tx false false)
  | .suspendLate => some (s.setIrqs .rx false false)

def CtrlWorks.allocated : CtrlWorks where
  work := fun _ _ =>
    { irqOn := false, active := false, pending := false, running := false, canceling := false,
      taken := 0, dropped := 0 }

/-- The references that the work will still drop. -/
def QueueWork.owed (w : QueueWork) : Nat := (if w.pending then 1 else 0) + if w.running then 1 else 0

def QueueWork.Balanced (w : QueueWork) : Prop := w.taken = w.dropped + w.owed

instance (w : QueueWork) : Decidable w.Balanced := inferInstanceAs (Decidable (_ = _))

/-- Every reference taken was dropped or is owed by a work that is queued or runs; when none is, those
    taken equal those dropped. -/
def RefsOwed (s : CtrlWorks) : Prop := ∀ dir q, (s.work dir q).Balanced

/-- Each `queue_work`, of an interrupt or of the work itself, finds the work neither pending nor
    being cancelled, and `t7xx_cldma_reset` finds it not pending. -/
def WorkFree (s : CtrlWorks) : WorkLabel → Prop
  | .interrupt status =>
    ∀ dir q, status dir q = true → (s.work dir q).irqOn = true → (s.work dir q).canQueue = true
  | .workEnd dir q again =>
    (s.work dir q).requeues dir again = true → (s.work dir q).canQueue = true
  | .cancelBegin dir q => (s.work dir q).pending = false
  | _ => True

end Steps

section Works

variable {w after : QueueWork}

theorem idle_work_balanced (idle : w.pending = false ∧ w.running = false) (balanced : w.Balanced) :
    w.taken = w.dropped := by
  unfold QueueWork.Balanced QueueWork.owed at balanced
  rw [idle.1, idle.2] at balanced
  exact balanced

theorem interrupt_exact (balanced : w.Balanced) (status : Bool) :
    (w.interrupt status).Balanced ↔ (status = true → w.irqOn = true → w.canQueue = true) := by
  unfold QueueWork.Balanced QueueWork.owed at *
  unfold QueueWork.interrupt QueueWork.queueWork QueueWork.canQueue
  by_cases found : status = true ∧ w.irqOn = true
  · rw [if_pos found]
    cases pending : w.pending with
    | true =>
      rw [pending] at balanced
      refine iff_of_false ?_ fun free => ?_
      · simp only [Bool.not_true, Bool.false_and, Bool.false_eq_true, if_false, if_true] at balanced ⊢
        omega
      · exact absurd (free found.1 found.2) (by simp)
    | false =>
      rw [pending] at balanced
      cases canceling : w.canceling with
      | true =>
        refine iff_of_false ?_ fun free => ?_
        · simp only [Bool.not_true, Bool.and_false, Bool.false_eq_true, if_false] at balanced ⊢
          omega
        · exact absurd (free found.1 found.2) (by simp)
      | false =>
        refine iff_of_true ?_ fun _ _ => rfl
        simp only [Bool.not_false, Bool.and_self, Bool.false_eq_true, if_false, if_true] at balanced ⊢
        omega
  · rw [if_neg found]
    exact iff_of_true balanced fun status irqOn => absurd ⟨status, irqOn⟩ found

theorem begin_balanced (balanced : w.Balanced) (taken : w.begin = some after) : after.Balanced := by
  unfold QueueWork.begin at taken
  split at taken
  · rename_i ready
    cases taken
    unfold QueueWork.Balanced QueueWork.owed at *
    rw [ready.1, ready.2] at balanced
    exact balanced
  · cases taken

theorem workFinish_exact {dir : Dir} {again : Bool} (balanced : w.Balanced)
    (taken : w.finish dir again = some after) :
    after.Balanced ↔ (w.requeues dir again = true → w.canQueue = true) := by
  unfold QueueWork.finish at taken
  unfold QueueWork.Balanced QueueWork.owed at balanced
  split at taken
  · cases taken
  rename_i running
  have running : w.running = true := by simpa using running
  rw [running] at balanced
  split at taken
  · rename_i requeues
    cases taken
    unfold QueueWork.Balanced QueueWork.owed QueueWork.queueWork
    rw [imp_iff_right requeues]
    by_cases free : w.canQueue = true
    · rw [if_pos free]
      have idle : w.pending = false := by
        unfold QueueWork.canQueue at free
        simp only [Bool.and_eq_true, Bool.not_eq_true'] at free
        exact free.1
      rw [idle] at balanced
      exact iff_of_true balanced free
    · rw [if_neg free]
      refine iff_of_false (fun kept => ?_) free
      simp only [if_true, Bool.false_eq_true, if_false] at balanced kept
      omega
  · rename_i ends
    cases taken
    refine iff_of_true ?_ fun requeues => absurd requeues ends
    unfold QueueWork.Balanced QueueWork.owed
    simp only [if_true, Bool.false_eq_true, if_false] at balanced ⊢
    omega

theorem cancelBegin_exact (balanced : w.Balanced) : w.cancelBegin.Balanced ↔ w.pending = false := by
  unfold QueueWork.Balanced QueueWork.owed at *
  unfold QueueWork.cancelBegin
  cases pending : w.pending with
  | true =>
    rw [pending] at balanced
    refine iff_of_false (fun kept => ?_) (by simp)
    simp only [if_true, Bool.false_eq_true, if_false] at balanced kept
    omega
  | false =>
    rw [pending] at balanced
    exact iff_of_true balanced rfl

theorem cancelEnd_balanced (balanced : w.Balanced) (taken : w.cancelEnd = some after) :
    after.Balanced := by
  unfold QueueWork.cancelEnd at taken
  split at taken
  · cases taken
    exact balanced
  · cases taken

end Works

section Runs

variable {s t : CtrlWorks} {label : WorkLabel}

theorem work_set (s : CtrlWorks) (dir other : Dir) (q p : Qno) (w : QueueWork) :
    (s.set dir q w).work other p = if other = dir ∧ p = q then w else s.work other p := by
  unfold CtrlWorks.set
  dsimp only
  by_cases there : other = dir
  · subst there
    rw [Function.update_self]
    by_cases here : p = q
    · subst here
      rw [Function.update_self, if_pos ⟨rfl, rfl⟩]
    · rw [Function.update_of_ne here, if_neg fun both => here both.2]
  · rw [Function.update_of_ne there, if_neg fun both => there both.1]

theorem set_exact {dir : Dir} {q : Qno} {w : QueueWork} {P : Prop} (owed : RefsOwed s)
    (exact_one : w.Balanced ↔ P) : RefsOwed (s.set dir q w) ↔ P := by
  refine ⟨fun all => ?_, fun good other p => ?_⟩
  · have one := all dir q
    rw [work_set, if_pos ⟨rfl, rfl⟩] at one
    exact exact_one.mp one
  · rw [work_set]
    split
    · exact exact_one.mpr good
    · exact owed other p

theorem setIrqs_owed (owed : RefsOwed s) (dir : Dir) (irqOn active : Bool) :
    RefsOwed (s.setIrqs dir irqOn active) := by
  intro other p
  unfold CtrlWorks.setIrqs
  dsimp only
  by_cases there : other = dir
  · subst there
    rw [Function.update_self]
    exact owed other p
  · rw [Function.update_of_ne there]
    exact owed other p

theorem workStep_exact (owed : RefsOwed s) (taken : s.step label = some t) :
    RefsOwed t ↔ WorkFree s label := by
  cases label with
  | interrupt status =>
    cases taken
    exact forall_congr' fun dir => forall_congr' fun q => interrupt_exact (owed dir q) _
  | workBegin dir q =>
    obtain ⟨w, began, rfl⟩ := Option.map_eq_some_iff.mp taken
    exact set_exact owed (iff_of_true (begin_balanced (owed dir q) began) trivial)
  | workEnd dir q again =>
    obtain ⟨w, ended, rfl⟩ := Option.map_eq_some_iff.mp taken
    exact set_exact owed (workFinish_exact (owed dir q) ended)
  | cancelBegin dir q =>
    cases taken
    exact set_exact owed (cancelBegin_exact (owed dir q))
  | cancelEnd dir q =>
    obtain ⟨w, ended, rfl⟩ := Option.map_eq_some_iff.mp taken
    exact set_exact owed (iff_of_true (cancelEnd_balanced (owed dir q) ended) trivial)
  | resetInactive | hifHwInit =>
    cases taken
    exact iff_of_true owed trivial
  | start | stop =>
    cases taken
    exact iff_of_true (setIrqs_owed (setIrqs_owed owed _ _ _) _ _ _) trivial
  | stopAllQs | resumeEarly | resume | suspend | suspendLate =>
    cases taken
    exact iff_of_true (setIrqs_owed owed _ _ _) trivial

theorem refs_owed_iff (labels : List WorkLabel) :
    Visits RefsOwed CtrlWorks.step CtrlWorks.allocated labels ↔
      Obeys WorkFree CtrlWorks.step CtrlWorks.allocated labels :=
  visits_iff_obeys (fun _ => True) (fun _ _ _ _ _ _ => trivial)
    (fun _ _ _ _ owed taken => workStep_exact owed taken) trivial fun _ _ => rfl

end Runs

end T7xxModel.Cldma
