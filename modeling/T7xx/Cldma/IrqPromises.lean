import T7xx.Cldma.IrqFlow

namespace T7xxModel.Cldma

open Register Transition

section Promises

/-- A thread whose accesses count for a queue: all but the works of other queues. -/
def Thread.serves (dir : Dir) (q : Qno) : Thread → Bool
  | .work d p => decide (d = dir ∧ p = q)
  | .isr | .call => true

/-- What makes a work collect: its queueing and its collecting, and an error that it returns. -/
def IrqOp.wakes (dir : Dir) (q : Qno) : IrqOp → Bool
  | .queue d p | .collect d p => decide (d = dir ∧ p = q)
  | .ret p failed => failed && decide (dir = .rx ∧ p = q)
  | _ => false

/-- What comes before the done interrupt of a queue is enabled, or before the queue is inactive. -/
def IrqOp.settles (dir : Dir) (q : Qno) : IrqOp → Bool
  | .queue d p | .collect d p | .readInt d p _ | .lockTest d p _ => decide (d = dir ∧ p = q)
  | .ret p _ => decide (dir = .rx ∧ p = q)
  | .write w => decide (w.1 = imcr dir) && w.2.getLsbD q.val
  | .active d on => !on && decide (d = dir)
  | _ => false

/-- What a work does only between taking `cldma_lock` and releasing it. -/
def IrqOp.inLock : IrqOp → Bool
  | .unlock | .readInt .rx _ _ => true
  | _ => false

/-- A thread that clears a status bit wakes the work afterwards, and one that masks an interrupt settles
    the mask; what a work reads last decides about all that it has left to do. -/
def IrqOp.Before (t : Thread) (rest : List IrqOp) : IrqOp → Prop
  | .write w =>
    ∀ dir q, w.2.getLsbD q.val = true →
      (w.1 = isar dir → t.serves dir q = true ∧ ∃ op ∈ rest, op.wakes dir q = true) ∧
      (w.1 = imsr dir → t.serves dir q = true ∧ ∃ op ∈ rest, op.settles dir q = true)
  | .ack reg mask =>
    (∀ dir, reg ≠ imsr dir) ∧ ∀ dir q, mask.getLsbD q.val = true → reg = isar dir →
      t.serves dir q = true ∧ ∃ op ∈ rest, op.wakes dir q = true
  | .rmw reg _ => ∀ dir, reg ≠ isar dir ∧ reg ≠ imsr dir
  | .l2TxInt | .l2RxInt _ | .l2TxIntMsk .. | .l2RxIntMsk .. => t = .isr ∧ rest = [.int true]
  | .unlock => (∃ dir q, t = .work dir q) ∧ ∀ op ∈ rest, op.inLock = false
  | .collect dir q | .readInt dir q _ | .lockTest dir q _ => t = .work dir q ∧ rest = []
  | .ret q _ => t = .work .rx q ∧ rest = []
  | .active dir on =>
    t = .call ∧ (on = true → .int false ∉ rest) ∧ (on = false → .active dir true ∉ rest)
  | .int on => on = false → t = .call ∨ t = .isr ∧ .int true ∈ rest
  | .emptyHndl _ | .queue _ _ | .queueStatus _ => True

def Kept (t : Thread) : List IrqOp → Prop
  | [] => True
  | op :: rest => op.Before t rest ∧ Kept t rest

end Promises

namespace IrqCtrl

def ops (s : IrqCtrl) (t : Thread) : List IrqOp := (s.prog t).getD []

def raised (s : IrqCtrl) (dir : Dir) (q : Qno) : Bool := (s.regs (isar dir)).getLsbD q.val
def masked (s : IrqCtrl) (dir : Dir) (q : Qno) : Bool := (s.regs (imr dir)).getLsbD q.val

/-- A thread of the queue still comes to such an access. -/
def Comes (s : IrqCtrl) (f : Dir → Qno → IrqOp → Bool) (dir : Dir) (q : Qno) : Prop :=
  ∃ t, t.serves dir q = true ∧ ∃ op ∈ s.ops t, f dir q op = true

/-- The queue is active, or is about to be. -/
def Wanted (s : IrqCtrl) (dir : Dir) (q : Qno) : Prop :=
  s.isActive dir q = true ∨ .active dir true ∈ s.ops .call

/-- What is completed is announced: by the device, a status bit, or a work that is to collect. -/
def Awake (s : IrqCtrl) (dir : Dir) (q : Qno) : Prop :=
  0 < s.left dir q → s.owes dir q = true ∨ s.raised dir q = true ∨ s.pending dir q = true ∨
    s.short dir q = true ∨ s.Comes IrqOp.wakes dir q

/-- The done interrupt of an active queue is masked only as long as a thread is to settle it. -/
def Settling (s : IrqCtrl) (dir : Dir) (q : Qno) : Prop :=
  s.masked dir q = true → s.Wanted dir q → s.pending dir q = true ∨ s.Comes IrqOp.settles dir q

/-- The L1 interrupt is off only while the handler or a call is to turn it on, or RX queues to be inactive. -/
def L1Settling (s : IrqCtrl) : Prop :=
  (∃ q, s.Wanted .rx q) → s.l1On = true ∨ .int true ∈ s.ops .isr ∨ .int true ∈ s.ops .call ∨
    .active .rx false ∈ s.ops .call

structure FlowInv (s : IrqCtrl) : Prop where
  kept : ∀ t, Kept t (s.ops t)
  called : s.prog .call ≠ none → s.lock = some .call
  locked : ∀ t, ∀ op ∈ s.ops t, op.inLock = true → s.lock = some t
  awake : ∀ dir q, s.Awake dir q
  settling : ∀ dir q, s.Settling dir q
  txShort : ∀ q, s.short .tx q = false
  l1 : s.L1Settling
  late : .int false ∈ s.ops .call → .active .rx false ∈ s.ops .call ∨ ∀ q, ¬ s.Wanted .rx q

end IrqCtrl

section Pieces

variable {s u : IrqCtrl} {t : Thread} {op : IrqOp} {new rest : List IrqOp} {resumes : Bool}

theorem put₂_apply {α : Type*} (f : Dir → Qno → α) (dir d : Dir) (q p : Qno) (a : α) :
    put₂ f dir q a d p = if d = dir ∧ p = q then a else f d p := by
  unfold put₂
  by_cases same : d = dir
  · subst same
    by_cases queue : p = q
    · subst queue
      simp
    · simp [queue]
  · simp [same]

theorem ops_setProg (s : IrqCtrl) (t v : Thread) (prog : Option (List IrqOp)) :
    (s.setProg t prog).ops v = if v = t then prog.getD [] else s.ops v := by
  unfold IrqCtrl.ops IrqCtrl.setProg
  by_cases same : v = t
  · subst same
    simp
  · simp [same]

theorem writeReg_raised (s : IrqCtrl) (w : HwWrite) (dir : Dir) (q : Qno) :
    (s.writeReg w).raised dir q =
      (s.raised dir q && !(decide (w.1 = isar dir) && w.2.getLsbD q.val)) :=
  afterWrite_isar s.regs w dir q

theorem writeReg_masked (s : IrqCtrl) (w : HwWrite) (dir : Dir) (q : Qno) :
    (s.writeReg w).masked dir q =
      ((s.masked dir q || (decide (w.1 = imsr dir) && w.2.getLsbD q.val)) &&
        !(decide (w.1 = imcr dir) && w.2.getLsbD q.val)) :=
  afterWrite_imr s.regs w dir q

/-- What one access leaves of the books of the queues. -/
structure SameBooks (s u : IrqCtrl) : Prop where
  prog : u.prog = s.prog
  left : u.left = s.left
  owes : u.owes = s.owes
  pending : ∀ dir q, s.pending dir q = true → u.pending dir q = true
  short : ∀ dir q, s.short dir q = true → u.short dir q = true

theorem SameBooks.refl (s : IrqCtrl) : SameBooks s s := ⟨rfl, rfl, rfl, fun _ _ => id, fun _ _ => id⟩

theorem perform_emptyHndl {q : Qno} (performed : s.perform t resumes (.emptyHndl q) = some (u, new)) :
    new = [] ∧ (u = s ∨ u = s.writeReg (hwResumeQueue q .tx)) := by
  simp only [IrqCtrl.perform] at performed
  split at performed
  · cases performed
    exact ⟨rfl, .inl rfl⟩
  · split at performed
    · cases performed
      cases resumes
      · exact ⟨rfl, .inl rfl⟩
      · exact ⟨rfl, .inr rfl⟩
    · cases performed

theorem perform_queueStatus {q : Qno} (performed : s.perform t resumes (.queueStatus q) = some (u, new)) :
    new = [] ∧ (u = s ∨ u = s.writeReg (hwResumeQueue q .rx)) := by
  cases performed
  split
  · exact ⟨rfl, .inr rfl⟩
  · exact ⟨rfl, .inl rfl⟩

theorem perform_lockTest {dir : Dir} {q : Qno} {overBudget : Bool}
    (performed : s.perform t resumes (.lockTest dir q overBudget) = some (u, new)) :
    s.lock = none ∧ u = { s with lock := some t } ∧
      new = lockedTail dir q overBudget (s.isActive dir q) := by
  simp only [IrqCtrl.perform] at performed
  split at performed
  · rename_i free
    cases performed
    exact ⟨free, rfl, rfl⟩
  · cases performed

theorem perform_books (performed : s.perform t resumes op = some (u, new)) : SameBooks s u := by
  cases op with
  | queue dir q =>
    cases performed
    refine ⟨rfl, rfl, rfl, fun d p pending => ?_, fun _ _ => id⟩
    change put₂ s.pending dir q true d p = true
    rw [put₂_apply, pending, ite_self]
  | ret q failed =>
    cases performed
    refine ⟨rfl, rfl, rfl, fun _ _ => id, fun d p short => ?_⟩
    change (if _ then put₂ s.short .rx q true else s.short) d p = true
    split
    · rw [put₂_apply, short, ite_self]
    · exact short
  | emptyHndl q =>
    obtain ⟨-, rfl | rfl⟩ := perform_emptyHndl performed
    · exact .refl u
    · exact ⟨rfl, rfl, rfl, fun _ _ => id, fun _ _ => id⟩
  | queueStatus q =>
    obtain ⟨-, rfl | rfl⟩ := perform_queueStatus performed
    · exact .refl u
    · exact ⟨rfl, rfl, rfl, fun _ _ => id, fun _ _ => id⟩
  | lockTest dir q overBudget =>
    obtain ⟨-, rfl, -⟩ := perform_lockTest performed
    exact ⟨rfl, rfl, rfl, fun _ _ => id, fun _ _ => id⟩
  | collect dir q => cases performed
  | _ =>
    cases performed
    exact ⟨rfl, rfl, rfl, fun _ _ => id, fun _ _ => id⟩

theorem hwResumeQueue_other (q : Qno) (dir d : Dir) : (hwResumeQueue q dir).1 ≠ isar d ∧
    (hwResumeQueue q dir).1 ≠ imsr d ∧ (hwResumeQueue q dir).1 ≠ imcr d := by
  cases dir <;> cases d <;> revert q <;> decide

theorem writeReg_other_raised (s : IrqCtrl) {w : HwWrite} {dir : Dir} (other : w.1 ≠ isar dir) (q : Qno) :
    (s.writeReg w).raised dir q = s.raised dir q := by
  rw [writeReg_raised]
  simp [other]

theorem writeReg_other_masked (s : IrqCtrl) {w : HwWrite} {dir : Dir}
    (other : w.1 ≠ imsr dir ∧ w.1 ≠ imcr dir) (q : Qno) :
    (s.writeReg w).masked dir q = s.masked dir q := by
  rw [writeReg_masked]
  simp [other]

/-- A status bit is cleared by a write only, which wakes the work afterwards. -/
theorem perform_raised (performed : s.perform t resumes op = some (u, new)) (before : op.Before t rest)
    {dir : Dir} {q : Qno} (raised : s.raised dir q = true) :
    u.raised dir q = true ∨ t.serves dir q = true ∧ ∃ later ∈ new ++ rest, later.wakes dir q = true := by
  cases op with
  | write w =>
    cases performed
    by_cases cleared : w.1 = isar dir ∧ w.2.getLsbD q.val = true
    · exact .inr ((before dir q cleared.2).1 cleared.1)
    · refine .inl ?_
      rw [writeReg_raised, raised]
      simpa [imp_iff_not_or] using cleared
  | rmw reg edit =>
    cases performed
    exact .inl ((writeReg_other_raised s (before dir).1 q).trans raised)
  | emptyHndl p =>
    obtain ⟨-, rfl | rfl⟩ := perform_emptyHndl performed
    · exact .inl raised
    · exact .inl ((writeReg_other_raised s (hwResumeQueue_other p .tx dir).1 q).trans raised)
  | queueStatus p =>
    obtain ⟨-, rfl | rfl⟩ := perform_queueStatus performed
    · exact .inl raised
    · exact .inl ((writeReg_other_raised s (hwResumeQueue_other p .rx dir).1 q).trans raised)
  | lockTest d p overBudget =>
    obtain ⟨-, rfl, -⟩ := perform_lockTest performed
    exact .inl raised
  | collect d p => cases performed
  | _ =>
    cases performed
    exact .inl raised

/-- An interrupt is masked by a write only, and settled afterwards. -/
theorem perform_masked (performed : s.perform t resumes op = some (u, new)) (before : op.Before t rest)
    {dir : Dir} {q : Qno} (masked : u.masked dir q = true) :
    s.masked dir q = true ∨ t.serves dir q = true ∧ ∃ later ∈ new ++ rest, later.settles dir q = true := by
  cases op with
  | write w =>
    cases performed
    rw [writeReg_masked] at masked
    by_cases set : w.1 = imsr dir ∧ w.2.getLsbD q.val = true
    · exact .inr ((before dir q set.2).2 set.1)
    · refine .inl ?_
      simp only [Bool.and_eq_true, Bool.or_eq_true, decide_eq_true_eq] at masked
      exact masked.1.resolve_right set
  | rmw reg edit =>
    cases performed
    rw [writeReg_masked] at masked
    have other : reg ≠ imsr dir := (before dir).2
    simp only [other, decide_false, Bool.false_and, Bool.or_false, Bool.and_eq_true] at masked
    exact .inl masked.1
  | emptyHndl p =>
    obtain ⟨-, rfl | rfl⟩ := perform_emptyHndl performed
    · exact .inl masked
    · rw [writeReg_other_masked s (hwResumeQueue_other p .tx dir).2] at masked
      exact .inl masked
  | queueStatus p =>
    obtain ⟨-, rfl | rfl⟩ := perform_queueStatus performed
    · exact .inl masked
    · rw [writeReg_other_masked s (hwResumeQueue_other p .rx dir).2] at masked
      exact .inl masked
  | lockTest d p overBudget =>
    obtain ⟨-, rfl, -⟩ := perform_lockTest performed
    exact .inl masked
  | collect d p => cases performed
  | _ =>
    cases performed
    exact .inl masked

end Pieces

section Shapes

variable {t : Thread} {rest : List IrqOp}

theorem imsr_inj : ∀ {d e : Dir}, imsr d = imsr e → d = e := by
  rintro (_ | _) (_ | _) same
  · rfl
  · exact absurd same (by decide)
  · exact absurd same (by decide)
  · rfl

theorem imsr_ne_isar (d e : Dir) : imsr d ≠ isar e := by
  cases d <;> cases e <;> decide

theorem imcr_ne (d e : Dir) : imcr d ≠ isar e ∧ imcr d ≠ imsr e := by
  cases d <;> cases e <;> exact ⟨by decide, by decide⟩

/-- A write to a register that is neither a status nor a mask. -/
theorem kept_write {w : HwWrite} (other : ∀ dir, w.1 ≠ isar dir ∧ w.1 ≠ imsr dir) (kept : Kept t rest) :
    Kept t (.write w :: rest) :=
  ⟨fun dir _ _ => ⟨fun same => absurd same (other dir).1, fun same => absurd same (other dir).2⟩, kept⟩

theorem kept_eq {reg : HwReg} (value : BitVec 32) (kept : Kept t rest) :
    Kept t (.write (reg, value <<< EQ_STA_BIT_OFFSET) :: rest) := by
  refine ⟨fun dir q bit => ?_, kept⟩
  rw [eqMask_getLsbD] at bit
  cases bit

theorem kept_dis {dir : Dir} {value : BitVec 32} (kept : Kept t rest)
    (settled : ∀ q : Qno, value.getLsbD q.val = true → t.serves dir q = true ∧
      ∃ op ∈ rest, op.settles dir q = true) :
    Kept t (.write (imsr dir, value) :: rest) := by
  refine ⟨fun d q bit => ⟨fun same => absurd same (imsr_ne_isar dir d), fun same => ?_⟩, kept⟩
  cases imsr_inj same
  exact settled q bit

theorem kept_ipBusy (kept : Kept t rest) : Kept t (ipBusy :: rest) :=
  ⟨fun dir => by cases dir <;> exact ⟨by decide, by decide⟩, kept⟩

theorem kept_flatMap {β : Type*} {f : β → List IrqOp}
    (each : ∀ x rest, Kept t rest → Kept t (f x ++ rest)) (xs : List β) (kept : Kept t rest) :
    Kept t (xs.flatMap f ++ rest) := by
  induction xs with
  | nil => exact kept
  | cons x xs ih =>
    rw [List.flatMap_cons, List.append_assoc]
    exact each x _ ih

theorem serviceQueue_kept (dir : Dir) (q : Qno) (kept : Kept .isr rest) :
    Kept .isr (serviceQueue dir q ++ rest) := by
  refine kept_eq _ (kept_dis ⟨trivial, kept⟩ fun p bit => ⟨rfl, .queue dir q, List.mem_cons_self, ?_⟩)
  rw [qMask_one, bit_getLsbD, decide_eq_true_eq] at bit
  simp [IrqOp.settles, bit]

theorem txServices_kept (found : BitVec 32) (kept : Kept .isr rest) :
    Kept .isr (txServices found ++ rest) := by
  unfold txServices
  rw [List.append_assoc]
  refine kept_flatMap (fun q rest kept => ?_) _ (kept_flatMap (fun q rest kept => ?_) _ kept)
  · split
    · exact serviceQueue_kept .tx q kept
    · exact kept
  · split
    · exact ⟨trivial, kept⟩
    · exact kept

theorem rxServices_kept (found : BitVec 32) (kept : Kept .isr rest) :
    Kept .isr (rxServices found ++ rest) := by
  refine kept_flatMap (fun q rest kept => ?_) _ kept
  split
  · exact serviceQueue_kept .rx q kept
  · exact kept

theorem txServices_queue {found : BitVec 32} {q : Qno} (bit : found.getLsbD q.val = true) :
    .queue .tx q ∈ txServices found := by
  refine List.mem_append_left _ (List.mem_flatMap.mpr ⟨q, List.mem_finRange q, ?_⟩)
  rw [if_pos bit]
  simp [serviceQueue]

/-- The empty interrupts of RX queues count as well, so that a done one is never left out. -/
theorem rxServices_queue {found : BitVec 32} {q : Qno} (bit : found.getLsbD q.val = true) :
    .queue .rx q ∈ rxServices found := by
  refine List.mem_flatMap.mpr ⟨q, List.mem_finRange q, ?_⟩
  have folded : (found ||| found >>> CLDMA_TXQ_NUM).getLsbD q.val = true := by simp [bit]
  rw [if_pos folded]
  simp [serviceQueue]

theorem statusBits_getLsbD : ∀ q : Qno,
    (TXRX_STATUS_BITMASK.setWidth 32 ||| EMPTY_STATUS_BITMASK).getLsbD q.val = true := by decide

theorem l3Isars_other : ∀ dir, ∀ reg ∈ l3Isars dir, ∀ d, reg ≠ imsr d ∧ reg ≠ isar d := by
  rintro (_ | _) reg member (_ | _) <;> revert reg <;> decide

/-- What the handler clears it serves afterwards. -/
theorem serviceInt_kept (dir : Dir) (found : BitVec 32) {services : BitVec 32 → List IrqOp}
    (queued : ∀ q : Qno, found.getLsbD q.val = true → .queue dir q ∈ services found)
    (served : Kept .isr (services found ++ rest)) (kept : Kept .isr rest) :
    Kept .isr (serviceInt dir found services ++ rest) := by
  unfold serviceInt
  split
  · exact kept
  rw [List.append_assoc, List.append_assoc, List.singleton_append]
  have acked : Kept .isr (.ack (isar dir) found ::
      ((if found &&& (TXRX_STATUS_BITMASK.setWidth 32 ||| EMPTY_STATUS_BITMASK) ≠ 0 then services found
        else []) ++ rest)) := by
    refine ⟨⟨fun d same => imsr_ne_isar d dir same.symm, fun d q bit same => ⟨rfl, ?_⟩⟩, ?_⟩
    · have isDir : dir = d := by cases dir <;> cases d <;> first | rfl | exact absurd same (by decide)
      subst isDir
      have both : found &&& (TXRX_STATUS_BITMASK.setWidth 32 ||| EMPTY_STATUS_BITMASK) ≠ 0 := by
        intro none_
        have clear : (found &&& (TXRX_STATUS_BITMASK.setWidth 32 ||| EMPTY_STATUS_BITMASK)).getLsbD q.val =
            false := by rw [none_]; exact BitVec.getLsbD_zero
        rw [BitVec.getLsbD_and, bit, statusBits_getLsbD] at clear
        cases clear
      refine ⟨.queue dir q, List.mem_append_left _ ?_, by simp [IrqOp.wakes]⟩
      rw [if_pos both]
      exact queued q bit
    · split
      · exact served
      · exact kept
  split
  · have each : ∀ regs : List HwReg, (∀ reg ∈ regs, ∀ d, reg ≠ imsr d ∧ reg ≠ isar d) → ∀ {rest},
        Kept .isr rest → Kept .isr (regs.map (fun reg => IrqOp.ack reg (BitVec.allOnes 32)) ++ rest) := by
      intro regs others rest kept
      induction regs with
      | nil => exact kept
      | cons reg regs ih =>
        rw [List.forall_mem_cons] at others
        exact ⟨⟨fun d => (others.1 d).1, fun d _ _ same => absurd same (others.1 d).2⟩, ih others.2⟩
    exact each _ (l3Isars_other dir) acked
  · exact acked

theorem irqWorkCb_kept (l2TxInt l2RxInt : BitVec 32) (kept : Kept .isr rest) :
    Kept .isr (irqWorkCb l2TxInt l2RxInt ++ rest) := by
  unfold irqWorkCb
  rw [List.append_assoc]
  have rx := serviceInt_kept .rx l2RxInt (fun q => rxServices_queue) (rxServices_kept l2RxInt kept) kept
  exact serviceInt_kept .tx l2TxInt (fun q => txServices_queue) (txServices_kept l2TxInt rx) rx

theorem work_ne_call (dir : Dir) (q : Qno) : Thread.work dir q ≠ .call := by
  intro same
  cases same

theorem unlock_kept {dir : Dir} {q : Qno} (outside : ∀ op ∈ rest, op.inLock = false)
    (kept : Kept (.work dir q) rest) : Kept (.work dir q) (.unlock :: rest) :=
  ⟨⟨⟨dir, q, rfl⟩, outside⟩, kept⟩

theorem ret_kept (q : Qno) (failed : Bool) : Kept (.work .rx q) [.ret q failed] := ⟨⟨rfl, rfl⟩, trivial⟩

theorem txDoneTail_kept (q : Qno) (l2TxInt : BitVec 32) : Kept (.work .tx q) (txDoneTail q l2TxInt) := by
  have ends : Kept (.work .tx q) (if l2TxInt &&& BIT q ≠ 0 then [.ack (isar .tx) (BIT q), .queue .tx q]
      else [.lockTest .tx q false]) := by
    split
    · refine ⟨⟨fun d same => imsr_ne_isar d .tx same.symm, fun d p bit same => ?_⟩, trivial, trivial⟩
      have isTx : d = .tx := by cases d <;> first | rfl | exact absurd same (by decide)
      subst isTx
      rw [bit_getLsbD, decide_eq_true_eq] at bit
      subst bit
      exact ⟨by simp [Thread.serves], .queue .tx q, List.mem_singleton_self _, by simp [IrqOp.wakes]⟩
    · exact ⟨⟨rfl, rfl⟩, trivial⟩
  unfold txDoneTail
  split
  · refine ⟨⟨fun d same => imsr_ne_isar d .tx same.symm, fun d p bit => ?_⟩, trivial, ends⟩
    rw [eqStaBit_getLsbD] at bit
    cases bit
  · exact ends

theorem txDoneEnables_kept (q : Qno) (active : Bool) : Kept (.work .tx q) (txDoneEnables q active) := by
  have unlocks : Kept (.work .tx q) [.unlock] := unlock_kept (List.forall_mem_nil _) trivial
  unfold txDoneEnables
  split
  · exact kept_ipBusy (kept_write (imcr_ne .tx) (kept_write (imcr_ne .tx) unlocks))
  · exact unlocks

theorem rxCollectTests_kept (q : Qno) (overBudget active : Bool) :
    Kept (.work .rx q) (rxCollectTests q overBudget active) := by
  unfold rxCollectTests
  split
  · exact ⟨trivial, ⟨rfl, rfl⟩, trivial⟩
  · exact unlock_kept (by simp [IrqOp.inLock]) (ret_kept q false)

theorem rxCollectTail_kept (q : Qno) (overBudget : Bool) (l2Int : BitVec 32) :
    Kept (.work .rx q) (rxCollectTail q overBudget (l2Int &&& BIT q)) := by
  unfold rxCollectTail
  split
  · exact unlock_kept (by simp [IrqOp.inLock]) (ret_kept q false)
  · have own : ∀ {op : IrqOp} {d p}, op.wakes .rx q = true → (l2Int &&& BIT q).getLsbD (Fin.val p) = true →
        isar .rx = isar d → Thread.serves d p (.work .rx q) = true ∧
          ∃ later ∈ [IrqOp.unlock, op], later.wakes d p = true := by
      intro op d p wakes bit same
      have isRx : d = .rx := by cases d <;> first | rfl | exact absurd same (by decide)
      subst isRx
      rw [BitVec.getLsbD_and, bit_getLsbD, Bool.and_eq_true, decide_eq_true_eq] at bit
      cases bit.2
      exact ⟨by simp [Thread.serves], op, by simp, wakes⟩
    cases overBudget with
    | true =>
      refine ⟨⟨fun d same => imsr_ne_isar d .rx same.symm, fun d p => own ?_⟩, ?_⟩
      · simp [IrqOp.wakes]
      · exact unlock_kept (by simp [IrqOp.inLock]) (ret_kept q true)
    | false =>
      refine ⟨⟨fun d same => imsr_ne_isar d .rx same.symm, fun d p => own ?_⟩, ?_⟩
      · simp [IrqOp.wakes]
      · exact unlock_kept (by simp [IrqOp.inLock]) ⟨⟨rfl, rfl⟩, trivial⟩

theorem txDoneTail_settles (q : Qno) (l2TxInt : BitVec 32) :
    ∃ later ∈ txDoneTail q l2TxInt, later.settles .tx q = true := by
  unfold txDoneTail
  by_cases done : l2TxInt &&& BIT q ≠ 0
  · rw [if_pos done]
    exact ⟨.queue .tx q, List.mem_append_right _ (by simp), by simp [IrqOp.settles]⟩
  · rw [if_neg done]
    exact ⟨.lockTest .tx q false, List.mem_append_right _ (by simp), by simp [IrqOp.settles]⟩

theorem rxCollectTail_settles (q : Qno) (overBudget : Bool) (pendingRxInt : BitVec 32) :
    ∃ later ∈ rxCollectTail q overBudget pendingRxInt, later.settles .rx q = true := by
  unfold rxCollectTail
  split
  · exact ⟨.ret q false, by simp, by simp [IrqOp.settles]⟩
  · cases overBudget with
    | true => exact ⟨.ret q true, by simp, by simp [IrqOp.settles]⟩
    | false => exact ⟨.collect .rx q, by simp, by simp [IrqOp.settles]⟩

theorem enTxrx_settles (q : Qno) (dir : Dir) :
    (IrqOp.write (hwIrqEnTxrx q.val dir)).settles dir q = true := by
  simp [IrqOp.settles, hwIrqEnTxrx, qMask_one, bit_getLsbD]

theorem rxDoneTail_settles (q : Qno) (requeues : Bool) :
    ∃ later ∈ rxDoneTail q requeues, later.settles .rx q = true := by
  unfold rxDoneTail
  split
  · exact ⟨.queue .rx q, by simp, by simp [IrqOp.settles]⟩
  · exact ⟨.write (hwIrqEnTxrx q.val .rx), by simp, enTxrx_settles q .rx⟩

/-- Only a TX queue that is not active is left without its interrupt. -/
theorem lockedTail_settles {dir : Dir} {q : Qno} {overBudget active : Bool}
    (enables : dir = .rx ∨ active = true) :
    ∃ later ∈ lockedTail dir q overBudget active, later.settles dir q = true := by
  cases active with
  | true =>
    cases dir with
    | tx => exact ⟨.write (hwIrqEnTxrx q.val .tx), by simp [lockedTail, txDoneEnables], enTxrx_settles q .tx⟩
    | rx => exact ⟨.readInt .rx q overBudget, by simp [lockedTail, rxCollectTests], by simp [IrqOp.settles]⟩
  | false =>
    obtain rfl : dir = .rx := enables.resolve_right Bool.false_ne_true
    exact ⟨.ret q false, by simp [lockedTail, rxCollectTests], by simp [IrqOp.settles]⟩

theorem rxDoneTail_kept (q : Qno) (requeues : Bool) : Kept (.work .rx q) (rxDoneTail q requeues) := by
  unfold rxDoneTail
  split
  · exact ⟨trivial, trivial⟩
  · exact kept_ipBusy (kept_write (imcr_ne .rx) (kept_write (imcr_ne .rx) trivial))

end Shapes

end T7xxModel.Cldma
