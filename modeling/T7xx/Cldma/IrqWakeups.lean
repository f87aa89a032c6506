import T7xx.Cldma.IrqSteps

namespace T7xxModel.Cldma

open Register Transition

section Calls

variable {s u : IrqCtrl} {rest : List IrqOp}

theorem startAddrReg_other (q : Qno) (dir d : Dir) :
    (startAddrReg q dir ≠ isar d ∧ startAddrReg q dir ≠ imsr d) ∧
      (((startAddrReg q dir).1, (startAddrReg q dir).2 + 4) ≠ isar d ∧
        ((startAddrReg q dir).1, (startAddrReg q dir).2 + 4) ≠ imsr d) := by
  cases dir <;> cases d <;> revert q <;> decide

theorem startAddrs_kept (q : Qno) (dir : Dir) (address : Option (BitVec 64)) (kept : Kept .call rest) :
    Kept .call (startAddrs q dir address ++ rest) := by
  cases address with
  | none => exact kept
  | some address =>
    exact kept_write (fun d => (startAddrReg_other q dir d).1)
      (kept_write (fun d => (startAddrReg_other q dir d).2) kept)

theorem masks_kept (dir : Dir) (deactivates : .active dir false ∈ rest) (kept : Kept .call rest) :
    Kept .call (.write (hwIrqDisEq CLDMA_ALL_Q dir) :: .write (hwIrqDisTxrx CLDMA_ALL_Q dir) :: rest) :=
  kept_eq _ (kept_dis kept fun _ _ => ⟨rfl, .active dir false, deactivates, by simp [IrqOp.settles]⟩)

theorem stopAllQs_other (dir d : Dir) : (hwStopAllQs dir).1 ≠ isar d ∧ (hwStopAllQs dir).1 ≠ imsr d := by
  cases dir <;> cases d <;> decide

theorem startQueue_other (d : Dir) : (hwStartQueue CLDMA_ALL_Q .rx).1 ≠ isar d ∧
    (hwStartQueue CLDMA_ALL_Q .rx).1 ≠ imsr d := by
  cases d <;> decide

theorem rmw_kept {reg : HwReg} (edit : Edit 32) (other : ∀ d, reg ≠ isar d ∧ reg ≠ imsr d)
    (kept : Kept .call rest) : Kept .call (.rmw reg edit :: rest) := ⟨other, kept⟩

theorem program_kept (c : CtrlCall) : Kept .call c.program := by
  cases c with
  | start trDone =>
    unfold CtrlCall.program
    simp only [List.append_assoc, List.singleton_append]
    refine ⟨fun _ => .inl rfl, ?_⟩
    refine kept_flatMap (fun q rest kept => startAddrs_kept q .tx _ kept) _ ?_
    refine kept_flatMap (fun q rest kept => startAddrs_kept q .rx _ kept) _ ?_
    refine kept_write startQueue_other ?_
    refine kept_write (imcr_ne .tx) (kept_write (imcr_ne .rx) ?_)
    refine kept_write (imcr_ne .tx) (kept_write (imcr_ne .rx) ?_)
    exact ⟨⟨rfl, by simp, by simp⟩, ⟨rfl, by simp, by simp⟩, trivial⟩
  | suspend =>
    refine masks_kept .tx (by simp) ⟨⟨rfl, by simp, by simp⟩, kept_write (stopAllQs_other .tx) trivial⟩
  | suspendLate =>
    refine masks_kept .rx (by simp) ⟨⟨rfl, by simp, by simp [ipBusy]⟩, kept_write (stopAllQs_other .rx) ?_⟩
    exact kept_ipBusy ⟨fun _ => .inl rfl, trivial⟩
  | resumeEarly hwMode txNext trDone =>
    unfold CtrlCall.program hwRestore
    simp only [List.cons_append, List.nil_append]
    refine rmw_kept _ (fun d => by cases d <;> decide) ?_
    refine kept_write (fun d => by cases d <;> decide) (kept_write (fun d => by cases d <;> decide) ?_)
    refine kept_flatMap (fun q rest kept => ?_) _ ?_
    · rw [List.append_assoc]
      exact startAddrs_kept q .tx _ (startAddrs_kept q .rx _ kept)
    · refine ⟨fun _ => .inl rfl, kept_write startQueue_other ⟨⟨rfl, by simp, by simp⟩, ?_⟩⟩
      exact kept_write (imcr_ne .rx) (kept_write (imcr_ne .rx) trivial)
  | resume => exact ⟨⟨rfl, by simp, by simp⟩, kept_write (imcr_ne .tx) (kept_write (imcr_ne .tx) trivial)⟩
  | stopAllQs dir =>
    refine masks_kept dir (by simp) ⟨⟨rfl, by simp, by simp⟩, kept_write (stopAllQs_other dir) trivial⟩

theorem enAll_settles (dir : Dir) (q : Qno) :
    (IrqOp.write (hwIrqEnTxrx CLDMA_ALL_Q dir)).settles dir q = true := by
  simp [IrqOp.settles, hwIrqEnTxrx, qMask_all]

theorem start_settles (dir : Dir) (q : Qno) :
    (IrqOp.write (imcr dir, TXRX_STATUS_BITMASK.setWidth 32)).settles dir q = true := by
  have all : ∀ q : Qno, (TXRX_STATUS_BITMASK.setWidth 32).getLsbD q.val = true := by decide
  simp only [IrqOp.settles, all, decide_true, Bool.and_self]

theorem startAddrs_writes (q : Qno) (dir : Dir) (address : Option (BitVec 64)) :
    ∀ op ∈ startAddrs q dir address, ∃ w, op = .write w := by
  cases address with
  | none => exact List.forall_mem_nil _
  | some address =>
    intro op member
    simp only [startAddrs, List.mem_map] at member
    obtain ⟨w, -, rfl⟩ := member
    exact ⟨w, rfl⟩

theorem mem_start {trDone : Dir → Qno → Option (BitVec 64)} {op : IrqOp}
    (member : op ∈ (CtrlCall.start trDone).program) :
    (∃ w, op = .write w) ∨ op = .int true ∨ ∃ dir, op = .active dir true := by
  have writes := fun q dir => startAddrs_writes q dir (trDone dir q) op
  simp only [CtrlCall.program, hwStart, List.mem_append, List.mem_flatMap, List.mem_cons, List.mem_map,
    List.not_mem_nil, or_false] at member
  obtain ((((rfl | ⟨q, -, addr⟩) | ⟨q, -, addr⟩) | rfl) | ⟨w, -, rfl⟩) | rfl | rfl := member
  · exact .inr (.inl rfl)
  · exact .inl (writes q .tx addr)
  · exact .inl (writes q .rx addr)
  · exact .inl ⟨_, rfl⟩
  · exact .inl ⟨w, rfl⟩
  · exact .inr (.inr ⟨.tx, rfl⟩)
  · exact .inr (.inr ⟨.rx, rfl⟩)

theorem mem_resumeEarly {hwMode : BitVec 32} {txNext trDone : Qno → BitVec 64} {op : IrqOp}
    (member : op ∈ (CtrlCall.resumeEarly hwMode txNext trDone).program) :
    (∃ w, op = .write w) ∨ (∃ reg edit, op = .rmw reg edit) ∨ op = .int true ∨ op = .active .rx true := by
  have writes := fun q dir address => startAddrs_writes q dir address op
  simp only [CtrlCall.program, hwRestore, List.mem_append, List.mem_flatMap, List.mem_cons,
    List.not_mem_nil, or_false] at member
  obtain ((rfl | rfl | rfl) | ⟨q, -, addr | addr⟩) | rfl | rfl | rfl | rfl | rfl := member
  · exact .inr (.inl ⟨_, _, rfl⟩)
  · exact .inl ⟨_, rfl⟩
  · exact .inl ⟨_, rfl⟩
  · exact .inl (writes q .tx _ addr)
  · exact .inl (writes q .rx _ addr)
  · exact .inr (.inr (.inl rfl))
  · exact .inl ⟨_, rfl⟩
  · exact .inr (.inr (.inr rfl))
  · exact .inl ⟨_, rfl⟩
  · exact .inl ⟨_, rfl⟩

/-- A call that makes queues active enables their interrupts, and the L1 interrupt for RX queues. -/
theorem program_activates (c : CtrlCall) {dir : Dir} (activates : .active dir true ∈ c.program) :
    (∀ q, ∃ op ∈ c.program, op.settles dir q = true) ∧ (dir = .rx → .int true ∈ c.program) := by
  cases c with
  | start trDone =>
    refine ⟨fun q => ⟨.write (imcr dir, TXRX_STATUS_BITMASK.setWidth 32), ?_, start_settles dir q⟩, fun _ => ?_⟩
    · cases dir <;> simp [CtrlCall.program, hwStart]
    · simp [CtrlCall.program]
  | resumeEarly hwMode txNext trDone =>
    cases dir with
    | rx =>
      refine ⟨fun q => ⟨.write (hwIrqEnTxrx CLDMA_ALL_Q .rx), ?_, enAll_settles .rx q⟩, fun _ => ?_⟩
      · simp [CtrlCall.program]
      · simp [CtrlCall.program]
    | tx =>
      obtain ⟨w, is⟩ | ⟨reg, edit, is⟩ | is | is := mem_resumeEarly activates <;> cases is
  | resume =>
    simp [CtrlCall.program] at activates
    subst activates
    refine ⟨fun q => ⟨.write (hwIrqEnTxrx CLDMA_ALL_Q .tx), ?_, enAll_settles .tx q⟩, fun rx => by cases rx⟩
    simp [CtrlCall.program]
  | suspend => simp [CtrlCall.program] at activates
  | suspendLate => simp [CtrlCall.program, ipBusy] at activates
  | stopAllQs d => simp [CtrlCall.program] at activates

theorem program_late (c : CtrlCall) (off : .int false ∈ c.program) : .active .rx false ∈ c.program := by
  cases c with
  | suspendLate => simp [CtrlCall.program]
  | start trDone =>
    obtain ⟨w, is⟩ | is | ⟨dir, is⟩ := mem_start off <;> cases is
  | resumeEarly hwMode txNext trDone =>
    obtain ⟨w, is⟩ | ⟨reg, edit, is⟩ | is | is := mem_resumeEarly off <;> cases is
  | suspend | resume | stopAllQs => simp [CtrlCall.program] at off

theorem call_inv (inv : s.FlowInv) {c : CtrlCall} (taken : s.step (.call c) = some u) : u.FlowInv := by
  simp only [IrqCtrl.step] at taken
  split at taken
  swap
  · cases taken
  rename_i free
  cases taken
  have idle : s.ops .call = [] := ops_of_idle free.1
  have own : ∀ {v}, v ≠ .call → (IrqCtrl.setProg { s with lock := some .call } .call (some c.program)).ops v =
      s.ops v := fun other => ops_setProg_ne rfl other
  have comes : ∀ {f dir q}, s.Comes f dir q →
      (IrqCtrl.setProg { s with lock := some .call } .call (some c.program)).Comes f dir q :=
    fun comes => comes_begin rfl idle comes
  have wanted : ∀ {dir q}, (IrqCtrl.setProg { s with lock := some .call } .call (some c.program)).Wanted dir q →
      s.Wanted dir q ∨ .active dir true ∈ c.program := by
    rintro dir q (active | activates)
    · exact .inl (.inl active)
    · rw [ops_setProg_self] at activates
      exact .inr activates
  refine ⟨fun v => ?_, fun _ => rfl, fun v op member inside => ?_, fun d q left => ?_, fun d q masked want => ?_,
    inv.txShort, ?_, fun off => .inl ?_⟩
  · by_cases isCall : v = .call
    · subst isCall
      rw [ops_setProg_self]
      exact program_kept c
    · rw [own isCall]
      exact inv.kept v
  · by_cases isCall : v = .call
    · exact congrArg some isCall.symm
    · rw [own isCall] at member
      have held := inv.locked v op member inside
      rw [free.2] at held
      cases held
  · exact (inv.awake d q left).imp_right fun announced =>
      announced.imp_right fun announced => announced.imp_right fun announced => announced.imp_right comes
  · obtain was | activates := wanted want
    · exact (inv.settling d q masked was).imp_right comes
    · obtain ⟨op, member, settles⟩ := (program_activates c activates).1 q
      refine .inr ⟨.call, rfl, op, ?_, settles⟩
      rw [ops_setProg_self]
      exact member
  · rintro ⟨q, want⟩
    rw [own (by decide), ops_setProg_self]
    obtain was | activates := wanted want
    · have settled := inv.l1 ⟨q, was⟩
      rw [idle] at settled
      obtain on | isr | call | call := settled
      · exact .inl on
      · exact .inr (.inl isr)
      · cases call
      · cases call
    · exact .inr (.inr (.inl ((program_activates c activates).2 rfl)))
  · rw [ops_setProg_self] at off ⊢
    exact program_late c off

end Calls

section Runs

variable {s u : IrqCtrl}

theorem flowInv_step {label : IrqLabel} (inv : s.FlowInv) (taken : s.step label = some u) : u.FlowInv := by
  cases label with
  | complete dir q => exact complete_inv inv dir q taken
  | raise dir bits => exact raise_inv inv dir bits taken
  | device reg value => exact device_inv inv taken
  | interrupt => exact interrupt_inv inv taken
  | workBegin dir q => exact workBegin_inv inv taken
  | collect dir q how => exact collect_inv inv taken
  | access t resumes => exact access_inv inv taken
  | returns t => exact returns_inv inv taken
  | call c => exact call_inv inv taken
  | clearQ dir q => exact clearQ_inv inv dir q taken

/-- A controller before `t7xx_cldma_start`, with nothing under way and its registers as they may be. -/
def IrqCtrl.Initialised (s : IrqCtrl) : Prop :=
  (∀ t, s.prog t = none) ∧ s.lock = none ∧ (∀ dir q, s.isActive dir q = false) ∧
    (∀ dir q, s.left dir q = 0) ∧ ∀ q, s.short .tx q = false

theorem flowInv_initialised (initial : s.Initialised) : s.FlowInv := by
  obtain ⟨idle, free, inactive, empty, txShort⟩ := initial
  have ops : ∀ t, s.ops t = [] := fun t => ops_of_idle (idle t)
  have unwanted : ∀ dir q, ¬ s.Wanted dir q := by
    rintro dir q (active | activates)
    · rw [inactive] at active
      cases active
    · rw [ops] at activates
      cases activates
  refine ⟨fun t => ?_, fun under => absurd (idle .call) under, fun t op member => ?_, fun dir q left => ?_,
    fun dir q _ want => absurd want (unwanted dir q), txShort, fun ⟨q, want⟩ => absurd want (unwanted .rx q),
    fun off => ?_⟩
  · rw [ops]
    trivial
  · rw [ops] at member
    cases member
  · rw [empty] at left
    cases left
  · rw [ops] at off
    cases off

/-- Nothing of a queue is under way, neither in the driver nor in the device. -/
def IrqCtrl.AtRest (s : IrqCtrl) (dir : Dir) (q : Qno) : Prop :=
  s.prog .isr = none ∧ s.prog .call = none ∧ s.prog (.work dir q) = none ∧ s.pending dir q = false ∧
    s.owes dir q = false

/-- Whatever an active queue at rest has left uncollected is announced by an interrupt that is enabled,
    but for an RX work that stopped at its budget, or failed on a queue that was not active. -/
theorem completions_announced (s t : IrqCtrl) (labels : List IrqLabel) (initial : s.Initialised)
    (run : execute IrqCtrl.step s labels = some t) (dir : Dir) (q : Qno) (active : t.isActive dir q = true)
    (rest : t.AtRest dir q) (left : 0 < t.left dir q) :
    (t.raised dir q = true ∧ t.masked dir q = false ∧ (t.isActive .rx q = true → t.l1On = true)) ∨
      dir = .rx ∧ t.short .rx q = true := by
  have inv : t.FlowInv :=
    (Visits.of_kept IrqCtrl.FlowInv (fun _ => id) (fun _ _ _ inv taken => flowInv_step inv taken) labels
      (flowInv_initialised initial)).finish run
  obtain ⟨noIsr, noCall, noWork, notPending, owesNone⟩ := rest
  have still : ∀ f, ¬ t.Comes f dir q := by
    rintro f ⟨v, serves, op, member, -⟩
    have idle : t.ops v = [] := by
      cases v with
      | isr => exact ops_of_idle noIsr
      | call => exact ops_of_idle noCall
      | work d p =>
        obtain ⟨rfl, rfl⟩ := of_decide_eq_true serves
        exact ops_of_idle noWork
    rw [idle] at member
    cases member
  have unmasked : t.masked dir q = false := by
    by_contra masked
    obtain pending | comes := inv.settling dir q (Bool.eq_true_of_not_eq_false masked) (.inl active)
    · rw [notPending] at pending
      cases pending
    · exact still _ comes
  obtain owes | raised | pending | short | comes := inv.awake dir q left
  · rw [owesNone] at owes
    cases owes
  · refine .inl ⟨raised, unmasked, fun rx => ?_⟩
    have l1 := inv.l1 ⟨q, .inl rx⟩
    rw [ops_of_idle noIsr, ops_of_idle noCall] at l1
    obtain on | none_ | none_ | none_ := l1
    · exact on
    · cases none_
    · cases none_
    · cases none_
  · rw [notPending] at pending
    cases pending
  · cases dir with
    | tx =>
      rw [inv.txShort] at short
      cases short
    | rx => exact .inr ⟨rfl, short⟩
  · exact absurd comes (still _)

/-- Everything masked and nothing active. -/
def hifHwInited : IrqCtrl where
  regs := fun reg => if reg = imr .tx ∨ reg = imr .rx then 0xffff else 0
  l1On := false
  active := fun _ => 0
  left := fun _ _ => 0
  owes := fun _ _ => false
  pending := fun _ _ => false
  short := fun _ _ => false
  prog := fun _ => none
  lock := none

def accesses (t : Thread) (count : Nat) : List IrqLabel := List.replicate count (.access t false)

def serviced (dir : Dir) : List IrqLabel :=
  [.complete dir firstQno, .raise dir 1, .interrupt] ++ accesses .isr 11 ++
    [.returns .isr, .workBegin dir firstQno]

/-- A GPD is completed while the work of the queue clears the interrupt of the one before. -/
def overtakenTx : List IrqLabel :=
  [.call (.start fun _ _ => none)] ++ accesses .call 8 ++ [.returns .call] ++ serviced .tx ++
    [.collect .tx firstQno .took, .collect .tx firstQno .drained, .complete .tx firstQno, .raise .tx 1] ++
    accesses (.work .tx firstQno) 2 ++ [.complete .tx firstQno] ++ accesses (.work .tx firstQno) 2 ++
    [.returns (.work .tx firstQno), .workBegin .tx firstQno, .collect .tx firstQno .took,
     .collect .tx firstQno .took, .collect .tx firstQno .drained] ++
    accesses (.work .tx firstQno) 6 ++ [.returns (.work .tx firstQno), .complete .tx firstQno, .raise .tx 1]

instance (s : IrqCtrl) (dir : Dir) (q : Qno) : Decidable (s.AtRest dir q) :=
  inferInstanceAs (Decidable (_ ∧ _))

theorem hifHwInited_initialised : hifHwInited.Initialised :=
  ⟨fun _ => rfl, rfl, fun _ _ => BitVec.getLsbD_zero, fun _ _ => rfl, fun _ => rfl⟩

theorem overtakenTx_runs : (execute IrqCtrl.step hifHwInited overtakenTx).isSome = true := by decide +kernel

def overtaken : IrqCtrl := (execute IrqCtrl.step hifHwInited overtakenTx).get overtakenTx_runs

theorem completions_announced_overtaken :
    (overtaken.raised .tx firstQno = true ∧ overtaken.masked .tx firstQno = false ∧
      (overtaken.isActive .rx firstQno = true → overtaken.l1On = true)) ∨
      Dir.tx = .rx ∧ overtaken.short .rx firstQno = true := by
  have active : overtaken.isActive .tx firstQno = true := by decide +kernel
  have rest : overtaken.AtRest .tx firstQno := by decide +kernel
  have left : 0 < overtaken.left .tx firstQno := by decide +kernel
  exact completions_announced hifHwInited overtaken overtakenTx hifHwInited_initialised
    (Option.some_get overtakenTx_runs).symm .tx firstQno active rest left

/-- Two GPDs with one interrupt, of which the budget of the work allows one. -/
def shortRx : List IrqLabel :=
  [.call (.start fun _ _ => none)] ++ accesses .call 8 ++ [.returns .call, .complete .rx firstQno] ++
    serviced .rx ++ [.collect .rx firstQno .took, .collect .rx firstQno .overBudget] ++
    accesses (.work .rx firstQno) 8 ++ [.returns (.work .rx firstQno)]

theorem over_budget_unannounced :
    let t := (execute IrqCtrl.step hifHwInited shortRx).getD hifHwInited
    t.isActive .rx firstQno = true ∧ t.AtRest .rx firstQno ∧ t.left .rx firstQno = 1 ∧
      t.raised .rx firstQno = false := by decide +kernel

end Runs

end T7xxModel.Cldma
