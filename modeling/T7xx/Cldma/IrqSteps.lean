import T7xx.Cldma.IrqAccesses

namespace T7xxModel.Cldma

open Register Transition

section Steps

variable {s u : IrqCtrl}

theorem complete_inv (inv : s.FlowInv) (dir : Dir) (q : Qno)
    (taken : s.step (.complete dir q) = some u) : u.FlowInv := by
  cases taken
  refine ⟨inv.kept, inv.called, inv.locked, fun d p left => ?_, inv.settling, inv.txShort, inv.l1, inv.late⟩
  change 0 < put₂ s.left dir q (s.left dir q + 1) d p at left
  rw [put₂_apply] at left
  by_cases same : d = dir ∧ p = q
  · refine .inl ?_
    change put₂ s.owes dir q true d p = true
    rw [put₂_apply, if_pos same]
  · rw [if_neg same] at left
    obtain owes | announced := inv.awake d p left
    · refine .inl ?_
      change put₂ s.owes dir q true d p = true
      rw [put₂_apply, if_neg same]
      exact owes
    · exact .inr announced

theorem raise_inv (inv : s.FlowInv) (dir : Dir) (bits : BitVec 32)
    (taken : s.step (.raise dir bits) = some u) : u.FlowInv := by
  cases taken
  have masks : ∀ d q, IrqCtrl.masked { s with
      regs := Function.update s.regs (isar dir) (s.regs (isar dir) ||| bits)
      owes := Function.update s.owes dir fun q => s.owes dir q && !bits.getLsbD q.val } d q = s.masked d q := by
    intro d q
    exact congrArg (fun reg : BitVec 32 => reg.getLsbD q.val) (Function.update_of_ne (imr_ne_isar d dir) _ s.regs)
  refine ⟨inv.kept, inv.called, inv.locked, fun d q left => ?_, fun d q masked wanted => ?_, inv.txShort, inv.l1,
    inv.late⟩
  · by_cases same : d = dir
    · subst same
      obtain owes | raised | rest := inv.awake d q left
      · cases bit : bits.getLsbD q.val with
        | true =>
          refine .inr (.inl ?_)
          simp [IrqCtrl.raised, bit]
        | false =>
          refine .inl ?_
          simp [owes, bit]
      · refine .inr (.inl ?_)
        unfold IrqCtrl.raised at raised
        simp [IrqCtrl.raised, raised]
      · exact .inr (.inr rest)
    · obtain owes | raised | rest := inv.awake d q left
      · refine .inl ?_
        simpa [same] using owes
      · refine .inr (.inl ?_)
        have apart : isar d ≠ isar dir := by cases d <;> cases dir <;> first | exact absurd rfl same | decide
        simpa [IrqCtrl.raised, apart] using raised
      · exact .inr (.inr rest)
  · rw [masks] at masked
    exact inv.settling d q masked wanted

theorem device_inv (inv : s.FlowInv) {reg : HwReg} {value : BitVec 32}
    (taken : s.step (.device reg value) = some u) : u.FlowInv := by
  simp only [IrqCtrl.step] at taken
  split at taken
  · cases taken
  rename_i other
  cases taken
  have apart : ∀ dir, isar dir ≠ reg ∧ imr dir ≠ reg := by
    intro dir
    refine ⟨?_, ?_⟩ <;> rintro rfl <;> exact other (by cases dir <;> decide)
  refine ⟨inv.kept, inv.called, inv.locked, fun d q left => ?_, fun d q masked wanted => ?_, inv.txShort, inv.l1,
    inv.late⟩
  · have same : IrqCtrl.raised { s with regs := Function.update s.regs reg value } d q = s.raised d q :=
      congrArg (fun reg : BitVec 32 => reg.getLsbD q.val) (Function.update_of_ne (apart d).1 _ s.regs)
    have announced := inv.awake d q left
    rw [← same] at announced
    exact announced
  · have same : IrqCtrl.masked { s with regs := Function.update s.regs reg value } d q = s.masked d q :=
      congrArg (fun reg : BitVec 32 => reg.getLsbD q.val) (Function.update_of_ne (apart d).2 _ s.regs)
    rw [same] at masked
    exact inv.settling d q masked wanted

theorem clearQ_inv (inv : s.FlowInv) (dir : Dir) (q : Qno)
    (taken : s.step (.clearQ dir q) = some u) : u.FlowInv := by
  cases taken
  refine ⟨inv.kept, inv.called, inv.locked, fun d p left => ?_, inv.settling, inv.txShort, inv.l1, inv.late⟩
  change 0 < put₂ s.left dir q 0 d p at left
  rw [put₂_apply] at left
  split at left
  · cases left
  · exact inv.awake d p left

/-- A thread that has nothing left to do leaves nothing out when it begins anew. -/
theorem comes_begin {f : Dir → Qno → IrqOp → Bool} {dir : Dir} {q : Qno} {t : Thread}
    {prog : Option (List IrqOp)} (same : u.prog = s.prog) (idle : s.ops t = []) (comes : s.Comes f dir q) :
    (u.setProg t prog).Comes f dir q := by
  obtain ⟨v, serves, op, member, is⟩ := comes
  refine ⟨v, serves, op, ?_, is⟩
  rw [ops_kept same]
  by_cases isThread : v = t
  · rw [isThread, idle] at member
    cases member
  · rwa [if_neg isThread]

theorem ops_of_idle {t : Thread} (idle : s.prog t = none) : s.ops t = [] := by
  unfold IrqCtrl.ops
  rw [idle]
  rfl

theorem ops_setProg_ne {t v : Thread} {prog : Option (List IrqOp)} (same : u.prog = s.prog) (other : v ≠ t) :
    (u.setProg t prog).ops v = s.ops v := by
  rw [ops_kept same, if_neg other]

theorem ops_setProg_self {t : Thread} {ops : List IrqOp} : (u.setProg t (some ops)).ops t = ops := by
  rw [ops_setProg, if_pos rfl]
  rfl

theorem setProg_prog_self {t : Thread} {prog : Option (List IrqOp)} : (u.setProg t prog).prog t = prog := by
  unfold IrqCtrl.setProg
  exact Function.update_self t prog u.prog

theorem setProg_prog_ne {t v : Thread} {prog : Option (List IrqOp)} (same : u.prog = s.prog) (other : v ≠ t) :
    (u.setProg t prog).prog v = s.prog v :=
  (Function.update_of_ne other ..).trans (congrFun same v)

theorem interrupt_inv (inv : s.FlowInv) (taken : s.step .interrupt = some u) : u.FlowInv := by
  simp only [IrqCtrl.step] at taken
  split at taken
  swap
  · cases taken
  rename_i idle
  cases taken
  have call : (s.setProg .isr (some isrHandler)).ops .call = s.ops .call := ops_setProg_ne rfl (by decide)
  have wanted : ∀ {dir q}, (s.setProg .isr (some isrHandler)).Wanted dir q → s.Wanted dir q := by
    intro dir q wanted
    unfold IrqCtrl.Wanted at wanted
    rwa [call] at wanted
  refine ⟨fun v => ?_, fun under => inv.called ?_, fun v => ?_, fun d q left => ?_, fun d q masked want => ?_,
    inv.txShort, fun _ => .inr (.inl ?_), fun off => ?_⟩
  · by_cases isThread : v = .isr
    · subst isThread
      rw [ops_setProg_self]
      exact ⟨fun _ => .inr ⟨rfl, by simp⟩, ⟨rfl, rfl⟩, Bool.noConfusion, trivial⟩
    · rw [ops_setProg_ne rfl isThread]
      exact inv.kept v
  · rwa [setProg_prog_ne rfl (by decide)] at under
  · by_cases isThread : v = .isr
    · subst isThread
      rw [ops_setProg_self]
      intro op member inside
      simp only [isrHandler, List.mem_cons, List.not_mem_nil, or_false] at member
      obtain rfl | rfl | rfl := member <;> cases inside
    · rw [ops_setProg_ne rfl isThread]
      exact inv.locked v
  · obtain owes | raised | pending | short | comes := inv.awake d q left
    · exact .inl owes
    · exact .inr (.inl raised)
    · exact .inr (.inr (.inl pending))
    · exact .inr (.inr (.inr (.inl short)))
    · exact .inr (.inr (.inr (.inr (comes_begin rfl (ops_of_idle idle) comes))))
  · obtain pending | comes := inv.settling d q masked (wanted want)
    · exact .inl pending
    · exact .inr (comes_begin rfl (ops_of_idle idle) comes)
  · rw [ops_setProg_self]
    simp [isrHandler]
  · rw [call] at off ⊢
    exact (inv.late off).imp_right fun unwanted q want => unwanted q (wanted want)

theorem work_ne_isr (dir : Dir) (q : Qno) : Thread.work dir q ≠ .isr := by
  intro same
  cases same

/-- What a work does next concerns neither the L1 interrupt nor `cldma_lock`. -/
theorem setWork_frame (op : IrqOp) {dir : Dir} {q : Qno} (inv : s.FlowInv) (same : u.prog = s.prog)
    (lock : u.lock = s.lock) (kept : op.Before (.work dir q) []) (outside : op.inLock = false) :
    (∀ v, Kept v ((u.setProg (.work dir q) (some [op])).ops v)) ∧
      ((u.setProg (.work dir q) (some [op])).prog .call ≠ none → u.lock = some .call) ∧
      (∀ v, ∀ later ∈ (u.setProg (.work dir q) (some [op])).ops v, later.inLock = true → u.lock = some v) ∧
      (u.setProg (.work dir q) (some [op])).ops .call = s.ops .call ∧
      (u.setProg (.work dir q) (some [op])).ops .isr = s.ops .isr := by
  refine ⟨fun v => ?_, fun under => ?_, fun v => ?_, ops_setProg_ne same (work_ne_call dir q).symm,
    ops_setProg_ne same (work_ne_isr dir q).symm⟩
  · by_cases isThread : v = .work dir q
    · subst isThread
      rw [ops_setProg_self]
      exact ⟨kept, trivial⟩
    · rw [ops_setProg_ne same isThread]
      exact inv.kept v
  · rw [setProg_prog_ne same (work_ne_call dir q).symm] at under
    exact lock.trans (inv.called under)
  · by_cases isThread : v = .work dir q
    · subst isThread
      rw [ops_setProg_self]
      intro later member inside
      rw [List.mem_singleton.mp member, outside] at inside
      cases inside
    · rw [ops_setProg_ne same isThread, lock]
      exact inv.locked v

theorem workBegin_inv (inv : s.FlowInv) {dir : Dir} {q : Qno} (taken : s.workBegin dir q = some u) :
    u.FlowInv := by
  unfold IrqCtrl.workBegin at taken
  split at taken
  swap
  · cases taken
  rename_i ready
  cases taken
  have own : ∀ {f : Dir → Qno → IrqOp → Bool}, f dir q (.collect dir q) = true →
      (IrqCtrl.setProg { s with pending := put₂ s.pending dir q false, short := put₂ s.short dir q false }
        (.work dir q) (some [.collect dir q])).Comes f dir q := by
    intro f is
    refine ⟨.work dir q, by simp [Thread.serves], .collect dir q, ?_, is⟩
    rw [ops_setProg_self]
    exact List.mem_singleton_self _
  obtain ⟨kept, called, locked, call, isr⟩ := setWork_frame (.collect dir q)
    (u := { s with pending := put₂ s.pending dir q false, short := put₂ s.short dir q false })
    inv rfl rfl ⟨rfl, rfl⟩ rfl
  have wanted : ∀ {d p}, (IrqCtrl.setProg
      { s with pending := put₂ s.pending dir q false, short := put₂ s.short dir q false }
      (.work dir q) (some [.collect dir q])).Wanted d p → s.Wanted d p := by
    intro d p wanted
    unfold IrqCtrl.Wanted at wanted
    rwa [call] at wanted
  refine ⟨kept, called, locked, fun d p left => ?_, fun d p masked want => ?_, fun p => ?_, fun want => ?_,
    fun off => ?_⟩
  · by_cases same : d = dir ∧ p = q
    · obtain ⟨rfl, rfl⟩ := same
      exact .inr (.inr (.inr (.inr (own (by simp [IrqOp.wakes])))))
    · obtain owes | raised | pending | short | comes := inv.awake d p left
      · exact .inl owes
      · exact .inr (.inl raised)
      · refine .inr (.inr (.inl ?_))
        change put₂ s.pending dir q false d p = true
        rwa [put₂_apply, if_neg same]
      · refine .inr (.inr (.inr (.inl ?_)))
        change put₂ s.short dir q false d p = true
        rwa [put₂_apply, if_neg same]
      · exact .inr (.inr (.inr (.inr (comes_begin rfl (ops_of_idle ready.2) comes))))
  · by_cases same : d = dir ∧ p = q
    · obtain ⟨rfl, rfl⟩ := same
      exact .inr (own (by simp [IrqOp.settles]))
    · obtain pending | comes := inv.settling d p masked (wanted want)
      · refine .inl ?_
        change put₂ s.pending dir q false d p = true
        rwa [put₂_apply, if_neg same]
      · exact .inr (comes_begin rfl (ops_of_idle ready.2) comes)
  · change put₂ s.short dir q false .tx p = false
    rw [put₂_apply]
    split
    · rfl
    · exact inv.txShort p
  · rw [call, isr]
    exact inv.l1 (want.imp fun p => wanted)
  · rw [call] at off ⊢
    exact (inv.late off).imp_right fun unwanted p want => unwanted p (wanted want)

/-- A round of collecting that ends, with the access that comes next. -/
theorem collectEnd_inv (inv : s.FlowInv) {dir : Dir} {q : Qno} (op : IrqOp) {short : Dir → Qno → Bool}
    (begun : s.prog (.work dir q) = some [.collect dir q]) (kept : op.Before (.work dir q) [])
    (outside : op.inLock = false) (settles : op.settles dir q = true)
    (wakes : s.left dir q = 0 ∨ short dir q = true ∨ op.wakes dir q = true)
    (longer : ∀ d p, s.short d p = true → short d p = true) (tx : ∀ p, short .tx p = false) :
    (IrqCtrl.setProg { s with short } (.work dir q) (some [op])).FlowInv := by
  obtain ⟨kept, called, locked, call, isr⟩ := setWork_frame op (u := { s with short }) inv rfl rfl kept outside
  have wanted : ∀ {d p}, (IrqCtrl.setProg { s with short } (.work dir q) (some [op])).Wanted d p →
      s.Wanted d p := by
    intro d p wanted
    unfold IrqCtrl.Wanted at wanted
    rwa [call] at wanted
  have serves : (Thread.work dir q).serves dir q = true := by simp [Thread.serves]
  have own : ∀ {f : Dir → Qno → IrqOp → Bool}, f dir q op = true →
      (IrqCtrl.setProg { s with short } (.work dir q) (some ([op] ++ []))).Comes f dir q :=
    fun is => comes_left serves ⟨op, List.mem_singleton_self _, is⟩
  have after : ∀ {f d p}, s.Comes f d p → ((Thread.work dir q).serves d p = true ∧ f d p (.collect dir q) = true) ∨
      (IrqCtrl.setProg { s with short } (.work dir q) (some ([op] ++ []))).Comes f d p :=
    fun comes => comes_after rfl begun comes
  have queue : ∀ {d p}, (Thread.work dir q).serves d p = true → dir = d ∧ q = p := fun is => of_decide_eq_true is
  refine ⟨kept, called, locked, fun d p left => ?_, fun d p masked want => ?_, tx, fun want => ?_, fun off => ?_⟩
  · obtain owes | raised | pending | was | comes := inv.awake d p left
    · exact .inl owes
    · exact .inr (.inl raised)
    · exact .inr (.inr (.inl pending))
    · exact .inr (.inr (.inr (.inl (longer d p was))))
    · obtain ⟨is, -⟩ | comes := after comes
      · obtain ⟨rfl, rfl⟩ := queue is
        obtain empty | short | wakes := wakes
        · exact absurd left (by change ¬ 0 < s.left dir q; rw [empty]; exact Nat.lt_irrefl 0)
        · exact .inr (.inr (.inr (.inl short)))
        · exact .inr (.inr (.inr (.inr (own wakes))))
      · exact .inr (.inr (.inr (.inr comes)))
  · obtain pending | comes := inv.settling d p masked (wanted want)
    · exact .inl pending
    · obtain ⟨is, -⟩ | comes := after comes
      · obtain ⟨rfl, rfl⟩ := queue is
        exact .inr (own settles)
      · exact .inr comes
  · rw [call, isr]
    exact inv.l1 (want.imp fun p => wanted)
  · rw [call] at off ⊢
    exact (inv.late off).imp_right fun unwanted p want => unwanted p (wanted want)

theorem collect_inv (inv : s.FlowInv) {dir : Dir} {q : Qno} {how : Collected}
    (taken : s.collect dir q how = some u) : u.FlowInv := by
  unfold IrqCtrl.collect at taken
  split at taken
  · cases taken
  rename_i begun
  rw [not_not] at begun
  have tx := inv.txShort
  have same : ∀ d p, s.short d p = true → s.short d p = true := fun _ _ => id
  cases how with
  | took =>
    simp only at taken
    split at taken
    swap
    · cases taken
    cases taken
    refine ⟨inv.kept, inv.called, inv.locked, fun d p left => inv.awake d p ?_, inv.settling, tx, inv.l1, inv.late⟩
    change 0 < put₂ s.left dir q (s.left dir q - 1) d p at left
    rw [put₂_apply] at left
    split at left
    · rename_i queue
      rw [queue.1, queue.2]
      omega
    · exact left
  | drained =>
    cases dir <;> simp only at taken <;> split at taken
    · cases taken
      exact collectEnd_inv inv _ begun ⟨rfl, rfl⟩ rfl (by simp [IrqOp.settles]) (.inl ‹_›) same tx
    · cases taken
    · cases taken
      exact collectEnd_inv inv _ begun ⟨rfl, rfl⟩ rfl (by simp [IrqOp.settles]) (.inl ‹_›) same tx
    · cases taken
  | overBudget =>
    cases dir with
    | tx => cases taken
    | rx =>
      cases taken
      refine collectEnd_inv inv _ begun ⟨rfl, rfl⟩ rfl (by simp [IrqOp.settles]) (.inr (.inl ?_)) ?_ ?_
      · rw [put₂_apply, if_pos ⟨rfl, rfl⟩]
      · intro d p was
        rw [put₂_apply, was, ite_self]
      · intro p
        rw [put₂_apply, if_neg (by simp)]
        exact tx p
  | failed =>
    cases dir with
    | tx => cases taken
    | rx =>
      cases taken
      exact collectEnd_inv inv _ begun ⟨rfl, rfl⟩ rfl (by simp [IrqOp.settles])
        (.inr (.inr (by simp [IrqOp.wakes]))) same tx

theorem returns_inv (inv : s.FlowInv) {t : Thread} (taken : s.step (.returns t) = some u) : u.FlowInv := by
  simp only [IrqCtrl.step] at taken
  split at taken
  swap
  · cases taken
  rename_i ended
  cases taken
  have empty : s.ops t = [] := ops_of_prog ended
  have ops : ∀ v, (IrqCtrl.setProg { s with lock := if t = Thread.call then none else s.lock } t none).ops v =
      s.ops v := by
    intro v
    rw [ops_setProg]
    split
    · rename_i same
      rw [same, empty]
      rfl
    · rfl
  have comes : ∀ {f dir q}, s.Comes f dir q →
      (IrqCtrl.setProg { s with lock := if t = Thread.call then none else s.lock } t none).Comes f dir q :=
    fun comes => comes_begin rfl empty comes
  have wanted : ∀ {dir q},
      (IrqCtrl.setProg { s with lock := if t = Thread.call then none else s.lock } t none).Wanted dir q →
        s.Wanted dir q := by
    intro dir q wanted
    unfold IrqCtrl.Wanted at wanted
    rwa [ops] at wanted
  refine ⟨fun v => ?_, fun under => ?_, fun v op member inside => ?_, fun d q left => ?_,
    fun d q masked want => ?_, inv.txShort, fun want => ?_, fun off => ?_⟩
  · rw [ops]
    exact inv.kept v
  · by_cases isCall : t = .call
    · subst isCall
      exact absurd setProg_prog_self under
    · rw [setProg_prog_ne rfl (Ne.symm isCall)] at under
      exact (if_neg isCall).trans (inv.called under)
  · rw [ops] at member
    have held := inv.locked v op member inside
    by_cases isCall : t = .call
    · subst isCall
      have own := inv.called (by rw [ended]; exact Option.some_ne_none _)
      rw [held] at own
      cases own
      rw [empty] at member
      cases member
    · exact (if_neg isCall).trans held
  · exact (inv.awake d q left).imp_right fun announced =>
      announced.imp_right fun announced => announced.imp_right fun announced => announced.imp_right comes
  · exact (inv.settling d q masked (wanted want)).imp_right comes
  · rw [ops, ops]
    exact inv.l1 (want.imp fun q => wanted)
  · rw [ops] at off ⊢
    exact (inv.late off).imp_right fun unwanted q want => unwanted q (wanted want)

end Steps

end T7xxModel.Cldma
