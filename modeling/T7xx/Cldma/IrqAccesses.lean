import T7xx.Cldma.IrqPromises

namespace T7xxModel.Cldma

open Register Transition

section Accesses

variable {s u : IrqCtrl} {t : Thread} {op : IrqOp} {new rest : List IrqOp} {resumes : Bool}

theorem perform_kept (performed : s.perform t resumes op = some (u, new)) (before : op.Before t rest)
    (kept : Kept t rest) : Kept t (new ++ rest) := by
  cases op with
  | l2TxInt | l2RxInt | l2TxIntMsk =>
    cases performed
    exact ⟨before, kept⟩
  | l2RxIntMsk tx rx txMsk =>
    cases performed
    obtain ⟨rfl, -⟩ := before
    exact irqWorkCb_kept _ _ kept
  | ack reg mask =>
    cases performed
    refine ⟨fun d q bit => ⟨fun same => before.2 d q ?_ same, fun same => absurd same (before.1 d)⟩, kept⟩
    rw [BitVec.getLsbD_and, Bool.and_eq_true] at bit
    exact bit.2
  | readInt dir q overBudget =>
    cases performed
    obtain ⟨rfl, rfl⟩ := before
    rw [List.append_nil]
    cases dir
    · exact txDoneTail_kept q _
    · exact rxCollectTail_kept q overBudget _
  | lockTest dir q overBudget =>
    obtain ⟨-, -, rfl⟩ := perform_lockTest performed
    obtain ⟨rfl, rfl⟩ := before
    rw [List.append_nil]
    cases dir
    · exact txDoneEnables_kept q _
    · exact rxCollectTests_kept q overBudget _
  | ret q failed =>
    cases performed
    obtain ⟨rfl, rfl⟩ := before
    rw [List.append_nil]
    exact rxDoneTail_kept q _
  | emptyHndl q =>
    obtain ⟨rfl, -⟩ := perform_emptyHndl performed
    exact kept
  | queueStatus q =>
    obtain ⟨rfl, -⟩ := perform_queueStatus performed
    exact kept
  | collect dir q => cases performed
  | _ =>
    cases performed
    exact kept

theorem queued_pending {d dir : Dir} {p q : Qno} (same : d = dir ∧ p = q) :
    put₂ s.pending d p true dir q = true := by
  rw [put₂_apply, if_pos ⟨same.1.symm, same.2.symm⟩]

/-- An access that was to wake a work has queued it, or leaves such an access behind. -/
theorem perform_wakes (performed : s.perform t resumes op = some (u, new)) {dir : Dir} {q : Qno}
    (wakes : op.wakes dir q = true) :
    u.pending dir q = true ∨ u.short dir q = true ∨ ∃ later ∈ new ++ rest, later.wakes dir q = true := by
  cases op with
  | queue d p =>
    cases performed
    exact .inl (queued_pending (of_decide_eq_true wakes))
  | ret p failed =>
    cases performed
    simp only [IrqOp.wakes, Bool.and_eq_true, decide_eq_true_eq] at wakes
    obtain ⟨rfl, rfl, rfl⟩ := wakes
    refine .inr ?_
    cases active : s.isActive .rx p with
    | true => exact .inr ⟨.queue .rx p, by simp [rxDoneTail], by simp [IrqOp.wakes]⟩
    | false =>
      refine .inl ?_
      simp [put₂_apply]
  | collect d p => cases performed
  | _ => cases wakes

theorem deactivated_unwanted {dir : Dir}
    (performed : s.perform t resumes (.active dir false) = some (u, new))
    (before : (IrqOp.active dir false).Before t rest) (q : Qno) :
    ¬ (u.setProg t (some (new ++ rest))).Wanted dir q := by
  cases performed
  obtain ⟨rfl, -, absent⟩ := before
  rintro (active | later)
  · have on : ∀ q : Qno, TXRX_STATUS_BITMASK.getLsbD q.val = true := by decide
    simp [IrqCtrl.isActive, IrqCtrl.setProg, on] at active
  · rw [ops_setProg, if_pos rfl] at later
    exact absent rfl later

/-- An access that was to settle a mask has done so, or leaves such an access behind. -/
theorem perform_settles (performed : s.perform t resumes op = some (u, new)) (before : op.Before t rest)
    (called : s.prog .call ≠ none → s.lock = some .call) {dir : Dir} {q : Qno}
    (settles : op.settles dir q = true) :
    u.pending dir q = true ∨ u.masked dir q = false ∨ ¬ (u.setProg t (some (new ++ rest))).Wanted dir q ∨
      ∃ later ∈ new ++ rest, later.settles dir q = true := by
  cases op with
  | queue d p =>
    cases performed
    exact .inl (queued_pending (of_decide_eq_true settles))
  | write w =>
    cases performed
    refine .inr (.inl ?_)
    rw [writeReg_masked]
    exact (congrArg (fun bit => _ && !bit) settles).trans (Bool.and_false _)
  | active d on =>
    simp only [IrqOp.settles, Bool.and_eq_true, Bool.not_eq_true', decide_eq_true_eq] at settles
    obtain ⟨rfl, rfl⟩ := settles
    exact .inr (.inr (.inl (deactivated_unwanted performed before q)))
  | readInt d p overBudget =>
    cases performed
    obtain ⟨rfl, rfl⟩ := of_decide_eq_true settles
    obtain ⟨rfl, rfl⟩ := before
    rw [List.append_nil]
    cases d
    · exact .inr (.inr (.inr (txDoneTail_settles p _)))
    · exact .inr (.inr (.inr (rxCollectTail_settles p overBudget _)))
  | lockTest d p overBudget =>
    obtain ⟨free, rfl, rfl⟩ := perform_lockTest performed
    obtain ⟨rfl, rfl⟩ := of_decide_eq_true settles
    obtain ⟨rfl, rfl⟩ := before
    rw [List.append_nil]
    by_cases enables : d = .rx ∨ s.isActive d p = true
    · exact .inr (.inr (.inr (lockedTail_settles enables)))
    -- with the lock free no call is under way that could make the queue active
    refine .inr (.inr (.inl ?_))
    have uncalled : s.prog .call = none := by
      by_contra under
      rw [called under] at free
      cases free
    rintro (active | later)
    · exact enables (.inr active)
    · rw [ops_setProg, if_neg (Ne.symm (work_ne_call d p))] at later
      simp [IrqCtrl.ops, uncalled] at later
  | ret p failed =>
    cases performed
    obtain ⟨rfl, rfl⟩ := of_decide_eq_true settles
    obtain ⟨rfl, rfl⟩ := before
    rw [List.append_nil]
    exact .inr (.inr (.inr (rxDoneTail_settles p _)))
  | collect d p => cases performed
  | _ => cases settles

theorem perform_active (performed : s.perform t resumes op = some (u, new)) {dir : Dir} {q : Qno}
    (active : u.isActive dir q = true) : s.isActive dir q = true ∨ op = .active dir true := by
  cases op with
  | active d on =>
    cases performed
    by_cases same : dir = d
    · subst same
      cases on with
      | true => exact .inr rfl
      | false =>
        refine .inl ?_
        simp [IrqCtrl.isActive] at active
        exact active.1
    · refine .inl ?_
      simpa [IrqCtrl.isActive, same] using active
  | emptyHndl p =>
    obtain ⟨-, rfl | rfl⟩ := perform_emptyHndl performed <;> exact .inl active
  | queueStatus p =>
    obtain ⟨-, rfl | rfl⟩ := perform_queueStatus performed <;> exact .inl active
  | lockTest d p overBudget =>
    obtain ⟨-, rfl, -⟩ := perform_lockTest performed
    exact .inl active
  | collect d p => cases performed
  | _ =>
    cases performed
    exact .inl active

/-- A call leaves nothing in the place of an access but the write of a read. -/
theorem perform_call (performed : s.perform .call resumes op = some (u, new)) (before : op.Before .call rest) :
    ∀ later ∈ new, ∃ w, later = .write w := by
  have none_ : ∀ later ∈ ([] : List IrqOp), ∃ w, later = .write w := List.forall_mem_nil _
  cases op with
  | ack reg mask =>
    cases performed
    intro later member
    exact ⟨_, List.mem_singleton.mp member⟩
  | l2TxInt | l2RxInt | l2TxIntMsk | l2RxIntMsk => cases before.1
  | readInt d p overBudget | lockTest d p overBudget => cases before.1
  | ret p failed => cases before.1
  | collect d p => cases performed
  | emptyHndl p =>
    obtain ⟨rfl, -⟩ := perform_emptyHndl performed
    exact none_
  | queueStatus p =>
    obtain ⟨rfl, -⟩ := perform_queueStatus performed
    exact none_
  | _ =>
    cases performed
    exact none_

/-- What is left of a call after an access was left before. -/
theorem perform_call_left (performed : s.perform t resumes op = some (u, new)) (before : op.Before t rest)
    (begun : s.prog t = some (op :: rest)) (same : u.prog = s.prog) {later : IrqOp}
    (left : later ∈ (u.setProg t (some (new ++ rest))).ops .call) (other : ∀ w, later ≠ .write w) :
    later ∈ s.ops .call ∧ (t = .call → later ∈ rest) := by
  rw [ops_setProg] at left
  by_cases isCall : t = .call
  · subst isCall
    rw [if_pos rfl] at left
    obtain written | kept := List.mem_append.mp left
    · obtain ⟨w, isWrite⟩ := perform_call performed before later written
      exact absurd isWrite (other w)
    · refine ⟨?_, fun _ => kept⟩
      unfold IrqCtrl.ops
      rw [begun]
      exact List.mem_cons_of_mem _ kept
  · rw [if_neg (Ne.symm isCall)] at left
    refine ⟨?_, fun isCall' => absurd isCall' isCall⟩
    unfold IrqCtrl.ops at left ⊢
    rwa [same] at left

theorem perform_wanted (performed : s.perform t resumes op = some (u, new)) (before : op.Before t rest)
    (begun : s.prog t = some (op :: rest)) {dir : Dir} {q : Qno}
    (wanted : (u.setProg t (some (new ++ rest))).Wanted dir q) : s.Wanted dir q := by
  obtain active | left := wanted
  · obtain was | rfl := perform_active performed active
    · exact .inl was
    · obtain ⟨rfl, -⟩ := before
      refine .inr ?_
      unfold IrqCtrl.ops
      rw [begun]
      exact List.mem_cons_self
  · refine .inr (perform_call_left performed before begun (perform_books performed).prog left ?_).1
    intro w same
    cases same

theorem perform_lock (performed : s.perform t resumes op = some (u, new)) :
    (u.lock = s.lock ∧ op ≠ .unlock) ∨ (op = .unlock ∧ u.lock = none ∧ new = []) ∨
      (∃ dir q overBudget, op = .lockTest dir q overBudget) ∧ s.lock = none ∧ u.lock = some t := by
  have other : ∀ {o : IrqOp}, o ≠ .unlock → s.lock = s.lock ∧ o ≠ .unlock := fun different => ⟨rfl, different⟩
  cases op with
  | unlock =>
    cases performed
    exact .inr (.inl ⟨rfl, rfl, rfl⟩)
  | lockTest d p overBudget =>
    obtain ⟨free, rfl, -⟩ := perform_lockTest performed
    exact .inr (.inr ⟨⟨d, p, overBudget, rfl⟩, free, rfl⟩)
  | emptyHndl p =>
    obtain ⟨-, rfl | rfl⟩ := perform_emptyHndl performed <;> exact .inl (other (by simp))
  | queueStatus p =>
    obtain ⟨-, rfl | rfl⟩ := perform_queueStatus performed <;> exact .inl (other (by simp))
  | collect d p => cases performed
  | _ =>
    cases performed
    exact .inl (other (by simp))

theorem kept_inLock {l : List IrqOp} (kept : Kept t l) (outside : ∀ dir q, t ≠ .work dir q) :
    ∀ later ∈ l, later.inLock = false := by
  induction l with
  | nil => exact List.forall_mem_nil _
  | cons first l ih =>
    rw [List.forall_mem_cons]
    refine ⟨?_, ih kept.2⟩
    by_contra inside
    obtain ⟨before, -⟩ := kept
    cases first with
    | unlock =>
      obtain ⟨⟨dir, q, isWork⟩, -⟩ := before
      exact outside dir q isWork
    | readInt dir q overBudget => exact outside dir q before.1
    | _ => exact inside rfl

theorem perform_inLock (performed : s.perform t resumes op = some (u, new)) (before : op.Before t rest)
    {dir : Dir} {q : Qno} (isWork : t = .work dir q) (outside : op.inLock = false)
    (noTest : ∀ d p overBudget, op ≠ .lockTest d p overBudget) : ∀ later ∈ new, later.inLock = false := by
  have none_ : ∀ later ∈ ([] : List IrqOp), later.inLock = false := List.forall_mem_nil _
  cases op with
  | ack reg mask =>
    cases performed
    intro later member
    rw [List.mem_singleton.mp member]
    rfl
  | l2TxInt | l2RxInt | l2TxIntMsk | l2RxIntMsk =>
    obtain ⟨rfl, -⟩ := before
    cases isWork
  | readInt d p overBudget =>
    cases performed
    cases d with
    | rx => cases outside
    | tx =>
      intro later member
      simp only [intTail, txDoneTail, List.mem_append] at member
      obtain member | member := member <;> split at member <;> simp at member <;>
        obtain rfl | rfl := member <;> rfl
  | lockTest d p overBudget => exact absurd rfl (noTest d p overBudget)
  | ret p failed =>
    cases performed
    intro later member
    unfold rxDoneTail at member
    split at member <;> simp at member
    · cases member
      rfl
    · obtain rfl | rfl | rfl := member <;> rfl
  | collect d p => cases performed
  | emptyHndl p =>
    obtain ⟨rfl, -⟩ := perform_emptyHndl performed
    exact none_
  | queueStatus p =>
    obtain ⟨rfl, -⟩ := perform_queueStatus performed
    exact none_
  | _ =>
    cases performed
    exact none_

theorem ops_of_prog {ops : List IrqOp} (begun : s.prog t = some ops) : s.ops t = ops := by
  unfold IrqCtrl.ops
  rw [begun]
  rfl

theorem IrqCtrl.FlowInv.head (inv : s.FlowInv) (begun : s.prog t = some (op :: rest)) :
    op.Before t rest ∧ Kept t rest := by
  have kept := inv.kept t
  rwa [ops_of_prog begun] at kept

theorem ops_kept (same : u.prog = s.prog) (v : Thread) (ops : Option (List IrqOp)) :
    (u.setProg t ops).ops v = if v = t then ops.getD [] else s.ops v := by
  rw [ops_setProg]
  unfold IrqCtrl.ops
  rw [same]

theorem perform_locked (inv : s.FlowInv) (performed : s.perform t resumes op = some (u, new))
    (begun : s.prog t = some (op :: rest)) (v : Thread) :
    ∀ later ∈ (u.setProg t (some (new ++ rest))).ops v, later.inLock = true → u.lock = some v := by
  intro later member inside
  have kept := inv.head begun
  have locked := inv.locked t
  rw [ops_of_prog begun, List.forall_mem_cons] at locked
  rw [ops_kept (perform_books performed).prog] at member
  by_cases isThread : v = t
  · subst isThread
    rw [if_pos rfl] at member
    by_cases isWork : ∃ dir q, v = .work dir q
    swap
    · have outside := kept_inLock (perform_kept performed kept.1 kept.2)
        fun dir q same => isWork ⟨dir, q, same⟩
      rw [outside later member] at inside
      cases inside
    obtain ⟨dir, q, isWork⟩ := isWork
    obtain ⟨same, notUnlock⟩ | ⟨rfl, -, rfl⟩ | ⟨-, -, taken⟩ := perform_lock performed
    · rw [same]
      obtain left | left := List.mem_append.mp member
      · by_contra unlocked
        have outside : op.inLock = false := by
          by_contra inside
          exact unlocked (locked.1 (Bool.eq_true_of_not_eq_false inside))
        by_cases tests : ∃ d p overBudget, op = .lockTest d p overBudget
        · obtain ⟨d, p, overBudget, rfl⟩ := tests
          obtain ⟨free, rfl, -⟩ := perform_lockTest performed
          rw [free] at same
          cases same
        · have fresh := perform_inLock performed kept.1 isWork outside
            fun d p overBudget same => tests ⟨d, p, overBudget, same⟩
          rw [fresh later left] at inside
          cases inside
      · exact locked.2 later left inside
    · have outside : later.inLock = false := kept.1.2 later member
      rw [outside] at inside
      cases inside
    · exact taken
  · rw [if_neg isThread] at member
    have holds := inv.locked v later member inside
    obtain ⟨same, -⟩ | ⟨rfl, -, -⟩ | ⟨-, free, -⟩ := perform_lock performed
    · rw [same]
      exact holds
    · have own := locked.1 rfl
      rw [holds] at own
      exact absurd (Option.some.inj own) isThread
    · rw [free] at holds
      cases holds

theorem perform_called (inv : s.FlowInv) (performed : s.perform t resumes op = some (u, new))
    (begun : s.prog t = some (op :: rest)) (under : (u.setProg t (some (new ++ rest))).prog .call ≠ none) :
    u.lock = some .call := by
  have kept := inv.head begun
  have was : s.prog .call ≠ none := by
    by_cases isCall : t = .call
    · subst isCall
      rw [begun]
      exact Option.some_ne_none _
    · change Function.update u.prog t _ .call ≠ none at under
      rwa [Function.update_of_ne (Ne.symm isCall), (perform_books performed).prog] at under
  have holds := inv.called was
  obtain ⟨same, -⟩ | ⟨rfl, -, -⟩ | ⟨-, free, -⟩ := perform_lock performed
  · rw [same]
    exact holds
  · obtain ⟨⟨⟨dir, q, rfl⟩, -⟩, -⟩ := kept
    have own := inv.locked (.work dir q)
    rw [ops_of_prog begun, List.forall_mem_cons] at own
    have held := own.1 rfl
    rw [holds] at held
    cases held
  · rw [free] at holds
    cases holds

/-- What a thread was to come to it has come to, or still comes to. -/
theorem comes_after {f : Dir → Qno → IrqOp → Bool} {dir : Dir} {q : Qno} (same : u.prog = s.prog)
    (begun : s.prog t = some (op :: rest)) (comes : s.Comes f dir q) :
    (t.serves dir q = true ∧ f dir q op = true) ∨ (u.setProg t (some (new ++ rest))).Comes f dir q := by
  obtain ⟨v, serves, later, member, is⟩ := comes
  by_cases isThread : v = t
  · subst isThread
    rw [ops_of_prog begun, List.mem_cons] at member
    obtain rfl | member := member
    · exact .inl ⟨serves, is⟩
    · refine .inr ⟨v, serves, later, ?_, is⟩
      rw [ops_kept same, if_pos rfl]
      exact List.mem_append_right _ member
  · refine .inr ⟨v, serves, later, ?_, is⟩
    rw [ops_kept same, if_neg isThread]
    exact member

theorem comes_left {f : Dir → Qno → IrqOp → Bool} {dir : Dir} {q : Qno} (serves : t.serves dir q = true)
    (later : ∃ later ∈ new ++ rest, f dir q later = true) :
    (u.setProg t (some (new ++ rest))).Comes f dir q := by
  obtain ⟨op, member, is⟩ := later
  refine ⟨t, serves, op, ?_, is⟩
  rw [ops_setProg, if_pos rfl]
  exact member

theorem perform_awake (inv : s.FlowInv) (performed : s.perform t resumes op = some (u, new))
    (begun : s.prog t = some (op :: rest)) (dir : Dir) (q : Qno) :
    (u.setProg t (some (new ++ rest))).Awake dir q := by
  have books := perform_books performed
  intro left
  have before : 0 < s.left dir q := by
    change 0 < u.left dir q at left
    rwa [books.left] at left
  obtain owes | raised | pending | short | comes := inv.awake dir q before
  · refine .inl ?_
    change u.owes dir q = true
    rw [books.owes]
    exact owes
  · obtain raised | ⟨serves, later⟩ := perform_raised performed (inv.head begun).1 raised
    · exact .inr (.inl raised)
    · exact .inr (.inr (.inr (.inr (comes_left serves later))))
  · exact .inr (.inr (.inl (books.pending dir q pending)))
  · exact .inr (.inr (.inr (.inl (books.short dir q short))))
  · obtain ⟨serves, wakes⟩ | comes := comes_after books.prog begun comes
    · obtain pending | short | later := perform_wakes performed wakes
      · exact .inr (.inr (.inl pending))
      · exact .inr (.inr (.inr (.inl short)))
      · exact .inr (.inr (.inr (.inr (comes_left serves later))))
    · exact .inr (.inr (.inr (.inr comes)))

theorem perform_settling (inv : s.FlowInv) (performed : s.perform t resumes op = some (u, new))
    (begun : s.prog t = some (op :: rest)) (dir : Dir) (q : Qno) :
    (u.setProg t (some (new ++ rest))).Settling dir q := by
  have books := perform_books performed
  have head := inv.head begun
  intro masked wanted
  obtain masked' | ⟨serves, later⟩ := perform_masked performed head.1 masked
  · obtain pending | comes := inv.settling dir q masked' (perform_wanted performed head.1 begun wanted)
    · exact .inl (books.pending dir q pending)
    · obtain ⟨serves, settles⟩ | comes := comes_after books.prog begun comes
      · obtain pending | open_ | unwanted | later := perform_settles performed head.1 inv.called settles
        · exact .inl pending
        · exact absurd (masked.symm.trans open_) Bool.noConfusion
        · exact absurd wanted unwanted
        · exact .inr (comes_left serves later)
      · exact .inr comes
  · exact .inr (comes_left serves later)

theorem perform_txShort (inv : s.FlowInv) (performed : s.perform t resumes op = some (u, new)) (q : Qno) :
    u.short .tx q = false := by
  cases op with
  | ret p failed =>
    cases performed
    change (if _ then put₂ s.short .rx p true else s.short) .tx q = false
    split
    · rw [put₂_apply, if_neg (by simp)]
      exact inv.txShort q
    · exact inv.txShort q
  | emptyHndl p =>
    obtain ⟨-, rfl | rfl⟩ := perform_emptyHndl performed <;> exact inv.txShort q
  | queueStatus p =>
    obtain ⟨-, rfl | rfl⟩ := perform_queueStatus performed <;> exact inv.txShort q
  | lockTest d p overBudget =>
    obtain ⟨-, rfl, -⟩ := perform_lockTest performed
    exact inv.txShort q
  | collect d p => cases performed
  | _ =>
    cases performed
    exact inv.txShort q

theorem perform_l1On (performed : s.perform t resumes op = some (u, new)) :
    u.l1On = s.l1On ∨ ∃ on, op = .int on ∧ u.l1On = on := by
  cases op with
  | int on =>
    cases performed
    exact .inr ⟨on, rfl, rfl⟩
  | emptyHndl p =>
    obtain ⟨-, rfl | rfl⟩ := perform_emptyHndl performed <;> exact .inl rfl
  | queueStatus p =>
    obtain ⟨-, rfl | rfl⟩ := perform_queueStatus performed <;> exact .inl rfl
  | lockTest d p overBudget =>
    obtain ⟨-, rfl, -⟩ := perform_lockTest performed
    exact .inl rfl
  | collect d p => cases performed
  | _ =>
    cases performed
    exact .inl rfl

theorem op_stays {n : List IrqOp} (same : u.prog = s.prog) (begun : s.prog t = some (op :: rest)) {v : Thread}
    {later : IrqOp} (member : later ∈ s.ops v) :
    (v = t ∧ later = op) ∨ later ∈ (u.setProg t (some (n ++ rest))).ops v := by
  rw [ops_kept same]
  by_cases isThread : v = t
  · subst isThread
    rw [ops_of_prog begun, List.mem_cons] at member
    rw [if_pos rfl]
    exact member.imp (fun same => ⟨rfl, same⟩) (List.mem_append_right _)
  · rw [if_neg isThread]
    exact .inr member

theorem perform_late (inv : s.FlowInv) (performed : s.perform t resumes op = some (u, new))
    (begun : s.prog t = some (op :: rest))
    (off : .int false ∈ (u.setProg t (some (new ++ rest))).ops .call) :
    .active .rx false ∈ (u.setProg t (some (new ++ rest))).ops .call ∨
      ∀ q, ¬ (u.setProg t (some (new ++ rest))).Wanted .rx q := by
  have same := (perform_books performed).prog
  have head := inv.head begun
  have was := (perform_call_left performed head.1 begun same off (fun w eq => by cases eq)).1
  obtain deactivates | unwanted := inv.late was
  · obtain ⟨isCall, isOp⟩ | stays := op_stays (n := new) same begun deactivates
    · subst isOp
      exact .inr (deactivated_unwanted performed head.1)
    · exact .inl stays
  · exact .inr fun q wanted => unwanted q (perform_wanted performed head.1 begun wanted)

theorem perform_l1 (inv : s.FlowInv) (performed : s.perform t resumes op = some (u, new))
    (begun : s.prog t = some (op :: rest)) : (u.setProg t (some (new ++ rest))).L1Settling := by
  have same := (perform_books performed).prog
  have head := inv.head begun
  rintro ⟨q, wanted⟩
  have before := perform_wanted performed head.1 begun wanted
  have turnsOn : op = .int true → u.l1On = true := by
    rintro rfl
    cases performed
    rfl
  obtain on | isr | call | deactivates := inv.l1 ⟨q, before⟩
  · obtain kept | ⟨on', rfl, isOn⟩ := perform_l1On performed
    · exact .inl (kept.trans on)
    · cases on' with
      | true => exact .inl isOn
      | false =>
        obtain rfl | ⟨rfl, later⟩ := head.1 rfl
        · have off : .int false ∈ s.ops .call := by
            rw [ops_of_prog begun]
            exact List.mem_cons_self
          obtain deactivates | unwanted := inv.late off
          · obtain ⟨-, isOp⟩ | stays := op_stays (n := new) same begun deactivates
            · cases isOp
            · exact .inr (.inr (.inr stays))
          · exact absurd before (unwanted q)
        · refine .inr (.inl ?_)
          rw [ops_setProg, if_pos rfl]
          exact List.mem_append_right _ later
  · obtain ⟨-, isOp⟩ | stays := op_stays (n := new) same begun isr
    · exact .inl (turnsOn isOp.symm)
    · exact .inr (.inl stays)
  · obtain ⟨-, isOp⟩ | stays := op_stays (n := new) same begun call
    · exact .inl (turnsOn isOp.symm)
    · exact .inr (.inr (.inl stays))
  · obtain ⟨-, isOp⟩ | stays := op_stays (n := new) same begun deactivates
    · subst isOp
      exact absurd wanted (deactivated_unwanted performed head.1 q)
    · exact .inr (.inr (.inr stays))

theorem access_inv (inv : s.FlowInv) (taken : s.access t resumes = some u) : u.FlowInv := by
  unfold IrqCtrl.access at taken
  split at taken
  · cases taken
  · cases taken
  rename_i op rest begun
  rw [Option.map_eq_some_iff] at taken
  obtain ⟨⟨v, new⟩, performed, rfl⟩ := taken
  have head := inv.head begun
  refine ⟨fun w => ?_, perform_called inv performed begun, perform_locked inv performed begun,
    perform_awake inv performed begun, perform_settling inv performed begun, fun q => ?_,
    perform_l1 inv performed begun, perform_late inv performed begun⟩
  · rw [ops_kept (perform_books performed).prog]
    split
    · rename_i same
      subst same
      exact perform_kept performed head.1 head.2
    · exact inv.kept w
  · exact perform_txShort inv performed q

end Accesses

end T7xxModel.Cldma
