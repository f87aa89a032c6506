import T7xx.Dpmaif.IntrMasks

namespace T7xxModel.Dpmaif

section Result

variable (answers : IntrAnswers) (run : IntrRun) (intrStatus bit : BitVec 32) (qno : Int)

theorem getTxIntr_para :
    (getTxIntr answers qno run).para = fillPara run.para
      (if qno = DPF_RX_QNO_DFT then ulEntries (answers.txIntrStatus &&& ~~~answers.txIntrQdone)
      else []) := by
  unfold getTxIntr
  dsimp only
  split
  · split
    · exact hwCheckTxIntr_para answers run _
    · rename_i nothing
      rw [not_not.mp nothing, ulEntries_zero]
      rfl
  · rfl

theorem getRxIntr_para :
    (getRxIntr answers qno run).para =
      fillPara run.para (dlEntries answers (rxIntrLeft answers qno) qno) := by
  have none (left : rxIntrLeft answers qno = 0) :
      run.para = fillPara run.para (dlEntries answers (rxIntrLeft answers qno) qno) := by
    rw [left, dlEntries_zero]
    rfl
  unfold getRxIntr
  split
  · split
    · exact hwCheckRxIntr_para answers run _ qno
    · rename_i nothing
      exact none (not_not.mp nothing)
  · rename_i nothing
    apply none
    simp [rxIntrLeft, not_not.mp nothing]

theorem getTxIntr_ulMasks (default : qno = DPF_RX_QNO_DFT) :
    SameUlMasks (reportUlDone answers (ulPending answers) run) (getTxIntr answers qno run) := by
  unfold getTxIntr
  rw [if_pos default]
  dsimp only
  split
  · exact hwCheckTxIntr_ulMasks answers run _
  · rename_i nothing
    have none : ulPending answers = 0 := by
      rw [ulPending, not_not.mp nothing]
      exact BitVec.zero_and
    rw [none]
    exact ⟨rfl, rfl⟩

theorem getRxIntr_sameUlMasks : SameUlMasks run (getRxIntr answers qno run) := by
  unfold getRxIntr
  split
  · split
    · exact hwCheckRxIntr_sameUlMasks answers run _ qno
    · exact ⟨rfl, rfl⟩
  · exact ⟨rfl, rfl⟩

def dlqDone (qno : Int) : BitVec 32 :=
  if qno = DPF_RX_QNO0 then DP_DL_INT_Q0_DONE else DP_DL_INT_Q1_DONE

theorem and_not_and (word bit : BitVec 32) : word &&& ~~~bit &&& bit = 0 := by
  rw [BitVec.and_assoc, BitVec.and_comm (~~~bit), BitVec.and_not_self]
  exact BitVec.and_zero

theorem reportDone_masked (intrType : HwIntrType) (pending : intrStatus &&& bit ≠ 0)
    (polled : answers.dlPolled &&& dlqQdone qno ≠ 0) :
    (.aoUlApdlL2timsr0, dlqQdone qno) ∈ (reportDone answers intrStatus bit intrType qno run).1.writes ∧
      (reportDone answers intrStatus bit intrType qno run).1.apDlL2intrEnMsk &&& dlqQdone qno = 0 := by
  obtain ⟨idle, -⟩ | ⟨-, -, result⟩ | ⟨-, failed, -⟩ :=
    reportDone_cases answers run intrStatus bit intrType qno
  · exact absurd idle pending
  · rw [result]
    unfold maskDlqIntr
    dsimp only
    rw [if_neg polled]
    exact ⟨by simp [IntrRun.report, IntrRun.write], and_not_and _ _⟩
  · exact absurd failed polled

theorem getRxIntr_masked (pending : rxIntrLeft answers qno &&& dlqDone qno ≠ 0)
    (polled : answers.dlPolled &&& dlqQdone qno ≠ 0) :
    (.aoUlApdlL2timsr0, dlqQdone qno) ∈ (getRxIntr answers qno run).writes ∧
      (getRxIntr answers qno run).apDlL2intrEnMsk &&& dlqQdone qno = 0 := by
  have left : rxIntrLeft answers qno ≠ 0 := by
    intro none
    rw [none] at pending
    exact pending BitVec.zero_and
  have status : answers.rxIntrStatus ≠ 0 := by
    intro none
    simp [rxIntrLeft, none] at left
  unfold getRxIntr
  rw [if_pos status, if_pos left]
  unfold hwCheckRxIntr
  unfold dlqDone at pending
  by_cases default : qno = DPF_RX_QNO0
  · rw [if_pos default] at pending
    rw [if_pos (show qno = DPF_RX_QNO_DFT from default)]
    obtain ⟨written, cleared⟩ := reportDone_masked answers _ _ _ qno .dlQ0Done pending polled
    exact ⟨List.mem_append_left _ written, cleared⟩
  · rw [if_neg default] at pending
    rw [if_neg (show ¬ qno = DPF_RX_QNO_DFT from default)]
    obtain ⟨written, cleared⟩ := reportDone_masked answers _ _ _ qno .dlQ1Done pending polled
    exact ⟨List.mem_append_left _ written, cleared⟩

theorem rxIntrLeft_done (pending : rxIntrLeft answers qno &&& dlqDone qno ≠ 0) :
    answers.rxIntrStatus &&& dlqDone qno ≠ 0 ∧
      answers.rxIntrQdone &&& dlqQdone qno = 0 := by
  have q0 : DP_DL_Q0_STATUS_MASK &&& DP_DL_INT_Q0_DONE = DP_DL_INT_Q0_DONE := by decide
  have q1 : DP_DL_Q1_STATUS_MASK &&& DP_DL_INT_Q1_DONE = DP_DL_INT_Q1_DONE := by decide
  unfold rxIntrLeft at pending
  unfold dlqQdone
  unfold dlqDone at pending ⊢
  dsimp only at pending
  by_cases queue : qno = DPF_RX_QNO0
  · rw [if_pos queue, if_pos queue] at pending
    rw [if_pos queue, if_pos queue]
    split at pending
    · exact absurd (and_not_and _ _) pending
    · rename_i unmasked
      rw [BitVec.and_assoc, q0] at pending
      exact ⟨pending, not_not.mp unmasked⟩
  · rw [if_neg queue, if_neg queue] at pending
    rw [if_neg queue, if_neg queue]
    split at pending
    · exact absurd (and_not_and _ _) pending
    · rename_i unmasked
      rw [BitVec.and_assoc, q1] at pending
      exact ⟨pending, not_not.mp unmasked⟩

theorem ulEntries_done :
    ((ulEntries intrStatus).filter fun entry => entry.1 = .ulDone) =
      if intrStatus &&& DP_UL_INT_QDONE_MSK = 0 then []
      else [(.ulDone, intrStatus &&& DP_UL_INT_QDONE_MSK)] := by
  have single (reported : Prop) [Decidable reported] (entry : IntrEntry) :
      ((entryIf reported entry).filter fun entry => entry.1 = .ulDone) =
        if reported ∧ entry.1 = .ulDone then [entry] else [] := by
    unfold entryIf
    split <;> simp [List.filter_singleton, *]
  simp only [ulEntries, List.filter_append, single, intrField_qdone]
  simp

theorem dlEntries_done : ((dlEntries answers intrStatus qno).filter fun entry => entry.1 = .ulDone) = [] := by
  rw [List.filter_eq_nil_iff]
  intro entry member
  unfold dlEntries dlq0Entries dlq1Entries doneEntry at member
  split at member <;> simp only [List.mem_append, mem_entryIf] at member <;> grind

theorem ulEntries_ul {entry : IntrEntry} (member : entry ∈ ulEntries intrStatus) :
    entry.1 ≠ .dlQ0Done ∧ entry.1 ≠ .dlQ1Done := by
  unfold ulEntries at member
  simp only [List.mem_append, mem_entryIf] at member
  grind

/-- A queue-done is reported for the queue of the call only, and only if the poll saw its mask. -/
theorem mem_dlEntries_done {intrType : HwIntrType} {queues : BitVec 32}
    (done : intrType = .dlQ0Done ∨ intrType = .dlQ1Done)
    (member : (intrType, queues) ∈ dlEntries answers intrStatus qno) :
    (intrType = .dlQ0Done ↔ qno = DPF_RX_QNO0) ∧ intrStatus &&& dlqDone qno ≠ 0 ∧
      answers.dlPolled &&& dlqQdone qno ≠ 0 := by
  unfold dlEntries dlq0Entries dlq1Entries doneEntry at member
  unfold dlqDone
  by_cases queue : qno = DPF_RX_QNO0
  · rw [if_pos (show qno = DPF_RX_QNO_DFT from queue)] at member
    simp only [List.mem_append, mem_entryIf, Prod.mk.injEq] at member
    rw [if_pos queue]
    rcases done with rfl | rfl
    · simp only [reduceCtorEq, false_and, and_false, or_false, false_or, true_and] at member
      exact ⟨iff_of_true rfl queue, member.1⟩
    · simp at member
  · rw [if_neg (show ¬ qno = DPF_RX_QNO_DFT from queue)] at member
    simp only [List.mem_append, mem_entryIf, Prod.mk.injEq] at member
    rw [if_neg queue]
    rcases done with rfl | rfl
    · simp at member
    · simp only [reduceCtorEq, false_and, and_false, false_or, true_and] at member
      exact ⟨iff_of_false (by decide) queue, member.1⟩

end Result

section Counted

variable (answers : IntrAnswers) (qno : Int)

theorem hwGetIntrCnt_para (run : IntrRun) :
    (hwGetIntrCnt answers qno run).1.para = fillPara run.para
      ((if qno = DPF_RX_QNO_DFT then ulEntries (answers.txIntrStatus &&& ~~~answers.txIntrQdone)
        else []) ++ dlEntries answers (rxIntrLeft answers qno) qno) := by
  unfold hwGetIntrCnt
  rw [fillPara_append]
  dsimp only
  rw [getRxIntr_para, getTxIntr_para, write_para]

theorem ulPending_inside : ulPending answers = ulPending answers &&& DP_UL_INT_QDONE_MSK := by
  rw [ulPending, BitVec.and_assoc _ DP_UL_INT_QDONE_MSK, BitVec.and_self]

/-- The call masks the queues it reports, and for another queue than the default none. -/
theorem hwGetIntrCnt_ulMasks (run : IntrRun) {queues : BitVec 32}
    (pending : queues = if qno = DPF_RX_QNO_DFT then ulPending answers else 0) :
    (hwGetIntrCnt answers qno run).1.ulMasks = run.ulMasks ++
        ((List.range DPMAIF_TXQ_NUM).filter fun q => queues.getLsbD q).map (BitVec.twoPow 32) ∧
      (hwGetIntrCnt answers qno run).1.apUlL2intrEnMsk = run.apUlL2intrEnMsk &&& ~~~queues := by
  have busy : SameUlMasks run (run.write .apIpBusy answers.ipBusySts) :=
    write_sameUlMasks run (by decide) _
  have received := getRxIntr_sameUlMasks answers
    (getTxIntr answers qno (run.write .apIpBusy answers.ipBusySts)) qno
  unfold hwGetIntrCnt
  dsimp only
  rw [received.set, received.enMsk]
  by_cases default : qno = DPF_RX_QNO_DFT
  · rw [if_pos default] at pending
    have inside : queues = queues &&& DP_UL_INT_QDONE_MSK := by
      rw [pending]
      exact ulPending_inside answers
    have sent := getTxIntr_ulMasks answers (run.write .apIpBusy answers.ipBusySts) qno default
    obtain ⟨masks, enMsk⟩ := reportUlDone_ulMasks answers (run.write .apIpBusy answers.ipBusySts) inside
    rw [← pending] at sent
    rw [sent.set, sent.enMsk, masks, enMsk, busy.set, busy.enMsk]
    exact ⟨rfl, rfl⟩
  · rw [if_neg default] at pending
    have full : ~~~(0 : BitVec 32) = BitVec.allOnes 32 := by decide
    unfold getTxIntr
    rw [if_neg default, busy.set, busy.enMsk, pending, full, BitVec.and_allOnes]
    simp

section Start

variable (apUlL2intrEnMsk apDlL2intrEnMsk : BitVec 32) (intrTypes : Nat → HwIntrType)
  (intrQueues : Nat → BitVec 32)

theorem hwGetIntrCnt_ulDone {queues : BitVec 32}
    (pending : queues = if qno = DPF_RX_QNO_DFT then ulPending answers else 0) :
    UlDone queues (.start apUlL2intrEnMsk apDlL2intrEnMsk intrTypes intrQueues)
      (hwGetIntrCnt answers qno
        (.start apUlL2intrEnMsk apDlL2intrEnMsk intrTypes intrQueues)).1 := by
  obtain ⟨masked, enMsk⟩ := hwGetIntrCnt_ulMasks answers qno
    (.start apUlL2intrEnMsk apDlL2intrEnMsk intrTypes intrQueues) pending
  refine ⟨?_, masked, enMsk⟩
  rw [hwGetIntrCnt_para, fillPara_entries, List.filter_append, List.filter_append, dlEntries_done,
    List.append_nil, pending]
  by_cases default : qno = DPF_RX_QNO_DFT
  · rw [if_pos default, if_pos default, ulEntries_done]
    rfl
  · rw [if_neg default, if_neg default]
    rfl

theorem hwGetIntrCnt_dlDone {intrType : HwIntrType} {queues : BitVec 32}
    (type : intrType = .dlQ0Done ∨ intrType = .dlQ1Done)
    (member : (intrType, queues) ∈ (hwGetIntrCnt answers qno
      (.start apUlL2intrEnMsk apDlL2intrEnMsk intrTypes intrQueues)).1.para.entries) :
    (intrType = .dlQ0Done ↔ qno = DPF_RX_QNO0) ∧
      DlMasked answers (dlqDone qno) (dlqQdone qno) (hwGetIntrCnt answers qno
        (.start apUlL2intrEnMsk apDlL2intrEnMsk intrTypes intrQueues)).1 := by
  rw [hwGetIntrCnt_para, fillPara_entries, List.mem_append, List.mem_append] at member
  rcases member with before | sent | received
  · exact absurd before List.not_mem_nil
  · split at sent
    · obtain ⟨first, second⟩ := ulEntries_ul _ sent
      rcases type with q0 | q1
      · exact absurd q0 first
      · exact absurd q1 second
    · exact absurd sent List.not_mem_nil
  · obtain ⟨queue, pending, polled⟩ := mem_dlEntries_done answers _ qno type received
    obtain ⟨status, unmasked⟩ := rxIntrLeft_done answers qno pending
    obtain ⟨written, enMsk⟩ := getRxIntr_masked answers
      (getTxIntr answers qno (IntrRun.write .apIpBusy answers.ipBusySts
        (.start apUlL2intrEnMsk apDlL2intrEnMsk intrTypes intrQueues))) qno pending polled
    exact ⟨queue, status, unmasked, polled, written, enMsk⟩

theorem hwGetIntrCnt_stored {slot : Nat} (member : slot ∈ (hwGetIntrCnt answers qno
    (.start apUlL2intrEnMsk apDlL2intrEnMsk intrTypes intrQueues)).1.para.stored) :
    slot < DPF_INTR_INVALID_MAX - 1 := by
  have sent : (if qno = DPF_RX_QNO_DFT then
      ulEntries (answers.txIntrStatus &&& ~~~answers.txIntrQdone) else []).length ≤ 5 := by
    split
    · exact ulEntries_length _
    · exact Nat.zero_le 5
  have received := dlEntries_length answers (rxIntrLeft answers qno) qno
  rw [hwGetIntrCnt_para, fillPara_stored _ rfl, List.mem_range, List.length_append] at member
  have none : (IntrRun.start apUlL2intrEnMsk apDlL2intrEnMsk intrTypes intrQueues).para.intrCnt = 0 := rfl
  unfold DPF_INTR_INVALID_MAX
  omega

/-- The entries of the arrays are enough, UL_DONE names the UL queues that were pending and not masked,
    which now are masked, if the call is for the default queue, and a DL queue-done was pending, was
    not masked and now is. -/
theorem hwGetIntrCnt_counted :
    IntrCounted answers qno (.start apUlL2intrEnMsk apDlL2intrEnMsk intrTypes intrQueues)
      (hwGetIntrCnt answers qno
        (.start apUlL2intrEnMsk apDlL2intrEnMsk intrTypes intrQueues)).1 := by
  constructor
  · intro slot member
    exact hwGetIntrCnt_stored answers qno _ _ _ _ member
  · intro default
    exact hwGetIntrCnt_ulDone answers qno _ _ _ _ (if_pos default).symm
  · intro other
    exact hwGetIntrCnt_ulDone answers qno _ _ _ _ (if_neg other).symm
  · intro queues member
    obtain ⟨queue, masked⟩ := hwGetIntrCnt_dlDone answers qno _ _ _ _ (Or.inl rfl) member
    have zero := queue.mp rfl
    unfold dlqDone dlqQdone at masked
    rw [if_pos zero, if_pos zero] at masked
    exact ⟨zero, masked⟩
  · intro queues member
    obtain ⟨queue, masked⟩ := hwGetIntrCnt_dlDone answers qno _ _ _ _ (Or.inr rfl) member
    have other : qno ≠ DPF_RX_QNO0 := fun zero => by cases queue.mpr zero
    unfold dlqDone dlqQdone at masked
    rw [if_neg other, if_neg other] at masked
    exact ⟨other, masked⟩

end Start

/-- An interrupt of the second DL queue, while UL queue 0 is done and not masked. -/
def dlq1Answers : IntrAnswers where
  rxIntrStatus := DP_DL_INT_Q1_DONE
  rxIntrQdone := 0
  txIntrStatus := 1
  txIntrQdone := 0
  ipBusySts := 0
  ulPolled := fun _ => 0x1f
  dlPolled := DPMAIF_DL_INT_DLQ1_QDONE
  dlPolls := 1

theorem dlq1_call_leaves_ul_done :
    ¬ UlDone (ulPending dlq1Answers) (.start 0 0 (fun _ => .invalidMin) fun _ => 0)
      (hwGetIntrCnt dlq1Answers 1 (.start 0 0 (fun _ => .invalidMin) fun _ => 0)).1 :=
  fun done => absurd done.reported (by decide)

/-- The queues of UL_DONE are those whose works the interrupt queues. -/
theorem ulPending_ulDone (txq : TxqDone) (q : TxqIndex)
    (same : txq.masked = answers.txIntrQdone.getLsbD q) :
    txq.ulDone (answers.txIntrStatus.getLsbD q) =
      if (ulPending answers).getLsbD q then { txq with masked := true, pending := true } else txq := by
  have inside : (q : Nat) < DPMAIF_TXQ_NUM := q.isLt
  have below : (q : Nat) < 32 := by
    unfold DPMAIF_TXQ_NUM at inside
    omega
  have bit : (ulPending answers).getLsbD q =
      (answers.txIntrStatus.getLsbD q && !answers.txIntrQdone.getLsbD q) := by
    simp [ulPending, qdoneMsk_getLsbD below, inside, below]
  unfold TxqDone.ulDone
  rw [bit, ← same]
  cases answers.txIntrStatus.getLsbD q <;> cases masked : txq.masked <;> simp

end Counted

end T7xxModel.Dpmaif
