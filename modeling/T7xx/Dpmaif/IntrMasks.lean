import T7xx.Dpmaif.IntrEntries

namespace T7xxModel.Dpmaif

section Masking

variable (answers : IntrAnswers) (run : IntrRun) (intrStatus : BitVec 32) (qno : Int)

/-- What the call leaves of the UL masks: the shadow, and what was set in the hardware. -/
structure SameUlMasks (before after : IntrRun) : Prop where
  enMsk : after.apUlL2intrEnMsk = before.apUlL2intrEnMsk
  set : after.ulMasks = before.ulMasks

theorem SameUlMasks.trans {before middle after : IntrRun} (first : SameUlMasks before middle)
    (second : SameUlMasks middle after) : SameUlMasks before after :=
  ⟨second.enMsk.trans first.enMsk, second.set.trans first.set⟩

theorem write_ulMasks (reg : IntrReg) (value : BitVec 32) :
    (run.write reg value).ulMasks =
      if reg = .aoUlApL2timsr0 then run.ulMasks ++ [value] else run.ulMasks := by
  simp only [IntrRun.ulMasks, IntrRun.write, List.filter_append, List.map_append]
  split
  · rename_i here
    simp [here]
  · rename_i elsewhere
    simp [elsewhere]

theorem write_sameUlMasks {reg : IntrReg} (other : reg ≠ .aoUlApL2timsr0) (value : BitVec 32) :
    SameUlMasks run (run.write reg value) :=
  ⟨rfl, (write_ulMasks run reg value).trans (if_neg other)⟩

theorem reportField_sameUlMasks (intrType : HwIntrType) (value : BitVec 32) :
    SameUlMasks run (reportField intrType value run) := by
  unfold reportField
  split <;> exact ⟨rfl, rfl⟩

theorem maskDlqIntr_sameUlMasks : SameUlMasks run (maskDlqIntr answers qno run).1 := by
  have written : (run.write .aoUlApdlL2timsr0 (dlqQdone qno)).writes ++
      List.replicate answers.dlPolls (IntrReg.aoUlApdlL2timsr0, dlqQdone qno) =
        run.writes ++ List.replicate (answers.dlPolls + 1) (.aoUlApdlL2timsr0, dlqQdone qno) := by
    simp [IntrRun.write, List.replicate_succ]
  unfold maskDlqIntr
  dsimp only
  rw [written]
  split <;> exact ⟨rfl, by simp [IntrRun.ulMasks]⟩

theorem reportDl_sameUlMasks (bit : BitVec 32) (intrType : HwIntrType) :
    SameUlMasks run (reportDl intrStatus bit intrType run) := by
  unfold reportDl
  split <;> exact ⟨rfl, rfl⟩

theorem reportLenErr_sameUlMasks (bit : BitVec 32) (intrType : HwIntrType) :
    SameUlMasks run (reportLenErr intrStatus bit intrType run) := by
  unfold reportLenErr
  split
  · exact ⟨rfl, (write_ulMasks _ _ bit).trans (if_neg (by decide))⟩
  · exact ⟨rfl, rfl⟩

theorem reportPitcntLenErr_sameUlMasks (bit : BitVec 32) (intrType : HwIntrType) :
    SameUlMasks run (reportPitcntLenErr intrStatus bit intrType qno run) := by
  have other : IntrReg.aoUlApdlL2timsr0 ≠ .aoUlApL2timsr0 := by decide
  have reported : SameUlMasks run (run.report intrType (.twoPow 32 qno.toNat)) := ⟨rfl, rfl⟩
  unfold reportPitcntLenErr dlqMaskRxPitcntLenErrIntr
  split
  · split <;> exact reported.trans (write_sameUlMasks _ other _)
  · exact ⟨rfl, rfl⟩

theorem reportDone_sameUlMasks (bit : BitVec 32) (intrType : HwIntrType) :
    SameUlMasks run (reportDone answers intrStatus bit intrType qno run).1 := by
  have masked := maskDlqIntr_sameUlMasks answers run qno
  obtain ⟨-, result⟩ | ⟨-, -, result⟩ | ⟨-, -, result⟩ :=
    reportDone_cases answers run intrStatus bit intrType qno
  · rw [result]
    exact ⟨rfl, rfl⟩
  · rw [result]
    exact ⟨masked.enMsk, masked.set⟩
  · rw [result]
    exact masked

theorem checkDlq0Intr_sameUlMasks :
    SameUlMasks run (checkDlq0Intr answers intrStatus qno run).1 := by
  unfold checkDlq0Intr
  refine .trans ?_ (reportDone_sameUlMasks answers _ intrStatus qno _ _)
  refine .trans ?_ (reportDl_sameUlMasks _ intrStatus _ _)
  refine .trans ?_ (reportPitcntLenErr_sameUlMasks _ intrStatus qno _ _)
  refine .trans ?_ (reportDl_sameUlMasks _ intrStatus _ _)
  refine .trans ?_ (reportDl_sameUlMasks _ intrStatus _ _)
  refine .trans ?_ (reportDl_sameUlMasks _ intrStatus _ _)
  refine .trans ?_ (reportDl_sameUlMasks _ intrStatus _ _)
  refine .trans ?_ (reportLenErr_sameUlMasks _ intrStatus _ _)
  refine .trans ?_ (reportLenErr_sameUlMasks _ intrStatus _ _)
  exact reportDl_sameUlMasks run intrStatus _ _

theorem checkDlq1Intr_sameUlMasks :
    SameUlMasks run (checkDlq1Intr answers intrStatus qno run).1 :=
  (reportPitcntLenErr_sameUlMasks run intrStatus qno _ _).trans
    (reportDone_sameUlMasks answers _ intrStatus qno _ _)

theorem hwCheckRxIntr_sameUlMasks : SameUlMasks run (hwCheckRxIntr answers intrStatus qno run) := by
  have other : IntrReg.apApdlL2tisar0 ≠ .aoUlApL2timsr0 := by decide
  unfold hwCheckRxIntr
  split_ifs
  · exact (checkDlq0Intr_sameUlMasks answers run intrStatus qno).trans (write_sameUlMasks _ other _)
  · exact (checkDlq1Intr_sameUlMasks answers run intrStatus qno).trans (write_sameUlMasks _ other _)

theorem ulIntQueDone_eq {qNum : Nat} (queue : qNum < DPMAIF_TXQ_NUM) :
    BitVec.twoPow 32 (qNum + DP_UL_INT_DONE_OFFSET) &&& DP_UL_INT_QDONE_MSK = .twoPow 32 qNum := by
  have all : ∀ q < DPMAIF_TXQ_NUM,
      BitVec.twoPow 32 (q + DP_UL_INT_DONE_OFFSET) &&& DP_UL_INT_QDONE_MSK = .twoPow 32 q := by decide
  exact all qNum queue

theorem maskUlqIntr_effect {qNum : Nat} (queue : qNum < DPMAIF_TXQ_NUM) :
    (maskUlqIntr answers run qNum).apUlL2intrEnMsk = run.apUlL2intrEnMsk &&& ~~~.twoPow 32 qNum ∧
      (maskUlqIntr answers run qNum).ulMasks = run.ulMasks ++ [.twoPow 32 qNum] := by
  unfold maskUlqIntr
  rw [ulIntQueDone_eq queue]
  dsimp only
  split <;> exact ⟨rfl, (write_ulMasks _ _ _).trans (if_pos rfl)⟩

theorem foldl_maskUlqIntr (queues : List Nat) (inside : ∀ q ∈ queues, q < DPMAIF_TXQ_NUM) :
    (queues.foldl (maskUlqIntr answers) run).ulMasks = run.ulMasks ++ queues.map (BitVec.twoPow 32) ∧
      ∀ i < 32, (queues.foldl (maskUlqIntr answers) run).apUlL2intrEnMsk.getLsbD i =
        (run.apUlL2intrEnMsk.getLsbD i && decide (i ∉ queues)) := by
  induction queues generalizing run with
  | nil => simp
  | cons q queues ih =>
    rw [List.forall_mem_cons] at inside
    obtain ⟨enMsk, set⟩ := maskUlqIntr_effect answers run inside.1
    obtain ⟨masks, bits⟩ := ih (maskUlqIntr answers run q) inside.2
    rw [List.foldl_cons]
    refine ⟨by rw [masks, set, List.map_cons, List.append_assoc, List.singleton_append], ?_⟩
    intro i below
    rw [bits i below, enMsk, BitVec.getLsbD_and, BitVec.getLsbD_not, BitVec.getLsbD_twoPow]
    by_cases here : q = i
    · simp [here, below]
    · simp [here, below, Ne.symm here]

theorem qdoneMsk_getLsbD {i : Nat} (below : i < 32) :
    DP_UL_INT_QDONE_MSK.getLsbD i = decide (i < DPMAIF_TXQ_NUM) := by
  have ones : DP_UL_INT_QDONE_MSK = (BitVec.allOnes DPMAIF_TXQ_NUM).setWidth 32 := by decide
  rw [ones, BitVec.getLsbD_setWidth, BitVec.getLsbD_allOnes]
  simp [below]

theorem intrField_qdone : intrField 4 0 intrStatus = intrStatus &&& DP_UL_INT_QDONE_MSK := by
  apply BitVec.eq_of_getLsbD_eq
  intro i below
  rw [BitVec.getLsbD_and, qdoneMsk_getLsbD below, intrField, BitVec.getLsbD_setWidth,
    BitVec.getLsbD_extractLsb]
  simp only [below, decide_true, Bool.true_and, Nat.zero_add, DPMAIF_TXQ_NUM]
  rw [Bool.and_comm]
  congr 1

theorem reportUlDone_ulMasks {value : BitVec 32} (queues : value = value &&& DP_UL_INT_QDONE_MSK) :
    (reportUlDone answers value run).ulMasks = run.ulMasks ++
        ((List.range DPMAIF_TXQ_NUM).filter fun q => value.getLsbD q).map (BitVec.twoPow 32) ∧
      (reportUlDone answers value run).apUlL2intrEnMsk = run.apUlL2intrEnMsk &&& ~~~value := by
  have inside : ∀ q ∈ (List.range DPMAIF_TXQ_NUM).filter (fun q => value.getLsbD q),
      q < DPMAIF_TXQ_NUM := fun q member => List.mem_range.mp (List.mem_filter.mp member).1
  unfold reportUlDone
  split
  · obtain ⟨masks, bits⟩ := foldl_maskUlqIntr answers (run.report .ulDone value) _ inside
    refine ⟨masks, ?_⟩
    apply BitVec.eq_of_getLsbD_eq
    intro i below
    have high : value.getLsbD i = true → i < DPMAIF_TXQ_NUM := by
      intro set
      rw [queues, BitVec.getLsbD_and, qdoneMsk_getLsbD below, Bool.and_eq_true] at set
      exact of_decide_eq_true set.2
    have listed : i ∈ (List.range DPMAIF_TXQ_NUM).filter (fun q => value.getLsbD q) ↔
        value.getLsbD i = true := by
      rw [List.mem_filter, List.mem_range]
      exact and_iff_right_of_imp high
    rw [bits i below, BitVec.getLsbD_and, BitVec.getLsbD_not]
    simp only [listed, below, decide_true, Bool.true_and, IntrRun.report]
    cases value.getLsbD i <;> rfl
  · rename_i none
    have full : ~~~(0 : BitVec 32) = BitVec.allOnes 32 := by decide
    rw [not_not.mp none, full, BitVec.and_allOnes]
    simp

theorem hwCheckTxIntr_ulMasks :
    SameUlMasks (reportUlDone answers (intrStatus &&& DP_UL_INT_QDONE_MSK) run)
      (hwCheckTxIntr answers intrStatus run) := by
  have other : IntrReg.apL2tisar0 ≠ .aoUlApL2timsr0 := by decide
  unfold hwCheckTxIntr
  rw [intrField_qdone]
  refine .trans ?_ (write_sameUlMasks _ other _)
  refine .trans ?_ (reportField_sameUlMasks _ _ _)
  refine .trans ?_ (reportField_sameUlMasks _ _ _)
  refine .trans ?_ (reportField_sameUlMasks _ _ _)
  exact reportField_sameUlMasks _ _ _

end Masking

section Contract

/-- The UL queues whose done interrupt is pending and not masked. -/
def ulPending (answers : IntrAnswers) : BitVec 32 :=
  answers.txIntrStatus &&& ~~~answers.txIntrQdone &&& DP_UL_INT_QDONE_MSK

/-- A run with nothing reported; the arrays hold whatever was there. -/
def IntrRun.start (apUlL2intrEnMsk apDlL2intrEnMsk : BitVec 32) (intrTypes : Nat → HwIntrType)
    (intrQueues : Nat → BitVec 32) : IntrRun where
  apUlL2intrEnMsk := apUlL2intrEnMsk
  apDlL2intrEnMsk := apDlL2intrEnMsk
  writes := []
  errors := []
  para := ⟨0, intrTypes, intrQueues, []⟩

/-- Of the UL queues the run reports `queues` as done, in one entry, and masks them. -/
structure UlDone (queues : BitVec 32) (before after : IntrRun) : Prop where
  reported : (after.para.entries.filter fun entry => entry.1 = .ulDone) =
    if queues = 0 then [] else [(.ulDone, queues)]
  masked : after.ulMasks =
    ((List.range DPMAIF_TXQ_NUM).filter fun q => queues.getLsbD q).map (BitVec.twoPow 32)
  enMsk : after.apUlL2intrEnMsk = before.apUlL2intrEnMsk &&& ~~~queues

/-- The done interrupt of a DL queue was pending and not masked, and its mask bit was written. The poll of
    `t7xx_mask_dlq_intr` saw the bit in `DPMAIF_AO_UL_AP_L2TIMR0`, which is the mask of the UL. -/
structure DlMasked (answers : IntrAnswers) (pending bit : BitVec 32) (after : IntrRun) : Prop where
  pending : answers.rxIntrStatus &&& pending ≠ 0
  unmasked : answers.rxIntrQdone &&& bit = 0
  polled : answers.dlPolled &&& bit ≠ 0
  written : (.aoUlApdlL2timsr0, bit) ∈ after.writes
  enMsk : after.apDlL2intrEnMsk &&& bit = 0

/-- What the entries of a call for queue `qno` are good for. -/
structure IntrCounted (answers : IntrAnswers) (qno : Int) (before after : IntrRun) : Prop where
  inside : ∀ slot ∈ after.para.stored, slot < DPF_INTR_INVALID_MAX - 1
  ulDone : qno = DPF_RX_QNO_DFT → UlDone (ulPending answers) before after
  ulOther : qno ≠ DPF_RX_QNO_DFT → UlDone 0 before after
  dlq0Done : ∀ queues, (.dlQ0Done, queues) ∈ after.para.entries →
    qno = DPF_RX_QNO0 ∧ DlMasked answers DP_DL_INT_Q0_DONE DPMAIF_DL_INT_DLQ0_QDONE after
  dlq1Done : ∀ queues, (.dlQ1Done, queues) ∈ after.para.entries →
    qno ≠ DPF_RX_QNO0 ∧ DlMasked answers DP_DL_INT_Q1_DONE DPMAIF_DL_INT_DLQ1_QDONE after

end Contract

end T7xxModel.Dpmaif
