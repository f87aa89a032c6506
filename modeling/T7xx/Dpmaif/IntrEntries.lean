import T7xx.Dpmaif.DoneWorks

namespace T7xxModel.Dpmaif

inductive HwIntrType where
  | invalidMin
  | ulDone
  | ulDrbEmpty
  | ulMdNotready
  | ulMdPwrNotready
  | ulLenErr
  | dlDone
  | dlSkbLenErr
  | dlBatcntLenErr
  | dlPitcntLenErr
  | dlPktEmptySet
  | dlFrgEmptySet
  | dlMtuErr
  | dlFrgcntLenErr
  | dlQ0PitcntLenErr
  | dlQ1PitcntLenErr
  | dlHpcEntTypeErr
  | dlQ0Done
  | dlQ1Done
deriving DecidableEq, Repr

def DPF_INTR_INVALID_MAX : Nat := 19

def DPF_RX_QNO0 : Int := 0
def DPF_RX_QNO_DFT : Int := DPF_RX_QNO0

def DP_UL_INT_DONE_OFFSET : Nat := 0
def DP_UL_INT_QDONE_MSK : BitVec 32 := 0x1f

def DP_DL_INT_SKB_LEN_ERR : BitVec 32 := .twoPow 32 1
def DP_DL_INT_BATCNT_LEN_ERR : BitVec 32 := .twoPow 32 2
def DP_DL_INT_PITCNT_LEN_ERR : BitVec 32 := .twoPow 32 3
def DP_DL_INT_PKT_EMPTY_MSK : BitVec 32 := .twoPow 32 4
def DP_DL_INT_FRG_EMPTY_MSK : BitVec 32 := .twoPow 32 5
def DP_DL_INT_MTU_ERR_MSK : BitVec 32 := .twoPow 32 6
def DP_DL_INT_FRG_LEN_ERR_MSK : BitVec 32 := .twoPow 32 7
def DP_DL_INT_Q0_PITCNT_LEN_ERR : BitVec 32 := .twoPow 32 8
def DP_DL_INT_Q1_PITCNT_LEN_ERR : BitVec 32 := .twoPow 32 9
def DP_DL_INT_HPC_ENT_TYPE_ERR : BitVec 32 := .twoPow 32 10
def DP_DL_INT_Q0_DONE : BitVec 32 := .twoPow 32 13
def DP_DL_INT_Q1_DONE : BitVec 32 := .twoPow 32 14

def DP_DL_Q0_STATUS_MASK : BitVec 32 := DP_DL_INT_Q0_PITCNT_LEN_ERR ||| DP_DL_INT_Q0_DONE
def DP_DL_Q1_STATUS_MASK : BitVec 32 := DP_DL_INT_Q1_PITCNT_LEN_ERR ||| DP_DL_INT_Q1_DONE

/-- The same interrupts in the layout of the mask registers. -/
def DPMAIF_DL_INT_DLQ0_QDONE : BitVec 32 := .twoPow 32 8
def DPMAIF_DL_INT_DLQ1_QDONE : BitVec 32 := .twoPow 32 9
def DPMAIF_DL_INT_DLQ0_PITCNT_LEN : BitVec 32 := .twoPow 32 10
def DPMAIF_DL_INT_DLQ1_PITCNT_LEN : BitVec 32 := .twoPow 32 11

/-- The registers that are written: two interrupt status registers, the busy status, and the mask
    set registers for UL and DL. -/
inductive IntrReg where
  | apL2tisar0
  | apApdlL2tisar0
  | apIpBusy
  | aoUlApL2timsr0
  | aoUlApdlL2timsr0
deriving DecidableEq, Repr

/-- `struct dpmaif_hw_intr_st_para`, and the entries of its arrays that were written to. -/
structure IntrStPara where
  intrCnt : Nat
  intrTypes : Nat → HwIntrType
  intrQueues : Nat → BitVec 32
  stored : List Nat

/-- The reports that no mask was seen to be set, with the value of `DPMAIF_AO_UL_AP_L2TIMR0`. -/
inductive MaskError where
  | ul (value : BitVec 32)
  | dl (value : BitVec 32)
deriving DecidableEq, Repr

structure IntrRun where
  apUlL2intrEnMsk : BitVec 32
  apDlL2intrEnMsk : BitVec 32
  writes : List (IntrReg × BitVec 32)
  errors : List MaskError
  para : IntrStPara

/-- What the call reads: the statuses and masks, the values that the polls for the masks end with,
    and how often the poll for a DL mask reads. -/
structure IntrAnswers where
  rxIntrStatus : BitVec 32
  rxIntrQdone : BitVec 32
  txIntrStatus : BitVec 32
  txIntrQdone : BitVec 32
  ipBusySts : BitVec 32
  ulPolled : Nat → BitVec 32
  dlPolled : BitVec 32
  dlPolls : Nat

section Reading

def IntrRun.write (reg : IntrReg) (value : BitVec 32) (run : IntrRun) : IntrRun :=
  { run with writes := run.writes ++ [(reg, value)] }

def setIntrPara (para : IntrStPara) (intrType : HwIntrType) (intrQueue : BitVec 32) : IntrStPara where
  intrCnt := para.intrCnt + 1
  intrTypes := Function.update para.intrTypes para.intrCnt intrType
  intrQueues := Function.update para.intrQueues para.intrCnt intrQueue
  stored := para.stored ++ [para.intrCnt]

def IntrRun.report (intrType : HwIntrType) (intrQueue : BitVec 32) (run : IntrRun) : IntrRun :=
  { run with para := setIntrPara run.para intrType intrQueue }

/-- A failed poll only is reported. -/
def maskUlqIntr (answers : IntrAnswers) (run : IntrRun) (qNum : Nat) : IntrRun :=
  let ulIntQueDone := BitVec.twoPow 32 (qNum + DP_UL_INT_DONE_OFFSET) &&& DP_UL_INT_QDONE_MSK
  let masked := { run with apUlL2intrEnMsk := run.apUlL2intrEnMsk &&& ~~~ulIntQueDone }
  let written := masked.write .aoUlApL2timsr0 ulIntQueDone
  if answers.ulPolled qNum &&& ulIntQueDone = ulIntQueDone then written
  else { written with errors := written.errors ++ [.ul (answers.ulPolled qNum)] }

def dlqQdone (qno : Int) : BitVec 32 :=
  if qno = DPF_RX_QNO0 then DPMAIF_DL_INT_DLQ0_QDONE else DPMAIF_DL_INT_DLQ1_QDONE

/-- The poll of `t7xx_mask_dlq_intr` writes the bit again each time it reads. -/
def maskDlqIntr (answers : IntrAnswers) (qno : Int) (run : IntrRun) : IntrRun × Int :=
  let qDone := dlqQdone qno
  let polls := List.replicate answers.dlPolls (IntrReg.aoUlApdlL2timsr0, qDone)
  let written := run.write .aoUlApdlL2timsr0 qDone
  let polled := { written with writes := written.writes ++ polls }
  if answers.dlPolled &&& qDone = 0 then
    ({ polled with errors := polled.errors ++ [.dl answers.dlPolled] }, -ETIMEDOUT)
  else ({ polled with apDlL2intrEnMsk := polled.apDlL2intrEnMsk &&& ~~~qDone }, 0)

def dlqMaskRxPitcntLenErrIntr (qno : Int) (run : IntrRun) : IntrRun :=
  if qno = DPF_RX_QNO0 then run.write .aoUlApdlL2timsr0 DPMAIF_DL_INT_DLQ0_PITCNT_LEN
  else run.write .aoUlApdlL2timsr0 DPMAIF_DL_INT_DLQ1_PITCNT_LEN

/-- `FIELD_GET` of the bits from `lo` up to `hi`. -/
def intrField (hi lo : Nat) (intrStatus : BitVec 32) : BitVec 32 :=
  (intrStatus.extractLsb hi lo).setWidth 32

def reportField (intrType : HwIntrType) (value : BitVec 32) (run : IntrRun) : IntrRun :=
  if value ≠ 0 then run.report intrType value else run

def reportUlDone (answers : IntrAnswers) (value : BitVec 32) (run : IntrRun) : IntrRun :=
  if value ≠ 0 then
    ((List.range DPMAIF_TXQ_NUM).filter fun index => value.getLsbD index).foldl (maskUlqIntr answers)
      (run.report .ulDone value)
  else run

def hwCheckTxIntr (answers : IntrAnswers) (intrStatus : BitVec 32) (run : IntrRun) : IntrRun :=
  let run := reportUlDone answers (intrField 4 0 intrStatus) run
  let run := reportField .ulDrbEmpty (intrField 9 5 intrStatus) run
  let run := reportField .ulMdNotready (intrField 14 10 intrStatus) run
  let run := reportField .ulMdPwrNotready (intrField 19 15 intrStatus) run
  let run := reportField .ulLenErr (intrField 24 20 intrStatus) run
  run.write .apL2tisar0 intrStatus

def reportDl (intrStatus bit : BitVec 32) (intrType : HwIntrType) (run : IntrRun) : IntrRun :=
  if intrStatus &&& bit ≠ 0 then run.report intrType 0 else run

/-- A length error of the default queue is masked when it is reported. -/
def reportLenErr (intrStatus bit : BitVec 32) (intrType : HwIntrType) (run : IntrRun) : IntrRun :=
  if intrStatus &&& bit ≠ 0 then
    let reported := run.report intrType 0
    IntrRun.write .aoUlApdlL2timsr0 bit
      { reported with apDlL2intrEnMsk := reported.apDlL2intrEnMsk &&& ~~~bit }
  else run

def reportPitcntLenErr (intrStatus bit : BitVec 32) (intrType : HwIntrType) (qno : Int)
    (run : IntrRun) : IntrRun :=
  if intrStatus &&& bit ≠ 0 then
    dlqMaskRxPitcntLenErrIntr qno (run.report intrType (.twoPow 32 qno.toNat))
  else run

/-- A queue-done whose mask fails is not reported, and its status is not cleared. -/
def reportDone (answers : IntrAnswers) (intrStatus bit : BitVec 32) (intrType : HwIntrType) (qno : Int)
    (run : IntrRun) : IntrRun × BitVec 32 :=
  if intrStatus &&& bit ≠ 0 then
    let (masked, ret) := maskDlqIntr answers qno run
    if ret = 0 then (masked.report intrType (.twoPow 32 qno.toNat), intrStatus)
    else (masked, intrStatus &&& ~~~bit)
  else (run, intrStatus)

/-- The tests of `t7xx_dpmaif_hw_check_rx_intr` for the default queue, and the status they leave. -/
def checkDlq0Intr (answers : IntrAnswers) (intrStatus : BitVec 32) (qno : Int) (run : IntrRun) :
    IntrRun × BitVec 32 :=
  let run := reportDl intrStatus DP_DL_INT_SKB_LEN_ERR .dlSkbLenErr run
  let run := reportLenErr intrStatus DP_DL_INT_BATCNT_LEN_ERR .dlBatcntLenErr run
  let run := reportLenErr intrStatus DP_DL_INT_PITCNT_LEN_ERR .dlPitcntLenErr run
  let run := reportDl intrStatus DP_DL_INT_PKT_EMPTY_MSK .dlPktEmptySet run
  let run := reportDl intrStatus DP_DL_INT_FRG_EMPTY_MSK .dlFrgEmptySet run
  let run := reportDl intrStatus DP_DL_INT_MTU_ERR_MSK .dlMtuErr run
  let run := reportDl intrStatus DP_DL_INT_FRG_LEN_ERR_MSK .dlFrgcntLenErr run
  let run := reportPitcntLenErr intrStatus DP_DL_INT_Q0_PITCNT_LEN_ERR .dlQ0PitcntLenErr qno run
  let run := reportDl intrStatus DP_DL_INT_HPC_ENT_TYPE_ERR .dlHpcEntTypeErr run
  reportDone answers intrStatus DP_DL_INT_Q0_DONE .dlQ0Done qno run

def checkDlq1Intr (answers : IntrAnswers) (intrStatus : BitVec 32) (qno : Int) (run : IntrRun) :
    IntrRun × BitVec 32 :=
  let run := reportPitcntLenErr intrStatus DP_DL_INT_Q1_PITCNT_LEN_ERR .dlQ1PitcntLenErr qno run
  reportDone answers intrStatus DP_DL_INT_Q1_DONE .dlQ1Done qno run

def hwCheckRxIntr (answers : IntrAnswers) (intrStatus : BitVec 32) (qno : Int) (run : IntrRun) :
    IntrRun :=
  let (run, intrStatus) :=
    if qno = DPF_RX_QNO_DFT then checkDlq0Intr answers intrStatus qno run
    else checkDlq1Intr answers intrStatus qno run
  run.write .apApdlL2tisar0 (intrStatus ||| DP_DL_INT_BATCNT_LEN_ERR)

/-- What `t7xx_dpmaif_hw_get_intr_cnt` leaves of the RX status: a queue-done that is already masked
    counts as not pending. -/
def rxIntrLeft (answers : IntrAnswers) (qno : Int) : BitVec 32 :=
  if qno = DPF_RX_QNO0 then
    let rxIntrStatus := answers.rxIntrStatus &&& DP_DL_Q0_STATUS_MASK
    if answers.rxIntrQdone &&& DPMAIF_DL_INT_DLQ0_QDONE ≠ 0 then rxIntrStatus &&& ~~~DP_DL_INT_Q0_DONE
    else rxIntrStatus
  else
    let rxIntrStatus := answers.rxIntrStatus &&& DP_DL_Q1_STATUS_MASK
    if answers.rxIntrQdone &&& DPMAIF_DL_INT_DLQ1_QDONE ≠ 0 then rxIntrStatus &&& ~~~DP_DL_INT_Q1_DONE
    else rxIntrStatus

/-- UL interrupts share their line with the default queue only. -/
def getTxIntr (answers : IntrAnswers) (qno : Int) (run : IntrRun) : IntrRun :=
  if qno = DPF_RX_QNO_DFT then
    let txIntrStatus := answers.txIntrStatus &&& ~~~answers.txIntrQdone
    if txIntrStatus ≠ 0 then hwCheckTxIntr answers txIntrStatus run else run
  else run

def getRxIntr (answers : IntrAnswers) (qno : Int) (run : IntrRun) : IntrRun :=
  if answers.rxIntrStatus ≠ 0 then
    if rxIntrLeft answers qno ≠ 0 then hwCheckRxIntr answers (rxIntrLeft answers qno) qno run else run
  else run

def hwGetIntrCnt (answers : IntrAnswers) (qno : Int) (run : IntrRun) : IntrRun × Nat :=
  let run := getRxIntr answers qno (getTxIntr answers qno (run.write .apIpBusy answers.ipBusySts))
  (run, run.para.intrCnt)

end Reading

section Entries

abbrev IntrEntry := HwIntrType × BitVec 32

def IntrStPara.entries (para : IntrStPara) : List IntrEntry :=
  (List.range para.intrCnt).map fun i => (para.intrTypes i, para.intrQueues i)

def fillPara (para : IntrStPara) (added : List IntrEntry) : IntrStPara :=
  added.foldl (fun para entry => setIntrPara para entry.1 entry.2) para

theorem fillPara_append (para : IntrStPara) (first second : List IntrEntry) :
    fillPara para (first ++ second) = fillPara (fillPara para first) second := List.foldl_append

theorem setIntrPara_entries (para : IntrStPara) (intrType : HwIntrType) (intrQueue : BitVec 32) :
    (setIntrPara para intrType intrQueue).entries = para.entries ++ [(intrType, intrQueue)] := by
  have before : ∀ i ∈ List.range para.intrCnt, i ≠ para.intrCnt := fun i member =>
    Nat.ne_of_lt (List.mem_range.mp member)
  simp only [IntrStPara.entries, setIntrPara, List.range_succ, List.map_append, List.map_singleton,
    Function.update_self]
  congr 1
  apply List.map_congr_left
  intro i member
  rw [Function.update_of_ne (before i member), Function.update_of_ne (before i member)]

theorem fillPara_entries (para : IntrStPara) (added : List IntrEntry) :
    (fillPara para added).entries = para.entries ++ added := by
  induction added generalizing para with
  | nil => simp [fillPara]
  | cons entry added ih =>
    have first := setIntrPara_entries para entry.1 entry.2
    change (fillPara (setIntrPara para entry.1 entry.2) added).entries = _
    rw [ih, first, List.append_assoc, List.singleton_append]

theorem fillPara_stored {para : IntrStPara} (added : List IntrEntry)
    (stored : para.stored = List.range para.intrCnt) :
    (fillPara para added).stored = List.range (para.intrCnt + added.length) := by
  induction added generalizing para with
  | nil => simpa [fillPara] using stored
  | cons entry added ih =>
    have first : (setIntrPara para entry.1 entry.2).stored =
        List.range (setIntrPara para entry.1 entry.2).intrCnt := by
      simp only [setIntrPara, stored, List.range_succ]
    change (fillPara (setIntrPara para entry.1 entry.2) added).stored = _
    rw [ih first, List.length_cons]
    simp only [setIntrPara]
    congr 1
    omega

end Entries

section Effects

variable (answers : IntrAnswers) (run : IntrRun) (intrStatus bit : BitVec 32) (intrType : HwIntrType)
  (qno : Int)

/-- The masks set in `DPMAIF_AO_UL_AP_L2TIMSR0`. -/
def IntrRun.ulMasks (run : IntrRun) : List (BitVec 32) :=
  (run.writes.filter fun write => write.1 = .aoUlApL2timsr0).map Prod.snd

def entryIf (reported : Prop) [Decidable reported] (entry : IntrEntry) : List IntrEntry :=
  if reported then [entry] else []

def ulEntries (intrStatus : BitVec 32) : List IntrEntry :=
  entryIf (intrField 4 0 intrStatus ≠ 0) (.ulDone, intrField 4 0 intrStatus) ++
    entryIf (intrField 9 5 intrStatus ≠ 0) (.ulDrbEmpty, intrField 9 5 intrStatus) ++
    entryIf (intrField 14 10 intrStatus ≠ 0) (.ulMdNotready, intrField 14 10 intrStatus) ++
    entryIf (intrField 19 15 intrStatus ≠ 0) (.ulMdPwrNotready, intrField 19 15 intrStatus) ++
    entryIf (intrField 24 20 intrStatus ≠ 0) (.ulLenErr, intrField 24 20 intrStatus)

def doneEntry (answers : IntrAnswers) (intrStatus bit : BitVec 32) (intrType : HwIntrType) (qno : Int) :
    List IntrEntry :=
  entryIf (intrStatus &&& bit ≠ 0 ∧ answers.dlPolled &&& dlqQdone qno ≠ 0)
    (intrType, .twoPow 32 qno.toNat)

def dlq0Entries (answers : IntrAnswers) (intrStatus : BitVec 32) (qno : Int) : List IntrEntry :=
  entryIf (intrStatus &&& DP_DL_INT_SKB_LEN_ERR ≠ 0) (.dlSkbLenErr, 0) ++
    entryIf (intrStatus &&& DP_DL_INT_BATCNT_LEN_ERR ≠ 0) (.dlBatcntLenErr, 0) ++
    entryIf (intrStatus &&& DP_DL_INT_PITCNT_LEN_ERR ≠ 0) (.dlPitcntLenErr, 0) ++
    entryIf (intrStatus &&& DP_DL_INT_PKT_EMPTY_MSK ≠ 0) (.dlPktEmptySet, 0) ++
    entryIf (intrStatus &&& DP_DL_INT_FRG_EMPTY_MSK ≠ 0) (.dlFrgEmptySet, 0) ++
    entryIf (intrStatus &&& DP_DL_INT_MTU_ERR_MSK ≠ 0) (.dlMtuErr, 0) ++
    entryIf (intrStatus &&& DP_DL_INT_FRG_LEN_ERR_MSK ≠ 0) (.dlFrgcntLenErr, 0) ++
    entryIf (intrStatus &&& DP_DL_INT_Q0_PITCNT_LEN_ERR ≠ 0)
      (.dlQ0PitcntLenErr, .twoPow 32 qno.toNat) ++
    entryIf (intrStatus &&& DP_DL_INT_HPC_ENT_TYPE_ERR ≠ 0) (.dlHpcEntTypeErr, 0) ++
    doneEntry answers intrStatus DP_DL_INT_Q0_DONE .dlQ0Done qno

def dlq1Entries (answers : IntrAnswers) (intrStatus : BitVec 32) (qno : Int) : List IntrEntry :=
  entryIf (intrStatus &&& DP_DL_INT_Q1_PITCNT_LEN_ERR ≠ 0)
      (.dlQ1PitcntLenErr, .twoPow 32 qno.toNat) ++
    doneEntry answers intrStatus DP_DL_INT_Q1_DONE .dlQ1Done qno

def dlEntries (answers : IntrAnswers) (intrStatus : BitVec 32) (qno : Int) : List IntrEntry :=
  if qno = DPF_RX_QNO_DFT then dlq0Entries answers intrStatus qno else dlq1Entries answers intrStatus qno

@[simp] theorem write_para (reg : IntrReg) (value : BitVec 32) :
    (run.write reg value).para = run.para := rfl

theorem maskUlqIntr_para (qNum : Nat) : (maskUlqIntr answers run qNum).para = run.para := by
  unfold maskUlqIntr
  dsimp only
  split <;> rfl

theorem foldl_maskUlqIntr_para (queues : List Nat) :
    (queues.foldl (maskUlqIntr answers) run).para = run.para := by
  induction queues generalizing run with
  | nil => rfl
  | cons q queues ih => rw [List.foldl_cons, ih, maskUlqIntr_para]

@[simp] theorem reportField_para (value : BitVec 32) :
    (reportField intrType value run).para = fillPara run.para (entryIf (value ≠ 0) (intrType, value)) := by
  unfold reportField entryIf
  split <;> rfl

@[simp] theorem reportDl_para :
    (reportDl intrStatus bit intrType run).para =
      fillPara run.para (entryIf (intrStatus &&& bit ≠ 0) (intrType, 0)) := by
  unfold reportDl entryIf
  split <;> rfl

@[simp] theorem reportLenErr_para :
    (reportLenErr intrStatus bit intrType run).para =
      fillPara run.para (entryIf (intrStatus &&& bit ≠ 0) (intrType, 0)) := by
  unfold reportLenErr entryIf
  split <;> rfl

@[simp] theorem reportPitcntLenErr_para :
    (reportPitcntLenErr intrStatus bit intrType qno run).para =
      fillPara run.para (entryIf (intrStatus &&& bit ≠ 0) (intrType, .twoPow 32 qno.toNat)) := by
  unfold reportPitcntLenErr entryIf dlqMaskRxPitcntLenErrIntr
  split
  · split <;> rfl
  · rfl

theorem maskDlqIntr_ret :
    (maskDlqIntr answers qno run).2 = 0 ↔ answers.dlPolled &&& dlqQdone qno ≠ 0 := by
  have failed : -ETIMEDOUT ≠ 0 := by decide
  unfold maskDlqIntr
  dsimp only
  split
  · rename_i polled
    exact iff_of_false failed (not_not.mpr polled)
  · rename_i polled
    exact iff_of_true rfl polled

theorem maskDlqIntr_para : (maskDlqIntr answers qno run).1.para = run.para := by
  unfold maskDlqIntr
  dsimp only
  split <;> rfl

/-- A queue-done is not pending, or masked and reported, or left pending because its mask failed. -/
theorem reportDone_cases :
    (intrStatus &&& bit = 0 ∧
      reportDone answers intrStatus bit intrType qno run = (run, intrStatus)) ∨
    (intrStatus &&& bit ≠ 0 ∧ answers.dlPolled &&& dlqQdone qno ≠ 0 ∧
      reportDone answers intrStatus bit intrType qno run =
        ((maskDlqIntr answers qno run).1.report intrType (.twoPow 32 qno.toNat), intrStatus)) ∨
    (intrStatus &&& bit ≠ 0 ∧ answers.dlPolled &&& dlqQdone qno = 0 ∧
      reportDone answers intrStatus bit intrType qno run =
        ((maskDlqIntr answers qno run).1, intrStatus &&& ~~~bit)) := by
  have ret := maskDlqIntr_ret answers run qno
  unfold reportDone
  by_cases pending : intrStatus &&& bit = 0
  · left
    exact ⟨pending, if_neg (not_not.mpr pending)⟩
  · right
    rw [if_pos pending]
    by_cases polled : answers.dlPolled &&& dlqQdone qno = 0
    · right
      exact ⟨pending, polled, if_neg fun zero => ret.mp zero polled⟩
    · left
      exact ⟨pending, polled, if_pos (ret.mpr polled)⟩

@[simp] theorem reportDone_para :
    (reportDone answers intrStatus bit intrType qno run).1.para =
      fillPara run.para (doneEntry answers intrStatus bit intrType qno) := by
  unfold doneEntry entryIf
  obtain ⟨idle, result⟩ | ⟨pending, polled, result⟩ | ⟨pending, polled, result⟩ :=
    reportDone_cases answers run intrStatus bit intrType qno
  · rw [result, if_neg (fun both => both.1 idle)]
    rfl
  · rw [result, if_pos ⟨pending, polled⟩]
    exact congrArg (fun para => setIntrPara para intrType _) (maskDlqIntr_para answers run qno)
  · rw [result, if_neg (fun both => both.2 polled)]
    exact maskDlqIntr_para answers run qno

theorem reportUlDone_para (value : BitVec 32) :
    (reportUlDone answers value run).para = fillPara run.para (entryIf (value ≠ 0) (.ulDone, value)) := by
  unfold reportUlDone entryIf
  split
  · exact foldl_maskUlqIntr_para answers (run.report .ulDone value) _
  · rfl

theorem hwCheckTxIntr_para :
    (hwCheckTxIntr answers intrStatus run).para = fillPara run.para (ulEntries intrStatus) := by
  simp only [hwCheckTxIntr, ulEntries, write_para, reportField_para, reportUlDone_para, fillPara_append]

theorem checkDlq0Intr_para :
    (checkDlq0Intr answers intrStatus qno run).1.para =
      fillPara run.para (dlq0Entries answers intrStatus qno) := by
  simp only [checkDlq0Intr, dlq0Entries, reportDone_para, reportDl_para, reportPitcntLenErr_para,
    reportLenErr_para, fillPara_append]

theorem checkDlq1Intr_para :
    (checkDlq1Intr answers intrStatus qno run).1.para =
      fillPara run.para (dlq1Entries answers intrStatus qno) := by
  simp only [checkDlq1Intr, dlq1Entries, reportDone_para, reportPitcntLenErr_para, fillPara_append]

theorem hwCheckRxIntr_para :
    (hwCheckRxIntr answers intrStatus qno run).para =
      fillPara run.para (dlEntries answers intrStatus qno) := by
  unfold hwCheckRxIntr dlEntries
  split_ifs
  · exact checkDlq0Intr_para answers run intrStatus qno
  · exact checkDlq1Intr_para answers run intrStatus qno

end Effects

section Counting

variable (answers : IntrAnswers) (intrStatus : BitVec 32) (qno : Int)

theorem entryIf_length (reported : Prop) [Decidable reported] (entry : IntrEntry) :
    (entryIf reported entry).length ≤ 1 := by
  unfold entryIf
  split <;> simp

theorem mem_entryIf {reported : Prop} [Decidable reported] {entry other : IntrEntry} :
    other ∈ entryIf reported entry ↔ reported ∧ other = entry := by
  unfold entryIf
  split <;> simp [*]

theorem ulEntries_zero : ulEntries 0 = [] := by decide

theorem dlEntries_zero : dlEntries answers 0 qno = [] := by
  simp [dlEntries, dlq0Entries, dlq1Entries, doneEntry, entryIf]

theorem ulEntries_length : (ulEntries intrStatus).length ≤ 5 := by
  unfold ulEntries
  grind [entryIf_length]

theorem dlEntries_length : (dlEntries answers intrStatus qno).length ≤ 10 := by
  unfold dlEntries dlq0Entries dlq1Entries doneEntry
  grind [entryIf_length]

end Counting

end T7xxModel.Dpmaif
