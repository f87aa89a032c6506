import Mathlib.Logic.Function.Basic
import T7xx.Transition.Runs

namespace T7xxModel.Dpmaif

open Transition

def DPMAIF_MAX_CHECK_COUNT : Nat := 1000000

section Tx

/-- Where the push thread is in `t7xx_dpmaif_add_skb_to_ring`: past the test of `que_started`, or past
    the write of `tx_processing` that announces it. -/
inductive AddSkbPc where
  | idle
  | tested
  | announced
deriving DecidableEq, Repr

inductive TxStopPc where
  | idle
  | wait (count : Nat)
deriving DecidableEq, Repr

/-- A TX queue, the push thread and the callers of `t7xx_dpmaif_tx_stop`. `stopped` is set by a call that
    saw the transmission end and cleared by a start; `lateUpdate` by an update of the ring in between. -/
structure TxFlags where
  queStarted : Bool
  txProcessing : Bool
  adder : AddSkbPc
  stop : Nat → TxStopPc
  stopped : Bool
  lateUpdate : Bool

/-- `clear` stands for `t7xx_dpmaif_txq_flush_rel`; `poweredOn` is what the adder reads of the state. -/
inductive TxFlagLabel where
  | addTest (poweredOn : Bool)
  | addAnnounce
  | updateRing
  | addRelease
  | stopWrite (k : Nat)
  | stopRead (k : Nat)
  | start
  | clear
deriving DecidableEq, Repr

def TxFlags.stopRead (s : TxFlags) (k count : Nat) : TxFlags :=
  if s.txProcessing = false then
    { s with stop := Function.update s.stop k .idle, stopped := s.stopped || !s.queStarted }
  else if count + 1 ≥ DPMAIF_MAX_CHECK_COUNT then { s with stop := Function.update s.stop k .idle }
  else { s with stop := Function.update s.stop k (.wait (count + 1)) }

def TxFlags.step (s : TxFlags) : TxFlagLabel → Option TxFlags
  | .addTest poweredOn =>
    match s.adder with
    | .idle => some (if s.queStarted ∧ poweredOn then { s with adder := .tested } else s)
    | _ => none
  | .addAnnounce =>
    match s.adder with
    | .tested => some { s with txProcessing := true, adder := .announced }
    | _ => none
  | .updateRing =>
    match s.adder with
    | .announced => some { s with lateUpdate := s.lateUpdate || s.stopped }
    | _ => none
  | .addRelease =>
    match s.adder with
    | .announced => some { s with txProcessing := false, adder := .idle }
    | _ => none
  | .stopWrite k =>
    match s.stop k with
    | .idle => some { s with queStarted := false, stop := Function.update s.stop k (.wait 0) }
    | _ => none
  | .stopRead k =>
    match s.stop k with
    | .wait count => some (s.stopRead k count)
    | _ => none
  | .start => some { s with queStarted := true, stopped := false }
  | .clear => some { s with queStarted := false }

def txFlagsInit : TxFlags where
  queStarted := false
  txProcessing := false
  adder := .idle
  stop := fun _ => .idle
  stopped := false
  lateUpdate := false

def NoLateUpdate (s : TxFlags) : Prop := s.lateUpdate = false

instance : DecidablePred NoLateUpdate := fun s => inferInstanceAs (Decidable (s.lateUpdate = false))

/-- A stop does not see `tx_processing` clear on a stopped queue while an adder is between its test and its
    announcement. -/
def TxStopMeetsNoAdder (s : TxFlags) : TxFlagLabel → Prop
  | .stopRead _ => s.txProcessing = false → s.queStarted = false → s.adder ≠ .tested
  | _ => True

instance (s : TxFlags) : (label : TxFlagLabel) → Decidable (TxStopMeetsNoAdder s label)
  | .stopRead _ => inferInstanceAs (Decidable (_ → _ → _))
  | .addTest _ | .addAnnounce | .updateRing | .addRelease | .stopWrite _ | .start | .clear =>
    inferInstanceAs (Decidable True)

structure TxFlagInv (s : TxFlags) : Prop where
  clean : s.lateUpdate = false
  announced : s.adder = .announced → s.txProcessing = true
  stopped : s.stopped = true → s.queStarted = false ∧ s.adder = .idle

theorem TxFlagInv.started {s : TxFlags} (inv : TxFlagInv s) (started : s.queStarted = true) :
    s.stopped = false := by
  by_contra stopped
  have off := (inv.stopped (eq_true_of_ne_false stopped)).1
  exact absurd (off.symm.trans started) (by decide)

theorem TxFlagInv.busy {s : TxFlags} (inv : TxFlagInv s) (busy : s.adder ≠ .idle) :
    s.stopped = false := by
  by_contra stopped
  exact busy (inv.stopped (eq_true_of_ne_false stopped)).2

theorem txStopRead_inv {s : TxFlags} (k count : Nat) (inv : TxFlagInv s)
    (meets : s.txProcessing = false → s.queStarted = false → s.adder ≠ .tested) :
    TxFlagInv (s.stopRead k count) := by
  unfold TxFlags.stopRead
  split
  · rename_i still
    refine ⟨inv.clean, inv.announced, fun stopped => ?_⟩
    rcases Bool.or_eq_true_iff.mp stopped with before | now
    · exact inv.stopped before
    · have off : s.queStarted = false := by simpa using now
      refine ⟨off, ?_⟩
      show s.adder = .idle
      cases here : s.adder with
      | idle => rfl
      | tested => exact absurd here (meets still off)
      | announced => exact absurd ((inv.announced here).symm.trans still) (by decide)
  split
  · exact ⟨inv.clean, inv.announced, inv.stopped⟩
  · exact ⟨inv.clean, inv.announced, inv.stopped⟩

theorem txStep_inv {s t : TxFlags} {label : TxFlagLabel} (inv : TxFlagInv s)
    (meets : TxStopMeetsNoAdder s label) (taken : s.step label = some t) : TxFlagInv t := by
  cases label with
  | addTest poweredOn =>
    simp only [TxFlags.step] at taken
    split at taken
    · cases taken
      split
      · rename_i started
        refine ⟨inv.clean, nofun, fun stopped => ?_⟩
        exact absurd ((inv.started started.1).symm.trans stopped) (by decide)
      · exact inv
    · cases taken
  | addAnnounce =>
    simp only [TxFlags.step] at taken
    split at taken
    · rename_i tested
      have running := inv.busy (by rw [tested]; exact nofun)
      cases taken
      exact ⟨inv.clean, fun _ => rfl, fun stopped => absurd (running.symm.trans stopped) (by decide)⟩
    · cases taken
  | updateRing =>
    simp only [TxFlags.step] at taken
    split at taken
    · rename_i announced
      have running := inv.busy (by rw [announced]; exact nofun)
      cases taken
      refine ⟨?_, inv.announced, inv.stopped⟩
      show (s.lateUpdate || s.stopped) = false
      rw [inv.clean, running]
      rfl
    · cases taken
  | addRelease =>
    simp only [TxFlags.step] at taken
    split at taken
    · cases taken
      exact ⟨inv.clean, nofun, fun stopped => ⟨(inv.stopped stopped).1, rfl⟩⟩
    · cases taken
  | stopWrite k =>
    simp only [TxFlags.step] at taken
    split at taken
    · cases taken
      exact ⟨inv.clean, inv.announced, fun stopped => ⟨rfl, (inv.stopped stopped).2⟩⟩
    · cases taken
  | stopRead k =>
    simp only [TxFlags.step] at taken
    split at taken
    · cases taken
      exact txStopRead_inv k _ inv meets
    · cases taken
  | start =>
    cases taken
    exact ⟨inv.clean, inv.announced, nofun⟩
  | clear =>
    cases taken
    exact ⟨inv.clean, inv.announced, fun stopped => ⟨rfl, (inv.stopped stopped).2⟩⟩

end Tx

section Rx

/-- Where `t7xx_dpmaif_napi_rx_poll` is: it has announced itself, found the queue stopped, found it
    started, is between two calls of `t7xx_dpmaif_napi_rx_data_collect`, is in `t7xx_dpmaif_rx_start`
    or is past its loop. -/
inductive RxPollPc where
  | idle
  | announced
  | rejected
  | started
  | collecting
  | receiving
  | finishing
deriving DecidableEq, Repr

inductive RxStopPc where
  | idle
  | polling
  | waited (inTime : Bool)
deriving DecidableEq, Repr

/-- An RX queue, its poll and the callers of `t7xx_dpmaif_rx_stop`. `stopped` is set by a call that did
    not time out and cleared by a start; `lateEntry` by an entry that is processed in between. -/
structure RxFlags where
  queStarted : Bool
  rxProcessing : Bool
  poll : RxPollPc
  stop : Nat → RxStopPc
  stopped : Bool
  lateEntry : Bool

/-- The sleep lock, the number of entries, the rest of the budget and the time are what they happen to
    be; `clear` stands for `t7xx_dpmaif_stop_rxq`. -/
inductive RxFlagLabel where
  | pollAnnounce
  | pollTest
  | pollReject
  | pollLock (acquired : Bool)
  | pollPit (entries : Bool)
  | processEntry
  | rxStarted (again : Bool)
  | pollFinish (completes : Bool)
  | stopBegin (k : Nat)
  | stopRead (k : Nat) (expired : Bool)
  | stopWrite (k : Nat)
  | start
  | clear
deriving DecidableEq, Repr

def RxFlags.stopRead (s : RxFlags) (k : Nat) (expired : Bool) : RxFlags :=
  if s.rxProcessing = false then { s with stop := Function.update s.stop k (.waited true) }
  else if expired then { s with stop := Function.update s.stop k (.waited false) }
  else s

def RxFlags.step (s : RxFlags) : RxFlagLabel → Option RxFlags
  | .pollAnnounce =>
    match s.poll with
    | .idle => some { s with rxProcessing := true, poll := .announced }
    | _ => none
  | .pollTest =>
    match s.poll with
    | .announced => some { s with poll := if s.queStarted then .started else .rejected }
    | _ => none
  | .pollReject =>
    match s.poll with
    | .rejected => some { s with rxProcessing := false, poll := .idle }
    | _ => none
  -- Without the sleep lock the poll returns as it is, and NAPI is scheduled again.
  | .pollLock acquired =>
    match s.poll with
    | .started => some { s with poll := if acquired then .collecting else .idle }
    | _ => none
  | .pollPit entries =>
    match s.poll with
    | .collecting =>
      some { s with poll := if s.queStarted ∧ entries then .receiving else .finishing }
    | _ => none
  | .processEntry =>
    match s.poll with
    | .receiving => some { s with lateEntry := s.lateEntry || s.stopped }
    | _ => none
  | .rxStarted again =>
    match s.poll with
    | .receiving => some { s with poll := if again then .collecting else .finishing }
    | _ => none
  -- A poll that has used up its budget leaves `rx_processing` set.
  | .pollFinish completes =>
    match s.poll with
    | .finishing =>
      some { s with rxProcessing := s.rxProcessing && !completes, poll := .idle }
    | _ => none
  | .stopBegin k =>
    match s.stop k with
    | .idle => some { s with stop := Function.update s.stop k .polling }
    | _ => none
  | .stopRead k expired =>
    match s.stop k with
    | .polling => some (s.stopRead k expired)
    | _ => none
  | .stopWrite k =>
    match s.stop k with
    | .waited inTime =>
      some { s with
        queStarted := false, stop := Function.update s.stop k .idle, stopped := s.stopped || inTime }
    | _ => none
  | .start => some { s with queStarted := true, stopped := false }
  | .clear => some { s with queStarted := false }

def rxFlagsInit : RxFlags where
  queStarted := false
  rxProcessing := false
  poll := .idle
  stop := fun _ => .idle
  stopped := false
  lateEntry := false

def NoLateEntry (s : RxFlags) : Prop := s.lateEntry = false

instance : DecidablePred NoLateEntry := fun s => inferInstanceAs (Decidable (s.lateEntry = false))

/-- A stop that did not time out does not write `que_started` while a poll is in `t7xx_dpmaif_rx_start`. -/
def RxStopMeetsNoPoll (s : RxFlags) : RxFlagLabel → Prop
  | .stopWrite k => s.stop k = .waited true → s.poll ≠ .receiving
  | _ => True

instance (s : RxFlags) : (label : RxFlagLabel) → Decidable (RxStopMeetsNoPoll s label)
  | .stopWrite _ => inferInstanceAs (Decidable (_ → _))
  | .pollAnnounce | .pollTest | .pollReject | .pollLock _ | .pollPit _ | .processEntry | .rxStarted _
  | .pollFinish _ | .stopBegin _ | .stopRead _ _ | .start | .clear => inferInstanceAs (Decidable True)

structure RxFlagInv (s : RxFlags) : Prop where
  clean : s.lateEntry = false
  stopped : s.stopped = true → s.queStarted = false ∧ s.poll ≠ .receiving

theorem RxFlagInv.frame {s t : RxFlags} (inv : RxFlagInv s) (clean : t.lateEntry = s.lateEntry)
    (stopped : t.stopped = s.stopped) (started : t.queStarted = s.queStarted)
    (poll : t.poll = .receiving → s.poll = .receiving) : RxFlagInv t := by
  refine ⟨clean.trans inv.clean, fun quiet => ?_⟩
  obtain ⟨off, outside⟩ := inv.stopped (stopped.symm.trans quiet)
  exact ⟨started.trans off, fun receiving => outside (poll receiving)⟩

theorem RxFlagInv.started {s : RxFlags} (inv : RxFlagInv s) (started : s.queStarted = true) :
    s.stopped = false := by
  by_contra stopped
  have off := (inv.stopped (eq_true_of_ne_false stopped)).1
  exact absurd (off.symm.trans started) (by decide)

theorem rxStopRead_inv {s : RxFlags} (k : Nat) (expired : Bool) (inv : RxFlagInv s) :
    RxFlagInv (s.stopRead k expired) := by
  unfold RxFlags.stopRead
  split
  · exact inv.frame rfl rfl rfl id
  split
  · exact inv.frame rfl rfl rfl id
  · exact inv

theorem rxStep_inv {s t : RxFlags} {label : RxFlagLabel} (inv : RxFlagInv s)
    (meets : RxStopMeetsNoPoll s label) (taken : s.step label = some t) : RxFlagInv t := by
  cases label with
  | start =>
    cases taken
    exact ⟨inv.clean, nofun⟩
  | clear =>
    cases taken
    exact ⟨inv.clean, fun stopped => ⟨rfl, (inv.stopped stopped).2⟩⟩
  | pollAnnounce | pollReject | pollFinish completes =>
    simp only [RxFlags.step] at taken
    split at taken
    · cases taken
      exact inv.frame rfl rfl rfl nofun
    · cases taken
  | pollTest | pollLock acquired =>
    simp only [RxFlags.step] at taken
    split at taken
    · cases taken
      refine inv.frame rfl rfl rfl fun receiving => ?_
      dsimp only at receiving
      split at receiving
      · cases receiving
      · cases receiving
    · cases taken
  | rxStarted again =>
    simp only [RxFlags.step] at taken
    split at taken
    · rename_i here
      cases taken
      exact inv.frame rfl rfl rfl fun _ => here
    · cases taken
  | pollPit entries =>
    simp only [RxFlags.step] at taken
    split at taken
    · cases taken
      by_cases enters : s.queStarted = true ∧ entries = true
      · refine ⟨inv.clean, fun stopped => ?_⟩
        exact absurd ((inv.started enters.1).symm.trans stopped) (by decide)
      · refine inv.frame rfl rfl rfl fun receiving => ?_
        dsimp only at receiving
        rw [if_neg enters] at receiving
        cases receiving
    · cases taken
  | processEntry =>
    simp only [RxFlags.step] at taken
    split at taken
    · rename_i receiving
      have running : s.stopped = false := by
        by_contra stopped
        exact (inv.stopped (eq_true_of_ne_false stopped)).2 receiving
      cases taken
      refine ⟨?_, inv.stopped⟩
      show (s.lateEntry || s.stopped) = false
      rw [inv.clean, running]
      rfl
    · cases taken
  | stopBegin k =>
    simp only [RxFlags.step] at taken
    split at taken
    · cases taken
      exact inv.frame rfl rfl rfl id
    · cases taken
  | stopRead k expired =>
    simp only [RxFlags.step] at taken
    split at taken
    · cases taken
      exact rxStopRead_inv k expired inv
    · cases taken
  | stopWrite k =>
    simp only [RxFlags.step] at taken
    split at taken
    · rename_i inTime waited
      cases taken
      refine ⟨inv.clean, fun stopped => ⟨rfl, ?_⟩⟩
      rcases Bool.or_eq_true_iff.mp stopped with before | now
      · exact (inv.stopped before).2
      · rw [now] at waited
        exact meets waited
    · cases taken

end Rx

/-- What was stopped in time stays so until it is started again, in the runs in which no stop ends
    between a worker's test of `que_started` and what it does then. -/
theorem stopped_queues_stay_quiet (txLabels : List TxFlagLabel) (rxLabels : List RxFlagLabel)
    (tx : Obeys TxStopMeetsNoAdder TxFlags.step txFlagsInit txLabels)
    (rx : Obeys RxStopMeetsNoPoll RxFlags.step rxFlagsInit rxLabels) :
    Visits NoLateUpdate TxFlags.step txFlagsInit txLabels ∧
      Visits NoLateEntry RxFlags.step rxFlagsInit rxLabels := by
  constructor
  · refine Visits.of_invariant TxFlagInv (fun _ inv => inv.clean) ?_ ⟨rfl, nofun, nofun⟩ tx
    exact fun _ _ _ inv meets taken => txStep_inv inv meets taken
  · refine Visits.of_invariant RxFlagInv (fun _ inv => inv.clean) ?_ ⟨rfl, nofun⟩ rx
    exact fun _ _ _ inv meets taken => rxStep_inv inv meets taken

/-- The transmission ends before the stop reads `tx_processing`; the reception is stopped after a poll. -/
theorem stopped_queues_stay_quiet_example :
    Visits NoLateUpdate TxFlags.step txFlagsInit
        [.start, .addTest true, .addAnnounce, .stopWrite 0, .stopRead 0, .updateRing, .addRelease,
          .stopRead 0, .addTest true] ∧
      Visits NoLateEntry RxFlags.step rxFlagsInit
        [.start, .pollAnnounce, .pollTest, .pollLock true, .stopBegin 0, .pollPit true, .processEntry,
          .stopRead 0 false, .rxStarted false, .pollFinish true, .stopRead 0 false, .stopWrite 0,
          .pollAnnounce, .pollTest, .pollReject] :=
  stopped_queues_stay_quiet _ _ (by decide) (by decide)

/-- The adder announces itself only after its test, and the stop of the reception waits before it writes
    `que_started`. -/
theorem late_work_on_stopped_queues :
    ¬ Visits NoLateUpdate TxFlags.step txFlagsInit
        [.start, .addTest true, .stopWrite 0, .stopRead 0, .addAnnounce, .updateRing] ∧
      ¬ Visits NoLateEntry RxFlags.step rxFlagsInit
        [.start, .stopBegin 0, .stopRead 0 false, .pollAnnounce, .pollTest, .pollLock true,
          .pollPit true, .stopWrite 0, .processEntry] := by
  decide

end T7xxModel.Dpmaif
