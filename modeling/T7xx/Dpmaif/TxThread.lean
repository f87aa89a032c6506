import T7xx.Dpmaif.TxRun
import T7xx.Kernel.Errno

namespace T7xxModel.Dpmaif

open Transition

/-- Where `t7xx_dpmaif_tx_hw_push_thread` is. `listTest` is the test before the wait, `stopTest` the one
    after it; while `pushing` the path says where `t7xx_do_tx_hw_push` is. -/
inductive ThreadPlace where
  | loop
  | listTest
  | waiting
  | stopTest
  | resuming
  | disabling
  | pushing
  | enabling
  | putting
  | exited (ret : Int)
deriving DecidableEq, Repr

/-- The push thread with its queue. `shouldStop` is set by `kthread_stop`, and `strayStop` if the thread
    had exited by then. -/
structure TxThread where
  path : TxPath
  place : ThreadPlace
  shouldStop : Bool
  strayStop : Bool
  usageCount : Int
  sleepDisableCount : Int

/-- `queue` is a step of `t7xx_do_tx_hw_push`, or one of somebody else on the queue or its hardware. -/
inductive ThreadLabel where
  | advance
  | wake (interrupted : Bool)
  | resumed (ret : Int)
  | queue (label : TxLabel)
  | threadRel
deriving DecidableEq, Repr

def TxPath.Ready (s : TxPath) : Prop := s.txq.txSkbHead ≠ [] ∧ s.state = .pwron

instance : DecidablePred TxPath.Ready := fun s =>
  inferInstanceAs (Decidable (s.txq.txSkbHead ≠ [] ∧ s.state = .pwron))

/-- The statements of the thread that wait for nothing. -/
def TxThread.advance (s : TxThread) : Option TxThread :=
  match s.place with
  | .loop => some { s with place := if s.shouldStop then .exited 0 else .listTest }
  | .listTest => some { s with place := if s.path.Ready then .resuming else .waiting }
  | .stopTest => some { s with place := if s.shouldStop then .exited 0 else .resuming }
  | .disabling =>
    some { s with
      path := { s.path with push := .select true }
      place := .pushing
      sleepDisableCount := s.sleepDisableCount + 1 }
  | .enabling => some { s with place := .putting, sleepDisableCount := s.sleepDisableCount - 1 }
  | .putting => some { s with place := .loop, usageCount := s.usageCount - 1 }
  | _ => none

/-- `wait_event_interruptible` on `tx_wq`. -/
def TxThread.wake (interrupted : Bool) (s : TxThread) : Option TxThread :=
  match s.place with
  | .waiting =>
    if interrupted then some { s with place := .loop }
    else if s.path.Ready ∨ s.shouldStop then some { s with place := .stopTest }
    else none
  | _ => none

/-- `pm_runtime_resume_and_get` and the test of what it returned. It keeps no reference if it fails. -/
def TxThread.resumed (ret : Int) (s : TxThread) : Option TxThread :=
  match s.place with
  | .resuming =>
    let usageCount := if ret < 0 then s.usageCount else s.usageCount + 1
    if ret < 0 ∧ ret ≠ - EACCES then some { s with place := .exited ret, usageCount }
    else some { s with place := .disabling, usageCount }
  | _ => none

/-- A step of `t7xx_do_tx_hw_push`. The condition of its loop also reads the stop request. -/
def TxThread.push (label : TxLabel) (s : TxThread) : Option TxThread :=
  match s.place with
  | .pushing =>
    let path :=
      match label with
      | .pushLoop => if s.shouldStop then some { s.path with push := .idle } else pushStep label s.path
      | _ => pushStep label s.path
    path.map fun path =>
      { s with path, place := if path.push = .idle then .enabling else .pushing }
  | _ => none

def TxLabel.ofThread : TxLabel → Bool
  | .pushWake | .pushResume _ | .pushSelect | .pushRound _ | .sleepDisabled _ | .pushAnnounce
  | .pushLoop => true
  | .start _ | .stop | .suspend | .resume | .send _ | .hwProgress _ | .txDone | .ringCheck => false

/-- `kthread_stop`, which `t7xx_dpmaif_tx_thread_rel` calls once for a thread. -/
def TxThread.kthreadStop (s : TxThread) : TxThread :=
  match s.place with
  | .exited _ => { s with shouldStop := true, strayStop := true }
  | _ => { s with shouldStop := true }

def threadStep (s : TxThread) : ThreadLabel → Option TxThread
  | .advance => s.advance
  | .wake interrupted => s.wake interrupted
  | .resumed ret => s.resumed ret
  | .queue label =>
    if label.ofThread then s.push label else (txStep s.path label).map fun path => { s with path }
  | .threadRel => if s.shouldStop then none else some s.kthreadStop

def threadInit : TxThread where
  path := txInit
  place := .loop
  shouldStop := false
  strayStop := false
  usageCount := 0
  sleepDisableCount := 0

def ThreadPlace.Returned : ThreadPlace → Prop
  | .exited _ => True
  | _ => False

instance : DecidablePred ThreadPlace.Returned
  | .exited _ => inferInstanceAs (Decidable True)
  | .loop | .listTest | .waiting | .stopTest | .resuming | .disabling | .pushing | .enabling
  | .putting => inferInstanceAs (Decidable False)

structure StopsOnRequest (s : TxThread) : Prop where
  asked : s.place.Returned → s.shouldStop = true
  alive : s.strayStop = false

instance : DecidablePred StopsOnRequest := fun s =>
  decidable_of_iff ((s.place.Returned → s.shouldStop = true) ∧ s.strayStop = false)
    ⟨fun ⟨asked, alive⟩ => ⟨asked, alive⟩, fun stops => ⟨stops.asked, stops.alive⟩⟩

/-- A resume that fails with another error than `-EACCES` finds the stop requested. -/
def ResumesUntilStop (s : TxThread) : ThreadLabel → Prop
  | .resumed ret => ret < 0 → ret ≠ - EACCES → s.shouldStop = true
  | _ => True

instance (s : TxThread) : (label : ThreadLabel) → Decidable (ResumesUntilStop s label)
  | .resumed ret =>
    inferInstanceAs (Decidable (ret < 0 → ret ≠ - EACCES → s.shouldStop = true))
  | .advance | .wake _ | .queue _ | .threadRel => inferInstanceAs (Decidable True)

section Steps

variable {s t : TxThread}

inductive ThreadMove (s t : TxThread) : ThreadLabel → Prop where
  | goes {label} (out : ¬ t.place.Returned) (flag : t.shouldStop = s.shouldStop)
    (stray : t.strayStop = s.strayStop) (permitted : ResumesUntilStop s label) : ThreadMove s t label
  | stays {label} (place : t.place = s.place) (flag : t.shouldStop = s.shouldStop)
    (stray : t.strayStop = s.strayStop) (permitted : ResumesUntilStop s label) : ThreadMove s t label
  | ends {label} (out : t.place.Returned) (asked : s.shouldStop = true)
    (flag : t.shouldStop = s.shouldStop) (stray : t.strayStop = s.strayStop)
    (permitted : ResumesUntilStop s label) : ThreadMove s t label
  | fails {ret} (negative : ret < 0) (other : ret ≠ - EACCES) (out : t.place.Returned)
    (flag : t.shouldStop = s.shouldStop) (stray : t.strayStop = s.strayStop) :
    ThreadMove s t (.resumed ret)
  | stopped (first : s.shouldStop = false) (result : t = s.kthreadStop) : ThreadMove s t .threadRel

theorem advance_moves (taken : s.advance = some t) : ThreadMove s t .advance := by
  unfold TxThread.advance at taken
  split at taken
  case h_1 | h_3 =>
    cases taken
    by_cases asked : s.shouldStop = true
    · simp only [if_pos asked]
      exact .ends trivial asked rfl rfl trivial
    · simp only [if_neg asked]
      exact .goes id rfl rfl trivial
  case h_2 =>
    cases taken
    by_cases ready : s.path.Ready
    · simp only [if_pos ready]
      exact .goes id rfl rfl trivial
    · simp only [if_neg ready]
      exact .goes id rfl rfl trivial
  case h_4 | h_5 | h_6 =>
    cases taken
    exact .goes id rfl rfl trivial
  case h_7 => cases taken

theorem wake_moves {interrupted : Bool} (taken : s.wake interrupted = some t) :
    ThreadMove s t (.wake interrupted) := by
  unfold TxThread.wake at taken
  split at taken
  · split at taken
    · cases taken
      exact .goes id rfl rfl trivial
    split at taken
    · cases taken
      exact .goes id rfl rfl trivial
    · cases taken
  · cases taken

theorem resumed_moves {ret : Int} (taken : s.resumed ret = some t) :
    ThreadMove s t (.resumed ret) := by
  unfold TxThread.resumed at taken
  split at taken
  · dsimp only at taken
    by_cases fails : ret < 0 ∧ ret ≠ - EACCES
    · rw [if_pos fails] at taken
      cases taken
      exact .fails fails.1 fails.2 trivial rfl rfl
    · rw [if_neg fails] at taken
      cases taken
      exact .goes id rfl rfl fun negative other => absurd ⟨negative, other⟩ fails
  · cases taken

theorem push_moves {label : TxLabel} (taken : s.push label = some t) :
    ThreadMove s t (.queue label) := by
  unfold TxThread.push at taken
  split at taken
  · simp only [Option.map_eq_some_iff] at taken
    obtain ⟨path, -, rfl⟩ := taken
    by_cases idle : path.push = .idle
    · simp only [if_pos idle]
      exact .goes id rfl rfl trivial
    · simp only [if_neg idle]
      exact .goes id rfl rfl trivial
  · cases taken

theorem threadStep_moves {label : ThreadLabel} (taken : threadStep s label = some t) :
    ThreadMove s t label := by
  cases label with
  | advance => exact advance_moves taken
  | wake interrupted => exact wake_moves taken
  | resumed ret => exact resumed_moves taken
  | queue label =>
    simp only [threadStep] at taken
    split at taken
    · exact push_moves taken
    · simp only [Option.map_eq_some_iff] at taken
      obtain ⟨path, -, rfl⟩ := taken
      exact .stays rfl rfl rfl trivial
  | threadRel =>
    simp only [threadStep] at taken
    split at taken
    · cases taken
    · cases taken
      exact .stopped (eq_false_of_ne_true ‹_›) rfl

theorem kthreadStop_alive (running : ¬ s.place.Returned) :
    s.kthreadStop = { s with shouldStop := true } := by
  unfold TxThread.kthreadStop
  split
  · rename_i ret place
    exact absurd (place ▸ trivial : s.place.Returned) running
  · rfl

theorem StopsOnRequest.step_iff {label : ThreadLabel} (stops : StopsOnRequest s)
    (taken : threadStep s label = some t) : StopsOnRequest t ↔ ResumesUntilStop s label := by
  cases threadStep_moves taken with
  | goes out flag stray permitted =>
    exact ⟨fun _ => permitted, fun _ => ⟨fun returned => absurd returned out, stray.trans stops.alive⟩⟩
  | stays place flag stray permitted =>
    refine ⟨fun _ => permitted, fun _ => ⟨fun returned => ?_, stray.trans stops.alive⟩⟩
    rw [flag]
    exact stops.asked (place ▸ returned)
  | ends out asked flag stray permitted =>
    exact ⟨fun _ => permitted, fun _ => ⟨fun _ => flag.trans asked, stray.trans stops.alive⟩⟩
  | fails negative other out flag stray =>
    constructor
    · intro after _ _
      exact flag.symm.trans (after.asked out)
    · intro permitted
      exact ⟨fun _ => flag.trans (permitted negative other), stray.trans stops.alive⟩
  | stopped first result =>
    have running : ¬ s.place.Returned := fun returned =>
      absurd ((stops.asked returned).symm.trans first) (by decide)
    rw [result, kthreadStop_alive running]
    exact ⟨fun _ => trivial, fun _ => ⟨fun _ => rfl, stops.alive⟩⟩

theorem returned_for_good {label : ThreadLabel} {ret : Int} (returned : s.place = .exited ret)
    (taken : threadStep s label = some t) : t.place = .exited ret := by
  cases label with
  | advance =>
    simp only [threadStep, TxThread.advance, returned] at taken
    cases taken
  | wake interrupted =>
    simp only [threadStep, TxThread.wake, returned] at taken
    cases taken
  | resumed answer =>
    simp only [threadStep, TxThread.resumed, returned] at taken
    cases taken
  | queue label =>
    simp only [threadStep] at taken
    split at taken
    · simp only [TxThread.push, returned] at taken
      cases taken
    · simp only [Option.map_eq_some_iff] at taken
      obtain ⟨path, -, rfl⟩ := taken
      exact returned
  | threadRel =>
    simp only [threadStep] at taken
    split at taken
    · cases taken
    · cases taken
      simp only [TxThread.kthreadStop, returned]

/-- So a failed resume is the end of transmission, however the run goes on. -/
theorem returned_run {ret : Int} (returned : s.place = .exited ret) (labels : List ThreadLabel) :
    Visits (fun t => t.place = .exited ret) threadStep s labels :=
  Visits.of_kept _ (fun _ => id) (fun _ _ _ before taken => returned_for_good before taken) labels returned

end Steps

/-- The push thread lives until it is asked to stop exactly if no resume fails, with another error than
    `-EACCES`, before that. -/
theorem push_thread_stops_on_request (labels : List ThreadLabel) :
    Visits StopsOnRequest threadStep threadInit labels ↔
      Obeys ResumesUntilStop threadStep threadInit labels :=
  visits_iff_obeys (fun _ => True) (fun _ _ _ _ _ _ => trivial)
    (fun _ _ _ _ stops taken => stops.step_iff taken) trivial (by decide)

/-- A queued skb, a resume that fails once, and the thread is gone when the driver is removed. -/
def failedResume : List ThreadLabel :=
  [.queue (.start true), .queue (.send fragmentedSkb), .advance, .advance, .resumed (- EIO), .threadRel]

theorem push_thread_leaves_early :
    ¬ ∀ labels, Visits StopsOnRequest threadStep threadInit labels := by
  intro always
  exact absurd (always failedResume) (by decide)

end T7xxModel.Dpmaif
