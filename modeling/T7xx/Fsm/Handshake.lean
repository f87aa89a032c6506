import T7xx.Fsm.Machine
import T7xx.Transition.Runs

namespace T7xxModel.Fsm

open Transition Pci

structure SameCores (before after : Modem) : Prop where
  state : after.currState = before.currState
  md : after.coreMd = before.coreMd
  ap : after.coreAp = before.coreAp

theorem SameCores.refl (m : Modem) : SameCores m m := ⟨rfl, rfl, rfl⟩

theorem SameCores.trans {first second third : Modem} (left : SameCores first second)
    (right : SameCores second third) : SameCores first third :=
  ⟨right.state.trans left.state, right.md.trans left.md, right.ap.trans left.ap⟩

theorem startHandshakeWork_cores (core : Core) (m : Modem) : SameCores m (startHandshakeWork core m) := by
  unfold startHandshakeWork
  split
  · cases core <;> exact ⟨rfl, rfl, rfl⟩
  · exact .refl m

theorem mdEventStart_cores (m : Modem) : SameCores m (mdEventStart m) := by
  unfold mdEventStart
  dsimp only
  split
  · exact ⟨rfl, rfl, rfl⟩
  · split
    · exact ⟨rfl, rfl, rfl⟩
    · have md := startHandshakeWork_cores .md
        { mhccifMaskSet D2H_INT_PORT_ENUM m with
          expId := (mhccifMaskSet D2H_INT_PORT_ENUM m).expId |||
            ((mhccifMaskSet D2H_INT_PORT_ENUM m).swIntSts &&& D2H_SW_INT_MASK) }
      have both := md.trans (startHandshakeWork_cores .ap _)
      exact ⟨both.state, both.md, both.ap⟩

theorem pciMhccifIsr_cores (m : Modem) : SameCores m (pciMhccifIsr m) := by
  unfold pciMhccifIsr
  dsimp only
  split_ifs <;> exact ⟨rfl, rfl, rfl⟩

theorem mhccifIsrThread_cores (m : Modem) : SameCores m (mhccifIsrThread m) := by
  unfold mhccifIsrThread
  dsimp only
  split
  · have isr := pciMhccifIsr_cores m
    exact ⟨isr.state, isr.md, isr.ap⟩
  · exact ⟨rfl, rfl, rfl⟩

theorem fsmFinishStart_cores (cmd : FsmCommand) (ret : Int) (m : Modem) :
    SameCores m (fsmFinishStart cmd ret m) := by
  unfold fsmFinishStart
  split <;> exact ⟨rfl, rfl, rfl⟩

theorem fsmPollEvent_cores (expected ignored : FsmEventId) (m : Modem) :
    SameCores m (fsmPollEvent expected ignored m).1 := by
  unfold fsmPollEvent
  split
  · exact .refl m
  · split_ifs <;> exact ⟨rfl, rfl, rfl⟩

theorem fsmRoutineReady_cores (m : Modem) :
    (fsmRoutineReady m).coreMd = m.coreMd ∧ (fsmRoutineReady m).coreAp = m.coreAp := by
  unfold fsmRoutineReady fsmBroadcastReadyState
  dsimp only
  split <;> exact ⟨rfl, rfl⟩

theorem fsmStoppedHandler_frame (m : Modem) :
    (fsmStoppedHandler m).1.currState = .stopped ∧ (fsmStoppedHandler m).1.coreAp = m.coreAp := by
  unfold fsmStoppedHandler
  dsimp only
  split
  · exact ⟨rfl, rfl⟩
  · simp only [mdReset, coreReset]
    split <;> exact ⟨rfl, rfl⟩

def FsmThread.starting : FsmThread → Bool
  | .startNotify _ _ | .waitHandshake _ _ => true
  | _ => false

/-- What a routine may do to the FSM: not make it ready, not touch the AP core, and not leave the
    thread inside a start. -/
structure RoutineFrame (before after : Modem) (thread : FsmThread) : Prop where
  state : after.currState = .ready → before.currState = .ready
  ap : after.coreAp = before.coreAp
  outside : thread.starting = false

theorem fsmDequeue_frame {m next : Modem} {thread : FsmThread}
    (taken : fsmDequeue m = some (next, thread)) : RoutineFrame m next thread := by
  unfold fsmDequeue at taken
  split at taken
  · cases taken
  · rename_i cmd commandQueue queue
    split at taken
    · simp only [fsmRoutineStart, Option.some.injEq] at taken
      split at taken
      · cases taken
        exact ⟨id, rfl, rfl⟩
      · cases taken
        exact ⟨nofun, rfl, rfl⟩
    · simp only [fsmRoutineException, Option.some.injEq] at taken
      split at taken
      · cases taken
        exact ⟨id, rfl, rfl⟩
      · split at taken
        · cases taken
          exact ⟨nofun, rfl, rfl⟩
        · cases taken
          exact ⟨nofun, rfl, rfl⟩
    · simp only [fsmRoutineStopping, Option.some.injEq] at taken
      split at taken
      · cases taken
        exact ⟨id, rfl, rfl⟩
      · cases taken
        exact ⟨nofun, rfl, rfl⟩
    · simp only [fsmRoutineStopped, Option.some.injEq] at taken
      split at taken
      · cases taken
        exact ⟨id, rfl, rfl⟩
      · cases taken
        obtain ⟨stopped, ap⟩ := fsmStoppedHandler_frame { m with commandQueue }
        refine ⟨fun ready => ?_, ap, rfl⟩
        simp only [fsmFinishCommand] at ready
        rw [stopped] at ready
        cases ready
    · cases taken
      exact ⟨id, rfl, rfl⟩

theorem lkStageEventHandling_cores (status : BitVec 32) (m : Modem) :
    SameCores m (lkStageEventHandling status m) := by
  unfold lkStageEventHandling
  split_ifs <;> exact ⟨rfl, rfl, rfl⟩

theorem fsmDevStage_frame (cmd : FsmCommand) (timedOut : Bool) (status : BitVec 32) (m : Modem) :
    RoutineFrame m (fsmDevStage cmd timedOut status m).1 (fsmDevStage cmd timedOut status m).2 := by
  have finish : ∀ ret {m' : Modem}, SameCores m m' →
      RoutineFrame m (fsmFinishStart cmd ret m') .idle := by
    intro ret m' same
    have finished := same.trans (fsmFinishStart_cores cmd ret m')
    exact ⟨fun ready => finished.state.symm.trans ready, finished.ap, rfl⟩
  have lk := lkStageEventHandling_cores status m
  unfold fsmDevStage
  dsimp only
  split_ifs
  · exact finish _ (.refl m)
  · exact finish _ ⟨rfl, rfl, rfl⟩
  · exact finish _ ⟨lk.state, lk.md, lk.ap⟩
  · exact finish _ ⟨rfl, rfl, rfl⟩
  · exact ⟨id, rfl, rfl⟩
  · exact finish _ ⟨rfl, rfl, rfl⟩
  · exact finish _ (.refl m)

/-- A ready FSM had both handshakes complete since the broadcast of its own start. -/
def HandshakesCurrent (run : FsmRun) : Prop :=
  run.m.currState = .ready → run.mdHk = true ∧ run.apHk = true

instance : DecidablePred HandshakesCurrent := fun run => by
  unfold HandshakesCurrent
  infer_instance

/-- Both `ready` flags are clear when `MD_STATE_WAITING_FOR_HS1` is broadcast. -/
def flagsClearAtBroadcast (run : FsmRun) : FsmLabel → Prop
  | .broadcastHs1 => run.m.coreMd.ready = false ∧ run.m.coreAp.ready = false
  | _ => True

instance (run : FsmRun) (label : FsmLabel) : Decidable (flagsClearAtBroadcast run label) := by
  cases label <;> unfold flagsClearAtBroadcast <;> infer_instance

/-- During a start a `ready` flag stands for a handshake of that start. -/
structure HandshakeInvariant (run : FsmRun) : Prop where
  current : HandshakesCurrent run
  counted : run.thread.starting = true →
    (run.m.coreMd.ready = true → run.mdHk = true) ∧ (run.m.coreAp.ready = true → run.apHk = true)

theorem HandshakeInvariant.keep {run next : FsmRun} (inv : HandshakeInvariant run)
    (same : SameCores run.m next.m) (starting : next.thread.starting = true → run.thread.starting = true)
    (md : next.mdHk = run.mdHk) (ap : next.apHk = run.apHk) : HandshakeInvariant next := by
  refine ⟨fun ready => ?_, fun started => ?_⟩
  · rw [md, ap]
    exact inv.current (same.state.symm.trans ready)
  · rw [same.md, same.ap, md, ap]
    exact inv.counted (starting started)

theorem HandshakeInvariant.leave {run : FsmRun} (inv : HandshakeInvariant run) {m : Modem}
    {thread : FsmThread} (frame : RoutineFrame run.m m thread) :
    HandshakeInvariant { run with m, thread } := by
  refine ⟨fun ready => inv.current (frame.state ready), fun started => ?_⟩
  rw [frame.outside] at started
  cases started

theorem fsmStartingResult_state (m : Modem) (ready : (fsmStartingResult m).1.currState = .ready) :
    m.currState = .ready ∨ (m.coreMd.ready = true ∧ m.coreAp.ready = true) := by
  have timeout : ∀ core, (fsmHandshakeTimeout core m).currState = .ready → m.currState = .ready := by
    intro core
    unfold fsmHandshakeTimeout
    dsimp only
    split_ifs <;> first | exact id | nofun
  unfold fsmStartingResult at ready
  cases md : m.coreMd.ready with
  | false =>
    simp only [md, if_true] at ready
    exact .inl (timeout .md ready)
  | true =>
    cases ap : m.coreAp.ready with
    | false =>
      simp only [md, ap, Bool.true_eq_false, if_false, if_true] at ready
      exact .inl (timeout .ap ready)
    | true => exact .inr ⟨rfl, rfl⟩

theorem threadStep_invariant {run next : FsmRun} {label : FsmLabel} (inv : HandshakeInvariant run)
    (clear : flagsClearAtBroadcast run label) (taken : run.threadStep label = some next) :
    HandshakeInvariant next := by
  unfold FsmRun.threadStep at taken
  cases label with
  | dequeue =>
    simp only [Option.ite_none_right_eq_some, Option.map_eq_some_iff, Prod.exists] at taken
    obtain ⟨-, m, thread, dequeued, rfl⟩ := taken
    exact inv.leave (fsmDequeue_frame dequeued)
  | devStage timedOut status =>
    dsimp only at taken
    split at taken
    · rename_i cmd waiting
      cases taken
      exact inv.leave (fsmDevStage_frame cmd timedOut status run.m)
    · cases taken
  | broadcastHs1 =>
    dsimp only at taken
    split at taken
    · cases taken
      obtain ⟨md, ap⟩ := clear
      refine ⟨nofun, fun _ => ⟨fun ready => ?_, fun ready => ?_⟩⟩
      · exact absurd (md.symm.trans ready) (by decide)
      · exact absurd (ap.symm.trans ready) (by decide)
    · cases taken
  | notifyStart =>
    dsimp only at taken
    split at taken
    · rename_i cmd status notifying
      cases taken
      exact inv.keep (mdEventStart_cores run.m) (fun _ => by rw [notifying]; rfl) rfl rfl
    · cases taken
  | handshakeWake =>
    dsimp only at taken
    split at taken
    · rename_i cmd status waiting
      cases taken
      refine ⟨fun ready => ?_, nofun⟩
      have finished := (fsmFinishStart_cores cmd (fsmStartingResult run.m).2
        { (fsmStartingResult run.m).1 with status }).state
      rcases fsmStartingResult_state run.m (finished.symm.trans ready) with before | ⟨md, ap⟩
      · exact inv.current before
      · have counted := inv.counted (by rw [waiting]; rfl)
        exact ⟨counted.1 md, counted.2 ap⟩
    · cases taken
  | pollEvent =>
    dsimp only at taken
    split at taken
    · cases taken
      refine inv.keep (fsmPollEvent_cores .mdExRecOk .mdEx run.m) (fun started => ?_) rfl rfl
      dsimp only at started
      split at started <;> cases started
    · rename_i cmd waiting
      have polled := fsmPollEvent_cores .mdExPass .invalid run.m
      split at taken
      · cases taken
        exact inv.keep ⟨polled.state, polled.md, polled.ap⟩ nofun rfl rfl
      · cases taken
        exact inv.keep polled id rfl rfl
    · cases taken
  | pollGivesUp =>
    dsimp only at taken
    split at taken
    · cases taken
      exact inv.keep (.refl _) nofun rfl rfl
    · cases taken
      exact inv.keep ⟨rfl, rfl, rfl⟩ nofun rfl rfl
    · cases taken
  | stopDelayOver =>
    dsimp only at taken
    split at taken
    · cases taken
      obtain ⟨stopped, ap⟩ := fsmStoppedHandler_frame run.m
      refine inv.leave ⟨fun ready => ?_, ap, rfl⟩
      simp only [fsmFinishCommand] at ready
      rw [stopped] at ready
      cases ready
    · cases taken
  | _ => cases taken

theorem workStart_cores (core : Core) (m : Modem) :
    (hkWorkStart core m).currState = m.currState ∧
      (hkWorkStart core m).coreMd.ready = m.coreMd.ready ∧
      (hkWorkStart core m).coreAp.ready = m.coreAp.ready := by
  cases core <;> exact ⟨rfl, rfl, rfl⟩

theorem setWork_frame (run : FsmRun) (core : Core) (work : HkWork) :
    (run.setWork core work).m = run.m ∧ (run.setWork core work).thread = run.thread ∧
      (run.setWork core work).mdHk = run.mdHk ∧ (run.setWork core work).apHk = run.apHk := by
  cases core <;> exact ⟨rfl, rfl, rfl, rfl⟩

theorem completeHandshake_invariant {run : FsmRun} (inv : HandshakeInvariant run) (core : Core) :
    HandshakeInvariant (run.completeHandshake core) := by
  cases core with
  | md =>
    exact ⟨fun ready => ⟨rfl, (inv.current ready).2⟩, fun started => ⟨fun _ => rfl, (inv.counted started).2⟩⟩
  | ap =>
    exact ⟨fun ready => ⟨(inv.current ready).1, rfl⟩, fun started => ⟨(inv.counted started).1, fun _ => rfl⟩⟩

theorem workStep_invariant {run next : FsmRun} {label : FsmLabel} (inv : HandshakeInvariant run)
    (taken : run.workStep label = some next) : HandshakeInvariant next := by
  have moved : ∀ (m : Modem) (core : Core) (work : HkWork), m.currState = run.m.currState →
      m.coreMd.ready = run.m.coreMd.ready → m.coreAp.ready = run.m.coreAp.ready →
      HandshakeInvariant ({ run with m }.setWork core work) := by
    intro m core work state md ap
    obtain ⟨sameM, sameThread, sameMd, sameAp⟩ := setWork_frame { run with m } core work
    refine ⟨fun ready => ?_, fun started => ?_⟩
    · rw [sameMd, sameAp]
      rw [sameM] at ready
      exact inv.current (state.symm.trans ready)
    · rw [sameMd, sameAp, sameM]
      rw [sameThread] at started
      simp only [md, ap]
      exact inv.counted started
  unfold FsmRun.workStep at taken
  cases label with
  | workStart core =>
    simp only [Option.ite_none_right_eq_some, Option.some.injEq] at taken
    obtain ⟨-, rfl⟩ := taken
    obtain ⟨state, md, ap⟩ := workStart_cores core run.m
    exact moved _ core _ state md ap
  | workEvent core =>
    simp only [Option.ite_none_right_eq_some, Option.map_eq_some_iff, Prod.exists] at taken
    obtain ⟨-, event, eventQueue, -, rfl⟩ := taken
    exact moved _ core _ rfl rfl rfl
  | workFinish core parsed =>
    simp only [Option.ite_none_right_eq_some, Option.some.injEq] at taken
    obtain ⟨-, rfl⟩ := taken
    have idled : HandshakeInvariant (run.setWork core .idle) := moved run.m core .idle rfl rfl rfl
    split
    · exact completeHandshake_invariant idled core
    · exact idled
  | _ => cases taken

theorem step_invariant (run : FsmRun) (label : FsmLabel) (next : FsmRun) (inv : HandshakeInvariant run)
    (clear : flagsClearAtBroadcast run label) (taken : run.step label = some next) :
    HandshakeInvariant next := by
  unfold FsmRun.step at taken
  cases label with
  | appendCmd cmdId flag | appendEvent event | modeUpdate mode | deviceInt bits =>
    cases taken
    exact inv.keep ⟨rfl, rfl, rfl⟩ id rfl rfl
  | mhccifIsr =>
    cases taken
    exact inv.keep (mhccifIsrThread_cores run.m) id rfl rfl
  | workStart core | workEvent core | workFinish core parsed => exact workStep_invariant inv taken
  | _ => exact threadStep_invariant inv clear taken

def FsmRun.probed (dev : PciDev) : FsmRun where
  m := {
    dev
    currState := .init
    mdState := .invalid
    expFlg := false
    status := T7XX_DEV_STAGE_INIT
    commandQueue := [{ cmdId := .start, flag := 0 }]
    eventQueue := []
    finished := []
    coreMd := { ready := false, handshakeOngoing := false }
    coreAp := { ready := false, handshakeOngoing := false }
    mdInitFinish := true
    expId := 0
    swIntSts := 0
    mhccifMask := BitVec.allOnes 32
    handshakeWork := false
    apHandshakeWork := false }
  thread := .idle
  mdWork := .idle
  apWork := .idle
  mdHk := false
  apHk := false

/-- A start ends ready only after both of its own handshakes, if each start finds the flags clear. -/
theorem ready_after_own_handshakes (dev : PciDev) (labels : List FsmLabel)
    (clear : Obeys flagsClearAtBroadcast FsmRun.step (FsmRun.probed dev) labels) :
    Visits HandshakesCurrent FsmRun.step (FsmRun.probed dev) labels :=
  Visits.of_invariant HandshakeInvariant (fun _ inv => inv.current) step_invariant ⟨nofun, nofun⟩ clear

theorem fsmStartingResult_coreAp (m : Modem) : (fsmStartingResult m).1.coreAp = m.coreAp := by
  have timeout : ∀ core, (fsmHandshakeTimeout core m).coreAp = m.coreAp := by
    intro core
    unfold fsmHandshakeTimeout
    dsimp only
    split_ifs <;> rfl
  unfold fsmStartingResult
  split_ifs
  · exact timeout .md
  · exact timeout .ap
  · exact (fsmRoutineReady_cores _).2

theorem threadStep_coreAp {run next : FsmRun} {label : FsmLabel}
    (taken : run.threadStep label = some next) : next.m.coreAp = run.m.coreAp := by
  unfold FsmRun.threadStep at taken
  cases label with
  | dequeue =>
    simp only [Option.ite_none_right_eq_some, Option.map_eq_some_iff, Prod.exists] at taken
    obtain ⟨-, m, thread, dequeued, rfl⟩ := taken
    exact (fsmDequeue_frame dequeued).ap
  | devStage timedOut status =>
    dsimp only at taken
    split at taken
    · rename_i cmd waiting
      cases taken
      exact (fsmDevStage_frame cmd timedOut status run.m).ap
    · cases taken
  | broadcastHs1 =>
    dsimp only at taken
    split at taken <;> (cases taken; try rfl)
  | notifyStart =>
    dsimp only at taken
    split at taken
    · cases taken
      exact (mdEventStart_cores run.m).ap
    · cases taken
  | handshakeWake =>
    dsimp only at taken
    split at taken
    · rename_i cmd status waiting
      cases taken
      have result := fsmStartingResult_coreAp run.m
      exact (fsmFinishStart_cores cmd (fsmStartingResult run.m).2 _).ap.trans result
    · cases taken
  | pollEvent =>
    dsimp only at taken
    split at taken
    · cases taken
      exact (fsmPollEvent_cores .mdExRecOk .mdEx run.m).ap
    · have polled := (fsmPollEvent_cores .mdExPass .invalid run.m).ap
      split at taken <;> (cases taken; exact polled)
    · cases taken
  | pollGivesUp =>
    dsimp only at taken
    split at taken <;> (cases taken; try rfl)
  | stopDelayOver =>
    dsimp only at taken
    split at taken
    · cases taken
      exact (fsmStoppedHandler_frame run.m).2
    · cases taken
  | _ => cases taken

theorem ap_ready_kept (run : FsmRun) (label : FsmLabel) (next : FsmRun)
    (ready : run.m.coreAp.ready = true) (taken : run.step label = some next) :
    next.m.coreAp.ready = true := by
  unfold FsmRun.step at taken
  cases label with
  | appendCmd cmdId flag | appendEvent event | modeUpdate mode | deviceInt bits =>
    cases taken
    exact ready
  | mhccifIsr =>
    cases taken
    rw [(mhccifIsrThread_cores run.m).ap]
    exact ready
  | workStart core =>
    simp only [FsmRun.workStep, Option.ite_none_right_eq_some, Option.some.injEq] at taken
    obtain ⟨-, rfl⟩ := taken
    rw [(setWork_frame _ core _).1, (workStart_cores core run.m).2.2]
    exact ready
  | workEvent core =>
    simp only [FsmRun.workStep, Option.ite_none_right_eq_some, Option.map_eq_some_iff,
      Prod.exists] at taken
    obtain ⟨-, event, eventQueue, -, rfl⟩ := taken
    rw [(setWork_frame _ core _).1]
    exact ready
  | workFinish core parsed =>
    simp only [FsmRun.workStep, Option.ite_none_right_eq_some, Option.some.injEq] at taken
    obtain ⟨-, rfl⟩ := taken
    split
    · cases core with
      | md => exact ready
      | ap => rfl
    · rw [(setWork_frame _ core _).1]
      exact ready
  | _ =>
    rw [threadStep_coreAp taken]
    exact ready

/-- Once the AP handshake has completed, every later start finds its flag set. -/
theorem ap_ready_for_ever (run : FsmRun) (labels : List FsmLabel) (ready : run.m.coreAp.ready = true) :
    Visits (fun later => later.m.coreAp.ready = true) FsmRun.step run labels :=
  Visits.of_kept (fun later : FsmRun => later.m.coreAp.ready = true) (fun _ held => held) ap_ready_kept
    labels ready

def linuxStatus : BitVec 32 := T7XX_DEV_STAGE_LINUX

def bootUpTo (handshakes : BitVec 32) : List FsmLabel :=
  [.dequeue, .devStage false linuxStatus, .deviceInt D2H_INT_PORT_ENUM, .mhccifIsr, .dequeue,
    .devStage false linuxStatus, .broadcastHs1, .deviceInt handshakes, .notifyStart]

def mdHandshake : List FsmLabel :=
  [.workStart .md, .appendEvent .mdHs2, .workEvent .md, .workFinish .md true]

def apHandshake : List FsmLabel :=
  [.workStart .ap, .appendEvent .apHs2, .workEvent .ap, .workFinish .ap true]

def firstBoot : List FsmLabel :=
  bootUpTo (D2H_INT_ASYNC_MD_HK ||| D2H_INT_ASYNC_AP_HK) ++ mdHandshake ++ apHandshake ++ [.handshakeWake]

def stopAndRestart : List FsmLabel :=
  [.appendCmd .stop FSM_CMD_FLAG_WAIT_FOR_COMPLETION, .dequeue, .appendCmd .start 0]

theorem ready_after_own_handshakes_first_boot :
    Obeys flagsClearAtBroadcast FsmRun.step (FsmRun.probed probedDev) firstBoot ∧
      Visits HandshakesCurrent FsmRun.step (FsmRun.probed probedDev) firstBoot :=
  have clear : Obeys flagsClearAtBroadcast FsmRun.step (FsmRun.probed probedDev) firstBoot := by decide
  ⟨clear, ready_after_own_handshakes probedDev firstBoot clear⟩

/-- The second boot becomes ready on the MD handshake alone. -/
theorem second_boot_without_ap_handshake :
    ¬ Visits HandshakesCurrent FsmRun.step (FsmRun.probed probedDev)
      (firstBoot ++ stopAndRestart ++ bootUpTo D2H_INT_ASYNC_MD_HK ++ mdHandshake ++
        [.handshakeWake]) := by
  decide

end T7xxModel.Fsm
