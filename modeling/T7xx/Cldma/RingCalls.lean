import T7xx.Cldma.LateInit
import T7xx.Fsm.PmCalls

namespace T7xxModel.Cldma

open Transition Pci Fsm

inductive RingCallback where
  | resumeEarly
  | clearTxq (q : Qno)
  | clearRxq (q : Qno)
deriving DecidableEq, Repr

/-- A call that follows the pointers of a controller, with the controller it finds. -/
structure RingCall where
  callback : RingCallback
  ctrl : RingCtrl

inductive SwitchPc where
  | idle
  | lateRelease
  | lateInit
  | broadcast
deriving DecidableEq, Repr

inductive ExPc where
  | idle
  | clear (dir : Dir) (core : Core) (q : Qno)
  | waitClearq
  | waitAllq
deriving DecidableEq, Repr

inductive RingHistory where
  | allocated
  | reset
  | released
  | initFailed
  | initDone
deriving DecidableEq, Repr

inductive RingOp where
  | keep
  | reset
  | release
  | init (allocs : LateAllocs)
  | clear (dir : Dir) (q : Qno)
  | move (cursor : Cursor) (q : Qno)

/-- The state machine and the PM callbacks with the two controllers; `switch` belongs to the
    handshake works, `lkStatus` is the device status while the FSM thread is in
    `t7xx_lk_stage_event_handling`. -/
structure RingRun where
  sys : PmRun
  ctrl : Core → RingCtrl
  switch : Core → SwitchPc
  lkStatus : Option (BitVec 32)
  ex : ExPc
  calls : List RingCall
  history : Core → RingHistory

inductive RingLabel where
  | pm (label : PmLabel)
  | workBegin (core : Core)
  | switchRelease (core : Core)
  | switchInit (core : Core) (allocs : LateAllocs)
  | workBroadcast (core : Core)
  | devStage (timedOut : Bool) (status : BitVec 32)
  | lkInit (allocs : LateAllocs)
  | exStep
  | moveCursor (core : Core) (cursor : Cursor) (q : Qno)

section Steps

def RingOp.apply (ctrl : RingCtrl) : RingOp → RingCtrl
  | .keep => ctrl
  | .reset => cldmaReset ctrl
  | .release => cldmaLateRelease ctrl
  | .init allocs => (cldmaLateInit allocs ctrl).1
  | .clear .tx q => cldmaClearTxq ctrl q
  | .clear .rx q => cldmaClearRxq ctrl q
  | .move cursor q => ctrl.moveCursor cursor q

/-- An init that finds the rings there changes nothing. -/
def RingOp.after (history : RingHistory) : RingOp → RingHistory
  | .reset => .reset
  | .release => .released
  | .init allocs => if history = .initDone ∨ allocs.Suffice then .initDone else .initFailed
  | _ => history

/-- `PM_ENTITY_ID_CTRL1` is the MD controller, `PM_ENTITY_ID_CTRL2` the AP one. -/
def entityCore : PmId → Option Core
  | .ctrl1 => some .md
  | .ctrl2 => some .ap
  | _ => none

/-- The step runs `t7xx_md_reset`, and with it `t7xx_cldma_reset` on both controllers. -/
def Resets (run : FsmRun) : FsmLabel → Prop
  | .dequeue =>
    ∃ cmd ∈ run.m.commandQueue.head?, cmd.cmdId = .stop ∧ run.m.currState ≠ .stopped ∧
      ¬ run.m.Fastboot
  | .stopDelayOver => ¬ run.m.Fastboot
  | _ => False

instance (run : FsmRun) (label : FsmLabel) : Decidable (Resets run label) := by
  unfold Resets
  split <;> infer_instance

/-- `fsm_routine_start` finds the device in a stage where `t7xx_lk_stage_event_handling` switches
    the AP controller to dedicated queues. -/
def CreatesPort (cmd : FsmCommand) (m : Modem) (timedOut : Bool) (status : BitVec 32) : Prop :=
  timedOut = false ∧ (status ≠ m.status ∨ cmd.flag ≠ 0) ∧ miscStage status = T7XX_DEV_STAGE_LK ∧
    (miscLkEvent status = LK_EVENT_CREATE_PD_PORT ∨ miscLkEvent status = LK_EVENT_CREATE_POST_DL_PORT)

instance (cmd : FsmCommand) (m : Modem) (timedOut : Bool) (status : BitVec 32) :
    Decidable (CreatesPort cmd m timedOut status) :=
  inferInstanceAs (Decidable (_ ∧ _ ∧ _ ∧ (_ ∨ _)))

def ExPc.next : ExPc → ExPc
  | .idle => .idle
  | .clear dir core q =>
    if more : q.val + 1 < CLDMA_TXQ_NUM then .clear dir core ⟨q.val + 1, more⟩
    else
      match core, dir with
      | .md, _ => .clear dir .ap firstQno
      | .ap, .tx => .waitClearq
      | .ap, .rx => .waitAllq
  | .waitClearq => .clear .rx .md firstQno
  | .waitAllq => .idle

/-- Labels that this machine takes in smaller steps, and those of a FSM thread that is still in the
    exception handshake. -/
def RingRun.blocked (s : RingRun) : PmLabel → Bool
  | .fsm (.workStart _) | .fsm (.devStage _ _) => true
  | .fsm .pollEvent | .fsm .pollGivesUp => s.ex ≠ .idle
  | _ => false

def RingRun.setModem (s : RingRun) (m : Modem) : RingRun :=
  { s with sys := { s.sys with run := { s.sys.run with m } } }

def RingRun.setSwitch (s : RingRun) (core : Core) (pc : SwitchPc) : RingRun :=
  { s with switch := Function.update s.switch core pc }

def RingRun.flow (s : RingRun) : RingLabel → Option RingRun
  | .pm label =>
    if s.blocked label then none
    else
      (s.sys.step label).map fun sys =>
        match label, sys.run.thread with
        | .fsm .dequeue, .waitRecOk _ => { s with sys, ex := .clear .tx .md firstQno }
        | _, _ => { s with sys }
  | .workBegin core =>
    let run := s.sys.run
    if run.m.workQueued core = true ∧ run.work core = .idle ∧ s.switch core = .idle then
      some ((s.setModem (hkWorkBegin core run.m)).setSwitch core .lateRelease)
    else none
  | .switchRelease core =>
    if s.switch core = .lateRelease then some (s.setSwitch core .lateInit) else none
  | .switchInit core _ =>
    if s.switch core = .lateInit then some (s.setSwitch core .broadcast) else none
  | .workBroadcast core =>
    if s.switch core = .broadcast then
      let run := { s.sys.run with m := hkWorkBroadcast core s.sys.run.m }.setWork core .waitEvent
      some ({ s with sys := { s.sys with run } }.setSwitch core .idle)
    else none
  | .devStage timedOut status =>
    match s.lkStatus, s.sys.run.thread with
    | none, .waitStage cmd =>
      if CreatesPort cmd s.sys.run.m timedOut status then some { s with lkStatus := some status }
      else (s.sys.step (.fsm (.devStage timedOut status))).map fun sys => { s with sys }
    | _, _ => none
  | .lkInit _ =>
    match s.lkStatus with
    | some status =>
      (s.sys.step (.fsm (.devStage false status))).map fun sys => { s with sys, lkStatus := none }
    | none => none
  | .exStep => if s.ex ≠ .idle then some { s with ex := s.ex.next } else none
  | .moveCursor _ _ _ => some s

def RingRun.op (s : RingRun) (label : RingLabel) (core : Core) : RingOp :=
  match label with
  | .pm (.fsm inner) => if Resets s.sys.run inner then .reset else .keep
  | .switchRelease other => if other = core then .release else .keep
  | .switchInit other allocs => if other = core then .init allocs else .keep
  | .devStage timedOut status =>
    match core, s.sys.run.thread with
    | .ap, .waitStage cmd => if CreatesPort cmd s.sys.run.m timedOut status then .release else .keep
    | _, _ => .keep
  | .lkInit allocs => if core = .ap then .init allocs else .keep
  | .exStep =>
    match s.ex with
    | .clear dir other q => if other = core then .clear dir q else .keep
    | _ => .keep
  | .moveCursor other cursor q => if other = core then .move cursor q else .keep
  | _ => .keep

/-- The controller whose pointers a step follows, and the function that does. -/
def RingRun.called (s : RingRun) : RingLabel → Option (Core × RingCallback)
  | .pm .resumeEarly =>
    match s.sys.pm with
    | .resumeEarly _ (entity :: _) =>
      if entity.resumeEarly then (entityCore entity.id).map fun core => (core, .resumeEarly) else none
    | _ => none
  | .exStep =>
    match s.ex with
    | .clear .tx core q => some (core, .clearTxq q)
    | .clear .rx core q => some (core, .clearRxq q)
    | _ => none
  | _ => none

def RingRun.step (s : RingRun) (label : RingLabel) : Option RingRun :=
  (s.flow label).map fun t =>
    { t with
      ctrl := fun core => (s.op label core).apply (s.ctrl core)
      history := fun core => (s.op label core).after (s.history core)
      calls := s.calls ++ ((s.called label).map fun (core, callback) => ⟨callback, s.ctrl core⟩).toList }

end Steps

section Runs

def RingCall.Initialised (call : RingCall) : Prop :=
  match call.callback with
  | .resumeEarly => ∀ q, call.ctrl.TxqLive q ∧ call.ctrl.RxqLive q
  | .clearTxq q => call.ctrl.TxqLive q
  | .clearRxq q => call.ctrl.RxqLive q

instance (call : RingCall) : Decidable call.Initialised := by
  unfold RingCall.Initialised
  split <;> infer_instance

def CallsInitialised (s : RingRun) : Prop := ∀ call ∈ s.calls, call.Initialised

instance (s : RingRun) : Decidable (CallsInitialised s) :=
  inferInstanceAs (Decidable (∀ call ∈ s.calls, call.Initialised))

/-- The controller that the step follows the pointers of was set up last. -/
def SetUpBefore (s : RingRun) (label : RingLabel) : Prop :=
  ∀ call ∈ s.called label, s.history call.1 = .initDone

instance (s : RingRun) (label : RingLabel) : Decidable (SetUpBefore s label) :=
  inferInstanceAs (Decidable (∀ call ∈ s.called label, s.history call.1 = .initDone))

structure HistorySound (ctrl : RingCtrl) (history : RingHistory) : Prop where
  sound : ctrl.Sound
  done : history = .initDone ↔ ctrl.isLateInit = true

theorem HistorySound.apply {ctrl : RingCtrl} {history : RingHistory}
    (before : HistorySound ctrl history) (op : RingOp) : HistorySound (op.apply ctrl) (op.after history) := by
  obtain ⟨sound, done⟩ := before
  have gone : ∀ {after : RingCtrl} {later : RingHistory}, later ≠ .initDone →
      after.Sound ∧ after.isLateInit = false → HistorySound after later := by
    rintro after later undone ⟨freed, late⟩
    exact ⟨freed, fun here => absurd here undone, fun here => absurd (late.symm.trans here) Bool.false_ne_true⟩
  have kept : ∀ {after : RingCtrl}, after.Sound ∧ after.isLateInit = ctrl.isLateInit →
      HistorySound after history := by
    rintro after ⟨live, late⟩
    exact ⟨live, by rw [late]; exact done⟩
  cases op with
  | keep => exact ⟨sound, done⟩
  | reset => exact gone (show RingHistory.reset ≠ .initDone by decide) (reset_sound sound)
  | release => exact gone (show RingHistory.released ≠ .initDone by decide) (lateRelease_sound sound)
  | init allocs =>
    obtain ⟨initSound, initDone⟩ := lateInit_sound allocs sound
    refine ⟨initSound, ?_⟩
    rw [RingOp.apply, initDone, ← done, RingOp.after]
    split
    · rename_i settled
      exact ⟨fun _ => settled, fun _ => rfl⟩
    · rename_i unsettled
      exact ⟨nofun, fun settled => absurd settled unsettled⟩
  | clear dir q =>
    cases dir with
    | tx => exact kept (clearTxq_sound sound q)
    | rx => exact kept (clearRxq_sound sound q)
  | move cursor q => exact kept (moveCursor_sound sound cursor q)

theorem HistorySound.initialised_iff {ctrl : RingCtrl} {history : RingHistory}
    (sound : HistorySound ctrl history) (callback : RingCallback) :
    RingCall.Initialised ⟨callback, ctrl⟩ ↔ history = .initDone := by
  rw [sound.done]
  cases callback with
  | resumeEarly =>
    constructor
    · intro live
      exact (sound.sound.txqLive_iff firstQno).mp (live firstQno).1
    · intro late q
      exact ⟨sound.sound.txLive late q, sound.sound.rxLive late q⟩
  | clearTxq q => exact sound.sound.txqLive_iff q
  | clearRxq q => exact sound.sound.rxqLive_iff q

def HistoriesSound (s : RingRun) : Prop := ∀ core, HistorySound (s.ctrl core) (s.history core)

theorem ringStep_sound (s : RingRun) (label : RingLabel) (t : RingRun) (sound : HistoriesSound s)
    (taken : s.step label = some t) : HistoriesSound t := by
  obtain ⟨flow, _, rfl⟩ := Option.map_eq_some_iff.mp taken
  exact fun core => (sound core).apply (s.op label core)

theorem ringStep_exact (s : RingRun) (label : RingLabel) (t : RingRun) (sound : HistoriesSound s)
    (safe : CallsInitialised s) (taken : s.step label = some t) :
    CallsInitialised t ↔ SetUpBefore s label := by
  obtain ⟨flow, _, rfl⟩ := Option.map_eq_some_iff.mp taken
  unfold CallsInitialised SetUpBefore
  dsimp only
  rw [List.forall_mem_append]
  cases called : s.called label with
  | none => exact ⟨fun _ => nofun, fun _ => ⟨safe, fun _ member => absurd member List.not_mem_nil⟩⟩
  | some call =>
    have exact_call := (sound call.1).initialised_iff call.2
    constructor
    · rintro ⟨_, new⟩ other member
      obtain rfl := Option.some.inj member
      exact exact_call.mp (new _ List.mem_cons_self)
    · intro done
      refine ⟨safe, fun other member => ?_⟩
      obtain rfl := List.mem_singleton.mp member
      exact exact_call.mpr (done call rfl)

def RingRun.probed (dev : PciDev) : RingRun where
  sys := ⟨FsmRun.probed dev, .idle, []⟩
  ctrl := fun _ => .allocated
  switch := fun _ => .idle
  lkStatus := none
  ex := .idle
  calls := []
  history := fun _ => .allocated

/-- Every call finds its rings live exactly in the runs where each controller was set up last, and
    completely, before it was called. -/
theorem calls_initialised_iff_set_up (dev : PciDev) (labels : List RingLabel) :
    Visits CallsInitialised RingRun.step (RingRun.probed dev) labels ↔
      Obeys SetUpBefore RingRun.step (RingRun.probed dev) labels := by
  refine visits_iff_obeys HistoriesSound
    (fun s label t sound _ taken => ringStep_sound s label t sound taken) ringStep_exact (fun core => ?_) ?_
  · exact ⟨allocated_sound, nofun, nofun⟩
  · exact fun call member => absurd member List.not_mem_nil

def allAllocated : LateAllocs := ⟨true, fun _ i => some i, fun _ i => some i⟩

def ringLabels : FsmLabel → List RingLabel
  | .workStart core =>
    [.workBegin core, .switchRelease core, .switchInit core allAllocated, .workBroadcast core]
  | .devStage timedOut status => [.devStage timedOut status]
  | label => [.pm (.fsm label)]

/-- The resume register holds 6 after the first suspend, and `PM_RESUME_REG_STATE_L1` after the second. -/
def unknownThenL1 : List PmLabel :=
  resumedUnknown ++ suspendAcked ++ [resumeFrom PM_RESUME_REG_STATE_L1, .resumeEarly, .resumeEarly]

theorem resume_after_stop_finds_no_rings :
    ¬ Visits CallsInitialised RingRun.step (RingRun.probed probedDev)
      (firstBoot.flatMap ringLabels ++ unknownThenL1.map .pm) := by
  decide

end Runs

end T7xxModel.Cldma
