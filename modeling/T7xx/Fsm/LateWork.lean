import T7xx.Fsm.HandshakeWorks

namespace T7xxModel.Fsm

open Transition Pci

/-- The boot that queued a work, and whether `fsm_routine_starting` of that boot was under way then and
    has not left its wait since, be it on completed handshakes, a timeout or an exception. -/
structure WorkOrigin where
  boot : Nat
  awaited : Bool
deriving DecidableEq, Repr

/-- Where `t7xx_md_hk_wq` is before its handler: about to start CLDMA, or to broadcast. -/
inductive MdHkPc where
  | idle
  | cldmaStart (origin : WorkOrigin)
  | broadcast (origin : WorkOrigin)
deriving DecidableEq, Repr

/-- A CLDMA start or a broadcast of the work, with the state it was made in. -/
structure MdHkAction where
  currState : FsmState
  mdState : MdState
  boot : Nat
  queuedIn : Nat
deriving DecidableEq, Repr

/-- The state machine with the MD handshake work in steps. `boots` counts the calls of
    `fsm_routine_starting`, `origin` is that of the work queued last. -/
structure LateRun where
  run : FsmRun
  boots : Nat
  origin : WorkOrigin
  pc : MdHkPc
  actions : List MdHkAction
deriving DecidableEq, Repr

inductive LateLabel where
  | fsm (label : FsmLabel)
  | workTake
  | cldmaStart
  | broadcast
deriving DecidableEq, Repr

section Steps

def WorkOrigin.after (origin : WorkOrigin) : FsmLabel → WorkOrigin
  | .handshakeWake => { origin with awaited := false }
  | _ => origin

def MdHkPc.after (pc : MdHkPc) (label : FsmLabel) : MdHkPc :=
  match pc with
  | .idle => .idle
  | .cldmaStart origin => .cldmaStart (origin.after label)
  | .broadcast origin => .broadcast (origin.after label)

/-- A step of the state machine to `run`, which may queue the work. -/
def LateRun.moved (s : LateRun) (label : FsmLabel) (run : FsmRun) : LateRun :=
  let boots := if label = .broadcastHs1 then s.boots + 1 else s.boots
  { s with
    run
    boots
    origin :=
      if s.run.m.handshakeWork = false ∧ run.m.handshakeWork = true then ⟨boots, run.thread.starting⟩
      else s.origin.after label
    pc := s.pc.after label }

def LateRun.act (s : LateRun) (origin : WorkOrigin) : MdHkAction :=
  ⟨s.run.m.currState, s.run.m.mdState, s.boots, origin.boot⟩

def LateRun.step (s : LateRun) : LateLabel → Option LateRun
  | .fsm (.workStart .md) => none
  | .fsm label => (s.run.step label).map (s.moved label)
  | .workTake =>
    if s.run.m.handshakeWork = true ∧ s.run.mdWork = .idle ∧ s.pc = .idle then
      some { s with run := { s.run with m := hkWorkBegin .md s.run.m }, pc := .cldmaStart s.origin }
    else none
  | .cldmaStart =>
    match s.pc with
    | .cldmaStart origin =>
      some { s with pc := .broadcast origin, actions := s.actions ++ [s.act origin] }
    | _ => none
  | .broadcast =>
    match s.pc with
    | .broadcast origin =>
      some { s with
        run := { s.run with m := hkWorkBroadcast .md s.run.m, mdWork := .waitEvent }
        pc := .idle
        actions := s.actions ++ [s.act origin] }
    | _ => none

def LateRun.probed (dev : PciDev) : LateRun where
  run := FsmRun.probed dev
  boots := 0
  origin := ⟨0, false⟩
  pc := .idle
  actions := []

end Steps

section Contract

/-- The action falls into `FSM_STATE_STARTING` of the boot that queued its work, and finds the modem
    neither stopped nor ready nor in an exception. -/
def MdHkAction.InTime (action : MdHkAction) : Prop :=
  action.currState = .starting ∧ action.boot = action.queuedIn ∧
    action.mdState ≠ .stopped ∧ action.mdState ≠ .exception ∧ action.mdState ≠ .ready

instance (action : MdHkAction) : Decidable action.InTime :=
  inferInstanceAs (Decidable (_ ∧ _ ∧ _ ∧ _ ∧ _))

def ActionsInTime (s : LateRun) : Prop := ∀ action ∈ s.actions, action.InTime

instance (s : LateRun) : Decidable (ActionsInTime s) :=
  inferInstanceAs (Decidable (∀ action ∈ s.actions, action.InTime))

/-- The work was queued while `fsm_routine_starting` was under way, and starts CLDMA and broadcasts
    before the wait of that call has ended for any reason. -/
def WorkAwaited (s : LateRun) : LateLabel → Prop
  | .cldmaStart => ∀ origin, s.pc = .cldmaStart origin → origin.awaited = true
  | .broadcast => ∀ origin, s.pc = .broadcast origin → origin.awaited = true
  | _ => True

/-- An origin tells whether its boot is the one that is waiting now. -/
def WorkOrigin.Sound (origin : WorkOrigin) (s : LateRun) : Prop :=
  origin.boot ≤ s.boots ∧
    (origin.awaited = true ↔ s.run.thread.starting = true ∧ origin.boot = s.boots)

def MdHkPc.Sound (pc : MdHkPc) (s : LateRun) : Prop :=
  match pc with
  | .idle => True
  | .cldmaStart origin | .broadcast origin => origin.Sound s

/-- `curr_state` is `FSM_STATE_STARTING` while `fsm_routine_starting` runs, which the modem spends
    waiting for one of its handshakes. -/
structure StartingSound (run : FsmRun) : Prop where
  state : run.m.currState = .starting ↔ run.thread.starting = true
  waits : run.thread.starting = true → run.m.mdState = .waitingForHs1 ∨ run.m.mdState = .waitingForHs2

structure LateSound (s : LateRun) : Prop where
  starting : StartingSound s.run
  origin : s.origin.Sound s
  pc : s.pc.Sound s

end Contract

section Starting

variable {run next : FsmRun} {label : FsmLabel}

theorem StartingSound.keep (sound : StartingSound run) (state : next.m.currState = run.m.currState)
    (mdState : next.m.mdState = run.m.mdState)
    (starting : next.thread.starting = run.thread.starting) : StartingSound next := by
  refine ⟨?_, fun waiting => ?_⟩
  · rw [state, starting]
    exact sound.state
  · rw [mdState]
    exact sound.waits (starting.symm.trans waiting)

theorem StartingSound.outside (thread : run.thread.starting = false)
    (state : run.m.currState ≠ .starting) : StartingSound run := by
  refine ⟨⟨fun starting => absurd starting state, fun waiting => ?_⟩, fun waiting => ?_⟩
  · rw [thread] at waiting
    cases waiting
  · rw [thread] at waiting
    cases waiting

/-- How a step moves the wait of `fsm_routine_starting`. -/
structure StartingStep (run : FsmRun) (label : FsmLabel) (next : FsmRun) : Prop where
  sound : StartingSound next
  begins : label = .broadcastHs1 → run.thread.starting = false ∧ next.thread.starting = true
  ends : label = .handshakeWake → next.thread.starting = false
  stays : label ≠ .broadcastHs1 → label ≠ .handshakeWake →
    next.thread.starting = run.thread.starting

theorem StartingStep.frame (sound : StartingSound run) (other : label ≠ .broadcastHs1)
    (going : label ≠ .handshakeWake) (state : next.m.currState = run.m.currState)
    (mdState : next.m.mdState = run.m.mdState)
    (starting : next.thread.starting = run.thread.starting) : StartingStep run label next :=
  ⟨sound.keep state mdState starting, fun begun => absurd begun other,
    fun ended => absurd ended going, fun _ _ => starting⟩

theorem StartingStep.away (sound : StartingSound run) (other : label ≠ .broadcastHs1)
    (before : run.thread.starting = false) (after : next.thread.starting = false)
    (state : next.m.currState = .starting → run.m.currState = .starting) :
    StartingStep run label next := by
  have left : run.m.currState ≠ .starting := fun starting => by
    have waiting := sound.state.mp starting
    rw [before] at waiting
    cases waiting
  exact ⟨.outside after (mt state left), fun begun => absurd begun other, fun _ => after,
    fun _ _ => after.trans before.symm⟩

theorem startHandshakeWork_mdState (core : Core) (m : Modem) :
    (startHandshakeWork core m).mdState = m.mdState := by
  unfold startHandshakeWork
  split
  · cases core <;> rfl
  · rfl

theorem mdEventStart_mdState (m : Modem) : (mdEventStart m).mdState = m.mdState := by
  unfold mdEventStart
  dsimp only
  split
  · rfl
  · split
    · rfl
    · exact (startHandshakeWork_mdState .ap _).trans (startHandshakeWork_mdState .md _)

theorem mhccifIsrThread_mdState (m : Modem) : (mhccifIsrThread m).mdState = m.mdState := by
  have pass : (pciMhccifIsr m).mdState = m.mdState := by
    unfold pciMhccifIsr
    dsimp only
    split_ifs <;> rfl
  unfold mhccifIsrThread
  dsimp only
  split
  · exact pass
  · rfl

theorem fsmDequeue_starting {m after : Modem} {thread : FsmThread}
    (taken : fsmDequeue m = some (after, thread)) (starting : after.currState = .starting) :
    m.currState = .starting := by
  unfold fsmDequeue at taken
  split at taken
  · cases taken
  · rename_i cmd commandQueue queue
    have rejected : (fsmFinishCommand cmd (-EINVAL) { m with commandQueue }).currState = .starting →
        m.currState = .starting := id
    split at taken
    · simp only [fsmRoutineStart, Option.some.injEq] at taken
      split at taken
      · cases taken
        exact rejected starting
      · cases taken
        cases starting
    · simp only [fsmRoutineException, Option.some.injEq] at taken
      split at taken
      · cases taken
        exact rejected starting
      · split at taken
        · cases taken
          cases starting
        · cases taken
          cases starting
    · simp only [fsmRoutineStopping, Option.some.injEq] at taken
      split at taken
      · cases taken
        exact rejected starting
      · cases taken
        cases starting
    · simp only [fsmRoutineStopped, Option.some.injEq] at taken
      split at taken
      · cases taken
        exact rejected starting
      · cases taken
        have stopped := (fsmStoppedHandler_frame { m with commandQueue }).1
        simp only [fsmFinishCommand] at starting
        rw [stopped] at starting
        cases starting
    · cases taken
      exact starting

theorem fsmDevStage_state (cmd : FsmCommand) (timedOut : Bool) (status : BitVec 32) (m : Modem) :
    (fsmDevStage cmd timedOut status m).1.currState = m.currState := by
  have finish : ∀ ret (m' : Modem), (fsmFinishStart cmd ret m').currState = m'.currState :=
    fun ret m' => (fsmFinishStart_cores cmd ret m').state
  have lk := (lkStageEventHandling_cores status m).state
  unfold fsmDevStage
  dsimp only
  split_ifs
  · exact finish _ _
  · exact finish _ _
  · exact (finish _ _).trans lk
  · exact finish _ _
  · rfl
  · exact finish _ _
  · exact finish _ _

theorem fsmStartingResult_left (m : Modem) : (fsmStartingResult m).1.currState ≠ .starting := by
  have timeout : ∀ core, (fsmHandshakeTimeout core m).currState ≠ .starting := by
    intro core
    unfold fsmHandshakeTimeout
    dsimp only
    split_ifs with ongoing elsewhere elsewhere
    · exact elsewhere.2
    · nofun
    · exact elsewhere.2
    · nofun
  have ready : ∀ m : Modem, (fsmRoutineReady m).currState = .ready := by
    intro m
    unfold fsmRoutineReady fsmBroadcastReadyState
    dsimp only
    split <;> rfl
  unfold fsmStartingResult
  split
  · exact timeout .md
  · split
    · exact timeout .ap
    · rw [ready]
      nofun

theorem threadStep_starting (sound : StartingSound run) (taken : run.threadStep label = some next) :
    StartingStep run label next := by
  unfold FsmRun.threadStep at taken
  cases label with
  | dequeue =>
    simp only [Option.ite_none_right_eq_some, Option.map_eq_some_iff, Prod.exists] at taken
    obtain ⟨idle, m, thread, dequeued, rfl⟩ := taken
    have before : run.thread.starting = false := by rw [idle]; rfl
    exact .away sound nofun before (fsmDequeue_frame dequeued).outside (fsmDequeue_starting dequeued)
  | devStage timedOut status =>
    dsimp only at taken
    split at taken
    · rename_i cmd waiting
      cases taken
      have before : run.thread.starting = false := by rw [waiting]; rfl
      have state := fsmDevStage_state cmd timedOut status run.m
      exact .away sound nofun before (fsmDevStage_frame cmd timedOut status run.m).outside
        fun starting => state.symm.trans starting
    · cases taken
  | broadcastHs1 =>
    dsimp only at taken
    split at taken
    · rename_i cmd status stage
      cases taken
      have before : run.thread.starting = false := by rw [stage]; rfl
      exact ⟨⟨⟨fun _ => rfl, fun _ => rfl⟩, fun _ => .inl rfl⟩, fun _ => ⟨before, rfl⟩, nofun,
        fun other => absurd rfl other⟩
    · cases taken
  | notifyStart =>
    dsimp only at taken
    split at taken
    · rename_i cmd status notifying
      cases taken
      exact .frame sound nofun nofun (mdEventStart_cores run.m).state (mdEventStart_mdState run.m)
        (by rw [notifying]; rfl)
    · cases taken
  | handshakeWake =>
    dsimp only at taken
    split at taken
    · rename_i cmd status waiting
      cases taken
      have finished := (fsmFinishStart_cores cmd (fsmStartingResult run.m).2
        { (fsmStartingResult run.m).1 with status }).state
      have left := fsmStartingResult_left run.m
      exact ⟨.outside rfl fun starting => left (finished.symm.trans starting), nofun, fun _ => rfl,
        fun _ going => absurd rfl going⟩
    · cases taken
  | pollEvent =>
    dsimp only at taken
    split at taken
    · rename_i cmd waiting
      cases taken
      have before : run.thread.starting = false := by rw [waiting]; rfl
      have state := (fsmPollEvent_cores .mdExRecOk .mdEx run.m).state
      refine .away sound nofun before ?_ fun starting => state.symm.trans starting
      dsimp only
      split <;> rfl
    · rename_i cmd waiting
      have before : run.thread.starting = false := by rw [waiting]; rfl
      have state := (fsmPollEvent_cores .mdExPass .invalid run.m).state
      split at taken
      · cases taken
        exact .away sound nofun before rfl fun starting => state.symm.trans starting
      · cases taken
        exact .away sound nofun before before fun starting => state.symm.trans starting
    · cases taken
  | pollGivesUp =>
    dsimp only at taken
    split at taken
    · rename_i cmd waiting
      cases taken
      exact .away sound nofun (by rw [waiting]; rfl) rfl id
    · rename_i cmd waiting
      cases taken
      exact .away sound nofun (by rw [waiting]; rfl) rfl id
    · cases taken
  | stopDelayOver =>
    dsimp only at taken
    split at taken
    · rename_i cmd delaying
      cases taken
      refine .away sound nofun (by rw [delaying]; rfl) rfl fun starting => ?_
      simp only [fsmFinishCommand] at starting
      rw [(fsmStoppedHandler_frame run.m).1] at starting
      cases starting
    · cases taken
  | _ => cases taken

theorem workStep_starting (sound : StartingSound run) (taken : run.workStep label = some next) :
    StartingStep run label next := by
  have moved : ∀ (m : Modem) (core : Core) (work : HkWork), label ≠ .broadcastHs1 →
      label ≠ .handshakeWake → m.currState = run.m.currState →
      (run.thread.starting = true → m.mdState = .waitingForHs1 ∨ m.mdState = .waitingForHs2) →
      StartingStep run label ({ run with m }.setWork core work) := by
    intro m core work other going state waits
    obtain ⟨sameM, sameThread, -, -⟩ := setWork_frame { run with m } core work
    refine ⟨⟨?_, ?_⟩, fun begun => absurd begun other, fun ended => absurd ended going, fun _ _ => ?_⟩
    · rw [sameM, sameThread]
      exact (by rw [state] : m.currState = .starting ↔ run.m.currState = .starting).trans sound.state
    · rw [sameM, sameThread]
      exact waits
    · rw [sameThread]
  unfold FsmRun.workStep at taken
  cases label with
  | workStart core =>
    simp only [Option.ite_none_right_eq_some, Option.some.injEq] at taken
    obtain ⟨-, rfl⟩ := taken
    refine moved _ core _ nofun nofun (workStart_cores core run.m).1 fun waiting => ?_
    cases core with
    | md => exact .inr rfl
    | ap => exact sound.waits waiting
  | workEvent core =>
    simp only [Option.ite_none_right_eq_some, Option.map_eq_some_iff, Prod.exists] at taken
    obtain ⟨-, event, eventQueue, -, rfl⟩ := taken
    exact moved _ core _ nofun nofun rfl sound.waits
  | workFinish core parsed =>
    simp only [Option.ite_none_right_eq_some, Option.some.injEq] at taken
    obtain ⟨-, rfl⟩ := taken
    have idled := moved run.m core .idle nofun nofun rfl sound.waits
    split
    · cases core with
      | md => exact ⟨⟨idled.sound.state, idled.sound.waits⟩, nofun, nofun, idled.stays⟩
      | ap => exact ⟨⟨idled.sound.state, idled.sound.waits⟩, nofun, nofun, idled.stays⟩
    · exact idled
  | _ => cases taken

theorem step_starting (sound : StartingSound run) (taken : run.step label = some next) :
    StartingStep run label next := by
  unfold FsmRun.step at taken
  cases label with
  | appendCmd cmdId flag | appendEvent event | modeUpdate mode | deviceInt bits =>
    cases taken
    exact .frame sound nofun nofun rfl rfl rfl
  | mhccifIsr =>
    cases taken
    exact .frame sound nofun nofun (mhccifIsrThread_cores run.m).state (mhccifIsrThread_mdState run.m) rfl
  | workStart core | workEvent core | workFinish core parsed => exact workStep_starting sound taken
  | _ => exact threadStep_starting sound taken

end Starting

section Late

variable {s t : LateRun}

theorem WorkOrigin.Sound.keep {origin : WorkOrigin} (sound : origin.Sound s) (boots : t.boots = s.boots)
    (starting : t.run.thread.starting = s.run.thread.starting) : origin.Sound t := by
  refine ⟨boots ▸ sound.1, ?_⟩
  rw [boots, starting]
  exact sound.2

theorem MdHkPc.Sound.keep {pc : MdHkPc} (sound : pc.Sound s) (boots : t.boots = s.boots)
    (starting : t.run.thread.starting = s.run.thread.starting) : pc.Sound t := by
  cases pc with
  | idle => trivial
  | cldmaStart origin => exact WorkOrigin.Sound.keep sound boots starting
  | broadcast origin => exact WorkOrigin.Sound.keep sound boots starting

/-- A step of the state machine keeps an origin sound: a boot that begins is another one, and the
    end of a wait is noted. -/
theorem WorkOrigin.Sound.after {origin : WorkOrigin} {label : FsmLabel} {run : FsmRun}
    (sound : origin.Sound s) (moved : StartingStep s.run label run) :
    (origin.after label).Sound (s.moved label run) := by
  obtain ⟨older, awaited⟩ := sound
  by_cases begun : label = .broadcastHs1
  · have starts := moved.begins begun
    subst begun
    refine ⟨Nat.le_succ_of_le older, ⟨fun waits => ?_, fun ⟨_, same⟩ => ?_⟩⟩
    · have waiting := (awaited.mp waits).1
      rw [starts.1] at waiting
      cases waiting
    · have same : origin.boot = s.boots + 1 := same
      omega
  · have boots : (s.moved label run).boots = s.boots := if_neg begun
    by_cases ended : label = .handshakeWake
    · have idle := moved.ends ended
      subst ended
      refine ⟨older, ⟨nofun, fun ⟨waiting, _⟩ => ?_⟩⟩
      have waiting : run.thread.starting = true := waiting
      rw [idle] at waiting
      cases waiting
    · have unchanged : origin.after label = origin := by
        cases label <;> first | rfl | exact absurd rfl ended
      rw [unchanged]
      exact WorkOrigin.Sound.keep ⟨older, awaited⟩ boots (moved.stays begun ended)

theorem moved_sound {label : FsmLabel} {run : FsmRun} (sound : LateSound s)
    (moved : StartingStep s.run label run) : LateSound (s.moved label run) := by
  refine ⟨moved.sound, ?_, ?_⟩
  · show (if _ then _ else _ : WorkOrigin).Sound _
    split
    · refine ⟨Nat.le_refl (s.moved label run).boots, ⟨fun waiting => ⟨waiting, rfl⟩, fun waiting => ?_⟩⟩
      exact waiting.1
    · exact sound.origin.after moved
  · have pc := sound.pc
    show (s.pc.after label).Sound _
    cases at_ : s.pc with
    | idle => trivial
    | cldmaStart origin =>
      rw [at_] at pc
      exact WorkOrigin.Sound.after pc moved
    | broadcast origin =>
      rw [at_] at pc
      exact WorkOrigin.Sound.after pc moved

theorem lateStep_sound {label : LateLabel} (sound : LateSound s) (taken : s.step label = some t) :
    LateSound t := by
  unfold LateRun.step at taken
  split at taken
  · cases taken
  · obtain ⟨run, stepped, rfl⟩ := Option.map_eq_some_iff.mp taken
    exact moved_sound sound (step_starting sound.starting stepped)
  · split at taken
    · cases taken
      exact ⟨sound.starting.keep rfl rfl rfl, sound.origin.keep rfl rfl, sound.origin.keep rfl rfl⟩
    · cases taken
  · split at taken
    · rename_i origin begun
      cases taken
      have pc := sound.pc
      rw [begun] at pc
      exact ⟨sound.starting, sound.origin.keep rfl rfl, WorkOrigin.Sound.keep pc rfl rfl⟩
    · cases taken
  · split at taken
    · cases taken
      exact ⟨⟨sound.starting.state, fun _ => .inr rfl⟩, sound.origin.keep rfl rfl, trivial⟩
    · cases taken

/-- In time means before the end of the wait that the work was queued in. -/
theorem act_inTime_iff {origin : WorkOrigin} (starting : StartingSound s.run)
    (sound : origin.Sound s) : (s.act origin).InTime ↔ origin.awaited = true := by
  constructor
  · rintro ⟨state, boot, -⟩
    exact sound.2.mpr ⟨starting.state.mp state, boot.symm⟩
  · intro waits
    obtain ⟨waiting, boot⟩ := sound.2.mp waits
    have mdState : s.run.m.mdState ≠ .stopped ∧ s.run.m.mdState ≠ .exception ∧
        s.run.m.mdState ≠ .ready := by
      rcases starting.waits waiting with hs1 | hs2
      · rw [hs1]
        decide
      · rw [hs2]
        decide
    exact ⟨starting.state.mpr waiting, boot.symm, mdState⟩

theorem actions_append (safe : ActionsInTime s) (action : MdHkAction) :
    (∀ made ∈ s.actions ++ [action], made.InTime) ↔ action.InTime := by
  constructor
  · intro all
    exact all action (by simp)
  · intro inTime made member
    rcases List.mem_append.mp member with old | new
    · exact safe made old
    · rw [List.mem_singleton.mp new]
      exact inTime

theorem LateSound.acts {origin : WorkOrigin} (sound : LateSound s) (safe : ActionsInTime s)
    (begun : origin.Sound s) :
    (∀ made ∈ s.actions ++ [s.act origin], made.InTime) ↔ origin.awaited = true :=
  (actions_append safe (s.act origin)).trans (act_inTime_iff sound.starting begun)

theorem LateSound.awaits {origin : WorkOrigin} {pc : WorkOrigin → MdHkPc}
    (injective : ∀ first second, pc first = pc second → first = second) (sound : LateSound s)
    (safe : ActionsInTime s) (begun : origin.Sound s) (at_ : s.pc = pc origin) :
    (∀ made ∈ s.actions ++ [s.act origin], made.InTime) ↔
      ∀ other, s.pc = pc other → other.awaited = true := by
  refine (sound.acts safe begun).trans ⟨fun waits other same => ?_, fun awaited => awaited origin at_⟩
  rw [← injective origin other (at_.symm.trans same)]
  exact waits

theorem lateStep_exact {label : LateLabel} (sound : LateSound s) (safe : ActionsInTime s)
    (taken : s.step label = some t) : ActionsInTime t ↔ WorkAwaited s label := by
  unfold LateRun.step at taken
  split at taken
  · cases taken
  · obtain ⟨run, stepped, rfl⟩ := Option.map_eq_some_iff.mp taken
    exact ⟨fun _ => trivial, fun _ => safe⟩
  · split at taken
    · cases taken
      exact ⟨fun _ => trivial, fun _ => safe⟩
    · cases taken
  · split at taken
    · rename_i origin begun
      cases taken
      have pc := sound.pc
      rw [begun] at pc
      exact sound.awaits (fun _ _ => MdHkPc.cldmaStart.inj) safe pc begun
    · cases taken
  · split at taken
    · rename_i origin begun
      cases taken
      have pc := sound.pc
      rw [begun] at pc
      exact sound.awaits (fun _ _ => MdHkPc.broadcast.inj) safe pc begun
    · cases taken

/-- The MD handshake work starts CLDMA and broadcasts `MD_STATE_WAITING_FOR_HS2` in time exactly in
    the runs where it does both before the `fsm_routine_starting` that it was queued in is over. -/
theorem actions_in_time_iff (dev : PciDev) (labels : List LateLabel) :
    Visits ActionsInTime LateRun.step (LateRun.probed dev) labels ↔
      Obeys WorkAwaited LateRun.step (LateRun.probed dev) labels := by
  have start : LateSound (LateRun.probed dev) :=
    ⟨.outside rfl nofun, ⟨Nat.le_refl 0, nofun, nofun⟩, trivial⟩
  exact visits_iff_obeys LateSound (fun _ _ _ sound _ taken => lateStep_sound sound taken)
    (fun _ _ _ sound safe taken => lateStep_exact sound safe taken) start nofun

/-- A boot whose MD handshake work is queued, then an exception that ends the wait, and a stop. -/
def stoppedBeforeWork : List FsmLabel :=
  bootUpTo D2H_INT_ASYNC_MD_HK ++
    [FsmLabel.deviceInt D2H_INT_EXCEPTION_INIT, .mhccifIsr, .handshakeWake, .dequeue,
      .appendCmd .stop FSM_CMD_FLAG_WAIT_FOR_COMPLETION, .dequeue]

/-- An interrupt after the work has begun queues it again, and the boot completes on its first run. -/
def queuedTwice : List LateLabel :=
  ((bootUpTo D2H_INT_ASYNC_MD_HK).dropLast ++ [FsmLabel.mhccifIsr]).map LateLabel.fsm ++
    [.workTake, .cldmaStart, .fsm (.deviceInt (D2H_INT_ASYNC_MD_HK ||| D2H_INT_ASYNC_AP_HK)),
      .fsm .notifyStart, .broadcast] ++
    (mdHandshake.drop 1 ++ apHandshake ++ [FsmLabel.handshakeWake]).map LateLabel.fsm ++
    [.workTake, .cldmaStart, .broadcast]

/-- The work that runs late moves a stopped modem to `MD_STATE_WAITING_FOR_HS2`, and one that was
    queued twice a modem that is ready. -/
theorem late_work_moves_md_state_back :
    (¬ Visits ActionsInTime LateRun.step (LateRun.probed probedDev)
      (stoppedBeforeWork.map LateLabel.fsm ++ [LateLabel.workTake, .cldmaStart, .broadcast])) ∧
    ¬ Visits ActionsInTime LateRun.step (LateRun.probed probedDev) queuedTwice := by
  constructor
  · decide
  · decide

end Late

end T7xxModel.Fsm
