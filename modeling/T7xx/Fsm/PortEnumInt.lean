import T7xx.Fsm.HandshakeWorks

namespace T7xxModel.Fsm

open Transition Pci

/-- A call of `t7xx_pci_mhccif_isr`: the status it reads, the state it finds, and the commands that
    it appends. -/
structure IsrPass where
  intSta : BitVec 32
  currState : FsmState
  appended : List FsmCommand
deriving DecidableEq, Repr

/-- The state machine with its MHCCIF interrupt thread in steps. -/
structure IntRun where
  run : FsmRun
  isr : IsrThread
  passes : List IsrPass
deriving DecidableEq, Repr

inductive IntLabel where
  | fsm (label : FsmLabel)
  | isrRead
  | isrRun
  | isrAck
deriving DecidableEq, Repr

section Steps

def isrPass (m : Modem) : IsrPass where
  intSta := m.swIntSts &&& D2H_SW_INT_MASK
  currState := m.currState
  appended := (pciMhccifIsr m).commandQueue.drop m.commandQueue.length

def IntRun.nextPass (s : IntRun) : Option IsrPass :=
  match s.isr with
  | .read intStatus => if intStatus &&& D2H_SW_INT_MASK ≠ 0 then some (isrPass s.run.m) else none
  | _ => none

def IntRun.setModem (s : IntRun) (isr : IsrThread) (m : Modem) : IntRun :=
  { s with isr, run := { s.run with m } }

def IntRun.step (s : IntRun) : IntLabel → Option IntRun
  | .fsm .mhccifIsr => none
  | .fsm label => (s.run.step label).map fun run => { s with run }
  | .isrRead => if s.isr = .idle then some { s with isr := .read s.run.m.swIntSts } else none
  | .isrRun =>
    match s.isr with
    | .read intStatus =>
      some { s.setModem (.ran intStatus) (isrRun intStatus s.run.m) with
        passes := s.passes ++ s.nextPass.toList }
    | _ => none
  | .isrAck =>
    match s.isr with
    | .ran intStatus => some (s.setModem .idle (isrAck intStatus s.run.m))
    | _ => none

def IntRun.probed (dev : PciDev) : IntRun := ⟨FsmRun.probed dev, .idle, []⟩

end Steps

section Notifications

def FsmState.Startable (state : FsmState) : Prop :=
  state = .init ∨ state = .preStart ∨ state = .stopped

instance (state : FsmState) : Decidable state.Startable := inferInstanceAs (Decidable (_ ∨ _ ∨ _))

def IsrPass.Notifies (pass : IsrPass) : Prop :=
  pass.intSta &&& D2H_INT_PORT_ENUM ≠ 0 ∧ pass.currState.Startable

instance (pass : IsrPass) : Decidable pass.Notifies := inferInstanceAs (Decidable (_ ∧ _))

def IsrPass.Starts (pass : IsrPass) : Prop := ∃ cmd ∈ pass.appended, cmd.cmdId = .start

instance (pass : IsrPass) : Decidable pass.Starts :=
  inferInstanceAs (Decidable (∃ cmd ∈ pass.appended, cmd.cmdId = .start))

/-- Every boot notification so far has appended a START command. -/
def NotificationsStart (s : IntRun) : Prop := ∀ pass ∈ s.passes, pass.Notifies → pass.Starts

instance (s : IntRun) : Decidable (NotificationsStart s) :=
  inferInstanceAs (Decidable (∀ pass ∈ s.passes, pass.Notifies → pass.Starts))

/-- What `exp_id` holds after a pass has latched the status. -/
def Modem.latched (m : Modem) : BitVec 32 := m.expId ||| (m.swIntSts &&& D2H_SW_INT_MASK)

/-- A pass that reads a boot notification finds no exception, neither latched nor in the status. -/
def NotShadowed (s : IntRun) : IntLabel → Prop
  | .isrRun =>
    ∀ pass ∈ s.nextPass, pass.Notifies → s.run.m.latched &&& D2H_INT_EXCEPTION_INIT = 0
  | _ => True

instance (s : IntRun) (label : IntLabel) : Decidable (NotShadowed s label) := by
  unfold NotShadowed
  split <;> infer_instance

end Notifications

section Passes

variable {m : Modem}

theorem shadowed_starts (raised : m.latched &&& D2H_INT_EXCEPTION_INIT ≠ 0) :
    ¬ (isrPass m).Starts := by
  rintro ⟨cmd, appended, start⟩
  unfold isrPass pciMhccifIsr at appended
  dsimp only at appended
  rw [if_pos (show (m.expId ||| (m.swIntSts &&& D2H_SW_INT_MASK)) &&& D2H_INT_EXCEPTION_INIT ≠ 0
    from raised)] at appended
  split at appended
  · simp only [fsmRecvCcifEx, fsmAppendCmd, List.drop_left, List.mem_singleton] at appended
    rw [appended] at start
    cases start
  · simp only [List.drop_length, List.not_mem_nil] at appended

theorem latched_portEnum (notifies : (isrPass m).Notifies) : m.latched &&& D2H_INT_PORT_ENUM ≠ 0 := by
  have reported := (@and_shift_ne_zero 5 _ (by decide)).mp notifies.1
  apply (@and_shift_ne_zero 5 _ (by decide)).mpr
  unfold Modem.latched
  rw [BitVec.getLsbD_or, show (m.swIntSts &&& D2H_SW_INT_MASK).getLsbD 5 = true from reported,
    Bool.or_true]

theorem notified_starts (notifies : (isrPass m).Notifies)
    (quiet : m.latched &&& D2H_INT_EXCEPTION_INIT = 0) : (isrPass m).Starts := by
  have enumerates := latched_portEnum notifies
  have startable : m.currState = .init ∨ m.currState = .preStart ∨ m.currState = .stopped := notifies.2
  refine ⟨⟨.start, FSM_CMD_FLAG_IN_INTERRUPT⟩, ?_, rfl⟩
  unfold isrPass pciMhccifIsr
  dsimp only
  rw [if_neg (show ¬ (m.expId ||| (m.swIntSts &&& D2H_SW_INT_MASK)) &&& D2H_INT_EXCEPTION_INIT ≠ 0
    from not_not.mpr quiet), if_pos (show (m.expId ||| (m.swIntSts &&& D2H_SW_INT_MASK)) &&&
    D2H_INT_PORT_ENUM ≠ 0 from enumerates), if_pos startable]
  simp only [fsmRecvPortEnum, fsmAppendCmd, List.drop_left, List.mem_singleton]

theorem notification_starts_iff (notifies : (isrPass m).Notifies) :
    (isrPass m).Starts ↔ m.latched &&& D2H_INT_EXCEPTION_INIT = 0 :=
  ⟨fun starts => not_not.mp fun raised => shadowed_starts raised starts, notified_starts notifies⟩

end Passes

section Runs

theorem nextPass_eq {s : IntRun} {pass : IsrPass} (next : pass ∈ s.nextPass) :
    pass = isrPass s.run.m := by
  unfold IntRun.nextPass at next
  split at next
  · split at next
    · exact (Option.some.inj next).symm
    · cases next
  · cases next

theorem intStep_exact (s : IntRun) (label : IntLabel) (t : IntRun) (safe : NotificationsStart s)
    (taken : s.step label = some t) : NotificationsStart t ↔ NotShadowed s label := by
  have same (passes : t.passes = s.passes) : NotificationsStart t := by
    unfold NotificationsStart
    rw [passes]
    exact safe
  unfold IntRun.step at taken
  split at taken
  · cases taken
  · obtain ⟨run, _, rfl⟩ := Option.map_eq_some_iff.mp taken
    exact ⟨fun _ => trivial, fun _ => same rfl⟩
  · split at taken
    · cases taken
      exact ⟨fun _ => trivial, fun _ => same rfl⟩
    · cases taken
  · split at taken
    · cases taken
      show (∀ pass ∈ s.passes ++ s.nextPass.toList, pass.Notifies → pass.Starts) ↔
        ∀ pass ∈ s.nextPass, pass.Notifies → s.run.m.latched &&& D2H_INT_EXCEPTION_INIT = 0
      constructor
      · intro started pass next notifies
        have starts := started pass (List.mem_append_right _ (Option.mem_toList.mpr next)) notifies
        rw [nextPass_eq next] at notifies starts
        exact (notification_starts_iff notifies).mp starts
      · intro quiet pass member notifies
        rcases List.mem_append.mp member with old | new
        · exact safe pass old notifies
        · have next := Option.mem_toList.mp new
          have clear := quiet pass next notifies
          rw [nextPass_eq next] at notifies ⊢
          exact (notification_starts_iff notifies).mpr clear
    · cases taken
  · split at taken
    · cases taken
      exact ⟨fun _ => trivial, fun _ => same rfl⟩
    · cases taken

/-- Every boot notification appends a START command exactly in the runs where none is read together
    with an exception, or while one is latched. -/
theorem notifications_start_iff (dev : PciDev) (labels : List IntLabel) :
    Visits NotificationsStart IntRun.step (IntRun.probed dev) labels ↔
      Obeys NotShadowed IntRun.step (IntRun.probed dev) labels :=
  visits_iff_obeys (fun _ => True) (fun _ _ _ _ _ _ => trivial)
    (fun s label t _ safe taken => intStep_exact s label t safe taken) trivial nofun

def intPass (bits : BitVec 32) : List IntLabel :=
  [.fsm (.deviceInt bits), .isrRead, .isrRun, .isrAck]

def intLabels : FsmLabel → List IntLabel
  | .mhccifIsr => [.isrRead, .isrRun, .isrAck]
  | label => [.fsm label]

/-- The device raises an exception after its modem was stopped, then boots. -/
theorem exception_when_stopped_shadows_boot :
    ¬ Visits NotificationsStart IntRun.step (IntRun.probed probedDev)
      (firstBoot.flatMap intLabels ++ [IntLabel.fsm (.appendCmd .stop 0), .fsm .dequeue] ++
        intPass D2H_INT_EXCEPTION_INIT ++ intPass D2H_INT_PORT_ENUM) := by
  decide

end Runs

end T7xxModel.Fsm
