import T7xx.Fsm.PmCalls

namespace T7xxModel.Fsm

open Pci Transition

/-- A reprobe with all its resources has appended a START command when the resume returns. -/
def ReprobesStart (s : PmRun) : Prop := ∀ reprobe ∈ s.reprobes, reprobe.resources = true → reprobe.started = true

instance (s : PmRun) : Decidable (ReprobesStart s) :=
  inferInstanceAs (Decidable (∀ reprobe ∈ s.reprobes, _))

def StopFate.Honoured : StopFate → Prop
  | .handled currState => currState ≠ .stopped
  | _ => False

instance (fate : StopFate) : Decidable fate.Honoured := by
  unfold StopFate.Honoured
  split <;> infer_instance

/-- When the wait of a reprobe ends, the FSM thread has taken the STOP command out of the queue in
    another state than `FSM_STATE_STOPPED`, and has finished it. -/
def StopHonoured (s : PmRun) : PmLabel → Prop
  | .stopWaitOver =>
    match s.pm with
    | .stopWait _ .reprobe fate => fate.Honoured
    | _ => True
  | _ => True

instance (s : PmRun) (label : PmLabel) : Decidable (StopHonoured s label) := by
  unfold StopHonoured
  split
  · split <;> infer_instance
  · infer_instance

section Starting

variable {s t : PmRun} {label : PmLabel}

theorem fate_ret_iff (fate : StopFate) : fate.ret = 0 ↔ fate.Honoured := by
  cases fate with
  | queued ahead => exact ⟨nofun, nofun⟩
  | taken currState => exact ⟨nofun, nofun⟩
  | flushed => exact ⟨nofun, nofun⟩
  | handled currState =>
    unfold StopFate.ret stopResult StopFate.Honoured
    dsimp only
    by_cases stopped : currState = .stopped
    · rw [if_pos stopped]
      exact ⟨nofun, fun other => absurd stopped other⟩
    · rw [if_neg stopped]
      exact ⟨fun _ => stopped, fun _ => rfl⟩

theorem finish_starts (safe : ReprobesStart s) (reason : StopReason) (resources started : Bool) :
    ReprobesStart (s.finish reason resources started) ↔
      (reason = .reprobe → resources = true → started = true) := by
  unfold ReprobesStart PmRun.finish
  dsimp only
  split
  · rename_i reprobe
    constructor
    · intro all _
      exact all ⟨resources, started⟩ (List.mem_append_right _ List.mem_cons_self)
    · intro own other member
      rcases List.mem_append.mp member with before | new
      · exact safe other before
      · obtain rfl := List.mem_singleton.mp new
        exact own reprobe
  · rename_i other
    exact ⟨fun _ reprobe => absurd reprobe other, fun _ => safe⟩

theorem resumeStep_reprobes (answers : ResumeAnswers) (stateCheck : Bool) :
    (s.resumeStep answers stateCheck).reprobes = s.reprobes := by
  unfold PmRun.resumeStep
  dsimp only
  split
  · rfl
  · rfl
  · rfl
  · rfl
  · split_ifs <;> rfl

theorem requestsStep_reprobes (answers : ResumeAnswers) :
    (s.requestsStep answers).reprobes = s.reprobes := by
  unfold PmRun.requestsStep
  dsimp only
  split_ifs <;> rfl

theorem startStep_exact (safe : ReprobesStart s) (taken : s.step label = some t) :
    ReprobesStart t ↔ StopHonoured s label := by
  unfold PmRun.step at taken
  split at taken
  · obtain ⟨run, stepped, rfl⟩ := Option.map_eq_some_iff.mp taken
    exact ⟨fun _ => trivial, fun _ => safe⟩
  · cases taken
    exact ⟨fun _ => trivial, fun _ => safe⟩
  · cases taken
    refine ⟨fun _ => trivial, fun _ => ?_⟩
    unfold PmRun.suspendStep
    dsimp only
    split <;> exact safe
  · cases taken
    exact ⟨fun _ => trivial, fun _ => safe⟩
  · cases taken
    refine ⟨fun _ => trivial, fun _ => ?_⟩
    unfold ReprobesStart
    rw [resumeStep_reprobes]
    exact safe
  · cases taken
    exact ⟨fun _ => trivial, fun _ => safe⟩
  · cases taken
    refine ⟨fun _ => trivial, fun _ => ?_⟩
    unfold ReprobesStart
    rw [requestsStep_reprobes]
    exact safe
  · cases taken
    refine ⟨fun _ => trivial, fun _ => ?_⟩
    unfold PmRun.sendStopStep
    dsimp only
    split
    · exact safe
    · exact (finish_starts (by exact safe) _ _ _).mpr nofun
  · cases taken
    exact ⟨fun _ => trivial, fun _ => safe⟩
  · rename_i answers reason fate waiting
    cases taken
    unfold PmRun.stopWaitStep StopHonoured
    dsimp only
    rw [waiting]
    by_cases honoured : fate.ret = 0
    · rw [if_neg (not_not.mpr honoured)]
      have heard := (fate_ret_iff fate).mp honoured
      cases reason with
      | reprobe => exact ⟨fun _ => heard, fun _ => safe⟩
      | unknownState =>
        exact ⟨fun _ => trivial, fun _ => (finish_starts (by exact safe) _ _ _).mpr nofun⟩
    · rw [if_pos honoured, finish_starts safe]
      cases reason with
      | reprobe =>
        constructor
        · intro started
          exact absurd (started rfl rfl) Bool.false_ne_true
        · intro heard
          exact absurd ((fate_ret_iff fate).mpr heard) honoured
      | unknownState => exact ⟨fun _ => trivial, fun _ => nofun⟩
  · cases taken
    refine ⟨fun _ => trivial, fun _ => ?_⟩
    unfold PmRun.reprobeStep
    dsimp only
    split_ifs
    · exact (finish_starts (by exact safe) _ _ _).mpr nofun
    · exact (finish_starts (by exact safe) _ _ _).mpr fun _ _ => rfl
    · exact (finish_starts (by exact safe) _ _ _).mpr nofun
  · cases taken

/-- Whatever state the FSM is in, every reprobe of a run starts it again exactly if each of their STOP
    commands is taken in another state than `FSM_STATE_STOPPED` and finished in time. -/
theorem reprobe_starts_iff_stop_honoured (run : FsmRun) (labels : List PmLabel) :
    Visits ReprobesStart PmRun.step ⟨run, .idle, []⟩ labels ↔
      Obeys StopHonoured PmRun.step ⟨run, .idle, []⟩ labels :=
  visits_iff_obeys (fun _ => True) (fun _ _ _ _ _ _ => trivial)
    (fun _ _ _ _ safe taken => startStep_exact safe taken) trivial
    fun _ member => absurd member List.not_mem_nil

/-- The first resume stops the FSM, the second finds the device in L3. -/
def unknownThenL3 : List PmLabel :=
  resumedUnknown ++ suspendAcked ++
    [resumeFrom PM_RESUME_REG_STATE_L3, .sendStop true, .fsm .dequeue, .stopFinished, .stopWaitOver]

theorem reprobe_of_stopped_fsm_does_not_start :
    ¬ Visits ReprobesStart PmRun.step ⟨FsmRun.probed probedDev, .idle, []⟩
      (firstBoot.map .fsm ++ unknownThenL3) := by
  decide

end Starting

end T7xxModel.Fsm
