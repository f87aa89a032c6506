import T7xx.Pci.PowerManagement
import T7xx.Transition.Runs

namespace T7xxModel.Pci

def Action.loud : Action → Bool
  | .pmRequest _ _ => true
  | .reprobeEarly => true
  | _ => false

/-- A call changed neither the reprobe counter, the sleep lock nor the loud part of the trace. -/
structure Quiet (before after : PciDev) : Prop where
  count : after.resumeReprobeCount = before.resumeReprobeCount
  lock : SameSleepLock before after
  actions : ∀ action, action.loud → (action ∈ after.actions ↔ action ∈ before.actions)

theorem Quiet.refl (dev : PciDev) : Quiet dev dev := ⟨rfl, .refl dev, fun _ _ => Iff.rfl⟩

theorem Quiet.trans {first second third : PciDev} (left : Quiet first second)
    (right : Quiet second third) : Quiet first third := by
  refine ⟨right.count.trans left.count, left.lock.trans right.lock, fun action loud => ?_⟩
  exact (right.actions action loud).trans (left.actions action loud)

theorem Quiet.act {before after : PciDev} (quiet : Quiet before after) (action : Action)
    (silent : action.loud = false) : Quiet before (after.act action) := by
  refine ⟨quiet.count, ⟨quiet.lock.count, quiet.lock.register⟩, fun other loud => ?_⟩
  have different : other ≠ action := by
    rintro rfl
    rw [silent] at loud
    cases loud
  simp [different, quiet.actions other loud]

theorem Quiet.setPmState {before after : PciDev} (quiet : Quiet before after) (state : PmState) :
    Quiet before (after.setPmState state) :=
  ⟨quiet.count, ⟨quiet.lock.count, quiet.lock.register⟩, quiet.actions⟩

theorem Quiet.setRgu {before after : PciDev} (quiet : Quiet before after) (enabled : Bool) :
    Quiet before (after.setRgu enabled) :=
  ⟨quiet.count, ⟨quiet.lock.count, quiet.lock.register⟩, quiet.actions⟩

theorem pcieReinit_quiet (answers : ResumeAnswers) (isD3 : Bool) (dev : PciDev) :
    Quiet dev (pcieReinit answers isD3 dev).1 := by
  have enabled : Quiet dev (dev.act .enableDevice) := (Quiet.refl dev).act _ rfl
  unfold pcieReinit
  split
  · exact enabled
  · have interrupts := ((((enabled.act .macAtrInit rfl).act .macMsixCfg rfl).act
      (.imaskHostMsixClr) rfl).act .macInterruptsEn rfl).act
      (.macSetInt .mhccif) rfl
    split
    · exact ((((interrupts.act .mhccifInit rfl).setPmState .init).act _ rfl).act _ rfl).act _ rfl
    · exact interrupts

theorem sendFsmCommand_quiet (answers : ResumeAnswers) (cmd : FsmCmd) (dev : PciDev) :
    Quiet dev (sendFsmCommand answers cmd dev).1 := by
  cases cmd with
  | start =>
    have cleared := ((Quiet.refl dev).act (.macClearInt .sapRgu) rfl).act
      (.macClearIntStatus .sapRgu) rfl
    exact ((cleared.setRgu true).act (.macSetInt .sapRgu) rfl).act _ rfl
  | stop => exact (Quiet.refl dev).act _ rfl

theorem pciReprobe_quiet (answers : ResumeAnswers) (boot : Bool) (dev : PciDev) :
    Quiet dev (pciReprobe answers boot dev).1 := by
  have reinit := ((Quiet.refl dev).act (.reprobe boot) rfl).trans
    (pcieReinit_quiet answers boot (dev.act (.reprobe boot)))
  unfold pciReprobe
  dsimp only
  split
  · exact reinit
  · exact (reinit.act .clearRguIrq rfl).trans (sendFsmCommand_quiet answers .start _)

theorem reprobeDevice_starts (answers : ResumeAnswers) (dev : PciDev) :
    Quiet (dev.act .reprobeEarly) (reprobeDevice answers dev).1 := by
  have early : Quiet (dev.act .reprobeEarly) (pciReprobeEarly answers dev).1 := by
    unfold pciReprobeEarly
    dsimp only
    split
    · exact ((Quiet.refl _).act .runtimePutNoidle rfl).trans
        (sendFsmCommand_quiet answers .stop _)
    · exact sendFsmCommand_quiet answers .stop _
  unfold reprobeDevice
  dsimp only
  split
  · exact early
  · exact early.trans (pciReprobe_quiet answers true _)

theorem entityFold_quiet (wanted : PmEntity → Bool) (callback : PmCallback)
    (entities : List PmEntity) (dev : PciDev) :
    Quiet dev (entities.foldl (fun dev entity =>
      if wanted entity then dev.act (.entityCall callback entity.id) else dev) dev) := by
  induction entities generalizing dev with
  | nil => exact Quiet.refl dev
  | cons entity rest ih =>
    simp only [List.foldl_cons]
    refine Quiet.trans ?_ (ih _)
    split
    · exact (Quiet.refl dev).act _ rfl
    · exact Quiet.refl dev

theorem resumeEntities_quiet (answer : PmId → Int) (entities : List PmEntity) (dev : PciDev)
    (ret : Int) : Quiet dev (resumeEntities answer entities (dev, ret)).1 := by
  induction entities generalizing dev ret with
  | nil => exact Quiet.refl dev
  | cons entity rest ih =>
    unfold resumeEntities
    split
    · exact ((Quiet.refl dev).act _ rfl).trans (ih _ _)
    · exact ih _ _

/-- A call left the reprobe counter at `count` and added exactly these loud actions. -/
structure Leaves (count : Nat) (added : List Action) (before after : PciDev) : Prop where
  count : after.resumeReprobeCount = count
  actions : ∀ action, action.loud → (action ∈ after.actions ↔ action ∈ before.actions ∨ action ∈ added)

theorem Leaves.of_quiet {before after : PciDev} (quiet : Quiet before after) :
    Leaves before.resumeReprobeCount [] before after := by
  refine ⟨quiet.count, fun action loud => ?_⟩
  simpa using quiet.actions action loud

theorem Leaves.after_quiet {count : Nat} {added : List Action} {before middle after : PciDev}
    (leaves : Leaves count added before middle) (quiet : Quiet middle after) :
    Leaves count added before after := by
  refine ⟨quiet.count.trans leaves.count, fun action loud => ?_⟩
  exact (quiet.actions action loud).trans (leaves.actions action loud)

theorem Leaves.before_quiet {count : Nat} {added : List Action} {before middle after : PciDev}
    (leaves : Leaves count added middle after) (quiet : Quiet before middle) :
    Leaves count added before after := by
  refine ⟨leaves.count, fun action loud => ?_⟩
  rw [leaves.actions action loud, quiet.actions action loud]

theorem Leaves.act {count : Nat} {added : List Action} {before after : PciDev}
    (leaves : Leaves count added before after) (action : Action) :
    Leaves count (added ++ [action]) before (after.act action) := by
  refine ⟨leaves.count, fun other loud => ?_⟩
  have old := leaves.actions other loud
  simp only [act_actions, List.mem_append, old, or_assoc]

theorem Leaves.setCount {count : Nat} {added : List Action} {before after : PciDev}
    (leaves : Leaves count added before after) (next : Nat) :
    Leaves next added before (after.setReprobeCount next) :=
  ⟨rfl, leaves.actions⟩

theorem Leaves.append {count next : Nat} {added more : List Action} {before middle after : PciDev}
    (first : Leaves count added before middle) (second : Leaves next more middle after) :
    Leaves next (added ++ more) before after := by
  refine ⟨second.count, fun action loud => ?_⟩
  rw [second.actions action loud, first.actions action loud, List.mem_append, or_assoc]

theorem resumeTail_leaves (answers : ResumeAnswers) (dev : PciDev) :
    Leaves 0 [] dev (resumeTail answers dev).1 := by
  have entities := resumeEntities_quiet answers.entityResume dev.mdPmEntities dev 0
  have quiet := ((((entities.setRgu true).act (.macSetInt .sapRgu) rfl).act
    (.aspmLowpwr true) rfl).act .runtimeMarkLastBusy rfl).setPmState .resumed
  exact (Leaves.of_quiet quiet).setCount 0

/-- What the handshake part of a resume leaves in the counter and in the trace. -/
def handshakeVerdict (answers : ResumeAnswers) (count : Nat) : Nat × List Action :=
  if answers.resumeAck = false then
    if count ≥ maxResumeReprobeAttempts then (count, [.pmRequest .resumeReq false])
    else (count + 1, [.pmRequest .resumeReq false, .reprobeEarly])
  else if answers.resumeAckAp = false then
    if answers.resumeState = PM_RESUME_REG_STATE_INIT ∧ count < maxResumeReprobeAttempts then
      (count + 1, [.pmRequest .resumeReq true, .pmRequest .resumeReqAp false, .reprobeEarly])
    else (0, [.pmRequest .resumeReq true, .pmRequest .resumeReqAp false])
  else (0, [.pmRequest .resumeReq true, .pmRequest .resumeReqAp true])

theorem resumeRequests_leaves (answers : ResumeAnswers) (dev : PciDev) :
    Leaves (handshakeVerdict answers dev.resumeReprobeCount).1
      (handshakeVerdict answers dev.resumeReprobeCount).2 dev (resumeRequests answers dev).1 := by
  have start := Leaves.of_quiet (Quiet.refl dev)
  cases acked : answers.resumeAck with
  | false =>
    have requested := start.act (.pmRequest .resumeReq false)
    by_cases capped : dev.resumeReprobeCount ≥ maxResumeReprobeAttempts
    · simpa [resumeRequests, sendPmRequest, handshakeVerdict, acked, capped, ETIMEDOUT] using requested
    · have started := ((requested.setCount (dev.resumeReprobeCount + 1)).act .reprobeEarly).after_quiet
        (reprobeDevice_starts answers _)
      simpa [resumeRequests, sendPmRequest, handshakeVerdict, acked, capped, ETIMEDOUT] using started
  | true =>
    have requested := start.act (.pmRequest .resumeReq true)
    cases ackedAp : answers.resumeAckAp with
    | false =>
      have timedOut := requested.act (.pmRequest .resumeReqAp false)
      by_cases rebooted : answers.resumeState = PM_RESUME_REG_STATE_INIT ∧
          dev.resumeReprobeCount < maxResumeReprobeAttempts
      · have started := ((timedOut.setCount (dev.resumeReprobeCount + 1)).act .reprobeEarly).after_quiet
          (reprobeDevice_starts answers _)
        simpa [resumeRequests, sendPmRequest, handshakeVerdict, acked, ackedAp, rebooted, ETIMEDOUT]
          using started
      · have finished := timedOut.append (resumeTail_leaves answers _)
        simpa [resumeRequests, sendPmRequest, handshakeVerdict, acked, ackedAp, rebooted, ETIMEDOUT]
          using finished
    | true =>
      have answered := requested.act (.pmRequest .resumeReqAp true)
      have finished := answered.append (resumeTail_leaves answers _)
      simpa [resumeRequests, sendPmRequest, handshakeVerdict, acked, ackedAp] using finished

theorem resumeHandshake_leaves (answers : ResumeAnswers) (dev : PciDev) :
    Leaves (handshakeVerdict answers dev.resumeReprobeCount).1
      (handshakeVerdict answers dev.resumeReprobeCount).2 dev (resumeHandshake answers dev).1 := by
  have early : Quiet dev (resumeEarlyEntities dev.mdPmEntities
      ((dev.act (.aspmLowpwr false)).act .waitPmConfig)) :=
    (((Quiet.refl dev).act (.aspmLowpwr false) rfl).act .waitPmConfig rfl).trans
      (entityFold_quiet _ .resumeEarly dev.mdPmEntities _)
  have requests := resumeRequests_leaves answers (resumeEarlyEntities dev.mdPmEntities
    ((dev.act (.aspmLowpwr false)).act .waitPmConfig))
  rw [early.count] at requests
  exact requests.before_quiet early

theorem resumeException_quiet (answers : ResumeAnswers) (dev : PciDev) :
    Quiet dev (resumeException answers dev).1 := by
  have settled : ∀ before : PciDev, Quiet dev before →
      Quiet dev ((((before.setPmState .suspended).setRgu true).act
        (.macSetInt .sapRgu)).act (.mhccifMaskClr (D2H_INT_EXCEPTION_INIT ||| D2H_INT_EXCEPTION_INIT_DONE |||
        D2H_INT_EXCEPTION_CLEARQ_DONE ||| D2H_INT_EXCEPTION_ALLQ_RESET ||| D2H_INT_PORT_ENUM))) :=
    fun before quiet => (((quiet.setPmState .suspended).setRgu true).act _ rfl).act _ rfl
  unfold resumeException
  by_cases l2 : answers.resumeState = PM_RESUME_REG_STATE_L2_EXP
  · have reinit := pcieReinit_quiet answers false dev
    simp only [l2, if_true]
    split
    · exact reinit
    · exact settled _ reinit
  · simp only [l2, if_false, ne_eq, not_true_eq_false]
    exact settled dev (Quiet.refl dev)

theorem resumeUnknown_quiet (answers : ResumeAnswers) (dev : PciDev) :
    Quiet dev (resumeUnknown answers dev).1 := by
  have stopped := sendFsmCommand_quiet answers .stop dev
  unfold resumeUnknown
  dsimp only
  split
  · exact stopped
  · exact (stopped.act _ rfl).setPmState .suspended

def reachesHandshake (answers : ResumeAnswers) (stateCheck : Bool) (dev : PciDev) : Prop :=
  ¬ dev.mdPmState.value ≤ PmState.init.value ∧
    (stateCheck = true →
      answers.resumeState = PM_RESUME_REG_STATE_L1 ∨
      (answers.resumeState = PM_RESUME_REG_STATE_L2 ∧ answers.enableDevice = 0) ∨
      (answers.resumeState = PM_RESUME_REG_STATE_INIT ∧
        ¬ (answers.atr = ATR_SRC_ADDR_INVALID ∨ answers.atr = 0)))

instance (answers : ResumeAnswers) (stateCheck : Bool) (dev : PciDev) :
    Decidable (reachesHandshake answers stateCheck dev) := by
  unfold reachesHandshake
  infer_instance

/-- A state that is known and not lost is L1 or the initial one with a valid address. -/
theorem reaches_of_known {answers : ResumeAnswers} {stateCheck : Bool} {dev : PciDev}
    (awake : ¬ dev.mdPmState.value ≤ PmState.init.value)
    (lost : ¬ (answers.resumeState = PM_RESUME_REG_STATE_L3 ∨
      (answers.resumeState = PM_RESUME_REG_STATE_INIT ∧
        (answers.atr = ATR_SRC_ADDR_INVALID ∨ answers.atr = 0))))
    (unknown : ¬ (answers.resumeState ≠ PM_RESUME_REG_STATE_L1 ∧
      answers.resumeState ≠ PM_RESUME_REG_STATE_INIT)) :
    reachesHandshake answers stateCheck dev := by
  refine ⟨awake, fun _ => ?_⟩
  by_cases l1 : answers.resumeState = PM_RESUME_REG_STATE_L1
  · exact .inl l1
  · have init : answers.resumeState = PM_RESUME_REG_STATE_INIT := by
      by_contra other
      exact unknown ⟨l1, other⟩
    exact .inr (.inr ⟨init, fun invalid => lost (.inr ⟨init, invalid⟩)⟩)

theorem pciPmResume_handshake (answers : ResumeAnswers) (stateCheck : Bool) (dev : PciDev)
    (reached : reachesHandshake answers stateCheck dev) :
    Leaves (handshakeVerdict answers dev.resumeReprobeCount).1
      (handshakeVerdict answers dev.resumeReprobeCount).2 dev (pciPmResume answers stateCheck dev).1 := by
  obtain ⟨awake, checked⟩ := reached
  have enabled : Quiet dev (dev.act .macInterruptsEn) := (Quiet.refl dev).act _ rfl
  have plain := (resumeHandshake_leaves answers (dev.act .macInterruptsEn)).before_quiet enabled
  unfold pciPmResume
  rw [if_neg awake]
  cases stateCheck with
  | false => exact plain
  | true =>
    rcases checked rfl with l1 | ⟨l2, working⟩ | ⟨init, valid⟩
    · simpa [l1, PM_RESUME_REG_STATE_L1, PM_RESUME_REG_STATE_L3, PM_RESUME_REG_STATE_INIT,
        PM_RESUME_REG_STATE_EXP, PM_RESUME_REG_STATE_L2_EXP, PM_RESUME_REG_STATE_L2] using plain
    · have reinit := enabled.trans (pcieReinit_quiet answers false (dev.act .macInterruptsEn))
      have handshake := (resumeHandshake_leaves answers
        (pcieReinit answers false (dev.act .macInterruptsEn)).1).before_quiet reinit
      rw [reinit.count] at handshake
      have done : (pcieReinit answers false (dev.act .macInterruptsEn)).2 = 0 := by
        simp [pcieReinit, working]
      simpa [l2, done, PM_RESUME_REG_STATE_L1, PM_RESUME_REG_STATE_L3, PM_RESUME_REG_STATE_INIT,
        PM_RESUME_REG_STATE_EXP, PM_RESUME_REG_STATE_L2_EXP, PM_RESUME_REG_STATE_L2] using handshake
    · obtain ⟨address, nonzero⟩ := not_or.mp valid
      have nonzero : answers.atr ≠ 0#32 := nonzero
      simpa [init, address, nonzero, PM_RESUME_REG_STATE_L1, PM_RESUME_REG_STATE_L3, PM_RESUME_REG_STATE_INIT,
        PM_RESUME_REG_STATE_EXP, PM_RESUME_REG_STATE_L2_EXP, PM_RESUME_REG_STATE_L2] using plain

theorem pciPmResume_no_handshake (answers : ResumeAnswers) (stateCheck : Bool) (dev : PciDev)
    (unreached : ¬ reachesHandshake answers stateCheck dev) :
    ∃ added, (∀ channel acked, Action.pmRequest channel acked ∉ added) ∧
      Leaves dev.resumeReprobeCount added dev (pciPmResume answers stateCheck dev).1 := by
  have enabled : Quiet dev (dev.act .macInterruptsEn) := (Quiet.refl dev).act _ rfl
  unfold pciPmResume
  by_cases asleep : dev.mdPmState.value ≤ PmState.init.value
  · rw [if_pos asleep]
    exact ⟨[], by simp, Leaves.of_quiet ((Quiet.refl dev).act _ rfl)⟩
  · rw [if_neg asleep]
    have checked : stateCheck = true := by
      by_contra unchecked
      exact unreached ⟨asleep, fun checked => absurd checked unchecked⟩
    subst checked
    simp only [if_true]
    split_ifs with lost exception l2 worked unknown
    · have started := ((Leaves.of_quiet enabled).act .reprobeEarly).after_quiet
        (reprobeDevice_starts answers _)
      exact ⟨[.reprobeEarly], by simp, started⟩
    · exact ⟨[], by simp, Leaves.of_quiet (enabled.trans (resumeException_quiet answers _))⟩
    · exact ⟨[], by simp, Leaves.of_quiet (enabled.trans (pcieReinit_quiet answers false _))⟩
    · have working : answers.enableDevice = 0 := by
        by_contra broken
        simp [pcieReinit, broken] at worked
      exact absurd ⟨asleep, fun _ => .inr (.inl ⟨l2, working⟩)⟩ unreached
    · exact ⟨[], by simp, Leaves.of_quiet (enabled.trans (resumeUnknown_quiet answers _))⟩
    · exact absurd (reaches_of_known asleep lost unknown) unreached

end T7xxModel.Pci
