import T7xx.Pci.SleepLockRuns

namespace T7xxModel.Pci

open Transition

/-- The channels on which PM requests go to the MD, and those on which they go to the SAP. -/
def Channel.toMd : Channel → Bool
  | .suspendReq | .resumeReq => true
  | _ => false

def Channel.toSap : Channel → Bool
  | .suspendReqAp | .resumeReqAp => true
  | _ => false

def Action.request (party : Channel → Bool) : Action → Option Channel
  | .pmRequest channel _ => if party channel then some channel else none
  | _ => none

def lastRequest (party : Channel → Bool) (actions : List Action) : Option Channel :=
  (actions.filterMap (·.request party)).getLast?

/-- The device between two calls, with the last request to each party since the last boot. -/
structure ToldRun where
  dev : PciDev
  lastMd : Option Channel
  lastSap : Option Channel

inductive ToldEvent where
  | suspend (answers : SuspendAnswers)
  | resume (answers : ResumeAnswers) (stateCheck : Bool)
  | initLate
  | expDetected
  | modeUpdate (mode : Mode)
  | reprobeEarly (answers : ResumeAnswers)
  | reprobe (answers : ResumeAnswers) (boot : Bool)

section Steps

def PciDev.fresh (dev : PciDev) : PciDev := { dev with actions := [] }

def ToldRun.called (s : ToldRun) (dev : PciDev) : ToldRun where
  dev := dev
  lastMd := (lastRequest Channel.toMd dev.actions).or s.lastMd
  lastSap := (lastRequest Channel.toSap dev.actions).or s.lastSap

def ToldRun.step (s : ToldRun) : ToldEvent → Option ToldRun
  | .suspend answers => some (s.called (pciPmSuspend answers s.dev.fresh).1)
  | .resume answers stateCheck => some (s.called (pciPmResume answers stateCheck s.dev.fresh).1)
  | .initLate => some ⟨pciPmInitLate s.dev.fresh, none, none⟩
  | .expDetected => some (s.called (pciPmExpDetected s.dev.fresh))
  | .modeUpdate mode => some (s.called { s.dev.fresh with mode })
  | .reprobeEarly answers => some (s.called (pciReprobeEarly answers s.dev.fresh).1)
  | .reprobe answers boot => some (s.called (pciReprobe answers boot s.dev.fresh).1)

/-- A modem that the driver takes to be resumed was not told last to suspend. -/
def ToldToResume (s : ToldRun) : Prop :=
  s.dev.mdPmState = .resumed → s.lastMd ≠ some .suspendReq ∧ s.lastSap ≠ some .suspendReqAp

instance (s : ToldRun) : Decidable (ToldToResume s) :=
  inferInstanceAs (Decidable (_ → _ ∧ _))

def SuspendRefused (dev : PciDev) : Prop :=
  dev.mdPmState.value ≤ PmState.init.value ∨ dev.mode ≠ .ready

instance (dev : PciDev) : Decidable (SuspendRefused dev) := inferInstanceAs (Decidable (_ ∨ _))

def CallbacksSucceed (answers : SuspendAnswers) (entities : List PmEntity) : Prop :=
  ∀ entity ∈ entities, entity.suspend = true → answers.entitySuspend entity.id = 0

instance (answers : SuspendAnswers) (entities : List PmEntity) :
    Decidable (CallbacksSucceed answers entities) :=
  inferInstanceAs (Decidable (∀ entity ∈ entities, _))

/-- A suspend that is not refused gets an answer from the MD; one whose callbacks fail finds that
    neither party was told last to suspend. -/
def SuspendHeard (s : ToldRun) : ToldEvent → Prop
  | .suspend answers =>
    SuspendRefused s.dev ∨
      if CallbacksSucceed answers s.dev.mdPmEntities then answers.suspendAck = true
      else s.lastMd ≠ some .suspendReq ∧ s.lastSap ≠ some .suspendReqAp
  | _ => True

instance (s : ToldRun) (event : ToldEvent) : Decidable (SuspendHeard s event) := by
  unfold SuspendHeard
  split <;> infer_instance

end Steps

section Requests

variable {party : Channel → Bool} {actions : List Action} {channel : Channel}

theorem mem_requests :
    channel ∈ actions.filterMap (·.request party) ↔
      party channel = true ∧ ∃ acked, Action.pmRequest channel acked ∈ actions := by
  rw [List.mem_filterMap]
  constructor
  · rintro ⟨action, member, sent⟩
    unfold Action.request at sent
    split at sent
    · rename_i other acked
      split at sent
      · rename_i named
        cases sent
        exact ⟨named, acked, member⟩
      · cases sent
    · cases sent
  · rintro ⟨named, acked, member⟩
    exact ⟨_, member, if_pos named⟩

/-- If all requests to a party were on one channel, the last one was. -/
theorem lastRequest_only (named : party channel = true)
    (sent : ∃ acked, Action.pmRequest channel acked ∈ actions)
    (only : ∀ other acked, Action.pmRequest other acked ∈ actions → party other = true → other = channel) :
    lastRequest party actions = some channel := by
  have some_request : actions.filterMap (·.request party) ≠ [] :=
    List.ne_nil_of_mem (mem_requests.mpr ⟨named, sent⟩)
  obtain ⟨last, found⟩ := Option.ne_none_iff_exists'.mp (mt List.getLast?_eq_none_iff.mp some_request)
  have member : last ∈ actions.filterMap (·.request party) := List.mem_of_getLast? found
  obtain ⟨toParty, acked, request⟩ := mem_requests.mp member
  rw [lastRequest, found, only last acked request toParty]

theorem lastRequest_none
    (silent : ∀ other acked, Action.pmRequest other acked ∈ actions → party other = false) :
    lastRequest party actions = none := by
  have none_sent : actions.filterMap (·.request party) = [] := by
    refine List.eq_nil_iff_forall_not_mem.mpr fun other member => ?_
    obtain ⟨toParty, acked, request⟩ := mem_requests.mp member
    exact absurd ((silent other acked request).symm.trans toParty) Bool.false_ne_true
  rw [lastRequest, none_sent]
  rfl

/-- Requests that are no `channel` leave a party that was not told `channel` last untold. -/
theorem lastRequest_or_ne {before : Option Channel} (untold : before ≠ some channel)
    (never : ∀ acked, Action.pmRequest channel acked ∉ actions) :
    (lastRequest party actions).or before ≠ some channel := by
  cases found : lastRequest party actions with
  | none => exact untold
  | some last =>
    rintro told
    obtain rfl := Option.some.inj told
    obtain ⟨_, acked, request⟩ := mem_requests.mp (List.mem_of_getLast? found)
    exact never acked request

end Requests

section Calls

variable {answers : SuspendAnswers} {dev : PciDev}

theorem suspendEntities_spec (answers : SuspendAnswers) (entities : List PmEntity) (dev : PciDev) :
    Quiet dev (suspendEntities answers.entitySuspend entities dev).1 ∧
      (suspendEntities answers.entitySuspend entities dev).1.mdPmState = dev.mdPmState ∧
      ((suspendEntities answers.entitySuspend entities dev).2.1 = 0 ↔
        CallbacksSucceed answers entities) := by
  induction entities generalizing dev with
  | nil => exact ⟨.refl dev, rfl, fun _ _ member => absurd member List.not_mem_nil, fun _ => rfl⟩
  | cons entity rest ih =>
    unfold suspendEntities CallbacksSucceed
    rw [List.forall_mem_cons]
    dsimp only
    split
    · rename_i none
      obtain ⟨quiet, state, ret⟩ := ih dev
      refine ⟨quiet, state, ret.trans ⟨fun others => ⟨fun callback => ?_, others⟩, And.right⟩⟩
      rw [callback] at none
      cases none
    · rename_i callback
      have callback : entity.suspend = true := by simpa using callback
      split
      · rename_i failed
        exact ⟨(Quiet.refl dev).act _ rfl, rfl, fun good => absurd good failed,
          fun all => all.1 callback⟩
      · rename_i good
        obtain ⟨quiet, state, ret⟩ := ih (dev.act (.entityCall .suspend entity.id))
        refine ⟨((Quiet.refl dev).act _ rfl).trans quiet, state, ret.trans ?_⟩
        exact ⟨fun others => ⟨fun _ => not_not.mp good, others⟩, And.right⟩

theorem entityFold_state (wanted : PmEntity → Bool) (callback : PmCallback)
    (entities : List PmEntity) (dev : PciDev) :
    (entities.foldl (fun dev entity =>
      if wanted entity then dev.act (.entityCall callback entity.id) else dev) dev).mdPmState =
      dev.mdPmState := by
  induction entities generalizing dev with
  | nil => rfl
  | cons entity rest ih =>
    rw [List.foldl_cons, ih]
    split <;> rfl

theorem suspendEntry_quiet (dev : PciDev) : Quiet dev (suspendEntry dev) :=
  ((((((Quiet.refl dev).act (.aspmLowpwr false) rfl).act .waitPmConfig rfl).setPmState .suspended).act
    (.macClearInt .sapRgu) rfl).setRgu false)

/-- What a suspend on a device without earlier actions comes to. -/
inductive SuspendEnd (answers : SuspendAnswers) (dev after : PciDev) : Prop where
  | refused (state : SuspendRefused dev) (same : after = dev)
  | callbackFailed (ready : ¬ SuspendRefused dev) (failed : ¬ CallbacksSucceed answers dev.mdPmEntities)
      (state : after.mdPmState = .resumed)
      (silent : ∀ channel acked, Action.pmRequest channel acked ∉ after.actions)
  | suspended (ready : ¬ SuspendRefused dev) (called : CallbacksSucceed answers dev.mdPmEntities)
      (acked : answers.suspendAck = true) (state : after.mdPmState = .suspended)
  | unanswered (ready : ¬ SuspendRefused dev) (called : CallbacksSucceed answers dev.mdPmEntities)
      (timedOut : answers.suspendAck = false) (state : after.mdPmState = .resumed)
      (sent : ∀ channel acked, Action.pmRequest channel acked ∈ after.actions ↔
        channel = .suspendReq ∧ acked = false)

theorem pciPmSuspend_end (answers : SuspendAnswers) {dev : PciDev} (fresh : dev.actions = []) :
    SuspendEnd answers dev (pciPmSuspend answers dev).1 := by
  unfold pciPmSuspend
  split
  · rename_i refused
    exact .refused refused rfl
  · rename_i ready
    obtain ⟨called, state, ret⟩ := suspendEntities_spec answers (suspendEntry dev).mdPmEntities
      (suspendEntry dev)
    have quiet := (suspendEntry_quiet dev).trans called
    have silent : ∀ channel acked, Action.pmRequest channel acked ∉
        (suspendEntities answers.entitySuspend (suspendEntry dev).mdPmEntities (suspendEntry dev)).1.actions := by
      intro channel acked member
      rw [quiet.actions _ rfl, fresh] at member
      cases member
    dsimp only
    split
    · rename_i failed
      refine .callbackFailed ready (mt ret.mpr failed) rfl fun channel acked member => ?_
      exact silent channel acked (((abortSuspend_quiet _ _).actions _ rfl).mp member)
    · rename_i good
      have succeed := ret.mp (not_not.mp good)
      unfold suspendRequests sendPmRequest
      dsimp only
      cases acked : answers.suspendAck with
      | true =>
        rw [if_pos rfl, if_neg (not_not.mpr rfl)]
        refine .suspended ready succeed acked ?_
        refine (entityFold_state (·.suspendLate) .suspendLate _ _).trans ?_
        exact state
      | false =>
        rw [if_neg Bool.false_ne_true, if_pos (by decide)]
        refine .unanswered ready succeed acked rfl fun channel acked => ?_
        rw [(abortSuspend_quiet _ _).actions _ rfl, act_actions, List.mem_append, List.mem_singleton,
          Action.pmRequest.injEq]
        exact or_iff_right (silent channel acked)

theorem pciReprobeEarly_state (answers : ResumeAnswers) (dev : PciDev) :
    (pciReprobeEarly answers dev).1.mdPmState = dev.mdPmState := by
  unfold pciReprobeEarly
  dsimp only
  rw [sendFsmCommand_state]
  split <;> rfl

theorem reprobeDevice_state (answers : ResumeAnswers) (dev : PciDev)
    (resumed : (reprobeDevice answers dev).1.mdPmState = .resumed) : dev.mdPmState = .resumed := by
  have early := pciReprobeEarly_state answers dev
  unfold reprobeDevice at resumed
  dsimp only at resumed
  split at resumed
  · exact early.symm.trans resumed
  · rcases pciReprobe_state answers true (pciReprobeEarly answers dev).1 with same | init
    · exact early.symm.trans (same.symm.trans resumed)
    · rw [init] at resumed
      cases resumed

theorem resumeRequests_state (answers : ResumeAnswers) (dev : PciDev)
    (resumed : (resumeRequests answers dev).1.mdPmState = .resumed) :
    dev.mdPmState = .resumed ∨ answers.resumeAck = true := by
  cases acked : answers.resumeAck with
  | true => exact Or.inr rfl
  | false =>
    left
    by_cases capped : dev.resumeReprobeCount ≥ maxResumeReprobeAttempts
    · simpa [resumeRequests, sendPmRequest, acked, capped, act_mdPmState, ETIMEDOUT] using resumed
    · have reprobed := reprobeDevice_state answers
        ((dev.act (.pmRequest .resumeReq false)).setReprobeCount (dev.resumeReprobeCount + 1))
      simp only [resumeRequests, sendPmRequest, acked, act_resumeReprobeCount, capped, ETIMEDOUT,
        Bool.false_eq_true, if_false] at resumed
      exact reprobed resumed

theorem resumeHandshake_state (answers : ResumeAnswers) (dev : PciDev)
    (resumed : (resumeHandshake answers dev).1.mdPmState = .resumed) :
    dev.mdPmState = .resumed ∨ answers.resumeAck = true := by
  have early : (resumeEarlyEntities dev.mdPmEntities
      ((dev.act (.aspmLowpwr false)).act .waitPmConfig)).mdPmState = dev.mdPmState :=
    entityFold_state (·.resumeEarly) .resumeEarly dev.mdPmEntities _
  rw [← early]
  exact resumeRequests_state answers _ resumed

theorem pciPmResume_state (answers : ResumeAnswers) (stateCheck : Bool) (dev : PciDev)
    (resumed : (pciPmResume answers stateCheck dev).1.mdPmState = .resumed) :
    dev.mdPmState = .resumed ∨
      reachesHandshake answers stateCheck dev ∧ answers.resumeAck = true := by
  have reinit : (pcieReinit answers false (dev.act .macInterruptsEn)).1.mdPmState = .resumed →
      (dev.act .macInterruptsEn).mdPmState = .resumed := by
    intro kept
    rcases pcieReinit_state answers false (dev.act .macInterruptsEn) with same | init
    · exact same.symm.trans kept
    · rw [init] at kept
      cases kept
  show (dev.act .macInterruptsEn).mdPmState = .resumed ∨ _
  unfold pciPmResume at resumed
  split at resumed
  · exact Or.inl resumed
  · rename_i awake
    dsimp only at resumed
    split_ifs at resumed with checked lost exception l2 failed unknown
    · exact Or.inl (reprobeDevice_state answers _ resumed)
    · exact Or.inl (resumeException_state answers _ resumed)
    · exact Or.inl (reinit resumed)
    · have working : answers.enableDevice = 0 := by
        by_contra broken
        simp [pcieReinit, broken] at failed
      refine (resumeHandshake_state answers _ resumed).imp reinit fun acked => ⟨?_, acked⟩
      exact ⟨awake, fun _ => .inr (.inl ⟨l2, working⟩)⟩
    · exact Or.inl (resumeUnknown_state answers _ resumed)
    · have reached : reachesHandshake answers stateCheck dev := reaches_of_known awake lost unknown
      exact (resumeHandshake_state answers _ resumed).imp_right fun acked => ⟨reached, acked⟩
    · refine (resumeHandshake_state answers _ resumed).imp_right fun acked => ⟨⟨awake, ?_⟩, acked⟩
      exact fun check => absurd check checked

/-- What a resume on a device without earlier actions comes to. -/
structure ResumeEnd (dev after : PciDev) : Prop where
  noSuspend : ∀ acked, Action.pmRequest .suspendReq acked ∉ after.actions
  noSuspendAp : ∀ acked, Action.pmRequest .suspendReqAp acked ∉ after.actions
  told : after.mdPmState = .resumed → dev.mdPmState = .resumed ∨
    (∃ acked, Action.pmRequest .resumeReq acked ∈ after.actions) ∧
      ∃ acked, Action.pmRequest .resumeReqAp acked ∈ after.actions

theorem pciPmResume_end (answers : ResumeAnswers) (stateCheck : Bool) {dev : PciDev}
    (fresh : dev.actions = []) : ResumeEnd dev (pciPmResume answers stateCheck dev).1 := by
  by_cases reached : reachesHandshake answers stateCheck dev
  · have leaves := (pciPmResume_handshake answers stateCheck dev reached).actions
    have sent : ∀ channel acked, Action.pmRequest channel acked ∈ (pciPmResume answers stateCheck dev).1.actions ↔
        Action.pmRequest channel acked ∈ (handshakeVerdict answers dev.resumeReprobeCount).2 := by
      intro channel acked
      rw [leaves _ rfl, fresh]
      exact or_iff_right List.not_mem_nil
    refine ⟨fun acked => ?_, fun acked => ?_, fun resumed => ?_⟩
    · rw [sent]
      unfold handshakeVerdict
      split_ifs <;> simp
    · rw [sent]
      unfold handshakeVerdict
      split_ifs <;> simp
    · refine (pciPmResume_state answers stateCheck dev resumed).imp_right fun heard =>
        ⟨⟨true, ?_⟩, answers.resumeAckAp, ?_⟩
      · rw [sent]
        unfold handshakeVerdict
        split_ifs <;> simp_all
      · rw [sent]
        unfold handshakeVerdict
        split_ifs <;> simp_all
  · obtain ⟨added, silent, leaves⟩ := pciPmResume_no_handshake answers stateCheck dev reached
    have unsent : ∀ channel acked,
        Action.pmRequest channel acked ∉ (pciPmResume answers stateCheck dev).1.actions := by
      intro channel acked member
      rw [leaves.actions _ rfl, fresh] at member
      exact silent channel acked ((or_iff_right List.not_mem_nil).mp member)
    refine ⟨unsent _, unsent _, fun resumed => ?_⟩
    exact (pciPmResume_state answers stateCheck dev resumed).imp_right fun heard => absurd heard.1 reached

end Calls

section Runs

variable {s : ToldRun}

theorem called_silent {dev : PciDev} (silent : ∀ channel acked, Action.pmRequest channel acked ∉ dev.actions) :
    (s.called dev).lastMd = s.lastMd ∧ (s.called dev).lastSap = s.lastSap := by
  unfold ToldRun.called
  dsimp only
  rw [lastRequest_none fun channel acked sent => absurd sent (silent channel acked),
    lastRequest_none fun channel acked sent => absurd sent (silent channel acked)]
  exact ⟨rfl, rfl⟩

/-- The state is not `MTK_PM_RESUMED` any more, or what the parties were told last is as before. -/
theorem called_told {dev : PciDev} (told : ToldToResume s)
    (silent : ∀ channel acked, Action.pmRequest channel acked ∉ dev.actions)
    (state : dev.mdPmState = .resumed → s.dev.mdPmState = .resumed) : ToldToResume (s.called dev) := by
  obtain ⟨md, sap⟩ := @called_silent s dev silent
  intro resumed
  rw [md, sap]
  exact told (state resumed)

theorem suspend_exact (answers : SuspendAnswers) (told : ToldToResume s) :
    ToldToResume (s.called (pciPmSuspend answers s.dev.fresh).1) ↔ SuspendHeard s (.suspend answers) := by
  unfold SuspendHeard
  dsimp only
  rcases @pciPmSuspend_end answers s.dev.fresh rfl with
    ⟨refused, same⟩ | ⟨ready, failed, state, silent⟩ | ⟨ready, called, acked, state⟩ |
      ⟨ready, called, timedOut, state, sent⟩
  · refine ⟨fun _ => Or.inl refused, fun _ => ?_⟩
    rw [same]
    exact called_told told (fun _ _ member => absurd member List.not_mem_nil) id
  · obtain ⟨md, sap⟩ := @called_silent s _ silent
    unfold ToldToResume
    rw [md, sap, or_iff_right (show ¬ SuspendRefused s.dev from ready)]
    rw [if_neg (show ¬ CallbacksSucceed answers s.dev.mdPmEntities from failed)]
    exact ⟨fun kept => kept state, fun kept _ => kept⟩
  · rw [or_iff_right (show ¬ SuspendRefused s.dev from ready)]
    rw [if_pos (show CallbacksSucceed answers s.dev.mdPmEntities from called)]
    refine ⟨fun _ => acked, fun _ resumed => ?_⟩
    exact absurd (state.symm.trans resumed) (by decide)
  · rw [or_iff_right (show ¬ SuspendRefused s.dev from ready)]
    rw [if_pos (show CallbacksSucceed answers s.dev.mdPmEntities from called)]
    constructor
    · intro kept
      have last := @lastRequest_only Channel.toMd _ _ rfl
        ⟨false, (sent .suspendReq false).mpr ⟨rfl, rfl⟩⟩
        fun other acked request _ => ((sent other acked).mp request).1
      refine absurd ?_ (kept state).1
      unfold ToldRun.called
      dsimp only
      rw [last]
      rfl
    · intro acked
      exact absurd (timedOut.symm.trans acked) Bool.false_ne_true

theorem resume_told (answers : ResumeAnswers) (stateCheck : Bool) (told : ToldToResume s) :
    ToldToResume (s.called (pciPmResume answers stateCheck s.dev.fresh).1) := by
  obtain ⟨noSuspend, noSuspendAp, heard⟩ := @pciPmResume_end answers stateCheck s.dev.fresh rfl
  intro resumed
  unfold ToldRun.called
  dsimp only
  rcases heard resumed with before | ⟨md, sap⟩
  · obtain ⟨untoldMd, untoldSap⟩ := told before
    exact ⟨lastRequest_or_ne untoldMd noSuspend, lastRequest_or_ne untoldSap noSuspendAp⟩
  · constructor
    · rw [lastRequest_only rfl md fun other acked request toMd => ?_]
      · exact fun told => absurd (Option.some.inj told) (by decide)
      · cases other with
        | resumeReq => rfl
        | suspendReq => exact absurd request (noSuspend acked)
        | _ => cases toMd
    · rw [lastRequest_only rfl sap fun other acked request toSap => ?_]
      · exact fun told => absurd (Option.some.inj told) (by decide)
      · cases other with
        | resumeReqAp => rfl
        | suspendReqAp => exact absurd request (noSuspendAp acked)
        | _ => cases toSap

theorem reprobeEarly_silent (answers : ResumeAnswers) {dev : PciDev} (fresh : dev.actions = [])
    (channel : Channel) (acked : Bool) :
    Action.pmRequest channel acked ∉ (pciReprobeEarly answers dev).1.actions := by
  intro sent
  unfold pciReprobeEarly at sent
  dsimp only at sent
  rw [(sendFsmCommand_quiet answers .stop _).actions _ rfl] at sent
  split at sent <;> simp [fresh] at sent

theorem reprobe_silent (answers : ResumeAnswers) (boot : Bool) {dev : PciDev} (fresh : dev.actions = [])
    (channel : Channel) (acked : Bool) :
    Action.pmRequest channel acked ∉ (pciReprobe answers boot dev).1.actions := by
  intro sent
  rw [(pciReprobe_quiet answers boot dev).actions _ rfl, fresh] at sent
  cases sent

theorem told_step_exact (s : ToldRun) (event : ToldEvent) (t : ToldRun) (told : ToldToResume s)
    (taken : s.step event = some t) : ToldToResume t ↔ SuspendHeard s event := by
  cases event with
  | suspend answers =>
    cases taken
    exact suspend_exact answers told
  | resume answers stateCheck =>
    cases taken
    exact iff_of_true (resume_told answers stateCheck told) trivial
  | initLate =>
    cases taken
    exact iff_of_true (fun _ => ⟨Option.some_ne_none _ |>.symm, Option.some_ne_none _ |>.symm⟩) trivial
  | expDetected =>
    cases taken
    refine iff_of_true (fun resumed => ?_) trivial
    cases resumed
  | modeUpdate mode =>
    cases taken
    exact iff_of_true (called_told told (fun _ _ member => absurd member List.not_mem_nil) id) trivial
  | reprobeEarly answers =>
    cases taken
    refine iff_of_true (called_told told (reprobeEarly_silent answers rfl) fun resumed => ?_) trivial
    exact (pciReprobeEarly_state answers s.dev.fresh).symm.trans resumed
  | reprobe answers boot =>
    cases taken
    refine iff_of_true (called_told told (reprobe_silent answers boot rfl) fun resumed => ?_) trivial
    rcases pciReprobe_state answers boot s.dev.fresh with same | init
    · exact same.symm.trans resumed
    · rw [init] at resumed
      cases resumed

/-- The modem counts as resumed only while neither party was told last to suspend, exactly in runs
    whose suspends are heard. -/
theorem told_to_resume_iff_suspends_heard (dev : PciDev) (events : List ToldEvent) :
    Visits ToldToResume ToldRun.step ⟨dev, none, none⟩ events ↔
      Obeys SuspendHeard ToldRun.step ⟨dev, none, none⟩ events := by
  have exact_step : ∀ s event t, True → ToldToResume s → ToldRun.step s event = some t →
      (ToldToResume t ↔ SuspendHeard s event) := fun s event t _ told taken => told_step_exact s event t told taken
  have untold : ToldToResume ⟨dev, none, none⟩ :=
    fun _ => ⟨Option.some_ne_none _ |>.symm, Option.some_ne_none _ |>.symm⟩
  exact visits_iff_obeys (fun _ => True) (fun _ _ _ _ _ _ => trivial) exact_step trivial untold

/-- A booted modem that answers no suspend request: the driver takes it to be resumed again, with
    the suspend request as the last thing it was told. -/
theorem unanswered_suspend_is_told_last :
    ¬ Visits ToldToResume ToldRun.step ⟨probedDev, none, none⟩
      [.initLate, .suspend ⟨fun _ => 0, false, false⟩] := by
  decide

end Runs

end T7xxModel.Pci
