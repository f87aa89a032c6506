import T7xx.Fsm.Control
import T7xx.Pci.SuspendAbort

namespace T7xxModel.Pci

open Cldma
open Fsm (D2H_SW_INT_MASK Modem mdEventPreStart mdEventStart fsmRoutineReady)

/-- What the callbacks of the entities work on, with the MHCCIF interrupt mask register. -/
structure PmHardware where
  platform : Platform
  mhccifMask : BitVec 32

/-- What `t7xx_cldma_suspend` and `t7xx_cldma_resume` do to the mask for the controller of the modem. -/
def PmCallback.mhccifMask : PmCallback → BitVec 32 → BitVec 32
  | .suspend, mask => mask ||| D2H_SW_INT_MASK
  | .resume, mask => mask &&& ~~~D2H_SW_INT_MASK
  | _, mask => mask

def PmHardware.act (hw : PmHardware) (action : Action) : PmHardware where
  platform := hw.platform.act action
  mhccifMask :=
    match action with
    | .mhccifMaskClr bits => hw.mhccifMask &&& ~~~bits
    | .entityCall callback .ctrl1 => callback.mhccifMask hw.mhccifMask
    | _ => hw.mhccifMask

def PciDev.hardware (boot : PmHardware) (dev : PciDev) : PmHardware := dev.actions.foldl PmHardware.act boot

def PciDev.param (boot : PmHardware) (dev : PciDev) : PmId → EntityParam := (dev.hardware boot).platform.param

/-- The state that the driver controls is the same after as before. -/
structure Restored (boot : PmHardware) (before after : PciDev) : Prop where
  mhccifMask : (after.hardware boot).mhccifMask = (before.hardware boot).mhccifMask
  rguPciIrqEn : after.rguPciIrqEn = before.rguPciIrqEn
  cldmaMd : (after.param boot .ctrl1).SameQueues (before.param boot .ctrl1)
  cldmaAp : (after.param boot .ctrl2).SameQueues (before.param boot .ctrl2)
  dpmaif : (after.param boot .data).SameQueues (before.param boot .data)

/-- All queues of a CLDMA controller are active. -/
def EntityParam.AllActive (param : EntityParam) : Prop :=
  param.Running ∧ ∀ ctrl, param = .cldma ctrl → ctrl.rxqActive &&& TXRX_STATUS_BITMASK = TXRX_STATUS_BITMASK

/-- No interrupt of the modem is masked, its reset interrupt is enabled and all queues are active. -/
structure Constants (boot : PmHardware) (dev : PciDev) : Prop where
  mhccifMask : (dev.hardware boot).mhccifMask &&& D2H_SW_INT_MASK = 0
  rguPciIrqEn : dev.rguPciIrqEn = true
  cldmaMd : (dev.param boot .ctrl1).AllActive
  cldmaAp : (dev.param boot .ctrl2).AllActive
  dpmaif : (dev.param boot .data).Running

section Calls

variable {boot : PmHardware} {first second third : PciDev}

theorem hardware_act (dev : PciDev) (action : Action) :
    (dev.act action).hardware boot = (dev.hardware boot).act action :=
  List.foldl_append ..

/-- A stretch without a callback that leaves the mask, the queues and the list of the entities. -/
structure Still (boot : PmHardware) (before after : PciDev) : Prop where
  param : after.param boot = before.param boot
  mhccifMask : (after.hardware boot).mhccifMask = (before.hardware boot).mhccifMask
  entities : after.mdPmEntities = before.mdPmEntities

/-- A stretch in which a callback was called once for each of `ids`. -/
structure Called (boot : PmHardware) (callback : PmCallback) (ids : List PmId) (before after : PciDev) :
    Prop where
  param : ∀ id, after.param boot id =
    if id ∈ ids then (before.param boot id).call callback else before.param boot id
  mhccifMask : (after.hardware boot).mhccifMask =
    if .ctrl1 ∈ ids then callback.mhccifMask (before.hardware boot).mhccifMask
    else (before.hardware boot).mhccifMask
  entities : after.mdPmEntities = before.mdPmEntities

theorem Still.refl (dev : PciDev) : Still boot dev dev := ⟨rfl, rfl, rfl⟩

theorem Still.trans (left : Still boot first second) (right : Still boot second third) :
    Still boot first third :=
  ⟨right.param.trans left.param, right.mhccifMask.trans left.mhccifMask,
    right.entities.trans left.entities⟩

theorem Still.setPmState (still : Still boot first second) (state : PmState) :
    Still boot first (second.setPmState state) := ⟨still.param, still.mhccifMask, still.entities⟩

theorem Still.setRgu (still : Still boot first second) (enabled : Bool) :
    Still boot first (second.setRgu enabled) := ⟨still.param, still.mhccifMask, still.entities⟩

theorem Still.setReprobeCount (still : Still boot first second) (count : Nat) :
    Still boot first (second.setReprobeCount count) := ⟨still.param, still.mhccifMask, still.entities⟩

def Action.still : Action → Bool
  | .mhccifMaskClr _ | .entityCall _ _ => false
  | _ => true

theorem act_still (hw : PmHardware) {action : Action} (still : action.still = true) :
    (hw.act action).platform.param = hw.platform.param ∧ (hw.act action).mhccifMask = hw.mhccifMask := by
  cases action with
  | mhccifMaskClr bits => cases still
  | entityCall callback id => cases still
  | macSetInt int => cases int <;> exact ⟨rfl, rfl⟩
  | macClearInt int => cases int <;> exact ⟨rfl, rfl⟩
  | _ => exact ⟨rfl, rfl⟩

theorem Still.act (still : Still boot first second) (action : Action)
    (quiet : action.still = true) : Still boot first (second.act action) := by
  obtain ⟨param, mask⟩ := act_still (second.hardware boot) quiet
  have added := @hardware_act boot second action
  refine ⟨?_, ?_, still.entities⟩
  · unfold PciDev.param
    rw [added, param]
    exact still.param
  · rw [added, mask]
    exact still.mhccifMask

theorem Called.after_still {callback : PmCallback} {ids : List PmId}
    (called : Called boot callback ids first second) (still : Still boot second third) :
    Called boot callback ids first third := by
  refine ⟨fun id => ?_, still.mhccifMask.trans called.mhccifMask, still.entities.trans called.entities⟩
  rw [still.param]
  exact called.param id

theorem Called.before_still {callback : PmCallback} {ids : List PmId} (still : Still boot first second)
    (called : Called boot callback ids second third) : Called boot callback ids first third := by
  refine ⟨fun id => ?_, ?_, called.entities.trans still.entities⟩
  · rw [called.param id, still.param]
  · rw [called.mhccifMask, still.mhccifMask]

theorem entityCall_param (callback : PmCallback) (called : PmId) (dev : PciDev) (id : PmId) :
    (dev.act (.entityCall callback called)).param boot id =
      if id = called then (dev.param boot id).call callback else dev.param boot id := by
  unfold PciDev.param
  rw [hardware_act]
  show Function.update _ called _ id = _
  by_cases here : id = called
  · rw [here, Function.update_self, if_pos rfl]
  · rw [Function.update_of_ne here, if_neg here]

theorem entityCall_mask (callback : PmCallback) (called : PmId) (dev : PciDev) :
    ((dev.act (.entityCall callback called)).hardware boot).mhccifMask =
      if called = .ctrl1 then callback.mhccifMask (dev.hardware boot).mhccifMask
      else (dev.hardware boot).mhccifMask := by
  rw [hardware_act]
  cases called <;> rfl

theorem callEntities_called (callback : PmCallback) {ids : List PmId} (once : ids.Nodup) (dev : PciDev) :
    Called boot callback ids dev (callEntities callback ids dev) := by
  induction ids generalizing dev with
  | nil => exact ⟨fun _ => rfl, rfl, rfl⟩
  | cons called ids ih =>
    obtain ⟨fresh, distinct⟩ := List.nodup_cons.mp once
    obtain ⟨param, mask, entities⟩ := ih distinct (dev.act (.entityCall callback called))
    refine ⟨fun id => (param id).trans ?_, mask.trans ?_, entities⟩
    · rw [entityCall_param]
      by_cases here : id = called
      · rw [here, if_neg fresh, if_pos rfl, if_pos List.mem_cons_self]
      · have same : id ∈ called :: ids ↔ id ∈ ids := List.mem_cons.trans (or_iff_right here)
        rw [if_neg here, if_congr same rfl rfl]
    · rw [entityCall_mask]
      by_cases here : called = .ctrl1
      · rw [if_pos here, if_neg (here ▸ fresh), if_pos (here ▸ List.mem_cons_self)]
      · have same : .ctrl1 ∈ called :: ids ↔ .ctrl1 ∈ ids :=
          List.mem_cons.trans (or_iff_right (Ne.symm here))
        rw [if_neg here, if_congr same rfl rfl]

theorem entityFold_calls (wanted : PmEntity → Bool) (callback : PmCallback) (entities : List PmEntity)
    (dev : PciDev) :
    entities.foldl (fun dev entity =>
      if wanted entity then dev.act (.entityCall callback entity.id) else dev) dev =
        callEntities callback ((entities.filter wanted).map PmEntity.id) dev := by
  induction entities generalizing dev with
  | nil => rfl
  | cons entity rest ih =>
    rw [List.foldl_cons, ih]
    cases answer : wanted entity with
    | true =>
      rw [List.filter_cons_of_pos answer]
      rfl
    | false =>
      rw [List.filter_cons_of_neg (by simp [answer])]
      rfl

theorem resumeEntities_calls (answer : PmId → Int) (entities : List PmEntity) (dev : PciDev) (ret : Int) :
    (resumeEntities answer entities (dev, ret)).1 =
      callEntities .resume ((entities.filter (·.resume)).map PmEntity.id) dev := by
  induction entities generalizing dev ret with
  | nil => rfl
  | cons entity rest ih =>
    unfold resumeEntities
    cases callback : entity.resume with
    | true =>
      rw [List.filter_cons_of_pos callback, if_pos rfl, ih]
      rfl
    | false =>
      rw [List.filter_cons_of_neg (by simp [callback]), if_neg Bool.false_ne_true, ih]

end Calls

section RoundTrip

variable {boot : PmHardware} {dev : PciDev}

theorem wanted_ids {entities : List PmEntity} (registered : entities.Perm probedDev.mdPmEntities)
    (wanted : PmEntity → Bool) :
    ((entities.filter wanted).map PmEntity.id).Perm
      ((probedDev.mdPmEntities.filter wanted).map PmEntity.id) :=
  (registered.filter wanted).map PmEntity.id

theorem wanted_nodup {entities : List PmEntity} (registered : entities.Perm probedDev.mdPmEntities)
    (wanted : PmEntity → Bool) : ((entities.filter wanted).map PmEntity.id).Nodup := by
  have all : (probedDev.mdPmEntities.map PmEntity.id).Nodup := by decide
  rw [(wanted_ids registered wanted).nodup_iff]
  exact all.sublist (List.filter_sublist.map PmEntity.id)

/-- A stretch in which a callback was called for every entity that has it. -/
def CalledAll (boot : PmHardware) (callback : PmCallback) (wanted : PmEntity → Bool)
    (before after : PciDev) : Prop :=
  Called boot callback ((probedDev.mdPmEntities.filter wanted).map PmEntity.id) before after

theorem callEntities_all (callback : PmCallback) (wanted : PmEntity → Bool) {entities : List PmEntity}
    (registered : entities.Perm probedDev.mdPmEntities) (dev : PciDev) :
    CalledAll boot callback wanted dev
      (callEntities callback ((entities.filter wanted).map PmEntity.id) dev) := by
  obtain ⟨param, mask, same⟩ :=
    @callEntities_called boot callback _ (wanted_nodup registered wanted) dev
  have members (id : PmId) := (wanted_ids registered wanted).mem_iff (a := id)
  refine ⟨fun id => (param id).trans ?_, mask.trans ?_, same⟩
  · rw [if_congr (members id) rfl rfl]
  · rw [if_congr (members .ctrl1) rfl rfl]

theorem suspendEntry_still (dev : PciDev) : Still boot dev (suspendEntry dev) := by
  have disabled : Still boot dev ((dev.act (.aspmLowpwr false)).act .waitPmConfig) :=
    ((Still.refl dev).act _ rfl).act _ rfl
  exact (((disabled.setPmState .suspended).act (.macClearInt .sapRgu) rfl).setRgu false)

theorem callEntities_state (callback : PmCallback) (ids : List PmId) (dev : PciDev) :
    (callEntities callback ids dev).mdPmState = dev.mdPmState := by
  obtain ⟨actions, same⟩ := callEntities_dev callback ids dev
  rw [same]

theorem suspendRequests_calls {answers : SuspendAnswers}
    (registered : dev.mdPmEntities.Perm probedDev.mdPmEntities)
    (succeeds : (suspendRequests answers dev).2 = 0) :
    (suspendRequests answers dev).1.mdPmState = dev.mdPmState ∧
      CalledAll boot .suspendLate (·.suspendLate) dev (suspendRequests answers dev).1 := by
  have acked : answers.suspendAck = true := by
    by_contra silent
    rw [Bool.not_eq_true] at silent
    have timedOut : (suspendRequests answers dev).2 = -ETIMEDOUT := by
      unfold suspendRequests sendPmRequest
      rw [silent]
      rfl
    rw [timedOut] at succeeds
    exact absurd succeeds (by decide)
  have told : suspendRequests answers dev =
      ((suspendLateEntities dev.mdPmEntities ((dev.act (.pmRequest .suspendReq true)).act
        (.pmRequest .suspendReqAp answers.suspendAckAp))).act (.aspmLowpwr true), 0) := by
    unfold suspendRequests sendPmRequest
    rw [acked]
    rfl
  have requested : Still boot dev ((dev.act (.pmRequest .suspendReq true)).act
      (.pmRequest .suspendReqAp answers.suspendAckAp)) :=
    ((Still.refl dev).act _ rfl).act _ rfl
  rw [told]
  unfold suspendLateEntities
  rw [entityFold_calls]
  refine ⟨callEntities_state _ _ _, Called.before_still requested (Called.after_still
    (callEntities_all .suspendLate (·.suspendLate) registered _) ?_)⟩
  exact (Still.refl _).act _ rfl

theorem suspend_calls {answers : SuspendAnswers} (registered : dev.mdPmEntities.Perm probedDev.mdPmEntities)
    (succeeds : (pciPmSuspend answers dev).2 = 0) :
    (pciPmSuspend answers dev).1.mdPmState = .suspended ∧
      ∃ suspended, CalledAll boot .suspend (·.suspend) dev suspended ∧
        CalledAll boot .suspendLate (·.suspendLate) suspended (pciPmSuspend answers dev).1 := by
  have callbacks : ∀ entity ∈ dev.mdPmEntities, entity.suspend = true := fun entity member => by
    have all : ∀ entity ∈ probedDev.mdPmEntities, entity.suspend = true := by decide
    exact all entity (registered.mem_iff.mp member)
  have wanted : dev.mdPmEntities.filter (·.suspend) = dev.mdPmEntities :=
    List.filter_eq_self.mpr callbacks
  have accepted : ¬ (dev.mdPmState.value ≤ PmState.init.value ∨ dev.mode ≠ .ready) := by
    intro refused
    have fault : pciPmSuspend answers dev = (dev, -EFAULT) := if_pos refused
    rw [fault] at succeeds
    exact absurd succeeds (show (-EFAULT : Int) ≠ 0 by decide)
  have cases := suspendEntities_cases answers callbacks (suspendEntry dev)
  revert succeeds
  unfold pciPmSuspend
  rw [if_neg accepted]
  dsimp only
  rw [show (suspendEntry dev).mdPmEntities = dev.mdPmEntities from rfl]
  generalize suspendEntities answers.entitySuspend dev.mdPmEntities (suspendEntry dev) = result at cases
  obtain ⟨called, ret, id⟩ := result
  rcases cases with ⟨_, same⟩ | ⟨failing, rest, _, error, same⟩
  · cases same
    intro succeeds
    have all := @callEntities_all boot .suspend (·.suspend) _ registered (suspendEntry dev)
    rw [wanted] at all
    have listed : (callEntities .suspend (dev.mdPmEntities.map PmEntity.id)
        (suspendEntry dev)).mdPmEntities.Perm probedDev.mdPmEntities := by
      rw [all.entities]
      exact registered
    obtain ⟨state, late⟩ := @suspendRequests_calls boot _ answers listed succeeds
    refine ⟨state.trans (callEntities_state _ _ _), _, ?_, late⟩
    exact Called.before_still (suspendEntry_still dev) all
  · cases same
    dsimp only
    rw [if_pos error]
    exact fun succeeds => absurd succeeds error

theorem pcieReinit_still (answers : ResumeAnswers) (dev : PciDev) (works : answers.enableDevice = 0) :
    (pcieReinit answers false dev).2 = 0 ∧ Still boot dev (pcieReinit answers false dev).1 := by
  have enabled : Still boot dev (dev.act .enableDevice) := (Still.refl dev).act _ rfl
  unfold pcieReinit
  rw [if_neg (not_not.mpr works)]
  exact ⟨rfl, ((((enabled.act _ rfl).act _ rfl).act _ rfl).act _ rfl).act _ rfl⟩

theorem resumeTail_calls (answers : ResumeAnswers)
    (registered : dev.mdPmEntities.Perm probedDev.mdPmEntities) :
    (resumeTail answers dev).1.rguPciIrqEn = true ∧
      CalledAll boot .resume (·.resume) dev (resumeTail answers dev).1 := by
  have called := @callEntities_all boot .resume (·.resume) _ registered dev
  rw [← resumeEntities_calls answers.entityResume dev.mdPmEntities dev 0] at called
  refine ⟨rfl, Called.after_still called ?_⟩
  have enabled := (@Still.refl boot
    (resumeEntities answers.entityResume dev.mdPmEntities (dev, 0)).1).setRgu true
  exact ((((enabled.act _ rfl).act _ rfl).act _ rfl).setPmState .resumed).setReprobeCount 0

theorem resumeHandshake_calls {answers : ResumeAnswers}
    (registered : dev.mdPmEntities.Perm probedDev.mdPmEntities)
    (rebooted : answers.resumeState ≠ PM_RESUME_REG_STATE_INIT) (acked : answers.resumeAck = true) :
    (resumeHandshake answers dev).1.rguPciIrqEn = true ∧
      ∃ early, CalledAll boot .resumeEarly (·.resumeEarly) dev early ∧
        CalledAll boot .resume (·.resume) early (resumeHandshake answers dev).1 := by
  have disabled : Still boot dev ((dev.act (.aspmLowpwr false)).act .waitPmConfig) :=
    ((Still.refl dev).act _ rfl).act _ rfl
  have called := @callEntities_all boot .resumeEarly (·.resumeEarly) _ registered
    ((dev.act (.aspmLowpwr false)).act .waitPmConfig)
  rw [← entityFold_calls] at called
  generalize early : resumeEarlyEntities dev.mdPmEntities
    ((dev.act (.aspmLowpwr false)).act .waitPmConfig) = woken
  have called : CalledAll boot .resumeEarly (·.resumeEarly) dev woken := by
    rw [← early]
    exact Called.before_still disabled called
  have told : resumeHandshake answers dev = resumeTail answers
      ((woken.act (.pmRequest .resumeReq true)).act (.pmRequest .resumeReqAp answers.resumeAckAp)) := by
    show resumeRequests answers (resumeEarlyEntities dev.mdPmEntities _) = _
    rw [early]
    unfold resumeRequests sendPmRequest
    rw [acked]
    dsimp only
    rw [if_pos rfl, if_neg (not_not.mpr rfl)]
    exact if_neg fun (reprobes : _ ∧ _ ∧ _) => rebooted reprobes.2.1
  have requested : Still boot woken
      ((woken.act (.pmRequest .resumeReq true)).act (.pmRequest .resumeReqAp answers.resumeAckAp)) :=
    ((Still.refl woken).act _ rfl).act _ rfl
  have listed : ((woken.act (.pmRequest .resumeReq true)).act
      (.pmRequest .resumeReqAp answers.resumeAckAp)).mdPmEntities.Perm probedDev.mdPmEntities := by
    rw [requested.entities, called.entities]
    exact registered
  obtain ⟨rgu, resumes⟩ := @resumeTail_calls boot _ answers listed
  rw [told]
  exact ⟨rgu, woken, called, Called.before_still requested resumes⟩

theorem resume_handshake {answers : ResumeAnswers} {stateCheck : Bool} (suspended : dev.mdPmState = .suspended)
    (asleep : answers.resumeState = PM_RESUME_REG_STATE_L1 ∨ answers.resumeState = PM_RESUME_REG_STATE_L2)
    (succeeds : (pciPmResume answers stateCheck dev).2 = 0) :
    ∃ woken, Still boot dev woken ∧ pciPmResume answers stateCheck dev = resumeHandshake answers woken := by
  have enabled : Still boot dev (dev.act .macInterruptsEn) := (Still.refl dev).act _ rfl
  have known : ¬ dev.mdPmState.value ≤ PmState.init.value := by
    rw [suspended]
    decide
  revert succeeds
  unfold pciPmResume
  rw [if_neg known]
  dsimp only
  cases stateCheck with
  | false => exact fun _ => ⟨_, enabled, if_neg Bool.false_ne_true⟩
  | true =>
    rw [if_pos rfl]
    rcases asleep with l1 | l2
    · rw [l1, if_neg (not_or.mpr ⟨by decide, fun lost => absurd lost.1 (by decide)⟩),
        if_neg (by decide), if_neg (by decide), if_neg (by decide)]
      exact fun _ => ⟨_, enabled, rfl⟩
    · rw [l2, if_neg (not_or.mpr ⟨by decide, fun lost => absurd lost.1 (by decide)⟩),
        if_neg (by decide), if_pos rfl]
      intro succeeds
      by_cases works : answers.enableDevice = 0
      · obtain ⟨ret, reinit⟩ := @pcieReinit_still boot answers (dev.act .macInterruptsEn) works
        exact ⟨_, enabled.trans reinit, if_neg (not_not.mpr ret)⟩
      · have fails : pcieReinit answers false (dev.act .macInterruptsEn) =
            ((dev.act .macInterruptsEn).act .enableDevice, answers.enableDevice) := if_pos works
        rw [fails] at succeeds
        dsimp only at succeeds
        rw [if_pos works] at succeeds
        exact absurd succeeds works

theorem resume_calls {answers : ResumeAnswers} {stateCheck : Bool}
    (registered : dev.mdPmEntities.Perm probedDev.mdPmEntities) (suspended : dev.mdPmState = .suspended)
    (asleep : answers.resumeState = PM_RESUME_REG_STATE_L1 ∨ answers.resumeState = PM_RESUME_REG_STATE_L2)
    (acked : answers.resumeAck = true) (succeeds : (pciPmResume answers stateCheck dev).2 = 0) :
    (pciPmResume answers stateCheck dev).1.rguPciIrqEn = true ∧
      ∃ early, CalledAll boot .resumeEarly (·.resumeEarly) dev early ∧
        CalledAll boot .resume (·.resume) early (pciPmResume answers stateCheck dev).1 := by
  obtain ⟨woken, still, same⟩ := @resume_handshake boot _ _ _ suspended asleep succeeds
  have rebooted : answers.resumeState ≠ PM_RESUME_REG_STATE_INIT := by
    rcases asleep with l1 | l2
    · rw [l1]
      decide
    · rw [l2]
      decide
  have listed : woken.mdPmEntities.Perm probedDev.mdPmEntities := by
    rw [still.entities]
    exact registered
  obtain ⟨rgu, early, first, second⟩ := @resumeHandshake_calls boot _ _ listed rebooted acked
  rw [same]
  exact ⟨rgu, early, Called.before_still still first, second⟩

theorem sameQueues_round_trip (param : EntityParam) :
    ((((param.call .suspend).call .suspendLate).call .resumeEarly).call .resume).SameQueues param ↔
      param.AllActive := by
  cases param with
  | cldma ctrl =>
    show (ctrl.txqActive &&& ~~~TXRX_STATUS_BITMASK ||| TXRX_STATUS_BITMASK = ctrl.txqActive ∧
      ctrl.rxqActive &&& ~~~TXRX_STATUS_BITMASK ||| TXRX_STATUS_BITMASK = ctrl.rxqActive) ↔ _
    rw [clear_then_set, clear_then_set, or_eq_left_iff, or_eq_left_iff]
    refine and_congr_right fun _ => ⟨fun active other same => ?_, fun active => active ctrl rfl⟩
    cases same
    exact active
  | dpmaif ctrl =>
    refine (sameQueues_resume_suspend (.dpmaif ctrl)).trans ?_
    exact ⟨fun running => ⟨running, nofun⟩, And.left⟩

theorem set_then_clear_iff (mask bits : BitVec 32) :
    (mask ||| bits) &&& ~~~bits = mask ↔ mask &&& bits = 0 := by
  constructor
  · intro same
    rw [← same]
    ext i below
    rw [BitVec.getElem_and, BitVec.getElem_and, BitVec.getElem_not]
    cases bits[i] <;> simp
  · intro apart
    ext i below
    have bit : (mask[i] && bits[i]) = false := by
      rw [← BitVec.getElem_and, apart]
      exact BitVec.getElem_zero below
    rw [BitVec.getElem_and, BitVec.getElem_not, BitVec.getElem_or]
    revert bit
    cases mask[i] <;> cases bits[i] <;> decide

/-- What both calls do to the entities, whose callbacks come in the order of the four loops. -/
theorem round_trip_calls {boot : PmHardware} {before suspended asleep early after : PciDev}
    (suspend : CalledAll boot .suspend (·.suspend) before suspended)
    (late : CalledAll boot .suspendLate (·.suspendLate) suspended asleep)
    (wakes : CalledAll boot .resumeEarly (·.resumeEarly) asleep early)
    (resume : CalledAll boot .resume (·.resume) early after) :
    (after.hardware boot).mhccifMask =
        ((before.hardware boot).mhccifMask ||| D2H_SW_INT_MASK) &&& ~~~D2H_SW_INT_MASK ∧
      (∀ id ∈ [PmId.ctrl1, .ctrl2], after.param boot id =
        ((((before.param boot id).call .suspend).call .suspendLate).call .resumeEarly).call .resume) ∧
      after.param boot .data = ((before.param boot .data).call .suspend).call .resume := by
  refine ⟨?_, fun id member => ?_, ?_⟩
  · rw [resume.mhccifMask, wakes.mhccifMask, late.mhccifMask, suspend.mhccifMask]
    rfl
  · simp only [List.mem_cons, List.not_mem_nil, or_false] at member
    rcases member with rfl | rfl
    · rw [resume.param, wakes.param, late.param, suspend.param]
      rfl
    · rw [resume.param, wakes.param, late.param, suspend.param]
      rfl
  · rw [resume.param, wakes.param, late.param, suspend.param]
    rfl

/-- A suspend and a resume by handshake restore the state exactly if it was the one that the callbacks
    build from constants. -/
theorem suspend_resume_restores_iff (boot : PmHardware) (dev : PciDev) (suspend : SuspendAnswers)
    (resume : ResumeAnswers) (stateCheck : Bool)
    (registered : dev.mdPmEntities.Perm probedDev.mdPmEntities)
    (suspends : (pciPmSuspend suspend dev).2 = 0)
    (asleep : resume.resumeState = PM_RESUME_REG_STATE_L1 ∨ resume.resumeState = PM_RESUME_REG_STATE_L2)
    (acked : resume.resumeAck = true)
    (resumes : (pciPmResume resume stateCheck (pciPmSuspend suspend dev).1).2 = 0) :
    Restored boot dev (pciPmResume resume stateCheck (pciPmSuspend suspend dev).1).1 ↔
      Constants boot dev := by
  obtain ⟨state, suspended, called, late⟩ := @suspend_calls boot _ _ registered suspends
  have listed : (pciPmSuspend suspend dev).1.mdPmEntities.Perm probedDev.mdPmEntities := by
    rw [late.entities, called.entities]
    exact registered
  obtain ⟨rgu, early, wakes, woken⟩ := @resume_calls boot _ _ _ listed state asleep acked resumes
  obtain ⟨mask, ctrls, data⟩ := round_trip_calls called late wakes woken
  have md := ctrls .ctrl1 (by decide)
  have ap := ctrls .ctrl2 (by decide)
  constructor
  · intro restored
    refine ⟨?_, restored.rguPciIrqEn.symm.trans rgu, ?_, ?_, ?_⟩
    · exact (set_then_clear_iff _ _).mp (mask.symm.trans restored.mhccifMask)
    · exact (sameQueues_round_trip _).mp (md ▸ restored.cldmaMd)
    · exact (sameQueues_round_trip _).mp (ap ▸ restored.cldmaAp)
    · exact (sameQueues_resume_suspend _).mp (data ▸ restored.dpmaif)
  · intro constants
    refine ⟨?_, rgu.trans constants.rguPciIrqEn.symm, ?_, ?_, ?_⟩
    · exact mask.trans ((set_then_clear_iff _ _).mpr constants.mhccifMask)
    · rw [md]
      exact (sameQueues_round_trip _).mpr constants.cldmaMd
    · rw [ap]
      exact (sameQueues_round_trip _).mpr constants.cldmaAp
    · rw [data]
      exact (sameQueues_resume_suspend _).mpr constants.dpmaif

/-- A modem before its first start, with every MHCCIF interrupt masked by `t7xx_md_sys_sw_init` but that
    for the port enumeration. -/
def startingModem : Modem where
  dev := probedDev
  currState := .preStart
  mdState := .waitingForHs2
  expFlg := false
  status := 0
  commandQueue := []
  eventQueue := []
  finished := []
  coreMd := ⟨false, false⟩
  coreAp := ⟨false, false⟩
  mdInitFinish := true
  expId := 0
  swIntSts := 0
  mhccifMask := D2H_SW_INT_MASK &&& ~~~D2H_INT_PORT_ENUM
  handshakeWork := false
  apHandshakeWork := false

def readyModem : Modem :=
  let m := mdEventStart (mdEventPreStart startingModem)
  fsmRoutineReady { m with dev := pciPmInitLate m.dev }

def readyHardware (mhccifMask : BitVec 32) : PmHardware := ⟨armedPlatform, mhccifMask⟩

/-- The modem acknowledges every request and each callback succeeds. -/
def promptSuspend : SuspendAnswers := ⟨fun _ => 0, true, true⟩

def promptResume : ResumeAnswers := ⟨PM_RESUME_REG_STATE_L1, 0, true, true, fun _ => 0, 0, fun _ => 0⟩

/-- Once every interrupt is unmasked a suspend and a resume change nothing. -/
theorem suspend_resume_restores_unmasked :
    Restored (readyHardware 0) readyModem.dev
      (pciPmResume promptResume true (pciPmSuspend promptSuspend readyModem.dev).1).1 := by
  have active : (EntityParam.cldma ⟨TXRX_STATUS_BITMASK, TXRX_STATUS_BITMASK, 0⟩).AllActive := by
    refine ⟨BitVec.and_self, fun ctrl same => ?_⟩
    cases same
    exact BitVec.and_self
  exact (suspend_resume_restores_iff (readyHardware 0) readyModem.dev promptSuspend promptResume true
    (List.Perm.refl _) (by decide) (Or.inl rfl) rfl (by decide)).mpr
      ⟨by decide, rfl, active, active, fun _ => rfl, fun _ => rfl⟩

/-- The interrupts that a modem in `FSM_STATE_READY` has masked come back unmasked. -/
theorem resume_unmasks_handshake_ints :
    readyModem.currState = .ready ∧ readyModem.dev.mdPmState = .resumed ∧
      (pciPmSuspend promptSuspend readyModem.dev).2 = 0 ∧
      (pciPmResume promptResume true (pciPmSuspend promptSuspend readyModem.dev).1).2 = 0 ∧
      ¬ Restored (readyHardware readyModem.mhccifMask) readyModem.dev
        (pciPmResume promptResume true (pciPmSuspend promptSuspend readyModem.dev).1).1 := by
  refine ⟨rfl, rfl, by decide, by decide, fun restored => ?_⟩
  exact absurd restored.mhccifMask (by decide)

end RoundTrip

end T7xxModel.Pci
