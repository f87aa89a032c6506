import T7xx.Cldma.TxRing
import T7xx.Pci.PowerManagement

namespace T7xxModel.Pci

open Kernel Cldma

structure CldmaActive where
  txqActive : BitVec 16
  rxqActive : BitVec 16
  txqStarted : BitVec 16
deriving DecidableEq, Repr

structure DpmaifStarted where
  txq : Fin 5 → Bool
  rxq : Fin 2 → Bool

inductive EntityParam where
  | cldma (ctrl : CldmaActive)
  | dpmaif (ctrl : DpmaifStarted)

def cldmaSuspend (ctrl : CldmaActive) : CldmaActive :=
  { ctrl with txqActive := ctrl.txqActive &&& ~~~TXRX_STATUS_BITMASK, txqStarted := 0 }

def cldmaSuspendLate (ctrl : CldmaActive) : CldmaActive :=
  { ctrl with rxqActive := ctrl.rxqActive &&& ~~~TXRX_STATUS_BITMASK }

def cldmaResumeEarly (ctrl : CldmaActive) : CldmaActive :=
  { ctrl with rxqActive := ctrl.rxqActive ||| TXRX_STATUS_BITMASK }

def cldmaResume (ctrl : CldmaActive) : CldmaActive :=
  { ctrl with txqActive := ctrl.txqActive ||| TXRX_STATUS_BITMASK }

/-- `t7xx_dpmaif_suspend` with `t7xx_dpmaif_tx_stop` and `t7xx_dpmaif_rx_stop` -/
def dpmaifSuspend (_ : DpmaifStarted) : DpmaifStarted := ⟨fun _ => false, fun _ => false⟩

/-- `t7xx_dpmaif_resume` with `t7xx_dpmaif_start_txrx_qs` -/
def dpmaifResume (_ : DpmaifStarted) : DpmaifStarted := ⟨fun _ => true, fun _ => true⟩

def EntityParam.call : EntityParam → PmCallback → EntityParam
  | .cldma ctrl, .suspend => .cldma (cldmaSuspend ctrl)
  | .cldma ctrl, .suspendLate => .cldma (cldmaSuspendLate ctrl)
  | .cldma ctrl, .resumeEarly => .cldma (cldmaResumeEarly ctrl)
  | .cldma ctrl, .resume => .cldma (cldmaResume ctrl)
  | .dpmaif ctrl, .suspend => .dpmaif (dpmaifSuspend ctrl)
  | .dpmaif ctrl, .resume => .dpmaif (dpmaifResume ctrl)
  | .dpmaif ctrl, .suspendLate => .dpmaif ctrl
  | .dpmaif ctrl, .resumeEarly => .dpmaif ctrl

/-- What the actions of the PM code work on: the SAP_RGU interrupt and the entities. -/
structure Platform where
  sapRguInt : Bool
  param : PmId → EntityParam

def Platform.act (hw : Platform) : Action → Platform
  | .macSetInt .sapRgu => { hw with sapRguInt := true }
  | .macClearInt .sapRgu => { hw with sapRguInt := false }
  | .entityCall callback id => { hw with param := Function.update hw.param id ((hw.param id).call callback) }
  | _ => hw

def PciDev.platform (boot : Platform) (dev : PciDev) : Platform := dev.actions.foldl Platform.act boot

inductive IrqReturn where
  | handled
  | wakeThread
deriving DecidableEq, Repr

/-- `t7xx_rgu_isr_handler`, which sets `rgu_irq_asserted`. -/
def rguIsrHandler (dev : PciDev) (rguIrqAsserted : Bool) : PciDev × Bool × IrqReturn :=
  let dev := dev.act .clearRguIrq
  if dev.rguPciIrqEn = false then (dev, rguIrqAsserted, .handled)
  else (dev.act (.macClearInt .sapRgu), true, .wakeThread)

def suspendSucceeded (answers : SuspendAnswers) (entities : List PmEntity) : List PmEntity :=
  entities.takeWhile fun entity => answers.entitySuspend entity.id = 0

def EntityParam.SameQueues : EntityParam → EntityParam → Prop
  | .cldma after, .cldma before =>
    after.txqActive = before.txqActive ∧ after.rxqActive = before.rxqActive
  | .dpmaif after, .dpmaif before => after = before
  | _, _ => False

/-- What an aborted suspend has to leave as it was: the state of the device, its RGU interrupt and
    the queues of the entities that it did suspend. -/
structure Unchanged (boot : Platform) (suspended : List PmEntity) (before after : PciDev) : Prop where
  pmState : after.mdPmState = before.mdPmState
  rguPciIrqEn : after.rguPciIrqEn = before.rguPciIrqEn
  sapRguInt : (after.platform boot).sapRguInt = (before.platform boot).sapRguInt
  param : ∀ entity ∈ suspended,
    ((after.platform boot).param entity.id).SameQueues ((before.platform boot).param entity.id)
  rgu : ∀ asserted, (rguIsrHandler after asserted).2 = (rguIsrHandler before asserted).2

def EntityParam.Running : EntityParam → Prop
  | .cldma ctrl => ctrl.txqActive &&& TXRX_STATUS_BITMASK = TXRX_STATUS_BITMASK
  | .dpmaif ctrl => (∀ q, ctrl.txq q = true) ∧ ∀ q, ctrl.rxq q = true

def Registered (entities : List PmEntity) : Prop :=
  (entities.map PmEntity.id).Nodup ∧ ∀ entity ∈ entities, entity ∈ probedDev.mdPmEntities

section Calls

variable {boot : Platform}

theorem platform_act (dev : PciDev) (action : Action) :
    (dev.act action).platform boot = (dev.platform boot).act action :=
  List.foldl_append ..

theorem platform_setPmState (dev : PciDev) (state : PmState) :
    (dev.setPmState state).platform boot = dev.platform boot := rfl

theorem platform_setRgu (dev : PciDev) (enabled : Bool) :
    (dev.setRgu enabled).platform boot = dev.platform boot := rfl

def callEntities (callback : PmCallback) (ids : List PmId) (dev : PciDev) : PciDev :=
  ids.foldl (fun dev id => dev.act (.entityCall callback id)) dev

theorem callEntities_dev (callback : PmCallback) (ids : List PmId) (dev : PciDev) :
    ∃ actions, callEntities callback ids dev = { dev with actions } := by
  induction ids generalizing dev with
  | nil => exact ⟨dev.actions, rfl⟩
  | cons id ids ih =>
    obtain ⟨actions, rest⟩ := ih (dev.act (.entityCall callback id))
    exact ⟨actions, rest⟩

theorem callEntities_platform (callback : PmCallback) {ids : List PmId} (nodup : ids.Nodup)
    (dev : PciDev) :
    ((callEntities callback ids dev).platform boot).sapRguInt = (dev.platform boot).sapRguInt ∧
      ∀ id, ((callEntities callback ids dev).platform boot).param id =
        if id ∈ ids then ((dev.platform boot).param id).call callback
        else (dev.platform boot).param id := by
  induction ids generalizing dev with
  | nil => exact ⟨rfl, fun id => rfl⟩
  | cons first ids ih =>
    obtain ⟨fresh, distinct⟩ := List.nodup_cons.mp nodup
    obtain ⟨int, param⟩ := ih distinct (dev.act (.entityCall callback first))
    have called : (dev.act (.entityCall callback first)).platform boot =
        (dev.platform boot).act (.entityCall callback first) := platform_act dev _
    rw [called] at int param
    refine ⟨int, fun id => (param id).trans ?_⟩
    have other : ((dev.platform boot).act (.entityCall callback first)).param = Function.update
        (dev.platform boot).param first (((dev.platform boot).param first).call callback) := rfl
    rw [other]
    by_cases here : id = first
    · rw [here, if_neg fresh, Function.update_self, if_pos List.mem_cons_self]
    · rw [Function.update_of_ne here]
      have same : id ∈ first :: ids ↔ id ∈ ids := List.mem_cons.trans (or_iff_right here)
      rw [if_congr same rfl rfl]

theorem clear_then_set (active mask : BitVec 16) : active &&& ~~~mask ||| mask = active ||| mask := by
  ext i below
  rw [BitVec.getElem_or, BitVec.getElem_and, BitVec.getElem_not, BitVec.getElem_or]
  cases mask[i] with
  | true => rw [Bool.or_true, Bool.or_true]
  | false => rw [Bool.not_false, Bool.and_true]

theorem or_eq_left_iff (active mask : BitVec 16) : active ||| mask = active ↔ active &&& mask = mask := by
  constructor
  · intro same
    rw [← same]
    ext i below
    rw [BitVec.getElem_and, BitVec.getElem_or]
    cases active[i] <;> cases mask[i] <;> rfl
  · intro set
    rw [← set]
    ext i below
    rw [BitVec.getElem_or, BitVec.getElem_and]
    cases active[i] <;> cases mask[i] <;> rfl

/-- Suspended and resumed, the queues of an entity are as before exactly if they were running. -/
theorem sameQueues_resume_suspend (param : EntityParam) :
    ((param.call .suspend).call .resume).SameQueues param ↔ param.Running := by
  cases param with
  | cldma ctrl =>
    show (ctrl.txqActive &&& ~~~TXRX_STATUS_BITMASK ||| TXRX_STATUS_BITMASK = ctrl.txqActive ∧
      ctrl.rxqActive = ctrl.rxqActive) ↔ ctrl.txqActive &&& TXRX_STATUS_BITMASK = TXRX_STATUS_BITMASK
    rw [clear_then_set, and_iff_left rfl]
    exact or_eq_left_iff _ _
  | dpmaif ctrl =>
    obtain ⟨txq, rxq⟩ := ctrl
    show (DpmaifStarted.mk (fun _ => true) fun _ => true) = ⟨txq, rxq⟩ ↔ _
    rw [DpmaifStarted.mk.injEq]
    constructor
    · rintro ⟨rfl, rfl⟩
      exact ⟨fun _ => rfl, fun _ => rfl⟩
    · rintro ⟨tx, rx⟩
      exact ⟨(funext tx).symm, (funext rx).symm⟩

end Calls

section Aborts

/-- The suspend callbacks are called up to the first that fails. -/
theorem suspendEntities_cases (answers : SuspendAnswers) {entities : List PmEntity}
    (callbacks : ∀ entity ∈ entities, entity.suspend = true) (dev : PciDev) :
    (suspendSucceeded answers entities = entities ∧
        suspendEntities answers.entitySuspend entities dev =
          (callEntities .suspend (entities.map PmEntity.id) dev, 0, .invalid)) ∨
      ∃ failing rest, entities = suspendSucceeded answers entities ++ failing :: rest ∧
        answers.entitySuspend failing.id ≠ 0 ∧
        suspendEntities answers.entitySuspend entities dev =
          (callEntities .suspend ((suspendSucceeded answers entities ++ [failing]).map PmEntity.id) dev,
            answers.entitySuspend failing.id, failing.id) := by
  induction entities generalizing dev with
  | nil => exact Or.inl ⟨rfl, rfl⟩
  | cons entity entities ih =>
    have callback := callbacks entity List.mem_cons_self
    have later := ih (fun other member => callbacks other (List.mem_cons_of_mem _ member))
      (dev.act (.entityCall .suspend entity.id))
    unfold suspendEntities
    rw [if_neg (by simp [callback])]
    dsimp only
    by_cases good : answers.entitySuspend entity.id = 0
    · have first : suspendSucceeded answers (entity :: entities) =
          entity :: suspendSucceeded answers entities := List.takeWhile_cons_of_pos (by simp [good])
      rw [if_neg (not_not.mpr good), first]
      rcases later with ⟨all, called⟩ | ⟨failing, rest, split, failed, called⟩
      · exact Or.inl ⟨by rw [all], called⟩
      · exact Or.inr ⟨failing, rest, by rw [List.cons_append, ← split], failed, called⟩
    · have none : suspendSucceeded answers (entity :: entities) = [] :=
        List.takeWhile_cons_of_neg (by simp [good])
      rw [if_pos good, none]
      exact Or.inr ⟨entity, entities, rfl, good, rfl⟩

theorem abortSuspend_calls {failed : PmId} {dev : PciDev} {resumed rest : List PmEntity}
    (entities : dev.mdPmEntities = resumed ++ rest)
    (before : ∀ entity ∈ resumed, entity.id ≠ failed)
    (stops : ∀ entity ∈ rest.head?, entity.id = failed)
    (callbacks : ∀ entity ∈ resumed, entity.resume = true) :
    abortSuspend failed dev =
      (((callEntities .resume (resumed.map PmEntity.id) dev).act (.aspmLowpwr true)).setPmState
        .resumed).act (.macSetInt .sapRgu) := by
  have prefixed : dev.mdPmEntities.takeWhile (fun entity => entity.id ≠ failed) = resumed := by
    rw [entities, List.takeWhile_append_of_pos (by simpa using before)]
    cases rest with
    | nil => rw [List.takeWhile_nil, List.append_nil]
    | cons entity rest =>
      rw [List.takeWhile_cons_of_neg (by simpa using stops entity rfl), List.append_nil]
  have calls : ∀ dev, resumed.foldl (fun dev entity =>
      if entity.resume then dev.act (.entityCall .resume entity.id) else dev) dev =
        callEntities .resume (resumed.map PmEntity.id) dev := by
    clear prefixed before entities
    induction resumed with
    | nil => exact fun _ => rfl
    | cons entity resumed ih =>
      intro dev
      have callback := callbacks entity List.mem_cons_self
      rw [List.foldl_cons, if_pos callback]
      exact ih (fun other member => callbacks other (List.mem_cons_of_mem _ member)) _
  unfold abortSuspend
  dsimp only
  rw [prefixed, calls]

/-- The tail resumes entities that were suspended, and sets the RGU interrupt but not
    `rgu_pci_irq_en`. -/
theorem abortSuspend_restores {boot : Platform} {failed : PmId} {entered dev : PciDev}
    {suspended : List PmId} {resumed rest : List PmEntity}
    (entities : dev.mdPmEntities = resumed ++ rest)
    (before : ∀ entity ∈ resumed, entity.id ≠ failed)
    (stops : ∀ entity ∈ rest.head?, entity.id = failed)
    (callbacks : ∀ entity ∈ resumed, entity.resume = true)
    (called : dev.platform boot = (callEntities .suspend suspended entered).platform boot)
    (once : suspended.Nodup) (resumedOnce : (resumed.map PmEntity.id).Nodup)
    (among : ∀ entity ∈ resumed, entity.id ∈ suspended) :
    let after := abortSuspend failed dev
    after.mdPmState = .resumed ∧ after.rguPciIrqEn = dev.rguPciIrqEn ∧
      (after.platform boot).sapRguInt = true ∧
      ∀ entity ∈ resumed, (after.platform boot).param entity.id =
        (((entered.platform boot).param entity.id).call .suspend).call .resume := by
  obtain ⟨actions, same⟩ := callEntities_dev .resume (resumed.map PmEntity.id) dev
  obtain ⟨_, resumeParam⟩ := @callEntities_platform boot .resume _ resumedOnce dev
  obtain ⟨_, suspendParam⟩ := @callEntities_platform boot .suspend _ once entered
  have platform : ((((callEntities .resume (resumed.map PmEntity.id) dev).act
      (.aspmLowpwr true)).setPmState .resumed).act (.macSetInt .sapRgu)).platform boot =
        ((callEntities .resume (resumed.map PmEntity.id) dev).platform boot).act (.macSetInt .sapRgu) := by
    rw [platform_act, platform_setPmState, platform_act]
    rfl
  dsimp only
  rw [abortSuspend_calls entities before stops callbacks, platform]
  refine ⟨rfl, by rw [same]; rfl, rfl, fun entity member => ?_⟩
  show ((callEntities .resume (resumed.map PmEntity.id) dev).platform boot).param entity.id = _
  rw [resumeParam, if_pos (List.mem_map_of_mem member), called, suspendParam, if_pos (among entity member)]

theorem suspendEntry_platform (boot : Platform) (dev : PciDev) :
    ((suspendEntry dev).platform boot).param = (dev.platform boot).param := by
  have platform : (suspendEntry dev).platform boot =
      (((dev.platform boot).act (.aspmLowpwr false)).act .waitPmConfig).act (.macClearInt .sapRgu) := by
    unfold suspendEntry
    dsimp only
    rw [platform_setRgu, platform_act, platform_setPmState, platform_act, platform_act]
  rw [platform]
  rfl

theorem registered_callbacks {entities : List PmEntity} (registered : Registered entities) :
    ∀ entity ∈ entities, entity.suspend = true ∧ entity.resume = true ∧ entity.id ≠ .invalid := by
  intro entity member
  have known := registered.2 entity member
  revert known
  show entity ∈ [_, _, _] → _
  simp only [List.mem_cons, List.not_mem_nil, or_false]
  rintro (rfl | rfl | rfl)
  · decide
  · decide
  · decide

/-- What a failed suspend leaves behind, whose callbacks began with `entered`. -/
structure Aborted (boot : Platform) (suspended : List PmEntity) (entered after : PciDev) : Prop where
  pmState : after.mdPmState = .resumed
  rguPciIrqEn : after.rguPciIrqEn = entered.rguPciIrqEn
  sapRguInt : (after.platform boot).sapRguInt = true
  param : ∀ entity ∈ suspended, (after.platform boot).param entity.id =
    (((entered.platform boot).param entity.id).call .suspend).call .resume

/-- The MD did not acknowledge: every entity was suspended and is resumed. -/
theorem suspendRequests_aborted {boot : Platform} {answers : SuspendAnswers} {entered : PciDev}
    (registered : Registered entered.mdPmEntities)
    (failed : (suspendRequests answers
      (callEntities .suspend (entered.mdPmEntities.map PmEntity.id) entered)).2 ≠ 0) :
    Aborted boot entered.mdPmEntities entered (suspendRequests answers
      (callEntities .suspend (entered.mdPmEntities.map PmEntity.id) entered)).1 := by
  have known := registered_callbacks registered
  obtain ⟨actions, same⟩ := callEntities_dev .suspend (entered.mdPmEntities.map PmEntity.id) entered
  generalize suspended : callEntities .suspend (entered.mdPmEntities.map PmEntity.id) entered = dev
    at failed same
  have silent : answers.suspendAck = false := by
    by_contra acked
    rw [Bool.not_eq_false] at acked
    refine failed ?_
    unfold suspendRequests sendPmRequest
    rw [acked]
    rfl
  have aborted : suspendRequests answers dev =
      (abortSuspend .invalid (dev.act (.pmRequest .suspendReq false)), -ETIMEDOUT) := by
    unfold suspendRequests sendPmRequest
    rw [silent]
    rfl
  have entities : (dev.act (.pmRequest .suspendReq false)).mdPmEntities = entered.mdPmEntities ++ [] := by
    rw [same, List.append_nil]
    rfl
  have called : (dev.act (.pmRequest .suspendReq false)).platform boot =
      (callEntities .suspend (entered.mdPmEntities.map PmEntity.id) entered).platform boot := by
    rw [suspended, platform_act]
    rfl
  obtain ⟨state, rgu, int, restored⟩ := abortSuspend_restores entities
    (fun entity member => (known entity member).2.2) nofun
    (fun entity member => (known entity member).2.1) called registered.1 registered.1
    (fun entity member => List.mem_map_of_mem member)
  rw [aborted]
  exact ⟨state, rgu.trans (by rw [same]; rfl), int, restored⟩

/-- A callback failed: the entities before it were suspended and are resumed. -/
theorem suspendEntities_aborted {boot : Platform} {entered : PciDev} {succeeded rest : List PmEntity}
    {failing : PmEntity} (registered : Registered entered.mdPmEntities)
    (split : entered.mdPmEntities = succeeded ++ failing :: rest) :
    Aborted boot succeeded entered (abortSuspend failing.id
      (callEntities .suspend ((succeeded ++ [failing]).map PmEntity.id) entered)) := by
  have known := registered_callbacks registered
  obtain ⟨actions, same⟩ := callEntities_dev .suspend ((succeeded ++ [failing]).map PmEntity.id) entered
  have once := registered.1
  rw [split] at known
  rw [split, List.append_cons, List.map_append] at once
  have suspendedOnce := once.of_append_left
  obtain ⟨resumedOnce, _, apart⟩ := List.nodup_append.mp (List.map_append ▸ suspendedOnce)
  have entities : (callEntities .suspend ((succeeded ++ [failing]).map PmEntity.id) entered).mdPmEntities =
      succeeded ++ failing :: rest := by
    rw [same]
    exact split
  obtain ⟨state, rgu, int, restored⟩ := @abortSuspend_restores boot failing.id entered _ _ succeeded
    (failing :: rest) entities
    (fun entity member => apart _ (List.mem_map_of_mem member) _ (List.mem_map_of_mem List.mem_cons_self))
    (fun entity first => by cases first; rfl)
    (fun entity member => (known entity (List.mem_append_left _ member)).2.1) rfl suspendedOnce
    resumedOnce (fun entity member => List.mem_map_of_mem (List.mem_append_left _ member))
  exact ⟨state, rgu.trans (by rw [same]), int, restored⟩

theorem pciPmSuspend_aborted {answers : SuspendAnswers} {dev : PciDev} (boot : Platform)
    (resumed : dev.mdPmState = .resumed) (ready : dev.mode = .ready)
    (registered : Registered dev.mdPmEntities) (failed : (pciPmSuspend answers dev).2 ≠ 0) :
    Aborted boot (suspendSucceeded answers dev.mdPmEntities) (suspendEntry dev)
      (pciPmSuspend answers dev).1 := by
  have accepted : ¬ (dev.mdPmState.value ≤ PmState.init.value ∨ dev.mode ≠ .ready) := by
    rw [resumed, ready]
    decide
  have entered : Registered (suspendEntry dev).mdPmEntities := registered
  have callbacks := fun entity member => (registered_callbacks registered entity member).1
  have cases := suspendEntities_cases answers callbacks (suspendEntry dev)
  revert failed
  unfold pciPmSuspend
  rw [if_neg accepted]
  dsimp only
  rw [show (suspendEntry dev).mdPmEntities = dev.mdPmEntities from rfl]
  generalize suspendEntities answers.entitySuspend dev.mdPmEntities (suspendEntry dev) = result at cases
  obtain ⟨called, ret, id⟩ := result
  rcases cases with ⟨all, same⟩ | ⟨failing, rest, split, error, same⟩
  · cases same
    rw [all]
    exact fun failed => suspendRequests_aborted entered failed
  · cases same
    dsimp only
    rw [if_pos error]
    exact fun _ => suspendEntities_aborted entered split

/-- A suspend that fails leaves everything it should as it was exactly if `rgu_pci_irq_en` was clear
    and what its tail sets was set before. -/
theorem failed_suspend_unchanged_iff (answers : SuspendAnswers) (dev : PciDev) (boot : Platform)
    (resumed : dev.mdPmState = .resumed) (ready : dev.mode = .ready)
    (registered : Registered dev.mdPmEntities) (failed : (pciPmSuspend answers dev).2 ≠ 0) :
    Unchanged boot (suspendSucceeded answers dev.mdPmEntities) dev (pciPmSuspend answers dev).1 ↔
      dev.rguPciIrqEn = false ∧ (dev.platform boot).sapRguInt = true ∧
        ∀ entity ∈ suspendSucceeded answers dev.mdPmEntities,
          ((dev.platform boot).param entity.id).Running := by
  obtain ⟨state, rgu, int, restored⟩ := pciPmSuspend_aborted boot resumed ready registered failed
  rw [suspendEntry_platform] at restored
  have cleared : (pciPmSuspend answers dev).1.rguPciIrqEn = false := rgu
  constructor
  · rintro ⟨_, sameRgu, sameInt, sameParam, _⟩
    refine ⟨sameRgu.symm.trans cleared, sameInt.symm.trans int, fun entity member => ?_⟩
    have same := sameParam entity member
    rw [restored entity member] at same
    exact (sameQueues_resume_suspend _).mp same
  · rintro ⟨wasClear, wasSet, running⟩
    refine ⟨state.trans resumed.symm, cleared.trans wasClear.symm, int.trans wasSet.symm, ?_, ?_⟩
    · intro entity member
      rw [restored entity member]
      exact (sameQueues_resume_suspend _).mpr (running entity member)
    · intro asserted
      unfold rguIsrHandler
      dsimp only [PciDev.act]
      rw [cleared, wasClear]
      rfl

def armedPlatform : Platform where
  sapRguInt := true
  param
    | .data => .dpmaif ⟨fun _ => true, fun _ => true⟩
    | _ => .cldma ⟨TXRX_STATUS_BITMASK, TXRX_STATUS_BITMASK, 0⟩

def runningDev (rguPciIrqEn : Bool) : PciDev := { probedDev with mdPmState := .resumed, rguPciIrqEn }

def silentMd : SuspendAnswers := ⟨fun _ => 0, false, false⟩

theorem suspend_timeout_disarms_rgu :
    (pciPmSuspend silentMd (runningDev true)).2 ≠ 0 ∧
      ¬ Unchanged armedPlatform (suspendSucceeded silentMd (runningDev true).mdPmEntities)
        (runningDev true) (pciPmSuspend silentMd (runningDev true)).1 := by
  refine ⟨by decide, fun unchanged => ?_⟩
  have disarmed : (pciPmSuspend silentMd (runningDev true)).1.rguPciIrqEn = false := by decide
  exact absurd (disarmed.symm.trans unchanged.rguPciIrqEn) (by decide)

theorem registered_probedDev : Registered probedDev.mdPmEntities :=
  ⟨by decide, fun _ member => member⟩

theorem suspend_timeout_of_disarmed :
    Unchanged armedPlatform (suspendSucceeded silentMd (runningDev false).mdPmEntities)
      (runningDev false) (pciPmSuspend silentMd (runningDev false)).1 := by
  refine (failed_suspend_unchanged_iff silentMd (runningDev false) armedPlatform rfl rfl
    registered_probedDev (by decide)).mpr ⟨rfl, rfl, ?_⟩
  show ∀ entity ∈ [_, _, _], _
  simp only [List.mem_cons, List.not_mem_nil, or_false]
  rintro entity (rfl | rfl | rfl)
  · exact ⟨fun _ => rfl, fun _ => rfl⟩
  · show TXRX_STATUS_BITMASK &&& TXRX_STATUS_BITMASK = TXRX_STATUS_BITMASK
    decide
  · show TXRX_STATUS_BITMASK &&& TXRX_STATUS_BITMASK = TXRX_STATUS_BITMASK
    decide

end Aborts

end T7xxModel.Pci
