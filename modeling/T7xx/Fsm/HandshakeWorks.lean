import T7xx.Fsm.Handshake

namespace T7xxModel.Fsm

open Transition Pci

/-- Where the MHCCIF interrupt thread is: it reads the status, looks at it in `t7xx_pci_mhccif_isr`
    and acknowledges what it read. -/
inductive IsrThread where
  | idle
  | read (intStatus : BitVec 32)
  | ran (intStatus : BitVec 32)
deriving DecidableEq, Repr

inductive BootStage where
  | preStart
  | waitingHs1
  | started
deriving DecidableEq, Repr

/-- One boot from `FSM_PRE_START` on: which handshake interrupts have arrived, and how often
    `queue_work` has queued the work of each. -/
structure HkBoot where
  m : Modem
  isr : IsrThread
  stage : BootStage
  mdBegun : Bool
  arrived : Core → Bool
  queued : Core → Nat

inductive HkLabel where
  | arrive (core : Core)
  | otherInt (bits : BitVec 32)
  | isrRead
  | isrRun
  | isrAck
  | notifyPreStart
  | broadcastHs1
  | notifyStart
  | workStart (core : Core)
  | mdBroadcast
deriving DecidableEq, Repr

/-- `t7xx_md_hk_wq` up to the handler of the core. -/
def mdHkBroadcast (m : Modem) : Modem := hkWorkBroadcast .md (fsmClrEvent .mdHs2Exit m)

/-- Interrupts that are neither handshakes nor an exception. -/
def OtherInts (bits : BitVec 32) : Prop :=
  bits &&& (D2H_INT_ASYNC_MD_HK ||| D2H_INT_ASYNC_AP_HK ||| D2H_INT_EXCEPTION_INIT) = 0

instance (bits : BitVec 32) : Decidable (OtherInts bits) := inferInstanceAs (Decidable (_ = _))

/-- The modem after a step, with the works that the step queued. -/
def HkBoot.update (s : HkBoot) (m : Modem) : HkBoot :=
  { s with
    m
    queued := fun core =>
      s.queued core + if s.m.workQueued core = false ∧ m.workQueued core = true then 1 else 0 }

def isrRun (intStatus : BitVec 32) (m : Modem) : Modem :=
  if intStatus &&& D2H_SW_INT_MASK ≠ 0 then pciMhccifIsr m else m

def isrAck (intStatus : BitVec 32) (m : Modem) : Modem :=
  { m with swIntSts := m.swIntSts &&& ~~~intStatus }

theorem mhccifIsrThread_steps (m : Modem) :
    mhccifIsrThread m = isrAck m.swIntSts (isrRun m.swIntSts m) := rfl

def HkBoot.step (s : HkBoot) : HkLabel → Option HkBoot
  | .arrive core =>
    if s.arrived core = false then
      some { s with
        m := { s.m with swIntSts := s.m.swIntSts ||| core.hkInt }
        arrived := Function.update s.arrived core true }
    else none
  | .otherInt bits =>
    if OtherInts bits then some { s with m := { s.m with swIntSts := s.m.swIntSts ||| bits } }
    else none
  | .isrRead => if s.isr = .idle then some { s with isr := .read s.m.swIntSts } else none
  | .isrRun =>
    match s.isr with
    | .read intStatus => some ({ s with isr := .ran intStatus }.update (isrRun intStatus s.m))
    | _ => none
  | .isrAck =>
    match s.isr with
    | .ran intStatus => some { s with isr := .idle, m := isrAck intStatus s.m }
    | _ => none
  | .notifyPreStart =>
    if s.stage = .preStart then some { s with m := mdEventPreStart s.m } else none
  | .broadcastHs1 =>
    if s.stage = .preStart then
      some { s with
        m := fsmBroadcastState .waitingForHs1 { s.m with currState := .starting }
        stage := .waitingHs1 }
    else none
  | .notifyStart =>
    if s.stage = .waitingHs1 then some ({ s with stage := .started }.update (mdEventStart s.m))
    else none
  | .workStart core =>
    if s.m.workQueued core = true then
      some { s with m := hkWorkTake core s.m, mdBegun := if core = .md then true else s.mdBegun }
    else none
  | .mdBroadcast =>
    if s.mdBegun = true then some { s with m := mdHkBroadcast s.m, mdBegun := false } else none

/-- The boot of `m` after `FSM_PRE_START`. -/
def hkBootOf (m : Modem) : HkBoot where
  m := mdEventPreStart m
  isr := .idle
  stage := .preStart
  mdBegun := false
  arrived := fun _ => false
  queued := fun _ => 0

def Core.hkBit : Core → Nat
  | .md => 16
  | .ap => 15

def Modem.exp (m : Modem) (core : Core) : Bool := m.expId.getLsbD core.hkBit
def Modem.sts (m : Modem) (core : Core) : Bool := m.swIntSts.getLsbD core.hkBit
def Modem.masked (m : Modem) (core : Core) : Bool := m.mhccifMask.getLsbD core.hkBit

/-- The handshake interrupt of a core is latched or not acknowledged. -/
def Modem.found (m : Modem) (core : Core) : Bool := m.exp core || m.sts core

def Modem.portEnumFound (m : Modem) : Bool := m.expId.getLsbD 5 || m.swIntSts.getLsbD 5

/-- No exception has been raised. -/
structure Calm (m : Modem) : Prop where
  expFlg : m.expFlg = false
  expId : m.expId.getLsbD 1 = false
  swIntSts : m.swIntSts.getLsbD 1 = false

/-- A pass of `t7xx_pci_mhccif_isr` queues the work of the MD handshake. -/
def Modem.IsrQueues (m : Modem) : Prop :=
  m.portEnumFound = false ∧ m.mdState = .waitingForHs1 ∧ m.found .md = true ∧ m.masked .md = false

instance (m : Modem) : Decidable m.IsrQueues := inferInstanceAs (Decidable (_ ∧ _ ∧ _ ∧ _))

section Bits

theorem and_shift_ne_zero {i : Nat} (x : BitVec 32) (below : i < 32) :
    x &&& (1#32 <<< i) ≠ 0 ↔ x.getLsbD i = true := by
  show x &&& BitVec.twoPow 32 i ≠ 0 ↔ _
  rw [BitVec.and_twoPow]
  split
  · rename_i set
    refine ⟨fun _ => set, fun _ zero => ?_⟩
    have bit := congrArg (fun y => y.getLsbD i) zero
    simp [below] at bit
  · rename_i clear
    exact ⟨fun other => absurd rfl other, fun set => absurd set clear⟩

theorem and_hkInt (core : Core) (x : BitVec 32) :
    x &&& core.hkInt ≠ 0 ↔ x.getLsbD core.hkBit = true := by
  cases core with
  | md => exact and_shift_ne_zero x (by decide)
  | ap => exact and_shift_ne_zero x (by decide)

theorem hkInt_bit (core other : Core) : core.hkInt.getLsbD other.hkBit = decide (core = other) := by
  cases core <;> cases other <;> decide

theorem hkBit_masked (core : Core) : D2H_SW_INT_MASK.getLsbD core.hkBit = true := by
  cases core <;> decide

theorem hkBit_lt (core : Core) : core.hkBit < 32 := by
  cases core <;> decide

theorem latch_bit {i : Nat} (handled : D2H_SW_INT_MASK.getLsbD i = true) (x y : BitVec 32) :
    (x ||| (y &&& D2H_SW_INT_MASK)).getLsbD i = (x.getLsbD i || y.getLsbD i) := by
  rw [BitVec.getLsbD_or, BitVec.getLsbD_and, handled, Bool.and_true]

/-- Clearing some bits keeps the others. -/
theorem clear_bit {i : Nat} {bits : BitVec 32} (other : bits.getLsbD i = false) (below : i < 32)
    (x : BitVec 32) : (x &&& ~~~bits).getLsbD i = x.getLsbD i := by
  rw [BitVec.getLsbD_and, BitVec.getLsbD_not, other]
  simp [below]

theorem cleared_bit {i : Nat} {bits : BitVec 32} (set : bits.getLsbD i = true) (x : BitVec 32) :
    (x &&& ~~~bits).getLsbD i = false := by
  rw [BitVec.getLsbD_and, BitVec.getLsbD_not, set]
  simp

end Bits

section Passes

/-- What a pass of the interrupt thread leaves alone. -/
structure IsrFrame (m after : Modem) : Prop where
  calm : Calm after
  swIntSts : after.swIntSts = m.swIntSts
  mhccifMask : after.mhccifMask = m.mhccifMask
  mdState : after.mdState = m.mdState
  apWork : after.apHandshakeWork = m.apHandshakeWork
  apExp : after.exp .ap = m.found .ap

/-- A pass latches the handshake of the AP, and queues that of the MD or latches it too. -/
theorem pciMhccifIsr_hk {m : Modem} (calm : Calm m) :
    IsrFrame m (pciMhccifIsr m) ∧
      (m.IsrQueues ∧ (pciMhccifIsr m).handshakeWork = true ∧ (pciMhccifIsr m).exp .md = false ∨
        ¬ m.IsrQueues ∧ (pciMhccifIsr m).handshakeWork = m.handshakeWork ∧
          (pciMhccifIsr m).exp .md = m.found .md) := by
  obtain ⟨expFlg, expId, swIntSts⟩ := calm
  have found : ∀ core : Core, (m.expId ||| (m.swIntSts &&& D2H_SW_INT_MASK)).getLsbD core.hkBit =
      m.found core := fun core => latch_bit (hkBit_masked core) _ _
  have exception : (m.expId ||| (m.swIntSts &&& D2H_SW_INT_MASK)).getLsbD 1 = false := by
    rw [latch_bit (by decide), expId, swIntSts]
    rfl
  have portEnum : (m.expId ||| (m.swIntSts &&& D2H_SW_INT_MASK)).getLsbD 5 = m.portEnumFound :=
    latch_bit (by decide) _ _
  unfold pciMhccifIsr
  dsimp only
  generalize m.expId ||| (m.swIntSts &&& D2H_SW_INT_MASK) = latched at found exception portEnum
  have quiet : ¬ latched &&& D2H_INT_EXCEPTION_INIT ≠ 0 := fun raised => by
    have set := (@and_shift_ne_zero 1 latched (by decide)).mp raised
    rw [exception] at set
    cases set
  have portBit : latched &&& D2H_INT_PORT_ENUM ≠ 0 ↔ m.portEnumFound = true := by
    rw [← portEnum]
    exact and_shift_ne_zero latched (by decide)
  have mdBit : latched &&& D2H_INT_ASYNC_MD_HK ≠ 0 ↔ m.found .md = true := by
    rw [← found .md]
    exact and_hkInt .md latched
  have maskBit : m.mhccifMask &&& D2H_INT_ASYNC_MD_HK = 0 ↔ m.masked .md = false := by
    rw [← Bool.not_eq_true]
    exact not_ne_iff.symm.trans (not_congr (and_hkInt .md m.mhccifMask))
  rw [if_neg quiet]
  by_cases port : m.portEnumFound = true
  · -- A pass that finds PORT_ENUM does not look at the handshakes.
    have stays : ¬ m.IsrQueues := fun queues => by
      rw [queues.1] at port
      cases port
    have kept : ∀ {i}, D2H_INT_PORT_ENUM.getLsbD i = false → i < 32 →
        (latched &&& ~~~D2H_INT_PORT_ENUM).getLsbD i = latched.getLsbD i :=
      fun other below => clear_bit other below latched
    have frame : IsrFrame m { m with expId := latched &&& ~~~D2H_INT_PORT_ENUM } :=
      ⟨⟨expFlg, (kept (by decide) (by decide)).trans exception, swIntSts⟩, rfl, rfl, rfl, rfl,
        (kept (by decide) (by decide)).trans (found .ap)⟩
    have md : (latched &&& ~~~D2H_INT_PORT_ENUM).getLsbD Core.md.hkBit = m.found .md :=
      (kept (by decide) (by decide)).trans (found .md)
    rw [if_pos (portBit.mpr port)]
    split
    · exact ⟨⟨⟨frame.calm.expFlg, frame.calm.expId, swIntSts⟩, rfl, rfl, rfl, rfl, frame.apExp⟩,
        Or.inr ⟨stays, rfl, md⟩⟩
    · exact ⟨frame, Or.inr ⟨stays, rfl, md⟩⟩
  · have kept : IsrFrame m { m with expId := latched } :=
      ⟨⟨expFlg, exception, swIntSts⟩, rfl, rfl, rfl, rfl, found .ap⟩
    rw [if_neg (mt portBit.mp port)]
    rw [Bool.not_eq_true] at port
    split
    · rename_i hs1
      split
      · rename_i taken
        refine ⟨⟨⟨expFlg, ?_, swIntSts⟩, rfl, rfl, rfl, rfl, ?_⟩, Or.inl ⟨?_, rfl, ?_⟩⟩
        · exact (clear_bit (by decide) (by decide) latched).trans exception
        · exact (clear_bit (by decide) (by decide) latched).trans (found .ap)
        · exact ⟨port, hs1, mdBit.mp taken.1, maskBit.mp taken.2⟩
        · exact cleared_bit (by decide) latched
      · rename_i left
        refine ⟨kept, Or.inr ⟨fun queues => ?_, rfl, found .md⟩⟩
        exact left ⟨mdBit.mpr queues.2.2.1, maskBit.mpr queues.2.2.2⟩
    · rename_i other
      exact ⟨kept, Or.inr ⟨fun queues => other queues.2.1, rfl, found .md⟩⟩

theorem found_of_sts {m : Modem} {core : Core} (set : m.sts core = true) : m.found core = true := by
  unfold Modem.found
  rw [set, Bool.or_true]

/-- `FSM_START` took the handshake interrupt of a core, or had none of it to take. -/
structure TookHandshake (core : Core) (found : Bool) (m after : Modem) : Prop where
  exp : ∀ other, after.exp other = (m.exp other && !decide (core = other))
  sts : ∀ other, after.sts other = (m.sts other && !(decide (core = other) && found))
  work : ∀ other, after.workQueued other = (m.workQueued other || (decide (core = other) && found))
  masked : ∀ other, after.masked other = (m.masked other || (decide (core = other) && found))

theorem startHandshakeWork_hk (core : Core) (m : Modem) :
    TookHandshake core (m.exp core) m (startHandshakeWork core m) := by
  have bit := and_hkInt core m.expId
  have cleared : ∀ (other : Core) (x : BitVec 32),
      (x &&& ~~~core.hkInt).getLsbD other.hkBit = (x.getLsbD other.hkBit && !decide (core = other)) := by
    intro other x
    rw [BitVec.getLsbD_and, BitVec.getLsbD_not, hkInt_bit]
    simp [hkBit_lt]
  unfold startHandshakeWork
  split
  · rename_i found
    have set : m.exp core = true := bit.mp found
    rw [set]
    have work : ∀ other, (queueHandshakeWork core m).workQueued other =
        (m.workQueued other || decide (core = other)) := by
      intro other
      cases core <;> cases other <;> simp [queueHandshakeWork, Modem.workQueued]
    constructor
    · intro other
      cases core <;> exact cleared other m.expId
    · intro other
      rw [Bool.and_true]
      cases core <;> exact cleared other m.swIntSts
    · intro other
      rw [Bool.and_true, ← work other]
      cases core <;> cases other <;> rfl
    · intro other
      rw [Bool.and_true, ← hkInt_bit]
      cases core <;> exact BitVec.getLsbD_or
  · rename_i none
    have clear : m.exp core = false := Bool.eq_false_iff.mpr fun set => none (bit.mpr set)
    rw [clear]
    refine ⟨fun other => ?_, fun other => ?_, fun other => ?_, fun other => ?_⟩
    · by_cases same : core = other
      · rw [← same, clear]
        rfl
      · simp [same]
    · simp
    · simp
    · simp

theorem startHandshakeWork_calm (core : Core) {m : Modem} (calm : Calm m) :
    Calm (startHandshakeWork core m) ∧ (startHandshakeWork core m).mdState = m.mdState := by
  have other : core.hkInt.getLsbD 1 = false := by cases core <;> decide
  have kept : ∀ x : BitVec 32, (x &&& ~~~core.hkInt).getLsbD 1 = x.getLsbD 1 :=
    clear_bit other (by decide)
  obtain ⟨expFlg, expId, swIntSts⟩ := calm
  unfold startHandshakeWork
  split
  · cases core with
    | md => exact ⟨⟨expFlg, (kept _).trans expId, (kept _).trans swIntSts⟩, rfl⟩
    | ap => exact ⟨⟨expFlg, (kept _).trans expId, (kept _).trans swIntSts⟩, rfl⟩
  · exact ⟨⟨expFlg, expId, swIntSts⟩, rfl⟩

/-- `FSM_START` queues the works of the handshakes it finds, and masks and acknowledges them. -/
structure StartOutcome (m after : Modem) : Prop where
  calm : Calm after
  mdState : after.mdState = m.mdState
  exp : ∀ core, after.exp core = false
  sts : ∀ core, after.sts core = false
  work : ∀ core, after.workQueued core = (m.workQueued core || m.found core)
  masked : ∀ core, after.masked core = (m.masked core || m.found core)

/-- The modem after the first lines of `FSM_START`. -/
def startLatched (m : Modem) : Modem :=
  { mhccifMaskSet D2H_INT_PORT_ENUM m with expId := m.expId ||| (m.swIntSts &&& D2H_SW_INT_MASK) }

theorem startLatched_hk {m : Modem} (calm : Calm m) :
    Calm (startLatched m) ∧ ∀ core, (startLatched m).exp core = m.found core ∧
      (startLatched m).sts core = m.sts core ∧ (startLatched m).masked core = m.masked core := by
  have exception : (m.expId ||| (m.swIntSts &&& D2H_SW_INT_MASK)).getLsbD 1 = false := by
    rw [latch_bit (by decide), calm.expId, calm.swIntSts]
    rfl
  refine ⟨⟨calm.expFlg, exception, calm.swIntSts⟩, fun core => ⟨?_, rfl, ?_⟩⟩
  · exact latch_bit (hkBit_masked core) _ _
  · show (m.mhccifMask ||| D2H_INT_PORT_ENUM).getLsbD core.hkBit = _
    have other : D2H_INT_PORT_ENUM.getLsbD core.hkBit = false := by cases core <;> decide
    rw [BitVec.getLsbD_or, other, Bool.or_false]
    rfl

theorem mdEventStart_hk {m : Modem} (calm : Calm m) : StartOutcome m (mdEventStart m) := by
  obtain ⟨latchedCalm, latched⟩ := startLatched_hk calm
  have md := startHandshakeWork_hk .md (startLatched m)
  have ap := startHandshakeWork_hk .ap (startHandshakeWork .md (startLatched m))
  obtain ⟨mdCalm, mdState⟩ := startHandshakeWork_calm .md latchedCalm
  obtain ⟨apCalm, apState⟩ := startHandshakeWork_calm .ap mdCalm
  have quiet : ¬ (startLatched m).expId &&& D2H_INT_EXCEPTION_INIT ≠ 0 := fun raised => by
    have set := (@and_shift_ne_zero 1 (startLatched m).expId (by decide)).mp raised
    rw [latchedCalm.expId] at set
    cases set
  have taken : mdEventStart m = mhccifMaskClr (D2H_INT_EXCEPTION_INIT ||| D2H_INT_EXCEPTION_INIT_DONE |||
      D2H_INT_EXCEPTION_CLEARQ_DONE ||| D2H_INT_EXCEPTION_ALLQ_RESET)
        (startHandshakeWork .ap (startHandshakeWork .md (startLatched m))) := by
    show mhccifMaskClr _ (if (startLatched m).expId &&& D2H_INT_EXCEPTION_INIT ≠ 0 then _
      else if (startLatched m).expFlg then _ else _) = _
    rw [if_neg quiet, if_neg (by rw [latchedCalm.expFlg]; decide)]
    rfl
  have mdExp : (startLatched m).exp .md = m.found .md := (latched .md).1
  have apExp : (startHandshakeWork .md (startLatched m)).exp .ap = m.found .ap := by
    rw [md.exp, (latched .ap).1]
    exact Bool.and_true _
  rw [taken]
  have after := apCalm
  refine ⟨⟨after.expFlg, after.expId, after.swIntSts⟩, apState.trans mdState, fun core => ?_,
    fun core => ?_, fun core => ?_, fun core => ?_⟩
  · show (startHandshakeWork .ap (startHandshakeWork .md (startLatched m))).exp core = false
    rw [ap.exp, md.exp]
    cases core <;> simp
  · show (startHandshakeWork .ap (startHandshakeWork .md (startLatched m))).sts core = false
    rw [ap.sts, md.sts, mdExp, apExp, (latched core).2.1]
    have unacked := @found_of_sts m core
    cases core
    · simpa using unacked
    · simpa using unacked
  · show (startHandshakeWork .ap (startHandshakeWork .md (startLatched m))).workQueued core = _
    rw [ap.work, md.work, mdExp, apExp]
    cases core <;> simp <;> rfl
  · show ((startHandshakeWork .ap (startHandshakeWork .md (startLatched m))).mhccifMask &&&
      ~~~_).getLsbD core.hkBit = _
    rw [clear_bit (by cases core <;> decide) (hkBit_lt core)]
    show (startHandshakeWork .ap (startHandshakeWork .md (startLatched m))).masked core = _
    rw [ap.masked, md.masked, mdExp, apExp, (latched core).2.2]
    cases core <;> simp

end Passes

/-- The interrupt of a core is not acknowledged though its work was queued, and has begun since. -/
def HkBoot.Stale (s : HkBoot) (core : Core) : Prop :=
  s.m.found core = true ∧ s.queued core ≠ 0 ∧ s.m.workQueued core = false

instance (s : HkBoot) (core : Core) : Decidable (s.Stale core) := inferInstanceAs (Decidable (_ ∧ _ ∧ _))

/-- The interrupt thread is about to run `t7xx_pci_mhccif_isr`. -/
def IsrThread.Enters : IsrThread → Prop
  | .read intStatus => intStatus &&& D2H_SW_INT_MASK ≠ 0
  | _ => False

instance : ∀ isr : IsrThread, Decidable isr.Enters := fun isr => by
  cases isr <;> unfold IsrThread.Enters <;> infer_instance

/-- The AP handshake arrives before `FSM_START`. No interrupt is taken a second time before it is
    acknowledged and after its work began. No pass after `FSM_START` finds PORT_ENUM with the MD
    handshake. -/
def TakenInTime (s : HkBoot) : HkLabel → Prop
  | .arrive .ap => s.stage ≠ .started
  | .notifyStart => ¬ s.Stale .md
  | .isrRun => s.isr.Enters → ¬ (s.m.IsrQueues ∧ s.Stale .md) ∧
      ¬ (s.stage = .started ∧ s.queued .md = 0 ∧ s.m.portEnumFound = true ∧ s.m.found .md = true)
  | _ => True

instance : ∀ (s : HkBoot) label, Decidable (TakenInTime s label) := fun s label => by
  cases label with
  | arrive core => cases core <;> unfold TakenInTime <;> infer_instance
  | _ => unfold TakenInTime; infer_instance

instance {p : Core → Prop} [DecidablePred p] : Decidable (∀ core, p core) :=
  decidable_of_iff (p .md ∧ p .ap) ⟨fun both core => by cases core <;> simp [both], fun all => ⟨all _, all _⟩⟩

/-- Both handshakes have arrived, `FSM_START` is over, and no interrupt is left to be served. -/
def HkBoot.Settled (s : HkBoot) : Prop :=
  s.stage = .started ∧ s.isr = .idle ∧ ∀ core, s.arrived core = true ∧ s.m.sts core = false

instance (s : HkBoot) : Decidable s.Settled := inferInstanceAs (Decidable (_ ∧ _ ∧ _))

/-- No work is queued twice, and both are queued when everything has arrived and been served. -/
def QueuedOnce (s : HkBoot) : Prop :=
  (∀ core, s.queued core ≤ 1) ∧ (s.Settled → ∀ core, s.queued core = 1)

instance (s : HkBoot) : Decidable (QueuedOnce s) := inferInstanceAs (Decidable (_ ∧ _))

/-- The acknowledgement to come covers the interrupt of the core. -/
def IsrThread.Acks (isr : IsrThread) (core : Core) : Prop :=
  match isr with
  | .ran intStatus => intStatus.getLsbD core.hkBit = true
  | _ => False

/-- The thread has read the interrupt of the core and not acknowledged it yet. -/
def IsrThread.Holds (isr : IsrThread) (core : Core) : Prop :=
  match isr with
  | .idle => False
  | .read intStatus => intStatus.getLsbD core.hkBit = true
  | .ran intStatus => intStatus.getLsbD core.hkBit = true

/-- What a core's interrupt needs so that its work will be queued: it is latched for `FSM_START`, or
    not acknowledged without a pass to come. -/
def HkBoot.Awaits (s : HkBoot) (core : Core) : Prop :=
  s.stage ≠ .started ∧ s.m.exp core = true ∨ s.m.sts core = true ∧ ¬ s.isr.Acks core

structure HkSound (s : HkBoot) : Prop where
  calm : Calm s.m
  once : ∀ core, s.queued core ≤ 1
  pending : ∀ core, s.m.workQueued core = true → s.queued core ≠ 0
  begun : s.mdBegun = true → s.queued .md ≠ 0
  hs1 : s.stage ≠ .preStart → s.queued .md = 0 → s.m.mdState = .waitingForHs1
  unmasked : s.queued .md = 0 → s.m.masked .md = false
  apUnqueued : s.stage ≠ .started → s.queued .ap = 0
  apTaken : s.stage = .started → s.arrived .ap = true → s.queued .ap = 1
  quiet : ∀ core, s.arrived core = false → s.m.sts core = false ∧ ¬ s.isr.Holds core
  awaits : ∀ core, s.arrived core = true → s.queued core = 0 → s.Awaits core

section Steps

theorem HkBoot.Awaits.found {s : HkBoot} {core : Core} (awaits : s.Awaits core) :
    s.m.found core = true := by
  unfold Modem.found
  rcases awaits with ⟨_, exp⟩ | ⟨sts, _⟩
  · rw [exp, Bool.true_or]
  · rw [sts, Bool.or_true]

theorem update_queued_kept {s : HkBoot} {m : Modem} {core : Core}
    (kept : m.workQueued core = s.m.workQueued core) : (s.update m).queued core = s.queued core := by
  show s.queued core + (if s.m.workQueued core = false ∧ m.workQueued core = true then 1 else 0) = _
  have same : ¬ (s.m.workQueued core = false ∧ m.workQueued core = true) := by
    rintro ⟨clear, set⟩
    rw [kept, clear] at set
    cases set
  rw [if_neg same, Nat.add_zero]

theorem update_queued_new {s : HkBoot} {m : Modem} {core : Core}
    (idle : s.m.workQueued core = false) (queued : m.workQueued core = true) :
    (s.update m).queued core = s.queued core + 1 := by
  show s.queued core + (if s.m.workQueued core = false ∧ m.workQueued core = true then 1 else 0) = _
  rw [if_pos ⟨idle, queued⟩]

theorem update_same (s : HkBoot) : s.update s.m = s := by
  have kept : (s.update s.m).queued = s.queued := funext fun core => update_queued_kept rfl
  obtain ⟨m, isr, stage, mdBegun, arrived, queued⟩ := s
  exact congrArg (HkBoot.mk m isr stage mdBegun arrived) kept

/-- A work that is queued now was counted. -/
theorem update_queued_pos {s : HkBoot} {m : Modem} {core : Core}
    (pending : s.m.workQueued core = true → s.queued core ≠ 0) (queued : m.workQueued core = true) :
    (s.update m).queued core ≠ 0 := by
  cases before : s.m.workQueued core with
  | true =>
    rw [update_queued_kept (queued.trans before.symm)]
    exact pending before
  | false =>
    rw [update_queued_new before queued]
    omega

/-- A change of the modem that the handshake interrupts do not see. -/
theorem HkSound.of_modem {s : HkBoot} {m : Modem} {mdBegun : Bool} (sound : HkSound s) (calm : Calm m)
    (exp : ∀ core, m.exp core = s.m.exp core) (sts : ∀ core, m.sts core = s.m.sts core)
    (masked : s.m.masked .md = false → m.masked .md = false)
    (work : ∀ core, m.workQueued core = true → s.m.workQueued core = true)
    (mdState : s.queued .md = 0 → m.mdState = s.m.mdState)
    (begun : mdBegun = true → s.queued .md ≠ 0) : HkSound { s with m, mdBegun } := by
  refine ⟨calm, sound.once, fun core queued => sound.pending core (work core queued), begun, ?_, ?_,
    sound.apUnqueued, sound.apTaken, ?_, ?_⟩
  · exact fun late none => (mdState none).trans (sound.hs1 late none)
  · exact fun none => masked (sound.unmasked none)
  · exact fun core unarrived => ⟨(sts core).trans (sound.quiet core unarrived).1,
      (sound.quiet core unarrived).2⟩
  · intro core arrived none
    rcases sound.awaits core arrived none with ⟨early, latched⟩ | ⟨unacked, later⟩
    · exact Or.inl ⟨early, (exp core).trans latched⟩
    · exact Or.inr ⟨(sts core).trans unacked, later⟩

theorem arrive_sound {s t : HkBoot} {core : Core} (sound : HkSound s)
    (intime : TakenInTime s (.arrive core)) (taken : s.step (.arrive core) = some t) : HkSound t := by
  simp only [HkBoot.step, Option.ite_none_right_eq_some, Option.some.injEq] at taken
  obtain ⟨fresh, rfl⟩ := taken
  obtain ⟨⟨expFlg, expId, swIntSts⟩, once, pending, begun, hs1, unmasked, apUnqueued, apTaken, quiet,
    awaits⟩ := sound
  have sts : ∀ other, (s.m.swIntSts ||| core.hkInt).getLsbD other.hkBit =
      (s.m.sts other || decide (core = other)) := by
    intro other
    rw [BitVec.getLsbD_or, hkInt_bit]
    rfl
  have calm : (s.m.swIntSts ||| core.hkInt).getLsbD 1 = false := by
    rw [BitVec.getLsbD_or, swIntSts, Bool.false_or]
    cases core <;> decide
  refine ⟨⟨expFlg, expId, calm⟩, once, pending, begun, hs1, unmasked, apUnqueued, ?_, ?_, ?_⟩
  · intro started arrived
    dsimp only at arrived
    by_cases here : core = .ap
    · rw [here] at intime
      exact absurd started intime
    · exact apTaken started (by rwa [Function.update_of_ne (Ne.symm here)] at arrived)
  · intro other arrived
    dsimp only at arrived
    by_cases here : other = core
    · rw [here, Function.update_self] at arrived
      cases arrived
    · rw [Function.update_of_ne here] at arrived
      refine ⟨(sts other).trans ?_, (quiet other arrived).2⟩
      rw [(quiet other arrived).1, decide_eq_false (Ne.symm here)]
      rfl
  · intro other arrived unqueued
    dsimp only at arrived
    by_cases here : other = core
    · have acks : ¬ s.isr.Acks core := fun acked => by
        refine (quiet core fresh).2 ?_
        revert acked
        cases s.isr with
        | ran intStatus => exact id
        | _ => exact False.elim
      rw [here]
      refine Or.inr ⟨(sts core).trans ?_, acks⟩
      rw [decide_eq_true rfl, Bool.or_true]
    · rw [Function.update_of_ne here] at arrived
      rcases awaits other arrived unqueued with early | ⟨unacked, later⟩
      · exact Or.inl early
      · refine Or.inr ⟨(sts other).trans ?_, later⟩
        rw [unacked, Bool.true_or]

/-- What a pass of `t7xx_pci_mhccif_isr` leaves of the MD core. -/
structure MdPassed (s t : HkBoot) : Prop where
  once : t.queued .md ≤ 1
  begun : s.mdBegun = true → t.queued .md ≠ 0
  hs1 : s.stage ≠ .preStart → t.queued .md = 0 → t.m.mdState = .waitingForHs1
  unmasked : t.queued .md = 0 → t.m.masked .md = false
  awaits : s.arrived .md = true → t.queued .md = 0 → s.stage ≠ .started ∧ t.m.exp .md = true

theorem MdPassed.of_queued {s t : HkBoot} (one : t.queued .md = 1) : MdPassed s t := by
  have some_ : t.queued .md ≠ 0 := by
    rw [one]
    decide
  refine ⟨Nat.le_of_eq one, fun _ => some_, ?_, ?_, ?_⟩
  · exact fun _ none => absurd none some_
  · exact fun none => absurd none some_
  · exact fun _ none => absurd none some_

theorem isrPass_md {s : HkBoot} {intStatus : BitVec 32} (sound : HkSound s) (intime : TakenInTime s .isrRun)
    (entered : s.isr.Enters) : MdPassed s ({ s with isr := .ran intStatus }.update (pciMhccifIsr s.m)) := by
  obtain ⟨fresh, unhidden⟩ := intime entered
  obtain ⟨calm, once, pending, begun, hs1, unmasked, -, -, -, awaits⟩ := sound
  obtain ⟨frame, md⟩ := pciMhccifIsr_hk calm
  rcases md with ⟨queues, work, _⟩ | ⟨stays, work, exp⟩
  · refine .of_queued ?_
    cases before : s.m.handshakeWork with
    | true =>
      have counted := pending .md before
      have most := once .md
      have kept : ({ s with isr := .ran intStatus }.update (pciMhccifIsr s.m)).queued .md =
          s.queued .md := update_queued_kept (work.trans before.symm)
      omega
    | false =>
      have unqueued : s.queued .md = 0 :=
        not_not.mp fun queued => fresh ⟨queues, queues.2.2.1, queued, before⟩
      have new : ({ s with isr := .ran intStatus }.update (pciMhccifIsr s.m)).queued .md =
          s.queued .md + 1 := update_queued_new before work
      omega
  · have kept : ({ s with isr := .ran intStatus }.update (pciMhccifIsr s.m)).queued .md = s.queued .md :=
      update_queued_kept work
    have masked : (pciMhccifIsr s.m).masked .md = s.m.masked .md := by
      unfold Modem.masked
      rw [frame.mhccifMask]
    refine ⟨Nat.le_trans (Nat.le_of_eq kept) (once .md), ?_, ?_, ?_, ?_⟩
    · intro started
      rw [kept]
      exact begun started
    · intro later none
      exact frame.mdState.trans (hs1 later (kept.symm.trans none))
    · intro none
      exact masked.trans (unmasked (kept.symm.trans none))
    · intro arrived none
      have unqueued : s.queued .md = 0 := kept.symm.trans none
      have found := (awaits .md arrived unqueued).found
      refine ⟨fun started => stays ?_, exp.trans found⟩
      have late : s.stage ≠ .preStart := by
        rw [show s.stage = .started from started]
        decide
      refine ⟨?_, hs1 late unqueued, found, unmasked unqueued⟩
      exact Bool.eq_false_iff.mpr fun hidden => unhidden ⟨started, unqueued, hidden, found⟩

/-- What a pass of `t7xx_pci_mhccif_isr` queues or leaves for `FSM_START`. -/
theorem isrPass_sound {s : HkBoot} {intStatus : BitVec 32} (sound : HkSound s)
    (isr : s.isr = .read intStatus) (intime : TakenInTime s .isrRun)
    (enters : intStatus &&& D2H_SW_INT_MASK ≠ 0) :
    HkSound ({ s with isr := .ran intStatus }.update (pciMhccifIsr s.m)) := by
  have entered : s.isr.Enters := by
    rw [isr]
    exact enters
  obtain ⟨mdOnce, mdBegun, mdHs1, mdUnmasked, mdAwaits⟩ := @isrPass_md s intStatus sound intime entered
  obtain ⟨calm, once, pending, -, -, -, apUnqueued, apTaken, quiet, awaits⟩ := sound
  obtain ⟨frame, -⟩ := pciMhccifIsr_hk calm
  have sts : ∀ core, (pciMhccifIsr s.m).sts core = s.m.sts core := by
    intro core
    unfold Modem.sts
    rw [frame.swIntSts]
  have ap : ({ s with isr := .ran intStatus }.update (pciMhccifIsr s.m)).queued .ap = s.queued .ap :=
    update_queued_kept frame.apWork
  have holds : ∀ core, s.arrived core = false → intStatus.getLsbD core.hkBit ≠ true := by
    intro core unarrived held
    refine (quiet core unarrived).2 ?_
    rw [isr]
    exact held
  have apAwaits : s.arrived .ap = true → s.queued .ap = 0 →
      s.stage ≠ .started ∧ (pciMhccifIsr s.m).exp .ap = true := by
    intro arrived unqueued
    refine ⟨fun started => ?_, frame.apExp.trans (awaits .ap arrived unqueued).found⟩
    have queued := apTaken started arrived
    omega
  refine ⟨frame.calm, fun core => ?_, fun core queued => ?_, mdBegun, mdHs1, mdUnmasked, ?_, ?_, ?_, ?_⟩
  · cases core with
    | md => exact mdOnce
    | ap => exact Nat.le_trans (Nat.le_of_eq ap) (once .ap)
  · exact update_queued_pos (pending core) queued
  · exact fun early => ap.trans (apUnqueued early)
  · exact fun started arrived => ap.trans (apTaken started arrived)
  · exact fun core unarrived => ⟨(sts core).trans (quiet core unarrived).1, holds core unarrived⟩
  · intro core arrived none
    cases core with
    | md => exact Or.inl (mdAwaits arrived none)
    | ap => exact Or.inl (apAwaits arrived (ap.symm.trans none))

theorem isrRun_sound {s t : HkBoot} (sound : HkSound s) (intime : TakenInTime s .isrRun)
    (taken : s.step .isrRun = some t) : HkSound t := by
  simp only [HkBoot.step] at taken
  split at taken
  · rename_i intStatus isr
    cases taken
    by_cases enters : intStatus &&& D2H_SW_INT_MASK ≠ 0
    · rw [show isrRun intStatus s.m = pciMhccifIsr s.m from if_pos enters]
      exact isrPass_sound sound isr intime enters
    · obtain ⟨calm, once, pending, begun, hs1, unmasked, apUnqueued, apTaken, quiet, awaits⟩ := sound
      have nothing : ∀ core : Core, intStatus.getLsbD core.hkBit = false := by
        intro core
        have bit := congrArg (fun x : BitVec 32 => x.getLsbD core.hkBit) (not_not.mp enters)
        simpa [hkBit_masked] using bit
      have same : { s with isr := .ran intStatus }.update s.m = { s with isr := .ran intStatus } :=
        update_same _
      rw [show isrRun intStatus s.m = s.m from if_neg enters, same]
      refine ⟨calm, once, pending, begun, hs1, unmasked, apUnqueued, apTaken, fun core unarrived => ?_,
        fun core arrived none => ?_⟩
      · exact ⟨(quiet core unarrived).1, Bool.eq_false_iff.mp (nothing core)⟩
      · rcases awaits core arrived none with early | ⟨unacked, _⟩
        · exact Or.inl early
        · exact Or.inr ⟨unacked, Bool.eq_false_iff.mp (nothing core)⟩
  · cases taken

theorem isrAck_sound {s t : HkBoot} (sound : HkSound s) (taken : s.step .isrAck = some t) :
    HkSound t := by
  simp only [HkBoot.step] at taken
  split at taken
  · rename_i intStatus isr
    cases taken
    obtain ⟨⟨expFlg, expId, swIntSts⟩, once, pending, begun, hs1, unmasked, apUnqueued, apTaken, quiet,
      awaits⟩ := sound
    have bit : ∀ i, s.m.swIntSts.getLsbD i = false →
        (s.m.swIntSts &&& ~~~intStatus).getLsbD i = false := by
      intro i clear
      rw [BitVec.getLsbD_and, clear, Bool.false_and]
    refine ⟨⟨expFlg, expId, bit 1 swIntSts⟩, once, pending, begun, hs1, unmasked, apUnqueued, apTaken,
      fun core unarrived => ⟨bit _ (quiet core unarrived).1, id⟩, fun core arrived none => ?_⟩
    rcases awaits core arrived none with early | ⟨unacked, uncovered⟩
    · exact Or.inl early
    · rw [isr] at uncovered
      have clear : intStatus.getLsbD core.hkBit = false := Bool.eq_false_iff.mpr uncovered
      exact Or.inr ⟨(clear_bit clear (hkBit_lt core) _).trans unacked, id⟩
  · cases taken

theorem notifyStart_sound {s t : HkBoot} (sound : HkSound s) (intime : TakenInTime s .notifyStart)
    (taken : s.step .notifyStart = some t) : HkSound t := by
  simp only [HkBoot.step, Option.ite_none_right_eq_some, Option.some.injEq] at taken
  obtain ⟨stage, rfl⟩ := taken
  obtain ⟨calm, once, pending, begun, hs1, unmasked, apUnqueued, apTaken, quiet, awaits⟩ := sound
  have early : s.stage ≠ .started := by
    rw [stage]
    decide
  have late : s.stage ≠ .preStart := by
    rw [stage]
    decide
  have start := mdEventStart_hk calm
  have more : ∀ core, ({ s with stage := .started }.update (mdEventStart s.m)).queued core =
      s.queued core + if s.m.workQueued core = false ∧ s.m.found core = true then 1 else 0 := by
    intro core
    show s.queued core + (if s.m.workQueued core = false ∧ (mdEventStart s.m).workQueued core = true
      then 1 else 0) = _
    rw [start.work]
    cases s.m.workQueued core <;> simp
  have found : ∀ core, s.arrived core = true → s.queued core = 0 → s.m.found core = true :=
    fun core arrived none => (awaits core arrived none).found
  have idle : ∀ core, s.queued core = 0 → s.m.workQueued core = false :=
    fun core none => Bool.eq_false_iff.mpr fun queued => pending core queued none
  have one : ∀ core, s.arrived core = true → s.queued core = 0 →
      ({ s with stage := .started }.update (mdEventStart s.m)).queued core = 1 := by
    intro core arrived none
    rw [more, if_pos ⟨idle core none, found core arrived none⟩, none]
  refine ⟨start.calm, fun core => ?_, fun core queued => update_queued_pos (pending core) queued, ?_, ?_,
    ?_, fun other => absurd rfl other, fun _ arrived => one .ap arrived (apUnqueued early), ?_, ?_⟩
  · rw [more]
    split
    · rename_i taken
      have none : s.queued core = 0 := by
        cases core with
        | md => exact not_not.mp fun queued => intime ⟨taken.2, queued, taken.1⟩
        | ap => exact apUnqueued early
      omega
    · exact once core
  · intro started
    have counted := begun started
    rw [more]
    omega
  · intro _ none
    rw [more] at none
    exact start.mdState.trans (hs1 late (by omega))
  · intro none
    rw [more] at none
    have unqueued : s.queued .md = 0 := by omega
    have nothing : s.m.found .md = false := by
      refine Bool.eq_false_iff.mpr fun set => ?_
      rw [if_pos ⟨idle .md unqueued, set⟩] at none
      omega
    exact (start.masked .md).trans (by rw [unmasked unqueued, nothing]; rfl)
  · exact fun core unarrived => ⟨start.sts core, (quiet core unarrived).2⟩
  · intro core arrived none
    have queued := more core
    rw [none] at queued
    have unqueued : s.queued core = 0 := by omega
    rw [one core arrived unqueued] at none
    cases none

theorem hkStep_sound {s t : HkBoot} {label : HkLabel} (sound : HkSound s)
    (intime : TakenInTime s label) (taken : s.step label = some t) : HkSound t := by
  cases label with
  | arrive core => exact arrive_sound sound intime taken
  | isrRun => exact isrRun_sound sound intime taken
  | isrAck => exact isrAck_sound sound taken
  | notifyStart => exact notifyStart_sound sound intime taken
  | otherInt bits =>
    simp only [HkBoot.step, Option.ite_none_right_eq_some, Option.some.injEq] at taken
    obtain ⟨other, rfl⟩ := taken
    have clear : ∀ i, (D2H_INT_ASYNC_MD_HK ||| D2H_INT_ASYNC_AP_HK ||| D2H_INT_EXCEPTION_INIT).getLsbD i =
        true → bits.getLsbD i = false := by
      intro i named
      have bit := congrArg (fun x : BitVec 32 => x.getLsbD i) other
      simpa [named] using bit
    have sts : ∀ i, bits.getLsbD i = false →
        (s.m.swIntSts ||| bits).getLsbD i = s.m.swIntSts.getLsbD i := by
      intro i unset
      rw [BitVec.getLsbD_or, unset, Bool.or_false]
    have calm := sound.calm
    exact sound.of_modem
      ⟨calm.expFlg, calm.expId, (sts 1 (clear 1 (by decide))).trans calm.swIntSts⟩ (fun _ => rfl)
      (fun core => sts _ (clear _ (by cases core <;> decide))) id (fun _ => id) (fun _ => rfl) sound.begun
  | isrRead =>
    simp only [HkBoot.step, Option.ite_none_right_eq_some, Option.some.injEq] at taken
    obtain ⟨_, rfl⟩ := taken
    obtain ⟨calm, once, pending, begun, hs1, unmasked, apUnqueued, apTaken, quiet, awaits⟩ := sound
    refine ⟨calm, once, pending, begun, hs1, unmasked, apUnqueued, apTaken, fun core unarrived => ?_,
      fun core arrived none => ?_⟩
    · exact ⟨(quiet core unarrived).1, Bool.eq_false_iff.mp (quiet core unarrived).1⟩
    · exact (awaits core arrived none).imp id fun unacked => ⟨unacked.1, id⟩
  | notifyPreStart =>
    simp only [HkBoot.step, Option.ite_none_right_eq_some, Option.some.injEq] at taken
    obtain ⟨_, rfl⟩ := taken
    have calm := sound.calm
    exact sound.of_modem ⟨calm.expFlg, calm.expId, calm.swIntSts⟩ (fun _ => rfl) (fun _ => rfl)
      (fun _ => cleared_bit (by decide) _) (fun core => by cases core <;> exact id) (fun _ => rfl)
      sound.begun
  | broadcastHs1 =>
    simp only [HkBoot.step, Option.ite_none_right_eq_some, Option.some.injEq] at taken
    obtain ⟨stage, rfl⟩ := taken
    obtain ⟨calm, once, pending, begun, hs1, unmasked, apUnqueued, apTaken, quiet, awaits⟩ := sound
    have early : s.stage ≠ .started := by
      rw [stage]
      decide
    have unstarted : BootStage.waitingHs1 ≠ .started := by decide
    refine ⟨⟨calm.expFlg, calm.expId, calm.swIntSts⟩, once, pending, begun, fun _ _ => rfl, unmasked,
      fun _ => apUnqueued early, fun begun => absurd begun unstarted, quiet,
      fun core arrived none => ?_⟩
    rcases awaits core arrived none with ⟨_, latched⟩ | later
    · exact Or.inl ⟨nofun, latched⟩
    · exact Or.inr later
  | workStart core =>
    simp only [HkBoot.step, Option.ite_none_right_eq_some, Option.some.injEq] at taken
    obtain ⟨queued, rfl⟩ := taken
    have calm := sound.calm
    have work : ∀ other, (hkWorkTake core s.m).workQueued other = true →
        s.m.workQueued other = true := by
      intro other
      cases core <;> cases other <;> simp [hkWorkTake, Modem.workQueued]
    have frame : (hkWorkTake core s.m).expFlg = s.m.expFlg ∧ (hkWorkTake core s.m).expId = s.m.expId ∧
        (hkWorkTake core s.m).swIntSts = s.m.swIntSts ∧ (hkWorkTake core s.m).mdState = s.m.mdState ∧
          (hkWorkTake core s.m).mhccifMask = s.m.mhccifMask := by
      cases core <;> exact ⟨rfl, rfl, rfl, rfl, rfl⟩
    obtain ⟨expFlg, expId, swIntSts, mdState, mask⟩ := frame
    refine sound.of_modem ⟨expFlg.trans calm.expFlg, ?_, ?_⟩ (fun other => ?_) (fun other => ?_)
      (fun clear => ?_) work (fun _ => mdState) ?_
    · rw [expId]
      exact calm.expId
    · rw [swIntSts]
      exact calm.swIntSts
    · unfold Modem.exp
      rw [expId]
    · unfold Modem.sts
      rw [swIntSts]
    · unfold Modem.masked
      rw [mask]
      exact clear
    · split
      · rename_i md
        rw [md] at queued
        exact fun _ => sound.pending .md queued
      · exact sound.begun
  | mdBroadcast =>
    simp only [HkBoot.step, Option.ite_none_right_eq_some, Option.some.injEq] at taken
    obtain ⟨begun, rfl⟩ := taken
    have calm := sound.calm
    exact sound.of_modem ⟨calm.expFlg, calm.expId, calm.swIntSts⟩ (fun _ => rfl) (fun _ => rfl) id
      (fun core => by cases core <;> exact id) (fun none => absurd none (sound.begun begun))
      (fun again => absurd again Bool.false_ne_true)

end Steps

section Runs

/-- A modem before `FSM_PRE_START`: no handshake has arrived, and no exception was raised. -/
structure BeforeBoot (m : Modem) : Prop where
  calm : Calm m
  unarrived : ∀ core, m.found core = false
  idle : ∀ core, m.workQueued core = false

theorem hkBootOf_sound {m : Modem} (before : BeforeBoot m) : HkSound (hkBootOf m) := by
  have calm := before.calm
  refine ⟨⟨calm.expFlg, calm.expId, calm.swIntSts⟩, fun _ => Nat.zero_le _, ?_, nofun,
    fun late => absurd rfl late, fun _ => cleared_bit (by decide) _, fun _ => rfl, nofun, ?_, nofun⟩
  · intro core queued
    have idle : (mdEventPreStart m).workQueued core = false := by
      cases core with
      | md => exact before.idle .md
      | ap => exact before.idle .ap
    exact absurd queued (by rw [show (hkBootOf m).m = mdEventPreStart m from rfl, idle]; decide)
  · intro core _
    have unarrived := before.unarrived core
    unfold Modem.found at unarrived
    exact ⟨(Bool.or_eq_false_iff.mp unarrived).2, id⟩

theorem queuedOnce_of_sound {s : HkBoot} (sound : HkSound s) : QueuedOnce s := by
  refine ⟨sound.once, fun ⟨started, idle, served⟩ core => ?_⟩
  obtain ⟨arrived, acked⟩ := served core
  have most := sound.once core
  by_contra other
  rcases sound.awaits core arrived (by omega) with ⟨early, _⟩ | ⟨unacked, _⟩
  · exact early started
  · rw [acked] at unacked
    cases unacked

/-- Both works are queued exactly once in a boot whose handshakes are taken in time. -/
theorem works_queued_once {m : Modem} (before : BeforeBoot m) (labels : List HkLabel)
    (intime : Obeys TakenInTime HkBoot.step (hkBootOf m) labels) :
    Visits QueuedOnce HkBoot.step (hkBootOf m) labels :=
  Visits.of_invariant HkSound (fun _ => queuedOnce_of_sound)
    (fun _ _ _ sound allowed taken => hkStep_sound sound allowed taken) (hkBootOf_sound before) intime

theorem beforeBoot_probed : BeforeBoot (FsmRun.probed probedDev).m :=
  ⟨⟨rfl, by decide, by decide⟩, fun core => by cases core <;> decide, fun core => by cases core <;> rfl⟩

theorem works_queued_once_both_early :
    Visits QueuedOnce HkBoot.step (hkBootOf (FsmRun.probed probedDev).m)
      [.arrive .md, .isrRead, .isrRun, .isrAck, .broadcastHs1, .arrive .ap, .notifyStart,
        .workStart .md, .mdBroadcast, .workStart .ap] :=
  works_queued_once beforeBoot_probed _ (by decide)

/-- The AP handshake arrives after `FSM_START`: it is latched and acknowledged, and never queued. -/
theorem late_ap_handshake_not_queued :
    ¬ Visits QueuedOnce HkBoot.step (hkBootOf (FsmRun.probed probedDev).m)
      [.arrive .md, .broadcastHs1, .notifyStart, .arrive .ap, .isrRead, .isrRun, .isrAck] := by
  decide

end Runs

end T7xxModel.Fsm
