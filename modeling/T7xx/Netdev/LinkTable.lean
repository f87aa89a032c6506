import T7xx.Netdev.Ccmni
import T7xx.Transition.Runs

namespace T7xxModel.Netdev

open Dpmaif (NIC_DEV_MAX)
open Fsm (MdState)
open Transition

section Frame

/-- A step that writes no entry of the table and neither registers nor deletes a link. -/
structure SameTable (s t : CcmniCtrl) : Prop where
  inst : t.ccmniInst = s.ccmniInst
  created : t.created = s.created
  deadUsed : t.deadUsed = s.deadUsed
  registered : ∀ d, (t.dev d).registered = (s.dev d).registered
  index : ∀ d, (t.dev d).index = (s.dev d).index

variable {s t u : CcmniCtrl} {d : Nat} {change : CcmniDev → CcmniDev}

theorem SameTable.refl (s : CcmniCtrl) : SameTable s s := ⟨rfl, rfl, rfl, fun _ => rfl, fun _ => rfl⟩

theorem SameTable.trans (first : SameTable s t) (second : SameTable t u) : SameTable s u :=
  ⟨second.inst.trans first.inst, second.created.trans first.created,
    second.deadUsed.trans first.deadUsed,
    fun d => (second.registered d).trans (first.registered d),
    fun d => (second.index d).trans (first.index d)⟩

theorem withDev_self (s : CcmniCtrl) (d : Nat) (change : CcmniDev → CcmniDev) :
    (s.withDev d change).dev d = change (s.dev d) := Function.update_self _ _ _

theorem withDev_other (s : CcmniCtrl) (change : CcmniDev → CcmniDev) {d e : Nat} (other : e ≠ d) :
    (s.withDev d change).dev e = s.dev e := Function.update_of_ne other _ _

theorem withDev_sameTable (registered : (change (s.dev d)).registered = (s.dev d).registered)
    (index : (change (s.dev d)).index = (s.dev d).index) : SameTable s (s.withDev d change) := by
  refine ⟨rfl, rfl, rfl, fun e => ?_, fun e => ?_⟩
  · by_cases here : e = d
    · rw [here, withDev_self, registered]
    · rw [withDev_other s change here]
  · by_cases here : e = d
    · rw [here, withDev_self, index]
    · rw [withDev_other s change here]

theorem enableNapiFrom_sameTable (resume : Nat → Int) (left q : Nat) (s : CcmniCtrl) :
    SameTable s (s.enableNapiFrom resume left q) := by
  induction left generalizing q s with
  | zero => exact ⟨rfl, rfl, rfl, fun _ => rfl, fun _ => rfl⟩
  | succ left ih =>
    unfold CcmniCtrl.enableNapiFrom
    split
    · exact .refl s
    · have enabled : SameTable s (s.napiEnable q) := ⟨rfl, rfl, rfl, fun _ => rfl, fun _ => rfl⟩
      exact enabled.trans (ih (q + 1) (s.napiEnable q))

theorem enableNapi_sameTable (resume : Nat → Int) (s : CcmniCtrl) :
    SameTable s (s.enableNapi resume) := by
  unfold CcmniCtrl.enableNapi
  split
  · exact .refl s
  · exact enableNapiFrom_sameTable resume RXQ_NUM 0 s

theorem disableNapi_sameTable (s : CcmniCtrl) : SameTable s s.disableNapi := by
  unfold CcmniCtrl.disableNapi
  split
  · exact ⟨rfl, rfl, rfl, fun _ => rfl, fun _ => rfl⟩
  · exact .refl s

theorem ccmniOpen_sameTable (d : Nat) (resume : Nat → Int) (s : CcmniCtrl) :
    SameTable s (s.ccmniOpen d resume) := by
  have shown : SameTable s (s.withDev d fun dev => { dev with carrier := true, txEnabled := true }) :=
    withDev_sameTable rfl rfl
  have counted (u : CcmniCtrl) (n : Int) : SameTable u { u with napiUsrRefcnt := n } :=
    ⟨rfl, rfl, rfl, fun _ => rfl, fun _ => rfl⟩
  have used (u : CcmniCtrl) : SameTable u (u.withDev d fun dev => { dev with usage := dev.usage + 1 }) :=
    withDev_sameTable rfl rfl
  unfold CcmniCtrl.ccmniOpen
  dsimp only
  split
  · exact ((shown.trans (counted _ _)).trans (enableNapi_sameTable resume _)).trans (used _)
  · exact (shown.trans (counted _ _)).trans (used _)

theorem ccmniClose_sameTable (d : Nat) (s : CcmniCtrl) : SameTable s (s.ccmniClose d) := by
  have used : SameTable s (s.withDev d fun dev => { dev with usage := dev.usage - 1 }) :=
    withDev_sameTable rfl rfl
  have counted (u : CcmniCtrl) (n : Int) : SameTable u { u with napiUsrRefcnt := n } :=
    ⟨rfl, rfl, rfl, fun _ => rfl, fun _ => rfl⟩
  have hidden (u : CcmniCtrl) :
      SameTable u (u.withDev d fun dev => { dev with carrier := false, txEnabled := false }) :=
    withDev_sameTable rfl rfl
  unfold CcmniCtrl.ccmniClose
  dsimp only
  split
  · exact ((used.trans (counted _ _)).trans (disableNapi_sameTable _)).trans (hidden _)
  · exact (used.trans (counted _ _)).trans (hidden _)

theorem eachInst_sameTable (change : CcmniDev → CcmniDev)
    (registered : ∀ dev, (change dev).registered = dev.registered)
    (index : ∀ dev, (change dev).index = dev.index) (n : Nat) (s : CcmniCtrl) :
    SameTable s (s.eachInst change n) := by
  induction n with
  | zero => exact .refl s
  | succ n ih =>
    unfold CcmniCtrl.eachInst
    dsimp only
    split
    · exact ih
    · rename_i d _
      apply ih.trans
      apply withDev_sameTable
      · split
        · exact registered _
        · rfl
      · split
        · exact index _
        · rfl

theorem ccmniStart_sameTable (resume : Nat → Int) (s : CcmniCtrl) :
    SameTable s (s.ccmniStart resume) := by
  have shown := eachInst_sameTable (fun dev => { dev with txEnabled := true, carrier := true })
    (fun _ => rfl) (fun _ => rfl) s.nicDevNum s
  unfold CcmniCtrl.ccmniStart
  dsimp only
  split
  · exact shown.trans (enableNapi_sameTable resume _)
  · exact shown

theorem stopped_sameTable (s : CcmniCtrl) : SameTable s s.preStop.postStop := by
  have muted : SameTable s s.preStop :=
    eachInst_sameTable (fun dev => { dev with txEnabled := false }) (fun _ => rfl) (fun _ => rfl) _ s
  have hidden (u : CcmniCtrl) : SameTable u
      (u.eachInst (fun dev => { dev with carrier := false }) u.nicDevNum) :=
    eachInst_sameTable (fun dev => { dev with carrier := false }) (fun _ => rfl) (fun _ => rfl) _ u
  unfold CcmniCtrl.postStop
  dsimp only
  split
  · exact (muted.trans (disableNapi_sameTable _)).trans (hidden _)
  · exact muted.trans (hidden _)

end Frame

section Table

/-- An entry of the table is a registered link with the id it stands for, and no packet or
    notification has used another one. -/
def TableSound (s : CcmniCtrl) : Prop :=
  (∀ i < NIC_DEV_MAX, ∀ d ∈ s.ccmniInst i, (s.dev d).registered = true ∧ (s.dev d).index = i) ∧
    s.deadUsed = false

instance (s : CcmniCtrl) : Decidable (TableSound s) := inferInstanceAs (Decidable (_ ∧ _))

/-- The deletion of a link reaches `unregister_netdevice`. -/
def Unregisters (s : CcmniCtrl) (d : Nat) : Prop :=
  (s.dev d).index < NIC_DEV_MAX ∧ s.ccmniInst (s.dev d).index = some d

/-- The callback makes the WWAN core create the default link, which fails to register. -/
def DefaultLinkFails (s : CcmniCtrl) (answers : MdStateAnswers) : Prop :=
  s.wwanIsRegistered = false ∧ 0 ≤ answers.wwanRet ∧ answers.defaultLink = some false

/-- No link is deleted and none fails to register, and no packet reaches past the table. -/
def KeepsTable (s : CcmniCtrl) : CcmniLabel → Prop
  | .newlink ifId registers => NIC_DEV_MAX ≤ ifId ∨ registers = true
  | .dellink d => ¬ Unregisters s d
  | .mdState .ready answers => ¬ DefaultLinkFails s answers
  | .recvSkb netifIdx beyond =>
    netifIdx < NIC_DEV_MAX ∨ ∀ d ∈ beyond, (s.dev d).registered = true
  | _ => True

/-- The table and the registered links only know links that were allocated. -/
structure Allocated (s : CcmniCtrl) : Prop where
  inst : ∀ i d, s.ccmniInst i = some d → d < s.created
  registered : ∀ d, (s.dev d).registered = true → d < s.created

variable {s t : CcmniCtrl}

theorem SameTable.allocated (same : SameTable s t) (allocated : Allocated s) : Allocated t := by
  refine ⟨fun i d entry => ?_, fun d registered => ?_⟩
  · rw [same.created]
    rw [same.inst] at entry
    exact allocated.inst i d entry
  · rw [same.created]
    rw [same.registered] at registered
    exact allocated.registered d registered

theorem SameTable.sound_iff (same : SameTable s t) : TableSound t ↔ TableSound s := by
  unfold TableSound
  simp only [same.inst, same.registered, same.index, same.deadUsed]

theorem SameTable.sound (same : SameTable s t) (sound : TableSound s) : TableSound t :=
  same.sound_iff.mpr sound

theorem wwanNewlink_allocated (ifId : Nat) (registers : Bool) (allocated : Allocated s) :
    Allocated (s.wwanNewlink ifId registers) := by
  unfold CcmniCtrl.wwanNewlink
  split
  · exact allocated
  · refine ⟨fun i d entry => ?_, fun d registered => ?_⟩
    · dsimp only at entry ⊢
      by_cases here : i = ifId
      · rw [here, Function.update_self] at entry
        rw [← Option.some.inj entry]
        exact Nat.lt_succ_self _
      · rw [Function.update_of_ne here] at entry
        exact Nat.lt_succ_of_lt (allocated.inst i d entry)
    · dsimp only at registered ⊢
      by_cases new : d = s.created
      · rw [new]
        exact Nat.lt_succ_self _
      · rw [Function.update_of_ne new] at registered
        exact Nat.lt_succ_of_lt (allocated.registered d registered)

theorem wwanNewlink_sound (ifId : Nat) (registers : Bool) (allocated : Allocated s)
    (sound : TableSound s) :
    TableSound (s.wwanNewlink ifId registers) ↔ NIC_DEV_MAX ≤ ifId ∨ registers = true := by
  unfold CcmniCtrl.wwanNewlink
  by_cases outside : NIC_DEV_MAX ≤ ifId
  · rw [if_pos outside]
    exact iff_of_true sound (Or.inl outside)
  · rw [if_neg outside, or_iff_right outside]
    have inside : ifId < NIC_DEV_MAX := Nat.not_le.mp outside
    constructor
    · rintro ⟨entries, _⟩
      have new := (entries ifId inside s.created (Function.update_self _ _ _)).1
      dsimp only at new
      rwa [Function.update_self] at new
    · intro registered
      refine ⟨fun i below d entry => ?_, sound.2⟩
      dsimp only at entry ⊢
      by_cases here : i = ifId
      · rw [here, Function.update_self] at entry
        rw [← Option.some.inj entry, Function.update_self]
        exact ⟨registered, here.symm⟩
      · rw [Function.update_of_ne here] at entry
        have old : d ≠ s.created := Nat.ne_of_lt (allocated.inst i d entry)
        rw [Function.update_of_ne old]
        exact sound.1 i below d entry

theorem unregisterNetdevice_table (d : Nat) (s : CcmniCtrl) :
    (s.unregisterNetdevice d).ccmniInst = s.ccmniInst ∧
      (s.unregisterNetdevice d).created = s.created ∧
      ((s.unregisterNetdevice d).dev d).registered = false ∧
      ∀ e, ((s.unregisterNetdevice d).dev e).registered = true → (s.dev e).registered = true := by
  have closed (u : CcmniCtrl) (same : SameTable s u) (e : Nat)
      (registered : ((u.withDev d fun dev =>
        { dev with running := false, registered := false }).dev e).registered = true) :
      (s.dev e).registered = true := by
    by_cases here : e = d
    · rw [here, withDev_self] at registered
      cases registered
    · rw [withDev_other u _ here, same.registered] at registered
      exact registered
  unfold CcmniCtrl.unregisterNetdevice
  dsimp only
  split
  · have same := ccmniClose_sameTable d s
    exact ⟨same.inst, same.created, by rw [withDev_self], closed _ same⟩
  · exact ⟨rfl, rfl, by rw [withDev_self], closed s (.refl s)⟩

theorem wwanDellink_allocated (d : Nat) (allocated : Allocated s) : Allocated (s.wwanDellink d) := by
  unfold CcmniCtrl.wwanDellink
  split
  · exact allocated
  split
  · exact allocated
  · obtain ⟨inst, created, _, registered⟩ := unregisterNetdevice_table d s
    refine ⟨fun i e entry => ?_, fun e kept => ?_⟩
    · rw [created]
      rw [inst] at entry
      exact allocated.inst i e entry
    · rw [created]
      exact allocated.registered e (registered e kept)

theorem wwanDellink_sound (d : Nat) (sound : TableSound s) :
    TableSound (s.wwanDellink d) ↔ ¬ Unregisters s d := by
  unfold CcmniCtrl.wwanDellink
  by_cases outside : NIC_DEV_MAX ≤ (s.dev d).index
  · rw [if_pos outside]
    exact iff_of_true sound fun unregisters => absurd unregisters.1 (Nat.not_lt.mpr outside)
  rw [if_neg outside]
  by_cases other : s.ccmniInst (s.dev d).index ≠ some d
  · rw [if_pos other]
    exact iff_of_true sound fun unregisters => other unregisters.2
  · rw [if_neg other]
    have entry : s.ccmniInst (s.dev d).index = some d := not_not.mp other
    have inside : (s.dev d).index < NIC_DEV_MAX := Nat.not_le.mp outside
    apply iff_of_false
    · rintro ⟨entries, _⟩
      obtain ⟨inst, _, gone, _⟩ := unregisterNetdevice_table d s
      have kept := (entries _ inside d (by rw [inst]; exact entry)).1
      rw [gone] at kept
      cases kept
    · exact fun keeps => keeps ⟨inside, entry⟩

theorem useLink_sameLinks (found : Option Nat) (s : CcmniCtrl) :
    (s.useLink found).ccmniInst = s.ccmniInst ∧ (s.useLink found).created = s.created ∧
      (s.useLink found).dev = s.dev := by
  unfold CcmniCtrl.useLink
  split
  · exact ⟨rfl, rfl, rfl⟩
  · exact ⟨rfl, rfl, rfl⟩

theorem useLink_allocated (found : Option Nat) (allocated : Allocated s) :
    Allocated (s.useLink found) := by
  obtain ⟨inst, created, dev⟩ := useLink_sameLinks found s
  refine ⟨fun i d entry => ?_, fun d registered => ?_⟩
  · rw [created]
    rw [inst] at entry
    exact allocated.inst i d entry
  · rw [created]
    rw [dev] at registered
    exact allocated.registered d registered

theorem useLink_sound (found : Option Nat) (sound : TableSound s) :
    TableSound (s.useLink found) ↔ ∀ d ∈ found, (s.dev d).registered = true := by
  obtain ⟨inst, _, dev⟩ := useLink_sameLinks found s
  unfold TableSound
  rw [inst, dev, and_iff_right sound.1]
  cases found with
  | none => exact iff_of_true sound.2 nofun
  | some d =>
    show (s.deadUsed || !(s.dev d).registered) = false ↔ _
    rw [sound.2, Bool.false_or, Bool.not_eq_false']
    constructor
    · intro registered e same
      rwa [← Option.some.inj same]
    · exact fun registered => registered d rfl

end Table

section Steps

variable {s t : CcmniCtrl} {label : CcmniLabel}

theorem opened_sameTable (s : CcmniCtrl) : SameTable s { s with wwanIsRegistered := true } :=
  ⟨rfl, rfl, rfl, fun _ => rfl, fun _ => rfl⟩

theorem noted_sameTable (s : CcmniCtrl) (state : MdState) : SameTable s { s with mdSta := state } :=
  ⟨rfl, rfl, rfl, fun _ => rfl, fun _ => rfl⟩

theorem registerWwan_allocated (answers : MdStateAnswers) (allocated : Allocated s) :
    Allocated (s.registerWwan answers).1 := by
  unfold CcmniCtrl.registerWwan
  split
  · exact allocated
  split
  · exact allocated
  · apply (opened_sameTable _).allocated
    split
    · exact allocated
    · exact wwanNewlink_allocated _ _ allocated

theorem registerWwan_sound (answers : MdStateAnswers) (allocated : Allocated s) (sound : TableSound s) :
    TableSound (s.registerWwan answers).1 ↔ ¬ DefaultLinkFails s answers := by
  unfold CcmniCtrl.registerWwan
  by_cases before : s.wwanIsRegistered = true
  · rw [if_pos before]
    exact iff_of_true sound fun fails => Bool.false_ne_true (fails.1.symm.trans before)
  rw [if_neg before]
  by_cases refused : answers.wwanRet < 0
  · rw [if_pos refused]
    exact iff_of_true sound fun fails => absurd fails.2.1 (Int.not_le.mpr refused)
  rw [if_neg refused]
  have goesOn : DefaultLinkFails s answers ↔ answers.defaultLink = some false :=
    ⟨fun fails => fails.2.2, fun made => ⟨eq_false_of_ne_true before, Int.not_lt.mp refused, made⟩⟩
  rw [goesOn]
  cases answers.defaultLink with
  | none => exact iff_of_true ((opened_sameTable s).sound sound) nofun
  | some registers =>
    have made := wwanNewlink_sound IP_MUX_SESSION_DEFAULT registers allocated sound
    have inside : ¬ NIC_DEV_MAX ≤ IP_MUX_SESSION_DEFAULT := by decide
    rw [or_iff_right inside] at made
    have same : TableSound { s.wwanNewlink IP_MUX_SESSION_DEFAULT registers with wwanIsRegistered := true } ↔
        TableSound (s.wwanNewlink IP_MUX_SESSION_DEFAULT registers) := Iff.rfl
    dsimp only
    rw [same, made]
    cases registers with
    | true => exact iff_of_true rfl nofun
    | false => exact iff_of_false nofun fun fails => fails rfl

theorem mdStateCallback_allocated (state : MdState) (answers : MdStateAnswers) (allocated : Allocated s) :
    Allocated (s.mdStateCallback state answers).1 := by
  have noted := (noted_sameTable s state).allocated allocated
  cases state with
  | ready =>
    unfold CcmniCtrl.mdStateCallback
    dsimp only
    split
    · exact (ccmniStart_sameTable _ _).allocated (registerWwan_allocated answers noted)
    · exact registerWwan_allocated answers noted
  | exception => exact (stopped_sameTable _).allocated noted
  | stopped => exact (stopped_sameTable _).allocated noted
  | waitingForHs1 => exact noted
  | waitingToStop => exact noted
  | invalid => exact noted
  | waitingForHs2 => exact noted

theorem mdStateCallback_sound (state : MdState) (answers : MdStateAnswers) (allocated : Allocated s)
    (sound : TableSound s) :
    TableSound (s.mdStateCallback state answers).1 ↔ KeepsTable s (.mdState state answers) := by
  have noted := (noted_sameTable s state).sound sound
  cases state with
  | ready =>
    have opened := registerWwan_sound answers ((noted_sameTable s .ready).allocated allocated) noted
    unfold CcmniCtrl.mdStateCallback
    dsimp only
    split
    · have shown := ccmniStart_sameTable answers.resume
        (CcmniCtrl.registerWwan answers { s with mdSta := MdState.ready }).1
      rw [show KeepsTable s (.mdState .ready answers) ↔
        ¬ DefaultLinkFails { s with mdSta := .ready } answers from Iff.rfl, ← opened]
      exact shown.sound_iff
    · exact opened
  | exception => exact iff_of_true ((stopped_sameTable _).sound noted) trivial
  | stopped => exact iff_of_true ((stopped_sameTable _).sound noted) trivial
  | waitingForHs1 => exact iff_of_true noted trivial
  | waitingToStop => exact iff_of_true noted trivial
  | invalid => exact iff_of_true noted trivial
  | waitingForHs2 => exact iff_of_true noted trivial

theorem notified_sameTable (state : DpmaifTxqState) (d : Nat) (s : CcmniCtrl) :
    SameTable s (s.withDev d fun dev =>
      match state with
      | .irq => if dev.running ∧ 0 < dev.usage then { dev with txEnabled := true } else dev
      | .full => if 0 < dev.usage then { dev with txEnabled := false } else dev) := by
  apply withDev_sameTable
  · cases state <;> dsimp only <;> split <;> rfl
  · cases state <;> dsimp only <;> split <;> rfl

theorem queueStateNotify_allocated (state : DpmaifTxqState) (allocated : Allocated s) :
    Allocated (s.queueStateNotify state) := by
  unfold CcmniCtrl.queueStateNotify
  split
  · exact allocated
  split
  · exact allocated
  · exact (notified_sameTable state _ _).allocated (useLink_allocated _ allocated)

theorem queueStateNotify_sound (state : DpmaifTxqState) (sound : TableSound s) :
    TableSound (s.queueStateNotify state) := by
  unfold CcmniCtrl.queueStateNotify
  split
  · exact sound
  split
  · exact sound
  · rename_i d entry
    have used : TableSound (s.useLink (some d)) := by
      apply (useLink_sound (some d) sound).mpr
      rintro e same
      rw [← Option.some.inj same]
      exact (sound.1 0 (by decide) d entry).1
    exact (notified_sameTable state d _).sound used

theorem devOpen_sameTable (d : Nat) (resume : Nat → Int) (s : CcmniCtrl) :
    SameTable s ((s.ccmniOpen d resume).withDev d fun dev => { dev with running := true }) :=
  (ccmniOpen_sameTable d resume s).trans (withDev_sameTable rfl rfl)

theorem devStop_sameTable (d : Nat) (s : CcmniCtrl) :
    SameTable s ((s.ccmniClose d).withDev d fun dev => { dev with running := false }) :=
  (ccmniClose_sameTable d s).trans (withDev_sameTable rfl rfl)

theorem txTimeout_sameTable (d : Nat) (usage : Int) (s : CcmniCtrl) :
    SameTable s (s.txTimeout d usage) := by
  apply withDev_sameTable
  · split <;> rfl
  · split <;> rfl

theorem step_allocated (allocated : Allocated s) (taken : s.step label = some t) : Allocated t := by
  cases label <;>
    simp only [CcmniCtrl.step, Option.ite_none_right_eq_some, Option.some.injEq] at taken
  case newlink ifId registers =>
    obtain ⟨-, rfl⟩ := taken
    exact wwanNewlink_allocated ifId registers allocated
  case dellink d =>
    obtain ⟨-, rfl⟩ := taken
    exact wwanDellink_allocated d allocated
  case devOpen d resume =>
    obtain ⟨-, rfl⟩ := taken
    exact (devOpen_sameTable d resume s).allocated allocated
  case devStop d =>
    obtain ⟨-, rfl⟩ := taken
    exact (devStop_sameTable d s).allocated allocated
  case mdState state answers =>
    subst taken
    exact mdStateCallback_allocated state answers allocated
  case recvSkb netifIdx beyond =>
    subst taken
    exact useLink_allocated _ allocated
  case queueState state =>
    subst taken
    exact queueStateNotify_allocated state allocated
  case txTimeout d usage =>
    obtain ⟨-, rfl⟩ := taken
    exact (txTimeout_sameTable d usage s).allocated allocated

theorem recvSkb_sound (netifIdx : Nat) (beyond : Option Nat) (sound : TableSound s) :
    TableSound (s.recvSkb netifIdx beyond) ↔ KeepsTable s (.recvSkb netifIdx beyond) := by
  unfold CcmniCtrl.recvSkb
  rw [useLink_sound _ sound]
  show _ ↔ netifIdx < NIC_DEV_MAX ∨ ∀ d ∈ beyond, (s.dev d).registered = true
  by_cases inside : netifIdx < NIC_DEV_MAX
  · rw [if_pos inside]
    exact iff_of_true (fun d entry => (sound.1 netifIdx inside d entry).1) (Or.inl inside)
  · rw [if_neg inside, or_iff_right inside]

theorem step_sound (allocated : Allocated s) (sound : TableSound s) (taken : s.step label = some t) :
    TableSound t ↔ KeepsTable s label := by
  cases label <;>
    simp only [CcmniCtrl.step, Option.ite_none_right_eq_some, Option.some.injEq] at taken
  case newlink ifId registers =>
    obtain ⟨-, rfl⟩ := taken
    exact wwanNewlink_sound ifId registers allocated sound
  case dellink d =>
    obtain ⟨-, rfl⟩ := taken
    exact wwanDellink_sound d sound
  case devOpen d resume =>
    obtain ⟨-, rfl⟩ := taken
    exact iff_of_true ((devOpen_sameTable d resume s).sound sound) trivial
  case devStop d =>
    obtain ⟨-, rfl⟩ := taken
    exact iff_of_true ((devStop_sameTable d s).sound sound) trivial
  case mdState state answers =>
    subst taken
    exact mdStateCallback_sound state answers allocated sound
  case recvSkb netifIdx beyond =>
    subst taken
    exact recvSkb_sound netifIdx beyond sound
  case queueState state =>
    subst taken
    exact iff_of_true (queueStateNotify_sound state sound) trivial
  case txTimeout d usage =>
    obtain ⟨-, rfl⟩ := taken
    exact iff_of_true ((txTimeout_sameTable d usage s).sound sound) trivial

theorem ccmniInit_table : Allocated ccmniInit ∧ TableSound ccmniInit :=
  ⟨⟨nofun, nofun⟩, nofun, rfl⟩

/-- The table only ever holds registered links, and no other link is used, exactly in the runs in
    which no link is deleted or fails to register and no packet reaches past the table. -/
theorem table_sound_iff_kept (labels : List CcmniLabel) :
    Visits TableSound CcmniCtrl.step ccmniInit labels ↔
      Obeys KeepsTable CcmniCtrl.step ccmniInit labels := by
  apply visits_iff_obeys Allocated
  · intro s label t allocated sound taken
    exact step_allocated allocated taken
  · intro s label t allocated sound taken
    exact step_sound allocated sound taken
  · exact ccmniInit_table.1
  · exact ccmniInit_table.2

/-- The modem gets ready, and the WWAN core makes the default link. -/
def readyAnswers (defaultLink : Option Bool) : MdStateAnswers := ⟨0, defaultLink, 0, fun _ => 0⟩

/-- A link that fails to register and one that is deleted stay in the table, and the next packet for
    them uses what is left of them. -/
theorem table_keeps_dead_links :
    ¬ Visits TableSound CcmniCtrl.step ccmniInit
        [.mdState .ready (readyAnswers none), .newlink 1 false, .recvSkb 1 none] ∧
      ¬ Visits TableSound CcmniCtrl.step ccmniInit
        [.mdState .ready (readyAnswers (some true)), .dellink 0, .recvSkb 0 none] := by
  decide

end Steps

end T7xxModel.Netdev
