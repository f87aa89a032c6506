import T7xx.Netdev.LinkTable

namespace T7xxModel.Netdev

open Dpmaif (NIC_DEV_MAX)
open Fsm (MdState)
open Transition

/-- The loops over the table come to the link. -/
def Notified (s : CcmniCtrl) (d : Nat) : Prop := ∃ i < s.nicDevNum, s.ccmniInst i = some d

def CcmniDev.Quiet (dev : CcmniDev) : Prop := dev.txEnabled = false ∧ dev.carrier = false

def CcmniDev.Passing (dev : CcmniDev) : Prop := dev.txEnabled = true ∧ dev.carrier = true

/-- Every open link is as `wanted`. -/
def OpenLinks (wanted : CcmniDev → Prop) (s : CcmniCtrl) : Prop :=
  ∀ d, (s.dev d).running = true → wanted (s.dev d)

/-- Every open link that is not yet as `wanted` is reached by the loops. -/
def ReachedLinks (wanted : CcmniDev → Prop) (s : CcmniCtrl) : Prop :=
  ∀ d, (s.dev d).running = true → Notified s d ∨ wanted (s.dev d)

instance (s : CcmniCtrl) (d : Nat) : Decidable (Notified s d) :=
  inferInstanceAs (Decidable (∃ i < s.nicDevNum, s.ccmniInst i = some d))

/-- A link is in use as long as it is open, and no link exists before the WWAN operations do. -/
structure LinkUse (s : CcmniCtrl) : Prop where
  usage : ∀ d, (s.dev d).usage = if (s.dev d).running then 1 else 0
  fresh : ∀ d, s.created ≤ d → (s.dev d).running = false
  first : s.wwanIsRegistered = false → s.created = 0

section Loops

variable {s t u : CcmniCtrl}

/-- Neither the table nor the use of a link changes. -/
structure SameUse (s t : CcmniCtrl) : Prop where
  inst : t.ccmniInst = s.ccmniInst
  nicDevNum : t.nicDevNum = s.nicDevNum
  created : t.created = s.created
  wwan : t.wwanIsRegistered = s.wwanIsRegistered
  usage : ∀ d, (t.dev d).usage = (s.dev d).usage
  running : ∀ d, (t.dev d).running = (s.dev d).running

theorem SameUse.refl (s : CcmniCtrl) : SameUse s s :=
  ⟨rfl, rfl, rfl, rfl, fun _ => rfl, fun _ => rfl⟩

theorem SameUse.trans (first : SameUse s t) (second : SameUse t u) : SameUse s u :=
  ⟨second.inst.trans first.inst, second.nicDevNum.trans first.nicDevNum,
    second.created.trans first.created, second.wwan.trans first.wwan,
    fun d => (second.usage d).trans (first.usage d),
    fun d => (second.running d).trans (first.running d)⟩

theorem SameUse.linkUse (same : SameUse s t) (use : LinkUse s) : LinkUse t := by
  refine ⟨fun d => ?_, fun d new => ?_, fun none => ?_⟩
  · rw [same.usage, same.running]
    exact use.usage d
  · rw [same.running]
    rw [same.created] at new
    exact use.fresh d new
  · rw [same.created]
    rw [same.wwan] at none
    exact use.first none

theorem SameUse.notified (same : SameUse s t) (d : Nat) : Notified t d ↔ Notified s d := by
  unfold Notified
  rw [same.inst, same.nicDevNum]

structure SameLinks (s t : CcmniCtrl) : Prop where
  use : SameUse s t
  dev : t.dev = s.dev

theorem enableNapiFrom_sameLinks (resume : Nat → Int) (left q : Nat) (s : CcmniCtrl) :
    SameLinks s (s.enableNapiFrom resume left q) := by
  induction left generalizing q s with
  | zero => exact ⟨⟨rfl, rfl, rfl, rfl, fun _ => rfl, fun _ => rfl⟩, rfl⟩
  | succ left ih =>
    unfold CcmniCtrl.enableNapiFrom
    split
    · exact ⟨.refl s, rfl⟩
    · have enabled : SameUse s (s.napiEnable q) := ⟨rfl, rfl, rfl, rfl, fun _ => rfl, fun _ => rfl⟩
      have rest := ih (q + 1) (s.napiEnable q)
      exact ⟨enabled.trans rest.use, rest.dev⟩

theorem enableNapi_sameLinks (resume : Nat → Int) (s : CcmniCtrl) :
    SameLinks s (s.enableNapi resume) := by
  unfold CcmniCtrl.enableNapi
  split
  · exact ⟨.refl s, rfl⟩
  · exact enableNapiFrom_sameLinks resume RXQ_NUM 0 s

theorem disableNapi_sameLinks (s : CcmniCtrl) : SameLinks s s.disableNapi := by
  unfold CcmniCtrl.disableNapi
  split
  · exact ⟨⟨rfl, rfl, rfl, rfl, fun _ => rfl, fun _ => rfl⟩, rfl⟩
  · exact ⟨.refl s, rfl⟩

/-- A change that the loops make: it can be made twice and leaves the use of the link alone. -/
structure Switch (change : CcmniDev → CcmniDev) : Prop where
  again : ∀ dev, change (change dev) = change dev
  usage : ∀ dev, (change dev).usage = dev.usage
  running : ∀ dev, (change dev).running = dev.running

variable {change : CcmniDev → CcmniDev}

theorem eachInst_sameUse (switch : Switch change) (n : Nat) (s : CcmniCtrl) :
    SameUse s (s.eachInst change n) := by
  induction n with
  | zero => exact .refl s
  | succ n ih =>
    unfold CcmniCtrl.eachInst
    dsimp only
    split
    · exact ih
    · rename_i d _
      apply ih.trans
      refine ⟨rfl, rfl, rfl, rfl, fun e => ?_, fun e => ?_⟩
      · by_cases here : e = d
        · rw [here, withDev_self]
          split
          · exact switch.usage _
          · rfl
        · rw [withDev_other _ _ here]
      · by_cases here : e = d
        · rw [here, withDev_self]
          split
          · exact switch.running _
          · rfl
        · rw [withDev_other _ _ here]

theorem eachInst_succ (switch : Switch change) (n d : Nat) (s : CcmniCtrl) :
    (s.eachInst change (n + 1)).dev d =
      if s.ccmniInst n = some d ∧ 0 < (s.dev d).usage then change ((s.eachInst change n).dev d)
      else (s.eachInst change n).dev d := by
  have same := eachInst_sameUse switch n s
  rw [CcmniCtrl.eachInst, same.inst]
  cases entry : s.ccmniInst n with
  | none => rw [if_neg fun found => nomatch found.1]
  | some e =>
    dsimp only
    by_cases here : d = e
    · rw [here, withDev_self, same.usage]
      apply if_congr _ rfl rfl
      exact (and_iff_right rfl).symm
    · rw [withDev_other _ _ here, if_neg fun found => here (Option.some.inj found.1).symm]

theorem eachInst_dev (switch : Switch change) (n d : Nat) (s : CcmniCtrl) :
    (s.eachInst change n).dev d =
      if (∃ i < n, s.ccmniInst i = some d) ∧ 0 < (s.dev d).usage then change (s.dev d) else s.dev d := by
  induction n with
  | zero =>
    rw [if_neg fun reached => absurd reached.1 (by simp)]
    rfl
  | succ n ih =>
    rw [eachInst_succ switch, ih]
    have within : (∃ i < n + 1, s.ccmniInst i = some d) ↔
        (∃ i < n, s.ccmniInst i = some d) ∨ s.ccmniInst n = some d := Nat.exists_lt_succ_right
    by_cases used : 0 < (s.dev d).usage
    · simp only [within, used, and_true]
      by_cases last : s.ccmniInst n = some d
      · rw [if_pos last, if_pos (Or.inr last)]
        split
        · exact switch.again _
        · rfl
      · simp only [last, or_false, if_false]
    · simp only [used, and_false, if_false]

theorem muting : Switch fun dev => { dev with txEnabled := false } :=
  ⟨fun _ => rfl, fun _ => rfl, fun _ => rfl⟩

theorem unplugging : Switch fun dev => { dev with carrier := false } :=
  ⟨fun _ => rfl, fun _ => rfl, fun _ => rfl⟩

theorem passing : Switch fun dev => { dev with txEnabled := true, carrier := true } :=
  ⟨fun _ => rfl, fun _ => rfl, fun _ => rfl⟩

theorem LinkUse.used_iff (use : LinkUse s) (d : Nat) :
    0 < (s.dev d).usage ↔ (s.dev d).running = true := by
  rw [use.usage]
  split <;> simp_all

theorem LinkUse.loop_dev (use : LinkUse s) (switch : Switch change) (d : Nat) :
    (s.eachInst change s.nicDevNum).dev d =
      if Notified s d ∧ (s.dev d).running = true then change (s.dev d) else s.dev d := by
  rw [eachInst_dev switch]
  apply if_congr _ rfl rfl
  rw [use.used_iff]
  rfl

end Loops

section Callbacks

variable {s : CcmniCtrl}

theorem stopped_dev (use : LinkUse s) (d : Nat) :
    s.preStop.postStop.dev d =
      if Notified s d ∧ (s.dev d).running = true then
        { s.dev d with txEnabled := false, carrier := false }
      else s.dev d := by
  have muted := eachInst_sameUse muting s.nicDevNum s
  have unplug (u : CcmniCtrl) (same : SameUse s u) (dev : u.dev = s.preStop.dev) :
      (u.eachInst (fun dev => { dev with carrier := false }) u.nicDevNum).dev d =
        if Notified s d ∧ (s.dev d).running = true then
          { s.dev d with txEnabled := false, carrier := false }
        else s.dev d := by
    have before := use.loop_dev muting d
    have after := (same.linkUse use).loop_dev unplugging d
    rw [after, same.running, if_congr (and_congr_left' (same.notified d)) rfl rfl, dev,
      show s.preStop.dev d = _ from before]
    split
    · rfl
    · rfl
  unfold CcmniCtrl.postStop
  dsimp only
  split
  · have off := disableNapi_sameLinks s.preStop
    exact unplug _ (muted.trans off.use) off.dev
  · exact unplug _ muted rfl

theorem started_dev (use : LinkUse s) (resume : Nat → Int) (d : Nat) :
    (s.ccmniStart resume).dev d =
      if Notified s d ∧ (s.dev d).running = true then
        { s.dev d with txEnabled := true, carrier := true }
      else s.dev d := by
  unfold CcmniCtrl.ccmniStart
  dsimp only
  split
  · rw [(enableNapi_sameLinks resume _).dev]
    exact use.loop_dev passing d
  · exact use.loop_dev passing d

/-- A loop that makes the links `wanted` leaves every open link so exactly if it reaches those that
    were not. -/
theorem openLinks_iff_reached {t : CcmniCtrl} {wanted : CcmniDev → Prop} {change : CcmniDev → CcmniDev}
    (running : ∀ dev, (change dev).running = dev.running) (makes : ∀ dev, wanted (change dev))
    (after : ∀ d, t.dev d = if Notified s d ∧ (s.dev d).running = true then change (s.dev d)
      else s.dev d) : OpenLinks wanted t ↔ ReachedLinks wanted s := by
  have same (d : Nat) : (t.dev d).running = (s.dev d).running := by
    rw [after]
    split
    · exact running _
    · rfl
  apply forall_congr'
  intro d
  rw [same, after]
  apply imp_congr_right
  intro up
  by_cases reached : Notified s d
  · rw [if_pos ⟨reached, up⟩]
    exact iff_of_true (makes _) (Or.inl reached)
  · rw [if_neg fun both => reached both.1, or_iff_right reached]

theorem stopped_quiet_iff (use : LinkUse s) :
    OpenLinks CcmniDev.Quiet s.preStop.postStop ↔ ReachedLinks CcmniDev.Quiet s :=
  @openLinks_iff_reached s _ CcmniDev.Quiet (fun dev => { dev with txEnabled := false, carrier := false })
    (fun _ => rfl) (fun _ => ⟨rfl, rfl⟩) (stopped_dev use)

theorem started_passing_iff (use : LinkUse s) (resume : Nat → Int) :
    OpenLinks CcmniDev.Passing (s.ccmniStart resume) ↔ ReachedLinks CcmniDev.Passing s :=
  @openLinks_iff_reached s _ CcmniDev.Passing (fun dev => { dev with txEnabled := true, carrier := true })
    (fun _ => rfl) (fun _ => ⟨rfl, rfl⟩) (started_dev use resume)

end Callbacks

section Runs

variable {s t : CcmniCtrl} {label : CcmniLabel}

theorem LinkUse.change_one (use : LinkUse s) (d : Nat) (others : ∀ e ≠ d, t.dev e = s.dev e)
    (own : (t.dev d).usage = if (t.dev d).running then 1 else 0)
    (known : (t.dev d).running = true → d < s.created) (created : t.created = s.created)
    (wwan : t.wwanIsRegistered = s.wwanIsRegistered) : LinkUse t := by
  refine ⟨fun e => ?_, fun e new => ?_, fun none => ?_⟩
  · by_cases here : e = d
    · rw [here]
      exact own
    · rw [others e here]
      exact use.usage e
  · rw [created] at new
    by_cases here : e = d
    · rw [here] at new ⊢
      exact Bool.eq_false_iff.mpr fun up => absurd (known up) (Nat.not_lt.mpr new)
    · rw [others e here]
      exact use.fresh e new
  · rw [created]
    rw [wwan] at none
    exact use.first none

theorem ccmniOpen_dev (d e : Nat) (resume : Nat → Int) (s : CcmniCtrl) :
    (s.ccmniOpen d resume).dev e =
      if e = d then
        { s.dev d with carrier := true, txEnabled := true, usage := (s.dev d).usage + 1 }
      else s.dev e := by
  have used (u : CcmniCtrl) (dev : u.dev =
      (s.withDev d fun dev => { dev with carrier := true, txEnabled := true }).dev) :
      (u.withDev d fun dev => { dev with usage := dev.usage + 1 }).dev e =
        if e = d then
          { s.dev d with carrier := true, txEnabled := true, usage := (s.dev d).usage + 1 }
        else s.dev e := by
    by_cases here : e = d
    · rw [if_pos here, here, withDev_self, dev, withDev_self]
    · rw [if_neg here, withDev_other _ _ here, dev, withDev_other _ _ here]
  unfold CcmniCtrl.ccmniOpen
  dsimp only
  split
  · exact used _ (enableNapi_sameLinks resume _).dev
  · exact used _ rfl

theorem ccmniClose_dev (d e : Nat) (s : CcmniCtrl) :
    (s.ccmniClose d).dev e =
      if e = d then
        { s.dev d with usage := (s.dev d).usage - 1, carrier := false, txEnabled := false }
      else s.dev e := by
  have closed (u : CcmniCtrl) (dev : u.dev =
      (s.withDev d fun dev => { dev with usage := dev.usage - 1 }).dev) :
      (u.withDev d fun dev => { dev with carrier := false, txEnabled := false }).dev e =
        if e = d then
          { s.dev d with usage := (s.dev d).usage - 1, carrier := false, txEnabled := false }
        else s.dev e := by
    by_cases here : e = d
    · rw [if_pos here, here, withDev_self, dev, withDev_self]
    · rw [if_neg here, withDev_other _ _ here, dev, withDev_other _ _ here]
  unfold CcmniCtrl.ccmniClose
  dsimp only
  split
  · exact closed _ (disableNapi_sameLinks _).dev
  · exact closed _ rfl

theorem ccmniOpen_wwan (d : Nat) (resume : Nat → Int) (s : CcmniCtrl) :
    (s.ccmniOpen d resume).wwanIsRegistered = s.wwanIsRegistered := by
  unfold CcmniCtrl.ccmniOpen
  dsimp only
  split
  · exact (enableNapi_sameLinks resume _).use.wwan
  · rfl

theorem ccmniClose_wwan (d : Nat) (s : CcmniCtrl) :
    (s.ccmniClose d).wwanIsRegistered = s.wwanIsRegistered := by
  unfold CcmniCtrl.ccmniClose
  dsimp only
  split
  · exact (disableNapi_sameLinks _).use.wwan
  · rfl

theorem devOpen_linkUse (d : Nat) (resume : Nat → Int) (use : LinkUse s) (known : d < s.created)
    (down : (s.dev d).running = false) :
    LinkUse ((s.ccmniOpen d resume).withDev d fun dev => { dev with running := true }) := by
  apply use.change_one d
  · intro e other
    rw [withDev_other _ _ other, ccmniOpen_dev, if_neg other]
  · rw [withDev_self, ccmniOpen_dev, if_pos rfl]
    dsimp only
    rw [use.usage, down]
    rfl
  · exact fun _ => known
  · exact (ccmniOpen_sameTable d resume s).created
  · exact ccmniOpen_wwan d resume s

theorem closed_linkUse {change : CcmniDev → CcmniDev} (d : Nat) (use : LinkUse s)
    (up : (s.dev d).running = true) (down : ∀ dev, (change dev).running = false)
    (usage : ∀ dev, (change dev).usage = dev.usage) :
    LinkUse ((s.ccmniClose d).withDev d change) := by
  apply use.change_one d
  · intro e other
    rw [withDev_other _ _ other, ccmniClose_dev, if_neg other]
  · rw [withDev_self, down, usage, ccmniClose_dev, if_pos rfl]
    dsimp only
    rw [use.usage, up]
    rfl
  · rw [withDev_self, down]
    exact nofun
  · exact (ccmniClose_sameTable d s).created
  · exact ccmniClose_wwan d s

theorem unregisterNetdevice_linkUse (d : Nat) (use : LinkUse s) : LinkUse (s.unregisterNetdevice d) := by
  unfold CcmniCtrl.unregisterNetdevice
  dsimp only
  split
  · rename_i up
    exact closed_linkUse d use up (fun _ => rfl) fun _ => rfl
  · rename_i down
    apply use.change_one d
    · intro e other
      exact withDev_other _ _ other
    · rw [withDev_self]
      dsimp only
      rw [use.usage, eq_false_of_ne_true down]
    · rw [withDev_self]
      exact nofun
    · rfl
    · rfl

theorem wwanDellink_linkUse (d : Nat) (use : LinkUse s) : LinkUse (s.wwanDellink d) := by
  unfold CcmniCtrl.wwanDellink
  split
  · exact use
  split
  · exact use
  · exact unregisterNetdevice_linkUse d use

theorem wwanNewlink_linkUse (ifId : Nat) (registers : Bool) (use : LinkUse s) :
    LinkUse { s.wwanNewlink ifId registers with wwanIsRegistered := true } := by
  unfold CcmniCtrl.wwanNewlink
  split
  · exact ⟨use.usage, use.fresh, nofun⟩
  · refine ⟨fun d => ?_, fun d new => ?_, nofun⟩
    · dsimp only
      by_cases here : d = s.created
      · simp only [here, Function.update_self]
        rfl
      · simp only [Function.update_of_ne here]
        exact use.usage d
    · dsimp only at new ⊢
      rw [Function.update_of_ne (Nat.ne_of_gt (Nat.lt_of_succ_le new))]
      exact use.fresh d (Nat.le_of_succ_le new)

theorem wwanNewlink_wwan (ifId : Nat) (registers : Bool) (s : CcmniCtrl) :
    (s.wwanNewlink ifId registers).wwanIsRegistered = s.wwanIsRegistered := by
  unfold CcmniCtrl.wwanNewlink
  split
  · rfl
  · rfl

theorem registerWwan_linkUse (answers : MdStateAnswers) (use : LinkUse s) :
    LinkUse (s.registerWwan answers).1 := by
  unfold CcmniCtrl.registerWwan
  split
  · exact use
  split
  · exact use
  · dsimp only
    split
    · exact ⟨use.usage, use.fresh, nofun⟩
    · exact wwanNewlink_linkUse _ _ use

theorem ccmniStart_sameUse (resume : Nat → Int) (s : CcmniCtrl) : SameUse s (s.ccmniStart resume) := by
  have shown := eachInst_sameUse passing s.nicDevNum s
  unfold CcmniCtrl.ccmniStart
  dsimp only
  split
  · exact shown.trans (enableNapi_sameLinks resume _).use
  · exact shown

theorem stopped_sameUse (s : CcmniCtrl) : SameUse s s.preStop.postStop := by
  have muted := eachInst_sameUse muting s.nicDevNum s
  unfold CcmniCtrl.postStop
  dsimp only
  split
  · exact (muted.trans (disableNapi_sameLinks _).use).trans (eachInst_sameUse unplugging _ _)
  · exact muted.trans (eachInst_sameUse unplugging _ _)

theorem mdStateCallback_linkUse (state : MdState) (answers : MdStateAnswers) (use : LinkUse s) :
    LinkUse (s.mdStateCallback state answers).1 := by
  have noted : LinkUse { s with mdSta := state } := ⟨use.usage, use.fresh, use.first⟩
  cases state with
  | ready =>
    unfold CcmniCtrl.mdStateCallback
    dsimp only
    split
    · exact (ccmniStart_sameUse _ _).linkUse (registerWwan_linkUse answers noted)
    · exact registerWwan_linkUse answers noted
  | exception => exact (stopped_sameUse _).linkUse noted
  | stopped => exact (stopped_sameUse _).linkUse noted
  | waitingForHs1 => exact noted
  | waitingToStop => exact noted
  | invalid => exact noted
  | waitingForHs2 => exact noted

theorem useLink_sameUse (found : Option Nat) (s : CcmniCtrl) : SameUse s (s.useLink found) := by
  unfold CcmniCtrl.useLink
  split
  · exact .refl s
  · exact ⟨rfl, rfl, rfl, rfl, fun _ => rfl, fun _ => rfl⟩

theorem withDev_sameUse {d : Nat} {change : CcmniDev → CcmniDev}
    (usage : (change (s.dev d)).usage = (s.dev d).usage)
    (running : (change (s.dev d)).running = (s.dev d).running) : SameUse s (s.withDev d change) := by
  refine ⟨rfl, rfl, rfl, rfl, fun e => ?_, fun e => ?_⟩
  · by_cases here : e = d
    · rw [here, withDev_self, usage]
    · rw [withDev_other s change here]
  · by_cases here : e = d
    · rw [here, withDev_self, running]
    · rw [withDev_other s change here]

theorem queueStateNotify_sameUse (state : DpmaifTxqState) (s : CcmniCtrl) :
    SameUse s (s.queueStateNotify state) := by
  unfold CcmniCtrl.queueStateNotify
  split
  · exact .refl s
  split
  · exact .refl s
  · apply (useLink_sameUse _ s).trans
    apply withDev_sameUse
    · cases state <;> dsimp only <;> split <;> rfl
    · cases state <;> dsimp only <;> split <;> rfl

theorem step_linkUse (allocated : Allocated s) (use : LinkUse s) (taken : s.step label = some t) :
    LinkUse t := by
  cases label <;>
    simp only [CcmniCtrl.step, Option.ite_none_right_eq_some, Option.some.injEq] at taken
  case newlink ifId registers =>
    obtain ⟨opened, rfl⟩ := taken
    have made := wwanNewlink_linkUse ifId registers use
    refine ⟨made.usage, made.fresh, fun none => ?_⟩
    rw [wwanNewlink_wwan, opened] at none
    cases none
  case dellink d =>
    obtain ⟨-, rfl⟩ := taken
    exact wwanDellink_linkUse d use
  case devOpen d resume =>
    obtain ⟨⟨registered, down⟩, rfl⟩ := taken
    exact devOpen_linkUse d resume use (allocated.registered d registered) (eq_false_of_ne_true down)
  case devStop d =>
    obtain ⟨up, rfl⟩ := taken
    exact closed_linkUse d use up (fun _ => rfl) fun _ => rfl
  case mdState state answers =>
    subst taken
    exact mdStateCallback_linkUse state answers use
  case recvSkb netifIdx beyond =>
    subst taken
    exact (useLink_sameUse _ s).linkUse use
  case queueState state =>
    subst taken
    exact (queueStateNotify_sameUse state s).linkUse use
  case txTimeout d usage =>
    obtain ⟨-, rfl⟩ := taken
    refine SameUse.linkUse (withDev_sameUse ?_ ?_) use
    · split <;> rfl
    · split <;> rfl

/-- What the callbacks do to the open links: a stop or an exception makes all of them quiet exactly
    if its loops reach those that are not, and so does a successful `MD_STATE_READY` the other way. -/
structure CallbacksReach (s : CcmniCtrl) : Prop where
  stops : ∀ state answers, state = .exception ∨ state = .stopped →
    (OpenLinks CcmniDev.Quiet (s.mdStateCallback state answers).1 ↔ ReachedLinks CcmniDev.Quiet s)
  starts : ∀ answers, (s.mdStateCallback .ready answers).2 = 0 →
    (OpenLinks CcmniDev.Passing (s.mdStateCallback .ready answers).1 ↔ ReachedLinks CcmniDev.Passing s)

/-- `MD_STATE_READY` finds no open link before the WWAN operations are registered. -/
theorem registerWwan_reached (answers : MdStateAnswers) (use : LinkUse s) :
    ReachedLinks CcmniDev.Passing (s.registerWwan answers).1 ↔ ReachedLinks CcmniDev.Passing s := by
  unfold CcmniCtrl.registerWwan
  split
  · exact Iff.rfl
  rename_i before
  split
  · exact Iff.rfl
  · have none (d : Nat) : (s.dev d).running = false := by
      apply use.fresh
      rw [use.first (eq_false_of_ne_true before)]
      exact Nat.zero_le d
    have idle : ReachedLinks CcmniDev.Passing s := fun d up =>
      absurd (up.symm.trans (none d)) (by decide)
    apply iff_of_true _ idle
    dsimp only
    split
    · exact fun d up => absurd (up.symm.trans (none d)) (by decide)
    · rename_i registers _
      intro d up
      have down : ((s.wwanNewlink IP_MUX_SESSION_DEFAULT registers).dev d).running = false := by
        unfold CcmniCtrl.wwanNewlink
        split
        · exact none d
        · dsimp only
          by_cases here : d = s.created
          · rw [here, Function.update_self]
          · rw [Function.update_of_ne here]
            exact none d
      exact absurd (up.symm.trans down) (by decide)

theorem LinkUse.callbacks (use : LinkUse s) : CallbacksReach s := by
  have noted (state : MdState) : LinkUse { s with mdSta := state } := ⟨use.usage, use.fresh, use.first⟩
  refine ⟨fun state answers stops => ?_, fun answers => ?_⟩
  · rcases stops with rfl | rfl
    · exact stopped_quiet_iff (noted .exception)
    · exact stopped_quiet_iff (noted .stopped)
  · have ready : ReachedLinks CcmniDev.Passing s ↔
        ReachedLinks CcmniDev.Passing { s with mdSta := .ready } := Iff.rfl
    have use' := registerWwan_linkUse answers (noted .ready)
    unfold CcmniCtrl.mdStateCallback
    dsimp only
    intro succeeds
    rw [if_pos succeeds, started_passing_iff use', registerWwan_reached answers (noted .ready), ready]

theorem ccmniInit_linkUse : LinkUse ccmniInit := ⟨fun _ => rfl, fun _ _ => rfl, fun _ => rfl⟩

/-- In every reachable state the callbacks switch all the open links exactly if each of them stands in
    the table below `nic_dev_num` or is already as it should be. -/
theorem callbacks_switch_iff_reached (labels : List CcmniLabel) :
    Visits CallbacksReach CcmniCtrl.step ccmniInit labels := by
  apply Visits.of_kept (fun s => Allocated s ∧ LinkUse s) (fun s known => known.2.callbacks)
  · intro s label t known taken
    exact ⟨step_allocated known.1 taken, step_linkUse known.1 known.2 taken⟩
  · exact ⟨ccmniInit_table.1, ccmniInit_linkUse⟩

/-- An open link with the id 2 and one whose entry a second link with the same id has taken. -/
def unreachedLinks : List CcmniLabel :=
  [.mdState .ready (readyAnswers none), .newlink 2 true, .devOpen 0 fun _ => 0, .newlink 1 true,
    .devOpen 1 fun _ => 0, .newlink 1 true]

/-- Both go on sending after the modem has stopped. -/
theorem unreached_links_stay_on :
    ∃ s, execute CcmniCtrl.step ccmniInit unreachedLinks = some s ∧
      ¬ OpenLinks CcmniDev.Quiet (s.mdStateCallback .stopped (readyAnswers none)).1 ∧
      ∀ d < 2, ((s.mdStateCallback .stopped (readyAnswers none)).1.dev d).Passing ∧
        ((s.mdStateCallback .stopped (readyAnswers none)).1.dev d).running = true := by
  refine ⟨_, rfl, fun quiet => ?_, ?_⟩
  · exact absurd (quiet 0 (by decide)).1 (by decide)
  · unfold CcmniDev.Passing
    decide

end Runs

end T7xxModel.Netdev
