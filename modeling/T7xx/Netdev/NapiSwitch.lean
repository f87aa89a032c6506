import T7xx.Netdev.LinkTable

namespace T7xxModel.Netdev

open Fsm (MdState)
open Transition

/-- No instance was enabled or disabled twice in a row, and each is enabled exactly when `is_napi_en`
    says so. -/
def NapiAgrees (s : CcmniCtrl) : Prop :=
  s.napiFault = false ∧ ∀ q < RXQ_NUM, s.napi q = s.isNapiEn

instance (s : CcmniCtrl) : Decidable (NapiAgrees s) := inferInstanceAs (Decidable (_ ∧ _))

/-- The device is resumed for every queue, or not even for the first. -/
def ResumesEvenly (resume : Nat → Int) : Prop := resume 0 < 0 ∨ ∀ q < RXQ_NUM, 0 ≤ resume q

instance (resume : Nat → Int) : Decidable (ResumesEvenly resume) := inferInstanceAs (Decidable (_ ∨ _))

/-- `t7xx_ccmni_enable_napi` does not fail half-way where a step reaches its loop. -/
def KeepsNapi (s : CcmniCtrl) : CcmniLabel → Prop
  | .devOpen _ resume => s.napiUsrRefcnt = 0 → s.isNapiEn = false → ResumesEvenly resume
  | .mdState .ready answers =>
    s.wwanIsRegistered = true ∨ 0 ≤ answers.wwanRet →
      s.napiUsrRefcnt ≠ 0 → s.isNapiEn = false → ResumesEvenly answers.resume
  | _ => True

section Switching

variable {s t u : CcmniCtrl}

/-- Neither NAPI nor the count of its users changes. -/
structure SameNapi (s t : CcmniCtrl) : Prop where
  napi : t.napi = s.napi
  isNapiEn : t.isNapiEn = s.isNapiEn
  napiFault : t.napiFault = s.napiFault
  users : t.napiUsrRefcnt = s.napiUsrRefcnt

theorem SameNapi.refl (s : CcmniCtrl) : SameNapi s s := ⟨rfl, rfl, rfl, rfl⟩

theorem SameNapi.trans (first : SameNapi s t) (second : SameNapi t u) : SameNapi s u :=
  ⟨second.napi.trans first.napi, second.isNapiEn.trans first.isNapiEn,
    second.napiFault.trans first.napiFault, second.users.trans first.users⟩

theorem agrees_congr (napi : t.napi = s.napi) (isNapiEn : t.isNapiEn = s.isNapiEn)
    (napiFault : t.napiFault = s.napiFault) : NapiAgrees t ↔ NapiAgrees s := by
  unfold NapiAgrees
  rw [napi, isNapiEn, napiFault]

theorem SameNapi.agrees_iff (same : SameNapi s t) : NapiAgrees t ↔ NapiAgrees s :=
  agrees_congr same.napi same.isNapiEn same.napiFault

theorem SameNapi.agrees (same : SameNapi s t) (agrees : NapiAgrees s) : NapiAgrees t :=
  same.agrees_iff.mpr agrees

theorem eachInst_sameNapi (change : CcmniDev → CcmniDev) (n : Nat) (s : CcmniCtrl) :
    SameNapi s (s.eachInst change n) := by
  induction n with
  | zero => exact .refl s
  | succ n ih =>
    unfold CcmniCtrl.eachInst
    dsimp only
    split
    · exact ih
    · exact ih.trans ⟨rfl, rfl, rfl, rfl⟩

theorem below_rxqNum {q : Nat} (below : q < RXQ_NUM) : q = 0 ∨ q = 1 := by
  unfold RXQ_NUM at below
  omega

theorem resumesEvenly_iff (resume : Nat → Int) :
    ResumesEvenly resume ↔ resume 0 < 0 ∨ 0 ≤ resume 1 := by
  constructor
  · rintro (refused | all)
    · exact Or.inl refused
    · exact Or.inr (all 1 (by decide))
  · rintro (refused | second)
    · exact Or.inl refused
    · by_cases first : resume 0 < 0
      · exact Or.inl first
      · refine Or.inr fun q below => ?_
        rcases below_rxqNum below with rfl | rfl
        · exact Int.not_lt.mp first
        · exact second

/-- The loop over the two queues starts with both disabled; if it gives up after the first one, that
    one stays enabled behind a false flag. -/
theorem enableNapi_agrees (resume : Nat → Int) (agrees : NapiAgrees s) :
    NapiAgrees (s.enableNapi resume) ↔ (s.isNapiEn = false → ResumesEvenly resume) := by
  obtain ⟨clean, same⟩ := agrees
  unfold CcmniCtrl.enableNapi
  by_cases enabled : s.isNapiEn = true
  · rw [if_pos enabled]
    exact iff_of_true ⟨clean, same⟩ fun off => absurd (off.symm.trans enabled) (by decide)
  rw [if_neg enabled]
  have off : s.isNapiEn = false := eq_false_of_ne_true enabled
  have first : s.napi 0 = false := (same 0 (by decide)).trans off
  have second : s.napi 1 = false := (same 1 (by decide)).trans off
  rw [imp_iff_right off, resumesEvenly_iff]
  by_cases refused : resume 0 < 0
  · have gives : s.enableNapiFrom resume RXQ_NUM 0 = s := if_pos refused
    rw [gives]
    exact iff_of_true ⟨clean, same⟩ (Or.inl refused)
  rw [or_iff_right refused]
  have goesOn : s.enableNapiFrom resume RXQ_NUM 0 = (s.napiEnable 0).enableNapiFrom resume 1 1 :=
    if_neg refused
  rw [goesOn]
  by_cases half : resume 1 < 0
  · have gives : (s.napiEnable 0).enableNapiFrom resume 1 1 = s.napiEnable 0 := if_pos half
    rw [gives]
    apply iff_of_false
    · rintro ⟨_, half'⟩
      have lone : Function.update s.napi 0 true 0 = s.isNapiEn := half' 0 (by decide)
      rw [Function.update_self, off] at lone
      cases lone
    · exact Int.not_le.mpr half
  · have both : (s.napiEnable 0).enableNapiFrom resume 1 1 =
        { (s.napiEnable 0).napiEnable 1 with isNapiEn := true } := if_neg half
    rw [both]
    refine iff_of_true ⟨?_, fun q below => ?_⟩ (Int.not_lt.mp half)
    · show ((s.napiFault || s.napi 0) || Function.update s.napi 0 true 1) = false
      rw [clean, first, Function.update_of_ne (by decide), second]
      rfl
    · show Function.update (Function.update s.napi 0 true) 1 true q = true
      rcases below_rxqNum below with rfl | rfl
      · rw [Function.update_of_ne (by decide), Function.update_self]
      · rw [Function.update_self]

theorem disableNapi_agrees (agrees : NapiAgrees s) : NapiAgrees s.disableNapi := by
  obtain ⟨clean, same⟩ := agrees
  unfold CcmniCtrl.disableNapi
  split
  · rename_i enabled
    have first : s.napi 0 = true := (same 0 (by decide)).trans enabled
    have second : s.napi 1 = true := (same 1 (by decide)).trans enabled
    refine ⟨?_, fun q below => ?_⟩
    · show ((s.napiFault || !s.napi 0) || !Function.update s.napi 0 false 1) = false
      rw [clean, first, Function.update_of_ne (by decide), second]
      rfl
    · show Function.update (Function.update s.napi 0 false) 1 false q = false
      rcases below_rxqNum below with rfl | rfl
      · rw [Function.update_of_ne (by decide), Function.update_self]
      · rw [Function.update_self]
  · exact ⟨clean, same⟩

theorem ccmniOpen_agrees (d : Nat) (resume : Nat → Int) (agrees : NapiAgrees s) :
    NapiAgrees (s.ccmniOpen d resume) ↔
      (s.napiUsrRefcnt = 0 → s.isNapiEn = false → ResumesEvenly resume) := by
  unfold CcmniCtrl.ccmniOpen
  dsimp only
  by_cases first : s.napiUsrRefcnt = 0
  · have enables := enableNapi_agrees (s := { s.withDev d fun dev =>
      { dev with carrier := true, txEnabled := true } with napiUsrRefcnt := s.napiUsrRefcnt + 1 })
      resume agrees
    rw [imp_iff_right first]
    split
    · exact enables
    · rename_i other
      exact absurd first other
  · split
    · rename_i same
      exact absurd same first
    · exact iff_of_true agrees fun same => absurd same first

theorem ccmniClose_agrees (d : Nat) (agrees : NapiAgrees s) : NapiAgrees (s.ccmniClose d) := by
  unfold CcmniCtrl.ccmniClose
  dsimp only
  split
  · exact disableNapi_agrees (s := { s.withDev d fun dev => { dev with usage := dev.usage - 1 } with
      napiUsrRefcnt := s.napiUsrRefcnt - 1 }) agrees
  · exact agrees

theorem ccmniStart_agrees (resume : Nat → Int) (agrees : NapiAgrees s) :
    NapiAgrees (s.ccmniStart resume) ↔
      (s.napiUsrRefcnt ≠ 0 → s.isNapiEn = false → ResumesEvenly resume) := by
  have shown := eachInst_sameNapi (fun dev => { dev with txEnabled := true, carrier := true })
    s.nicDevNum s
  unfold CcmniCtrl.ccmniStart
  dsimp only
  rw [shown.users]
  by_cases used : s.napiUsrRefcnt ≠ 0
  · rw [if_pos used, imp_iff_right used, enableNapi_agrees resume (shown.agrees agrees),
      shown.isNapiEn]
  · rw [if_neg used]
    exact iff_of_true (shown.agrees agrees) fun some => absurd some used

theorem stopped_agrees (agrees : NapiAgrees s) : NapiAgrees s.preStop.postStop := by
  have muted : SameNapi s s.preStop := eachInst_sameNapi _ _ s
  unfold CcmniCtrl.postStop
  dsimp only
  split
  · exact (eachInst_sameNapi _ _ _).agrees (disableNapi_agrees (muted.agrees agrees))
  · exact (eachInst_sameNapi _ _ _).agrees (muted.agrees agrees)

theorem wwanNewlink_sameNapi (ifId : Nat) (registers : Bool) (s : CcmniCtrl) :
    SameNapi s (s.wwanNewlink ifId registers) := by
  unfold CcmniCtrl.wwanNewlink
  split
  · exact .refl s
  · exact ⟨rfl, rfl, rfl, rfl⟩

theorem registerWwan_sameNapi (answers : MdStateAnswers) (s : CcmniCtrl) :
    SameNapi s (s.registerWwan answers).1 := by
  unfold CcmniCtrl.registerWwan
  split
  · exact .refl s
  split
  · exact .refl s
  · dsimp only
    split
    · exact ⟨rfl, rfl, rfl, rfl⟩
    · have made := wwanNewlink_sameNapi IP_MUX_SESSION_DEFAULT ‹Bool› s
      exact ⟨made.napi, made.isNapiEn, made.napiFault, made.users⟩

theorem registerWwan_succeeds_iff (answers : MdStateAnswers) (s : CcmniCtrl) :
    (s.registerWwan answers).2 = 0 ↔ s.wwanIsRegistered = true ∨ 0 ≤ answers.wwanRet := by
  unfold CcmniCtrl.registerWwan
  by_cases before : s.wwanIsRegistered = true
  · rw [if_pos before]
    exact iff_of_true rfl (Or.inl before)
  rw [if_neg before, or_iff_right before]
  by_cases refused : answers.wwanRet < 0
  · rw [if_pos refused]
    exact iff_of_false (Int.ne_of_lt refused) (Int.not_le.mpr refused)
  · rw [if_neg refused]
    exact iff_of_true rfl (Int.not_lt.mp refused)

theorem mdStateCallback_agrees (state : MdState) (answers : MdStateAnswers) (agrees : NapiAgrees s) :
    NapiAgrees (s.mdStateCallback state answers).1 ↔ KeepsNapi s (.mdState state answers) := by
  cases state with
  | ready =>
    have registered := registerWwan_sameNapi answers { s with mdSta := MdState.ready }
    have started := ccmniStart_agrees answers.resume (registered.agrees agrees)
    rw [registered.users, registered.isNapiEn] at started
    have succeeds := registerWwan_succeeds_iff answers { s with mdSta := MdState.ready }
    show _ ↔ (s.wwanIsRegistered = true ∨ 0 ≤ answers.wwanRet →
      s.napiUsrRefcnt ≠ 0 → s.isNapiEn = false → ResumesEvenly answers.resume)
    unfold CcmniCtrl.mdStateCallback
    dsimp only
    by_cases works : (CcmniCtrl.registerWwan answers { s with mdSta := MdState.ready }).2 = 0
    · rw [if_pos works, imp_iff_right (succeeds.mp works)]
      exact started
    · rw [if_neg works]
      exact iff_of_true (registered.agrees agrees) fun opened => absurd (succeeds.mpr opened) works
  | exception => exact iff_of_true (stopped_agrees agrees) trivial
  | stopped => exact iff_of_true (stopped_agrees agrees) trivial
  | waitingForHs1 => exact iff_of_true agrees trivial
  | waitingToStop => exact iff_of_true agrees trivial
  | invalid => exact iff_of_true agrees trivial
  | waitingForHs2 => exact iff_of_true agrees trivial

theorem wwanDellink_agrees (d : Nat) (agrees : NapiAgrees s) : NapiAgrees (s.wwanDellink d) := by
  unfold CcmniCtrl.wwanDellink
  split
  · exact agrees
  split
  · exact agrees
  unfold CcmniCtrl.unregisterNetdevice
  dsimp only
  split
  · exact ccmniClose_agrees d agrees
  · exact agrees

theorem useLink_sameNapi (found : Option Nat) (s : CcmniCtrl) : SameNapi s (s.useLink found) := by
  unfold CcmniCtrl.useLink
  split
  · exact .refl s
  · exact ⟨rfl, rfl, rfl, rfl⟩

theorem queueStateNotify_sameNapi (state : DpmaifTxqState) (s : CcmniCtrl) :
    SameNapi s (s.queueStateNotify state) := by
  unfold CcmniCtrl.queueStateNotify
  split
  · exact .refl s
  split
  · exact .refl s
  · exact (useLink_sameNapi _ s).trans ⟨rfl, rfl, rfl, rfl⟩

end Switching

section Runs

variable {s t : CcmniCtrl} {label : CcmniLabel}

theorem step_agrees (agrees : NapiAgrees s) (taken : s.step label = some t) :
    NapiAgrees t ↔ KeepsNapi s label := by
  cases label <;>
    simp only [CcmniCtrl.step, Option.ite_none_right_eq_some, Option.some.injEq] at taken
  case newlink ifId registers =>
    obtain ⟨-, rfl⟩ := taken
    exact iff_of_true ((wwanNewlink_sameNapi ifId registers s).agrees agrees) trivial
  case dellink d =>
    obtain ⟨-, rfl⟩ := taken
    exact iff_of_true (wwanDellink_agrees d agrees) trivial
  case devOpen d resume =>
    obtain ⟨-, rfl⟩ := taken
    exact ccmniOpen_agrees d resume agrees
  case devStop d =>
    obtain ⟨-, rfl⟩ := taken
    exact iff_of_true (ccmniClose_agrees d agrees) trivial
  case mdState state answers =>
    subst taken
    exact mdStateCallback_agrees state answers agrees
  case recvSkb netifIdx beyond =>
    subst taken
    exact iff_of_true ((useLink_sameNapi _ s).agrees agrees) trivial
  case queueState state =>
    subst taken
    exact iff_of_true ((queueStateNotify_sameNapi state s).agrees agrees) trivial
  case txTimeout d usage =>
    obtain ⟨-, rfl⟩ := taken
    exact iff_of_true agrees trivial

/-- NAPI follows its flag and is switched in turns exactly in the runs in which no enabling of it
    fails after the first queue. -/
theorem napi_agrees_iff_resumed_evenly (labels : List CcmniLabel) :
    Visits NapiAgrees CcmniCtrl.step ccmniInit labels ↔
      Obeys KeepsNapi CcmniCtrl.step ccmniInit labels := by
  apply visits_iff_obeys fun _ => True
  · exact fun _ _ _ _ _ _ => trivial
  · exact fun _ _ _ _ agrees taken => step_agrees agrees taken
  · exact trivial
  · exact ⟨rfl, fun _ _ => rfl⟩

def resumesOnce (q : Nat) : Int := if q = 0 then 0 else -EACCES

/-- The link is opened while the resume fails for the second queue, and the modem gets ready again:
    the first queue is enabled a second time. -/
theorem half_enabled_enabled_again :
    ¬ Visits NapiAgrees CcmniCtrl.step ccmniInit
        [.mdState .ready (readyAnswers (some true)), .devOpen 0 resumesOnce] ∧
      ∃ s, execute CcmniCtrl.step ccmniInit
        [.mdState .ready (readyAnswers (some true)), .devOpen 0 resumesOnce,
          .mdState .ready (readyAnswers none)] = some s ∧ s.napiFault = true := by
  refine ⟨by decide, _, rfl, by decide⟩

end Runs

end T7xxModel.Netdev
