import T7xx.Dpmaif.BatLedger

namespace T7xxModel.Dpmaif

open Transition

section Running

variable {s t : BatHw}

structure Running (s : BatHw) : Prop where
  on : s.path.state = .pwron
  started : s.path.queStarted = true
  ledger : ∀ type, BatLedger (s.path.table type) (s.hw type)

/-- What holds whatever the starts did: of entries without a buffer the hardware is told only
    together with a wrong count. -/
def Books (s : BatHw) : Prop := Stopped s ∨ Running s ∧ (AllRecorded s → Announced s)

theorem Stopped.allRecorded (stopped : Stopped s) : AllRecorded s := by
  intro type k _ below
  rw [stopped.untold type] at below
  exact (Nat.not_lt_zero k below).elim

theorem Stopped.allMapped (stopped : Stopped s) : AllMapped s := by
  intro k _ below
  have untold : s.normal.told = 0 := stopped.untold .normal
  rw [untold] at below
  exact (Nat.not_lt_zero k below).elim

theorem Stopped.announced (stopped : Stopped s) : Announced s :=
  fun on => (stopped.off on).elim

theorem Books.allRecorded_iff (books : Books s) : AllRecorded s ↔ Announced s := by
  rcases books with stopped | ⟨running, counts⟩
  · exact iff_of_true stopped.allRecorded stopped.announced
  · refine ⟨counts, fun announced type => ?_⟩
    exact (running.ledger type).allRecorded (announced running.on type)

/-- What every step of a running data path keeps. -/
def Steady (s : BatHw) : Prop := Running s ∧ ∀ type, (s.hw type).told = (s.hw type).posted

theorem Steady.announced (steady : Steady s) : Announced s :=
  fun _ => steady.2

theorem hw_setPath (s : BatHw) (path : RxPath) (type : BatType) : (s.setPath path).hw type = s.hw type := by
  cases type <;> rfl

theorem hw_setHw (s : BatHw) (type other : BatType) (hw : HwBat) :
    (s.setHw type hw).hw other = if other = type then hw else s.hw other := by
  cases type <;> cases other <;> rfl

theorem path_setHw (s : BatHw) (type : BatType) (hw : HwBat) : (s.setHw type hw).path = s.path := by
  cases type <;> rfl

theorem Stopped.setPath (stopped : Stopped s) {path : RxPath} (off : path.state ≠ .pwron)
    (normal : AtRest path.normal) (frag : AtRest path.frag) : Stopped (s.setPath path) := by
  refine ⟨off, fun type => ?_, fun type => ?_⟩
  · cases type
    · exact normal
    · exact frag
  · rw [hw_setPath]
    exact stopped.untold type

theorem setPath_unmapped (s : BatHw) (path : RxPath) (idx : Nat) :
    (s.setPath path).unmapped idx = true ↔ s.Stale idx ∧ path.normal.batSkb idx ≠ none :=
  decide_eq_true_iff

theorem setPath_mapped {path : RxPath} {idx : Nat} (mapped : s.unmapped idx = false) :
    (s.setPath path).unmapped idx = false := by
  rw [← Bool.not_eq_true, setPath_unmapped]
  rintro ⟨⟨unmapped, -⟩, -⟩
  rw [mapped] at unmapped
  cases unmapped

end Running

section Starting

variable {s t : BatHw} {bufAllocs fragAllocs : Nat → Option Nat} {hwReady : Bool}

/-- What a start that goes through leaves behind. -/
structure Started (s t : BatHw) (bufAllocs : Nat → Option Nat) : Prop where
  running : Running t
  counts : AllRecorded t → Announced t
  full : Announced t ↔ Supplies bufAllocs s.path.normal (s.path.normal.batSizeCnt - 1)
  size : t.path.normal.batSizeCnt = s.path.normal.batSizeCnt
  unused : t.normal.used = 0
  told : t.normal.told = t.path.normal.batSizeCnt - 1
  stale : ∀ idx, t.unmapped idx = true ↔ s.Stale idx ∧ t.path.normal.batSkb idx ≠ none

theorem batStart_cases (stopped : Stopped s)
    (taken : batStart bufAllocs fragAllocs hwReady s = some t) :
    (¬ StartsOver s bufAllocs fragAllocs hwReady ∧ Stopped t) ∨
      (StartsOver s bufAllocs fragAllocs hwReady ∧ Started s t bufAllocs) := by
  have off := stopped.off
  have tables := stopped.tables
  obtain ⟨path, started, rfl⟩ := Option.map_eq_some_iff.mp taken
  obtain ⟨normal, frag, isNormal, isFrag, ends⟩ := rxStart_cases started
  obtain ⟨normalRest, normalOk, normalLedger⟩ := normalStart (tables .normal) isNormal
  obtain ⟨fragRest, fragOk, fragLedger⟩ := fragStart (tables .frag) isFrag
  rcases ends with ⟨failed, rfl⟩ | ⟨filled, failed, rfl⟩ | ⟨filled, fragFilled, refused, rfl⟩ |
    ⟨filled, fragFilled, ready, rfl⟩
  · rw [if_neg off]
    refine .inl ⟨fun afresh => ?_, stopped.setPath off normalRest (tables .frag)⟩
    exact failed (normalOk.mpr ⟨afresh.2.1 .normal, afresh.2.2.1⟩)
  · rw [if_neg off]
    refine .inl ⟨fun afresh => ?_, stopped.setPath off normalRest.batFree fragRest⟩
    exact failed (fragOk.mpr ⟨afresh.2.1 .frag, afresh.2.2.2⟩)
  · rw [if_neg off]
    refine .inl ⟨fun afresh => ?_, stopped.setPath off normalRest.batFree fragRest.batFree⟩
    rw [afresh.1] at refused
    cases refused
  · rw [if_pos rfl]
    obtain ⟨normalKept, normalTold, normalRecorded⟩ := normalLedger filled
    obtain ⟨fragKept, fragTold⟩ := fragLedger fragFilled
    have write (type : BatType) : (s.path.table type).batWrIdx = 0 := by
      cases type
      · exact (normalOk.mp filled).1
      · exact (fragOk.mp fragFilled).1
    refine .inr ⟨⟨ready, write, (normalOk.mp filled).2, (fragOk.mp fragFilled).2⟩, ?_⟩
    refine ⟨⟨rfl, rfl, fun type => ?_⟩, fun recorded _ type => ?_, ?_, ?_, rfl, rfl,
      fun idx => setPath_unmapped s _ idx⟩
    · cases type
      · exact normalKept
      · exact fragKept
    · cases type
      · exact normalRecorded (recorded .normal)
      · exact fragTold
    · constructor
      · exact fun told => normalTold.mp (told rfl .normal)
      · intro full _ type
        cases type
        · exact normalTold.mpr full
        · exact fragTold
    · have bounds : BatBounds (clearBitmap s.path.normal) :=
        ⟨(tables .normal).bounds.write, (tables .normal).bounds.release⟩
      have size := (rxBufAlloc_posts bufAllocs true none (s.path.normal.batSizeCnt - 1) bounds).size
      rw [← isNormal] at size
      exact size

theorem batStart_announced_iff (stopped : Stopped s)
    (taken : batStart bufAllocs fragAllocs hwReady s = some t) :
    Books t ∧ (Announced t ↔ StartsFull s (.start bufAllocs fragAllocs hwReady)) := by
  rcases batStart_cases stopped taken with ⟨givenUp, stays⟩ | ⟨afresh, started⟩
  · exact ⟨.inl stays, iff_of_true stays.announced fun afresh => absurd afresh givenUp⟩
  · exact ⟨.inr ⟨started.running, started.counts⟩, started.full.trans (imp_iff_right afresh).symm⟩

theorem batStart_mapped_iff (stopped : Stopped s) (announced : Announced t)
    (taken : batStart bufAllocs fragAllocs hwReady s = some t) :
    AllMapped t ↔ FillsMapped s (.start bufAllocs fragAllocs hwReady) := by
  rcases batStart_cases stopped taken with ⟨givenUp, stays⟩ | ⟨afresh, started⟩
  · exact iff_of_true stays.allMapped fun afresh => absurd afresh givenUp
  · refine Iff.trans ?_ (imp_iff_right afresh).symm
    have recorded := (Books.allRecorded_iff (.inr ⟨started.running, started.counts⟩)).mpr announced .normal
    have place {idx : Nat} (below : idx < s.path.normal.batSizeCnt - 1) :
        idx % t.path.normal.batSizeCnt = idx := by
      rw [started.size]
      exact Nat.mod_eq_of_lt (by omega)
    have asked {idx : Nat} (below : idx < s.path.normal.batSizeCnt - 1) : idx < t.normal.told := by
      rw [started.told, started.size]
      exact below
    have stale {idx : Nat} (below : idx < s.path.normal.batSizeCnt - 1) :
        t.unmapped idx = true ↔ s.Stale idx := by
      have held := recorded idx (started.unused ▸ Nat.zero_le idx) (asked below)
      change RecordedAt t.path.normal (idx % t.path.normal.batSizeCnt) at held
      rw [place below] at held
      rw [started.stale, and_iff_left]
      rw [held]
      exact Option.some_ne_none _
    constructor
    · intro mapped idx below
      have kept := mapped idx (started.unused ▸ Nat.zero_le idx) (asked below)
      rw [place below] at kept
      rw [← stale below, kept]
      exact Bool.false_ne_true
    · intro none k _ below
      rw [started.told, started.size] at below
      rw [place below, ← Bool.not_eq_true, stale below]
      exact none k below

end Starting

section Steps

variable {s t : BatHw}

theorem Running.step (running : Running s) {path : RxPath} {type : BatType} {hw : HwBat}
    (on : path.state = s.path.state) (started : path.queStarted = s.path.queStarted)
    (others : ∀ other ≠ type, path.table other = s.path.table other)
    (ledger : BatLedger (path.table type) hw) :
    Running ((s.setPath path).setHw type hw) := by
  refine ⟨?_, ?_, fun other => ?_⟩
  · rw [path_setHw, ← running.on]
    exact on
  · rw [path_setHw, ← running.started]
    exact started
  · rw [path_setHw, hw_setHw, hw_setPath]
    by_cases here : other = type
    · rw [if_pos here, here]
      exact ledger
    · rw [if_neg here]
      show BatLedger (path.table other) (s.hw other)
      rw [others other here]
      exact running.ledger other

theorem told_setHw {path : RxPath} {type : BatType} {hw : HwBat}
    (told : ∀ other, (s.hw other).told = (s.hw other).posted) (kept : hw.told = hw.posted) :
    ∀ other, (((s.setPath path).setHw type hw).hw other).told =
      (((s.setPath path).setHw type hw).hw other).posted := by
  intro other
  rw [hw_setHw, hw_setPath]
  by_cases here : other = type
  · rw [if_pos here]
    exact kept
  · rw [if_neg here]
    exact told other

theorem AllMapped.keep (mapped : AllMapped s)
    (size : t.path.normal.batSizeCnt = s.path.normal.batSizeCnt)
    (used : s.normal.used ≤ t.normal.used) (told : t.normal.told ≤ s.normal.told)
    (kept : ∀ idx, s.unmapped idx = false → t.unmapped idx = false) : AllMapped t := by
  intro k low high
  rw [size]
  exact kept _ (mapped k (Nat.le_trans used low) (Nat.lt_of_lt_of_le high told))

theorem Steady.release (steady : Steady s) (taken : batWorkRelease s = some t) :
    Steady t ∧ (AllMapped s → AllMapped t) := by
  obtain ⟨running, told⟩ := steady
  unfold batWorkRelease at taken
  split at taken
  · rename_i type bidCnt counted
    obtain ⟨path, released, rfl⟩ := Option.map_eq_some_iff.mp taken
    unfold workRelease at released
    rw [counted] at released
    dsimp only at released
    split at released
    · cases released
    cases released
    have ledger := (running.ledger type).releaseEntry bidCnt rfl
    have size : (releaseBatEntry s.path.queStarted bidCnt ((s.hw type).used % (s.path.table type).batSizeCnt)
        (s.path.table type)).1.batSizeCnt = (s.path.table type).batSizeCnt := by
      rcases releaseBatEntry_cases s.path.queStarted bidCnt _ (running.ledger type).bounds with
        ⟨ret, _, _, same⟩ | ⟨moved, _, _⟩
      · rw [same]
      · rw [moved]
    rw [← running.started] at ledger
    refine ⟨⟨running.step ?_ ?_ (fun other apart => ?_) ?_, told_setHw told (told type)⟩, fun mapped => ?_⟩
    · cases type <;> rfl
    · cases type <;> rfl
    · cases type <;> cases other <;> first | rfl | exact (apart rfl).elim
    · cases type
      · exact ledger
      · exact ledger
    · cases type with
      | normal => exact mapped.keep size (Nat.le_refl _) (Nat.le_refl _) fun _ => setPath_mapped
      | frag => exact mapped.keep rfl (Nat.le_refl _) (Nat.le_refl _) fun _ => setPath_mapped
  · cases taken

theorem Steady.grow {path : RxPath} {type : BatType} {count : Nat} (steady : Steady s)
    (on : path.state = s.path.state) (started : path.queStarted = s.path.queStarted)
    (others : ∀ other ≠ type, path.table other = s.path.table other)
    (grown : Grown (s.path.table type) (path.table type) count) :
    Steady ((s.setPath path).setHw type
      { s.hw type with
        told := (s.hw type).told + count
        posted := (s.hw type).posted +
          advanced (s.path.table type) (path.table type) Bat.batWrIdx }) := by
  obtain ⟨running, told⟩ := steady
  obtain ⟨ledger, moved⟩ := (running.ledger type).grow grown ((s.hw type).told + count)
  rw [moved]
  refine ⟨running.step on started others ledger, told_setHw told ?_⟩
  show (s.hw type).told + count = (s.hw type).posted + count
  rw [told type]

/-- The slots that a fill of the normal BAT passes are mapped unless they were stale before. -/
theorem Steady.fills_mapped {path : RxPath} {count posted : Nat} (steady : Steady s)
    (grown : Grown s.path.normal path.normal count) (mapped : AllMapped s) :
    AllMapped ((s.setPath path).setHw .normal { s.normal with told := s.normal.told + count, posted }) ↔
      ∀ j < count, ¬ s.Stale (s.path.normal.wrap (s.path.normal.batWrIdx + j)) := by
  have ledger := steady.1.ledger .normal
  have told : s.normal.told = s.normal.posted := steady.2 .normal
  have fits := grown.fits
  rw [show s.path.normal = s.path.table .normal from rfl, ledger.distance] at fits
  have used : s.normal.used ≤ s.normal.posted := ledger.posted
  have place {j : Nat} (below : j < count) : s.path.normal.wrap (s.path.normal.batWrIdx + j) =
      (s.normal.told + j) % s.path.normal.batSizeCnt := by
    have write : s.path.normal.batWrIdx = s.normal.posted % s.path.normal.batSizeCnt := ledger.write
    rw [write, told]
    refine wrap_mod ledger.positive _ ?_
    show j ≤ (s.path.table .normal).batSizeCnt
    omega
  have stale {j : Nat} (below : j < count) :
      (s.setPath path).unmapped ((s.normal.told + j) % s.path.normal.batSizeCnt) = true ↔
        s.Stale (s.path.normal.wrap (s.path.normal.batWrIdx + j)) := by
    have held := grown.recorded j below
    rw [setPath_unmapped, place below, and_iff_left]
    rw [← place below, held]
    exact Option.some_ne_none _
  have size : path.normal.batSizeCnt = s.path.normal.batSizeCnt := grown.size
  constructor
  · intro filled j below
    have kept := filled (s.normal.told + j) (Nat.le_trans (told ▸ used) (Nat.le_add_right _ _))
      (Nat.add_lt_add_left below _)
    change (s.setPath path).unmapped ((s.normal.told + j) % path.normal.batSizeCnt) = false at kept
    rw [size] at kept
    rw [← stale below, kept]
    exact Bool.false_ne_true
  · intro fresh k low high
    change (s.setPath path).unmapped (k % path.normal.batSizeCnt) = false
    rw [size]
    by_cases old : k < s.normal.told
    · exact setPath_mapped (mapped k low old)
    · obtain ⟨j, rfl⟩ := Nat.exists_eq_add_of_le (Nat.not_lt.mp old)
      have below : j < count := Nat.lt_of_add_lt_add_left high
      rw [← Bool.not_eq_true, stale below]
      exact fresh j below

/-- What the last part of the release work does to its table, if the hardware agrees. -/
theorem workAlloc_grown {p q : RxPath} {type : BatType} {bidCnt : Nat} {allocs : Nat → Option Nat}
    {answer : HwBatAnswer} (taken : workAlloc allocs answer p = some q)
    (waiting : p.work = .released type bidCnt) (on : p.queStarted = true)
    (bounds : BatBounds (p.table type))
    (agrees : answer = ⟨0, (p.table type).wrap
      ((p.table type).batWrIdx + filledCnt allocs bidCnt (p.table type))⟩) :
    q.state = p.state ∧ q.queStarted = p.queStarted ∧
      (∀ other ≠ type, q.table other = p.table other) ∧
        Grown (p.table type) (q.table type) (filledCnt allocs bidCnt (p.table type)) := by
  unfold workAlloc at taken
  rw [waiting] at taken
  cases type with
  | normal =>
    dsimp only at taken
    split at taken
    · cases taken
    cases taken
    refine ⟨rfl, rfl, fun other apart => ?_, ?_⟩
    · cases other with
      | normal => exact (apart rfl).elim
      | frag => rfl
    · rw [on]
      exact (rxBufAlloc_grown bounds (some answer) fun _ same => by cases same; exact agrees).1
  | frag =>
    dsimp only at taken
    split at taken
    · cases taken
    cases taken
    refine ⟨rfl, rfl, fun other apart => ?_, ?_⟩
    · cases other with
      | normal => rfl
      | frag => exact (apart rfl).elim
    · exact (rxFragAlloc_grown false bounds).2 (.inl rfl)

theorem Steady.alloc {allocs : Nat → Option Nat} (steady : Steady s)
    (taken : batWorkAlloc allocs s = some t) :
    Steady t ∧ (AllMapped s → (AllMapped t ↔ FillsMapped s (.workAlloc allocs))) := by
  unfold batWorkAlloc at taken
  split at taken
  · rename_i type bidCnt waiting
    have ledger := steady.1.ledger type
    have told := steady.2 type
    have bounds := ledger.bounds
    have fits := @filledCnt_fits allocs _ bidCnt bounds
    dsimp only at taken
    have sent : toldCnt allocs type bidCnt s.path =
        filledCnt allocs bidCnt (s.path.table type) := by
      unfold toldCnt
      cases type with
      | normal =>
        dsimp only
        rw [steady.1.started]
        exact sentBatCnt_eq bounds
      | frag => rfl
    rw [sent] at taken
    obtain ⟨path, filled, rfl⟩ := Option.map_eq_some_iff.mp taken
    obtain ⟨on, started, others, grown⟩ := workAlloc_grown filled waiting steady.1.started bounds
      (by rw [ledger.write, wrap_mod ledger.positive _ (by omega), told])
    refine ⟨steady.grow on started others grown, fun mapped => ?_⟩
    cases type with
    | normal =>
      refine (steady.fills_mapped grown mapped).trans ⟨fun fresh other waits => ?_, fun fresh => ?_⟩
      · rw [waiting] at waits
        cases waits
        exact fresh
      · exact fresh bidCnt waiting
    | frag =>
      have size : path.normal.batSizeCnt = s.path.normal.batSizeCnt :=
        congrArg Bat.batSizeCnt (others .normal nofun)
      refine iff_of_true ?_ fun other waits => ?_
      · exact mapped.keep size (Nat.le_refl _) (Nat.le_refl _) fun _ => setPath_mapped
      · rw [waiting] at waits
        cases waits
  · cases taken

theorem Steady.taken {path : RxPath} {type : BatType} {curBid : Nat} (steady : Steady s)
    (named : s.Named type curBid) (on : path.state = s.path.state)
    (started : path.queStarted = s.path.queStarted)
    (others : ∀ other ≠ type, path.table other = s.path.table other)
    (takes : path.table type = s.path.table type ∨
      path.table type = takeBatBuf curBid (s.path.table type)) :
    Steady (s.setPath path) ∧ (AllMapped s → AllMapped (s.setPath path)) := by
  obtain ⟨running, told⟩ := steady
  have size : path.normal.batSizeCnt = s.path.normal.batSizeCnt := by
    cases type with
    | normal =>
      rcases takes with same | gone
      · exact congrArg Bat.batSizeCnt same
      · exact (congrArg Bat.batSizeCnt gone).trans rfl
    | frag => exact congrArg Bat.batSizeCnt (others .normal nofun)
  refine ⟨⟨⟨on.trans running.on, started.trans running.started, fun other => ?_⟩, fun other => ?_⟩,
    fun mapped => mapped.keep size (Nat.le_refl _) (Nat.le_refl _) fun _ => setPath_mapped⟩
  · rw [hw_setPath]
    show BatLedger (path.table other) (s.hw other)
    by_cases here : other = type
    · rw [here]
      rcases takes with same | gone
      · rw [same]
        exact running.ledger type
      · rw [gone]
        exact (running.ledger type).take named
    · rw [others other here]
      exact running.ledger other
  · rw [hw_setPath]
    exact told other

theorem Steady.refuse {curBid : Nat} (steady : Steady s) (named : s.Named .normal curBid) :
    Steady { s with unmapped := Function.update s.unmapped curBid true } ∧
      (AllMapped s → AllMapped { s with unmapped := Function.update s.unmapped curBid true }) := by
  have ledger := steady.1.ledger .normal
  refine ⟨⟨⟨steady.1.on, steady.1.started, fun type => ?_⟩, fun type => ?_⟩, fun mapped k low high => ?_⟩
  · cases type
    · exact steady.1.ledger .normal
    · exact steady.1.ledger .frag
  · cases type
    · exact steady.2 .normal
    · exact steady.2 .frag
  · have told : s.normal.told = s.normal.posted := steady.2 .normal
    have apart : k % s.path.normal.batSizeCnt ≠ curBid :=
      ledger.apart named low (told ▸ high)
    exact (Function.update_of_ne apart _ _).trans (mapped k low high)

theorem Steady.rxPkt {curBid : Nat} {fits : Bool} (steady : Steady s)
    (taken : batRxPkt curBid fits s = some t) : Steady t ∧ (AllMapped s → AllMapped t) := by
  unfold batRxPkt at taken
  split at taken
  · rename_i named
    obtain ⟨path, received, rfl⟩ := Option.map_eq_some_iff.mp taken
    split
    · exact steady.refuse named
    · simp only [rxStep] at received
      rw [if_pos steady.1.started] at received
      cases received
      refine steady.taken named rfl rfl (fun other apart => ?_) ?_
      · cases other with
        | normal => exact (apart rfl).elim
        | frag => rfl
      · exact (getRxPkt_cases curBid fits s.path.normal).imp_right fun taken => taken.2.2
  · cases taken

theorem Steady.rxFrag {curBid : Nat} {word : BitVec 64} (steady : Steady s)
    (taken : batRxFrag curBid word s = some t) : Steady t ∧ (AllMapped s → AllMapped t) := by
  unfold batRxFrag at taken
  split at taken
  · rename_i named
    obtain ⟨path, received, rfl⟩ := Option.map_eq_some_iff.mp taken
    simp only [rxStep] at received
    rw [if_pos steady.1.started] at received
    cases received
    refine steady.taken named rfl rfl (fun other apart => ?_) ?_
    · cases other with
      | normal => rfl
      | frag => exact (apart rfl).elim
    · exact (getFrag_cases curBid word s.path.frag).imp_right fun taken => taken.2.2
  · cases taken

theorem Steady.count {type : BatType} {path : RxPath} (steady : Steady s)
    (taken : workCount type s.path = some path) :
    Steady (s.setPath path) ∧ (AllMapped s → AllMapped (s.setPath path)) := by
  obtain ⟨running, told⟩ := steady
  have same : path.normal = s.path.normal ∧ path.frag = s.path.frag ∧ path.state = s.path.state ∧
      path.queStarted = s.path.queStarted := by
    unfold workCount at taken
    split at taken
    · cases taken
    dsimp only at taken
    split at taken <;> cases taken <;> exact ⟨rfl, rfl, rfl, rfl⟩
  obtain ⟨normal, frag, state, started⟩ := same
  refine ⟨⟨⟨state.trans running.on, started.trans running.started, fun type => ?_⟩, fun type => ?_⟩,
    fun mapped => mapped.keep (congrArg Bat.batSizeCnt normal) (Nat.le_refl _) (Nat.le_refl _)
      fun _ => setPath_mapped⟩
  · rw [hw_setPath]
    cases type with
    | normal =>
      show BatLedger path.normal (s.hw .normal)
      rw [normal]
      exact running.ledger .normal
    | frag =>
      show BatLedger path.frag (s.hw .frag)
      rw [frag]
      exact running.ledger .frag
  · rw [hw_setPath]
    exact told type

theorem Steady.use {type : BatType} (steady : Steady s)
    (more : (s.hw type).used < (s.hw type).told) :
    Steady (s.setHw type { s.hw type with used := (s.hw type).used + 1 }) ∧
      (AllMapped s → AllMapped (s.setHw type { s.hw type with used := (s.hw type).used + 1 })) := by
  obtain ⟨running, told⟩ := steady
  have ledger := (running.ledger type).use (told type) more
  refine ⟨⟨⟨?_, ?_, fun other => ?_⟩, fun other => ?_⟩, fun mapped => ?_⟩
  · rw [path_setHw]
    exact running.on
  · rw [path_setHw]
    exact running.started
  · rw [path_setHw, hw_setHw]
    split
    · rename_i here
      rw [here]
      exact ledger
    · exact running.ledger other
  · rw [hw_setHw]
    split
    · exact told type
    · exact told other
  · cases type with
    | normal => exact mapped.keep rfl (Nat.le_succ _) (Nat.le_refl _) fun _ => id
    | frag => exact mapped.keep rfl (Nat.le_refl _) (Nat.le_refl _) fun _ => id

theorem Running.stop (running : Running s) (taken : batStop s = some t) : Stopped t := by
  unfold batStop at taken
  split at taken
  · cases taken
  · obtain ⟨path, stopped, rfl⟩ := Option.map_eq_some_iff.mp taken
    have normal := (running.ledger .normal).big
    have frag := (running.ledger .frag).big
    unfold rxStop at stopped
    split at stopped
    · cases stopped
    · cases stopped
      refine ⟨nofun, fun type => ?_, fun type => ?_⟩
      · cases type
        · exact ⟨normal, rfl, Nat.zero_lt_of_lt normal⟩
        · exact ⟨frag, rfl, Nat.zero_lt_of_lt frag⟩
      · cases type <;> rfl

/-- Only a start can break the counts, and only a start or a fill of the release work can post an
    unmapped buffer. -/
theorem batStep_announced {label : BatLabel} (taken : batStep s label = some t)
    (books : Books s) (announced : Announced s) :
    Books t ∧ (Announced t ↔ StartsFull s label) ∧
      (AllMapped s → Announced t → (AllMapped t ↔ FillsMapped s label)) := by
  rcases books with stopped | ⟨running, _⟩
  · cases label with
    | start bufAllocs fragAllocs hwReady =>
      obtain ⟨books, full⟩ := batStart_announced_iff stopped taken
      exact ⟨books, full, fun _ told => batStart_mapped_iff stopped told taken⟩
    | _ =>
      rw [batStep, if_pos stopped.off] at taken
      cases taken
  · have on := running.on
    have steady : Steady s := ⟨running, announced on⟩
    have keeps {filled : Prop} (kept : Steady t ∧ (AllMapped s → (AllMapped t ↔ filled))) :
        Books t ∧ (Announced t ↔ True) ∧ (AllMapped s → Announced t → (AllMapped t ↔ filled)) :=
      ⟨.inr ⟨kept.1.1, fun _ => kept.1.announced⟩, iff_of_true kept.1.announced trivial,
        fun mapped _ => kept.2 mapped⟩
    have still (kept : Steady t ∧ (AllMapped s → AllMapped t)) :
        Steady t ∧ (AllMapped s → (AllMapped t ↔ True)) :=
      ⟨kept.1, fun mapped => iff_of_true (kept.2 mapped) trivial⟩
    cases label with
    | start bufAllocs fragAllocs hwReady =>
      have started : batStart bufAllocs fragAllocs hwReady s = some t := taken
      unfold batStart rxStart at started
      rw [if_pos (.inl on)] at started
      cases started
    | stop =>
      rw [batStep, if_neg (not_not.mpr on)] at taken
      have stopped := running.stop taken
      exact ⟨.inl stopped, iff_of_true stopped.announced trivial,
        fun _ _ => iff_of_true stopped.allMapped trivial⟩
    | hwUse type =>
      rw [batStep, if_neg (not_not.mpr on)] at taken
      dsimp only at taken
      split at taken
      · rename_i more
        cases taken
        exact keeps (still (steady.use more))
      · cases taken
    | rxPkt curBid fits =>
      rw [batStep, if_neg (not_not.mpr on)] at taken
      exact keeps (still (steady.rxPkt taken))
    | rxFrag curBid word =>
      rw [batStep, if_neg (not_not.mpr on)] at taken
      exact keeps (still (steady.rxFrag taken))
    | workCount type =>
      rw [batStep, if_neg (not_not.mpr on)] at taken
      obtain ⟨path, counted, rfl⟩ := Option.map_eq_some_iff.mp taken
      exact keeps (still (steady.count counted))
    | workRelease =>
      rw [batStep, if_neg (not_not.mpr on)] at taken
      exact keeps (still (steady.release taken))
    | workAlloc allocs =>
      rw [batStep, if_neg (not_not.mpr on)] at taken
      exact keeps (steady.alloc taken)

end Steps

end T7xxModel.Dpmaif
