import T7xx.Dpmaif.BatLedger

namespace T7xxModel.Dpmaif

open Transition

/-- The posted slots of a table, `bat_wr_idx - bat_release_rd_idx` round its end. -/
def postedCnt (bat : Bat) : Nat :=
  (bat.batWrIdx + bat.batSizeCnt - bat.batReleaseRdIdx) % bat.batSizeCnt

/-- A refill that has ended: whether it met no failure, and the table that it left. -/
structure Refill where
  type : BatType
  clean : Bool
  posted : Nat
  size : Nat
deriving DecidableEq, Repr

structure RefillRun where
  path : RxPath
  refills : List Refill

section Steps

def refillRet (allocs : Nat → Option Nat) (answer : HwBatAnswer) (type : BatType) (bidCnt : Nat)
    (p : RxPath) : Int :=
  match type with
  | .normal => (rxBufAlloc allocs p.queStarted (some answer) bidCnt p.normal).2
  | .frag => (rxFragAlloc allocs false bidCnt p.frag).2

/-- Every slot that was released is filled again, and the hardware is told of it. -/
def RefillsClean (allocs : Nat → Option Nat) (answer : HwBatAnswer) (type : BatType) (bidCnt : Nat)
    (p : RxPath) : Prop :=
  filledCnt allocs bidCnt (p.table type) = bidCnt ∧ refillRet allocs answer type bidCnt p = 0

instance (allocs : Nat → Option Nat) (answer : HwBatAnswer) (type : BatType) (bidCnt : Nat)
    (p : RxPath) : Decidable (RefillsClean allocs answer type bidCnt p) :=
  inferInstanceAs (Decidable (_ ∧ _))

/-- The refill with which a call of the release work ends. -/
def refillBy (p q : RxPath) : RxLabel → List Refill
  | .workAlloc allocs answer =>
    match p.work with
    | .released type bidCnt =>
      [⟨type, RefillsClean allocs answer type bidCnt p, postedCnt (q.table type),
        (q.table type).batSizeCnt⟩]
    | _ => []
  | _ => []

def RefillRun.step (s : RefillRun) (label : RxLabel) : Option RefillRun :=
  (rxStep s.path label).map fun path => { path, refills := s.refills ++ refillBy s.path path label }

def refillInit : RefillRun := ⟨rxInit, []⟩

end Steps

section Contract

/-- A refill that met no failure leaves all slots but one posted. -/
def Refill.Full (refill : Refill) : Prop := refill.clean = true → refill.posted = refill.size - 1

instance (refill : Refill) : Decidable refill.Full := inferInstanceAs (Decidable (_ → _))

def RefillsFull (s : RefillRun) : Prop := ∀ refill ∈ s.refills, refill.Full

instance (s : RefillRun) : Decidable (RefillsFull s) :=
  inferInstanceAs (Decidable (∀ refill ∈ s.refills, refill.Full))

/-- Before a refill that meets no failure the table lacks only the slots that its call released. -/
def LacksReleased (s : RefillRun) : RxLabel → Prop
  | .workAlloc allocs answer => ∀ type bidCnt, s.path.work = .released type bidCnt →
      RefillsClean allocs answer type bidCnt s.path →
        postedCnt (s.path.table type) + bidCnt = (s.path.table type).batSizeCnt - 1
  | _ => True

def TablesInRange (p : RxPath) : Prop := ∀ type, BatBounds (p.table type)

end Contract

section Posted

variable {allocs : Nat → Option Nat} {bat u : Bat}

theorem postedCnt_distance (bounds : BatBounds bat) :
    postedCnt bat = Ring.distance bat.batSizeCnt bat.batReleaseRdIdx bat.batWrIdx := by
  have write := bounds.write
  have release := bounds.release
  unfold postedCnt Ring.distance
  split
  · rename_i ordered
    rw [show bat.batWrIdx + bat.batSizeCnt - bat.batReleaseRdIdx =
      bat.batWrIdx - bat.batReleaseRdIdx + bat.batSizeCnt by omega, Nat.add_mod_right,
      Nat.mod_eq_of_lt (by omega)]
  · rw [Nat.mod_eq_of_lt (by omega)]
    omega

theorem Grown.bounds {count : Nat} (grown : Grown bat u count) (bounds : BatBounds bat) :
    BatBounds u := by
  have fits := grown.fits
  have write := bounds.write
  refine ⟨?_, ?_⟩
  · rw [grown.write, grown.size]
    exact Ring.wrap_lt (by omega)
  · rw [grown.release, grown.size]
    exact bounds.release

theorem Grown.posted {count : Nat} (grown : Grown bat u count) (bounds : BatBounds bat) :
    postedCnt u = postedCnt bat + count := by
  have write := bounds.write
  have release := bounds.release
  have fits := grown.fits
  rw [postedCnt_distance (grown.bounds bounds), postedCnt_distance bounds, grown.size,
    grown.release, grown.write]
  unfold Bat.wrap
  unfold Ring.distance at *
  split_ifs at * <;> omega

/-- An allocation succeeds only on a started queue and with a hardware that reports what was
    written. -/
theorem rxBufAlloc_zero {queStarted : Bool} {answer : HwBatAnswer} {bufCnt : Nat}
    (succeeded : (rxBufAlloc allocs queStarted (some answer) bufCnt bat).2 = 0) :
    queStarted = true ∧
      answer = ⟨0, bat.wrap (bat.batWrIdx + filledCnt allocs bufCnt bat)⟩ := by
  have invalid : -EINVAL ≠ 0 := by decide
  have memory : -ENOMEM ≠ 0 := by decide
  have mismatch : -EFAULT ≠ 0 := by decide
  have ring := fillBat_ring allocs bat.batWrIdx bufCnt 0 bat
  unfold rxBufAlloc at succeeded
  unfold filledCnt
  split at succeeded
  · exact absurd succeeded invalid
  rename_i good
  rw [if_neg good]
  split at succeeded
  · exact absurd succeeded memory
  rename_i enough
  rw [if_neg enough]
  generalize fillBat allocs bat.batWrIdx bufCnt 0 bat = result at *
  obtain ⟨t, i⟩ := result
  dsimp only at succeeded ring ⊢
  split at succeeded
  · exact absurd succeeded memory
  cases queStarted with
  | false =>
    have refused : updateBatWrIdx false i t = (t, -EINVAL) := rfl
    rw [refused] at succeeded
    exact absurd succeeded invalid
  | true =>
    rcases updateBatWrIdx_cases true i t with refused | written
    · rw [refused] at succeeded
      exact absurd succeeded invalid
    rw [written] at succeeded
    dsimp only at succeeded
    rw [if_neg (by simp)] at succeeded
    split at succeeded
    · rename_i unsent
      exact absurd succeeded unsent
    rename_i sent
    split at succeeded
    · exact absurd succeeded mismatch
    rename_i reported
    obtain ⟨ret, wrIdx⟩ := answer
    have sent : ret = 0 := Decidable.not_not.mp sent
    have reported : wrIdx = t.wrap (t.batWrIdx + i) := Decidable.not_not.mp reported
    rw [sent, reported, ring.wrap, ring.write]
    exact ⟨rfl, rfl⟩

theorem refill_posted {p q : RxPath} {answer : HwBatAnswer} {type : BatType} {bidCnt : Nat}
    (bounds : BatBounds (p.table type)) (waiting : p.work = .released type bidCnt)
    (clean : RefillsClean allocs answer type bidCnt p) (taken : workAlloc allocs answer p = some q) :
    postedCnt (q.table type) = postedCnt (p.table type) + bidCnt ∧
      (q.table type).batSizeCnt = (p.table type).batSizeCnt := by
  obtain ⟨filled, zero⟩ := clean
  have grown : Grown (p.table type) (q.table type) bidCnt := by
    rw [← filled]
    unfold workAlloc at taken
    rw [waiting] at taken
    cases type with
    | normal =>
      dsimp only at taken
      split at taken
      · cases taken
      cases taken
      obtain ⟨started, reported⟩ := rxBufAlloc_zero zero
      rw [started]
      exact (rxBufAlloc_grown bounds (some answer) fun _ same => by cases same; exact reported).1
    | frag =>
      dsimp only at taken
      split at taken
      · cases taken
      cases taken
      exact (rxFragAlloc_grown false bounds).2 (.inl rfl)
  exact ⟨grown.posted bounds, grown.size⟩

end Posted

section Runs

variable {p q : RxPath}

theorem TablesInRange.mk (normalIn : BatBounds p.normal) (fragIn : BatBounds p.frag) :
    TablesInRange p := by
  intro type
  cases type with
  | normal => exact normalIn
  | frag => exact fragIn

theorem TablesInRange.set {type : BatType} {bat : Bat} (inRange : TablesInRange p)
    (bounds : BatBounds bat) : TablesInRange (p.setTable type bat) := by
  cases type with
  | normal => exact .mk bounds (inRange .frag)
  | frag => exact .mk (inRange .normal) bounds

theorem rxStart_inRange {bufAllocs fragAllocs : Nat → Option Nat} {hwReady : Bool}
    (inRange : TablesInRange p) (taken : rxStart bufAllocs fragAllocs hwReady p = some q) :
    TablesInRange q := by
  have cleared : BatBounds (clearBitmap p.normal) := ⟨(inRange .normal).1, (inRange .normal).2⟩
  have normalIn := (rxBufAlloc_posts bufAllocs true none (p.normal.batSizeCnt - 1) cleared).bounds
  have frag : BatBounds p.frag := inRange .frag
  have fragIn := (rxFragAlloc_posts fragAllocs true (p.frag.batSizeCnt - 1) frag).bounds
  obtain ⟨normal, frag, filled, fragFilled, ended⟩ := rxStart_cases taken
  rw [← filled] at normalIn
  rw [← fragFilled] at fragIn
  rcases ended with ⟨-, rfl⟩ | ⟨-, -, rfl⟩ | ⟨-, -, -, rfl⟩ | ⟨-, -, -, rfl⟩
  · exact .mk normalIn (inRange .frag)
  · exact .mk (batFree_bounds normalIn) fragIn
  · exact .mk (batFree_bounds normalIn) (batFree_bounds fragIn)
  · exact .mk normalIn fragIn

theorem releaseBatEntry_bounds {bat : Bat} (queStarted : Bool) (relEntryNum hwRdIdx : Nat)
    (bounds : BatBounds bat) : BatBounds (releaseBatEntry queStarted relEntryNum hwRdIdx bat).1 := by
  have release := bounds.release
  rcases releaseBatEntry_cases queStarted relEntryNum hwRdIdx bounds with
    ⟨ret, _, _, same⟩ | ⟨moved, few, _⟩
  · rw [same]
    exact bounds
  · rw [moved]
    exact ⟨bounds.write, Ring.wrap_lt (by omega)⟩

theorem rxStep_inRange {label : RxLabel} (inRange : TablesInRange p)
    (taken : rxStep p label = some q) : TablesInRange q := by
  have normalIn := inRange .normal
  have fragIn := inRange .frag
  cases label with
  | start bufAllocs fragAllocs hwReady => exact rxStart_inRange inRange taken
  | stop =>
    simp only [rxStep, rxStop] at taken
    split at taken
    · cases taken
    · cases taken
      have normalSome := Nat.lt_of_le_of_lt (Nat.zero_le _) normalIn.write
      have fragSome := Nat.lt_of_le_of_lt (Nat.zero_le _) fragIn.write
      exact .mk ⟨normalSome, normalSome⟩ ⟨fragSome, fragSome⟩
  | suspend | resume =>
    cases taken
    exact .mk normalIn fragIn
  | rxPkt curBid fits =>
    simp only [rxStep] at taken
    split at taken
    · cases taken
      refine .mk ?_ fragIn
      rcases getRxPkt_cases curBid fits p.normal with same | ⟨-, -, takes⟩
      · rw [same]
        exact normalIn
      · rw [takes]
        exact ⟨normalIn.1, normalIn.2⟩
    · cases taken
  | rxFrag curBid word =>
    simp only [rxStep] at taken
    split at taken
    · cases taken
      refine .mk normalIn ?_
      rcases getFrag_cases curBid word p.frag with same | ⟨-, -, takes⟩
      · rw [same]
        exact fragIn
      · rw [takes]
        exact ⟨fragIn.1, fragIn.2⟩
    · cases taken
  | workCount type =>
    simp only [rxStep, workCount] at taken
    split at taken
    · cases taken
    · split at taken
      · cases taken
        exact inRange
      · cases taken
        exact .mk normalIn fragIn
  | workRelease hwRdIdx =>
    simp only [rxStep, workRelease] at taken
    split at taken
    · rename_i type bidCnt counted
      split at taken
      · cases taken
      · cases taken
        have moved := @TablesInRange.set p type _ inRange
          (releaseBatEntry_bounds p.queStarted bidCnt hwRdIdx (inRange type))
        exact .mk (moved .normal) (moved .frag)
    · cases taken
  | workAlloc allocs answer =>
    simp only [rxStep, workAlloc] at taken
    split at taken
    · split at taken
      · cases taken
      · cases taken
        exact .mk (rxBufAlloc_posts allocs _ _ _ normalIn).bounds fragIn
    · split at taken
      · cases taken
      · cases taken
        exact .mk normalIn (rxFragAlloc_posts allocs _ _ fragIn).bounds
    · cases taken

theorem refillStep_exact {s t : RefillRun} {label : RxLabel} (inRange : TablesInRange s.path)
    (safe : RefillsFull s) (taken : s.step label = some t) : RefillsFull t ↔ LacksReleased s label := by
  obtain ⟨path, stepped, rfl⟩ := Option.map_eq_some_iff.mp taken
  have appended : RefillsFull { path, refills := s.refills ++ refillBy s.path path label } ↔
      ∀ refill ∈ refillBy s.path path label, refill.Full := by
    constructor
    · exact fun all refill member => all refill (List.mem_append_right _ member)
    · intro new refill member
      rcases List.mem_append.mp member with old | added
      · exact safe refill old
      · exact new refill added
  rw [appended]
  cases label with
  | workAlloc allocs answer =>
    unfold refillBy LacksReleased
    dsimp only
    split
    · rename_i type bidCnt waiting
      simp only [List.mem_singleton, forall_eq, Refill.Full, decide_eq_true_eq]
      constructor
      · rintro full other cnt released clean
        cases waiting.symm.trans released
        obtain ⟨posted, size⟩ := refill_posted (inRange type) waiting clean stepped
        rw [← posted, ← size]
        exact full clean
      · intro lacks clean
        obtain ⟨posted, size⟩ := refill_posted (inRange type) waiting clean stepped
        rw [posted, size]
        exact lacks type bidCnt waiting clean
    · rename_i idle
      exact ⟨fun _ type bidCnt released => absurd released (idle type bidCnt), fun _ => nofun⟩
  | _ => exact ⟨fun _ => trivial, fun _ => nofun⟩

/-- Each refill without a failure fills its table exactly if each finds it lacking only what its
    call has released. -/
theorem refills_full_iff (labels : List RxLabel) :
    Visits RefillsFull RefillRun.step refillInit labels ↔
      Obeys LacksReleased RefillRun.step refillInit labels := by
  have start : TablesInRange refillInit.path :=
    .mk ⟨by decide, by decide⟩ ⟨by decide, by decide⟩
  refine visits_iff_obeys (fun s => TablesInRange s.path) (fun s label t inRange _ taken => ?_)
    (fun _ _ _ inRange safe taken => refillStep_exact inRange safe taken) start nofun
  obtain ⟨path, stepped, rfl⟩ := Option.map_eq_some_iff.mp taken
  exact rxStep_inRange inRange stepped

end Runs

section Shortage

variable {allocs : Nat → Option Nat}

/-- A table whose slots from `first` on and before `last` have been filled. -/
def filledBat (allocs : Nat → Option Nat) (first last : Nat) (bat : Bat) : Bat :=
  { bat with
    batSkb := fun idx => if first ≤ idx ∧ idx < last then allocs idx else bat.batSkb idx
    batBase := fun idx => if first ≤ idx ∧ idx < last then (allocs idx).getD 0 else bat.batBase idx }

theorem filledBat_none (first : Nat) (bat : Bat) : filledBat allocs first first bat = bat := by
  have none : ∀ idx, ¬ (first ≤ idx ∧ idx < first) := fun idx => by omega
  simp [filledBat, none]

theorem filledBat_post {first last addr : Nat} (bat : Bat) (given : allocs first = some addr)
    (some_slots : first < last) :
    filledBat allocs (first + 1) last (bat.post first addr) = filledBat allocs first last bat := by
  have skb : (filledBat allocs (first + 1) last (bat.post first addr)).batSkb =
      (filledBat allocs first last bat).batSkb := by
    funext idx
    by_cases here : idx = first
    · simp [filledBat, Bat.post, here, some_slots, given]
    · have later : first + 1 ≤ idx ∧ idx < last ↔ first ≤ idx ∧ idx < last := by omega
      simp only [filledBat, later]
      simp [Bat.post, here]
  have base : (filledBat allocs (first + 1) last (bat.post first addr)).batBase =
      (filledBat allocs first last bat).batBase := by
    funext idx
    by_cases here : idx = first
    · simp [filledBat, Bat.post, here, some_slots, given]
    · have later : first + 1 ≤ idx ∧ idx < last ↔ first ≤ idx ∧ idx < last := by omega
      simp only [filledBat, later]
      simp [Bat.post, here]
  unfold filledBat at *
  dsimp only at skb base
  rw [skb, base]
  rfl

theorem fillBat_fresh (full : ∀ i, allocs i ≠ none) (rounds i : Nat) (bat : Bat)
    (empty : ∀ idx, i ≤ idx → bat.batSkb idx = none) (fits : i + rounds ≤ bat.batSizeCnt) :
    fillBat allocs 0 rounds i bat = (filledBat allocs i (i + rounds) bat, i + rounds) := by
  induction rounds generalizing i bat with
  | zero => exact Prod.ext (filledBat_none i bat).symm rfl
  | succ rounds ih =>
    obtain ⟨addr, given⟩ := Option.ne_none_iff_exists'.mp (full i)
    have here : bat.wrap (0 + i) = i := by
      unfold Bat.wrap
      rw [if_neg (by omega), Nat.zero_add]
    have rest := ih (i + 1) (bat.post i addr) (fun idx later => ?_) (by
      show i + 1 + rounds ≤ bat.batSizeCnt
      omega)
    · unfold fillBat
      rw [here]
      dsimp only
      rw [empty i le_rfl, given]
      dsimp only
      rw [rest, filledBat_post bat given (by omega), Nat.add_right_comm, Nat.add_assoc]
    · have apart : idx ≠ i := by omega
      simpa [Bat.post, apart] using empty idx (by omega)

def fullBat (allocs : Nat → Option Nat) (bat : Bat) : Bat :=
  { filledBat allocs 0 (bat.batSizeCnt - 1) bat with batWrIdx := bat.batSizeCnt - 1 }

/-- A table before it is filled for the first time. -/
structure Fresh (bat : Bat) : Prop where
  big : 1 < bat.batSizeCnt
  release : bat.batReleaseRdIdx = 0
  write : bat.batWrIdx = 0
  empty : ∀ idx, bat.batSkb idx = none

theorem Fresh.fill {bat : Bat} (fresh : Fresh bat) (full : ∀ i, allocs i ≠ none) :
    fillBat allocs bat.batWrIdx (bat.batSizeCnt - 1) 0 bat =
      (filledBat allocs 0 (bat.batSizeCnt - 1) bat, bat.batSizeCnt - 1) := by
  have big := fresh.big
  have filled := fillBat_fresh full (bat.batSizeCnt - 1) 0 bat (fun idx _ => fresh.empty idx) (by omega)
  rw [Nat.zero_add] at filled
  rw [fresh.write, filled]

theorem rxBufAlloc_fresh {bat : Bat} (fresh : Fresh bat) (full : ∀ i, allocs i ≠ none) :
    rxBufAlloc allocs true none (bat.batSizeCnt - 1) bat = (fullBat allocs bat, 0) := by
  have big := fresh.big
  have room := emptyRoom big fresh.release fresh.write
  have written : updateBatWrIdx true (bat.batSizeCnt - 1)
      (filledBat allocs 0 (bat.batSizeCnt - 1) bat) = (fullBat allocs bat, 0) := by
    unfold updateBatWrIdx fullBat filledBat
    dsimp only
    rw [fresh.write, fresh.release, if_neg (by simp), if_neg (by omega), if_neg (by omega), Nat.zero_add]
  unfold rxBufAlloc
  rw [if_neg (by omega), if_neg (by omega), fresh.fill full]
  dsimp only
  rw [if_neg (by omega), written]
  rfl

theorem rxFragAlloc_fresh {bat : Bat} (fresh : Fresh bat) (full : ∀ i, allocs i ≠ none) :
    rxFragAlloc allocs true (bat.batSizeCnt - 1) bat = (fullBat allocs bat, 0) := by
  have big := fresh.big
  have room := emptyRoom big fresh.release fresh.write
  have last : (filledBat allocs 0 (bat.batSizeCnt - 1) bat).wrap (bat.batWrIdx + (bat.batSizeCnt - 1)) =
      bat.batSizeCnt - 1 := by
    show (if bat.batSizeCnt ≤ bat.batWrIdx + (bat.batSizeCnt - 1) then _ else _) = _
    rw [fresh.write, if_neg (by omega), Nat.zero_add]
  unfold rxFragAlloc
  rw [if_neg (by omega), if_neg (by omega), fresh.fill full]
  dsimp only
  rw [if_neg (by omega), last]
  rfl

/-- The receive path after a first start that filled both tables. -/
def fullPath : RxPath where
  normal := fullBat pages (clearBitmap (batAlloc .normal))
  frag := fullBat pages (batAlloc .frag)
  queStarted := true
  state := .pwron
  work := .idle

theorem fullPath_started : rxStep rxInit (.start pages pages true) = some fullPath := by
  have given : ∀ i, pages i ≠ none := fun _ => Option.some_ne_none _
  have normal : Fresh (clearBitmap (batAlloc .normal)) := ⟨by decide, rfl, rfl, fun _ => rfl⟩
  have frag : Fresh (batAlloc .frag) := ⟨by decide, rfl, rfl, fun _ => rfl⟩
  exact rxStart_filled (by decide) rfl (rxBufAlloc_fresh normal given) (rxFragAlloc_fresh frag given)

/-- 30 buffers are taken from slot `first` on, and the release work refills the table; the hardware
    reports `wrIdx`. -/
def pktCycle (first wrIdx : Nat) (bufAllocs : Nat → Option Nat) : List RxLabel :=
  (List.range 30).map (fun i => RxLabel.rxPkt (first + i) true) ++
    [RxLabel.workCount .normal, .workRelease (first + 30), .workAlloc bufAllocs ⟨0, wrIdx⟩]

/-- One buffer is missing in a refill; the next one meets no failure and leaves the table one short. -/
theorem missing_buffer_stays_missing :
    ¬ Visits RefillsFull RefillRun.step refillInit
      (.start pages pages true ::
        (pktCycle 0 28 (fun i => if i < 29 then pages i else none) ++ pktCycle 30 58 pages)) := by
  intro visits
  have short : ¬ Visits RefillsFull RefillRun.step ⟨fullPath, []⟩
      (pktCycle 0 28 (fun i => if i < 29 then pages i else none) ++ pktCycle 30 58 pages) := by
    decide +kernel
  have started : RefillRun.step refillInit (.start pages pages true) = some ⟨fullPath, []⟩ :=
    Option.map_eq_some_iff.mpr ⟨fullPath, fullPath_started, rfl⟩
  exact short (visits.2 _ started)

end Shortage

end T7xxModel.Dpmaif
