import T7xx.Dpmaif.RxIndex

namespace T7xxModel.Dpmaif

open Transition

def DPMAIF_PIT_REM_CNT_MSK : Nat := 2^18 - 1

/-- Who asked for a release of PIT entries: a round of the loop or the end of `t7xx_dpmaif_rx_start`. -/
inductive PitCaller where
  | round (l : RxLocals)
  | tail
deriving DecidableEq, Repr

/-- Where the poll of a queue is; a release waits for the register before it writes the count and
    after it. -/
inductive PitAt where
  | outside
  | receiving (l : RxLocals)
  | releasing (caller : PitCaller) (relEntryNum newRelIdx : Nat) (sent : Bool)
deriving DecidableEq, Repr

/-- An RX queue with the sum of the counts it wrote to `DPMAIF_DL_DLQPIT_ADD` and the entries it
    consumed since it was cleared or started. -/
structure PitRun where
  rxq : RxQueue
  queStarted : Bool
  pc : PitAt
  written : Nat
  consumed : Nat

/-- `entry` comes with the tables as the other queue and the release work have left them. -/
inductive PitLabel where
  | pollPit (hwWrIdx budget : Nat)
  | entry (entry : RxEntry) (normal frag : Bat)
  | addReady
  | addTimeout
  | rxStop
  | stopRxq
  | start
  | resume

section Steps

def PitRun.side (s : PitRun) (normal frag : Bat) : RxSide := ⟨s.rxq, normal, frag, s.queStarted⟩

def PitCaller.returns (ret : Int) : PitCaller → PitAt
  | .round l => if ret < 0 then .outside else .receiving { l with ret, rxCnt := l.rxCnt + 1 }
  | .tail => .outside

def newRelIdx (relEntryNum : Nat) (rxq : RxQueue) : Nat :=
  let idx := rxq.pitReleaseRdIdx + relEntryNum
  if rxq.pitWrIdx < rxq.pitReleaseRdIdx ∧ rxq.pitSizeCnt ≤ idx then idx - rxq.pitSizeCnt else idx

/-- `t7xx_dpmaif_pit_release_and_add` up to its first wait for the register. -/
def PitRun.notify (caller : PitCaller) (s : PitRun) : PitRun :=
  let relEntryNum := s.rxq.pitRemainReleaseCnt
  if relEntryNum < DPMAIF_PIT_CNT_THRESHOLD then { s with pc := caller.returns 0 }
  else if s.queStarted = false then
    { s with rxq := { s.rxq with pitRemainReleaseCnt := 0 }, pc := caller.returns 0 }
  else if s.rxq.pitSizeCnt ≤ relEntryNum then { s with pc := caller.returns (-EINVAL) }
  else { s with pc := .releasing caller relEntryNum (newRelIdx relEntryNum s.rxq) false }

/-- The loop ends before it looks at an entry. -/
def RxLeaves (l : RxLocals) (rxq : RxQueue) : Prop :=
  l.pitCnt ≤ l.rxCnt ∨ (rxq.rxDataInfo.msgPitReceived = false ∧ l.budget ≤ l.recvSkbCnt)

instance (l : RxLocals) (rxq : RxQueue) : Decidable (RxLeaves l rxq) :=
  inferInstanceAs (Decidable (_ ∨ _))

/-- The round of the loop notifies the hardware. -/
def RxLocals.NotifiesHw (l : RxLocals) : Prop :=
  0 < l.rxCnt ∧ l.rxCnt % DPMAIF_NOTIFY_RELEASE_COUNT = 0

instance (l : RxLocals) : Decidable l.NotifiesHw := inferInstanceAs (Decidable (_ ∧ _))

def PitRun.advance (s : PitRun) (entered : RxSide × RxLocals) : PitRun :=
  let (side, l) := rxAdvance entered.2 entered.1
  let s := { s with rxq := side.rxq, consumed := s.consumed + 1 }
  if l.NotifiesHw then s.notify (.round l)
  else { s with pc := .receiving { l with rxCnt := l.rxCnt + 1 } }

def PitRun.enter (s : PitRun) (entry : RxEntry) (normal frag : Bat) (l : RxLocals) : PitRun :=
  let side := s.side normal frag
  if RxLeaves l s.rxq then if l.ret = 0 then s.notify .tail else { s with pc := .outside }
  else if entry.pit.pitSeq ≠ s.rxq.expectPitSeq then
    { s with rxq := (rxChecked entry l side).rxq, pc := .outside }
  else s.advance (rxEntered entry l side)

def PitRun.step (s : PitRun) : PitLabel → Option PitRun
  | .pollPit hwWrIdx budget =>
    if s.pc = .outside then
      let (side, begun) := rxStartBegin hwWrIdx budget (s.side (batAlloc .normal) (batAlloc .frag))
      some { s with rxq := side.rxq, pc := match begun with | none => .outside | some l => .receiving l }
    else none
  | .entry entry normal frag =>
    match s.pc with
    | .receiving l => some (s.enter entry normal frag l)
    | _ => none
  | .addReady =>
    match s.pc with
    | .releasing caller relEntryNum idx false =>
      some { s with
        written := s.written + (relEntryNum &&& DPMAIF_PIT_REM_CNT_MSK)
        pc := .releasing caller relEntryNum idx true }
    | .releasing caller _ idx true =>
      some { s with
        rxq := { s.rxq with pitReleaseRdIdx := idx, pitRemainReleaseCnt := 0 }
        pc := caller.returns 0 }
    | _ => none
  | .addTimeout =>
    match s.pc with
    | .releasing caller _ _ _ => some { s with pc := caller.returns (-ETIMEDOUT) }
    | _ => none
  | .rxStop => some { s with queStarted := false }
  | .stopRxq => some { s with rxq := stopRxq s.rxq, queStarted := false, written := 0, consumed := 0 }
  | .start => some { s with queStarted := true, written := 0, consumed := 0 }
  | .resume => some { s with queStarted := true }

def pitInit : PitRun := ⟨rxAlloc, false, .outside, 0, 0⟩

/-- The release that has been started runs to its end, with the register ready or not. -/
def PitRun.finishRelease (ready : Bool) (s : PitRun) : PitRun :=
  match s.pc with
  | .releasing caller _ idx _ =>
    if ready then
      { s with
        rxq := { s.rxq with pitReleaseRdIdx := idx, pitRemainReleaseCnt := 0 }, pc := caller.returns 0 }
    else { s with pc := caller.returns (-ETIMEDOUT) }
  | _ => s

end Steps

section Books

/-- The queue as a release whose count has been written will leave it. -/
def PitRun.settled (s : PitRun) : RxQueue :=
  match s.pc with
  | .releasing _ _ idx true => { s.rxq with pitReleaseRdIdx := idx, pitRemainReleaseCnt := 0 }
  | _ => s.rxq

/-- What was given back and what remains to be given back is what was consumed. -/
def BooksAgree (s : PitRun) : Prop :=
  s.written + s.settled.pitRemainReleaseCnt = s.consumed ∧
    s.settled.pitRdIdx =
      (s.settled.pitReleaseRdIdx + s.settled.pitRemainReleaseCnt) % s.settled.pitSizeCnt

instance (s : PitRun) : Decidable (BooksAgree s) := inferInstanceAs (Decidable (_ ∧ _))

/-- How many entries the hardware is notified of in a step of the loop. -/
def PitRun.notified (s : PitRun) (entry : RxEntry) (l : RxLocals) : Nat :=
  if RxLeaves l s.rxq then if l.ret = 0 then s.rxq.pitRemainReleaseCnt else 0
  else if Reaches entry l s.rxq ∧ l.NotifiesHw then s.rxq.pitRemainReleaseCnt + 1
  else 0

/-- A poll consumes the entry at `pit_rd_idx`, a stopped queue has too few entries to release, no
    register times out after the write, and neither a stop nor a start falls into a release. -/
def KeepsBooks (s : PitRun) : PitLabel → Prop
  | .entry entry _ _ =>
    ∀ l, s.pc = .receiving l → (Reaches entry l s.rxq → l.curPit = s.rxq.pitRdIdx) ∧
      (s.queStarted = false → s.notified entry l < DPMAIF_PIT_CNT_THRESHOLD)
  | .addReady =>
    ∀ caller num idx, s.pc = .releasing caller num idx false → s.rxq.pitRemainReleaseCnt = num
  | .addTimeout =>
    ∀ caller num idx, s.pc = .releasing caller num idx true → s.rxq.pitRemainReleaseCnt = 0
  | .stopRxq =>
    ∀ caller num idx, s.pc = .releasing caller num idx true → idx % s.rxq.pitSizeCnt = 0
  | .start => s.settled.pitRemainReleaseCnt = 0
  | _ => True

def PitCaller.InRange : PitCaller → Prop
  | .round l => l.curPit < DPMAIF_PIT_COUNT
  | .tail => True

def PitAt.InRange : PitAt → Prop
  | .outside => True
  | .receiving l => l.curPit < DPMAIF_PIT_COUNT
  | .releasing caller num _ _ =>
    caller.InRange ∧ DPMAIF_PIT_CNT_THRESHOLD ≤ num ∧ num < DPMAIF_PIT_COUNT

structure PitInvariant (s : PitRun) : Prop where
  size : s.rxq.pitSizeCnt = DPMAIF_PIT_COUNT
  rdIdx : s.rxq.pitRdIdx < DPMAIF_PIT_COUNT
  pc : s.pc.InRange
  index : ∀ caller num idx, s.pc = .releasing caller num idx false →
    s.rxq.pitRemainReleaseCnt = num →
    idx % DPMAIF_PIT_COUNT = (s.rxq.pitReleaseRdIdx + num) % DPMAIF_PIT_COUNT
  cleared : ∀ caller num idx sent, s.pc = .releasing caller num idx sent →
    s.rxq.pitRemainReleaseCnt = 0 → s.rxq.pitRdIdx = 0 ∧ s.rxq.pitReleaseRdIdx = 0

end Books

section Counters

structure SameCounters (before after : RxQueue) : Prop where
  size : after.pitSizeCnt = before.pitSizeCnt
  rdIdx : after.pitRdIdx = before.pitRdIdx
  release : after.pitReleaseRdIdx = before.pitReleaseRdIdx
  remain : after.pitRemainReleaseCnt = before.pitRemainReleaseCnt

theorem SameCounters.trans {r t u : RxQueue} (first : SameCounters r t) (second : SameCounters t u) :
    SameCounters r u :=
  ⟨second.size.trans first.size, second.rdIdx.trans first.rdIdx,
    second.release.trans first.release, second.remain.trans first.remain⟩

theorem rxChecked_counters (entry : RxEntry) (l : RxLocals) (s : RxSide) :
    SameCounters s.rxq (rxChecked entry l s).rxq := by
  unfold rxChecked checkPitSeq
  split <;> exact ⟨rfl, rfl, rfl, rfl⟩

theorem rxPayload_counters (entry : RxEntry) (s : RxSide) :
    SameCounters s.rxq (rxPayload entry s).1.rxq := by
  unfold rxPayload rxGetPkt rxGetFrag
  dsimp only
  split_ifs <;> exact ⟨rfl, rfl, rfl, rfl⟩

theorem rxMark_counters (ret : Int) (s : RxSide) : SameCounters s.rxq (rxMark ret s).rxq := by
  unfold rxMark
  split <;> exact ⟨rfl, rfl, rfl, rfl⟩

theorem rxPacketEnd_counters (s : RxSide) : SameCounters s.rxq (rxPacketEnd s).rxq := by
  unfold rxPacketEnd rxSkb
  dsimp only
  split
  · split
    · exact ⟨rfl, rfl, rfl, rfl⟩
    · split <;> exact ⟨rfl, rfl, rfl, rfl⟩
  · split <;> exact ⟨rfl, rfl, rfl, rfl⟩

theorem rxEntered_counters (entry : RxEntry) (l : RxLocals) (s : RxSide) :
    SameCounters s.rxq (rxEntered entry l s).1.rxq ∧ (rxEntered entry l s).2.curPit = l.curPit ∧
      (rxEntered entry l s).2.rxCnt = l.rxCnt := by
  have checked := rxChecked_counters entry l s
  unfold rxEntered rxProcess
  split
  · exact ⟨checked.trans ⟨rfl, rfl, rfl, rfl⟩, rfl, rfl⟩
  · have payload := checked.trans (rxPayload_counters entry (rxChecked entry l s))
    have marked := payload.trans (rxMark_counters (rxPayload entry (rxChecked entry l s)).2 _)
    rcases rxPdEntry_cases entry l (rxChecked entry l s) with ⟨_, ended⟩ | ⟨_, going⟩
    · rw [ended]
      exact ⟨marked.trans (rxPacketEnd_counters _), rfl, rfl⟩
    · rw [going]
      exact ⟨marked, rfl, rfl⟩

theorem next_inj {n i j : Nat} (first : i < n) (second : j < n)
    (same : ringBufGetNextWrIdx n i = ringBufGetNextWrIdx n j) : i = j := by
  unfold ringBufGetNextWrIdx at same
  split_ifs at same <;> omega

theorem newRelIdx_mod (num : Nat) {rxq : RxQueue} :
    newRelIdx num rxq % rxq.pitSizeCnt = (rxq.pitReleaseRdIdx + num) % rxq.pitSizeCnt := by
  unfold newRelIdx
  dsimp only
  split
  · rename_i wraps
    rw [← Nat.mod_eq_sub_mod wraps.2]
  · rfl

theorem masked_small {num : Nat} (small : num < DPMAIF_PIT_COUNT) :
    num &&& DPMAIF_PIT_REM_CNT_MSK = num := by
  have few : num < 2^18 := Nat.lt_trans small (by decide)
  unfold DPMAIF_PIT_REM_CNT_MSK
  rw [Nat.and_two_pow_sub_one_eq_mod, Nat.mod_eq_of_lt few]

theorem returns_settled (ret : Int) (caller : PitCaller) :
    (∀ other num idx sent, caller.returns ret ≠ .releasing other num idx sent) ∧
      (caller.InRange → (caller.returns ret).InRange) := by
  cases caller with
  | round l =>
    unfold PitCaller.returns
    dsimp only
    split
    · exact ⟨nofun, fun _ => trivial⟩
    · exact ⟨nofun, id⟩
  | tail => exact ⟨nofun, fun _ => trivial⟩

end Counters

section Notifying

variable {s : PitRun}

/-- The queue as it is, with no release counted. -/
def PitRun.Agrees (s : PitRun) : Prop :=
  s.written + s.rxq.pitRemainReleaseCnt = s.consumed ∧
    s.rxq.pitRdIdx = (s.rxq.pitReleaseRdIdx + s.rxq.pitRemainReleaseCnt) % s.rxq.pitSizeCnt

theorem settled_of_unsent (unsent : ∀ caller num idx, s.pc ≠ .releasing caller num idx true) :
    s.settled = s.rxq := by
  unfold PitRun.settled
  split
  · rename_i caller num idx at_
    exact absurd at_ (unsent caller num idx)
  · rfl

theorem booksAgree_unsent (unsent : ∀ caller num idx, s.pc ≠ .releasing caller num idx true) :
    BooksAgree s ↔ s.Agrees := by
  unfold BooksAgree PitRun.Agrees
  rw [settled_of_unsent unsent]

/-- A notification keeps the books unless it drops the count of a stopped queue. -/
theorem notify_books (caller : PitCaller)
    (counted : s.written + s.rxq.pitRemainReleaseCnt = s.consumed) :
    BooksAgree (s.notify caller) ↔
      s.Agrees ∧ (s.queStarted = false → s.rxq.pitRemainReleaseCnt < DPMAIF_PIT_CNT_THRESHOLD) := by
  have settled : ∀ ret other num idx, caller.returns ret ≠ .releasing other num idx true :=
    fun ret other num idx => (returns_settled ret caller).1 other num idx true
  unfold PitRun.notify
  dsimp only
  split
  · rename_i few
    rw [booksAgree_unsent (settled 0)]
    exact ⟨fun agrees => ⟨agrees, fun _ => few⟩, fun agrees => agrees.1⟩
  · rename_i many
    split
    · rename_i stopped
      rw [booksAgree_unsent (settled 0)]
      have some : 0 < s.rxq.pitRemainReleaseCnt := by
        unfold DPMAIF_PIT_CNT_THRESHOLD at many
        omega
      constructor
      · rintro ⟨dropped, -⟩
        have dropped : s.written + 0 = s.consumed := dropped
        omega
      · exact fun agrees => absurd (agrees.2 stopped) many
    · rename_i started
      split
      · rw [booksAgree_unsent (settled _)]
        exact ⟨fun agrees => ⟨agrees, fun stopped => absurd stopped started⟩, fun agrees => agrees.1⟩
      · rw [booksAgree_unsent fun _ _ _ releasing => by cases releasing]
        exact ⟨fun agrees => ⟨agrees, fun stopped => absurd stopped started⟩, fun agrees => agrees.1⟩

theorem notify_invariant (caller : PitCaller) (size : s.rxq.pitSizeCnt = DPMAIF_PIT_COUNT)
    (rdIdx : s.rxq.pitRdIdx < DPMAIF_PIT_COUNT) (inRange : caller.InRange) :
    PitInvariant (s.notify caller) := by
  have settled : ∀ ret other num idx sent, caller.returns ret = .releasing other num idx sent →
      ∀ {P : Prop}, P :=
    fun ret other num idx sent releasing => absurd releasing ((returns_settled ret caller).1 other num idx sent)
  have back : ∀ ret, (caller.returns ret).InRange := fun ret => (returns_settled ret caller).2 inRange
  unfold PitRun.notify
  dsimp only
  split_ifs
  · exact ⟨size, rdIdx, back 0, fun _ _ _ at_ => settled _ _ _ _ _ at_, fun _ _ _ _ at_ => settled _ _ _ _ _ at_⟩
  · exact ⟨size, rdIdx, back 0, fun _ _ _ at_ => settled _ _ _ _ _ at_, fun _ _ _ _ at_ => settled _ _ _ _ _ at_⟩
  · exact ⟨size, rdIdx, back _, fun _ _ _ at_ => settled _ _ _ _ _ at_, fun _ _ _ _ at_ => settled _ _ _ _ _ at_⟩
  · rename_i many _ most
    rw [size, Nat.not_le] at most
    refine ⟨size, rdIdx, ⟨inRange, Nat.not_lt.mp many, most⟩, fun other num idx at_ _ => ?_,
      fun _ _ _ _ _ none => ?_⟩
    · cases at_
      rw [← size]
      exact newRelIdx_mod _
    · have none : s.rxq.pitRemainReleaseCnt = 0 := none
      rw [none] at many
      exact absurd (by decide) many

/-- A release that is not interrupted is `t7xx_dpmaifq_rx_notify_hw`. -/
theorem notify_finished (caller : PitCaller) (ready : Bool) (normal frag : Bat) :
    ((s.notify caller).finishRelease ready).rxq = (rxNotifyHw ready (s.side normal frag)).1.rxq := by
  have settled : ∀ ret t, t.pc = caller.returns ret → PitRun.finishRelease ready t = t := by
    intro ret t at_
    unfold PitRun.finishRelease
    split
    · rename_i other num idx sent releasing
      exact absurd (at_.symm.trans releasing) ((returns_settled ret caller).1 other num idx sent)
    · rfl
  unfold PitRun.notify rxNotifyHw releasePitEntry
  dsimp only [PitRun.side]
  by_cases few : s.rxq.pitRemainReleaseCnt < DPMAIF_PIT_CNT_THRESHOLD
  · simp only [few, if_true]
    rw [settled 0 _ rfl]
  · simp only [few, if_false]
    by_cases stopped : s.queStarted = false
    · simp only [stopped, if_true]
      rw [settled 0 _ rfl]
      rfl
    · simp only [stopped]
      by_cases most : s.rxq.pitSizeCnt ≤ s.rxq.pitRemainReleaseCnt
      · simp only [most, if_true]
        rw [settled (-EINVAL) _ rfl]
        rfl
      · simp only [most, if_false]
        cases ready with
        | false => rfl
        | true => rfl

end Notifying

section Entering

variable {s : PitRun} {entry : RxEntry} {l : RxLocals}

theorem reaches_iff : Reaches entry l s.rxq ↔
    ¬ RxLeaves l s.rxq ∧ ¬ entry.pit.pitSeq ≠ s.rxq.expectPitSeq := by
  unfold Reaches RxLeaves
  rw [not_or, Nat.not_le, not_not, and_assoc]

theorem advanced_agrees (inv : PitInvariant s) (at_ : s.pc = .receiving l) (agrees : s.Agrees)
    {rxq : RxQueue} (counters : SameCounters s.rxq rxq) :
    ringBufGetNextWrIdx rxq.pitSizeCnt l.curPit =
        (rxq.pitReleaseRdIdx + (rxq.pitRemainReleaseCnt + 1)) % rxq.pitSizeCnt ↔
      l.curPit = s.rxq.pitRdIdx := by
  have curPit : l.curPit < DPMAIF_PIT_COUNT := by
    have inRange := inv.pc
    rw [at_] at inRange
    exact inRange
  have next : ringBufGetNextWrIdx DPMAIF_PIT_COUNT s.rxq.pitRdIdx =
      (s.rxq.pitReleaseRdIdx + (s.rxq.pitRemainReleaseCnt + 1)) % DPMAIF_PIT_COUNT := by
    rw [agrees.2, inv.size]
    exact Ring.next_mod _ (by decide)
  rw [counters.size, counters.release, counters.remain, inv.size, ← next]
  exact ⟨next_inj curPit inv.rdIdx, fun same => by rw [same]⟩

theorem advance_exact (inv : PitInvariant s) (at_ : s.pc = .receiving l) (agrees : s.Agrees)
    {entered : RxSide × RxLocals} (counters : SameCounters s.rxq entered.1.rxq)
    (same : entered.2.curPit = l.curPit ∧ entered.2.rxCnt = l.rxCnt) :
    BooksAgree (s.advance entered) ↔ l.curPit = s.rxq.pitRdIdx ∧
      (s.queStarted = false → l.NotifiesHw →
        s.rxq.pitRemainReleaseCnt + 1 < DPMAIF_PIT_CNT_THRESHOLD) := by
  obtain ⟨side, m⟩ := entered
  obtain ⟨curPit, rxCnt⟩ := same
  have index := advanced_agrees inv at_ agrees counters
  have counts : s.written + side.rxq.pitRemainReleaseCnt = s.consumed :=
    (congrArg (s.written + ·) counters.remain).trans agrees.1
  have notifies : m.NotifiesHw ↔ l.NotifiesHw := by
    unfold RxLocals.NotifiesHw
    rw [rxCnt]
  let moved : PitRun :=
    { s with rxq := (rxAdvance m side).1.rxq, consumed := s.consumed + 1 }
  have movedCounts : moved.written + moved.rxq.pitRemainReleaseCnt = moved.consumed := by
    show s.written + (side.rxq.pitRemainReleaseCnt + 1) = s.consumed + 1
    omega
  have movedAgrees : moved.Agrees ↔ l.curPit = s.rxq.pitRdIdx := by
    refine (and_iff_right movedCounts).trans ?_
    rw [← index, ← curPit]
    rfl
  unfold PitRun.advance
  dsimp only
  split
  · rename_i notified
    have notifiedL : l.NotifiesHw := notifies.mp notified
    refine (notify_books (s := moved) _ movedCounts).trans ?_
    rw [movedAgrees]
    refine and_congr_right fun _ => ?_
    show (s.queStarted = false → side.rxq.pitRemainReleaseCnt + 1 < _) ↔ _
    rw [counters.remain]
    exact ⟨fun few stopped _ => few stopped, fun few stopped => few stopped notifiedL⟩
  · rename_i silent
    have unsent : ∀ (m : RxLocals) caller num idx,
        PitAt.receiving m ≠ .releasing caller num idx true := fun _ _ _ _ => nofun
    refine (booksAgree_unsent (s := { moved with pc := _ }) (unsent _)).trans ?_
    refine Iff.trans movedAgrees ⟨fun same => ⟨same, fun _ notifiedL => ?_⟩, fun all => all.1⟩
    exact absurd (notifies.mpr notifiedL) silent

theorem enter_exact (inv : PitInvariant s) (at_ : s.pc = .receiving l) (agrees : s.Agrees)
    (normal frag : Bat) :
    BooksAgree (s.enter entry normal frag l) ↔ (Reaches entry l s.rxq → l.curPit = s.rxq.pitRdIdx) ∧
      (s.queStarted = false → s.notified entry l < DPMAIF_PIT_CNT_THRESHOLD) := by
  have none : (0 : Nat) < DPMAIF_PIT_CNT_THRESHOLD := by decide
  have reaches := @reaches_iff s entry l
  unfold PitRun.enter PitRun.notified
  dsimp only
  by_cases leaves : RxLeaves l s.rxq
  · have unreached : ¬ Reaches entry l s.rxq := fun reached => (reaches.mp reached).1 leaves
    rw [if_pos leaves, if_pos leaves]
    split
    · rw [notify_books .tail agrees.1]
      exact ⟨fun kept => ⟨fun reached => absurd reached unreached, kept.2⟩,
        fun kept => ⟨agrees, kept.2⟩⟩
    · rw [booksAgree_unsent (fun _ _ _ releasing => by cases releasing)]
      exact ⟨fun _ => ⟨fun reached => absurd reached unreached, fun _ => none⟩, fun _ => agrees⟩
  · rw [if_neg leaves, if_neg leaves]
    by_cases sequence : entry.pit.pitSeq ≠ s.rxq.expectPitSeq
    · have unreached : ¬ Reaches entry l s.rxq := fun reached => (reaches.mp reached).2 sequence
      have counters := rxChecked_counters entry l (s.side normal frag)
      rw [if_pos sequence, if_neg fun both => unreached both.1,
        booksAgree_unsent (fun _ _ _ releasing => by cases releasing)]
      refine ⟨fun _ => ⟨fun reached => absurd reached unreached, fun _ => none⟩, fun _ => ?_⟩
      unfold PitRun.Agrees
      dsimp only
      rw [counters.size, counters.rdIdx, counters.release, counters.remain]
      exact agrees
    · have reached : Reaches entry l s.rxq := reaches.mpr ⟨leaves, sequence⟩
      obtain ⟨counters, same⟩ := rxEntered_counters entry l (s.side normal frag)
      rw [if_neg sequence, advance_exact inv at_ agrees counters same]
      refine and_congr ⟨fun same _ => same, fun same => same reached⟩ (imp_congr_right fun _ => ?_)
      by_cases notifies : l.NotifiesHw
      · rw [if_pos ⟨reached, notifies⟩]
        exact ⟨fun few => few notifies, fun few _ => few⟩
      · rw [if_neg fun both => notifies both.2]
        exact ⟨fun _ => none, fun _ other => absurd other notifies⟩

theorem enter_invariant (inv : PitInvariant s) (normal frag : Bat) :
    PitInvariant (s.enter entry normal frag l) := by
  unfold PitRun.enter
  dsimp only
  split
  · split
    · exact notify_invariant .tail inv.size inv.rdIdx trivial
    · exact ⟨inv.size, inv.rdIdx, trivial, nofun, nofun⟩
  · split
    · have counters := rxChecked_counters entry l (s.side normal frag)
      exact ⟨counters.size.trans inv.size, counters.rdIdx.symm ▸ inv.rdIdx, trivial, nofun, nofun⟩
    · have counters := (rxEntered_counters entry l (s.side normal frag)).1
      generalize rxEntered entry l (s.side normal frag) = entered at counters
      obtain ⟨side, m⟩ := entered
      have size : side.rxq.pitSizeCnt = DPMAIF_PIT_COUNT := counters.size.trans inv.size
      have next : ringBufGetNextWrIdx side.rxq.pitSizeCnt m.curPit < DPMAIF_PIT_COUNT := by
        rw [size]
        exact ringBufGetNextWrIdx_lt (by decide) _
      unfold PitRun.advance
      dsimp only
      split
      · exact notify_invariant _ size next next
      · exact ⟨size, next, next, nofun, nofun⟩

end Entering

section Runs

theorem pitStep_invariant (s : PitRun) (label : PitLabel) (t : PitRun) (inv : PitInvariant s)
    (taken : s.step label = some t) : PitInvariant t := by
  have back : ∀ caller num idx sent ret, s.pc = .releasing caller num idx sent →
      (caller.returns ret).InRange := by
    intro caller num idx sent ret at_
    have inRange := inv.pc
    rw [at_] at inRange
    exact (returns_settled ret caller).2 inRange.1
  have returned : ∀ (caller other : PitCaller) ret num idx sent,
      caller.returns ret = .releasing other num idx sent → ∀ {P : Prop}, P :=
    fun caller other ret num idx sent at_ => absurd at_ ((returns_settled ret caller).1 other num idx sent)
  cases label with
  | pollPit hwWrIdx budget =>
    simp only [PitRun.step, Option.ite_none_right_eq_some, Option.some.injEq] at taken
    obtain ⟨-, rfl⟩ := taken
    have untouched := rxStartBegin_untouched hwWrIdx budget (s.side (batAlloc .normal) (batAlloc .frag))
    have fresh := @rxStartBegin_fresh hwWrIdx budget (s.side (batAlloc .normal) (batAlloc .frag))
    generalize rxStartBegin hwWrIdx budget _ = result at untouched fresh
    obtain ⟨side, begun⟩ := result
    have rdIdx : side.rxq.pitRdIdx < DPMAIF_PIT_COUNT := untouched.rdIdx.symm ▸ inv.rdIdx
    cases begun with
    | none => exact ⟨untouched.size.trans inv.size, rdIdx, trivial, nofun, nofun⟩
    | some l =>
      refine ⟨untouched.size.trans inv.size, rdIdx, ?_, nofun, nofun⟩
      show l.curPit < DPMAIF_PIT_COUNT
      rw [(fresh rfl).2.1]
      exact inv.rdIdx
  | entry entry normal frag =>
    simp only [PitRun.step] at taken
    split at taken
    · cases taken
      exact enter_invariant inv normal frag
    · cases taken
  | addReady =>
    simp only [PitRun.step] at taken
    split at taken
    · rename_i caller num idx at_
      cases taken
      have inRange := inv.pc
      rw [at_] at inRange
      exact ⟨inv.size, inv.rdIdx, inRange, nofun, fun _ _ _ _ _ => inv.cleared caller num idx false at_⟩
    · rename_i caller num idx at_
      cases taken
      exact ⟨inv.size, inv.rdIdx, back caller num idx true 0 at_,
        fun _ _ _ released => returned _ _ _ _ _ _ released,
        fun _ _ _ _ released => returned _ _ _ _ _ _ released⟩
    · cases taken
  | addTimeout =>
    simp only [PitRun.step] at taken
    split at taken
    · rename_i caller num idx sent at_
      cases taken
      exact ⟨inv.size, inv.rdIdx, back caller num idx sent _ at_,
        fun _ _ _ released => returned _ _ _ _ _ _ released,
        fun _ _ _ _ released => returned _ _ _ _ _ _ released⟩
    · cases taken
  | rxStop | resume | start =>
    cases taken
    exact ⟨inv.size, inv.rdIdx, inv.pc, inv.index, inv.cleared⟩
  | stopRxq =>
    cases taken
    refine ⟨inv.size, by show 0 < DPMAIF_PIT_COUNT; decide, inv.pc, fun caller num idx at_ cleared => ?_,
      fun _ _ _ _ _ _ => ⟨rfl, rfl⟩⟩
    have zero : 0 = num := cleared
    have inRange := inv.pc
    rw [show s.pc = _ from at_] at inRange
    have many := inRange.2.1
    unfold DPMAIF_PIT_CNT_THRESHOLD at many
    omega

theorem addReady_exact {s t : PitRun} (inv : PitInvariant s) (agrees : BooksAgree s)
    (taken : s.step .addReady = some t) : BooksAgree t ↔ KeepsBooks s .addReady := by
  simp only [PitRun.step] at taken
  unfold KeepsBooks
  split at taken
  · rename_i caller num idx at_
    cases taken
    have inRange := inv.pc
    rw [at_] at inRange
    have unsent : ∀ caller num idx, s.pc ≠ .releasing caller num idx true := by
      rw [at_]
      exact fun _ _ _ => nofun
    obtain ⟨counts, index⟩ := (booksAgree_unsent unsent).mp agrees
    show s.written + (num &&& DPMAIF_PIT_REM_CNT_MSK) + 0 = s.consumed ∧
      s.rxq.pitRdIdx = (idx + 0) % s.rxq.pitSizeCnt ↔ _
    rw [masked_small inRange.2.2]
    constructor
    · rintro ⟨sent, -⟩ other num' idx' same
      cases at_.symm.trans same
      omega
    · intro current
      have remain := current caller num idx at_
      have next := inv.index caller num idx at_ remain
      refine ⟨by omega, ?_⟩
      rw [index, remain, inv.size]
      exact next.symm
  · rename_i caller num idx at_
    cases taken
    have back := (returns_settled 0 caller).1
    rw [booksAgree_unsent fun other num idx => back other num idx true]
    unfold BooksAgree PitRun.settled at agrees
    rw [at_] at agrees
    refine ⟨fun _ other num' idx' same => ?_, fun _ => agrees⟩
    cases at_.symm.trans same
  · cases taken

theorem addTimeout_exact {s t : PitRun} (inv : PitInvariant s) (agrees : BooksAgree s)
    (taken : s.step .addTimeout = some t) : BooksAgree t ↔ KeepsBooks s .addTimeout := by
  simp only [PitRun.step] at taken
  unfold KeepsBooks
  split at taken
  · rename_i caller num idx sent at_
    cases taken
    have back := (returns_settled (-ETIMEDOUT) caller).1
    rw [booksAgree_unsent fun other num idx => back other num idx true]
    cases sent with
    | false =>
      have unsent : ∀ caller num idx, s.pc ≠ .releasing caller num idx true := by
        rw [at_]
        exact fun _ _ _ => nofun
      refine ⟨fun _ other num' idx' same => ?_, fun _ => (booksAgree_unsent unsent).mp agrees⟩
      exact absurd same (unsent other num' idx')
    | true =>
      unfold BooksAgree PitRun.settled at agrees
      rw [at_] at agrees
      obtain ⟨counts, index⟩ := agrees
      have counts : s.written + 0 = s.consumed := counts
      constructor
      · rintro ⟨after, -⟩ _ _ _ _
        have after : s.written + s.rxq.pitRemainReleaseCnt = s.consumed := after
        omega
      · intro cleared
        have none := cleared caller num idx at_
        obtain ⟨rdIdx, release⟩ := inv.cleared caller num idx true at_ none
        show s.written + s.rxq.pitRemainReleaseCnt = s.consumed ∧
          s.rxq.pitRdIdx = (s.rxq.pitReleaseRdIdx + s.rxq.pitRemainReleaseCnt) % s.rxq.pitSizeCnt
        rw [none, rdIdx, release]
        exact ⟨counts, (Nat.zero_mod _).symm⟩
  · cases taken

theorem stopRxq_exact {s t : PitRun} (taken : s.step .stopRxq = some t) :
    BooksAgree t ↔ KeepsBooks s .stopRxq := by
  cases taken
  unfold KeepsBooks
  by_cases sent : ∃ caller num idx, s.pc = .releasing caller num idx true
  · obtain ⟨caller, num, idx, at_⟩ := sent
    unfold BooksAgree PitRun.settled
    rw [at_]
    show 0 + 0 = 0 ∧ 0 = (idx + 0) % s.rxq.pitSizeCnt ↔ _
    constructor
    · rintro ⟨-, zero⟩ _ _ _ same
      cases same
      exact zero.symm
    · intro zero
      exact ⟨rfl, (zero caller num idx rfl).symm⟩
  · have unsent : ∀ caller num idx, s.pc ≠ .releasing caller num idx true :=
      fun caller num idx at_ => sent ⟨caller, num, idx, at_⟩
    have after := @booksAgree_unsent
      { s with rxq := stopRxq s.rxq, queStarted := false, written := 0, consumed := 0 } unsent
    exact after.trans ⟨fun _ caller num idx at_ => absurd at_ (unsent caller num idx),
      fun _ => ⟨rfl, (Nat.zero_mod _).symm⟩⟩

theorem pitStep_exact (s : PitRun) (label : PitLabel) (t : PitRun) (inv : PitInvariant s)
    (agrees : BooksAgree s) (taken : s.step label = some t) : BooksAgree t ↔ KeepsBooks s label := by
  cases label with
  | pollPit hwWrIdx budget =>
    simp only [PitRun.step, Option.ite_none_right_eq_some, Option.some.injEq] at taken
    obtain ⟨outside, rfl⟩ := taken
    refine ⟨fun _ => trivial, fun _ => ?_⟩
    have unsent : ∀ caller num idx, s.pc ≠ .releasing caller num idx true := by
      rw [outside]
      exact fun _ _ _ => nofun
    have before := (booksAgree_unsent unsent).mp agrees
    have kept : SameCounters s.rxq
        (rxStartBegin hwWrIdx budget (s.side (batAlloc .normal) (batAlloc .frag))).1.rxq := by
      unfold rxStartBegin
      dsimp only
      split_ifs <;> exact ⟨rfl, rfl, rfl, rfl⟩
    rw [booksAgree_unsent]
    · unfold PitRun.Agrees
      dsimp only
      rw [kept.size, kept.rdIdx, kept.release, kept.remain]
      exact before
    · dsimp only
      split <;> exact fun _ _ _ => nofun
  | entry entry normal frag =>
    simp only [PitRun.step] at taken
    split at taken
    · rename_i l at_
      cases taken
      have unsent : ∀ caller num idx, s.pc ≠ .releasing caller num idx true := by
        rw [at_]
        exact fun _ _ _ => nofun
      rw [enter_exact inv at_ ((booksAgree_unsent unsent).mp agrees)]
      constructor
      · intro kept other same
        cases at_.symm.trans same
        exact kept
      · exact fun kept => kept l at_
    · cases taken
  | addReady => exact addReady_exact inv agrees taken
  | addTimeout => exact addTimeout_exact inv agrees taken
  | rxStop | resume =>
    cases taken
    exact ⟨fun _ => trivial, fun _ => agrees⟩
  | stopRxq => exact stopRxq_exact taken
  | start =>
    cases taken
    show 0 + s.settled.pitRemainReleaseCnt = 0 ∧ _ ↔ s.settled.pitRemainReleaseCnt = 0
    rw [Nat.zero_add]
    exact and_iff_left agrees.2

/-- The counts given back and those to be given back add up to the entries consumed exactly in the
    runs whose steps keep the books. -/
theorem books_agree_iff (labels : List PitLabel) :
    Visits BooksAgree PitRun.step pitInit labels ↔ Obeys KeepsBooks PitRun.step pitInit labels := by
  have start : PitInvariant pitInit :=
    ⟨rfl, by show 0 < DPMAIF_PIT_COUNT; decide, trivial, nofun, nofun⟩
  exact visits_iff_obeys PitInvariant (fun s label t inv _ taken => pitStep_invariant s label t inv taken)
    pitStep_exact start ⟨rfl, rfl⟩

def msgEntry (seq : BitVec 32) : PitLabel :=
  .entry ⟨⟨1, 0, 0, seq⟩, ⟨64, 3776⟩, 0, true⟩ (batAlloc .normal) (batAlloc .frag)

/-- A poll that consumes 60 entries and releases them. -/
def releasePoll : List PitLabel :=
  .start :: .pollPit 60 64 :: (List.range 61).map fun i => msgEntry (BitVec.ofNat 32 i)

/-- A register that times out after the write, and a stop that gives up on the poll and clears the
    queue between two of its entries. -/
theorem timeout_or_late_poll :
    ¬ Visits BooksAgree PitRun.step pitInit (releasePoll ++ [PitLabel.addReady, .addTimeout]) ∧
      ¬ Visits BooksAgree PitRun.step pitInit
        [.start, .pollPit 2 64, msgEntry 0, .rxStop, .stopRxq, msgEntry 0] :=
  ⟨by decide +kernel, by decide⟩

end Runs

end T7xxModel.Dpmaif
