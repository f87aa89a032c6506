import T7xx.Dpmaif.PitBooks

namespace T7xxModel.Dpmaif

open Transition

/-- The bytes of the `num`th entry since the start of the queue, with the sequence number that the
    device stamps on it. -/
structure PitEntry where
  num : Nat
  pit : DpmaifPit
  stamped : pit.pitSeq = num % DPMAIF_DL_PIT_SEQ_VALUE

/-- What is visible at an index of the PIT table: an entry, or memory that was zeroed. -/
def visiblePit : Option PitEntry → DpmaifPit
  | none => ⟨0, 0, 0, 0⟩
  | some e => e.pit

/-- An RX queue with its PIT table and the device. `issued` entries are stored since the start, some
    of which may not be visible yet; `mistaken` is set by a sequence check that succeeds on anything
    but the entry it is for. -/
structure SeqRun where
  run : PitRun
  memory : Nat → Option PitEntry
  issued : Nat
  powered : Bool
  mistaken : Bool

/-- `driver` is a step of the queue other than a check, a start or a clearing. -/
inductive SeqLabel where
  | driver (label : PitLabel)
  | check (room : SkbRoom) (fragWord : BitVec 64) (pitAddReady : Bool) (normal frag : Bat)
  | issue
  | land (e : PitEntry)
  | start
  | stop

namespace SeqRun

/-- The memory that round `l` looks at is the next entry to be consumed. -/
def Holds (s : SeqRun) (l : RxLocals) : Prop :=
  (s.memory l.curPit).map PitEntry.num = some s.run.consumed

instance (s : SeqRun) (l : RxLocals) : Decidable (s.Holds l) := inferInstanceAs (Decidable (_ = _))

def Passes (s : SeqRun) (l : RxLocals) : Prop :=
  ¬ RxLeaves l s.run.rxq ∧ (visiblePit (s.memory l.curPit)).pitSeq = s.run.rxq.expectPitSeq

instance (s : SeqRun) (l : RxLocals) : Decidable (s.Passes l) := inferInstanceAs (Decidable (_ ∧ _))

def checkStep (room : SkbRoom) (fragWord : BitVec 64) (pitAddReady : Bool) (normal frag : Bat)
    (l : RxLocals) (s : SeqRun) : SeqRun :=
  let entry := ⟨visiblePit (s.memory l.curPit), room, fragWord, pitAddReady⟩
  { s with
    run := s.run.enter entry normal frag l
    mistaken := s.mistaken || decide (s.Passes l ∧ ¬ s.Holds l) }

/-- The bytes of an entry become visible, over those of an entry that was stored before it. -/
def landStep (e : PitEntry) (s : SeqRun) : Option SeqRun :=
  let idx := e.num % DPMAIF_PIT_COUNT
  if e.num < s.issued ∧ ((s.memory idx).map PitEntry.num).all (· < e.num) = true then
    some { s with memory := Function.update s.memory idx (some e) }
  else none

/-- The device stores no entry over one that is not consumed, and starts anew with the queue. -/
def step (s : SeqRun) : SeqLabel → Option SeqRun
  | .driver label =>
    match label with
    | .entry .. | .stopRxq | .start => none
    | label => (s.run.step label).map fun run => { s with run }
  | .check room fragWord pitAddReady normal frag =>
    match s.run.pc with
    | .receiving l => some (s.checkStep room fragWord pitAddReady normal frag l)
    | _ => none
  | .issue =>
    if s.powered = true ∧ s.issued < s.run.consumed + DPMAIF_PIT_COUNT then
      some { s with issued := s.issued + 1 }
    else none
  | .land e => s.landStep e
  | .start =>
    if s.powered = false then
      (s.run.step .start).map fun run => { s with run, issued := 0, powered := true }
    else none
  | .stop =>
    (s.run.step .stopRxq).map fun run =>
      { s with run, memory := fun _ => none, issued := 0, powered := false }

/-- What a round that checks a sequence number needs. Where a stop has cleared the queue under the
    poll, its index is still the old one. -/
def EntryReady (s : SeqRun) (l : RxLocals) : Prop :=
  (l.curPit = s.run.rxq.pitRdIdx → s.run.consumed < DPMAIF_PIT_COUNT →
    DPMAIF_DL_PIT_SEQ_VALUE ∣ s.run.consumed → s.Holds l) ∧
  (l.curPit ≠ s.run.rxq.pitRdIdx →
    ∃ e, s.memory l.curPit = some e ∧ ¬ DPMAIF_DL_PIT_SEQ_VALUE ∣ e.num)

def ChecksReady (s : SeqRun) : SeqLabel → Prop
  | .check .. => ∀ l, s.run.pc = .receiving l → ¬ RxLeaves l s.run.rxq → s.EntryReady l
  | _ => True

end SeqRun

def seqInit : SeqRun := ⟨pitInit, fun _ => none, 0, false, false⟩

section Numbers

def nextPitSeq (seq : Nat) : Nat := if DPMAIF_DL_PIT_SEQ_VALUE ≤ seq + 1 then 0 else seq + 1

theorem nextPitSeq_mod (k : Nat) :
    nextPitSeq (k % DPMAIF_DL_PIT_SEQ_VALUE) = (k + 1) % DPMAIF_DL_PIT_SEQ_VALUE := by
  unfold nextPitSeq DPMAIF_DL_PIT_SEQ_VALUE
  split
  · omega
  · omega

/-- The period is a prime that does not divide the size of the table, so the numbers of one index
    repeat after 251 passes only. -/
theorem earlier_pass_seq (k : Nat) {passes : Nat} (some : 0 < passes)
    (fewer : passes < DPMAIF_DL_PIT_SEQ_VALUE) :
    k % DPMAIF_DL_PIT_SEQ_VALUE ≠ (k + passes * DPMAIF_PIT_COUNT) % DPMAIF_DL_PIT_SEQ_VALUE := by
  have size : DPMAIF_PIT_COUNT = 16384 := rfl
  rw [size]
  unfold DPMAIF_DL_PIT_SEQ_VALUE at fewer ⊢
  omega

end Numbers

section Driver

/-- The local `cur_pit` of a call that has more rounds to come. -/
def PitCaller.curPit : PitCaller → Option Nat
  | .round l => some l.curPit
  | .tail => none

def PitAt.curPit : PitAt → Option Nat
  | .outside => none
  | .receiving l => some l.curPit
  | .releasing caller _ _ _ => caller.curPit

structure SeqKept (before after : PitRun) : Prop where
  size : after.rxq.pitSizeCnt = before.rxq.pitSizeCnt
  rdIdx : after.rxq.pitRdIdx = before.rxq.pitRdIdx
  expect : after.rxq.expectPitSeq = before.rxq.expectPitSeq
  consumed : after.consumed = before.consumed

theorem returns_curPit {caller : PitCaller} {ret : Int} {idx : Nat}
    (at_ : (caller.returns ret).curPit = some idx) : caller.curPit = some idx := by
  cases caller with
  | round l =>
    unfold PitCaller.returns at at_
    dsimp only at at_
    split at at_
    · cases at_
    · exact at_
  | tail => cases at_

theorem notify_seq (s : PitRun) (caller : PitCaller) :
    SeqKept s (s.notify caller) ∧
      ∀ idx, (s.notify caller).pc.curPit = some idx → caller.curPit = some idx := by
  unfold PitRun.notify
  dsimp only
  split_ifs
  · exact ⟨⟨rfl, rfl, rfl, rfl⟩, fun _ => returns_curPit⟩
  · exact ⟨⟨rfl, rfl, rfl, rfl⟩, fun _ => returns_curPit⟩
  · exact ⟨⟨rfl, rfl, rfl, rfl⟩, fun _ => returns_curPit⟩
  · exact ⟨⟨rfl, rfl, rfl, rfl⟩, fun _ same => same⟩

theorem rxPayload_expect (entry : RxEntry) (s : RxSide) :
    (rxPayload entry s).1.rxq.expectPitSeq = s.rxq.expectPitSeq := by
  unfold rxPayload rxGetPkt rxGetFrag
  dsimp only
  split_ifs <;> rfl

theorem rxPacketEnd_expect (s : RxSide) :
    (rxPacketEnd s).rxq.expectPitSeq = s.rxq.expectPitSeq := by
  unfold rxPacketEnd rxSkb
  dsimp only
  split
  · split
    · rfl
    · split <;> rfl
  · split <;> rfl

theorem rxMark_expect (ret : Int) (s : RxSide) :
    (rxMark ret s).rxq.expectPitSeq = s.rxq.expectPitSeq := by
  unfold rxMark
  split <;> rfl

theorem rxProcess_expect (entry : RxEntry) (l : RxLocals) (s : RxSide) :
    (rxProcess entry l s).1.rxq.expectPitSeq = s.rxq.expectPitSeq := by
  unfold rxProcess
  split
  · rfl
  · rcases rxPdEntry_cases entry l s with ⟨_, ended⟩ | ⟨_, going⟩
    · rw [ended, rxPacketEnd_expect, rxMark_expect, rxPayload_expect]
    · rw [going, rxMark_expect, rxPayload_expect]

theorem rxChecked_expect {entry : RxEntry} {l : RxLocals} {s : RxSide} :
    (rxChecked entry l s).rxq.expectPitSeq =
      if entry.pit.pitSeq = s.rxq.expectPitSeq then nextPitSeq s.rxq.expectPitSeq
      else s.rxq.expectPitSeq := by
  unfold rxChecked checkPitSeq
  split
  · rename_i other
    have other : entry.pit.pitSeq ≠ s.rxq.expectPitSeq := other
    rw [if_neg other]
    rfl
  · rename_i same
    have same : entry.pit.pitSeq = s.rxq.expectPitSeq := not_not.mp same
    rw [if_pos same]
    rfl

inductive EnterMove (s : PitRun) (entry : RxEntry) (l : RxLocals) (t : PitRun) : Prop
  | ended (fails : RxLeaves l s.rxq ∨ entry.pit.pitSeq ≠ s.rxq.expectPitSeq) (kept : SeqKept s t)
      (out : t.pc.curPit = none)
  | advanced (stays : ¬ RxLeaves l s.rxq) (same : entry.pit.pitSeq = s.rxq.expectPitSeq)
      (size : t.rxq.pitSizeCnt = s.rxq.pitSizeCnt)
      (rdIdx : t.rxq.pitRdIdx = ringBufGetNextWrIdx s.rxq.pitSizeCnt l.curPit)
      (expect : t.rxq.expectPitSeq = nextPitSeq s.rxq.expectPitSeq)
      (consumed : t.consumed = s.consumed + 1)
      (curPit : ∀ idx, t.pc.curPit = some idx → idx = t.rxq.pitRdIdx)

theorem enter_move (s : PitRun) (entry : RxEntry) (l : RxLocals) (normal frag : Bat) :
    EnterMove s entry l (s.enter entry normal frag l) := by
  unfold PitRun.enter
  dsimp only
  split
  · rename_i leaves
    split
    · obtain ⟨kept, tail⟩ := notify_seq s .tail
      refine .ended (Or.inl leaves) kept ?_
      rw [Option.eq_none_iff_forall_ne_some]
      exact fun idx at_ => nomatch tail idx at_
    · exact .ended (Or.inl leaves) ⟨rfl, rfl, rfl, rfl⟩ rfl
  · rename_i stays
    split
    · rename_i other
      have counters := rxChecked_counters entry l (s.side normal frag)
      refine .ended (Or.inr other) ⟨counters.size, counters.rdIdx, ?_, rfl⟩ rfl
      rw [rxChecked_expect]
      exact if_neg other
    · rename_i same
      have same := not_not.mp same
      obtain ⟨counters, curPit, _⟩ := rxEntered_counters entry l (s.side normal frag)
      have expect : (rxEntered entry l (s.side normal frag)).1.rxq.expectPitSeq =
          nextPitSeq s.rxq.expectPitSeq := by
        unfold rxEntered
        rw [rxProcess_expect, rxChecked_expect]
        exact if_pos same
      generalize rxEntered entry l (s.side normal frag) = entered at counters curPit expect
      have next : ringBufGetNextWrIdx entered.1.rxq.pitSizeCnt entered.2.curPit =
          ringBufGetNextWrIdx s.rxq.pitSizeCnt l.curPit := by
        rw [counters.size, curPit]
        rfl
      unfold PitRun.advance rxAdvance
      dsimp only
      split
      · rename_i notifies
        obtain ⟨kept, round⟩ := notify_seq _ _
        refine .advanced stays same ?_ ?_ ?_ ?_ ?_
        · exact kept.size.trans counters.size
        · exact kept.rdIdx.trans next
        · exact kept.expect.trans expect
        · exact kept.consumed
        · intro idx at_
          have here := round idx at_
          rw [kept.rdIdx]
          exact (Option.some.inj here).symm
      · exact .advanced stays same counters.size next expect rfl fun idx at_ => (Option.some.inj at_).symm

theorem driver_seq {s t : SeqRun} {label : PitLabel} (taken : s.step (.driver label) = some t) :
    SeqKept s.run t.run ∧ (∀ idx, t.run.pc.curPit = some idx →
        s.run.pc.curPit = some idx ∨ idx = s.run.rxq.pitRdIdx) ∧
      t = { s with run := t.run } := by
  have kept : ∀ run, s.run.step label = some run → (∀ e n f, label ≠ .entry e n f) →
      label ≠ .stopRxq → label ≠ .start →
      SeqKept s.run run ∧ ∀ idx, run.pc.curPit = some idx →
        s.run.pc.curPit = some idx ∨ idx = s.run.rxq.pitRdIdx := by
    intro run moved noEntry noStop noStart
    cases label with
    | pollPit hwWrIdx budget =>
      simp only [PitRun.step, Option.ite_none_right_eq_some, Option.some.injEq] at moved
      obtain ⟨-, rfl⟩ := moved
      have begun : SeqKept s.run { s.run with rxq := (rxStartBegin hwWrIdx budget
          (s.run.side (batAlloc .normal) (batAlloc .frag))).1.rxq } := by
        unfold rxStartBegin
        dsimp only
        split_ifs <;> exact ⟨rfl, rfl, rfl, rfl⟩
      have fresh := @rxStartBegin_fresh hwWrIdx budget (s.run.side (batAlloc .normal) (batAlloc .frag))
      generalize rxStartBegin hwWrIdx budget _ = result at begun fresh
      obtain ⟨side, next⟩ := result
      refine ⟨⟨begun.size, begun.rdIdx, begun.expect, rfl⟩, fun idx at_ => ?_⟩
      cases next with
      | none => cases at_
      | some l => exact Or.inr ((Option.some.inj at_).symm.trans (fresh rfl).2.1)
    | entry e n f => exact absurd rfl (noEntry e n f)
    | addReady =>
      simp only [PitRun.step] at moved
      split at moved
      · rename_i caller num idx at_
        cases moved
        refine ⟨⟨rfl, rfl, rfl, rfl⟩, fun idx same => Or.inl ?_⟩
        rw [at_]
        exact same
      · rename_i caller num idx at_
        cases moved
        refine ⟨⟨rfl, rfl, rfl, rfl⟩, fun idx same => Or.inl ?_⟩
        rw [at_]
        exact returns_curPit same
      · cases moved
    | addTimeout =>
      simp only [PitRun.step] at moved
      split at moved
      · rename_i caller num idx sent at_
        cases moved
        refine ⟨⟨rfl, rfl, rfl, rfl⟩, fun idx same => Or.inl ?_⟩
        rw [at_]
        exact returns_curPit same
      · cases moved
    | rxStop =>
      cases moved
      exact ⟨⟨rfl, rfl, rfl, rfl⟩, fun _ same => Or.inl same⟩
    | stopRxq => exact absurd rfl noStop
    | start => exact absurd rfl noStart
    | resume =>
      cases moved
      exact ⟨⟨rfl, rfl, rfl, rfl⟩, fun _ same => Or.inl same⟩
  unfold SeqRun.step at taken
  dsimp only at taken
  split at taken
  · cases taken
  · cases taken
  · cases taken
  · rename_i noEntry noStop noStart
    obtain ⟨run, moved, rfl⟩ := Option.map_eq_some_iff.mp taken
    obtain ⟨same, local_⟩ := kept run moved noEntry noStop noStart
    exact ⟨same, local_, rfl⟩

end Driver

section Checks

/-- The queue is in step with the entries: the read index and the number expected belong to the next
    entry, the table holds nothing newer, and what was consumed is visible or written over. -/
structure SeqRun.InStep (s : SeqRun) : Prop where
  size : s.run.rxq.pitSizeCnt = DPMAIF_PIT_COUNT
  rdIdx : s.run.rxq.pitRdIdx = s.run.consumed % DPMAIF_PIT_COUNT
  expect : s.run.rxq.expectPitSeq = s.run.consumed % DPMAIF_DL_PIT_SEQ_VALUE
  cells : ∀ idx e, s.memory idx = some e → e.num % DPMAIF_PIT_COUNT = idx ∧ e.num < s.issued
  ahead : s.issued ≤ s.run.consumed + DPMAIF_PIT_COUNT
  landed : ∀ k < s.run.consumed, ∃ e, s.memory (k % DPMAIF_PIT_COUNT) = some e ∧ k ≤ e.num
  curPit : ∀ idx, s.run.pc.curPit = some idx → idx = s.run.rxq.pitRdIdx ∨ s.run.consumed = 0
  off : s.powered = false → s.issued = 0

variable {s : SeqRun} {l : RxLocals}

theorem holds_iff : s.Holds l ↔ ∃ e, s.memory l.curPit = some e ∧ e.num = s.run.consumed := by
  unfold SeqRun.Holds
  exact Option.map_eq_some_iff

theorem SeqRun.InStep.cell (step : s.InStep) {e : PitEntry}
    (here : s.memory s.run.rxq.pitRdIdx = some e) :
    e.num = s.run.consumed ∨ e.num + 1 * DPMAIF_PIT_COUNT = s.run.consumed := by
  obtain ⟨index, stored⟩ := step.cells _ e here
  have ahead := step.ahead
  have size : DPMAIF_PIT_COUNT = 16384 := rfl
  rw [step.rdIdx] at index here
  rcases Nat.lt_or_ge s.run.consumed DPMAIF_PIT_COUNT with first | later
  · left
    rw [size] at index ahead first
    omega
  · obtain ⟨f, there, most⟩ := step.landed (s.run.consumed - DPMAIF_PIT_COUNT) (by omega)
    rw [← Nat.mod_eq_sub_mod later, here] at there
    cases there
    rw [size] at index ahead later most ⊢
    omega

/-- A check in step succeeds on the next entry only, or on zeroed memory in the first pass. -/
theorem EntryReady.exact (step : s.InStep) (at_ : s.run.pc = .receiving l)
    (stays : ¬ RxLeaves l s.run.rxq) : (s.Passes l → s.Holds l) ↔ s.EntryReady l := by
  have size : DPMAIF_PIT_COUNT = 16384 := rfl
  have period : DPMAIF_DL_PIT_SEQ_VALUE = 251 := rfl
  have zero : (visiblePit none).pitSeq = 0 := rfl
  have passes : s.Passes l ↔
      (visiblePit (s.memory l.curPit)).pitSeq = s.run.consumed % DPMAIF_DL_PIT_SEQ_VALUE := by
    unfold SeqRun.Passes
    rw [step.expect]
    exact and_iff_right stays
  rw [passes, holds_iff]
  unfold SeqRun.EntryReady
  rw [holds_iff]
  by_cases same : l.curPit = s.run.rxq.pitRdIdx
  · simp only [same, ne_eq, not_true_eq_false, false_imp_iff, and_true, true_imp_iff]
    cases here : s.memory s.run.rxq.pitRdIdx with
    | none =>
      have first : s.run.consumed < DPMAIF_PIT_COUNT := by
        by_contra later
        obtain ⟨e, there, _⟩ := step.landed (s.run.consumed - DPMAIF_PIT_COUNT) (by omega)
        rw [← Nat.mod_eq_sub_mod (Nat.not_lt.mp later), ← step.rdIdx, here] at there
        cases there
      rw [zero, Nat.dvd_iff_mod_eq_zero]
      simp [first, eq_comm]
    | some e =>
      rcases step.cell here with next | earlier
      · simp [next]
      · have other := earlier_pass_seq e.num Nat.one_pos (by decide)
        rw [earlier] at other
        have stamped : (visiblePit (some e)).pitSeq = e.num % DPMAIF_DL_PIT_SEQ_VALUE := e.stamped
        rw [stamped]
        constructor
        · intro _ first
          omega
        · intro _ equal
          exact absurd equal other
  · have cleared : s.run.consumed = 0 := by
      refine (step.curPit l.curPit ?_).resolve_left same
      rw [at_]
      rfl
    rw [cleared]
    rw [step.rdIdx, cleared, Nat.zero_mod] at same
    cases here : s.memory l.curPit with
    | none => simp [zero, same, step.rdIdx, cleared]
    | some e =>
      have index := (step.cells _ e here).1
      have stamped : (visiblePit (some e)).pitSeq = e.num % DPMAIF_DL_PIT_SEQ_VALUE := e.stamped
      have past : e.num ≠ 0 := by
        intro first
        rw [first, Nat.zero_mod] at index
        exact same index.symm
      rw [stamped, Nat.zero_mod]
      simp [past, same, step.rdIdx, cleared, Nat.dvd_iff_mod_eq_zero]

theorem check_inStep (step : s.InStep) (room : SkbRoom) (fragWord : BitVec 64) (pitAddReady : Bool)
    (normal frag : Bat) (truthful : s.Passes l → s.Holds l) :
    (s.checkStep room fragWord pitAddReady normal frag l).InStep := by
  have move := enter_move s.run ⟨visiblePit (s.memory l.curPit), room, fragWord, pitAddReady⟩ l normal frag
  unfold SeqRun.checkStep
  dsimp only
  generalize s.run.enter ⟨visiblePit (s.memory l.curPit), room, fragWord, pitAddReady⟩ normal frag l = run at move
  cases move with
  | ended fails kept out =>
    constructor
    · exact kept.size.trans step.size
    · exact kept.rdIdx.trans (by rw [kept.consumed]; exact step.rdIdx)
    · exact kept.expect.trans (by rw [kept.consumed]; exact step.expect)
    · exact step.cells
    · exact step.ahead.trans (by rw [kept.consumed])
    · intro k before
      rw [kept.consumed] at before
      exact step.landed k before
    · intro idx now
      exact nomatch out.symm.trans now
    · exact step.off
  | advanced stays same size rdIdx expect consumed curPit =>
    obtain ⟨e, here, num⟩ := holds_iff.mp (truthful ⟨stays, same⟩)
    obtain ⟨index, stored⟩ := step.cells _ e here
    rw [num] at index stored
    constructor
    · exact size.trans step.size
    · rw [rdIdx, consumed, step.size, ← index]
      exact ringBufGetNextWrIdx_mod _ (by decide)
    · rw [expect, consumed, step.expect]
      exact nextPitSeq_mod _
    · exact step.cells
    · have ahead := step.ahead
      rw [consumed]
      exact ahead.trans (by omega)
    · intro k before
      rw [consumed] at before
      rcases Nat.lt_or_eq_of_le (Nat.le_of_lt_succ before) with earlier | rfl
      · exact step.landed k earlier
      · rw [index]
        exact ⟨e, here, num.ge⟩
    · exact fun idx now => Or.inl (curPit idx now)
    · exact step.off

theorem driver_inStep {t : SeqRun} {label : PitLabel} (step : s.InStep)
    (taken : s.step (.driver label) = some t) : t.InStep := by
  obtain ⟨kept, local_, same⟩ := driver_seq taken
  generalize t.run = run at kept local_ same
  subst same
  refine ⟨kept.size.trans step.size, ?_, ?_, step.cells, ?_, ?_, ?_, step.off⟩
  · exact kept.rdIdx.trans (by rw [kept.consumed]; exact step.rdIdx)
  · exact kept.expect.trans (by rw [kept.consumed]; exact step.expect)
  · exact step.ahead.trans (by rw [kept.consumed])
  · intro k before
    rw [kept.consumed] at before
    exact step.landed k before
  · intro idx now
    rw [kept.rdIdx, kept.consumed]
    rcases local_ idx now with going | begun
    · exact step.curPit idx going
    · exact Or.inl begun

theorem landStep_inStep {t : SeqRun} {e : PitEntry} (step : s.InStep)
    (taken : s.landStep e = some t) : t.InStep := by
  unfold SeqRun.landStep at taken
  dsimp only at taken
  split at taken
  · rename_i stored
    cases taken
    obtain ⟨below, older⟩ := stored
    refine ⟨step.size, step.rdIdx, step.expect, ?_, step.ahead, ?_, step.curPit, step.off⟩
    · intro idx f here
      dsimp only at here
      by_cases same : idx = e.num % DPMAIF_PIT_COUNT
      · subst same
        rw [Function.update_self] at here
        cases here
        exact ⟨rfl, below⟩
      · rw [Function.update_of_ne same] at here
        exact step.cells idx f here
    · intro k before
      obtain ⟨f, here, most⟩ := step.landed k before
      by_cases same : k % DPMAIF_PIT_COUNT = e.num % DPMAIF_PIT_COUNT
      · rw [same] at here ⊢
        dsimp only
        rw [Function.update_self]
        rw [here] at older
        have later : f.num < e.num := by simpa using older
        exact ⟨e, rfl, by omega⟩
      · dsimp only
        rw [Function.update_of_ne same]
        exact ⟨f, here, most⟩
  · cases taken

end Checks

section Runs

theorem seqStep_inStep (s : SeqRun) (label : SeqLabel) (t : SeqRun) (step : s.InStep)
    (taken : s.step label = some t) (fine : t.mistaken = false) : t.InStep := by
  cases label with
  | driver label => exact driver_inStep step taken
  | check room fragWord pitAddReady normal frag =>
    simp only [SeqRun.step] at taken
    split at taken
    · rename_i l at_
      cases taken
      refine check_inStep step room fragWord pitAddReady normal frag fun passes => ?_
      by_contra other
      have mistaken : (s.mistaken || decide (s.Passes l ∧ ¬ s.Holds l)) = true := by
        simp [passes, other]
      exact absurd (mistaken.symm.trans fine) (by decide)
    · cases taken
  | issue =>
    simp only [SeqRun.step, Option.ite_none_right_eq_some, Option.some.injEq] at taken
    obtain ⟨⟨powered, room⟩, rfl⟩ := taken
    refine ⟨step.size, step.rdIdx, step.expect, fun idx e here => ?_, room, step.landed, step.curPit, ?_⟩
    · obtain ⟨index, stored⟩ := step.cells idx e here
      exact ⟨index, Nat.lt_succ_of_lt stored⟩
    · intro off
      exact absurd (powered.symm.trans off) (by decide)
  | land e => exact landStep_inStep step taken
  | start =>
    simp only [SeqRun.step, PitRun.step, Option.map_some, Option.ite_none_right_eq_some,
      Option.some.injEq] at taken
    obtain ⟨off, rfl⟩ := taken
    have none := step.off off
    have fresh : s.run.consumed = 0 := by
      by_contra some
      obtain ⟨e, here, _⟩ := step.landed 0 (Nat.pos_of_ne_zero some)
      have stored := (step.cells _ e here).2
      omega
    have rdIdx := step.rdIdx
    have expect := step.expect
    rw [fresh] at rdIdx expect
    refine ⟨step.size, rdIdx, expect, fun idx e here => ?_, Nat.zero_le _, ?_, fun _ _ => Or.inr rfl,
      fun _ => rfl⟩
    · have stored := (step.cells idx e here).2
      omega
    · intro k before
      exact absurd before (Nat.not_lt_zero k)
  | stop =>
    simp only [SeqRun.step, PitRun.step, Option.map_some, Option.some.injEq] at taken
    subst taken
    refine ⟨step.size, rfl, rfl, fun idx e here => ?_, Nat.zero_le _, ?_, fun _ _ => Or.inr rfl,
      fun _ => rfl⟩
    · cases here
    · intro k before
      exact absurd before (Nat.not_lt_zero k)

theorem seqStep_exact (s : SeqRun) (label : SeqLabel) (t : SeqRun) (step : s.InStep)
    (fine : s.mistaken = false) (taken : s.step label = some t) :
    t.mistaken = false ↔ s.ChecksReady label := by
  have unchanged : t.mistaken = s.mistaken → (t.mistaken = false ↔ True) := by
    intro same
    rw [same]
    exact iff_true_intro fine
  cases label with
  | driver label =>
    obtain ⟨-, -, same⟩ := driver_seq taken
    refine unchanged ?_
    rw [same]
  | check room fragWord pitAddReady normal frag =>
    simp only [SeqRun.step] at taken
    split at taken
    · rename_i l at_
      cases taken
      have asked : s.ChecksReady (.check room fragWord pitAddReady normal frag) ↔
          (¬ RxLeaves l s.run.rxq → s.EntryReady l) := by
        unfold SeqRun.ChecksReady
        constructor
        · exact fun ready => ready l at_
        · intro ready m at'
          cases at_.symm.trans at'
          exact ready
      rw [asked]
      show (s.mistaken || decide (s.Passes l ∧ ¬ s.Holds l)) = false ↔ _
      rw [fine]
      by_cases leaves : RxLeaves l s.run.rxq
      · have quiet : ¬ s.Passes l := fun passes => passes.1 leaves
        simp [leaves, quiet]
      · rw [← EntryReady.exact step at_ leaves]
        simp [leaves]
    · cases taken
  | issue =>
    simp only [SeqRun.step, Option.ite_none_right_eq_some, Option.some.injEq] at taken
    obtain ⟨-, rfl⟩ := taken
    exact unchanged rfl
  | land e =>
    simp only [SeqRun.step, SeqRun.landStep, Option.ite_none_right_eq_some, Option.some.injEq] at taken
    obtain ⟨-, rfl⟩ := taken
    exact unchanged rfl
  | start =>
    simp only [SeqRun.step, PitRun.step, Option.map_some, Option.ite_none_right_eq_some,
      Option.some.injEq] at taken
    obtain ⟨-, rfl⟩ := taken
    exact unchanged rfl
  | stop =>
    simp only [SeqRun.step, PitRun.step, Option.map_some, Option.some.injEq] at taken
    subst taken
    exact unchanged rfl

/-- No sequence check succeeds on anything but the entry it is for exactly in the runs whose checks
    find what they need. -/
theorem checks_truthful_iff (labels : List SeqLabel) :
    Visits (fun s => s.mistaken = false) SeqRun.step seqInit labels ↔
      Obeys SeqRun.ChecksReady SeqRun.step seqInit labels := by
  have start : seqInit.InStep :=
    ⟨rfl, rfl, rfl, nofun, Nat.zero_le _, nofun, nofun, fun _ => rfl⟩
  refine visits_iff_obeys (fun s => s.mistaken = false → s.InStep) ?_ ?_ (fun _ => start) rfl
  · exact fun s label t step fine taken => seqStep_inStep s label t (step fine) taken
  · exact fun s label t step fine taken => seqStep_exact s label t (step fine) fine taken

/-- The first entry is stored and announced, and checked before its bytes are visible. -/
theorem zeroed_memory_passes :
    ¬ Visits (fun s => s.mistaken = false) SeqRun.step seqInit
      [.start, .issue, .driver (.pollPit 1 64),
        .check ⟨64, 3776⟩ 0 true (batAlloc .normal) (batAlloc .frag)] := by
  intro visits
  have last := visits.finish (t := _) rfl
  exact absurd last (by decide)

end Runs

end T7xxModel.Dpmaif
