import T7xx.Dpmaif.TxCounters

namespace T7xxModel.Dpmaif

open Transition

/-- The budget and the DRBs in the ring make up the whole ring. -/
def BudgetKept (s : TxPath) : Prop :=
  s.txq.txBudget + ringBufRdWrCount s.txq.drbSizeCnt s.txq.drbReleaseRdIdx s.txq.drbWrIdx .read =
    s.txq.drbSizeCnt

instance (s : TxPath) : Decidable (BudgetKept s) :=
  inferInstanceAs (Decidable (s.txq.txBudget +
    ringBufRdWrCount s.txq.drbSizeCnt s.txq.drbReleaseRdIdx s.txq.drbWrIdx .read =
      s.txq.drbSizeCnt))

/-- The queue is stopped with an empty ring only, and `tx_done` finds a DRB to release. -/
def KeepsBudget (s : TxPath) : TxLabel → Prop
  | .stop => s.txq.drbReleaseRdIdx = s.txq.drbWrIdx
  | .txDone => relCnt s ≠ 0
  | _ => True

instance (s : TxPath) : (label : TxLabel) → Decidable (KeepsBudget s label)
  | .stop => inferInstanceAs (Decidable (s.txq.drbReleaseRdIdx = s.txq.drbWrIdx))
  | .txDone => inferInstanceAs (Decidable (relCnt s ≠ 0))
  | .start _ | .suspend | .resume | .send _ | .pushWake | .pushResume _ | .pushSelect
  | .pushRound _ | .sleepDisabled _ | .pushAnnounce | .pushLoop | .hwProgress _ | .ringCheck =>
    inferInstanceAs (Decidable True)

/-- An empty ring has no burst waiting to be announced, so a stop that finds it empty leaves none
    behind. -/
structure Budgeted (s : TxPath) : Prop where
  aligned : Aligned DPMAIF_DRB_LIST_LEN s
  noneHeld : s.state ≠ .pwron → s.push.held = 0

theorem Budgeted.budgetKept {s : TxPath} (budgeted : Budgeted s) : BudgetKept s := by
  unfold BudgetKept
  rw [ringBufRdWrCount_read, budgeted.aligned.size]
  by_cases powered : s.state = .pwron
  · obtain ⟨released, seen, counts⟩ := budgeted.aligned.running powered
    have ordered := counts.released_le
    have balance := counts.balance
    rw [counts.distance]
    omega
  · have cleared := budgeted.aligned.cleared powered
    rw [cleared.release, cleared.write, Ring.distance_self, cleared.balance]
    rfl

theorem burstRound_held_off (fails : Option Nat) (wait : Bool) (i remain : Nat) {s : TxPath}
    (off : s.state ≠ .pwron) : (burstRound fails wait i remain 0 s).push.held = 0 := by
  rcases burstRound_cases fails wait i remain 0 s with
    ends | rereads | ⟨skb, txq, log, ret, added, failed, ends⟩ |
    ⟨skb, rest, txq, log, ret, queue, room, added, succeeded, goes⟩
  · rw [ends, held_afterBurst]
  · rw [rereads]
    rfl
  · rw [ends, held_afterBurst]
  · rcases addSkbToRing_cases added with ⟨negative, _⟩ | ⟨_, powered, _⟩
    · omega
    · exact absurd powered off

theorem pushStep_held_off {s t : TxPath} {label : TxLabel} (off : s.state ≠ .pwron)
    (nothing : s.push.held = 0) (taken : pushStep label s = some t) : t.push.held = 0 := by
  cases pushStep_moves taken with
  | enter _ entered => exact entered.held
  | @round fails wait i remain cnt place =>
    rw [place] at nothing
    have none_ : cnt = 0 := nothing
    rw [none_]
    exact burstRound_held_off fails wait i remain off
  | full place =>
    rw [place] at nothing
    exact (held_afterBurst _ _).trans nothing
  | drop => rfl
  | awake place =>
    rw [place] at nothing
    exact nothing
  | announce => rfl

theorem stop_budgeted {s t : TxPath} (budgeted : Budgeted s)
    (empty : s.txq.drbReleaseRdIdx = s.txq.drbWrIdx) (taken : txStop s = some t) : Budgeted t := by
  have aligned := stop_aligned budgeted.aligned taken
  have push : t.push = s.push := by
    unfold txStop at taken
    split at taken
    · cases taken
    · cases taken
      rfl
  by_cases powered : s.state = .pwron
  · obtain ⟨released, seen, counts⟩ := budgeted.aligned.running powered
    have distance := counts.distance
    have ordered := counts.released_le
    have read := counts.releasedSeen
    have known := counts.seenRead
    have announced := counts.readAnnounced
    have written := counts.announcedWritten
    have balance := counts.balance
    rw [empty, Ring.distance_self] at distance
    unfold DPMAIF_UL_DRB_SIZE_WORD at announced written
    constructor
    · rwa [show (DPMAIF_DRB_LIST_LEN : Int) = s.txq.txBudget by omega]
    · intro _
      rw [push]
      omega
  · constructor
    · rwa [← (budgeted.aligned.cleared powered).balance]
    · intro _
      rw [push]
      exact budgeted.noneHeld powered

/-- A step that leaves the queue without power leaves nothing in the hand of the push thread. -/
theorem txStep_noneHeld {s t : TxPath} {label : TxLabel} (stops : label ≠ .stop)
    (before : s.state ≠ .pwron → s.push.held = 0) (taken : txStep s label = some t)
    (off : t.state ≠ .pwron) : t.push.held = 0 := by
  cases label with
  | stop => exact absurd rfl stops
  | start hwReady =>
    simp only [txStep, txStart] at taken
    split at taken
    · cases taken
    · cases hwReady
      · cases taken
        exact before off
      · cases taken
        exact absurd rfl off
  | suspend | resume =>
    cases taken
    exact before off
  | send skb =>
    simp only [txStep, Option.map_eq_some_iff] at taken
    obtain ⟨txq, _, rfl⟩ := taken
    exact before off
  | hwProgress drbs | ringCheck =>
    simp only [txStep] at taken
    split at taken
    · cases taken
      exact before off
    · cases taken
  | txDone =>
    simp only [txStep, txDoneStep] at taken
    split at taken
    · cases taken
      exact before off
    · cases taken
  | pushWake | pushResume | pushSelect | pushRound | sleepDisabled | pushAnnounce | pushLoop =>
    rw [pushStep_state taken] at off
    exact pushStep_held_off off (before off) taken

theorem txStep_budgeted (s : TxPath) (label : TxLabel) (t : TxPath) (budgeted : Budgeted s)
    (allowed : KeepsBudget s label) (taken : txStep s label = some t) : Budgeted t := by
  by_cases stops : label = .stop
  · rw [stops] at allowed taken
    exact stop_budgeted budgeted allowed taken
  · constructor
    · apply txStep_aligned budgeted.aligned _ stops taken
      cases label with
      | txDone => exact allowed
      | start hwReady =>
        cases hwReady
        · exact trivial
        · simp only [txStep, txStart] at taken
          split at taken
          · cases taken
          · rename_i off
            exact budgeted.noneHeld off
      | stop => exact absurd rfl stops
      | _ => exact trivial
    · exact txStep_noneHeld stops budgeted.noneHeld taken

theorem txInit_budgeted : Budgeted txInit := ⟨txInit_aligned, fun _ => rfl⟩

/-- A queue whose ring is always empty when it is stopped never loses budget. -/
theorem queue_keeps_budget (labels : List TxLabel)
    (kept : Obeys KeepsBudget txStep txInit labels) : Visits BudgetKept txStep txInit labels :=
  Visits.of_invariant Budgeted (fun _ budgeted => budgeted.budgetKept) txStep_budgeted
    txInit_budgeted kept

theorem queue_keeps_budget_restart :
    Visits BudgetKept txStep txInit
      ([.start true, .send fragmentedSkb] ++ burstLabels ++ announceLabels ++
        [.hwProgress 4, .txDone, .stop, .start true]) :=
  queue_keeps_budget _ (by decide)

/-- The four DRBs of an skb in the ring at a stop are missing from the budget ever after. -/
theorem stop_leaks_budget : ¬ ∀ labels, Visits BudgetKept txStep txInit labels := by
  intro always
  exact absurd
    (always ([.start true, .send fragmentedSkb] ++ burstLabels ++ [.stop, .start true]))
    (by decide)

end T7xxModel.Dpmaif
