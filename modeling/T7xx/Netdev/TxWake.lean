import T7xx.Dpmaif.TxRun
import T7xx.Transition.Runs

namespace T7xxModel.Netdev

open Dpmaif (Skb skbDrbCnt skbDrbCnt_le DPMAIF_DRB_LIST_LEN MAX_SKB_FRAGS)
open Transition

/-- `ndo_start_xmit` before and after its test of the budget. -/
inductive XmitPc where
  | idle
  | called (skb : Skb)
  | queueing (skb : Skb)
  | full
deriving DecidableEq

/-- The push thread in `t7xx_dpmaif_add_skb_to_ring`, once the DRBs of an skb are written, and up to
    the `skb_unlink` after it. -/
inductive PushPc where
  | idle
  | written (skb : Skb)
  | full
  | sent
deriving DecidableEq

/-- `t7xx_dpmaif_release_tx_buffer` after it has freed a DRB. -/
inductive DonePc where
  | idle
  | released
  | notify
  | wake
deriving DecidableEq

/-- A TX queue and the queue of link 0, which is up, with the modem ready. The DRBs in the ring are
    not yet announced to the hardware, announced, or read by it and not yet released. -/
structure TxWake where
  txBudget : Int
  txSkbHead : List Skb
  fresh : Nat
  announced : Nat
  read : Nat
  stopped : Bool
  xmit : XmitPc
  push : PushPc
  done : DonePc
deriving DecidableEq

inductive WakeLabel where
  | xmitCall (skb : Skb)
  | xmitTest
  | xmitQueue
  | xmitStop
  | pushWrite
  | pushSub
  | pushStop
  | pushUnlink
  | pushAnnounce
  | hwRead (drbs : Nat)
  | doneRelease
  | doneInc
  | doneTest
  | doneWake
deriving DecidableEq

namespace TxWake

def ring (s : TxWake) : Nat := s.fresh + s.announced + s.read

/-- The network core calls `ndo_start_xmit` on a queue that is not stopped. -/
def xmitStep (s : TxWake) (label : WakeLabel) : Option TxWake :=
  match label, s.xmit with
  | .xmitCall skb, .idle => if s.stopped then none else some { s with xmit := .called skb }
  | .xmitTest, .called skb =>
    if (s.txBudget % 2 ^ 32).toNat ≤ skbDrbCnt skb then some { s with xmit := .full }
    else some { s with xmit := .queueing skb }
  | .xmitQueue, .queueing skb => some { s with txSkbHead := s.txSkbHead ++ [skb], xmit := .idle }
  | .xmitStop, .full => some { s with stopped := true, xmit := .idle }
  | _, _ => none

def pushStep (s : TxWake) (label : WakeLabel) : Option TxWake :=
  match label, s.push with
  | .pushWrite, .idle =>
    match s.txSkbHead with
    | [] => none
    | skb :: _ =>
      if s.ring + skbDrbCnt skb < DPMAIF_DRB_LIST_LEN then
        some { s with fresh := s.fresh + skbDrbCnt skb, push := .written skb }
      else none
  | .pushSub, .written skb =>
    let txBudget := s.txBudget - skbDrbCnt skb
    some { s with txBudget, push := if txBudget ≤ (MAX_SKB_FRAGS : Int) + 2 then .full else .sent }
  | .pushStop, .full => some { s with stopped := true, push := .sent }
  | .pushUnlink, .sent => some { s with txSkbHead := s.txSkbHead.tail, push := .idle }
  | .pushAnnounce, .idle => some { s with fresh := 0, announced := s.announced + s.fresh }
  | _, _ => none

def doneStep (s : TxWake) (label : WakeLabel) : Option TxWake :=
  match label, s.done with
  | .doneRelease, .idle =>
    if s.read = 0 then none else some { s with read := s.read - 1, done := .released }
  | .doneInc, .released =>
    let txBudget := s.txBudget + 1
    some { s with
      txBudget
      done := if DPMAIF_DRB_LIST_LEN / 8 < (txBudget % 2 ^ 32).toNat then .notify else .idle }
  | .doneTest, .notify => some { s with done := if s.stopped then .wake else .idle }
  | .doneWake, .wake => some { s with stopped := false, done := .idle }
  | _, _ => none

def step (s : TxWake) (label : WakeLabel) : Option TxWake :=
  match label with
  | .xmitCall _ | .xmitTest | .xmitQueue | .xmitStop => s.xmitStep label
  | .pushWrite | .pushSub | .pushStop | .pushUnlink | .pushAnnounce => s.pushStep label
  | .hwRead drbs =>
    if drbs ≤ s.announced then
      some { s with announced := s.announced - drbs, read := s.read + drbs }
    else none
  | .doneRelease | .doneInc | .doneTest | .doneWake => s.doneStep label

end TxWake

def wakeInit : TxWake where
  txBudget := DPMAIF_DRB_LIST_LEN
  txSkbHead := []
  fresh := 0
  announced := 0
  read := 0
  stopped := false
  xmit := .idle
  push := .idle
  done := .idle

section Wakes

/-- Nobody is in a step, nothing waits and nothing is in the ring. -/
def TxWake.Drained (s : TxWake) : Prop :=
  s.xmit = .idle ∧ s.push = .idle ∧ s.done = .idle ∧ s.txSkbHead = [] ∧ s.ring = 0 ∧
    s.txBudget = DPMAIF_DRB_LIST_LEN

instance (s : TxWake) : Decidable s.Drained := inferInstanceAs (Decidable (_ ∧ _))

def DrainedRuns (s : TxWake) : Prop := s.Drained → s.stopped = false

instance (s : TxWake) : Decidable (DrainedRuns s) := inferInstanceAs (Decidable (_ → _))

/-- A DRB is still to be released, or its release still to notify the link. -/
def TxWake.Coming (s : TxWake) : Prop := s.txSkbHead ≠ [] ∨ 0 < s.ring ∨ s.done ≠ .idle

/-- `ndo_start_xmit` stops the queue only as long as a release is still to come. -/
def StopsBeforeRelease (s : TxWake) : WakeLabel → Prop
  | .xmitStop => s.Coming
  | _ => True

/-- What the push thread has written and not yet taken off the budget. -/
def PushPc.owed : PushPc → Nat
  | .written skb => skbDrbCnt skb
  | _ => 0

/-- What `tx_done` has released and not yet given back to the budget. -/
def DonePc.owed : DonePc → Nat
  | .released => 1
  | _ => 0

structure WakeInvariant (s : TxWake) : Prop where
  budget : s.txBudget + s.ring + s.done.owed = DPMAIF_DRB_LIST_LEN + s.push.owed
  room : s.ring < DPMAIF_DRB_LIST_LEN
  pushing : s.push ≠ .idle → s.txSkbHead ≠ [] ∧ 0 < s.fresh
  small : s.push.owed ≤ s.fresh
  coming : s.stopped = true → s.Coming

variable {s t : TxWake} {label : WakeLabel}

theorem drained_iff (invariant : WakeInvariant s) :
    s.Drained ↔ s.xmit = .idle ∧ ¬ s.Coming := by
  unfold TxWake.Coming TxWake.Drained
  rw [not_or, not_or, not_not, not_not, Nat.not_lt, Nat.le_zero]
  constructor
  · rintro ⟨xmit, -, done, none, empty, -⟩
    exact ⟨xmit, none, empty, done⟩
  · rintro ⟨xmit, none, empty, done⟩
    have push : s.push = .idle := by
      by_contra busy
      exact (invariant.pushing busy).1 none
    refine ⟨xmit, push, done, none, empty, ?_⟩
    have balance := invariant.budget
    rw [push, done, empty] at balance
    simp only [PushPc.owed, DonePc.owed] at balance
    omega

theorem xmitStep_invariant (invariant : WakeInvariant s) (allowed : StopsBeforeRelease s label)
    (taken : s.xmitStep label = some t) : WakeInvariant t := by
  unfold TxWake.xmitStep at taken
  split at taken
  · split at taken
    · cases taken
    · cases taken
      exact ⟨invariant.budget, invariant.room, invariant.pushing, invariant.small, invariant.coming⟩
  · split at taken
    · cases taken
      exact ⟨invariant.budget, invariant.room, invariant.pushing, invariant.small, invariant.coming⟩
    · cases taken
      exact ⟨invariant.budget, invariant.room, invariant.pushing, invariant.small, invariant.coming⟩
  · cases taken
    refine ⟨invariant.budget, invariant.room, fun busy => ?_, invariant.small, fun _ => ?_⟩
    · exact ⟨List.append_ne_nil_of_right_ne_nil _ (List.cons_ne_nil _ _), (invariant.pushing busy).2⟩
    · exact Or.inl (List.append_ne_nil_of_right_ne_nil _ (List.cons_ne_nil _ _))
  · cases taken
    exact ⟨invariant.budget, invariant.room, invariant.pushing, invariant.small, fun _ => allowed⟩
  · cases taken

theorem TxWake.Coming.frame (coming : s.Coming) (head : t.txSkbHead = s.txSkbHead)
    (ring : t.ring = s.ring) (done : t.done = s.done) : t.Coming := by
  unfold TxWake.Coming
  rw [head, ring, done]
  exact coming

/-- The DRBs in the ring are announced or read. -/
theorem WakeInvariant.moved {fresh announced read : Nat} (invariant : WakeInvariant s)
    (same : fresh + announced + read = s.ring) (held : s.push = .idle ∨ fresh = s.fresh) :
    WakeInvariant { s with fresh, announced, read } := by
  have ring : ({ s with fresh, announced, read } : TxWake).ring = s.ring := same
  refine ⟨?_, ?_, fun busy => ?_, ?_, fun stopped => ?_⟩
  · rw [ring]
    exact invariant.budget
  · rw [ring]
    exact invariant.room
  · have kept := held.resolve_left busy
    rw [kept]
    exact invariant.pushing busy
  · rcases held with idle | kept
    · dsimp only
      rw [idle]
      exact Nat.zero_le fresh
    · rw [kept]
      exact invariant.small
  · exact (invariant.coming stopped).frame rfl ring rfl

theorem pushWrite_invariant {skb : Skb} {rest : List Skb} (invariant : WakeInvariant s)
    (idle : s.push = .idle) (waiting : s.txSkbHead = skb :: rest)
    (fits : s.ring + skbDrbCnt skb < DPMAIF_DRB_LIST_LEN) :
    WakeInvariant { s with fresh := s.fresh + skbDrbCnt skb, push := .written skb } := by
  have budget := invariant.budget
  have some : 0 < skbDrbCnt skb := by
    unfold skbDrbCnt
    omega
  have queued : s.txSkbHead ≠ [] := by
    rw [waiting]
    exact List.cons_ne_nil _ _
  rw [idle] at budget
  simp only [TxWake.ring, PushPc.owed] at budget fits
  refine ⟨?_, ?_, fun _ => ⟨queued, ?_⟩, ?_, fun _ => Or.inl queued⟩
  · simp only [TxWake.ring, PushPc.owed]
    omega
  · simp only [TxWake.ring]
    omega
  · dsimp only
    omega
  · simp only [PushPc.owed]
    omega

theorem pushSub_invariant {skb : Skb} {push : PushPc} (invariant : WakeInvariant s)
    (written : s.push = .written skb) (settled : push.owed = 0) :
    WakeInvariant { s with txBudget := s.txBudget - skbDrbCnt skb, push } := by
  have budget := invariant.budget
  have busy := invariant.pushing (by rw [written]; nofun)
  rw [written] at budget
  refine ⟨?_, invariant.room, fun _ => busy, ?_, invariant.coming⟩
  · dsimp only
    rw [settled]
    simp only [TxWake.ring, PushPc.owed] at *
    omega
  · dsimp only
    rw [settled]
    exact Nat.zero_le _

/-- The push thread stops the queue over DRBs of its own that the hardware cannot have read. -/
theorem pushStep_invariant (invariant : WakeInvariant s) (taken : s.pushStep label = some t) :
    WakeInvariant t := by
  have budget := invariant.budget
  have small := invariant.small
  unfold TxWake.pushStep at taken
  split at taken
  · rename_i idle
    split at taken
    · cases taken
    rename_i skb rest waiting
    split at taken
    · rename_i fits
      cases taken
      exact pushWrite_invariant invariant idle waiting fits
    · cases taken
  · rename_i skb written
    cases taken
    apply pushSub_invariant invariant written
    split
    · rfl
    · rfl
  · rename_i full
    have busy := invariant.pushing (by rw [full]; nofun)
    rw [full] at budget small
    cases taken
    exact ⟨budget, invariant.room, fun _ => busy, small, fun _ => Or.inl busy.1⟩
  · rename_i sent
    have busy := invariant.pushing (by rw [sent]; nofun)
    rw [sent] at budget small
    cases taken
    refine ⟨budget, invariant.room, fun idle => absurd rfl idle, small, fun _ => Or.inr (Or.inl ?_)⟩
    have filled := busy.2
    simp only [TxWake.ring]
    omega
  · rename_i idle
    cases taken
    refine invariant.moved ?_ (Or.inl idle)
    simp only [TxWake.ring]
    omega
  · cases taken

/-- The release that empties the ring gives back the last of the budget, so that it notifies. -/
theorem doneStep_invariant (invariant : WakeInvariant s) (taken : s.doneStep label = some t) :
    WakeInvariant t := by
  have budget := invariant.budget
  have room := invariant.room
  have small := invariant.small
  unfold TxWake.doneStep at taken
  split at taken
  · rename_i place
    rw [place] at budget
    split at taken
    · cases taken
    · rename_i some
      cases taken
      simp only [TxWake.ring, DonePc.owed] at *
      refine ⟨?_, ?_, invariant.pushing, invariant.small, fun _ => Or.inr (Or.inr nofun)⟩
      · simp only [TxWake.ring, DonePc.owed]
        omega
      · simp only [TxWake.ring]
        omega
  · rename_i place
    rw [place] at budget
    cases taken
    have owed : (if DPMAIF_DRB_LIST_LEN / 8 < ((s.txBudget + 1) % 2 ^ 32).toNat then DonePc.notify
        else .idle).owed = 0 := by
      split
      · rfl
      · rfl
    refine ⟨?_, room, invariant.pushing, small, fun _ => ?_⟩
    · dsimp only
      rw [owed]
      simp only [TxWake.ring, DonePc.owed] at *
      omega
    · by_cases enough : DPMAIF_DRB_LIST_LEN / 8 < ((s.txBudget + 1) % 2 ^ 32).toNat
      · refine Or.inr (Or.inr ?_)
        dsimp only
        rw [if_pos enough]
        nofun
      · refine Or.inr (Or.inl ?_)
        simp only [TxWake.ring, DonePc.owed, DPMAIF_DRB_LIST_LEN] at *
        omega
  · rename_i place
    rw [place] at budget
    cases taken
    have owed : (if s.stopped = true then DonePc.wake else .idle).owed = 0 := by
      split
      · rfl
      · rfl
    refine ⟨?_, room, invariant.pushing, small, fun stopped => Or.inr (Or.inr ?_)⟩
    · dsimp only
      rw [owed]
      exact budget
    · have held : s.stopped = true := stopped
      dsimp only
      rw [if_pos held]
      nofun
  · rename_i place
    rw [place] at budget
    cases taken
    exact ⟨budget, room, invariant.pushing, small, nofun⟩
  · cases taken

theorem step_invariant (invariant : WakeInvariant s) (allowed : StopsBeforeRelease s label)
    (taken : s.step label = some t) : WakeInvariant t := by
  cases label with
  | xmitCall skb => exact xmitStep_invariant invariant allowed taken
  | xmitTest => exact xmitStep_invariant invariant allowed taken
  | xmitQueue => exact xmitStep_invariant invariant allowed taken
  | xmitStop => exact xmitStep_invariant invariant allowed taken
  | pushWrite => exact pushStep_invariant invariant taken
  | pushSub => exact pushStep_invariant invariant taken
  | pushStop => exact pushStep_invariant invariant taken
  | pushUnlink => exact pushStep_invariant invariant taken
  | pushAnnounce => exact pushStep_invariant invariant taken
  | doneRelease => exact doneStep_invariant invariant taken
  | doneInc => exact doneStep_invariant invariant taken
  | doneTest => exact doneStep_invariant invariant taken
  | doneWake => exact doneStep_invariant invariant taken
  | hwRead drbs =>
    simp only [TxWake.step, Option.ite_none_right_eq_some, Option.some.injEq] at taken
    obtain ⟨known, rfl⟩ := taken
    refine invariant.moved ?_ (Or.inr rfl)
    simp only [TxWake.ring]
    omega

theorem stop_needs_release (invariant : WakeInvariant s) (taken : s.step label = some t)
    (runs : DrainedRuns t) : StopsBeforeRelease s label := by
  cases label with
  | xmitStop =>
    simp only [TxWake.step, TxWake.xmitStep] at taken
    split at taken
    · contradiction
    · contradiction
    · contradiction
    · rename_i place
      cases taken
      by_contra late
      have idle : ({ s with xmit := .idle } : TxWake).Drained := by
        have same : WakeInvariant { s with xmit := .idle } :=
          ⟨invariant.budget, invariant.room, invariant.pushing, invariant.small, invariant.coming⟩
        exact (drained_iff same).mpr ⟨rfl, late⟩
      exact Bool.noConfusion (runs idle)
    · cases taken
  | _ => exact trivial

theorem wakeInit_invariant : WakeInvariant wakeInit :=
  ⟨rfl, by decide, fun busy => absurd rfl busy, Nat.le_refl 0, nofun⟩

/-- The link is never left stopped over an empty ring exactly in the runs in which `ndo_start_xmit`
    makes every stop before the last release has notified. -/
theorem drained_runs_iff_stopped_early (labels : List WakeLabel) :
    Visits DrainedRuns TxWake.step wakeInit labels ↔
      Obeys StopsBeforeRelease TxWake.step wakeInit labels := by
  apply visits_iff_obeys_of_invariant WakeInvariant
  · intro s invariant drained
    rw [Bool.eq_false_iff]
    exact fun stopped => ((drained_iff invariant).mp drained).2 (invariant.coming stopped)
  · exact fun s label t invariant allowed taken => step_invariant invariant allowed taken
  · exact fun s label t invariant taken runs => stop_needs_release invariant taken runs
  · exact wakeInit_invariant

end Wakes

section LostWake

def fullSkb : Skb := ⟨0, 1800, 100, List.replicate MAX_SKB_FRAGS 100, 0, by decide⟩

theorem fullSkb_drbs : skbDrbCnt fullSkb = 19 := rfl

/-- `n` full skbs have been announced, and none of them has been read. -/
def sentState (n : Nat) : TxWake :=
  { wakeInit with txBudget := (6144 : Int) - 19 * n, announced := 19 * n }

def sendLabels : List WakeLabel :=
  [.xmitCall fullSkb, .xmitTest, .xmitQueue, .pushWrite, .pushSub, .pushUnlink, .pushAnnounce]

/-- `n` DRBs of the full ring were released while `ndo_start_xmit` is about to stop the queue. -/
def drainState (stopped : Bool) (n : Nat) : TxWake :=
  { wakeInit with txBudget := (7 : Int) + n, read := 6137 - n, stopped, xmit := .full }

theorem sentState_next (n : Nat) (few : n < 322) :
    execute TxWake.step (sentState n) sendLabels = some (sentState (n + 1)) := by
  have word : ((6144 : Int) - 19 * n) % 2 ^ 32 = 6144 - 19 * n :=
    Int.emod_eq_of_lt (by omega) (by omega)
  have passes : ({ sentState n with xmit := .called fullSkb } : TxWake).step .xmitTest =
      some { sentState n with xmit := .queueing fullSkb } := by
    have budget : ¬ (((6144 : Int) - 19 * n) % 2 ^ 32).toNat ≤ skbDrbCnt fullSkb := by
      rw [word, fullSkb_drbs]
      omega
    exact if_neg budget
  have writes : ({ sentState n with txSkbHead := [fullSkb] } : TxWake).step .pushWrite =
      some { sentState n with txSkbHead := [fullSkb], fresh := 19, push := .written fullSkb } := by
    have room : 0 + 19 * n + 0 + 19 < 6144 := by omega
    exact if_pos room
  have left : ¬ (6144 : Int) - 19 * n - (19 : Nat) ≤ (MAX_SKB_FRAGS : Int) + 2 := by
    unfold MAX_SKB_FRAGS
    omega
  have count : (6144 : Int) - 19 * n - (19 : Nat) = 6144 - 19 * ((n + 1 : Nat) : Int) := by omega
  have subtracts : ({ sentState n with
        txSkbHead := [fullSkb], fresh := 19, push := .written fullSkb } : TxWake).step .pushSub =
      some { sentState (n + 1) with
        txSkbHead := [fullSkb], announced := 19 * n, fresh := 19, push := .sent } := by
    show some { sentState n with
      txBudget := (6144 : Int) - 19 * n - (19 : Nat)
      txSkbHead := [fullSkb]
      fresh := 19
      push := if (6144 : Int) - 19 * n - (19 : Nat) ≤ (MAX_SKB_FRAGS : Int) + 2 then PushPc.full
        else .sent } = _
    rw [if_neg left, count]
    rfl
  show (({ sentState n with xmit := .called fullSkb } : TxWake).step .xmitTest).bind _ = _
  rw [passes, Option.bind_some]
  show (({ sentState n with txSkbHead := [fullSkb] } : TxWake).step .pushWrite).bind _ = _
  rw [writes, Option.bind_some]
  show (({ sentState n with
    txSkbHead := [fullSkb], fresh := 19, push := .written fullSkb } : TxWake).step .pushSub).bind _ = _
  rw [subtracts, Option.bind_some]
  rfl

theorem drainState_quiet (n : Nat) (few : n < 761) :
    execute TxWake.step (drainState true n) [.doneRelease, .doneInc] = some (drainState true (n + 1)) := by
  have some : ¬ 6137 - n = 0 := by omega
  have count : (7 : Int) + n + 1 = 7 + ((n + 1 : Nat) : Int) := by omega
  have word : ((7 : Int) + (n + 1 : Nat)) % 2 ^ 32 = 7 + (n + 1 : Nat) :=
    Int.emod_eq_of_lt (by omega) (by omega)
  have quiet : ¬ DPMAIF_DRB_LIST_LEN / 8 < ((7 : Int) + (n + 1 : Nat)).toNat := by
    unfold DPMAIF_DRB_LIST_LEN
    omega
  simp only [drainState, wakeInit, execute, TxWake.step, TxWake.doneStep, Option.bind_some, some, count,
    word, quiet, if_false, Nat.sub_sub]

theorem drainState_notify (stopped : Bool) (n : Nat) (many : 761 ≤ n) (left : n < 6137) :
    execute TxWake.step (drainState stopped n)
        ([.doneRelease, .doneInc, .doneTest] ++ if stopped then [.doneWake] else []) =
      some (drainState false (n + 1)) := by
  have some : ¬ 6137 - n = 0 := by omega
  have count : (7 : Int) + n + 1 = 7 + ((n + 1 : Nat) : Int) := by omega
  have word : ((7 : Int) + (n + 1 : Nat)) % 2 ^ 32 = 7 + (n + 1 : Nat) :=
    Int.emod_eq_of_lt (by omega) (by omega)
  have enough : DPMAIF_DRB_LIST_LEN / 8 < ((7 : Int) + (n + 1 : Nat)).toNat := by
    unfold DPMAIF_DRB_LIST_LEN
    omega
  cases stopped
  · simp only [drainState, wakeInit, execute, TxWake.step, TxWake.doneStep, Option.bind_some, some,
      count, word, enough, Nat.sub_sub, List.append_nil, Bool.false_eq_true, if_false, if_true]
  · simp only [drainState, wakeInit, execute, TxWake.step, TxWake.doneStep, Option.bind_some, some,
      count, word, enough, Nat.sub_sub, List.cons_append, List.nil_append, if_false, if_true]

/-- The last skb fills the ring; a sender tests the budget before the push thread stops the queue, and
    the hardware reads everything. -/
def fillLabels : List WakeLabel :=
  [.xmitCall fullSkb, .xmitTest, .xmitQueue, .pushWrite, .pushSub, .xmitCall fullSkb, .xmitTest,
    .pushStop, .pushUnlink, .pushAnnounce, .hwRead 6137]

/-- The sender stops the queue only after the whole ring was released. -/
def lostWakeLabels : List WakeLabel :=
  (List.replicate 322 sendLabels).flatten ++
    (fillLabels ++ ((List.replicate 761 [WakeLabel.doneRelease, .doneInc]).flatten ++
      ([.doneRelease, .doneInc, .doneTest, .doneWake] ++
        ((List.replicate 5375 [WakeLabel.doneRelease, .doneInc, .doneTest]).flatten ++ [.xmitStop]))))

theorem lostWake_run :
    execute TxWake.step wakeInit lostWakeLabels = some { wakeInit with stopped := true } := by
  have sent : execute TxWake.step wakeInit (List.replicate 322 sendLabels).flatten =
      some (sentState 322) :=
    execute_repeat TxWake.step sentState sendLabels 0 322 fun n _ few => sentState_next n (by omega)
  have filled : execute TxWake.step (sentState 322) fillLabels = some (drainState true 0) := by decide
  have quiet : execute TxWake.step (drainState true 0)
      (List.replicate 761 [WakeLabel.doneRelease, .doneInc]).flatten = some (drainState true 761) :=
    execute_repeat TxWake.step (drainState true) _ 0 761 fun n _ few => drainState_quiet n (by omega)
  have woken : execute TxWake.step (drainState true 761)
      [.doneRelease, .doneInc, .doneTest, .doneWake] = some (drainState false 762) :=
    drainState_notify true 761 (Nat.le_refl _) (by decide)
  have drained : execute TxWake.step (drainState false 762)
      (List.replicate 5375 [WakeLabel.doneRelease, .doneInc, .doneTest]).flatten =
        some (drainState false 6137) :=
    execute_repeat TxWake.step (drainState false) _ 762 5375 fun n many few =>
      drainState_notify false n (by omega) (by omega)
  have last : execute TxWake.step (drainState false 6137) [.xmitStop] =
      some { wakeInit with stopped := true } := by decide
  rw [lostWakeLabels, execute_append, sent, Option.bind_some, execute_append, filled, Option.bind_some,
    execute_append, quiet, Option.bind_some, execute_append, woken, Option.bind_some, execute_append,
    drained, Option.bind_some, last]

/-- The ring drains between the test and the stop: the queue stays stopped over an empty ring. -/
theorem drained_queue_stays_stopped : ¬ ∀ labels, Visits DrainedRuns TxWake.step wakeInit labels := by
  intro always
  exact absurd ((always lostWakeLabels).finish lostWake_run) (by decide)

end LostWake

end T7xxModel.Netdev
