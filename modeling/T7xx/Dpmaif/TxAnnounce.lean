import T7xx.Dpmaif.TxRun

namespace T7xxModel.Dpmaif

open Transition

/-- Outside `t7xx_do_tx_hw_push` the hardware of a started queue knows of every DRB written. -/
def AllAnnounced (s : TxPath) : Prop :=
  s.push.outside → s.state = .pwron → s.hwAnnounced = DPMAIF_UL_DRB_SIZE_WORD * s.written

instance (s : TxPath) : Decidable (AllAnnounced s) :=
  inferInstanceAs (Decidable (s.push.outside → s.state = .pwron →
    s.hwAnnounced = DPMAIF_UL_DRB_SIZE_WORD * s.written))

/-- A powered-on queue does not lose a burst to a sleep lock that stays taken, and none is started
    under a burst written before the last stop. -/
def KeepsBurst (s : TxPath) : TxLabel → Prop
  | .sleepDisabled false => s.state ≠ .pwron
  | .start true => s.push.held = 0
  | _ => True

instance (s : TxPath) : (label : TxLabel) → Decidable (KeepsBurst s label)
  | .sleepDisabled false => inferInstanceAs (Decidable (s.state ≠ .pwron))
  | .start true => inferInstanceAs (Decidable (s.push.held = 0))
  | .sleepDisabled true | .start false | .stop | .suspend | .resume | .send _ | .pushWake
  | .pushResume _ | .pushSelect | .pushRound _ | .pushAnnounce | .pushLoop | .hwProgress _
  | .txDone | .ringCheck => inferInstanceAs (Decidable True)

def BurstBound : TxPush → Prop
  | .burst _ i _ cnt => i ≤ DPMAIF_SKB_TX_BURST_CNT ∧ cnt ≤ (MAX_SKB_FRAGS + 2) * i
  | .sleepWait cnt => cnt ≤ (MAX_SKB_FRAGS + 2) * DPMAIF_SKB_TX_BURST_CNT
  | .announce cnt => cnt ≤ (MAX_SKB_FRAGS + 2) * DPMAIF_SKB_TX_BURST_CNT
  | _ => True

/-- What is announced and what the push thread still holds make up what is written. -/
structure Accounted (s : TxPath) : Prop where
  bounded : BurstBound s.push
  balanced : s.state = .pwron →
    s.hwAnnounced + DPMAIF_UL_DRB_SIZE_WORD * s.push.held = DPMAIF_UL_DRB_SIZE_WORD * s.written

theorem held_outside (push : TxPush) (outside : push.outside) : push.held = 0 := by
  cases push <;> simp_all [TxPush.outside, TxPush.held]

theorem Accounted.allAnnounced {s : TxPath} (accounted : Accounted s) : AllAnnounced s := by
  intro outside powered
  have balance := accounted.balanced powered
  rw [held_outside s.push outside] at balance
  omega

theorem bound_afterBurst (wait : Bool) (i cnt : Nat) (rounds : i ≤ DPMAIF_SKB_TX_BURST_CNT)
    (few : cnt ≤ (MAX_SKB_FRAGS + 2) * i) : BurstBound (afterBurst wait cnt) := by
  have most : cnt ≤ (MAX_SKB_FRAGS + 2) * DPMAIF_SKB_TX_BURST_CNT := by
    have := Nat.mul_le_mul_left (MAX_SKB_FRAGS + 2) rounds
    omega
  unfold afterBurst
  split
  · cases wait
    · exact most
    · exact most
  · exact trivial

theorem Accounted.frame {s t : TxPath} (accounted : Accounted s) (push : t.push = s.push)
    (state : t.state = s.state) (announced : t.hwAnnounced = s.hwAnnounced)
    (written : t.written = s.written) : Accounted t := by
  constructor
  · rw [push]
    exact accounted.bounded
  · rw [push, state, announced, written]
    exact accounted.balanced

theorem Accounted.move {s : TxPath} (accounted : Accounted s) {txq : Txq} {log : TxLog}
    {push : TxPush} (bounded : BurstBound push) (held : push.held = s.push.held) :
    Accounted { s with txq, log, push } := by
  constructor
  · exact bounded
  · intro powered
    have balance := accounted.balanced powered
    rw [held]
    exact balance

theorem burstRound_accounted {s : TxPath} {wait : Bool} {i remain cnt : Nat} (fails : Option Nat)
    (accounted : Accounted s) (place : s.push = .burst wait i remain cnt)
    (more : i < DPMAIF_SKB_TX_BURST_CNT) : Accounted (burstRound fails wait i remain cnt s) := by
  have bound := accounted.bounded
  rw [place] at bound
  obtain ⟨rounds, few⟩ := bound
  have held : s.push.held = cnt := by rw [place]; rfl
  rcases burstRound_cases fails wait i remain cnt s with
    ends | rereads | ⟨skb, txq, log, ret, added, failed, ends⟩ |
    ⟨skb, rest, txq, log, ret, queue, room, added, succeeded, goes⟩
  · rw [ends]
    apply accounted.move (bound_afterBurst wait i cnt rounds few)
    rw [held_afterBurst, held]
  · rw [rereads]
    apply accounted.move
    · refine ⟨more, ?_⟩
      rw [Nat.mul_add]
      omega
    · exact held.symm
  · rw [ends]
    apply accounted.move (bound_afterBurst wait i cnt rounds few)
    rw [held_afterBurst, held]
  · rw [goes]
    have size := skbDrbCnt_le skb
    constructor
    · refine ⟨more, ?_⟩
      rw [Nat.mul_add, Nat.mul_one]
      omega
    · intro powered
      have balance := accounted.balanced powered
      rw [held] at balance
      simp only [TxPush.held, DPMAIF_UL_DRB_SIZE_WORD] at balance ⊢
      omega

theorem announce_accounted {s : TxPath} {cnt : Nat} (accounted : Accounted s)
    (place : s.push = .announce cnt) :
    Accounted { ulUpdateHwDrbCnt (cnt * DPMAIF_UL_DRB_SIZE_WORD) s with push := .loopTest false } := by
  have bound : cnt ≤ (MAX_SKB_FRAGS + 2) * DPMAIF_SKB_TX_BURST_CNT := by
    have := accounted.bounded
    rwa [place] at this
  constructor
  · exact trivial
  · intro powered
    have balance := accounted.balanced powered
    simp only [place, TxPush.held, ulUpdateHwDrbCnt, DPMAIF_UL_DRB_SIZE_WORD, MAX_SKB_FRAGS,
      DPMAIF_SKB_TX_BURST_CNT] at balance bound ⊢
    -- a burst is far too small to reach beyond the count field
    rw [Nat.mod_eq_of_lt (by omega)]
    omega

theorem Entered.bound {s : TxPath} {push : TxPush} (entered : Entered s push) :
    BurstBound push := by
  cases entered with
  | burst => exact ⟨Nat.zero_le _, Nat.zero_le _⟩
  | idle | resuming | exited | select => exact trivial

theorem pushStep_accounted {s t : TxPath} {label : TxLabel} (accounted : Accounted s)
    (allowed : KeepsBurst s label) (taken : pushStep label s = some t) : Accounted t := by
  have bound := accounted.bounded
  cases pushStep_moves taken with
  | enter nothing entered => exact accounted.move entered.bound (entered.held.trans nothing.symm)
  | round place more => exact burstRound_accounted _ accounted place more
  | full place =>
    rw [place] at bound
    apply accounted.move (bound_afterBurst _ _ _ bound.1 bound.2)
    rw [held_afterBurst, place]
    rfl
  | drop place =>
    -- the burst is dropped, which only a queue without power may do
    exact ⟨trivial, fun powered => absurd powered allowed⟩
  | awake place =>
    rw [place] at bound
    apply accounted.move
    · exact bound
    · rw [place]
      rfl
  | announce place => exact announce_accounted accounted place

theorem start_accounted {s t : TxPath} {hwReady : Bool} (accounted : Accounted s)
    (allowed : KeepsBurst s (.start hwReady)) (taken : txStart hwReady s = some t) : Accounted t := by
  unfold txStart at taken
  split at taken
  · cases taken
  · cases hwReady
    · cases taken
      exact accounted.frame rfl rfl rfl rfl
    · cases taken
      refine ⟨accounted.bounded, fun _ => ?_⟩
      have idle : s.push.held = 0 := allowed
      simp [idle]

theorem txStep_accounted (s : TxPath) (label : TxLabel) (t : TxPath) (accounted : Accounted s)
    (allowed : KeepsBurst s label) (taken : txStep s label = some t) : Accounted t := by
  cases label with
  | start hwReady => exact start_accounted accounted allowed taken
  | stop =>
    simp only [txStep, txStop] at taken
    split at taken
    · cases taken
    · cases taken
      exact ⟨accounted.bounded, nofun⟩
  | suspend | resume =>
    cases taken
    exact accounted.frame rfl rfl rfl rfl
  | send skb =>
    simp only [txStep, Option.map_eq_some_iff] at taken
    obtain ⟨txq, _, rfl⟩ := taken
    exact accounted.frame rfl rfl rfl rfl
  | hwProgress drbs =>
    simp only [txStep] at taken
    split at taken
    · cases taken
      exact accounted.frame rfl rfl rfl rfl
    · cases taken
  | txDone =>
    simp only [txStep, txDoneStep] at taken
    split at taken
    · cases taken
      exact accounted.frame rfl rfl rfl rfl
    · cases taken
  | ringCheck =>
    simp only [txStep] at taken
    split at taken
    · cases taken
      exact accounted.frame rfl rfl rfl rfl
    · cases taken
  | pushWake | pushResume | pushSelect | pushRound | sleepDisabled | pushAnnounce | pushLoop =>
    exact pushStep_accounted accounted allowed taken

theorem txInit_accounted : Accounted txInit := ⟨trivial, nofun⟩

/-- Every DRB written is announced, as long as no burst is dropped or carried over a restart. -/
theorem push_announces_all (labels : List TxLabel) (kept : Obeys KeepsBurst txStep txInit labels) :
    Visits AllAnnounced txStep txInit labels :=
  Visits.of_invariant Accounted (fun _ accounted => accounted.allAnnounced) txStep_accounted
    txInit_accounted kept

theorem push_announces_all_one_skb :
    Visits AllAnnounced txStep txInit
      ([.start true, .send fragmentedSkb] ++ burstLabels ++ announceLabels) :=
  push_announces_all _ (by decide)

/-- The sleep lock stays taken: the four DRBs in the ring are never announced. -/
theorem sleep_timeout_drops_burst :
    ¬ ∀ labels, Visits AllAnnounced txStep txInit labels := by
  intro always
  exact absurd
    (always ([.start true, .send fragmentedSkb] ++ burstLabels ++ [.sleepDisabled false]))
    (by decide)

end T7xxModel.Dpmaif
