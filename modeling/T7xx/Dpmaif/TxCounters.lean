import T7xx.Dpmaif.TxRun

namespace T7xxModel.Dpmaif

open Transition

def TxPush.remain : TxPush → Nat
  | .burst _ _ remain _ => remain
  | _ => 0

/-- The indices of a running queue, as counts of DRBs since the start taken modulo the ring. -/
structure RingCounts (credit : Int) (released seen : Nat) (s : TxPath) : Prop where
  release : s.txq.drbReleaseRdIdx = released % DPMAIF_DRB_LIST_LEN
  read : s.txq.drbRdIdx = seen % DPMAIF_DRB_LIST_LEN
  write : s.txq.drbWrIdx = s.written % DPMAIF_DRB_LIST_LEN
  releasedSeen : released ≤ seen
  seenRead : seen ≤ s.hwRead
  readAnnounced : DPMAIF_UL_DRB_SIZE_WORD * s.hwRead ≤ s.hwAnnounced
  announcedWritten : s.hwAnnounced + DPMAIF_UL_DRB_SIZE_WORD * s.push.held ≤
    DPMAIF_UL_DRB_SIZE_WORD * s.written
  room : s.written + s.push.remain < released + DPMAIF_DRB_LIST_LEN
  balance : s.txq.txBudget + s.written = credit + released

structure RingCleared (credit : Int) (s : TxPath) : Prop where
  release : s.txq.drbReleaseRdIdx = 0
  read : s.txq.drbRdIdx = 0
  write : s.txq.drbWrIdx = 0
  room : s.push.remain < DPMAIF_DRB_LIST_LEN
  balance : s.txq.txBudget = credit

/-- `credit` is the budget that the queue has with an empty ring. -/
structure Aligned (credit : Int) (s : TxPath) : Prop where
  size : s.txq.drbSizeCnt = DPMAIF_DRB_LIST_LEN
  running : s.state = .pwron → ∃ released seen, RingCounts credit released seen s
  cleared : s.state ≠ .pwron → RingCleared credit s

/-- The DRBs that `t7xx_dpmaif_tx_release` finds to be read by the hardware and not released. -/
def relCnt (s : TxPath) : Nat :=
  ringBufRdWrCount s.txq.drbSizeCnt s.txq.drbReleaseRdIdx
    (updateDrbRdIdx (ulGetRdIdx s) s.txq).1.drbRdIdx .read

def KeepsCounts (s : TxPath) : TxLabel → Prop
  | .txDone => relCnt s ≠ 0
  | .start true => s.push.held = 0
  | _ => True

theorem ringLen_pos : 0 < DPMAIF_DRB_LIST_LEN := by decide

theorem RingCounts.distance {credit : Int} {released seen : Nat} {s : TxPath}
    (counts : RingCounts credit released seen s) :
    Ring.distance DPMAIF_DRB_LIST_LEN s.txq.drbReleaseRdIdx s.txq.drbWrIdx = s.written - released := by
  have ordered := counts.releasedSeen
  have seenRead := counts.seenRead
  have announced := counts.readAnnounced
  have written := counts.announcedWritten
  have room := counts.room
  unfold DPMAIF_UL_DRB_SIZE_WORD at announced written
  rw [counts.release, counts.write, Ring.distance_mod (by omega) (by omega)]

theorem RingCounts.released_le {credit : Int} {released seen : Nat} {s : TxPath}
    (counts : RingCounts credit released seen s) : released ≤ s.written := by
  have ordered := counts.releasedSeen
  have seenRead := counts.seenRead
  have announced := counts.readAnnounced
  have written := counts.announcedWritten
  unfold DPMAIF_UL_DRB_SIZE_WORD at announced written
  omega

theorem RingCounts.available {credit : Int} {released seen : Nat} {s : TxPath}
    (counts : RingCounts credit released seen s) (size : s.txq.drbSizeCnt = DPMAIF_DRB_LIST_LEN) :
    s.written + txqDrbWrAvailable s.txq < released + DPMAIF_DRB_LIST_LEN := by
  have first : s.txq.drbReleaseRdIdx < DPMAIF_DRB_LIST_LEN := by
    rw [counts.release]
    exact Nat.mod_lt _ ringLen_pos
  have second : s.txq.drbWrIdx < DPMAIF_DRB_LIST_LEN := by
    rw [counts.write]
    exact Nat.mod_lt _ ringLen_pos
  have room := counts.room
  have ordered := counts.released_le
  unfold txqDrbWrAvailable
  rw [size, ringBufRdWrCount_write _ _ _ first second, counts.distance]
  omega

theorem RingCleared.available {credit : Int} {s : TxPath} (cleared : RingCleared credit s)
    (size : s.txq.drbSizeCnt = DPMAIF_DRB_LIST_LEN) :
    txqDrbWrAvailable s.txq < DPMAIF_DRB_LIST_LEN := by
  unfold txqDrbWrAvailable
  rw [size, cleared.release, cleared.write]
  decide

theorem Aligned.frame {credit : Int} {s t : TxPath} (aligned : Aligned credit s)
    (same : SameControl { s.txq with
      queStarted := t.txq.queStarted, txSkbHead := t.txq.txSkbHead } t.txq)
    (state : t.state = s.state) (announced : t.hwAnnounced = s.hwAnnounced)
    (read : t.hwRead = s.hwRead) (written : t.written = s.written)
    (held : t.push.held ≤ s.push.held) (remain : t.push.remain ≤ s.push.remain) :
    Aligned credit t := by
  refine ⟨same.size.trans aligned.size, fun powered => ?_, fun off => ?_⟩
  · rw [state] at powered
    obtain ⟨released, seen, counts⟩ := aligned.running powered
    refine ⟨released, seen, same.release.trans counts.release, same.read.trans counts.read, ?_,
      counts.releasedSeen, ?_, ?_, ?_, ?_, ?_⟩
    · rw [written]
      exact same.write.trans counts.write
    · rw [read]
      exact counts.seenRead
    · rw [announced, read]
      exact counts.readAnnounced
    · have bound := counts.announcedWritten
      unfold DPMAIF_UL_DRB_SIZE_WORD at bound ⊢
      omega
    · have bound := counts.room
      omega
    · rw [same.budget, written]
      exact counts.balance
  · rw [state] at off
    have cleared := aligned.cleared off
    refine ⟨same.release.trans cleared.release, same.read.trans cleared.read,
      same.write.trans cleared.write, ?_, same.budget.trans cleared.balance⟩
    have bound := cleared.room
    omega

theorem Aligned.reread {credit : Int} {s : TxPath} (aligned : Aligned credit s) {push : TxPush}
    (held : push.held ≤ s.push.held) (remain : push.remain ≤ txqDrbWrAvailable s.txq) :
    Aligned credit { s with push } := by
  refine ⟨aligned.size, fun powered => ?_, fun off => ?_⟩
  · obtain ⟨released, seen, counts⟩ := aligned.running powered
    have available := counts.available aligned.size
    have bound := counts.announcedWritten
    unfold DPMAIF_UL_DRB_SIZE_WORD at bound
    refine ⟨released, seen, counts.release, counts.read, counts.write, counts.releasedSeen,
      counts.seenRead, counts.readAnnounced, ?_, ?_, counts.balance⟩
    · simp only [DPMAIF_UL_DRB_SIZE_WORD]
      omega
    · simp only
      omega
  · have cleared := aligned.cleared off
    have available := cleared.available aligned.size
    refine ⟨cleared.release, cleared.read, cleared.write, ?_, cleared.balance⟩
    simp only
    omega

theorem Aligned.add {credit : Int} {s : TxPath} (aligned : Aligned credit s) {skb : Skb}
    {fails : Option Nat} {txq : Txq} {log : TxLog} {ret : Int} {wait : Bool} {i remain cnt : Nat}
    (place : s.push = .burst wait i remain cnt)
    (added : addSkbToRing s.state skb fails s.txq s.log = (txq, log, ret)) (succeeded : 0 ≤ ret)
    (fits : skbDrbCnt skb ≤ remain) (rest : List Skb) :
    Aligned credit { s with
      txq := { txq with txSkbHead := rest }
      log
      written := s.written + skbDrbCnt skb
      push := .burst wait (i + 1) (remain - skbDrbCnt skb) (cnt + skbDrbCnt skb) } := by
  rcases addSkbToRing_cases added with ⟨failed, _⟩ | ⟨_, powered, control⟩
  · omega
  · obtain ⟨released, seen, counts⟩ := aligned.running powered
    have size := aligned.size
    have room := counts.room
    have bound := counts.announcedWritten
    have balance := counts.balance
    have small := skbDrbCnt_le skb
    unfold DPMAIF_UL_DRB_SIZE_WORD at bound
    unfold MAX_SKB_FRAGS at small
    rw [place] at room bound
    simp only [TxPush.held, TxPush.remain] at room bound
    refine ⟨control.size.trans size, fun _ => ⟨released, seen, ?_⟩, fun off => absurd powered off⟩
    constructor
    · exact control.release.trans counts.release
    · exact control.read.trans counts.read
    · rw [show ({ txq with txSkbHead := rest } : Txq).drbWrIdx = txq.drbWrIdx from rfl, control.write]
      rw [← size] at room ⊢
      apply reserveDrbs_write
      · rw [size]
        exact counts.write
      · rw [size]
        unfold DPMAIF_DRB_LIST_LEN
        omega
      · rw [size]
        exact ringLen_pos
    · exact counts.releasedSeen
    · exact counts.seenRead
    · exact counts.readAnnounced
    · simp only [DPMAIF_UL_DRB_SIZE_WORD, TxPush.held]
      omega
    · simp only [TxPush.remain]
      omega
    · have budget : txq.txBudget = s.txq.txBudget - skbDrbCnt skb := control.budget
      simp only [budget]
      omega

theorem remain_afterBurst (wait : Bool) (cnt : Nat) : (afterBurst wait cnt).remain = 0 := by
  unfold afterBurst
  split
  · cases wait <;> rfl
  · rfl

theorem burstRound_aligned {credit : Int} {s : TxPath} {wait : Bool} {i remain cnt : Nat}
    (fails : Option Nat) (aligned : Aligned credit s) (place : s.push = .burst wait i remain cnt) :
    Aligned credit (burstRound fails wait i remain cnt s) := by
  have held : s.push.held = cnt := by rw [place]; rfl
  rcases burstRound_cases fails wait i remain cnt s with
    ends | rereads | ⟨skb, txq, log, ret, added, failed, ends⟩ |
    ⟨skb, rest, txq, log, ret, queue, room, added, succeeded, goes⟩
  · rw [ends]
    apply aligned.reread
    · rw [held_afterBurst, held]
    · rw [remain_afterBurst]
      exact Nat.zero_le _
  · rw [rereads]
    apply aligned.reread
    · exact held.ge
    · exact le_rfl
  · rw [ends]
    rcases addSkbToRing_cases added with ⟨_, control⟩ | ⟨zero, _, _⟩
    · refine aligned.frame ?_ rfl rfl rfl rfl ?_ ?_
      · exact ⟨rfl, control.budget, control.size, control.write, control.read, control.release, rfl⟩
      · simp [held]
      · simp [remain_afterBurst]
    · omega
  · rw [goes]
    exact aligned.add place added succeeded room rest

theorem announce_aligned {credit : Int} {s : TxPath} {cnt : Nat} (aligned : Aligned credit s)
    (place : s.push = .announce cnt) :
    Aligned credit
      { ulUpdateHwDrbCnt (cnt * DPMAIF_UL_DRB_SIZE_WORD) s with push := .loopTest false } := by
  refine ⟨aligned.size, fun powered => ?_, fun off => ?_⟩
  · obtain ⟨released, seen, counts⟩ := aligned.running powered
    have bound := counts.announcedWritten
    have known := counts.readAnnounced
    have room := counts.room
    rw [place] at bound room
    -- a count that does not fit the register field announces too little, never too much
    have field : cnt * 4 % 2 ^ 16 ≤ cnt * 4 := Nat.mod_le _ _
    refine ⟨released, seen, counts.release, counts.read, counts.write, counts.releasedSeen,
      counts.seenRead, ?_, ?_, ?_, counts.balance⟩
    · simp only [ulUpdateHwDrbCnt, DPMAIF_UL_DRB_SIZE_WORD] at known ⊢
      omega
    · simp only [ulUpdateHwDrbCnt, DPMAIF_UL_DRB_SIZE_WORD, TxPush.held] at bound ⊢
      omega
    · exact room
  · have cleared := aligned.cleared off
    have room := cleared.room
    rw [place] at room
    exact ⟨cleared.release, cleared.read, cleared.write, room, cleared.balance⟩

theorem Entered.remain {s : TxPath} {push : TxPush} (entered : Entered s push) :
    push.remain ≤ txqDrbWrAvailable s.txq := by
  cases entered with
  | burst => exact le_rfl
  | idle | resuming | exited | select => exact Nat.zero_le _

theorem pushStep_aligned {credit : Int} {s t : TxPath} {label : TxLabel} (aligned : Aligned credit s)
    (taken : pushStep label s = some t) : Aligned credit t := by
  cases pushStep_moves taken with
  | enter nothing entered => exact aligned.reread (entered.held.trans_le (Nat.zero_le _)) entered.remain
  | round place => exact burstRound_aligned _ aligned place
  | full place =>
    apply aligned.reread
    · rw [held_afterBurst, place]
      exact le_rfl
    · rw [remain_afterBurst]
      exact Nat.zero_le _
  | drop => exact aligned.reread (Nat.zero_le _) (Nat.zero_le _)
  | awake place =>
    apply aligned.reread _ (Nat.zero_le _)
    rw [place]
    exact le_rfl
  | announce place => exact announce_aligned aligned place

theorem start_aligned {credit : Int} {s t : TxPath} {hwReady : Bool} (aligned : Aligned credit s)
    (allowed : KeepsCounts s (.start hwReady)) (taken : txStart hwReady s = some t) :
    Aligned credit t := by
  unfold txStart at taken
  split at taken
  · cases taken
  · rename_i off
    cases hwReady
    · cases taken
      exact aligned.frame ⟨rfl, rfl, rfl, rfl, rfl, rfl, rfl⟩ rfl rfl rfl rfl le_rfl le_rfl
    · cases taken
      have cleared := aligned.cleared off
      have idle : s.push.held = 0 := allowed
      have room := cleared.room
      refine ⟨aligned.size, fun _ => ⟨0, 0, ?_⟩, fun still => absurd rfl still⟩
      constructor
      · exact cleared.release
      · exact cleared.read
      · exact cleared.write
      · exact le_rfl
      · exact le_rfl
      · exact le_rfl
      · simp [idle]
      · simp only
        omega
      · simp [cleared.balance]

theorem stop_aligned {credit : Int} {s t : TxPath} (aligned : Aligned credit s)
    (taken : txStop s = some t) : Aligned s.txq.txBudget t := by
  have room : s.push.remain < DPMAIF_DRB_LIST_LEN := by
    by_cases powered : s.state = .pwron
    · obtain ⟨released, seen, counts⟩ := aligned.running powered
      have bound := counts.room
      have ordered := counts.released_le
      omega
    · exact (aligned.cleared powered).room
  unfold txStop at taken
  split at taken
  · cases taken
  · cases taken
    exact ⟨aligned.size, nofun, fun _ => ⟨rfl, rfl, rfl, room, rfl⟩⟩

theorem RingCounts.updated {credit : Int} {released seen : Nat} {s : TxPath}
    (counts : RingCounts credit released seen s) (size : s.txq.drbSizeCnt = DPMAIF_DRB_LIST_LEN) :
    ∃ now, RingCounts credit released now
        { s with txq := (updateDrbRdIdx (ulGetRdIdx s) s.txq).1 } ∧
      SameControl { s.txq with drbRdIdx := now % DPMAIF_DRB_LIST_LEN }
        (updateDrbRdIdx (ulGetRdIdx s) s.txq).1 := by
  have ordered := counts.releasedSeen
  have known := counts.seenRead
  unfold updateDrbRdIdx ulGetRdIdx
  rw [size]
  split
  · exact ⟨seen, counts, ⟨rfl, rfl, rfl, rfl, counts.read, rfl, rfl⟩⟩
  · rw [if_neg (by have := Nat.mod_lt s.hwRead ringLen_pos; omega)]
    exact ⟨s.hwRead, ⟨counts.release, rfl, counts.write, by omega, le_rfl, counts.readAnnounced,
      counts.announcedWritten, counts.room, counts.balance⟩, ⟨rfl, rfl, size.symm, rfl, rfl, rfl, rfl⟩⟩

theorem ringCheck_aligned {credit : Int} {s : TxPath} (aligned : Aligned credit s)
    (powered : s.state = .pwron) :
    Aligned credit { s with txq := (updateDrbRdIdx (ulGetRdIdx s) s.txq).1 } := by
  obtain ⟨released, seen, counts⟩ := aligned.running powered
  obtain ⟨now, kept, control⟩ := counts.updated aligned.size
  exact ⟨control.size.trans aligned.size, fun _ => ⟨released, now, kept⟩,
    fun off => absurd powered off⟩

theorem minNotZero_of_pos {x y : Nat} (pos : y ≠ 0) : minNotZero x y ≤ y := by
  unfold minNotZero
  split
  · exact le_rfl
  · exact min_le_right x y

theorem Aligned.released {credit : Int} {s : TxPath} (aligned : Aligned credit s)
    (allowed : relCnt s ≠ 0) (powered : s.state = .pwron) :
    ∃ released now k, k ≤ now - released ∧
      RingCounts credit released now { s with txq := (updateDrbRdIdx (ulGetRdIdx s) s.txq).1 } ∧
      (updateDrbRdIdx (ulGetRdIdx s) s.txq).1.drbSizeCnt = DPMAIF_DRB_LIST_LEN ∧
      txRelease s.txq.drbSizeCnt (ulGetRdIdx s) s.txq s.log =
        releaseTxBuffer k (updateDrbRdIdx (ulGetRdIdx s) s.txq).1 s.log := by
  obtain ⟨released, seen, counts⟩ := aligned.running powered
  obtain ⟨now, kept, control⟩ := counts.updated aligned.size
  have behind := kept.releasedSeen
  have ahead := kept.seenRead
  have announced := kept.readAnnounced
  have written := kept.announcedWritten
  have room := kept.room
  simp only [DPMAIF_UL_DRB_SIZE_WORD] at announced written
  simp only at ahead room
  have found : relCnt s = now - released := by
    unfold relCnt
    rw [aligned.size, ringBufRdWrCount_read, counts.release, kept.read,
      Ring.distance_mod behind (by omega)]
  have same : ringBufRdWrCount (updateDrbRdIdx (ulGetRdIdx s) s.txq).1.drbSizeCnt
      (updateDrbRdIdx (ulGetRdIdx s) s.txq).1.drbReleaseRdIdx
      (updateDrbRdIdx (ulGetRdIdx s) s.txq).1.drbRdIdx .read = relCnt s := by
    unfold relCnt
    rw [control.size, control.release]
  refine ⟨released, now, minNotZero s.txq.drbSizeCnt (relCnt s), ?_, kept,
    control.size.trans aligned.size, ?_⟩
  · rw [← found]
    exact minNotZero_of_pos allowed
  · unfold txRelease
    dsimp only
    rw [same]

theorem txDone_aligned {credit : Int} {s t : TxPath} (aligned : Aligned credit s)
    (allowed : relCnt s ≠ 0) (taken : txDoneStep s = some t) : Aligned credit t := by
  unfold txDoneStep at taken
  split at taken
  · rename_i powered
    obtain ⟨released, now, k, few, kept, size, release⟩ := aligned.released allowed powered
    obtain ⟨j, limit, moved⟩ := releaseTxBuffer_released k (updateDrbRdIdx (ulGetRdIdx s) s.txq).1
      s.log (by rw [size]; exact ringLen_pos)
    have behind := kept.releasedSeen
    have room := kept.room
    have balance := kept.balance
    simp only at room balance
    rw [release] at taken
    cases taken
    refine ⟨moved.size.trans size, fun _ => ⟨released + j, now, ?_⟩, fun off => absurd powered off⟩
    constructor
    · rw [← size]
      apply moved.release
      rw [size]
      exact kept.release
    · exact moved.read.trans kept.read
    · exact moved.write.trans kept.write
    · omega
    · exact kept.seenRead
    · exact kept.readAnnounced
    · exact kept.announcedWritten
    · simp only
      omega
    · simp only [moved.budget]
      omega
  · cases taken

/-- Every step but a stop keeps the queue aligned at the same credit. -/
theorem txStep_aligned {credit : Int} {s t : TxPath} {label : TxLabel} (aligned : Aligned credit s)
    (allowed : KeepsCounts s label) (running : label ≠ .stop) (taken : txStep s label = some t) :
    Aligned credit t := by
  cases label with
  | stop => exact absurd rfl running
  | start hwReady => exact start_aligned aligned allowed taken
  | suspend | resume =>
    cases taken
    exact aligned.frame ⟨rfl, rfl, rfl, rfl, rfl, rfl, rfl⟩ rfl rfl rfl rfl le_rfl le_rfl
  | send skb =>
    simp only [txStep, txSendSkb, Option.map_eq_some_iff] at taken
    obtain ⟨txq, sent, rfl⟩ := taken
    split at sent
    · cases sent
    · cases sent
      exact aligned.frame ⟨rfl, rfl, rfl, rfl, rfl, rfl, rfl⟩ rfl rfl rfl rfl le_rfl le_rfl
  | hwProgress drbs =>
    simp only [txStep] at taken
    split at taken
    · rename_i progress
      cases taken
      refine ⟨aligned.size, fun powered => ?_, fun off => absurd progress.1 off⟩
      obtain ⟨released, seen, counts⟩ := aligned.running powered
      have behind := counts.seenRead
      refine ⟨released, seen, counts.release, counts.read, counts.write, counts.releasedSeen, ?_,
        progress.2, counts.announcedWritten, counts.room, counts.balance⟩
      simp only
      omega
    · cases taken
  | txDone => exact txDone_aligned aligned allowed taken
  | ringCheck =>
    simp only [txStep] at taken
    split at taken
    · cases taken
      exact ringCheck_aligned aligned ‹_›
    · cases taken
  | pushWake | pushResume | pushSelect | pushRound | sleepDisabled | pushAnnounce | pushLoop =>
    exact pushStep_aligned aligned taken

theorem txInit_aligned : Aligned DPMAIF_DRB_LIST_LEN txInit :=
  ⟨rfl, nofun, fun _ => ⟨rfl, rfl, rfl, by decide, rfl⟩⟩

end T7xxModel.Dpmaif
