import T7xx.Dpmaif.TxQueue
import T7xx.Transition.Runs

namespace T7xxModel.Dpmaif

def DPMAIF_UL_DRB_SIZE_WORD : Nat := 4

/-- Where the push thread is. The first three places lie outside `t7xx_do_tx_hw_push`; `cnt` counts
    the DRBs written by the burst and not yet announced. -/
inductive TxPush where
  | idle
  | resuming
  | exited
  | select (waitDisableSleep : Bool)
  | burst (waitDisableSleep : Bool) (i remain cnt : Nat)
  | sleepWait (cnt : Nat)
  | announce (cnt : Nat)
  | loopTest (waitDisableSleep : Bool)
deriving DecidableEq, Repr

/-- The default TX queue with its push thread and its hardware. `hwAnnounced` counts words and
    `hwRead` DRBs since the hardware was initialised; `written` counts the DRBs that
    `t7xx_dpmaif_add_skb_to_ring` has written since then. -/
structure TxPath where
  txq : Txq
  state : DpmaifState
  log : TxLog
  hwAnnounced : Nat
  hwRead : Nat
  written : Nat
  sent : Nat
  push : TxPush

inductive TxLabel where
  | start (hwReady : Bool)
  | stop
  | suspend
  | resume
  | send (skb : Skb)
  | pushWake
  | pushResume (succeeds : Bool)
  | pushSelect
  | pushRound (fails : Option Nat)
  | sleepDisabled (acquired : Bool)
  | pushAnnounce
  | pushLoop
  | hwProgress (drbs : Nat)
  | txDone
  | ringCheck
deriving DecidableEq, Repr

def afterBurst (waitDisableSleep : Bool) (cnt : Nat) : TxPush :=
  if 0 < cnt then if waitDisableSleep then .sleepWait cnt else .announce cnt
  else .loopTest waitDisableSleep

/-- A round of the loop of `t7xx_txq_burst_send_skb`. A stop, a start or a release falls before it or
    after it, never inside `t7xx_dpmaif_add_skb_to_ring`. -/
def burstRound (fails : Option Nat) (wait : Bool) (i remain cnt : Nat) (s : TxPath) : TxPath :=
  match s.txq.txSkbHead with
  | [] => { s with push := afterBurst wait cnt }
  | skb :: rest =>
    if remain < skbDrbCnt skb then { s with push := .burst wait (i + 1) (txqDrbWrAvailable s.txq) cnt }
    else
      let (txq, log, ret) := addSkbToRing s.state skb fails s.txq s.log
      if ret < 0 then { s with txq, log, push := afterBurst wait cnt }
      else
        { s with
          txq := { txq with txSkbHead := rest }
          log
          written := s.written + skbDrbCnt skb
          push := .burst wait (i + 1) (remain - skbDrbCnt skb) (cnt + skbDrbCnt skb) }

/-- `t7xx_dpmaif_ul_update_hw_drb_cnt`, its register polls succeeding. -/
def ulUpdateHwDrbCnt (drbEntryCnt : Nat) (s : TxPath) : TxPath :=
  { s with hwAnnounced := s.hwAnnounced + drbEntryCnt % 2 ^ 16 }

/-- `t7xx_do_tx_hw_push` and the thread around it, one step at a time. -/
def pushStep (label : TxLabel) (s : TxPath) : Option TxPath :=
  match s.push, label with
  | .idle, .pushWake =>
    if s.txq.txSkbHead ≠ [] ∧ s.state = .pwron then some { s with push := .resuming } else none
  | .resuming, .pushResume succeeds =>
    some { s with push := if succeeds then .select true else .exited }
  | .select wait, .pushSelect =>
    if s.txq.queStarted then some { s with push := .burst wait 0 (txqDrbWrAvailable s.txq) 0 }
    else some { s with push := .idle }
  | .burst wait i remain cnt, .pushRound fails =>
    if i < DPMAIF_SKB_TX_BURST_CNT then some (burstRound fails wait i remain cnt s)
    else some { s with push := afterBurst wait cnt }
  | .sleepWait cnt, .sleepDisabled acquired =>
    some { s with push := if acquired then .announce cnt else .idle }
  | .announce cnt, .pushAnnounce =>
    some { ulUpdateHwDrbCnt (cnt * DPMAIF_UL_DRB_SIZE_WORD) s with push := .loopTest false }
  | .loopTest wait, .pushLoop =>
    some { s with
      push := if s.txq.txSkbHead ≠ [] ∧ s.state = .pwron then .select wait else .idle }
  | _, _ => none

def txStart (hwReady : Bool) (s : TxPath) : Option TxPath :=
  if s.state = .pwron then none
  else
    let txq := { s.txq with queStarted := true }
    if hwReady then some { s with txq, state := .pwron, hwAnnounced := 0, hwRead := 0, written := 0 }
    else some { s with txq }

def txStop (s : TxPath) : Option TxPath :=
  if s.state = .pwroff then none
  else
    let (txq, log) := txqFlushRel s.txq s.log
    some { s with txq, log, state := .pwroff }

def ulGetRdIdx (s : TxPath) : Nat := s.hwRead % s.txq.drbSizeCnt

/-- `t7xx_dpmaif_tx_done` up to the release. Its work is queued only while powered on. -/
def txDoneStep (s : TxPath) : Option TxPath :=
  if s.state = .pwron then
    let (txq, log) := txRelease s.txq.drbSizeCnt (ulGetRdIdx s) s.txq s.log
    some { s with txq, log }
  else none

def txStep (s : TxPath) : TxLabel → Option TxPath
  | .start hwReady => txStart hwReady s
  | .stop => txStop s
  | .suspend => some { s with txq := { s.txq with queStarted := false } }
  | .resume => some { s with txq := { s.txq with queStarted := true } }
  | .send skb =>
    (txSendSkb { skb with id := s.sent } s.txq).map fun txq => { s with txq, sent := s.sent + 1 }
  | .hwProgress drbs =>
    if s.state = .pwron ∧ DPMAIF_UL_DRB_SIZE_WORD * (s.hwRead + drbs) ≤ s.hwAnnounced then
      some { s with hwRead := s.hwRead + drbs }
    else none
  | .txDone => txDoneStep s
  | .ringCheck =>
    if s.state = .pwron then some { s with txq := (updateDrbRdIdx (ulGetRdIdx s) s.txq).1 } else none
  | label => pushStep label s

def txInit : TxPath where
  txq := txqInit
  state := .min
  log := ⟨[], [], [], []⟩
  hwAnnounced := 0
  hwRead := 0
  written := 0
  sent := 0
  push := .idle

def TxPush.held : TxPush → Nat
  | .burst _ _ _ cnt => cnt
  | .sleepWait cnt => cnt
  | .announce cnt => cnt
  | _ => 0

def TxPush.outside : TxPush → Bool
  | .idle => true
  | .resuming => true
  | .exited => true
  | _ => false

@[simp] theorem held_afterBurst (wait : Bool) (cnt : Nat) : (afterBurst wait cnt).held = cnt := by
  unfold afterBurst
  split
  · cases wait <;> rfl
  · have : cnt = 0 := by omega
    rw [this]
    rfl

/-- A round ends the burst, reads the room again, fails to add the first skb or moves it to the
    ring. -/
theorem burstRound_cases (fails : Option Nat) (wait : Bool) (i remain cnt : Nat) (s : TxPath) :
    burstRound fails wait i remain cnt s = { s with push := afterBurst wait cnt } ∨
    burstRound fails wait i remain cnt s =
      { s with push := .burst wait (i + 1) (txqDrbWrAvailable s.txq) cnt } ∨
    (∃ skb txq log ret, addSkbToRing s.state skb fails s.txq s.log = (txq, log, ret) ∧ ret < 0 ∧
      burstRound fails wait i remain cnt s = { s with txq, log, push := afterBurst wait cnt }) ∨
    (∃ skb rest txq log ret, s.txq.txSkbHead = skb :: rest ∧ skbDrbCnt skb ≤ remain ∧
      addSkbToRing s.state skb fails s.txq s.log = (txq, log, ret) ∧ 0 ≤ ret ∧
      burstRound fails wait i remain cnt s =
        { s with
          txq := { txq with txSkbHead := rest }
          log
          written := s.written + skbDrbCnt skb
          push := .burst wait (i + 1) (remain - skbDrbCnt skb) (cnt + skbDrbCnt skb) }) := by
  unfold burstRound
  cases queue : s.txq.txSkbHead with
  | nil => exact Or.inl rfl
  | cons skb rest =>
    dsimp only
    by_cases short : remain < skbDrbCnt skb
    · right; left
      rw [if_pos short]
    · rw [if_neg short]
      rcases added : addSkbToRing s.state skb fails s.txq s.log with ⟨txq, log, ret⟩
      dsimp only
      right; right
      by_cases failed : ret < 0
      · left
        rw [if_pos failed]
        exact ⟨skb, txq, log, ret, added, failed, rfl⟩
      · right
        rw [if_neg failed]
        exact ⟨skb, rest, txq, log, ret, rfl, by omega, added, by omega, rfl⟩

theorem skbDrbCnt_le (skb : Skb) : skbDrbCnt skb ≤ MAX_SKB_FRAGS + 2 := by
  have bound := skb.fragsBound
  unfold skbDrbCnt
  omega

theorem burstRound_state (fails : Option Nat) (wait : Bool) (i remain cnt : Nat) (s : TxPath) :
    (burstRound fails wait i remain cnt s).state = s.state := by
  rcases burstRound_cases fails wait i remain cnt s with
    ends | rereads | ⟨_, _, _, _, _, _, ends⟩ | ⟨_, _, _, _, _, _, _, _, _, goes⟩
  · rw [ends]
  · rw [rereads]
  · rw [ends]
  · rw [goes]

/-- The places the push thread comes to with nothing written and not announced. -/
inductive Entered (s : TxPath) : TxPush → Prop where
  | idle : Entered s .idle
  | resuming : Entered s .resuming
  | exited : Entered s .exited
  | select (wait : Bool) : Entered s (.select wait)
  | burst (wait : Bool) : Entered s (.burst wait 0 (txqDrbWrAvailable s.txq) 0)

theorem Entered.held {s : TxPath} {push : TxPush} (entered : Entered s push) : push.held = 0 := by
  cases entered <;> rfl

/-- All that a step of the push thread can do. -/
inductive PushMove (s : TxPath) : TxLabel → TxPath → Prop where
  | enter {label push} (nothing : s.push.held = 0) (entered : Entered s push) :
    PushMove s label { s with push }
  | round {fails wait i remain cnt} (place : s.push = .burst wait i remain cnt)
    (more : i < DPMAIF_SKB_TX_BURST_CNT) :
    PushMove s (.pushRound fails) (burstRound fails wait i remain cnt s)
  | full {fails wait i remain cnt} (place : s.push = .burst wait i remain cnt) :
    PushMove s (.pushRound fails) { s with push := afterBurst wait cnt }
  | drop {cnt} (place : s.push = .sleepWait cnt) :
    PushMove s (.sleepDisabled false) { s with push := .idle }
  | awake {cnt} (place : s.push = .sleepWait cnt) :
    PushMove s (.sleepDisabled true) { s with push := .announce cnt }
  | announce {cnt} (place : s.push = .announce cnt) :
    PushMove s .pushAnnounce
      { ulUpdateHwDrbCnt (cnt * DPMAIF_UL_DRB_SIZE_WORD) s with push := .loopTest false }

theorem pushStep_moves {s t : TxPath} {label : TxLabel} (taken : pushStep label s = some t) :
    PushMove s label t := by
  unfold pushStep at taken
  split at taken
  case h_1 place =>
    split at taken
    · cases taken
      exact .enter (by rw [place]; rfl) .resuming
    · cases taken
  case h_2 succeeds place =>
    cases taken
    cases succeeds
    · exact .enter (by rw [place]; rfl) .exited
    · exact .enter (by rw [place]; rfl) (.select true)
  case h_3 wait place =>
    split at taken
    · cases taken
      exact .enter (by rw [place]; rfl) (.burst wait)
    · cases taken
      exact .enter (by rw [place]; rfl) .idle
  case h_4 place =>
    split at taken
    · cases taken
      exact .round place ‹_›
    · cases taken
      exact .full place
  case h_5 acquired place =>
    cases taken
    cases acquired
    · exact .drop place
    · exact .awake place
  case h_6 place =>
    cases taken
    exact .announce place
  case h_7 wait place =>
    cases taken
    split
    · exact .enter (by rw [place]; rfl) (.select wait)
    · exact .enter (by rw [place]; rfl) .idle
  case h_8 => cases taken

theorem pushStep_state {s t : TxPath} {label : TxLabel} (taken : pushStep label s = some t) :
    t.state = s.state := by
  cases pushStep_moves taken with
  | round => exact burstRound_state _ _ _ _ _ _
  | enter | full | drop | awake | announce => rfl

def fragmentedSkb : Skb := ⟨0, 300, 100, [120, 80], 0, by decide⟩

def burstLabels : List TxLabel :=
  [.pushWake, .pushResume true, .pushSelect, .pushRound none, .pushRound none]

def announceLabels : List TxLabel := [.sleepDisabled true, .pushAnnounce, .pushLoop]

end T7xxModel.Dpmaif
