import T7xx.Dpmaif.RxIndex

namespace T7xxModel.Dpmaif

/-- A round of the loop meets an entry, and the tables and `que_started` as they are by then. -/
structure RxMeeting where
  entry : RxEntry
  normal : Bat
  frag : Bat
  queStarted : Bool

namespace RxMeeting

def side (m : RxMeeting) (rxq : RxQueue) : RxSide := ⟨rxq, m.normal, m.frag, m.queStarted⟩

def EndsPacket (m : RxMeeting) : Prop := ¬ m.entry.pit.IsMsg ∧ m.entry.pit.IsLast

instance (m : RxMeeting) : Decidable m.EndsPacket := inferInstanceAs (Decidable (_ ∧ _))

/-- The entry brings a payload, and it can be taken: a fragment needs a current skb and must pass
    `t7xx_frag_bat_cur_bid_check`. -/
def Accepts (m : RxMeeting) (curSkb : Bool) : Prop :=
  ¬ m.entry.pit.IsMsg ∧
    (m.entry.pit.IsFrag →
      curSkb = true ∧ fragBatCurBidCheck m.entry.pit.normalPitBid m.entry.fragWord = true ∧
      m.frag.batSkb m.entry.pit.normalPitBid ≠ none) ∧
    (¬ m.entry.pit.IsFrag → m.entry.pit.normalPitBid < DPMAIF_BAT_COUNT ∧
      m.normal.batSkb m.entry.pit.normalPitBid ≠ none ∧ dataFits m.normal m.entry = true)

instance (m : RxMeeting) (curSkb : Bool) : Decidable (m.Accepts curSkb) :=
  inferInstanceAs (Decidable (_ ∧ (_ → _) ∧ (_ → _)))

def Rejects (m : RxMeeting) (curSkb : Bool) : Prop := ¬ m.entry.pit.IsMsg ∧ ¬ m.Accepts curSkb

instance (m : RxMeeting) (curSkb : Bool) : Decidable (m.Rejects curSkb) :=
  inferInstanceAs (Decidable (_ ∧ _))

end RxMeeting

/-- What a call did: the entries it consumed, how many it had consumed when it last called
    `t7xx_dpmaifq_rx_notify_hw`, and whether a sequence check or a release of PIT entries failed. -/
structure RxBatch where
  consumed : Nat
  asked : Nat
  seqFailed : Bool
  releaseFailed : Bool
deriving DecidableEq, Repr

structure RxStartRun extends RxBatch where
  rxq : RxQueue
  ret : Int
  onceMore : Bool

/-- What a round adds. A round that has consumed its entry leaves the loop on a failed release only. -/
def RxBatch.round (m : RxMeeting) (l : RxLocals) (rxq : RxQueue) (b : RxBatch) : RxRound → RxBatch
  | .next _ =>
    { b with consumed := b.consumed + 1
             asked := if NotifyRound l.rxCnt then b.consumed + 1 else b.asked }
  | .returned _ => { b with seqFailed := true }
  | .left _ =>
    if Reaches m.entry l rxq then
      { b with consumed := b.consumed + 1, asked := b.consumed + 1, releaseFailed := true }
    else b

def rxStartLoop (meets : Nat → RxMeeting) :
    Nat → RxBatch → RxLocals → RxQueue → RxBatch × RxQueue × RxRound
  | 0, b, l, rxq => (b, rxq, .left l)
  | fuel + 1, b, l, rxq =>
    let m := meets l.rxCnt
    let (side, round) := rxStartRound m.entry l (m.side rxq)
    let b := b.round m l rxq round
    match round with
    | .next l => rxStartLoop meets fuel b l side.rxq
    | round => (b, side.rxq, round)

def rxStartEnd (meets : Nat → RxMeeting) (b : RxBatch) (l : RxLocals) (rxq : RxQueue) : RxStartRun :=
  let m := meets l.rxCnt
  let (side, ret) := rxStartTail m.entry.pitAddReady l (m.side rxq)
  let b := if l.ret = 0 then { b with asked := b.consumed, releaseFailed := decide (ret < 0) } else b
  { b with rxq := side.rxq, ret, onceMore := false }

/-- `t7xx_dpmaif_rx_start`; `meets` answers its rounds by their number. -/
def dpmaifRxStart (meets : Nat → RxMeeting) (pitCnt budget : Nat) (rxq : RxQueue) : RxStartRun :=
  let l : RxLocals :=
    { pitCnt, budget, curPit := rxq.pitRdIdx, rxCnt := 0, recvSkbCnt := 0, ret := 0 }
  match rxStartLoop meets (pitCnt + 1) ⟨0, 0, false, false⟩ l rxq with
  | (b, rxq, .returned result) => { b with rxq, ret := result, onceMore := true }
  | (b, rxq, .left l) => rxStartEnd meets b l rxq
  | (b, rxq, .next l) => rxStartEnd meets b l rxq

section Scan

/-- The packets that end within the first entries: each is delivered or dropped there. -/
def completedCnt (meets : Nat → RxMeeting) (cnt : Nat) : Nat :=
  (List.range cnt).countP fun k => (meets k).EndsPacket

/-- Whether a message entry was received for the packet at hand, and whether it has an skb. -/
structure RxScan where
  msgOpen : Bool
  curSkb : Bool
deriving DecidableEq, Repr

def RxScan.next (m : RxMeeting) (scan : RxScan) : RxScan :=
  if m.entry.pit.IsMsg then { scan with msgOpen := true }
  else if m.entry.pit.IsLast then { msgOpen := false, curSkb := false }
  else { scan with curSkb := scan.curSkb || decide (m.Accepts scan.curSkb) }

/-- The packet at hand before entry `k`, from what an earlier call has left. -/
def rxScan (meets : Nat → RxMeeting) (info : CurRxSkbInfo) : Nat → RxScan
  | 0 => { msgOpen := info.msgPitReceived, curSkb := info.curSkb.isSome }
  | k + 1 => (rxScan meets info k).next (meets k)

/-- The loop looks at entry `k`: a packet is open, or the budget is not used up. -/
def EntryWanted (meets : Nat → RxMeeting) (info : CurRxSkbInfo) (budget k : Nat) : Prop :=
  (rxScan meets info k).msgOpen = true ∨ completedCnt meets k < budget

instance (meets : Nat → RxMeeting) (info : CurRxSkbInfo) (budget k : Nat) :
    Decidable (EntryWanted meets info budget k) := inferInstanceAs (Decidable (_ ∨ _))

/-- The entries of a batch: those available up to the first that is not wanted. -/
def batchLen (meets : Nat → RxMeeting) (info : CurRxSkbInfo) (pitCnt budget : Nat) : Nat :=
  ((List.range pitCnt).takeWhile fun k => EntryWanted meets info budget k).length

/-- A payload of the first `cnt` entries is rejected, and after it no payload is accepted and the
    hardware is not notified. -/
def ErrorPending (meets : Nat → RxMeeting) (info : CurRxSkbInfo) (cnt : Nat) : Prop :=
  ∃ k < cnt, (meets k).Rejects (rxScan meets info k).curSkb ∧
    (∀ j < cnt, k < j → ¬ (meets j).Accepts (rxScan meets info j).curSkb) ∧
    ∀ j < cnt, k ≤ j → ¬ NotifyRound j

instance (meets : Nat → RxMeeting) (info : CurRxSkbInfo) (cnt : Nat) :
    Decidable (ErrorPending meets info cnt) :=
  inferInstanceAs (Decidable (∃ k < cnt, _ ∧ (∀ j < cnt, _ → _) ∧ ∀ j < cnt, _ → _))

variable {meets : Nat → RxMeeting} {info : CurRxSkbInfo}

theorem completedCnt_succ (cnt : Nat) :
    completedCnt meets (cnt + 1) = completedCnt meets cnt + if (meets cnt).EndsPacket then 1 else 0 := by
  unfold completedCnt
  rw [List.range_succ, List.countP_append]
  simp [List.countP_singleton]

theorem errorPending_succ (cnt : Nat) :
    ErrorPending meets info (cnt + 1) ↔ ¬ NotifyRound cnt ∧
      ((meets cnt).Rejects (rxScan meets info cnt).curSkb ∨
        ¬ (meets cnt).Accepts (rxScan meets info cnt).curSkb ∧ ErrorPending meets info cnt) := by
  constructor
  · rintro ⟨k, below, rejected, unaccepted, unnotified⟩
    refine ⟨unnotified cnt (by omega) (by omega), ?_⟩
    rcases Nat.lt_or_eq_of_le (Nat.le_of_lt_succ below) with early | rfl
    · right
      refine ⟨unaccepted cnt (by omega) early, k, early, rejected, ?_, ?_⟩
      · exact fun j inside => unaccepted j (by omega)
      · exact fun j inside => unnotified j (by omega)
    · exact Or.inl rejected
  · rintro ⟨quiet, rejected | ⟨unaccepted, k, below, rejected, earlier, unnotified⟩⟩
    · refine ⟨cnt, by omega, rejected, fun j inside later => by omega, fun j inside from' => ?_⟩
      rwa [show j = cnt by omega]
    · refine ⟨k, by omega, rejected, fun j inside later => ?_, fun j inside from' => ?_⟩
      · rcases Nat.lt_or_eq_of_le (Nat.le_of_lt_succ inside) with early | rfl
        · exact earlier j early later
        · exact unaccepted
      · rcases Nat.lt_or_eq_of_le (Nat.le_of_lt_succ inside) with early | rfl
        · exact unnotified j early from'
        · exact quiet

/-- A length up to which all entries are wanted, and where they end or the next is not wanted. -/
theorem batchLen_eq {pitCnt budget cnt : Nat} (most : cnt ≤ pitCnt)
    (wanted : ∀ k < cnt, EntryWanted meets info budget k)
    (ends : cnt = pitCnt ∨ ¬ EntryWanted meets info budget cnt) :
    batchLen meets info pitCnt budget = cnt := by
  unfold batchLen
  obtain ⟨rest, rfl⟩ := Nat.exists_eq_add_of_le most
  rw [List.range_add, List.takeWhile_append_of_pos (by simpa using wanted)]
  cases rest with
  | zero => simp
  | succ rest =>
    have stop : ¬ EntryWanted meets info budget cnt := ends.resolve_left (by omega)
    rw [List.range_succ_eq_map]
    simp [stop]

end Scan

section Entries

theorem accepts_iff (m : RxMeeting) {s : RxSide} (normal : s.normal = m.normal) (frag : s.frag = m.frag)
    (payload : ¬ m.entry.pit.IsMsg) :
    PayloadAccepted m.entry s ↔ m.Accepts s.rxq.rxDataInfo.curSkb.isSome := by
  unfold PayloadAccepted RxMeeting.Accepts
  rw [normal, frag, Option.isSome_iff_ne_none]
  split
  · rename_i isFrag
    exact ⟨fun taken => ⟨payload, fun _ => taken, fun other => absurd isFrag other⟩,
      fun taken => taken.2.1 isFrag⟩
  · rename_i notFrag
    exact ⟨fun taken => ⟨payload, fun other => absurd other notFrag, fun _ => taken⟩,
      fun taken => taken.2.2 notFrag⟩

/-- A payload that is accepted leaves a current skb, and a rejected one the skb there was. -/
theorem rxPayload_curSkb (entry : RxEntry) (s : RxSide) :
    (rxPayload entry s).1.rxq.rxDataInfo.msgPitReceived = s.rxq.rxDataInfo.msgPitReceived ∧
      (rxPayload entry s).1.rxq.rxDataInfo.curSkb.isSome =
        (s.rxq.rxDataInfo.curSkb.isSome || decide (PayloadAccepted entry s)) := by
  by_cases accepted : PayloadAccepted entry s
  · obtain ⟨cur, info, present⟩ := rxPayload_info entry s
    rw [info]
    simp [accepted, Option.isSome_iff_ne_none, present accepted]
  · rw [(rxPayload_rejected accepted).2.1.info]
    simp [accepted]

theorem rxMark_curSkb (ret : Int) (s : RxSide) :
    (rxMark ret s).rxq.rxDataInfo.msgPitReceived = s.rxq.rxDataInfo.msgPitReceived ∧
      (rxMark ret s).rxq.rxDataInfo.curSkb = s.rxq.rxDataInfo.curSkb := by
  unfold rxMark
  split
  · exact ⟨rfl, rfl⟩
  · exact ⟨rfl, rfl⟩

def RxQueue.scan (rxq : RxQueue) : RxScan where
  msgOpen := rxq.rxDataInfo.msgPitReceived
  curSkb := rxq.rxDataInfo.curSkb.isSome

structure Processed (m : RxMeeting) (l : RxLocals) (rxq : RxQueue) (after : RxSide × RxLocals) :
    Prop where
  scan : after.1.rxq.scan = rxq.scan.next m
  counted : after.2.recvSkbCnt = l.recvSkbCnt + if m.EndsPacket then 1 else 0
  ret : after.2.ret = 0 ↔ m.Accepts rxq.scan.curSkb ∨ m.entry.pit.IsMsg ∧ l.ret = 0
  negative : l.ret ≤ 0 → after.2.ret ≤ 0
  others : after.2.pitCnt = l.pitCnt ∧ after.2.budget = l.budget ∧ after.2.rxCnt = l.rxCnt

theorem rxEntered_processed (m : RxMeeting) (l : RxLocals) (rxq : RxQueue) :
    Processed m l rxq (rxEntered m.entry l (m.side rxq)) := by
  have info := (rxChecked_skbs m.entry l (m.side rxq)).info
  obtain ⟨normal, frag⟩ := rxChecked_normal m.entry l (m.side rxq)
  unfold rxEntered
  generalize rxChecked m.entry l (m.side rxq) = s at info normal frag
  have negative := rxProcess_ret m.entry l s
  have same : s.rxq.scan = rxq.scan := by
    unfold RxQueue.scan
    rw [info]
    rfl
  by_cases msg : m.entry.pit.IsMsg
  · unfold rxProcess
    rw [if_pos msg]
    refine ⟨?_, ?_, ?_, id, rfl, rfl, rfl⟩
    · rw [← same]
      simp [RxScan.next, RxQueue.scan, msg, parseMsgPit, RxSide.setInfo]
    · simp [RxMeeting.EndsPacket, msg]
    · simp [RxMeeting.Accepts, msg]
  · have accepts := accepts_iff m normal frag msg
    have current : s.rxq.rxDataInfo.curSkb.isSome = rxq.scan.curSkb := congrArg RxScan.curSkb same
    rw [current] at accepts
    obtain ⟨opened, held⟩ := rxPayload_curSkb m.entry s
    obtain ⟨markOpened, markHeld⟩ := rxMark_curSkb (rxPayload m.entry s).2 (rxPayload m.entry s).1
    have ret : (rxPayload m.entry s).2 = 0 ↔
        m.Accepts rxq.scan.curSkb ∨ m.entry.pit.IsMsg ∧ l.ret = 0 := by
      obtain ⟨most, negative⟩ := rxPayload_ret m.entry s
      rw [accepts] at negative
      simp only [msg, false_and, or_false]
      constructor
      · intro zero
        by_contra refused
        have below := negative.mpr refused
        omega
      · intro accepted
        by_contra other
        exact negative.mp (by omega) accepted
    unfold rxProcess at negative ⊢
    rw [if_neg msg] at negative ⊢
    rcases rxPdEntry_cases m.entry l s with ⟨last, ended⟩ | ⟨going, ended⟩
    · rw [ended] at negative ⊢
      refine ⟨?_, ?_, ret, negative, rfl, rfl, rfl⟩
      · unfold RxQueue.scan
        rw [rxPacketEnd_info]
        simp [RxScan.next, msg, last, CurRxSkbInfo.zero]
      · simp [RxMeeting.EndsPacket, msg, last]
    · rw [ended] at negative ⊢
      refine ⟨?_, ?_, ret, negative, rfl, rfl, rfl⟩
      · rw [← same]
        unfold RxQueue.scan RxScan.next
        rw [if_neg msg, if_neg going, markOpened, markHeld, opened, held]
        simp only [accepts, current]
      · simp [RxMeeting.EndsPacket, going]

end Entries

section Rounds

variable {meets : Nat → RxMeeting} {info : CurRxSkbInfo} {pitCnt budget : Nat}

/-- The head of round `l.rxCnt`, with no failure so far. -/
structure RxCounts (meets : Nat → RxMeeting) (info : CurRxSkbInfo) (pitCnt budget : Nat)
    (b : RxBatch) (l : RxLocals) (rxq : RxQueue) : Prop where
  available : l.pitCnt = pitCnt
  allowed : l.budget = budget
  consumed : b.consumed = l.rxCnt
  most : l.rxCnt ≤ pitCnt
  fine : b.seqFailed = false ∧ b.releaseFailed = false
  scan : rxq.scan = rxScan meets info l.rxCnt
  counted : l.recvSkbCnt = completedCnt meets l.rxCnt
  within : l.recvSkbCnt ≤ budget
  last : l.recvSkbCnt = budget → rxq.scan.msgOpen = false
  ret : l.ret = 0 ↔ ¬ ErrorPending meets info l.rxCnt
  negative : l.ret ≤ 0
  wanted : ∀ k < l.rxCnt, EntryWanted meets info budget k

theorem RxCounts.next {b : RxBatch} {l : RxLocals} {rxq after : RxQueue} {entered : RxSide × RxLocals}
    {released : Int} (at_ : RxCounts meets info pitCnt budget b l rxq)
    (reaches : Reaches (meets l.rxCnt).entry l rxq)
    (processed : Processed (meets l.rxCnt) l rxq entered) (kept : after.scan = entered.1.rxq.scan)
    (same : released = if NotifyRound l.rxCnt then 0 else entered.2.ret) :
    RxCounts meets info pitCnt budget
      { b with consumed := b.consumed + 1
               asked := if NotifyRound l.rxCnt then b.consumed + 1 else b.asked }
      { (rxAdvance entered.2 entered.1).2 with ret := released, rxCnt := l.rxCnt + 1 } after := by
  obtain ⟨more, looked, _⟩ := reaches
  obtain ⟨pitCnt', budget', rxCnt'⟩ := processed.others
  have counted : entered.2.recvSkbCnt = completedCnt meets (l.rxCnt + 1) := by
    rw [processed.counted, at_.counted, completedCnt_succ]
  have scanned : after.scan = rxScan meets info (l.rxCnt + 1) := by
    rw [kept, processed.scan, at_.scan]
    rfl
  have room : l.recvSkbCnt < budget := by
    by_contra full
    refine looked ⟨at_.last ?_, ?_⟩
    · have within := at_.within
      omega
    · rw [at_.allowed]
      omega
  have one : (if (meets l.rxCnt).EndsPacket then 1 else 0) ≤ 1 := by
    split <;> omega
  refine ⟨pitCnt'.trans at_.available, budget'.trans at_.allowed, ?_, ?_, at_.fine, scanned, counted,
    ?_, ?_, ?_, ?_, ?_⟩
  · show b.consumed + 1 = l.rxCnt + 1
    rw [at_.consumed]
  · show l.rxCnt + 1 ≤ pitCnt
    rw [← at_.available]
    exact more
  · show entered.2.recvSkbCnt ≤ budget
    rw [processed.counted]
    omega
  · intro full
    have ends : (meets l.rxCnt).EndsPacket := by
      by_contra going
      have unchanged := processed.counted
      rw [if_neg going] at unchanged
      exact absurd (show entered.2.recvSkbCnt = budget from full) (by omega)
    rw [kept, processed.scan]
    simp [RxScan.next, ends.1, ends.2]
  · show released = 0 ↔ _
    rw [errorPending_succ, same, ← at_.scan]
    by_cases notify : NotifyRound l.rxCnt
    · simp [notify]
    · rw [if_neg notify, processed.ret, at_.ret]
      unfold RxMeeting.Rejects
      by_cases accepts : (meets l.rxCnt).Accepts rxq.scan.curSkb
      · simp [accepts]
      · by_cases msg : (meets l.rxCnt).entry.pit.IsMsg
        · simp [accepts, msg, notify]
        · simp [accepts, msg, notify]
  · show released ≤ 0
    rw [same]
    split
    · exact le_rfl
    · exact processed.negative at_.negative
  · intro k below
    rcases Nat.lt_or_eq_of_le (Nat.le_of_lt_succ below) with early | rfl
    · exact at_.wanted k early
    · exact Or.inr (by rw [← at_.counted]; exact room)

inductive BatchEnd (meets : Nat → RxMeeting) (info : CurRxSkbInfo) (pitCnt budget : Nat) :
    RxBatch × RxQueue × RxRound → Prop
  | whole {b : RxBatch} {l : RxLocals} {rxq : RxQueue} (at_ : RxCounts meets info pitCnt budget b l rxq)
      (ends : l.rxCnt = pitCnt ∨ ¬ EntryWanted meets info budget l.rxCnt) :
      BatchEnd meets info pitCnt budget (b, rxq, .left l)
  | unreleased {b : RxBatch} {l : RxLocals} {rxq : RxQueue} (failed : b.releaseFailed = true)
      (ret : l.ret < 0) (within : completedCnt meets b.consumed ≤ budget) :
      BatchEnd meets info pitCnt budget (b, rxq, .left l)
  | unchecked {b : RxBatch} {result : Int} {rxq : RxQueue} (failed : b.seqFailed = true)
      (within : completedCnt meets b.consumed ≤ budget) :
      BatchEnd meets info pitCnt budget (b, rxq, .returned result)

theorem rxStartRound_counts {b : RxBatch} {l : RxLocals} {rxq : RxQueue}
    (at_ : RxCounts meets info pitCnt budget b l rxq) :
    let m := meets l.rxCnt
    let result := rxStartRound m.entry l (m.side rxq)
    (∃ n, result.2 = .next n ∧ n.rxCnt = l.rxCnt + 1 ∧ n.pitCnt = l.pitCnt ∧
        RxCounts meets info pitCnt budget (b.round m l rxq result.2) n result.1.rxq) ∨
      (∀ n, result.2 ≠ .next n) ∧
        BatchEnd meets info pitCnt budget (b.round m l rxq result.2, result.1.rxq, result.2) := by
  dsimp only
  by_cases reaches : Reaches (meets l.rxCnt).entry l rxq
  · have round := rxStartRound_reached (s := (meets l.rxCnt).side rxq) reaches
    have processed := rxEntered_processed (meets l.rxCnt) l rxq
    revert round processed
    unfold rxEntered
    generalize rxProcess (meets l.rxCnt).entry l _ = entered
    intro round processed
    obtain ⟨untouched, ended⟩ := rxRoundEnd_cases (meets l.rxCnt).entry.pitAddReady
      (rxAdvance entered.2 entered.1).2 (rxAdvance entered.2 entered.1).1
    have count : (rxAdvance entered.2 entered.1).2.rxCnt = l.rxCnt := processed.others.2.2
    have kept : ∀ after : RxQueue, Untouched (rxAdvance entered.2 entered.1).1.rxq after →
        after.scan = entered.1.rxq.scan := by
      intro after same
      unfold RxQueue.scan
      rw [same.info]
      rfl
    rw [round]
    rcases ended with next | ⟨ret, negative, left⟩
    · left
      rw [count] at next
      rw [next]
      exact ⟨_, rfl, rfl, processed.others.1, at_.next reaches processed (kept _ untouched) rfl⟩
    · right
      rw [left]
      refine ⟨nofun, ?_⟩
      have after := at_.next reaches processed (kept _ untouched) rfl
      unfold RxBatch.round
      rw [if_pos reaches]
      refine .unreleased rfl negative ?_
      have within := after.within
      rw [after.counted] at within
      show completedCnt meets (b.consumed + 1) ≤ budget
      rw [at_.consumed]
      exact within
  · right
    rcases rxStartRound_unreached (meets l.rxCnt).entry l ((meets l.rxCnt).side rxq) reaches with
      ⟨stop, left⟩ | returned
    · rw [left]
      refine ⟨nofun, ?_⟩
      unfold RxBatch.round
      rw [if_neg reaches]
      refine .whole at_ ?_
      rcases stop with done | ⟨closed, spent⟩
      · left
        have most := at_.most
        rw [at_.available] at done
        omega
      · right
        rw [at_.allowed, at_.counted] at spent
        have scanned := congrArg RxScan.msgOpen at_.scan
        rintro (opened | room)
        · rw [← scanned] at opened
          exact absurd (opened.symm.trans closed) (by decide)
        · omega
    · rw [returned]
      refine ⟨nofun, .unchecked rfl ?_⟩
      have within := at_.within
      rw [at_.counted, ← at_.consumed] at within
      exact within

theorem rxStartEnd_asks (meets : Nat → RxMeeting) (b : RxBatch) {l : RxLocals} (rxq : RxQueue)
    (zero : l.ret = 0) :
    let run := rxStartEnd meets b l rxq
    run.consumed = b.consumed ∧ run.asked = b.consumed ∧
      (run.releaseFailed = false → run.ret = l.recvSkbCnt) := by
  dsimp only
  unfold rxStartEnd rxStartTail
  dsimp only
  rw [if_pos zero, if_pos zero]
  refine ⟨rfl, rfl, fun released => ?_⟩
  have answered := (rxNotifyHw_untouched (meets l.rxCnt).entry.pitAddReady
    ((meets l.rxCnt).side rxq)).2
  dsimp only at released ⊢
  split at released
  · have negative := of_decide_eq_false released
    omega
  · rename_i fine
    rw [if_neg fine]

theorem rxStartEnd_returns (meets : Nat → RxMeeting) (b : RxBatch) {l : RxLocals} (rxq : RxQueue)
    (error : l.ret ≠ 0) :
    (rxStartEnd meets b l rxq).toRxBatch = b ∧ (rxStartEnd meets b l rxq).ret = l.ret := by
  unfold rxStartEnd rxStartTail
  dsimp only
  rw [if_neg error, if_neg error]
  exact ⟨rfl, rfl⟩

theorem rxStartLoop_ends (fuel : Nat) {b : RxBatch} {l : RxLocals} {rxq : RxQueue}
    (at_ : RxCounts meets info pitCnt budget b l rxq) (enough : pitCnt - l.rxCnt < fuel) :
    BatchEnd meets info pitCnt budget (rxStartLoop meets fuel b l rxq) := by
  -- `RxCounts` bounds the rounds by the entries available
  induction fuel generalizing b l rxq with
  | zero => omega
  | succ fuel ih =>
    have more := rxStartRound_counts at_
    unfold rxStartLoop
    dsimp only at more ⊢
    revert more
    generalize rxStartRound (meets l.rxCnt).entry l ((meets l.rxCnt).side rxq) = result
    obtain ⟨side, round⟩ := result
    rintro (⟨n, rfl, count, same, next⟩ | ⟨stops, ended⟩)
    · dsimp only
      refine ih next ?_
      have most := next.most
      omega
    · cases round with
      | next n => exact absurd rfl (stops n)
      | left n => exact ended
      | returned result => exact ended

end Rounds

/-- The call keeps to its budget; where no check and no release fails, it returns the packets that
    it completed and asks for the release of all it consumed exactly where no error is left over. -/
theorem rx_start_counts_iff (meets : Nat → RxMeeting) (pitCnt budget : Nat) (positive : 0 < budget)
    (rxq : RxQueue) :
    let run := dpmaifRxStart meets pitCnt budget rxq
    completedCnt meets run.consumed ≤ budget ∧
      (run.seqFailed = false → run.releaseFailed = false →
        (run.ret = completedCnt meets run.consumed ∧ run.asked = run.consumed ↔
          ¬ ErrorPending meets rxq.rxDataInfo (batchLen meets rxq.rxDataInfo pitCnt budget))) := by
  have begun : RxCounts meets rxq.rxDataInfo pitCnt budget ⟨0, 0, false, false⟩
      { pitCnt, budget, curPit := rxq.pitRdIdx, rxCnt := 0, recvSkbCnt := 0, ret := 0 } rxq := by
    refine ⟨rfl, rfl, rfl, Nat.zero_le _, ⟨rfl, rfl⟩, rfl, rfl, Nat.zero_le _, ?_, ?_, le_rfl, nofun⟩
    · intro full
      exact absurd full positive.ne
    · simp [ErrorPending]
  have ended := rxStartLoop_ends (pitCnt + 1) begun (Nat.lt_succ_of_le (Nat.sub_le _ _))
  dsimp only
  unfold dpmaifRxStart
  dsimp only
  revert ended
  generalize rxStartLoop meets (pitCnt + 1) _ _ rxq = result
  intro ended
  cases ended with
  | @whole b l rxq at_ ends =>
    have len := batchLen_eq at_.most at_.wanted ends
    have within := at_.within
    rw [at_.counted, ← at_.consumed] at within
    dsimp only
    rw [len, ← at_.ret]
    by_cases zero : l.ret = 0
    · obtain ⟨consumed, asked, returned⟩ := rxStartEnd_asks meets b rxq zero
      rw [consumed, asked]
      refine ⟨within, fun _ released => ⟨fun _ => zero, fun _ => ⟨?_, rfl⟩⟩⟩
      rw [returned released, at_.consumed, ← at_.counted]
    · obtain ⟨batch, returned⟩ := rxStartEnd_returns meets b rxq zero
      rw [batch, returned]
      refine ⟨within, fun _ _ => ⟨fun good => ?_, fun none => absurd none zero⟩⟩
      have negative := at_.negative
      have counted := good.1
      omega
  | @unreleased b l rxq failed ret within =>
    dsimp only
    rw [(rxStartEnd_returns meets b rxq ret.ne).1]
    exact ⟨within, fun _ released => absurd (failed.symm.trans released) (by decide)⟩
  | unchecked failed within =>
    exact ⟨within, fun checked _ => absurd (failed.symm.trans checked) (by decide)⟩

def onePacket (normal : Bat) (k : Nat) : RxMeeting where
  entry :=
    -- a message entry, then the last payload of its packet, for buffer 0
    { pit := if k = 0 then ⟨1, 0, 0, 0⟩ else ⟨0, 4096, 0, 1⟩
      room := ⟨0, 2048⟩
      fragWord := 0
      pitAddReady := true }
  normal := normal
  frag := batAlloc .frag
  queStarted := true

theorem rx_start_counts_one :
    let run := dpmaifRxStart (onePacket onePosted) 2 64 rxAlloc
    completedCnt (onePacket onePosted) run.consumed ≤ 64 ∧
      (run.seqFailed = false → run.releaseFailed = false →
        (run.ret = completedCnt (onePacket onePosted) run.consumed ∧ run.asked = run.consumed ↔
          ¬ ErrorPending (onePacket onePosted) .zero (batchLen (onePacket onePosted) .zero 2 64))) :=
  rx_start_counts_iff (onePacket onePosted) 2 64 (by decide) rxAlloc

/-- The buffer that the payload names is not posted: the packet is dropped, and the call returns an
    error and leaves its two entries. -/
theorem error_payload_returned :
    let run := dpmaifRxStart (onePacket (batAlloc .normal)) 2 64 rxAlloc
    run.seqFailed = false ∧ run.releaseFailed = false ∧ run.consumed = 2 ∧ run.asked = 0 ∧
      completedCnt (onePacket (batAlloc .normal)) run.consumed = 1 ∧ run.ret = -EINVAL := by
  decide

end T7xxModel.Dpmaif
