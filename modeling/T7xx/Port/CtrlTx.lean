import T7xx.Port.Handles
import Mathlib.Data.BitVec

namespace T7xxModel.Port

open Fsm

/-- `skb->len`, which for the head of a write counts its frag list too, and the linear part. -/
structure SkbPart where
  len : BitVec 32
  data : List (BitVec 8)
deriving DecidableEq, Repr

structure CtrlSkb where
  head : SkbPart
  fragList : List SkbPart
deriving DecidableEq, Repr

def CtrlSkb.parts (skb : CtrlSkb) : List SkbPart := skb.head :: skb.fragList

/-- An `int` that holds an error number. -/
def errno (error : Int) : BitVec 32 := BitVec.ofInt 32 (-error)

/-- What a call of `t7xx_port_send_skb` meets: the two states, and the result of
    `t7xx_port_send_ccci_skb`. -/
structure SendCall where
  fsmState : FsmState
  mdState : MdState
  ccciRet : BitVec 32
deriving DecidableEq, Repr

def portSendSkb (txCh : BitVec 16) (call : SendCall) : BitVec 32 :=
  if call.fsmState = .preStart then call.ccciRet
  else
    match call.mdState with
    | .exception => if txCh ≠ PORT_CH_MD_LOG_TX then errno EBUSY else call.ccciRet
    | .waitingForHs1 | .waitingForHs2 | .stopped | .waitingToStop | .invalid => errno ENODEV
    | .ready => call.ccciRet

structure CtrlTxRun where
  ret : BitVec 32
  sent : List (List (BitVec 8))
  failed : Bool
  clonedFreed : Bool
  skbFreed : Bool
deriving DecidableEq, Repr

/-- The loop of `t7xx_port_ctrl_tx` over the parts that are left. A clone is cut to the linear part. -/
def ctrlTxLoop (txCh : BitVec 16) (calls : Nat → SendCall) :
    (round : Nat) → (cnt : BitVec 32) → (sent : List (List (BitVec 8))) → List SkbPart → CtrlTxRun
  | _, _, sent, [] => { ret := 0, sent, failed := false, clonedFreed := false, skbFreed := true }
  | round, cnt, sent, cur :: rest =>
    let ret := portSendSkb txCh (calls round)
    if ret ≠ 0 then
      { ret := if cnt ≠ 0 then cnt + ret else ret
        sent, failed := true, clonedFreed := true, skbFreed := false }
    else ctrlTxLoop txCh calls (round + 1) (cnt + cur.len) (sent ++ [cur.data]) rest

def portCtrlTx (txCh : BitVec 16) (mdState : MdState) (calls : Nat → SendCall) (skb : CtrlSkb) :
    CtrlTxRun :=
  if mdState = .waitingForHs1 ∨ mdState = .waitingForHs2 then
    { ret := errno ENODEV, sent := [], failed := true, clonedFreed := false, skbFreed := false }
  else ctrlTxLoop txCh calls 0 0 [] skb.parts

/-- The value 0 means that every part went out once and in order, and the skb is freed exactly with
    it. -/
structure TxReported (skb : CtrlSkb) (run : CtrlTxRun) : Prop where
  delivered : run.ret = 0 ↔ run.sent = skb.parts.map SkbPart.data
  freed : run.skbFreed = true ↔ run.ret = 0
  reported : run.failed = true → run.ret ≠ 0

instance (skb : CtrlSkb) (run : CtrlTxRun) : Decidable (TxReported skb run) :=
  decidable_of_iff ((run.ret = 0 ↔ run.sent = skb.parts.map SkbPart.data) ∧
      (run.skbFreed = true ↔ run.ret = 0) ∧ (run.failed = true → run.ret ≠ 0))
    ⟨fun ⟨delivered, freed, reported⟩ => ⟨delivered, freed, reported⟩,
      fun sound => ⟨sound.delivered, sound.freed, sound.reported⟩⟩

def cntBefore (parts : List SkbPart) (round : Nat) : BitVec 32 := ((parts.take round).map SkbPart.len).sum

/-- The error of the first part that is refused is not the negative of the bytes counted so far. -/
def ErrorsStand (txCh : BitVec 16) (calls : Nat → SendCall) (parts : List SkbPart) : Prop :=
  ∀ round < parts.length, (∀ j < round, portSendSkb txCh (calls j) = 0) →
    portSendSkb txCh (calls round) ≠ 0 → cntBefore parts round ≠ - portSendSkb txCh (calls round)

section Rounds

variable {txCh : BitVec 16} {calls : Nat → SendCall}

inductive CtrlTxEnd (txCh : BitVec 16) (calls : Nat → SendCall) (round : Nat) (cnt : BitVec 32)
    (sent : List (List (BitVec 8))) (left : List SkbPart) : CtrlTxRun → Prop
  | written (all : ∀ j < left.length, portSendSkb txCh (calls (round + j)) = 0) :
      CtrlTxEnd txCh calls round cnt sent left
        { ret := 0, sent := sent ++ left.map SkbPart.data, failed := false, clonedFreed := false
          skbFreed := true }
  | refused (k : Nat) (inside : k < left.length)
      (before : ∀ j < k, portSendSkb txCh (calls (round + j)) = 0)
      (error : portSendSkb txCh (calls (round + k)) ≠ 0) (ret : BitVec 32)
      (value : ret = 0 ↔ cnt + cntBefore left k = - portSendSkb txCh (calls (round + k))) :
      CtrlTxEnd txCh calls round cnt sent left
        { ret, sent := sent ++ (left.take k).map SkbPart.data, failed := true, clonedFreed := true
          skbFreed := false }

variable {round : Nat} {cnt : BitVec 32} {sent : List (List (BitVec 8))} {cur : SkbPart} {rest : List SkbPart}

theorem CtrlTxEnd.first_refused (error : portSendSkb txCh (calls round) ≠ 0) :
    CtrlTxEnd txCh calls round cnt sent (cur :: rest)
      { ret := if cnt ≠ 0 then cnt + portSendSkb txCh (calls round) else portSendSkb txCh (calls round)
        sent, failed := true, clonedFreed := true, skbFreed := false } := by
  have value : (if cnt ≠ 0 then cnt + portSendSkb txCh (calls round) else portSendSkb txCh (calls round)) = 0 ↔
      cnt + cntBefore (cur :: rest) 0 = - portSendSkb txCh (calls (round + 0)) := by
    have zero : cntBefore (cur :: rest) 0 = 0 := rfl
    rw [zero, add_zero, Nat.add_zero]
    split
    · exact add_eq_zero_iff_eq_neg
    · rename_i nothing
      rw [not_not.mp nothing]
      exact iff_of_false error fun same => error (neg_eq_zero.mp same.symm)
  have none_ : ∀ j < 0, portSendSkb txCh (calls (round + j)) = 0 := fun j below => absurd below (Nat.not_lt_zero j)
  have first : CtrlTxEnd txCh calls round cnt sent (cur :: rest) _ :=
    .refused 0 (List.length_pos_of_mem List.mem_cons_self) none_ error _ value
  rwa [List.take_zero, List.map_nil, List.append_nil] at first

theorem CtrlTxEnd.cons {run : CtrlTxRun} (taken : portSendSkb txCh (calls round) = 0)
    (ends : CtrlTxEnd txCh calls (round + 1) (cnt + cur.len) (sent ++ [cur.data]) rest run) :
    CtrlTxEnd txCh calls round cnt sent (cur :: rest) run := by
  have shift : ∀ j, round + 1 + j = round + (j + 1) := fun j => by omega
  have earlier : ∀ n, (∀ j < n, portSendSkb txCh (calls (round + 1 + j)) = 0) →
      ∀ j < n + 1, portSendSkb txCh (calls (round + j)) = 0 := by
    intro n later j below
    cases j with
    | zero => exact taken
    | succ j =>
      rw [← shift]
      exact later j (by omega)
  cases ends with
  | written all =>
    rw [List.append_assoc]
    exact .written (earlier _ all)
  | refused k inside before error ret value =>
    rw [List.append_assoc]
    refine .refused (k + 1) ?_ (earlier k before) ?_ ret ?_
    · rw [List.length_cons]
      exact Nat.succ_lt_succ inside
    · rwa [← shift]
    · rw [value, shift, BitVec.add_assoc]
      rfl

theorem ctrlTxLoop_ends (txCh : BitVec 16) (calls : Nat → SendCall) (round : Nat) (cnt : BitVec 32)
    (sent : List (List (BitVec 8))) (left : List SkbPart) :
    CtrlTxEnd txCh calls round cnt sent left (ctrlTxLoop txCh calls round cnt sent left) := by
  induction left generalizing round cnt sent with
  | nil =>
    have none_ : CtrlTxEnd txCh calls round cnt sent [] _ :=
      .written fun j below => absurd below (Nat.not_lt_zero j)
    rwa [List.map_nil, List.append_nil] at none_
  | cons cur rest ih =>
    unfold ctrlTxLoop
    dsimp only
    split
    · rename_i error
      exact .first_refused error
    · rename_i taken
      exact (ih (round + 1) (cnt + cur.len) (sent ++ [cur.data])).cons (not_not.mp taken)

theorem CtrlTxEnd.reported_iff {skb : CtrlSkb} {run : CtrlTxRun}
    (ended : CtrlTxEnd txCh calls 0 0 [] skb.parts run) :
    TxReported skb run ↔ ErrorsStand txCh calls skb.parts := by
  cases ended with
  | written all =>
    simp only [Nat.zero_add] at all
    refine iff_of_true ⟨?_, ?_, nofun⟩ fun round inside _ error => absurd (all round inside) error
    · exact iff_of_true rfl (List.nil_append _)
    · exact iff_of_true rfl rfl
  | refused k inside before error ret value =>
    simp only [Nat.zero_add] at before error value
    rw [zero_add] at value
    have partial_ : ¬ [] ++ (skb.parts.take k).map SkbPart.data = skb.parts.map SkbPart.data := by
      intro same
      have lengths := congrArg List.length same
      rw [List.nil_append, List.length_map, List.length_map, List.length_take] at lengths
      omega
    constructor
    · intro sound round below earlier refused same
      -- the loop stopped at the first part that is refused
      have first : round = k := by
        rcases Nat.lt_trichotomy round k with less | equal | more
        · exact absurd (before round less) refused
        · exact equal
        · exact absurd (earlier k more) error
      rw [first] at same
      exact sound.reported rfl (value.mpr same)
    · intro stands
      have nonzero : ret ≠ 0 := fun zero => stands k inside before error (value.mp zero)
      exact ⟨iff_of_false nonzero partial_, iff_of_false nofun nonzero, fun _ => nonzero⟩

end Rounds

/-- The write is reported as it went exactly where no part is refused with an error that the bytes
    counted so far cancel. -/
theorem ctrl_tx_reported_iff (txCh : BitVec 16) (mdState : MdState) (calls : Nat → SendCall)
    (skb : CtrlSkb) :
    TxReported skb (portCtrlTx txCh mdState calls skb) ↔
      mdState = .waitingForHs1 ∨ mdState = .waitingForHs2 ∨ ErrorsStand txCh calls skb.parts := by
  unfold portCtrlTx
  rw [← or_assoc]
  by_cases handshake : mdState = .waitingForHs1 ∨ mdState = .waitingForHs2
  · rw [if_pos handshake]
    have refused : errno ENODEV ≠ 0 := by decide
    refine iff_of_true ⟨iff_of_false refused nofun, iff_of_false nofun refused, fun _ => refused⟩ ?_
    exact Or.inl handshake
  · rw [if_neg handshake, or_iff_right handshake]
    exact (ctrlTxLoop_ends txCh calls 0 0 [] skb.parts).reported_iff

/-- 19 bytes in two parts; the modem goes down after the first, whose error number is 19. -/
def nineteenSkb : CtrlSkb where
  head := { len := 19, data := List.replicate 10 0 }
  fragList := [{ len := 9, data := List.replicate 9 0 }]

def modemDown (round : Nat) : SendCall :=
  { fsmState := if round = 0 then .ready else .stopped
    mdState := if round = 0 then .ready else .stopped
    ccciRet := 0 }

theorem error_cancelled_by_count :
    (portCtrlTx PORT_CH_MBIM_TX .ready modemDown nineteenSkb).ret = 0 ∧
    (portCtrlTx PORT_CH_MBIM_TX .ready modemDown nineteenSkb).sent = [List.replicate 10 0] ∧
    (portCtrlTx PORT_CH_MBIM_TX .ready modemDown nineteenSkb).skbFreed = false ∧
    ¬ TxReported nineteenSkb (portCtrlTx PORT_CH_MBIM_TX .ready modemDown nineteenSkb) := by
  decide

end T7xxModel.Port
