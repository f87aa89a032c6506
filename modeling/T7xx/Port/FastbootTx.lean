import Mathlib.Data.List.Basic
import Mathlib.Tactic.Ring
import T7xx.Kernel.Errno

namespace T7xxModel.Port

/-- An skb of the WWAN core: its linear part, what its frag list carries, and the memory that
    follows the linear part, which is no part of it. -/
structure WwanSkb where
  head : List (BitVec 8)
  frags : List (BitVec 8)
  behind : Nat → BitVec 8

namespace WwanSkb

variable (skb : WwanSkb)

def len : Nat := skb.head.length + skb.frags.length

def bytes : List (BitVec 8) := skb.head ++ skb.frags

def dataAt (offset : Nat) : BitVec 8 :=
  (skb.head[offset]?).getD (skb.behind (offset - skb.head.length))

/-- What `skb_put_data` copies from `skb->data + offset`. -/
def dataFrom (offset len : Nat) : List (BitVec 8) :=
  (List.range len).map fun i => skb.dataAt (offset + i)

/-- The data that the frag list carries also follows the linear part in memory, as where there is
    no frag list. -/
def FollowsHead : Prop := skb.frags = (List.range skb.frags.length).map skb.behind

instance : Decidable skb.FollowsHead :=
  inferInstanceAs (Decidable (_ = _))

theorem dataFrom_add (offset len more : Nat) :
    skb.dataFrom offset (len + more) = skb.dataFrom offset len ++ skb.dataFrom (offset + len) more := by
  simp [dataFrom, List.range_add, Function.comp_def, Nat.add_assoc]

theorem dataFrom_head : skb.dataFrom 0 skb.head.length = skb.head := by
  apply List.ext_getElem
  · simp [dataFrom]
  · intro i _ inside
    simp [dataFrom, dataAt, inside]

theorem dataFrom_behind (len : Nat) :
    skb.dataFrom skb.head.length len = (List.range len).map skb.behind := by
  simp [dataFrom, dataAt]

/-- All of `skb->len` read from `skb->data` is what the skb carries, or the frag list is missed. -/
theorem dataFrom_len : skb.dataFrom 0 skb.len = skb.bytes ↔ skb.FollowsHead := by
  unfold len bytes FollowsHead
  rw [dataFrom_add, dataFrom_head, Nat.zero_add, dataFrom_behind]
  constructor
  · intro same
    exact (List.append_cancel_left same).symm
  · intro same
    rw [← same]

end WwanSkb

structure FastbootCalls where
  alloc : Nat → Bool
  sendRet : Nat → Int

/-- `failed` says that a chunk could not be allocated or sent, `txSkbFreed` that the chunk was freed
    again. -/
structure FastbootRun where
  ret : Int
  sent : List (List (BitVec 8))
  failed : Bool
  txSkbFreed : Bool
  skbFreed : Bool
deriving DecidableEq, Repr

/-- The loop from a round on. A round that moves nothing forward repeats for ever, hence the fuel. -/
def fastbootLoop (calls : FastbootCalls) (skb : WwanSkb) (txqMtu : Nat) :
    (fuel round offset actual : Nat) → (sent : List (List (BitVec 8))) → Option FastbootRun
  | 0, _, _, _, _ => none
  | fuel + 1, round, offset, actual, sent =>
    if actual = 0 then
      some { ret := 0, sent := sent, failed := false, txSkbFreed := false, skbFreed := true }
    else
      let len := min actual txqMtu
      if calls.alloc round = false then
        some { ret := -ENOMEM, sent := sent, failed := true, txSkbFreed := false, skbFreed := false }
      else if calls.sendRet round ≠ 0 then
        -- the error is logged, and the function ends as after the last chunk
        some { ret := 0, sent := sent, failed := true, txSkbFreed := true, skbFreed := true }
      else
        fastbootLoop calls skb txqMtu fuel (round + 1) (offset + len) (actual - len)
          (sent ++ [skb.dataFrom offset len])

def fastbootTx (calls : FastbootCalls) (skb : WwanSkb) (txqMtu : Int) (fuel : Nat) :
    Option FastbootRun :=
  if txqMtu < 0 then
    some { ret := -EINVAL, sent := [], failed := false, txSkbFreed := false, skbFreed := false }
  else
    fastbootLoop calls skb txqMtu.toNat fuel 0 0 skb.len []

def FastbootCalls.Moves (calls : FastbootCalls) (round : Nat) : Prop :=
  calls.alloc round = true ∧ calls.sendRet round = 0

/-- The first round of `cnt` whose chunk does not go out, if there is one, lacks the memory for it:
    every chunk that is offered is taken. -/
def FastbootCalls.TakesOffered (calls : FastbootCalls) (cnt : Nat) : Prop :=
  ∀ round < cnt, (∀ j < round, calls.Moves j) → calls.alloc round = true → calls.sendRet round = 0

def chunkCnt (actual txqMtu : Nat) : Nat := (actual + txqMtu - 1) / txqMtu

/-- Success means that all of the skb went out in order, a failed chunk is reported, and the skb is
    freed exactly with a return value of 0. -/
structure WriteReported (skb : WwanSkb) (txqMtu : Nat) (run : FastbootRun) : Prop where
  delivered : run.ret = 0 → run.sent.flatten = skb.bytes ∧
    ∀ chunk ∈ run.sent, chunk ≠ [] ∧ chunk.length ≤ txqMtu
  reported : run.failed = true → run.ret < 0
  freed : run.skbFreed = true ↔ run.ret = 0

inductive FastbootEnd (calls : FastbootCalls) (skb : WwanSkb) (txqMtu round offset actual : Nat)
    (sent : List (List (BitVec 8))) : FastbootRun → Prop
  | written (chunks : List (List (BitVec 8)))
      (moves : ∀ j < chunkCnt actual txqMtu, calls.Moves (round + j))
      (data : chunks.flatten = skb.dataFrom offset actual)
      (sizes : ∀ chunk ∈ chunks, chunk ≠ [] ∧ chunk.length ≤ txqMtu) :
      FastbootEnd calls skb txqMtu round offset actual sent
        { ret := 0, sent := sent ++ chunks, failed := false, txSkbFreed := false, skbFreed := true }
  | unallocated (r : Nat) (sent' : List (List (BitVec 8))) (inside : r < chunkCnt actual txqMtu)
      (moves : ∀ j < r, calls.Moves (round + j)) (lacks : calls.alloc (round + r) = false) :
      FastbootEnd calls skb txqMtu round offset actual sent
        { ret := -ENOMEM, sent := sent', failed := true, txSkbFreed := false, skbFreed := false }
  | unsent (r : Nat) (sent' : List (List (BitVec 8))) (inside : r < chunkCnt actual txqMtu)
      (moves : ∀ j < r, calls.Moves (round + j)) (allocated : calls.alloc (round + r) = true)
      (refused : calls.sendRet (round + r) ≠ 0) :
      FastbootEnd calls skb txqMtu round offset actual sent
        { ret := 0, sent := sent', failed := true, txSkbFreed := true, skbFreed := true }

section Rounds

variable {calls : FastbootCalls} {skb : WwanSkb} {txqMtu : Nat}

@[simp] theorem chunkCnt_zero (positive : 0 < txqMtu) : chunkCnt 0 txqMtu = 0 := by
  unfold chunkCnt
  apply Nat.div_eq_of_lt
  omega

theorem chunkCnt_next (positive : 0 < txqMtu) {actual : Nat} (left : actual ≠ 0) :
    chunkCnt actual txqMtu = chunkCnt (actual - min actual txqMtu) txqMtu + 1 := by
  by_cases last : actual ≤ txqMtu
  · rw [min_eq_left last, Nat.sub_self, chunkCnt_zero positive]
    unfold chunkCnt
    have split : actual + txqMtu - 1 = actual - 1 + txqMtu := by omega
    rw [split, Nat.add_div_right _ positive, Nat.div_eq_of_lt (by omega)]
  · rw [min_eq_right (by omega)]
    unfold chunkCnt
    have split : actual + txqMtu - 1 = actual - txqMtu + txqMtu - 1 + txqMtu := by omega
    rw [split, Nat.add_div_right _ positive]

theorem moves_next {round cnt : Nat} (first : calls.Moves round)
    (rest : ∀ j < cnt, calls.Moves (round + 1 + j)) : ∀ j < cnt + 1, calls.Moves (round + j) := by
  intro j below
  cases j with
  | zero => exact first
  | succ j =>
    have later := rest j (by omega)
    rwa [Nat.add_assoc, Nat.add_comm 1 j] at later

theorem FastbootEnd.next {round offset actual : Nat} {sent : List (List (BitVec 8))}
    {run : FastbootRun} (positive : 0 < txqMtu) (left : actual ≠ 0) (moves : calls.Moves round)
    (rest : FastbootEnd calls skb txqMtu (round + 1) (offset + min actual txqMtu)
      (actual - min actual txqMtu) (sent ++ [skb.dataFrom offset (min actual txqMtu)]) run) :
    FastbootEnd calls skb txqMtu round offset actual sent run := by
  have count := chunkCnt_next positive left
  have size : min actual txqMtu ≤ actual := min_le_left _ _
  cases rest with
  | written chunks later data sizes =>
    rw [List.append_assoc]
    refine .written _ ?_ ?_ ?_
    · rw [count]
      exact moves_next moves later
    · have whole := skb.dataFrom_add offset (min actual txqMtu) (actual - min actual txqMtu)
      rw [Nat.add_sub_cancel' size] at whole
      simp [data, whole]
    · intro chunk member
      rcases List.mem_append.mp member with first | other
      · rw [List.mem_singleton.mp first]
        constructor
        · intro empty
          have none := congrArg List.length empty
          simp [WwanSkb.dataFrom] at none
          omega
        · simp [WwanSkb.dataFrom]
      · exact sizes chunk other
  | unallocated r sent' inside later lacks =>
    refine .unallocated (r + 1) sent' (by omega) (moves_next moves later) ?_
    rwa [Nat.add_comm r 1, ← Nat.add_assoc]
  | unsent r sent' inside later allocated refused =>
    have next : round + (r + 1) = round + 1 + r := by omega
    refine .unsent (r + 1) sent' (by omega) (moves_next moves later) ?_ ?_
    · rwa [next]
    · rwa [next]

theorem fastbootLoop_ends (calls : FastbootCalls) (skb : WwanSkb) (positive : 0 < txqMtu) (fuel round offset actual : Nat)
    (sent : List (List (BitVec 8))) (enough : actual < fuel) :
    ∃ run, fastbootLoop calls skb txqMtu fuel round offset actual sent = some run ∧
      FastbootEnd calls skb txqMtu round offset actual sent run := by
  -- each round takes bytes from `actual`, which the fuel exceeds
  induction fuel generalizing round offset actual sent with
  | zero => omega
  | succ fuel ih =>
    unfold fastbootLoop
    split
    · rename_i done
      subst done
      refine ⟨_, rfl, ?_⟩
      nth_rewrite 2 [← List.append_nil sent]
      exact .written [] (by simp [positive]) (by simp [WwanSkb.dataFrom]) (by simp)
    · rename_i left
      have some' : 0 < chunkCnt actual txqMtu := by
        rw [chunkCnt_next positive left]
        omega
      dsimp only
      split
      · rename_i lacks
        exact ⟨_, rfl, .unallocated 0 sent some' (by simp) lacks⟩
      · rename_i has
        have allocated : calls.alloc round = true := by simpa using has
        split
        · rename_i refused
          exact ⟨_, rfl, .unsent 0 sent some' (by simp) allocated refused⟩
        · rename_i taken
          have sentOk : calls.sendRet round = 0 := by simpa using taken
          obtain ⟨run, ran, ended⟩ := ih (round + 1) (offset + min actual txqMtu)
            (actual - min actual txqMtu) (sent ++ [skb.dataFrom offset (min actual txqMtu)])
            (by omega)
          exact ⟨run, ran, ended.next positive left ⟨allocated, sentOk⟩⟩

theorem FastbootEnd.reported_iff {run : FastbootRun}
    (ended : FastbootEnd calls skb txqMtu 0 0 skb.len [] run) :
    WriteReported skb txqMtu run ↔
      calls.TakesOffered (chunkCnt skb.len txqMtu) ∧
      ((∀ round < chunkCnt skb.len txqMtu, calls.Moves round) → skb.FollowsHead) := by
  cases ended with
  | written chunks moves data sizes =>
    simp only [Nat.zero_add] at moves
    rw [← skb.dataFrom_len, ← data]
    constructor
    · intro sound
      exact ⟨fun round below _ _ => (moves round below).2, fun _ => (sound.delivered rfl).1⟩
    · intro condition
      exact ⟨fun _ => ⟨condition.2 moves, sizes⟩, nofun, by simp⟩
  | unallocated r sent inside moves lacks =>
    simp only [Nat.zero_add] at moves lacks
    have alloc : ∀ round ≤ r, calls.alloc round = true → calls.sendRet round = 0 := by
      intro round most allocated
      rcases Nat.lt_or_eq_of_le most with before | same
      · exact (moves round before).2
      · rw [same, lacks] at allocated
        cases allocated
    constructor
    · intro _
      refine ⟨fun round _ before allocated => ?_, fun all => ?_⟩
      · rcases Nat.lt_or_ge r round with later | most
        · have moved := (before r later).1
          rw [lacks] at moved
          cases moved
        · exact alloc round most allocated
      · have moved := (all r inside).1
        rw [lacks] at moved
        cases moved
    · intro _
      exact ⟨fun zero => absurd zero (by simp [ENOMEM]), fun _ => by simp [ENOMEM], by simp [ENOMEM]⟩
  | unsent r sent inside moves allocated refused =>
    simp only [Nat.zero_add] at moves allocated refused
    constructor
    · intro sound
      exact absurd (sound.reported rfl) (lt_irrefl 0)
    · intro condition
      exact absurd (condition.1 r inside moves allocated) refused

end Rounds

/-- The write is reported as it went exactly where no chunk that is offered is refused and, when
    all go out, the whole skb lies behind `skb->data`. -/
theorem fastboot_write_reported (calls : FastbootCalls) (skb : WwanSkb) (txqMtu : Int)
    (positive : 0 < txqMtu) (fuel : Nat) (enough : skb.len < fuel) :
    ∃ run, fastbootTx calls skb txqMtu fuel = some run ∧
      (WriteReported skb txqMtu.toNat run ↔
        calls.TakesOffered (chunkCnt skb.len txqMtu.toNat) ∧
        ((∀ round < chunkCnt skb.len txqMtu.toNat, calls.Moves round) → skb.FollowsHead)) := by
  unfold fastbootTx
  rw [if_neg (by omega)]
  obtain ⟨run, ran, ended⟩ := fastbootLoop_ends calls skb
    (show 0 < txqMtu.toNat by omega) fuel 0 0 skb.len [] enough
  exact ⟨run, ran, ended.reported_iff⟩

def linearSkb : WwanSkb := { head := [1, 2, 3, 4, 5], frags := [], behind := fun _ => 0 }

theorem fastboot_write_reported_linear :
    ∃ run, fastbootTx { alloc := fun _ => true, sendRet := fun _ => 0 } linearSkb 2 6 = some run ∧
      (WriteReported linearSkb 2 run ↔
        FastbootCalls.TakesOffered { alloc := fun _ => true, sendRet := fun _ => 0 } 3 ∧
        ((∀ round < 3, FastbootCalls.Moves { alloc := fun _ => true, sendRet := fun _ => 0 } round) →
          linearSkb.FollowsHead)) :=
  fastboot_write_reported _ linearSkb 2 (by decide) 6 (by decide)

/-- The second of three chunks is refused: the function returns 0 with two bytes sent. -/
theorem refused_chunk_succeeds :
    ∃ run, fastbootTx { alloc := fun _ => true, sendRet := fun r => if r = 1 then - EIO else 0 }
        linearSkb 2 6 = some run ∧
      run.ret = 0 ∧ run.failed = true ∧ run.sent = [[1, 2]] ∧ ¬ WriteReported linearSkb 2 run := by
  refine ⟨_, rfl, rfl, rfl, rfl, fun sound => ?_⟩
  exact absurd (sound.reported rfl) (by decide)

end T7xxModel.Port
