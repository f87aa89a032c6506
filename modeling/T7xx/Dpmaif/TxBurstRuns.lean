import T7xx.Dpmaif.TxBurstKept

namespace T7xxModel.Dpmaif

open Transition

section Runs

structure BurstInv (start s : Burst) : Prop where
  queue : QueueKept start s
  ring : RingKept s
  order : OrderKept start s

variable {start s t : Burst}

theorem QueueKept.frame (kept : QueueKept start s) (queue : t.txq.txSkbHead = s.txq.txSkbHead)
    (arrived : t.arrived = s.arrived) (moved : t.moved = s.moved) (pc : t.pc = s.pc) :
    QueueKept start t := by
  refine ⟨by rw [arrived, moved, queue]; exact kept.queue, ?_, ?_, ?_, ?_⟩
  · rw [pc, queue]
    exact kept.head
  · rw [pc, moved]
    exact kept.counted
  · rw [pc, moved]
    exact kept.entry
  · rw [pc, moved]
    exact kept.returns

theorem release_queue (ringKept : RingKept s) (kept : QueueKept start s)
    (guard : s.pc.laid < s.ring.length) : QueueKept start (releaseRound s) := by
  rcases releaseRound_cases ringKept guard with ⟨log, same⟩ | ⟨txq, log, first, rest, _, moved, _, taken⟩
  · rw [same]
    exact kept.frame rfl rfl rfl rfl
  · rw [taken]
    exact kept.frame moved.waiting rfl rfl rfl

theorem RingKept.frame (kept : RingKept s) (size : t.txq.drbSizeCnt = s.txq.drbSizeCnt)
    (release : t.txq.drbReleaseRdIdx = s.txq.drbReleaseRdIdx) (write : t.txq.drbWrIdx = s.txq.drbWrIdx)
    (entries : entryAt t.txq = entryAt s.txq) (ring : t.ring = s.ring) (pc : t.pc = s.pc) :
    RingKept t := by
  obtain ⟨k, length, placed⟩ := kept.placed
  have same : t.inRing = s.inRing := by
    unfold Burst.inRing
    rw [ring, pc]
  refine ⟨by rw [size, release]; exact kept.release, by rw [size, release, write, same]; exact kept.write,
    by rw [size, same, pc]; exact kept.room, ⟨k, by rw [ring, pc]; exact length, ?_⟩, ?_⟩
  · rw [pc]
    unfold BurstPc.Placed at placed ⊢
    rw [size, release]
    exact placed
  · rw [ring]
    exact kept.held.frame size release fun i _ => by rw [entries]

theorem burstStep_inv (s : Burst) (label : BurstLabel) (t : Burst) (inv : BurstInv start s)
    (taken : burstStep s label = some t) : BurstInv start t := by
  cases label with
  | thread mapped =>
    have step := burstThread_step taken
    exact ⟨step.queue inv.queue, step.ring inv.ring, step.order inv.ring inv.order⟩
  | append skb =>
    cases taken
    refine ⟨⟨?_, ?_, inv.queue.counted, inv.queue.entry, inv.queue.returns⟩,
      inv.ring.frame rfl rfl rfl rfl rfl rfl, inv.order.move rfl rfl rfl rfl⟩
    · simp only [← List.append_assoc, inv.queue.queue]
    · intro first peeked
      obtain ⟨rest, head⟩ := inv.queue.head first peeked
      exact ⟨rest ++ [skb], by simp [head]⟩
  | release =>
    simp only [burstStep] at taken
    split at taken
    · rename_i guard
      cases taken
      exact ⟨release_queue inv.ring inv.queue guard, release_ring inv.ring guard,
        release_order inv.ring inv.order guard⟩
    · cases taken
  | power queStarted state =>
    cases taken
    exact ⟨inv.queue.frame rfl rfl rfl rfl, inv.ring.frame rfl rfl rfl rfl rfl rfl,
      inv.order.move rfl rfl rfl rfl⟩

theorem Burst.Begins.inv (begins : start.Begins) : BurstInv start start := by
  have length : start.ring.length =
      Ring.distance start.txq.drbSizeCnt start.txq.drbReleaseRdIdx start.txq.drbWrIdx := by
    rw [begins.ring, List.length_map, inFlight, Ring.slots_length, ringBufRdWrCount_read]
  have held := begins.ring
  unfold inFlight at held
  rw [ringBufRdWrCount_read, ← length] at held
  have below := Ring.distance_lt begins.release begins.write
  refine ⟨⟨?_, ?_, ?_, fun _ => begins.moved, ?_⟩, ⟨begins.release, ?_, ?_, ⟨start.ring.length, ?_, ?_⟩, held⟩,
    ⟨?_, ?_⟩⟩
  · rw [begins.arrived, begins.moved, List.append_nil, List.nil_append]
  · rw [begins.pc]
    nofun
  · rw [begins.pc]
    nofun
  · rw [begins.pc]
    nofun
  · unfold Burst.inRing
    rw [begins.pc, length]
    exact (Ring.add_distance begins.release begins.write).symm
  · unfold Burst.inRing
    rw [begins.pc, length]
    exact below
  · rw [begins.pc]
    rfl
  · rw [begins.pc]
    exact trivial
  · unfold drbHistory
    rw [begins.released, begins.moved, begins.pc]
    simp
  · rw [begins.released]
    exact Nat.zero_le _

theorem BurstInv.kept (inv : BurstInv start s) : BurstKept start s := by
  have room := inv.ring.room
  exact ⟨inv.queue.queue, inv.order.order, inv.ring.count, by omega, inv.ring.held, inv.queue.returns⟩

end Runs

section Returns

/-- The most steps that a round of the burst takes: an skb has 18 pieces at most. -/
def BURST_ROUND_STEPS : Nat := 24

/-- How many steps the burst may still take before it returns. -/
def BurstPc.rank : BurstPc → Nat
  | .entry => DPMAIF_SKB_TX_BURST_CNT * BURST_ROUND_STEPS + 2
  | .loop i _ _ _ => (DPMAIF_SKB_TX_BURST_CNT - i) * BURST_ROUND_STEPS + 1
  | .compare i _ _ _ _ => (DPMAIF_SKB_TX_BURST_CNT - i) * BURST_ROUND_STEPS
  | .add i _ _ _ => (DPMAIF_SKB_TX_BURST_CNT - (i + 1)) * BURST_ROUND_STEPS + 22
  | .map i _ _ _ _ _ _ pieces =>
    (DPMAIF_SKB_TX_BURST_CNT - (i + 1)) * BURST_ROUND_STEPS + 3 + pieces.length
  | .unlink i _ _ _ => (DPMAIF_SKB_TX_BURST_CNT - (i + 1)) * BURST_ROUND_STEPS + 2
  | .returned _ => 0

/-- An skb is looked at in one of the rounds of the burst only. -/
def BurstPc.InRound : BurstPc → Prop
  | .compare i _ _ _ _ => i < DPMAIF_SKB_TX_BURST_CNT
  | _ => True

def threadSteps (labels : List BurstLabel) : Nat :=
  labels.countP fun
    | .thread _ => true
    | _ => false

variable {s t : Burst} {mapped : Bool}

theorem burstThread_round (taken : burstThread mapped s = some t) : t.pc.InRound := by
  unfold burstThread at taken
  split at taken
  all_goals try split at taken
  all_goals try split at taken
  all_goals cases taken
  all_goals try exact trivial
  assumption

theorem ThreadStep.rank (round : s.pc.InRound) (step : ThreadStep s t) : t.pc.rank < s.pc.rank := by
  cases step with
  | snapshot at_ =>
    rw [at_]
    simp [BurstPc.rank]
  | finished at_ =>
    rw [at_]
    simp [BurstPc.rank, burstReturn]
  | peeked at_ head =>
    rw [at_]
    simp [BurstPc.rank]
  | short at_ =>
    rw [at_] at round ⊢
    simp only [BurstPc.rank, BurstPc.InRound, DPMAIF_SKB_TX_BURST_CNT, BURST_ROUND_STEPS] at round ⊢
    omega
  | fits at_ room =>
    rw [at_] at round ⊢
    simp only [BurstPc.rank, BurstPc.InRound, DPMAIF_SKB_TX_BURST_CNT, BURST_ROUND_STEPS] at round ⊢
    omega
  | refused at_ =>
    rw [at_]
    simp [BurstPc.rank, burstReturn]
  | @reserved i remain cnt skb at_ =>
    have few := skb.fragsBound
    rw [at_]
    simp only [BurstPc.rank, Skb.pieces, List.length_cons, List.length_map, MAX_SKB_FRAGS] at few ⊢
    omega
  | written at_ write =>
    rw [at_]
    simp [BurstPc.rank]
  | failed at_ =>
    rw [at_]
    simp only [BurstPc.rank, burstReturn]
    omega
  | added at_ =>
    rw [at_]
    simp [BurstPc.rank]
  | unlinked at_ =>
    rw [at_]
    simp [BurstPc.rank]

theorem burstThread_enabled (mapped : Bool) (s : Burst) :
    (∃ ret, s.pc = .returned ret) ∨ (burstThread mapped s).isSome := by
  unfold burstThread
  split
  all_goals try (right; rfl)
  · right
    split
    · split <;> rfl
    · rfl
  · right
    split <;> rfl
  · right
    split <;> rfl
  · right
    split <;> rfl
  · rename_i at_
    exact Or.inl ⟨_, at_⟩

theorem releaseRound_pc (s : Burst) : (releaseRound s).pc = s.pc := by
  unfold releaseRound
  dsimp only
  split <;> rfl

theorem burstStep_rank {label : BurstLabel} (round : s.pc.InRound)
    (taken : burstStep s label = some t) :
    t.pc.InRound ∧ threadSteps [label] + t.pc.rank ≤ s.pc.rank := by
  cases label with
  | thread mapped =>
    have lower := (burstThread_step taken).rank round
    exact ⟨burstThread_round taken, by simp [threadSteps]; omega⟩
  | append skb =>
    cases taken
    exact ⟨round, by simp [threadSteps]⟩
  | release =>
    simp only [burstStep] at taken
    split at taken
    · cases taken
      rw [releaseRound_pc]
      exact ⟨round, by simp [threadSteps]⟩
    · cases taken
  | power queStarted state =>
    cases taken
    exact ⟨round, by simp [threadSteps]⟩

/-- Every step of the burst lowers its rank, and nothing else raises it. -/
theorem run_rank {labels : List BurstLabel} (round : s.pc.InRound)
    (run : execute burstStep s labels = some t) : threadSteps labels + t.pc.rank ≤ s.pc.rank := by
  induction labels generalizing s with
  | nil =>
    cases run
    simp [threadSteps]
  | cons label labels ih =>
    simp only [execute, Option.bind_eq_some_iff] at run
    obtain ⟨u, taken, rest⟩ := run
    obtain ⟨within, first⟩ := burstStep_rank round taken
    have later := ih within rest
    have split : threadSteps (label :: labels) = threadSteps [label] + threadSteps labels := by
      unfold threadSteps
      rw [← List.singleton_append, List.countP_append]
    omega

end Returns

section Uninterrupted

/-- The steps of `t7xx_dpmaif_add_skb_to_ring` behind its first lock, where mapping `fails` fails. -/
def addLabels (fails : Option Nat) : List (Nat × Bool) → (wrCnt : Nat) → List BurstLabel
  | [], _ => [.thread true]
  | _ :: pieces, wrCnt =>
    if fails = some wrCnt then [.thread false] else .thread true :: addLabels fails pieces (wrCnt + 1)

/-- How the call ends once its pieces are written, or once a mapping has failed. -/
def afterPieces (i remain cnt : Nat) (skb : Skb) (backup : Nat) (u : Txq) (after : TxLog) :
    Option (Nat × Nat) → Txq × TxLog × BurstPc
  | none =>
    ({ u with txBudget := u.txBudget - skbDrbCnt skb },
      { after with added := after.added ++ [skb.id] }, .unlink i remain cnt skb)
  | some (wrCnt, curIdx) =>
    ({ u with drbWrIdx := backup }, unmapBuffers u wrCnt curIdx after, burstReturn cnt (-ENOMEM))

theorem map_uninterrupted (fails : Option Nat) {i remain cnt backup wrCnt curIdx : Nat} {skb : Skb}
    {pieces : List (Nat × Bool)} {s : Burst} {u : Txq} {after : TxLog} {stopped : Option (Nat × Nat)}
    (at_ : s.pc = .map i remain cnt skb backup wrCnt curIdx pieces)
    (written : addPieces skb.id fails pieces wrCnt curIdx s.txq s.log = (u, after, stopped)) :
    ∃ t, execute burstStep s (addLabels fails pieces wrCnt) = some t ∧
      (t.txq, t.log, t.pc) = afterPieces i remain cnt skb backup u after stopped := by
  induction pieces generalizing s wrCnt curIdx with
  | nil =>
    cases written
    exact ⟨_, by simp only [addLabels, execute, burstStep, burstThread, at_]; rfl, rfl⟩
  | cons piece pieces ih =>
    obtain ⟨dataLen, isFrag⟩ := piece
    unfold addPieces at written
    unfold addLabels
    by_cases broken : fails = some wrCnt
    · rw [if_pos broken] at written ⊢
      cases written
      exact ⟨_, by simp only [execute, burstStep, burstThread, at_]; rfl, rfl⟩
    · rw [if_neg broken] at written ⊢
      obtain ⟨t, run, result⟩ := ih (s := { s with
        txq := writePiece skb.id (ringBufGetNextWrIdx s.txq.drbSizeCnt curIdx)
          (s.log.mapped.length + 1) dataLen isFrag pieces.isEmpty s.txq
        log := { s.log with mapped := s.log.mapped ++ [s.log.mapped.length + 1] }
        ring := s.ring ++ [entryAt (writePiece skb.id (ringBufGetNextWrIdx s.txq.drbSizeCnt curIdx)
          (s.log.mapped.length + 1) dataLen isFrag pieces.isEmpty s.txq)
          (ringBufGetNextWrIdx s.txq.drbSizeCnt curIdx)]
        pc := .map i remain cnt skb backup (wrCnt + 1) (ringBufGetNextWrIdx s.txq.drbSizeCnt curIdx)
          pieces }) rfl written
      refine ⟨t, ?_, result⟩
      rw [execute]
      simp only [burstStep, burstThread, at_]
      exact run

/-- Without other threads in between the steps of the burst add an skb as `addSkbToRing` does. -/
theorem add_uninterrupted (fails : Option Nat) {i remain cnt : Nat} {skb : Skb} {s : Burst}
    (at_ : s.pc = .add i remain cnt skb) (active : s.txq.queStarted = true ∧ s.state = .pwron) :
    ∃ t, execute burstStep s (.thread true :: addLabels fails skb.pieces 0) = some t ∧
      (t.txq, t.log) = ((addSkbToRing s.state skb fails s.txq s.log).1,
        (addSkbToRing s.state skb fails s.txq s.log).2.1) ∧
      t.pc = if (addSkbToRing s.state skb fails s.txq s.log).2.2 < 0 then
        burstReturn cnt (addSkbToRing s.state skb fails s.txq s.log).2.2
      else .unlink i remain cnt skb := by
  have guard : ¬ (s.txq.queStarted = false ∨ s.state ≠ .pwron) := by simp [active.1, active.2]
  rcases written : addPieces skb.id fails skb.pieces 0 s.txq.drbWrIdx (reserveDrbs skb s.txq) s.log
    with ⟨u, after, stopped⟩
  obtain ⟨t, run, result⟩ := map_uninterrupted fails (s := { s with
    txq := reserveDrbs skb s.txq
    ring := s.ring ++ [entryAt (reserveDrbs skb s.txq) s.txq.drbWrIdx]
    pc := .map i remain cnt skb s.txq.drbWrIdx 0 s.txq.drbWrIdx skb.pieces }) rfl written
  refine ⟨t, ?_, ?_⟩
  · rw [execute]
    simp only [burstStep, burstThread, at_, if_neg guard]
    exact run
  · unfold addSkbToRing
    rw [if_neg guard, written]
    cases stopped
    all_goals
      obtain ⟨txq, rest⟩ := Prod.mk.inj result
      obtain ⟨log, pc⟩ := Prod.mk.inj rest
      exact ⟨Prod.ext txq log, pc⟩

end Uninterrupted

/-- A burst moves the first skbs of the queue into the ring, never over a DRB that is not released, and
    returns the number of their DRBs. It gets there in a bounded number of its own steps. -/
theorem burst_moves_prefix (start : Burst) (begins : start.Begins) (labels : List BurstLabel) :
    Visits (BurstKept start) burstStep start labels ∧
    ∀ t, execute burstStep start labels = some t →
      threadSteps labels + t.pc.rank ≤ DPMAIF_SKB_TX_BURST_CNT * BURST_ROUND_STEPS + 2 ∧
      ((∃ ret, t.pc = .returned ret) ∨ ∀ mapped, (burstStep t (.thread mapped)).isSome) := by
  constructor
  · exact Visits.of_kept (BurstInv start) (fun _ inv => inv.kept) burstStep_inv labels begins.inv
  · intro t run
    have rank := run_rank (by rw [begins.pc]; exact trivial) run
    rw [begins.pc] at rank
    refine ⟨rank, ?_⟩
    rcases burstThread_enabled true t with returned | enabled
    · exact Or.inl returned
    · refine Or.inr fun mapped => ?_
      rcases burstThread_enabled mapped t with ⟨ret, at_⟩ | goes
      · simp [burstThread, at_] at enabled
      · exact goes

def burstStart : Burst :=
  ⟨{ txqInit with queStarted := true, txSkbHead := [fragmentedSkb, linearSkb] }, .pwron,
    ⟨[], [], [], []⟩, .entry, [], [], [], 0⟩

/-- A burst in which an skb is appended, a DRB is released and the mapping of the second skb fails. -/
def failingBurst : List BurstLabel :=
  List.replicate 4 (.thread true) ++ [.append linearSkb] ++ List.replicate 7 (.thread true) ++
    [.release, .thread true, .thread false]

theorem burst_moves_prefix_failing :
    Visits (BurstKept burstStart) burstStep burstStart failingBurst ∧
    ∀ t, execute burstStep burstStart failingBurst = some t →
      threadSteps failingBurst + t.pc.rank ≤ DPMAIF_SKB_TX_BURST_CNT * BURST_ROUND_STEPS + 2 ∧
      ((∃ ret, t.pc = .returned ret) ∨ ∀ mapped, (burstStep t (.thread mapped)).isSome) :=
  burst_moves_prefix burstStart ⟨rfl, rfl, rfl, rfl, by decide, by decide, rfl⟩ failingBurst

end T7xxModel.Dpmaif
