import T7xx.Dpmaif.BatCleanup
import Mathlib.Logic.Function.Iterate

namespace T7xxModel.Dpmaif

/-- `t7xx_ring_buf_rd_wr_count` on 32 bits: the difference of the indices is read as an `int`. -/
def rdWrCount (totalCnt rdIdx wrIdx : BitVec 32) (rdWr : RdWr) : BitVec 32 :=
  let pktCnt := match rdWr with
    | .read => wrIdx - rdIdx
    | .write => rdIdx - wrIdx - 1
  if pktCnt.toInt < 0 then pktCnt + totalCnt else pktCnt

def nextWrIdx (bufLen bufIdx : BitVec 32) : BitVec 32 :=
  if bufIdx + 1 < bufLen then bufIdx + 1 else 0

/-- What `t7xx_dpmaif_update_bat_wr_idx` sets `bat_wr_idx` to; `none` is its `-EINVAL`. -/
def newBatWrIdx (queStarted : Bool) (batSizeCnt oldRlIdx oldWrIdx batCnt : BitVec 32) :
    Option (BitVec 32) :=
  let newWrIdx := oldWrIdx + batCnt
  if queStarted = false then none
  else if oldWrIdx < oldRlIdx ∧ oldRlIdx ≤ newWrIdx then none
  else if batSizeCnt ≤ newWrIdx then
    if oldRlIdx ≤ newWrIdx - batSizeCnt then none else some (newWrIdx - batSizeCnt)
  else some newWrIdx

/-- The loop of `t7xx_dpmaif_rx_frag_alloc`: its index and how many slots it filled. `has i` says that
    the slot of round `i` has a page or gets one. -/
def fragWalk (has : Nat → Bool) (batSizeCnt : BitVec 32) :
    (rounds i : Nat) → (curBatIdx : BitVec 32) → BitVec 32 × Nat
  | 0, i, curBatIdx => (curBatIdx, i)
  | rounds + 1, i, curBatIdx =>
    if has i then fragWalk has batSizeCnt rounds (i + 1) (nextWrIdx batSizeCnt curBatIdx)
    else (curBatIdx, i)

/-- What `t7xx_dpmaif_rx_frag_alloc` sets `bat_wr_idx` to; `none` is its `-EINVAL`. -/
def newFragWrIdx (has : Nat → Bool) (batSizeCnt releaseRdIdx wrIdx bufCnt : BitVec 32) :
    Option (BitVec 32) :=
  if bufCnt = 0 ∨ batSizeCnt < bufCnt then none
  else if rdWrCount batSizeCnt releaseRdIdx wrIdx .write < bufCnt then none
  else some (fragWalk has batSizeCnt bufCnt.toNat 0 wrIdx).1

section Counts

variable {total rd wr : BitVec 32}

structure RingIndices (total rd wr : BitVec 32) : Prop where
  size : total.toNat < 2 ^ 31
  rd : rd.toNat < total.toNat
  wr : wr.toNat < total.toNat

theorem rdWrCount_eq (indices : RingIndices total rd wr) (rdWr : RdWr) :
    (rdWrCount total rd wr rdWr).toNat = ringBufRdWrCount total.toNat rd.toNat wr.toNat rdWr := by
  obtain ⟨size, read, write⟩ := indices
  unfold rdWrCount ringBufRdWrCount
  cases rdWr with
  | read =>
    dsimp only
    have value : (wr - rd).toInt = (wr.toNat : Int) - rd.toNat := by
      rw [BitVec.toInt_eq_toNat_cond, BitVec.toNat_sub]
      split <;> omega
    rw [value]
    split
    · rw [BitVec.toNat_add, BitVec.toNat_sub]
      omega
    · rw [BitVec.toNat_sub]
      omega
  | write =>
    dsimp only
    have value : (rd - wr - 1).toInt = (rd.toNat : Int) - wr.toNat - 1 := by
      rw [BitVec.toInt_eq_toNat_cond, BitVec.toNat_sub, BitVec.toNat_sub]
      simp only [BitVec.ofNat_eq_ofNat, BitVec.toNat_ofNat]
      split <;> omega
    rw [value]
    split
    · rw [BitVec.toNat_add, BitVec.toNat_sub, BitVec.toNat_sub]
      simp only [BitVec.ofNat_eq_ofNat, BitVec.toNat_ofNat]
      omega
    · rw [BitVec.toNat_sub, BitVec.toNat_sub]
      simp only [BitVec.ofNat_eq_ofNat, BitVec.toNat_ofNat]
      omega

theorem nextWrIdx_eq (bufLen bufIdx : BitVec 32) (room : bufIdx.toNat + 1 < 2 ^ 32) :
    (nextWrIdx bufLen bufIdx).toNat = ringBufGetNextWrIdx bufLen.toNat bufIdx.toNat := by
  unfold nextWrIdx ringBufGetNextWrIdx
  have value : (bufIdx + 1).toNat = bufIdx.toNat + 1 := by
    rw [BitVec.toNat_add]
    exact Nat.mod_eq_of_lt room
  simp only [BitVec.lt_def, value]
  split
  · exact value
  · rfl

theorem nextWrIdx_iterate (indices : RingIndices total rd wr) (count : Nat) :
    ((nextWrIdx total)^[count] wr).toNat = (wr.toNat + count) % total.toNat := by
  obtain ⟨size, _, write⟩ := indices
  induction count with
  | zero => exact (Nat.mod_eq_of_lt write).symm
  | succ count ih =>
    have below : (wr.toNat + count) % total.toNat < total.toNat := Nat.mod_lt _ (by omega)
    rw [Function.iterate_succ_apply', nextWrIdx_eq _ _ (by omega), ih,
      ringBufGetNextWrIdx_mod _ (by omega)]
    rfl

theorem writeCount_eq (indices : RingIndices total rd wr) :
    (rdWrCount total rd wr .write).toNat =
      total.toNat - 1 - Ring.distance total.toNat rd.toNat wr.toNat := by
  rw [rdWrCount_eq indices, ringBufRdWrCount_write _ _ _ indices.rd indices.wr]

end Counts

section Tables

variable {total rl wr cnt : BitVec 32} {bat : Bat}

structure HasIndices (bat : Bat) (total rl wr : BitVec 32) : Prop where
  size : bat.batSizeCnt = total.toNat
  release : bat.batReleaseRdIdx = rl.toNat
  write : bat.batWrIdx = wr.toNat

theorem updateBatWrIdx_eq (queStarted : Bool) (indices : RingIndices total rl wr)
    (few : cnt.toNat ≤ total.toNat) (table : HasIndices bat total rl wr) :
    updateBatWrIdx queStarted cnt.toNat bat =
      match newBatWrIdx queStarted total rl wr cnt with
      | none => (bat, -EINVAL)
      | some idx => ({ bat with batWrIdx := idx.toNat }, 0) := by
  obtain ⟨size, release, write⟩ := indices
  have sum : (wr + cnt).toNat = wr.toNat + cnt.toNat := by
    rw [BitVec.toNat_add]
    omega
  have wrapped : total.toNat ≤ wr.toNat + cnt.toNat →
      (wr + cnt - total).toNat = wr.toNat + cnt.toNat - total.toNat := by
    intro past
    rw [BitVec.toNat_sub, sum]
    omega
  unfold updateBatWrIdx newBatWrIdx
  simp only [table.size, table.release, table.write, BitVec.lt_def, BitVec.le_def, sum]
  split
  · rfl
  split
  · rfl
  split
  · rename_i past
    rw [wrapped past]
    split
    · rfl
    · simp only [wrapped past]
  · simp only [sum]

theorem updateBatWrIdx_rejects {count : Nat} (bounds : BatBounds bat)
    (above : ringBufRdWrCount bat.batSizeCnt bat.batReleaseRdIdx bat.batWrIdx .write < count) :
    updateBatWrIdx true count bat = (bat, -EINVAL) := by
  have write := bounds.write
  have release := bounds.release
  rw [ringBufRdWrCount_write _ _ _ release write] at above
  unfold Ring.distance at above
  unfold updateBatWrIdx
  dsimp only
  rw [if_neg Bool.noConfusion]
  split at above
  · rw [if_neg (by omega), if_pos (by omega), if_pos (by omega)]
  · rw [if_pos (by omega)]

/-- Wrapped by the table or stepped on one by one, the index is the same. -/
theorem wrap_eq_iterate (indices : RingIndices total rl wr) (table : HasIndices bat total rl wr) {count : Nat}
    (few : count ≤ total.toNat) :
    bat.wrap (bat.batWrIdx + count) = ((nextWrIdx total)^[count] wr).toNat := by
  have below := indices.wr
  have advanced := Ring.advance_mod wr.toNat few (by omega)
  rw [Nat.mod_eq_of_lt below] at advanced
  rw [nextWrIdx_iterate indices, table.write, ← advanced]
  unfold Bat.wrap
  rw [table.size]

/-- An update by `cnt` entries steps the index on `cnt` times where there is room for them. -/
theorem newBatWrIdx_steps (queStarted : Bool) (indices : RingIndices total rl wr)
    (few : cnt.toNat ≤ total.toNat) :
    newBatWrIdx queStarted total rl wr cnt =
      if queStarted = true ∧ cnt.toNat ≤ (rdWrCount total rl wr .write).toNat then
        some ((nextWrIdx total)^[cnt.toNat] wr)
      else none := by
  cases queStarted with
  | false => rfl
  | true =>
    let bat : Bat := { batAlloc .normal with
      batSizeCnt := total.toNat, batReleaseRdIdx := rl.toNat, batWrIdx := wr.toNat }
    have table : HasIndices bat total rl wr := ⟨rfl, rfl, rfl⟩
    have bounds : BatBounds bat := ⟨indices.wr, indices.rd⟩
    have update := updateBatWrIdx_eq true indices few table
    have count := rdWrCount_eq indices .write
    have room := writeCount_eq indices
    have near := Ring.distance_lt indices.rd indices.wr
    have differ : (0 : Int) ≠ -EINVAL := by decide
    rw [count]
    by_cases fits : cnt.toNat ≤ ringBufRdWrCount total.toNat rl.toNat wr.toNat .write
    · rw [if_pos ⟨rfl, fits⟩]
      rw [updateBatWrIdx_accepts bounds (show Ring.distance total.toNat rl.toNat wr.toNat + cnt.toNat <
        total.toNat by omega)] at update
      cases moved : newBatWrIdx true total rl wr cnt with
      | none =>
        rw [moved] at update
        exact absurd (congrArg Prod.snd update) differ
      | some idx =>
        rw [moved] at update
        have index : bat.wrap (wr.toNat + cnt.toNat) = idx.toNat :=
          congrArg (fun result => result.1.batWrIdx) update
        congr 1
        apply BitVec.eq_of_toNat_eq
        rw [← index]
        exact wrap_eq_iterate indices table few
    · rw [if_neg fun both => fits both.2]
      rw [updateBatWrIdx_rejects bounds (Nat.lt_of_not_le fits)] at update
      cases moved : newBatWrIdx true total rl wr cnt with
      | none => rfl
      | some idx =>
        rw [moved] at update
        exact absurd (congrArg Prod.snd update).symm differ

end Tables

section Fragments

variable {has : Nat → Bool} {total rl wr cnt : BitVec 32} {bat : Bat} {allocs : Nat → Option Nat}

/-- The loop steps its index on once for each slot that it fills, up to the first it cannot fill. -/
theorem fragWalk_steps (has : Nat → Bool) (total : BitVec 32) (rounds i : Nat) (cur : BitVec 32) :
    ∃ filled ≤ rounds, fragWalk has total rounds i cur = ((nextWrIdx total)^[filled] cur, i + filled) ∧
      (∀ j < filled, has (i + j) = true) ∧ (filled < rounds → has (i + filled) = false) := by
  induction rounds generalizing i cur with
  | zero => exact ⟨0, le_rfl, rfl, fun j below => absurd below (Nat.not_lt_zero j), nofun⟩
  | succ rounds ih =>
    unfold fragWalk
    cases first : has i with
    | false => exact ⟨0, Nat.zero_le _, rfl, fun j below => absurd below (Nat.not_lt_zero j), fun _ => first⟩
    | true =>
      obtain ⟨filled, few, walked, all, stops⟩ := ih (i + 1) (nextWrIdx total cur)
      refine ⟨filled + 1, Nat.succ_le_succ few, ?_, ?_, ?_⟩
      · rw [if_pos rfl, walked, Function.iterate_succ_apply, Nat.add_assoc, Nat.add_comm 1 filled]
      · intro j below
        cases j with
        | zero => exact first
        | succ j =>
          have later := all j (by omega)
          rwa [Nat.add_assoc, Nat.add_comm 1 j] at later
      · intro more
        have stopped := stops (by omega)
        rwa [Nat.add_assoc, Nat.add_comm 1 filled] at stopped

theorem newFragWrIdx_steps (positive : 0 < cnt.toNat)
    (few : cnt.toNat ≤ total.toNat) (supplied : ∀ i < cnt.toNat, has i = true) :
    newFragWrIdx has total rl wr cnt =
      if cnt.toNat ≤ (rdWrCount total rl wr .write).toNat then
        some ((nextWrIdx total)^[cnt.toNat] wr)
      else none := by
  obtain ⟨filled, most, walked, _, stops⟩ := fragWalk_steps has total cnt.toNat 0 wr
  have all : filled = cnt.toNat := by
    by_contra short
    have missing := stops (by omega)
    rw [Nat.zero_add, supplied filled (by omega)] at missing
    cases missing
  have asked : ¬ (cnt = 0 ∨ total < cnt) := by
    rintro (zero | large)
    · rw [zero] at positive
      exact absurd positive (by decide)
    · rw [BitVec.lt_def] at large
      omega
  unfold newFragWrIdx
  rw [if_neg asked, walked, all]
  simp only [BitVec.lt_def]
  split
  · rw [if_neg (by omega)]
  · rw [if_pos (by omega)]

/-- Both loops stop at the first slot that is not supplied. -/
theorem fragWalk_fillBat (allocs : Nat → Option Nat) (bat : Bat) (total wr : BitVec 32) {rounds : Nat}
    (room : rounds ≤ bat.batSizeCnt) :
    fragWalk (fun i => decide (Supplied allocs bat i)) total rounds 0 wr =
      ((nextWrIdx total)^[(fillBat allocs bat.batWrIdx rounds 0 bat).2] wr,
        (fillBat allocs bat.batWrIdx rounds 0 bat).2) := by
  obtain ⟨supplied, ends⟩ := fillBat_supplied allocs bat.batWrIdx rounds 0 bat rfl rfl
    (by omega) fun _ _ _ => rfl
  have most := (fillBat_count allocs bat.batWrIdx rounds 0 bat).2
  obtain ⟨filled, fewer, walked, all, stops⟩ :=
    fragWalk_steps (fun i => decide (Supplied allocs bat i)) total rounds 0 wr
  have same : filled = (fillBat allocs bat.batWrIdx rounds 0 bat).2 := by
    rcases Nat.lt_trichotomy filled (fillBat allocs bat.batWrIdx rounds 0 bat).2 with less | equal | more
    · have missing := stops (by omega)
      rw [Nat.zero_add, decide_eq_false_iff_not] at missing
      exact absurd (supplied filled (Nat.zero_le _) less) missing
    · exact equal
    · have has := all _ more
      rw [Nat.zero_add, decide_eq_true_iff] at has
      exact absurd has (ends (by omega))
  rw [walked, Nat.zero_add, same]

theorem rxFragAlloc_index (initial : Bool) (indices : RingIndices total rl wr)
    (few : cnt.toNat ≤ total.toNat) (table : HasIndices bat total rl wr) :
    (rxFragAlloc allocs initial cnt.toNat bat).1.batWrIdx =
      match newFragWrIdx (fun i => decide (Supplied allocs bat i)) total rl wr cnt with
      | none => bat.batWrIdx
      | some idx => idx.toNat := by
  have room : cnt.toNat ≤ bat.batSizeCnt := by rw [table.size]; exact few
  have asked : (cnt = 0 ∨ total < cnt) ↔ (cnt.toNat = 0 ∨ bat.batSizeCnt < cnt.toNat) := by
    rw [BitVec.lt_def, table.size, ← BitVec.toNat_inj]
    rfl
  have count := rdWrCount_eq indices .write
  rw [← table.size, ← table.release, ← table.write] at count
  unfold rxFragAlloc newFragWrIdx
  by_cases bad : cnt = 0 ∨ total < cnt
  · rw [if_pos bad, if_pos (asked.mp bad)]
  rw [if_neg bad, if_neg (mt asked.mpr bad), ← count]
  by_cases short : rdWrCount total rl wr .write < cnt
  · rw [if_pos short, if_pos (BitVec.lt_def.mp short)]
  rw [if_neg short, if_neg (mt BitVec.lt_def.mpr short), fragWalk_fillBat allocs bat total wr room]
  have most := (fillBat_count allocs bat.batWrIdx cnt.toNat 0 bat).2
  have ring := fillBat_ring allocs bat.batWrIdx cnt.toNat 0 bat
  dsimp only
  rw [← wrap_eq_iterate indices table (show (fillBat allocs bat.batWrIdx cnt.toNat 0 bat).2 ≤ total.toNat by omega),
    ← ring.wrap]
  split
  · split
    · rw [(unmapAboveFirst_ring _ _).write]
    · rfl
  · rfl

end Fragments

/-- The counts are the distances on the ring, and both tables take the entries that fit, a normal one
    on a started queue only. -/
theorem ring_flow_control (queStarted : Bool) (total rl wr cnt : BitVec 32) (int : total.toNat < 2 ^ 31)
    (release : rl.toNat < total.toNat) (write : wr.toNat < total.toNat) (positive : 0 < cnt.toNat)
    (few : cnt.toNat ≤ total.toNat) :
    ((rdWrCount total rl wr .read).toNat : Int) = ((wr.toNat : Int) - rl.toNat) % total.toNat ∧
    ((rdWrCount total rl wr .write).toNat : Int) = ((rl.toNat : Int) - wr.toNat - 1) % total.toNat ∧
    newBatWrIdx queStarted total rl wr cnt =
      (if queStarted = true ∧ cnt.toNat ≤ (rdWrCount total rl wr .write).toNat then
        some ((nextWrIdx total)^[cnt.toNat] wr)
      else none) ∧
    ∀ has : Nat → Bool, (∀ i < cnt.toNat, has i = true) →
      newFragWrIdx has total rl wr cnt = newBatWrIdx true total rl wr cnt := by
  have indices : RingIndices total rl wr := ⟨int, release, write⟩
  refine ⟨?_, ?_, newBatWrIdx_steps queStarted indices few, fun has supplied => ?_⟩
  · rw [rdWrCount_eq indices, ringBufRdWrCount_read, Ring.distance_emod release write]
  · rw [writeCount_eq indices, Ring.room_emod release write]
  · rw [newFragWrIdx_steps positive few supplied, newBatWrIdx_steps true indices few]
    simp only [true_and]

theorem ring_flow_control_wraps :
    ((rdWrCount 8 2 6 .read).toNat : Int) = (((6#32).toNat : Int) - (2#32).toNat) % (8#32).toNat ∧
    ((rdWrCount 8 2 6 .write).toNat : Int) = (((2#32).toNat : Int) - (6#32).toNat - 1) % (8#32).toNat ∧
    newBatWrIdx true 8 2 6 3 =
      (if true = true ∧ (3#32).toNat ≤ (rdWrCount 8 2 6 .write).toNat then
        some ((nextWrIdx 8)^[(3#32).toNat] 6)
      else none) ∧
    ∀ has : Nat → Bool, (∀ i < (3#32).toNat, has i = true) →
      newFragWrIdx has 8 2 6 3 = newBatWrIdx true 8 2 6 3 :=
  ring_flow_control true 8 2 6 3 (by decide) (by decide) (by decide) (by decide) (by decide)

/-- A queue that was not started takes no entry, however much room there is; the fragment table does. -/
theorem stopped_queue_takes_none :
    ¬ ∀ (queStarted : Bool) (total rl wr cnt : BitVec 32), RingIndices total rl wr → 0 < cnt.toNat →
      cnt.toNat ≤ total.toNat →
      ((newBatWrIdx queStarted total rl wr cnt).isSome = true ↔
        cnt.toNat ≤ (rdWrCount total rl wr .write).toNat) ∧
      newFragWrIdx (fun _ => true) total rl wr cnt = newBatWrIdx queStarted total rl wr cnt := by
  intro always
  have empty : RingIndices 8 0 0 := ⟨by decide, by decide, by decide⟩
  have taken := (always false 8 0 0 1 empty (by decide) (by decide)).1.mpr (by decide)
  cases taken

end T7xxModel.Dpmaif
