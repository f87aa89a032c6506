import T7xx.Dpmaif.TxEntries

namespace T7xxModel.Dpmaif

/-- What the caller of a failed `t7xx_dpmaif_add_skb_to_ring` relies on: the `k` mappings it made are
    undone once each, nothing else is, and the entries it wrote say nothing to a later stop. -/
structure RolledBack (k : Nat) (txq : Txq) (log : TxLog) (u : Txq) (after : TxLog) : Prop where
  unmapped : ∃ fresh gone, after.mapped = log.mapped ++ fresh ∧
    after.unmapped = log.unmapped ++ gone ∧ gone.Perm fresh
  freed : after.freed = log.freed
  write : u.drbWrIdx = txq.drbWrIdx
  budget : u.txBudget = txq.txBudget
  silent : ∀ i ∈ Ring.slots txq.drbSizeCnt txq.drbWrIdx (k + 1),
    flushUnmaps (u.drbSkbBase i) = none ∧ flushFrees (u.drbSkbBase i) = none

section Stopped

theorem writePiece_unmaps (skb curIdx busAddr dataLen : Nat) (isFrag isLastOne : Bool) (txq : Txq) :
    flushUnmaps ((writePiece skb curIdx busAddr dataLen isFrag isLastOne txq).drbSkbBase curIdx) =
      some busAddr := by
  simp [writePiece, recordDrbSkb, setupPayloadDrb, Txq.setDrb, Txq.setDrbSkb, flushUnmaps]

/-- Where the mapping of piece `wrCnt + k` fails, `k` pieces have been written, and the record of the
    last of them holds its address. -/
theorem addPieces_fails (skb wrCnt k a : Nat) (pieces : List (Nat × Bool)) (txq : Txq) (log : TxLog)
    (within : k < pieces.length) (pos : 0 < txq.drbSizeCnt) :
    ∃ u, addPieces skb (some (wrCnt + k)) pieces wrCnt (a % txq.drbSizeCnt) txq log =
        (u, { log with mapped := log.mapped ++ List.range' (log.mapped.length + 1) k },
          some (wrCnt + k, (a + k) % txq.drbSizeCnt)) ∧
      u.drbSizeCnt = txq.drbSizeCnt ∧
      (∀ i ∉ Ring.slots txq.drbSizeCnt (a + 1) k, u.drbSkbBase i = txq.drbSkbBase i) ∧
      (∀ j < k, k ≤ txq.drbSizeCnt + j →
        flushUnmaps (u.drbSkbBase ((a + 1 + j) % txq.drbSizeCnt)) = some (log.mapped.length + 1 + j)) := by
  induction pieces generalizing wrCnt k a txq log with
  | nil => simp at within
  | cons piece pieces ih =>
    obtain ⟨dataLen, isFrag⟩ := piece
    cases k with
    | zero =>
      refine ⟨txq, ?_, rfl, fun _ _ => rfl, nofun⟩
      simp [addPieces]
    | succ k =>
      have next := ringBufGetNextWrIdx_mod a (show 0 < txq.drbSizeCnt by omega)
      have first := writePiece_unmaps skb ((a + 1) % txq.drbSizeCnt) (log.mapped.length + 1) dataLen
        isFrag pieces.isEmpty txq
      obtain ⟨u, result, size, outside, addresses⟩ := ih (wrCnt + 1) k (a + 1)
        (writePiece skb ((a + 1) % txq.drbSizeCnt) (log.mapped.length + 1) dataLen isFrag
          pieces.isEmpty txq)
        { log with mapped := log.mapped ++ [log.mapped.length + 1] }
        (by simpa using within) pos
      rw [show wrCnt + 1 + k = wrCnt + (k + 1) by omega] at result
      refine ⟨u, ?_, size, ?_, ?_⟩
      · unfold addPieces
        rw [if_neg (by simp)]
        dsimp only
        rw [next]
        change addPieces skb _ pieces (wrCnt + 1) ((a + 1) % txq.drbSizeCnt) _ _ = _ at result
        rw [← writePiece, result]
        simp only [List.range'_succ, List.length_append, List.length_singleton, List.append_assoc,
          List.singleton_append]
        rw [show a + 1 + k = a + (k + 1) by omega]
        rfl
      · intro i absent
        rw [Ring.slots_succ, List.mem_cons, not_or] at absent
        rw [outside i absent.2]
        exact Function.update_of_ne absent.1 _ _
      · intro j early near
        cases j with
        | zero =>
          rw [outside, Nat.add_zero, first]
          exact slot_apart (show k < txq.drbSizeCnt by omega) _ List.mem_cons_self
        | succ j =>
          have later := addresses j (by omega) (by
            change k ≤ txq.drbSizeCnt + j
            omega)
          simp only [List.length_append, List.length_singleton] at later
          rw [show a + 1 + (j + 1) = a + 1 + 1 + j by omega,
            show log.mapped.length + 1 + (j + 1) = log.mapped.length + 1 + 1 + j by omega]
          exact later

/-- The rollback steps back before it unmaps: from place `a + n` on, it takes the `n` places from `a`
    on. -/
theorem unmapBuffers_back (n a : Nat) (txq : Txq) (log : TxLog) (pos : 0 < txq.drbSizeCnt) :
    unmapBuffers txq n ((a + n) % txq.drbSizeCnt) log =
      { log with unmapped := log.unmapped ++
          (List.range n).reverse.map fun j => (txq.drbSkbBase ((a + j) % txq.drbSizeCnt)).busAddr } := by
  induction n generalizing log with
  | zero => simp [unmapBuffers]
  | succ n ih =>
    have back : (if (a + (n + 1)) % txq.drbSizeCnt ≠ 0 then (a + (n + 1)) % txq.drbSizeCnt - 1
        else txq.drbSizeCnt - 1) = (a + n) % txq.drbSizeCnt := by
      have below := Nat.mod_lt (a + n) pos
      rw [← Nat.add_assoc]
      rcases Ring.mod_cases (a + n) (show 1 ≤ txq.drbSizeCnt from pos) pos with
        ⟨stays, value⟩ | ⟨wraps, value⟩
      · rw [value, if_pos (by omega)]
        omega
      · rw [value, if_neg (by omega)]
        omega
    unfold unmapBuffers
    dsimp only
    rw [back, ih]
    simp [List.range_succ]

end Stopped

section Rollback

variable {state : DpmaifState} {skb : Skb} {txq : Txq} {k : Nat}

/-- What a failed `t7xx_dpmaif_add_skb_to_ring` leaves. The message and the pieces before the last one
    written are unmapped, the last one is not, and the records of all pieces stay as they are. -/
theorem addSkbToRing_fails (skb : Skb) (log : TxLog) (active : txq.queStarted = true ∧ state = .pwron)
    (write : txq.drbWrIdx < txq.drbSizeCnt) (within : k ≤ skb.frags.length) :
    ∃ u, addSkbToRing state skb (some k) txq log =
        (u, { log with
          mapped := log.mapped ++ List.range' (log.mapped.length + 1) k
          unmapped := log.unmapped ++ (List.range k).reverse.map fun j =>
            (u.drbSkbBase ((txq.drbWrIdx + j) % txq.drbSizeCnt)).busAddr }, -ENOMEM) ∧
      u.drbWrIdx = txq.drbWrIdx ∧ u.txBudget = txq.txBudget ∧
      (∀ i ∉ Ring.slots txq.drbSizeCnt (txq.drbWrIdx + 1) k,
        u.drbSkbBase i = (reserveDrbs skb txq).drbSkbBase i) ∧
      (∀ j < k, k ≤ txq.drbSizeCnt + j →
        flushUnmaps (u.drbSkbBase ((txq.drbWrIdx + 1 + j) % txq.drbSizeCnt)) =
          some (log.mapped.length + 1 + j)) := by
  have pos : 0 < txq.drbSizeCnt := Nat.zero_lt_of_lt write
  have here : txq.drbWrIdx % txq.drbSizeCnt = txq.drbWrIdx := Nat.mod_eq_of_lt write
  have control := addPieces_control skb.id (some k) skb.pieces 0 txq.drbWrIdx (reserveDrbs skb txq) log
  obtain ⟨u, result, size, outside, addresses⟩ := addPieces_fails skb.id 0 k txq.drbWrIdx skb.pieces
    (reserveDrbs skb txq) log (by simp [Skb.pieces]; omega) pos
  change addPieces _ _ _ _ (txq.drbWrIdx % txq.drbSizeCnt) _ _ = _ at result
  rw [Nat.zero_add, here] at result
  rw [result] at control
  have back := unmapBuffers_back k txq.drbWrIdx u
    { log with mapped := log.mapped ++ List.range' (log.mapped.length + 1) k } (by rw [size]; exact pos)
  refine ⟨{ u with drbWrIdx := txq.drbWrIdx }, ?_, rfl, control.budget, outside, addresses⟩
  unfold addSkbToRing
  rw [if_neg (by simp [active.1, active.2]), result]
  dsimp only
  rw [size] at back
  rw [back]
  rfl

/-- The rollback unmaps the address 0 of the message record in place of the last mapping. -/
theorem failed_add_unmaps (log : TxLog) (active : txq.queStarted = true ∧ state = .pwron)
    (write : txq.drbWrIdx < txq.drbSizeCnt) (within : k + 1 ≤ skb.frags.length)
    (room : k + 1 < txq.drbSizeCnt) :
    (addSkbToRing state skb (some (k + 1)) txq log).2.1.unmapped =
      log.unmapped ++ (List.range' (log.mapped.length + 1) k).reverse ++ [0] := by
  obtain ⟨u, result, _, _, outside, addresses⟩ := addSkbToRing_fails skb log active write within
  have message : (u.drbSkbBase ((txq.drbWrIdx + 0) % txq.drbSizeCnt)).busAddr = 0 := by
    have here : txq.drbWrIdx % txq.drbSizeCnt = txq.drbWrIdx := Nat.mod_eq_of_lt write
    rw [Nat.add_zero, outside _ (slot_apart room _ List.mem_cons_self)]
    simp [here, reserveDrbs, recordDrbSkb, setupMsgDrb, Txq.setDrb, Txq.setDrbSkb]
  have pieces : (List.range k).map (fun j =>
      (u.drbSkbBase ((txq.drbWrIdx + (j + 1)) % txq.drbSizeCnt)).busAddr) =
        List.range' (log.mapped.length + 1) k := by
    rw [List.range'_eq_map_range]
    apply List.map_congr_left
    intro j early
    have address := addresses j (by simp at early; omega) (by omega)
    rw [show txq.drbWrIdx + (j + 1) = txq.drbWrIdx + 1 + j by omega]
    unfold flushUnmaps at address
    split at address
    · cases address
    · exact Option.some.inj address
  rw [result]
  dsimp only
  rw [List.range_succ_eq_map, List.reverse_cons, List.map_append, List.map_singleton, message,
    ← List.map_reverse, List.map_map, ← List.append_assoc, List.map_reverse, ← pieces]
  rfl

theorem rolledBack_first (log : TxLog) (active : txq.queStarted = true ∧ state = .pwron)
    (write : txq.drbWrIdx < txq.drbSizeCnt) :
    RolledBack 0 txq log (addSkbToRing state skb (some 0) txq log).1
      (addSkbToRing state skb (some 0) txq log).2.1 := by
  obtain ⟨u, result, wrIdx, budget, outside, _⟩ :=
    addSkbToRing_fails skb log active write (Nat.zero_le _)
  rw [result]
  refine ⟨⟨[], [], by simp, by simp, List.Perm.refl _⟩, rfl, wrIdx, budget, ?_⟩
  intro i member
  rw [Ring.slots_succ, Ring.slots_zero, List.mem_singleton, Nat.mod_eq_of_lt write] at member
  rw [outside i List.not_mem_nil, member]
  simp [reserveDrbs, recordDrbSkb, setupMsgDrb, Txq.setDrb, Txq.setDrbSkb, flushUnmaps, flushFrees]

theorem not_rolledBack (log : TxLog) (active : txq.queStarted = true ∧ state = .pwron)
    (write : txq.drbWrIdx < txq.drbSizeCnt) (within : k + 1 ≤ skb.frags.length) :
    ¬ RolledBack (k + 1) txq log (addSkbToRing state skb (some (k + 1)) txq log).1
      (addSkbToRing state skb (some (k + 1)) txq log).2.1 := by
  intro rolled
  obtain ⟨u, result, _, _, _, addresses⟩ := addSkbToRing_fails skb log active write within
  rw [result] at rolled
  have place : (txq.drbWrIdx + 1 + k) % txq.drbSizeCnt ∈
      Ring.slots txq.drbSizeCnt txq.drbWrIdx (k + 1 + 1) := by
    rw [Ring.mem_slots]
    exact ⟨k + 1, by omega, by rw [Nat.add_right_comm, Nat.add_assoc]⟩
  have kept := addresses k (by omega) (by omega)
  rw [(rolled.silent _ place).1] at kept
  cases kept

end Rollback

/-- A failed add undoes what it did exactly when its first mapping is the one that fails. -/
theorem failed_add_rolls_back (state : DpmaifState) (skb : Skb) (k : Nat) (txq : Txq) (log : TxLog)
    (active : txq.queStarted = true ∧ state = .pwron) (write : txq.drbWrIdx < txq.drbSizeCnt)
    (within : k ≤ skb.frags.length) :
    RolledBack k txq log (addSkbToRing state skb (some k) txq log).1
      (addSkbToRing state skb (some k) txq log).2.1 ↔ k = 0 := by
  constructor
  · intro rolled
    cases k with
    | zero => rfl
    | succ k => exact absurd rolled (not_rolledBack log active write within)
  · rintro rfl
    exact rolledBack_first log active write

def startedTxq : Txq := { txqInit with queStarted := true }

theorem failed_add_rolls_back_linear :
    RolledBack 0 startedTxq ⟨[], [], [], []⟩
      (addSkbToRing .pwron ⟨0, 100, 100, [], 0, by decide⟩ (some 0) startedTxq ⟨[], [], [], []⟩).1
      (addSkbToRing .pwron ⟨0, 100, 100, [], 0, by decide⟩ (some 0) startedTxq
        ⟨[], [], [], []⟩).2.1 :=
  (failed_add_rolls_back _ _ _ _ _ ⟨rfl, rfl⟩ (by decide) (by decide)).mpr rfl

/-- The second of two mappings fails, and the first stays. -/
theorem failed_add_leaks_mapping :
    ¬ ∀ state skb k txq log, txq.queStarted = true ∧ state = .pwron →
      txq.drbWrIdx < txq.drbSizeCnt → k ≤ skb.frags.length →
      RolledBack k txq log (addSkbToRing state skb (some k) txq log).1
        (addSkbToRing state skb (some k) txq log).2.1 := by
  intro always
  have within : 0 + 1 ≤ (⟨0, 180, 100, [80], 0, by decide⟩ : Skb).frags.length := le_rfl
  have write : startedTxq.drbWrIdx < startedTxq.drbSizeCnt := by decide
  exact not_rolledBack ⟨[], [], [], []⟩ ⟨rfl, rfl⟩ write within
    (always .pwron _ _ startedTxq _ ⟨rfl, rfl⟩ write within)

end T7xxModel.Dpmaif
