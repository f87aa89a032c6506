import T7xx.Cldma.MappingQueues

namespace T7xxModel.Cldma

open Transition

section Books

variable {s t u : MapRun} {q : Qno}

theorem addMapped_some {new : Multiset Nat} (added : s.addMapped new = some u) :
    u = { s with mapped := s.mapped + new } ∧ (s.mapped.Nodup → (s.mapped + new).Nodup) := by
  unfold MapRun.addMapped at added
  split at added
  · rename_i fresh
    cases added
    refine ⟨rfl, fun old => Multiset.nodup_add.mpr ⟨old, fresh.1, ?_⟩⟩
    exact Multiset.disjoint_right.mpr fun {mapping} => fresh.2 mapping
  · cases added

theorem MapBooks.moved (books : MapBooks s) (new dropped : Multiset Nat)
    (mapped : t.mapped = s.mapped + new) (fresh : s.mapped.Nodup → (s.mapped + new).Nodup)
    (known : t.known + dropped = s.known + new)
    (cleared : t.skbCleared = false ↔ s.skbCleared = false ∧ dropped = 0)
    (collects : ∀ q, t.collected q ≠ some none) (rings : t.isLateInit = true → RingsSound t) :
    MapBooks t := by
  obtain ⟨lost, balance, all⟩ := books.balance
  refine ⟨?_, ⟨dropped + lost, ?_, ?_⟩, collects, rings⟩
  · rw [mapped]
    exact fresh books.fresh
  · rw [mapped, balance, add_right_comm, ← known, add_assoc]
  · rw [add_eq_zero, cleared, ← all, and_comm]

theorem MapBooks.kept (books : MapBooks s) (new : Multiset Nat) (mapped : t.mapped = s.mapped + new)
    (fresh : s.mapped.Nodup → (s.mapped + new).Nodup) (known : t.known = s.known + new)
    (cleared : t.skbCleared = s.skbCleared) (collects : ∀ q, t.collected q ≠ some none)
    (rings : t.isLateInit = true → RingsSound t) : MapBooks t := by
  refine books.moved new 0 mapped fresh ?_ ?_ collects rings
  · rw [add_zero, known]
  · rw [cleared, and_iff_left rfl]

theorem MapBooks.once (books : MapBooks s) :
    s.unmapped.Nodup ∧ ∀ mapping ∈ s.unmapped, mapping ∈ s.mapped := by
  obtain ⟨lost, balance, -⟩ := books.balance
  have within : s.unmapped ≤ s.mapped := by
    rw [balance, MapRun.known, add_assoc, add_assoc]
    exact Multiset.le_add_right _ _
  exact ⟨Multiset.nodup_of_le within books.fresh, fun _ member => Multiset.mem_of_le within member⟩

theorem taken_eq_zero (collects : ∀ q, s.collected q ≠ some none) :
    s.taken = 0 ↔ ∀ q, s.collected q = none := by
  unfold MapRun.taken
  rw [Ring.holdings_eq_zero]
  constructor
  · intro none q
    have empty := none q (Finset.mem_univ q)
    cases held : s.collected q with
    | none => rfl
    | some mappedBuff =>
      rw [held] at empty
      cases mappedBuff with
      | none => exact absurd held (collects q)
      | some mapping => simp [takenMapping] at empty
  · intro none q _
    rw [none q]
    rfl

theorem MapBooks.unmappedOnce_iff (books : MapBooks s) :
    UnmappedOnce s ↔ (s.isLateInit = false → s.skbCleared = false ∧ ∀ q, s.collected q = none) := by
  obtain ⟨once, made⟩ := books.once
  obtain ⟨lost, balance, all⟩ := books.balance
  have left : (s.isLateInit = false → ∀ mapping ∈ s.mapped, mapping ∈ s.unmapped) ↔
      (s.isLateInit = false → s.skbCleared = false ∧ ∀ q, s.collected q = none) := by
    refine imp_congr_right fun late => ?_
    have fresh := books.fresh
    rw [balance, MapRun.known, late, if_neg Bool.false_ne_true, add_zero, add_assoc] at fresh ⊢
    obtain ⟨-, -, apart⟩ := Multiset.nodup_add.mp fresh
    rw [← all, ← taken_eq_zero books.collects, and_comm, ← add_eq_zero]
    constructor
    · intro within
      refine Multiset.eq_zero_of_forall_notMem fun mapping member => ?_
      exact Multiset.disjoint_right.mp apart member
        (within mapping (Multiset.mem_add.mpr (.inr member)))
    · intro none
      rw [none, add_zero]
      exact fun _ => id
  rw [← left]
  exact ⟨fun held => held.released, fun released => ⟨once, made, released⟩⟩

end Books

section Initializing

theorem rxRingMappings_ok {alloc : Nat → AllocAndMap} {left i : Nat}
    (ok : (rxRingMappings alloc left i).2 = true) :
    (rxRingMappings alloc left i).1 = ∑ j ∈ Finset.range left, {(alloc (i + j)).addr} := by
  induction left generalizing i with
  | zero => rfl
  | succ left ih =>
    unfold rxRingMappings at ok ⊢
    cases answer : alloc i with
    | noMemory =>
      simp only [answer] at ok
      cases ok
    | mappingError =>
      simp only [answer] at ok
      cases ok
    | mapped buffer addr =>
      simp only [answer] at ok ⊢
      have shift : ∑ j ∈ Finset.range left, ({(alloc (i + (j + 1))).addr} : Multiset Nat) =
          ∑ j ∈ Finset.range left, {(alloc (i + 1 + j)).addr} := by
        refine Finset.sum_congr rfl fun j _ => ?_
        rw [Nat.add_assoc, Nat.add_comm 1 j]
      rw [Finset.sum_range_succ', shift, ← ih ok, show i + 0 = i from rfl, answer]
      exact (Multiset.singleton_add addr _).symm.trans (add_comm _ _)

theorem rxRingsMappings_ok {rx : Qno → Nat → AllocAndMap} {qs : List Qno}
    (ok : (rxRingsMappings rx qs).2 = true) (mappings : Qno → Multiset Nat)
    (held : ∀ q, mappings q = ∑ j ∈ Finset.range MAX_RX_BUDGET, {(rx q j).addr}) :
    (rxRingsMappings rx qs).1 = (qs.map mappings).sum := by
  induction qs with
  | nil => rfl
  | cons q qs ih =>
    unfold rxRingsMappings at ok ⊢
    dsimp only at ok ⊢
    split at ok
    · rename_i whole
      rw [if_pos whole, List.map_cons, List.sum_cons, ← ih ok, rxRingMappings_ok whole, held q]
      simp only [Nat.zero_add]
    · cases ok

theorem lateInit_ringMappings {s : MapRun} {allocs : RingAllocs} (cfgId : CldmaCfg)
    (hifId : CldmaId) (ok : (rxRingsMappings allocs.rx (List.finRange _)).2 = true)
    (tx : ∀ q, s.txq q = txqInit (allocs.txGpdAddr q))
    (rx : ∀ q, (s.rxq q).run.rxq = rxqInit cfgId q hifId (fun i => (allocs.rx q i).buffer)
      (fun i => (allocs.rx q i).addr) (allocs.rxGpdAddr q)) :
    s.ringMappings = (rxRingsMappings allocs.rx (List.finRange _)).1 := by
  have noTx : Ring.holdings Finset.univ CldmaQueue.mappings s.txq = 0 := by
    refine Ring.holdings_eq_zero.mpr fun q _ => Ring.holdings_eq_zero.mpr fun i _ => ?_
    rw [tx q]
    rfl
  have held (q : Qno) : (s.rxq q).run.rxq.mappings =
      ∑ j ∈ Finset.range MAX_RX_BUDGET, {(allocs.rx q j).addr} := by
    rw [rx q]
    rfl
  unfold MapRun.ringMappings
  rw [noTx, zero_add, rxRingsMappings_ok ok _ held]
  exact Fin.sum_univ_def _

end Initializing

section Stepping

variable {s t u : MapRun} {q : Qno} {hifId : CldmaId}

theorem known_late (late : s.isLateInit = true) :
    s.known = s.unmapped + s.taken + s.ringMappings := by
  unfold MapRun.known
  rw [if_pos late]

theorem setTxq_ringMappings (q : Qno) (queue : CldmaQueue MAX_TX_BUDGET) :
    (s.txq q).mappings + (s.setTxq q queue).ringMappings = queue.mappings + s.ringMappings := by
  have both := Ring.holdings_update (Finset.mem_univ q) CldmaQueue.mappings s.txq queue
  unfold MapRun.ringMappings MapRun.setTxq
  dsimp only
  rw [← add_assoc, both, add_assoc]

theorem setRxq_ringMappings (q : Qno) (rxq : DmaRun) :
    (s.rxq q).run.rxq.mappings + (s.setRxq q rxq).ringMappings =
      rxq.run.rxq.mappings + s.ringMappings := by
  have both := Ring.holdings_update (Finset.mem_univ q)
    (fun rxq : DmaRun => rxq.run.rxq.mappings) s.rxq rxq
  unfold MapRun.ringMappings MapRun.setRxq
  dsimp only at both ⊢
  rw [add_left_comm, both, add_left_comm]

theorem setTxq_gains {queue : CldmaQueue MAX_TX_BUDGET} {new : Multiset Nat}
    (gains : queue.mappings = new + (s.txq q).mappings) :
    (s.setTxq q queue).ringMappings = new + s.ringMappings := by
  have moved := @setTxq_ringMappings s q queue
  rw [gains, add_assoc, add_left_comm] at moved
  exact add_left_cancel moved

theorem setRxq_gains {rxq : DmaRun} {new : Multiset Nat}
    (gains : rxq.run.rxq.mappings = new + (s.rxq q).run.rxq.mappings) :
    (s.setRxq q rxq).ringMappings = new + s.ringMappings := by
  have moved := @setRxq_ringMappings s q rxq
  rw [gains, add_assoc, add_left_comm] at moved
  exact add_left_cancel moved

theorem setCollected_taken (q : Qno) (mappedBuff : Option (Option Nat)) :
    takenMapping (s.collected q) + (s.setCollected q mappedBuff).taken =
      takenMapping mappedBuff + s.taken :=
  Ring.holdings_update (Finset.mem_univ q) takenMapping s.collected mappedBuff

theorem RingsSound.setTxq (rings : RingsSound s) (q : Qno) {queue : CldmaQueue MAX_TX_BUDGET}
    (sound : TxMapped queue) : RingsSound (s.setTxq q queue) := by
  refine ⟨fun p => ?_, rings.rxWindow⟩
  by_cases here : p = q
  · subst here
    simpa [MapRun.setTxq] using sound
  · simpa [MapRun.setTxq, here] using rings.txMapped p

theorem RingsSound.setRxq (rings : RingsSound s) (q : Qno) {rxq : DmaRun}
    (window : ∃ lag, rxq.run.rxq.Window lag) : RingsSound (s.setRxq q rxq) := by
  refine ⟨rings.txMapped, fun p => ?_⟩
  by_cases here : p = q
  · subst here
    simpa [MapRun.setRxq] using window
  · simpa [MapRun.setRxq, here] using rings.rxWindow p

theorem MapBooks.traffic (books : MapBooks s) (before : s.isLateInit = true)
    (after : t.isLateInit = true) (new dropped : Multiset Nat)
    (mapped : t.mapped = s.mapped + new) (fresh : s.mapped.Nodup → (s.mapped + new).Nodup)
    (moved : t.unmapped + t.taken + t.ringMappings + dropped =
      s.unmapped + s.taken + s.ringMappings + new)
    (cleared : t.skbCleared = false ↔ s.skbCleared = false ∧ dropped = 0)
    (collects : ∀ q, t.collected q ≠ some none) (rings : RingsSound t) : MapBooks t := by
  refine books.moved new dropped mapped fresh ?_ cleared collects fun _ => rings
  rw [known_late before, known_late after]
  exact moved

theorem mapSend_books (books : MapBooks s) (late : s.isLateInit = true) {skb : SkBuff}
    {mapping : Option Nat} {active : Bool} (taken : mapSend q skb mapping active s = some t) :
    MapBooks t := by
  have rings := books.rings late
  unfold mapSend at taken
  split at taken
  · rename_i room
    obtain ⟨u, added, rfl⟩ := Option.map_eq_some_iff.mp taken
    obtain ⟨rfl, fresh⟩ := addMapped_some added
    have ring := setTxq_gains (send_mappings room skb mapping active)
    have kept := rings.setTxq q (send_txMapped (rings.txMapped q) room skb mapping active)
    refine books.traffic late late _ 0 rfl fresh ?_ (by simp [MapRun.setTxq]) books.collects
      ⟨kept.txMapped, kept.rxWindow⟩
    show s.unmapped + s.taken + (s.setTxq q _).ringMappings + 0 = _
    rw [ring]
    abel
  · cases taken

theorem mapTxDone_books (books : MapBooks s) (late : s.isLateInit = true)
    (i : Fin MAX_TX_BUDGET) : MapBooks (s.setTxq q (completeGpd (s.txq q) i)) := by
  have rings := books.rings late
  have ring := setTxq_gains ((@completeGpd_mappings (s.txq q) i).trans (zero_add _).symm)
  refine books.traffic late late 0 0 (add_zero _).symm (by simp) ?_
    (by simp [MapRun.setTxq]) books.collects
    (rings.setTxq q (completeGpd_txMapped (rings.txMapped q) i))
  show s.unmapped + s.taken + (s.setTxq q _).ringMappings + 0 = _
  rw [ring, zero_add]

theorem mapTxCollect_books (books : MapBooks s) (late : s.isLateInit = true)
    (taken : mapTxCollect q s = some t) : MapBooks t := by
  have rings := books.rings late
  unfold mapTxCollect at taken
  split at taken
  · rename_i rest disposed idle collected
    cases taken
    obtain ⟨leaves, some_mapping, sound⟩ := gpdTxCollect_mappings (rings.txMapped q) collected
    have moved := @setTxq_ringMappings s q rest
    have takes := @setCollected_taken s q
      (some ((s.txq q).request (s.txq q).trDone).mappedBuff)
    rw [idle] at takes
    rw [← leaves, add_right_comm, add_comm] at moved
    have ring := add_left_cancel moved
    rw [takenMapping, takenMapping, zero_add] at takes
    have kept := rings.setTxq q sound
    refine books.traffic late late 0 0 (add_zero _).symm (by simp) ?_
      (by simp [MapRun.setTxq, MapRun.setCollected]) (fun p => ?_) ⟨kept.txMapped, kept.rxWindow⟩
    · show s.unmapped + (s.setCollected q _).taken + (s.setTxq q rest).ringMappings + 0 = _
      rw [takes, ← ring]
      abel
    · by_cases here : p = q
      · subst here
        simpa [MapRun.setTxq, MapRun.setCollected] using some_mapping
      · simpa [MapRun.setTxq, MapRun.setCollected, here] using books.collects p
  · cases taken

/-- The buffer that a collection has taken is unmapped, whether or not the rings are still there. -/
theorem mapTxUnmap_books (books : MapBooks s) (taken : mapTxUnmap q s = some t) :
    MapBooks t := by
  obtain ⟨mappedBuff, held, rfl⟩ := Option.map_eq_some_iff.mp taken
  have gives := @setCollected_taken s q none
  rw [held, takenMapping, takenMapping, zero_add] at gives
  refine books.kept 0 (add_zero _).symm (by simp) ?_ rfl (fun p => ?_) fun late => ?_
  · unfold MapRun.known
    show s.unmapped + Ring.single mappedBuff + (s.setCollected q none).taken +
      (if s.isLateInit then s.ringMappings else 0) = _
    rw [← gives]
    abel
  · by_cases here : p = q
    · subst here
      simp [MapRun.setCollected]
    · simpa [MapRun.setCollected, here] using books.collects p
  · have rings := books.rings late
    exact ⟨rings.txMapped, rings.rxWindow⟩

theorem mapClearTxq_books (books : MapBooks s) (late : s.isLateInit = true) :
    MapBooks (mapClearTxq q s) := by
  have rings := books.rings late
  obtain ⟨empty, sound⟩ := @clearTxq_mappings (s.txq q)
  have moved := @setTxq_ringMappings s q (clearTxq (s.txq q)).1
  rw [empty, zero_add] at moved
  have kept := rings.setTxq q sound
  refine books.traffic late late 0 (s.txq q).mappings (add_zero _).symm (by simp) ?_ ?_
    books.collects ⟨kept.txMapped, kept.rxWindow⟩
  · show s.unmapped + s.taken + (s.setTxq q (clearTxq (s.txq q)).1).ringMappings +
      (s.txq q).mappings = _
    rw [← moved]
    abel
  · rw [mappings_eq_zero (rings.txMapped q)]
    simp [mapClearTxq]

theorem mapRx_books (books : MapBooks s) (late : s.isLateInit = true) {label : RxLabel}
    (taken : mapRx q label s = some t) : MapBooks t := by
  have rings := books.rings late
  obtain ⟨rxq, stepped, taken⟩ := Option.bind_eq_some_iff.mp taken
  split at taken
  · cases taken
  rename_i alive
  obtain ⟨u, added, rfl⟩ := Option.map_eq_some_iff.mp taken
  obtain ⟨rfl, fresh⟩ := addMapped_some added
  have window := rxStep_window (rings.rxWindow q) stepped
  have round := rxStep_mappings (rings.rxWindow q) stepped (Bool.eq_false_iff.mpr alive)
  have moved := @setRxq_ringMappings s q rxq
  have ring : rxUnmapped (s.rxq q) label + (s.setRxq q rxq).ringMappings =
      rxMapped (s.rxq q) rxq label + s.ringMappings := by
    have both : (s.rxq q).run.rxq.mappings +
        (rxUnmapped (s.rxq q) label + (s.setRxq q rxq).ringMappings) =
        (s.rxq q).run.rxq.mappings + (rxMapped (s.rxq q) rxq label + s.ringMappings) := by
      rw [add_left_comm, moved, ← add_assoc, round]
      abel
    exact add_left_cancel both
  have kept := rings.setRxq q window
  refine books.traffic late late _ 0 rfl fresh ?_ (by simp [MapRun.setRxq]) books.collects
    ⟨kept.txMapped, kept.rxWindow⟩
  show s.unmapped + rxUnmapped (s.rxq q) label + s.taken + (s.setRxq q rxq).ringMappings + 0 = _
  rw [add_zero, add_right_comm s.unmapped, add_assoc, ring]
  abel

theorem mapClearRxq_books (books : MapBooks s) (late : s.isLateInit = true)
    {alloc : Nat → AllocAndMap} (taken : mapClearRxq q alloc s = some t) : MapBooks t := by
  have rings := books.rings late
  obtain ⟨rxq, stepped, taken⟩ := Option.bind_eq_some_iff.mp taken
  obtain ⟨u, added, rfl⟩ := Option.map_eq_some_iff.mp taken
  obtain ⟨rfl, fresh⟩ := addMapped_some added
  have window := dmaStep_window (rings.rxWindow q) stepped
  simp only [DmaRun.step] at stepped
  split at stepped
  · cases stepped
  have ring := setRxq_gains (clearRxq_mappings stepped)
  have kept := rings.setRxq q window
  refine books.traffic late late _ 0 rfl fresh ?_ (by simp [MapRun.setRxq]) books.collects
    ⟨kept.txMapped, kept.rxWindow⟩
  show s.unmapped + s.taken + (s.setRxq q rxq).ringMappings + 0 = _
  rw [ring]
  abel

theorem mapLateInit_books (books : MapBooks s) {cfgId : CldmaCfg} {allocs : RingAllocs}
    (taken : mapLateInit hifId cfgId allocs s = some t) : MapBooks t := by
  unfold mapLateInit at taken
  split at taken
  · cases taken
    exact books
  rename_i fails
  have late : s.isLateInit = false := by
    rw [not_or, Bool.not_eq_true] at fails
    exact fails.1
  dsimp only at taken
  obtain ⟨u, added, made⟩ := Option.map_eq_some_iff.mp taken
  obtain ⟨rfl, fresh⟩ := addMapped_some added
  split at made
  · rename_i ok
    rw [← made]
    refine books.kept _ rfl fresh ?_ rfl books.collects fun _ => ⟨fun q i held => ?_, fun q => ?_⟩
    · rw [known_late rfl, lateInit_ringMappings cfgId hifId ok (fun _ => rfl) fun _ => rfl]
      unfold MapRun.known
      rw [late, if_neg Bool.false_ne_true, add_zero]
      rfl
    · cases held
    · exact ⟨0, rxqInit_window cfgId q hifId _ _ _⟩
  · rw [← made]
    refine books.kept _ rfl fresh ?_ rfl books.collects fun init => ?_
    · unfold MapRun.known
      simp only [late, Bool.false_eq_true, if_false, add_zero]
      exact add_right_comm _ _ _
    · exact absurd (late.symm.trans init) Bool.false_ne_true

theorem mapLateRelease_books (books : MapBooks s) : MapBooks (mapLateRelease s) := by
  unfold mapLateRelease
  split
  · exact books
  · rename_i init
    have late : s.isLateInit = true := by simpa using init
    refine books.kept 0 (add_zero _).symm (by simp) ?_ rfl books.collects nofun
    rw [known_late late]
    show s.unmapped + s.ringMappings + s.taken + 0 = _
    abel

/-- The other steps are those of a controller with its rings. -/
theorem with_rings {next : Option MapRun}
    (taken : (if s.isLateInit = false then none else next) = some t) :
    s.isLateInit = true ∧ next = some t := by
  split at taken
  · cases taken
  · rename_i init
    exact ⟨by simpa using init, taken⟩

theorem mapStep_books {label : MapLabel} (books : MapBooks s)
    (taken : s.step hifId label = some t) : MapBooks t := by
  cases label with
  | lateInit cfgId allocs => exact mapLateInit_books books taken
  | lateRelease =>
    cases taken
    exact mapLateRelease_books books
  | txUnmap q => exact mapTxUnmap_books books taken
  | send q skb mapping active =>
    obtain ⟨init, taken⟩ := with_rings taken
    exact mapSend_books books init taken
  | txDone q i =>
    obtain ⟨init, taken⟩ := with_rings taken
    cases taken
    exact mapTxDone_books books init i
  | txCollect q =>
    obtain ⟨init, taken⟩ := with_rings taken
    exact mapTxCollect_books books init taken
  | clearTxq q =>
    obtain ⟨init, taken⟩ := with_rings taken
    cases taken
    exact mapClearTxq_books books init
  | rx q label =>
    obtain ⟨init, taken⟩ := with_rings taken
    exact mapRx_books books init taken
  | clearRxq q alloc =>
    obtain ⟨init, taken⟩ := with_rings taken
    exact mapClearRxq_books books init taken

/-- Only `t7xx_cldma_late_release` takes the rings away. -/
theorem mapStep_rings {label : MapLabel} (taken : s.step hifId label = some t)
    (init : s.isLateInit = true) (stays : label ≠ .lateRelease) : t.isLateInit = true := by
  cases label with
  | lateInit cfgId allocs =>
    simp only [MapRun.step, mapLateInit, if_pos (Or.inl init)] at taken
    cases taken
    exact init
  | lateRelease => exact absurd rfl stays
  | txUnmap q =>
    obtain ⟨mappedBuff, -, rfl⟩ := Option.map_eq_some_iff.mp taken
    exact init
  | send q skb mapping active =>
    have taken := (with_rings taken).2
    unfold mapSend at taken
    split at taken
    · obtain ⟨u, added, rfl⟩ := Option.map_eq_some_iff.mp taken
      obtain ⟨rfl, -⟩ := addMapped_some added
      exact init
    · cases taken
  | txDone q i =>
    have taken := (with_rings taken).2
    cases taken
    exact init
  | txCollect q =>
    have taken := (with_rings taken).2
    unfold mapTxCollect at taken
    split at taken
    · cases taken
      exact init
    · cases taken
  | clearTxq q =>
    have taken := (with_rings taken).2
    cases taken
    exact init
  | rx q label =>
    have taken := (with_rings taken).2
    obtain ⟨rxq, -, taken⟩ := Option.bind_eq_some_iff.mp taken
    split at taken
    · cases taken
    · obtain ⟨u, added, rfl⟩ := Option.map_eq_some_iff.mp taken
      obtain ⟨rfl, -⟩ := addMapped_some added
      exact init
  | clearRxq q alloc =>
    have taken := (with_rings taken).2
    obtain ⟨rxq, -, taken⟩ := Option.bind_eq_some_iff.mp taken
    obtain ⟨u, added, rfl⟩ := Option.map_eq_some_iff.mp taken
    obtain ⟨rfl, -⟩ := addMapped_some added
    exact init

/-- A controller without its rings that does not get them loses nothing more. -/
theorem mapStep_without {label : MapLabel} (taken : s.step hifId label = some t)
    (without : s.isLateInit = false) :
    t.skbCleared = s.skbCleared ∧ ∀ q, s.collected q = none → t.collected q = none := by
  cases label with
  | lateInit cfgId allocs =>
    simp only [MapRun.step, mapLateInit] at taken
    split at taken
    · cases taken
      exact ⟨rfl, fun _ => id⟩
    · obtain ⟨u, added, made⟩ := Option.map_eq_some_iff.mp taken
      obtain ⟨rfl, -⟩ := addMapped_some added
      split at made
      · rw [← made]
        exact ⟨rfl, fun _ => id⟩
      · rw [← made]
        exact ⟨rfl, fun _ => id⟩
  | lateRelease =>
    cases taken
    unfold mapLateRelease
    rw [if_pos without]
    exact ⟨rfl, fun _ => id⟩
  | txUnmap q =>
    obtain ⟨mappedBuff, held, rfl⟩ := Option.map_eq_some_iff.mp taken
    refine ⟨rfl, fun p idle => ?_⟩
    by_cases here : p = q
    · simp [MapRun.setCollected, here]
    · simpa [MapRun.setCollected, here] using idle
  | _ =>
    simp only [MapRun.step, if_pos without] at taken
    cases taken

theorem mapStep_exact {label : MapLabel} (books : MapBooks s) (held : UnmappedOnce s)
    (taken : s.step hifId label = some t) : UnmappedOnce t ↔ ReleasesAll s label := by
  rw [(mapStep_books books taken).unmappedOnce_iff]
  have closed := books.unmappedOnce_iff.mp held
  by_cases without : s.isLateInit = false
  · obtain ⟨cleared, idle⟩ := mapStep_without taken without
    obtain ⟨kept, none⟩ := closed without
    have obeys : ReleasesAll s label := by
      cases label with
      | lateRelease => exact fun init => absurd (without.symm.trans init) Bool.false_ne_true
      | _ => trivial
    exact iff_of_true (fun _ => ⟨cleared.trans kept, fun q => idle q (none q)⟩) obeys
  · have init : s.isLateInit = true := by simpa using without
    by_cases release : label = .lateRelease
    · subst release
      cases taken
      unfold mapLateRelease
      rw [if_neg without]
      exact ⟨fun all _ => all rfl, fun all _ => all init⟩
    · have stays := mapStep_rings taken init release
      have obeys : ReleasesAll s label := by
        cases label with
        | lateRelease => exact absurd rfl release
        | _ => trivial
      refine iff_of_true (fun gone => ?_) obeys
      exact absurd (gone.symm.trans stays) Bool.false_ne_true

theorem mapInit_books (hifId : CldmaId) (proxy : PortProxy) (mdState : Fsm.MdState) :
    MapBooks (mapInit hifId proxy mdState) := by
  have empty : (mapInit hifId proxy mdState).taken = 0 :=
    Ring.holdings_eq_zero.mpr fun _ _ => rfl
  refine ⟨Multiset.nodup_zero, ⟨0, ?_, ?_⟩, nofun, nofun⟩
  · unfold MapRun.known
    rw [empty]
    rfl
  · exact iff_of_true rfl rfl

end Stepping

/-- Every buffer of the RX rings is mapped at a number of its own. -/
def plainRings : RingAllocs where
  txRings := true
  txGpdAddr := fun q i => 16 * (i + 1) + 256 * q
  rxGpdAddr := fun q i => 16 * (i + 1) + 256 * q
  rx := fun q i => .mapped (plainBuffer (adjustConfig .sharedQ q).1) (4096 * (16 * q + i + 1))

/-- An exception finds a message that the device has not taken, and the driver is removed. -/
def clearedMessage : List MapLabel :=
  [.lateInit .sharedQ plainRings, .send firstQno ⟨1, 64⟩ (some 7) true, .clearTxq firstQno, .lateRelease]

end T7xxModel.Cldma
