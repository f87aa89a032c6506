import T7xx.Dpmaif.BatRefill
import T7xx.Ring.Holdings

namespace T7xxModel.Dpmaif

section Buffers

def Bat.recorded (bat : Bat) : Multiset Nat :=
  Ring.holdings (Finset.range bat.batSizeCnt) Ring.single bat.batSkb

/-- The buffers that a call takes from the kernel and those that it gives back. -/
structure Buffers where
  taken : Multiset Nat
  freed : Multiset Nat

def Buffers.none : Buffers := ⟨0, 0⟩

def fillTaken (allocs : Nat → Option Nat) (start : Nat) : (rounds i : Nat) → Bat → Multiset Nat
  | 0, _, _ => 0
  | rounds + 1, i, bat =>
    let cur := bat.wrap (start + i)
    match bat.batSkb cur with
    | some addr => fillTaken allocs start rounds (i + 1) (bat.post cur addr)
    | none =>
      match allocs i with
      | none => 0
      | some addr => addr ::ₘ fillTaken allocs start rounds (i + 1) (bat.post cur addr)

def unmapFirstFreed : Nat → Bat → Multiset Nat
  | 0, _ => 0
  | i + 1, bat => Ring.single (bat.batSkb i) + unmapFirstFreed i (unmapBatBuf i bat)

def unmapAboveFirstFreed : Nat → Bat → Multiset Nat
  | 0, _ => 0
  | 1, _ => 0
  | i + 2, bat =>
    Ring.single (bat.batSkb (i + 1)) + unmapAboveFirstFreed (i + 1) (unmapBatBuf (i + 1) bat)

/-- The buffers of the initial `t7xx_dpmaif_rx_buf_alloc`. -/
def rxBufAllocBuffers (allocs : Nat → Option Nat) (queStarted : Bool) (bufCnt : Nat) (bat : Bat) :
    Buffers :=
  if bufCnt = 0 ∨ bat.batSizeCnt < bufCnt then .none
  else if ringBufRdWrCount bat.batSizeCnt bat.batReleaseRdIdx bat.batWrIdx .write < bufCnt then .none
  else
    let (filled, i) := fillBat allocs bat.batWrIdx bufCnt 0 bat
    let taken := fillTaken allocs bat.batWrIdx bufCnt 0 bat
    if i = 0 then ⟨taken, 0⟩
    else
      let (posted, ret) := updateBatWrIdx queStarted i filled
      ⟨taken, if ret ≠ 0 then unmapFirstFreed i posted else 0⟩

/-- The buffers of the initial `t7xx_dpmaif_rx_frag_alloc`. -/
def rxFragAllocBuffers (allocs : Nat → Option Nat) (bufCnt : Nat) (bat : Bat) : Buffers :=
  if bufCnt = 0 ∨ bat.batSizeCnt < bufCnt then .none
  else if ringBufRdWrCount bat.batSizeCnt bat.batReleaseRdIdx bat.batWrIdx .write < bufCnt then .none
  else
    let (filled, i) := fillBat allocs bat.batWrIdx bufCnt 0 bat
    let posted := { filled with batWrIdx := filled.wrap (bat.batWrIdx + i) }
    ⟨fillTaken allocs bat.batWrIdx bufCnt 0 bat,
      if i < bufCnt then unmapAboveFirstFreed i posted else 0⟩

def batFreeFreed (bat : Bat) : Multiset Nat := if bat.refcnt - 1 ≠ 0 then 0 else bat.recorded

end Buffers

section Calls

/-- What `t7xx_dpmaif_start` is answered: by the allocator, by `t7xx_dpmaif_hw_init`, and by the two
    calls that tell the hardware of the entries. -/
structure StartAnswers where
  bufAllocs : Nat → Option Nat
  fragAllocs : Nat → Option Nat
  hwInit : Int
  sndBatCnt : Int
  sndFrgCnt : Int

structure StartEnd where
  path : RxPath
  ret : Int
  normal : Buffers
  frag : Buffers

def StartEnd.buffers (e : StartEnd) : BatType → Buffers
  | .normal => e.normal
  | .frag => e.frag

def StartAnswers.hwRet (a : StartAnswers) : Int :=
  if a.hwInit ≠ 0 then a.hwInit else if a.sndBatCnt ≠ 0 then a.sndBatCnt else a.sndFrgCnt

/-- `t7xx_dpmaif_start` with the value it returns. -/
def dpmaifStart (a : StartAnswers) (s : RxPath) : Option StartEnd :=
  if s.state = .pwron then some ⟨s, -EFAULT, .none, .none⟩
  else if s.normal.freed then none
  else
    let s := { s with queStarted := true }
    let bufCnt := s.normal.batSizeCnt - 1
    let normalBufs := rxBufAllocBuffers a.bufAllocs true bufCnt (clearBitmap s.normal)
    let (normal, ret) := rxBufAlloc a.bufAllocs true none bufCnt (clearBitmap s.normal)
    if ret ≠ 0 then some ⟨{ s with normal }, ret, normalBufs, .none⟩
    else
      let bufCnt := s.frag.batSizeCnt - 1
      let fragBufs := rxFragAllocBuffers a.fragAllocs bufCnt s.frag
      let (frag, ret) := rxFragAlloc a.fragAllocs true bufCnt s.frag
      -- `err_free_normal_bat`, and before it `err_free_frag_bat`
      let dropped := { normalBufs with freed := normalBufs.freed + batFreeFreed normal }
      if ret ≠ 0 then some ⟨{ s with normal := batFree normal, frag }, ret, dropped, fragBufs⟩
      else if a.hwRet ≠ 0 then
        some ⟨{ s with normal := batFree normal, frag := batFree frag }, a.hwRet, dropped,
          { fragBufs with freed := fragBufs.freed + batFreeFreed frag }⟩
      else some ⟨{ s with normal, frag, state := .pwron }, 0, normalBufs, fragBufs⟩

/-- `t7xx_dpmaif_stop`, seen from the RX side, with the value it returns. -/
def dpmaifStop (swInitDone : Bool) (s : RxPath) : Option (RxPath × Int) :=
  if swInitDone = false then some (s, -EFAULT)
  else if s.state = .pwroff then some (s, -EFAULT)
  else (rxStop s).map fun stopped => (stopped, 0)

end Calls

section Contract

/-- A data path that was stopped: its tables have room for all their entries but one. -/
structure Cleared (s : RxPath) : Prop where
  off : s.state = .pwroff
  alive : s.normal.freed = false
  rest : ∀ type, AtRest (s.table type)
  empty : ∀ type, (s.table type).batWrIdx = 0

def StartAnswers.Good (a : StartAnswers) : Prop :=
  (∀ i, a.bufAllocs i ≠ none) ∧ (∀ i, a.fragAllocs i ≠ none) ∧ a.hwRet = 0

/-- The buffers that `t` records, with those freed, are the ones that `s` recorded and those taken. -/
def Balanced (t u : Bat) (taken freed : Multiset Nat) : Prop :=
  t.recorded + taken = freed + u.recorded

/-- A stop and a start without a failure bring the data path up after a start that failed, with the
    references that it had and no buffer lost. -/
def Recovers (swInitDone : Bool) (again : StartAnswers) (s : RxPath) (failed : StartEnd) : Prop :=
  ∃ stopped restarted, dpmaifStop swInitDone failed.path = some stopped ∧
    dpmaifStart again stopped.1 = some restarted ∧ restarted.ret = 0 ∧
    ∀ type, (restarted.path.table type).refcnt = (s.table type).refcnt ∧
      Balanced (s.table type) (restarted.path.table type)
        ((failed.buffers type).taken + (restarted.buffers type).taken)
        ((failed.buffers type).freed + (restarted.buffers type).freed)

/-- Neither the first slot of the normal table nor the allocator has a buffer for it. -/
def NoFirstBuffer (a : StartAnswers) (s : RxPath) : Prop :=
  s.normal.batSkb 0 = none ∧ a.bufAllocs 0 = none

end Contract

section Balance

variable {allocs : Nat → Option Nat} {bat : Bat}

theorem recorded_slot {idx : Nat} (below : idx < bat.batSizeCnt) :
    bat.recorded = Ring.single (bat.batSkb idx) + (unmapBatBuf idx bat).recorded :=
  (Ring.holdings_empty (Finset.mem_range.mpr below) Ring.single bat.batSkb rfl).symm

theorem recorded_post {idx addr : Nat} (below : idx < bat.batSizeCnt) :
    Ring.single (bat.batSkb idx) + (bat.post idx addr).recorded = addr ::ₘ bat.recorded :=
  Ring.holdings_update (Finset.mem_range.mpr below) Ring.single bat.batSkb (some addr)

theorem fillBat_balanced (start rounds i : Nat) (bat : Bat) (write : start < bat.batSizeCnt)
    (fits : i + rounds ≤ bat.batSizeCnt) :
    bat.recorded + fillTaken allocs start rounds i bat =
      (fillBat allocs start rounds i bat).1.recorded := by
  induction rounds generalizing i bat with
  | zero => exact add_zero _
  | succ rounds ih =>
    have below : bat.wrap (start + i) < bat.batSizeCnt := Ring.wrap_lt (by omega)
    have rest (addr : Nat) := ih (i + 1) (bat.post (bat.wrap (start + i)) addr) write (by
      show i + 1 + rounds ≤ bat.batSizeCnt
      omega)
    unfold fillTaken fillBat
    dsimp only
    cases held : bat.batSkb (bat.wrap (start + i)) with
    | some addr =>
      have kept : (bat.post (bat.wrap (start + i)) addr).recorded = bat.recorded := by
        have posted := @recorded_post bat _ addr below
        rw [held, Ring.single_some, Multiset.singleton_add] at posted
        exact (Multiset.cons_inj_right addr).mp posted
      dsimp only
      rw [← rest addr, kept]
    | none =>
      dsimp only
      cases given : allocs i with
      | none => exact add_zero _
      | some addr =>
        have posted := @recorded_post bat _ addr below
        rw [held, Ring.single_none, zero_add] at posted
        dsimp only
        rw [← rest addr, posted, Multiset.add_cons, Multiset.cons_add]

theorem fillBat_within {bufCnt : Nat} (bounds : BatBounds bat) (fits : bufCnt ≤ bat.batSizeCnt) :
    bat.recorded + fillTaken allocs bat.batWrIdx bufCnt 0 bat =
        (fillBat allocs bat.batWrIdx bufCnt 0 bat).1.recorded ∧
      (fillBat allocs bat.batWrIdx bufCnt 0 bat).2 ≤
        (fillBat allocs bat.batWrIdx bufCnt 0 bat).1.batSizeCnt := by
  have count := (fillBat_count allocs bat.batWrIdx bufCnt 0 bat).2
  have size := (fillBat_ring allocs bat.batWrIdx bufCnt 0 bat).size
  refine ⟨fillBat_balanced bat.batWrIdx bufCnt 0 bat bounds.write (by omega), ?_⟩
  rw [size]
  omega

theorem unmapFirst_balanced {i : Nat} (bat : Bat) (inside : i ≤ bat.batSizeCnt) :
    bat.recorded = unmapFirstFreed i bat + (unmapFirst i bat).recorded := by
  induction i generalizing bat with
  | zero => exact (zero_add _).symm
  | succ i ih =>
    unfold unmapFirstFreed unmapFirst
    rw [add_assoc, ← ih (unmapBatBuf i bat) (Nat.le_of_succ_le inside)]
    exact recorded_slot inside

theorem unmapAboveFirst_balanced (i : Nat) (bat : Bat) (inside : i ≤ bat.batSizeCnt) :
    bat.recorded = unmapAboveFirstFreed i bat + (unmapAboveFirst i bat).recorded := by
  induction i, bat using unmapAboveFirst.induct with
  | case1 bat => exact (zero_add _).symm
  | case2 bat => exact (zero_add _).symm
  | case3 i bat ih =>
    unfold unmapAboveFirstFreed unmapAboveFirst
    rw [add_assoc, ← ih (Nat.le_of_succ_le inside)]
    exact recorded_slot inside

theorem balanced_refl (bat : Bat) : Balanced bat bat 0 0 := by
  unfold Balanced
  rw [add_zero, zero_add]

theorem batFree_balanced (bat : Bat) : Balanced bat (batFree bat) 0 (batFreeFreed bat) := by
  unfold Balanced batFreeFreed batFree
  dsimp only
  rw [add_zero]
  split
  · exact (zero_add _).symm
  · have emptied : Ring.holdings (Finset.range bat.batSizeCnt) Ring.single
        (fun i => if i < bat.batSizeCnt then none else bat.batSkb i) = 0 := by
      refine Ring.holdings_eq_zero.mpr fun idx inside => ?_
      rw [if_pos (Finset.mem_range.mp inside)]
      rfl
    show bat.recorded = bat.recorded + Ring.holdings (Finset.range bat.batSizeCnt) Ring.single
      (fun i => if i < bat.batSizeCnt then none else bat.batSkb i)
    rw [emptied, add_zero]

theorem Balanced.trans {t u v : Bat} {taken freed more given : Multiset Nat}
    (first : Balanced t u taken freed) (second : Balanced u v more given) :
    Balanced t v (taken + more) (freed + given) := by
  unfold Balanced at *
  rw [← add_assoc, first, add_assoc, second, add_assoc]

theorem rxBufAlloc_balanced {bufCnt : Nat} (queStarted : Bool) (bounds : BatBounds bat) :
    Balanced bat (rxBufAlloc allocs queStarted none bufCnt bat).1
      (rxBufAllocBuffers allocs queStarted bufCnt bat).taken
      (rxBufAllocBuffers allocs queStarted bufCnt bat).freed := by
  unfold rxBufAlloc rxBufAllocBuffers
  split
  · exact balanced_refl bat
  rename_i good
  split
  · exact balanced_refl bat
  obtain ⟨filled, within⟩ := @fillBat_within allocs bat bufCnt bounds (by omega)
  generalize fillBat allocs bat.batWrIdx bufCnt 0 bat = result at *
  obtain ⟨t, i⟩ := result
  dsimp only at filled within ⊢
  unfold Balanced
  split
  · exact filled.trans (zero_add _).symm
  · rcases updateBatWrIdx_cases queStarted i t with refused | written
    · rw [refused]
      dsimp only
      rw [if_pos (by decide), if_pos (by decide)]
      exact filled.trans (unmapFirst_balanced t within)
    · rw [written]
      dsimp only
      rw [if_neg (by simp), if_neg (by simp)]
      exact filled.trans (zero_add _).symm

theorem rxFragAlloc_balanced {bufCnt : Nat} (bounds : BatBounds bat) :
    Balanced bat (rxFragAlloc allocs true bufCnt bat).1 (rxFragAllocBuffers allocs bufCnt bat).taken
      (rxFragAllocBuffers allocs bufCnt bat).freed := by
  unfold rxFragAlloc rxFragAllocBuffers
  split
  · exact balanced_refl bat
  rename_i good
  split
  · exact balanced_refl bat
  obtain ⟨filled, within⟩ := @fillBat_within allocs bat bufCnt bounds (by omega)
  generalize fillBat allocs bat.batWrIdx bufCnt 0 bat = result at *
  obtain ⟨t, i⟩ := result
  dsimp only at filled within ⊢
  unfold Balanced
  split
  · rw [if_pos rfl]
    exact filled.trans
      (unmapAboveFirst_balanced i { t with batWrIdx := t.wrap (bat.batWrIdx + i) } within)
  · exact filled.trans (zero_add _).symm

/-- If no two buffers have one address, a balanced call frees none twice and none that is still
    recorded, and each that it frees not is recorded. -/
theorem Balanced.distinct {t u : Bat} {taken freed : Multiset Nat}
    (balanced : Balanced t u taken freed) (different : (t.recorded + taken).Nodup) :
    freed.Nodup ∧ (∀ addr ∈ freed, addr ∉ u.recorded) ∧
      ∀ addr ∈ t.recorded + taken, addr ∉ freed → addr ∈ u.recorded := by
  unfold Balanced at balanced
  rw [balanced] at different ⊢
  obtain ⟨once, -, apart⟩ := Multiset.nodup_add.mp different
  refine ⟨once, fun addr given held => Multiset.disjoint_left.mp apart given held,
    fun addr known kept => ?_⟩
  rcases Multiset.mem_add.mp known with given | held
  · exact absurd given kept
  · exact held

end Balance

section Start

variable {a : StartAnswers} {s : RxPath} {e : StartEnd}

/-- The points at which a start ends. -/
theorem dpmaifStart_cases (off : s.state ≠ .pwron) (taken : dpmaifStart a s = some e) :
    ∃ normal frag normalBufs fragBufs,
      normal = rxBufAlloc a.bufAllocs true none (s.normal.batSizeCnt - 1) (clearBitmap s.normal) ∧
      frag = rxFragAlloc a.fragAllocs true (s.frag.batSizeCnt - 1) s.frag ∧
      normalBufs = rxBufAllocBuffers a.bufAllocs true (s.normal.batSizeCnt - 1)
        (clearBitmap s.normal) ∧
      fragBufs = rxFragAllocBuffers a.fragAllocs (s.frag.batSizeCnt - 1) s.frag ∧
      (normal.2 ≠ 0 ∧
          e = ⟨{ s with queStarted := true, normal := normal.1 }, normal.2, normalBufs, .none⟩ ∨
        normal.2 = 0 ∧ frag.2 ≠ 0 ∧
          e = ⟨{ s with queStarted := true, normal := batFree normal.1, frag := frag.1 }, frag.2,
            { normalBufs with freed := normalBufs.freed + batFreeFreed normal.1 }, fragBufs⟩ ∨
        normal.2 = 0 ∧ frag.2 = 0 ∧ a.hwRet ≠ 0 ∧
          e = ⟨{ s with
              queStarted := true
              normal := batFree normal.1
              frag := batFree frag.1 }, a.hwRet,
            { normalBufs with freed := normalBufs.freed + batFreeFreed normal.1 },
            { fragBufs with freed := fragBufs.freed + batFreeFreed frag.1 }⟩ ∨
        normal.2 = 0 ∧ frag.2 = 0 ∧ a.hwRet = 0 ∧
          e = ⟨{ s with
              queStarted := true
              normal := normal.1
              frag := frag.1
              state := .pwron }, 0, normalBufs, fragBufs⟩) := by
  refine ⟨_, _, _, _, rfl, rfl, rfl, rfl, ?_⟩
  unfold dpmaifStart at taken
  rw [if_neg off] at taken
  split at taken
  · cases taken
  dsimp only at taken
  split at taken
  · rename_i failed
    cases taken
    exact .inl ⟨failed, rfl⟩
  rename_i filled
  have filled := Decidable.not_not.mp filled
  split at taken
  · rename_i failed
    cases taken
    exact .inr (.inl ⟨filled, failed, rfl⟩)
  rename_i fragFilled
  have fragFilled := Decidable.not_not.mp fragFilled
  split at taken
  · rename_i refused
    cases taken
    exact .inr (.inr (.inl ⟨filled, fragFilled, refused, rfl⟩))
  · rename_i ready
    cases taken
    exact .inr (.inr (.inr ⟨filled, fragFilled, Decidable.not_not.mp ready, rfl⟩))

/-- The state that a start leaves is the one of the receive path's own runs. -/
theorem dpmaifStart_rxStart (off : s.state ≠ .pwron) (taken : dpmaifStart a s = some e) :
    rxStart a.bufAllocs a.fragAllocs (decide (a.hwRet = 0)) s = some e.path := by
  have alive : ¬ (s.state = .pwron ∨ s.normal.freed = true) := by
    rintro (on | gone)
    · exact off on
    · unfold dpmaifStart at taken
      rw [if_neg off, if_pos gone] at taken
      cases taken
  obtain ⟨normal, frag, _, _, filled, fragFilled, -, -, ended⟩ := dpmaifStart_cases off taken
  unfold rxStart
  rw [if_neg alive]
  dsimp only
  rw [← filled, ← fragFilled]
  rcases ended with ⟨failed, rfl⟩ | ⟨posted, failed, rfl⟩ | ⟨posted, paged, refused, rfl⟩ |
    ⟨posted, paged, ready, rfl⟩
  · rw [if_pos failed]
  · rw [if_neg (by simp [posted]), if_pos failed]
  · rw [if_neg (by simp [posted]), if_neg (by simp [paged]), if_pos (by simp [refused])]
  · rw [if_neg (by simp [posted]), if_neg (by simp [paged]), if_neg (by simp [ready])]

/-- Wherever a start ends, no buffer is lost, or freed twice, or freed and still recorded. -/
theorem dpmaifStart_balanced (inRange : TablesInRange s) (taken : dpmaifStart a s = some e)
    (type : BatType) :
    Balanced (s.table type) (e.path.table type) (e.buffers type).taken (e.buffers type).freed := by
  by_cases on : s.state = .pwron
  · unfold dpmaifStart at taken
    rw [if_pos on] at taken
    cases taken
    cases type with
    | normal => exact balanced_refl s.normal
    | frag => exact balanced_refl s.frag
  have cleared : BatBounds (clearBitmap s.normal) := ⟨(inRange .normal).1, (inRange .normal).2⟩
  have normalKept := @rxBufAlloc_balanced a.bufAllocs _ (s.normal.batSizeCnt - 1) true cleared
  have fragIn : BatBounds s.frag := inRange .frag
  have fragKept := @rxFragAlloc_balanced a.fragAllocs _ (s.frag.batSizeCnt - 1) fragIn
  obtain ⟨normal, frag, normalBufs, fragBufs, filled, fragFilled, bufs, pages, ended⟩ :=
    dpmaifStart_cases on taken
  have same : (clearBitmap s.normal).recorded = s.normal.recorded := rfl
  rw [← filled, ← bufs] at normalKept
  rw [← fragFilled, ← pages] at fragKept
  unfold Balanced at normalKept
  rw [same] at normalKept
  have normalKept : Balanced s.normal normal.1 normalBufs.taken normalBufs.freed := normalKept
  have normalFreed := normalKept.trans (batFree_balanced normal.1)
  have fragFreed := fragKept.trans (batFree_balanced frag.1)
  rw [add_zero] at normalFreed fragFreed
  rcases ended with ⟨-, rfl⟩ | ⟨-, -, rfl⟩ | ⟨-, -, -, rfl⟩ | ⟨-, -, -, rfl⟩ <;> cases type
  · exact normalKept
  · exact balanced_refl s.frag
  · exact normalFreed
  · exact fragKept
  · exact normalFreed
  · exact fragFreed
  · exact normalKept
  · exact fragKept

end Start

section References

variable {allocs : Nat → Option Nat} {bat : Bat}

theorem fillBat_refcnt (start rounds i : Nat) (bat : Bat) :
    (fillBat allocs start rounds i bat).1.refcnt = bat.refcnt := by
  induction rounds generalizing i bat with
  | zero => rfl
  | succ rounds ih =>
    unfold fillBat
    dsimp only
    split
    · exact ih _ _
    · split
      · rfl
      · exact ih _ _

theorem unmapFirst_refcnt (i : Nat) (bat : Bat) : (unmapFirst i bat).refcnt = bat.refcnt := by
  induction i generalizing bat with
  | zero => rfl
  | succ i ih => exact ih (unmapBatBuf i bat)

theorem unmapAboveFirst_refcnt (i : Nat) (bat : Bat) :
    (unmapAboveFirst i bat).refcnt = bat.refcnt := by
  induction i, bat using unmapAboveFirst.induct with
  | case1 bat => rfl
  | case2 bat => rfl
  | case3 i bat ih => exact ih

theorem rxBufAlloc_refs (queStarted : Bool) (bufCnt : Nat) :
    (rxBufAlloc allocs queStarted none bufCnt bat).1.refcnt = bat.refcnt ∧
      (rxBufAlloc allocs queStarted none bufCnt bat).1.freed = bat.freed := by
  have refs := @fillBat_refcnt allocs bat.batWrIdx bufCnt 0 bat
  have ring := fillBat_ring allocs bat.batWrIdx bufCnt 0 bat
  unfold rxBufAlloc
  split
  · exact ⟨rfl, rfl⟩
  split
  · exact ⟨rfl, rfl⟩
  generalize fillBat allocs bat.batWrIdx bufCnt 0 bat = result at *
  obtain ⟨t, i⟩ := result
  dsimp only at refs ring ⊢
  split
  · exact ⟨refs, ring.freed⟩
  · rcases updateBatWrIdx_cases queStarted i t with refused | written
    · rw [refused]
      dsimp only
      rw [if_pos (by decide)]
      exact ⟨(unmapFirst_refcnt i t).trans refs, (unmapFirst_ring i t).freed.trans ring.freed⟩
    · rw [written]
      dsimp only
      rw [if_neg (by simp)]
      exact ⟨refs, ring.freed⟩

theorem rxFragAlloc_refcnt (initial : Bool) (bufCnt : Nat) :
    (rxFragAlloc allocs initial bufCnt bat).1.refcnt = bat.refcnt := by
  have refs := @fillBat_refcnt allocs bat.batWrIdx bufCnt 0 bat
  unfold rxFragAlloc
  split
  · rfl
  split
  · rfl
  generalize fillBat allocs bat.batWrIdx bufCnt 0 bat = result at *
  obtain ⟨t, i⟩ := result
  dsimp only at refs ⊢
  split
  · split
    · exact (unmapAboveFirst_refcnt i _).trans refs
    · exact refs
  · exact refs

/-- Whether the normal table of a cleared data path is filled shows in its write index. -/
theorem normalFilled {filled : Bat × Int} (rest : AtRest bat) (empty : bat.batWrIdx = 0)
    (result : filled = rxBufAlloc allocs true none (bat.batSizeCnt - 1) (clearBitmap bat)) :
    (filled.2 = 0 ↔ filled.1.batWrIdx ≠ 0) := by
  have clear : AtRest (clearBitmap bat) := ⟨rest.big, rest.release, rest.write⟩
  obtain ⟨grown, positive, -⟩ :=
    @rxBufAlloc_grown allocs _ (bat.batSizeCnt - 1) clear.bounds none nofun
  have room : filledCnt allocs (bat.batSizeCnt - 1) (clearBitmap bat) < bat.batSizeCnt :=
    filledCnt_fits clear.bounds
  have first : (clearBitmap bat).batWrIdx = 0 := empty
  have write := grown.write
  rw [first, Nat.zero_add] at write
  have unturned : (clearBitmap bat).wrap (filledCnt allocs (bat.batSizeCnt - 1) (clearBitmap bat)) =
      filledCnt allocs (bat.batSizeCnt - 1) (clearBitmap bat) := if_neg (Nat.not_le.mpr room)
  rw [unturned, ← result] at write
  rw [← result] at positive
  rw [positive, write]
  exact Nat.pos_iff_ne_zero

end References

section Recovery

variable {a first again : StartAnswers} {s p : RxPath} {e failed : StartEnd}

theorem supplies_first : Supplies a.bufAllocs s.normal 1 ↔ ¬ NoFirstBuffer a s := by
  unfold Supplies NoFirstBuffer
  constructor
  · rintro supplied ⟨vacant, refused⟩
    exact supplied 0 Nat.one_pos vacant refused
  · intro given idx below vacant refused
    rw [Nat.lt_one_iff.mp below] at vacant refused
    exact given ⟨vacant, refused⟩

theorem stop_refused (swInitDone : Bool) (off : p.state = .pwroff) :
    dpmaifStop swInitDone p = some (p, -EFAULT) := by
  cases swInitDone with
  | false => rfl
  | true =>
    unfold dpmaifStop
    rw [if_neg (by simp), if_pos off]

theorem dpmaifStart_refused (off : p.state ≠ .pwron) (rest : AtRest p.normal)
    (filled : p.normal.batWrIdx ≠ 0) (taken : dpmaifStart a p = some e) : e.ret ≠ 0 := by
  obtain ⟨normal, frag, _, _, result, -, -, -, ended⟩ := dpmaifStart_cases off taken
  have refused : normal.2 ≠ 0 := fun succeeded => filled ((normalStart rest result).2.1.mp succeeded).1
  rcases ended with ⟨-, rfl⟩ | ⟨posted, -⟩ | ⟨posted, -⟩ | ⟨posted, -⟩
  · exact refused
  · exact absurd posted refused
  · exact absurd posted refused
  · exact absurd posted refused

/-- A start that fails behind the filling of the normal table leaves it filled. -/
theorem failed_filled (cleared : Cleared s) (taken : dpmaifStart first s = some failed)
    (failing : failed.ret ≠ 0) (given : ¬ NoFirstBuffer first s) :
    failed.path.state = .pwroff ∧ AtRest failed.path.normal ∧ failed.path.normal.batWrIdx ≠ 0 := by
  have off : s.state ≠ .pwron := by simp [cleared.off]
  obtain ⟨normal, frag, _, _, result, -, -, -, ended⟩ := dpmaifStart_cases off taken
  have empty : s.normal.batWrIdx = 0 := cleared.empty .normal
  obtain ⟨rest, succeeds, -⟩ := normalStart (cleared.rest .normal) result
  have succeeded : normal.2 = 0 := succeeds.mpr ⟨empty, supplies_first.mpr given⟩
  have moved := (normalFilled (cleared.rest .normal) empty result).mp succeeded
  have freedMoved : (batFree normal.1).batWrIdx ≠ 0 := by
    rw [(batFree_ring normal.1).2.2]
    exact moved
  rcases ended with ⟨refused, -⟩ | ⟨-, -, rfl⟩ | ⟨-, -, -, rfl⟩ | ⟨-, -, -, rfl⟩
  · exact absurd succeeded refused
  · exact ⟨cleared.off, rest.batFree, freedMoved⟩
  · exact ⟨cleared.off, rest.batFree, freedMoved⟩
  · exact absurd rfl failing

theorem failed_stays_down (swInitDone : Bool) (cleared : Cleared s)
    (taken : dpmaifStart first s = some failed) (failing : failed.ret ≠ 0)
    (given : ¬ NoFirstBuffer first s) : ¬ Recovers swInitDone again s failed := by
  rintro ⟨stopped, restarted, stops, starts, succeeded, -⟩
  obtain ⟨off, rest, filled⟩ := failed_filled cleared taken failing given
  cases (stop_refused swInitDone off).symm.trans stops
  exact dpmaifStart_refused (by simp [off]) rest filled starts succeeded

theorem dpmaifStart_ends (off : p.state ≠ .pwron) (alive : p.normal.freed = false) :
    ∃ e, dpmaifStart a p = some e := by
  unfold dpmaifStart
  rw [if_neg off, if_neg (by simp [alive])]
  dsimp only
  split
  · exact ⟨_, rfl⟩
  split
  · exact ⟨_, rfl⟩
  split <;> exact ⟨_, rfl⟩

theorem Cleared.inRange (cleared : Cleared p) : TablesInRange p :=
  fun type => (cleared.rest type).bounds

theorem Cleared.starts (cleared : Cleared p) (good : again.Good) :
    ∃ e, dpmaifStart again p = some e ∧ e.ret = 0 ∧
      ∀ type, (e.path.table type).refcnt = (p.table type).refcnt := by
  have off : p.state ≠ .pwron := by simp [cleared.off]
  obtain ⟨skbs, pages, ready⟩ := good
  obtain ⟨e, taken⟩ := @dpmaifStart_ends again p off cleared.alive
  obtain ⟨normal, frag, _, _, result, fragResult, -, -, ended⟩ := dpmaifStart_cases off taken
  have filled : normal.2 = 0 := (normalStart (cleared.rest .normal) result).2.1.mpr
    ⟨cleared.empty .normal, fun idx _ _ => skbs idx⟩
  have paged : frag.2 = 0 := (fragStart (cleared.rest .frag) fragResult).2.1.mpr
    ⟨cleared.empty .frag, fun idx _ _ => pages idx⟩
  have normalRefs := (@rxBufAlloc_refs again.bufAllocs (clearBitmap p.normal) true
    (p.normal.batSizeCnt - 1)).1
  have fragRefs := @rxFragAlloc_refcnt again.fragAllocs p.frag true (p.frag.batSizeCnt - 1)
  rw [← result] at normalRefs
  rw [← fragResult] at fragRefs
  rcases ended with ⟨refused, -⟩ | ⟨-, refused, -⟩ | ⟨-, -, refused, -⟩ | ⟨-, -, -, rfl⟩
  · exact absurd filled refused
  · exact absurd paged refused
  · exact absurd ready refused
  · refine ⟨_, taken, rfl, fun type => ?_⟩
    cases type with
    | normal => exact normalRefs
    | frag => exact fragRefs

/-- A start that has no buffer at all leaves the data path as it was. -/
theorem failed_cleared (cleared : Cleared s) (taken : dpmaifStart first s = some failed)
    (missing : NoFirstBuffer first s) :
    Cleared failed.path ∧ ∀ type, (failed.path.table type).refcnt = (s.table type).refcnt := by
  have off : s.state ≠ .pwron := by simp [cleared.off]
  have empty : s.normal.batWrIdx = 0 := cleared.empty .normal
  obtain ⟨normal, frag, _, _, result, -, -, -, ended⟩ := dpmaifStart_cases off taken
  obtain ⟨rest, succeeds, -⟩ := normalStart (cleared.rest .normal) result
  have refused : normal.2 ≠ 0 := fun succeeded =>
    supplies_first.mp (succeeds.mp succeeded).2 missing
  have unmoved : normal.1.batWrIdx = 0 :=
    Decidable.not_not.mp (mt (normalFilled (cleared.rest .normal) empty result).mpr refused)
  obtain ⟨refs, alive⟩ := @rxBufAlloc_refs first.bufAllocs (clearBitmap s.normal) true
    (s.normal.batSizeCnt - 1)
  rw [← result] at refs alive
  rcases ended with ⟨-, rfl⟩ | ⟨filled, -⟩ | ⟨filled, -⟩ | ⟨filled, -⟩
  · refine ⟨⟨cleared.off, alive.trans cleared.alive, fun type => ?_, fun type => ?_⟩, fun type => ?_⟩
    · cases type with
      | normal => exact rest
      | frag => exact cleared.rest .frag
    · cases type with
      | normal => exact unmoved
      | frag => exact cleared.empty .frag
    · cases type with
      | normal => exact refs
      | frag => rfl
  · exact absurd filled refused
  · exact absurd filled refused
  · exact absurd filled refused

theorem failed_recovers (swInitDone : Bool) (cleared : Cleared s)
    (taken : dpmaifStart first s = some failed) (missing : NoFirstBuffer first s)
    (good : again.Good) : Recovers swInitDone again s failed := by
  obtain ⟨left, refs⟩ := failed_cleared cleared taken missing
  obtain ⟨restarted, starts, succeeded, sameRefs⟩ := left.starts good
  refine ⟨_, restarted, stop_refused swInitDone left.off, starts, succeeded, fun type => ?_⟩
  have before := dpmaifStart_balanced cleared.inRange taken type
  have after := dpmaifStart_balanced left.inRange starts type
  exact ⟨(sameRefs type).trans (refs type), before.trans after⟩

/-- A start that fails on a cleared data path can be made good exactly if it had not even a first
    buffer: wherever else it fails, the normal table stays filled and its references are dropped. -/
theorem start_recovers_iff (swInitDone : Bool) (cleared : Cleared s)
    (taken : dpmaifStart first s = some failed) (failing : failed.ret ≠ 0) (good : again.Good) :
    Recovers swInitDone again s failed ↔ NoFirstBuffer first s := by
  constructor
  · intro recovers
    by_contra given
    exact failed_stays_down swInitDone cleared taken failing given recovers
  · exact fun missing => failed_recovers swInitDone cleared taken missing good

end Recovery

section Failing

/-- A data path that was stopped before its first start. -/
def clearedPath : RxPath := { rxInit with state := .pwroff }

theorem clearedPath_stopped : rxStop rxInit = some clearedPath := rfl

theorem clearedPath_cleared : Cleared clearedPath := by
  refine ⟨rfl, rfl, fun type => ?_, fun type => ?_⟩
  · cases type with
    | normal => exact ⟨by decide, rfl, by decide⟩
    | frag => exact ⟨by decide, rfl, by decide⟩
  · cases type with
    | normal => rfl
    | frag => rfl

def goodAnswers : StartAnswers := ⟨pages, pages, 0, 0, 0⟩

theorem goodAnswers_good : goodAnswers.Good :=
  ⟨fun _ => Option.some_ne_none _, fun _ => Option.some_ne_none _, rfl⟩

def noBuffers : StartAnswers := { goodAnswers with bufAllocs := fun _ => none }

def hwTimeout : StartAnswers := { goodAnswers with hwInit := -ETIMEDOUT }

theorem no_buffer_recovers :
    ∃ failed, dpmaifStart noBuffers clearedPath = some failed ∧ failed.ret = -ENOMEM ∧
      Recovers true goodAnswers clearedPath failed := by
  have missing : NoFirstBuffer noBuffers clearedPath := ⟨rfl, rfl⟩
  exact ⟨_, rfl, by decide,
    (start_recovers_iff true clearedPath_cleared rfl (by decide) goodAnswers_good).mpr missing⟩

theorem dpmaifStart_unready {a : StartAnswers} {s : RxPath} {e : StartEnd} (off : s.state ≠ .pwron)
    (taken : dpmaifStart a s = some e) (refused : a.hwRet ≠ 0) : e.ret ≠ 0 := by
  obtain ⟨normal, frag, _, _, -, -, -, -, ended⟩ := dpmaifStart_cases off taken
  rcases ended with ⟨failed, rfl⟩ | ⟨-, failed, rfl⟩ | ⟨-, -, failed, rfl⟩ | ⟨-, -, ready, -⟩
  · exact failed
  · exact failed
  · exact failed
  · exact absurd ready refused

/-- The hardware does not come up in time, and the data path is lost for good. -/
theorem unready_hw_stays_down :
    ∃ failed, dpmaifStart hwTimeout clearedPath = some failed ∧
      failed.ret ≠ 0 ∧ ¬ Recovers true goodAnswers clearedPath failed := by
  have off : clearedPath.state ≠ .pwron := by decide
  obtain ⟨failed, taken⟩ := @dpmaifStart_ends hwTimeout clearedPath off rfl
  have failing := dpmaifStart_unready off taken (by decide)
  have given : ¬ NoFirstBuffer hwTimeout clearedPath := by
    rintro ⟨-, refused⟩
    exact Option.some_ne_none _ refused
  exact ⟨failed, taken, failing, failed_stays_down true clearedPath_cleared taken failing given⟩

end Failing

end T7xxModel.Dpmaif
