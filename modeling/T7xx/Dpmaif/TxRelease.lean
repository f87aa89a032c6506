import T7xx.Dpmaif.TxOwnership

namespace T7xxModel.Dpmaif

def hwReadIdx (newHwRdIdx : Nat) (txq : Txq) : Nat := (updateDrbRdIdx newHwRdIdx txq).1.drbRdIdx

def readCnt (newHwRdIdx : Nat) (txq : Txq) : Nat :=
  Ring.distance txq.drbSizeCnt txq.drbReleaseRdIdx (hwReadIdx newHwRdIdx txq)

/-- The places from the release index on and before the new read index. -/
def readDrbs (newHwRdIdx : Nat) (txq : Txq) : List Nat :=
  Ring.slots txq.drbSizeCnt txq.drbReleaseRdIdx (readCnt newHwRdIdx txq)

/-- The indices of a queue with DRBs in flight, and a hardware index between the last one read and the
    write index. -/
structure SkbsInFlight (newHwRdIdx : Nat) (txq : Txq) : Prop where
  release : txq.drbReleaseRdIdx < txq.drbSizeCnt
  read : txq.drbRdIdx < txq.drbSizeCnt
  write : txq.drbWrIdx < txq.drbSizeCnt
  hardware : newHwRdIdx < txq.drbSizeCnt
  readFirst : Ring.distance txq.drbSizeCnt txq.drbReleaseRdIdx txq.drbRdIdx ≤
    Ring.distance txq.drbSizeCnt txq.drbReleaseRdIdx newHwRdIdx
  written : Ring.distance txq.drbSizeCnt txq.drbReleaseRdIdx newHwRdIdx ≤
    Ring.distance txq.drbSizeCnt txq.drbReleaseRdIdx txq.drbWrIdx
  entries : ∀ i ∈ inFlight txq, EntryOk (txq.drbBase i) (txq.drbSkbBase i)

structure ReleasesRead (newHwRdIdx : Nat) (txq : Txq) (log : TxLog) (u : Txq) (after : TxLog) :
    Prop where
  unmapped : ∃ gone, after.unmapped = log.unmapped ++ gone ∧
    gone.Sublist (mappingsAt txq (readDrbs newHwRdIdx txq))
  freed : ∃ gone, after.freed = log.freed ++ gone ∧
    gone.Sublist (skbsAt txq (readDrbs newHwRdIdx txq))
  release : u.drbReleaseRdIdx = u.drbRdIdx
  budget : u.txBudget = txq.txBudget + (readDrbs newHwRdIdx txq).length

/-- An entry that a round of the release loop leaves as it is. -/
def Idle (drb : Drb) (drbSkb : DrbSkb) : Prop :=
  drb.dtyp = DES_DTYP_PD ∧ drb.cont = false ∧ drbSkb.isMsg = true ∧ drbSkb.skb = none

section Update

variable {newHwRdIdx : Nat} {txq : Txq}

theorem updateDrbRdIdx_ring (newHwRdIdx : Nat) (txq : Txq) :
    (updateDrbRdIdx newHwRdIdx txq).1 = { txq with drbRdIdx := hwReadIdx newHwRdIdx txq } := by
  unfold hwReadIdx updateDrbRdIdx
  split
  · rfl
  · split <;> rfl

theorem hwReadIdx_cases (newHwRdIdx : Nat) (txq : Txq) :
    hwReadIdx newHwRdIdx txq = txq.drbRdIdx ∨ hwReadIdx newHwRdIdx txq = newHwRdIdx := by
  unfold hwReadIdx updateDrbRdIdx
  split
  · exact Or.inl rfl
  · split
    · exact Or.inl rfl
    · exact Or.inr rfl

theorem SkbsInFlight.readIdx (flight : SkbsInFlight newHwRdIdx txq) :
    hwReadIdx newHwRdIdx txq < txq.drbSizeCnt ∧
    readCnt newHwRdIdx txq ≤ Ring.distance txq.drbSizeCnt txq.drbReleaseRdIdx txq.drbWrIdx := by
  have first := flight.readFirst
  have second := flight.written
  unfold readCnt
  rcases hwReadIdx_cases newHwRdIdx txq with same | moved
  · rw [same]
    exact ⟨flight.read, by omega⟩
  · rw [moved]
    exact ⟨flight.hardware, second⟩

theorem readDrbs_length (newHwRdIdx : Nat) (txq : Txq) :
    (readDrbs newHwRdIdx txq).length = readCnt newHwRdIdx txq := by
  simp [readDrbs, Ring.slots]

theorem txRelease_eq (newHwRdIdx : Nat) (txq : Txq) (log : TxLog) :
    txRelease txq.drbSizeCnt newHwRdIdx txq log =
      releaseTxBuffer (minNotZero txq.drbSizeCnt (readCnt newHwRdIdx txq))
        { txq with drbRdIdx := hwReadIdx newHwRdIdx txq } log := by
  unfold txRelease
  rw [updateDrbRdIdx_ring]
  dsimp only
  rw [ringBufRdWrCount_read]
  rfl

end Update

section Progress

variable {newHwRdIdx : Nat} {txq : Txq}

/-- Where the hardware has read past the release index, the DRBs it read are released, and these
    only. -/
theorem txRelease_read (log : TxLog) (flight : SkbsInFlight newHwRdIdx txq)
    (progress : readCnt newHwRdIdx txq ≠ 0) :
    ReleasesRead newHwRdIdx txq log (txRelease txq.drbSizeCnt newHwRdIdx txq log).1
      (txRelease txq.drbSizeCnt newHwRdIdx txq log).2 := by
  obtain ⟨below, within⟩ := flight.readIdx
  have room := Ring.distance_lt flight.release below
  have pos : 0 < txq.drbSizeCnt := by
    have release := flight.release
    omega
  have count : minNotZero txq.drbSizeCnt (readCnt newHwRdIdx txq) = readCnt newHwRdIdx txq := by
    change readCnt newHwRdIdx txq < txq.drbSizeCnt at room
    unfold minNotZero
    rw [if_neg (by omega), if_neg progress]
    omega
  have entries : ∀ i ∈ readDrbs newHwRdIdx txq, EntryOk (txq.drbBase i) (txq.drbSkbBase i) := by
    intro i member
    obtain ⟨k, few, place⟩ := Ring.mem_slots.mp member
    apply flight.entries
    unfold inFlight
    rw [ringBufRdWrCount_read]
    exact Ring.mem_slots.mpr ⟨k, by omega, place⟩
  obtain ⟨u, result, moved, _⟩ := releaseTxBuffer_settles (readCnt newHwRdIdx txq)
    txq.drbReleaseRdIdx { txq with drbRdIdx := hwReadIdx newHwRdIdx txq } log
    (Nat.mod_eq_of_lt flight.release).symm (Nat.le_of_lt room) pos entries
  rw [txRelease_eq, count, result]
  refine ⟨⟨_, rfl, List.Sublist.refl _⟩, ⟨_, rfl, List.Sublist.refl _⟩, ?_, ?_⟩
  · rw [moved.release txq.drbReleaseRdIdx (Nat.mod_eq_of_lt flight.release).symm, moved.read]
    exact Ring.add_distance flight.release below
  · rw [readDrbs_length]
    exact moved.budget

end Progress

section NoProgress

theorem releaseDrb_cases (txq : Txq) (log : TxLog) (pos : 0 < txq.drbSizeCnt) :
    Released 1 txq (releaseDrb txq log).1 ∨
    (Idle (txq.drbBase txq.drbReleaseRdIdx) (txq.drbSkbBase txq.drbReleaseRdIdx) ∧
      releaseDrb txq log = (txq, log)) ∨
    releaseDrb txq log = (txq, log.unmap (txq.drbSkbBase txq.drbReleaseRdIdx).busAddr) := by
  have cleared := released_advance (clearDrbSkb_control txq.drbReleaseRdIdx txq) pos
  unfold releaseDrb
  dsimp only
  by_cases payload : (txq.drbBase txq.drbReleaseRdIdx).dtyp = DES_DTYP_PD
  · rw [if_pos payload]
    cases cont : (txq.drbBase txq.drbReleaseRdIdx).cont
    · cases owner : (txq.drbSkbBase txq.drbReleaseRdIdx).skb
      · right
        cases message : (txq.drbSkbBase txq.drbReleaseRdIdx).isMsg
        · right
          simp
        · left
          exact ⟨⟨payload, cont, message, owner⟩, by simp⟩
      · left
        simpa using cleared
    · left
      simpa using cleared
  · left
    rw [if_neg payload]
    exact released_advance (SameControl.refl txq) pos

theorem releaseTxBuffer_idle (releaseCnt : Nat) (txq : Txq) (log : TxLog)
    (idle : Idle (txq.drbBase txq.drbReleaseRdIdx) (txq.drbSkbBase txq.drbReleaseRdIdx)) :
    releaseTxBuffer releaseCnt txq log = (txq, log) := by
  obtain ⟨payload, cont, message, owner⟩ := idle
  have round : releaseDrb txq log = (txq, log) := by
    simp [releaseDrb, payload, cont, message, owner]
  induction releaseCnt with
  | zero => rfl
  | succ releaseCnt ih => rw [releaseTxBuffer, round, ih]

theorem releaseDrb_unmaps (txq : Txq) (log : TxLog) :
    log.unmapped.length ≤ (releaseDrb txq log).2.unmapped.length := by
  have unmaps : log.unmapped.length ≤ (if (txq.drbSkbBase txq.drbReleaseRdIdx).isMsg then log
      else log.unmap (txq.drbSkbBase txq.drbReleaseRdIdx).busAddr).unmapped.length := by
    split <;> simp [TxLog.unmap]
  unfold releaseDrb
  dsimp only
  split
  · split
    · exact unmaps
    · split
      · exact unmaps
      · exact unmaps
  · exact le_rfl

theorem releaseTxBuffer_unmaps (releaseCnt : Nat) (txq : Txq) (log : TxLog) :
    log.unmapped.length ≤ (releaseTxBuffer releaseCnt txq log).2.unmapped.length := by
  induction releaseCnt generalizing txq log with
  | zero => exact le_rfl
  | succ releaseCnt ih => exact (releaseDrb_unmaps txq log).trans (ih _ _)

/-- The first round already moves the index or unmaps an address, unless the entry is idle. -/
theorem idle_of_unmoved (rounds : Nat) (txq : Txq) (log : TxLog) (pos : 0 < txq.drbSizeCnt)
    (unmapped : (releaseTxBuffer (rounds + 1) txq log).2.unmapped = log.unmapped)
    (budget : (releaseTxBuffer (rounds + 1) txq log).1.txBudget = txq.txBudget) :
    Idle (txq.drbBase txq.drbReleaseRdIdx) (txq.drbSkbBase txq.drbReleaseRdIdx) := by
  rw [releaseTxBuffer] at unmapped budget
  rcases releaseDrb_cases txq log pos with moved | ⟨idle, _⟩ | stuck
  · obtain ⟨k, _, rest⟩ := releaseTxBuffer_released rounds (releaseDrb txq log).1
      (releaseDrb txq log).2 (by rw [moved.size]; exact pos)
    have raised := moved.budget
    have kept := rest.budget
    omega
  · exact idle
  · have more := releaseTxBuffer_unmaps rounds txq
      (log.unmap (txq.drbSkbBase txq.drbReleaseRdIdx).busAddr)
    rw [stuck] at unmapped
    rw [unmapped] at more
    simp only [TxLog.unmap, List.length_append, List.length_singleton] at more
    omega

/-- Without progress `min_not_zero` takes the budget for the count. -/
theorem idle_of_releasesRead {newHwRdIdx : Nat} {txq : Txq} {log : TxLog}
    (pos : 0 < txq.drbSizeCnt) (none_ : readCnt newHwRdIdx txq = 0)
    (released : ReleasesRead newHwRdIdx txq log (txRelease txq.drbSizeCnt newHwRdIdx txq log).1
      (txRelease txq.drbSizeCnt newHwRdIdx txq log).2) :
    Idle (txq.drbBase txq.drbReleaseRdIdx) (txq.drbSkbBase txq.drbReleaseRdIdx) := by
  obtain ⟨gone, unmapped, few⟩ := released.unmapped
  have budget := released.budget
  have empty := readDrbs_length newHwRdIdx txq
  obtain ⟨rounds, whole⟩ := Nat.exists_eq_succ_of_ne_zero (Nat.ne_of_gt pos)
  have count : minNotZero txq.drbSizeCnt (readCnt newHwRdIdx txq) = rounds + 1 := by
    unfold minNotZero
    rw [if_neg (by omega), if_pos none_, whole]
  rw [none_, List.length_eq_zero_iff] at empty
  rw [txRelease_eq, count] at unmapped budget
  rw [empty] at few budget
  rw [List.sublist_nil.mp few, List.append_nil] at unmapped
  simp only [List.length_nil, Nat.cast_zero, add_zero] at budget
  exact idle_of_unmoved rounds { txq with drbRdIdx := hwReadIdx newHwRdIdx txq } log pos unmapped
    budget

end NoProgress

/-- A release interrupt gives back what the hardware has read, and nothing else, exactly when it has
    read something. -/
theorem release_frees_only_read (newHwRdIdx : Nat) (txq : Txq) (log : TxLog)
    (flight : SkbsInFlight newHwRdIdx txq) :
    ReleasesRead newHwRdIdx txq log (txRelease txq.drbSizeCnt newHwRdIdx txq log).1
      (txRelease txq.drbSizeCnt newHwRdIdx txq log).2 ↔
    readCnt newHwRdIdx txq ≠ 0 ∨
      Idle (txq.drbBase txq.drbReleaseRdIdx) (txq.drbSkbBase txq.drbReleaseRdIdx) := by
  have pos : 0 < txq.drbSizeCnt := Nat.zero_lt_of_lt flight.release
  constructor
  · intro released
    by_cases none_ : readCnt newHwRdIdx txq = 0
    · exact Or.inr (idle_of_releasesRead pos none_ released)
    · exact Or.inl none_
  · intro condition
    by_cases none_ : readCnt newHwRdIdx txq = 0
    · have idle := condition.resolve_left (not_not_intro none_)
      have empty := readDrbs_length newHwRdIdx txq
      rw [none_, List.length_eq_zero_iff] at empty
      rw [txRelease_eq,
        releaseTxBuffer_idle _ { txq with drbRdIdx := hwReadIdx newHwRdIdx txq } log idle]
      refine ⟨⟨[], by simp, List.nil_sublist _⟩, ⟨[], by simp, List.nil_sublist _⟩, ?_, ?_⟩
      · exact Ring.eq_of_distance_zero flight.release flight.readIdx.1 none_
      · simp [empty]
    · exact txRelease_read log flight none_

/-- A queue that was just started, with one skb in the ring that the hardware has not read. -/
def oneInFlight : Txq :=
  (addSkbToRing .pwron linearSkb none { txqInit with queStarted := true } ⟨[], [], [], []⟩).1

theorem oneInFlight_skbsInFlight {newHwRdIdx : Nat} (written : newHwRdIdx ≤ 2) :
    SkbsInFlight newHwRdIdx oneInFlight := by
  have sent : addSkbToRing .pwron linearSkb none { txqInit with queStarted := true }
      ⟨[], [], [], []⟩ = (oneInFlight, ⟨[1], [], [0], []⟩, 0) := rfl
  obtain ⟨pieces, _, added⟩ :=
    addSkbToRing_added (show 0 = 0 % DPMAIF_DRB_LIST_LEN from rfl) (by decide) sent le_rfl
  have first : Ring.distance DPMAIF_DRB_LIST_LEN 0 newHwRdIdx = newHwRdIdx := by
    simp [Ring.distance]
  refine ⟨by decide, by decide, by decide, ?_, ?_, ?_, added.entries⟩
  · change newHwRdIdx < DPMAIF_DRB_LIST_LEN
    simp only [DPMAIF_DRB_LIST_LEN]
    omega
  · exact Nat.zero_le _
  · change Ring.distance DPMAIF_DRB_LIST_LEN 0 newHwRdIdx ≤ 2
    omega

theorem release_frees_only_read_first :
    ReleasesRead 2 oneInFlight ⟨[1], [], [0], []⟩
      (txRelease oneInFlight.drbSizeCnt 2 oneInFlight ⟨[1], [], [0], []⟩).1
      (txRelease oneInFlight.drbSizeCnt 2 oneInFlight ⟨[1], [], [0], []⟩).2 :=
  (release_frees_only_read 2 oneInFlight _ (oneInFlight_skbsInFlight le_rfl)).mpr
    (Or.inl (by decide))

/-- An interrupt that finds the read index where it was releases the whole ring. -/
theorem release_without_progress :
    ¬ ∀ newHwRdIdx txq log, SkbsInFlight newHwRdIdx txq →
      ReleasesRead newHwRdIdx txq log (txRelease txq.drbSizeCnt newHwRdIdx txq log).1
        (txRelease txq.drbSizeCnt newHwRdIdx txq log).2 := by
  intro always
  have idle := idle_of_releasesRead (by decide) rfl
    (always 0 oneInFlight ⟨[1], [], [0], []⟩ (oneInFlight_skbsInFlight (by decide)))
  exact absurd idle.1 (by decide)

end T7xxModel.Dpmaif
