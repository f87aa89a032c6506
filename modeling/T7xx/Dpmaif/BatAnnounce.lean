import T7xx.Dpmaif.BatSteady

namespace T7xxModel.Dpmaif

open Transition

variable {s t : BatHw}

def batHwInit : BatHw := ⟨rxInit, ⟨0, 0, 0, 0⟩, ⟨0, 0, 0, 0⟩, fun _ => false⟩

theorem batHwInit_stopped : Stopped batHwInit := by
  refine ⟨by decide, fun type => ?_, fun type => ?_⟩
  · cases type
    · exact ⟨by decide, rfl, by decide⟩
    · exact ⟨by decide, rfl, by decide⟩
  · cases type <;> rfl

def startAndUse : List BatLabel := [.start pages pages true, .hwUse .normal, .workCount .frag]

theorem batStart_taken (off : s.path.state ≠ .pwron) (alive : s.path.normal.freed = false)
    (bufAllocs fragAllocs : Nat → Option Nat) (hwReady : Bool) :
    ∃ t, batStart bufAllocs fragAllocs hwReady s = some t := by
  unfold batStart rxStart
  rw [if_neg (by simp [off, alive])]
  dsimp only
  split
  · exact ⟨_, rfl⟩
  split
  · exact ⟨_, rfl⟩
  split
  · exact ⟨_, rfl⟩
  · exact ⟨_, rfl⟩

def firstBuffer (i : Nat) : Option Nat := if i = 0 then some 1 else none

/-- With one buffer in the normal table a start goes through and tells the hardware of 8191. -/
theorem partial_start_announced :
    (¬ Visits AllBacked batStep batHwInit [.start firstBuffer pages true]) ∧
      ¬ Visits Announced batStep batHwInit [.start firstBuffer pages true] := by
  have lacking : ¬ StartsFull batHwInit (.start firstBuffer pages true) := by
    intro full
    have write (type : BatType) : (batHwInit.path.table type).batWrIdx = 0 := by cases type <;> rfl
    have first : Supplies firstBuffer batHwInit.path.normal 1 := fun idx below _ => by
      rw [Nat.lt_one_iff.mp below]
      exact Option.some_ne_none 1
    exact full ⟨rfl, write, first, fun _ _ _ => Option.some_ne_none _⟩ 1 (by decide) rfl rfl
  obtain ⟨t, taken⟩ := @batStart_taken batHwInit (by decide) rfl firstBuffer pages true
  obtain ⟨books, counts⟩ := batStart_announced_iff batHwInit_stopped taken
  constructor
  · intro visits
    have backed : AllBacked t := (visits.2 t taken).start
    exact lacking (counts.mp (books.allRecorded_iff.mp backed.1))
  · intro visits
    have announced : Announced t := (visits.2 t taken).start
    exact lacking (counts.mp announced)

theorem Running.refuse_stale {curBid : Nat} (running : Running s) (named : s.Named .normal curBid)
    (held : batCurBidCheck s.path.normal curBid = true) :
    ∃ t, batStep s (.rxPkt curBid false) = some t ∧ t.path = s.path ∧ t.Stale curBid ∧ Running t := by
  have posted : s.path.normal.batSkb curBid ≠ none := by
    rw [← Option.isSome_iff_ne_none]
    exact (Bool.and_eq_true_iff.mp held).2
  have received : rxStep s.path (.rxPkt curBid false) =
      some { s.path with normal := getRxPkt curBid false s.path.normal } := by
    simp only [rxStep]
    rw [if_pos running.started]
  refine ⟨{ s with unmapped := Function.update s.unmapped curBid true }, ?_, rfl,
    ⟨Function.update_self .., posted⟩, running.on, running.started, fun type => ?_⟩
  · rw [batStep, if_neg (not_not.mpr running.on)]
    unfold batRxPkt
    rw [if_pos named, received]
    exact congrArg some (if_pos ⟨held, rfl⟩)
  · cases type
    · exact running.ledger .normal
    · exact running.ledger .frag

theorem Running.stop_stale (running : Running s) (idle : s.path.work = .idle)
    (alive : s.path.normal.freed = false) :
    ∃ t, batStep s .stop = some t ∧ Stopped t ∧ (∀ type, (t.path.table type).batWrIdx = 0) ∧
      t.path.normal.freed = false ∧ ∀ idx, s.Stale idx → t.Stale idx := by
  have off : ¬ (s.path.state = .pwroff ∨ s.path.normal.freed = true) := by
    simp [running.on, alive]
  have stopped : ∃ path, rxStop s.path = some path ∧ (∀ type, (path.table type).batWrIdx = 0) ∧
      path.normal.freed = false ∧ path.normal.batSkb = s.path.normal.batSkb := by
    unfold rxStop
    rw [if_neg off]
    exact ⟨_, rfl, fun type => by cases type <;> rfl, alive, rfl⟩
  obtain ⟨path, stop, write, kept, skbs⟩ := stopped
  have taken : batStop s =
      some { s.setPath path with normal := ⟨0, 0, 0, 0⟩, frag := ⟨0, 0, 0, 0⟩ } := by
    unfold batStop
    rw [if_neg (not_not.mpr idle), stop]
    rfl
  refine ⟨_, ?_, running.stop taken, write, kept, fun idx stale => ?_⟩
  · rw [batStep, if_neg (not_not.mpr running.on)]
    exact taken
  · have posted : path.normal.batSkb idx ≠ none := by
      rw [skbs]
      exact stale.2
    exact ⟨(setPath_unmapped s path idx).mpr ⟨stale, posted⟩, posted⟩

/-- The hardware uses the first entry that a start told it of. -/
theorem Started.first_used {bufAllocs : Nat → Option Nat} (started : Started s t bufAllocs)
    (announced : Announced t) :
    ∃ u, batStep t (.hwUse .normal) = some u ∧ u.path = t.path ∧ Running u ∧ u.Named .normal 0 ∧
      batCurBidCheck u.path.normal 0 = true := by
  have running := started.running
  have ledger := running.ledger .normal
  have more : (t.hw .normal).used < (t.hw .normal).told := by
    show t.normal.used < t.normal.told
    rw [started.unused, started.told]
    exact Nat.sub_pos_of_lt ledger.big
  refine ⟨t.setHw .normal { t.hw .normal with used := (t.hw .normal).used + 1 }, ?_, rfl,
    (Steady.use ⟨running, announced running.on⟩ more).1.1, ?_, ?_⟩
  · rw [batStep, if_neg (not_not.mpr running.on)]
    exact if_pos more
  · have released : t.normal.released = 0 := Nat.le_zero.mp (started.unused ▸ ledger.used)
    refine Ring.mem_slots.mpr ⟨0, ?_, ?_⟩
    · show 0 < t.normal.used + 1 - t.normal.released
      omega
    · show (t.normal.released + 0) % t.path.normal.batSizeCnt = 0
      rw [released, Nat.zero_mod]
  · show batCurBidCheck t.path.normal 0 = true
    have told : t.normal.told = t.normal.posted := announced running.on .normal
    have recorded : RecordedAt t.path.normal (0 % t.path.normal.batSizeCnt) :=
      ledger.recorded 0 (Nat.le_of_eq started.unused) (told ▸ Nat.zero_lt_of_lt more)
    rw [Nat.zero_mod] at recorded
    have positive : 0 < t.path.normal.batSizeCnt := ledger.positive
    unfold batCurBidCheck
    rw [recorded]
    simpa using positive

theorem pages_supplies (bat : Bat) (count : Nat) : Supplies pages bat count :=
  fun _ _ _ => Option.some_ne_none _

/-- A start posts again what a slot still records, mapped or not. -/
theorem restart_posts_stale (stopped : Stopped s) (write : ∀ type, (s.path.table type).batWrIdx = 0)
    (stale : s.Stale 0) (taken : batStart pages pages true s = some t) : ¬ AllBacked t := by
  intro backed
  have restarted := batStart_announced_iff stopped taken
  have announced := restarted.2.mpr fun _ => pages_supplies _ _
  have fills := (batStart_mapped_iff stopped announced taken).mp backed.2
  have wide : 0 < s.path.normal.batSizeCnt - 1 := Nat.sub_pos_of_lt (stopped.tables .normal).big
  exact fills ⟨rfl, write, pages_supplies _ _, pages_supplies _ _⟩ 0 wide stale

/-- The skb of slot 0 is unmapped and stays in its slot, and the start after a stop posts it again. -/
theorem stale_slot_posted :
    ¬ Visits AllBacked batStep batHwInit
      [.start pages pages true, .hwUse .normal, .rxPkt 0 false, .stop, .start pages pages true] := by
  intro visits
  obtain ⟨normal, frag, path, ⟨alive, -⟩, -⟩ := firstStart_full
  obtain ⟨t, taken⟩ := @batStart_taken batHwInit (by decide) rfl pages pages true
  have startedPath : t.path = ⟨normal, frag, true, .pwron, .idle⟩ := by
    obtain ⟨reached, start, rfl⟩ := Option.map_eq_some_iff.mp taken
    have same : reached = ⟨normal, frag, true, .pwron, .idle⟩ := Option.some_inj.mp (start.symm.trans path)
    rw [same]
    rfl
  have afresh : StartsOver batHwInit pages pages true :=
    ⟨rfl, fun type => by cases type <;> rfl, pages_supplies _ _, pages_supplies _ _⟩
  obtain ⟨-, started⟩ :=
    (batStart_cases batHwInit_stopped taken).resolve_left fun givenUp => givenUp.1 afresh
  obtain ⟨u, used, usedPath, running, named, held⟩ :=
    started.first_used (started.full.mpr (pages_supplies _ _))
  obtain ⟨v, refused, samePath, stale, refusing⟩ := running.refuse_stale named held
  have kept : v.path = ⟨normal, frag, true, .pwron, .idle⟩ := samePath.trans (usedPath.trans startedPath)
  obtain ⟨w, stop, stopped, write, still, stays⟩ :=
    refusing.stop_stale (by rw [kept]) (by rw [kept]; exact alive)
  obtain ⟨x, again⟩ := @batStart_taken w stopped.off still pages pages true
  have backed : AllBacked x := ((((visits.2 t taken).2 u used).2 v refused).2 w stop).2 x again
  exact restart_posts_stale stopped write (stays 0 stale) again backed

end T7xxModel.Dpmaif
