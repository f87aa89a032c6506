import T7xx.Dpmaif.TxBurst

namespace T7xxModel.Dpmaif

open Transition

section Queue

@[simp] def BurstPc.peeked : BurstPc → Option Skb
  | .compare _ _ _ _ skb => some skb
  | .add _ _ _ skb => some skb
  | .map _ _ _ skb _ _ _ _ => some skb
  | .unlink _ _ _ skb => some skb
  | _ => none

/-- `drb_cnt` and `ret`, where they are live. -/
@[simp] def BurstPc.counted : BurstPc → Option (Nat × Int)
  | .loop _ _ cnt ret => some (cnt, ret)
  | .compare _ _ cnt ret _ => some (cnt, ret)
  | .add _ _ cnt _ => some (cnt, 0)
  | .map _ _ cnt _ _ _ _ _ => some (cnt, 0)
  | .unlink _ _ cnt _ => some (cnt, 0)
  | _ => none

structure QueueKept (start s : Burst) : Prop where
  queue : start.txq.txSkbHead ++ s.arrived = s.moved ++ s.txq.txSkbHead
  head : ∀ skb, s.pc.peeked = some skb → ∃ rest, s.txq.txSkbHead = skb :: rest
  counted : ∀ cnt ret, s.pc.counted = some (cnt, ret) → cnt = totalDrbs s.moved ∧ ret ≤ 0
  entry : s.pc = .entry → s.moved = []
  returns : ∀ ret, s.pc = .returned ret →
    (s.moved ≠ [] → ret = totalDrbs s.moved) ∧ (s.moved = [] → ret ≤ 0)

variable {start s t : Burst}

theorem totalDrbs_pos {skbs : List Skb} (some_ : skbs ≠ []) : 0 < totalDrbs skbs := by
  cases skbs with
  | nil => exact absurd rfl some_
  | cons skb skbs =>
    simp only [totalDrbs, List.map_cons, List.sum_cons, skbDrbCnt]
    omega

/-- With skbs moved their DRBs are returned, whatever the last call returned. -/
theorem burstReturn_returns {cnt : Nat} {ret : Int} {moved : List Skb}
    (counted : cnt = totalDrbs moved) (nonpos : ret ≤ 0) :
    ∀ value, burstReturn cnt ret = .returned value →
      (moved ≠ [] → value = totalDrbs moved) ∧ (moved = [] → value ≤ 0) := by
  intro value returned
  unfold burstReturn at returned
  cases returned
  constructor
  · intro some_
    have pos := totalDrbs_pos some_
    rw [if_pos (by omega), counted]
  · rintro rfl
    rw [counted, if_neg (by simp [totalDrbs])]
    exact nonpos

theorem QueueKept.finish {cnt : Nat} {ret : Int} (kept : QueueKept start s)
    (counted : cnt = totalDrbs s.moved) (nonpos : ret ≤ 0)
    (queue : t.txq.txSkbHead = s.txq.txSkbHead) (arrived : t.arrived = s.arrived)
    (moved : t.moved = s.moved) (at_ : t.pc = burstReturn cnt ret) : QueueKept start t := by
  refine ⟨by rw [arrived, moved, queue]; exact kept.queue, ?_, ?_, ?_, ?_⟩
  · rw [at_]
    nofun
  · rw [at_]
    nofun
  · rw [at_]
    nofun
  · rw [at_, moved]
    exact burstReturn_returns counted nonpos

theorem QueueKept.move (kept : QueueKept start s) (queue : t.txq.txSkbHead = s.txq.txSkbHead)
    (arrived : t.arrived = s.arrived) (moved : t.moved = s.moved)
    (head : ∀ skb, t.pc.peeked = some skb → ∃ rest, s.txq.txSkbHead = skb :: rest)
    (counted : ∀ cnt ret, t.pc.counted = some (cnt, ret) → cnt = totalDrbs s.moved ∧ ret ≤ 0)
    (running : t.pc.counted ≠ none) : QueueKept start t := by
  refine ⟨by rw [arrived, moved, queue]; exact kept.queue, ?_, ?_, ?_, ?_⟩
  · rw [queue]
    exact head
  · rw [moved]
    exact counted
  · intro at_
    rw [at_] at running
    exact absurd rfl running
  · intro ret at_
    rw [at_] at running
    exact absurd rfl running

theorem ThreadStep.queue (kept : QueueKept start s) (step : ThreadStep s t) : QueueKept start t := by
  have head := kept.head
  have counted := kept.counted
  cases step with
  | snapshot at_ =>
    have none_ := kept.entry at_
    refine kept.move rfl rfl rfl nofun ?_ nofun
    intro cnt ret found
    cases found
    simp [none_, totalDrbs]
  | finished at_ =>
    rw [at_] at counted
    obtain ⟨total, nonpos⟩ := counted _ _ rfl
    exact kept.finish total nonpos rfl rfl rfl rfl
  | peeked at_ first =>
    rw [at_] at counted
    refine kept.move rfl rfl rfl ?_ counted nofun
    intro skb found
    cases found
    exact ⟨_, first⟩
  | short at_ =>
    rw [at_] at counted
    exact kept.move rfl rfl rfl nofun counted nofun
  | fits at_ room =>
    rw [at_] at counted head
    refine kept.move rfl rfl rfl head ?_ nofun
    intro cnt ret found
    cases found
    exact ⟨(counted _ _ rfl).1, le_rfl⟩
  | refused at_ =>
    rw [at_] at counted
    exact kept.finish (counted _ _ rfl).1 (by decide) rfl rfl rfl rfl
  | reserved at_ =>
    rw [at_] at counted head
    exact kept.move rfl rfl rfl head counted nofun
  | written at_ write =>
    rw [at_] at counted head
    refine kept.move ?_ rfl rfl head counted nofun
    rw [write]
    rfl
  | failed at_ =>
    rw [at_] at counted
    exact kept.finish (counted _ _ rfl).1 (by decide) rfl rfl rfl rfl
  | added at_ =>
    rw [at_] at counted head
    exact kept.move rfl rfl rfl head counted nofun
  | unlinked at_ =>
    rw [at_] at counted head
    obtain ⟨rest, first⟩ := head _ rfl
    refine ⟨?_, nofun, ?_, nofun, nofun⟩
    · simp [first, kept.queue]
    · intro cnt ret found
      cases found
      simp [totalDrbs, (counted _ _ rfl).1]

end Queue

section Places

/-- The DRBs in the ring stand in its places from the release index on. -/
def Held (txq : Txq) (ring : List (Drb × DrbSkb)) : Prop :=
  ring = (Ring.slots txq.drbSizeCnt txq.drbReleaseRdIdx ring.length).map (entryAt txq)

variable {t u : Txq} {ring : List (Drb × DrbSkb)}

theorem Held.frame (held : Held t ring) (size : u.drbSizeCnt = t.drbSizeCnt)
    (release : u.drbReleaseRdIdx = t.drbReleaseRdIdx)
    (same : ∀ i ∈ Ring.slots t.drbSizeCnt t.drbReleaseRdIdx ring.length, entryAt u i = entryAt t i) :
    Held u ring := by
  unfold Held
  rw [size, release, List.map_congr_left same]
  exact held

theorem Held.push {place : Nat} (held : Held t ring) (size : u.drbSizeCnt = t.drbSizeCnt)
    (release : u.drbReleaseRdIdx = t.drbReleaseRdIdx) (room : ring.length < t.drbSizeCnt)
    (behind : place = (t.drbReleaseRdIdx + ring.length) % t.drbSizeCnt)
    (same : ∀ i ≠ place, entryAt u i = entryAt t i) : Held u (ring ++ [entryAt u place]) := by
  have kept : Held u ring := held.frame size release fun i member => by
    apply same
    rintro rfl
    rw [behind] at member
    exact Ring.end_not_mem_slots _ _ room member
  unfold Held
  rw [List.length_append, List.length_singleton, Ring.slots_add, List.map_append, ← kept]
  rw [size, release, behind]
  rfl

theorem Held.take {k : Nat} (held : Held t ring) (fewer : k ≤ ring.length) : Held t (ring.take k) := by
  unfold Held
  rw [List.length_take_of_le fewer, ← Ring.slots_take _ _ fewer, List.map_take, ← held]

theorem Held.pop {first : Drb × DrbSkb} (held : Held t (first :: ring))
    (size : u.drbSizeCnt = t.drbSizeCnt)
    (release : u.drbReleaseRdIdx = (t.drbReleaseRdIdx + 1) % t.drbSizeCnt)
    (room : ring.length < t.drbSizeCnt)
    (same : ∀ i ≠ t.drbReleaseRdIdx % t.drbSizeCnt, entryAt u i = entryAt t i) : Held u ring := by
  unfold Held at held
  rw [List.length_cons, Ring.slots_succ, List.map_cons] at held
  have rest := List.tail_eq_of_cons_eq held
  unfold Held
  rw [size, release, Ring.slots_mod]
  refine rest.trans (List.map_congr_left fun i member => (same i ?_).symm)
  rintro rfl
  exact slot_apart room _ List.mem_cons_self member

end Places

section Room

/-- What the burst may still take of the free DRBs it has seen. -/
@[simp] def BurstPc.credit : BurstPc → Nat
  | .loop _ remain _ _ => remain
  | .compare _ remain _ _ _ => remain
  | .add _ remain _ skb => remain + skbDrbCnt skb
  | .map _ remain _ _ _ _ _ _ => remain
  | .unlink _ remain _ _ => remain
  | _ => 0

/-- Where the skb being added stands in the ring: `k` DRBs lie before its message. -/
def BurstPc.Placed (k : Nat) (txq : Txq) : BurstPc → Prop
  | .map _ _ _ skb backup wrCnt curIdx pieces =>
    backup = (txq.drbReleaseRdIdx + k) % txq.drbSizeCnt ∧
    curIdx = (txq.drbReleaseRdIdx + k + wrCnt) % txq.drbSizeCnt ∧
    wrCnt + 1 + pieces.length = skbDrbCnt skb
  | _ => True

structure RingKept (s : Burst) : Prop where
  release : s.txq.drbReleaseRdIdx < s.txq.drbSizeCnt
  write : s.txq.drbWrIdx = (s.txq.drbReleaseRdIdx + s.inRing) % s.txq.drbSizeCnt
  room : s.inRing + s.pc.credit < s.txq.drbSizeCnt
  placed : ∃ k, s.ring.length = k + s.pc.laid ∧ s.pc.Placed k s.txq
  held : Held s.txq s.ring

variable {s t : Burst}

theorem RingKept.count (kept : RingKept s) :
    Ring.distance s.txq.drbSizeCnt s.txq.drbReleaseRdIdx s.txq.drbWrIdx = s.inRing := by
  have room := kept.room
  have apart := Ring.distance_mod (n := s.txq.drbSizeCnt)
    (Nat.le_add_right s.txq.drbReleaseRdIdx s.inRing) (by omega)
  rw [Nat.mod_eq_of_lt kept.release, ← kept.write] at apart
  omega

theorem RingKept.available (kept : RingKept s) :
    s.inRing + txqDrbWrAvailable s.txq < s.txq.drbSizeCnt := by
  have room := kept.room
  have write : s.txq.drbWrIdx < s.txq.drbSizeCnt := by
    rw [kept.write]
    exact Nat.mod_lt _ (by omega)
  unfold txqDrbWrAvailable
  rw [ringBufRdWrCount_write _ _ _ kept.release write, kept.count]
  omega

theorem RingKept.move (kept : RingKept s) (size : t.txq.drbSizeCnt = s.txq.drbSizeCnt)
    (release : t.txq.drbReleaseRdIdx = s.txq.drbReleaseRdIdx) (write : t.txq.drbWrIdx = s.txq.drbWrIdx)
    (entries : entryAt t.txq = entryAt s.txq) (ring : t.ring = s.ring)
    (laid : t.pc.laid = 0) (unwritten : t.pc.unwritten = s.pc.unwritten)
    (credit : s.inRing + t.pc.credit < s.txq.drbSizeCnt) (placed : t.pc.Placed s.ring.length t.txq) :
    RingKept t := by
  have same : t.inRing = s.inRing := by
    unfold Burst.inRing
    rw [ring, unwritten]
  refine ⟨?_, ?_, ?_, ⟨s.ring.length, by rw [ring, laid, Nat.add_zero], placed⟩, ?_⟩
  · rw [size, release]
    exact kept.release
  · rw [size, release, write, same]
    exact kept.write
  · rw [size, same]
    exact credit
  · rw [ring]
    exact kept.held.frame size release fun i _ => by rw [entries]

theorem reserveDrbs_entryAt (skb : Skb) (txq : Txq) :
    ∀ i ≠ txq.drbWrIdx, entryAt (reserveDrbs skb txq) i = entryAt txq i := by
  intro i other
  have same := (reserve_added skb txq).outside i (by simpa using other)
  exact Prod.ext same.1 same.2

theorem writePiece_entryAt (skb curIdx busAddr dataLen : Nat) (isFrag isLastOne : Bool) (txq : Txq) :
    ∀ i ≠ curIdx, entryAt (writePiece skb curIdx busAddr dataLen isFrag isLastOne txq) i =
      entryAt txq i := by
  intro i other
  have same := (piece_added skb curIdx busAddr dataLen isFrag isLastOne txq).outside i
    (by simpa using other)
  exact Prod.ext same.1 same.2

theorem RingKept.finish {cnt : Nat} {ret : Int} (kept : RingKept s) (txq : t.txq = s.txq)
    (ring : t.ring = s.ring) (idle : s.pc.unwritten = 0) (at_ : t.pc = burstReturn cnt ret) :
    RingKept t := by
  have room := kept.room
  refine kept.move (by rw [txq]) (by rw [txq]) (by rw [txq]) (by rw [txq]) ring (by rw [at_]; rfl)
    (by rw [at_, idle]; rfl) ?_ (by rw [at_]; exact trivial)
  rw [at_]
  change s.inRing + 0 < _
  omega

theorem ThreadStep.ring (kept : RingKept s) (step : ThreadStep s t) : RingKept t := by
  have room := kept.room
  have available := kept.available
  obtain ⟨k, length, placed⟩ := kept.placed
  have here := kept.write
  unfold Burst.inRing at room available here
  cases step with
  | snapshot at_ =>
    rw [at_] at available
    exact kept.move rfl rfl rfl rfl rfl rfl (by rw [at_]; rfl)
      (by simpa [Burst.inRing, at_] using available) trivial
  | finished at_ => exact kept.finish rfl rfl (by rw [at_]; rfl) rfl
  | peeked at_ first =>
    exact kept.move rfl rfl rfl rfl rfl rfl (by rw [at_]; rfl)
      (by simpa [Burst.inRing, at_] using room) trivial
  | short at_ =>
    exact kept.move rfl rfl rfl rfl rfl rfl (by rw [at_]; rfl)
      (by simpa [Burst.inRing, at_] using available) trivial
  | fits at_ fewer =>
    rw [at_] at room
    exact kept.move rfl rfl rfl rfl rfl rfl (by rw [at_]; rfl)
      (by simp [Burst.inRing, at_] at room ⊢; omega) trivial
  | refused at_ => exact kept.finish rfl rfl (by rw [at_]; rfl) rfl
  | @reserved i remain cnt skb at_ =>
    have count := skbDrbCnt_pieces skb
    simp only [at_, BurstPc.unwritten, BurstPc.credit, BurstPc.laid, Nat.add_zero] at room length here
    have write := @reserveDrbs_write skb _ _ here (by omega) (by omega)
    refine ⟨kept.release, ?_, ?_, ⟨s.ring.length, ?_, here, here, ?_⟩, ?_⟩
    · rw [write]
      simp only [Burst.inRing, BurstPc.unwritten, List.length_append, List.length_singleton, count]
      congr 1
      change _ = s.txq.drbReleaseRdIdx + _
      omega
    · simp only [Burst.inRing, BurstPc.unwritten, BurstPc.credit, List.length_append,
        List.length_singleton]
      change _ < s.txq.drbSizeCnt
      omega
    · simp
    · omega
    · exact kept.held.push rfl rfl (by omega) here (reserveDrbs_entryAt skb s.txq)
  | @written i remain cnt backup wrCnt curIdx dataLen busAddr skb isFrag pieces txq log at_ write =>
    simp only [at_, BurstPc.unwritten, BurstPc.credit, BurstPc.laid, List.length_cons] at room length here
    rw [at_] at placed
    obtain ⟨message, cursor, count⟩ := placed
    have next := ringBufGetNextWrIdx_mod (s.txq.drbReleaseRdIdx + k + wrCnt)
      (show 0 < s.txq.drbSizeCnt by omega)
    rw [← cursor] at next
    have behind : ringBufGetNextWrIdx s.txq.drbSizeCnt curIdx =
        (s.txq.drbReleaseRdIdx + s.ring.length) % s.txq.drbSizeCnt := by
      rw [next, length, Nat.add_assoc, Nat.add_assoc]
    subst write
    refine ⟨kept.release, ?_, ?_, ⟨k, ?_, message, next, ?_⟩, ?_⟩
    · simp only [Burst.inRing, BurstPc.unwritten, List.length_append, List.length_singleton]
      rw [Nat.add_assoc, Nat.add_comm 1]
      exact here
    · simp only [Burst.inRing, BurstPc.unwritten, BurstPc.credit, List.length_append,
        List.length_singleton]
      change _ < s.txq.drbSizeCnt
      omega
    · simp
      omega
    · simp at count
      omega
    · exact kept.held.push rfl rfl (by omega) behind (writePiece_entryAt _ _ _ _ _ _ s.txq)
  | @failed i remain cnt backup wrCnt curIdx skb pieces log at_ =>
    simp only [at_, BurstPc.unwritten, BurstPc.credit, BurstPc.laid] at room length here
    rw [at_] at placed
    obtain ⟨message, cursor, count⟩ := placed
    refine ⟨kept.release, ?_, ?_, ⟨k, ?_, trivial⟩, ?_⟩
    · simp [Burst.inRing, burstReturn, length, message]
    · simp [Burst.inRing, burstReturn, length]
      omega
    · simp [burstReturn, length]
    · exact (kept.held.take (by omega)).frame rfl rfl fun _ _ => rfl
  | added at_ =>
    exact kept.move rfl rfl rfl rfl rfl rfl (by rw [at_]; rfl)
      (by simpa [Burst.inRing, at_] using room) trivial
  | unlinked at_ =>
    exact kept.move rfl rfl rfl rfl rfl rfl (by rw [at_]; rfl)
      (by simpa [Burst.inRing, at_] using room) trivial

end Room

section Releases

variable {s : Burst}

theorem releaseDrb_entryAt (txq : Txq) (log : TxLog) :
    ∀ i ≠ txq.drbReleaseRdIdx, entryAt (releaseDrb txq log).1 i = entryAt txq i := by
  intro i other
  have cleared : entryAt (clearDrbSkb txq.drbReleaseRdIdx txq) i = entryAt txq i :=
    Prod.ext rfl (Function.update_of_ne other _ _)
  unfold releaseDrb
  dsimp only
  split
  · split
    · exact cleared
    · split
      · rfl
      · exact cleared
  · rfl

/-- A round of the release either takes the first DRB of the ring or leaves the queue as it is. -/
theorem releaseRound_cases (kept : RingKept s) (guard : s.pc.laid < s.ring.length) :
    (∃ log, releaseRound s = { s with log }) ∨
    (∃ txq log first rest, s.ring = first :: rest ∧ Released 1 s.txq txq ∧
      (∀ i ≠ s.txq.drbReleaseRdIdx, entryAt txq i = entryAt s.txq i) ∧
      releaseRound s = { s with txq, log, ring := rest, released := s.released + 1 }) := by
  have room := kept.room
  unfold Burst.inRing at room
  have outside := releaseDrb_entryAt s.txq s.log
  have stays : ∀ log, releaseDrb s.txq s.log = (s.txq, log) → ∃ log, releaseRound s = { s with log } := by
    intro log same
    refine ⟨log, ?_⟩
    unfold releaseRound
    rw [same]
    exact if_pos rfl
  rcases releaseDrb_cases s.txq s.log (by omega) with moved | ⟨_, same⟩ | same
  · right
    have index := moved.release s.txq.drbReleaseRdIdx (Nat.mod_eq_of_lt kept.release).symm
    have other : (releaseDrb s.txq s.log).1.drbReleaseRdIdx ≠ s.txq.drbReleaseRdIdx := by
      intro same
      rw [index, ← Nat.mod_eq_of_lt kept.release, Nat.mod_add_mod] at same
      have equal := Ring.add_mod_inj (j := 0) (by omega) (by omega) same
      omega
    cases ring : s.ring with
    | nil => simp [ring] at guard
    | cons first rest =>
      refine ⟨(releaseDrb s.txq s.log).1, (releaseDrb s.txq s.log).2, first, rest, rfl, moved, outside, ?_⟩
      unfold releaseRound
      dsimp only
      rw [if_neg other, ring]
      rfl
  · exact Or.inl (stays _ same)
  · exact Or.inl (stays _ same)

theorem BurstPc.Placed.shift {pc : BurstPc} {j : Nat} {t u : Txq} (placed : pc.Placed (j + 1) t)
    (shift : ∀ c, (u.drbReleaseRdIdx + c) % u.drbSizeCnt =
      (t.drbReleaseRdIdx + (c + 1)) % t.drbSizeCnt) : pc.Placed j u := by
  cases pc with
  | map i remain cnt skb backup wrCnt curIdx pieces =>
    obtain ⟨message, cursor, count⟩ := placed
    refine ⟨by rw [shift, message], ?_, count⟩
    rw [Nat.add_assoc, shift, cursor]
    congr 1
    omega
  | _ => trivial

theorem release_ring (kept : RingKept s) (guard : s.pc.laid < s.ring.length) :
    RingKept (releaseRound s) := by
  have room := kept.room
  obtain ⟨k, length, placed⟩ := kept.placed
  have here := kept.write
  unfold Burst.inRing at room here
  rcases releaseRound_cases kept guard with
    ⟨log, same⟩ | ⟨txq, log, first, rest, ring, moved, outside, taken⟩
  · rw [same]
    exact ⟨kept.release, kept.write, kept.room, kept.placed, kept.held⟩
  · rw [taken]
    have index := moved.release s.txq.drbReleaseRdIdx (Nat.mod_eq_of_lt kept.release).symm
    have size := moved.size
    have held := kept.held
    rw [ring] at held length room here guard
    simp only [List.length_cons] at length room here guard
    obtain ⟨j, rfl⟩ : ∃ j, k = j + 1 := ⟨k - 1, by omega⟩
    have shift : ∀ c, (txq.drbReleaseRdIdx + c) % txq.drbSizeCnt =
        (s.txq.drbReleaseRdIdx + (c + 1)) % s.txq.drbSizeCnt := by
      intro c
      rw [size, index, Nat.mod_add_mod, Nat.add_assoc, Nat.add_comm 1]
    refine ⟨?_, ?_, ?_, ⟨j, by simp only; omega, ?_⟩, ?_⟩
    · rw [size, index]
      exact Nat.mod_lt _ (by omega)
    · simp only [Burst.inRing]
      rw [moved.write, shift, here]
      congr 2
      omega
    · simp only [Burst.inRing, size]
      omega
    · exact placed.shift shift
    · exact held.pop size index (by omega) (by rwa [Nat.mod_eq_of_lt kept.release])

end Releases

section Order

structure OrderKept (start s : Burst) : Prop where
  order : owners s.ring = (drbHistory start s).drop s.released ++ s.pc.laidOwners
  behind : s.released ≤ (drbHistory start s).length

variable {start s t : Burst}

theorem OrderKept.move (kept : OrderKept start s) (ring : t.ring = s.ring)
    (released : t.released = s.released) (moved : t.moved ++ t.pc.added = s.moved ++ s.pc.added)
    (laid : t.pc.laidOwners = s.pc.laidOwners) : OrderKept start t := by
  have history : drbHistory start t = drbHistory start s := by
    unfold drbHistory
    rw [moved]
  refine ⟨?_, ?_⟩
  · rw [ring, released, history, laid]
    exact kept.order
  · rw [released, history]
    exact kept.behind

theorem ThreadStep.order (ringKept : RingKept s) (kept : OrderKept start s) (step : ThreadStep s t) :
    OrderKept start t := by
  have order := kept.order
  have behind := kept.behind
  unfold drbHistory at order behind
  cases step with
  | snapshot at_ => exact kept.move rfl rfl (by rw [at_]; rfl) (by rw [at_]; rfl)
  | finished at_ => exact kept.move rfl rfl (by rw [at_]; rfl) (by rw [at_]; rfl)
  | peeked at_ first => exact kept.move rfl rfl (by rw [at_]; rfl) (by rw [at_]; rfl)
  | short at_ => exact kept.move rfl rfl (by rw [at_]; rfl) (by rw [at_]; rfl)
  | fits at_ room => exact kept.move rfl rfl (by rw [at_]; rfl) (by rw [at_]; rfl)
  | refused at_ => exact kept.move rfl rfl (by rw [at_]; rfl) (by rw [at_]; rfl)
  | @reserved i remain cnt skb at_ =>
    have owner : (entryAt (reserveDrbs skb s.txq) s.txq.drbWrIdx).2.skb = some skb.id := by
      simp [entryAt, reserveDrbs, recordDrbSkb, setupMsgDrb, Txq.setDrb, Txq.setDrbSkb]
    rw [at_] at order behind
    refine ⟨?_, behind⟩
    simp only [owners, List.map_append, List.map_singleton, owner] at order ⊢
    rw [order]
    simp [drbHistory, owners]
  | @written i remain cnt backup wrCnt curIdx dataLen busAddr skb isFrag pieces txq log at_ write =>
    have owner : (entryAt txq (ringBufGetNextWrIdx s.txq.drbSizeCnt curIdx)).2.skb = some skb.id := by
      simp [write, entryAt, writePiece, recordDrbSkb, setupPayloadDrb, Txq.setDrb, Txq.setDrbSkb]
    rw [at_] at order behind
    refine ⟨?_, behind⟩
    simp only [owners, List.map_append, List.map_singleton, owner] at order ⊢
    rw [order]
    simp [drbHistory, owners, List.replicate_succ']
  | @failed i remain cnt backup wrCnt curIdx skb pieces log at_ =>
    obtain ⟨k, length, _⟩ := ringKept.placed
    rw [at_] at order behind length
    simp only [BurstPc.laid, BurstPc.laidOwners, BurstPc.added] at length order behind
    refine ⟨?_, behind⟩
    have total := congrArg List.length order
    simp only [owners, List.length_map, List.length_append, List.length_replicate] at total
    simp only [owners, List.map_take] at order ⊢
    rw [order, List.take_left' (by omega)]
    simp [drbHistory, owners, burstReturn]
  | @added i remain cnt backup wrCnt curIdx skb txBudget log at_ =>
    obtain ⟨k, _, placed⟩ := ringKept.placed
    rw [at_] at order behind placed
    have count := placed.2.2
    simp only [BurstPc.laidOwners, BurstPc.added, List.append_nil] at order behind
    have grown : drbHistory start
        { s with
          txq := { s.txq with txBudget }
          log
          pc := .unlink i remain cnt skb } =
        owners start.ring ++ s.moved.flatMap Skb.drbOwners ++ skb.drbOwners := by
      simp [drbHistory]
    refine ⟨?_, ?_⟩
    · rw [grown, List.drop_append_of_le_length behind, order]
      simp only [Skb.drbOwners, ← count, BurstPc.laidOwners, List.append_nil]
      rfl
    · rw [grown]
      simp only [List.length_append] at behind ⊢
      omega
  | unlinked at_ =>
    exact kept.move rfl rfl (by rw [at_]; simp) (by rw [at_]; rfl)

theorem laidOwners_length (pc : BurstPc) : pc.laidOwners.length = pc.laid := by
  cases pc <;> simp

theorem release_order (ringKept : RingKept s) (kept : OrderKept start s)
    (guard : s.pc.laid < s.ring.length) : OrderKept start (releaseRound s) := by
  rcases releaseRound_cases ringKept guard with ⟨log, same⟩ | ⟨txq, log, first, rest, ring, _, _, taken⟩
  · rw [same]
    exact ⟨kept.order, kept.behind⟩
  · rw [taken]
    have order := kept.order
    have behind := kept.behind
    have total := congrArg List.length order
    simp only [owners, List.length_map, List.length_append, List.length_drop, laidOwners_length] at total
    have some_ : (drbHistory start s).drop s.released ≠ [] := by
      intro empty
      have none_ := congrArg List.length empty
      simp only [List.length_drop, List.length_nil] at none_
      omega
    refine ⟨?_, ?_⟩
    · rw [ring] at order
      have tails := congrArg List.tail order
      rw [List.tail_append_of_ne_nil some_, List.tail_drop] at tails
      exact tails
    · change s.released + 1 ≤ (drbHistory start s).length
      omega

end Order

end T7xxModel.Dpmaif
