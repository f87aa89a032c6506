import T7xx.Dpmaif.TxRelease

namespace T7xxModel.Dpmaif

open Transition

/-- Where `t7xx_txq_burst_send_skb` is: at its snapshot, at the head of the loop, behind
    `skb_peek`, in the call that adds an skb, or about to unlink it. In `map` the `pieces` are still to
    be written behind `curIdx`. -/
inductive BurstPc where
  | entry
  | loop (i remain cnt : Nat) (ret : Int)
  | compare (i remain cnt : Nat) (ret : Int) (skb : Skb)
  | add (i remain cnt : Nat) (skb : Skb)
  | map (i remain cnt : Nat) (skb : Skb) (backup wrCnt curIdx : Nat) (pieces : List (Nat × Bool))
  | unlink (i remain cnt : Nat) (skb : Skb)
  | returned (ret : Int)
deriving DecidableEq, Repr

/-- A queue in the middle of a burst. `moved` and `arrived` are the skbs unlinked and appended since
    the burst began, `ring` are the DRBs written and not released with their records, and `released`
    counts the releases. -/
structure Burst where
  txq : Txq
  state : DpmaifState
  log : TxLog
  pc : BurstPc
  moved : List Skb
  arrived : List Skb
  ring : List (Drb × DrbSkb)
  released : Nat

/-- A step of the burst, in which a mapping may fail, or of the threads around it. -/
inductive BurstLabel where
  | thread (mapped : Bool)
  | append (skb : Skb)
  | release
  | power (queStarted : Bool) (state : DpmaifState)
deriving DecidableEq, Repr

def entryAt (txq : Txq) (i : Nat) : Drb × DrbSkb := (txq.drbBase i, txq.drbSkbBase i)

def burstReturn (cnt : Nat) (ret : Int) : BurstPc := .returned (if 0 < cnt then cnt else ret)

/-- The DRBs that the skb being added has in the ring so far. -/
@[simp] def BurstPc.laid : BurstPc → Nat
  | .map _ _ _ _ _ wrCnt _ _ => wrCnt + 1
  | _ => 0

def burstThread (mapped : Bool) (s : Burst) : Option Burst :=
  match s.pc with
  | .entry => some { s with pc := .loop 0 (txqDrbWrAvailable s.txq) 0 0 }
  | .loop i remain cnt ret =>
    if i < DPMAIF_SKB_TX_BURST_CNT then
      match s.txq.txSkbHead with
      | [] => some { s with pc := burstReturn cnt ret }
      | skb :: _ => some { s with pc := .compare i remain cnt ret skb }
    else some { s with pc := burstReturn cnt ret }
  | .compare i remain cnt ret skb =>
    if remain < skbDrbCnt skb then
      some { s with pc := .loop (i + 1) (txqDrbWrAvailable s.txq) cnt ret }
    else some { s with pc := .add i (remain - skbDrbCnt skb) cnt skb }
  | .add i remain cnt skb =>
    if s.txq.queStarted = false ∨ s.state ≠ .pwron then
      some { s with pc := burstReturn cnt (-ENODEV) }
    else
      let txq := reserveDrbs skb s.txq
      some { s with
        txq
        ring := s.ring ++ [entryAt txq s.txq.drbWrIdx]
        pc := .map i remain cnt skb s.txq.drbWrIdx 0 s.txq.drbWrIdx skb.pieces }
  | .map i remain cnt skb backup wrCnt curIdx ((dataLen, isFrag) :: pieces) =>
    if mapped then
      let busAddr := s.log.mapped.length + 1
      let curIdx := ringBufGetNextWrIdx s.txq.drbSizeCnt curIdx
      let txq := writePiece skb.id curIdx busAddr dataLen isFrag pieces.isEmpty s.txq
      some { s with
        txq
        log := { s.log with mapped := s.log.mapped ++ [busAddr] }
        ring := s.ring ++ [entryAt txq curIdx]
        pc := .map i remain cnt skb backup (wrCnt + 1) curIdx pieces }
    else
      some { s with
        txq := { s.txq with drbWrIdx := backup }
        log := unmapBuffers s.txq wrCnt curIdx s.log
        ring := s.ring.take (s.ring.length - (wrCnt + 1))
        pc := burstReturn cnt (-ENOMEM) }
  | .map i remain cnt skb _ _ _ [] =>
    some { s with
      txq := { s.txq with txBudget := s.txq.txBudget - skbDrbCnt skb }
      log := { s.log with added := s.log.added ++ [skb.id] }
      pc := .unlink i remain cnt skb }
  | .unlink i remain cnt skb =>
    some { s with
      txq := { s.txq with txSkbHead := s.txq.txSkbHead.erase skb }
      moved := s.moved ++ [skb]
      pc := .loop (i + 1) remain (cnt + skbDrbCnt skb) 0 }
  | .returned _ => none

/-- A round of the release loop, on a DRB of an skb that was added. -/
def releaseRound (s : Burst) : Burst :=
  let (txq, log) := releaseDrb s.txq s.log
  if txq.drbReleaseRdIdx = s.txq.drbReleaseRdIdx then { s with txq, log }
  else { s with txq, log, ring := s.ring.tail, released := s.released + 1 }

def burstStep (s : Burst) : BurstLabel → Option Burst
  | .thread mapped => burstThread mapped s
  | .append skb =>
    some { s with
      txq := { s.txq with txSkbHead := s.txq.txSkbHead ++ [skb] }
      arrived := s.arrived ++ [skb] }
  | .release => if s.pc.laid < s.ring.length then some (releaseRound s) else none
  | .power queStarted state => some { s with txq := { s.txq with queStarted }, state }

/-- A burst about to begin, on a ring that holds the DRBs from the release index to the write index. -/
structure Burst.Begins (s : Burst) : Prop where
  pc : s.pc = .entry
  moved : s.moved = []
  arrived : s.arrived = []
  released : s.released = 0
  release : s.txq.drbReleaseRdIdx < s.txq.drbSizeCnt
  write : s.txq.drbWrIdx < s.txq.drbSizeCnt
  ring : s.ring = (inFlight s.txq).map (entryAt s.txq)

/-- The pieces whose places are reserved and not written yet. -/
@[simp] def BurstPc.unwritten : BurstPc → Nat
  | .map _ _ _ _ _ _ _ pieces => pieces.length
  | _ => 0

def Burst.inRing (s : Burst) : Nat := s.ring.length + s.pc.unwritten

def Skb.drbOwners (skb : Skb) : List (Option Nat) := List.replicate (skbDrbCnt skb) (some skb.id)

def owners (ring : List (Drb × DrbSkb)) : List (Option Nat) := ring.map fun entry => entry.2.skb

/-- The owners of the DRBs that the skb being added has in the ring so far. -/
@[simp] def BurstPc.laidOwners : BurstPc → List (Option Nat)
  | .map _ _ _ skb _ wrCnt _ _ => List.replicate (wrCnt + 1) (some skb.id)
  | _ => []

@[simp] def BurstPc.added : BurstPc → List Skb
  | .unlink _ _ _ skb => [skb]
  | _ => []

/-- The owners of all DRBs that were in the ring or came to it, in the order of their skbs. -/
def drbHistory (start s : Burst) : List (Option Nat) :=
  owners start.ring ++ (s.moved ++ s.pc.added).flatMap Skb.drbOwners

def totalDrbs (skbs : List Skb) : Nat := (skbs.map skbDrbCnt).sum

structure BurstKept (start s : Burst) : Prop where
  /-- The skbs moved are the first ones of the queue, and the others still wait in order. -/
  queue : start.txq.txSkbHead ++ s.arrived = s.moved ++ s.txq.txSkbHead
  /-- Behind the DRBs that were there the ring holds those of the skbs moved, in this order. -/
  order : owners s.ring = (drbHistory start s).drop s.released ++ s.pc.laidOwners
  count : Ring.distance s.txq.drbSizeCnt s.txq.drbReleaseRdIdx s.txq.drbWrIdx = s.inRing
  room : s.inRing ≤ s.txq.drbSizeCnt - 1
  /-- Each DRB in the ring is as it was written. -/
  held : s.ring =
    (Ring.slots s.txq.drbSizeCnt s.txq.drbReleaseRdIdx s.ring.length).map (entryAt s.txq)
  returns : ∀ ret, s.pc = .returned ret →
    (s.moved ≠ [] → ret = totalDrbs s.moved) ∧ (s.moved = [] → ret ≤ 0)

section Steps

inductive ThreadStep (s : Burst) : Burst → Prop where
  | snapshot (at_ : s.pc = .entry) :
    ThreadStep s { s with pc := .loop 0 (txqDrbWrAvailable s.txq) 0 0 }
  | finished {i remain cnt : Nat} {ret : Int} (at_ : s.pc = .loop i remain cnt ret) :
    ThreadStep s { s with pc := burstReturn cnt ret }
  | peeked {i remain cnt : Nat} {ret : Int} {skb : Skb} {rest : List Skb}
    (at_ : s.pc = .loop i remain cnt ret) (head : s.txq.txSkbHead = skb :: rest) :
    ThreadStep s { s with pc := .compare i remain cnt ret skb }
  | short {i remain cnt : Nat} {ret : Int} {skb : Skb} (at_ : s.pc = .compare i remain cnt ret skb) :
    ThreadStep s { s with pc := .loop (i + 1) (txqDrbWrAvailable s.txq) cnt ret }
  | fits {i remain cnt : Nat} {ret : Int} {skb : Skb} (at_ : s.pc = .compare i remain cnt ret skb)
    (room : skbDrbCnt skb ≤ remain) :
    ThreadStep s { s with pc := .add i (remain - skbDrbCnt skb) cnt skb }
  | refused {i remain cnt : Nat} {skb : Skb} (at_ : s.pc = .add i remain cnt skb) :
    ThreadStep s { s with pc := burstReturn cnt (-ENODEV) }
  | reserved {i remain cnt : Nat} {skb : Skb} (at_ : s.pc = .add i remain cnt skb) :
    ThreadStep s { s with
      txq := reserveDrbs skb s.txq
      ring := s.ring ++ [entryAt (reserveDrbs skb s.txq) s.txq.drbWrIdx]
      pc := .map i remain cnt skb s.txq.drbWrIdx 0 s.txq.drbWrIdx skb.pieces }
  | written {i remain cnt backup wrCnt curIdx dataLen busAddr : Nat} {skb : Skb} {isFrag : Bool}
    {pieces : List (Nat × Bool)} {txq : Txq} {log : TxLog}
    (at_ : s.pc = .map i remain cnt skb backup wrCnt curIdx ((dataLen, isFrag) :: pieces))
    (write : txq = writePiece skb.id (ringBufGetNextWrIdx s.txq.drbSizeCnt curIdx) busAddr dataLen isFrag
      pieces.isEmpty s.txq) :
    ThreadStep s { s with
      txq
      log
      ring := s.ring ++ [entryAt txq (ringBufGetNextWrIdx s.txq.drbSizeCnt curIdx)]
      pc := .map i remain cnt skb backup (wrCnt + 1)
        (ringBufGetNextWrIdx s.txq.drbSizeCnt curIdx) pieces }
  | failed {i remain cnt backup wrCnt curIdx : Nat} {skb : Skb} {pieces : List (Nat × Bool)}
    {log : TxLog} (at_ : s.pc = .map i remain cnt skb backup wrCnt curIdx pieces) :
    ThreadStep s { s with
      txq := { s.txq with drbWrIdx := backup }
      log
      ring := s.ring.take (s.ring.length - (wrCnt + 1))
      pc := burstReturn cnt (-ENOMEM) }
  | added {i remain cnt backup wrCnt curIdx : Nat} {skb : Skb} {txBudget : Int} {log : TxLog}
    (at_ : s.pc = .map i remain cnt skb backup wrCnt curIdx []) :
    ThreadStep s { s with
      txq := { s.txq with txBudget }
      log
      pc := .unlink i remain cnt skb }
  | unlinked {i remain cnt : Nat} {skb : Skb} (at_ : s.pc = .unlink i remain cnt skb) :
    ThreadStep s { s with
      txq := { s.txq with txSkbHead := s.txq.txSkbHead.erase skb }
      moved := s.moved ++ [skb]
      pc := .loop (i + 1) remain (cnt + skbDrbCnt skb) 0 }

theorem burstThread_step {s t : Burst} {mapped : Bool} (taken : burstThread mapped s = some t) :
    ThreadStep s t := by
  unfold burstThread at taken
  split at taken
  · rename_i at_
    cases taken
    exact .snapshot at_
  · rename_i at_
    split at taken
    · split at taken
      · cases taken
        exact .finished at_
      · rename_i head
        cases taken
        exact .peeked at_ head
    · cases taken
      exact .finished at_
  · rename_i at_
    split at taken
    · cases taken
      exact .short at_
    · rename_i room
      cases taken
      exact .fits at_ (Nat.not_lt.mp room)
  · rename_i at_
    split at taken
    · cases taken
      exact .refused at_
    · cases taken
      exact .reserved at_
  · rename_i at_
    split at taken
    · cases taken
      exact .written at_ rfl
    · cases taken
      exact .failed at_
  · rename_i at_
    cases taken
    exact .added at_
  · rename_i at_
    cases taken
    exact .unlinked at_
  · cases taken

end Steps

end T7xxModel.Dpmaif
