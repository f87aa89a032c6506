import T7xx.Dpmaif.Bat
import T7xx.Transition.Runs

namespace T7xxModel.Dpmaif

open Transition

/-- Where `t7xx_dpmaif_bat_release_work` is: it counts the slots to release, releases them, and
    allocates as many new ones. Nothing waits for it when the data path stops. -/
inductive ReleaseWork where
  | idle
  | counted (type : BatType) (bidCnt : Nat)
  | released (type : BatType) (bidCnt : Nat)
deriving DecidableEq, Repr

/-- The two BAT tables, shared by the RX queues, whose `que_started` always change together. -/
structure RxPath where
  normal : Bat
  frag : Bat
  queStarted : Bool
  state : DpmaifState
  work : ReleaseWork

inductive RxLabel where
  | start (bufAllocs fragAllocs : Nat → Option Nat) (hwReady : Bool)
  | stop
  | suspend
  | resume
  | rxPkt (curBid : Nat) (fits : Bool)
  | rxFrag (curBid : Nat) (word : BitVec 64)
  | workCount (type : BatType)
  | workRelease (hwRdIdx : Nat)
  | workAlloc (allocs : Nat → Option Nat) (answer : HwBatAnswer)

def RxPath.table (s : RxPath) : BatType → Bat
  | .normal => s.normal
  | .frag => s.frag

def RxPath.setTable (s : RxPath) : BatType → Bat → RxPath
  | .normal, bat => { s with normal := bat }
  | .frag, bat => { s with frag := bat }

def clearBitmap (bat : Bat) : Bat := { bat with batBitmap := fun _ => false }

/-- `t7xx_dpmaif_start`, seen from the RX side. Clearing a bitmap that was freed is a fault. -/
def rxStart (bufAllocs fragAllocs : Nat → Option Nat) (hwReady : Bool) (s : RxPath) :
    Option RxPath :=
  if s.state = .pwron ∨ s.normal.freed then none
  else
    let s := { s with queStarted := true }
    let (normal, ret) := rxBufAlloc bufAllocs true none (s.normal.batSizeCnt - 1)
      (clearBitmap s.normal)
    if ret ≠ 0 then some { s with normal }
    else
      let (frag, ret) := rxFragAlloc fragAllocs true (s.frag.batSizeCnt - 1) s.frag
      if ret ≠ 0 then some { s with normal := batFree normal, frag }
      else if hwReady = false then some { s with normal := batFree normal, frag := batFree frag }
      else some { s with normal, frag, state := .pwron }

def resetIndices (bat : Bat) : Bat := { bat with batReleaseRdIdx := 0, batWrIdx := 0 }

def rxStop (s : RxPath) : Option RxPath :=
  if s.state = .pwroff ∨ s.normal.freed then none
  else
    some { s with
      state := .pwroff
      queStarted := false
      normal := resetIndices (clearBitmap { s.normal with batBase := fun _ => 0 })
      frag := resetIndices s.frag }

def workCount (type : BatType) (s : RxPath) : Option RxPath :=
  if s.work ≠ .idle ∨ (s.table type).freed then none
  else
    let bidCnt := availPktBatCnt (s.table type)
    if bidCnt < DPMAIF_BAT_CNT_THRESHOLD then some s
    else some { s with work := .counted type bidCnt }

def workRelease (hwRdIdx : Nat) (s : RxPath) : Option RxPath :=
  match s.work with
  | .counted type bidCnt =>
    if (s.table type).freed then none
    else
      let (bat, ret) := releaseBatEntry s.queStarted bidCnt hwRdIdx (s.table type)
      some { s.setTable type bat with work := if ret ≤ 0 then .idle else .released type bidCnt }
  | _ => none

def workAlloc (allocs : Nat → Option Nat) (answer : HwBatAnswer) (s : RxPath) : Option RxPath :=
  match s.work with
  | .released .normal bidCnt =>
    if s.normal.freed then none
    else
      let normal := (rxBufAlloc allocs s.queStarted (some answer) bidCnt s.normal).1
      some { s with normal, work := .idle }
  | .released .frag bidCnt =>
    if s.frag.freed then none
    else some { s with frag := (rxFragAlloc allocs false bidCnt s.frag).1, work := .idle }
  | _ => none

/-- A PIT entry is processed only by a poll that found its queue started. -/
def rxStep (s : RxPath) : RxLabel → Option RxPath
  | .start bufAllocs fragAllocs hwReady => rxStart bufAllocs fragAllocs hwReady s
  | .stop => rxStop s
  | .suspend => some { s with queStarted := false }
  | .resume => some { s with queStarted := true }
  | .rxPkt curBid fits =>
    if s.queStarted then some { s with normal := getRxPkt curBid fits s.normal } else none
  | .rxFrag curBid word =>
    if s.queStarted then some { s with frag := getFrag curBid word s.frag } else none
  | .workCount type => workCount type s
  | .workRelease hwRdIdx => workRelease hwRdIdx s
  | .workAlloc allocs answer => workAlloc allocs answer s

def rxInit : RxPath where
  normal := batAlloc .normal
  frag := batAlloc .frag
  queStarted := false
  state := .min
  work := .idle

def SlotTaken (bat : Bat) (idx : Nat) : Prop :=
  Ring.Within bat.batSizeCnt bat.batReleaseRdIdx bat.batWrIdx idx ∧ bat.batSkb idx = none

def BitsTaken (bat : Bat) : Prop :=
  ∀ idx < bat.batSizeCnt, bat.batBitmap idx = true → SlotTaken bat idx

def CountTaken (s : RxPath) : Prop :=
  ∀ type bidCnt, s.work = .counted type bidCnt →
    (s.table type).batReleaseRdIdx ≠ (s.table type).batWrIdx →
    ∀ j < bidCnt, SlotTaken (s.table type) ((s.table type).wrap ((s.table type).batReleaseRdIdx + j))

def BitmapsSound (s : RxPath) : Prop :=
  BitsTaken s.normal ∧ BitsTaken s.frag ∧ CountTaken s

def NamesPosted (bat : Bat) (curBid : Nat) : Prop :=
  batCurBidCheck bat curBid = true →
    Ring.Within bat.batSizeCnt bat.batReleaseRdIdx bat.batWrIdx curBid

/-- A stop finds no bit in the fragment bitmap, a PIT entry names a posted slot if its buffer passes
    the check, and no start falls between counting and releasing. -/
def KeepsBitmaps (s : RxPath) : RxLabel → Prop
  | .stop => ∀ idx < s.frag.batSizeCnt, s.frag.batBitmap idx = false
  | .rxPkt curBid fits => fits = true → NamesPosted s.normal curBid
  | .rxFrag curBid word => fragBatCurBidCheck curBid word = true → NamesPosted s.frag curBid
  | .start _ _ _ => ∀ type bidCnt, s.work ≠ .counted type bidCnt
  | _ => True

end T7xxModel.Dpmaif
