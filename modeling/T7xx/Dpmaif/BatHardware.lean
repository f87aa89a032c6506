import T7xx.Dpmaif.BatFilling

namespace T7xxModel.Dpmaif

/-- Entries of a BAT since the start: released by the driver, passed by `bat_wr_idx`, told to the
    hardware, and used by it. They are counted on, so that entry `k` lies in slot `k` modulo the
    size of the table. -/
structure HwBat where
  released : Nat
  posted : Nat
  told : Nat
  used : Nat
deriving DecidableEq, Repr

/-- The receive path beside its hardware. `unmapped` are the slots of the normal BAT that still record
    an skb whose mapping `t7xx_dpmaif_set_data_to_skb` has undone. -/
structure BatHw where
  path : RxPath
  normal : HwBat
  frag : HwBat
  unmapped : Nat → Bool

def BatHw.hw (s : BatHw) : BatType → HwBat
  | .normal => s.normal
  | .frag => s.frag

def BatHw.setHw (s : BatHw) : BatType → HwBat → BatHw
  | .normal, hw => { s with normal := hw }
  | .frag, hw => { s with frag := hw }

/-- A start or a stop, the hardware using the next entry that it was told of, a PIT entry for a used one,
    and the steps of `t7xx_dpmaif_bat_release_work`. The hardware takes every count. -/
inductive BatLabel where
  | start (bufAllocs fragAllocs : Nat → Option Nat) (hwReady : Bool)
  | stop
  | hwUse (type : BatType)
  | rxPkt (curBid : Nat) (fits : Bool)
  | rxFrag (curBid : Nat) (word : BitVec 64)
  | workCount (type : BatType)
  | workRelease
  | workAlloc (allocs : Nat → Option Nat)

section Steps

def advanced (t u : Bat) (index : Bat → Nat) : Nat :=
  Ring.distance t.batSizeCnt (index t) (index u)

/-- What the release work tells the hardware of; of fragments it is whatever was filled. -/
def toldCnt (allocs : Nat → Option Nat) (type : BatType) (bidCnt : Nat) (p : RxPath) : Nat :=
  match type with
  | .normal => sentBatCnt allocs p.queStarted bidCnt p.normal
  | .frag => filledCnt allocs bidCnt p.frag

def BatHw.Stale (s : BatHw) (idx : Nat) : Prop :=
  s.unmapped idx = true ∧ s.path.normal.batSkb idx ≠ none

instance (s : BatHw) (idx : Nat) : Decidable (s.Stale idx) := inferInstanceAs (Decidable (_ ∧ _))

/-- A slot stays stale as long as its skb stays in it; a new skb is mapped. -/
def BatHw.setPath (s : BatHw) (path : RxPath) : BatHw :=
  { s with path, unmapped := fun idx => s.Stale idx ∧ path.normal.batSkb idx ≠ none }

/-- A start tells the hardware of all slots but one, whatever was filled. -/
def startHw (t u : Bat) : HwBat where
  released := 0
  posted := advanced t u Bat.batWrIdx
  told := u.batSizeCnt - 1
  used := 0

def batStart (bufAllocs fragAllocs : Nat → Option Nat) (hwReady : Bool) (s : BatHw) :
    Option BatHw :=
  (rxStart bufAllocs fragAllocs hwReady s.path).map fun path =>
    if path.state = .pwron then
      { s.setPath path with
        normal := startHw s.path.normal path.normal
        frag := startHw s.path.frag path.frag }
    else s.setPath path

/-- A stop that finds the release work at rest. What the hardware was told of goes with it. -/
def batStop (s : BatHw) : Option BatHw :=
  if s.path.work ≠ .idle then none
  else
    (rxStop s.path).map fun path => { s.setPath path with normal := ⟨0, 0, 0, 0⟩, frag := ⟨0, 0, 0, 0⟩ }

def BatHw.Named (s : BatHw) (type : BatType) (curBid : Nat) : Prop :=
  curBid ∈ Ring.slots (s.path.table type).batSizeCnt (s.hw type).released
    ((s.hw type).used - (s.hw type).released)

instance (s : BatHw) (type : BatType) (curBid : Nat) : Decidable (s.Named type curBid) :=
  inferInstanceAs (Decidable (_ ∈ _))

/-- `t7xx_dpmaif_get_rx_pkt` undoes the mapping of a buffer before it finds that the data do not fit. -/
def batRxPkt (curBid : Nat) (fits : Bool) (s : BatHw) : Option BatHw :=
  if s.Named .normal curBid then
    (rxStep s.path (.rxPkt curBid fits)).map fun path =>
      if batCurBidCheck s.path.normal curBid = true ∧ fits = false then
        { s with unmapped := Function.update s.unmapped curBid true }
      else s.setPath path
  else none

def batRxFrag (curBid : Nat) (word : BitVec 64) (s : BatHw) : Option BatHw :=
  if s.Named .frag curBid then (rxStep s.path (.rxFrag curBid word)).map s.setPath else none

def batWorkRelease (s : BatHw) : Option BatHw :=
  match s.path.work with
  | .counted type _ =>
    let bat := s.path.table type
    let hw := s.hw type
    (workRelease (hw.used % bat.batSizeCnt) s.path).map fun path =>
      (s.setPath path).setHw type
        { hw with
          released := hw.released + advanced bat (path.table type) Bat.batReleaseRdIdx }
  | _ => none

def batWorkAlloc (allocs : Nat → Option Nat) (s : BatHw) : Option BatHw :=
  match s.path.work with
  | .released type bidCnt =>
    let bat := s.path.table type
    let hw := s.hw type
    let told := hw.told + toldCnt allocs type bidCnt s.path
    (workAlloc allocs ⟨0, told % bat.batSizeCnt⟩ s.path).map fun path =>
      (s.setPath path).setHw type
        { hw with
          told
          posted := hw.posted + advanced bat (path.table type) Bat.batWrIdx }
  | _ => none

/-- Only a start that succeeds enables the interrupts, and with them all the rest. -/
def batStep (s : BatHw) : BatLabel → Option BatHw
  | .start bufAllocs fragAllocs hwReady => batStart bufAllocs fragAllocs hwReady s
  | label =>
    if s.path.state ≠ .pwron then none
    else
      match label with
      | .stop => batStop s
      | .hwUse type =>
        let hw := s.hw type
        if hw.used < hw.told then some (s.setHw type { hw with used := hw.used + 1 }) else none
      | .rxPkt curBid fits => batRxPkt curBid fits s
      | .rxFrag curBid word => batRxFrag curBid word s
      | .workCount type => (workCount type s.path).map s.setPath
      | .workRelease => batWorkRelease s
      | .workAlloc allocs => batWorkAlloc allocs s
      | .start .. => none

end Steps

section Contract

def Recorded (bat : Bat) (hw : HwBat) : Prop :=
  ∀ k, hw.used ≤ k → k < hw.told → RecordedAt bat (k % bat.batSizeCnt)

def AllRecorded (s : BatHw) : Prop := ∀ type, Recorded (s.path.table type) (s.hw type)

def AllMapped (s : BatHw) : Prop :=
  ∀ k, s.normal.used ≤ k → k < s.normal.told → s.unmapped (k % s.path.normal.batSizeCnt) = false

/-- Every entry that the hardware was told of and has not used holds the bus address of the mapped
    buffer that its slot records. -/
def AllBacked (s : BatHw) : Prop := AllRecorded s ∧ AllMapped s

/-- A running hardware was told of as many entries as `bat_wr_idx` has passed. -/
def Announced (s : BatHw) : Prop :=
  s.path.state = .pwron → ∀ type, (s.hw type).told = (s.hw type).posted

def StartsOver (s : BatHw) (bufAllocs fragAllocs : Nat → Option Nat) (hwReady : Bool) : Prop :=
  hwReady = true ∧ (∀ type, (s.path.table type).batWrIdx = 0) ∧ Supplies bufAllocs s.path.normal 1 ∧
    Supplies fragAllocs s.path.frag (s.path.frag.batSizeCnt - 1)

def StartsFull (s : BatHw) : BatLabel → Prop
  | .start bufAllocs fragAllocs hwReady =>
    StartsOver s bufAllocs fragAllocs hwReady →
      Supplies bufAllocs s.path.normal (s.path.normal.batSizeCnt - 1)
  | _ => True

/-- A start that is not given up, and the release work, come upon no stale slot where they fill. -/
def FillsMapped (s : BatHw) : BatLabel → Prop
  | .start bufAllocs fragAllocs hwReady =>
    StartsOver s bufAllocs fragAllocs hwReady → ∀ idx < s.path.normal.batSizeCnt - 1, ¬ s.Stale idx
  | .workAlloc allocs =>
    ∀ bidCnt, s.path.work = .released .normal bidCnt →
      ∀ j < filledCnt allocs bidCnt s.path.normal,
        ¬ s.Stale (s.path.normal.wrap (s.path.normal.batWrIdx + j))
  | _ => True

structure AtRest (bat : Bat) : Prop where
  big : 1 < bat.batSizeCnt
  release : bat.batReleaseRdIdx = 0
  write : bat.batWrIdx < bat.batSizeCnt

structure Stopped (s : BatHw) : Prop where
  off : s.path.state ≠ .pwron
  tables : ∀ type, AtRest (s.path.table type)
  untold : ∀ type, (s.hw type).told = 0

end Contract

end T7xxModel.Dpmaif
