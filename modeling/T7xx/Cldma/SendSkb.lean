import T7xx.Cldma.TxRing
import T7xx.Transition.Runs

namespace T7xxModel.Cldma

open Transition

/-- The next action of a `t7xx_cldma_send_skb` call, with the variables `ret` and `tx_req` and, in
    `storeSkb`, whether the GPD had HWO set after the call's write. -/
inductive SendPc (length : Nat) where
  | pmGet
  | checkActive (ret : Int)
  | takeRing (ret : Int)
  | mapSkb (ret : Int) (txReq : Fin length)
  | setHwo (ret : Int) (txReq : Fin length)
  | storeSkb (ret : Int) (txReq : Fin length) (hwo : Bool)
  | sleepWait (ret : Int) (txReq : Fin length)
  | startSend (ret : Int) (txReq : Fin length)
  | sleepWaitFull (ret : Int)
  | resumeQueue (ret : Int)
  | waitRoom (ret : Int)
  | done (ret : Int)
deriving DecidableEq, Repr

/-- What a call has been answered so far: by runtime PM, by the wait for room, by `dma_map_single`,
    by `txq_active` and the GPD when it came to set HWO, and by the last wait for the sleep lock. -/
structure SendAnswers where
  pm : Int
  waited : Bool
  mapping : Option (Option Nat)
  active : Bool
  hwoBefore : Bool
  slept : Bool
deriving DecidableEq, Repr

structure Given (length : Nat) where
  txReq : Fin length
  mappedBuff : Option Nat
  hwo : Bool
deriving DecidableEq, Repr

structure SendRun (length : Nat) where
  ctrl : CldmaCtrl length
  pc : SendPc length
  usage : Int
  sleepDisable : Int
  given : List (Given length)
  disposed : List Disposed
  answers : SendAnswers

/-- The steps of the call, and below them those of the device, of power management and of the other
    threads of the driver. -/
inductive SendLabel (length : Nat) where
  | pmGet (ret : Int)
  | checkActive
  | takeRing
  | mapSkb (mapping : Option Nat)
  | setHwo
  | storeSkb
  | sleepWait (acquired : Bool)
  | startSend (queueStatus : Bool)
  | resumeQueue (queueStatus : Bool)
  | waitRoom (interrupted : Bool)
  | stopAllQs
  | suspend
  | resume
  | powerOff
  | hwDone (q : Nat) (i : Fin length)
  | txCollect (q : Nat)
  | clearTxq (q : Nat)
  | otherSend (q : Nat) (other : SkBuff) (mapping : Option Nat)
deriving DecidableEq, Repr

def SendPc.holdsRing {length : Nat} : SendPc length → Bool
  | .mapSkb .. | .setHwo .. | .storeSkb .. => true
  | _ => false

section Steps

variable {length : Nat} [NeZero length]

def SendRun.allowSleep (s : SendRun length) (ret : Int) : SendRun length :=
  { s with pc := .done ret, sleepDisable := s.sleepDisable - 1, usage := s.usage - 1 }

def SendRun.setQueue (s : SendRun length) (q : Nat) (queue : CldmaQueue length) : SendRun length :=
  { s with ctrl := s.ctrl.setTxq q queue }

def pmGetStep (qno : Nat) (ret : Int) (s : SendRun length) : SendRun length :=
  if CLDMA_TXQ_NUM ≤ qno then { s with pc := .done (-EINVAL) }
  else
    let s := { s with answers := { s.answers with pm := ret } }
    if ret < 0 ∧ ret ≠ -EACCES then { s with pc := .done ret }
    else
      { s with
        pc := .checkActive ret
        usage := if 0 ≤ ret then s.usage + 1 else s.usage
        sleepDisable := s.sleepDisable + 1 }

def checkActiveStep (qno : Nat) (ret : Int) (s : SendRun length) : SendRun length :=
  if s.ctrl.isActive qno then { s with pc := .takeRing ret } else s.allowSleep (- EIO)

def takeRingStep (qno : Nat) (ret : Int) (s : SendRun length) : SendRun length :=
  let queue := s.ctrl.txq qno
  if queue.hasRoom then
    { s.setQueue qno queue.takeBudget with pc := .mapSkb ret queue.txNext }
  else { s with pc := .sleepWaitFull ret }

/-- A mapping error leaves `t7xx_cldma_gpd_handle_tx_request` at once; the caller goes on. -/
def mapSkbStep (qno : Nat) (skb : SkBuff) (ret : Int) (txReq : Fin length) (mapping : Option Nat)
    (s : SendRun length) : SendRun length :=
  let queue := mapTxRequest (s.ctrl.txq qno) txReq skb mapping
  let s := { s with answers := { s.answers with mapping := some mapping } }
  match mapping with
  | none => { s.setQueue qno (queue.advance txReq) with pc := .sleepWait ret txReq }
  | some _ => { s.setQueue qno queue with pc := .setHwo ret txReq }

def setHwoStep (qno : Nat) (ret : Int) (txReq : Fin length) (s : SendRun length) : SendRun length :=
  let queue := s.ctrl.txq qno
  let written := setGpdHwo queue txReq (s.ctrl.isActive qno)
  { s.setQueue qno written with
    pc := .storeSkb ret txReq (written.request txReq).gpd.hwo
    answers := { s.answers with
      active := s.ctrl.isActive qno
      hwoBefore := (queue.request txReq).gpd.hwo } }

def storeSkbStep (qno : Nat) (skb : SkBuff) (ret : Int) (txReq : Fin length) (hwo : Bool)
    (s : SendRun length) : SendRun length :=
  let queue := s.ctrl.txq qno
  { s.setQueue qno ((storeTxSkb queue txReq skb).advance txReq) with
    pc := .sleepWait ret txReq
    given := s.given ++ [⟨txReq, (queue.request txReq).mappedBuff, hwo⟩] }

/-- `t7xx_pci_sleep_disable_complete`, and where the loop goes on. -/
def sleepWaitStep (acquired : Bool) (next : SendPc length) (s : SendRun length) : SendRun length :=
  let s := { s with answers := { s.answers with slept := acquired } }
  if acquired then { s with pc := next } else s.allowSleep (-ETIMEDOUT)

def resumeQueueStep (qno : Nat) (ret : Int) (queueStatus : Bool) (s : SendRun length) :
    SendRun length :=
  let s := { s with pc := .waitRoom ret }
  if queueStatus then s
  else { s with ctrl := { s.ctrl with ulCommands := s.ctrl.ulCommands ++ [.resume qno] } }

/-- `wait_event_interruptible_exclusive`; its result becomes `ret`. -/
def waitRoomStep (qno : Nat) (interrupted : Bool) (s : SendRun length) : Option (SendRun length) :=
  if interrupted then some (s.allowSleep (-ERESTARTSYS))
  else if 0 < (s.ctrl.txq qno).budget then
    some { s with pc := .takeRing 0, answers := { s.answers with waited := true } }
  else none

def callStep (qno : Nat) (skb : SkBuff) (s : SendRun length) :
    SendPc length → SendLabel length → Option (SendRun length)
  | .pmGet, .pmGet ret => some (pmGetStep qno ret s)
  | .checkActive ret, .checkActive => some (checkActiveStep qno ret s)
  | .takeRing ret, .takeRing => some (takeRingStep qno ret s)
  | .mapSkb ret txReq, .mapSkb mapping => some (mapSkbStep qno skb ret txReq mapping s)
  | .setHwo ret txReq, .setHwo => some (setHwoStep qno ret txReq s)
  | .storeSkb ret txReq hwo, .storeSkb => some (storeSkbStep qno skb ret txReq hwo s)
  | .sleepWait ret txReq, .sleepWait acquired => some (sleepWaitStep acquired (.startSend ret txReq) s)
  | .startSend ret txReq, .startSend queueStatus =>
    some ({ s with ctrl := hwStartSend s.ctrl qno txReq queueStatus }.allowSleep ret)
  | .sleepWaitFull ret, .sleepWait acquired => some (sleepWaitStep acquired (.resumeQueue ret) s)
  | .resumeQueue ret, .resumeQueue queueStatus => some (resumeQueueStep qno ret queueStatus s)
  | .waitRoom _, .waitRoom interrupted => waitRoomStep qno interrupted s
  | _, _ => none

def ringStep (skb : SkBuff) (s : SendRun length) : SendLabel length → Option (SendRun length)
  | .txCollect q =>
    (gpdTxCollect (s.ctrl.txq q)).map fun (queue, disposed) =>
      { s.setQueue q queue with disposed := s.disposed ++ [disposed] }
  | .clearTxq q =>
    let (queue, disposed) := clearTxq (s.ctrl.txq q)
    some { s.setQueue q queue with disposed := s.disposed ++ disposed }
  | .otherSend q other mapping =>
    let queue := s.ctrl.txq q
    if other = skb ∨ queue.hasRoom = false then none
    else
      let handled := gpdHandleTxRequest queue.takeBudget queue.txNext other mapping (s.ctrl.isActive q)
      some (s.setQueue q (handled.advance queue.txNext))
  | _ => none

def completeGpd (queue : CldmaQueue length) (i : Fin length) : CldmaQueue length :=
  let req := queue.request i
  queue.setRequest i { req with gpd := { req.gpd with flags := req.gpd.flags &&& ~~~GPD_FLAGS_HWO } }

def sendStep (qno : Nat) (skb : SkBuff) (s : SendRun length) :
    SendLabel length → Option (SendRun length)
  | .stopAllQs => some { s with ctrl := stopAllQs s.ctrl }
  | .suspend => some { s with ctrl := suspend s.ctrl }
  | .resume => some { s with ctrl := resume s.ctrl }
  | .powerOff => some { s with ctrl := { s.ctrl with ulStartAddr := fun _ => 0 } }
  | .hwDone q i => some (s.setQueue q (completeGpd (s.ctrl.txq q) i))
  | .txCollect q => if q = qno ∧ s.pc.holdsRing then none else ringStep skb s (.txCollect q)
  | .clearTxq q => if q = qno ∧ s.pc.holdsRing then none else ringStep skb s (.clearTxq q)
  | .otherSend q other mapping =>
    if q = qno ∧ s.pc.holdsRing then none else ringStep skb s (.otherSend q other mapping)
  | label => callStep qno skb s s.pc label

end Steps

section Contract

variable {length : Nat}

/-- No request refers to the skb, and it was not freed on the way. -/
def KeptByCaller (skb : SkBuff) (s : SendRun length) : Prop :=
  (∀ q, ¬ (s.ctrl.txq q).Holds skb) ∧ ∀ disposed ∈ s.disposed, disposed.skb ≠ skb

def GivenOnce (s : SendRun length) : Prop :=
  ∃ txReq addr, s.given = [⟨txReq, some addr, true⟩] ∧ s.answers.mapping = some (some addr)

/-- What the callers rely on when the call returns. -/
def SkbOwned (skb : SkBuff) (s : SendRun length) (ret : Int) : Prop :=
  (ret = 0 → GivenOnce s) ∧ (ret ≠ 0 → KeptByCaller skb s)

/-- A call that reaches a free request leaves its skb to one owner in two cases: the mapping
    succeeds and nothing else goes wrong, or it fails and so does the call. -/
def OneOwner (answers : SendAnswers) : Prop :=
  match answers.mapping with
  | none => True
  | some none => answers.slept = false ∨ answers.pm ≠ 0 ∧ answers.waited = false
  | some (some _) =>
    answers.slept = true ∧ (answers.active = true ∨ answers.hwoBefore = true) ∧
      (answers.pm = 0 ∨ answers.waited = true)

/-- A call that has not begun, with an skb that only its caller has. -/
structure Fresh (skb : SkBuff) (s : SendRun length) : Prop where
  begins : s.pc = .pmGet
  notGiven : s.given = []
  own : KeptByCaller skb s
  unanswered : s.answers.mapping = none ∧ s.answers.waited = false

end Contract

section Tracking

variable {length : Nat} {qno : Nat} {skb : SkBuff}

def Untouched (skb : SkBuff) (s : SendRun length) : Prop :=
  s.answers.mapping = none ∧ s.given = [] ∧ KeptByCaller skb s

/-- The wait for room replaces the result of runtime PM by its own. -/
def RetOf (answers : SendAnswers) (ret : Int) : Prop :=
  ret = if answers.waited then 0 else answers.pm

def Offered (qno : Nat) (skb : SkBuff) (txReq : Fin length) (s : SendRun length) : Prop :=
  s.given = [] ∧ KeptByCaller skb s ∧ ((s.ctrl.txq qno).request txReq).skb = none ∧
    ∃ addr, s.answers.mapping = some (some addr) ∧
      ((s.ctrl.txq qno).request txReq).mappedBuff = some addr

/-- The skb after the ring was left: refused by `dma_map_single`, or given away. -/
def Settled (skb : SkBuff) (s : SendRun length) : Prop :=
  (s.answers.mapping = some none ∧ s.given = [] ∧ KeptByCaller skb s) ∨
    ∃ txReq addr, s.answers.mapping = some (some addr) ∧
      s.given = [⟨txReq, some addr, s.answers.active || s.answers.hwoBefore⟩] ∧ ¬ KeptByCaller skb s

def Tracked (qno : Nat) (skb : SkBuff) (s : SendRun length) : Prop :=
  match s.pc with
  | .pmGet => Untouched skb s ∧ s.answers.waited = false
  | .checkActive ret | .takeRing ret => Untouched skb s ∧ RetOf s.answers ret
  | .mapSkb ret txReq =>
    Untouched skb s ∧ RetOf s.answers ret ∧ ((s.ctrl.txq qno).request txReq).skb = none
  | .setHwo ret txReq => Offered qno skb txReq s ∧ RetOf s.answers ret
  | .storeSkb ret txReq hwo =>
    Offered qno skb txReq s ∧ RetOf s.answers ret ∧ hwo = (s.answers.active || s.answers.hwoBefore)
  | .sleepWait ret _ => Settled skb s ∧ RetOf s.answers ret
  | .startSend ret _ => Settled skb s ∧ RetOf s.answers ret ∧ s.answers.slept = true
  | .sleepWaitFull _ | .resumeQueue _ | .waitRoom _ => Untouched skb s
  | .done ret =>
    (Untouched skb s ∧ ret ≠ 0) ∨
      Settled skb s ∧ (s.answers.slept = true ∧ RetOf s.answers ret ∨
        s.answers.slept = false ∧ ret = -ETIMEDOUT)

theorem keptByCaller_moved {s t : SendRun length} (q : Nat) (freed : List Disposed)
    (disposed : t.disposed = s.disposed ++ freed)
    (others : ∀ p ≠ q, t.ctrl.txq p = s.ctrl.txq p)
    (moved : (s.ctrl.txq q).Holds skb ↔
      (t.ctrl.txq q).Holds skb ∨ ∃ disposed ∈ freed, disposed.skb = skb) :
    KeptByCaller skb t ↔ KeptByCaller skb s := by
  constructor
  · rintro ⟨rings, notFreed⟩
    refine ⟨fun p held => ?_, fun d member => ?_⟩
    · by_cases here : p = q
      · rw [here] at held
        rcases moved.mp held with held | ⟨d, member, same⟩
        · exact rings q held
        · exact notFreed d (by rw [disposed]; exact List.mem_append_right _ member) same
      · exact rings p (by rwa [others p here])
    · exact notFreed d (by rw [disposed]; exact List.mem_append_left _ member)
  · rintro ⟨rings, notFreed⟩
    refine ⟨fun p held => ?_, fun d member same => ?_⟩
    · by_cases here : p = q
      · rw [here] at held
        exact rings q (moved.mpr (.inl held))
      · exact rings p (by rwa [others p here] at held)
    · rw [disposed] at member
      rcases List.mem_append.mp member with old | new
      · exact notFreed d old same
      · exact rings q (moved.mpr (.inr ⟨d, new, same⟩))

theorem keptByCaller_same {s t : SendRun length} (q : Nat) (disposed : t.disposed = s.disposed)
    (others : ∀ p ≠ q, t.ctrl.txq p = s.ctrl.txq p)
    (same : ∀ i, ((t.ctrl.txq q).request i).skb = ((s.ctrl.txq q).request i).skb) :
    KeptByCaller skb t ↔ KeptByCaller skb s := by
  refine keptByCaller_moved q [] (by rw [disposed, List.append_nil]) others ?_
  unfold CldmaQueue.Holds
  simp only [same]
  simp

/-- What another thread leaves alone. -/
structure SameCall (qno : Nat) (skb : SkBuff) (s t : SendRun length) : Prop where
  pc : t.pc = s.pc
  given : t.given = s.given
  answers : t.answers = s.answers
  owner : KeptByCaller skb t ↔ KeptByCaller skb s
  locked : s.pc.holdsRing = true → ∀ i,
    ((t.ctrl.txq qno).request i).skb = ((s.ctrl.txq qno).request i).skb ∧
      ((t.ctrl.txq qno).request i).mappedBuff = ((s.ctrl.txq qno).request i).mappedBuff

theorem SameCall.tracked {s t : SendRun length} (same : SameCall qno skb s t)
    (tracked : Tracked qno skb s) : Tracked qno skb t := by
  have locked := same.locked
  unfold Tracked at *
  rw [same.pc]
  cases at_pc : s.pc with
  | mapSkb ret txReq | setHwo ret txReq | storeSkb ret txReq hwo =>
    rw [at_pc] at tracked locked
    simp only [Untouched, Offered, same.given, same.answers, same.owner, (locked rfl txReq).1,
      (locked rfl txReq).2] at *
    exact tracked
  | _ =>
    rw [at_pc] at tracked
    simp only [Untouched, Settled, same.given, same.answers, same.owner] at *
    exact tracked

end Tracking

section Others

variable {length : Nat} {qno : Nat} {skb : SkBuff} {s t : SendRun length}

@[simp] theorem setTxq_self (ctrl : CldmaCtrl length) (q : Nat) (queue : CldmaQueue length) :
    (ctrl.setTxq q queue).txq q = queue :=
  Function.update_self ..

theorem setTxq_ne (ctrl : CldmaCtrl length) {p q : Nat} (elsewhere : p ≠ q)
    (queue : CldmaQueue length) : (ctrl.setTxq q queue).txq p = ctrl.txq p :=
  Function.update_of_ne elsewhere ..

theorem sameCall_ctrl {ctrl : CldmaCtrl length} (rings : ctrl.txq = s.ctrl.txq) :
    SameCall qno skb s { s with ctrl } where
  pc := rfl
  given := rfl
  answers := rfl
  owner := by
    unfold KeptByCaller
    simp only [rings]
  locked := by
    intro _ i
    simp only [rings]
    exact ⟨trivial, trivial⟩

theorem sameCall_queue {q : Nat} {queue : CldmaQueue length} {freed : List Disposed}
    (moved : (s.ctrl.txq q).Holds skb ↔ queue.Holds skb ∨ ∃ disposed ∈ freed, disposed.skb = skb)
    (locked : q = qno → s.pc.holdsRing = true → ∀ i,
      (queue.request i).skb = ((s.ctrl.txq q).request i).skb ∧
        (queue.request i).mappedBuff = ((s.ctrl.txq q).request i).mappedBuff) :
    SameCall qno skb s { s.setQueue q queue with disposed := s.disposed ++ freed } where
  pc := rfl
  given := rfl
  answers := rfl
  owner := by
    refine keptByCaller_moved q freed rfl (fun p elsewhere => setTxq_ne _ elsewhere _) ?_
    simp only [SendRun.setQueue, setTxq_self]
    exact moved
  locked := by
    intro holds i
    dsimp only [SendRun.setQueue]
    by_cases here : q = qno
    · have kept := locked here holds i
      subst here
      rw [setTxq_self]
      exact kept
    · rw [setTxq_ne _ (Ne.symm here)]
      exact ⟨rfl, rfl⟩

theorem setQueue_nothing_freed (s : SendRun length) (q : Nat) (queue : CldmaQueue length) :
    { s.setQueue q queue with disposed := s.disposed ++ [] } = s.setQueue q queue := by
  rw [List.append_nil]
  rfl

theorem completeGpd_sameCall (q : Nat) (i : Fin length) :
    SameCall qno skb s (s.setQueue q (completeGpd (s.ctrl.txq q) i)) := by
  have kept (j : Fin length) :
      ((completeGpd (s.ctrl.txq q) i).request j).skb = ((s.ctrl.txq q).request j).skb ∧
        ((completeGpd (s.ctrl.txq q) i).request j).mappedBuff =
          ((s.ctrl.txq q).request j).mappedBuff := by
    by_cases here : j = i
    · simp [completeGpd, CldmaQueue.setRequest, here]
    · simp [completeGpd, CldmaQueue.setRequest, here]
  rw [← setQueue_nothing_freed]
  refine sameCall_queue ?_ fun _ _ => kept
  unfold CldmaQueue.Holds
  simp [kept]

variable [NeZero length]

theorem otherSend_holds {queue : CldmaQueue length} {other : SkBuff} (another : other ≠ skb)
    (room : queue.hasRoom = true) (mapping : Option Nat) (active : Bool) :
    queue.Holds skb ↔
      ((gpdHandleTxRequest queue.takeBudget queue.txNext other mapping active).advance
        queue.txNext).Holds skb := by
  have free : (queue.request queue.txNext).skb = none := by
    simp only [CldmaQueue.hasRoom, Bool.and_eq_true, Option.isNone_iff_eq_none] at room
    exact room.2
  have mapped : (mapTxRequest queue.takeBudget queue.txNext other mapping).Holds skb ↔
      queue.Holds skb := by
    unfold CldmaQueue.Holds
    simp only [mapTxRequest_skb]
    exact Iff.rfl
  unfold gpdHandleTxRequest
  dsimp only
  split
  · exact mapped.symm
  · have written : (setGpdHwo (mapTxRequest queue.takeBudget queue.txNext other mapping)
        queue.txNext active).Holds skb ↔ queue.Holds skb := by
      unfold CldmaQueue.Holds
      simp only [(setGpdHwo_kept _ _ _ _).1]
      exact mapped
    have stillFree : ((setGpdHwo (mapTxRequest queue.takeBudget queue.txNext other mapping)
        queue.txNext active).request queue.txNext).skb = none := by
      rw [(setGpdHwo_kept _ _ _ _).1, mapTxRequest_skb]
      exact free
    have stored := (storeTxSkb_holds stillFree other skb).trans (or_iff_left another)
    exact (stored.trans written).symm

theorem ringStep_sameCall {label : SendLabel length} {q : Nat}
    (names : label = .txCollect q ∨ label = .clearTxq q ∨ ∃ other mapping, label = .otherSend q other mapping)
    (free : ¬ (q = qno ∧ s.pc.holdsRing = true)) (taken : ringStep skb s label = some t) :
    SameCall qno skb s t := by
  have unlocked : q = qno → s.pc.holdsRing = true → False := fun here holds => free ⟨here, holds⟩
  rcases names with rfl | rfl | ⟨other, mapping, rfl⟩
  · simp only [ringStep, Option.map_eq_some_iff] at taken
    obtain ⟨⟨queue, disposed⟩, collected, rfl⟩ := taken
    refine sameCall_queue ?_ fun here holds => (unlocked here holds).elim
    simpa using gpdTxCollect_holds collected skb
  · simp only [ringStep] at taken
    cases taken
    refine sameCall_queue ?_ fun here holds => (unlocked here holds).elim
    have empty := clearTxq_empty (s.ctrl.txq q) skb
    have freed := clearTxq_holds (s.ctrl.txq q) skb
    rw [or_iff_right empty]
    exact freed
  · simp only [ringStep] at taken
    split at taken
    · cases taken
    · rename_i allowed
      cases taken
      rw [← setQueue_nothing_freed]
      refine sameCall_queue ?_ fun here holds => (unlocked here holds).elim
      have room : (s.ctrl.txq q).hasRoom = true := by
        by_contra full
        exact allowed (.inr (by simpa using full))
      simpa using otherSend_holds (fun same => allowed (.inl same)) room mapping
        (s.ctrl.isActive q)

end Others

section Calls

variable {length : Nat} {qno : Nat} {skb : SkBuff} {s t : SendRun length}

theorem keptByCaller_queue {q : Nat} {queue : CldmaQueue length}
    (changed : t.ctrl = s.ctrl.setTxq q queue) (disposed : t.disposed = s.disposed)
    (same : ∀ i, (queue.request i).skb = ((s.ctrl.txq q).request i).skb)
    (own : KeptByCaller skb s) : KeptByCaller skb t := by
  refine (keptByCaller_same q disposed (fun p elsewhere => ?_) fun i => ?_).mpr own
  · rw [changed, setTxq_ne _ elsewhere]
  · rw [changed, setTxq_self]
    exact same i

theorem pmGetStep_tracked (ret : Int) (untouched : Untouched skb s)
    (unwaited : s.answers.waited = false) : Tracked qno skb (pmGetStep qno ret s) := by
  unfold pmGetStep
  split
  · exact .inl ⟨untouched, by decide⟩
  · dsimp only
    split
    · rename_i fails
      exact .inl ⟨untouched, by omega⟩
    · exact ⟨untouched, by simp [RetOf, unwaited]⟩

theorem checkActiveStep_tracked {ret : Int} (untouched : Untouched skb s)
    (retOf : RetOf s.answers ret) : Tracked qno skb (checkActiveStep qno ret s) := by
  unfold checkActiveStep
  split
  · exact ⟨untouched, retOf⟩
  · exact .inl ⟨untouched, by decide⟩

theorem sleepWaitStep_settled {ret : Int} {txReq : Fin length} (acquired : Bool)
    (settled : Settled skb s) (retOf : RetOf s.answers ret) :
    Tracked qno skb (sleepWaitStep acquired (.startSend ret txReq) s) := by
  cases acquired
  · exact .inr ⟨settled, .inr ⟨rfl, rfl⟩⟩
  · exact ⟨settled, retOf, rfl⟩

theorem sleepWaitStep_untouched {ret : Int} (acquired : Bool) (untouched : Untouched skb s) :
    Tracked qno skb (sleepWaitStep acquired (.resumeQueue ret) s) := by
  cases acquired
  · exact .inl ⟨untouched, by decide⟩
  · exact untouched

theorem takeRingStep_tracked {ret : Int} (untouched : Untouched skb s)
    (retOf : RetOf s.answers ret) : Tracked qno skb (takeRingStep qno ret s) := by
  obtain ⟨unanswered, notGiven, own⟩ := untouched
  simp only [takeRingStep]
  split
  · rename_i room
    have free : ((s.ctrl.txq qno).request (s.ctrl.txq qno).txNext).skb = none := by
      simp only [CldmaQueue.hasRoom, Bool.and_eq_true, Option.isNone_iff_eq_none] at room
      exact room.2
    refine ⟨⟨unanswered, notGiven, keptByCaller_queue rfl rfl (fun _ => rfl) own⟩, retOf, ?_⟩
    simp only [SendRun.setQueue, setTxq_self]
    exact free
  · exact ⟨unanswered, notGiven, own⟩

theorem setHwoStep_tracked {ret : Int} {txReq : Fin length} (offered : Offered qno skb txReq s)
    (retOf : RetOf s.answers ret) : Tracked qno skb (setHwoStep qno ret txReq s) := by
  obtain ⟨notGiven, own, free, addr, mapped, held⟩ := offered
  have kept (i : Fin length) := setGpdHwo_kept (s.ctrl.txq qno) txReq i (s.ctrl.isActive qno)
  refine ⟨⟨notGiven, keptByCaller_queue rfl rfl (fun i => (kept i).1) own, ?_, addr, mapped, ?_⟩,
    retOf, setGpdHwo_hwo _ _ _⟩
  · simp only [setHwoStep, SendRun.setQueue, setTxq_self]
    exact (kept txReq).1.trans free
  · simp only [setHwoStep, SendRun.setQueue, setTxq_self]
    exact (kept txReq).2.trans held

theorem waitRoomStep_tracked {interrupted : Bool} (untouched : Untouched skb s)
    (taken : waitRoomStep qno interrupted s = some t) : Tracked qno skb t := by
  unfold waitRoomStep at taken
  split at taken
  · cases taken
    exact .inl ⟨untouched, by decide⟩
  · split at taken
    · cases taken
      exact ⟨untouched, rfl⟩
    · cases taken

theorem Tracked.skbOwned_iff {ret : Int} (tracked : Tracked qno skb s) (returned : s.pc = .done ret) :
    SkbOwned skb s ret ↔ OneOwner s.answers := by
  unfold Tracked at tracked
  rw [returned] at tracked
  rcases tracked with ⟨⟨unanswered, _, own⟩, failed⟩ | ⟨settled, how⟩
  · simp [SkbOwned, OneOwner, unanswered, failed, own]
  rcases settled with ⟨refused, notGiven, own⟩ | ⟨txReq, addr, mapped, given, gone⟩
  · have owned : SkbOwned skb s ret ↔ ret ≠ 0 := by
      refine ⟨fun owner zero => ?_, fun failed => ⟨fun zero => absurd zero failed, fun _ => own⟩⟩
      obtain ⟨_, _, once, _⟩ := owner.1 zero
      rw [notGiven] at once
      cases once
    rw [owned]
    simp only [OneOwner, refused]
    rcases how with ⟨slept, retOf⟩ | ⟨slept, rfl⟩
    · unfold RetOf at retOf
      cases waited : s.answers.waited <;> simp [slept, retOf, waited]
    · simp [slept, ETIMEDOUT]
  · have owned : SkbOwned skb s ret ↔
        ret = 0 ∧ (s.answers.active = true ∨ s.answers.hwoBefore = true) := by
      constructor
      · intro owner
        have zero : ret = 0 := by
          by_contra failed
          exact gone (owner.2 failed)
        obtain ⟨_, _, once, _⟩ := owner.1 zero
        rw [given] at once
        simp only [List.cons.injEq, Given.mk.injEq, and_true, Bool.or_eq_true] at once
        exact ⟨zero, once.2.2⟩
      · rintro ⟨rfl, handed⟩
        refine ⟨fun _ => ⟨txReq, addr, ?_, mapped⟩, fun failed => absurd rfl failed⟩
        simpa [given] using handed
    rw [owned]
    simp only [OneOwner, mapped]
    rcases how with ⟨slept, retOf⟩ | ⟨slept, rfl⟩
    · unfold RetOf at retOf
      cases waited : s.answers.waited <;> simp [slept, retOf, waited, and_comm]
    · simp [slept, ETIMEDOUT]

variable [NeZero length]

theorem mapSkbStep_tracked {ret : Int} {txReq : Fin length} (mapping : Option Nat)
    (untouched : Untouched skb s) (retOf : RetOf s.answers ret)
    (free : ((s.ctrl.txq qno).request txReq).skb = none) :
    Tracked qno skb (mapSkbStep qno skb ret txReq mapping s) := by
  obtain ⟨_, notGiven, own⟩ := untouched
  have kept (i : Fin length) := mapTxRequest_skb (s.ctrl.txq qno) txReq i skb mapping
  cases mapping with
  | none => exact ⟨.inl ⟨rfl, notGiven, keptByCaller_queue rfl rfl kept own⟩, retOf⟩
  | some addr =>
    refine ⟨⟨notGiven, keptByCaller_queue rfl rfl kept own, ?_, addr, rfl, ?_⟩, retOf⟩
    · simp only [mapSkbStep, SendRun.setQueue, setTxq_self]
      exact (kept txReq).trans free
    · simp [mapSkbStep, SendRun.setQueue, mapTxRequest, CldmaQueue.setRequest]

theorem storeSkbStep_tracked {ret : Int} {txReq : Fin length} {hwo : Bool}
    (offered : Offered qno skb txReq s) (retOf : RetOf s.answers ret)
    (written : hwo = (s.answers.active || s.answers.hwoBefore)) :
    Tracked qno skb (storeSkbStep qno skb ret txReq hwo s) := by
  obtain ⟨notGiven, own, free, addr, mapped, held⟩ := offered
  refine ⟨.inr ⟨txReq, addr, mapped, ?_, fun kept => ?_⟩, retOf⟩
  · simp only [storeSkbStep, notGiven, held, written]
    rfl
  · refine kept.1 qno ⟨txReq, ?_⟩
    simp [storeSkbStep, SendRun.setQueue, CldmaQueue.advance, storeTxSkb, CldmaQueue.setRequest]

theorem callStep_tracked {pc : SendPc length} {label : SendLabel length} (at_pc : s.pc = pc)
    (tracked : Tracked qno skb s) (taken : callStep qno skb s pc label = some t) :
    Tracked qno skb t := by
  have here := tracked
  unfold Tracked at here
  rw [at_pc] at here
  unfold callStep at taken
  split at taken
  case h_1 ret =>
    cases taken
    exact pmGetStep_tracked ret here.1 here.2
  case h_2 ret =>
    cases taken
    exact checkActiveStep_tracked here.1 here.2
  case h_3 ret =>
    cases taken
    exact takeRingStep_tracked here.1 here.2
  case h_4 ret txReq mapping =>
    cases taken
    exact mapSkbStep_tracked mapping here.1 here.2.1 here.2.2
  case h_5 ret txReq =>
    cases taken
    exact setHwoStep_tracked here.1 here.2
  case h_6 ret txReq hwo =>
    cases taken
    exact storeSkbStep_tracked here.1 here.2.1 here.2.2
  case h_7 ret txReq acquired =>
    cases taken
    exact sleepWaitStep_settled acquired here.1 here.2
  case h_8 ret txReq queueStatus =>
    cases taken
    have started := (sameCall_ctrl (hwStartSend_txq s.ctrl qno txReq queueStatus)).tracked tracked
    unfold Tracked at started
    rw [at_pc] at started
    exact .inr ⟨started.1, .inl ⟨started.2.2, started.2.1⟩⟩
  case h_9 ret acquired =>
    cases taken
    exact sleepWaitStep_untouched acquired here
  case h_10 ret queueStatus =>
    cases taken
    cases queueStatus
    · exact here
    · exact here
  case h_11 interrupted => exact waitRoomStep_tracked here taken
  case h_12 => cases taken

theorem sendStep_tracked (s : SendRun length) (label : SendLabel length) (t : SendRun length)
    (tracked : Tracked qno skb s) (taken : sendStep qno skb s label = some t) :
    Tracked qno skb t := by
  cases label with
  | stopAllQs | suspend | resume | powerOff =>
    cases taken
    exact (sameCall_ctrl rfl).tracked tracked
  | hwDone q i =>
    cases taken
    exact (completeGpd_sameCall q i).tracked tracked
  | txCollect q =>
    simp only [sendStep] at taken
    split at taken
    · cases taken
    · rename_i free
      exact (ringStep_sameCall (.inl rfl) free taken).tracked tracked
  | clearTxq q =>
    simp only [sendStep] at taken
    split at taken
    · cases taken
    · rename_i free
      exact (ringStep_sameCall (.inr (.inl rfl)) free taken).tracked tracked
  | otherSend q other mapping =>
    simp only [sendStep] at taken
    split at taken
    · cases taken
    · rename_i free
      exact (ringStep_sameCall (.inr (.inr ⟨other, mapping, rfl⟩)) free taken).tracked tracked
  | _ => exact callStep_tracked rfl tracked taken

/-- In every interleaving, a call leaves its skb to one owner exactly if its answers allow it. -/
theorem send_skb_one_owner_iff (qno : Nat) (skb : SkBuff) (s : SendRun length) (fresh : Fresh skb s)
    (labels : List (SendLabel length)) :
    Visits (fun t => ∀ ret, t.pc = .done ret → (SkbOwned skb t ret ↔ OneOwner t.answers))
      (sendStep qno skb) s labels := by
  refine Visits.of_kept (Tracked qno skb) (fun t tracked ret => tracked.skbOwned_iff)
    sendStep_tracked labels ?_
  unfold Tracked
  rw [fresh.begins]
  exact ⟨⟨fresh.unanswered.1, fresh.notGiven, fresh.own⟩, fresh.unanswered.2⟩

end Calls

section Examples

def firstCall : SendRun MAX_TX_BUDGET where
  ctrl := ⟨fun _ => txqInit fun i => 0x1000 + 16 * i, TXRX_STATUS_BITMASK, 0, fun _ => 0x1000, []⟩
  pc := .pmGet
  usage := 0
  sleepDisable := 0
  given := []
  disposed := []
  answers := ⟨0, false, none, false, false, false⟩

def firstSkb : SkBuff := ⟨0x8000, 64⟩

theorem firstCall_fresh : Fresh firstSkb firstCall where
  begins := rfl
  notGiven := rfl
  own := by
    refine ⟨fun q => ?_, by simp [firstCall]⟩
    rintro ⟨i, held⟩
    simp [firstCall, txqInit, qReset] at held
  unanswered := ⟨rfl, rfl⟩

theorem send_skb_one_owner_iff_first :
    Visits (fun t => ∀ ret, t.pc = .done ret → (SkbOwned firstSkb t ret ↔ OneOwner t.answers))
      (sendStep 0 firstSkb) firstCall
      [.pmGet 0, .checkActive, .takeRing, .mapSkb (some 0x9000), .setHwo, .storeSkb,
        .sleepWait true, .startSend false, .hwDone 0 0, .txCollect 0] :=
  send_skb_one_owner_iff 0 firstSkb firstCall firstCall_fresh _

/-- A mapping error goes unnoticed: the call returns 0 and nobody has the skb. -/
theorem mapping_error_loses_skb :
    ¬ ∀ (skb : SkBuff) (s : SendRun MAX_TX_BUDGET) (labels : List (SendLabel MAX_TX_BUDGET)),
      Fresh skb s →
      Visits (fun t => ∀ ret, t.pc = .done ret → SkbOwned skb t ret) (sendStep 0 skb) s labels := by
  intro always
  have visits := always firstSkb firstCall
    [.pmGet 0, .checkActive, .takeRing, .mapSkb none, .sleepWait true, .startSend false]
    firstCall_fresh
  obtain ⟨t, run, returned, notGiven⟩ : ∃ t, execute (sendStep 0 firstSkb) firstCall
      [.pmGet 0, .checkActive, .takeRing, .mapSkb none, .sleepWait true, .startSend false] = some t ∧
      t.pc = .done 0 ∧ t.given = [] :=
    ⟨_, rfl, rfl, rfl⟩
  obtain ⟨_, _, once, _⟩ := (visits.finish run 0 returned).1 rfl
  rw [notGiven] at once
  cases once

end Examples

end T7xxModel.Cldma
