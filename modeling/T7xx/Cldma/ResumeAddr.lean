import Mathlib.Tactic.Abel
import T7xx.Cldma.TxCursors
import T7xx.Ring.Holdings

namespace T7xxModel.Cldma

open Transition

section Resuming

variable {length : Nat}

/-- `t7xx_cldma_resume_early` for TX. -/
def resumeEarly (ctrl : CldmaCtrl length) : CldmaCtrl length :=
  { ctrl with
    ulStartAddr := fun qno =>
      if qno < CLDMA_TXQ_NUM then ((ctrl.txq qno).request (ctrl.txq qno).txNext).gpdAddr
      else ctrl.ulStartAddr qno }

/-- A suspend and the resume that matches it; `asleep` is what the start addresses are when the
    device wakes up. -/
def suspendResume (ctrl : CldmaCtrl length) (asleep : Nat → Nat) : CldmaCtrl length :=
  resume (resumeEarly { suspend ctrl with ulStartAddr := asleep })

theorem suspendResume_addr (ctrl : CldmaCtrl length) (asleep : Nat → Nat) {qno : Nat}
    (valid : qno < CLDMA_TXQ_NUM) :
    (suspendResume ctrl asleep).ulStartAddr qno =
      ((ctrl.txq qno).request (ctrl.txq qno).txNext).gpdAddr := if_pos valid

theorem suspendResume_active (ctrl : CldmaCtrl length) (asleep : Nat → Nat) {qno : Nat}
    (valid : qno < CLDMA_TXQ_NUM) : (suspendResume ctrl asleep).isActive qno = true := by
  have queues : ∀ q < CLDMA_TXQ_NUM, TXRX_STATUS_BITMASK.getLsbD q = true := by decide
  show (_ ||| TXRX_STATUS_BITMASK).getLsbD qno = true
  rw [BitVec.getLsbD_or, queues qno valid, Bool.or_true]

/-- The request whose GPD the device starts from. -/
def CldmaCtrl.startRequest (ctrl : CldmaCtrl length) (qno : Nat) : Option (Fin length) :=
  (List.finRange length).find? fun i =>
    ((ctrl.txq qno).request i).gpdAddr = ctrl.ulStartAddr qno

/-- The queue was told to start, and not to stop since. -/
def CldmaCtrl.ulStarted (ctrl : CldmaCtrl length) (qno : Nat) : Bool :=
  (ctrl.ulCommands.reverse.takeWhile (· ≠ .stopAll)).contains (.start qno)

variable [NeZero length]

/-- The device transmits the GPD it is at and goes on to the next one, up to the first that it does
    not own. -/
def ulTransmit : Nat → Fin length → CldmaQueue length → CldmaQueue length × List SkBuff
  | 0, _, queue => (queue, [])
  | gpds + 1, i, queue =>
    if (queue.request i).gpd.hwo then
      let (last, sent) := ulTransmit gpds (i + 1) (completeGpd queue i)
      (last, (queue.request i).skb.toList ++ sent)
    else (queue, [])

/-- What the device does with a queue whose start address was just given. A RESUME does not start
    one that was not started, as `t7xx_cldma_hw_start_send` has it. -/
def CldmaCtrl.ulRun (ctrl : CldmaCtrl length) (qno : Nat) : CldmaQueue length × List SkBuff :=
  match ctrl.ulStarted qno, ctrl.startRequest qno with
  | true, some start => ulTransmit length start (ctrl.txq qno)
  | _, _ => (ctrl.txq qno, [])

/-- The next `t7xx_cldma_send_skb` of a queue that the device reports as stopped, up to its return, or
    to its wait for room. -/
def sendNext (ctrl : CldmaCtrl length) (qno : Nat) (skb : SkBuff) (addr : Nat) : CldmaCtrl length :=
  let queue := ctrl.txq qno
  if queue.hasRoom then
    hwStartSend (ctrl.setTxq qno (queue.send skb (some addr) (ctrl.isActive qno))) qno queue.txNext false
  else { ctrl with ulCommands := ctrl.ulCommands ++ [.resume qno] }

/-- The requests whose GPDs are not yet transmitted, the oldest first. -/
def CldmaQueue.pending (queue : CldmaQueue length) : List (Fin length) :=
  (Ring.walk length queue.trDone).filter fun i => (queue.request i).gpd.hwo

end Resuming

section Accounts

variable {length : Nat} [NeZero length]

/-- A TX queue since it was last cleared: the skbs that `t7xx_cldma_send_skb` took, those of them whose
    GPD it left without HWO, and those that the device transmitted. -/
structure TxAccount (length : Nat) where
  queue : CldmaQueue length
  accepted : List SkBuff
  unsent : List SkBuff
  transmitted : List SkBuff

def txAccountInit (gpdAddr : Fin length → Nat) : TxAccount length := ⟨txqInit gpdAddr, [], [], []⟩

def TxAccount.step (s : TxAccount length) : TxLabel length → Option (TxAccount length)
  | .send skb mapping active =>
    if s.queue.hasRoom then
      some { s with
        queue := s.queue.send skb mapping active
        accepted := s.accepted ++ [skb]
        unsent := if mapping ≠ none ∧ active then s.unsent else s.unsent ++ [skb] }
    else none
  | .hwDone i =>
    let req := s.queue.request i
    some { s with
      queue := completeGpd s.queue i
      transmitted := s.transmitted ++ if req.gpd.hwo then req.skb.toList else [] }
  | .collect => (gpdTxCollect s.queue).map fun (rest, _) => { s with queue := rest }
  | .clear => some ⟨(clearTxq s.queue).1, [], [], []⟩

def TxAccount.acceptedWith (s : TxAccount length) (skb : SkBuff) : List SkBuff :=
  s.accepted ++ if s.queue.hasRoom then [skb] else []

/-- After the resume the device is to start from the oldest GPD that is not yet transmitted. As soon as
    the next send lets it, it transmits all the skbs accepted, in the order in which they were, and
    `t7xx_cldma_gpd_tx_collect` then leaves none of them in the ring. -/
structure TransmitsAccepted (s : TxAccount length) (woken : CldmaCtrl length) (qno : Nat) : Prop where
  oldest : ∀ i ∈ s.queue.pending.head?, woken.ulStartAddr qno = (s.queue.request i).gpdAddr
  transmitted : ∀ skb addr,
    (s.acceptedWith skb).Subperm (s.transmitted ++ ((sendNext woken qno skb addr).ulRun qno).2)
  order : ∀ skb addr, (((sendNext woken qno skb addr).ulRun qno).2).Sublist (s.acceptedWith skb)
  reclaimed : ∀ skb addr held,
    ¬ (txCollect ((sendNext woken qno skb addr).ulRun qno).1).1.Holds held

structure TxAccount.Transmitted (s : TxAccount length) : Prop where
  allDone : s.queue.AllDone
  allSent : s.unsent = []

end Accounts

section Sending

variable {length : Nat} {ctrl : CldmaCtrl length} {qno : Nat}

theorem setTxq_setTxq (first second : CldmaQueue length) :
    (ctrl.setTxq qno first).setTxq qno second = ctrl.setTxq qno second := by
  simp [CldmaCtrl.setTxq]

theorem setTxq_isActive (queue : CldmaQueue length) :
    (ctrl.setTxq qno queue).isActive qno = ctrl.isActive qno := rfl

variable [NeZero length]

/-- What a call of `t7xx_cldma_send_skb` does that nothing hinders. -/
def sendNextLabels (queue : CldmaQueue length) (addr : Nat) : List (SendLabel length) :=
  if queue.hasRoom then
    [.pmGet 0, .checkActive, .takeRing, .mapSkb (some addr), .setHwo, .storeSkb, .sleepWait true,
      .startSend false]
  else [.pmGet 0, .checkActive, .takeRing, .sleepWait true, .resumeQueue false]

theorem send_enters {s : SendRun length} (begins : s.pc = .pmGet) (valid : qno < CLDMA_TXQ_NUM)
    (active : s.ctrl.isActive qno = true) (skb : SkBuff) (rest : List (SendLabel length)) :
    ∃ t, execute (sendStep qno skb) s (.pmGet 0 :: .checkActive :: rest) =
        execute (sendStep qno skb) t rest ∧ t.ctrl = s.ctrl ∧ t.pc = .takeRing 0 := by
  have inside : ¬ CLDMA_TXQ_NUM ≤ qno := by omega
  refine ⟨checkActiveStep qno 0 (pmGetStep qno 0 s), ?_, ?_, ?_⟩ <;>
    simp [execute, sendStep, callStep, begins, pmGetStep, inside, checkActiveStep, active]

theorem send_takes {s : SendRun length} (taking : s.pc = .takeRing 0)
    (room : (s.ctrl.txq qno).hasRoom = true) (skb : SkBuff) (addr : Nat)
    (rest : List (SendLabel length)) :
    ∃ t, execute (sendStep qno skb) s (.takeRing :: .mapSkb (some addr) :: rest) =
        execute (sendStep qno skb) t rest ∧
      t.ctrl = s.ctrl.setTxq qno (mapTxRequest (s.ctrl.txq qno).takeBudget (s.ctrl.txq qno).txNext skb
        (some addr)) ∧ t.pc = .setHwo 0 (s.ctrl.txq qno).txNext := by
  refine ⟨mapSkbStep qno skb 0 (s.ctrl.txq qno).txNext (some addr) (takeRingStep qno 0 s), ?_, ?_, ?_⟩ <;>
    simp [execute, sendStep, callStep, taking, takeRingStep, room, mapSkbStep, SendRun.setQueue,
      setTxq_setTxq]

theorem send_fills {s : SendRun length} {txReq : Fin length} (mapped : s.pc = .setHwo 0 txReq)
    (active : s.ctrl.isActive qno = true) (skb : SkBuff) (rest : List (SendLabel length)) :
    ∃ t, execute (sendStep qno skb) s (.setHwo :: .storeSkb :: rest) =
        execute (sendStep qno skb) t rest ∧
      t.ctrl = s.ctrl.setTxq qno ((storeTxSkb (setGpdHwo (s.ctrl.txq qno) txReq true) txReq skb).advance
        txReq) ∧ t.pc = .sleepWait 0 txReq := by
  let written := setHwoStep qno 0 txReq s
  refine ⟨storeSkbStep qno skb 0 txReq ((written.ctrl.txq qno).request txReq).gpd.hwo written, ?_, ?_, ?_⟩ <;>
    simp [written, execute, sendStep, callStep, mapped, setHwoStep, active, storeSkbStep,
      SendRun.setQueue, setTxq_setTxq]

theorem sendNext_run (s : SendRun length) (begins : s.pc = .pmGet) (valid : qno < CLDMA_TXQ_NUM)
    (active : s.ctrl.isActive qno = true) (skb : SkBuff) (addr : Nat) :
    (execute (sendStep qno skb) s (sendNextLabels (s.ctrl.txq qno) addr)).map (·.ctrl) =
      some (sendNext s.ctrl qno skb addr) := by
  unfold sendNextLabels sendNext
  dsimp only
  split
  · rename_i room
    obtain ⟨t, entered, same, taking⟩ := send_enters begins valid active skb _
    rw [entered]
    rw [← same] at active room ⊢
    obtain ⟨u, taken, mapped, setting⟩ := send_takes taking room skb addr _
    have still : u.ctrl.isActive qno = true := by rw [mapped, setTxq_isActive, active]
    obtain ⟨v, filled, sent, waiting⟩ := send_fills setting still skb _
    rw [taken, filled]
    simp [execute, sendStep, callStep, waiting, sleepWaitStep, SendRun.allowSleep, sent, mapped,
      CldmaQueue.send, gpdHandleTxRequest, setTxq_setTxq, active]
  · rename_i full
    obtain ⟨t, entered, same, taking⟩ := send_enters begins valid active skb _
    rw [entered]
    rw [← same] at full ⊢
    simp [execute, sendStep, callStep, taking, takeRingStep, full, sleepWaitStep, resumeQueueStep]

theorem sendNext_full (full : (ctrl.txq qno).hasRoom = false) (skb : SkBuff) (addr : Nat) :
    (sendNext ctrl qno skb addr).txq qno = ctrl.txq qno ∧
      (sendNext ctrl qno skb addr).ulCommands = ctrl.ulCommands ++ [.resume qno] := by
  simp [sendNext, full]

/-- A queue that was not started gets a START. -/
theorem sendNext_room (room : (ctrl.txq qno).hasRoom = true) (active : ctrl.isActive qno = true)
    (stopped : ctrl.txqStarted = 0)
    (addressed : ctrl.ulStartAddr qno = ((ctrl.txq qno).request (ctrl.txq qno).txNext).gpdAddr)
    (skb : SkBuff) (addr : Nat) :
    (sendNext ctrl qno skb addr).txq qno = (ctrl.txq qno).send skb (some addr) true ∧
      (sendNext ctrl qno skb addr).ulStartAddr qno =
        ((ctrl.txq qno).request (ctrl.txq qno).txNext).gpdAddr ∧
        (sendNext ctrl qno skb addr).ulCommands = ctrl.ulCommands ++ [.start qno] := by
  unfold sendNext
  rw [if_pos room, active]
  refine ⟨?_, ?_, ?_⟩
  · simp [hwStartSend_txq, CldmaCtrl.setTxq]
  · have kept := (@send_mapped _ _ (ctrl.txq qno) skb addr true).2
    unfold hwStartSend
    by_cases given : ctrl.ulStartAddr qno = 0
    · simp [CldmaCtrl.setTxq, given, kept]
    · rw [← addressed]
      simp [CldmaCtrl.setTxq, given]
  · unfold hwStartSend
    by_cases given : ctrl.ulStartAddr qno = 0 <;> simp [CldmaCtrl.setTxq, given, stopped]

end Sending

section Keeping

variable {length : Nat} {queue rest : CldmaQueue length}

def CldmaRequest.waiting (req : CldmaRequest) : Multiset SkBuff :=
  if req.gpd.hwo then Ring.single req.skb else 0

def CldmaQueue.waiting (queue : CldmaQueue length) : Multiset SkBuff :=
  Ring.holdings Finset.univ CldmaRequest.waiting queue.request

theorem waiting_of_done {req : CldmaRequest} (done : req.gpd.hwo = false) : req.waiting = 0 := by
  simp [CldmaRequest.waiting, done]

theorem sent_eq_waiting (req : CldmaRequest) :
    ((if req.gpd.hwo then req.skb.toList else [] : List SkBuff) : Multiset SkBuff) = req.waiting := by
  unfold CldmaRequest.waiting
  cases req.skb <;> split <;> rfl

theorem waiting_eq_zero_iff (laid : Laid queue) : queue.waiting = 0 ↔ queue.AllDone := by
  unfold CldmaQueue.waiting
  rw [Ring.holdings_eq_zero]
  constructor
  · intro none i
    by_contra owned
    rw [Bool.not_eq_false] at owned
    obtain ⟨skb, held⟩ := Option.isSome_iff_exists.mp (laid.owned i owned)
    have waits := none i (Finset.mem_univ i)
    simp [CldmaRequest.waiting, owned, held] at waits
  · exact fun allDone i _ => waiting_of_done (allDone i)

variable [NeZero length] {s t : TxAccount length}

theorem txStep_gpdAddr (label : TxLabel length) (taken : txStep queue label = some rest)
    (i : Fin length) : (rest.request i).gpdAddr = (queue.request i).gpdAddr := by
  cases label with
  | send skb mapping active =>
    simp only [txStep] at taken
    split at taken
    · cases taken
      by_cases here : i = queue.txNext
      · rw [here]
        cases mapping with
        | none => rw [send_unmapped]
        | some addr => exact (send_mapped skb addr active).2
      · rw [send_elsewhere skb mapping active here]
    · cases taken
  | hwDone j =>
    cases taken
    exact (completeGpd_request j i).2.1
  | collect =>
    simp only [txStep, Option.map_eq_some_iff] at taken
    obtain ⟨⟨_, disposed⟩, collected, rfl⟩ := taken
    obtain ⟨skb, -, -, -, rfl⟩ := gpdTxCollect_cases collected
    by_cases here : i = queue.trDone
    · simp [here]
    · simp [here]
  | clear =>
    cases taken
    rfl

structure TxAccount.Kept (gpdAddr : Fin length → Nat) (s : TxAccount length) : Prop where
  laid : Laid s.queue
  addr : ∀ i, (s.queue.request i).gpdAddr = gpdAddr i
  accounted : (s.accepted : Multiset SkBuff) = s.transmitted + s.queue.waiting + s.unsent
  gapless : s.unsent = [] → Gapless s.queue

theorem TxAccount.step_queue (label : TxLabel length) (taken : s.step label = some t) :
    txStep s.queue label = some t.queue := by
  cases label with
  | send skb mapping active =>
    simp only [TxAccount.step] at taken
    split at taken
    · rename_i room
      cases taken
      exact if_pos room
    · cases taken
  | hwDone i | clear =>
    cases taken
    rfl
  | collect =>
    simp only [TxAccount.step, Option.map_eq_some_iff] at taken
    obtain ⟨⟨rest, disposed⟩, collected, rfl⟩ := taken
    simp [txStep, collected]

theorem send_hwo (skb : SkBuff) (addr : Nat) (active : Bool) :
    ((queue.send skb (some addr) active).request queue.txNext).gpd.hwo =
      (active || (queue.request queue.txNext).gpd.hwo) := by
  have stored : ((queue.send skb (some addr) active).request queue.txNext).gpd =
      ((setGpdHwo (mapTxRequest queue.takeBudget queue.txNext skb (some addr)) queue.txNext
        active).request queue.txNext).gpd := by
    simp [CldmaQueue.send, gpdHandleTxRequest, storeTxSkb, CldmaQueue.setRequest, CldmaQueue.advance]
  rw [stored, setGpdHwo_hwo]
  simp [mapTxRequest, CldmaQueue.setRequest, CldmaQueue.takeBudget, CldmaGpd.hwo]

/-- A send leaves its skb to the device if it was mapped and the queue is active. -/
theorem send_waiting (laid : Laid queue) (room : queue.hasRoom = true) (skb : SkBuff)
    (mapping : Option Nat) (active : Bool) :
    (queue.send skb mapping active).waiting =
      (if mapping ≠ none ∧ active then {skb} else 0) + queue.waiting := by
  have free := (hasRoom_iff.mp room).2
  have idle : (queue.request queue.txNext).gpd.hwo = false := by
    by_contra owned
    have held := laid.owned _ (Bool.not_eq_false _ ▸ owned)
    rw [free] at held
    cases held
  have filled : ((queue.send skb mapping active).request queue.txNext).waiting =
      if mapping ≠ none ∧ active then {skb} else 0 := by
    cases mapping with
    | none =>
      rw [send_unmapped]
      simp [CldmaRequest.waiting, idle]
    | some addr =>
      unfold CldmaRequest.waiting
      rw [send_hwo, idle, (send_mapped skb addr active).1]
      simp
  have changed := Ring.holdings_changed (Finset.mem_univ queue.txNext)
    fun j _ (apart : j ≠ queue.txNext) =>
      congrArg CldmaRequest.waiting (send_elsewhere skb mapping active apart)
  rwa [waiting_of_done idle, filled, zero_add] at changed

omit [NeZero length] in
theorem completeGpd_waiting (queue : CldmaQueue length) (i : Fin length) :
    (queue.request i).waiting + (completeGpd queue i).waiting = queue.waiting := by
  apply Ring.holdings_empty (Finset.mem_univ i) CldmaRequest.waiting queue.request
  simp [CldmaRequest.waiting, CldmaGpd.hwo, hwo_cleared]

theorem gpdTxCollect_waiting {disposed : Disposed}
    (collected : gpdTxCollect queue = some (rest, disposed)) : rest.waiting = queue.waiting := by
  obtain ⟨skb, -, -, done, rfl⟩ := gpdTxCollect_cases collected
  have emptied := Ring.holdings_empty (Finset.mem_univ queue.trDone) CldmaRequest.waiting queue.request
    (@waiting_of_done { queue.request queue.trDone with skb := none } done)
  rwa [waiting_of_done done, zero_add] at emptied

theorem TxAccount.step_accounted {label : TxLabel length} (laid : Laid s.queue)
    (taken : s.step label = some t)
    (accounted : (s.accepted : Multiset SkBuff) = s.transmitted + s.queue.waiting + s.unsent) :
    (t.accepted : Multiset SkBuff) = t.transmitted + t.queue.waiting + t.unsent := by
  cases label with
  | send skb mapping active =>
    simp only [TxAccount.step] at taken
    split at taken
    · rename_i room
      cases taken
      dsimp only
      rw [send_waiting laid room, ← Multiset.coe_add, accounted]
      split
      · rw [Multiset.coe_singleton]
        abel
      · rw [← Multiset.coe_add]
        abel
    · cases taken
  | hwDone i =>
    cases taken
    dsimp only
    rw [accounted, ← completeGpd_waiting s.queue i, ← Multiset.coe_add, sent_eq_waiting]
    abel
  | collect =>
    simp only [TxAccount.step, Option.map_eq_some_iff] at taken
    obtain ⟨⟨rest, disposed⟩, collected, rfl⟩ := taken
    rw [gpdTxCollect_waiting collected]
    exact accounted
  | clear =>
    cases taken
    have empty := (waiting_eq_zero_iff (Laid.clear s.queue)).mpr fun i => by
      simp [clearTxq, CldmaGpd.hwo, hwo_cleared]
    rw [empty]
    rfl

theorem TxAccount.Kept.step {gpdAddr : Fin length → Nat} (kept : s.Kept gpdAddr)
    {label : TxLabel length} (taken : s.step label = some t) : t.Kept gpdAddr := by
  have moved := TxAccount.step_queue label taken
  refine ⟨txStep_laid _ label _ kept.laid moved, fun i => ?_,
    TxAccount.step_accounted kept.laid taken kept.accounted, fun allSent => ?_⟩
  · rw [txStep_gpdAddr label moved, kept.addr]
  · have clean : s.unsent = [] ∧ label.Mapped s.queue ∨ label = .clear := by
      cases label with
      | send skb mapping active =>
        simp only [TxAccount.step] at taken
        split at taken
        · cases taken
          dsimp only at allSent
          split at allSent
          · rename_i given
            exact .inl ⟨allSent, given.1⟩
          · simp at allSent
        · cases taken
      | hwDone i =>
        cases taken
        exact .inl ⟨allSent, trivial⟩
      | collect =>
        simp only [TxAccount.step, Option.map_eq_some_iff] at taken
        obtain ⟨_, _, rfl⟩ := taken
        exact .inl ⟨allSent, trivial⟩
      | clear => exact .inr rfl
    rcases clean with ⟨before, mapped⟩ | rfl
    · exact (txStep_gapless_iff _ label _ kept.laid (kept.gapless before) moved).mpr mapped
    · cases taken
      exact gapless_of_full rfl

theorem txAccountInit_kept (gpdAddr : Fin length → Nat) : (txAccountInit gpdAddr).Kept gpdAddr := by
  have laid := txqInit_laid gpdAddr
  have idle : CldmaGpd.hwo ⟨GPD_FLAGS_IOC, 0, 0⟩ = false := by decide
  refine ⟨laid, fun _ => rfl, ?_, fun _ => gapless_of_full rfl⟩
  have empty : (txAccountInit gpdAddr).queue.waiting = 0 := (waiting_eq_zero_iff laid).mpr fun _ => idle
  rw [empty]
  rfl

theorem kept_of_run {gpdAddr : Fin length → Nat} {labels : List (TxLabel length)}
    (run : execute TxAccount.step (txAccountInit gpdAddr) labels = some s) : s.Kept gpdAddr := by
  have visits : Visits (TxAccount.Kept gpdAddr) TxAccount.step (txAccountInit gpdAddr) labels :=
    Visits.of_kept _ (fun _ kept => kept) (fun _ _ _ kept taken => kept.step taken) labels
      (txAccountInit_kept gpdAddr)
  exact visits.finish run

end Keeping

section Device

variable {length : Nat} {ctrl : CldmaCtrl length} {qno : Nat} {gpdAddr : Fin length → Nat}
  {queue : CldmaQueue length}

theorem startRequest_of_addr (distinct : Function.Injective gpdAddr)
    (addr : ∀ i, ((ctrl.txq qno).request i).gpdAddr = gpdAddr i) {i : Fin length}
    (told : ctrl.ulStartAddr qno = gpdAddr i) : ctrl.startRequest qno = some i := by
  unfold CldmaCtrl.startRequest
  rw [told]
  simp only [addr, distinct.eq_iff]
  cases found : (List.finRange length).find? fun j => decide (j = i) with
  | none =>
    have missed := List.find?_eq_none.mp found i (List.mem_finRange i)
    simp at missed
  | some j =>
    have same := List.find?_some found
    rw [of_decide_eq_true same]

theorem ulStarted_last {before : List UlCommand} {command : UlCommand} (other : command ≠ .stopAll)
    (commands : ctrl.ulCommands = before ++ [.stopAll] ++ [command]) :
    ctrl.ulStarted qno = decide (command = .start qno) := by
  unfold CldmaCtrl.ulStarted
  rw [commands]
  simp [other, eq_comm]

variable [NeZero length]

theorem ulTransmit_idle (allDone : queue.AllDone) (gpds : Nat) (i : Fin length) :
    ulTransmit gpds i queue = (queue, []) := by
  cases gpds with
  | zero => rfl
  | succ gpds => simp [ulTransmit, allDone i]

theorem ulTransmit_one {i : Fin length} (owned : (queue.request i).gpd.hwo = true)
    (others : (completeGpd queue i).AllDone) {gpds : Nat} (positive : 0 < gpds) :
    ulTransmit gpds i queue = (completeGpd queue i, (queue.request i).skb.toList) := by
  obtain ⟨left, rfl⟩ := Nat.exists_eq_succ_of_ne_zero (Nat.ne_of_gt positive)
  rw [ulTransmit, if_pos owned, ulTransmit_idle others]
  simp only [List.append_nil]

omit [NeZero length] in
theorem suspendResume_commands (ctrl : CldmaCtrl length) (asleep : Nat → Nat) :
    (suspendResume ctrl asleep).ulCommands = ctrl.ulCommands ++ [.stopAll] := rfl

theorem ulRun_full (asleep : Nat → Nat) (full : (ctrl.txq qno).hasRoom = false) (skb : SkBuff)
    (addr : Nat) :
    (sendNext (suspendResume ctrl asleep) qno skb addr).ulRun qno = (ctrl.txq qno, []) := by
  obtain ⟨same, commands⟩ := @sendNext_full _ (suspendResume ctrl asleep) qno _ full skb addr
  rw [suspendResume_commands] at commands
  have idle := @ulStarted_last _ _ qno _ _ (by nofun) commands
  unfold CldmaCtrl.ulRun
  rw [idle, same]
  rfl

theorem send_allDone (allDone : queue.AllDone) (skb : SkBuff) (mapping : Option Nat) (active : Bool) :
    (completeGpd (queue.send skb mapping active) queue.txNext).AllDone := by
  intro i
  rw [(completeGpd_request _ i).2.2]
  by_cases here : i = queue.txNext
  · simp [here]
  · rw [send_elsewhere skb mapping active here, allDone i, Bool.and_false]

theorem ulRun_room (asleep : Nat → Nat) (valid : qno < CLDMA_TXQ_NUM)
    (distinct : Function.Injective gpdAddr)
    (addr : ∀ i, ((ctrl.txq qno).request i).gpdAddr = gpdAddr i)
    (room : (ctrl.txq qno).hasRoom = true) (allDone : (ctrl.txq qno).AllDone) (skb : SkBuff)
    (mapped : Nat) :
    (sendNext (suspendResume ctrl asleep) qno skb mapped).ulRun qno =
      (completeGpd ((ctrl.txq qno).send skb (some mapped) true) (ctrl.txq qno).txNext, [skb]) := by
  obtain ⟨filled, told, commands⟩ := @sendNext_room _ (suspendResume ctrl asleep) qno _ room
    (suspendResume_active ctrl asleep valid) rfl (suspendResume_addr ctrl asleep valid) skb mapped
  rw [suspendResume_commands] at commands
  have started := @ulStarted_last _ _ qno _ _ (by nofun) commands
  have same : (suspendResume ctrl asleep).txq qno = ctrl.txq qno := rfl
  rw [same] at filled told
  have owned : (((ctrl.txq qno).send skb (some mapped) true).request
      (ctrl.txq qno).txNext).gpd.hwo = true := by
    rw [send_hwo, Bool.true_or]
  have others := send_allDone allDone skb (some mapped) true
  have placed : ∀ i, (((sendNext (suspendResume ctrl asleep) qno skb mapped).txq qno).request i).gpdAddr =
      gpdAddr i := by
    intro i
    rw [filled, txStep_gpdAddr (.send skb (some mapped) true) (if_pos room), addr]
  have start := startRequest_of_addr distinct placed (told.trans (addr _))
  unfold CldmaCtrl.ulRun
  rw [started, start, filled, decide_eq_true rfl]
  have transmitted := ulTransmit_one owned others (Nat.pos_of_neZero length)
  rwa [(send_mapped skb mapped true).1] at transmitted

end Device

section Results

variable {length : Nat} [NeZero length] {queue : CldmaQueue length} {s : TxAccount length}
  {ctrl : CldmaCtrl length} {qno : Nat} {gpdAddr : Fin length → Nat}

theorem txCollectRounds_laid (rounds : Nat) (laid : Laid queue) :
    Laid (txCollectRounds rounds queue).1 := by
  induction rounds generalizing queue with
  | zero => exact laid
  | succ rounds ih =>
    cases round : gpdTxCollect queue with
    | none =>
      simp only [txCollectRounds, round]
      exact laid
    | some collected =>
      simp only [txCollectRounds, round]
      exact ih (laid.collect round).1

theorem txCollect_empties (laid : Laid queue) (gapless : Gapless queue) (allDone : queue.AllDone)
    (skb : SkBuff) : ¬ (txCollect queue).1.Holds skb := by
  rintro ⟨i, held⟩
  have whole := laid.reclaims gapless allDone
  have within := (txCollectRounds_laid length laid).held i (Option.isSome_of_eq_some held)
  unfold txCollect at whole
  rw [queued_of_full whole] at within
  omega

theorem pending_eq_nil_iff : queue.pending = [] ↔ queue.AllDone := by
  unfold CldmaQueue.pending
  rw [List.filter_eq_nil_iff]
  constructor
  · intro none i
    have member := (Ring.mem_walk (le_refl length)).mpr
      (Ring.distance_lt queue.trDone.isLt i.isLt)
    exact Bool.eq_false_iff.mpr (none i member)
  · intro allDone i _
    rw [allDone i]
    exact Bool.false_ne_true

theorem full_of_oldest (laid : Laid queue) {i : Fin length} (oldest : i ∈ queue.pending.head?)
    (next : queue.txNext = i) : queue.hasRoom = false := by
  have owned := (List.mem_filter.mp (List.mem_of_mem_head? oldest)).2
  rw [← next] at owned
  have full := (laid.next_pending owned).1
  simp [CldmaQueue.hasRoom, full]

omit [NeZero length] in
theorem covers_iff {gpdAddr : Fin length → Nat} (kept : s.Kept gpdAddr) (skb : SkBuff)
    (sent : List SkBuff) :
    (s.acceptedWith skb).Subperm (s.transmitted ++ sent) ↔
      s.queue.waiting + s.unsent + ((if s.queue.hasRoom then [skb] else [] : List SkBuff) : Multiset SkBuff) ≤
        sent := by
  rw [← Multiset.coe_le, TxAccount.acceptedWith, ← Multiset.coe_add, ← Multiset.coe_add,
    kept.accounted, add_assoc, add_assoc, add_le_add_iff_left, ← add_assoc]

omit [NeZero length] in
theorem transmitted_of_waiting {gpdAddr : Fin length → Nat} (kept : s.Kept gpdAddr)
    (none_left : s.queue.waiting + s.unsent = 0) : s.Transmitted := by
  obtain ⟨noneWaits, allSent⟩ := add_eq_zero.mp none_left
  exact ⟨(waiting_eq_zero_iff kept.laid).mp noneWaits, (Multiset.coe_eq_zero _).mp allSent⟩

theorem ulRun_blocked (queued : ctrl.txq qno = s.queue) (full : s.queue.hasRoom = false)
    (asleep : Nat → Nat) (skb : SkBuff) (mapped : Nat) :
    (sendNext (suspendResume ctrl asleep) qno skb mapped).ulRun qno = (s.queue, []) := by
  rw [← queued] at full ⊢
  exact ulRun_full asleep full skb mapped

theorem ulRun_sends (kept : s.Kept gpdAddr) (distinct : Function.Injective gpdAddr)
    (valid : qno < CLDMA_TXQ_NUM) (queued : ctrl.txq qno = s.queue) (room : s.queue.hasRoom = true)
    (allDone : s.queue.AllDone) (asleep : Nat → Nat) (skb : SkBuff) (mapped : Nat) :
    (sendNext (suspendResume ctrl asleep) qno skb mapped).ulRun qno =
      (completeGpd (s.queue.send skb (some mapped) true) s.queue.txNext, [skb]) := by
  have addr : ∀ i, ((ctrl.txq qno).request i).gpdAddr = gpdAddr i := by
    rw [queued]
    exact kept.addr
  rw [← queued] at room allDone ⊢
  exact ulRun_room asleep valid distinct addr room allDone skb mapped

theorem transmitted_of_resumed (kept : s.Kept gpdAddr) (distinct : Function.Injective gpdAddr)
    (valid : qno < CLDMA_TXQ_NUM) (queued : ctrl.txq qno = s.queue) {asleep : Nat → Nat}
    (transmits : TransmitsAccepted s (suspendResume ctrl asleep) qno) : s.Transmitted := by
  have covered := (covers_iff kept _ _).mp (transmits.transmitted ⟨0, 0⟩ 0)
  cases room : s.queue.hasRoom with
  | false =>
    rw [ulRun_blocked queued room, room] at covered
    exact transmitted_of_waiting kept (by simpa using covered)
  | true =>
    -- With a GPD pending the start address would be that of a ring without room.
    have allDone : s.queue.AllDone := by
      rw [← pending_eq_nil_iff, ← List.head?_eq_none_iff, Option.eq_none_iff_forall_not_mem]
      intro i oldest
      have told := transmits.oldest i oldest
      rw [suspendResume_addr ctrl asleep valid, queued, kept.addr, kept.addr] at told
      have full := full_of_oldest kept.laid oldest (distinct told)
      rw [room] at full
      cases full
    rw [ulRun_sends kept distinct valid queued room allDone, room, if_pos rfl,
      Multiset.coe_singleton] at covered
    exact transmitted_of_waiting kept (by simpa using covered)

theorem resumed_of_transmitted (kept : s.Kept gpdAddr) (distinct : Function.Injective gpdAddr)
    (valid : qno < CLDMA_TXQ_NUM) (queued : ctrl.txq qno = s.queue) (asleep : Nat → Nat)
    (done : s.Transmitted) : TransmitsAccepted s (suspendResume ctrl asleep) qno := by
  obtain ⟨allDone, allSent⟩ := done
  have nothing := (waiting_eq_zero_iff kept.laid).mpr allDone
  have gapless := kept.gapless allSent
  have idle : s.queue.pending.head? = none := by rw [pending_eq_nil_iff.mpr allDone, List.head?_nil]
  have covered {skb : SkBuff} {sent : List SkBuff}
      (all : sent = if s.queue.hasRoom then [skb] else []) :
      (s.acceptedWith skb).Subperm (s.transmitted ++ sent) ∧ sent.Sublist (s.acceptedWith skb) := by
    rw [covers_iff kept, nothing, allSent, all]
    exact ⟨by simp, List.sublist_append_right _ _⟩
  cases room : s.queue.hasRoom with
  | false =>
    have blocked := ulRun_blocked queued room asleep
    refine ⟨by simp [idle], fun skb mapped => ?_, fun skb mapped => ?_, fun skb mapped => ?_⟩
    · exact (covered (by simp [blocked, room])).1
    · exact (covered (by simp [blocked, room])).2
    · rw [blocked]
      exact txCollect_empties kept.laid gapless allDone
  | true =>
    have sends := ulRun_sends kept distinct valid queued room allDone asleep
    refine ⟨by simp [idle], fun skb mapped => ?_, fun skb mapped => ?_, fun skb mapped => ?_⟩
    · exact (covered (by simp [sends, room])).1
    · exact (covered (by simp [sends, room])).2
    · rw [sends]
      have laid := kept.laid.send room skb (some mapped) true
      have filled := (send_gapless_iff kept.laid gapless room skb (some mapped) true).mpr (by simp)
      have still := (txStep_gapless_iff _ (.hwDone s.queue.txNext) _ laid filled rfl).mpr trivial
      exact txCollect_empties (laid.hwDone _) still (send_allDone allDone skb _ true)

/-- A resume lets a TX queue go on with what it accepted exactly if the device had transmitted all of
    that before the suspend. -/
theorem resume_transmits_accepted_iff (gpdAddr : Fin length → Nat)
    (distinct : Function.Injective gpdAddr) (labels : List (TxLabel length))
    (run : execute TxAccount.step (txAccountInit gpdAddr) labels = some s) (ctrl : CldmaCtrl length)
    (asleep : Nat → Nat) (qno : Nat) (valid : qno < CLDMA_TXQ_NUM) (queued : ctrl.txq qno = s.queue) :
    TransmitsAccepted s (suspendResume ctrl asleep) qno ↔ s.Transmitted := by
  have kept := kept_of_run run
  constructor
  · exact transmitted_of_resumed kept distinct valid queued
  · exact resumed_of_transmitted kept distinct valid queued asleep

end Results

section Examples

def gpdAddrs (i : Fin MAX_TX_BUDGET) : Nat := 0x1000 + 16 * i

theorem gpdAddrs_injective : Function.Injective gpdAddrs := by
  intro i j same
  unfold gpdAddrs at same
  exact Fin.ext (by omega)

/-- One skb was sent and the device has not transmitted it. -/
def sentOnce : CldmaQueue MAX_TX_BUDGET := (txqInit gpdAddrs).send firstSkb (some 0x9000) true

def withQueue (queue : CldmaQueue MAX_TX_BUDGET) : CldmaCtrl MAX_TX_BUDGET :=
  firstCall.ctrl.setTxq 0 queue

theorem resume_transmits_accepted_iff_done :
    TransmitsAccepted ⟨completeGpd sentOnce 0, [firstSkb], [], [firstSkb]⟩
        (suspendResume (withQueue (completeGpd sentOnce 0)) fun _ => 0) 0 ↔
      TxAccount.Transmitted ⟨completeGpd sentOnce 0, [firstSkb], [], [firstSkb]⟩ :=
  resume_transmits_accepted_iff gpdAddrs gpdAddrs_injective
    [.send firstSkb (some 0x9000) true, .hwDone 0] rfl (withQueue (completeGpd sentOnce 0))
    (fun _ => 0) 0 (by decide) rfl

/-- The device is told to start after the GPD that waits. -/
theorem resume_passes_pending :
    ¬ ∀ (labels : List (TxLabel MAX_TX_BUDGET)) (s : TxAccount MAX_TX_BUDGET),
      execute TxAccount.step (txAccountInit gpdAddrs) labels = some s →
        ∀ (ctrl : CldmaCtrl MAX_TX_BUDGET) (asleep : Nat → Nat) (qno : Nat), qno < CLDMA_TXQ_NUM →
          ctrl.txq qno = s.queue → TransmitsAccepted s (suspendResume ctrl asleep) qno := by
  intro always
  have transmits := always [.send firstSkb (some 0x9000) true] ⟨sentOnce, [firstSkb], [], []⟩ rfl
    (withQueue sentOnce) (fun _ => 0) 0 (by decide) rfl
  have oldest := transmits.oldest 0 rfl
  have told : (suspendResume (withQueue sentOnce) fun _ => 0).ulStartAddr 0 = 0x1010 := rfl
  have waits : (sentOnce.request 0).gpdAddr = 0x1000 := rfl
  rw [told, waits] at oldest
  exact absurd oldest (by decide)

end Examples

end T7xxModel.Cldma
