import T7xx.Dpmaif.RxFlow
import T7xx.Kernel.Errno

namespace T7xxModel.Dpmaif

open Transition Kernel

def DPMAIF_TXQ_NUM : Nat := 5

abbrev TxqIndex := Fin DPMAIF_TXQ_NUM

def txq0 : TxqIndex := ⟨0, by decide⟩

inductive WorkAction where
  | runtimeResumeAndGet (ret : Int)
  | disableSleep
  | queueWork
  | clrIpBusySts
  | unmaskUlqIntr
  | batReleaseAndAdd
  | fragBatReleaseAndAdd
  | doTxHwPush
  | enableSleep
  | runtimeMarkLastBusy
  | runtimePutAutosuspend
deriving DecidableEq, Repr

/-- What the works and the push thread do around their bodies. -/
def withDeviceAwake (ret : Int) (body : List WorkAction) : List WorkAction :=
  if ResumeRefused ret then [.runtimeResumeAndGet ret]
  else
    [.runtimeResumeAndGet ret, .disableSleep] ++ body ++
      [.enableSleep, .runtimeMarkLastBusy, .runtimePutAutosuspend]

/-- The results of `pm_runtime_resume_and_get`, of `t7xx_pci_sleep_disable_complete`, of
    `t7xx_dpmaif_tx_release`, of `t7xx_dpmaif_ul_clr_done` and of `t7xx_dpmaif_drb_ring_not_empty`. -/
structure TxDoneAnswers where
  resumed : Int
  lockAcquired : Bool
  released : Int
  clrDone : Bool
  ringNotEmpty : Bool
deriving DecidableEq, Repr

def dpmaifTxDone (answers : TxDoneAnswers) : List WorkAction :=
  withDeviceAwake answers.resumed
    (if answers.lockAcquired = false then []
    else if answers.released = -EAGAIN ∨ (answers.clrDone = true ∧ answers.ringNotEmpty = true) then
      [.queueWork, .clrIpBusySts]
    else [.clrIpBusySts, .unmaskUlqIntr])

def dpmaifBatReleaseWork (resumed : Int) (lockAcquired : Bool) : List WorkAction :=
  withDeviceAwake resumed (if lockAcquired then [.batReleaseAndAdd, .fragBatReleaseAndAdd] else [])

/-- One round of the loop of `t7xx_dpmaif_tx_hw_push_thread` after its wait. -/
def dpmaifTxHwPushRound (resumed : Int) : List WorkAction := withDeviceAwake resumed [.doTxHwPush]

/-- A TX queue between the interrupt and its work. -/
structure TxqDone where
  queStarted : Bool
  masked : Bool
  pending : Bool
  running : Bool
deriving DecidableEq, Repr

structure RxqDone where
  queStarted : Bool
  masked : Bool
  napi : Napi
  poll : RxqPoll
deriving DecidableEq, Repr

structure DonePath where
  txq : TxqIndex → TxqDone
  rxq : RxqIndex → RxqDone

inductive DoneLabel where
  | ulDone (status : TxqIndex → Bool)
  | dlDone (q : RxqIndex) (maskOk : Bool) (resumed : Int)
  | txDoneBegin (q : TxqIndex)
  | txDoneEnd (q : TxqIndex) (answers : TxDoneAnswers)
  | pollBegin (q : RxqIndex)
  | pollEnd (q : RxqIndex) (budget : Int) (answers : PollAnswers)
  | napiEnable (q : RxqIndex)
  | napiDisable (q : RxqIndex)
  | napiDisabled (q : RxqIndex)

section Steps

/-- `t7xx_dpmaif_hw_check_tx_intr` masks the queues found done, `t7xx_dpmaif_irq_tx_done` queues
    their works; of a masked queue the status is not looked at. -/
def TxqDone.ulDone (txq : TxqDone) (status : Bool) : TxqDone :=
  if status = true ∧ txq.masked = false then { txq with masked := true, pending := true } else txq

/-- The same for a DL queue, whose mask may fail and leave the interrupt for the next time. -/
def RxqDone.dlDone (rxq : RxqDone) (maskOk : Bool) (resumed : Int) : RxqDone :=
  if rxq.masked = true ∨ maskOk = false then rxq
  else if ResumeRefused resumed then { rxq with masked := true }
  else { rxq with masked := true, napi := rxq.napi.schedule }

def TxqDone.begin (txq : TxqDone) : Option TxqDone :=
  if txq.pending = true ∧ txq.running = false then some { txq with pending := false, running := true }
  else none

def TxqDone.finish (txq : TxqDone) (answers : TxDoneAnswers) : Option TxqDone :=
  let actions := dpmaifTxDone answers
  if txq.running then
    some { txq with
      running := false
      pending := txq.pending || actions.contains .queueWork
      masked := txq.masked && !actions.contains .unmaskUlqIntr }
  else none

def RxqDone.pollBegin (rxq : RxqDone) : Option RxqDone :=
  rxq.napi.pollBegin.map fun napi => { rxq with napi }

def RxqDone.pollEnd (rxq : RxqDone) (budget : Int) (answers : PollAnswers) : Option RxqDone :=
  let outcome := napiRxPoll budget { answers with queStarted := rxq.queStarted } rxq.poll
  if rxq.napi.polling = true ∧ 0 < budget then
    some { rxq with
      masked := rxq.masked && !outcome.actions.contains .dlqUnmaskRxDone
      napi := (outcome.actions.foldl napiAction rxq.napi).pollEnd budget outcome.ret
      poll := outcome.rxq }
  else none

/-- A round of `t7xx_ccmni_enable_napi`. -/
def RxqDone.napiEnable (rxq : RxqDone) : Option RxqDone :=
  rxq.napi.enable.map fun napi => { rxq with napi := napi.schedule }

def RxqDone.napiDisabled (rxq : RxqDone) : Option RxqDone :=
  rxq.napi.disableDone.map fun napi => { rxq with napi }

def DonePath.setTxq (s : DonePath) (q : TxqIndex) (txq : TxqDone) : DonePath :=
  { s with txq := Function.update s.txq q txq }

def DonePath.setRxq (s : DonePath) (q : RxqIndex) (rxq : RxqDone) : DonePath :=
  { s with rxq := Function.update s.rxq q rxq }

def DonePath.step (s : DonePath) : DoneLabel → Option DonePath
  | .ulDone status => some { s with txq := fun q => (s.txq q).ulDone (status q) }
  | .dlDone q maskOk resumed => some (s.setRxq q ((s.rxq q).dlDone maskOk resumed))
  | .txDoneBegin q => (s.txq q).begin.map (s.setTxq q)
  | .txDoneEnd q answers => ((s.txq q).finish answers).map (s.setTxq q)
  | .pollBegin q => (s.rxq q).pollBegin.map (s.setRxq q)
  | .pollEnd q budget answers => ((s.rxq q).pollEnd budget answers).map (s.setRxq q)
  | .napiEnable q => (s.rxq q).napiEnable.map (s.setRxq q)
  | .napiDisable q => some (s.setRxq q { s.rxq q with napi := (s.rxq q).napi.disableBegin })
  | .napiDisabled q => (s.rxq q).napiDisabled.map (s.setRxq q)

/-- The powered-on data path with all done interrupts unmasked. -/
def DonePath.poweredOn (txStarted : TxqIndex → Bool) (rxStarted : RxqIndex → Bool)
    (napi : RxqIndex → Napi) (poll : RxqIndex → RxqPoll) : DonePath where
  txq := fun q => { queStarted := txStarted q, masked := false, pending := false, running := false }
  rxq := fun q => { queStarted := rxStarted q, masked := false, napi := napi q, poll := poll q }

def TxqDone.Served (txq : TxqDone) : Prop :=
  txq.queStarted = true → txq.masked = true → txq.pending = true ∨ txq.running = true

instance (txq : TxqDone) : Decidable txq.Served := inferInstanceAs (Decidable (_ → _ → _ ∨ _))

def RxqDone.Served (rxq : RxqDone) : Prop :=
  rxq.queStarted = true → rxq.masked = true → rxq.napi.Busy

instance (rxq : RxqDone) : Decidable rxq.Served := inferInstanceAs (Decidable (_ → _ → _))

/-- A started queue whose done interrupt is masked has its work queued or running, or its NAPI
    scheduled or running. -/
def MaskedServed (s : DonePath) : Prop := (∀ q, (s.txq q).Served) ∧ ∀ q, (s.rxq q).Served

instance (s : DonePath) : Decidable (MaskedServed s) := inferInstanceAs (Decidable (_ ∧ _))

/-- A poll that receives gets to its end with `napi_complete_done`. -/
def PollCompletes (budget : Int) (answers : PollAnswers) : Prop :=
  answers.lockAcquired = true ∧
    usedBudget budget (napiRxCollect answers.collect budget budget.toNat 0 0 false) = false

instance (budget : Int) (answers : PollAnswers) : Decidable (PollCompletes budget answers) :=
  inferInstanceAs (Decidable (_ ∧ _))

/-- The work of a started TX queue gets the device awake and the sleep lock. The interrupt of a
    started RX queue that it has masked finds NAPI at work, or gets the device awake and can schedule
    it. A poll that `napi_disable` waits for completes, or the core runs another one. -/
def ServesMasked (s : DonePath) : DoneLabel → Prop
  | .txDoneEnd q answers =>
    (s.txq q).queStarted = true → ¬ ResumeRefused answers.resumed ∧ answers.lockAcquired = true
  | .dlDone q maskOk resumed =>
    (s.rxq q).queStarted = true → (s.rxq q).masked = false → maskOk = true →
      (s.rxq q).napi.Busy ∨ ¬ ResumeRefused resumed ∧ (s.rxq q).napi.Schedulable
  | .pollEnd q budget answers =>
    (s.rxq q).queStarted = true → (s.rxq q).masked = true → (s.rxq q).napi.disabling = true →
      (s.rxq q).napi.missed = true ∨ PollCompletes budget answers
  | _ => True

instance (s : DonePath) (label : DoneLabel) : Decidable (ServesMasked s label) := by
  unfold ServesMasked
  split <;> infer_instance

end Steps

section Queues

/-- A TX queue is masked while its work is queued or running, and never both at once. -/
structure TxqDone.Sound (txq : TxqDone) : Prop where
  pending : txq.pending = true → txq.masked = true
  running : txq.running = true → txq.masked = true ∧ txq.pending = false

variable {txq after : TxqDone} {rxq next : RxqDone}

theorem ulDone_sound (sound : txq.Sound) (status : Bool) : (txq.ulDone status).Sound := by
  unfold TxqDone.ulDone
  split
  · rename_i found
    refine ⟨fun _ => rfl, fun running => ?_⟩
    have masked := (sound.running running).1
    rw [found.2] at masked
    cases masked
  · exact sound

theorem ulDone_served (served : txq.Served) (status : Bool) : (txq.ulDone status).Served := by
  unfold TxqDone.ulDone
  split
  · exact fun _ _ => Or.inl rfl
  · exact served

theorem begin_sound (sound : txq.Sound) (taken : txq.begin = some after) :
    after.Sound ∧ after.Served := by
  unfold TxqDone.begin at taken
  split at taken
  · rename_i ready
    cases taken
    exact ⟨⟨nofun, fun _ => ⟨sound.pending ready.1, rfl⟩⟩, fun _ _ => Or.inr rfl⟩
  · cases taken

theorem dpmaifTxDone_stops {answers : TxDoneAnswers}
    (stops : ResumeRefused answers.resumed ∨ answers.lockAcquired = false) :
    (dpmaifTxDone answers).contains .queueWork = false ∧
      (dpmaifTxDone answers).contains .unmaskUlqIntr = false := by
  unfold dpmaifTxDone withDeviceAwake
  split
  · exact ⟨rfl, rfl⟩
  · rename_i goesOn
    rw [if_pos ((or_iff_right goesOn).mp stops)]
    exact ⟨rfl, rfl⟩

theorem dpmaifTxDone_goesOn {answers : TxDoneAnswers} (awake : ¬ ResumeRefused answers.resumed)
    (acquired : answers.lockAcquired = true) :
    (dpmaifTxDone answers).contains .queueWork = !(dpmaifTxDone answers).contains .unmaskUlqIntr := by
  unfold dpmaifTxDone withDeviceAwake
  rw [if_neg awake, if_neg (by simp [acquired])]
  split <;> rfl

theorem finish_exact (sound : txq.Sound) {answers : TxDoneAnswers}
    (taken : txq.finish answers = some after) :
    after.Sound ∧ (after.Served ↔ (txq.queStarted = true →
      ¬ ResumeRefused answers.resumed ∧ answers.lockAcquired = true)) := by
  unfold TxqDone.finish at taken
  dsimp only at taken
  split at taken
  · rename_i running
    obtain ⟨masked, idle⟩ := sound.running running
    cases taken
    by_cases awake : ¬ ResumeRefused answers.resumed ∧ answers.lockAcquired = true
    · have either := dpmaifTxDone_goesOn awake.1 awake.2
      refine ⟨⟨fun queued => ?_, nofun⟩, iff_of_true (fun _ still => ?_) fun _ => awake⟩
      · dsimp only at queued ⊢
        rw [idle, Bool.false_or, either] at queued
        rw [masked, queued]
        rfl
      · dsimp only at still ⊢
        rw [masked, Bool.true_and, ← either] at still
        exact Or.inl (by rw [still, Bool.or_true])
    · have stops : ResumeRefused answers.resumed ∨ answers.lockAcquired = false := by
        by_contra goesOn
        obtain ⟨resumed, acquired⟩ := not_or.mp goesOn
        exact awake ⟨resumed, by simpa using acquired⟩
      obtain ⟨unqueued, stays⟩ := dpmaifTxDone_stops stops
      refine ⟨⟨fun _ => ?_, nofun⟩, fun served started => ?_, fun heard started _ => ?_⟩
      · dsimp only
        rw [masked, stays]
        rfl
      · have kept : (txq.masked && !(dpmaifTxDone answers).contains .unmaskUlqIntr) = true := by
          rw [masked, stays]
          rfl
        rcases served started kept with queued | running
        · dsimp only at queued
          rw [idle, unqueued] at queued
          cases queued
        · cases running
      · exact absurd (heard started) awake
  · cases taken

theorem dlDone_exact (sound : rxq.napi.Sound) (served : rxq.Served) (maskOk : Bool) (resumed : Int) :
    (rxq.dlDone maskOk resumed).napi.Sound ∧
      ((rxq.dlDone maskOk resumed).Served ↔ (rxq.queStarted = true → rxq.masked = false →
        maskOk = true → rxq.napi.Busy ∨ ¬ ResumeRefused resumed ∧ rxq.napi.Schedulable)) := by
  unfold RxqDone.dlDone
  split
  · rename_i ignored
    refine ⟨sound, iff_of_true served fun _ unmasked masks => ?_⟩
    rw [unmasked, masks] at ignored
    simp at ignored
  · rename_i found
    obtain ⟨unmasked, masks⟩ := not_or.mp found
    have unmasked : rxq.masked = false := by simpa using unmasked
    have masks : maskOk = true := by simpa using masks
    split
    · rename_i refused
      refine ⟨sound, fun served started _ _ => .inl (served started rfl), fun heard started _ => ?_⟩
      exact (heard started unmasked masks).resolve_right fun awake => awake.1 refused
    · rename_i awake
      refine ⟨sound.schedule, fun served started _ _ => ?_, fun heard started _ => ?_⟩
      · have busy := served started rfl
        exact (Napi.schedule_busy_iff.mp busy).imp_right fun able => ⟨awake, able⟩
      · exact Napi.schedule_busy_iff.mpr ((heard started unmasked masks).imp_right And.right)

theorem pollBegin_sound (sound : rxq.napi.Sound) (taken : rxq.pollBegin = some next) :
    next.napi.Sound ∧ next.Served := by
  obtain ⟨napi, began, rfl⟩ := Option.map_eq_some_iff.mp taken
  obtain ⟨running, unlisted, consistent⟩ := Napi.pollBegin_spec began sound.consistent
  exact ⟨⟨consistent, fun _ => ⟨running.2, unlisted⟩⟩, fun _ _ => Or.inr running.1⟩

theorem napiRxPoll_ends {n : Napi} {budget : Int} (positive : 0 < budget) {answers : PollAnswers}
    (started : answers.queStarted = true) (poll : RxqPoll) :
    let outcome := napiRxPoll budget answers poll
    let after := (outcome.actions.foldl napiAction n).pollEnd budget outcome.ret
    (PollCompletes budget answers ∧ outcome.actions.contains .dlqUnmaskRxDone = true ∧
        after = { n.completeDone with polling := false }) ∨
      (¬ PollCompletes budget answers ∧ outcome.actions.contains .dlqUnmaskRxDone = false ∧
        (after = { n.completeDone.schedule with polling := false } ∨
          ∃ work, ¬ work < budget ∧ after = n.pollEnd budget work)) := by
  have begun : ¬ answers.queStarted = false := by simp [started]
  dsimp only
  unfold napiRxPoll PollCompletes
  rw [if_neg begun]
  cases answers.lockAcquired with
  | false =>
    right
    refine ⟨nofun, ?_⟩
    cases poll.sleepLockPending with
    | false => exact ⟨rfl, .inl (Napi.pollEnd_below positive)⟩
    | true => exact ⟨rfl, .inl (Napi.pollEnd_below positive)⟩
  | true =>
    rw [if_neg Bool.noConfusion]
    generalize napiRxCollect answers.collect budget budget.toNat 0 0 false = collected
    unfold napiRxFinish usedBudget
    split
    · rename_i again
      right
      refine ⟨by simp [again], ?_⟩
      cases poll.sleepLockPending with
      | false => exact ⟨rfl, .inr ⟨budget, lt_irrefl budget, rfl⟩⟩
      | true => exact ⟨rfl, .inr ⟨budget, lt_irrefl budget, rfl⟩⟩
    · rename_i once
      split
      · rename_i less
        left
        refine ⟨⟨rfl, by simp [once, less]⟩, ?_⟩
        cases poll.sleepLockPending with
        | false => exact ⟨rfl, Napi.pollEnd_below less⟩
        | true => exact ⟨rfl, Napi.pollEnd_below less⟩
      · rename_i more
        right
        refine ⟨by simp [more], ?_⟩
        cases poll.sleepLockPending with
        | false => exact ⟨rfl, .inr ⟨collected.1, more, rfl⟩⟩
        | true => exact ⟨rfl, .inr ⟨collected.1, more, rfl⟩⟩

theorem napiRxPoll_stopped {n : Napi} {budget : Int} (positive : 0 < budget) {answers : PollAnswers}
    (stopped : answers.queStarted = false) (poll : RxqPoll) :
    let outcome := napiRxPoll budget answers poll
    (outcome.actions.foldl napiAction n).pollEnd budget outcome.ret = { n with polling := false } := by
  dsimp only
  unfold napiRxPoll
  rw [if_pos stopped]
  exact Napi.pollEnd_below positive

theorem masked_kept_iff {started masked : Bool} {n after : Napi} {poll : RxqPoll} {completes : Prop}
    (kept : ¬ completes) (busy : after.Busy ↔ n.disabling = true → n.missed = true) :
    RxqDone.Served ⟨started, masked && !false, after, poll⟩ ↔
      (started = true → masked = true → n.disabling = true → n.missed = true ∨ completes) := by
  unfold RxqDone.Served
  rw [Bool.not_false, Bool.and_true, busy]
  simp [kept]

theorem pollEnd_exact (sound : rxq.napi.Sound) {budget : Int} {answers : PollAnswers}
    (taken : rxq.pollEnd budget answers = some next) :
    next.napi.Sound ∧ (next.Served ↔ (rxq.queStarted = true → rxq.masked = true →
      rxq.napi.disabling = true → rxq.napi.missed = true ∨ PollCompletes budget answers)) := by
  unfold RxqDone.pollEnd at taken
  dsimp only at taken
  split at taken
  · rename_i ready
    obtain ⟨polling, positive⟩ := ready
    obtain ⟨sched, unlisted⟩ := sound.polled polling
    have running : rxq.napi.Running := ⟨polling, sched⟩
    have enabled := running.not_disabled sound.consistent
    cases taken
    cases started : rxq.queStarted with
    | false =>
      rw [napiRxPoll_stopped positive rfl]
      exact ⟨⟨Napi.left_consistent sound.consistent, nofun⟩, iff_of_true nofun nofun⟩
    | true =>
      have completed := Napi.completeDone_consistent enabled unlisted
      rcases @napiRxPoll_ends rxq.napi budget positive { answers with queStarted := true } rfl rxq.poll
        with ⟨completes, unmasks, napi⟩ | ⟨kept, stays, napi⟩
      · rw [napi, unmasks]
        refine ⟨⟨Napi.left_consistent completed, nofun⟩, iff_of_true (fun _ masked => ?_) ?_⟩
        · simp at masked
        · exact fun _ _ _ => .inr completes
      · rw [stays]
        rcases napi with napi | ⟨work, full, napi⟩
        · rw [napi]
          exact ⟨⟨Napi.left_consistent (Napi.schedule_consistent completed), nofun⟩,
            masked_kept_iff kept (Napi.reschedule_busy_iff unlisted)⟩
        · obtain ⟨-, consistent, idle⟩ := Napi.pollEnd_full full running enabled unlisted
          rw [napi]
          refine ⟨⟨consistent, fun polling => ?_⟩,
            masked_kept_iff kept (Napi.pollEnd_busy_iff full unlisted)⟩
          rw [idle] at polling
          cases polling
  · cases taken

theorem napiEnable_sound (sound : rxq.napi.Sound) (served : rxq.Served)
    (taken : rxq.napiEnable = some next) : next.napi.Sound ∧ next.Served := by
  obtain ⟨napi, enabled, rfl⟩ := Option.map_eq_some_iff.mp taken
  obtain ⟨kept, idle⟩ := sound.enable enabled
  exact ⟨kept.schedule, fun started masked => absurd (served started masked) idle⟩

theorem napiDisabled_sound (sound : rxq.napi.Sound) (served : rxq.Served)
    (taken : rxq.napiDisabled = some next) : next.napi.Sound ∧ next.Served := by
  obtain ⟨napi, disabled, rfl⟩ := Option.map_eq_some_iff.mp taken
  obtain ⟨kept, idle⟩ := sound.disableDone disabled
  exact ⟨kept, fun started masked => absurd (served started masked) idle⟩

end Queues

section Runs

variable {s t : DonePath} {label : DoneLabel}

structure DonePath.Sound (s : DonePath) : Prop where
  tx : ∀ q, (s.txq q).Sound
  rx : ∀ q, (s.rxq q).napi.Sound

theorem setTxq_exact {q : TxqIndex} {txq : TxqDone} {P : Prop} (sound : s.Sound)
    (served : MaskedServed s) (kept : txq.Sound) (exact_one : txq.Served ↔ P) :
    (s.setTxq q txq).Sound ∧ (MaskedServed (s.setTxq q txq) ↔ P) := by
  have each (Q : TxqDone → Prop) : (∀ p, Q ((s.setTxq q txq).txq p)) ↔ Q txq ∧ ∀ p ≠ q, Q (s.txq p) :=
    Function.forall_update_iff s.txq fun _ => Q
  refine ⟨⟨(each TxqDone.Sound).mpr ⟨kept, fun p _ => sound.tx p⟩, sound.rx⟩, ?_⟩
  calc MaskedServed (s.setTxq q txq)
    _ ↔ ∀ p, ((s.setTxq q txq).txq p).Served := and_iff_left served.2
    _ ↔ txq.Served := (each TxqDone.Served).trans (and_iff_left fun p _ => served.1 p)
    _ ↔ P := exact_one

theorem setRxq_exact {q : RxqIndex} {rxq : RxqDone} {P : Prop} (sound : s.Sound)
    (served : MaskedServed s) (kept : rxq.napi.Sound) (exact_one : rxq.Served ↔ P) :
    (s.setRxq q rxq).Sound ∧ (MaskedServed (s.setRxq q rxq) ↔ P) := by
  have each (Q : RxqDone → Prop) : (∀ p, Q ((s.setRxq q rxq).rxq p)) ↔ Q rxq ∧ ∀ p ≠ q, Q (s.rxq p) :=
    Function.forall_update_iff s.rxq fun _ => Q
  refine ⟨⟨sound.tx, (each (·.napi.Sound)).mpr ⟨kept, fun p _ => sound.rx p⟩⟩, ?_⟩
  calc MaskedServed (s.setRxq q rxq)
    _ ↔ ∀ p, ((s.setRxq q rxq).rxq p).Served := and_iff_right served.1
    _ ↔ rxq.Served := (each RxqDone.Served).trans (and_iff_left fun p _ => served.2 p)
    _ ↔ P := exact_one

theorem doneStep_exact (sound : s.Sound) (served : MaskedServed s) (taken : s.step label = some t) :
    t.Sound ∧ (MaskedServed t ↔ ServesMasked s label) := by
  cases label with
  | ulDone status =>
    cases taken
    refine ⟨⟨fun q => ulDone_sound (sound.tx q) _, sound.rx⟩, iff_of_true ⟨fun q => ?_, served.2⟩ trivial⟩
    exact ulDone_served (served.1 q) _
  | dlDone q maskOk resumed =>
    cases taken
    obtain ⟨kept, exact_one⟩ := dlDone_exact (sound.rx q) (served.2 q) maskOk resumed
    exact setRxq_exact sound served kept exact_one
  | txDoneBegin q =>
    obtain ⟨txq, began, rfl⟩ := Option.map_eq_some_iff.mp taken
    obtain ⟨kept, one⟩ := begin_sound (sound.tx q) began
    exact setTxq_exact sound served kept (iff_of_true one trivial)
  | txDoneEnd q answers =>
    obtain ⟨txq, ended, rfl⟩ := Option.map_eq_some_iff.mp taken
    obtain ⟨kept, exact_one⟩ := finish_exact (sound.tx q) ended
    exact setTxq_exact sound served kept exact_one
  | pollBegin q =>
    obtain ⟨rxq, began, rfl⟩ := Option.map_eq_some_iff.mp taken
    obtain ⟨kept, one⟩ := pollBegin_sound (sound.rx q) began
    exact setRxq_exact sound served kept (iff_of_true one trivial)
  | pollEnd q budget answers =>
    obtain ⟨rxq, ended, rfl⟩ := Option.map_eq_some_iff.mp taken
    obtain ⟨kept, exact_one⟩ := pollEnd_exact (sound.rx q) ended
    exact setRxq_exact sound served kept exact_one
  | napiEnable q =>
    obtain ⟨rxq, enabled, rfl⟩ := Option.map_eq_some_iff.mp taken
    obtain ⟨kept, one⟩ := napiEnable_sound (sound.rx q) (served.2 q) enabled
    exact setRxq_exact sound served kept (iff_of_true one trivial)
  | napiDisable q =>
    cases taken
    have kept : (s.rxq q).napi.disableBegin.Sound :=
      ⟨⟨(sound.rx q).consistent.listed, (sound.rx q).consistent.held⟩, (sound.rx q).polled⟩
    exact setRxq_exact sound served kept (iff_of_true (served.2 q) trivial)
  | napiDisabled q =>
    obtain ⟨rxq, disabled, rfl⟩ := Option.map_eq_some_iff.mp taken
    obtain ⟨kept, one⟩ := napiDisabled_sound (sound.rx q) (served.2 q) disabled
    exact setRxq_exact sound served kept (iff_of_true one trivial)

/-- NAPI before the first netdev is opened. -/
def napiAdded : Napi where
  sched := true
  missed := false
  disabling := false
  disabled := true
  listed := false
  polling := false

theorem napiAdded_sound : napiAdded.Sound := by
  refine ⟨⟨fun listed => ?_, fun _ => ⟨rfl, rfl, rfl⟩⟩, fun polling => ?_⟩
  · cases listed
  · cases polling

def neverPolled : RxqPoll := ⟨false, false⟩

end Runs

end T7xxModel.Dpmaif
