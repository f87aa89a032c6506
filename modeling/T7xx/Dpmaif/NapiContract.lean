import T7xx.Dpmaif.RxFlow

namespace T7xxModel.Dpmaif

open Transition Kernel

/-- The contract of a poll: the whole budget without `napi_complete_done`, or less with one. -/
def PollCall.Meets (call : PollCall) : Prop :=
  (call.ret = call.budget ↔ call.completes = 0) ∧ (call.ret < call.budget ↔ call.completes = 1)

instance (call : PollCall) : Decidable call.Meets := inferInstanceAs (Decidable (_ ∧ _))

/-- Every poll met the contract, and no queue is scheduled without a poll to come. -/
def NapiSound (s : RxFlow) : Prop :=
  ∀ q, (∀ call ∈ (s.queue q).calls, call.Meets) ∧ (s.queue q).napi.PollPending

instance (s : RxFlow) : Decidable (NapiSound s) := by
  unfold NapiSound
  infer_instance

def PolledStarted (s : RxFlow) : FlowLabel → Prop
  | .pollBegin .. => s.path.queStarted = true
  | _ => True

instance : ∀ (s : RxFlow) label, Decidable (PolledStarted s label) := fun s label => by
  unfold PolledStarted
  split <;> infer_instance

/-- The locals of a poll: never more received than the budget. -/
def PollBudgetKept (rxq : RxQueue) : PollAt → Prop
  | .outside => True
  | .collecting budget workDone _ => 0 < budget ∧ workDone ≤ budget
  | .receiving budget workDone _ l =>
    0 < budget ∧ workDone < budget ∧ l.budget = (budget - workDone).toNat ∧
      l.recvSkbCnt ≤ l.budget ∧ (l.recvSkbCnt = l.budget → rxq.rxDataInfo.msgPitReceived = false) ∧
      l.ret ≤ 0
  | .collected budget workDone _ => 0 < budget ∧ workDone ≤ budget

structure QueueSound (run : RxqRun) : Prop where
  consistent : run.napi.Consistent
  outside : run.pc = .outside → run.napi.polling = false
  inside : run.pc ≠ .outside → run.napi.Running ∧ run.napi.listed = false
  budget : PollBudgetKept run.rxq run.pc

theorem afterRxStart_inside (budget workDone rxCnt : Int) (onceMore : Bool) :
    afterRxStart budget workDone onceMore rxCnt ≠ .outside := by
  unfold afterRxStart
  split
  · exact nofun
  · exact nofun

theorem afterRxStart_budget {rxq : RxQueue} {budget workDone rxCnt : Int} {onceMore : Bool}
    (positive : 0 < budget) (before : workDone ≤ budget) (after : workDone + rxCnt ≤ budget) :
    PollBudgetKept rxq (afterRxStart budget workDone onceMore rxCnt) := by
  unfold afterRxStart
  split
  · exact ⟨positive, after⟩
  · exact ⟨positive, before⟩

/-- A poll that gets past its loop meets the contract and leaves NAPI in order. -/
theorem endPoll_finish {run : RxqRun} {budget workDone : Int} {onceMore : Bool}
    (sound : QueueSound run) (pc : run.pc = .collected budget workDone onceMore) :
    let ended := endPoll budget (napiRxFinish budget [] (workDone, onceMore)) run
    QueueSound ended ∧ ended.napi.PollPending ∧
      ∃ call : PollCall, ended.calls = run.calls ++ [call] ∧ call.Meets := by
  have inside : run.pc ≠ .outside := by
    rw [pc]
    exact nofun
  obtain ⟨running, unlisted⟩ := sound.inside inside
  have enabled := running.not_disabled sound.consistent
  obtain ⟨positive, below⟩ : PollBudgetKept run.rxq (.collected budget workDone onceMore) := by
    rw [← pc]
    exact sound.budget
  have full : ¬ budget < budget := lt_irrefl budget
  unfold napiRxFinish
  dsimp only
  split
  · obtain ⟨pending, consistent, idle⟩ := Napi.pollEnd_full full running enabled unlisted
    refine ⟨⟨consistent, fun _ => idle, fun outside => absurd rfl outside, trivial⟩, pending, _, rfl, ?_⟩
    exact ⟨⟨fun _ => rfl, fun _ => rfl⟩, fun less => absurd less full, nofun⟩
  · split
    · rename_i less
      have listed := Napi.completeDone_listed run.napi
      have consistent := Napi.completeDone_consistent enabled unlisted
      have ended : run.napi.completeDone.pollEnd budget workDone =
          { run.napi.completeDone with polling := false } := Napi.pollEnd_below less
      refine ⟨⟨?_, fun _ => ?_, fun outside => absurd rfl outside, trivial⟩, ?_, _, rfl, ?_⟩
      · show (run.napi.completeDone.pollEnd budget workDone).Consistent
        rw [ended]
        exact Napi.left_consistent consistent
      · show (run.napi.completeDone.pollEnd budget workDone).polling = false
        rw [ended]
      · show (run.napi.completeDone.pollEnd budget workDone).PollPending
        rw [ended]
        exact fun scheduled => Or.inl (listed scheduled)
      · have other : workDone ≠ budget := by omega
        exact ⟨⟨fun same => absurd same other, nofun⟩, fun _ => rfl, fun _ => less⟩
    · rename_i more
      have whole : workDone = budget := by omega
      obtain ⟨pending, consistent, idle⟩ := Napi.pollEnd_full more running enabled unlisted
      refine ⟨⟨consistent, fun _ => idle, fun outside => absurd rfl outside, trivial⟩, pending, _, rfl, ?_⟩
      exact ⟨⟨fun _ => rfl, fun _ => whole⟩, fun less => absurd less more, nofun⟩

theorem napiRxExit_unlocked (rxq : RxqPoll) :
    ∃ outcome, napiRxExit true false rxq = some outcome ∧ outcome.ret = 0 ∧
      (∀ n, outcome.actions.foldl napiAction n = n.completeDone.schedule) ∧
      outcome.actions.countP PollAction.isComplete = 1 := by
  unfold napiRxExit
  cases rxq.sleepLockPending with
  | false => exact ⟨_, rfl, rfl, fun _ => rfl, rfl⟩
  | true => exact ⟨_, rfl, rfl, fun _ => rfl, rfl⟩

/-- A poll that begins on a started queue meets the contract so far; on a stopped queue it returns
    without completing. -/
theorem pollBegin_cases {queStarted lockAcquired : Bool} {budget : Int} {run next : RxqRun}
    (sound : QueueSound run) (taken : pollBegin queStarted budget lockAcquired run = some next) :
    QueueSound next ∧
      if queStarted = true then
        next.napi.PollPending ∧ ∀ call ∈ next.calls, call ∈ run.calls ∨ call.Meets
      else ∃ call ∈ next.calls, ¬ call.Meets := by
  unfold pollBegin at taken
  split at taken
  · rename_i ready
    obtain ⟨outside, positive⟩ := ready
    obtain ⟨napi, begun, rfl⟩ := Option.map_eq_some_iff.mp taken
    obtain ⟨running, unlisted, consistent⟩ := Napi.pollBegin_spec begun sound.consistent
    have enabled := running.not_disabled consistent
    have left := Napi.left_consistent consistent
    have below (n : Napi) : n.pollEnd budget 0 = { n with polling := false } :=
      Napi.pollEnd_below positive
    cases queStarted with
    | false =>
      unfold napiRxExit
      refine ⟨⟨?_, fun _ => ?_, fun inside => absurd rfl inside, trivial⟩, ?_⟩
      · show (napi.pollEnd budget 0).Consistent
        rw [below]
        exact left
      · show (napi.pollEnd budget 0).polling = false
        rw [below]
      · refine ⟨{ budget, ret := 0, completes := 0 }, List.mem_append_right _ List.mem_cons_self, ?_⟩
        intro meets
        exact absurd (meets.2.mp positive) Nat.zero_ne_one
    | true =>
      cases lockAcquired with
      | false =>
        have completed := Napi.completeDone_consistent enabled unlisted
        have listed := Napi.schedule_listed (Napi.completeDone_listed napi)
        have scheduled := Napi.left_consistent (Napi.schedule_consistent completed)
        obtain ⟨outcome, exited, ret, acted, completes⟩ := napiRxExit_unlocked
          ⟨run.poll.sleepLockPending, true⟩
        dsimp only
        rw [exited]
        have ended : (outcome.actions.foldl napiAction napi).pollEnd budget outcome.ret =
            { napi.completeDone.schedule with polling := false } := by
          rw [acted, ret, below]
        refine ⟨⟨?_, fun _ => ?_, fun inside => absurd rfl inside, trivial⟩, ?_, ?_⟩
        · show ((outcome.actions.foldl napiAction napi).pollEnd budget outcome.ret).Consistent
          rw [ended]
          exact scheduled
        · show ((outcome.actions.foldl napiAction napi).pollEnd budget outcome.ret).polling = false
          rw [ended]
        · show ((outcome.actions.foldl napiAction napi).pollEnd budget outcome.ret).PollPending
          rw [ended]
          exact fun again => Or.inl (listed again)
        · intro call member
          rcases List.mem_append.mp member with earlier | last
          · exact Or.inl earlier
          · cases List.mem_singleton.mp last
            right
            unfold PollCall.Meets
            rw [ret, completes]
            exact ⟨⟨fun same => absurd same positive.ne, nofun⟩, fun _ => rfl, fun _ => positive⟩
      | true =>
        unfold napiRxExit
        refine ⟨⟨consistent, nofun, fun _ => ⟨running, unlisted⟩, positive, positive.le⟩, ?_⟩
        exact ⟨running.pending, fun call member => Or.inl member⟩
  · cases taken

theorem napiMove_kept {n m : Napi} (move : NapiMove n m) (consistent : n.Consistent)
    (scheduled : n.polling = true → n.sched = true) :
    m.Consistent ∧ m.polling = n.polling ∧ (n.PollPending → m.PollPending) ∧
      (n.Running ∧ n.listed = false → m.Running ∧ m.listed = false) := by
  cases move with
  | scheduled =>
    refine ⟨Napi.schedule_consistent consistent, Napi.schedule_polling n, Napi.schedule_pending, ?_⟩
    rintro ⟨running, unlisted⟩
    exact ⟨Napi.schedule_running running, (Napi.schedule_keeps_list running.2).trans unlisted⟩
  | disabling => exact ⟨⟨consistent.listed, consistent.held⟩, rfl, id, id⟩
  | disabled taken =>
    have unscheduled := Napi.disableDone_sched taken
    have idle : n.polling = false := by
      rw [Bool.eq_false_iff]
      intro active
      have busy := scheduled active
      rw [unscheduled] at busy
      cases busy
    obtain ⟨pending, kept, after⟩ := Napi.disableDone_spec taken consistent idle
    refine ⟨kept, after.trans idle.symm, fun _ => pending, ?_⟩
    rintro ⟨running, _⟩
    have active := running.1
    rw [idle] at active
    cases active
  | enabled taken =>
    obtain ⟨pending, kept, idle, before⟩ := Napi.enable_spec taken consistent
    refine ⟨kept, idle.trans before.symm, fun _ => pending, ?_⟩
    rintro ⟨running, _⟩
    have active := running.1
    rw [before] at active
    cases active

theorem QueueSound.scheduled {run : RxqRun} (sound : QueueSound run) (polling : run.napi.polling = true) :
    run.napi.sched = true := by
  by_cases outside : run.pc = .outside
  · have idle := sound.outside outside
    rw [polling] at idle
    cases idle
  · exact (sound.inside outside).1.2

theorem QueueSound.inPoll {run : RxqRun} {pc : PollAt} (sound : QueueSound run) (here : run.pc = pc)
    (inside : pc ≠ .outside) : (run.napi.Running ∧ run.napi.listed = false) ∧ PollBudgetKept run.rxq pc := by
  rw [← here] at inside ⊢
  exact ⟨sound.inside inside, sound.budget⟩

/-- A processed entry does not take the count past the budget. -/
theorem rxEntered_budget {entry : RxEntry} {l : RxLocals} (s : RxSide) (reaches : Reaches entry l s.rxq)
    (most : l.recvSkbCnt ≤ l.budget)
    (last : l.recvSkbCnt = l.budget → s.rxq.rxDataInfo.msgPitReceived = false) :
    (rxEntered entry l s).2.budget = l.budget ∧
      (rxEntered entry l s).2.recvSkbCnt ≤ l.budget ∧
      ((rxEntered entry l s).2.recvSkbCnt = l.budget →
        (rxEntered entry l s).1.rxq.rxDataInfo.msgPitReceived = false) := by
  have room : l.recvSkbCnt < l.budget := by
    by_contra full
    exact reaches.2.1 ⟨last (by omega), by omega⟩
  obtain ⟨ret, _, kept | ⟨counted, cleared⟩⟩ := rxProcess_locals entry l (rxChecked entry l s)
  · unfold rxEntered
    rw [kept]
    exact ⟨rfl, most, fun full => absurd full room.ne⟩
  · unfold rxEntered
    rw [counted]
    exact ⟨rfl, room, fun _ => cleared⟩

theorem entryMove_sound {s : RxFlow} {q : RxqIndex} {entry : RxEntry} {run : RxqRun}
    (sound : QueueSound (s.queue q)) (move : EntryMove s q entry run) :
    QueueSound run ∧ run.napi = (s.queue q).napi ∧ run.calls = (s.queue q).calls := by
  cases move with
  | unreached pc stays untouched counted =>
    obtain ⟨inside, budget⟩ := sound.inPoll pc nofun
    obtain ⟨positive, below, asked, most, _, negative⟩ := budget
    have received := counted negative
    refine ⟨⟨sound.consistent, fun outside => absurd outside (afterRxStart_inside _ _ _ _),
      fun _ => inside, ?_⟩, rfl, rfl⟩
    exact afterRxStart_budget positive below.le (by omega)
  | @advanced _ _ _ l m rxq pc reaches untouched advances =>
    obtain ⟨inside, budget⟩ := sound.inPoll pc nofun
    obtain ⟨positive, below, asked, most, last, negative⟩ := budget
    obtain ⟨sameBudget, atMost, atLast⟩ := rxEntered_budget (s.side q) reaches most last
    obtain ⟨budgetKept, countKept, _, retKept⟩ := advances
    have info := ((rxAdvance_skbs _ _).trans untouched.toSameSkbs).info
    refine ⟨⟨sound.consistent, nofun, fun _ => inside, positive, below, ?_, ?_, ?_, retKept negative⟩,
      rfl, rfl⟩
    · rw [budgetKept, sameBudget, asked]
    · rw [budgetKept, countKept, sameBudget]
      exact atMost
    · intro full
      rw [budgetKept, countKept, sameBudget] at full
      rw [info]
      exact atLast full
  | failed pc reaches untouched =>
    obtain ⟨inside, budget⟩ := sound.inPoll pc nofun
    exact ⟨⟨sound.consistent, nofun, fun _ => inside, budget.1, budget.2.1.le⟩,
      rfl, rfl⟩

/-- Every move but the beginning of a poll keeps the contract. -/
theorem queueMove_sound {s : RxFlow} {label : FlowLabel} {q : RxqIndex} {run : RxqRun}
    (sound : QueueSound (s.queue q)) (move : QueueMove s label q run) :
    QueueSound run ∧ (PolledStarted s label →
      (s.queue q).napi.PollPending ∧ (∀ call ∈ (s.queue q).calls, call.Meets) →
        run.napi.PollPending ∧ ∀ call ∈ run.calls, call.Meets) := by
  cases move with
  | same => exact ⟨sound, fun _ => id⟩
  | stopped _ =>
    refine ⟨⟨sound.consistent, sound.outside, sound.inside, ?_⟩, fun _ => id⟩
    show PollBudgetKept (stopRxq (s.queue q).rxq) (s.queue q).pc
    have budget := sound.budget
    revert budget
    cases (s.queue q).pc with
    | outside => exact id
    | collecting => exact id
    | receiving budget workDone onceMore l =>
      rintro ⟨positive, below, asked, counted, _, negative⟩
      exact ⟨positive, below, asked, counted, fun _ => rfl, negative⟩
    | collected => exact id
  | napi move =>
    obtain ⟨consistent, polling, pending, running⟩ :=
      napiMove_kept move sound.consistent sound.scheduled
    refine ⟨⟨consistent, fun outside => polling.trans (sound.outside outside),
      fun inside => running (sound.inside inside), sound.budget⟩, fun _ ok => ⟨pending ok.1, ok.2⟩⟩
  | began polled taken =>
    obtain ⟨kept, met⟩ := pollBegin_cases sound taken
    refine ⟨kept, fun started ok => ?_⟩
    have running : s.path.queStarted = true := by
      rw [polled] at started
      exact started
    rw [if_pos running] at met
    exact ⟨met.1, fun call member => (met.2 call member).elim (ok.2 call) id⟩
  | collected pc untouched =>
    obtain ⟨inside, budget⟩ := sound.inPoll pc nofun
    exact ⟨⟨sound.consistent, nofun, fun _ => inside, budget⟩, fun _ => id⟩
  | received pc below untouched fresh =>
    obtain ⟨inside, budget⟩ := sound.inPoll pc nofun
    obtain ⟨asked, _, none, ret⟩ := fresh
    refine ⟨⟨sound.consistent, nofun, fun _ => inside, budget.1, below, asked, ?_, ?_,
      ret.le⟩, fun _ => id⟩
    · omega
    · intro all
      omega
  | entered _ move =>
    obtain ⟨kept, napi, calls⟩ := entryMove_sound sound move
    rw [napi, calls]
    exact ⟨kept, fun _ => id⟩
  | finished pc =>
    obtain ⟨kept, pending, call, calls, meets⟩ := endPoll_finish sound pc
    refine ⟨kept, fun _ ok => ⟨pending, fun other member => ?_⟩⟩
    rw [calls] at member
    rcases List.mem_append.mp member with earlier | last
    · exact ok.2 other earlier
    · rw [List.mem_singleton.mp last]
      exact meets

def SystemSound (s : RxFlow) : Prop := ∀ q, QueueSound (s.queue q)

theorem napiStep_sound {s t : RxFlow} {label : FlowLabel} (sound : SystemSound s)
    (taken : s.step label = some t) : SystemSound t :=
  fun q => (queueMove_sound (sound q) (flow_moves taken q)).1

theorem napiStep_exact {s t : RxFlow} {label : FlowLabel} (sound : SystemSound s)
    (contract : NapiSound s) (taken : s.step label = some t) : NapiSound t ↔ PolledStarted s label := by
  constructor
  · intro after
    cases label with
    | pollBegin p budget lockAcquired =>
      obtain ⟨run, begun, rfl⟩ := Option.map_eq_some_iff.mp taken
      by_contra stopped
      have met := (pollBegin_cases (sound p) begun).2
      rw [if_neg (show ¬ s.path.queStarted = true from stopped)] at met
      obtain ⟨call, member, broken⟩ := met
      have here : (s.setQueue p run).queue p = run := by rw [setQueue_queue, if_pos rfl]
      have calls := (after p).1
      rw [here] at calls
      exact broken (calls call member)
    | _ => trivial
  · intro started q
    obtain ⟨pending, calls⟩ := (queueMove_sound (sound q) (flow_moves taken q)).2 started
      ⟨(contract q).2, (contract q).1⟩
    exact ⟨calls, pending⟩

/-- No poll is in progress, and what NAPI knows of every queue agrees. -/
def Quiet (s : RxFlow) : Prop :=
  ∀ q, (s.queue q).pc = .outside ∧ (s.queue q).calls = [] ∧ (s.queue q).napi.polling = false ∧
    (s.queue q).napi.Consistent ∧ (s.queue q).napi.PollPending

/-- Polls meet the contract of NAPI, and leave no queue scheduled without a poll to come, exactly if
    each of them begins on a started queue. -/
theorem napi_contract_iff_polled_started (s : RxFlow) (labels : List FlowLabel) (quiet : Quiet s) :
    Visits NapiSound RxFlow.step s labels ↔ Obeys PolledStarted RxFlow.step s labels := by
  refine visits_iff_obeys SystemSound (fun s label t sound _ taken => napiStep_sound sound taken)
    (fun s label t sound contract taken => napiStep_exact sound contract taken) ?_ ?_
  · intro q
    obtain ⟨outside, _, idle, consistent, _⟩ := quiet q
    refine ⟨consistent, fun _ => idle, fun inside => absurd outside inside, ?_⟩
    rw [outside]
    trivial
  · intro q
    obtain ⟨_, calls, _, _, pending⟩ := quiet q
    rw [calls]
    exact ⟨fun call member => absurd member List.not_mem_nil, pending⟩

/-- An interrupt schedules NAPI, the suspend stops the queue, and the poll comes after it. -/
def suspendBeforePoll : List FlowLabel :=
  [.path .resume, .napiEnable rxq0, .napiSchedule rxq0, .path .suspend, .pollBegin rxq0 64 true]

theorem quiet_flowInit : Quiet flowInit := fun _ =>
  ⟨rfl, rfl, rfl, ⟨nofun, fun _ => ⟨rfl, rfl, rfl⟩⟩, fun _ => Or.inr (Or.inr rfl)⟩

theorem suspend_before_poll_breaks_contract :
    ¬ Visits NapiSound RxFlow.step flowInit suspendBeforePoll := by
  decide

theorem poll_after_resume_meets_contract :
    Visits NapiSound RxFlow.step flowInit
      [.path .resume, .napiEnable rxq0, .napiSchedule rxq0, .pollBegin rxq0 64 true,
        .collect rxq0 0, .pollFinish rxq0] :=
  (napi_contract_iff_polled_started flowInit _ quiet_flowInit).mpr (by decide)

end T7xxModel.Dpmaif
