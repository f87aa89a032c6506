import T7xx.Fsm.Handshake

namespace T7xxModel.Fsm

open Pci

def FSM_EVENT_POLL_INTERVAL_MS : Nat := 20
def FSM_MD_EX_REC_OK_TIMEOUT_MS : Nat := 10000
def FSM_MD_EX_PASS_TIMEOUT_MS : Nat := 45000

def Modem.Fastboot (m : Modem) : Prop :=
  m.dev.mode = .fastbootDownload ∨ m.dev.mode = .fastbootDump

instance (m : Modem) : Decidable m.Fastboot := inferInstanceAs (Decidable (_ ∨ _))

/-- The step flushes the command queue: it handles an invalid command, or `fsm_stopped_handler` runs
    outside the fastboot modes. -/
def FsmRun.Flushes (run : FsmRun) : FsmLabel → Prop
  | .dequeue =>
    ∃ cmd ∈ run.m.commandQueue.head?, cmd.cmdId = .invalid ∨
      cmd.cmdId = .stop ∧ run.m.currState ≠ .stopped ∧ ¬ run.m.Fastboot
  | .stopDelayOver => ¬ run.m.Fastboot
  | _ => False

instance (run : FsmRun) (label : FsmLabel) : Decidable (run.Flushes label) := by
  unfold FsmRun.Flushes
  split <;> infer_instance

section Queue

variable {m : Modem} {cmd : FsmCommand}

def Appends (m m' : Modem) : Prop := ∃ appended, m'.commandQueue = m.commandQueue ++ appended

theorem Appends.same {m m' : Modem} (queue : m'.commandQueue = m.commandQueue) : Appends m m' :=
  ⟨[], queue.trans (List.append_nil _).symm⟩

theorem mdReset_queue (m : Modem) : (mdReset m).1.commandQueue = [] := by
  unfold mdReset coreReset
  dsimp only
  split <;> rfl

theorem fsmStoppedHandler_queue (m : Modem) :
    (fsmStoppedHandler m).1.commandQueue = if m.Fastboot then m.commandQueue else [] := by
  unfold fsmStoppedHandler
  dsimp only
  by_cases fastboot : m.dev.mode = .fastbootDownload ∨ m.dev.mode = .fastbootDump
  · have named : m.Fastboot := fastboot
    rw [if_pos fastboot, if_pos named]
  · have named : ¬ m.Fastboot := fastboot
    rw [if_neg fastboot, if_neg named]
    exact mdReset_queue _

theorem fsmRoutineStart_queue (cmd : FsmCommand) (m : Modem) :
    (fsmRoutineStart cmd m).1.commandQueue = m.commandQueue := by
  unfold fsmRoutineStart
  split <;> rfl

theorem fsmRoutineException_queue (cmd : FsmCommand) (m : Modem) :
    (fsmRoutineException cmd m).1.commandQueue = m.commandQueue := by
  unfold fsmRoutineException
  split
  · rfl
  · dsimp only
    split <;> rfl

theorem fsmRoutineStopping_queue (cmd : FsmCommand) (m : Modem) :
    (fsmRoutineStopping cmd m).1.commandQueue = m.commandQueue := by
  unfold fsmRoutineStopping
  split <;> rfl

theorem fsmRoutineStopped_queue (cmd : FsmCommand) (m : Modem) :
    (fsmRoutineStopped cmd m).1.commandQueue =
      if m.currState ≠ .stopped ∧ ¬ m.Fastboot then [] else m.commandQueue := by
  unfold fsmRoutineStopped
  by_cases stopped : m.currState = .stopped
  · rw [if_pos stopped, if_neg fun running => running.1 stopped]
    rfl
  · rw [if_neg stopped]
    show (fsmStoppedHandler m).1.commandQueue = _
    rw [fsmStoppedHandler_queue]
    by_cases fastboot : m.Fastboot
    · rw [if_pos fastboot, if_neg fun other => other.2 fastboot]
    · rw [if_neg fastboot, if_pos ⟨stopped, fastboot⟩]

/-- What is left of the queue once its first command was taken and, if it needs no wait, handled. -/
theorem fsmDequeue_queue {run : FsmRun} {m : Modem} {thread : FsmThread}
    (taken : fsmDequeue run.m = some (m, thread)) :
    ∃ cmd rest, run.m.commandQueue = cmd :: rest ∧
      m.commandQueue = if run.Flushes .dequeue then [] else rest := by
  unfold fsmDequeue at taken
  split at taken
  · cases taken
  rename_i cmd rest queue
  refine ⟨cmd, rest, queue, ?_⟩
  have flushes : run.Flushes .dequeue ↔ cmd.cmdId = .invalid ∨
      cmd.cmdId = .stop ∧ run.m.currState ≠ .stopped ∧ ¬ run.m.Fastboot := by
    unfold FsmRun.Flushes
    rw [queue]
    exact ⟨fun ⟨_, head, flushed⟩ => Option.some.inj head ▸ flushed, fun flushed => ⟨cmd, rfl, flushed⟩⟩
  rw [if_congr flushes rfl rfl]
  dsimp only at taken
  cases kind : cmd.cmdId with
  | start =>
    rw [kind] at taken
    have same : (fsmRoutineStart cmd { run.m with commandQueue := rest }).1 = m :=
      congrArg Prod.fst (Option.some.inj taken)
    rw [← same, fsmRoutineStart_queue, if_neg (by simp)]
  | exception =>
    rw [kind] at taken
    have same : (fsmRoutineException cmd { run.m with commandQueue := rest }).1 = m :=
      congrArg Prod.fst (Option.some.inj taken)
    rw [← same, fsmRoutineException_queue, if_neg (by simp)]
  | preStop =>
    rw [kind] at taken
    have same : (fsmRoutineStopping cmd { run.m with commandQueue := rest }).1 = m :=
      congrArg Prod.fst (Option.some.inj taken)
    rw [← same, fsmRoutineStopping_queue, if_neg (by simp)]
  | stop =>
    rw [kind] at taken
    have same : (fsmRoutineStopped cmd { run.m with commandQueue := rest }).1 = m :=
      congrArg Prod.fst (Option.some.inj taken)
    rw [← same, fsmRoutineStopped_queue]
    apply if_congr _ rfl rfl
    simp [Modem.Fastboot]
  | invalid =>
    rw [kind] at taken
    cases taken
    rw [if_pos (Or.inl rfl)]
    rfl

theorem fsmFinishStart_queue (cmd : FsmCommand) (ret : Int) (m : Modem) :
    (fsmFinishStart cmd ret m).commandQueue = m.commandQueue := by
  unfold fsmFinishStart
  split <;> rfl

theorem fsmDevStage_appends (cmd : FsmCommand) (timedOut : Bool) (status : BitVec 32) (m : Modem) :
    Appends m (fsmDevStage cmd timedOut status m).1 := by
  have lk (m' : Modem) : (lkStageEventHandling status m').commandQueue = m'.commandQueue := by
    unfold lkStageEventHandling
    split
    · rfl
    · split <;> rfl
  unfold fsmDevStage
  split
  · exact .same (fsmFinishStart_queue _ _ _)
  split
  · dsimp only
    split
    · exact ⟨_, fsmFinishStart_queue _ _ _⟩
    split
    · exact .same ((fsmFinishStart_queue _ _ _).trans (lk m))
    split
    · split
      · exact .same (fsmFinishStart_queue _ _ _)
      · exact .same rfl
    · exact .same (fsmFinishStart_queue _ _ _)
  · exact .same (fsmFinishStart_queue _ _ _)

theorem fsmStartingResult_queue (m : Modem) :
    (fsmStartingResult m).1.commandQueue = m.commandQueue := by
  have timeout (core : Core) : (fsmHandshakeTimeout core m).commandQueue = m.commandQueue := by
    unfold fsmHandshakeTimeout
    cases core <;> dsimp only <;> split <;> split <;> rfl
  unfold fsmStartingResult
  split
  · exact timeout .md
  split
  · exact timeout .ap
  · show (fsmRoutineReady { m with dev := pciPmInitLate m.dev }).commandQueue = m.commandQueue
    unfold fsmRoutineReady fsmBroadcastReadyState
    dsimp only
    split <;> rfl

theorem mdEventStart_queue (m : Modem) : (mdEventStart m).commandQueue = m.commandQueue := by
  have started (core : Core) (m' : Modem) :
      (startHandshakeWork core m').commandQueue = m'.commandQueue := by
    unfold startHandshakeWork queueHandshakeWork
    split
    · cases core <;> rfl
    · rfl
  unfold mdEventStart
  dsimp only
  split
  · rfl
  split
  · rfl
  · exact (started .ap _).trans (started .md _)

theorem mhccifIsrThread_appends (m : Modem) : Appends m (mhccifIsrThread m) := by
  have isr : Appends m (pciMhccifIsr m) := by
    unfold pciMhccifIsr
    dsimp only
    split
    · split
      · exact ⟨_, rfl⟩
      · exact .same rfl
    split
    · split
      · exact ⟨_, rfl⟩
      · exact .same rfl
    split
    · split
      · exact .same rfl
      · exact .same rfl
    · exact .same rfl
  unfold mhccifIsrThread
  dsimp only
  split
  · obtain ⟨appended, queue⟩ := isr
    exact ⟨appended, queue⟩
  · exact .same rfl

theorem fsmPollEvent_queue (expected ignored : FsmEventId) (m : Modem) :
    (fsmPollEvent expected ignored m).1.commandQueue = m.commandQueue := by
  unfold fsmPollEvent
  split
  · rfl
  · split
    · rfl
    · split <;> rfl

end Queue

section Steps

variable {run run' : FsmRun} {label : FsmLabel}

theorem setWork_m (run : FsmRun) (core : Core) (work : HkWork) : (run.setWork core work).m = run.m := by
  cases core <;> rfl

theorem setWork_thread (run : FsmRun) (core : Core) (work : HkWork) :
    (run.setWork core work).thread = run.thread := by
  cases core <;> rfl

theorem hkWorkStart_queue (core : Core) (m : Modem) :
    (hkWorkStart core m).commandQueue = m.commandQueue := by
  cases core <;> rfl

theorem workStep_queue (taken : run.workStep label = some run') :
    run'.m.commandQueue = run.m.commandQueue ∧ run'.thread = run.thread := by
  unfold FsmRun.workStep at taken
  split at taken
  · split at taken
    · cases taken
      rw [setWork_m, setWork_thread]
      exact ⟨hkWorkStart_queue _ _, rfl⟩
    · cases taken
  · split at taken
    · obtain ⟨found, _, rfl⟩ := Option.map_eq_some_iff.mp taken
      rw [setWork_m, setWork_thread]
      exact ⟨rfl, rfl⟩
    · cases taken
  · rename_i core parsed
    split at taken
    · cases taken
      split
      · have completed (other : FsmRun) :
            (other.completeHandshake core).m.commandQueue = other.m.commandQueue ∧
              (other.completeHandshake core).thread = other.thread := by
          cases core <;> exact ⟨rfl, rfl⟩
        have both := completed (run.setWork core .idle)
        rw [setWork_m, setWork_thread] at both
        exact both
      · rw [setWork_m, setWork_thread]
        exact ⟨rfl, rfl⟩
    · cases taken
  · cases taken

/-- The labels of `fsm_main_thread`. -/
def FsmLabel.byThread : FsmLabel → Bool
  | .dequeue | .devStage .. | .broadcastHs1 | .notifyStart | .handshakeWake | .pollEvent
  | .pollGivesUp | .stopDelayOver => true
  | _ => false

theorem threadStep_dequeue (taken : run.threadStep .dequeue = some run') :
    run.thread = .idle ∧ ∃ cmd rest, run.m.commandQueue = cmd :: rest ∧
      run'.m.commandQueue = if run.Flushes .dequeue then [] else rest := by
  dsimp only [FsmRun.threadStep] at taken
  split at taken
  · rename_i idle
    obtain ⟨⟨m, thread⟩, dequeued, rfl⟩ := Option.map_eq_some_iff.mp taken
    exact ⟨idle, fsmDequeue_queue dequeued⟩
  · cases taken

/-- Between its commands the main thread only appends to the queue, if it does anything. -/
theorem threadStep_appends (other : label ≠ .dequeue) (running : label ≠ .stopDelayOver)
    (taken : run.threadStep label = some run') : Appends run.m run'.m := by
  cases label with
  | dequeue => exact absurd rfl other
  | stopDelayOver => exact absurd rfl running
  | devStage timedOut status =>
    dsimp only [FsmRun.threadStep] at taken
    split at taken
    · cases taken
      exact fsmDevStage_appends _ _ _ _
    · cases taken
  | broadcastHs1 =>
    dsimp only [FsmRun.threadStep] at taken
    split at taken
    · cases taken
      exact .same rfl
    · cases taken
  | notifyStart =>
    dsimp only [FsmRun.threadStep] at taken
    split at taken
    · cases taken
      exact .same (mdEventStart_queue _)
    · cases taken
  | handshakeWake =>
    dsimp only [FsmRun.threadStep] at taken
    split at taken
    · cases taken
      apply Appends.same
      dsimp only
      rw [fsmFinishStart_queue]
      exact fsmStartingResult_queue run.m
    · cases taken
  | pollEvent =>
    dsimp only [FsmRun.threadStep] at taken
    split at taken
    · cases taken
      exact .same (fsmPollEvent_queue _ _ _)
    · split at taken
      · cases taken
        exact .same (fsmPollEvent_queue _ _ _)
      · cases taken
        exact .same (fsmPollEvent_queue _ _ _)
    · cases taken
  | pollGivesUp =>
    dsimp only [FsmRun.threadStep] at taken
    split at taken
    · cases taken
      exact .same rfl
    · cases taken
      exact .same rfl
    · cases taken
  | _ => cases taken

theorem threadStep_stopDelayOver (taken : run.threadStep .stopDelayOver = some run') :
    run'.m.commandQueue = if run.m.Fastboot then run.m.commandQueue else [] := by
  dsimp only [FsmRun.threadStep] at taken
  split at taken
  · cases taken
    exact fsmStoppedHandler_queue run.m
  · cases taken

/-- Outside its flushes every thread only appends to the queue, if it does anything. -/
theorem step_appends (other : label ≠ .dequeue) (running : label ≠ .stopDelayOver)
    (taken : run.step label = some run') : Appends run.m run'.m := by
  have works (work : run.workStep label = some run') : Appends run.m run'.m :=
    .same (workStep_queue work).1
  cases label with
  | appendCmd cmdId flag =>
    cases taken
    exact ⟨_, rfl⟩
  | appendEvent event =>
    cases taken
    exact .same rfl
  | modeUpdate mode =>
    cases taken
    exact .same rfl
  | deviceInt bits =>
    cases taken
    exact .same rfl
  | mhccifIsr =>
    cases taken
    exact mhccifIsrThread_appends run.m
  | workStart core => exact works taken
  | workEvent core => exact works taken
  | workFinish core parsed => exact works taken
  | _ => exact threadStep_appends other running taken

/-- Only the main thread flushes the queue. -/
theorem step_flushes (other : label ≠ .dequeue) (taken : run.step label = some run') :
    if run.Flushes label then run'.m.commandQueue = [] else Appends run.m run'.m := by
  by_cases running : label = .stopDelayOver
  · subst running
    have queue := threadStep_stopDelayOver taken
    show if ¬ run.m.Fastboot then run'.m.commandQueue = [] else Appends run.m run'.m
    by_cases fastboot : run.m.Fastboot
    · rw [if_neg (not_not.mpr fastboot)]
      rw [if_pos fastboot] at queue
      exact .same queue
    · rw [if_pos fastboot]
      rwa [if_neg fastboot] at queue
  · have quiet : ¬ run.Flushes label := by
      cases label <;> first | exact id | exact absurd rfl other | exact absurd rfl running
    rw [if_neg quiet]
    exact step_appends other running taken

/-- What a step does to the command `cmd` behind `ahead` others. -/
inductive PlaceStep (run run' : FsmRun) (label : FsmLabel) (cmd : FsmCommand) (ahead : Nat) : Prop where
  | flushed (flushes : run.Flushes label) (queue : run'.m.commandQueue = [])
      (behind : label = .dequeue → ahead ≠ 0)
  | taken (dequeue : label = .dequeue) (first : ahead = 0)
      (rest : ∃ rest, run.m.commandQueue = cmd :: rest)
  | nearer (quiet : ¬ run.Flushes label) (dequeue : label = .dequeue) (before : Nat)
      (count : ahead = before + 1) (place : run'.m.commandQueue[before]? = some cmd)
  | stays (quiet : ¬ run.Flushes label) (other : label ≠ .dequeue)
      (place : run'.m.commandQueue[ahead]? = some cmd)

theorem queued_step {cmd : FsmCommand} {ahead : Nat}
    (place : run.m.commandQueue[ahead]? = some cmd) (taken : run.step label = some run') :
    PlaceStep run run' label cmd ahead := by
  by_cases dequeue : label = .dequeue
  · subst dequeue
    obtain ⟨_, head, rest, queue, left⟩ := threadStep_dequeue taken
    rw [queue] at place
    cases ahead with
    | zero =>
      obtain rfl := Option.some.inj place
      exact .taken rfl rfl ⟨rest, queue⟩
    | succ before =>
      by_cases flushes : run.Flushes .dequeue
      · rw [if_pos flushes] at left
        exact .flushed flushes left fun _ => Nat.succ_ne_zero before
      · rw [if_neg flushes] at left
        exact .nearer flushes rfl before rfl (by rw [left]; exact place)
  · have left := step_flushes dequeue taken
    by_cases flushes : run.Flushes label
    · rw [if_pos flushes] at left
      exact .flushed flushes left fun here => absurd here dequeue
    · rw [if_neg flushes] at left
      obtain ⟨appended, left⟩ := left
      obtain ⟨below, _⟩ := List.getElem?_eq_some_iff.mp place
      refine .stays flushes dequeue ?_
      rw [left, List.getElem?_append_left below]
      exact place

theorem step_thread (other : label.byThread = false) (taken : run.step label = some run') :
    run'.thread = run.thread := by
  have works (work : run.workStep label = some run') : run'.thread = run.thread :=
    (workStep_queue work).2
  cases label with
  | workStart core => exact works taken
  | workEvent core => exact works taken
  | workFinish core parsed => exact works taken
  | appendCmd cmdId flag =>
    cases taken
    rfl
  | appendEvent event =>
    cases taken
    rfl
  | modeUpdate mode =>
    cases taken
    rfl
  | deviceInt bits =>
    cases taken
    rfl
  | mhccifIsr =>
    cases taken
    rfl
  | _ => cases other

end Steps

section Returning

variable {run run' : FsmRun} {label : FsmLabel} {polls : Nat}

/-- How often `fsm_wait_for_event` looks for an event in the routine of an exception. -/
def FsmThread.retries : FsmThread → Nat
  | .waitRecOk _ => FSM_MD_EX_REC_OK_TIMEOUT_MS / FSM_EVENT_POLL_INTERVAL_MS
  | .waitPass _ => FSM_MD_EX_PASS_TIMEOUT_MS / FSM_EVENT_POLL_INTERVAL_MS
  | _ => 0

/-- A bound on the steps of the main thread before it looks at its queue again, when it has looked
    for the event it waits for `polls` times. -/
def FsmThread.stepsLeft (polls : Nat) : FsmThread → Nat
  | .idle => 0
  | .waitStage _ => 4
  | .linuxStage .. => 3
  | .startNotify .. => 2
  | .waitHandshake .. => 1
  | .stopDelay _ => 1
  | .waitRecOk _ => 2252 + (500 - polls)
  | .waitPass _ => 1 + (2250 - polls)

def pollsAfter (label : FsmLabel) (before after : FsmThread) (polls : Nat) : Nat :=
  if after ≠ before then 0 else if label = .pollEvent then polls + 1 else polls

theorem stepsLeft_bound (thread : FsmThread) (polls : Nat) : thread.stepsLeft polls ≤ 2752 := by
  cases thread <;> dsimp only [FsmThread.stepsLeft] <;> omega

theorem fsmDevStage_thread (cmd : FsmCommand) (timedOut : Bool) (status : BitVec 32) (m : Modem)
    (polls : Nat) : (fsmDevStage cmd timedOut status m).2.stepsLeft polls ≤ 3 := by
  unfold fsmDevStage
  split
  · exact Nat.zero_le 3
  split
  · dsimp only
    split
    · exact Nat.zero_le 3
    split
    · exact Nat.zero_le 3
    split
    · split
      · exact Nat.zero_le 3
      · exact Nat.le_refl 3
    · exact Nat.zero_le 3
  · exact Nat.zero_le 3

theorem pollsAfter_moved {label : FsmLabel} {before after : FsmThread} (moved : after ≠ before) :
    pollsAfter label before after polls = 0 := if_pos moved

theorem passing (cmd : FsmCommand) : FsmThread.waitPass cmd ≠ .waitRecOk cmd := nofun

theorem pollsAfter_again (thread : FsmThread) :
    pollsAfter .pollEvent thread thread polls = polls + 1 := by
  unfold pollsAfter
  rw [if_neg (not_not.mpr rfl), if_pos rfl]

theorem pollEvent_lowers (again : polls < run.thread.retries)
    (taken : run.threadStep .pollEvent = some run') :
    run'.thread.stepsLeft (pollsAfter .pollEvent run.thread run'.thread polls) <
      run.thread.stepsLeft polls := by
  dsimp only [FsmRun.threadStep] at taken
  split at taken
  · rename_i cmd waiting
    rw [waiting] at again
    have few : polls < 500 := again
    have thread := congrArg FsmRun.thread (Option.some.inj taken)
    dsimp only at thread
    rw [waiting, ← thread]
    split
    · rw [pollsAfter_moved (passing cmd)]
      show 1 + (2250 - 0) < 2252 + (500 - polls)
      omega
    · rw [pollsAfter_again]
      show 2252 + (500 - (polls + 1)) < 2252 + (500 - polls)
      omega
  · rename_i cmd waiting
    rw [waiting] at again
    have few : polls < 2250 := again
    split at taken
    · have thread : .idle = run'.thread := congrArg FsmRun.thread (Option.some.inj taken)
      rw [waiting, ← thread]
      show 0 < 1 + (2250 - polls)
      omega
    · have thread := congrArg FsmRun.thread (Option.some.inj taken)
      dsimp only at thread
      rw [← thread, waiting, pollsAfter_again]
      show 1 + (2250 - (polls + 1)) < 1 + (2250 - polls)
      omega
  · cases taken

/-- Every step of a routine brings the main thread nearer to its queue. -/
theorem threadStep_lowers (other : label ≠ .dequeue)
    (again : label = .pollEvent → polls < run.thread.retries)
    (taken : run.threadStep label = some run') :
    run'.thread.stepsLeft (pollsAfter label run.thread run'.thread polls) <
      run.thread.stepsLeft polls := by
  cases label with
  | dequeue => exact absurd rfl other
  | devStage timedOut status =>
    dsimp only [FsmRun.threadStep] at taken
    split at taken
    · rename_i cmd waiting
      have thread : (fsmDevStage cmd timedOut status run.m).2 = run'.thread :=
        congrArg FsmRun.thread (Option.some.inj taken)
      rw [waiting, ← thread]
      exact Nat.lt_succ_of_le (fsmDevStage_thread _ _ _ _ _)
    · cases taken
  | broadcastHs1 =>
    dsimp only [FsmRun.threadStep] at taken
    split at taken
    · rename_i cmd status waiting
      have thread : .startNotify cmd status = run'.thread :=
        congrArg FsmRun.thread (Option.some.inj taken)
      rw [waiting, ← thread]
      exact Nat.lt_succ_self 2
    · cases taken
  | notifyStart =>
    dsimp only [FsmRun.threadStep] at taken
    split at taken
    · rename_i cmd status waiting
      have thread : .waitHandshake cmd status = run'.thread :=
        congrArg FsmRun.thread (Option.some.inj taken)
      rw [waiting, ← thread]
      exact Nat.lt_succ_self 1
    · cases taken
  | handshakeWake =>
    dsimp only [FsmRun.threadStep] at taken
    split at taken
    · rename_i waiting
      have thread : .idle = run'.thread := congrArg FsmRun.thread (Option.some.inj taken)
      rw [waiting, ← thread]
      exact Nat.lt_succ_self 0
    · cases taken
  | pollEvent => exact pollEvent_lowers (again rfl) taken
  | pollGivesUp =>
    dsimp only [FsmRun.threadStep] at taken
    split at taken
    · rename_i cmd waiting
      have thread : .waitPass cmd = run'.thread := congrArg FsmRun.thread (Option.some.inj taken)
      rw [waiting, ← thread, pollsAfter_moved (passing cmd)]
      show 1 + (2250 - 0) < 2252 + (500 - polls)
      omega
    · rename_i waiting
      have thread : .idle = run'.thread := congrArg FsmRun.thread (Option.some.inj taken)
      rw [waiting, ← thread]
      show 0 < 1 + (2250 - polls)
      omega
    · cases taken
  | stopDelayOver =>
    dsimp only [FsmRun.threadStep] at taken
    split at taken
    · rename_i waiting
      have thread : .idle = run'.thread := congrArg FsmRun.thread (Option.some.inj taken)
      rw [waiting, ← thread]
      exact Nat.lt_succ_self 0
    · cases taken
  | _ => cases taken

theorem step_lowers (mine : label.byThread = true) (other : label ≠ .dequeue)
    (again : label = .pollEvent → polls < run.thread.retries)
    (taken : run.step label = some run') :
    run'.thread.stepsLeft (pollsAfter label run.thread run'.thread polls) <
      run.thread.stepsLeft polls := by
  cases label with
  | appendCmd cmdId flag => cases mine
  | appendEvent event => cases mine
  | modeUpdate mode => cases mine
  | deviceInt bits => cases mine
  | mhccifIsr => cases mine
  | workStart core => cases mine
  | workEvent core => cases mine
  | workFinish core parsed => cases mine
  | _ => exact threadStep_lowers other again taken

end Returning

end T7xxModel.Fsm
