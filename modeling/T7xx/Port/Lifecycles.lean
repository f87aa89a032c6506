import T7xx.Port.Handles
import T7xx.Transition.Runs

namespace T7xxModel.Port

open Cldma Fsm Kernel Transition

section Contract

/-- So far every object was handled only while it was there; and if the ports are uninitialised
    now, that stays so and each object that was created has been removed once. -/
def PortHandles.Ends (port down : PortHandles) : Prop :=
  Sound port.calls ∧ Sound down.calls ∧ RemovedOnce down.calls

def LifecyclesEnd (proxy : ProxyHandles) : Prop :=
  ∀ i, (proxy.ports i).Ends ((portProxyUninit proxy).ports i)

/-- `t7xx_port_wwan_init` is going to call `wwan_create_port`. -/
def PortHandles.CreatesOnInit (port : PortHandles) : Prop :=
  port.conf.ops = .wwan ∧ port.conf.portType.atInit = true ∧ port.wwanLog = .null

/-- `t7xx_port_wwan_md_state_notify` is going to call it. -/
def PortHandles.CreatesOnReady (port : PortHandles) : Prop :=
  port.conf.ops = .wwan ∧ port.conf.portType.atInit = false ∧ port.wwanLog = .null

/-- Every `wwan_create_port` of the step succeeds. -/
def WwanCreated (wwanDebugfs : Bool) (proxy : ProxyHandles) : PortLabel → Prop
  | .setCfg cfgId creates =>
    ∀ i, ∀ conf ∈ (portTable wwanDebugfs cfgId)[i]?, conf.debug = false → conf.ops = .wwan →
      conf.portType.atInit = true → creates i = true
  | .mdStatusNotify state _ creates =>
    state = .ready → ∀ i < proxy.portCount, (proxy.ports i).CreatesOnReady → creates i = true
  | .debugPortsShow shown creates =>
    shown = true → ∀ i < proxy.portCount, (proxy.ports i).conf.debug = true →
      (proxy.ports i).CreatesOnInit → creates i = true
  | _ => True

/-- What the operations of a port create. -/
def portObj : PortOps → PortObj
  | .ctl => .thread
  | .wwan => .wwanPort
  | .trace => .relaych

def PortHandles.handles (port : PortHandles) : PortObj → Handle PortObj
  | .thread => port.thread
  | .wwanPort => if port.conf.ops = .wwan then port.wwanLog else .null
  | .relaych => if port.conf.ops = .trace then port.wwanLog else .null

/-- A port, `present` in the configuration or not: its handles point to its objects. -/
structure PortHandles.Fits (port : PortHandles) (present : Prop) : Prop where
  tracked : Tracked port.calls port.handles
  thread : port.thread = .null ∨ present ∧ port.conf.ops = .ctl ∧ port.thread ≠ .err
  wwanLog : port.wwanLog = .null ∨ present ∧ port.conf.ops ≠ .ctl
  err : port.wwanLog = .err → port.conf.ops = .wwan
  debug : port.conf.debug = true → port.conf.ops = .wwan
  usage : port.usageCnt = if port.startCount = 0 then 0 else 1
  started : port.startCount ≠ 0 → port.conf.ops = .wwan ∧ port.wwanLog ≠ .null ∧ port.wwanLog ≠ .err

end Contract

section Ports

variable {port next : PortHandles} {present : Prop} {creates : Bool}

theorem empty_null : (Handle.null : Handle PortObj).Empty := nofun

theorem empty_err : (Handle.err : Handle PortObj).Empty := nofun

theorem PortHandles.Fits.mono {other : Prop} (fits : port.Fits present) (more : present → other) :
    port.Fits other :=
  ⟨fits.tracked, fits.thread.imp_right fun held => ⟨more held.1, held.2⟩,
    fits.wwanLog.imp_right fun held => ⟨more held.1, held.2⟩, fits.err, fits.debug, fits.usage,
    fits.started⟩

theorem PortHandles.Fits.absent (fits : port.Fits present) (thread : port.thread = .null)
    (wwanLog : port.wwanLog = .null) : port.Fits False :=
  ⟨fits.tracked, .inl thread, .inl wwanLog, fits.err, fits.debug, fits.usage, fits.started⟩

theorem PortHandles.Fits.down (fits : port.Fits False) :
    port.thread = .null ∧ port.wwanLog = .null :=
  ⟨fits.thread.resolve_right fun held => held.1, fits.wwanLog.resolve_right fun held => held.1⟩

theorem PortHandles.Fits.down_good (fits : port.Fits False) : port.wwanLog ≠ .err := by
  rw [fits.down.2]
  nofun

theorem PortHandles.Fits.thread_null (fits : port.Fits present) (other : port.conf.ops ≠ .ctl) :
    port.thread = .null :=
  fits.thread.resolve_right fun held => other held.2.1

theorem PortHandles.Fits.wwanLog_null (fits : port.Fits present) (ctl : port.conf.ops = .ctl) :
    port.wwanLog = .null :=
  fits.wwanLog.resolve_right fun held => held.2 ctl

theorem PortHandles.Fits.idle (fits : port.Fits present) (null : port.wwanLog = .null) :
    port.startCount = 0 ∧ port.usageCnt = 0 := by
  have idle : port.startCount = 0 := by
    by_contra started
    exact (fits.started started).2.1 null
  have usage := fits.usage
  rw [if_pos idle] at usage
  exact ⟨idle, usage⟩

/-- The union of a port points to an object of the kind that its operations create. -/
theorem PortHandles.Fits.obj (fits : port.Fits present) (null : port.wwanLog ≠ .null)
    (good : port.wwanLog ≠ .err) : ∃ id, port.wwanLog = .obj (portObj port.conf.ops) id := by
  have here := (fits.wwanLog.resolve_left null).2
  have holds := fits.tracked.holds (portObj port.conf.ops)
  cases ops : port.conf.ops with
  | ctl => exact (here ops).elim
  | wwan =>
    rw [ops] at holds
    simp only [PortHandles.handles, portObj, ops, if_true] at holds
    exact (holds.cases.resolve_left null).resolve_left good
  | trace =>
    rw [ops] at holds
    simp only [PortHandles.handles, portObj, ops, if_true] at holds
    exact (holds.cases.resolve_left null).resolve_left good

theorem PortHandles.Fits.thread_obj (fits : port.Fits present) (null : port.thread ≠ .null) :
    ∃ id, port.thread = .obj .thread id := by
  have good := (fits.thread.resolve_left null).2.2
  exact ((fits.tracked.holds .thread).cases.resolve_left null).resolve_left good

theorem handles_thread (conf : next.conf = port.conf) (same : next.wwanLog = port.wwanLog) :
    next.handles = Function.update port.handles .thread next.thread := by
  funext kind
  cases kind with
  | thread => rw [Function.update_self]; rfl
  | wwanPort => simp [PortHandles.handles, conf, same]
  | relaych => simp [PortHandles.handles, conf, same]

theorem handles_wwanLog (conf : next.conf = port.conf) (other : port.conf.ops ≠ .ctl)
    (same : next.thread = port.thread) :
    next.handles = Function.update port.handles (portObj port.conf.ops) next.wwanLog := by
  funext kind
  cases ops : port.conf.ops with
  | ctl => exact (other ops).elim
  | wwan => cases kind <;> simp [PortHandles.handles, portObj, conf, ops, same]
  | trace => cases kind <;> simp [PortHandles.handles, portObj, conf, ops, same]

theorem handles_at (other : port.conf.ops ≠ .ctl) :
    port.handles (portObj port.conf.ops) = port.wwanLog := by
  cases ops : port.conf.ops with
  | ctl => exact (other ops).elim
  | wwan => simp [PortHandles.handles, portObj, ops]
  | trace => simp [PortHandles.handles, portObj, ops]

theorem PortHandles.Fits.clear (fits : port.Fits present) (good : port.wwanLog ≠ .err)
    (held : port.wwanLog ≠ .null) (conf : next.conf = port.conf)
    (thread : next.thread = port.thread) (gone : next.wwanLog = .null)
    (idle : next.startCount = 0 ∧ next.usageCnt = 0)
    (calls : next.calls = .remove (portObj port.conf.ops) port.wwanLog :: port.calls) :
    next.Fits False := by
  have other := (fits.wwanLog.resolve_left held).2
  obtain ⟨id, obj⟩ := fits.obj held good
  refine ⟨?_, .inl ?_, .inl gone, ?_, ?_, ?_, fun started => (started idle.1).elim⟩
  · rw [calls, obj]
    refine fits.tracked.remove ((handles_at other).trans obj) ?_
    rw [handles_wwanLog conf other thread, gone]
  · rw [thread]
    exact fits.thread_null other
  · rw [gone]
    nofun
  · rw [conf]
    exact fits.debug
  · rw [idle.1, if_pos rfl]
    exact idle.2

theorem PortHandles.Fits.uninit (fits : port.Fits present) (good : port.wwanLog ≠ .err) :
    port.uninit.Fits False := by
  unfold PortHandles.uninit
  cases ops : port.conf.ops with
  | ctl =>
    dsimp only
    unfold portCtlUninit
    have null := fits.wwanLog_null ops
    split
    · rename_i none
      exact fits.absent none null
    · rename_i held
      obtain ⟨id, thread⟩ := fits.thread_obj held
      refine ⟨?_, .inl rfl, .inl null, fits.err, fits.debug, fits.usage, fits.started⟩
      rw [thread]
      exact fits.tracked.remove thread (handles_thread rfl rfl)
  | wwan =>
    dsimp only
    unfold portWwanUninit
    have thread := fits.thread_null (by rw [ops]; nofun)
    split
    · rename_i none
      exact fits.absent thread none
    · rename_i held
      refine fits.clear good held rfl rfl rfl ⟨rfl, ?_⟩ (by rw [ops]; rfl)
      dsimp only
      have usage := fits.usage
      split
      · rename_i closed
        rw [usage, if_pos closed]
      · rename_i opened
        rw [usage, if_neg opened]
        rfl
  | trace =>
    dsimp only
    unfold tracePortUninit
    have thread := fits.thread_null (by rw [ops]; nofun)
    have closed : port.startCount = 0 := by
      by_contra started
      have wwan := (fits.started started).1
      rw [ops] at wwan
      cases wwan
    split
    · rename_i none
      exact fits.absent thread none
    · rename_i held
      refine fits.clear good held rfl rfl rfl ⟨closed, ?_⟩ (by rw [ops]; rfl)
      have usage := fits.usage
      rw [if_pos closed] at usage
      exact usage

/-- The union gets the object that the port's own operation creates. -/
theorem PortHandles.Fits.fill (fits : port.Fits present) (here : present)
    (other : port.conf.ops ≠ .ctl) (none : port.wwanLog = .null) (conf : next.conf = port.conf)
    (thread : next.thread = port.thread)
    (new : next.wwanLog = .obj (portObj port.conf.ops) port.calls.length)
    (idle : next.startCount = 0 ∧ next.usageCnt = 0)
    (calls : next.calls = .create (portObj port.conf.ops) port.calls.length :: port.calls) :
    next.Fits present := by
  refine ⟨?_, .inl ?_, .inr ⟨here, ?_⟩, ?_, ?_, ?_, fun started => (started idle.1).elim⟩
  · rw [calls]
    refine fits.tracked.create ?_ ?_
    · rw [handles_at other, none]
      exact empty_null
    · rw [handles_wwanLog conf other thread, new]
  · rw [thread]
    exact fits.thread_null other
  · rw [conf]
    exact other
  · rw [new]
    nofun
  · rw [conf]
    exact fits.debug
  · rw [idle.1, if_pos rfl]
    exact idle.2

/-- A failed `wwan_create_port` leaves its error pointer. -/
theorem portWwanCreate_fits (fits : port.Fits present) (here : present)
    (wwan : port.conf.ops = .wwan) (good : port.wwanLog ≠ .err) :
    (portWwanCreate creates port).Fits present ∧
      ((portWwanCreate creates port).wwanLog ≠ .err ↔ (port.wwanLog = .null → creates = true)) := by
  have other : port.conf.ops ≠ .ctl := by rw [wwan]; nofun
  unfold portWwanCreate
  split
  · rename_i held
    exact ⟨fits, iff_of_true good fun none => (held none).elim⟩
  rename_i none
  have none := Decidable.not_not.mp none
  have idle := fits.idle none
  split
  · rename_i created
    refine ⟨fits.fill here other none rfl rfl (by rw [wwan]; rfl) ⟨rfl, idle.2⟩ (by rw [wwan]; rfl),
      iff_of_true nofun fun _ => created⟩
  · rename_i failed
    refine ⟨⟨?_, fits.thread, .inr ⟨here, other⟩, fun _ => wwan, fits.debug, fits.usage,
      fun started => (started idle.1).elim⟩, iff_of_false (fun bad => bad rfl) fun all => ?_⟩
    · have moved := @handles_wwanLog port { port with wwanLog := .err } rfl other rfl
      refine fits.tracked.empty fun kind => ?_
      rw [moved]
      by_cases here : kind = portObj port.conf.ops
      · rw [here]
        refine .inr ⟨?_, ?_⟩
        · rw [Function.update_self]
          exact empty_err
        · rw [handles_at other, none]
          exact empty_null
      · rw [Function.update_of_ne here]
        exact .inl rfl
    · exact failed (all none)

theorem PortHandles.Fits.init (fits : port.Fits present) (here : present)
    (wwan : port.conf.ops = .wwan) (good : port.wwanLog ≠ .err) :
    (port.init creates).Fits present ∧
      ((port.init creates).wwanLog ≠ .err ↔ (port.CreatesOnInit → creates = true)) := by
  unfold PortHandles.init PortHandles.CreatesOnInit
  rw [wwan]
  dsimp only
  unfold portWwanInit
  split
  · rename_i early
    obtain ⟨kept, exact_err⟩ := @portWwanCreate_fits _ _ creates fits here wwan good
    refine ⟨kept, exact_err.trans ?_⟩
    simp [early]
  · rename_i late
    exact ⟨fits, iff_of_true good fun asked => (late asked.2.1).elim⟩

theorem initPort_fits (fits : port.Fits False) :
    (initPort creates port).Fits True ∧ ((initPort creates port).wwanLog ≠ .err ↔
      (port.conf.debug = false → port.CreatesOnInit → creates = true)) := by
  obtain ⟨thread, none⟩ := fits.down
  have idle := fits.idle none
  have fresh : PortHandles.Fits { port with usageCnt := 0, chanEnable := false } True := by
    refine ⟨fits.tracked, .inl thread, .inl none, fits.err, fits.debug, ?_, fits.started⟩
    dsimp only
    rw [idle.1, if_pos rfl]
  have good := fits.down_good
  unfold initPort
  dsimp only
  split
  · rename_i debug
    refine ⟨fresh, iff_of_true good fun shown => ?_⟩
    rw [debug] at shown
    cases shown
  rename_i shown
  have shown : port.conf.debug = false := by simpa using shown
  have asked : (port.conf.debug = false → port.CreatesOnInit → creates = true) ↔
      (port.CreatesOnInit → creates = true) := by simp [shown]
  rw [asked]
  cases ops : port.conf.ops with
  | ctl =>
    have unasked : port.CreatesOnInit → creates = true := by
      rintro ⟨wwan, _⟩
      rw [ops] at wwan
      cases wwan
    unfold PortHandles.init
    rw [ops]
    dsimp only
    unfold portCtlInit
    split
    · refine ⟨⟨?_, .inr ⟨trivial, ops, nofun⟩, .inl none, fresh.err, fresh.debug, fresh.usage,
        fresh.started⟩, iff_of_true good unasked⟩
      refine fits.tracked.create ?_ (handles_thread rfl rfl)
      show port.thread.Empty
      rw [thread]
      exact empty_null
    · refine ⟨⟨?_, .inl rfl, .inl none, fresh.err, fresh.debug, fresh.usage, fresh.started⟩,
        iff_of_true good unasked⟩
      have moved := @handles_thread port
        { port with usageCnt := 0, chanEnable := false, thread := .null } rfl rfl
      refine fits.tracked.empty fun kind => .inl ?_
      rw [moved]
      show Function.update port.handles .thread .null kind = port.handles kind
      rw [← thread]
      exact congrFun (Function.update_eq_self PortObj.thread port.handles) kind
  | wwan => exact fresh.init trivial ops good
  | trace =>
    unfold PortHandles.init
    rw [ops]
    refine ⟨fresh, iff_of_true good ?_⟩
    rintro ⟨wwan, _⟩
    rw [ops] at wwan
    cases wwan

theorem PortHandles.Fits.mdStateNotify {state : MdState} {debugfs : Bool}
    (fits : port.Fits present) (here : present) (good : port.wwanLog ≠ .err) :
    (port.mdStateNotify state debugfs creates).Fits present ∧
      ((port.mdStateNotify state debugfs creates).wwanLog ≠ .err ↔
        (state = .ready → port.CreatesOnReady → creates = true)) := by
  unfold PortHandles.mdStateNotify
  have unasked (other : port.conf.ops ≠ .wwan) :
      state = .ready → port.CreatesOnReady → creates = true :=
    fun _ asked => (other asked.1).elim
  cases ops : port.conf.ops with
  | ctl => exact ⟨fits, iff_of_true good (unasked (by rw [ops]; nofun))⟩
  | wwan =>
    dsimp only
    unfold portWwanMdStateNotify PortHandles.CreatesOnReady
    split
    · rename_i early
      refine ⟨fits, iff_of_true good ?_⟩
      rintro _ ⟨_, late, _⟩
      rw [early] at late
      cases late
    rename_i late
    split
    · rename_i other
      exact ⟨fits, iff_of_true good fun ready => (other ready).elim⟩
    rename_i ready
    obtain ⟨kept, exact_err⟩ := @portWwanCreate_fits _ _ creates fits here ops good
    refine ⟨kept, exact_err.trans ?_⟩
    simp [late, Decidable.not_not.mp ready, ops]
  | trace =>
    have other : port.conf.ops ≠ .ctl := by rw [ops]; nofun
    have calm := unasked (by rw [ops]; nofun)
    dsimp only
    unfold portTraceMdStateNotify
    split
    · exact ⟨fits, iff_of_true good calm⟩
    rename_i asked
    have none : port.wwanLog = .null := by
      by_contra held
      exact asked (.inr held)
    split
    · exact ⟨fits, iff_of_true good calm⟩
    split
    · exact ⟨fits.fill here other none rfl rfl (by rw [ops]; rfl) (fits.idle none)
        (by rw [ops]; rfl), iff_of_true nofun calm⟩
    · exact ⟨fits, iff_of_true good calm⟩

theorem showPort_fits {shown : Bool} (fits : port.Fits present) (here : present)
    (good : port.wwanLog ≠ .err) :
    (showPort shown creates port).Fits present ∧ ((showPort shown creates port).wwanLog ≠ .err ↔
      (shown = true → port.conf.debug = true → port.CreatesOnInit → creates = true)) := by
  unfold showPort
  split
  · rename_i plain
    refine ⟨fits, iff_of_true good fun _ debug => ?_⟩
    rw [plain] at debug
    cases debug
  rename_i debug
  have debug : port.conf.debug = true := by simpa using debug
  split
  · rename_i visible
    obtain ⟨kept, exact_err⟩ := @PortHandles.Fits.init _ _ creates fits here (fits.debug debug) good
    refine ⟨kept, exact_err.trans ?_⟩
    simp [visible, debug]
  · rename_i hidden
    have down := fits.uninit good
    exact ⟨down.mono False.elim, iff_of_true down.down_good fun visible => (hidden visible).elim⟩

/-- A port that is open, or has a relay channel, hands what it receives to an object that is there. -/
theorem PortHandles.Fits.recvSkb (fits : port.Fits present) (good : port.wwanLog ≠ .err) :
    port.recvSkb.Fits present ∧ port.recvSkb.wwanLog = port.wwanLog := by
  have used (ops : port.conf.ops ≠ .ctl) (held : port.wwanLog ≠ .null) :
      PortHandles.Fits { port with
        calls := .use (portObj port.conf.ops) port.wwanLog :: port.calls } present := by
    obtain ⟨id, obj⟩ := fits.obj held good
    refine ⟨?_, fits.thread, fits.wwanLog, fits.err, fits.debug, fits.usage, fits.started⟩
    have kept := fits.tracked.use ((handles_at ops).trans obj)
    rw [← obj] at kept
    exact kept
  unfold PortHandles.recvSkb
  cases ops : port.conf.ops with
  | ctl => exact ⟨fits, rfl⟩
  | wwan =>
    dsimp only
    unfold portWwanRecv
    split
    · exact ⟨fits, rfl⟩
    rename_i opened
    have started : port.startCount ≠ 0 := by
      intro closed
      have usage := fits.usage
      rw [if_pos closed] at usage
      exact opened (.inl usage)
    have kept := used (by rw [ops]; nofun) (fits.started started).2.1
    rw [ops] at kept
    exact ⟨kept, rfl⟩
  | trace =>
    dsimp only
    unfold tracePortRecv
    split
    · exact ⟨fits, rfl⟩
    rename_i held
    have kept := used (by rw [ops]; nofun) held
    rw [ops] at kept
    exact ⟨kept, rfl⟩

theorem PortHandles.Fits.setChl (fits : port.Fits present) (enFlag : Bool) :
    (port.setChl enFlag).Fits present ∧ (port.setChl enFlag).wwanLog = port.wwanLog := by
  unfold PortHandles.setChl
  split
  · exact ⟨⟨fits.tracked, fits.thread, fits.wwanLog, fits.err, fits.debug, fits.usage,
      fits.started⟩, rfl⟩
  · exact ⟨fits, rfl⟩

theorem PortHandles.Fits.opened (fits : port.Fits present)
    (taken : wwanPortOpStart port = some next) :
    next.Fits present ∧ next.wwanLog = port.wwanLog := by
  unfold wwanPortOpStart at taken
  split at taken
  case h_2 => cases taken
  rename_i id obj
  have held : port.wwanLog ≠ .null := by rw [obj]; nofun
  have good : port.wwanLog ≠ .err := by rw [obj]; nofun
  have wwan : port.conf.ops = .wwan := by
    obtain ⟨other, same⟩ := fits.obj held good
    rw [obj] at same
    cases ops : port.conf.ops with
    | ctl => exact ((fits.wwanLog.resolve_left held).2 ops).elim
    | wwan => rfl
    | trace =>
      rw [ops] at same
      cases same
  have usage := fits.usage
  split at taken
  · rename_i started
    cases taken
    rw [if_neg started] at usage
    refine ⟨⟨fits.tracked, fits.thread, fits.wwanLog, fits.err, fits.debug, ?_,
      fun _ => ⟨wwan, held, good⟩⟩, rfl⟩
    rw [if_neg (Nat.succ_ne_zero _)]
    exact usage
  · split at taken
    · cases taken
    rename_i idle
    cases taken
    refine ⟨⟨fits.tracked, fits.thread, fits.wwanLog, fits.err, fits.debug, ?_,
      fun _ => ⟨wwan, held, good⟩⟩, rfl⟩
    dsimp only
    rw [if_neg Nat.one_ne_zero, Decidable.not_not.mp idle]
    rfl

theorem PortHandles.Fits.closed (fits : port.Fits present)
    (taken : wwanPortOpStop port = some next) :
    next.Fits present ∧ next.wwanLog = port.wwanLog := by
  have usage := fits.usage
  unfold wwanPortOpStop at taken
  split at taken
  · cases taken
  · rename_i once
    cases taken
    rw [once, if_neg Nat.one_ne_zero] at usage
    refine ⟨⟨fits.tracked, fits.thread, fits.wwanLog, fits.err, fits.debug, ?_,
      fun started => (started rfl).elim⟩, rfl⟩
    dsimp only
    rw [usage]
    rfl
  · rename_i count more
    cases taken
    rw [more, if_neg (Nat.succ_ne_zero _)] at usage
    refine ⟨⟨fits.tracked, fits.thread, fits.wwanLog, fits.err, fits.debug, ?_,
      fun _ => fits.started (by rw [more]; exact Nat.succ_ne_zero _)⟩, rfl⟩
    rw [if_neg (Nat.succ_ne_zero _)]
    exact usage

theorem PortHandles.Fits.removedOnce (fits : port.Fits False) : RemovedOnce port.calls := by
  obtain ⟨thread, none⟩ := fits.down
  refine fits.tracked.removedOnce fun kind => ?_
  cases kind with
  | thread =>
    show port.thread.Empty
    rw [thread]
    exact empty_null
  | wwanPort => simp [PortHandles.handles, none, empty_null]
  | relaych => simp [PortHandles.handles, none, empty_null]

/-- Only an error pointer keeps the objects of a port from being removed once. -/
theorem PortHandles.Fits.ends_iff (fits : port.Fits present) :
    port.Ends port.uninit ↔ port.wwanLog ≠ .err := by
  constructor
  · rintro ⟨_, sound, _⟩ bad
    unfold PortHandles.uninit at sound
    rw [fits.err bad] at sound
    dsimp only at sound
    unfold portWwanUninit at sound
    rw [bad, if_neg nofun] at sound
    obtain ⟨⟨id, same, _⟩, _⟩ := sound
    cases same
  · intro good
    have down := fits.uninit good
    exact ⟨fits.tracked.sound, down.tracked.sound, down.removedOnce⟩

end Ports

section Proxies

variable {s t : ProxyHandles} {wwanDebugfs : Bool}

def HandlesFit (s : ProxyHandles) : Prop := ∀ i, (s.ports i).Fits (i < s.portCount)

def NoErrPtr (s : ProxyHandles) : Prop := ∀ i, (s.ports i).wwanLog ≠ .err

theorem HandlesFit.lifecyclesEnd_iff (fit : HandlesFit s) : LifecyclesEnd s ↔ NoErrPtr s := by
  refine forall_congr' fun i => ?_
  unfold portProxyUninit ProxyHandles.forEach
  dsimp only
  split
  · exact (fit i).ends_iff
  · rename_i absent
    have down := (fit i).mono absent
    exact iff_of_true ⟨down.tracked.sound, down.tracked.sound, down.removedOnce⟩ down.down_good

theorem HandlesFit.forEach {op : Nat → PortHandles → PortHandles} {asked : Nat → Prop}
    (fit : HandlesFit s) (good : NoErrPtr s)
    (step : ∀ i < s.portCount, (s.ports i).Fits True → (op i (s.ports i)).Fits True ∧
      ((op i (s.ports i)).wwanLog ≠ .err ↔ asked i)) :
    HandlesFit (s.forEach op) ∧ (NoErrPtr (s.forEach op) ↔ ∀ i < s.portCount, asked i) := by
  have each (i : Nat) : ((s.forEach op).ports i).Fits (i < s.portCount) ∧
      (((s.forEach op).ports i).wwanLog ≠ .err ↔ (i < s.portCount → asked i)) := by
    unfold ProxyHandles.forEach
    dsimp only
    split
    · rename_i here
      obtain ⟨kept, exact_err⟩ := step i here ((fit i).mono fun _ => trivial)
      exact ⟨kept.mono fun _ => here, exact_err.trans (by simp [here])⟩
    · rename_i absent
      exact ⟨fit i, iff_of_true (good i) fun here => (absent here).elim⟩
  exact ⟨fun i => (each i).1, forall_congr' fun i => (each i).2⟩

theorem HandlesFit.setPort {i : Nat} {port : PortHandles} (fit : HandlesFit s) (good : NoErrPtr s)
    (kept : port.Fits (i < s.portCount) ∧ port.wwanLog = (s.ports i).wwanLog) :
    HandlesFit (s.setPort i port) ∧ (NoErrPtr (s.setPort i port) ↔ True) := by
  have each (j : Nat) : ((s.setPort i port).ports j).Fits (j < s.portCount) ∧
      ((s.setPort i port).ports j).wwanLog ≠ .err := by
    unfold ProxyHandles.setPort
    dsimp only
    by_cases here : j = i
    · rw [here, Function.update_self, kept.2]
      exact ⟨kept.1, good i⟩
    · rw [Function.update_of_ne here]
      exact ⟨fit j, good j⟩
  exact ⟨fun j => (each j).1, iff_of_true (fun j => (each j).2) trivial⟩

theorem HandlesFit.uninit (fit : HandlesFit s) (good : NoErrPtr s) (i : Nat) :
    ((portProxyUninit s).ports i).Fits False := by
  unfold portProxyUninit ProxyHandles.forEach
  dsimp only
  split
  · exact (fit i).uninit (good i)
  · rename_i absent
    exact (fit i).mono absent

theorem portTable_debug (cfgId : PortCfgId) :
    ∀ conf ∈ portTable wwanDebugfs cfgId, conf.debug = true → conf.ops = .wwan := by
  cases wwanDebugfs
  · cases cfgId <;> decide
  · cases cfgId <;> decide

theorem PortHandles.Fits.configure {port : PortHandles} (fits : port.Fits False)
    {conf : Option HandleConf} (debug : ∀ entry ∈ conf, entry.debug = true → entry.ops = .wwan) :
    (port.configure conf).Fits False := by
  unfold PortHandles.configure
  split
  · exact fits
  rename_i entry
  obtain ⟨thread, none⟩ := fits.down
  have idle := fits.idle none
  refine ⟨fits.tracked.empty fun kind => .inl ?_, .inl thread, .inl none, fun bad => ?_,
    debug entry rfl, fits.usage, fun started => (started idle.1).elim⟩
  · cases kind <;> simp [PortHandles.handles, none]
  · rw [none] at bad
    cases bad

/-- A new configuration starts from ports that hold nothing. -/
theorem setCfg_fits {cfgId : PortCfgId} {creates : Nat → Bool} (fit : HandlesFit s)
    (good : NoErrPtr s) :
    HandlesFit (portProxySetCfg wwanDebugfs cfgId creates s) ∧
      (NoErrPtr (portProxySetCfg wwanDebugfs cfgId creates s) ↔
        WwanCreated wwanDebugfs s (.setCfg cfgId creates)) := by
  have debug := @portTable_debug wwanDebugfs cfgId
  unfold portProxySetCfg WwanCreated
  dsimp only
  generalize portTable wwanDebugfs cfgId = table at debug ⊢
  have down (i : Nat) : (((portProxyUninit s).ports i).configure table[i]?).Fits False := by
    refine (fit.uninit good i).configure fun conf member => ?_
    exact debug conf (List.mem_of_getElem? member)
  have null (i : Nat) : ((portProxyUninit s).ports i).wwanLog = .null :=
    (fit.uninit good i).down.2
  obtain ⟨kept, exact_err⟩ := @HandlesFit.forEach
    ⟨fun i => ((portProxyUninit s).ports i).configure table[i]?, table.length⟩
    (fun i port => initPort (creates i) port) _
    (fun i => (down i).mono False.elim) (fun i => (down i).down_good)
    fun i _ _ => initPort_fits (down i)
  refine ⟨kept, exact_err.trans (forall_congr' fun i => ?_)⟩
  dsimp only
  by_cases here : i < table.length
  · simp [here, PortHandles.CreatesOnInit, PortHandles.configure, null i]
  · simp [here]

theorem portStep_fits (s : ProxyHandles) (label : PortLabel) (t : ProxyHandles)
    (fit : HandlesFit s) (good : NoErrPtr s) (taken : portStep wwanDebugfs s label = some t) :
    HandlesFit t ∧ (NoErrPtr t ↔ WwanCreated wwanDebugfs s label) := by
  cases label with
  | setCfg cfgId creates =>
    cases taken
    exact setCfg_fits fit good
  | mdStatusNotify state debugfs creates =>
    cases taken
    obtain ⟨kept, exact_err⟩ := fit.forEach good fun i _ fits =>
      @PortHandles.Fits.mdStateNotify _ _ (creates i) state (debugfs i) fits trivial (good i)
    refine ⟨kept, exact_err.trans ?_⟩
    constructor
    · exact fun all ready i here => all i here ready
    · exact fun all i here ready => all ready i here
  | debugPortsShow shown creates =>
    cases taken
    obtain ⟨kept, exact_err⟩ := fit.forEach good fun i _ fits =>
      @showPort_fits _ _ (creates i) shown fits trivial (good i)
    refine ⟨kept, exact_err.trans ?_⟩
    constructor
    · exact fun all visible i here => all i here visible
    · exact fun all i here visible => all visible i here
  | chlEnableDisable ch enFlag =>
    cases taken
    unfold portProxyChlEnableDisable
    split
    · exact ⟨fit, iff_of_true good trivial⟩
    · rename_i i _
      exact fit.setPort good ((fit i).setChl enFlag)
  | uninit =>
    cases taken
    have down := fit.uninit good
    exact ⟨fun i => (down i).mono False.elim,
      iff_of_true (fun i => (down i).down_good) trivial⟩
  | recvSkb i =>
    unfold portStep at taken
    dsimp only at taken
    split at taken
    · cases taken
      exact fit.setPort good ((fit i).recvSkb (good i))
    · cases taken
  | wwanStart i =>
    obtain ⟨port, opened, rfl⟩ := Option.map_eq_some_iff.mp taken
    exact fit.setPort good ((fit i).opened opened)
  | wwanStop i =>
    obtain ⟨port, closed, rfl⟩ := Option.map_eq_some_iff.mp taken
    exact fit.setPort good ((fit i).closed closed)

/-- Threads, WWAN ports and relay channels are handled only while they are there and removed once,
    as long as no `wwan_create_port` fails. -/
theorem lifecycles_end_iff (wwanDebugfs : Bool) (labels : List PortLabel) :
    Visits LifecyclesEnd (portStep wwanDebugfs) proxyAlloc labels ↔
      Obeys (WwanCreated wwanDebugfs) (portStep wwanDebugfs) proxyAlloc labels := by
  have initial : HandlesFit proxyAlloc := by
    intro i
    refine ⟨?_, .inl rfl, .inl rfl, nofun, nofun, rfl, fun started => (started rfl).elim⟩
    refine tracked_nil.empty fun kind => .inl ?_
    cases kind <;> rfl
  refine visits_iff_obeys HandlesFit (fun s label t fit ends taken => ?_)
    (fun s label t fit ends taken => ?_) initial (initial.lifecyclesEnd_iff.mpr fun _ => nofun)
  · exact (portStep_fits s label t fit (fit.lifecyclesEnd_iff.mp ends) taken).1
  · obtain ⟨kept, exact_err⟩ := portStep_fits s label t fit (fit.lifecyclesEnd_iff.mp ends) taken
    exact kept.lifecyclesEnd_iff.trans exact_err

/-- The WWAN port of AT cannot be created when the MD gets ready, and the ports are uninitialised. -/
def failedCreate : List PortLabel :=
  [.setCfg .normal fun _ => true, .mdStatusNotify .ready (fun _ => true) fun i => i ≠ 0, .uninit]

theorem error_pointer_removed :
    ¬ ∀ (wwanDebugfs : Bool) (labels : List PortLabel),
      Visits LifecyclesEnd (portStep wwanDebugfs) proxyAlloc labels := by
  intro always
  obtain ⟨t, run, calls⟩ : ∃ t, execute (portStep true) proxyAlloc failedCreate = some t ∧
      (t.ports 0).calls = [.remove .wwanPort .err] := ⟨_, rfl, rfl⟩
  have sound := ((always true failedCreate).finish run 0).1
  rw [calls] at sound
  obtain ⟨⟨id, same, _⟩, _⟩ := sound
  cases same

end Proxies

end T7xxModel.Port
