import T7xx.Fsm.Handshake
import T7xx.Port.Lifecycles
import T7xx.Port.SeqNumbers

namespace T7xxModel.Port

open Cldma Fsm Pci Transition

/-- The state machine with the ports and the `pkt_size` of the TX rings. `switches` are the calls of
    `t7xx_cldma_switch_cfg`, and `mtus` what `t7xx_get_port_mtu` returned to `t7xx_port_wwan_create` for
    the ports that it registered. -/
structure MtuRun where
  run : FsmRun
  switches : List Core
  pktSize : Core → Nat → Nat
  cfgId : PortCfgId
  proxy : ProxyHandles
  mtus : List Nat

/-- A step of the state machine or of a handshake work, or a turn of the loop of
    `t7xx_proxy_debug_ports_show`. `creates` and `debugfs` answer the calls made for the ports. -/
inductive MtuLabel where
  | fsm (label : FsmLabel) (debugfs creates : Nat → Bool)
  | showPort (i : Nat) (shown creates : Bool)

section Tables

def portTxqs (wwanDebugfs : Bool) : List PortTxConf :=
  [⟨PORT_CH_UART2_TX, 5, 0xff⟩, ⟨PORT_CH_MBIM_TX, 2, 0⟩] ++
    (if wwanDebugfs then [⟨PORT_CH_MD_LOG_TX, 7, 7⟩] else []) ++
    [⟨PORT_CH_CONTROL_TX, 0, 0⟩, ⟨PORT_CH_AP_CONTROL_TX, 0, 0⟩, ⟨PORT_CH_AP_ADB_TX, 3, 0⟩, ⟨PORT_CH_MIPC_TX, 2, 0⟩]

def earlyPortTxqs : List PortTxConf := [⟨PORT_CH_UNIMPORTANT, CLDMA_Q_IDX_DUMP, CLDMA_Q_IDX_DUMP⟩]

def txqTable (wwanDebugfs : Bool) (cfgId : PortCfgId) : List PortTxConf :=
  if cfgId = .early then earlyPortTxqs else portTxqs wwanDebugfs

theorem txqTable_txCh (wwanDebugfs : Bool) (cfgId : PortCfgId) :
    (txqTable wwanDebugfs cfgId).map PortTxConf.txCh = (portTable wwanDebugfs cfgId).map HandleConf.txCh := by
  cases wwanDebugfs <;> cases cfgId <;> rfl

def pathCore : CldmaId → Core
  | .md => .md
  | .ap => .ap

end Tables

section Steps

/-- `caps.frag_len` of `t7xx_port_wwan_create`. -/
def fragLen (mtu : Nat) : BitVec 32 := BitVec.ofNat 32 mtu - BitVec.ofNat 32 ccciHeaderSize

/-- What `t7xx_cldma_adjust_config` sets for a TX ring. -/
def adjustTxConfig (cfgId : CldmaCfg) (qno : Nat) : Nat :=
  if cfgId = .dedicatedQ ∧ qno = CLDMA_Q_IDX_DUMP then CLDMA_DEDICATED_Q_BUFF_SZ else CLDMA_SHARED_Q_BUFF_SZ

instance (port : PortHandles) : Decidable port.CreatesOnInit :=
  inferInstanceAs (Decidable (_ ∧ _ ∧ port.wwanLog = .null))

instance (port : PortHandles) : Decidable port.CreatesOnReady :=
  inferInstanceAs (Decidable (_ ∧ _ ∧ port.wwanLog = .null))

def configuredPorts (wwanDebugfs : Bool) (cfgId : PortCfgId) (proxy : ProxyHandles) : ProxyHandles where
  ports := fun i => ((portProxyUninit proxy).ports i).configure (portTable wwanDebugfs cfgId)[i]?
  portCount := (portTable wwanDebugfs cfgId).length

theorem portProxySetCfg_eq (wwanDebugfs : Bool) (cfgId : PortCfgId) (creates : Nat → Bool) (proxy : ProxyHandles) :
    portProxySetCfg wwanDebugfs cfgId creates proxy =
      proxyInitAllPorts creates (configuredPorts wwanDebugfs cfgId proxy) := rfl

namespace MtuRun

variable (wwanDebugfs : Bool)

def switchCfg (s : MtuRun) (core : Core) (cfgId : CldmaCfg) : MtuRun :=
  { s with
    switches := core :: s.switches
    pktSize := Function.update s.pktSize core fun q =>
      if q < CLDMA_TXQ_NUM then adjustTxConfig cfgId q else s.pktSize core q }

def getPortMtu (s : MtuRun) (mdState : MdState) (i : Nat) : Nat :=
  match (txqTable wwanDebugfs s.cfgId)[i]? with
  | none => 0
  | some txq => s.pktSize (pathCore (s.proxy.ports i).conf.pathId) (txq.queueNo mdState)

def mtusOf (s : MtuRun) (mdState : MdState) (registered : PortHandles → Bool) : List Nat :=
  ((List.range s.proxy.portCount).filter fun i => registered (s.proxy.ports i)).map
    (s.getPortMtu wwanDebugfs mdState)

def setCfg (s : MtuRun) (cfgId : PortCfgId) (creates : Nat → Bool) : MtuRun :=
  let s := { s with cfgId, proxy := configuredPorts wwanDebugfs cfgId s.proxy }
  let new := s.mtusOf wwanDebugfs s.run.m.mdState fun port => !port.conf.debug && port.CreatesOnInit
  { s with proxy := proxyInitAllPorts creates s.proxy, mtus := s.mtus ++ new }

/-- `fsm_routine_start` with the device stage it has read, and `t7xx_lk_stage_event_handling`. -/
def devStage (s : MtuRun) (cmd : FsmCommand) (status : BitVec 32) (creates : Nat → Bool) : MtuRun :=
  if status ≠ s.run.m.status ∨ cmd.flag ≠ 0 then
    if miscStage status = T7XX_DEV_STAGE_LK then
      let s := s.setCfg wwanDebugfs .early creates
      if miscLkEvent status = LK_EVENT_CREATE_PD_PORT ∨ miscLkEvent status = LK_EVENT_CREATE_POST_DL_PORT then
        s.switchCfg .ap .dedicatedQ
      else s
    else if miscStage status = T7XX_DEV_STAGE_LINUX ∧ cmd.flag ≠ 0 then s.setCfg wwanDebugfs .normal creates
    else s
  else s

/-- `t7xx_port_proxy_md_status_notify` with `MD_STATE_READY`; no port looks at the other states. -/
def readyNotify (s : MtuRun) (debugfs creates : Nat → Bool) : MtuRun :=
  let new := s.mtusOf wwanDebugfs .ready fun port => port.CreatesOnReady
  { s with proxy := portProxyMdStatusNotify .ready debugfs creates s.proxy, mtus := s.mtus ++ new }

def ShowsPort (s : MtuRun) (i : Nat) (shown : Bool) : Prop :=
  i < s.proxy.portCount ∧ (s.proxy.ports i).conf.debug = true ∧ shown = true ∧ (s.proxy.ports i).CreatesOnInit

instance (s : MtuRun) (i : Nat) (shown : Bool) : Decidable (s.ShowsPort i shown) :=
  inferInstanceAs (Decidable (_ ∧ _ ∧ _ ∧ (s.proxy.ports i).CreatesOnInit))

def showPort (s : MtuRun) (i : Nat) (shown creates : Bool) : MtuRun :=
  let new := if s.ShowsPort i shown then [s.getPortMtu wwanDebugfs s.run.m.mdState i] else []
  if i < s.proxy.portCount then
    { s with proxy := s.proxy.setPort i (Port.showPort shown creates (s.proxy.ports i)), mtus := s.mtus ++ new }
  else s

/-- The thread gets past its wait in `fsm_routine_starting` and broadcasts that the modem is ready. -/
def BroadcastsReady (run : FsmRun) : Prop :=
  run.m.coreMd.ready = true ∧ run.m.coreAp.ready = true ∧ run.m.mdState = .waitingForHs2

instance (run : FsmRun) : Decidable (BroadcastsReady run) :=
  inferInstanceAs (Decidable (_ ∧ _ ∧ _))

def fsmStep (s : MtuRun) (label : FsmLabel) (debugfs creates : Nat → Bool) : MtuRun :=
  match label, s.run.thread with
  | .devStage false status, .waitStage cmd => s.devStage wwanDebugfs cmd status creates
  | .handshakeWake, .waitHandshake _ _ =>
    if BroadcastsReady s.run then s.readyNotify wwanDebugfs debugfs creates else s
  | .workStart core, _ => s.switchCfg core .sharedQ
  | _, _ => s

def step (s : MtuRun) : MtuLabel → Option MtuRun
  | .fsm label debugfs creates =>
    (s.run.step label).map fun run => { s.fsmStep wwanDebugfs label debugfs creates with run }
  | .showPort i shown creates => some (s.showPort wwanDebugfs i shown creates)

def probed (dev : PciDev) : MtuRun where
  run := .probed dev
  switches := []
  pktSize := fun _ _ => 0
  cfgId := .invalid
  proxy := proxyAlloc
  mtus := []

end MtuRun

/-- A configured `pkt_size`, from which the header can be taken. -/
def MtuFits (mtu : Nat) : Prop := mtu ≠ 0 ∧ (fragLen mtu).toNat + ccciHeaderSize = mtu

def MtusFit (s : MtuRun) : Prop := ∀ mtu ∈ s.mtus, MtuFits mtu

def MtuRun.EntersLk (s : MtuRun) (status : BitVec 32) : Prop :=
  match s.run.thread with
  | .waitStage cmd => (status ≠ s.run.m.status ∨ cmd.flag ≠ 0) ∧ miscStage status = T7XX_DEV_STAGE_LK
  | _ => False

/-- The AP controller has been configured when the thread enters the LK stage, and that of a debug port
    when the port is shown. -/
def ConfiguredFirst (s : MtuRun) : MtuLabel → Prop
  | .fsm (.devStage false status) _ _ => s.EntersLk status → .ap ∈ s.switches
  | .showPort i shown _ => s.ShowsPort i shown → pathCore (s.proxy.ports i).conf.pathId ∈ s.switches
  | _ => True

end Steps

section Handshakes

theorem fsmStoppedHandler_mdReady {m : Modem} (ready : (fsmStoppedHandler m).1.coreMd.ready = true) :
    m.coreMd.ready = true := by
  unfold fsmStoppedHandler mdReset coreReset at ready
  dsimp only at ready
  split at ready
  · exact ready
  · split at ready <;> cases ready

theorem fsmDequeue_mdReady {m next : Modem} {thread : FsmThread} (taken : fsmDequeue m = some (next, thread))
    (ready : next.coreMd.ready = true) : m.coreMd.ready = true := by
  unfold fsmDequeue at taken
  split at taken
  · cases taken
  · rename_i cmd commandQueue queue
    split at taken
    · simp only [fsmRoutineStart, Option.some.injEq] at taken
      split at taken <;> (cases taken; exact ready)
    · simp only [fsmRoutineException, Option.some.injEq] at taken
      split at taken
      · cases taken
        exact ready
      · split at taken <;> (cases taken; exact ready)
    · simp only [fsmRoutineStopping, Option.some.injEq] at taken
      split at taken <;> (cases taken; exact ready)
    · simp only [fsmRoutineStopped, Option.some.injEq] at taken
      split at taken
      · cases taken
        exact ready
      · cases taken
        exact @fsmStoppedHandler_mdReady { m with commandQueue } ready
    · cases taken
      exact ready

theorem fsmDevStage_coreMd (cmd : FsmCommand) (timedOut : Bool) (status : BitVec 32) (m : Modem) :
    (fsmDevStage cmd timedOut status m).1.coreMd = m.coreMd := by
  have finish : ∀ ret {m' : Modem}, m'.coreMd = m.coreMd → (fsmFinishStart cmd ret m').coreMd = m.coreMd :=
    fun ret m' same => (fsmFinishStart_cores cmd ret m').md.trans same
  unfold fsmDevStage
  dsimp only
  split_ifs
  · exact finish _ rfl
  · exact finish _ rfl
  · exact finish _ (lkStageEventHandling_cores status m).md
  · exact finish _ rfl
  · rfl
  · exact finish _ rfl
  · exact finish _ rfl

theorem fsmStartingResult_coreMd (m : Modem) : (fsmStartingResult m).1.coreMd = m.coreMd := by
  have timeout : ∀ core, (fsmHandshakeTimeout core m).coreMd = m.coreMd := by
    intro core
    unfold fsmHandshakeTimeout
    dsimp only
    split_ifs <;> rfl
  unfold fsmStartingResult
  split_ifs
  · exact timeout .md
  · exact timeout .ap
  · exact (fsmRoutineReady_cores _).1

/-- The thread starts no handshake work, and leaves the MD core as ready as it was at most. -/
theorem threadStep_md {run next : FsmRun} {label : FsmLabel} (taken : run.threadStep label = some next) :
    next.mdWork = run.mdWork ∧ (next.m.coreMd.ready = true → run.m.coreMd.ready = true) := by
  unfold FsmRun.threadStep at taken
  cases label with
  | dequeue =>
    simp only [Option.ite_none_right_eq_some, Option.map_eq_some_iff, Prod.exists] at taken
    obtain ⟨-, m, thread, dequeued, rfl⟩ := taken
    exact ⟨rfl, fsmDequeue_mdReady dequeued⟩
  | devStage timedOut status =>
    dsimp only at taken
    split at taken
    · rename_i cmd waiting
      cases taken
      exact ⟨rfl, fun ready => by rwa [fsmDevStage_coreMd] at ready⟩
    · cases taken
  | broadcastHs1 =>
    dsimp only at taken
    split at taken
    · cases taken
      exact ⟨rfl, id⟩
    · cases taken
  | notifyStart =>
    dsimp only at taken
    split at taken
    · cases taken
      exact ⟨rfl, fun ready => by rwa [(mdEventStart_cores run.m).md] at ready⟩
    · cases taken
  | handshakeWake =>
    dsimp only at taken
    split at taken
    · rename_i cmd status waiting
      cases taken
      refine ⟨rfl, fun ready => ?_⟩
      rw [(fsmFinishStart_cores cmd (fsmStartingResult run.m).2 _).md] at ready
      rwa [fsmStartingResult_coreMd] at ready
    · cases taken
  | pollEvent =>
    dsimp only at taken
    split at taken
    · cases taken
      exact ⟨rfl, fun ready => by rwa [(fsmPollEvent_cores .mdExRecOk .mdEx run.m).md] at ready⟩
    · have polled := (fsmPollEvent_cores .mdExPass .invalid run.m).md
      split at taken
      · cases taken
        exact ⟨rfl, fun ready => by rwa [← polled]⟩
      · cases taken
        exact ⟨rfl, fun ready => by rwa [← polled]⟩
    · cases taken
  | pollGivesUp =>
    dsimp only at taken
    split at taken
    · cases taken
      exact ⟨rfl, id⟩
    · cases taken
      exact ⟨rfl, id⟩
    · cases taken
  | stopDelayOver =>
    dsimp only at taken
    split at taken
    · cases taken
      exact ⟨rfl, fsmStoppedHandler_mdReady⟩
    · cases taken
  | _ => cases taken

/-- The MD handshake work is under way, or it has completed a handshake that still counts. -/
def MdBegun (run : FsmRun) : Prop := run.m.coreMd.ready = true ∨ run.mdWork ≠ .idle

theorem mdBegun_step {run next : FsmRun} {label : FsmLabel} (other : label ≠ .workStart .md)
    (taken : run.step label = some next) (begun : MdBegun next) : MdBegun run := by
  unfold FsmRun.step at taken
  cases label with
  | appendCmd cmdId flag | appendEvent event | modeUpdate mode | deviceInt bits =>
    cases taken
    exact begun
  | mhccifIsr =>
    cases taken
    exact begun.imp_left fun ready => by rwa [(mhccifIsrThread_cores run.m).md] at ready
  | workStart core =>
    simp only [FsmRun.workStep, Option.ite_none_right_eq_some, Option.some.injEq] at taken
    obtain ⟨-, rfl⟩ := taken
    cases core with
    | md => exact absurd rfl other
    | ap => exact begun
  | workEvent core =>
    simp only [FsmRun.workStep, Option.ite_none_right_eq_some, Option.map_eq_some_iff, Prod.exists] at taken
    obtain ⟨waits, event, eventQueue, -, rfl⟩ := taken
    cases core with
    | md => exact .inr fun idle => absurd (idle.symm.trans waits) (by decide)
    | ap => exact begun
  | workFinish core parsed =>
    simp only [FsmRun.workStep, Option.ite_none_right_eq_some, Option.some.injEq] at taken
    obtain ⟨parsing, rfl⟩ := taken
    cases core with
    | md => exact .inr fun idle => absurd (idle.symm.trans parsing) (by decide)
    | ap =>
      split at begun
      · exact begun
      · exact begun
  | _ =>
    obtain ⟨work, ready⟩ := threadStep_md taken
    exact begun.imp ready fun busy => by rwa [work] at busy

end Handshakes

section Ports

variable {wwanDebugfs : Bool} {cfgId : PortCfgId} {proxy : ProxyHandles} {port : PortHandles}

/-- What the operations of a port leave of it: a control port has no WWAN port before and after. -/
structure PortKept (before after : PortHandles) : Prop where
  conf : after.conf = before.conf
  wwanLog : after.wwanLog = before.wwanLog ∨ before.conf.ops ≠ .ctl

theorem portWwanCreate_kept (creates : Bool) (wwan : port.conf.ops = .wwan) :
    PortKept port (portWwanCreate creates port) := by
  have other : port.conf.ops ≠ .ctl := by
    rw [wwan]
    decide
  unfold portWwanCreate
  split_ifs <;> exact ⟨rfl, .inr other⟩

theorem init_kept (creates : Bool) (port : PortHandles) : PortKept port (port.init creates) := by
  unfold PortHandles.init
  split
  · unfold portCtlInit
    split <;> exact ⟨rfl, .inl rfl⟩
  · rename_i wwan
    unfold portWwanInit
    split
    · exact portWwanCreate_kept creates wwan
    · exact ⟨rfl, .inl rfl⟩
  · exact ⟨rfl, .inl rfl⟩

theorem uninit_kept (port : PortHandles) : PortKept port port.uninit := by
  unfold PortHandles.uninit
  split
  · unfold portCtlUninit
    split <;> exact ⟨rfl, .inl rfl⟩
  · rename_i wwan
    unfold portWwanUninit
    split
    · exact ⟨rfl, .inl rfl⟩
    · exact ⟨rfl, .inr (by rw [wwan]; decide)⟩
  · rename_i trace
    unfold tracePortUninit
    split
    · exact ⟨rfl, .inl rfl⟩
    · exact ⟨rfl, .inr (by rw [trace]; decide)⟩

theorem initPort_kept (creates : Bool) (port : PortHandles) : PortKept port (initPort creates port) := by
  unfold initPort
  dsimp only
  split
  · exact ⟨rfl, .inl rfl⟩
  · obtain ⟨conf, wwanLog⟩ := init_kept creates { port with usageCnt := 0, chanEnable := false }
    exact ⟨conf, wwanLog⟩

theorem showPort_kept (shown creates : Bool) (port : PortHandles) : PortKept port (showPort shown creates port) := by
  unfold showPort
  split_ifs
  · exact ⟨rfl, .inl rfl⟩
  · exact init_kept creates port
  · exact uninit_kept port

theorem mdStateNotify_kept (state : MdState) (debugfs creates : Bool) (port : PortHandles) :
    PortKept port (port.mdStateNotify state debugfs creates) := by
  unfold PortHandles.mdStateNotify
  split
  · exact ⟨rfl, .inl rfl⟩
  · rename_i wwan
    unfold portWwanMdStateNotify
    split_ifs
    · exact ⟨rfl, .inl rfl⟩
    · exact ⟨rfl, .inl rfl⟩
    · exact portWwanCreate_kept creates wwan
  · rename_i trace
    have other : port.conf.ops ≠ .ctl := by
      rw [trace]
      decide
    unfold portTraceMdStateNotify
    split_ifs <;> exact ⟨rfl, .inr other⟩

/-- The ports have the entries of the table that was configured last, and only they have objects. -/
structure PortsInTable (wwanDebugfs : Bool) (cfgId : PortCfgId) (proxy : ProxyHandles) : Prop where
  conf : ∀ i < proxy.portCount, (portTable wwanDebugfs cfgId)[i]? = some (proxy.ports i).conf
  wwanLog : ∀ i, (proxy.ports i).wwanLog = .null ∨ i < proxy.portCount ∧ (proxy.ports i).conf.ops ≠ .ctl

theorem PortsInTable.forEach (inTable : PortsInTable wwanDebugfs cfgId proxy) {op : Nat → PortHandles → PortHandles}
    (kept : ∀ i port, PortKept port (op i port)) : PortsInTable wwanDebugfs cfgId (proxy.forEach op) := by
  unfold ProxyHandles.forEach
  refine ⟨fun i below => ?_, fun i => ?_⟩
  · dsimp only at below ⊢
    rw [if_pos below, (kept i _).conf]
    exact inTable.conf i below
  · dsimp only
    split
    · rename_i below
      rw [(kept i _).conf]
      rcases (kept i (proxy.ports i)).wwanLog with same | other
      · rw [same]
        exact inTable.wwanLog i
      · exact .inr ⟨below, other⟩
    · exact inTable.wwanLog i

theorem PortsInTable.setPort (inTable : PortsInTable wwanDebugfs cfgId proxy) {i : Nat} {after : PortHandles}
    (below : i < proxy.portCount) (kept : PortKept (proxy.ports i) after) :
    PortsInTable wwanDebugfs cfgId (proxy.setPort i after) := by
  unfold ProxyHandles.setPort
  refine ⟨fun j inside => ?_, fun j => ?_⟩
  · by_cases here : j = i
    · subst here
      dsimp only
      rw [Function.update_self, kept.conf]
      exact inTable.conf j below
    · dsimp only
      rw [Function.update_of_ne here]
      exact inTable.conf j inside
  · by_cases here : j = i
    · subst here
      dsimp only
      rw [Function.update_self, kept.conf]
      rcases kept.wwanLog with same | other
      · rw [same]
        exact inTable.wwanLog j
      · exact .inr ⟨below, other⟩
    · dsimp only
      rw [Function.update_of_ne here]
      exact inTable.wwanLog j

theorem PortsInTable.uninit_null (inTable : PortsInTable wwanDebugfs cfgId proxy) (i : Nat) :
    ((portProxyUninit proxy).ports i).wwanLog = .null := by
  unfold portProxyUninit ProxyHandles.forEach
  dsimp only
  split
  · rcases inTable.wwanLog i with null | ⟨-, other⟩
    · unfold PortHandles.uninit portCtlUninit portWwanUninit tracePortUninit
      split
      · split <;> exact null
      · rw [if_pos null]
        exact null
      · rw [if_pos null]
        exact null
    · unfold PortHandles.uninit portWwanUninit tracePortUninit
      split
      · rename_i ctl
        exact absurd ctl other
      · split
        · assumption
        · rfl
      · split
        · assumption
        · rfl
  · rename_i absent
    exact (inTable.wwanLog i).resolve_right fun held => absent held.1

theorem configuredPorts_inTable {before : PortCfgId} (inTable : PortsInTable wwanDebugfs before proxy)
    (cfgId : PortCfgId) : PortsInTable wwanDebugfs cfgId (configuredPorts wwanDebugfs cfgId proxy) := by
  unfold configuredPorts
  refine ⟨fun i below => ?_, fun i => .inl ?_⟩
  · dsimp only at below ⊢
    rw [List.getElem?_eq_getElem below]
    rfl
  · have null := inTable.uninit_null i
    dsimp only
    unfold PortHandles.configure
    split
    · exact null
    · exact null

theorem table_entry {i : Nat} {conf : HandleConf} (entry : (portTable wwanDebugfs cfgId)[i]? = some conf) :
    ∃ txq, (txqTable wwanDebugfs cfgId)[i]? = some txq ∧
      (conf.debug = true → txq.txqIndex < CLDMA_TXQ_NUM ∧ txq.txqExpIndex < CLDMA_TXQ_NUM) ∧
      (conf.ops = .wwan → conf.portType.atInit = false → conf.pathId = .md ∧ txq.txqIndex < CLDMA_TXQ_NUM) := by
  have facts : ∀ pair ∈ (portTable wwanDebugfs cfgId).zip (txqTable wwanDebugfs cfgId),
      (pair.1.debug = true → pair.2.txqIndex < CLDMA_TXQ_NUM ∧ pair.2.txqExpIndex < CLDMA_TXQ_NUM) ∧
        (pair.1.ops = .wwan → pair.1.portType.atInit = false →
          pair.1.pathId = .md ∧ pair.2.txqIndex < CLDMA_TXQ_NUM) := by
    cases wwanDebugfs <;> cases cfgId <;> decide
  have lengths := congrArg List.length (txqTable_txCh wwanDebugfs cfgId)
  rw [List.length_map, List.length_map] at lengths
  have below : i < (txqTable wwanDebugfs cfgId).length := by
    rw [lengths]
    exact (List.getElem?_eq_some_iff.mp entry).1
  have txq := List.getElem?_eq_getElem below
  have both : ((portTable wwanDebugfs cfgId).zip (txqTable wwanDebugfs cfgId))[i]? = some (conf, _) :=
    List.getElem?_zip_eq_some.mpr ⟨entry, txq⟩
  exact ⟨_, txq, facts _ (List.mem_of_getElem? both)⟩

end Ports

section Mtus

variable {wwanDebugfs : Bool} {s : MtuRun}

theorem adjustTxConfig_fits (cfgId : CldmaCfg) (qno : Nat) : MtuFits (adjustTxConfig cfgId qno) := by
  have fits : MtuFits CLDMA_DEDICATED_Q_BUFF_SZ ∧ MtuFits CLDMA_SHARED_Q_BUFF_SZ :=
    ⟨⟨by decide, by decide⟩, by decide, by decide⟩
  unfold adjustTxConfig
  split
  · exact fits.1
  · exact fits.2

def SizesKnown (s : MtuRun) : Prop :=
  ∀ core, ∀ q < CLDMA_TXQ_NUM, MtuFits (s.pktSize core q) ↔ core ∈ s.switches

theorem switchCfg_sizes (sizes : SizesKnown s) (core : Core) (cfgId : CldmaCfg) : SizesKnown (s.switchCfg core cfgId) := by
  intro other q below
  unfold MtuRun.switchCfg
  dsimp only
  by_cases here : other = core
  · subst here
    rw [Function.update_self, if_pos below]
    exact iff_of_true (adjustTxConfig_fits cfgId q) List.mem_cons_self
  · rw [Function.update_of_ne here, sizes other q below, List.mem_cons, or_iff_right here]

theorem mtusOf_fit_iff {mdState : MdState} {registered : PortHandles → Bool} :
    (∀ mtu ∈ s.mtusOf wwanDebugfs mdState registered, MtuFits mtu) ↔
      ∀ i < s.proxy.portCount, registered (s.proxy.ports i) = true → MtuFits (s.getPortMtu wwanDebugfs mdState i) := by
  unfold MtuRun.mtusOf
  simp only [List.mem_map, List.mem_filter, List.mem_range]
  refine ⟨fun all i below here => all _ ⟨i, ⟨below, here⟩, rfl⟩, ?_⟩
  rintro all _ ⟨i, ⟨below, here⟩, rfl⟩
  exact all i below here

theorem fit_append_iff {mtus new : List Nat} (fit : ∀ mtu ∈ mtus, MtuFits mtu) :
    (∀ mtu ∈ mtus ++ new, MtuFits mtu) ↔ ∀ mtu ∈ new, MtuFits mtu := by
  rw [List.forall_mem_append, and_iff_right fit]

theorem getPortMtu_fits_iff (sizes : SizesKnown s) {mdState : MdState} {i : Nat} {txq : PortTxConf}
    (entry : (txqTable wwanDebugfs s.cfgId)[i]? = some txq) (valid : txq.queueNo mdState < CLDMA_TXQ_NUM) :
    MtuFits (s.getPortMtu wwanDebugfs mdState i) ↔ pathCore (s.proxy.ports i).conf.pathId ∈ s.switches := by
  unfold MtuRun.getPortMtu
  rw [entry]
  exact sizes _ _ valid

/-- The switch to the early table registers the fastboot port. -/
theorem setCfg_early (inTable : PortsInTable wwanDebugfs s.cfgId s.proxy) (sizes : SizesKnown s)
    (fit : MtusFit s) (creates : Nat → Bool) :
    MtusFit (s.setCfg wwanDebugfs .early creates) ↔ .ap ∈ s.switches := by
  unfold MtusFit MtuRun.setCfg
  dsimp only
  rw [fit_append_iff fit, mtusOf_fit_iff]
  have count : (configuredPorts wwanDebugfs .early s.proxy).portCount = 1 := by cases wwanDebugfs <;> rfl
  have conf : ((configuredPorts wwanDebugfs .early s.proxy).ports 0).conf =
      ⟨⟨PORT_CH_UNIMPORTANT, CLDMA_Q_IDX_DUMP, .ap, .wwan, false⟩, PORT_CH_UNIMPORTANT, .FASTBOOT⟩ := by
    cases wwanDebugfs <;> rfl
  have null : ((configuredPorts wwanDebugfs .early s.proxy).ports 0).wwanLog = .null := inTable.uninit_null 0
  have asked : ((configuredPorts wwanDebugfs .early s.proxy).ports 0).CreatesOnInit :=
    ⟨by rw [conf], by rw [conf]; rfl, null⟩
  have registered : (!((configuredPorts wwanDebugfs .early s.proxy).ports 0).conf.debug &&
      decide ((configuredPorts wwanDebugfs .early s.proxy).ports 0).CreatesOnInit) = true := by
    rw [decide_eq_true asked, conf]
    rfl
  have valid : PortTxConf.queueNo ⟨PORT_CH_UNIMPORTANT, CLDMA_Q_IDX_DUMP, CLDMA_Q_IDX_DUMP⟩ s.run.m.mdState <
      CLDMA_TXQ_NUM := by
    unfold PortTxConf.queueNo
    split <;> decide
  let configured : MtuRun := { s with cfgId := .early, proxy := configuredPorts wwanDebugfs .early s.proxy }
  have known : SizesKnown configured := sizes
  have reads : MtuFits (configured.getPortMtu wwanDebugfs s.run.m.mdState 0) ↔
      pathCore (configured.proxy.ports 0).conf.pathId ∈ configured.switches := getPortMtu_fits_iff known rfl valid
  have path : pathCore (configured.proxy.ports 0).conf.pathId = .ap := congrArg (fun conf => pathCore conf.pathId) conf
  rw [path] at reads
  refine Iff.trans ⟨fun all => ?_, fun one i below _ => ?_⟩ reads
  · exact all 0 (by rw [count]; decide) registered
  · rw [count, Nat.lt_one_iff] at below
    subst below
    exact one

theorem setCfg_normal (fit : MtusFit s) (creates : Nat → Bool) : MtusFit (s.setCfg wwanDebugfs .normal creates) := by
  unfold MtusFit MtuRun.setCfg
  dsimp only
  rw [fit_append_iff fit, mtusOf_fit_iff]
  intro i below registered
  have none : ∀ conf ∈ portTable wwanDebugfs .normal, conf.debug = false → conf.ops = .wwan →
      conf.portType.atInit = true → False := by
    cases wwanDebugfs <;> decide
  have conf : ((configuredPorts wwanDebugfs .normal s.proxy).ports i).conf = (portTable wwanDebugfs .normal)[i] := by
    unfold configuredPorts PortHandles.configure
    dsimp only
    rw [List.getElem?_eq_getElem below]
  simp only [Bool.and_eq_true, Bool.not_eq_true', decide_eq_true_eq] at registered
  obtain ⟨shown, wwan, atInit, -⟩ := registered
  rw [conf] at shown wwan atInit
  exact (none _ (List.getElem_mem below) shown wwan atInit).elim

theorem readyNotify_fit (inTable : PortsInTable wwanDebugfs s.cfgId s.proxy) (sizes : SizesKnown s)
    (fit : MtusFit s) (switched : .md ∈ s.switches) (debugfs creates : Nat → Bool) :
    MtusFit (s.readyNotify wwanDebugfs debugfs creates) := by
  unfold MtusFit MtuRun.readyNotify
  dsimp only
  rw [fit_append_iff fit, mtusOf_fit_iff]
  intro i below registered
  obtain ⟨wwan, late, -⟩ := of_decide_eq_true registered
  obtain ⟨txq, entry, -, facts⟩ := table_entry (inTable.conf i below)
  obtain ⟨path, valid⟩ := facts wwan late
  have valid : txq.queueNo .ready < CLDMA_TXQ_NUM := valid
  rw [getPortMtu_fits_iff sizes entry valid, path]
  exact switched

theorem showPort_fit (inTable : PortsInTable wwanDebugfs s.cfgId s.proxy) (sizes : SizesKnown s)
    (fit : MtusFit s) (i : Nat) (shown creates : Bool) :
    MtusFit (s.showPort wwanDebugfs i shown creates) ↔
      (s.ShowsPort i shown → pathCore (s.proxy.ports i).conf.pathId ∈ s.switches) := by
  unfold MtuRun.showPort
  by_cases below : i < s.proxy.portCount
  · rw [if_pos below]
    unfold MtusFit
    dsimp only
    rw [fit_append_iff fit]
    by_cases shows : s.ShowsPort i shown
    · rw [if_pos shows, List.forall_mem_singleton, imp_iff_right shows]
      obtain ⟨txq, entry, debug, -⟩ := table_entry (inTable.conf i below)
      have valid : txq.queueNo s.run.m.mdState < CLDMA_TXQ_NUM := by
        unfold PortTxConf.queueNo
        split
        · exact (debug shows.2.1).2
        · exact (debug shows.2.1).1
      exact getPortMtu_fits_iff sizes entry valid
    · rw [if_neg shows]
      exact iff_of_true nofun fun here => absurd here shows
  · rw [if_neg below]
    exact iff_of_true fit fun shows => absurd shows.1 below

end Mtus

section Runs

variable {wwanDebugfs : Bool} {s t : MtuRun} {label : MtuLabel}

structure MtuInv (wwanDebugfs : Bool) (s : MtuRun) : Prop where
  inTable : PortsInTable wwanDebugfs s.cfgId s.proxy
  sizes : SizesKnown s
  md : MdBegun s.run → .md ∈ s.switches

/-- What a step does to the rings and the ports keeps the invariant of all that it does not move. -/
structure MtuKept (wwanDebugfs : Bool) (s t : MtuRun) : Prop where
  run : t.run = s.run
  inTable : PortsInTable wwanDebugfs t.cfgId t.proxy
  sizes : SizesKnown t
  switches : s.switches ⊆ t.switches

theorem setCfg_kept (inv : MtuInv wwanDebugfs s) (cfgId : PortCfgId) (creates : Nat → Bool) :
    MtuKept wwanDebugfs s (s.setCfg wwanDebugfs cfgId creates) where
  run := rfl
  inTable := (configuredPorts_inTable inv.inTable cfgId).forEach fun i port => initPort_kept (creates i) port
  sizes := inv.sizes
  switches := List.Subset.refl _

theorem switchCfg_kept (kept : MtuKept wwanDebugfs s t) (core : Core) (cfgId : CldmaCfg) :
    MtuKept wwanDebugfs s (t.switchCfg core cfgId) where
  run := kept.run
  inTable := kept.inTable
  sizes := switchCfg_sizes kept.sizes core cfgId
  switches := List.Subset.trans kept.switches (List.subset_cons_self _ _)

theorem MtuKept.same (inv : MtuInv wwanDebugfs s) : MtuKept wwanDebugfs s s :=
  ⟨rfl, inv.inTable, inv.sizes, List.Subset.refl _⟩

/-- Only the LK stage has the thread register a port before it switches a controller. -/
theorem devStage_exact (inv : MtuInv wwanDebugfs s) (fit : MtusFit s) (cmd : FsmCommand) (status : BitVec 32)
    (creates : Nat → Bool) :
    MtuKept wwanDebugfs s (s.devStage wwanDebugfs cmd status creates) ∧
      (MtusFit (s.devStage wwanDebugfs cmd status creates) ↔
        ((status ≠ s.run.m.status ∨ cmd.flag ≠ 0) ∧ miscStage status = T7XX_DEV_STAGE_LK → .ap ∈ s.switches)) := by
  unfold MtuRun.devStage
  by_cases new : status ≠ s.run.m.status ∨ cmd.flag ≠ 0
  · rw [if_pos new]
    by_cases lk : miscStage status = T7XX_DEV_STAGE_LK
    · rw [if_pos lk, imp_iff_right ⟨new, lk⟩]
      have early := setCfg_early inv.inTable inv.sizes fit creates
      have kept := setCfg_kept inv .early creates
      dsimp only
      split
      · exact ⟨switchCfg_kept kept .ap .dedicatedQ, early⟩
      · exact ⟨kept, early⟩
    · rw [if_neg lk]
      have other : (status ≠ s.run.m.status ∨ cmd.flag ≠ 0) ∧ miscStage status = T7XX_DEV_STAGE_LK → .ap ∈ s.switches :=
        fun both => absurd both.2 lk
      split
      · exact ⟨setCfg_kept inv .normal creates, iff_of_true (setCfg_normal fit creates) other⟩
      · exact ⟨.same inv, iff_of_true fit other⟩
  · rw [if_neg new]
    exact ⟨.same inv, iff_of_true fit fun both => absurd both.1 new⟩

theorem fsmStep_exact (inv : MtuInv wwanDebugfs s) (fit : MtusFit s) (inner : FsmLabel) (debugfs creates : Nat → Bool) :
    MtuKept wwanDebugfs s (s.fsmStep wwanDebugfs inner debugfs creates) ∧
      (MtusFit (s.fsmStep wwanDebugfs inner debugfs creates) ↔ ConfiguredFirst s (.fsm inner debugfs creates)) := by
  have still (free : ConfiguredFirst s (.fsm inner debugfs creates)) :
      MtuKept wwanDebugfs s s ∧ (MtusFit s ↔ ConfiguredFirst s (.fsm inner debugfs creates)) :=
    ⟨.same inv, iff_of_true fit free⟩
  cases inner with
  | devStage timedOut status =>
    cases timedOut with
    | true => exact still trivial
    | false =>
      unfold MtuRun.fsmStep ConfiguredFirst MtuRun.EntersLk
      cases thread : s.run.thread with
      | waitStage cmd => exact devStage_exact inv fit cmd status creates
      | _ => exact ⟨.same inv, iff_of_true fit False.elim⟩
  | handshakeWake =>
    unfold MtuRun.fsmStep
    cases thread : s.run.thread with
    | waitHandshake cmd status =>
      dsimp only
      split
      · rename_i ready
        have switched := inv.md (.inl ready.1)
        refine ⟨⟨rfl, ?_, inv.sizes, List.Subset.refl _⟩, iff_of_true ?_ trivial⟩
        · exact inv.inTable.forEach fun i port => mdStateNotify_kept .ready (debugfs i) (creates i) port
        · exact readyNotify_fit inv.inTable inv.sizes fit switched debugfs creates
      · exact still trivial
    | _ => exact still trivial
  | workStart core => exact ⟨switchCfg_kept (.same inv) core .sharedQ, iff_of_true fit trivial⟩
  | _ => exact still trivial

theorem mtuStep_exact (inv : MtuInv wwanDebugfs s) (fit : MtusFit s) (taken : s.step wwanDebugfs label = some t) :
    MtuInv wwanDebugfs t ∧ (MtusFit t ↔ ConfiguredFirst s label) := by
  cases label with
  | fsm inner debugfs creates =>
    obtain ⟨run, moved, rfl⟩ := Option.map_eq_some_iff.mp taken
    obtain ⟨kept, fits⟩ := fsmStep_exact inv fit inner debugfs creates
    refine ⟨⟨kept.inTable, kept.sizes, fun begun => ?_⟩, fits⟩
    by_cases starts : inner = .workStart .md
    · subst starts
      exact List.mem_cons_self
    · exact kept.switches (inv.md (mdBegun_step starts moved begun))
  | showPort i shown creates =>
    cases taken
    refine ⟨?_, showPort_fit inv.inTable inv.sizes fit i shown creates⟩
    unfold MtuRun.showPort
    by_cases below : i < s.proxy.portCount
    · rw [if_pos below]
      exact ⟨inv.inTable.setPort below (showPort_kept shown creates _), inv.sizes, inv.md⟩
    · rw [if_neg below]
      exact inv

theorem probed_mtuInv (dev : PciDev) : MtuInv wwanDebugfs (MtuRun.probed dev) where
  inTable := ⟨fun i below => absurd below (Nat.not_lt_zero i), fun _ => .inl rfl⟩
  sizes := fun _ _ _ => iff_of_false (fun fits => fits.1 rfl) nofun
  md := by
    rintro (ready | busy)
    · cases ready
    · exact absurd rfl busy

/-- Every port is registered with a configured MTU exactly in the runs in which no LK stage is entered, and
    no debug port is shown, before the controller of the port was switched to a configuration. -/
theorem registered_mtus_fit_iff (wwanDebugfs : Bool) (dev : PciDev) (labels : List MtuLabel) :
    Visits MtusFit (MtuRun.step wwanDebugfs) (.probed dev) labels ↔
      Obeys ConfiguredFirst (MtuRun.step wwanDebugfs) (.probed dev) labels :=
  visits_iff_obeys (MtuInv wwanDebugfs) (fun _ _ _ inv fit taken => (mtuStep_exact inv fit taken).1)
    (fun _ _ _ inv fit taken => (mtuStep_exact inv fit taken).2) (probed_mtuInv dev) nofun

/-- The device starts in the LK stage and asks for the port of a dump. -/
def lkStatus : BitVec 32 := T7XX_DEV_STAGE_LK ||| LK_EVENT_CREATE_PD_PORT <<< 8

def lkBoot : List MtuLabel :=
  [.fsm .dequeue (fun _ => false) fun _ => true, .fsm (.devStage false lkStatus) (fun _ => false) fun _ => true]

/-- The fastboot port of the first LK stage comes before the switch to dedicated queues. -/
theorem first_lk_port_wraps :
    (∃ t, execute (MtuRun.step false) (.probed probedDev) lkBoot = some t ∧ t.mtus = [0] ∧
      fragLen 0 = 0xfffffff0#32 ∧ t.pktSize .ap CLDMA_Q_IDX_DUMP = CLDMA_DEDICATED_Q_BUFF_SZ) ∧
    ¬ Visits MtusFit (MtuRun.step false) (.probed probedDev) lkBoot := by
  obtain ⟨t, run, mtus, wraps, size⟩ : ∃ t, execute (MtuRun.step false) (.probed probedDev) lkBoot = some t ∧
      t.mtus = [0] ∧ fragLen 0 = 0xfffffff0#32 ∧ t.pktSize .ap CLDMA_Q_IDX_DUMP = CLDMA_DEDICATED_Q_BUFF_SZ :=
    ⟨_, rfl, rfl, rfl, rfl⟩
  refine ⟨⟨t, run, mtus, wraps, size⟩, fun visits => ?_⟩
  have fit : MtusFit t := visits.finish run
  exact (fit 0 (by rw [mtus]; exact List.mem_cons_self)).1 rfl

end Runs

end T7xxModel.Port
