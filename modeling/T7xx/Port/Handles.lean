import T7xx.Cldma.PortRecv
import T7xx.Kernel.Handle

namespace T7xxModel.Port

open Cldma Fsm Kernel

def PORT_CH_AP_CONTROL_TX : BitVec 16 := 0x1001
def PORT_CH_AP_ADB_TX : BitVec 16 := 0x100b
def PORT_CH_CONTROL_TX : BitVec 16 := 0x2001
def PORT_CH_UART2_TX : BitVec 16 := 0x200c
def PORT_CH_MD_LOG_TX : BitVec 16 := 0x202b
def PORT_CH_MIPC_TX : BitVec 16 := 0x20cf
def PORT_CH_MBIM_TX : BitVec 16 := 0x20d1

/-- The `enum wwan_port_type` values of the tables; 0, of a port that is none, is that of AT. -/
inductive WwanPortType where
  | AT
  | MBIM
  | FASTBOOT
  | ADB
  | MIPC
deriving DecidableEq, Repr

inductive PortCfgId where
  | invalid
  | normal
  | early
deriving DecidableEq, Repr

inductive PortObj where
  | thread
  | wwanPort
  | relaych
deriving DecidableEq, Repr

structure HandleConf extends PortConf where
  txCh : BitVec 16
  portType : WwanPortType
deriving DecidableEq, Repr

/-- `struct t7xx_port` as far as it has handles. `wwanLog` is the union of `wwan.wwan_port` and
    `log.relaych`, `startCount` how often the WWAN core has the port open, and `calls` are those made
    for its objects, the last one first. -/
structure PortHandles where
  conf : HandleConf
  usageCnt : Int
  chanEnable : Bool
  thread : Handle PortObj
  wwanLog : Handle PortObj
  startCount : Nat
  calls : List (ObjCall PortObj)

section ControlPort

def portCtlInit (creates : Bool) (port : PortHandles) : PortHandles :=
  if creates then
    { port with
      thread := .obj .thread port.calls.length
      calls := .create .thread port.calls.length :: port.calls }
  else { port with thread := .null }

def portCtlUninit (port : PortHandles) : PortHandles :=
  if port.thread = .null then port
  else { port with thread := .null, calls := .remove .thread port.thread :: port.calls }

end ControlPort

section WwanPort

def WwanPortType.atInit (portType : WwanPortType) : Bool :=
  portType = .FASTBOOT || portType = .ADB || portType = .MIPC

def portWwanCreate (creates : Bool) (port : PortHandles) : PortHandles :=
  if port.wwanLog ≠ .null then port
  else if creates then
    { port with
      wwanLog := .obj .wwanPort port.calls.length
      startCount := 0
      calls := .create .wwanPort port.calls.length :: port.calls }
  else { port with wwanLog := .err }

def portWwanInit (creates : Bool) (port : PortHandles) : PortHandles :=
  if port.conf.portType.atInit then portWwanCreate creates port else port

/-- `t7xx_port_wwan_uninit`; `wwan_remove_port` stops a port that is open. -/
def portWwanUninit (port : PortHandles) : PortHandles :=
  if port.wwanLog = .null then port
  else
    { port with
      wwanLog := .null
      usageCnt := if port.startCount = 0 then port.usageCnt else port.usageCnt - 1
      startCount := 0
      calls := .remove .wwanPort port.wwanLog :: port.calls }

def portWwanRecv (port : PortHandles) : PortHandles :=
  if port.usageCnt = 0 ∨ port.chanEnable = false then port
  else { port with calls := .use .wwanPort port.wwanLog :: port.calls }

def portWwanMdStateNotify (state : MdState) (creates : Bool) (port : PortHandles) : PortHandles :=
  if port.conf.portType.atInit then port
  else if state ≠ .ready then port
  else portWwanCreate creates port

/-- `wwan_port_op_start`: the first open of a port calls `t7xx_port_wwan_start`. -/
def wwanPortOpStart (port : PortHandles) : Option PortHandles :=
  match port.wwanLog with
  | .obj .wwanPort _ =>
    if port.startCount ≠ 0 then some { port with startCount := port.startCount + 1 }
    else if port.usageCnt ≠ 0 then none
    else some { port with startCount := 1, usageCnt := port.usageCnt + 1 }
  | _ => none

/-- `wwan_port_op_stop`: the last close of a port calls `t7xx_port_wwan_stop`. -/
def wwanPortOpStop (port : PortHandles) : Option PortHandles :=
  match port.startCount with
  | 0 => none
  | 1 => some { port with startCount := 0, usageCnt := port.usageCnt - 1 }
  | count + 2 => some { port with startCount := count + 1 }

end WwanPort

section TracePort

def tracePortUninit (port : PortHandles) : PortHandles :=
  if port.wwanLog = .null then port
  else { port with wwanLog := .null, calls := .remove .relaych port.wwanLog :: port.calls }

def tracePortRecv (port : PortHandles) : PortHandles :=
  if port.wwanLog = .null then port
  else { port with calls := .use .relaych port.wwanLog :: port.calls }

/-- `t7xx_port_trace_md_state_notify`; `debugfs` says whether both directories are there. -/
def portTraceMdStateNotify (state : MdState) (debugfs creates : Bool) (port : PortHandles) :
    PortHandles :=
  if state ≠ .ready ∨ port.wwanLog ≠ .null then port
  else if debugfs = false then port
  else if creates then
    { port with
      wwanLog := .obj .relaych port.calls.length
      calls := .create .relaych port.calls.length :: port.calls }
  else port

end TracePort

section PortOps

def PortHandles.init (creates : Bool) (port : PortHandles) : PortHandles :=
  match port.conf.ops with
  | .ctl => portCtlInit creates port
  | .wwan => portWwanInit creates port
  | .trace => port

def PortHandles.uninit (port : PortHandles) : PortHandles :=
  match port.conf.ops with
  | .ctl => portCtlUninit port
  | .wwan => portWwanUninit port
  | .trace => tracePortUninit port

def PortHandles.recvSkb (port : PortHandles) : PortHandles :=
  match port.conf.ops with
  | .ctl => port
  | .wwan => portWwanRecv port
  | .trace => tracePortRecv port

def PortHandles.mdStateNotify (state : MdState) (debugfs creates : Bool) (port : PortHandles) :
    PortHandles :=
  match port.conf.ops with
  | .ctl => port
  | .wwan => portWwanMdStateNotify state creates port
  | .trace => portTraceMdStateNotify state debugfs creates port

def PortHandles.setChl (enFlag : Bool) (port : PortHandles) : PortHandles :=
  match port.conf.ops with
  | .wwan => { port with chanEnable := enFlag }
  | _ => port

end PortOps

section Proxy

structure ProxyHandles where
  ports : Nat → PortHandles
  portCount : Nat

/-- `for_each_proxy_port`; what is done to a port touches no other. -/
def ProxyHandles.forEach (op : Nat → PortHandles → PortHandles) (proxy : ProxyHandles) :
    ProxyHandles :=
  { proxy with
    ports := fun i => if i < proxy.portCount then op i (proxy.ports i) else proxy.ports i }

def ProxyHandles.setPort (proxy : ProxyHandles) (i : Nat) (port : PortHandles) : ProxyHandles :=
  { proxy with ports := Function.update proxy.ports i port }

def portConf (wwanDebugfs : Bool) : List HandleConf :=
  [⟨⟨PORT_CH_UART2_RX, 5, .md, .wwan, false⟩, PORT_CH_UART2_TX, .AT⟩,
    ⟨⟨PORT_CH_MBIM_RX, 2, .md, .wwan, false⟩, PORT_CH_MBIM_TX, .MBIM⟩] ++
    (if wwanDebugfs then
      [⟨⟨PORT_CH_MD_LOG_RX, 7, .md, .trace, false⟩, PORT_CH_MD_LOG_TX, .AT⟩] else []) ++
    [⟨⟨PORT_CH_CONTROL_RX, 0, .md, .ctl, false⟩, PORT_CH_CONTROL_TX, .AT⟩,
      ⟨⟨PORT_CH_AP_CONTROL_RX, 0, .ap, .ctl, false⟩, PORT_CH_AP_CONTROL_TX, .AT⟩,
      ⟨⟨PORT_CH_AP_ADB_RX, 3, .ap, .wwan, true⟩, PORT_CH_AP_ADB_TX, .ADB⟩,
      ⟨⟨PORT_CH_MIPC_RX, 2, .md, .wwan, true⟩, PORT_CH_MIPC_TX, .MIPC⟩]

def earlyPortConf : List HandleConf :=
  [⟨⟨PORT_CH_UNIMPORTANT, CLDMA_Q_IDX_DUMP, .ap, .wwan, false⟩, PORT_CH_UNIMPORTANT, .FASTBOOT⟩]

def portTable (wwanDebugfs : Bool) (cfgId : PortCfgId) : List HandleConf :=
  if cfgId = .early then earlyPortConf else portConf wwanDebugfs

def portProxyUninit (proxy : ProxyHandles) : ProxyHandles :=
  proxy.forEach fun _ port => port.uninit

/-- The body of the loop of `t7xx_proxy_init_all_ports`, with `t7xx_port_struct_init`. -/
def initPort (creates : Bool) (port : PortHandles) : PortHandles :=
  let port := { port with usageCnt := 0, chanEnable := false }
  if port.conf.debug then port else port.init creates

def proxyInitAllPorts (creates : Nat → Bool) (proxy : ProxyHandles) : ProxyHandles :=
  proxy.forEach fun i port => initPort (creates i) port

def PortHandles.configure (conf : Option HandleConf) (port : PortHandles) : PortHandles :=
  match conf with
  | none => port
  | some conf => { port with conf }

def portProxySetCfg (wwanDebugfs : Bool) (cfgId : PortCfgId) (creates : Nat → Bool)
    (proxy : ProxyHandles) : ProxyHandles :=
  let table := portTable wwanDebugfs cfgId
  let down := portProxyUninit proxy
  proxyInitAllPorts creates
    { ports := fun i => (down.ports i).configure table[i]?
      portCount := table.length }

def showPort (shown creates : Bool) (port : PortHandles) : PortHandles :=
  if port.conf.debug = false then port
  else if shown then port.init creates
  else port.uninit

def proxyDebugPortsShow (shown : Bool) (creates : Nat → Bool) (proxy : ProxyHandles) :
    ProxyHandles :=
  proxy.forEach fun i port => showPort shown (creates i) port

def portProxyMdStatusNotify (state : MdState) (debugfs creates : Nat → Bool)
    (proxy : ProxyHandles) : ProxyHandles :=
  proxy.forEach fun i port => port.mdStateNotify state (debugfs i) (creates i)

def proxyGetPortByCh (proxy : ProxyHandles) (ch : BitVec 16) : Option Nat :=
  (List.range proxy.portCount).find? fun i =>
    (proxy.ports i).conf.rxCh = ch || (proxy.ports i).conf.txCh = ch

def portProxyChlEnableDisable (ch : BitVec 16) (enFlag : Bool) (proxy : ProxyHandles) :
    ProxyHandles :=
  match proxyGetPortByCh proxy ch with
  | none => proxy
  | some i => proxy.setPort i ((proxy.ports i).setChl enFlag)

/-- The ports and their users; `creates` answers the creating call made for each port. -/
inductive PortLabel where
  | setCfg (cfgId : PortCfgId) (creates : Nat → Bool)
  | mdStatusNotify (state : MdState) (debugfs creates : Nat → Bool)
  | debugPortsShow (shown : Bool) (creates : Nat → Bool)
  | chlEnableDisable (ch : BitVec 16) (enFlag : Bool)
  | uninit
  | recvSkb (i : Nat)
  | wwanStart (i : Nat)
  | wwanStop (i : Nat)

def portStep (wwanDebugfs : Bool) (proxy : ProxyHandles) : PortLabel → Option ProxyHandles
  | .setCfg cfgId creates => some (portProxySetCfg wwanDebugfs cfgId creates proxy)
  | .mdStatusNotify state debugfs creates =>
    some (portProxyMdStatusNotify state debugfs creates proxy)
  | .debugPortsShow shown creates => some (proxyDebugPortsShow shown creates proxy)
  | .chlEnableDisable ch enFlag => some (portProxyChlEnableDisable ch enFlag proxy)
  | .uninit => some (portProxyUninit proxy)
  | .recvSkb i =>
    if i < proxy.portCount then some (proxy.setPort i (proxy.ports i).recvSkb) else none
  | .wwanStart i => (wwanPortOpStart (proxy.ports i)).map (proxy.setPort i)
  | .wwanStop i => (wwanPortOpStop (proxy.ports i)).map (proxy.setPort i)

def proxyAlloc : ProxyHandles where
  ports := fun _ => ⟨⟨⟨0, 0, .md, .wwan, false⟩, 0, .AT⟩, 0, false, .null, .null, 0, []⟩
  portCount := 0

end Proxy

end T7xxModel.Port
