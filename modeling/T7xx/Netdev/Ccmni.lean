import Mathlib.Logic.Function.Basic
import T7xx.Dpmaif.RxStart
import T7xx.Fsm.Control

namespace T7xxModel.Netdev

open Dpmaif (NIC_DEV_MAX)
open Fsm (MdState)

def NIC_DEV_DEFAULT : Nat := 2
def RXQ_NUM : Nat := 2
def IP_MUX_SESSION_DEFAULT : Nat := 0

structure CcmniDev where
  index : Nat
  usage : Int
  registered : Bool
  running : Bool
  txEnabled : Bool
  carrier : Bool
deriving DecidableEq, Repr

/-- `struct t7xx_ccmni_ctrl` and the network devices allocated so far; a link is known by its number
    in the order of allocation. `deadUsed` says that a packet or a notification has used a link that
    is not registered, `napiFault` that a NAPI instance was enabled or disabled twice in a row. -/
structure CcmniCtrl where
  ccmniInst : Nat → Option Nat
  nicDevNum : Nat
  mdSta : MdState
  wwanIsRegistered : Bool
  napi : Nat → Bool
  napiUsrRefcnt : Int
  isNapiEn : Bool
  dev : Nat → CcmniDev
  created : Nat
  deadUsed : Bool
  napiFault : Bool

/-- What the WWAN core, the DPMAIF layer and runtime PM answer in an MD state callback. The WWAN core
    may make the default link, and its registration may fail. -/
structure MdStateAnswers where
  wwanRet : Int
  defaultLink : Option Bool
  dpmaifRet : Int
  resume : Nat → Int

inductive DpmaifTxqState where
  | irq
  | full
deriving DecidableEq, Repr

inductive CcmniLabel where
  | newlink (ifId : Nat) (registers : Bool)
  | dellink (d : Nat)
  | devOpen (d : Nat) (resume : Nat → Int)
  | devStop (d : Nat)
  | mdState (state : MdState) (answers : MdStateAnswers)
  | recvSkb (netifIdx : Nat) (beyond : Option Nat)
  | queueState (state : DpmaifTxqState)
  | txTimeout (d : Nat) (usage : Int)

namespace CcmniCtrl

def withDev (s : CcmniCtrl) (d : Nat) (change : CcmniDev → CcmniDev) : CcmniCtrl :=
  { s with dev := Function.update s.dev d (change (s.dev d)) }

def napiEnable (s : CcmniCtrl) (q : Nat) : CcmniCtrl :=
  { s with napi := Function.update s.napi q true, napiFault := s.napiFault || s.napi q }

def napiDisable (s : CcmniCtrl) (q : Nat) : CcmniCtrl :=
  { s with napi := Function.update s.napi q false, napiFault := s.napiFault || !s.napi q }

def enableNapiFrom (resume : Nat → Int) : Nat → Nat → CcmniCtrl → CcmniCtrl
  | 0, _, s => { s with isNapiEn := true }
  | left + 1, q, s => if resume q < 0 then s else enableNapiFrom resume left (q + 1) (s.napiEnable q)

def enableNapi (resume : Nat → Int) (s : CcmniCtrl) : CcmniCtrl :=
  if s.isNapiEn then s else enableNapiFrom resume RXQ_NUM 0 s

def disableNapi (s : CcmniCtrl) : CcmniCtrl :=
  if s.isNapiEn then { (List.range RXQ_NUM).foldl napiDisable s with isNapiEn := false } else s

def ccmniOpen (d : Nat) (resume : Nat → Int) (s : CcmniCtrl) : CcmniCtrl :=
  let s := s.withDev d fun dev => { dev with carrier := true, txEnabled := true }
  let before := s.napiUsrRefcnt
  let s := { s with napiUsrRefcnt := before + 1 }
  let s := if before = 0 then s.enableNapi resume else s
  s.withDev d fun dev => { dev with usage := dev.usage + 1 }

def ccmniClose (d : Nat) (s : CcmniCtrl) : CcmniCtrl :=
  let s := s.withDev d fun dev => { dev with usage := dev.usage - 1 }
  let s := { s with napiUsrRefcnt := s.napiUsrRefcnt - 1 }
  let s := if s.napiUsrRefcnt = 0 then s.disableNapi else s
  s.withDev d fun dev => { dev with carrier := false, txEnabled := false }

/-- The loops over `ccmni_inst`: what `change` does to each link found there that is in use. -/
def eachInst (change : CcmniDev → CcmniDev) : Nat → CcmniCtrl → CcmniCtrl
  | 0, s => s
  | n + 1, s =>
    let s := eachInst change n s
    match s.ccmniInst n with
    | none => s
    | some d => s.withDev d fun dev => if 0 < dev.usage then change dev else dev

def ccmniStart (resume : Nat → Int) (s : CcmniCtrl) : CcmniCtrl :=
  let s := s.eachInst (fun dev => { dev with txEnabled := true, carrier := true }) s.nicDevNum
  if s.napiUsrRefcnt ≠ 0 then s.enableNapi resume else s

def preStop (s : CcmniCtrl) : CcmniCtrl :=
  s.eachInst (fun dev => { dev with txEnabled := false }) s.nicDevNum

def postStop (s : CcmniCtrl) : CcmniCtrl :=
  let s := if s.napiUsrRefcnt ≠ 0 then s.disableNapi else s
  s.eachInst (fun dev => { dev with carrier := false }) s.nicDevNum

def wwanNewlink (ifId : Nat) (registers : Bool) (s : CcmniCtrl) : CcmniCtrl :=
  if NIC_DEV_MAX ≤ ifId then s
  else
    { s with
      dev := Function.update s.dev s.created
        { index := ifId, usage := 0, registered := registers, running := false, txEnabled := true
          carrier := true }
      ccmniInst := Function.update s.ccmniInst ifId (some s.created)
      created := s.created + 1 }

/-- `unregister_netdevice`, which closes a link that is open. -/
def unregisterNetdevice (d : Nat) (s : CcmniCtrl) : CcmniCtrl :=
  let s := if (s.dev d).running then s.ccmniClose d else s
  s.withDev d fun dev => { dev with running := false, registered := false }

def wwanDellink (d : Nat) (s : CcmniCtrl) : CcmniCtrl :=
  if NIC_DEV_MAX ≤ (s.dev d).index then s
  else if s.ccmniInst (s.dev d).index ≠ some d then s
  else s.unregisterNetdevice d

def registerWwan (answers : MdStateAnswers) (s : CcmniCtrl) : CcmniCtrl × Int :=
  if s.wwanIsRegistered then (s, 0)
  else if answers.wwanRet < 0 then (s, answers.wwanRet)
  else
    let s :=
      match answers.defaultLink with
      | none => s
      | some registers => s.wwanNewlink IP_MUX_SESSION_DEFAULT registers
    ({ s with wwanIsRegistered := true }, 0)

def mdStateCallback (state : MdState) (answers : MdStateAnswers) (s : CcmniCtrl) : CcmniCtrl × Int :=
  let s := { s with mdSta := state }
  match state with
  | .ready =>
    let (s, ret) := s.registerWwan answers
    (if ret = 0 then s.ccmniStart answers.resume else s, ret)
  | .exception | .stopped => (s.preStop.postStop, answers.dpmaifRet)
  | .waitingForHs1 | .waitingToStop => (s, answers.dpmaifRet)
  | .invalid | .waitingForHs2 => (s, 0)

def useLink (found : Option Nat) (s : CcmniCtrl) : CcmniCtrl :=
  match found with
  | none => s
  | some d => { s with deadUsed := s.deadUsed || !(s.dev d).registered }

/-- `t7xx_ccmni_recv_skb`; `beyond` is what an index past the table finds. -/
def recvSkb (netifIdx : Nat) (beyond : Option Nat) (s : CcmniCtrl) : CcmniCtrl :=
  s.useLink (if netifIdx < NIC_DEV_MAX then s.ccmniInst netifIdx else beyond)

def queueStateNotify (state : DpmaifTxqState) (s : CcmniCtrl) : CcmniCtrl :=
  if s.mdSta ≠ .ready then s
  else
    match s.ccmniInst 0 with
    | none => s
    | some d =>
      (s.useLink (some d)).withDev d fun dev =>
        match state with
        | .irq => if dev.running ∧ 0 < dev.usage then { dev with txEnabled := true } else dev
        | .full => if 0 < dev.usage then { dev with txEnabled := false } else dev

/-- `t7xx_ccmni_tx_timeout` takes the private data of the WWAN core for its own; `usage` is what it
    finds there. -/
def txTimeout (d : Nat) (usage : Int) (s : CcmniCtrl) : CcmniCtrl :=
  s.withDev d fun dev => if 0 < usage then { dev with txEnabled := true } else dev

/-- The WWAN core makes links once its operations are registered, and the network core deletes, opens
    and closes registered ones. -/
def step (s : CcmniCtrl) : CcmniLabel → Option CcmniCtrl
  | .newlink ifId registers => if s.wwanIsRegistered then some (s.wwanNewlink ifId registers) else none
  | .dellink d => if (s.dev d).registered then some (s.wwanDellink d) else none
  | .devOpen d resume =>
    if (s.dev d).registered ∧ ¬ (s.dev d).running then
      some ((s.ccmniOpen d resume).withDev d fun dev => { dev with running := true })
    else none
  | .devStop d =>
    if (s.dev d).running then
      some ((s.ccmniClose d).withDev d fun dev => { dev with running := false })
    else none
  | .mdState state answers => some (s.mdStateCallback state answers).1
  | .recvSkb netifIdx beyond => some (s.recvSkb netifIdx beyond)
  | .queueState state => some (s.queueStateNotify state)
  | .txTimeout d usage => if (s.dev d).running then some (s.txTimeout d usage) else none

end CcmniCtrl

def ccmniInit : CcmniCtrl where
  ccmniInst := fun _ => none
  nicDevNum := NIC_DEV_DEFAULT
  mdSta := .invalid
  wwanIsRegistered := false
  napi := fun _ => false
  napiUsrRefcnt := 0
  isNapiEn := false
  dev := fun _ => ⟨0, 0, false, false, false, false⟩
  created := 0
  deadUsed := false
  napiFault := false

end T7xxModel.Netdev
