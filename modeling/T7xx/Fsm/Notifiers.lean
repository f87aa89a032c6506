import T7xx.Fsm.Control
import T7xx.Kernel.ListWalk
import T7xx.Transition.Runs

namespace T7xxModel.Fsm

open Kernel Transition

/-- Whether the ports are told of a state before the notifiers, as by `t7xx_fsm_broadcast_state`, or
    after them, as by `t7xx_fsm_broadcast_ready_state`. -/
inductive PortsTurn where
  | before
  | after
deriving DecidableEq, Repr

/-- The next action of a thread that broadcasts a state. The lock of the list is free while a notifier
    is called. -/
inductive NotifyPc (Id : Type) where
  | idle
  | store (state : MdState) (turn : PortsTurn)
  | ports (state : MdState) (turn : PortsTurn)
  | first (state : MdState) (turn : PortsTurn)
  | call (state : MdState) (turn : PortsTurn) (notifier : Id)
  | next (state : MdState) (turn : PortsTurn) (notifier : Id)
deriving DecidableEq, Repr

/-- A call of a `notifier_fn`, and whether its notifier was registered then. -/
structure NotifierCall (Id : Type) where
  notifier : Id
  state : MdState
  registered : Bool
deriving DecidableEq, Repr

/-- A walk over the notifiers: those registered from its start on, and those called. -/
structure NotifierWalk (Id : Type) where
  owed : List Id
  met : List Id
deriving DecidableEq, Repr

/-- The notifier list of a `struct t7xx_fsm_ctl`, with the threads that broadcast. -/
structure NotifierRun (Thread Id : Type) where
  mdState : MdState
  notifierList : List Id
  pc : Thread → NotifyPc Id
  walk : Thread → NotifierWalk Id
  portStates : List MdState
  calls : List (NotifierCall Id)
  finished : List (NotifierWalk Id)
  crashed : Bool

inductive NotifierLabel (Thread Id : Type) where
  | broadcast (t : Thread) (state : MdState)
  | broadcastReady (t : Thread)
  | go (t : Thread)
  | register (notifier : Id)
  | unregister (notifier : Id)
deriving DecidableEq, Repr

section Steps

variable {Thread Id : Type} [DecidableEq Thread] [DecidableEq Id]

def NotifyPc.standsAt : NotifyPc Id → Option Id
  | .call _ _ notifier | .next _ _ notifier => some notifier
  | _ => none

def NotifierRun.setPc (s : NotifierRun Thread Id) (t : Thread) (pc : NotifyPc Id) :
    NotifierRun Thread Id := { s with pc := Function.update s.pc t pc }

def NotifierRun.setWalk (s : NotifierRun Thread Id) (t : Thread) (walk : NotifierWalk Id) :
    NotifierRun Thread Id := { s with walk := Function.update s.walk t walk }

def NotifierRun.follow (s : NotifierRun Thread Id) (t : Thread) (state : MdState) (turn : PortsTurn)
    (link : Link Id) : NotifierRun Thread Id :=
  match link with
  | .poison => { s with crashed := true }
  | .entry notifier => s.setPc t (.call state turn notifier)
  | .head =>
    let s := { s with finished := s.finished ++ [s.walk t] }
    match turn with
    | .before => s.setPc t .idle
    | .after => s.setPc t (.ports state turn)

/-- `t7xx_port_proxy_md_status_notify` for all ports. -/
def NotifierRun.notifyPorts (s : NotifierRun Thread Id) (t : Thread) (state : MdState) (turn : PortsTurn) :
    NotifierRun Thread Id :=
  let s := { s with portStates := s.portStates ++ [state] }
  match turn with
  | .before => s.setPc t (.first state turn)
  | .after => s.setPc t .idle

def NotifierRun.goOn (s : NotifierRun Thread Id) (t : Thread) : Option (NotifierRun Thread Id) :=
  match s.pc t with
  | .idle => none
  | .store state turn =>
    let s := { s with mdState := state }
    match turn with
    | .before => some (s.setPc t (.ports state turn))
    | .after => some (s.setPc t (.first state turn))
  | .ports state turn => some (s.notifyPorts t state turn)
  | .first state turn =>
    some ((s.setWalk t ⟨s.notifierList, []⟩).follow t state turn (linkOf s.notifierList.head?))
  | .call state turn notifier =>
    let met := { s.walk t with met := (s.walk t).met ++ [notifier] }
    let call := ⟨notifier, state, notifier ∈ s.notifierList⟩
    some { (s.setWalk t met).setPc t (.next state turn notifier) with calls := s.calls ++ [call] }
  | .next state turn notifier => some (s.follow t state turn (nextLink s.notifierList notifier))

/-- A notifier is registered only while it is not in the list. -/
def NotifierRun.step (s : NotifierRun Thread Id) : NotifierLabel Thread Id → Option (NotifierRun Thread Id)
  | .broadcast t state => if s.pc t = .idle then some (s.setPc t (.store state .before)) else none
  | .broadcastReady t =>
    if s.pc t = .idle then
      if s.mdState = .waitingForHs2 then some (s.setPc t (.store .ready .after)) else some s
    else none
  | .go t => if s.crashed then none else s.goOn t
  | .register notifier =>
    if notifier ∈ s.notifierList then none
    else some { s with notifierList := s.notifierList ++ [notifier] }
  | .unregister notifier =>
    let delete (entries : List Id) : List Id := entries.filter (· ≠ notifier)
    some { s with
      notifierList := delete s.notifierList
      walk := fun t => { s.walk t with owed := delete (s.walk t).owed } }

def notifierInit (mdState : MdState) : NotifierRun Thread Id :=
  ⟨mdState, [], fun _ => .idle, fun _ => ⟨[], []⟩, [], [], [], false⟩

/-- No broadcast is at the entry that is deleted. -/
def NotUnderWalk (s : NotifierRun Thread Id) : NotifierLabel Thread Id → Prop
  | .unregister notifier => ∀ t, (s.pc t).standsAt ≠ some notifier
  | _ => True

/-- No broadcast is at a deleted entry or has run into one, only registered notifiers were called, and a
    broadcast that has ended has called all those that were registered throughout, each once and in
    the order of the list. -/
structure NotifierRun.Notifies (s : NotifierRun Thread Id) : Prop where
  sound : s.crashed = false
  standing : ∀ t, ∀ notifier ∈ (s.pc t).standsAt, notifier ∈ s.notifierList
  calls : ∀ call ∈ s.calls, call.registered = true
  finished : ∀ walk ∈ s.finished, Ended walk.owed walk.met

end Steps

section Walks

variable {Thread Id : Type} [DecidableEq Thread] [DecidableEq Id] {s : NotifierRun Thread Id}

def NotifierWalk.At (walk : NotifierWalk Id) (entries : List Id) : NotifyPc Id → Prop
  | .call _ _ notifier => Stands entries walk.owed walk.met notifier
  | .next _ _ notifier =>
    ∃ met, walk.met = met ++ [notifier] ∧ Stands entries walk.owed met notifier
  | _ => True

structure NotifierRun.Inv (s : NotifierRun Thread Id) : Prop where
  sound : s.crashed = false
  nodup : s.notifierList.Nodup
  walks : ∀ t, (s.walk t).At s.notifierList (s.pc t)
  calls : ∀ call ∈ s.calls, call.registered = true
  finished : ∀ walk ∈ s.finished, Ended walk.owed walk.met

theorem NotifierWalk.At.listed {walk : NotifierWalk Id} {entries : List Id} {pc : NotifyPc Id}
    (placed : walk.At entries pc) {notifier : Id} (stands : pc.standsAt = some notifier) :
    notifier ∈ entries := by
  cases pc with
  | call state turn other =>
    cases stands
    exact Stands.mem placed
  | next state turn other =>
    cases stands
    obtain ⟨met, _, here⟩ := placed
    exact here.mem
  | _ => cases stands

omit [DecidableEq Thread] in
theorem NotifierRun.Inv.notifies (inv : s.Inv) : s.Notifies :=
  ⟨inv.sound, fun t _ stands => (inv.walks t).listed stands, inv.calls, inv.finished⟩

theorem walks_moved {entries : List Id} {pc : Thread → NotifyPc Id} {walk : Thread → NotifierWalk Id}
    (walks : ∀ t, (walk t).At entries (pc t)) (t : Thread) {after : NotifyPc Id}
    {walked : NotifierWalk Id} (placed : walked.At entries after) (other : Thread) :
    (Function.update walk t walked other).At entries (Function.update pc t after other) := by
  by_cases same : other = t
  · subst same
    rw [Function.update_self, Function.update_self]
    exact placed
  · rw [Function.update_of_ne same, Function.update_of_ne same]
    exact walks other

theorem NotifierRun.Inv.setPc (inv : s.Inv) {t : Thread} {pc : NotifyPc Id}
    (placed : (s.walk t).At s.notifierList pc) : (s.setPc t pc).Inv := by
  refine ⟨inv.sound, inv.nodup, fun other => ?_, inv.calls, inv.finished⟩
  have moved := walks_moved inv.walks t placed other
  rwa [Function.update_eq_self] at moved

theorem NotifierRun.Inv.setWalk (inv : s.Inv) {t : Thread} {walk : NotifierWalk Id}
    (placed : walk.At s.notifierList (s.pc t)) : (s.setWalk t walk).Inv := by
  refine ⟨inv.sound, inv.nodup, fun other => ?_, inv.calls, inv.finished⟩
  have moved := walks_moved inv.walks t placed other
  rwa [Function.update_eq_self] at moved

theorem NotifierRun.Inv.follow (inv : s.Inv) {t : Thread} (state : MdState) (turn : PortsTurn)
    {link : Link Id}
    (leads : match link with
      | .poison => False
      | .head => Ended (s.walk t).owed (s.walk t).met
      | .entry notifier => Stands s.notifierList (s.walk t).owed (s.walk t).met notifier) :
    (s.follow t state turn link).Inv := by
  cases link with
  | poison => exact leads.elim
  | entry notifier => exact inv.setPc leads
  | head =>
    have ended : NotifierRun.Inv { s with finished := s.finished ++ [s.walk t] } := by
      refine ⟨inv.sound, inv.nodup, inv.walks, inv.calls, fun walk member => ?_⟩
      rcases List.mem_append.mp member with earlier | last
      · exact inv.finished walk earlier
      · cases List.mem_singleton.mp last
        exact leads
    cases turn with
    | before => exact ended.setPc trivial
    | after => exact ended.setPc trivial

theorem NotifierRun.Inv.goOn {r : NotifierRun Thread Id} (inv : s.Inv) {t : Thread}
    (taken : s.goOn t = some r) : r.Inv := by
  have here := inv.walks t
  unfold NotifierRun.goOn at taken
  cases pc : s.pc t with
  | idle =>
    rw [pc] at taken
    cases taken
  | store state turn =>
    rw [pc] at taken
    have stored : NotifierRun.Inv { s with mdState := state } :=
      ⟨inv.sound, inv.nodup, inv.walks, inv.calls, inv.finished⟩
    cases turn with
    | before =>
      cases taken
      exact stored.setPc trivial
    | after =>
      cases taken
      exact stored.setPc trivial
  | ports state turn =>
    rw [pc] at taken
    have told : NotifierRun.Inv { s with portStates := s.portStates ++ [state] } :=
      ⟨inv.sound, inv.nodup, inv.walks, inv.calls, inv.finished⟩
    cases turn with
    | before =>
      cases taken
      exact told.setPc trivial
    | after =>
      cases taken
      exact told.setPc trivial
  | first state turn =>
    rw [pc] at taken
    cases taken
    have walked : (s.setWalk t ⟨s.notifierList, []⟩).Inv := by
      apply inv.setWalk
      rw [pc]
      trivial
    have owes : (s.setWalk t ⟨s.notifierList, []⟩).walk t = ⟨s.notifierList, []⟩ := Function.update_self ..
    apply walked.follow
    rw [owes]
    cases entries : s.notifierList with
    | nil => rfl
    | cons notifier rest =>
      show Stands s.notifierList (notifier :: rest) [] notifier
      rw [entries]
      exact Stands.begin (entries ▸ inv.nodup)
  | call state turn notifier =>
    rw [pc] at taken here
    cases taken
    have known := Stands.mem here
    refine ⟨inv.sound, inv.nodup, walks_moved inv.walks t ⟨(s.walk t).met, rfl, here⟩, ?_, inv.finished⟩
    intro call member
    rcases List.mem_append.mp member with earlier | last
    · exact inv.calls call earlier
    · cases List.mem_singleton.mp last
      exact decide_eq_true known
  | next state turn notifier =>
    rw [pc] at taken here
    cases taken
    obtain ⟨met, same, stands⟩ := here
    apply inv.follow
    rw [same]
    exact stands.next

theorem NotifierWalk.At.add {walk : NotifierWalk Id} {entries : List Id} {pc : NotifyPc Id}
    (placed : walk.At entries pc) {notifier : Id} (fresh : notifier ∉ entries) :
    walk.At (entries ++ [notifier]) pc := by
  cases pc with
  | call state turn other => exact Stands.add placed fresh
  | next state turn other =>
    obtain ⟨met, same, here⟩ := placed
    exact ⟨met, same, here.add fresh⟩
  | _ => trivial

theorem NotifierWalk.At.delete {walk : NotifierWalk Id} {entries : List Id} {pc : NotifyPc Id}
    (placed : walk.At entries pc) {notifier : Id} (apart : pc.standsAt ≠ some notifier) :
    NotifierWalk.At { walk with owed := walk.owed.filter (· ≠ notifier) }
      (entries.filter (· ≠ notifier)) pc := by
  cases pc with
  | call state turn other => exact Stands.delete placed fun same => apart (congrArg some same)
  | next state turn other =>
    obtain ⟨met, same, here⟩ := placed
    exact ⟨met, same, here.delete fun equal => apart (congrArg some equal)⟩
  | _ => trivial

theorem NotifierRun.Inv.step {r : NotifierRun Thread Id} {label : NotifierLabel Thread Id} (inv : s.Inv)
    (allowed : NotUnderWalk s label) (taken : s.step label = some r) : r.Inv := by
  cases label with
  | broadcast t state =>
    simp only [NotifierRun.step] at taken
    split at taken
    · cases taken
      exact inv.setPc trivial
    · cases taken
  | broadcastReady t =>
    simp only [NotifierRun.step] at taken
    split at taken
    · split at taken
      · cases taken
        exact inv.setPc trivial
      · cases taken
        exact inv
    · cases taken
  | go t =>
    simp only [NotifierRun.step] at taken
    split at taken
    · cases taken
    · exact inv.goOn taken
  | register notifier =>
    simp only [NotifierRun.step] at taken
    split at taken
    · cases taken
    rename_i fresh
    cases taken
    refine ⟨inv.sound, ?_, fun t => (inv.walks t).add fresh, inv.calls, inv.finished⟩
    rw [List.nodup_append]
    refine ⟨inv.nodup, List.nodup_singleton notifier, fun a member b last same => ?_⟩
    rw [List.mem_singleton.mp last] at same
    exact fresh (same ▸ member)
  | unregister notifier =>
    cases taken
    exact ⟨inv.sound, inv.nodup.filter _, fun t => (inv.walks t).delete (allowed t), inv.calls,
      inv.finished⟩

/-- A deletion under a broadcast leaves it at a deleted entry at once. -/
theorem allowed_of_standing {r : NotifierRun Thread Id} {label : NotifierLabel Thread Id}
    (taken : s.step label = some r) (notifies : r.Notifies) : NotUnderWalk s label := by
  cases label with
  | unregister notifier =>
    cases taken
    intro t stands
    have listed := notifies.standing t notifier stands
    simp at listed
  | _ => trivial

/-- The broadcasts, of any threads at any time, reach the notifiers as they should exactly if no
    notifier is unregistered while one of them is at it. -/
theorem notifies_iff_not_under_walk (mdState : MdState) (labels : List (NotifierLabel Thread Id)) :
    Visits NotifierRun.Notifies NotifierRun.step (notifierInit mdState : NotifierRun Thread Id) labels ↔
      Obeys NotUnderWalk NotifierRun.step (notifierInit mdState : NotifierRun Thread Id) labels := by
  apply visits_iff_obeys_of_invariant NotifierRun.Inv fun s inv => inv.notifies
  · exact fun s label r inv allowed taken => inv.step allowed taken
  · exact fun s label r inv taken notifies => allowed_of_standing taken notifies
  · exact ⟨rfl, List.nodup_nil, fun t => trivial, nofun, nofun⟩

/-- The FSM thread stands at the only notifier when that is deleted: its next pointer is poisoned. -/
example : (execute NotifierRun.step (notifierInit .invalid : NotifierRun Unit Unit)
    [.register (), .broadcast () .stopped, .go (), .go (), .go (), .go (), .unregister (), .go ()]).map
      NotifierRun.crashed = some true := by decide

end Walks

end T7xxModel.Fsm
