import Mathlib.Order.Basic

namespace Kernel

/-- One NAPI context: the bits of its state, whether it is on a poll list, and whether its poll
    function is running. `disabled` says that `napi_disable` holds the scheduled bit. -/
structure Napi where
  sched : Bool
  missed : Bool
  disabling : Bool
  disabled : Bool
  listed : Bool
  polling : Bool
deriving DecidableEq, Repr

namespace Napi

def schedule (n : Napi) : Napi :=
  if n.disabling then n
  else if n.sched then { n with missed := true }
  else { n with sched := true, listed := true }

def completeDone (n : Napi) : Napi :=
  if n.missed then { n with missed := false, sched := true, listed := true }
  else { n with sched := false }

/-- The core takes the context off its list and enters the poll function. -/
def pollBegin (n : Napi) : Option Napi :=
  if n.listed = true ∧ n.sched = true ∧ n.polling = false then
    some { n with listed := false, polling := true }
  else none

/-- The core after a poll: work below the budget is taken to mean that the driver completed. -/
def pollEnd (budget work : Int) (n : Napi) : Napi :=
  let n := { n with polling := false }
  if work < budget then n
  else if n.disabling then n.completeDone
  else { n with listed := true }

def disableBegin (n : Napi) : Napi := { n with disabling := true }

/-- `napi_disable` waits for the scheduled bit to clear and takes it. -/
def disableDone (n : Napi) : Option Napi :=
  if n.disabling = true ∧ n.sched = false then
    some { n with disabling := false, sched := true, disabled := true }
  else none

def enable (n : Napi) : Option Napi :=
  if n.disabled then some { n with sched := false, disabled := false } else none

/-- Scheduled means that a poll is to come, or running, or held off by `napi_disable`. -/
def PollPending (n : Napi) : Prop :=
  n.sched = true → n.listed = true ∨ n.polling = true ∨ n.disabled = true

instance (n : Napi) : Decidable n.PollPending := by
  unfold PollPending
  infer_instance

/-- A context on a list is scheduled, and one held by `napi_disable` is neither listed nor polled. -/
structure Consistent (n : Napi) : Prop where
  listed : n.listed = true → n.sched = true
  held : n.disabled = true → n.sched = true ∧ n.listed = false ∧ n.polling = false

/-- A poll that runs was taken off its list and has not completed. -/
structure Sound (n : Napi) : Prop where
  consistent : n.Consistent
  polled : n.polling = true → n.sched = true ∧ n.listed = false

/-- It is scheduled or running. -/
def Busy (n : Napi) : Prop := n.listed = true ∨ n.polling = true

instance (n : Napi) : Decidable n.Busy := inferInstanceAs (Decidable (_ ∨ _))

/-- `napi_schedule` puts it on a list. -/
def Schedulable (n : Napi) : Prop := n.disabling = false ∧ n.sched = false

instance (n : Napi) : Decidable n.Schedulable := inferInstanceAs (Decidable (_ ∧ _))

/-- Its poll function runs and has not completed. -/
def Running (n : Napi) : Prop := n.polling = true ∧ n.sched = true

theorem Running.pending {n : Napi} (running : n.Running) : n.PollPending :=
  fun _ => Or.inr (Or.inl running.1)

theorem Running.not_disabled {n : Napi} (running : n.Running) (consistent : n.Consistent) :
    n.disabled = false := by
  rw [Bool.eq_false_iff]
  intro disabled
  have idle := (consistent.held disabled).2.2
  rw [running.1] at idle
  cases idle

theorem schedule_consistent {n : Napi} (consistent : n.Consistent) : n.schedule.Consistent := by
  unfold schedule
  split
  · exact consistent
  · split
    · exact ⟨consistent.listed, consistent.held⟩
    · rename_i idle
      exact ⟨fun _ => rfl, fun disabled => absurd (consistent.held disabled).1 idle⟩

theorem schedule_polling (n : Napi) : n.schedule.polling = n.polling := by
  unfold schedule
  split
  · rfl
  · split
    · rfl
    · rfl

theorem schedule_pending {n : Napi} (pending : n.PollPending) : n.schedule.PollPending := by
  unfold schedule
  split
  · exact pending
  · split
    · exact pending
    · intro _
      exact Or.inl rfl

theorem schedule_running {n : Napi} (running : n.Running) : n.schedule.Running := by
  refine ⟨(schedule_polling n).trans running.1, ?_⟩
  unfold schedule
  split
  · exact running.2
  · split
    · exact running.2
    · rfl

theorem schedule_keeps_list {n : Napi} (scheduled : n.sched = true) :
    n.schedule.listed = n.listed := by
  unfold schedule
  split
  · rfl
  · rfl

theorem schedule_sched {n : Napi} (scheduled : n.sched = true) : n.schedule.sched = true := by
  unfold schedule
  split
  · exact scheduled
  · exact scheduled

theorem schedule_busy_iff {n : Napi} : n.schedule.Busy ↔ n.Busy ∨ n.Schedulable := by
  obtain ⟨sched, missed, disabling, disabled, listed, polling⟩ := n
  cases disabling <;> cases sched <;> simp [schedule, Busy, Schedulable]

theorem Sound.schedule {n : Napi} (sound : n.Sound) : n.schedule.Sound := by
  refine ⟨schedule_consistent sound.consistent, fun polling => ?_⟩
  rw [schedule_polling] at polling
  obtain ⟨sched, unlisted⟩ := sound.polled polling
  exact ⟨schedule_sched sched, (schedule_keeps_list sched).trans unlisted⟩

theorem schedule_listed {n : Napi} (listed : n.sched = true → n.listed = true) :
    n.schedule.sched = true → n.schedule.listed = true := by
  unfold schedule
  split
  · exact listed
  · split
    · exact listed
    · exact fun _ => rfl

theorem completeDone_listed (n : Napi) : n.completeDone.sched = true → n.completeDone.listed = true := by
  unfold completeDone
  split
  · exact fun _ => rfl
  · exact nofun

theorem completeDone_consistent {n : Napi} (enabled : n.disabled = false) (unlisted : n.listed = false) :
    n.completeDone.Consistent := by
  unfold completeDone
  split
  · refine ⟨fun _ => rfl, fun disabled => ?_⟩
    rw [show n.disabled = true from disabled] at enabled
    cases enabled
  · refine ⟨fun listed => ?_, fun disabled => ?_⟩
    · rw [show n.listed = true from listed] at unlisted
      cases unlisted
    · rw [show n.disabled = true from disabled] at enabled
      cases enabled

theorem disableDone_sched {n m : Napi} (taken : n.disableDone = some m) : n.sched = false := by
  unfold disableDone at taken
  split at taken
  · rename_i ready
    exact ready.2
  · cases taken

theorem disableDone_spec {n m : Napi} (taken : n.disableDone = some m) (consistent : n.Consistent)
    (idle : n.polling = false) : m.PollPending ∧ m.Consistent ∧ m.polling = false := by
  have unlisted : n.listed = false := by
    rw [Bool.eq_false_iff]
    intro listed
    have scheduled := consistent.listed listed
    rw [disableDone_sched taken] at scheduled
    cases scheduled
  unfold disableDone at taken
  split at taken
  · cases taken
    exact ⟨fun _ => Or.inr (Or.inr rfl), ⟨fun _ => rfl, fun _ => ⟨rfl, unlisted, idle⟩⟩, idle⟩
  · cases taken

theorem enable_spec {n m : Napi} (taken : n.enable = some m) (consistent : n.Consistent) :
    m.PollPending ∧ m.Consistent ∧ m.polling = false ∧ n.polling = false := by
  unfold enable at taken
  split at taken
  · rename_i disabled
    cases taken
    obtain ⟨_, unlisted, idle⟩ := consistent.held disabled
    refine ⟨fun scheduled => ?_, ⟨fun listed => ?_, fun held => ?_⟩, idle, idle⟩
    · cases scheduled
    · rw [show n.listed = true from listed] at unlisted
      cases unlisted
    · cases held
  · cases taken

theorem Consistent.disabled_idle {n : Napi} (consistent : n.Consistent) (disabled : n.disabled = true) :
    ¬ n.Busy := by
  obtain ⟨-, unlisted, unpolled⟩ := consistent.held disabled
  simp [Busy, unlisted, unpolled]

theorem pollBegin_spec {n m : Napi} (taken : n.pollBegin = some m) (consistent : n.Consistent) :
    m.Running ∧ m.listed = false ∧ m.Consistent := by
  unfold pollBegin at taken
  split at taken
  · rename_i ready
    cases taken
    refine ⟨⟨rfl, ready.2.1⟩, rfl, ⟨fun listed => ?_, fun disabled => ?_⟩⟩
    · cases listed
    · have unlisted := (consistent.held disabled).2.1
      rw [ready.1] at unlisted
      cases unlisted
  · cases taken

theorem left_consistent {n : Napi} (consistent : n.Consistent) :
    ({ n with polling := false } : Napi).Consistent :=
  ⟨consistent.listed, fun disabled =>
    ⟨(consistent.held disabled).1, (consistent.held disabled).2.1, rfl⟩⟩

theorem pollEnd_below {n : Napi} {budget work : Int} (below : work < budget) :
    n.pollEnd budget work = { n with polling := false } := if_pos below

/-- A poll that keeps the whole budget is listed anew, or completed for `napi_disable`. -/
theorem pollEnd_full {n : Napi} {budget work : Int} (full : ¬ work < budget) (running : n.Running)
    (enabled : n.disabled = false) (unlisted : n.listed = false) :
    (n.pollEnd budget work).PollPending ∧ (n.pollEnd budget work).Consistent ∧
      (n.pollEnd budget work).polling = false := by
  unfold pollEnd
  dsimp only
  rw [if_neg full]
  split
  · refine ⟨fun scheduled => Or.inl (completeDone_listed _ scheduled),
      completeDone_consistent enabled unlisted, ?_⟩
    unfold completeDone
    split
    · rfl
    · rfl
  · refine ⟨fun _ => Or.inl rfl, ⟨fun _ => running.2, fun disabled => ?_⟩, rfl⟩
    rw [show n.disabled = true from disabled] at enabled
    cases enabled

theorem Sound.enable {n m : Napi} (sound : n.Sound) (taken : n.enable = some m) :
    m.Sound ∧ ¬ n.Busy := by
  obtain ⟨-, consistent, idle, -⟩ := enable_spec taken sound.consistent
  refine ⟨⟨consistent, fun polling => ?_⟩, ?_⟩
  · rw [idle] at polling
    cases polling
  · unfold Napi.enable at taken
    split at taken
    · rename_i disabled
      exact sound.consistent.disabled_idle disabled
    · cases taken

theorem Sound.disableDone {n m : Napi} (sound : n.Sound) (taken : n.disableDone = some m) :
    m.Sound ∧ ¬ n.Busy := by
  have released := disableDone_sched taken
  have unpolled : n.polling = false := by
    by_contra polling
    rw [(sound.polled (Bool.not_eq_false _ ▸ polling)).1] at released
    cases released
  obtain ⟨-, consistent, still⟩ := disableDone_spec taken sound.consistent unpolled
  refine ⟨⟨consistent, fun polling => ?_⟩, ?_⟩
  · rw [still] at polling
    cases polling
  · rintro (listed | polling)
    · rw [sound.consistent.listed listed] at released
      cases released
    · rw [unpolled] at polling
      cases polling

/-- After a poll that did not complete the core runs another one, unless `napi_disable` waits and no
    schedule was missed. -/
theorem pollEnd_busy_iff {n : Napi} {budget work : Int} (full : ¬ work < budget) (unlisted : n.listed = false) :
    (n.pollEnd budget work).Busy ↔ n.disabling = true → n.missed = true := by
  obtain ⟨sched, missed, disabling, disabled, listed, polling⟩ := n
  cases unlisted
  cases disabling <;> cases missed <;> simp [pollEnd, full, completeDone, Busy]

/-- The same for one that completes and schedules itself. -/
theorem reschedule_busy_iff {n : Napi} (unlisted : n.listed = false) :
    ({ n.completeDone.schedule with polling := false } : Napi).Busy ↔
      n.disabling = true → n.missed = true := by
  obtain ⟨sched, missed, disabling, disabled, listed, polling⟩ := n
  cases unlisted
  cases disabling <;> cases missed <;> simp [schedule, completeDone, Busy]

end Napi

end Kernel
