import SparkRoute.Sparkrun.Frames

/-!
# What the sections of the mutex do to recovery states

A recovery state changes its policy only together with its epoch, and its counters only in the
sections that are named after it.
-/

namespace SparkRoute.Sparkrun

open Lib List OrderedMap Workloads

/-! ### One recovery state -/

namespace RecoveryState

/-- Epochs grow, timers are only taken away, the policy belongs to the epoch, and the context of
an epoch that ends is cancelled. -/
structure Framed (old new : RecoveryState) : Prop where
  armed : new.armed.Sublist old.armed
  epoch : old.epoch ≤ new.epoch
  policy : new.epoch = old.epoch → new.policy = old.policy
  cancel : new.epoch = old.epoch → old.cancel = some old.epoch → new.cancel = some new.epoch
  bumped : old.epoch < new.epoch → old.cancel = some old.epoch → old.epoch ∈ new.cancelled
  cancelled : ∀ epoch ∈ old.cancelled, epoch ∈ new.cancelled

structure SameCounters (old new : RecoveryState) : Prop where
  attempts : new.attempts = old.attempts
  stops : new.stops = old.stops
  starts : new.starts = old.starts

structure Calm (old new : RecoveryState) : Prop where
  framed : old.Framed new
  counters : old.SameCounters new

structure Fresh (state : RecoveryState) : Prop where
  armed : state.armed = []
  attempts : state.attempts = 0
  stops : state.stops = 0
  starts : state.starts = 0

/-- A timer is armed for `id`, with a restart left in the budget. -/
structure Scheduled (id : GoString) (old new : RecoveryState) : Prop where
  armed : new.armed = old.armed ++ [(old.epoch + 1, id)]
  epoch : new.epoch = old.epoch + 1
  policy : new.policy = old.policy
  counters : old.SameCounters new
  left : (old.attempts : Int) < old.policy.maxRestarts
  unbegun : old.cancel = none
  cancelled : new.cancelled = old.cancelled

def core (state : RecoveryState) : List (Nat × GoString) × Nat × RecoveryPolicy × Option Nat ×
    List Nat × Nat × Nat × Nat :=
  (state.armed, state.epoch, state.policy, state.cancel, state.cancelled, state.attempts,
    state.stops, state.starts)

variable (state : RecoveryState) {old new : RecoveryState}

theorem Framed.of_eq (same : (new.armed, new.epoch, new.policy, new.cancel, new.cancelled) =
      (old.armed, old.epoch, old.policy, old.cancel, old.cancelled)) : old.Framed new := by
  simp only [Prod.mk.injEq] at same
  obtain ⟨armed, epoch, policy, cancel, cancelled⟩ := same
  exact ⟨by rw [armed], epoch.ge, fun _ => policy, fun _ current => by rw [cancel, epoch, current],
    fun later => absurd epoch later.ne', fun _ listed => by rwa [cancelled]⟩

theorem Framed.refl : state.Framed state := .of_eq rfl

variable {first second third : RecoveryState}

theorem Framed.trans (left : first.Framed second) (right : second.Framed third) :
    first.Framed third where
  armed := right.armed.trans left.armed
  epoch := left.epoch.trans right.epoch
  policy := by
    intro same
    have early : second.epoch = first.epoch := le_antisymm (same ▸ right.epoch) left.epoch
    rw [right.policy (same.trans early.symm), left.policy early]
  cancel := by
    intro same current
    have early : second.epoch = first.epoch := le_antisymm (same ▸ right.epoch) left.epoch
    exact right.cancel (same.trans early.symm) (left.cancel early current)
  bumped := by
    intro later current
    rcases left.epoch.lt_or_eq with early | early
    · exact right.cancelled _ (left.bumped early current)
    · rw [early] at later ⊢
      exact right.bumped later (left.cancel early.symm current)
  cancelled := fun epoch listed => right.cancelled epoch (left.cancelled epoch listed)

theorem SameCounters.trans (left : first.SameCounters second) (right : second.SameCounters third) :
    first.SameCounters third :=
  ⟨right.attempts.trans left.attempts, right.stops.trans left.stops, right.starts.trans left.starts⟩

theorem Calm.trans (left : first.Calm second) (right : second.Calm third) : first.Calm third :=
  ⟨left.framed.trans right.framed, left.counters.trans right.counters⟩

theorem Calm.of_core (same : new.core = old.core) : old.Calm new := by
  simp only [core, Prod.mk.injEq] at same
  obtain ⟨armed, epoch, policy, cancel, cancelled, attempts, stops, starts⟩ := same
  exact ⟨.of_eq (by rw [armed, epoch, policy, cancel, cancelled]), attempts, stops, starts⟩

theorem Calm.refl : state.Calm state := .of_core rfl

theorem Fresh.calm (fresh : old.Fresh) (calm : old.Calm new) : new.Fresh where
  armed := sublist_nil.mp (fresh.armed ▸ calm.framed.armed)
  attempts := calm.counters.attempts.trans fresh.attempts
  stops := calm.counters.stops.trans fresh.stops
  starts := calm.counters.starts.trans fresh.starts

theorem cancelRecoveryLocked_calm : state.Calm state.cancelRecoveryLocked where
  framed :=
    { armed := filter_sublist
      epoch := Nat.le_succ _
      policy := fun _ => rfl
      cancel := fun same => absurd same (Nat.succ_ne_self _)
      bumped := fun _ current => mem_append_right _ (by rw [current]; exact mem_cons_self)
      cancelled := fun _ listed => mem_append_left _ listed }
  counters := ⟨rfl, rfl, rfl⟩

theorem cancelCleared_calm : state.Calm state.cancelRecoveryLocked.cleared :=
  state.cancelRecoveryLocked_calm.trans (.of_core rfl)

theorem newPolicy_calm (policy : RecoveryPolicy) :
    state.Calm { state.cancelRecoveryLocked.cleared with policy := policy } where
  framed :=
    { state.cancelCleared_calm.framed with
      policy := fun same => absurd same (Nat.succ_ne_self _) }
  counters := ⟨rfl, rfl, rfl⟩

theorem reset_framed : state.Framed state.reset :=
  state.cancelCleared_calm.framed.trans (.of_eq rfl)

end RecoveryState

/-! ### All recovery states -/

/-- Recovery states change as `change` says, and new ones are fresh. -/
structure Recovers (change : RecoveryKey → RecoveryState → RecoveryState → Prop)
    (before after : OrderedMap RecoveryKey RecoveryState) : Prop where
  stays : ∀ key old, before.get key = some old →
    ∃ new, after.get key = some new ∧ change key old new
  fresh : ∀ key new, before.get key = none → after.get key = some new → new.Fresh

abbrev Calmly : RecoveryKey → RecoveryState → RecoveryState → Prop := fun _ => RecoveryState.Calm

namespace Recovers

variable {change other : RecoveryKey → RecoveryState → RecoveryState → Prop}
  {before after : OrderedMap RecoveryKey RecoveryState}

theorem imp (implies : ∀ {key old new}, change key old new → other key old new)
    (recovers : Recovers change before after) : Recovers other before after where
  stays := by
    intro key old present
    obtain ⟨new, found, changed⟩ := recovers.stays key old present
    exact ⟨new, found, implies changed⟩
  fresh := recovers.fresh

theorem refl (reflexive : ∀ key state, change key state state)
    (recoveries : OrderedMap RecoveryKey RecoveryState) :
    Recovers change recoveries recoveries where
  stays := fun key old present => ⟨old, present, reflexive key old⟩
  fresh := by
    intro key new absent present
    rw [absent] at present
    cases present

theorem calm_refl (recoveries : OrderedMap RecoveryKey RecoveryState) :
    Recovers Calmly recoveries recoveries :=
  refl (fun _ => .refl) recoveries

theorem calm_trans {last : OrderedMap RecoveryKey RecoveryState}
    (left : Recovers Calmly before after) (right : Recovers Calmly after last) :
    Recovers Calmly before last where
  stays := by
    intro key old present
    obtain ⟨middle, found, early⟩ := left.stays key old present
    obtain ⟨new, reached, late⟩ := right.stays key middle found
    exact ⟨new, reached, early.trans late⟩
  fresh := by
    intro key new absent present
    cases found : after.get key with
    | none => exact right.fresh key new found present
    | some middle =>
      obtain ⟨other, reached, calm⟩ := right.stays key middle found
      rw [present] at reached
      cases reached
      exact (left.fresh key middle absent found).calm calm

variable {new : RecoveryState}

theorem insert {key : RecoveryKey} (reflexive : ∀ other ≠ key, ∀ state, change other state state)
    {old : RecoveryState} (present : before.get key = some old) (changed : change key old new) :
    Recovers change before (before.insert key new) where
  stays := by
    intro other state found
    rw [get_insert]
    split
    next same =>
      subst same
      rw [present] at found
      cases found
      exact ⟨new, rfl, changed⟩
    next differs => exact ⟨state, found, reflexive other differs state⟩
  fresh := by
    intro other state absent found
    rw [get_insert] at found
    split at found
    next same =>
      rw [same, present] at absent
      cases absent
    · rw [absent] at found
      cases found

theorem insert_fresh {key : RecoveryKey} (absent : before.get key = none) (fresh : new.Fresh) :
    Recovers Calmly before (before.insert key new) where
  stays := by
    intro other state found
    rw [get_insert]
    split
    next same =>
      rw [same, absent] at found
      cases found
    · exact ⟨state, found, .refl state⟩
  fresh := by
    intro other state unknown found
    rw [get_insert] at found
    split at found
    · cases found
      exact fresh
    · rw [unknown] at found
      cases found

end Recovers

namespace Workloads

variable {workloads : Workloads}

theorem modifyRecovery_recovers {change : RecoveryKey → RecoveryState → RecoveryState → Prop}
    {key : RecoveryKey} (reflexive : ∀ other ≠ key, ∀ state, change other state state)
    {move : RecoveryState → RecoveryState} (changed : ∀ state, change key state (move state)) :
    Recovers change workloads.recoveries (workloads.modifyRecovery key move).recoveries := by
  unfold modifyRecovery
  cases present : workloads.recoveries.get key with
  | some state => exact .insert reflexive present (changed state)
  | none =>
    refine ⟨fun other state found => ⟨state, found, reflexive other ?_ state⟩, ?_⟩
    · rintro rfl
      rw [present] at found
      cases found
    · intro other state absent found
      rw [absent] at found
      cases found

variable (id : GoString)

theorem modifyJob_recoveries (change : Workload → Workload) :
    (workloads.modifyJob id change).recoveries = workloads.recoveries := by
  unfold modifyJob
  split <;> rfl

theorem modifyBoth_recovers {change : RecoveryKey → RecoveryState → RecoveryState → Prop}
    {key : RecoveryKey} (reflexive : ∀ other ≠ key, ∀ state, change other state state)
    {id : GoString} {adjust : Workload → Workload} {move : RecoveryState → RecoveryState}
    (changed : ∀ state, change key state (move state)) :
    Recovers change workloads.recoveries
      ((workloads.modifyJob id adjust).modifyRecovery key move).recoveries := by
  have moved := @modifyRecovery_recovers (workloads.modifyJob id adjust) change key reflexive
    move changed
  rw [modifyJob_recoveries] at moved
  exact moved

theorem observeRecoveryLocked_calm (job : Workload) :
    Recovers Calmly workloads.recoveries
      (workloads.observeRecoveryLocked id job).recoveries := by
  have observed (state : RecoveryState) : state.Calm
      (if state.jobID ≠ id then { state.cancelRecoveryLocked.cleared with jobID := id }
      else state) := by
    split
    · exact state.cancelCleared_calm.trans (.of_core rfl)
    · exact .refl state
  unfold observeRecoveryLocked
  cases present : workloads.recoveries.get job.recoveryKey with
  | some state => exact .insert (fun _ _ => .refl) present (observed state)
  | none =>
    have blank : RecoveryState.Fresh { policy := job.binding.recovery.effective } :=
      ⟨rfl, rfl, rfl, rfl⟩
    exact .insert_fresh present (blank.calm (observed _))

theorem observe_calm (binding : Binding) (endpoint : Endpoint)
    (lifecycleBridge prepared : Bool) (now : Int) :
    Recovers Calmly workloads.recoveries
      (workloads.observe binding endpoint lifecycleBridge false prepared now).recoveries := by
  have noted := @observeRecoveryLocked_calm
    ({ workloads with
      observations := (endpoint.workloadID, endpoint.owned) :: workloads.observations }.setJob
      endpoint.workloadID (workloads.noted binding endpoint lifecycleBridge prepared now))
    endpoint.workloadID (workloads.noted binding endpoint lifecycleBridge prepared now)
  dsimp only [observe]
  rw [if_neg Bool.false_ne_true]
  split
  · rw [scheduleLocked, modifyJob_recoveries]
    exact noted
  · exact noted

theorem configureRecoveryLocked_calm (job : Workload) :
    Recovers Calmly workloads.recoveries
      (workloads.configureRecoveryLocked id job).recoveries := by
  fun_cases configureRecoveryLocked workloads id job with
  | case4 state present => exact .insert (fun _ _ => .refl) present (state.newPolicy_calm _)
  | _ => exact .calm_refl _

theorem configureJob_calm (policies : OrderedMap RecoveryKey Binding) (now : Int) (id : GoString) :
    Recovers Calmly workloads.recoveries
      (configureJob policies now workloads id).recoveries := by
  unfold configureJob
  split
  · exact .calm_refl _
  next job _ =>
    rw [scheduleLocked, modifyJob_recoveries]
    exact @configureRecoveryLocked_calm (workloads.setJob id
      { job with binding := governed policies job.binding job.cluster }) id _

theorem configure_calm (targets : List Target) (order : List GoString) (now : Int) :
    Recovers Calmly workloads.recoveries
      (workloads.configure targets order now).recoveries := by
  have rounds : ∀ (start : Workloads), Recovers Calmly start.recoveries
      (order.foldl (configureJob (policiesOf targets) now) start).recoveries := by
    induction order with
    | nil => exact fun _ => .calm_refl _
    | cons id order ih =>
      exact fun start => (configureJob_calm _ _ _).calm_trans (ih _)
  have whole := rounds
    { workloads with
      policies := some (policiesOf targets)
      retiredBindings := workloads.retiredBindings.filter fun retired =>
        ∀ target ∈ targets, retired ≠ (target.binding.deployment, target.binding.revision) }
  exact whole

theorem close_calm : Recovers Calmly workloads.recoveries workloads.close.recoveries where
  stays := by
    intro key old present
    refine ⟨old.cancelRecoveryLocked, ?_, old.cancelRecoveryLocked_calm⟩
    simp only [close, get_mapValues, present, Option.map_some]
  fresh := by
    intro key new absent present
    simp only [close, get_mapValues, absent, Option.map_none] at present
    cases present

theorem suspend_calm : Recovers Calmly workloads.recoveries (workloads.suspend id).recoveries := by
  unfold suspend
  split
  · exact .calm_refl _
  · refine modifyRecovery_recovers (fun _ _ => .refl) fun state => ?_
    split
    · exact state.cancelCleared_calm
    · exact .refl state

/-! ### Outcomes -/

/-- What the outcome of a request on `id` does to a recovery state. -/
def Judges (key : RecoveryKey) (jobs : OrderedMap GoString Workload)
    (old new : RecoveryState) : Prop :=
  old.Calm new ∨
    (RecoveryState.Scheduled id old new ∧ ∃ job, jobs.get id = some job ∧ job.recoveryKey = key)

theorem recoveryOutcomeLocked_judges {id : GoString} {job : Workload} (outcome : RequestOutcome)
    (now : Int) (present : workloads.jobs.get id = some job) :
    Recovers (fun key => Judges id key workloads.jobs) workloads.recoveries
      (workloads.recoveryOutcomeLocked id job outcome now).recoveries := by
  have reflexive : ∀ key state, Judges id key workloads.jobs state state :=
    fun _ state => .inl (.refl state)
  have calmly {state new : RecoveryState}
      (found : workloads.recoveries.get job.recoveryKey = some state) (calm : state.Calm new) :
      Recovers (fun key => Judges id key workloads.jobs) workloads.recoveries
        (workloads.recoveries.insert job.recoveryKey new) :=
    .insert (fun other _ => reflexive other) found (.inl calm)
  fun_cases recoveryOutcomeLocked workloads id job outcome now with
  | case1 | case2 | case4 => exact .refl reflexive _
  | case3 state found => exact calmly found state.cancelCleared_calm
  | case5 state found | case6 state found | case7 state found => exact calmly found (.of_core rfl)
  | case8 state found _ _ _ noted idle _ _ left =>
    push Not at idle
    refine .insert (fun other _ => reflexive other) found
      (.inr ⟨⟨rfl, rfl, rfl, ⟨rfl, rfl, rfl⟩, ?_, ?_, rfl⟩, job, present, rfl⟩)
    · exact Int.not_le.mp left
    · exact Option.not_isSome_iff_eq_none.mp idle.2

theorem release_judges (outcome : RequestOutcome) (now : Int) :
    Recovers (fun key => Judges id key workloads.jobs) workloads.recoveries
      (workloads.release id outcome now).recoveries := by
  have reflexive : ∀ key state, Judges id key workloads.jobs state state :=
    fun _ state => .inl (.refl state)
  unfold release
  split
  · exact .refl reflexive _
  next job present =>
    split
    · exact .refl reflexive _
    · have judged := @recoveryOutcomeLocked_judges
        (workloads.setJob id { job with active := job.active - 1 }) id
        { job with active := job.active - 1 } outcome now
        (get_insert_same workloads.jobs id _)
      -- the lower count of requests leaves the key of the job as it was
      have noted : Recovers (fun key => Judges id key workloads.jobs) workloads.recoveries
          ((workloads.setJob id { job with active := job.active - 1 }).recoveryOutcomeLocked id
            { job with active := job.active - 1 } outcome now).recoveries := by
        refine judged.imp fun changed => changed.imp_right ?_
        rintro ⟨scheduled, other, armed, same⟩
        rw [setJob, get_insert_same] at armed
        cases armed
        exact ⟨scheduled, job, present, same⟩
      dsimp only
      split
      · rw [scheduleLocked, modifyJob_recoveries, modifyJob_recoveries]
        exact noted
      · exact noted

/-! ### Resets -/

/-- The budget of the key is reset behind the gate of its revision, or nothing happens. -/
def Resets (revision : GoString) (key : RecoveryKey) (old new : RecoveryState) : Prop :=
  new = old ∨ (key.revision = revision ∧ new = old.reset)

theorem resetRecovery_resets (revision cluster : GoString) :
    Recovers (Resets revision) workloads.recoveries
      (workloads.resetRecovery revision cluster).recoveries := by
  unfold resetRecovery
  split
  · exact .refl (fun _ _ => .inl rfl) _
  next state present =>
    rw [modifyJob_recoveries]
    exact .insert (fun _ _ _ => .inl rfl) present (.inr ⟨rfl, rfl⟩)

variable {recoveries : List (RecoveryKey × RecoveryState)}

theorem restartRecoveries_other {key : RecoveryKey} (unlisted : key ∉ recoveries.map Prod.fst) :
    (recoveries.foldl restartRecovery workloads).recoveries.get key =
      workloads.recoveries.get key := by
  induction recoveries generalizing workloads with
  | nil => rfl
  | cons entry recoveries ih =>
    rw [map_cons, mem_cons, not_or] at unlisted
    rw [foldl_cons, ih unlisted.2]
    dsimp only [restartRecovery, setRecovery]
    rw [get_insert, if_neg unlisted.1, modifyJob_recoveries]

theorem restartRecoveries_listed {entry : RecoveryKey × RecoveryState}
    (distinct : (recoveries.map Prod.fst).Nodup) (listed : entry ∈ recoveries) :
    (recoveries.foldl restartRecovery workloads).recoveries.get entry.1 =
      some entry.2.reset := by
  induction recoveries generalizing workloads with
  | nil => cases listed
  | cons first recoveries ih =>
    rw [map_cons, nodup_cons] at distinct
    rw [foldl_cons]
    rcases mem_cons.mp listed with rfl | later
    · rw [restartRecoveries_other distinct.1]
      exact get_insert_same _ _ _
    · exact ih distinct.2 later

theorem prepareManualStart_resets (binding : Binding) :
    Recovers (Resets binding.recipeRevision) workloads.recoveries
      ((workloads.prepareManualStart binding).getD workloads).recoveries := by
  unfold prepareManualStart
  dsimp only
  split
  · rw [Option.getD_some]
    have distinct : ((workloads.bindingRecoveriesLocked binding).map Prod.fst).Nodup :=
      workloads.recoveries.distinct.sublist (filter_sublist.map Prod.fst)
    refine ⟨fun key old present => ?_, fun key new absent found => ?_⟩
    · by_cases listed : key ∈ (workloads.bindingRecoveriesLocked binding).map Prod.fst
      · obtain ⟨entry, member, rfl⟩ := mem_map.mp listed
        refine ⟨_, restartRecoveries_listed distinct member, .inr ⟨?_, ?_⟩⟩
        · have governs := (mem_filter.mp member).2
          split at governs
          · cases governs
          · rw [(of_decide_eq_true governs).1]
        · have known := OrderedMap.get_of_mem (mem_filter.mp member).1
          rw [present] at known
          cases known
          rfl
      · exact ⟨old, (restartRecoveries_other listed).trans present, .inl rfl⟩
    · by_cases listed : key ∈ (workloads.bindingRecoveriesLocked binding).map Prod.fst
      · obtain ⟨entry, member, rfl⟩ := mem_map.mp listed
        rw [OrderedMap.get_of_mem (mem_filter.mp member).1] at absent
        cases absent
      · rw [restartRecoveries_other listed, absent] at found
        cases found
  · exact .refl (fun _ _ => .inl rfl) _

end Workloads

/-! ### Sections -/

namespace Section

/-- The section takes an attempt from the budget of the key. -/
def attempts (key : RecoveryKey) : Section → Bool
  | .attempt other _ _ | .retry other _ => other = key
  | _ => false

/-- The section resets budgets of the key's revision. -/
def resets (key : RecoveryKey) : Section → Bool
  | .prepareManualStart binding => key.revision = binding.recipeRevision
  | .resetRecovery revision _ => key.revision = revision
  | _ => false

inductive Counts (entered : Section) (key : RecoveryKey) (old new : RecoveryState) : Prop where
  | same (unattempted : entered.attempts key = false) (counters : old.SameCounters new)
  | attempted (enters : entered.attempts key = true)
      (attempts : new.attempts = old.attempts + 1) (stops : new.stops = old.stops)
      (starts : new.starts = old.starts)
  | stopIssued (enters : entered = .issueStop key) (attempts : new.attempts = old.attempts)
      (stops : new.stops = old.stops + 1) (starts : new.starts = old.starts)
  | startIssued (enters : entered = .issueStart key) (attempts : new.attempts = old.attempts)
      (stops : new.stops = old.stops) (starts : new.starts = old.starts + 1)
  | reset (enters : entered.resets key = true) (zero : new = old.reset)

theorem enter_counts (workloads : Workloads) (entered : Section) :
    Recovers (fun key old new => old.Framed new ∧ entered.Counts key old new)
      workloads.recoveries (entered.enter workloads).recoveries := by
  have calmly {after : OrderedMap RecoveryKey RecoveryState}
      (unattempted : ∀ key, entered.attempts key = false)
      (calm : Recovers Calmly workloads.recoveries after) :
      Recovers (fun key old new => old.Framed new ∧ entered.Counts key old new)
        workloads.recoveries after :=
    calm.imp fun changed => ⟨changed.framed, .same (unattempted _) changed.counters⟩
  have reflexive : ∀ key, entered.attempts key = false → ∀ state : RecoveryState,
      state.Framed state ∧ entered.Counts key state state :=
    fun _ unattempted state => ⟨.refl state, .same unattempted ⟨rfl, rfl, rfl⟩⟩
  have still (unattempted : ∀ key, entered.attempts key = false) :
      Recovers (fun key old new => old.Framed new ∧ entered.Counts key old new)
        workloads.recoveries workloads.recoveries :=
    .refl (fun key => reflexive key (unattempted key)) _
  cases entered with
  | skip | unlock => exact still fun _ => rfl
  | lock binding =>
    simp only [enter, Workloads.lock]
    split <;> exact still fun _ => rfl
  | observe binding endpoint lifecycleBridge prepared now =>
    exact calmly (fun _ => rfl) (observe_calm binding endpoint lifecycleBridge prepared now)
  | suspend id => exact calmly (fun _ => rfl) (suspend_calm id)
  | acquire | stopped | finishAction | running | commitIdle | settleIdle | recovered =>
    simp only [enter, Workloads.acquire, Workloads.stopped, Workloads.finishAction,
      Workloads.running]
    rw [modifyJob_recoveries]
    exact still fun _ => rfl
  | prepareManualStart binding =>
    refine (prepareManualStart_resets binding).imp ?_
    rintro key old new (rfl | ⟨revision, rfl⟩)
    · exact reflexive key rfl _
    · exact ⟨old.reset_framed, .reset (decide_eq_true revision) rfl⟩
  | resetRecovery revision cluster =>
    refine (resetRecovery_resets revision cluster).imp ?_
    rintro key old new (rfl | ⟨same, rfl⟩)
    · exact reflexive key rfl _
    · exact ⟨old.reset_framed, .reset (decide_eq_true same) rfl⟩
  | beginRecovery key =>
    refine calmly (fun _ => rfl) (modifyRecovery_recovers (fun _ _ => .refl) fun state => ?_)
    exact ⟨⟨.refl _, le_rfl, fun _ => rfl, fun _ _ => rfl,
      fun later => absurd later (lt_irrefl _), fun _ listed => listed⟩, ⟨rfl, rfl, rfl⟩⟩
  | failRecovery | restarting | backoff =>
    exact calmly (fun _ => rfl) (modifyRecovery_recovers (fun _ _ => .refl) fun _ => .of_core rfl)
  | missDrain | drain =>
    exact calmly (fun _ => rfl) (modifyBoth_recovers (fun _ _ => .refl) fun _ => .of_core rfl)
  | confirmStop key id restart =>
    refine calmly (fun _ => rfl) (modifyBoth_recovers (fun _ _ => .refl) fun state => ?_)
    split <;> exact .of_core rfl
  | attempt key id now =>
    exact modifyBoth_recovers
      (fun other differs => reflexive other (decide_eq_false (Ne.symm differs))) fun _ =>
      ⟨.of_eq rfl, .attempted (decide_eq_true rfl) rfl rfl rfl⟩
  | retry key now =>
    exact modifyRecovery_recovers
      (fun other differs => reflexive other (decide_eq_false (Ne.symm differs))) fun _ =>
      ⟨.of_eq rfl, .attempted (decide_eq_true rfl) rfl rfl rfl⟩
  | issueStop key =>
    exact modifyRecovery_recovers (fun other _ => reflexive other rfl) fun _ =>
      ⟨.of_eq rfl, .stopIssued rfl rfl rfl rfl⟩
  | issueStart key =>
    exact modifyRecovery_recovers (fun other _ => reflexive other rfl) fun _ =>
      ⟨.of_eq rfl, .startIssued rfl rfl rfl rfl⟩

end Section

end SparkRoute.Sparkrun
