import SparkRoute.Sparkrun.System

/-!
# What the sections of the mutex do to jobs

Apart from a lease and an observation, no section raises a job's count, changes its owner or
its recipe revision, and a timer that it arms is for the newest epoch of an owned job.
-/

namespace SparkRoute.Sparkrun

open Lib List OrderedMap Workloads

/-! ### One job -/

/-- Everything that may happen to a job between leases and observations. -/
structure Workload.Kept (old new : Workload) : Prop where
  revision : new.binding.recipeRevision = old.binding.recipeRevision
  cluster : new.cluster = old.cluster
  prepared : new.prepared = old.prepared
  active : new.active ≤ old.active
  owned : new.owned = old.owned
  epoch : old.epoch ≤ new.epoch
  armed : ∀ epoch ∈ new.armed,
    epoch ∈ old.armed ∨ (old.epoch < epoch ∧ epoch ≤ new.epoch ∧ new.owned = true)

namespace Workload

variable {old new : Workload}

theorem Kept.same
    (fields : (new.binding.recipeRevision, new.cluster, new.prepared, new.active, new.owned,
      new.epoch, new.armed) = (old.binding.recipeRevision, old.cluster, old.prepared, old.active,
      old.owned, old.epoch, old.armed)) : old.Kept new := by
  simp only [Prod.mk.injEq] at fields
  obtain ⟨revision, cluster, prepared, active, owned, epoch, armed⟩ := fields
  exact ⟨revision, cluster, prepared, active.le, owned, epoch.ge,
    fun _ listed => .inl (armed ▸ listed)⟩

variable (job : Workload)

theorem Kept.refl : job.Kept job := .same rfl

theorem Kept.trans {first second third : Workload} (left : first.Kept second)
    (right : second.Kept third) : first.Kept third where
  revision := right.revision.trans left.revision
  cluster := right.cluster.trans left.cluster
  prepared := right.prepared.trans left.prepared
  active := right.active.trans left.active
  owned := right.owned.trans left.owned
  epoch := left.epoch.trans right.epoch
  armed := by
    intro epoch listed
    rcases right.armed epoch listed with before | ⟨later, bound, owned⟩
    · rcases left.armed epoch before with earlier | ⟨later, bound, owned⟩
      · exact .inl earlier
      · exact .inr ⟨later, bound.trans right.epoch, right.owned.trans owned⟩
    · exact .inr ⟨left.epoch.trans_lt later, bound, owned⟩

theorem Kept.recoveryKey (kept : old.Kept new) : new.recoveryKey = old.recoveryKey := by
  simp only [Workload.recoveryKey, kept.revision, kept.cluster]

theorem disarm_kept (epoch : Nat) : job.Kept { job with armed := job.armed.erase epoch } :=
  ⟨rfl, rfl, rfl, le_rfl, rfl, le_rfl, fun _ listed => .inl (mem_of_mem_erase listed)⟩

theorem stopTimer_kept : job.Kept job.stopTimer := by
  unfold stopTimer
  split
  · exact .refl job
  · exact (job.disarm_kept _).trans (.same rfl)

theorem Kept.stopped (kept : old.Kept new) : old.Kept new.stopTimer :=
  kept.trans new.stopTimer_kept

@[simp]
theorem stopTimer_epoch : job.stopTimer.epoch = job.epoch := by
  unfold stopTimer
  split <;> rfl

theorem newEpoch_kept : job.Kept { job with epoch := job.epoch + 1 } :=
  ⟨rfl, rfl, rfl, le_rfl, rfl, Nat.le_succ _, fun _ listed => .inl listed⟩

theorem schedule_kept (closed recoveryScheduled : Bool) (now : Int) :
    job.Kept (job.schedule closed recoveryScheduled now) := by
  have stopped : job.Kept { job with epoch := job.epoch + 1 }.stopTimer :=
    job.newEpoch_kept.stopped
  unfold schedule
  dsimp only
  split
  · exact stopped
  next armable =>
    push Not at armable
    obtain ⟨_, owned, _⟩ := armable
    refine ⟨stopped.revision, stopped.cluster, stopped.prepared, stopped.active, stopped.owned,
      stopped.epoch, ?_⟩
    intro epoch listed
    rcases mem_append.mp listed with before | new
    · exact (stopped.armed epoch before).imp_right fun fresh => ⟨fresh.1, fresh.2.1, owned⟩
    · rw [mem_singleton.mp new]
      refine .inr ⟨?_, le_rfl, owned⟩
      simp

theorem lease_revision :
    job.lease.binding.recipeRevision = job.binding.recipeRevision ∧
      job.lease.cluster = job.cluster ∧ job.lease.prepared = job.prepared ∧
      job.lease.owned = job.owned := by
  have kept := stopTimer_kept
    { job with
      active := job.active + 1
      idleSince := none
      stopped := false
      epoch := job.epoch + 1 }
  exact ⟨kept.revision, kept.cluster, kept.prepared, kept.owned⟩

end Workload

/-! ### All jobs -/

namespace Workloads

variable {workloads : Workloads}

def JobsKept (before after : Workloads) : Prop :=
  before.jobs.Follows Workload.Kept after.jobs

namespace JobsKept

theorem of_eq {before after : Workloads} (same : after.jobs = before.jobs) :
    before.JobsKept after :=
  OrderedMap.Follows.of_eq Workload.Kept.refl same

theorem trans {first second third : Workloads} (left : first.JobsKept second)
    (right : second.JobsKept third) : first.JobsKept third :=
  OrderedMap.Follows.trans (fun early late => early.trans late) left right

end JobsKept

/-- What only a gate, `Configure`, `Close` and an observation change. -/
structure RestKept (before after : Workloads) : Prop where
  gates : after.gates = before.gates
  policies : after.policies = before.policies
  closed : after.closed = before.closed
  observations : after.observations = before.observations

namespace RestKept

theorem refl (workloads : Workloads) : workloads.RestKept workloads := ⟨rfl, rfl, rfl, rfl⟩

theorem trans {first second third : Workloads} (left : first.RestKept second)
    (right : second.RestKept third) : first.RestKept third :=
  ⟨right.gates.trans left.gates, right.policies.trans left.policies,
    right.closed.trans left.closed, right.observations.trans left.observations⟩

end RestKept

/-- Nothing changes but recovery states and, as `Kept` says, jobs. -/
structure Edited (before after : Workloads) : Prop where
  jobs : before.JobsKept after
  rest : before.RestKept after

namespace Edited

theorem refl (workloads : Workloads) : workloads.Edited workloads := ⟨.of_eq rfl, .refl _⟩

theorem trans {first second third : Workloads} (left : first.Edited second)
    (right : second.Edited third) : first.Edited third :=
  ⟨left.jobs.trans right.jobs, left.rest.trans right.rest⟩

end Edited

variable {id : GoString}

theorem setJob_edited {old new : Workload} (present : workloads.jobs.get id = some old)
    (kept : old.Kept new) : workloads.Edited (workloads.setJob id new) :=
  ⟨OrderedMap.Follows.insert Workload.Kept.refl present kept, rfl, rfl, rfl, rfl⟩

theorem disarm_kept {job : Workload} (present : workloads.jobs.get id = some job) (epoch : Nat) :
    workloads.JobsKept (workloads.setJob id { job with armed := job.armed.erase epoch }) :=
  (setJob_edited present (job.disarm_kept epoch)).jobs

theorem setRecovery_edited (key : RecoveryKey) (state : RecoveryState) :
    workloads.Edited (workloads.setRecovery key state) :=
  ⟨.of_eq rfl, rfl, rfl, rfl, rfl⟩

variable {change : Workload → Workload}

theorem modifyJob_edited (kept : ∀ job : Workload, job.Kept (change job)) :
    workloads.Edited (workloads.modifyJob id change) := by
  unfold modifyJob
  cases present : workloads.jobs.get id with
  | none => exact .refl _
  | some job => exact setJob_edited present (kept job)

theorem modifyJob_rest (id : GoString) (change : Workload → Workload) :
    workloads.RestKept (workloads.modifyJob id change) := by
  unfold modifyJob
  split <;> exact ⟨rfl, rfl, rfl, rfl⟩

theorem modifyRecovery_edited (key : RecoveryKey) (change : RecoveryState → RecoveryState) :
    workloads.Edited (workloads.modifyRecovery key change) := by
  unfold modifyRecovery
  split
  · exact .refl _
  · exact setRecovery_edited _ _

theorem modifyBoth_edited {key : RecoveryKey} {move : RecoveryState → RecoveryState}
    (kept : ∀ job : Workload, job.Kept (change job)) :
    workloads.Edited ((workloads.modifyJob id change).modifyRecovery key move) :=
  (modifyJob_edited kept).trans (modifyRecovery_edited key move)

theorem modifyRecovery_jobs (key : RecoveryKey) (change : RecoveryState → RecoveryState) :
    (workloads.modifyRecovery key change).jobs = workloads.jobs := by
  unfold modifyRecovery
  split <;> rfl

theorem modifyJob_get (id other : GoString) (change : Workload → Workload) :
    (workloads.modifyJob id change).jobs.get other =
      if other = id then (workloads.jobs.get id).map change else workloads.jobs.get other := by
  cases present : workloads.jobs.get id with
  | none =>
    simp only [modifyJob, present, Option.map_none]
    split
    next same => rw [same, present]
    · rfl
  | some job =>
    simp only [modifyJob, present, Option.map_some]
    exact get_insert _ _ _ _

theorem scheduleLocked_edited (id : GoString) (now : Int) :
    workloads.Edited (workloads.scheduleLocked id now) :=
  modifyJob_edited fun job => job.schedule_kept _ _ _

section

variable {id : GoString} {job : Workload} (present : workloads.jobs.get id = some job)

include present

theorem setBoth_edited {key : RecoveryKey} {state : RecoveryState} {new : Workload}
    (kept : job.Kept new) : workloads.Edited ((workloads.setRecovery key state).setJob id new) :=
  (setRecovery_edited key state).trans (@setJob_edited (workloads.setRecovery _ _) id job new
    present kept)

theorem configureRecoveryLocked_edited :
    workloads.Edited (workloads.configureRecoveryLocked id job) := by
  fun_cases configureRecoveryLocked workloads id job with
  | case4 => exact setBoth_edited present (.same rfl)
  | _ => exact .refl _

theorem recoveryOutcomeLocked_edited (outcome : RequestOutcome) (now : Int) :
    workloads.Edited (workloads.recoveryOutcomeLocked id job outcome now) := by
  fun_cases recoveryOutcomeLocked workloads id job outcome now with
  | case1 | case2 | case4 => exact .refl _
  | case7 => exact setBoth_edited present (.same rfl)
  | _ => exact setRecovery_edited _ _

end

theorem release_edited (id : GoString) (outcome : RequestOutcome) (now : Int) :
    workloads.Edited (workloads.release id outcome now) := by
  unfold release
  split
  · exact .refl _
  next job present =>
    split
    · exact .refl _
    · have lowered : workloads.Edited
          (workloads.setJob id { job with active := job.active - 1 }) :=
        setJob_edited present
          ⟨rfl, rfl, rfl, Nat.sub_le _ _, rfl, le_rfl, fun _ listed => .inl listed⟩
      have noted := lowered.trans (recoveryOutcomeLocked_edited
        (get_insert_same workloads.jobs id _) outcome now)
      dsimp only
      split
      · refine (noted.trans (modifyJob_edited fun _ => ?_)).trans (scheduleLocked_edited id now)
        exact .same rfl
      · exact noted

/-! ### Configuration -/

/-- A policy belongs to the revision that it is stored under. -/
def PoliciesCoherent (policies : OrderedMap RecoveryKey Binding) : Prop :=
  ∀ key binding, policies.get key = some binding → binding.recipeRevision = key.revision

variable {policies : OrderedMap RecoveryKey Binding}

theorem PoliciesCoherent.insert
    (coherent : PoliciesCoherent policies) (binding : Binding) (cluster : GoString) :
    PoliciesCoherent (policies.insert ⟨binding.recipeRevision, cluster⟩ binding) := by
  intro key found present
  rw [get_insert] at present
  split at present
  next same =>
    cases present
    rw [same]
  · exact coherent key found present

variable (targets : List Target)

theorem policiesOf_coherent : PoliciesCoherent (policiesOf targets) := by
  have clusters : ∀ (names : List GoString) (binding : Binding)
      (policies : OrderedMap RecoveryKey Binding), PoliciesCoherent policies →
      PoliciesCoherent (names.foldl
        (fun policies cluster => policies.insert ⟨binding.recipeRevision, cluster⟩ binding)
        policies) := by
    intro names binding
    induction names with
    | nil => exact fun _ coherent => coherent
    | cons name names ih =>
      exact fun policies coherent => ih _ (coherent.insert binding name)
  suffices general : ∀ policies, PoliciesCoherent policies → PoliciesCoherent (targets.foldl _
      policies) from general _ (fun _ _ present => by cases present)
  induction targets with
  | nil => exact fun _ coherent => coherent
  | cons target targets ih =>
    intro policies coherent
    apply ih
    dsimp only
    split
    · exact coherent
    · apply clusters
      split
      · exact coherent.insert target.binding []
      · exact coherent

theorem governed_revision
    (coherent : PoliciesCoherent policies) (binding : Binding) (cluster : GoString) :
    (governed policies binding cluster).recipeRevision = binding.recipeRevision := by
  unfold governed policyLocked
  cases specific : policies.get ⟨binding.recipeRevision, cluster⟩ with
  | some found => exact coherent _ _ specific
  | none =>
    cases unscoped : policies.get ⟨binding.recipeRevision, []⟩ with
    | some found => exact coherent _ _ unscoped
    | none => rfl

theorem configureJob_edited (coherent : PoliciesCoherent policies) (now : Int) (id : GoString) :
    workloads.Edited (configureJob policies now workloads id) := by
  unfold configureJob
  split
  · exact .refl _
  next job present =>
    have bound : workloads.Edited (workloads.setJob id
        { job with binding := governed policies job.binding job.cluster }) :=
      setJob_edited present
        ⟨governed_revision coherent _ _, rfl, rfl, le_rfl, rfl, le_rfl, fun _ listed => .inl listed⟩
    exact (bound.trans (configureRecoveryLocked_edited
      (get_insert_same workloads.jobs id _))).trans (scheduleLocked_edited id now)

variable (order : List GoString)

theorem configureJobs_edited (now : Int) :
    workloads.Edited (order.foldl (configureJob (policiesOf targets) now) workloads) := by
  induction order generalizing workloads with
  | nil => exact .refl _
  | cons id order ih => exact (configureJob_edited (policiesOf_coherent targets) now id).trans ih

theorem configure_kept (now : Int) :
    workloads.JobsKept (workloads.configure targets order now) := by
  refine JobsKept.trans ?_ (configureJobs_edited targets order now).jobs
  exact .of_eq rfl

theorem configure_gates (now : Int) :
    (workloads.configure targets order now).gates = workloads.gates ∧
      (workloads.configure targets order now).policies = some (policiesOf targets) ∧
      (workloads.configure targets order now).observations = workloads.observations :=
  have edited := configureJobs_edited targets order now
  ⟨edited.rest.gates, edited.rest.policies, edited.rest.observations⟩

theorem close_kept : workloads.JobsKept workloads.close := by
  apply OrderedMap.Follows.mapValues
  intro job
  have stopped := job.stopTimer_kept
  exact ⟨stopped.revision, stopped.cluster, stopped.prepared, stopped.active, stopped.owned,
    stopped.epoch, stopped.armed⟩

theorem suspend_edited (id : GoString) : workloads.Edited (workloads.suspend id) := by
  unfold suspend
  split
  · exact .refl _
  next job present =>
    have same := @modifyRecovery_jobs workloads job.recoveryKey fun state =>
      if state.jobID = id then state.cancelRecoveryLocked.cleared else state
    refine (modifyRecovery_edited _ _).trans (setJob_edited (same ▸ present) ?_)
    exact .stopped ⟨rfl, rfl, rfl, le_rfl, rfl, Nat.le_succ _, fun _ listed => .inl listed⟩

theorem resetRecovery_edited (revision cluster : GoString) :
    workloads.Edited (workloads.resetRecovery revision cluster) := by
  unfold resetRecovery
  split
  · exact .refl _
  · exact (setRecovery_edited _ _).trans (modifyJob_edited fun _ => .same rfl)

theorem restartRecovery_edited (entry : RecoveryKey × RecoveryState) :
    workloads.Edited (workloads.restartRecovery entry) := by
  refine (modifyJob_edited fun job => ?_).trans (setRecovery_edited _ _)
  exact .same rfl

theorem restartRecoveries_edited (recoveries : List (RecoveryKey × RecoveryState)) :
    workloads.Edited (recoveries.foldl restartRecovery workloads) := by
  induction recoveries generalizing workloads with
  | nil => exact .refl _
  | cons entry recoveries ih => exact (restartRecovery_edited entry).trans ih

theorem prepareManualStart_edited (binding : Binding) :
    workloads.Edited ((workloads.prepareManualStart binding).getD workloads) := by
  unfold prepareManualStart
  dsimp only
  split
  · exact restartRecoveries_edited _
  · exact .refl _

/-! ### Observations -/

structure Noted (endpoint : Endpoint) (old new : Workload) : Prop where
  revision : new.binding.recipeRevision = old.binding.recipeRevision
  cluster : new.cluster = old.cluster
  prepared : new.prepared = old.prepared ∨ new.prepared = some endpoint
  active : new.active = old.active
  owned : new.owned = endpoint.owned
  epoch : new.epoch = old.epoch
  armed : new.armed = old.armed

def found (workloads : Workloads) (binding : Binding) (endpoint : Endpoint)
    (lifecycleBridge : Bool) : Workload :=
  (workloads.jobs.get endpoint.workloadID).getD
    (workloads.newJob binding endpoint lifecycleBridge)

theorem noted_found (binding : Binding) (endpoint : Endpoint)
    (lifecycleBridge prepared : Bool) (now : Int) :
    Noted endpoint (workloads.found binding endpoint lifecycleBridge)
      (workloads.noted binding endpoint lifecycleBridge prepared now) := by
  unfold noted found
  dsimp only
  split
  · exact ⟨rfl, rfl, .inr rfl, rfl, rfl, rfl, rfl⟩
  · exact ⟨rfl, rfl, .inl rfl, rfl, rfl, rfl, rfl⟩

theorem newJob_revision
    (coherent : ∀ policies, workloads.policies = some policies → PoliciesCoherent policies)
    (binding : Binding) (endpoint : Endpoint) (lifecycleBridge : Bool) :
    (workloads.newJob binding endpoint lifecycleBridge).binding.recipeRevision =
      binding.recipeRevision := by
  unfold newJob
  split
  · rfl
  next policies configured => exact governed_revision (coherent policies configured) _ _

theorem observe_jobs (binding : Binding) (endpoint : Endpoint)
    (lifecycleBridge prepared : Bool) (now : Int) :
    ∃ job, (workloads.noted binding endpoint lifecycleBridge prepared now).Kept job ∧
      ∀ id, (workloads.observe binding endpoint lifecycleBridge false prepared now).jobs.get id =
        if id = endpoint.workloadID then some job else workloads.jobs.get id := by
  generalize noting : workloads.noted binding endpoint lifecycleBridge prepared now = noted
  have placed : ∀ id, (({ workloads with
        observations := (endpoint.workloadID, endpoint.owned) :: workloads.observations }.setJob
        endpoint.workloadID noted).observeRecoveryLocked endpoint.workloadID noted).jobs.get id =
        if id = endpoint.workloadID then some noted else workloads.jobs.get id :=
    fun id => get_insert _ _ _ _
  dsimp only [observe]
  rw [if_neg Bool.false_ne_true, noting]
  generalize Workloads.observeRecoveryLocked _ _ _ = observed at placed ⊢
  split
  · refine ⟨noted.schedule observed.closed (observed.recoveryScheduledLocked noted) now,
      noted.schedule_kept _ _ now, fun id => ?_⟩
    rw [scheduleLocked, modifyJob_get, placed, placed, if_pos rfl, Option.map_some]
    split <;> rfl
  · exact ⟨noted, .refl noted, placed⟩

theorem observe_rest (binding : Binding) (endpoint : Endpoint)
    (lifecycleBridge prepared : Bool) (now : Int) :
    let observed := workloads.observe binding endpoint lifecycleBridge false prepared now
    observed.gates = workloads.gates ∧ observed.policies = workloads.policies ∧
      observed.closed = workloads.closed ∧
      observed.observations =
        (endpoint.workloadID, endpoint.owned) :: workloads.observations := by
  dsimp only [observe]
  rw [if_neg Bool.false_ne_true]
  split
  · have rest := (@scheduleLocked_edited (({ workloads with
      observations := (endpoint.workloadID, endpoint.owned) :: workloads.observations }.setJob
      endpoint.workloadID (workloads.noted binding endpoint lifecycleBridge prepared now)
      ).observeRecoveryLocked endpoint.workloadID
        (workloads.noted binding endpoint lifecycleBridge prepared now))
      endpoint.workloadID now).rest
    exact ⟨rest.gates, rest.policies, rest.closed, rest.observations⟩
  · exact ⟨rfl, rfl, rfl, rfl⟩

end Workloads

/-! ### Sections -/

namespace Section

/-- Neither of the steps that move a token. -/
def ungated : Section → Bool
  | .lock _ | .unlock _ => false
  | _ => true

def observes : Section → Bool
  | .observe _ _ _ _ _ => true
  | _ => false

def leases : Section → Bool
  | .acquire _ => true
  | _ => false

variable (workloads : Workloads) {entered : Section}

theorem enter_edited (ungated : entered.ungated = true) (noLease : entered.leases = false)
    (noObservation : entered.observes = false) : workloads.Edited (entered.enter workloads) := by
  cases entered with
  | skip => exact .refl _
  | lock | unlock => cases ungated
  | acquire => cases noLease
  | observe => cases noObservation
  | prepareManualStart binding => exact prepareManualStart_edited binding
  | suspend id => exact suspend_edited id
  | stopped id =>
    refine modifyJob_edited fun job => ?_
    exact .stopped ⟨rfl, rfl, rfl, le_rfl, rfl, Nat.le_succ _, fun _ listed => .inl listed⟩
  | running id =>
    refine modifyJob_edited fun job => ?_
    split
    · exact .refl job
    · exact .same rfl
  | finishAction | commitIdle | settleIdle | recovered =>
    exact modifyJob_edited fun _ => .same rfl
  | resetRecovery revision cluster => exact resetRecovery_edited revision cluster
  | drain key id =>
    refine modifyBoth_edited fun job => ?_
    exact .stopped ⟨rfl, rfl, rfl, le_rfl, rfl, Nat.le_succ _, fun _ listed => .inl listed⟩
  | missDrain | attempt | confirmStop =>
    exact modifyBoth_edited fun _ => .same rfl
  | beginRecovery | failRecovery | issueStop | restarting | issueStart | backoff | retry =>
    exact modifyRecovery_edited _ _

/-- Every section except a lease and an observation keeps the jobs. -/
theorem enter_kept (noLease : entered.leases = false) (noObservation : entered.observes = false) :
    workloads.JobsKept (entered.enter workloads) := by
  cases entered with
  | lock binding =>
    simp only [enter, Workloads.lock]
    split <;> exact .of_eq rfl
  | unlock binding => exact .of_eq rfl
  | _ => exact (enter_edited workloads rfl noLease noObservation).jobs

theorem enter_rest (ungated : entered.ungated = true) (noObservation : entered.observes = false) :
    workloads.RestKept (entered.enter workloads) := by
  cases entered with
  | acquire => exact modifyJob_rest _ _
  | _ => exact (enter_edited workloads ungated rfl noObservation).rest

theorem enter_unobserved (noObservation : entered.observes = false) :
    (entered.enter workloads).policies = workloads.policies ∧
      (entered.enter workloads).observations = workloads.observations := by
  cases entered with
  | lock binding =>
    simp only [enter, Workloads.lock]
    split <;> exact ⟨rfl, rfl⟩
  | unlock binding => exact ⟨rfl, rfl⟩
  | _ =>
    have rest := enter_rest workloads rfl noObservation
    exact ⟨rest.policies, rest.observations⟩

theorem enter_gates (ungated : entered.ungated = true) :
    (entered.enter workloads).gates = workloads.gates := by
  cases observes : entered.observes with
  | false => exact (enter_rest workloads ungated observes).gates
  | true =>
    cases entered with
    | observe binding endpoint lifecycleBridge prepared now =>
      exact (observe_rest binding endpoint lifecycleBridge prepared now).1
    | _ => cases observes

end Section

end SparkRoute.Sparkrun
