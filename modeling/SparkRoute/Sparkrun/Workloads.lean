import SparkRoute.Lib.OrderedMap
import SparkRoute.Lib.Queue
import SparkRoute.Lifecycle.Execution

/-!
# Physical workloads

`Workloads` lives for the gateway process, across configuration generations. Each operation
here is one section of its mutex. Times are in nanoseconds; a clock reading is an argument, and
`none` is the zero time.

A timer is known by the epoch it was armed in. `armed` lists the timers that have neither fired
nor been stopped; a timer in it may fire at any moment. `cancelled` lists the epochs whose
recovery context has been cancelled.
-/

namespace SparkRoute.Sparkrun

open Lib
open Config (refuse)
open Lifecycle (RequestFeatures second minute)

/-! ### Policies and bindings -/

/-- `unset` is the empty text and `unsupported` every text without a name here. -/
inductive RecoveryAction where
  | unset
  | restart
  | stop
  | unsupported (text : GoString)
  deriving DecidableEq

structure RecoveryPolicy where
  action : RecoveryAction := .unset
  failedProbes : Int := 0
  unhealthyFor : Int := 0
  drainTimeout : Int := 0
  backoff : Int := 0
  maxBackoff : Int := 0
  maxRestarts : Int := 0
  deriving DecidableEq

def RecoveryPolicy.effective (policy : RecoveryPolicy) : RecoveryPolicy :=
  if policy.action = .unset then {}
  else
    { action := policy.action
      failedProbes := orDefault policy.failedProbes 3
      unhealthyFor := orDefault policy.unhealthyFor (2 * minute)
      drainTimeout := orDefault policy.drainTimeout (30 * second)
      backoff := orDefault policy.backoff minute
      maxBackoff := orDefault policy.maxBackoff (15 * minute)
      maxRestarts := orDefault policy.maxRestarts 3 }

def RecoveryPolicy.durations (policy : RecoveryPolicy) : List (String × Int) :=
  [("unhealthy_for", policy.unhealthyFor), ("drain_timeout", policy.drainTimeout),
    ("backoff", policy.backoff), ("max_backoff", policy.maxBackoff)]

def RecoveryPolicy.validate (policy : RecoveryPolicy) : Except String Unit :=
  if policy.action = .unset then
    refuse (policy ≠ {}) "action is required when recovery settings are supplied"
  else if policy.action ≠ .restart ∧ policy.action ≠ .stop then
    .error "action must be restart or stop"
  else do
    let policy := policy.effective
    refuse (policy.failedProbes < 1 ∨ 100 < policy.failedProbes)
      "failed_probes must be between 1 and 100"
    refuse (policy.maxRestarts < 1 ∨ 100 < policy.maxRestarts)
      "max_restarts must be between 1 and 100"
    policy.durations.forM fun (name, value) =>
      refuse (value ≤ 0 ∨ 24 * (60 * minute) < value)
        (name ++ " must be greater than zero and at most 24h")
    refuse (policy.maxBackoff < policy.backoff) "max_backoff must be at least backoff"

inductive IdleAction where
  | unset
  | stop
  | sleep
  | unsupported (text : GoString)
  deriving DecidableEq

/-- A lifecycle binding with the fields that only this controller reads. -/
structure Binding extends Lifecycle.Binding where
  clusterCandidates : List GoString := []
  recovery : RecoveryPolicy := {}
  idleAction : IdleAction := .unset
  idleTTL : Int := 0
  fencingToken : Int := 0

structure Target where
  deployment : GoString
  upstreamModel : GoString := []
  protocol : GoString := []
  source : Lifecycle.EndpointSource := .unset
  discoveryJobIDs : List GoString := []
  binding : Binding := {}

/-- What the bridge reports of a workload; `observedAt` is in milliseconds. -/
structure Endpoint where
  observedAt : Option Int := none
  owned : Bool := false
  state : Registry.State := .unset
  workloadID : GoString := []
  clusterName : GoString := []
  jobID : GoString := []
  host : GoString := []
  port : Int := 0
  protocol : GoString := []
  servedModels : List GoString := []
  recipeRevision : GoString := []
  deriving DecidableEq

/-- The source joins the two parts with a NUL, which a recipe revision cannot contain. -/
structure RecoveryKey where
  revision : GoString
  cluster : GoString
  deriving DecidableEq

/-! ### Jobs -/

inductive PausedPhase where
  | unset
  | sleeping
  | offline
  | unknown
  deriving DecidableEq

structure Workload where
  binding : Binding
  /-- Whether the job's bridge has the lifecycle actions. -/
  lifecycleBridge : Bool := false
  cluster : GoString
  prepared : Option Endpoint := none
  preparedUntil : Int := 0
  recovering : Bool := false
  pausedPhase : PausedPhase := .unset
  idleSince : Option Int := none
  stopping : Bool := false
  active : Nat := 0
  owned : Bool := false
  stopped : Bool := false
  timer : Option Nat := none
  armed : List Nat := []
  epoch : Nat := 0

namespace Workload

def recoveryKey (job : Workload) : RecoveryKey := ⟨job.binding.recipeRevision, job.cluster⟩

def stopTimer (job : Workload) : Workload :=
  match job.timer with
  | none => job
  | some epoch => { job with timer := none, armed := job.armed.erase epoch }

/-- `scheduleLocked`, for a job whose recovery is scheduled or is not. -/
def schedule (job : Workload) (closed recoveryScheduled : Bool) (now : Int) : Workload :=
  let job := { job with epoch := job.epoch + 1 }.stopTimer
  if closed ∨ ¬ job.owned ∨ job.active ≠ 0 ∨ job.stopped ∨ job.recovering ∨
      job.binding.idleTTL ≤ 0 ∨ recoveryScheduled then job
  else
    { job with
      idleSince := some (job.idleSince.getD now)
      timer := some job.epoch
      armed := job.armed ++ [job.epoch] }

def lease (job : Workload) : Workload :=
  { job with
    active := job.active + 1
    idleSince := none
    stopped := false
    epoch := job.epoch + 1 }.stopTimer

end Workload

/-! ### Recovery states -/

inductive RecoveryPhase where
  | healthy
  | monitoring
  | scheduled
  | draining
  | stopping
  | restarting
  | backoff
  | awaitingDemand
  | failed
  | exhausted
  deriving DecidableEq

/-- Whether a recovery in this phase keeps requests out. -/
def RecoveryPhase.refuses : RecoveryPhase → Bool
  | .failed | .exhausted | .draining | .stopping | .restarting | .backoff => true
  | _ => false

inductive RecoveryReason where
  | none
  | exhausted
  | drainTimeout
  | stopFailed
  | invalidEndpoint
  | startFailed
  deriving DecidableEq

/-- `stops` and `starts` are history: they count the bridge calls that recovery made since its
budget was last reset. A timer of a recovery state carries the job that it was armed for. -/
structure RecoveryState where
  jobID : GoString := []
  policy : RecoveryPolicy
  phase : RecoveryPhase := .healthy
  reason : RecoveryReason := .none
  firstFailure : Option Int := none
  failedProbes : Int := 0
  attempts : Nat := 0
  lastAttempt : Int := 0
  nextAttempt : Option Int := none
  epoch : Nat := 0
  timer : Option Nat := none
  cancel : Option Nat := none
  armed : List (Nat × GoString) := []
  cancelled : List Nat := []
  stops : Nat := 0
  starts : Nat := 0

def recoveryBackoff (policy : RecoveryPolicy) : Nat → Int
  | 0 => policy.backoff
  | 1 => policy.backoff
  | attempts + 2 =>
    let delay := recoveryBackoff policy (attempts + 1)
    if delay < policy.maxBackoff then min (wrapInt64 (delay * 2)) policy.maxBackoff else delay

structure RequestOutcome where
  healthObserved : Bool := false
  circuitOpened : Bool := false
  halfOpenProbe : Bool := false
  backendFailure : Bool := false
  success : Bool := false

namespace RecoveryState

variable (state : RecoveryState)

def cancelRecoveryLocked : RecoveryState :=
  { state with
    epoch := state.epoch + 1
    timer := none
    armed := state.armed.filter fun entry => state.timer ≠ some entry.1
    cancel := none
    cancelled := state.cancelled ++ state.cancel.toList
    nextAttempt := none }

def cleared : RecoveryState :=
  { state with firstFailure := none, failedProbes := 0, phase := .healthy, reason := .none }

def recoveryFailedLocked (reason : RecoveryReason) : RecoveryState :=
  { state with
    phase := if reason = .exhausted then .exhausted else .failed
    reason := reason
    nextAttempt := none }

/-- The budget starts anew. -/
def reset : RecoveryState :=
  { state.cancelRecoveryLocked.cleared with attempts := 0, stops := 0, starts := 0 }

/-- The evidence that one more failed request adds. -/
def noted (outcome : RequestOutcome) (now : Int) : RecoveryState :=
  { state with
    firstFailure := some (state.firstFailure.getD now)
    failedProbes := if outcome.halfOpenProbe then state.failedProbes + 1
      else state.failedProbes }

def scheduled (state : RecoveryState) (id : GoString) (now : Int) : RecoveryState :=
  let first := state.firstFailure.getD now + state.policy.unhealthyFor
  let next := state.lastAttempt + recoveryBackoff state.policy state.attempts
  { state with
    nextAttempt := some (if 0 < state.attempts ∧ first < next then next else first)
    phase := .scheduled
    epoch := state.epoch + 1
    timer := some (state.epoch + 1)
    armed := state.armed ++ [(state.epoch + 1, id)] }

end RecoveryState

/-! ### All workloads -/

/-- `gates` lists the recipe revisions whose channel holds its token. `observations` is history:
the workloads that were observed and whether the bridge said it owns them, newest first. -/
structure Workloads where
  gates : List GoString := []
  jobs : OrderedMap GoString Workload := .empty
  recoveries : OrderedMap RecoveryKey RecoveryState := .empty
  policies : Option (OrderedMap RecoveryKey Binding) := none
  retiredBindings : List (GoString × GoString) := []
  closed : Bool := false
  observations : List (GoString × Bool) := []

namespace Workloads

variable (workloads : Workloads)

variable (id : GoString)

def setJob (job : Workload) : Workloads :=
  { workloads with jobs := workloads.jobs.insert id job }

def setRecovery (key : RecoveryKey) (state : RecoveryState) : Workloads :=
  { workloads with recoveries := workloads.recoveries.insert key state }

def modifyJob (change : Workload → Workload) : Workloads :=
  match workloads.jobs.get id with
  | none => workloads
  | some job => workloads.setJob id (change job)

def modifyRecovery (key : RecoveryKey)
    (change : RecoveryState → RecoveryState) : Workloads :=
  match workloads.recoveries.get key with
  | none => workloads
  | some state => workloads.setRecovery key (change state)

variable (binding : Binding)

/-- The gate of a revision, when its channel is empty. -/
def lock : Option Workloads :=
  if binding.recipeRevision ∈ workloads.gates then none
  else some { workloads with gates := binding.recipeRevision :: workloads.gates }

def unlock : Workloads :=
  { workloads with gates := workloads.gates.erase binding.recipeRevision }

def recoveryScheduledLocked (job : Workload) : Bool :=
  match workloads.recoveries.get job.recoveryKey with
  | none => false
  | some state => state.timer.isSome || state.cancel.isSome

def scheduleLocked (now : Int) : Workloads :=
  workloads.modifyJob id fun job =>
    job.schedule workloads.closed (workloads.recoveryScheduledLocked job) now

def policyLocked (policies : OrderedMap RecoveryKey Binding) (revision cluster : GoString) :
    Option Binding :=
  (policies.get ⟨revision, cluster⟩).or (policies.get ⟨revision, []⟩)

/-- What a job's binding becomes under the configured policies. -/
def governed (policies : OrderedMap RecoveryKey Binding) (binding : Binding)
    (cluster : GoString) : Binding :=
  (policyLocked policies binding.recipeRevision cluster).getD
    { binding with idleTTL := 0, recovery := {} }

/-! ### Recovery evidence -/

def observeRecoveryLocked (job : Workload) : Workloads :=
  let state := (workloads.recoveries.get job.recoveryKey).getD
    { policy := job.binding.recovery.effective }
  workloads.setRecovery job.recoveryKey
    (if state.jobID ≠ id then { state.cancelRecoveryLocked.cleared with jobID := id }
    else state)

def configureRecoveryLocked (job : Workload) : Workloads :=
  match workloads.recoveries.get job.recoveryKey with
  | none => workloads
  | some state =>
    if state.jobID ≠ id then workloads
    else if job.binding.recovery.effective = state.policy then workloads
    else
      (workloads.setRecovery job.recoveryKey
        { state.cancelRecoveryLocked.cleared with
          policy := job.binding.recovery.effective }).setJob id
        { job with
          stopped := job.stopped || job.recovering
          pausedPhase := if job.recovering then .unknown else job.pausedPhase
          recovering := false }

def recoveryOutcomeLocked (job : Workload)
    (outcome : RequestOutcome) (now : Int) : Workloads :=
  match workloads.recoveries.get job.recoveryKey with
  | none => workloads
  | some state =>
    if state.jobID ≠ id ∨ state.policy.action = .unset ∨ ¬ job.owned ∨ job.stopped ∨
        job.recovering ∨ ¬ outcome.healthObserved then workloads
    else if outcome.success then
      workloads.setRecovery job.recoveryKey state.cancelRecoveryLocked.cleared
    else if ¬ outcome.circuitOpened ∨ ¬ outcome.backendFailure then workloads
    else
      let noted := state.noted outcome now
      if noted.timer.isSome ∨ noted.cancel.isSome then
        workloads.setRecovery job.recoveryKey noted
      else
        let monitored := { noted with phase := .monitoring }
        if monitored.failedProbes < monitored.policy.failedProbes then
          workloads.setRecovery job.recoveryKey monitored
        else if monitored.policy.maxRestarts ≤ monitored.attempts then
          (workloads.setRecovery job.recoveryKey
            (monitored.recoveryFailedLocked .exhausted)).setJob id
            { job with recovering := true }
        else
          workloads.setRecovery job.recoveryKey
            (monitored.scheduled id now)

/-! ### Leases and observations -/

def newJob (endpoint : Endpoint)
    (lifecycleBridge : Bool) : Workload where
  binding := match workloads.policies with
    | none => binding
    | some policies => governed policies binding endpoint.clusterName
  lifecycleBridge := lifecycleBridge
  cluster := endpoint.clusterName

/-- The job of an endpoint after what the endpoint says about it was noted. -/
def noted (endpoint : Endpoint)
    (lifecycleBridge prepared : Bool) (now : Int) : Workload :=
  let job := (workloads.jobs.get endpoint.workloadID).getD
    (workloads.newJob binding endpoint lifecycleBridge)
  let job := { job with owned := endpoint.owned }
  if job.prepared.isSome ∨ prepared then
    { job with prepared := some endpoint, preparedUntil := now + 90 * second }
  else job

def observe (endpoint : Endpoint)
    (lifecycleBridge acquire prepared : Bool) (now : Int) : Workloads :=
  let id := endpoint.workloadID
  let job := workloads.noted binding endpoint lifecycleBridge prepared now
  let observed :=
    ({ workloads with observations := (id, endpoint.owned) :: workloads.observations }.setJob
      id job).observeRecoveryLocked id job
  if acquire then observed.modifyJob id Workload.lease
  else if job.timer = none ∧ ¬ job.stopped ∧ job.active = 0 then observed.scheduleLocked id now
  else observed

def acquire : Workloads :=
  workloads.modifyJob id Workload.lease

def release (outcome : RequestOutcome) (now : Int) :
    Workloads :=
  match workloads.jobs.get id with
  | none => workloads
  | some job =>
    if job.active = 0 then workloads
    else
      let job := { job with active := job.active - 1 }
      let released := (workloads.setJob id job).recoveryOutcomeLocked id job outcome now
      if job.active = 0 then
        (released.modifyJob id fun job => { job with idleSince := some now }).scheduleLocked
          id now
      else released

def available : Bool :=
  match workloads.jobs.get id with
  | none => true
  | some job => ¬ job.stopped ∧ ¬ job.stopping ∧ ¬ job.recovering

/-- `false` is the error that the workload still has active requests. -/
def canStop : Bool :=
  match workloads.jobs.get id with
  | none => true
  | some job => job.active = 0

/-! ### Configuration -/

/-- The bindings of the activatable targets, by revision and cluster. -/
def policiesOf (targets : List Target) : OrderedMap RecoveryKey Binding :=
  targets.foldl
    (fun policies target =>
      if target.source ≠ .activatable then policies
      else
        let revision := target.binding.recipeRevision
        let policies :=
          if target.binding.clusterCandidates = [] then
            policies.insert ⟨revision, []⟩ target.binding
          else policies
        target.binding.clusterCandidates.foldl
          (fun policies cluster => policies.insert ⟨revision, cluster⟩ target.binding) policies)
    .empty

/-- One round of the loop of `Configure`. -/
def configureJob (policies : OrderedMap RecoveryKey Binding) (now : Int)
    (workloads : Workloads) (id : GoString) : Workloads :=
  match workloads.jobs.get id with
  | none => workloads
  | some job =>
    let job := { job with binding := governed policies job.binding job.cluster }
    ((workloads.setJob id job).configureRecoveryLocked id job).scheduleLocked id now

/-- The loop visits the jobs in any order; `order` lists them in the order of this call. -/
def configure (targets : List Target) (order : List GoString)
    (now : Int) : Workloads :=
  let policies := policiesOf targets
  order.foldl (configureJob policies now)
    { workloads with
      policies := some policies
      retiredBindings := workloads.retiredBindings.filter fun retired =>
        ∀ target ∈ targets, retired ≠ (target.binding.deployment, target.binding.revision) }

def close : Workloads :=
  { workloads with
    closed := true
    recoveries := workloads.recoveries.mapValues RecoveryState.cancelRecoveryLocked
    jobs := workloads.jobs.mapValues fun job => { job.stopTimer with timer := job.timer } }

/-! ### Stops and controls -/

def stopped (workloads : Workloads) (id : GoString) : Workloads :=
  workloads.modifyJob id fun job =>
    { job with stopped := true, epoch := job.epoch + 1 }.stopTimer

def suspend : Workloads :=
  match workloads.jobs.get id with
  | none => workloads
  | some job =>
    (workloads.modifyRecovery job.recoveryKey fun state =>
      if state.jobID = id then state.cancelRecoveryLocked.cleared else state).setJob id
      { job with
        recovering := false
        stopping := true
        stopped := true
        epoch := job.epoch + 1 }.stopTimer

def finishAction : Workloads :=
  workloads.modifyJob id fun job => { job with stopping := false }

def running : Workloads :=
  workloads.modifyJob id fun job =>
    if job.stopping then job else { job with stopped := false }

/-! ### Recovery seen from admission -/

/-- The recovery states that govern a binding. -/
def bindingRecoveriesLocked :
    List (RecoveryKey × RecoveryState) :=
  workloads.recoveries.entries.filter fun entry =>
    match workloads.jobs.get entry.2.jobID with
    | none => false
    | some job =>
      entry.1 = ⟨binding.recipeRevision, job.cluster⟩ ∧ entry.2.policy.action ≠ .unset ∧
        (binding.clusterCandidates = [] ∨ job.cluster ∈ binding.clusterCandidates)

/-- `false` is one of the errors that keep a request out while recovery is in the way. -/
def recoveryAdmission : Bool :=
  (workloads.bindingRecoveriesLocked binding).all fun entry =>
    ¬ entry.2.phase.refuses

def resetRecovery (revision cluster : GoString) : Workloads :=
  match workloads.recoveries.get ⟨revision, cluster⟩ with
  | none => workloads
  | some state =>
    (workloads.setRecovery ⟨revision, cluster⟩ state.reset).modifyJob state.jobID
      fun job => { job with recovering := false }

/-- A deliberate start clears one recovery state and lets its job go. -/
def restartRecovery (entry : RecoveryKey × RecoveryState) : Workloads :=
  (workloads.modifyJob entry.2.jobID fun job =>
    { job with
      stopped := job.stopped || job.recovering
      pausedPhase := if job.recovering then .unknown else job.pausedPhase
      recovering := false }).setRecovery entry.1 entry.2.reset

/-- `none` is the error that a workload still has active requests. -/
def prepareManualStart : Option Workloads :=
  let recoveries := workloads.bindingRecoveriesLocked binding
  if recoveries.all fun entry => workloads.canStop entry.2.jobID then
    some (recoveries.foldl restartRecovery workloads)
  else none

/-- The prepared endpoint of one recovery state. -/
def preparedAt (now : Int) (entry : RecoveryKey × RecoveryState) :
    Option Endpoint :=
  match workloads.jobs.get entry.2.jobID with
  | none => none
  | some job =>
    if entry.2.phase = .healthy ∧ job.owned ∧ ¬ job.stopped ∧ ¬ job.stopping ∧
        ¬ job.recovering ∧ now < job.preparedUntil then job.prepared
    else none

/-- The recovery states are visited in any order, so any of the prepared endpoints may be the
one found first. -/
def preparedEndpoint (now : Int) (choice : Nat) :
    Option Endpoint :=
  let prepared :=
    (workloads.bindingRecoveriesLocked binding).filterMap (workloads.preparedAt now)
  prepared[choice % prepared.length]?

/-! ### Retired bindings -/

def retireBinding : Workloads :=
  { workloads with
    retiredBindings := (binding.deployment, binding.revision) :: workloads.retiredBindings }

def bindingRetired : Bool :=
  (binding.deployment, binding.revision) ∈ workloads.retiredBindings

end Workloads

end SparkRoute.Sparkrun
