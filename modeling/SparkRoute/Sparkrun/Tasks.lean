import SparkRoute.Sparkrun.Controller

/-!
# Goroutines that work on workloads

A task is a call of a controller's method or the callback of a timer. Between two steps of a
task any other task may take steps of its own. A step enters at most one section of the mutex
of `Workloads`, named by `Section`; a call of the bridge begins with one step and returns with
the next one of its task.

The mutexes of controllers only take interleavings away, so steps do not wait for them.
-/

namespace SparkRoute.Sparkrun

open Lib
open Lifecycle (activationKey RequestFeatures Lease)

/-! ### Answers of the environment -/

structure EnsureResult where
  state : Registry.State := .unset
  endpoint : Option Endpoint := none

structure StopResult where
  state : Registry.State := .unset
  workloadIDs : List GoString := []

inductive ControlAction where
  | stop
  | status
  | sleep
  | wake
  | unsupported (text : GoString)
  deriving DecidableEq

structure WorkloadInfo where
  jobID : GoString
  clusterName : GoString := []
  recipeRevision : GoString := []
  owned : Bool := false
  lifecycleActions : List ControlAction := []
  /-- Whether the lifecycle state is `running`. -/
  running : Bool := false

/-- `none` is the failure of a call. -/
structure Answers where
  now : Int := 0
  /-- The context under which the task waits has ended. -/
  cancelled : Bool := false
  ensured : Option EnsureResult := none
  stop : Option StopResult := none
  lifecycle : Option WorkloadInfo := none
  workloads : Option (List WorkloadInfo) := none
  discovered : Option (List Endpoint) := none
  registered : Bool := false
  removed : Bool := false
  published : Bool := false
  choice : Nat := 0

/-! ### Sections of the mutex -/

inductive Section where
  | skip
  | lock (binding : Binding)
  | unlock (binding : Binding)
  | prepareManualStart (binding : Binding)
  | acquire (id : GoString)
  | observe (binding : Binding) (endpoint : Endpoint) (lifecycleBridge prepared : Bool)
      (now : Int)
  | suspend (id : GoString)
  | stopped (id : GoString)
  | finishAction (id : GoString)
  | running (id : GoString)
  | resetRecovery (revision cluster : GoString)
  | commitIdle (id : GoString)
  | settleIdle (id : GoString) (phase : PausedPhase)
  | beginRecovery (key : RecoveryKey)
  | missDrain (key : RecoveryKey) (id : GoString)
  | drain (key : RecoveryKey) (id : GoString)
  | failRecovery (key : RecoveryKey) (reason : RecoveryReason)
  | attempt (key : RecoveryKey) (id : GoString) (now : Int)
  | issueStop (key : RecoveryKey)
  | confirmStop (key : RecoveryKey) (id : GoString) (restart : Bool)
  | restarting (key : RecoveryKey)
  | issueStart (key : RecoveryKey)
  | recovered (id : GoString)
  | backoff (key : RecoveryKey) (now : Int)
  | retry (key : RecoveryKey) (now : Int)

namespace RecoveryState

def attempted (state : RecoveryState) (phase : RecoveryPhase) (now : Int) : RecoveryState :=
  { state with attempts := state.attempts + 1, lastAttempt := now, phase := phase }

end RecoveryState

namespace Section

def enter (workloads : Workloads) : Section → Workloads
  | .skip => workloads
  | .lock binding => (workloads.lock binding).getD workloads
  | .unlock binding => workloads.unlock binding
  | .prepareManualStart binding => (workloads.prepareManualStart binding).getD workloads
  | .acquire id => workloads.acquire id
  | .observe binding endpoint lifecycleBridge prepared now =>
    workloads.observe binding endpoint lifecycleBridge false prepared now
  | .suspend id => workloads.suspend id
  | .stopped id => workloads.stopped id
  | .finishAction id => workloads.finishAction id
  | .running id => workloads.running id
  | .resetRecovery revision cluster => workloads.resetRecovery revision cluster
  | .commitIdle id => workloads.modifyJob id fun job => { job with stopping := true }
  | .settleIdle id phase =>
    workloads.modifyJob id fun job =>
      { job with timer := none, stopping := false, stopped := true, pausedPhase := phase }
  | .beginRecovery key =>
    workloads.modifyRecovery key fun state =>
      { state with cancel := some state.epoch, timer := none }
  | .missDrain key id =>
    (workloads.modifyJob id fun job => { job with recovering := true }).modifyRecovery key
      fun state => state.recoveryFailedLocked .drainTimeout
  | .drain key id =>
    (workloads.modifyJob id fun job =>
      { job with recovering := true, epoch := job.epoch + 1 }.stopTimer).modifyRecovery key
      fun state => { state with phase := .draining, nextAttempt := none }
  | .failRecovery key reason =>
    workloads.modifyRecovery key fun state => state.recoveryFailedLocked reason
  | .attempt key id now =>
    (workloads.modifyJob id fun job =>
      { job with stopped := true, pausedPhase := .unknown }).modifyRecovery key
      fun state => state.attempted .stopping now
  | .issueStop key =>
    workloads.modifyRecovery key fun state => { state with stops := state.stops + 1 }
  | .confirmStop key id restart =>
    (workloads.modifyJob id fun job =>
      { job with pausedPhase := .offline, recovering := job.recovering && restart }
    ).modifyRecovery key fun state =>
      if restart then state else { state with phase := .awaitingDemand, reason := .none }
  | .restarting key =>
    workloads.modifyRecovery key fun state =>
      { state with phase := .restarting, reason := .none, nextAttempt := none }
  | .issueStart key =>
    workloads.modifyRecovery key fun state => { state with starts := state.starts + 1 }
  | .recovered id => workloads.modifyJob id fun job => { job with recovering := false }
  | .backoff key now =>
    workloads.modifyRecovery key fun state =>
      { state with
        phase := .backoff
        reason := .startFailed
        nextAttempt := some (now + recoveryBackoff state.policy state.attempts) }
  | .retry key now => workloads.modifyRecovery key fun state => state.attempted state.phase now

end Section

/-! ### `EnsureReady` -/

inductive EnsureFailure where
  | context
  | endpointNotReady
  | activeRequests
  | recovery
  | closed
  | bridge
  | noEndpoint
  | notConfigured
  | noFencingToken
  | endpoint (text : String)
  | registry
  | metadata

structure EnsureCall where
  controller : Nat
  binding : Binding
  features : RequestFeatures

inductive EnsureStage where
  | waiting
  | entered
  | preparing
  | admitting
  | looking
  | relooking
  | granting (registration : Registration)
  | choosing
  | launching
  | verifying (result : EnsureResult)
  | approving (registration : Registration) (discovered : Endpoint)
  | registering (registration : Registration) (discovered : Endpoint)
      (prior : Option Registration)
  | publishing (registration : Registration) (discovered : Endpoint)
  | observing (registration : Registration) (discovered : Endpoint)
  | settling (registration : Registration)
  | failing (failure : EnsureFailure)
  | leaving (result : Except EnsureFailure Lease)
  | done (result : Except EnsureFailure Lease)

namespace EnsureCall

def key (call : EnsureCall) : GoString := activationKey call.binding.toBinding

/-- The checks between the bridge's answer and its registration. -/
def verify (platform : Platform) (generation : Generation) (controller : Controller)
    (call : EnsureCall) (result : EnsureResult) (now : Int) : EnsureStage :=
  match result.endpoint with
  | none => .failing .noEndpoint
  | some discovered =>
    if result.state ≠ .ready then .failing .noEndpoint
    else
      match generation.lookup call.binding.deployment with
      | none => .leaving (.error .notConfigured)
      | some target =>
        if target.source ≠ .activatable then .leaving (.error .notConfigured)
        else
          let fence := if 0 < call.binding.fencingToken then some call.binding.fencingToken
            else controller.fencingFor platform target discovered
          match fence with
          | none => .failing .noFencingToken
          | some fence =>
            match endpointFromBridge platform generation target discovered fence now with
            | .error text => .failing (.endpoint text)
            | .ok registration => .approving registration discovered

def advance (platform : Platform) (generation : Generation) (workloads : Workloads)
    (controller : Controller) (call : EnsureCall) (answers : Answers) :
    EnsureStage → Section × Controller × EnsureStage
  | .waiting =>
    if answers.cancelled then (.skip, controller, .done (.error .context))
    else if (workloads.lock call.binding).isSome then
      (.lock call.binding, controller, .entered)
    else (.skip, controller, .waiting)
  | .entered =>
    if workloads.bindingRetired call.binding then
      (.skip, controller, .leaving (.error .endpointNotReady))
    else if call.features.manualStart then (.skip, controller, .preparing)
    else (.skip, controller, .admitting)
  | .preparing =>
    if (workloads.prepareManualStart call.binding).isSome then
      (.prepareManualStart call.binding, controller, .admitting)
    else (.skip, controller, .leaving (.error .activeRequests))
  | .admitting =>
    if workloads.recoveryAdmission call.binding then (.skip, controller, .looking)
    else (.skip, controller, .leaving (.error .recovery))
  | .looking =>
    if controller.closed then (.skip, controller, .leaving (.error .closed))
    else
      match controller.cached workloads call.key answers.now with
      | some registration => (.skip, controller, .granting registration)
      | none =>
        (.skip, controller.setState call.key (controller.stateAt call.key), .relooking)
  | .relooking =>
    match controller.cached workloads call.key answers.now with
    | some registration => (.skip, controller, .granting registration)
    | none =>
      (.skip, controller.setState call.key
          { controller.stateAt call.key with state := .activating },
        .choosing)
  | .granting registration =>
    let leased := controller.newLeaseLocked call.key registration
    (.acquire registration.endpoint.clusterID, leased.1, .leaving (.ok leased.2))
  | .choosing =>
    match workloads.preparedEndpoint call.binding answers.now answers.choice with
    | some prepared => (.skip, controller, .verifying ⟨.ready, some prepared⟩)
    | none =>
      if call.features.preparedOnly then
        (.skip, controller, .failing .endpointNotReady)
      else (.skip, controller, .launching)
  | .launching =>
    match answers.ensured with
    | none => (.skip, controller, .failing .bridge)
    | some result => (.skip, controller, .verifying result)
  | .verifying result =>
    (.skip, controller, call.verify platform generation controller result answers.now)
  | .approving registration discovered =>
    (.skip, controller.approve registration, .registering registration discovered
        (controller.approved.get registration.endpoint.id))
  | .registering registration discovered prior =>
    if answers.registered then (.skip, controller, .publishing registration discovered)
    else (.skip, controller.disapprove registration prior, .failing .registry)
  | .publishing registration discovered =>
    if answers.published then (.skip, controller, .observing registration discovered)
    else (.skip, controller, .failing .metadata)
  | .observing registration discovered =>
    (.observe call.binding discovered generation.lifecycleBridge false answers.now,
      controller, .settling registration)
  | .settling registration =>
    let ready := controller.setState call.key
      { controller.stateAt call.key with state := .ready, endpoint := some registration }
    let leased := ready.newLeaseLocked call.key registration
    (.acquire registration.endpoint.clusterID, leased.1, .leaving (.ok leased.2))
  | .failing failure =>
    (.skip, controller.setFailure call.key, .leaving (.error failure))
  | .leaving result => (.unlock call.binding, controller, .done result)
  | .done result => (.skip, controller, .done result)

end EnsureCall

/-! ### `Stop` -/

/-- `stopLocked`, entered with the gate held. -/
inductive StopStage where
  | checking
  | suspending
  | marking
  | calling
  | stopped
  | unapproving
  | removing
  | settling
  | finishing (ok : Bool)
  | left (ok : Bool)

def StopStage.advance (controller : Controller) (binding : Binding) (id : GoString)
    (workloads : Workloads) (answers : Answers) :
    StopStage → Section × Controller × StopStage
  | .checking =>
    if id ≠ [] ∧ workloads.canStop id then (.skip, controller, .suspending)
    else (.skip, controller, .left false)
  | .suspending => (.suspend id, controller, .marking)
  | .marking =>
    match controller.states.get (activationKey binding.toBinding) with
    | none => (.skip, controller, .calling)
    | some state =>
      (.skip, controller.setState (activationKey binding.toBinding)
          { state with state := .deactivating },
        .calling)
  | .calling =>
    if answers.stop.isSome then (.skip, controller, .stopped)
    else
      (.skip, controller.setFailure (activationKey binding.toBinding), .finishing false)
  | .stopped => (.stopped id, controller, .unapproving)
  | .unapproving => (.skip, controller.unapproveTarget binding.deployment, .removing)
  | .removing =>
    if answers.removed ∧ answers.published then (.skip, controller, .settling)
    else (.skip, controller, .finishing false)
  | .settling =>
    (.skip, controller.setState (activationKey binding.toBinding)
        { controller.stateAt (activationKey binding.toBinding) with
          state := .offline
          endpoint := none },
      .finishing true)
  | .finishing ok => (.finishAction id, controller, .left ok)
  | .left ok => (.skip, controller, .left ok)

structure StopCall where
  controller : Nat
  binding : Binding

inductive StopPlace where
  | reading
  | waiting (id : GoString)
  | locked (id : GoString) (stage : StopStage)
  | done

namespace StopCall

/-- The workload that the controller has on record for a binding. -/
def clusterID (controller : Controller) (binding : Binding) : GoString :=
  match (controller.stateAt (activationKey binding.toBinding)).endpoint with
  | none => []
  | some registration => registration.endpoint.clusterID

def advance (workloads : Workloads) (controller : Controller) (call : StopCall)
    (answers : Answers) : StopPlace → Section × Controller × StopPlace
  | .reading => (.skip, controller, .waiting (clusterID controller call.binding))
  | .waiting id =>
    if answers.cancelled then (.skip, controller, .done)
    else if (workloads.lock call.binding).isSome then
      (.lock call.binding, controller, .locked id .checking)
    else (.skip, controller, .waiting id)
  | .locked _ (.left _) => (.unlock call.binding, controller, .done)
  | .locked id stage =>
    let moved := stage.advance controller call.binding id workloads answers
    (moved.1, moved.2.1, .locked id moved.2.2)
  | .done => (.skip, controller, .done)

end StopCall

/-! ### `WorkloadAction` -/

structure ControlCall where
  controller : Nat
  target : Target
  jobID : GoString
  action : ControlAction

inductive ControlPlace where
  | waiting
  | inspecting
  | vetting (info : WorkloadInfo)
  | stopping (info : WorkloadInfo) (stage : StopStage)
  | resetting (info : WorkloadInfo)
  | suspending
  | calling
  | stopped
  | unapproving
  | removing
  | resuming
  | restoring
  | finishing
  | leaving
  | done

namespace ControlCall

def receipt (call : ControlCall) (report : List WorkloadInfo) : Option WorkloadInfo :=
  report.find? fun info =>
    info.jobID = call.jobID ∧ info.recipeRevision = call.target.binding.recipeRevision ∧
      info.clusterName ∈ call.target.binding.clusterCandidates

/-- The deferred end of an action, which `status` does not have. -/
def ending (call : ControlCall) : ControlPlace :=
  if call.action = .status then .leaving else .finishing

def advance (workloads : Workloads) (controller : Controller) (call : ControlCall)
    (answers : Answers) : ControlPlace → Section × Controller × ControlPlace
  | .waiting =>
    if answers.cancelled then (.skip, controller, .done)
    else if (workloads.lock call.target.binding).isSome then
      (.lock call.target.binding, controller, .inspecting)
    else (.skip, controller, .waiting)
  | .inspecting =>
    match answers.workloads.bind call.receipt with
    | none => (.skip, controller, .leaving)
    | some info =>
      if call.action ≠ .stop ∧ call.action ∉ info.lifecycleActions then
        (.skip, controller, .leaving)
      else if call.action = .status then (.skip, controller, .calling)
      else if ¬ info.owned then (.skip, controller, .leaving)
      else (.skip, controller, .vetting info)
  | .vetting info =>
    if ¬ workloads.canStop call.jobID then (.skip, controller, .leaving)
    else if call.action = .stop then (.skip, controller, .stopping info .checking)
    else (.skip, controller, .suspending)
  | .stopping info (.left ok) =>
    (.skip, controller, if ok then .resetting info else .leaving)
  | .stopping info stage =>
    let moved := stage.advance controller call.target.binding call.jobID workloads answers
    (moved.1, moved.2.1, .stopping info moved.2.2)
  | .resetting info =>
    (.resetRecovery call.target.binding.recipeRevision info.clusterName, controller, .leaving)
  | .suspending => (.suspend call.jobID, controller, .calling)
  | .calling =>
    match answers.lifecycle with
    | none => (.skip, controller, call.ending)
    | some info => (.skip, controller, if info.running then .resuming else .stopped)
  | .stopped => (.stopped call.jobID, controller, .unapproving)
  | .unapproving => (.skip, controller.unapproveTarget call.target.deployment, .removing)
  | .removing => (.skip, controller, call.ending)
  | .resuming => (.finishAction call.jobID, controller, .restoring)
  | .restoring => (.running call.jobID, controller, call.ending)
  | .finishing => (.finishAction call.jobID, controller, .leaving)
  | .leaving => (.unlock call.target.binding, controller, .done)
  | .done => (.skip, controller, .done)

end ControlCall

/-! ### `Reconcile` -/

structure Sweep where
  endpoints : List Endpoint
  targets : List Target
  seen : List GoString
  started : Int

inductive ReconcileStage where
  | discovering (order : List Target)
  | visiting (sweep : Sweep)
  | scanning (target : Target) (remaining : List Endpoint) (sweep : Sweep)
  | observing (target : Target) (discovered : Endpoint) (remaining : List Endpoint)
      (sweep : Sweep)
  | fencing (target : Target) (discovered : Endpoint) (remaining : List Endpoint)
      (sweep : Sweep)
  | approving (target : Target) (registration : Registration) (remaining : List Endpoint)
      (sweep : Sweep)
  | registering (target : Target) (registration : Registration)
      (prior : Option Registration) (remaining : List Endpoint) (sweep : Sweep)
  | refreshing (target : Target) (registration : Registration) (remaining : List Endpoint)
      (sweep : Sweep)
  | done

namespace ReconcileStage

def advance (platform : Platform) (generation : Generation) (workloads : Workloads)
    (controller : Controller) (answers : Answers) :
    ReconcileStage → Section × Controller × ReconcileStage
  | .discovering order =>
    match answers.discovered with
    | none => (.skip, controller, .done)
    | some endpoints =>
      if 256 < endpoints.length then (.skip, controller, .done)
      else (.skip, controller, .visiting ⟨endpoints, order, [], answers.now⟩)
  | .visiting sweep =>
    match sweep.targets with
    | [] => (.skip, controller.removeMissing sweep.seen sweep.started, .done)
    | target :: targets =>
      let rest := { sweep with targets := targets }
      if target.source = .activatable ∧ ¬ workloads.recoveryAdmission target.binding then
        (.skip, controller, .visiting rest)
      else (.skip, controller, .scanning target rest.endpoints rest)
  | .scanning target remaining sweep =>
    match remaining with
    | [] => (.skip, controller, .visiting sweep)
    | discovered :: remaining =>
      if ¬ matchesTarget target discovered ∨ ¬ workloads.available discovered.workloadID then
        (.skip, controller, .scanning target remaining sweep)
      else if target.source = .activatable then
        (.skip, controller, .observing target discovered remaining sweep)
      else (.skip, controller, .fencing target discovered remaining sweep)
  | .observing target discovered remaining sweep =>
    (.observe target.binding discovered generation.lifecycleBridge false answers.now,
      controller, .fencing target discovered remaining sweep)
  | .fencing target discovered remaining sweep =>
    let fence := if target.source = .activatable then
      controller.fencingFor platform target discovered else some 0
    match fence with
    | none => (.skip, controller, .scanning target remaining sweep)
    | some fence =>
      match endpointFromBridge platform generation target discovered fence answers.now with
      | .error _ => (.skip, controller, .scanning target remaining sweep)
      | .ok registration => (.skip, controller, .approving target registration remaining sweep)
  | .approving target registration remaining sweep =>
    (.skip, controller.approve registration,
      .registering target registration (controller.approved.get registration.endpoint.id)
        remaining sweep)
  | .registering target registration prior remaining sweep =>
    if answers.registered then
      (.skip, controller, .refreshing target registration remaining
        { sweep with seen := registration.endpoint.id :: sweep.seen })
    else (.skip, controller.disapprove registration prior, .done)
  | .refreshing target registration remaining sweep =>
    (.skip, controller.refreshBindingState target registration, .scanning target remaining sweep)
  | .done => (.skip, controller, .done)

end ReconcileStage

/-! ### The idle timer -/

structure IdleTimer where
  id : GoString
  epoch : Nat

inductive IdleStage where
  | fired
  | waiting (binding : Binding)
  | checking (binding : Binding)
  | committed (binding : Binding)
  | calling (binding : Binding)
  | settling (binding : Binding) (ok : Bool)
  | leaving (binding : Binding)
  | done

namespace IdleTimer

/-- The pause that a finished transition leaves a job in. -/
def pause (binding : Binding) (ok : Bool) : PausedPhase :=
  if ¬ ok then .unknown else if binding.idleAction = .sleep then .sleeping else .offline

/-- What the callback checks once it has the gate. -/
def due (timer : IdleTimer) (workloads : Workloads) (job : Workload) : Bool :=
  ¬ workloads.closed ∧ job.epoch = timer.epoch ∧ job.active = 0 ∧ ¬ job.recovering ∧
    ¬ workloads.recoveryScheduledLocked job

def advance (workloads : Workloads) (timer : IdleTimer) (answers : Answers) :
    IdleStage → Section × IdleStage
  | .fired =>
    match workloads.jobs.get timer.id with
    | none => (.skip, .done)
    | some job => (.skip, .waiting job.binding)
  | .waiting binding =>
    if answers.cancelled then (.skip, .done)
    else if (workloads.lock binding).isSome then (.lock binding, .checking binding)
    else (.skip, .waiting binding)
  | .checking binding =>
    match workloads.jobs.get timer.id with
    | none => (.skip, .leaving binding)
    | some job =>
      if timer.due workloads job then (.commitIdle timer.id, .committed binding)
      else (.skip, .leaving binding)
  | .committed binding =>
    match workloads.jobs.get timer.id with
    | none => (.skip, .leaving binding)
    | some job =>
      if binding.idleAction = .sleep ∧ ¬ job.lifecycleBridge then
        (.skip, .settling binding false)
      else (.skip, .calling binding)
  | .calling binding =>
    if binding.idleAction = .sleep then (.skip, .settling binding answers.lifecycle.isSome)
    else (.skip, .settling binding answers.stop.isSome)
  | .settling binding ok => (.settleIdle timer.id (pause binding ok), .leaving binding)
  | .leaving binding => (.unlock binding, .done)
  | .done => (.skip, .done)

end IdleTimer

/-! ### Recovery -/

structure RecoveryJob where
  id : GoString
  key : RecoveryKey
  epoch : Nat

inductive RecoveryStage where
  | fired
  | waiting (binding : Binding)
  | checking (binding : Binding)
  | draining (binding : Binding)
  | expired (binding : Binding)
  | committing (binding : Binding)
  | committed (binding : Binding)
  | callingStop (binding : Binding)
  | confirming (binding : Binding) (ok : Bool)
  | restarting (binding : Binding)
  | starting (binding : Binding)
  | callingStart (binding : Binding)
  | judging (binding : Binding) (result : Option EnsureResult)
  | sleeping (binding : Binding)
  | retrying (binding : Binding)
  | observing (binding : Binding) (endpoint : Endpoint)
  | leaving (binding : Binding)
  | done

namespace RecoveryJob

def confirms (job : RecoveryJob) (result : Option StopResult) : Bool :=
  match result with
  | none => false
  | some result => result.state = .offline ∧ job.id ∈ result.workloadIDs

/-- The endpoint of a restart that may replace the stopped workload. -/
def replacement (platform : Platform) (job : RecoveryJob) (binding : Binding)
    (result : EnsureResult) : Option Endpoint :=
  result.endpoint.filter fun endpoint =>
    result.state = .ready ∧ endpoint.owned ∧ endpoint.state = .ready ∧
      endpoint.protocol = ascii "openai" ∧ validateHost platform endpoint.host ∧
      1 ≤ endpoint.port ∧ endpoint.port ≤ 65535 ∧ endpoint.servedModels ≠ [] ∧
      endpoint.workloadID ≠ [] ∧ endpoint.jobID ≠ [] ∧ endpoint.workloadID ≠ job.id ∧
      endpoint.recipeRevision = binding.recipeRevision ∧
      endpoint.clusterName ∈ binding.clusterCandidates

/-- Whether the recovery still acts for its recovery state. -/
def live (job : RecoveryJob) (workloads : Workloads) (state : RecoveryState) : Bool :=
  ¬ workloads.closed ∧ state.epoch = job.epoch

/-- A step taken with the recovery state and the workload at hand. -/
def proceed (platform : Platform) (workloads : Workloads) (job : RecoveryJob)
    (answers : Answers) (state : RecoveryState) (workload : Workload) :
    RecoveryStage → Section × RecoveryStage
  | .fired =>
    if job.live workloads state then (.beginRecovery job.key, .waiting workload.binding)
    else (.skip, .done)
  | .waiting binding =>
    if answers.cancelled then
      (if job.live workloads state then .missDrain job.key job.id else .skip, .done)
    else if (workloads.lock binding).isSome then (.lock binding, .checking binding)
    else (.skip, .waiting binding)
  | .checking binding =>
    if job.live workloads state ∧ ¬ workload.stopped ∧ workload.owned then
      (.drain job.key job.id, .draining binding)
    else (.skip, .leaving binding)
  | .draining binding =>
    if ¬ job.live workloads state then (.skip, .leaving binding)
    else if workload.active = 0 then
      (.skip, .committing { binding with clusterCandidates := [workload.cluster] })
    else if answers.cancelled then (.skip, .expired binding)
    else (.skip, .draining binding)
  | .expired binding =>
    (if state.epoch = job.epoch then .failRecovery job.key .drainTimeout else .skip,
      .leaving binding)
  | .committing binding =>
    if job.live workloads state then
      (.attempt job.key job.id answers.now, .committed binding)
    else (.skip, .leaving binding)
  | .committed binding => (.issueStop job.key, .callingStop binding)
  | .callingStop binding => (.skip, .confirming binding (job.confirms answers.stop))
  | .confirming binding ok =>
    if ¬ job.live workloads state then (.skip, .leaving binding)
    else if ¬ ok then (.failRecovery job.key .stopFailed, .leaving binding)
    else if state.policy.action = .stop then
      (.confirmStop job.key job.id false, .leaving binding)
    else (.confirmStop job.key job.id true, .restarting binding)
  | .restarting binding =>
    if job.live workloads state then (.restarting job.key, .starting binding)
    else (.skip, .leaving binding)
  | .starting binding => (.issueStart job.key, .callingStart binding)
  | .callingStart binding => (.skip, .judging binding answers.ensured)
  | .judging binding result =>
    if ¬ job.live workloads state then (.skip, .leaving binding)
    else
      match result with
      | some result =>
        match job.replacement platform binding result with
        | some endpoint => (.recovered job.id, .observing binding endpoint)
        | none => (.failRecovery job.key .invalidEndpoint, .leaving binding)
      | none =>
        if state.policy.maxRestarts ≤ state.attempts then
          (.failRecovery job.key .exhausted, .leaving binding)
        else (.backoff job.key answers.now, .sleeping binding)
  | .sleeping binding =>
    if answers.cancelled then (.skip, .leaving binding) else (.skip, .retrying binding)
  | .retrying binding =>
    if job.live workloads state then (.retry job.key answers.now, .restarting binding)
    else (.skip, .leaving binding)
  | .observing binding endpoint =>
    (.observe binding endpoint workload.lifecycleBridge true answers.now, .leaving binding)
  | .leaving binding => (.unlock binding, .done)
  | .done => (.skip, .done)

/-- Neither recovery states nor workloads are ever removed. -/
def advance (platform : Platform) (workloads : Workloads) (job : RecoveryJob)
    (answers : Answers) (stage : RecoveryStage) : Section × RecoveryStage :=
  match workloads.recoveries.get job.key, workloads.jobs.get job.id with
  | some state, some workload => job.proceed platform workloads answers state workload stage
  | _, _ => (.skip, stage)

end RecoveryJob

/-! ### Tasks -/

inductive Task where
  | ensureReady (call : EnsureCall) (stage : EnsureStage)
  | stop (call : StopCall) (place : StopPlace)
  | control (call : ControlCall) (place : ControlPlace)
  | reconcile (controller : Nat) (stage : ReconcileStage)
  | idle (timer : IdleTimer) (stage : IdleStage)
  | recovery (job : RecoveryJob) (stage : RecoveryStage)

/-- The recipe revision whose gate a task is behind. -/
def Task.holds : Task → Option GoString
  | .ensureReady call stage =>
    match stage with
    | .waiting | .done _ => none
    | _ => some call.binding.recipeRevision
  | .stop call place =>
    match place with
    | .locked _ _ => some call.binding.recipeRevision
    | _ => none
  | .control call place =>
    match place with
    | .waiting | .done => none
    | _ => some call.target.binding.recipeRevision
  | .reconcile _ _ => none
  | .idle _ stage =>
    match stage with
    | .checking binding | .committed binding | .calling binding | .settling binding _
    | .leaving binding => some binding.recipeRevision
    | _ => none
  | .recovery _ stage =>
    match stage with
    | .fired | .waiting _ | .done => none
    | .checking binding | .draining binding | .expired binding | .committing binding
    | .committed binding | .callingStop binding | .confirming binding _
    | .restarting binding | .starting binding | .callingStart binding | .judging binding _
    | .sleeping binding | .retrying binding | .observing binding _ | .leaving binding =>
      some binding.recipeRevision

def Task.advance (platform : Platform) (generations : Nat → Generation)
    (workloads : Workloads) (controllers : Nat → Controller) (answers : Answers) :
    Task → Section × (Nat → Controller) × Task
  | .ensureReady call stage =>
    let moved := call.advance platform (generations call.controller) workloads
      (controllers call.controller) answers stage
    (moved.1, Function.update controllers call.controller moved.2.1, .ensureReady call moved.2.2)
  | .stop call place =>
    let moved := call.advance workloads (controllers call.controller) answers place
    (moved.1, Function.update controllers call.controller moved.2.1, .stop call moved.2.2)
  | .control call place =>
    let moved := call.advance workloads (controllers call.controller) answers place
    (moved.1, Function.update controllers call.controller moved.2.1, .control call moved.2.2)
  | .reconcile controller stage =>
    let moved := stage.advance platform (generations controller) workloads
      (controllers controller) answers
    (moved.1, Function.update controllers controller moved.2.1, .reconcile controller moved.2.2)
  | .idle timer stage =>
    let moved := timer.advance workloads answers stage
    (moved.1, controllers, .idle timer moved.2)
  | .recovery job stage =>
    let moved := job.advance platform workloads answers stage
    (moved.1, controllers, .recovery job moved.2)

end SparkRoute.Sparkrun
