import SparkRoute.Lib.StableSort
import SparkRoute.Lifecycle.Activation
import SparkRoute.Lifecycle.Shared

/-!
# Requests as step machines

A request runs `Acquire` or `Start`.  Between two of its steps any other request
may take steps of its own; one step is one critical section together with the
answers of the environment that surround it.  `Answers` holds every answer that
a step can need: each step reads the ones its stage asks for.
-/

namespace SparkRoute.Lifecycle

open Lib
open Registry

structure RequestFeatures where
  preparedOnly : Bool := false
  manualStart : Bool := false

structure AdmissionRequest where
  deployment : GoString
  features : RequestFeatures := {}
  bodyBytes : Int64Value

structure Status where
  prepared : Bool := false
  state : State := .unset
  endpoint : Option Endpoint := none

structure Answers where
  now : Int := 0
  /-- `registry.Ready`, or its failure. -/
  registry : Option (List Endpoint) := none
  /-- The authorizer, for each endpoint it is asked about in turn. -/
  authorized : Nat → Bool := fun _ => true
  /-- `controller.Status`, or its failure. -/
  status : Option Status := none
  ensureReady : Except Fault Lease := .error .other
  begin : Except Fault ActivationClaim := .error .other
  /-- The failure of `activations.Complete`. -/
  complete : Option Fault := none
  /-- The context's error when it ends the wait for the next poll. -/
  cancelled : Option Fault := none

/-- Where `readyEndpoint` was called from. -/
inductive Site where
  | entry
  | queueFull (failure : AdmissionError)
  | observing (claim : ActivationClaim)
  | attempt (number : Nat)

inductive Stage where
  | ready (site : Site)
  | scanning (site : Site) (remaining : List Endpoint)
  | checkingStatus
  | rejecting (failure : AdmissionError)
  | rejected (failure : AdmissionError) (current : State)
  | enqueueing
  | beginning
  | observing (claim : ActivationClaim)
  | activating (claim : ActivationClaim)
  | ensuring (claim : Option ActivationClaim) (expected : GoString)
  | validating (claim : Option ActivationClaim) (expected : GoString)
  | abandoning (claim : ActivationClaim) (fault : Fault)
  | completing (claim : ActivationClaim) (endpoint : Endpoint)
  | announcing (endpoint : Endpoint)
  | discarding (fault : Fault)
  | failing (fault : Fault)
  | admitting (endpoint : Endpoint) (attempt : Option Nat)
  | leaving (result : Except AdmissionError Nat)
  | releasing (lease : Nat)
  | returning (lease : Nat)
  | done (result : Except AdmissionError Nat)

/-- `started` tells a call of `Start` from one of `Acquire`, `queued` says that the
deferred `dequeue` is pending, and `held` is the controller's lease that this
request is responsible for. -/
structure Execution where
  target : Target
  features : RequestFeatures
  bodyBytes : Int64Value
  started : Bool := false
  queued : Bool := false
  held : Option (Nat × Lease) := none
  stage : Stage

namespace Execution

variable (execution : Execution)

def moveTo (stage : Stage) : Execution :=
  { execution with stage := stage }

variable (coordinator : AdmissionCoordinator)

def notReady :
    Site → Execution
  | .entry =>
    if execution.features.preparedOnly then
      execution.moveTo
        (.leaving (.error (coordinator.admissionError .endpointNotReady .endpointNotReady)))
    else if execution.target.binding.coldStart = .reject then
      execution.moveTo .checkingStatus
    else
      execution.moveTo .enqueueing
  | .queueFull failure => execution.moveTo (.rejecting failure)
  | .observing claim => execution.moveTo (.observing claim)
  | .attempt _ =>
    execution.moveTo
      (.leaving (.error (coordinator.admissionError .endpointNotReady .endpointNotReady)))

def foundReady (endpoint : Endpoint) : Site → Execution
  | .attempt number => execution.moveTo (.admitting endpoint (some number))
  | _ => execution.moveTo (.ensuring none endpoint.id)

def failureReason : Fault → Reason
  | .deadlineExceeded => .activationTimeout
  | .canceled => .activationCancelled
  | .invalidEndpoint => .invalidEndpoint
  | .other => .controllerFailure

/-- One round of `observeActivation` after `readyEndpoint` failed. -/
def observe
    (claim : ActivationClaim) (answers : Answers) : Stage :=
  let wait :=
    if ¬ answers.now < claim.expiresAt then .beginning
    else
      match answers.cancelled with
      | some fault => .failing fault
      | none => .ready (.observing claim)
  match answers.status with
  | none => wait
  | some status =>
    if status.state = .failed then .failing .other
    else
      match status.endpoint with
      | none => wait
      | some endpoint =>
        if status.state = .ready then
          match coordinator.validateEndpoint execution.target (answers.authorized 0)
              endpoint with
          | .ok endpoint => .ensuring none endpoint.id
          | .error _ => wait
        else wait

/-- The lease that an activation owner got is for another activation. -/
def foreign (binding : Binding) (lease : Lease) : Option ActivationClaim → Bool
  | none => false
  | some claim =>
    lease.endpoint.bindingRevision ≠ binding.revision ∨
      lease.endpoint.fencingToken ≠ claim.fencingToken

/-- The checks between `EnsureReady` and the admission of its lease. -/
def vetLease
    (claim : Option ActivationClaim) (expected : GoString) (lease : Lease)
    (answers : Answers) : Except InvalidEndpoint Endpoint :=
  if foreign execution.target.binding lease claim then .error .invalidFencingToken
  else
    coordinator.validateControllerLease execution.target lease expected
      answers.authorized answers.registry

def validated (claim : Option ActivationClaim) :
    Except InvalidEndpoint Endpoint → Stage
  | .ok endpoint =>
    match claim with
    | some claim => .completing claim endpoint
    | none => .admitting endpoint none
  | .error _ =>
    match claim with
    | some claim => .abandoning claim .invalidEndpoint
    | none => .discarding .invalidEndpoint

def advance (shared : Shared) (execution : Execution)
    (answers : Answers) : Shared × Execution :=
  let binding := execution.target.binding
  match execution.stage with
  | .ready site =>
    match answers.registry with
    | none => (shared, execution.notReady coordinator site)
    | some endpoints =>
      (shared, execution.moveTo (.scanning site (sortByKey Endpoint.id endpoints)))
  | .scanning site [] => (shared, execution.notReady coordinator site)
  | .scanning site (endpoint :: remaining) =>
    match coordinator.validateEndpoint execution.target (answers.authorized 0) endpoint with
    | .error _ => (shared, execution.moveTo (.scanning site remaining))
    | .ok endpoint =>
      if Shared.full endpoint (shared.endpointActive endpoint.id) then
        (shared, execution.moveTo (.scanning site remaining))
      else (shared, execution.foundReady endpoint site)
  | .checkingStatus =>
    if (answers.status.map Status.prepared).getD false then
      (shared, { execution with
          features := { execution.features with preparedOnly := true }
          stage := .enqueueing })
    else
      (shared, execution.moveTo
        (.rejecting (coordinator.admissionError .coldStartRejected .coldStartRejected)))
  | .rejecting failure =>
    (shared, execution.moveTo
      (.rejected failure (shared.bindings (activationKey binding)).state))
  | .rejected failure current =>
    (shared.transition binding current failure.reason none answers.now,
      execution.moveTo (.leaving (.error failure)))
  | .enqueueing =>
    match shared.enqueue coordinator binding execution.bodyBytes.val with
    | .error failure => (shared, execution.moveTo (.ready (.queueFull failure)))
    | .ok shared => (shared, { execution with queued := true, stage := .beginning })
  | .beginning =>
    match answers.begin with
    | .error fault => (shared, execution.moveTo (.failing fault))
    | .ok claim =>
      if claim.disposition = .owner then
        (shared, execution.moveTo (.activating claim))
      else (shared, execution.moveTo (.ready (.observing claim)))
  | .observing claim =>
    (shared, execution.moveTo (execution.observe coordinator claim answers))
  | .activating claim =>
    (shared.transition binding .activating .activationStarted none answers.now,
      execution.moveTo (.ensuring (some claim) []))
  | .ensuring claim expected =>
    match answers.ensureReady with
    | .ok lease =>
      (shared.grant lease, { execution with
          held := some (shared.grants.length, lease)
          stage := .validating claim expected })
    | .error fault =>
      match claim with
      | some claim => (shared, execution.moveTo (.abandoning claim fault))
      | none => (shared, execution.moveTo (.failing fault))
  | .validating claim expected =>
    match execution.held with
    | none => (shared, execution)
    | some (_, lease) =>
      (shared, execution.moveTo
        (validated claim (execution.vetLease coordinator claim expected lease answers)))
  | .abandoning _ fault =>
    if execution.held.isSome then
      (shared, execution.moveTo (.discarding fault))
    else (shared, execution.moveTo (.failing fault))
  | .completing _ endpoint =>
    match answers.complete with
    | none => (shared, execution.moveTo (.announcing endpoint))
    | some fault => (shared, execution.moveTo (.discarding fault))
  | .announcing endpoint =>
    (shared.transition binding .ready .activationReady (some endpoint) answers.now,
      execution.moveTo (.admitting endpoint none))
  | .discarding fault =>
    match execution.held with
    | none => (shared, execution.moveTo (.failing fault))
    | some (number, _) =>
      (shared.giveBack number, { execution with held := none, stage := .failing fault })
  | .failing fault =>
    (shared.transition binding .failed (failureReason fault) none answers.now, execution.moveTo
        (.leaving (.error (coordinator.admissionError (failureReason fault) (.fault fault)))))
  | .admitting endpoint attempt =>
    match shared.admitEndpoint execution.target endpoint execution.held attempt.isSome with
    | some admitted =>
      (admitted, { execution with held := none, stage := .leaving (.ok shared.leases.length) })
    | none =>
      if attempt.getD 0 + 1 < 2 then
        (shared, execution.moveTo (.ready (.attempt (attempt.getD 0 + 1))))
      else
        (shared, execution.moveTo (.leaving (.error
          (coordinator.admissionError .endpointNotReady .endpointNotReady))))
  | .leaving result =>
    let left := if execution.queued then shared.dequeue binding execution.bodyBytes.val
      else shared
    match result with
    | .error failure =>
      (left, { execution with queued := false, stage := .done (.error failure) })
    | .ok lease =>
      if execution.started then
        (left, { execution with queued := false, stage := .releasing lease })
      else
        (left.markReturned lease, { execution with queued := false, stage := .done (.ok lease) })
  | .releasing lease =>
    (shared.claimRelease lease, execution.moveTo (.returning lease))
  | .returning lease =>
    if ((shared.leases[lease]?).map AdmissionLease.phase) = some .passed then
      (shared, execution.moveTo (.done (.ok lease)))
    else (shared, execution)
  | .done _ => (shared, execution)

end Execution

/-! ### Calls and runs -/

inductive RequestFailure where
  | context (fault : Fault)
  | negativeBodyBytes
  | unknownDeployment

namespace AdmissionCoordinator

/-- `Acquire` up to its first call of the environment; `none` is the answer for a
static target. -/
def acquire (coordinator : AdmissionCoordinator) (cancelled : Option Fault)
    (request : AdmissionRequest) : Except RequestFailure (Option Execution) :=
  match cancelled with
  | some fault => .error (.context fault)
  | none =>
    if request.bodyBytes.val < 0 then .error .negativeBodyBytes
    else
      match coordinator.lookup request.deployment with
      | none => .error .unknownDeployment
      | some target =>
        match target.source with
        | .static => .ok none
        | .discovered =>
          .ok (some
            { target := target
              features := request.features
              bodyBytes := request.bodyBytes
              stage := .ready (.attempt 0) })
        | .activatable =>
          .ok (some
            { target := target
              features := request.features
              bodyBytes := request.bodyBytes
              stage := .ready .entry })
        | _ => .error .unknownDeployment

/-- `Start` up to its first call of the environment. -/
def start (coordinator : AdmissionCoordinator) (deployment : GoString) :
    Except RequestFailure Execution :=
  match coordinator.lookup deployment with
  | none => .error .unknownDeployment
  | some target =>
    if target.source = .activatable then
      .ok
        { target := { target with binding := { target.binding with coldStart := .wait } }
          features := { manualStart := true }
          bodyBytes := ⟨0, int64_zero⟩
          started := true
          stage := .ready .entry }
    else .error .unknownDeployment

end AdmissionCoordinator

inductive Action where
  | acquire (cancelled : Option Fault) (request : AdmissionRequest)
  | start (deployment : GoString)
  | advance (index : Nat) (answers : Answers)
  | release (lease : Nat)
  | account (lease : Nat)
  | pass (lease : Nat)

/-- `trace` lists the steps that requests have taken, with the answers they got. -/
structure System where
  shared : Shared := {}
  executions : List Execution := []
  trace : List (Execution × Answers) := []

namespace System

def step (coordinator : AdmissionCoordinator) (system : System) : Action → System
  | .acquire cancelled request =>
    match coordinator.acquire cancelled request with
    | .ok (some execution) =>
      { system with executions := system.executions ++ [execution] }
    | _ => system
  | .start deployment =>
    match coordinator.start deployment with
    | .ok execution => { system with executions := system.executions ++ [execution] }
    | .error _ => system
  | .advance index answers =>
    match system.executions[index]? with
    | none => system
    | some execution =>
      let (shared, moved) := execution.advance coordinator system.shared answers
      { shared := shared
        executions := system.executions.set index moved
        trace := system.trace ++ [(execution, answers)] }
  | .release index =>
    match system.shared.leases[index]? with
    | none => system
    | some lease =>
      if lease.returned then { system with shared := system.shared.claimRelease index }
      else system
  | .account index => { system with shared := system.shared.accountRelease coordinator index }
  | .pass index => { system with shared := system.shared.passRelease index }

def run (coordinator : AdmissionCoordinator) (actions : List Action) : System :=
  Lib.run (step coordinator) {} actions

end System

def sampleRequest : AdmissionRequest where
  deployment := ascii "d"
  bodyBytes := ⟨5, by decide⟩

end SparkRoute.Lifecycle
