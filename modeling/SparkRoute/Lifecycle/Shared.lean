import SparkRoute.Lifecycle.Validation

/-!
# State shared by all requests

Each operation here is one critical section of the coordinator's mutex, one
compare-and-swap, or one call of a controller.  `grants` and `released` record
which leases controllers handed out and which were passed to `Release`.
-/

namespace SparkRoute.Lifecycle

open Lib
open Registry

inductive Reason where
  | none
  | endpointNotReady
  | coldStartRejected
  | queueWaitersExceeded
  | queueBytesExceeded
  | activationStarted
  | activationReady
  | controllerFailure
  | activationTimeout
  | activationCancelled
  | invalidEndpoint
  deriving DecidableEq

/-- What `errors.Is` tells apart in an error of the environment. -/
inductive Fault where
  | deadlineExceeded
  | canceled
  | invalidEndpoint
  | other
  deriving DecidableEq

inductive Cause where
  | endpointNotReady
  | coldStartRejected
  | queueFull
  | queueBytes
  | fault (fault : Fault)
  deriving DecidableEq

structure AdmissionError where
  reason : Reason
  retryAfter : Int
  cause : Cause
  deriving DecidableEq

def AdmissionCoordinator.admissionError (coordinator : AdmissionCoordinator)
    (reason : Reason) (cause : Cause) : AdmissionError :=
  ⟨reason, coordinator.retryAfter, cause⟩

structure AdmissionBindingState where
  state : State := .offline
  activationStarted : Option Int := .none
  activationDeadline : Option Int := .none
  endpointID : GoString := []
  activeLeases : Nat := 0
  queuedWaiters : Int := 0
  queuedBodyBytes : Int := 0
  reason : Reason := .none
  deriving DecidableEq

/-- How far `Release` has come: the flag is swapped, then the counters move, then
the controller is called. -/
inductive LeasePhase where
  | held
  | claimed
  | accounted
  | passed
  deriving DecidableEq

/-- `controllerLease` carries the number of the controller's grant, and `returned`
says that a caller of `Acquire` has the lease. -/
structure AdmissionLease where
  endpoint : Endpoint
  deployment : GoString
  controllerLease : Option (Nat × Lease)
  phase : LeasePhase := .held
  returned : Bool := false

structure Shared where
  bindings : GoString → AdmissionBindingState := fun _ => {}
  endpointActive : GoString → Nat := fun _ => 0
  leases : List AdmissionLease := []
  grants : List Lease := []
  released : List Nat := []

namespace Shared

def setBinding (shared : Shared) (key : GoString) (state : AdmissionBindingState) : Shared :=
  { shared with bindings := Function.update shared.bindings key state }

def enqueue (shared : Shared) (coordinator : AdmissionCoordinator) (binding : Binding)
    (bodyBytes : Int) : Except AdmissionError Shared :=
  let state := shared.bindings (activationKey binding)
  if binding.maxQueuedWaiters ≤ state.queuedWaiters then
    .error (coordinator.admissionError .queueWaitersExceeded .queueFull)
  else if wrapInt64 (binding.maxQueuedBodyBytes.val - state.queuedBodyBytes) < bodyBytes then
    .error (coordinator.admissionError .queueBytesExceeded .queueBytes)
  else
    .ok (shared.setBinding (activationKey binding)
      { state with
        queuedWaiters := state.queuedWaiters + 1
        queuedBodyBytes := wrapInt64 (state.queuedBodyBytes + bodyBytes) })

def dequeue (shared : Shared) (binding : Binding) (bodyBytes : Int) : Shared :=
  let state := shared.bindings (activationKey binding)
  shared.setBinding (activationKey binding)
    { state with
      queuedWaiters :=
        if 0 < state.queuedWaiters then state.queuedWaiters - 1 else state.queuedWaiters
      queuedBodyBytes :=
        if bodyBytes ≤ state.queuedBodyBytes then
          wrapInt64 (state.queuedBodyBytes - bodyBytes)
        else 0 }

def transition (shared : Shared) (binding : Binding) (newState : State) (reason : Reason)
    (endpoint : Option Endpoint) (now : Int) : Shared :=
  let state := shared.bindings (activationKey binding)
  shared.setBinding (activationKey binding)
    { state with
      state := newState
      reason := reason
      activationStarted := if newState = .activating then some now else .none
      activationDeadline :=
        if newState = .activating then some (now + binding.activationTimeout) else .none
      endpointID := (endpoint.map Endpoint.id).getD state.endpointID }

/-- No capacity is left beside `active` admitted requests. -/
def full (endpoint : Endpoint) (active : Nat) : Bool :=
  0 < endpoint.maxConcurrency ∧
    endpoint.maxConcurrency ≤ wrapInt64 (endpoint.activeRequests + active)

def countLease (shared : Shared) (target : Target) (endpoint : Endpoint) : Shared :=
  if target.source = .activatable then
    let state := shared.bindings (activationKey target.binding)
    shared.setBinding (activationKey target.binding)
      { state with
        activeLeases := state.activeLeases + 1
        endpointID := endpoint.id
        state := .ready
        reason := .none }
  else shared

/-- `none` is `ErrEndpointNotReady`; otherwise the new lease is the last one. -/
def admitEndpoint (shared : Shared) (target : Target) (endpoint : Endpoint)
    (controllerLease : Option (Nat × Lease)) (enforceCapacity : Bool) : Option Shared :=
  if enforceCapacity ∧ full endpoint (shared.endpointActive endpoint.id) then .none
  else
    let counted :=
      { shared with
        endpointActive := Function.update shared.endpointActive endpoint.id
          (shared.endpointActive endpoint.id + 1) }.countLease target endpoint
    some
      { counted with
        leases := shared.leases ++ [{
          endpoint := endpoint
          deployment := target.deployment
          controllerLease := controllerLease }] }

def grant (shared : Shared) (lease : Lease) : Shared :=
  { shared with grants := shared.grants ++ [lease] }

/-- A lease is passed to the controller's `Release`. -/
def giveBack (shared : Shared) (number : Nat) : Shared :=
  { shared with released := shared.released ++ [number] }

def setLease (shared : Shared) (index : Nat) (lease : AdmissionLease) : Shared :=
  { shared with leases := shared.leases.set index lease }

def markReturned (shared : Shared) (index : Nat) : Shared :=
  match shared.leases[index]? with
  | .none => shared
  | some lease => shared.setLease index { lease with returned := true }

/-- The compare-and-swap of `Release`. -/
def claimRelease (shared : Shared) (index : Nat) : Shared :=
  match shared.leases[index]? with
  | some lease =>
    if lease.phase = .held then shared.setLease index { lease with phase := .claimed }
    else shared
  | .none => shared

def discountLease (shared : Shared) (coordinator : AdmissionCoordinator)
    (deployment : GoString) : Shared :=
  match coordinator.lookup deployment with
  | some target =>
    if target.source = .activatable then
      let state := shared.bindings (activationKey target.binding)
      shared.setBinding (activationKey target.binding)
        { state with
          activeLeases :=
            if 0 < state.activeLeases then state.activeLeases - 1 else state.activeLeases }
    else shared
  | .none => shared

/-- The critical section of `Release`, entered by the call that swapped the flag. -/
def accountRelease (shared : Shared) (coordinator : AdmissionCoordinator) (index : Nat) : Shared :=
  match shared.leases[index]? with
  | some lease =>
    if lease.phase = .claimed then
      let counted :=
        { shared with
          endpointActive := Function.update shared.endpointActive lease.endpoint.id
            (if 1 < shared.endpointActive lease.endpoint.id then
              shared.endpointActive lease.endpoint.id - 1
            else 0) }.discountLease coordinator lease.deployment
      counted.setLease index { lease with phase := .accounted }
    else shared
  | .none => shared

/-- The last part of `Release`: the controller's `Release` when there is one. -/
def passRelease (shared : Shared) (index : Nat) : Shared :=
  match shared.leases[index]? with
  | some lease =>
    if lease.phase = .accounted then
      let marked := shared.setLease index { lease with phase := .passed }
      match lease.controllerLease with
      | some (number, _) => marked.giveBack number
      | .none => marked
    else shared
  | .none => shared

/-! ### What the operations leave alone -/

variable (shared : Shared)

theorem markReturned_bindings (index : Nat) :
    (shared.markReturned index).bindings = shared.bindings := by
  fun_cases markReturned shared index <;> rfl

theorem claimRelease_bindings (index : Nat) :
    (shared.claimRelease index).bindings = shared.bindings := by
  fun_cases claimRelease shared index <;> rfl

theorem passRelease_bindings (index : Nat) :
    (shared.passRelease index).bindings = shared.bindings := by
  fun_cases passRelease shared index <;> rfl

theorem countLease_leases (target : Target) (endpoint : Endpoint) :
    (shared.countLease target endpoint).leases = shared.leases ∧
      (shared.countLease target endpoint).grants = shared.grants ∧
      (shared.countLease target endpoint).released = shared.released ∧
      (shared.countLease target endpoint).endpointActive = shared.endpointActive := by
  fun_cases countLease shared target endpoint <;> exact ⟨rfl, rfl, rfl, rfl⟩

theorem discountLease_leases (coordinator : AdmissionCoordinator) (deployment : GoString) :
    (shared.discountLease coordinator deployment).leases = shared.leases ∧
      (shared.discountLease coordinator deployment).grants = shared.grants ∧
      (shared.discountLease coordinator deployment).released = shared.released ∧
      (shared.discountLease coordinator deployment).endpointActive =
        shared.endpointActive := by
  fun_cases discountLease shared coordinator deployment <;> exact ⟨rfl, rfl, rfl, rfl⟩

end Shared

end SparkRoute.Lifecycle
