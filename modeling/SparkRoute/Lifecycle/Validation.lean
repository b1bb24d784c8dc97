import SparkRoute.Lifecycle.Coordinator

/-!
# Validation of endpoints and controller leases

Answers of the authorizer and of the registry are arguments: `authorized 0` is
the answer about the leased endpoint and `authorized (i + 1)` the answer about
the candidate at position `i` of the registry's list.
-/

namespace SparkRoute.Lifecycle

open Lib
open Registry

inductive InvalidEndpoint where
  | malformedRegistration
  | targetOrStateMismatch
  | controllerMismatch
  | activationBindingMismatch
  | recipeRevisionMismatch
  | protocolMismatch
  | servedModelMismatch
  | notAuthorized
  | emptyLeaseID
  | leaseEndpointChanged
  | registryReadFailed
  | notReadyInRegistry
  | invalidFencingToken
  deriving DecidableEq

structure Lease where
  id : GoString
  endpoint : Endpoint
  deriving DecidableEq

def sameRuntimeRegistration (left right : Endpoint) : Bool :=
  left.id = right.id ∧ left.target = right.target ∧ left.baseURL = right.baseURL ∧
    left.protocol = right.protocol ∧ left.controller = right.controller ∧
    left.clusterID = right.clusterID ∧ left.jobID = right.jobID ∧
    left.bindingRevision = right.bindingRevision ∧
    left.recipeRevision = right.recipeRevision ∧
    left.fencingToken = right.fencingToken ∧ left.state = right.state ∧
    left.maxConcurrency = right.maxConcurrency ∧ left.servedModels = right.servedModels

namespace AdmissionCoordinator

def validateEndpoint (coordinator : AdmissionCoordinator) (target : Target)
    (authorized : Bool) (endpoint : Endpoint) : Except InvalidEndpoint Endpoint :=
  if ¬ (endpoint.validate coordinator.parseURL).isOk then .error .malformedRegistration
  else if endpoint.target ≠ target.deployment ∨ endpoint.state ≠ .ready then
    .error .targetOrStateMismatch
  else if target.source ≠ .static ∧ endpoint.controller ≠ target.controller then
    .error .controllerMismatch
  else if target.source = .activatable ∧
      (endpoint.bindingRevision ≠ target.binding.revision ∨ endpoint.fencingToken ≤ 0) then
    .error .activationBindingMismatch
  else if target.source = .activatable ∧ target.binding.recipeRevision ≠ [] ∧
      endpoint.recipeRevision ≠ target.binding.recipeRevision then
    .error .recipeRevisionMismatch
  else if target.protocol ≠ [] ∧ endpoint.protocol ≠ target.protocol then
    .error .protocolMismatch
  else if target.upstreamModel ≠ [] ∧ 0 < endpoint.servedModels.length ∧
      target.upstreamModel ∉ endpoint.servedModels then
    .error .servedModelMismatch
  else if ¬ authorized then .error .notAuthorized
  else .ok endpoint

/-- The first candidate that passes validation and is the leased registration. -/
def findRegistered (coordinator : AdmissionCoordinator) (target : Target)
    (authorized : Nat → Bool) (leased : Endpoint) : Nat → List Endpoint → Option Endpoint
  | _, [] => none
  | position, candidate :: rest =>
    match coordinator.validateEndpoint target (authorized (position + 1)) candidate with
    | .ok candidate =>
      if sameRuntimeRegistration candidate leased then some candidate
      else findRegistered coordinator target authorized leased (position + 1) rest
    | .error _ => findRegistered coordinator target authorized leased (position + 1) rest

/-- `expected` is the ID of the endpoint the caller saw, empty when it saw none. -/
def validateControllerLease (coordinator : AdmissionCoordinator) (target : Target)
    (lease : Lease) (expected : GoString) (authorized : Nat → Bool)
    (registered : Option (List Endpoint)) : Except InvalidEndpoint Endpoint :=
  if lease.id = [] then .error .emptyLeaseID
  else
    match coordinator.validateEndpoint target (authorized 0) lease.endpoint with
    | .error invalid => .error invalid
    | .ok endpoint =>
      if expected ≠ [] ∧ endpoint.id ≠ expected then .error .leaseEndpointChanged
      else
        match registered with
        | none => .error .registryReadFailed
        | some listed =>
          match coordinator.findRegistered target authorized endpoint 0 listed with
          | some candidate => .ok candidate
          | none => .error .notReadyInRegistry

/-- What `validateEndpoint` checks of the endpoint itself. -/
structure Admissible (coordinator : AdmissionCoordinator) (target : Target)
    (endpoint : Endpoint) : Prop where
  wellFormed : endpoint.validate coordinator.parseURL = .ok ()
  deployment : endpoint.target = target.deployment
  ready : endpoint.state = .ready
  controller : target.source ≠ .static → endpoint.controller = target.controller
  revision : target.source = .activatable → endpoint.bindingRevision = target.binding.revision
  fenced : target.source = .activatable → 0 < endpoint.fencingToken
  recipe : target.source = .activatable → target.binding.recipeRevision ≠ [] →
    endpoint.recipeRevision = target.binding.recipeRevision
  protocol : target.protocol ≠ [] → endpoint.protocol = target.protocol
  served : target.upstreamModel ≠ [] → endpoint.servedModels ≠ [] →
    target.upstreamModel ∈ endpoint.servedModels

variable {coordinator : AdmissionCoordinator} {target : Target} {endpoint : Endpoint}

theorem validateEndpoint_admissible {authorized : Bool} {result : Endpoint}
    (accepted : coordinator.validateEndpoint target authorized endpoint = .ok result) :
    result = endpoint ∧ coordinator.Admissible target endpoint ∧ authorized = true := by
  simp only [validateEndpoint, check_eq_ok] at accepted
  obtain ⟨wellFormed, placed, controlled, bound, recipe, protocol, served, permitted, accepted⟩ :=
    accepted
  cases accepted
  push Not at placed controlled bound recipe protocol served
  refine ⟨rfl, ?_, Decidable.not_not.mp permitted⟩
  constructor
  · cases outcome : endpoint.validate coordinator.parseURL with
    | error message =>
      rw [outcome] at wellFormed
      cases Decidable.not_not.mp wellFormed
    | ok value => rfl
  · exact placed.1
  · exact placed.2
  · exact controlled
  · exact fun activatable => (bound activatable).1
  · exact fun activatable => (bound activatable).2
  · exact recipe
  · exact protocol
  · exact fun configured advertised => served configured (List.length_pos_iff.mpr advertised)

variable {authorized : Nat → Bool}

theorem findRegistered_member {leased : Endpoint} {position : Nat} {listed : List Endpoint}
    (found : coordinator.findRegistered target authorized leased position listed = some endpoint) :
    ∃ offset, listed[offset]? = some endpoint ∧
      authorized (position + offset + 1) = true ∧
      coordinator.Admissible target endpoint ∧
      sameRuntimeRegistration endpoint leased = true := by
  fun_induction findRegistered coordinator target authorized leased position listed with
  | case1 => cases found
  | case2 position candidate rest result outcome same =>
    cases found
    obtain ⟨rfl, admissible, permitted⟩ := validateEndpoint_admissible outcome
    exact ⟨0, rfl, permitted, admissible, same⟩
  | case3 position candidate rest _ _ _ ih | case4 position candidate rest _ _ ih =>
    obtain ⟨offset, present, permitted, valid⟩ := ih found
    refine ⟨offset + 1, present, ?_, valid⟩
    rw [← permitted]
    congr 1
    omega

theorem validateControllerLease_listed {lease : Lease} {expected : GoString}
    {registered : Option (List Endpoint)}
    (accepted : coordinator.validateControllerLease target lease expected authorized
      registered = .ok endpoint) :
    ∃ listed position, registered = some listed ∧ listed[position]? = some endpoint ∧
      authorized (position + 1) = true ∧ coordinator.Admissible target endpoint ∧
      sameRuntimeRegistration endpoint lease.endpoint = true := by
  revert accepted
  fun_cases validateControllerLease coordinator target lease expected authorized registered <;>
    rintro ⟨⟩
  next leased checked _ listed found =>
    obtain ⟨rfl, _⟩ := validateEndpoint_admissible checked
    obtain ⟨position, present, permitted, admissible, same⟩ := findRegistered_member found
    rw [Nat.zero_add] at permitted
    exact ⟨listed, position, rfl, present, permitted, admissible, same⟩

end AdmissionCoordinator

end SparkRoute.Lifecycle
