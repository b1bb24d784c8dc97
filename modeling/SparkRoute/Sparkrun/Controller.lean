import SparkRoute.Sparkrun.Workloads

/-!
# Controllers

One controller serves one configuration generation; all of them share one `Workloads`. A
`Registration` is an endpoint of the registry with the times that controllers read.
-/

namespace SparkRoute.Sparkrun

open Lib
open Lifecycle (activationKey second millisecond)

/-- `parseIP` stands for `net.ParseIP`, `printable` for the test on cluster names that get
shown, and `endpointID` for the digest of an endpoint's identity. -/
structure Platform where
  parseIP : GoString → Bool
  printable : GoString → Bool
  joinHostPort : GoString → Int → GoString
  endpointID : GoString → Endpoint → GoString

structure Registration where
  endpoint : Registry.Endpoint
  heartbeatAt : Int
  expiresAt : Int

/-! ### Configuration -/

/-- What a controller is made from. Admission refuses two activatable targets with one
activation key, and both sides get the same targets. -/
structure Generation where
  targets : List Target
  endpointTTL : Int
  lifecycleBridge : Bool
  keys : ∀ first ∈ targets, ∀ second ∈ targets, first.source = .activatable →
    second.source = .activatable →
    activationKey first.binding.toBinding = activationKey second.binding.toBinding →
    first.binding.recipeRevision = second.binding.recipeRevision

namespace Generation

def lookup (generation : Generation) (deployment : GoString) : Option Target :=
  generation.targets.find? fun target => target.deployment = deployment

theorem lookup_mem {generation : Generation} {deployment : GoString} {target : Target}
    (found : generation.lookup deployment = some target) : target ∈ generation.targets :=
  List.mem_of_find?_eq_some found

end Generation

def matchesTarget (target : Target) (endpoint : Endpoint) : Bool :=
  if endpoint.state ≠ .ready ∨ endpoint.protocol ≠ target.protocol ∨
      target.upstreamModel ∉ endpoint.servedModels then false
  else if target.source = .activatable then
    endpoint.recipeRevision = target.binding.recipeRevision ∧
      (target.binding.clusterCandidates = [] ∨
        endpoint.clusterName ∈ target.binding.clusterCandidates)
  else
    target.source = .discovered ∧
      (target.discoveryJobIDs = [] ∨ endpoint.jobID ∈ target.discoveryJobIDs)

/-! ### Endpoints of the bridge -/

def controlByte (byte : UInt8) : Bool := byte < 0x20

def labelByte (byte : UInt8) : Bool :=
  (0x61 ≤ byte ∧ byte ≤ 0x7A) ∨ (0x41 ≤ byte ∧ byte ≤ 0x5A) ∨ (0x30 ≤ byte ∧ byte ≤ 0x39) ∨
    byte = 0x2D

def validLabel (label : GoString) : Bool :=
  label ≠ [] ∧ label.length ≤ 63 ∧ label.head? ≠ some 0x2D ∧ label.getLast? ≠ some 0x2D ∧
    label.all labelByte

def validateHost (platform : Platform) (host : GoString) : Bool :=
  if host = [] ∨ 253 < host.length ∨ host.any controlByte then false
  else if platform.parseIP host then true
  else
    let host := if host.getLast? = some 0x2E then host.dropLast else host
    (host.splitOn 0x2E).all validLabel

def endpointFromBridge (platform : Platform) (generation : Generation) (target : Target)
    (discovered : Endpoint) (fencingToken now : Int) : Except String Registration :=
  let served := (sortByKey id discovered.servedModels).dedup
  let observed := (discovered.observedAt.map (· * millisecond)).getD now
  if discovered.state ≠ .ready ∨ discovered.protocol ≠ ascii "openai" then
    .error "sparkrun endpoint state or protocol is invalid"
  else if ¬ validateHost platform discovered.host then
    .error "sparkrun endpoint host is invalid"
  else if discovered.port < 1 ∨ 65535 < discovered.port then
    .error "sparkrun endpoint port is invalid"
  else if discovered.workloadID = [] ∨ 1024 < discovered.workloadID.length ∨
      discovered.jobID = [] ∨ 1024 < discovered.jobID.length then
    .error "sparkrun endpoint identity is invalid"
  else if served = [] ∨ 256 < served.length ∨ target.upstreamModel ∉ served then
    .error "sparkrun endpoint does not serve the configured model"
  else if served.any fun model => model = [] ∨ 1024 < model.length ∨ model.any controlByte then
    .error "sparkrun endpoint model identity is invalid"
  else if discovered.observedAt.isSome ∧
      (now + 5 * second < observed ∨ ¬ now < observed + generation.endpointTTL) then
    .error "sparkrun observation is expired or in the future"
  else if target.source = .activatable ∧
      (¬ matchesTarget target discovered ∨ fencingToken ≤ 0) then
    .error "sparkrun endpoint recipe revision or fencing token is invalid"
  else
    .ok
      { endpoint :=
          { id := platform.endpointID target.deployment discovered
            target := target.deployment
            baseURL := ascii "http://" ++
              platform.joinHostPort discovered.host discovered.port ++ ascii "/v1"
            protocol := ascii "openai"
            servedModels := served
            controller := ascii "sparkrun"
            clusterID := discovered.workloadID
            jobID := discovered.jobID
            bindingRevision :=
              if target.source = .activatable then target.binding.revision else []
            recipeRevision := discovered.recipeRevision
            fencingToken := fencingToken
            state := .ready
            metadata :=
              (if discovered.clusterName.length ≤ 1024 ∧
                  platform.printable discovered.clusterName then
                [(ascii "cluster_name", discovered.clusterName)] else []) ++
              [(ascii "owned", ascii (if discovered.owned then "true" else "false"))] }
        heartbeatAt := now
        expiresAt := observed + generation.endpointTTL }

/-! ### States -/

structure BindingState where
  state : Registry.State := .unset
  endpoint : Option Registration := none
  active : Nat := 0

/-- `granted` is history: the workloads of the leases that were handed out, newest first. -/
structure Controller where
  closed : Bool := false
  states : OrderedMap GoString BindingState := .empty
  leases : OrderedMap GoString GoString := .empty
  approved : OrderedMap GoString Registration := .empty
  tracked : OrderedMap GoString GoString := .empty
  nextLease : Nat := 0
  granted : List GoString := []

namespace Controller

variable (controller : Controller)

def stateAt (key : GoString) : BindingState :=
  (controller.states.get key).getD {}

def setState (key : GoString) (state : BindingState) : Controller :=
  { controller with states := controller.states.insert key state }

/-- The registration of a ready binding whose workload may be used. -/
def cached (workloads : Workloads) (key : GoString) (now : Int) :
    Option Registration :=
  let state := controller.stateAt key
  state.endpoint.filter fun registration =>
    state.state = .ready ∧ now < registration.expiresAt ∧
      workloads.available registration.endpoint.clusterID

/-- The part of `newLeaseLocked` that changes the controller. -/
def newLeaseLocked (key : GoString) (registration : Registration) :
    Controller × Lifecycle.Lease :=
  let state := controller.stateAt key
  let leaseID := ascii "sparkrun-lease-" ++ ascii (toString (controller.nextLease + 1))
  ({ controller.setState key { state with active := state.active + 1 } with
      leases := controller.leases.insert leaseID key
      nextLease := controller.nextLease + 1
      granted := registration.endpoint.clusterID :: controller.granted },
    ⟨leaseID, registration.endpoint⟩)

def setFailure (key : GoString) : Controller :=
  controller.setState key { controller.stateAt key with state := .failed }

def fencingFor (platform : Platform) (controller : Controller) (target : Target)
    (discovered : Endpoint) : Option Int :=
  match controller.approved.get (platform.endpointID target.deployment discovered) with
  | none => none
  | some approved =>
    if 0 < approved.endpoint.fencingToken then some approved.endpoint.fencingToken else none

/-- The endpoint is approved before the registry is asked. -/
def approve (registration : Registration) : Controller :=
  { controller with
    approved := controller.approved.insert registration.endpoint.id registration
    tracked := controller.tracked.insert registration.endpoint.id registration.endpoint.target }

/-- Display metadata is not part of an endpoint's identity. -/
def sameEndpoint (left right : Registration) : Bool :=
  { left.endpoint with metadata := [] } = { right.endpoint with metadata := [] } ∧
    left.heartbeatAt = right.heartbeatAt ∧ left.expiresAt = right.expiresAt

/-- The registry refused an endpoint: what was approved before it comes back. -/
def disapprove (registration : Registration)
    (prior : Option Registration) : Controller :=
  let id := registration.endpoint.id
  match controller.approved.get id with
  | none => controller
  | some current =>
    if sameEndpoint current registration then
      match prior with
      | some prior => { controller with approved := controller.approved.insert id prior }
      | none =>
        { controller with
          approved := controller.approved.erase id
          tracked := controller.tracked.erase id }
    else controller

def refreshBindingState (target : Target)
    (registration : Registration) : Controller :=
  if target.source ≠ .activatable then controller
  else
    match controller.states.get (activationKey target.binding.toBinding) with
    | none => controller
    | some state =>
      if state.endpoint = none ∨
          (state.endpoint.map fun known => known.endpoint.id) = some registration.endpoint.id
      then
        controller.setState (activationKey target.binding.toBinding)
          { state with endpoint := some registration, state := .ready }
      else controller

/-- The endpoints that a reconciliation neither saw nor was overtaken on. -/
def missing (seen : List GoString) (started : Int) : List GoString :=
  controller.tracked.keys.filter fun id =>
    id ∉ seen ∧
      ∀ approved ∈ controller.approved.get id, ¬ started < approved.heartbeatAt

def forget (ids : List GoString) : Controller :=
  { controller with
    tracked := ids.foldl OrderedMap.erase controller.tracked
    approved := ids.foldl OrderedMap.erase controller.approved }

def removeMissing (seen : List GoString) (started : Int) : Controller :=
  let missing := controller.missing seen started
  { controller.forget missing with
    states := controller.states.mapValues fun state =>
      if state.endpoint.any fun known => known.endpoint.id ∈ missing then
        { state with endpoint := none, state := .offline }
      else state }

def unapproveTarget (deployment : GoString) : Controller :=
  controller.forget
    ((controller.tracked.entries.filter fun entry => entry.2 = deployment).map Prod.fst)

end Controller

end SparkRoute.Sparkrun
