import Mathlib.Data.List.Nodup
import SparkRoute.Lib.Machine
import SparkRoute.Registry.Endpoint

/-!
# Configuration of the admission coordinator

Targets are added one at a time.  An activatable target owns one binding, and
the activation keys of the configured bindings are distinct.
-/

namespace SparkRoute.Lifecycle

open Lib List
open Registry

/-- `unset` is the empty text and `unsupported` every text without a name here. -/
inductive EndpointSource where
  | unset
  | static
  | discovered
  | activatable
  | unsupported (text : GoString)
  deriving DecidableEq

inductive ColdStartBehavior where
  | unset
  | wait
  | reject
  | unsupported (text : GoString)
  deriving DecidableEq

structure Binding where
  controller : GoString := []
  revision : GoString := []
  deployment : GoString := []
  recipe : GoString := []
  recipeRevision : GoString := []
  activationTimeout : Int := 0
  maxQueuedWaiters : Int := 0
  maxQueuedBodyBytes : Int64Value := ⟨0, int64_zero⟩
  coldStart : ColdStartBehavior := .unset

structure Target where
  deployment : GoString
  upstreamModel : GoString := []
  protocol : GoString := []
  source : EndpointSource := .unset
  controller : GoString := []
  binding : Binding := {}

def activationKey (binding : Binding) : GoString :=
  ascii (toString binding.controller.length) ++ ascii ":" ++ binding.controller ++
    binding.revision

structure AdmissionOptions where
  registry : Bool := true
  authorizer : Bool := true
  controllers : List GoString := []
  instanceID : GoString := []
  pollInterval : Int := 0
  retryAfter : Int := 0
  parseURL : GoString → Option ParsedURL

structure AdmissionCoordinator where
  registry : Bool
  authorizer : Bool
  controllers : List GoString
  pollInterval : Int
  retryAfter : Int
  parseURL : GoString → Option ParsedURL
  targets : List Target := []

inductive TargetFailure where
  | deployment
  | duplicateDeployment (name : GoString)
  | discoveredController
  | registryAndAuthorizer
  | incompleteBinding
  | bindingDeployment
  | coldStart (behavior : ColdStartBehavior)
  | controllerNotConfigured (name : GoString)
  | duplicateBinding (revision : GoString)
  | source (source : EndpointSource)

inductive SetupFailure where
  | pollInterval
  | retryAfter
  | instanceID
  | target (index : Nat) (failure : TargetFailure)
  | controllers
  | activationBindings

def millisecond : Int := 1000000

def second : Int := 1000 * millisecond

def minute : Int := 60 * second

def maxStatusControllers : Nat := 64

def maxStatusBindings : Nat := 500

namespace Binding

/-- The names that a binding takes from its target. -/
def named (binding : Binding) (target : Target) : Binding :=
  { binding with
    controller := if binding.controller = [] then target.controller else binding.controller
    deployment := if binding.deployment = [] then target.deployment else binding.deployment }

def waiting (binding : Binding) : Binding :=
  { binding with
    coldStart := if binding.coldStart = .unset then .wait else binding.coldStart }

def complete (binding : Binding) : Bool :=
  binding.controller ≠ [] ∧ binding.revision ≠ [] ∧ binding.recipe ≠ [] ∧
    0 < binding.activationTimeout ∧ 0 < binding.maxQueuedWaiters ∧
    0 < binding.maxQueuedBodyBytes.val

end Binding

namespace AdmissionCoordinator

def lookup (coordinator : AdmissionCoordinator) (deployment : GoString) : Option Target :=
  coordinator.targets.find? fun target => target.deployment = deployment

/-- A configured target already owns the binding's activation key. -/
def bound (coordinator : AdmissionCoordinator) (binding : Binding) : Bool :=
  coordinator.targets.any fun target =>
    target.source = .activatable ∧ activationKey target.binding = activationKey binding

def checkBinding (coordinator : AdmissionCoordinator) (target : Target) :
    Except TargetFailure Binding :=
  let binding := target.binding.named target
  if ¬ binding.complete then .error .incompleteBinding
  else if binding.deployment ≠ target.deployment then .error .bindingDeployment
  else
    let binding := binding.waiting
    if binding.coldStart ≠ .wait ∧ binding.coldStart ≠ .reject then
      .error (.coldStart binding.coldStart)
    else if ¬ coordinator.registry ∨ ¬ coordinator.authorizer then
      .error .registryAndAuthorizer
    else if binding.controller ∉ coordinator.controllers then
      .error (.controllerNotConfigured binding.controller)
    else if coordinator.bound binding then .error (.duplicateBinding binding.revision)
    else .ok binding

def configure (coordinator : AdmissionCoordinator) (target : Target) :
    Except TargetFailure Target :=
  match target.source with
  | .unset => .ok { target with source := .static }
  | .static => .ok target
  | .discovered =>
    if target.controller = [] then .error .discoveredController
    else if ¬ coordinator.registry ∨ ¬ coordinator.authorizer then
      .error .registryAndAuthorizer
    else .ok target
  | .activatable => do
    let binding ← coordinator.checkBinding target
    .ok { target with controller := binding.controller, binding := binding }
  | .unsupported text => .error (.source (.unsupported text))

def addTarget (coordinator : AdmissionCoordinator) (target : Target) :
    Except TargetFailure AdmissionCoordinator :=
  if target.deployment = [] ∨ 1024 < target.deployment.length then .error .deployment
  else if (coordinator.lookup target.deployment).isSome then
    .error (.duplicateDeployment target.deployment)
  else do
    let configured ← coordinator.configure target
    .ok { coordinator with targets := coordinator.targets ++ [configured] }

def addTargets (coordinator : AdmissionCoordinator) (targets : List Target) :
    Except SetupFailure AdmissionCoordinator :=
  targets.zipIdx.foldlM
    (fun coordinator entry =>
      (coordinator.addTarget entry.1).mapError (SetupFailure.target entry.2))
    coordinator

def statusControllers (coordinator : AdmissionCoordinator) : List GoString :=
  ((coordinator.targets.filter fun target =>
    target.source ≠ .static ∧ target.controller ≠ []).map Target.controller).dedup

def activationBindings (coordinator : AdmissionCoordinator) : Nat :=
  coordinator.targets.countP fun target => target.source = .activatable

end AdmissionCoordinator

def AdmissionOptions.defaulted (options : AdmissionOptions) : AdmissionOptions :=
  { options with
    pollInterval :=
      if options.pollInterval = 0 then 100 * millisecond else options.pollInterval
    retryAfter := if options.retryAfter = 0 then second else options.retryAfter }

def newAdmissionCoordinator (targets : List Target) (options : AdmissionOptions) :
    Except SetupFailure AdmissionCoordinator :=
  let options := options.defaulted
  if options.pollInterval < 10 * millisecond ∨ minute < options.pollInterval then
    .error .pollInterval
  else if options.retryAfter < 0 ∨ minute < options.retryAfter then .error .retryAfter
  else if 128 < options.instanceID.length then .error .instanceID
  else do
    let coordinator ← AdmissionCoordinator.addTargets
      { registry := options.registry
        authorizer := options.authorizer
        controllers := options.controllers
        pollInterval := options.pollInterval
        retryAfter := options.retryAfter
        parseURL := options.parseURL } targets
    if maxStatusControllers < coordinator.statusControllers.length then .error .controllers
    else if maxStatusBindings < coordinator.activationBindings then
      .error .activationBindings
    else .ok coordinator

/-! ### What acceptance means -/

/-- The bounds and names of an accepted binding. -/
structure Target.Bound (target : Target) : Prop where
  waiters : 0 < target.binding.maxQueuedWaiters
  bytes : 0 < target.binding.maxQueuedBodyBytes.val
  controller : target.controller = target.binding.controller
  coldStart : target.binding.coldStart = .wait ∨ target.binding.coldStart = .reject

structure AdmissionCoordinator.Configured (coordinator : AdmissionCoordinator) : Prop where
  deployments : coordinator.targets.Pairwise fun first second =>
    first.deployment ≠ second.deployment
  keys : coordinator.targets.Pairwise fun first second =>
    first.source = .activatable → second.source = .activatable →
      activationKey first.binding ≠ activationKey second.binding
  bindings : ∀ target ∈ coordinator.targets, target.source = .activatable → target.Bound

namespace AdmissionCoordinator

variable {coordinator : AdmissionCoordinator} {target : Target}

theorem checkBinding_accepted {binding : Binding}
    (accepted : coordinator.checkBinding target = .ok binding) :
    binding.complete = true ∧
      (binding.coldStart = .wait ∨ binding.coldStart = .reject) ∧
      coordinator.bound binding = false := by
  simp only [checkBinding, check_eq_ok] at accepted
  obtain ⟨complete, _, behavior, _, _, unbound, accepted⟩ := accepted
  cases accepted
  refine ⟨Decidable.not_not.mp complete, ?_, Bool.eq_false_iff.mpr unbound⟩
  tauto

theorem configure_accepted {configured : Target}
    (accepted : coordinator.configure target = .ok configured) :
    configured.deployment = target.deployment ∧
      (configured.source = .activatable →
        configured.Bound ∧ coordinator.bound configured.binding = false) := by
  unfold configure at accepted
  cases source : target.source with
  | unset =>
    rw [source] at accepted
    cases accepted
    exact ⟨rfl, nofun⟩
  | static =>
    rw [source] at accepted
    cases accepted
    exact ⟨rfl, by simp [source]⟩
  | discovered =>
    simp only [source, check_eq_ok] at accepted
    cases accepted.2.2
    exact ⟨rfl, by simp [source]⟩
  | activatable =>
    rw [source] at accepted
    obtain ⟨binding, checked, added⟩ := bind_eq_ok.mp accepted
    cases added
    obtain ⟨complete, behavior, unbound⟩ := checkBinding_accepted checked
    simp only [Binding.complete, decide_eq_true_eq] at complete
    obtain ⟨_, _, _, _, waiters, bytes⟩ := complete
    exact ⟨rfl, fun _ => ⟨⟨waiters, bytes, rfl, behavior⟩, unbound⟩⟩
  | unsupported text =>
    rw [source] at accepted
    cases accepted

variable {extended : AdmissionCoordinator}

theorem addTarget_configured (configured : coordinator.Configured)
    (accepted : coordinator.addTarget target = .ok extended) : extended.Configured := by
  simp only [addTarget, check_eq_ok] at accepted
  obtain ⟨_, unknown, accepted⟩ := accepted
  obtain ⟨added, passed, extension⟩ := bind_eq_ok.mp accepted
  cases extension
  obtain ⟨deployment, activatable⟩ := configure_accepted passed
  constructor
  · apply pairwise_append.mpr
    refine ⟨configured.deployments, pairwise_singleton _ _, ?_⟩
    intro earlier mem later last
    rw [mem_singleton.mp last, deployment]
    intro same
    apply unknown
    exact List.find?_isSome.mpr ⟨earlier, mem, decide_eq_true same⟩
  · apply pairwise_append.mpr
    refine ⟨configured.keys, pairwise_singleton _ _, ?_⟩
    intro earlier mem later last earlierSource laterSource same
    rw [mem_singleton.mp last] at laterSource same
    obtain ⟨_, unbound⟩ := activatable laterSource
    have taken : coordinator.bound added.binding = true :=
      any_eq_true.mpr ⟨earlier, mem, decide_eq_true ⟨earlierSource, same⟩⟩
    rw [taken] at unbound
    cases unbound
  · intro member mem source
    rcases mem_append.mp mem with earlier | last
    · exact configured.bindings member earlier source
    · rw [mem_singleton.mp last] at source ⊢
      exact (activatable source).1

theorem addTargets_configured {targets : List Target} (configured : coordinator.Configured)
    (accepted : coordinator.addTargets targets = .ok extended) : extended.Configured := by
  refine @foldlM_invariant (Target × Nat) AdmissionCoordinator SetupFailure _
    (fun _ reached => reached.Configured) ?_ [] _ _ _ configured accepted
  intro visited before entry after held added
  exact addTarget_configured held (mapError_eq_ok.mp added)

/-- Two activatable targets with one activation key are the same target. -/
theorem Configured.unique (configured : coordinator.Configured) {first second : Target}
    (firstMember : first ∈ coordinator.targets) (secondMember : second ∈ coordinator.targets)
    (firstSource : first.source = .activatable) (secondSource : second.source = .activatable)
    (same : activationKey first.binding = activationKey second.binding) : first = second := by
  have keys : ((coordinator.targets.filter fun target =>
      decide (target.source = .activatable)).map fun target =>
        activationKey target.binding).Nodup := by
    rw [List.Nodup, pairwise_map, pairwise_filter]
    simpa only [decide_eq_true_eq] using configured.keys
  apply inj_on_of_nodup_map keys _ _ same
  · exact mem_filter.mpr ⟨firstMember, decide_eq_true firstSource⟩
  · exact mem_filter.mpr ⟨secondMember, decide_eq_true secondSource⟩

theorem lookup_member {deployment : GoString}
    (found : coordinator.lookup deployment = some target) :
    target ∈ coordinator.targets ∧ target.deployment = deployment := by
  have same := List.find?_some found
  rw [decide_eq_true_eq] at same
  exact ⟨mem_of_find?_eq_some found, same⟩

theorem Configured.lookup_deployment (configured : coordinator.Configured)
    (mem : target ∈ coordinator.targets) : coordinator.lookup target.deployment = some target := by
  have names : (coordinator.targets.map Target.deployment).Nodup :=
    pairwise_map.mpr configured.deployments
  exact find?_key names mem

end AdmissionCoordinator

theorem newAdmissionCoordinator_configured {targets : List Target}
    {options : AdmissionOptions} {coordinator : AdmissionCoordinator}
    (accepted : newAdmissionCoordinator targets options = .ok coordinator) :
    coordinator.Configured := by
  simp only [newAdmissionCoordinator, check_eq_ok, bind_eq_ok] at accepted
  obtain ⟨_, _, _, reached, added, _, _, checked⟩ := accepted
  cases checked
  exact AdmissionCoordinator.addTargets_configured
    ⟨List.Pairwise.nil, List.Pairwise.nil, fun _ mem => by cases mem⟩ added

/-! ### A configuration with one activatable deployment -/

def sampleTarget : Target where
  deployment := ascii "d"
  upstreamModel := ascii "m"
  source := .activatable
  controller := ascii "c"
  binding :=
    { controller := ascii "c"
      revision := ascii "r"
      deployment := ascii "d"
      recipe := ascii "x"
      activationTimeout := 10
      maxQueuedWaiters := 1
      maxQueuedBodyBytes := ⟨8, by decide⟩
      coldStart := .wait }

def sampleOptions : AdmissionOptions where
  controllers := [ascii "c"]
  parseURL := fun _ => some ⟨ascii "http", ascii "h", false, [], []⟩

def sampleCoordinator : AdmissionCoordinator where
  registry := true
  authorizer := true
  controllers := [ascii "c"]
  pollInterval := 100 * millisecond
  retryAfter := second
  parseURL := sampleOptions.parseURL
  targets := [sampleTarget]

theorem sampleCoordinator_accepted :
    newAdmissionCoordinator [sampleTarget] sampleOptions = .ok sampleCoordinator := rfl

end SparkRoute.Lifecycle
