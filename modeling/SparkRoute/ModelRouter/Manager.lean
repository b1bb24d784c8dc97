import SparkRoute.Lib.Run
import SparkRoute.ModelRouter.Native

/-!
# The router manager

A manager holds an authored policy, metadata from discovery and from deployments, and the
compiled index of their merge.  Publishing checks what it installs, so the index is always
that of an accepted policy; metadata never enables or disables a configured model.
-/

namespace SparkRoute.ModelRouter

open Lib Config

structure DiscoveredModelMetadata (F : Type) where
  sizeB : Option F := none
  inputPrice : Option F := none
  outputPrice : Option F := none
  context : Option Int := none
  tags : List String := []

structure DiscoveredMetadataSnapshot (F : Type) where
  source : String
  models : OrderedMap String (DiscoveredModelMetadata F)

structure RouterManager (F : Type) where
  policy : RoutingPolicy F
  runtime : Option (CompiledRoutingPolicy F)
  metadata : OrderedMap String (DiscoveredMetadataSnapshot F)
  deploymentMetadata : OrderedMap String (DiscoveredModelMetadata F)
  signals : Signals F

def maxDiscoveredMetadataSources : Nat := 64

section

variable {F : Type} (platform : Platform F)

/-! ### Discovered metadata -/

def validateDiscoveredNumber (model field : String) (minimum : F) :
    Option F → Except String Unit
  | none => .ok ()
  | some value =>
    refuse (platform.less value minimum || platform.isNaN value || platform.isInf value)
      s!"discovered model {quoted model} has invalid {field}"

def validateDiscoveredModelMetadata (model : String) (metadata : DiscoveredModelMetadata F) :
    Except String Unit := do
  validateDiscoveredNumber platform model "size_b" platform.smallestNonzero metadata.sizeB
  validateDiscoveredNumber platform model "input_price" platform.zero metadata.inputPrice
  validateDiscoveredNumber platform model "output_price" platform.zero metadata.outputPrice
  refuse (metadata.context.any fun context => context ≤ 0)
    s!"discovered model {quoted model} has invalid context"
  refuse (maxRoutingTagsPerModel < metadata.tags.length)
    s!"discovered model {quoted model} has more than {maxRoutingTagsPerModel} tags"
  metadata.tags.forM fun tag =>
    refuse (invalidText 128 tag) s!"discovered model {quoted model} has invalid tag {quoted tag}"

def compactStrings : List String → List String
  | [] => []
  | [value] => [value]
  | first :: second :: rest =>
    if first = second then compactStrings (second :: rest)
    else first :: compactStrings (second :: rest)

def normalizeDiscoveredTags (tags : List String) : List String :=
  compactStrings (sortByKey id (tags.map trimSpace))

def invalidSource (source : String) : Bool :=
  trimSpace source == "" || 128 < (trimSpace source).utf8ByteSize ||
    hasControlCharacter (trimSpace source)

def normalizeModel (models : OrderedMap String (DiscoveredModelMetadata F))
    (entry : String × DiscoveredModelMetadata F) :
    Except String (OrderedMap String (DiscoveredModelMetadata F)) := do
  let model := trimSpace entry.1
  refuse (model == "" || 256 < model.utf8ByteSize || hasControlCharacter model)
    s!"discovered metadata has invalid model name {quoted model}"
  validateDiscoveredModelMetadata platform model entry.2
  .ok (models.insert model { entry.2 with tags := normalizeDiscoveredTags entry.2.tags })

def normalizeDiscoveredMetadataSnapshot (snapshot : DiscoveredMetadataSnapshot F) :
    Except String (DiscoveredMetadataSnapshot F) := do
  let source := trimSpace snapshot.source
  refuse (invalidSource snapshot.source) "discovered metadata source is invalid"
  refuse (maxRoutingModels < snapshot.models.entries.length)
    s!"discovered metadata source {quoted source} has more than {maxRoutingModels} models"
  let models ← snapshot.models.entries.foldlM (normalizeModel platform) .empty
  .ok { source, models }

/-- Takes the second value when it is preferred or the only one. -/
def reduceField {Value : Type} (prefers : Value → Value → Bool) (current next : Option Value) :
    Option Value :=
  match next, current with
  | none, _ => current
  | some value, none => some value
  | some value, some old => if prefers value old then some value else some old

def reduceDiscoveredModelMetadata (current next : DiscoveredModelMetadata F) :
    DiscoveredModelMetadata F where
  context := reduceField (fun value old => value < old) current.context next.context
  sizeB := reduceField (fun value old => platform.less old value) current.sizeB next.sizeB
  inputPrice :=
    reduceField (fun value old => platform.less old value) current.inputPrice next.inputPrice
  outputPrice :=
    reduceField (fun value old => platform.less old value) current.outputPrice next.outputPrice
  tags := normalizeDiscoveredTags (current.tags ++ next.tags)

def aggregateSource (result : OrderedMap String (DiscoveredModelMetadata F))
    (source : DiscoveredMetadataSnapshot F) : OrderedMap String (DiscoveredModelMetadata F) :=
  (sortByKey Prod.fst source.models.entries).foldl (fun result entry =>
    result.insert entry.1
      (reduceDiscoveredModelMetadata platform ((result.get entry.1).getD {}) entry.2)) result

def aggregateDiscoveredMetadata (sources : List (DiscoveredMetadataSnapshot F)) :
    OrderedMap String (DiscoveredModelMetadata F) :=
  sources.foldl (aggregateSource platform) .empty

def fillNumber (current : F) (discovered : Option F) : F :=
  if platform.equal current platform.zero then discovered.getD current else current

/-- Fields that the policy leaves open take the discovered value. -/
def filled (metadata : ModelMetadata F) (discovered : DiscoveredModelMetadata F) :
    ModelMetadata F :=
  { metadata with
    sizeB := fillNumber platform metadata.sizeB discovered.sizeB
    inputPrice := fillNumber platform metadata.inputPrice discovered.inputPrice
    outputPrice := fillNumber platform metadata.outputPrice discovered.outputPrice
    context := if metadata.context = 0 then discovered.context.getD 0 else metadata.context
    tags := if metadata.tags = [] then discovered.tags else metadata.tags }

/-- The metadata of a model that the policy does not list. -/
def unlisted : ModelMetadata F :=
  { metadataOf platform .empty "" with enabled := true }

def mergeModel (models : OrderedMap String (ModelMetadata F))
    (entry : String × DiscoveredModelMetadata F) : OrderedMap String (ModelMetadata F) :=
  let metadata := (models.get entry.1).getD (unlisted platform)
  if metadata.discoveryDisabled then models
  else models.insert entry.1 (filled platform metadata entry.2)

def mergeDiscoveredMetadata (policy : RoutingPolicy F)
    (sources : OrderedMap String (DiscoveredMetadataSnapshot F)) : RoutingPolicy F :=
  let ordered := sortByKey DiscoveredMetadataSnapshot.source (sources.entries.map Prod.snd)
  { policy with
    models := (aggregateDiscoveredMetadata platform ordered).entries.foldl (mergeModel platform)
      policy.models }

/-- Deployment fields replace the ones of the policy. -/
def overridden (metadata : ModelMetadata F) (fields : DiscoveredModelMetadata F) :
    ModelMetadata F :=
  { metadata with
    sizeB := fields.sizeB.getD metadata.sizeB
    context := fields.context.getD metadata.context
    inputPrice := fields.inputPrice.getD metadata.inputPrice
    outputPrice := fields.outputPrice.getD metadata.outputPrice
    tags := if fields.tags = [] then metadata.tags else fields.tags }

def overrideModel (models : OrderedMap String (ModelMetadata F))
    (entry : String × DiscoveredModelMetadata F) : OrderedMap String (ModelMetadata F) :=
  models.insert entry.1 (overridden ((models.get entry.1).getD (unlisted platform)) entry.2)

namespace RouterManager

def effectivePolicy (manager : RouterManager F) (policy : RoutingPolicy F) : RoutingPolicy F :=
  let merged := mergeDiscoveredMetadata platform policy manager.metadata
  { merged with
    models := manager.deploymentMetadata.entries.foldl (overrideModel platform) merged.models }

/-- The runtime index after a change of the policy or the metadata. -/
def recompiled (manager : RouterManager F) : RouterManager F :=
  { manager with
    runtime := some (compileRoutingPolicy platform
      (manager.effectivePolicy platform manager.policy)) }

def installPolicyLocked (manager : RouterManager F) (policy : RoutingPolicy F) : RouterManager F :=
  let installed := { manager with policy }.recompiled platform
  { installed with signals := { installed.signals with counters := fun _ => 0 } }

end RouterManager

def withDefaults (policy : RoutingPolicy F) : RoutingPolicy F :=
  { policy with
    version := if policy.version = 0 then routingPolicyVersion else policy.version
    revision := if policy.revision = 0 then 1 else policy.revision }

def newRouterManager (policy : RoutingPolicy F) : Except String (RouterManager F) :=
  match validateRoutingPolicy platform (withDefaults policy) with
  | .error failure => .error failure
  | .ok () => .ok (RouterManager.installPolicyLocked platform
      { policy := withDefaults policy, runtime := none, metadata := .empty
        deploymentMetadata := .empty
        signals := ⟨fun _ => 0, fun _ => platform.zero⟩ } (withDefaults policy))

namespace RouterManager

/-- `SetPolicy`; `written` says whether `Publish` could write its file. -/
def publish (manager : RouterManager F) (policy : RoutingPolicy F) (expectedRevision : Nat)
    (written : Bool) : RouterManager F :=
  match validateRoutingPolicy platform policy with
  | .error _ => manager
  | .ok () =>
    if expectedRevision ≠ manager.policy.revision ∨ written = false then manager
    else manager.installPolicyLocked platform
      { policy with revision := (manager.policy.revision + 1) % 2 ^ 64 }

def replaceDiscoveredMetadata (manager : RouterManager F)
    (snapshot : DiscoveredMetadataSnapshot F) : RouterManager F :=
  match normalizeDiscoveredMetadataSnapshot platform snapshot with
  | .error _ => manager
  | .ok normalized =>
    if (manager.metadata.get normalized.source).isNone ∧
        maxDiscoveredMetadataSources ≤ manager.metadata.entries.length then manager
    else recompiled platform
      { manager with metadata := manager.metadata.insert normalized.source normalized }

def removeDiscoveredMetadata (manager : RouterManager F) (source : String) : RouterManager F :=
  if invalidSource source ∨ (manager.metadata.get (trimSpace source)).isNone then manager
  else recompiled platform
    { manager with metadata := manager.metadata.erase (trimSpace source) }

def replaceDeploymentMetadata (manager : RouterManager F)
    (models : OrderedMap String (DiscoveredModelMetadata F)) : RouterManager F :=
  match normalizeDiscoveredMetadataSnapshot platform ⟨"deployments", models⟩ with
  | .error _ => manager
  | .ok normalized => recompiled platform
      { manager with deploymentMetadata := normalized.models }

/-- The running mean of the latencies of a model. -/
def observeRoute (manager : RouterManager F) (model : String) (milliseconds : F) :
    RouterManager F :=
  let old := manager.signals.latency model
  let new := if platform.equal old platform.zero then milliseconds
    else platform.add (platform.mul (platform.decimal 8 1) old)
      (platform.mul (platform.decimal 2 1) milliseconds)
  { manager with signals := { manager.signals with
      latency := fun other => if other = model then new else manager.signals.latency other } }

def routed (manager : RouterManager F) (cancelled : Bool) (input : Input F) (draw : Nat) :
    RouterManager F × Except String (Decision F) :=
  let outcome := route platform manager.runtime manager.signals cancelled input draw
  ({ manager with signals := { manager.signals with counters := outcome.1 } }, outcome.2)

end RouterManager

inductive ManagerCall (F : Type) where
  | publish (policy : RoutingPolicy F) (expectedRevision : Nat) (written : Bool)
  | replaceDiscoveredMetadata (snapshot : DiscoveredMetadataSnapshot F)
  | removeDiscoveredMetadata (source : String)
  | replaceDeploymentMetadata (models : OrderedMap String (DiscoveredModelMetadata F))
  | observeRoute (model : String) (milliseconds : F)
  | route (cancelled : Bool) (input : Input F) (draw : Nat)

namespace RouterManager

def step (manager : RouterManager F) : ManagerCall F → RouterManager F
  | .publish policy expectedRevision written =>
    manager.publish platform policy expectedRevision written
  | .replaceDiscoveredMetadata snapshot => manager.replaceDiscoveredMetadata platform snapshot
  | .removeDiscoveredMetadata source => manager.removeDiscoveredMetadata platform source
  | .replaceDeploymentMetadata models => manager.replaceDeploymentMetadata platform models
  | .observeRoute model milliseconds => manager.observeRoute platform model milliseconds
  | .route cancelled input draw => (manager.routed platform cancelled input draw).1

/-! ### Metadata keeps what the policy says about a model -/

variable {platform}

/-- Both policies have the same selectors and rules, and disable the same models. -/
structure Agrees (policy effective : RoutingPolicy F) : Prop where
  virtualModels : effective.virtualModels = policy.virtualModels
  keywordRules : effective.keywordRules = policy.keywordRules
  disabled : ∀ name, effective.disabled name = policy.disabled name

/-- Writing metadata that is enabled exactly when the old one was. -/
theorem disabledIn_insert (platform : Platform F) {models : OrderedMap String (ModelMetadata F)}
    {name : String} {metadata : ModelMetadata F}
    (same : metadata.enabled = ((models.get name).getD (unlisted platform)).enabled)
    (other : String) : disabledIn (models.insert name metadata) other =
      disabledIn models other := by
  simp only [disabledIn, OrderedMap.get_insert]
  by_cases equal : other = name
  · subst equal
    rw [if_pos rfl]
    cases found : models.get other with
    | none =>
      rw [found] at same
      simp [same, unlisted]
    | some old =>
      rw [found] at same
      simp only [same, Option.getD_some]
  · rw [if_neg equal]

theorem foldl_disabledIn {Entry : Type}
    {write : OrderedMap String (ModelMetadata F) → Entry → OrderedMap String (ModelMetadata F)}
    (writes : ∀ models entry other, disabledIn (write models entry) other = disabledIn models other)
    (entries : List Entry) (models : OrderedMap String (ModelMetadata F)) (other : String) :
    disabledIn (entries.foldl write models) other = disabledIn models other := by
  induction entries generalizing models with
  | nil => rfl
  | cons entry entries ih =>
    exact (ih _).trans (writes models entry other)

theorem effectivePolicy_agrees (manager : RouterManager F) (policy : RoutingPolicy F) :
    Agrees policy (manager.effectivePolicy platform policy) where
  virtualModels := rfl
  keywordRules := rfl
  disabled name := by
    refine (foldl_disabledIn (fun _ _ _ => ?_) _ _ name).trans ?_
    · apply disabledIn_insert platform
      rfl
    refine foldl_disabledIn (fun models entry other => ?_) _ _ name
    unfold mergeModel
    dsimp only
    split
    next => rfl
    next =>
      apply disabledIn_insert platform
      rfl

variable {manager : RouterManager F}

theorem effectivePolicy_plain (policy : RoutingPolicy F)
    (undiscovered : manager.metadata = .empty) (undeployed : manager.deploymentMetadata = .empty) :
    manager.effectivePolicy platform policy = policy := by
  unfold effectivePolicy mergeDiscoveredMetadata
  rw [undiscovered, undeployed]
  simp [sortByKey, OrderedMap.empty, aggregateDiscoveredMetadata]

/-! ### What is installed has been checked -/

/-- The policy passed the check, and the index is that of its merge with the metadata. -/
structure Installed (manager : RouterManager F) (platform : Platform F) : Prop where
  accepted : validateRoutingPolicy platform manager.policy = .ok ()
  compiled : ∃ effective, Agrees manager.policy effective ∧
    manager.runtime = some (compileRoutingPolicy platform effective)

theorem recompiled_installed (accepted : validateRoutingPolicy platform manager.policy = .ok ()) :
    Installed (manager.recompiled platform) platform where
  accepted := accepted
  compiled := ⟨_, effectivePolicy_agrees manager manager.policy, rfl⟩

variable {policy : RoutingPolicy F}

theorem installPolicyLocked_installed (manager : RouterManager F)
    (accepted : validateRoutingPolicy platform policy = .ok ()) :
    Installed (manager.installPolicyLocked platform policy) platform where
  accepted := accepted
  compiled := ⟨_, effectivePolicy_agrees _ policy, rfl⟩

theorem newRouterManager_installed (created : newRouterManager platform policy = .ok manager) :
    Installed manager platform := by
  unfold newRouterManager at created
  cases checked : validateRoutingPolicy platform (withDefaults policy) with
  | error failure =>
    rw [checked] at created
    cases created
  | ok value =>
    rw [checked] at created
    cases created
    exact installPolicyLocked_installed _ checked

theorem Installed.step (installed : Installed manager platform)
    (call : ManagerCall F) : Installed (manager.step platform call) platform := by
  cases call with
  | publish policy expectedRevision written =>
    simp only [RouterManager.step, publish]
    cases checked : validateRoutingPolicy platform policy with
    | error failure => exact installed
    | ok value =>
      dsimp only
      split
      next => exact installed
      next => exact installPolicyLocked_installed manager checked
  | replaceDiscoveredMetadata snapshot =>
    simp only [RouterManager.step, RouterManager.replaceDiscoveredMetadata]
    split
    next => exact installed
    next =>
      split
      next => exact installed
      next => exact recompiled_installed installed.accepted
  | removeDiscoveredMetadata source =>
    simp only [RouterManager.step, RouterManager.removeDiscoveredMetadata]
    split
    next => exact installed
    next => exact recompiled_installed installed.accepted
  | replaceDeploymentMetadata models =>
    simp only [RouterManager.step, RouterManager.replaceDeploymentMetadata]
    split
    next => exact installed
    next => exact recompiled_installed installed.accepted
  | observeRoute model milliseconds | route cancelled input draw =>
    exact ⟨installed.accepted, installed.compiled⟩

theorem run_installed (created : newRouterManager platform policy = .ok manager)
    (calls : List (ManagerCall F)) : Installed (run (step platform) manager calls) platform :=
  @run_invariant _ _ (step platform) (fun manager => Installed manager platform) manager
    (newRouterManager_installed created) (fun _ call kept => kept.step call) calls

end RouterManager

end

end SparkRoute.ModelRouter
