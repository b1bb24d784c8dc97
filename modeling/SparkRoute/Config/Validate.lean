import SparkRoute.Config.Policies

/-!
# Document validation

The checks of `Document.Validate` on the modelled fields, in the source's order
and with its messages.  Checks on other fields only reject more documents.
-/

namespace SparkRoute.Config

open Lib

def maxConcurrency : Int := 1000000

def maxAttempts : Int := 16

def maxConfiguredTimeout : Int := 24 * hour

def maxRetryConcurrency : Int := 1000000

def ModelLimits.validate (limits : ModelLimits) : Except String Unit :=
  let effective := limits.effective
  if limits.maxAttempts < 0 ∨ Config.maxAttempts < limits.maxAttempts then
    .error "max_attempts must be between 1 and 16, or 0 for the default"
  else if effective.overallTimeout ≤ 0 ∨ maxConfiguredTimeout < effective.overallTimeout then
    .error "overall_timeout must be positive and at most 24h0m0s"
  else if effective.perTryTimeout ≤ 0 ∨ maxConfiguredTimeout < effective.perTryTimeout then
    .error "per_try_timeout must be positive and at most 24h0m0s"
  else if effective.streamIdleTimeout ≤ 0 ∨
      maxConfiguredTimeout < effective.streamIdleTimeout then
    .error "stream_idle_timeout must be positive and at most 24h0m0s"
  else
    .ok ()

def SelectionPolicy.validate (policy : SelectionPolicy) : Except String Unit :=
  match policy.mode with
  | .weightedHash =>
    if policy.hashKey = .unset then
      .error "hash_key is required for mode weighted_hash"
    else
      .ok ()
  | _ =>
    if policy.hashKey ≠ .unset then
      .error "hash_key requires mode weighted_hash"
    else
      .ok ()

def RetryPolicy.validate (policy : RetryPolicy) : Except String Unit :=
  let effective := policy.effective
  if effective.baseBackoff ≤ 0 ∨ maxConfiguredTimeout < effective.baseBackoff then
    .error "base_backoff must be positive and at most 24h0m0s"
  else if effective.maxBackoff < effective.baseBackoff ∨
      maxConfiguredTimeout < effective.maxBackoff then
    .error "max_backoff must be at least base_backoff and at most 24h0m0s"
  else if effective.maxRetryAfter ≤ 0 ∨ maxConfiguredTimeout < effective.maxRetryAfter then
    .error "max_retry_after must be positive and at most 24h0m0s"
  else if effective.budget.ratio ≤ 0 ∨ 10 < effective.budget.ratio then
    .error "budget.ratio must be greater than 0 and at most 10, or 0 for the default"
  else if effective.budget.minConcurrency < 1 ∨
      maxRetryConcurrency < effective.budget.minConcurrency then
    .error "budget.min_concurrency must be between 1 and 1000000, or 0 for the default"
  else
    .ok ()

/-- The target loop of one pool; the deployments seen so far are passed on. -/
def validateTargets (path : String) (known : String → Bool) :
    Nat → List String → List WeightedTarget → Except String (List String)
  | _, seen, [] => .ok seen
  | index, seen, target :: rest =>
    if !known target.deployment then
      .error s!"{path}[{index}].deployment: unknown deployment {quoted target.deployment}"
    else if seen.contains target.deployment then
      .error s!"{path}[{index}].deployment: duplicate deployment {quoted target.deployment}"
    else if target.weight ≤ 0 then
      .error s!"{path}[{index}].weight: must be positive"
    else
      validateTargets path known (index + 1) (target.deployment :: seen) rest

def validatePools (path : String) (known : String → Bool) :
    Nat → List Int → List String → List RoutingPool → Except String (List String)
  | _, _, seen, [] => .ok seen
  | index, priorities, seen, pool :: rest =>
    if priorities.contains pool.priority then
      .error s!"{path}.pools[{index}].priority: duplicate priority {pool.priority}"
    else if pool.targets = [] then
      .error s!"{path}.pools[{index}].targets: at least one target is required"
    else do
      let seen ← validateTargets s!"{path}.pools[{index}].targets" known 0 seen pool.targets
      validatePools path known (index + 1) (pool.priority :: priorities) seen rest

def hasCapableTarget (model : VirtualModel) (deployments : List Deployment) : Bool :=
  model.pools.any fun pool => pool.targets.any fun target =>
    (deployments.find? fun deployment => deployment.name = target.deployment).any
      fun deployment =>
        deployment.matchCapabilities model.requiredCapabilities ≠ .rejected

/-- The owner recorded for each model name and alias. -/
def validateAliases (path owner : String) :
    Nat → List (String × String) → List String → Except String (List (String × String))
  | _, names, [] => .ok names
  | index, names, alternative :: rest => do
    located s!"{path}.aliases[{index}]" (validateID alternative)
    match names.lookup alternative with
    | some previous =>
      .error s!"{path}.aliases[{index}]: {quoted alternative} already belongs to {previous}"
    | none =>
      validateAliases path owner (index + 1) ((alternative, owner) :: names) rest

section Loops

variable (toLower : String → String)

def validateModel (deployments : List Deployment) (path : String)
    (names : List (String × String)) (model : VirtualModel) :
    Except String (List (String × String)) := do
  located s!"{path}.name" (validateID model.name)
  match names.lookup model.name with
  | some previous =>
    .error s!"{path}.name: {quoted model.name} already belongs to {previous}"
  | none =>
    located s!"{path}.required_capabilities"
      (validateCapabilities toLower model.requiredCapabilities)
    let names ← validateAliases path model.name 0 ((model.name, model.name) :: names)
      model.aliases
    located s!"{path}.selection" model.selection.validate
    located s!"{path}.limits" model.limits.validate
    located s!"{path}.retry" model.retry.validate
    refuse (model.pools = []) s!"{path}.pools: at least one routing pool is required"
    let _ ← validatePools path
      (fun name => deployments.any fun deployment => deployment.name = name)
      0 [] [] model.pools
    refuse (model.requiredCapabilities ≠ [] ∧ !hasCapableTarget model deployments)
      s!"{path}.required_capabilities: no routing target supports the complete required set"
    .ok names

def validateModels (deployments : List Deployment) (models : List VirtualModel) :
    Except String (List (String × String)) :=
  models.zipIdx.foldlM
    (fun names entry =>
      validateModel toLower deployments s!"virtual_models[{entry.2}]" names entry.1) []

def validateProvider (path : String) (names : List String) (provider : Provider) :
    Except String (List String) := do
  located s!"{path}.name" (validateID provider.name)
  refuse (names.contains provider.name)
    s!"{path}.name: duplicate provider {quoted provider.name}"
  refuse (trimSpace provider.type = "") s!"{path}.type: required"
  .ok (provider.name :: names)

def validateProviders (providers : List Provider) : Except String (List String) :=
  providers.zipIdx.foldlM
    (fun names entry => validateProvider s!"providers[{entry.2}]" names entry.1) []

def protocolName : Protocol → String
  | .openai => "openai"
  | .anthropic => "anthropic"
  | .gemini => "gemini"
  | .bedrock => "bedrock"

def validateNativeProtocols :
    Nat → List Protocol → List Protocol → Except String Unit
  | _, _, [] => .ok ()
  | index, seen, protocol :: rest =>
    if seen.contains protocol then
      .error s!"[{index}]: duplicate protocol {quoted (protocolName protocol)}"
    else
      validateNativeProtocols (index + 1) (protocol :: seen) rest

def validateDeployment (document : Document) (path : String) (seen : List Deployment)
    (deployment : Deployment) : Except String (List Deployment) := do
  located s!"{path}.name" (validateID deployment.name)
  refuse (seen.any fun previous => previous.name = deployment.name)
    s!"{path}.name: duplicate deployment {quoted deployment.name}"
  match document.providers.find? fun provider => provider.name = deployment.provider with
  | none => .error s!"{path}.provider: unknown provider {quoted deployment.provider}"
  | some provider =>
    located s!"{path}.native_protocols"
      (validateNativeProtocols 0 [] deployment.nativeProtocols)
    refuse (provider.type = "openai_responses" ∧
        !(deployment.effectiveNativeProtocols provider).contains .openai)
      s!"{path}.native_protocols: OpenAI Responses providers require the openai protocol"
    refuse (provider.type = "openai_subscription" ∧ deployment.nativeProtocols ≠ [] ∧
        deployment.nativeProtocols ≠ [.openai])
      s!"{path}: subscription deployments require static OpenAI endpoints and provider-owned authentication"
    refuse (provider.type = "openai_subscription" ∧
        !deployment.declaresCapability "responses")
      s!"{path}.capabilities: subscription deployments must declare responses"
    located s!"{path}.capabilities" (validateCapabilities toLower deployment.capabilities)
    located s!"{path}.capability_policy"
      (validateCapabilityPolicy toLower deployment.capabilityPolicy deployment.capabilities)
    refuse (deployment.maxConcurrency < 0 ∨ maxConcurrency < deployment.maxConcurrency)
      s!"{path}.max_concurrency: must be between 1 and 1000000, or 0 for unlimited"
    located s!"{path}.circuit" deployment.circuit.validate
    .ok (seen ++ [deployment])

def validateDeployments (document : Document) : Except String (List Deployment) :=
  document.deployments.zipIdx.foldlM
    (fun seen entry =>
      validateDeployment toLower document s!"deployments[{entry.2}]" seen entry.1) []

def Document.validate (authored : Document) : Except String Unit := do
  let resolved ← authored.resolveModelPolicies
  let document := resolved.resolveCapabilityPolicies .attempt
  let _ ← validateProviders document.providers
  let deployments ← validateDeployments toLower document
  let names ← validateModels toLower deployments document.virtualModels
  document.virtualModels.zipIdx.forM fun entry =>
    validateGuardrails s!"virtual_models[{entry.2}].guardrails" entry.1.guardrails
      fun model => (names.lookup model).isSome

end Loops

end SparkRoute.Config
