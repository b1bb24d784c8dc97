import SparkRoute.Config.Circuit

/-!
# The configuration document

The part of the document that request routing reads.  Names are valid UTF-8
because documents are decoded from JSON, so Lean strings stand for them.  Enum
fields have one constructor for the omitted value, written `unset`.
-/

namespace SparkRoute.Config

abbrev Capability := String

/-- An upstream dialect; the empty string of the source is `none`. -/
inductive Protocol where
  | openai
  | anthropic
  | gemini
  | bedrock
  deriving DecidableEq

inductive UnknownCapabilityPolicy where
  | unset
  | reject
  | attempt
  deriving DecidableEq

/-- `try` is what an omitted policy means. -/
def UnknownCapabilityPolicy.effective : UnknownCapabilityPolicy → UnknownCapabilityPolicy
  | .unset => .attempt
  | policy => policy

structure CapabilityPolicy where
  unknown : UnknownCapabilityPolicy := .unset
  unsupported : List Capability := []
  deriving DecidableEq

structure Provider where
  name : String
  type : String
  capabilityDefault : UnknownCapabilityPolicy := .unset
  deriving DecidableEq

structure Deployment where
  name : String
  provider : String := ""
  nativeProtocols : List Protocol := []
  capabilities : List Capability := []
  capabilityPolicy : CapabilityPolicy := {}
  maxConcurrency : Int := 0
  circuit : CircuitPolicy := {}

def protocolForProviderType (providerType : String) : Option Protocol :=
  if providerType = "sparkrun" ∨ providerType = "openai" ∨
      providerType = "openai_compatible" ∨ providerType = "openai_responses" ∨
      providerType = "openai_subscription" then
    some .openai
  else if providerType = "anthropic" then
    some .anthropic
  else if providerType = "gemini" then
    some .gemini
  else if providerType = "bedrock" then
    some .bedrock
  else
    none

/-- Configured protocols win over the one implied by the provider type. -/
def Deployment.effectiveNativeProtocols
    (deployment : Deployment) (provider : Provider) : List Protocol :=
  if deployment.nativeProtocols ≠ [] then
    deployment.nativeProtocols
  else
    (protocolForProviderType provider.type).toList

structure WeightedTarget where
  deployment : String
  weight : Int
  deriving DecidableEq

structure RoutingPool where
  priority : Int
  targets : List WeightedTarget
  deriving DecidableEq

inductive ModelVisibility where
  | unset
  | publicly
  | hidden
  | internal
  deriving DecidableEq

def ModelVisibility.effective : ModelVisibility → ModelVisibility
  | .unset => .publicly
  | visibility => visibility

inductive ResponseModelMode where
  | unset
  | virtual
  | requested
  | upstream
  deriving DecidableEq

inductive SelectionMode where
  | unset
  | weightedRandom
  | weightedHash
  deriving DecidableEq

inductive SelectionHashKey where
  | unset
  | tenant
  | principal
  | user
  | workspace
  | threadId
  | taskId
  | experiment
  | session
  deriving DecidableEq

structure SelectionPolicy where
  preferRunning : Option Bool := none
  mode : SelectionMode := .unset
  hashKey : SelectionHashKey := .unset
  deriving DecidableEq

/-- Ready targets are preferred unless the model opts out. -/
def SelectionPolicy.prefersRunning (policy : SelectionPolicy) : Bool :=
  policy.preferRunning.getD true

structure ModelLimits where
  maxAttempts : Int := 0
  overallTimeout : Int := 0
  perTryTimeout : Int := 0
  streamIdleTimeout : Int := 0
  deriving DecidableEq

structure EffectiveModelLimits where
  maxAttempts : Int
  overallTimeout : Int
  perTryTimeout : Int
  streamIdleTimeout : Int
  deriving DecidableEq

def ModelLimits.effective (limits : ModelLimits) : EffectiveModelLimits :=
  let overall := if limits.overallTimeout = 0 then 10 * minute else limits.overallTimeout
  { maxAttempts := if limits.maxAttempts = 0 then 3 else limits.maxAttempts
    overallTimeout := overall
    perTryTimeout := if limits.perTryTimeout = 0 then overall else limits.perTryTimeout
    streamIdleTimeout := if limits.streamIdleTimeout = 0
      then 2 * minute else limits.streamIdleTimeout }

structure RetryBudgetPolicy where
  disabled : Bool := false
  ratio : Float := 0
  minConcurrency : Int := 0

structure RetryPolicy where
  disabled : Bool := false
  baseBackoff : Int := 0
  maxBackoff : Int := 0
  maxRetryAfter : Int := 0
  budget : RetryBudgetPolicy := {}

def millisecond : Int := 1000000

/-- `EffectiveRetryPolicy` has the fields of the authored policy. -/
def RetryPolicy.effective (policy : RetryPolicy) : RetryPolicy :=
  let base := if policy.baseBackoff = 0 then 100 * millisecond else policy.baseBackoff
  { disabled := policy.disabled
    baseBackoff := base
    maxBackoff := if policy.maxBackoff = 0
      then (if 2 * second < base then base else 2 * second) else policy.maxBackoff
    maxRetryAfter := if policy.maxRetryAfter = 0
      then 30 * second else policy.maxRetryAfter
    budget :=
      { disabled := policy.budget.disabled
        ratio := if policy.budget.ratio == 0 then 0.2 else policy.budget.ratio
        minConcurrency := if policy.budget.minConcurrency = 0
          then 1 else policy.budget.minConcurrency } }

inductive GuardrailFailureMode where
  | unset
  | failOpen
  | failClosed
  deriving DecidableEq

structure Guardrail where
  name : String
  model : String
  prompt : String := ""
  failureMode : GuardrailFailureMode := .unset
  allowReplacement : Bool := false
  deriving DecidableEq

structure GuardrailStreamPolicy where
  windowBytes : Int := 0
  contextBytes : Int := 0
  deriving DecidableEq

structure GuardrailPolicy where
  pre : List Guardrail := []
  post : List Guardrail := []
  stream : Option GuardrailStreamPolicy := none
  deriving DecidableEq

/-- A request profile derives its routing from the named parent model. -/
structure RequestProfileBinding where
  parent : String
  deriving DecidableEq

/-- `requestOverrides` keeps the overridden operations; their parameter values
are not read by routing. -/
structure VirtualModel where
  name : String
  aliases : List String := []
  profile : Option RequestProfileBinding := none
  requestOverrides : List String := []
  visibility : ModelVisibility := .unset
  requiredCapabilities : List Capability := []
  responseModel : ResponseModelMode := .unset
  selection : SelectionPolicy := {}
  limits : ModelLimits := {}
  retry : RetryPolicy := {}
  guardrails : GuardrailPolicy := {}
  pools : List RoutingPool

structure Document where
  capabilityDefault : UnknownCapabilityPolicy := .unset
  guardrailProfiles : List (String × GuardrailPolicy) := []
  modelPolicies : List (String × Option String) := []
  providers : List Provider
  deployments : List Deployment
  virtualModels : List VirtualModel

end SparkRoute.Config
