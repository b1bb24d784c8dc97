import SparkRoute.Config.Document
import SparkRoute.Config.Identifier

/-!
# Capabilities

A deployment declares what it supports and what it does not.  A required
capability that it mentions in neither list may still be attempted when its
policy and the bounded vocabulary below allow that.
-/

namespace SparkRoute.Config

/-- Optional request features that may be forwarded speculatively. -/
def safeUnknownCapabilities : List Capability :=
  ["tools", "vision", "audio_input", "audio_output", "file_input", "developer_messages",
    "structured_outputs", "json_mode", "reasoning", "logprobs", "seed",
    "multiple_choices", "parallel_tool_calls", "prediction", "service_tier",
    "provider_hosted_tools", "stream_usage", "prompt_caching", "citations",
    "provider_guardrails", "provider_prompts"]

def standardCapabilities : List Capability :=
  ["tools", "vision", "audio_input", "audio_output", "file_input", "files",
    "developer_messages", "structured_outputs", "json_mode", "reasoning", "logprobs",
    "seed", "multiple_choices", "parallel_tool_calls", "prediction", "service_tier",
    "provider_hosted_tools", "stream_usage", "stored_completions", "responses",
    "responses_compact", "background_responses", "conversations",
    "single_vector_embedding", "token_counting", "prompt_caching", "citations",
    "provider_guardrails", "provider_prompts"]

inductive CapabilityMatch where
  | rejected
  | unknown
  | declared
  deriving DecidableEq

namespace Deployment

def declaresCapability (deployment : Deployment) (capability : Capability) : Bool :=
  !deployment.capabilityPolicy.unsupported.contains capability &&
    deployment.capabilities.contains capability

def matchLoop (deployment : Deployment) :
    CapabilityMatch → List Capability → CapabilityMatch
  | result, [] => result
  | result, capability :: rest =>
    if deployment.capabilityPolicy.unsupported.contains capability then
      .rejected
    else if deployment.capabilities.contains capability then
      deployment.matchLoop result rest
    else if deployment.capabilityPolicy.unknown.effective ≠ .attempt then
      .rejected
    else if !safeUnknownCapabilities.contains capability then
      .rejected
    else
      deployment.matchLoop .unknown rest

def matchCapabilities (deployment : Deployment) (required : List Capability) : CapabilityMatch :=
  if required = [] then .declared else deployment.matchLoop .declared required

end Deployment

def maxCapabilities : Nat := 64

def maxCapabilityLength : Nat := 64

def capabilityCharacter (character : Char) : Bool :=
  ('a' ≤ character ∧ character ≤ 'z') ∨ ('0' ≤ character ∧ character ≤ '9') ∨
    character = '_' ∨ character = '-' ∨ character = '.'

section Validation

variable (toLower : String → String)

def validateCapability (capability : Capability) : Except String Unit :=
  if capability = "" ∨ maxCapabilityLength < capability.utf8ByteSize then
    .error "capability length must be between 1 and 64"
  else if capability ≠ toLower capability then
    .error s!"capability {quoted capability} must be lowercase"
  else
    match capability.toList.find? fun character => !capabilityCharacter character with
    | some character =>
      .error s!"capability {quoted capability} contains invalid character '{character}'"
    | none =>
      if standardCapabilities.contains capability then
        .ok ()
      else if "x-".toList.isPrefixOf capability.toList ∧ 2 < capability.utf8ByteSize then
        .ok ()
      else
        .error s!"unknown capability {quoted capability}; extensions must use the x- prefix"

/-- The duplicate scan of `validateCapabilities`. -/
def validateCapabilityList :
    Nat → List Capability → List Capability → Except String Unit
  | _, _, [] => .ok ()
  | index, seen, capability :: rest => do
    located s!"[{index}]" (validateCapability toLower capability)
    if seen.contains capability then
      .error s!"[{index}]: duplicate capability {quoted capability}"
    else
      validateCapabilityList (index + 1) (capability :: seen) rest

def validateCapabilities (capabilities : List Capability) : Except String Unit :=
  if maxCapabilities < capabilities.length then
    .error s!"too many capabilities: {capabilities.length} > {maxCapabilities}"
  else
    validateCapabilityList toLower 0 [] capabilities

def validateUnsupported (supported : List Capability) :
    Nat → List Capability → Except String Unit
  | _, [] => .ok ()
  | index, capability :: rest =>
    if supported.contains capability then
      .error s!"unsupported[{index}]: capability {quoted capability} is also declared supported"
    else
      validateUnsupported supported (index + 1) rest

def validateCapabilityPolicy (policy : CapabilityPolicy) (supported : List Capability) :
    Except String Unit := do
  located "unsupported" (validateCapabilities toLower policy.unsupported)
  validateUnsupported supported 0 policy.unsupported

end Validation

/-- Later providers of the same name win, as in the source's map. -/
def Document.providerNamed (document : Document) (name : String) : Option Provider :=
  document.providers.reverse.find? fun provider => provider.name = name

def resolveDeploymentCapabilities (document : Document)
    (globalDefault : UnknownCapabilityPolicy) (deployment : Deployment) : Deployment :=
  let provider := document.providerNamed deployment.provider
  let responses := provider.any fun provider => provider.type = "openai_responses"
  let capabilities :=
    if responses && !deployment.capabilities.contains "responses" then
      deployment.capabilities ++ ["responses"]
    else
      deployment.capabilities
  let providerDefault :=
    match provider with
    | some provider =>
      if provider.capabilityDefault = .unset then globalDefault
      else provider.capabilityDefault
    | none => globalDefault
  let unknown :=
    if deployment.capabilityPolicy.unknown ≠ .unset then deployment.capabilityPolicy.unknown
    else providerDefault
  { deployment with
    capabilities := capabilities
    capabilityPolicy := { deployment.capabilityPolicy with unknown := unknown } }

/-- Deployment override, provider default, document default, edition default. -/
def Document.resolveCapabilityPolicies (document : Document)
    (editionDefault : UnknownCapabilityPolicy) : Document :=
  let edition := if editionDefault = .unset then .attempt else editionDefault
  let globalDefault :=
    if document.capabilityDefault = .unset then edition else document.capabilityDefault
  { document with
    deployments :=
      document.deployments.map (resolveDeploymentCapabilities document globalDefault) }

end SparkRoute.Config
