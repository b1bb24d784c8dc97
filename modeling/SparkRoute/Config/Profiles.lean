import SparkRoute.Config.Policies
import SparkRoute.Config.Privacy
import SparkRoute.Lib.Overlay

/-!
# Request profiles with their parameters

Routing reads which operations a request profile overrides.  Here a document keeps the
parameter values too, with everything else that `ResolveRequestProfiles` and
`ResolveModelPolicies` check or copy.  Fields that neither function reads are left to the
type parameters; `Config.Routed` leads back to what routing reads.  A parameter value is a
decoded JSON document, whose objects have distinct names.
-/

namespace SparkRoute.Config.Profiles

open Lib

/-! ### Parameters -/

inductive Scalar where
  | null
  | boolean (value : Bool)
  | number (text : String)
  | text (value : String)
  deriving DecidableEq

abbrev ParameterValue := { tree : Tree String Scalar // tree.Distinct }

abbrev Parameters := OrderedMap String ParameterValue

/-- The parameters of every ingress operation. -/
abbrev RequestParameters := OrderedMap String Parameters

def mergeValue (base : Option ParameterValue) (overlay : ParameterValue) : ParameterValue :=
  ⟨Tree.overlay (base.map Subtype.val) overlay.1, overlay.2.overlay fun tree held => by
    obtain ⟨value, _, rfl⟩ := Option.map_eq_some_iff.mp held
    exact value.2⟩

def mergeProfileParameters (base overlay : Parameters) : Parameters :=
  base.overlay mergeValue overlay

/-- An operation without parameters starts from the empty object. -/
def mergeOperation (base : Option Parameters) (overlay : Parameters) : Parameters :=
  mergeProfileParameters (base.getD .empty) overlay

def mergeOverrides (base overlay : RequestParameters) : RequestParameters :=
  base.overlay mergeOperation overlay

structure RequestProfileImplementation where
  ingressOverrides : RequestParameters := .empty
  upstreamOverrides : RequestParameters := .empty
  supportedOperations : List String := []

structure RequestProfilePatch where
  ingressOverrides : RequestParameters := .empty
  upstreamOverrides : RequestParameters := .empty
  removeIngress : OrderedMap String (List String) := .empty
  removeUpstream : OrderedMap String (List String) := .empty

structure RequestProfileBinding where
  parent : String
  selector : String
  manual : Bool := false
  patch : RequestProfilePatch := {}
  deploymentOverrides : OrderedMap String RequestProfilePatch := .empty
  excludedDeployments : List String := []

structure RequestProfileSource where
  recipe : String
  recipeRevision : String
  kind : String := ""
  baselineRevision : String := ""
  revision : String := ""
  profiles : OrderedMap String RequestProfileImplementation := .empty

/-! ### Checks on parameters -/

/-- What the checks take from Go's libraries: lower case, and the length of a JSON text. -/
structure Encoding where
  toLower : String → String
  valueBytes : ParameterValue → Nat
  profilesBytes : OrderedMap String RequestProfileImplementation → Nat
  patchBytes : RequestProfilePatch → Nat

def maxExtraBodyFields : Nat := 64

def maxExtraBodyName : Nat := 128

def maxExtraBodyValue : Nat := 1048576

def maxExtraBodyBytes : Nat := 4194304

def protectedExtraBodyFields : List String :=
  ["extra_body", "input", "messages", "model", "prompt", "stream", "stream_options",
    "tool_choice", "tools"]

def requestStructureFields : List String :=
  ["contents", "system", "system_instruction", "systemInstruction", "instructions", "history",
    "conversation", "previous_response_id"]

def overridableOperations : List String :=
  ["chat_completions", "responses", "responses_compact", "messages", "messages_count_tokens",
    "generate_content", "stream_generate_content", "count_tokens", "converse",
    "converse_stream", "embeddings", "embed_content", "batch_embed_contents"]

def profileStateFields : List String :=
  ["store", "background", "contents", "system", "system_instruction", "systeminstruction",
    "instructions", "history", "conversation", "previous_response_id"]

mutual

def boundedProfileJSON (depth : Nat) : Tree String Scalar → Bool
  | .leaf _ => depth ≤ 32
  | .sequence items => depth ≤ 32 && boundedItems (depth + 1) items
  | .mapping members => depth ≤ 32 && boundedMembers (depth + 1) members

def boundedItems (depth : Nat) : List (Tree String Scalar) → Bool
  | [] => true
  | item :: rest => boundedProfileJSON depth item && boundedItems depth rest

def boundedMembers (depth : Nat) : List (String × Tree String Scalar) → Bool
  | [] => true
  | (_, value) :: rest => boundedProfileJSON depth value && boundedMembers depth rest

end

def selectorCharacter (character : Char) : Bool :=
  ('A' ≤ character ∧ character ≤ 'Z') ∨ ('a' ≤ character ∧ character ≤ 'z') ∨
    ('0' ≤ character ∧ character ≤ '9')

/-- `^[A-Za-z0-9][A-Za-z0-9_.-]{0,63}$`. -/
def profileSelector (selector : String) : Bool :=
  match selector.toList with
  | [] => false
  | first :: rest =>
    selectorCharacter first && rest.length ≤ 63 && rest.all fun character =>
      selectorCharacter character || character = '_' || character = '.' || character = '-'

section Checks

variable (encoding : Encoding)

/-- The field loop of `validateExtraBody` with the bytes counted so far. -/
def validateExtraBodyFields :
    Nat → List (String × ParameterValue) → Except String Unit
  | _, [] => .ok ()
  | total, (name, value) :: rest => do
    refuse (trimSpace name = "" ∨ trimSpace name ≠ name ∨
        maxExtraBodyName < name.utf8ByteSize ∨ name.toList.any isControl)
      s!"invalid field name {quoted name}"
    refuse (protectedExtraBodyFields.contains (encoding.toLower name))
      s!"field {quoted name} is protocol-owned"
    refuse (maxExtraBodyValue < encoding.valueBytes value)
      s!"field {quoted name} is invalid JSON or exceeds {maxExtraBodyValue} bytes"
    refuse (maxExtraBodyBytes < total + (name.utf8ByteSize + encoding.valueBytes value))
      s!"fields exceed {maxExtraBodyBytes} bytes"
    validateExtraBodyFields (total + (name.utf8ByteSize + encoding.valueBytes value)) rest

def validateExtraBody (defaults : Parameters) : Except String Unit := do
  refuse (maxExtraBodyFields < defaults.entries.length)
    s!"too many fields: {defaults.entries.length} > {maxExtraBodyFields}"
  validateExtraBodyFields encoding 0 defaults.entries

def validateOperationOverrides (entry : String × Parameters) : Except String Unit := do
  requestStructureFields.forM fun key =>
    refuse (entry.2.get key).isSome
      s!"{entry.1}: request structure field {key} cannot be overridden"
  refuse (!overridableOperations.contains entry.1) s!"unsupported operation {quoted entry.1}"
  located entry.1 (validateExtraBody encoding entry.2)

def validateRequestOverrides (values : RequestParameters) : Except String Unit :=
  values.entries.forM (validateOperationOverrides encoding)

def validateOperationParameters (entry : String × Parameters) : Except String Unit := do
  entry.2.entries.forM fun parameter =>
    refuse (!boundedProfileJSON 4 parameter.2.1)
      "profile parameter JSON exceeds 32 nesting levels"
  refuse entry.2.entries.isEmpty
    "profile parameter objects cannot be empty; use supported_operations for an intentional no-op"
  entry.2.entries.forM fun parameter =>
    refuse (profileStateFields.contains (encoding.toLower parameter.1))
      s!"profile cannot override state or request structure field {parameter.1}"

/-- State and transport fields stay stable across candidates and retries. -/
def validateProfileParameters (values : RequestParameters) : Except String Unit := do
  validateRequestOverrides encoding values
  values.entries.forM (validateOperationParameters encoding)

/-- The source's `RequestParameters{op: nil}`. -/
def bareOperation (operation : String) : RequestParameters :=
  OrderedMap.empty.insert operation .empty

def validateSupportedOperations : List String → List String → Except String Unit
  | _, [] => .ok ()
  | seen, operation :: rest => do
    refuse (seen.contains operation) s!"duplicate supported operation {quoted operation}"
    validateRequestOverrides encoding (bareOperation operation)
    validateSupportedOperations (operation :: seen) rest

def validateProfileImplementation (entry : String × RequestProfileImplementation) :
    Except String Unit := do
  refuse (!profileSelector entry.1) s!"invalid profile selector {quoted entry.1}"
  refuse (entry.2.ingressOverrides.entries.isEmpty && entry.2.supportedOperations.isEmpty)
    s!"profile {entry.1} must declare supported_operations or ingress parameters"
  located s!"profile {entry.1} ingress"
    (validateProfileParameters encoding entry.2.ingressOverrides)
  located s!"profile {entry.1} upstream"
    (validateProfileParameters encoding entry.2.upstreamOverrides)
  validateSupportedOperations encoding [] entry.2.supportedOperations

def validateProfileImplementations
    (profiles : OrderedMap String RequestProfileImplementation) : Except String Unit := do
  refuse (64 < profiles.entries.length) "at most 64 request profiles allowed"
  refuse (262144 < encoding.profilesBytes profiles)
    "request profiles must be valid JSON within 256 KiB"
  profiles.entries.forM (validateProfileImplementation encoding)

def validateRemovals (entry : String × List String) : Except String Unit := do
  validateRequestOverrides encoding (bareOperation entry.1)
  refuse (64 < entry.2.length) "too many suppressed parameter paths"
  entry.2.forM fun path =>
    refuse (1024 < path.utf8ByteSize ∨ path.toList.head? ≠ some '/' ∨ path = "/")
      s!"invalid parameter pointer {quoted path}"

def validateProfilePatch (patch : RequestProfilePatch) : Except String Unit := do
  refuse (262144 < encoding.patchBytes patch) "profile patch exceeds 256 KiB"
  validateProfileParameters encoding patch.ingressOverrides
  validateProfileParameters encoding patch.upstreamOverrides
  patch.removeIngress.entries.forM (validateRemovals encoding)
  patch.removeUpstream.entries.forM (validateRemovals encoding)

end Checks

/-! ### Documents -/

inductive EndpointSourceType where
  | unset
  | static
  | discovered
  | activatable
  deriving DecidableEq

structure EndpointSource where
  type : EndpointSourceType := .unset
  controller : String := ""
  recipe : String := ""
  recipeRevision : String := ""
  deriving DecidableEq

/-- A deployment; `Other` holds the fields that only later checks read. -/
structure Deployment (Other : Type) extends Config.Deployment where
  endpointSource : EndpointSource := {}
  discoveryJobIDs : List String := []
  profileSource : Option RequestProfileSource := none
  requestProfiles : OrderedMap String RequestProfileImplementation := .empty
  other : Other

/-- A virtual model; `Settings` holds the fields that a profile copies whole. -/
structure VirtualModel (Settings : Type) where
  name : String
  aliases : List String := []
  profile : Option RequestProfileBinding := none
  requestOverrides : RequestParameters := .empty
  guardrails : GuardrailPolicy := {}
  privacy : Option PrivacyPolicy := none
  settings : Settings

/-- An operator overlay for one model: `none` keeps the settings of the model or of its
parent, the empty string disables the policy. -/
structure ModelPolicyAssignment where
  piiProfile : Option String := none
  guardrailProfile : Option String := none
  deriving DecidableEq

structure Document (Other Settings Rest : Type) where
  requestProfileSources : OrderedMap String RequestProfileSource := .empty
  piiProfiles : OrderedMap String PIIPolicy := .empty
  guardrailProfiles : OrderedMap String GuardrailPolicy := .empty
  modelPolicies : OrderedMap String ModelPolicyAssignment := .empty
  capabilityDefault : UnknownCapabilityPolicy := .unset
  providers : List Provider
  deployments : List (Deployment Other)
  virtualModels : List (VirtualModel Settings)
  rest : Rest

variable {Other Settings Rest : Type}

/-! ### Request profiles -/

def validateProfileSource (deployment : Deployment Other) : Except String Unit :=
  match deployment.profileSource with
  | none => .ok ()
  | some source => do
    refuse (deployment.endpointSource.controller ≠ "sparkrun" ∨
        deployment.endpointSource.type ≠ .activatable ∨
        source.recipe ≠ deployment.endpointSource.recipe ∨
        source.recipeRevision ≠ deployment.endpointSource.recipeRevision)
      "profile_source must match the deployment recipe binding"
    refuse (source.kind ≠ "" ∧ source.kind ≠ "recipe" ∧ source.kind ≠ "snapshot")
      "invalid profile source kind"

/-- The gateway's refreshed profiles replace the stored ones of the same source. -/
def refreshedProfiles (sources : OrderedMap String RequestProfileSource)
    (deployment : Deployment Other) : OrderedMap String RequestProfileImplementation :=
  match sources.get deployment.name, deployment.profileSource with
  | some source, some stored =>
    if source.recipe = stored.recipe ∧ source.recipeRevision = stored.recipeRevision ∧
        source.baselineRevision = stored.revision then
      source.profiles
    else
      deployment.requestProfiles
  | _, _ => deployment.requestProfiles

def resolveDeployment (encoding : Encoding)
    (sources : OrderedMap String RequestProfileSource) (deployment : Deployment Other) :
    Except String (Deployment Other) := do
  refuse (256 < deployment.discoveryJobIDs.length) "too many discovery job IDs"
  refuse (deployment.discoveryJobIDs ≠ [] ∧ deployment.endpointSource.type ≠ .discovered)
    "discovery_job_ids requires a discovered deployment"
  deployment.discoveryJobIDs.forM fun job =>
    located "invalid discovery job ID" (validateID job)
  validateProfileSource deployment
  let profiles := refreshedProfiles sources deployment
  located s!"deployment {deployment.name}" (validateProfileImplementations encoding profiles)
  .ok { deployment with requestProfiles := profiles }

/-- Later models of the same name win, as in the source's maps. -/
def modelNamed (models : List (VirtualModel Settings)) (name : String) :
    Option (VirtualModel Settings) :=
  models.reverse.find? fun model => model.name = name

/-- The parent's settings under the child's name, profile, parameters and aliases. -/
def VirtualModel.inherit (parent child : VirtualModel Settings)
    (binding : RequestProfileBinding) : VirtualModel Settings :=
  { parent with
    name := child.name
    profile := some binding
    requestOverrides := mergeOverrides parent.requestOverrides child.requestOverrides
    aliases := derivedAliases parent.name child.name parent.aliases child.aliases }

section Resolution

variable (encoding : Encoding)

def validateBinding (binding : RequestProfileBinding) (child : String) : Except String Unit := do
  refuse (!profileSelector binding.selector) s!"profile {child} has invalid selector"
  validateProfilePatch encoding binding.patch
  refuse (256 < binding.deploymentOverrides.entries.length)
    "too many deployment profile patches"
  binding.deploymentOverrides.entries.forM fun entry => validateProfilePatch encoding entry.2

/-- The model a profile takes its settings from. -/
def profileParent (models : List (VirtualModel Settings)) (child : VirtualModel Settings)
    (binding : RequestProfileBinding) : Except String (VirtualModel Settings) :=
  match modelNamed models binding.parent with
  | none =>
    .error s!"profile {child.name} requires a non-profile parent {quoted binding.parent}"
  | some parent =>
    if parent.profile.isSome ∨ child.name = binding.parent then
      .error s!"profile {child.name} requires a non-profile parent {quoted binding.parent}"
    else
      .ok parent

def inheritProfile (models : List (VirtualModel Settings)) (child : VirtualModel Settings) :
    Except String (VirtualModel Settings) :=
  match child.profile with
  | none => .ok child
  | some binding => do
    validateProfileParameters encoding child.requestOverrides
    let parent ← profileParent models child binding
    validateBinding encoding binding child.name
    .ok (parent.inherit child binding)

def Document.resolveRequestProfiles (document : Document Other Settings Rest) :
    Except String (Document Other Settings Rest) := do
  let deployments ← document.deployments.mapM
    (resolveDeployment encoding document.requestProfileSources)
  let models ← document.virtualModels.mapM (inheritProfile encoding document.virtualModels)
  .ok { document with
    deployments := deployments
    virtualModels := models }

end Resolution

/-! ### Policy assignments -/

def validatePIIProfile (entry : String × PIIPolicy) : Except String Unit := do
  located s!"pii_profiles[{quoted entry.1}]" (validateID entry.1)
  validatePrivacy s!"pii_profiles[{quoted entry.1}]" (some { pii := some entry.2 })

/-- The canonical model behind an alias; later models win. -/
def aliasOwner (models : List (VirtualModel Settings)) (name : String) : Option String :=
  (models.reverse.find? fun model => model.aliases.contains name).map (·.name)

def danglingReference {Policy : Type} (profiles : OrderedMap String Policy)
    (reference : String) : Bool :=
  reference ≠ "" && (profiles.get reference).isNone

def validateModelPolicy (document : Document Other Settings Rest)
    (entry : String × ModelPolicyAssignment) : Except String Unit := do
  let path := s!"model_policies[{quoted entry.1}]"
  located path (validateID entry.1)
  match aliasOwner document.virtualModels entry.1 with
  | some parent =>
    refuse (parent ≠ entry.1)
      s!"{path}: use canonical virtual model {quoted parent} instead of its alias"
  | none => .ok ()
  match entry.2.piiProfile with
  | some reference =>
    refuse (danglingReference document.piiProfiles reference)
      s!"{path}.pii_profile: unknown profile {quoted reference}"
  | none => .ok ()
  match entry.2.guardrailProfile with
  | some reference =>
    refuse (danglingReference document.guardrailProfiles reference)
      s!"{path}.guardrail_profile: unknown profile {quoted reference}"
  | none => .ok ()

namespace ModelPolicyAssignment

/-- The nearer assignment takes priority field by field. -/
def orElse (nearer further : ModelPolicyAssignment) : ModelPolicyAssignment where
  piiProfile := nearer.piiProfile <|> further.piiProfile
  guardrailProfile := nearer.guardrailProfile <|> further.guardrailProfile

/-- The assignment stored under a name; a missing entry assigns nothing. -/
def stored (policies : OrderedMap String ModelPolicyAssignment) (name : String) :
    ModelPolicyAssignment :=
  (policies.get name).getD {}

end ModelPolicyAssignment

def policyParent (child : VirtualModel Settings) : Option String :=
  match child.profile with
  | some binding => if binding.parent = "" then beforeLastColon child.name
      else some binding.parent
  | none => beforeLastColon child.name

/-- Walk to the parents, where the nearest assignment takes priority.  Every
iteration visits a new model name, so the walk is shorter than the model list. -/
def inheritedPolicy (models : List (VirtualModel Settings))
    (policies : OrderedMap String ModelPolicyAssignment) (model : String) :
    Nat → List String → VirtualModel Settings → ModelPolicyAssignment →
      Except String ModelPolicyAssignment
  | 0, _, _, _ => .error s!"model {quoted model} has cyclic profile policy inheritance"
  | fuel + 1, visited, child, assignment =>
    if child.requestOverrides.entries.isEmpty && child.profile.isNone then
      .ok assignment
    else if visited.contains child.name then
      .error s!"model {quoted model} has cyclic profile policy inheritance"
    else
      match (policyParent child).bind (modelNamed models) with
      | none => .ok assignment
      | some parent =>
        inheritedPolicy models policies model fuel (child.name :: visited) parent
          (assignment.orElse (.stored policies parent.name))

def effectivePolicy (models : List (VirtualModel Settings))
    (policies : OrderedMap String ModelPolicyAssignment) (model : VirtualModel Settings) :
    Except String ModelPolicyAssignment :=
  inheritedPolicy models policies model.name (models.length + 2) [] model
    (.stored policies model.name)

structure PolicyProfiles where
  pii : OrderedMap String PIIPolicy
  guardrail : OrderedMap String GuardrailPolicy

namespace PolicyProfiles

variable (profiles : PolicyProfiles)

def privacy (assignment : ModelPolicyAssignment) (current : Option PrivacyPolicy) :
    Option PrivacyPolicy :=
  match assignment.piiProfile with
  | none => current
  | some reference =>
    some { current.getD {} with
      pii := some (if reference = "" then { mode := .word .disabled }
        else (profiles.pii.get reference).getD {}) }

def guardrails (assignment : ModelPolicyAssignment) (current : GuardrailPolicy) : GuardrailPolicy :=
  match assignment.guardrailProfile with
  | none => current
  | some reference =>
    if reference = "" then {} else (profiles.guardrail.get reference).getD {}

end PolicyProfiles

def VirtualModel.withPolicies (model : VirtualModel Settings)
    (privacy : Option PrivacyPolicy) (guardrails : GuardrailPolicy) : VirtualModel Settings :=
  { model with
    privacy := privacy
    guardrails := guardrails }

def VirtualModel.assigned (profiles : PolicyProfiles) (assignment : ModelPolicyAssignment)
    (model : VirtualModel Settings) : VirtualModel Settings :=
  model.withPolicies (profiles.privacy assignment model.privacy)
    (profiles.guardrails assignment model.guardrails)

namespace Document

variable (encoding : Encoding)

variable (document : Document Other Settings Rest)

def policyProfiles : PolicyProfiles where
  pii := document.piiProfiles
  guardrail := document.guardrailProfiles

def assignPolicy (model : VirtualModel Settings) :
    Except String (VirtualModel Settings) := do
  let assignment ← effectivePolicy document.virtualModels document.modelPolicies model
  .ok (model.assigned document.policyProfiles assignment)

def validatePolicies : Except String Unit := do
  refuse (256 < document.piiProfiles.entries.length ∨
      256 < document.guardrailProfiles.entries.length ∨
      4096 < document.modelPolicies.entries.length)
    "policy profiles: at most 256 profiles of each type and 4096 model assignments are supported"
  (sortedPolicyNames document.piiProfiles.entries).forM validatePIIProfile
  (sortedPolicyNames document.guardrailProfiles.entries).forM validateGuardrailProfile
  (sortedPolicyNames document.modelPolicies.entries).forM (validateModelPolicy document)

def resolveModelPolicies (authored : Document Other Settings Rest) :
    Except String (Document Other Settings Rest) := do
  let document ← authored.resolveRequestProfiles encoding
  document.validatePolicies
  let models ← document.virtualModels.mapM document.assignPolicy
  .ok { document with virtualModels := models }

/-! ### Validation and compilation -/

def resolveCapabilityPolicies
    (editionDefault : UnknownCapabilityPolicy) : Document Other Settings Rest :=
  let edition := if editionDefault = .unset then .attempt else editionDefault
  let globalDefault :=
    if document.capabilityDefault = .unset then edition else document.capabilityDefault
  let providers : Config.Document :=
    { providers := document.providers, deployments := [], virtualModels := [] }
  { document with
    deployments := document.deployments.map fun deployment =>
      { deployment with
        toDeployment :=
          resolveDeploymentCapabilities providers globalDefault deployment.toDeployment } }

variable (overrides : Rest → Except String Unit)
  (checks : Document Other Settings Rest → Except String Unit)

/-- `overrides` is the check of the Sparkrun overrides; `checks` is everything that
validation does with the resolved document. -/
def validate (document : Document Other Settings Rest) : Except String Unit := do
  overrides document.rest
  let resolved ← document.resolveModelPolicies encoding
  checks (resolved.resolveCapabilityPolicies .attempt)

/-- The snapshot is built from the validated document, which is what is left of it here. -/
def compile (document : Document Other Settings Rest) :
    Except String (Document Other Settings Rest) := do
  let resolved ← document.resolveModelPolicies encoding
  let document := resolved.resolveCapabilityPolicies .attempt
  document.validate encoding overrides checks
  .ok document

end Document

end SparkRoute.Config.Profiles
