import SparkRoute.Config.Capabilities
import SparkRoute.Lib.Checked

/-!
# Request profiles and policy assignments

A request profile is a virtual model that takes its routing from a parent, and
guardrail profiles are assigned to models by name.  Both are resolved into the
models before a document is validated or compiled.
-/

namespace SparkRoute.Config

open Lib

def minGuardrailWindow : Int := 1024

def maxGuardrailWindow : Int := 1048576

def maxGuardrailContext : Int := 4194304

def maxGuardrails : Nat := 8

def maxGuardrailPrompt : Nat := 16384

def validateGuardrailStream (path : String) (policy : GuardrailPolicy) : Except String Unit :=
  match policy.stream with
  | none => .ok ()
  | some stream =>
    if policy.post = [] then
      .error s!"{path}.stream: requires at least one post guardrail"
    else if stream.windowBytes ≠ 0 ∧ (stream.windowBytes < minGuardrailWindow ∨
        maxGuardrailWindow < stream.windowBytes) then
      .error s!"{path}.stream.window_bytes: must be zero or between {minGuardrailWindow} and {maxGuardrailWindow}"
    else if stream.contextBytes < 0 ∨ maxGuardrailContext < stream.contextBytes then
      .error s!"{path}.stream.context_bytes: must be between zero and {maxGuardrailContext}"
    else
      .ok ()

/-- One phase of the guardrail scan; the names seen so far are passed on. -/
def validateGuardrailPhase (path : String) (knownModel : String → Bool) :
    Nat → List String → List Guardrail → Except String (List String)
  | _, names, [] => .ok names
  | index, names, guardrail :: rest => do
    let entryPath := s!"{path}[{index}]"
    located s!"{entryPath}.name" (validateID guardrail.name)
    refuse (names.contains guardrail.name)
      s!"{entryPath}.name: duplicate guardrail name {quoted guardrail.name}"
    located s!"{entryPath}.model" (validateID guardrail.model)
    refuse (!knownModel guardrail.model)
      s!"{entryPath}.model: unknown virtual model or alias {quoted guardrail.model}"
    refuse (maxGuardrailPrompt < guardrail.prompt.utf8ByteSize)
      s!"{entryPath}.prompt: must not exceed {maxGuardrailPrompt} bytes"
    validateGuardrailPhase path knownModel (index + 1) (guardrail.name :: names) rest

def validateGuardrails (path : String) (policy : GuardrailPolicy)
    (knownModel : String → Bool) : Except String Unit := do
  validateGuardrailStream path policy
  refuse (maxGuardrails < policy.pre.length)
    s!"{path}.pre: must not contain more than {maxGuardrails} entries"
  let names ← validateGuardrailPhase s!"{path}.pre" knownModel 0 [] policy.pre
  refuse (maxGuardrails < policy.post.length)
    s!"{path}.post: must not contain more than {maxGuardrails} entries"
  let _ ← validateGuardrailPhase s!"{path}.post" knownModel 0 names policy.post

/-- Later models of the same name win, as in the source's maps. -/
def modelNamed (models : List VirtualModel) (name : String) : Option VirtualModel :=
  models.reverse.find? fun model => model.name = name

/-- `strings.CutPrefix`. -/
def cutPrefix (lead value : String) : Option String :=
  if lead.toList.isPrefixOf value.toList then
    some (String.ofList (value.toList.drop lead.toList.length))
  else
    none

def derivedAliases (parentName childName : String) (parentAliases aliases : List String) :
    List String :=
  match cutPrefix (parentName ++ ":") childName with
  | none => aliases
  | some suffix =>
    parentAliases.foldl
      (fun aliases alternative =>
        let derived := alternative ++ ":" ++ suffix
        if aliases.contains derived then aliases else aliases ++ [derived])
      aliases

/-- One iteration of `ResolveRequestProfiles` over the virtual models. -/
def inheritProfile (models : List VirtualModel) (child : VirtualModel) :
    Except String VirtualModel :=
  match child.profile with
  | none => .ok child
  | some binding =>
    match modelNamed models binding.parent with
    | none =>
      .error s!"profile {child.name} requires a non-profile parent {quoted binding.parent}"
    | some parent =>
      if parent.profile.isSome ∨ child.name = binding.parent then
        .error s!"profile {child.name} requires a non-profile parent {quoted binding.parent}"
      else
        .ok { parent with
          name := child.name
          profile := some binding
          requestOverrides := parent.requestOverrides ++
            child.requestOverrides.filter fun operation =>
              !parent.requestOverrides.contains operation
          aliases := derivedAliases parent.name child.name parent.aliases child.aliases }

def Document.resolveRequestProfiles (document : Document) : Except String Document := do
  let models ← document.virtualModels.mapM (inheritProfile document.virtualModels)
  .ok { document with virtualModels := models }

def sortedPolicyNames {Value : Type} (entries : List (String × Value)) : List (String × Value) :=
  entries.mergeSort fun first second => first.1 ≤ second.1

def validateGuardrailProfile (entry : String × GuardrailPolicy) : Except String Unit := do
  located s!"guardrail_profiles[{quoted entry.1}]" (validateID entry.1)
  validateGuardrails s!"guardrail_profiles[{quoted entry.1}]" entry.2
    fun model => (entry.2.pre ++ entry.2.post).any fun guardrail => guardrail.model = model

/-- The canonical model behind an alias; later models win. -/
def aliasOwner (models : List VirtualModel) (name : String) : Option String :=
  (models.reverse.find? fun model => model.aliases.contains name).map (·.name)

def validateModelPolicy (document : Document) (entry : String × Option String) :
    Except String Unit := do
  let path := s!"model_policies[{quoted entry.1}]"
  located path (validateID entry.1)
  match aliasOwner document.virtualModels entry.1 with
  | some parent =>
    refuse (parent ≠ entry.1)
      s!"{path}: use canonical virtual model {quoted parent} instead of its alias"
  | none => .ok ()
  match entry.2 with
  | some reference =>
    refuse (reference ≠ "" ∧ (document.guardrailProfiles.lookup reference).isNone)
      s!"{path}.guardrail_profile: unknown profile {quoted reference}"
  | none => .ok ()

def beforeLastColon (name : String) : Option String :=
  if name.toList.contains ':' then
    some (String.ofList ((name.toList.reverse.dropWhile (· ≠ ':')).drop 1).reverse)
  else
    none

def policyParent (child : VirtualModel) : Option String :=
  match child.profile with
  | some binding => if binding.parent = "" then beforeLastColon child.name
      else some binding.parent
  | none => beforeLastColon child.name

/-- Walk to the parents, where the nearest assignment takes priority.  Every
iteration visits a new model name, so the walk is shorter than the model list. -/
def inheritedPolicy (document : Document) (model : String) :
    Nat → List String → VirtualModel → Option String → Except String (Option String)
  | 0, _, _, _ => .error s!"model {quoted model} has cyclic profile policy inheritance"
  | fuel + 1, visited, child, assignment =>
    if child.requestOverrides = [] ∧ child.profile.isNone then
      .ok assignment
    else if visited.contains child.name then
      .error s!"model {quoted model} has cyclic profile policy inheritance"
    else
      match (policyParent child).bind (modelNamed document.virtualModels) with
      | none => .ok assignment
      | some parent =>
        inheritedPolicy document model fuel (child.name :: visited) parent
          (assignment <|> (document.modelPolicies.lookup parent.name).join)

def assignPolicy (document : Document) (model : VirtualModel) :
    Except String VirtualModel := do
  let assignment ← inheritedPolicy document model.name (document.virtualModels.length + 2)
    [] model (document.modelPolicies.lookup model.name).join
  match assignment with
  | none => .ok model
  | some reference =>
    .ok { model with
      guardrails := if reference = "" then {}
        else (document.guardrailProfiles.lookup reference).getD {} }

def Document.resolveModelPolicies (authored : Document) : Except String Document := do
  let document ← authored.resolveRequestProfiles
  refuse (256 < document.guardrailProfiles.length ∨ 4096 < document.modelPolicies.length)
    "policy profiles: at most 256 profiles of each type and 4096 model assignments are supported"
  (sortedPolicyNames document.guardrailProfiles).forM validateGuardrailProfile
  (sortedPolicyNames document.modelPolicies).forM (validateModelPolicy document)
  let models ← document.virtualModels.mapM (assignPolicy document)
  .ok { document with virtualModels := models }

end SparkRoute.Config
