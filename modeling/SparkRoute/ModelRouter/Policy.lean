import SparkRoute.Config.Identifier
import SparkRoute.Lib.Checked
import SparkRoute.Lib.OrderedMap

/-!
# Routing policies

The policy of the model router: virtual models with aliases and presets, model metadata
and keyword rules.  `validateRoutingPolicy` is the check that every published policy
passes, and `compileRoutingPolicy` builds the index that a request is looked up in.
Maps are visited in the order of their lists; the source visits them in any order.
-/

namespace SparkRoute.ModelRouter

open Lib Config

inductive Strategy where
  | random
  | roundRobin
  | weightedRoundRobin
  | smallest
  | largest
  | lowestCost
  | fastest
  | balanced
  | stageRouter
  | other (name : String)
  deriving DecidableEq

namespace Strategy

def text : Strategy → String
  | random => "random"
  | roundRobin => "round_robin"
  | weightedRoundRobin => "weighted_round_robin"
  | smallest => "smallest"
  | largest => "largest"
  | lowestCost => "lowest_cost"
  | fastest => "fastest"
  | balanced => "balanced"
  | stageRouter => "stage_router"
  | other name => name

/-- The entries of `strategies`. -/
def supported : List Strategy :=
  [random, roundRobin, weightedRoundRobin, smallest, largest, lowestCost, fastest, balanced,
    stageRouter]

def ofText (name : String) : Strategy :=
  (supported.find? fun strategy => strategy.text == name).getD (other name)

/-- `strategies[strategy]`. -/
def known (strategy : Strategy) : Bool := supported.contains strategy

end Strategy

/-- A JSON value of a preset. -/
inductive Setting where
  | text (value : String)
  | list (items : List Setting)
  | other (json : String)

abbrev Kwargs := OrderedMap String Setting

inductive StagePicker where
  | unset
  | efficientFirst
  | capableFirst
  | other (name : String)
  deriving DecidableEq

structure StageRouterPolicy (F : Type) where
  capableModel : String
  efficientModel : String
  picker : StagePicker := .unset
  confidenceThreshold : Option F := none
  recentTurnWindow : Int := 0

structure MMProjectionPolicy where
  analyzerModel : String
  failureMode : String
  timeoutMS : Int
  deriving DecidableEq

/-- `kwargs` holds the presets; `none` is a nil object. -/
structure VirtualModel (F : Type) where
  strategy : Strategy
  models : List String := []
  aliases : List String := []
  kwargs : OrderedMap String (Option Kwargs) := .empty
  stageRouter : Option (StageRouterPolicy F) := none
  mmProjection : Option MMProjectionPolicy := none

structure ModelMetadata (F : Type) where
  enabled : Bool
  weight : Int
  priority : Int
  sizeB : F
  inputPrice : F
  outputPrice : F
  context : Int
  tags : List String
  mmProjection : Option MMProjectionPolicy
  mmProjectionDisabled : Bool
  discoveryDisabled : Bool

structure KeywordRule where
  name : String
  keywords : List String
  matchAll : Bool
  strategy : Strategy
  models : List String
  virtualModel : String

structure RoutingPolicy (F : Type) where
  version : Int
  revision : Nat
  defaultVirtualModel : String
  virtualModels : OrderedMap String (VirtualModel F)
  models : OrderedMap String (ModelMetadata F)
  keywordRules : List KeywordRule

/-- The arithmetic of `float64`, the case mapping of a character and the size of a
marshalled object. -/
structure Platform (F : Type) where
  decimal : Int → Nat → F
  ofInt : Int → F
  add : F → F → F
  sub : F → F → F
  mul : F → F → F
  div : F → F → F
  max : F → F → F
  neg : F → F
  abs : F → F
  tanh : F → F
  infinity : F
  smallestNonzero : F
  less : F → F → Bool
  lessEq : F → F → Bool
  equal : F → F → Bool
  isNaN : F → Bool
  isInf : F → Bool
  fixed : Nat → F → String
  lower : Char → Char
  marshalled : Kwargs → Option Nat
  decimal_distinct : decimal 0 0 ≠ decimal 1 0
  zero_below_one : lessEq (decimal 1 0) (decimal 0 0) = false

section

variable {F : Type} (platform : Platform F)

namespace Platform

def zero : F := platform.decimal 0 0

def one : F := platform.decimal 1 0

def half : F := platform.decimal 5 1

def toLower (text : String) : String := String.ofList (text.toList.map platform.lower)

end Platform

/-! ### Limits -/

def routingPolicyVersion : Int := 2
def maxRoutingVirtualModels : Nat := 256
def maxRoutingModels : Nat := 4096
def maxRoutingKeywordRules : Nat := 256
def maxRoutingCandidateModels : Nat := 4096
def maxRoutingKeywordsPerRule : Nat := 128
def maxRoutingTagsPerModel : Nat := 128
def maxRoutingPublicEndpoints : Nat := 4096

/-! ### Texts -/

def hasControlCharacter (value : String) : Bool :=
  value.toList.any fun character => character.toNat < 32 || character.toNat == 127

def invalidText (limit : Nat) (value : String) : Bool :=
  trimSpace value == "" || limit < value.utf8ByteSize || hasControlCharacter value

def letterOrDigit (character : Char) : Bool :=
  ('a' ≤ character && character ≤ 'z') || ('A' ≤ character && character ≤ 'Z') ||
    ('0' ≤ character && character ≤ '9')

def lowerOrDigit (character : Char) : Bool :=
  ('a' ≤ character && character ≤ 'z') || ('0' ≤ character && character ≤ '9')

/-- A first character of one kind, then that kind or a mark. -/
def validIdentifier (plain mark : Char → Bool) (value : String) : Bool :=
  match value.toList with
  | [] => false
  | first :: rest =>
    plain first && (rest.all fun character => plain character || mark character) &&
      value.utf8ByteSize ≤ 64

def validRoutingPresetName (value : String) : Bool :=
  validIdentifier letterOrDigit
    (fun character => character == '-' || character == '_' || character == '.') value

def validBackendID (id : String) : Bool :=
  validIdentifier lowerOrDigit (fun character => character == '-' || character == '_') id

/-! ### Presets -/

namespace Setting

def strings : List Setting → Option (List String)
  | [] => some []
  | .text value :: rest => (strings rest).map (value :: ·)
  | _ :: _ => none

end Setting

/-- Trims the items and drops repeated ones; one bad item fails the list. -/
def normalizeList (seen : List String) : List String → Option (List String)
  | [] => some []
  | raw :: rest =>
    let item := trimSpace raw
    if item == "" || 256 < item.utf8ByteSize || hasControlCharacter item then none
    else if seen.contains item then normalizeList seen rest
    else (normalizeList (item :: seen) rest).map (item :: ·)

def splitComma (value : String) : List String :=
  (value.toList.splitOn ',').map String.ofList

def routingStringList (value : Setting) (allowCSV : Bool) : Option (List String) :=
  match value with
  | .text text => if allowCSV then normalizeList [] (splitComma text) else none
  | .list items =>
    match Setting.strings items with
    | none => none
    | some input => normalizeList [] input
  | .other _ => none

/-- The strategy that a preset names, if it is supported. -/
def strategyKwarg (kwargs : Kwargs) : Option Strategy :=
  match kwargs.get "strategy" with
  | some (.text name) =>
    if (Strategy.ofText name).known then some (Strategy.ofText name) else none
  | _ => none

def modelsKwarg (kwargs : Kwargs) : Option (List String) :=
  match kwargs.get "models" with
  | none => none
  | some raw =>
    match routingStringList raw false with
    | none => none
    | some names => if names = [] then none else some names

/-! ### Validation -/

def validateModelsFrom (models : OrderedMap String (ModelMetadata F)) (seen : List String) :
    List String → Except String Unit
  | [] => .ok ()
  | name :: rest => do
    refuse (seen.contains name) s!"duplicate model {quoted name}"
    refuse (models.get name).isNone s!"unknown model {quoted name}"
    validateModelsFrom models (name :: seen) rest

def validateModels (names : List String) (models : OrderedMap String (ModelMetadata F)) :
    Except String Unit :=
  validateModelsFrom models [] names

def StagePicker.effective : StagePicker → StagePicker
  | .unset => .efficientFirst
  | picker => picker

namespace StageRouterPolicy

def effectivePicker (policy : StageRouterPolicy F) : StagePicker := policy.picker.effective

def effectiveThreshold (policy : StageRouterPolicy F) : F :=
  policy.confidenceThreshold.getD platform.half

def effectiveWindow (policy : StageRouterPolicy F) : Int :=
  if policy.recentTurnWindow ≤ 0 then 3 else policy.recentTurnWindow

end StageRouterPolicy

def validateStageSettings (virtual : VirtualModel F) (policy : StageRouterPolicy F) :
    Except String Unit := do
  refuse (policy.capableModel == "" || policy.efficientModel == "" ||
      policy.capableModel == policy.efficientModel)
    "stage_router requires distinct capable_model and efficient_model values"
  refuse (virtual.models.length ≠ 2 || !virtual.models.contains policy.capableModel ||
      !virtual.models.contains policy.efficientModel)
    "stage_router models must contain exactly capable_model and efficient_model"
  refuse (policy.effectivePicker ≠ .efficientFirst && policy.effectivePicker ≠ .capableFirst)
    "stage_router picker must be efficient_first or capable_first"
  refuse (platform.isNaN (policy.effectiveThreshold platform) ||
      platform.isInf (policy.effectiveThreshold platform) ||
      platform.less (policy.effectiveThreshold platform) platform.zero ||
      platform.less platform.one (policy.effectiveThreshold platform))
    "stage_router confidence_threshold must be between 0 and 1"
  refuse (policy.recentTurnWindow < 0 || 32 < policy.recentTurnWindow)
    "stage_router recent_turn_window must be between 1 and 32, or 0 for the default"

def validateStageRouterPolicy (virtual : VirtualModel F) : Except String Unit :=
  if virtual.strategy ≠ .stageRouter then
    refuse virtual.stageRouter.isSome "stage_router settings require strategy stage_router"
  else
    match virtual.stageRouter with
    | none => .error "strategy stage_router requires stage_router settings"
    | some policy => validateStageSettings platform virtual policy

def validateMMProjectionPolicy : Option MMProjectionPolicy → Except String Unit
  | none => .ok ()
  | some policy => do
    let mode := if trimSpace policy.failureMode = "" then "fallback"
      else trimSpace policy.failureMode
    refuse (mode ≠ "fallback" && mode ≠ "fail_closed")
      "mm_projection failure_mode must be fallback or fail_closed"
    refuse (policy.timeoutMS ≠ 0 && (policy.timeoutMS < 1000 || 900000 < policy.timeoutMS))
      "mm_projection timeout_ms must be between 1000 and 900000"
    refuse (256 < (trimSpace policy.analyzerModel).utf8ByteSize ||
        hasControlCharacter (trimSpace policy.analyzerModel))
      "mm_projection analyzer_model must be at most 256 characters without control characters"

def validateStrategyKwarg (kwargs : Kwargs) : Except String Unit :=
  refuse ((kwargs.get "strategy").isSome && (strategyKwarg kwargs).isNone)
    "strategy kwarg must name a supported Go fallback strategy"

def validateModelsKwarg (kwargs : Kwargs) (models : OrderedMap String (ModelMetadata F)) :
    Except String Unit := do
  refuse ((kwargs.get "models").isSome && (modelsKwarg kwargs).isNone)
    "models kwarg must be a non-empty list of model IDs"
  match modelsKwarg kwargs with
  | none => .ok ()
  | some names => validateModels names models

def validateProviderKwarg (kwargs : Kwargs) : Except String Unit :=
  match kwargs.get "provider_priority" with
  | none => .ok ()
  | some raw =>
    match routingStringList raw true with
    | none =>
      .error "provider_priority kwarg must be a provider ID or bounded list of provider IDs"
    | some providers => do
      refuse (providers.length == 0 || 64 < providers.length)
        "provider_priority kwarg must be a provider ID or bounded list of provider IDs"
      providers.forM fun provider =>
        refuse (!validBackendID (platform.toLower (trimSpace provider)))
          s!"provider_priority contains invalid provider {quoted provider}"

def validateRoutingKwargs (kwargs : Kwargs) (models : OrderedMap String (ModelMetadata F)) :
    Except String Unit := do
  refuse (64 < kwargs.entries.length) "kwargs object has more than 64 keys"
  refuse ((platform.marshalled kwargs).all fun size => 65536 < size)
    "kwargs object must be JSON and at most 64 KiB"
  kwargs.keys.forM fun key =>
    refuse (invalidText 128 key) s!"invalid kwargs key {quoted key}"
  validateStrategyKwarg kwargs
  validateModelsKwarg kwargs models
  validateProviderKwarg platform kwargs

def validatePreset (virtual : VirtualModel F) (models : OrderedMap String (ModelMetadata F))
    (kwargs : Kwargs) : Except String Unit := do
  validateRoutingKwargs platform kwargs models
  refuse (virtual.strategy == .stageRouter && (kwargs.get "strategy").isSome)
    "stage_router presets cannot override strategy"
  refuse (virtual.strategy == .stageRouter && (kwargs.get "models").isSome)
    "stage_router presets cannot override models"

def validateVirtualModel (models : OrderedMap String (ModelMetadata F)) (name : String)
    (virtual : VirtualModel F) : Except String Unit := do
  let subject := s!"virtual model {quoted name}"
  refuse (!virtual.strategy.known)
    s!"{subject}: unknown strategy {quoted virtual.strategy.text}"
  refuse (maxRoutingCandidateModels < virtual.models.length)
    s!"{subject} has more than {maxRoutingCandidateModels} candidates"
  located subject (validateModels virtual.models models)
  located subject (validateStageRouterPolicy platform virtual)
  virtual.kwargs.entries.forM fun preset =>
    located s!"{subject} kwargs {quoted preset.1}"
      (validatePreset platform virtual models (preset.2.getD .empty))
  located subject (validateMMProjectionPolicy virtual.mmProjection)

def invalidNumber (value : F) : Bool :=
  platform.less value platform.zero || platform.isNaN value || platform.isInf value

def validateMetadata (name : String) (metadata : ModelMetadata F) : Except String Unit := do
  refuse (invalidText 256 name) s!"model metadata has invalid model name {quoted name}"
  refuse (metadata.weight < 0 || 10000 < metadata.weight)
    s!"model {quoted name} weight must be between 0 and 10000"
  refuse (invalidNumber platform metadata.inputPrice ||
      invalidNumber platform metadata.outputPrice || invalidNumber platform metadata.sizeB ||
      metadata.context < 0)
    s!"model {quoted name} has invalid numeric metadata"
  refuse (maxRoutingTagsPerModel < metadata.tags.length)
    s!"model {quoted name} has more than {maxRoutingTagsPerModel} tags"
  metadata.tags.forM fun tag =>
    refuse (invalidText 128 tag) s!"model {quoted name} has invalid tag {quoted tag}"
  located s!"model {quoted name}" (validateMMProjectionPolicy metadata.mmProjection)
  refuse (metadata.mmProjectionDisabled && metadata.mmProjection.isSome)
    s!"model {quoted name}: mm_projection and mm_projection_disabled cannot both be set"

variable (policy : RoutingPolicy F)

/-- What a rule selects: a virtual model, or a strategy over models. -/
def validateRuleTarget (subject : String) (rule : KeywordRule) :
    Except String Unit :=
  if rule.virtualModel ≠ "" then do
    refuse (policy.virtualModels.get rule.virtualModel).isNone
      s!"{subject} references unknown virtual model {quoted rule.virtualModel}"
    refuse (rule.strategy ≠ .other "" || rule.models ≠ [])
      s!"{subject} mixes virtual_model with strategy/models"
  else do
    refuse (rule.strategy == .stageRouter)
      (s!"{subject}: stage_router must be selected through virtual_model " ++
        "so its two-tier policy is retained")
    refuse (!rule.strategy.known) s!"{subject} has unknown strategy {quoted rule.strategy.text}"
    located subject (validateModels rule.models policy.models)

def validateRule (index : Nat) (rule : KeywordRule) :
    Except String Unit := do
  let subject := s!"rule {index}"
  refuse (rule.keywords.length == 0) s!"{subject} has no keywords"
  refuse (maxRoutingKeywordsPerRule < rule.keywords.length)
    s!"{subject} has more than {maxRoutingKeywordsPerRule} keywords"
  refuse (maxRoutingCandidateModels < rule.models.length)
    s!"{subject} has more than {maxRoutingCandidateModels} candidates"
  rule.keywords.forM fun keyword => refuse (invalidText 256 keyword) s!"{subject} has empty keyword"
  validateRuleTarget policy subject rule

/-! ### The selector namespace -/

def containsColon (value : String) : Bool := value.toList.contains ':'

def invalidAlias (aliasName : String) : Bool :=
  trimSpace aliasName == "" || trimSpace aliasName ≠ aliasName || 256 < aliasName.utf8ByteSize ||
    containsColon aliasName || hasControlCharacter aliasName

/-- Registers the aliases of one virtual model; `owners` maps a name to its virtual model. -/
def claimAliases (name : String) (owners : OrderedMap String String) :
    List String → Except String (OrderedMap String String)
  | [] => .ok owners
  | aliasName :: rest => do
    refuse (invalidAlias aliasName)
      s!"virtual model {quoted name} has invalid alias {quoted aliasName}"
    match owners.get aliasName with
    | some owner =>
      .error (s!"virtual alias {quoted aliasName} conflicts with virtual model or alias " ++
        s!"owned by {quoted owner}")
    | none => claimAliases name (owners.insert aliasName name) rest

def endpoints (name : String) (virtual : VirtualModel F) : List String := name :: virtual.aliases

/-- The names that the presets of a virtual model add. -/
def validatePresetNames (name : String) (virtual : VirtualModel F) :
    Except String Unit :=
  virtual.kwargs.entries.forM fun preset => do
    refuse (!validRoutingPresetName preset.1 || preset.2.isNone)
      s!"virtual model {quoted name} has invalid kwargs preset {quoted preset.1}"
    (endpoints name virtual).forM fun endpoint =>
      refuse (policy.virtualModels.get (endpoint ++ ":" ++ preset.1)).isSome
        ("virtual kwargs endpoint " ++ quoted (endpoint ++ ":" ++ preset.1) ++
          " conflicts with a virtual model")

/-- One round of the loop of `validateVirtualNamespace`: the owners and the endpoints so far. -/
def claimNames (claimed : OrderedMap String String × Nat)
    (entry : String × VirtualModel F) : Except String (OrderedMap String String × Nat) := do
  let virtual := entry.2
  refuse (64 < virtual.aliases.length)
    s!"virtual model {quoted entry.1} has more than 64 aliases"
  let owners ← claimAliases entry.1 claimed.1 virtual.aliases
  refuse (64 < virtual.kwargs.entries.length)
    s!"virtual model {quoted entry.1} has more than 64 kwargs presets"
  let total := claimed.2 + (1 + virtual.aliases.length) * (1 + virtual.kwargs.entries.length)
  refuse (maxRoutingPublicEndpoints < total)
    s!"virtual namespace publishes more than {maxRoutingPublicEndpoints} endpoints"
  validatePresetNames policy entry.1 virtual
  .ok (owners, total)

def invalidVirtualName (name : String) : Bool :=
  invalidText 256 name || containsColon name

def validateVirtualNamespace : Except String Unit := do
  policy.virtualModels.keys.forM fun name =>
    refuse (invalidVirtualName name) s!"virtual model {quoted name} has an invalid name"
  let owners := policy.virtualModels.keys.foldl (fun owners name => owners.insert name name) .empty
  let _ ← policy.virtualModels.entries.foldlM (claimNames policy) (owners, 0)
  .ok ()

def validateRoutingPolicy : Except String Unit := do
  refuse (policy.version ≠ routingPolicyVersion)
    s!"unsupported routing policy version {policy.version}"
  refuse (policy.virtualModels.entries.length == 0) "at least one virtual model is required"
  refuse (maxRoutingVirtualModels < policy.virtualModels.entries.length)
    (s!"routing policy has {policy.virtualModels.entries.length} virtual models; " ++
      s!"maximum is {maxRoutingVirtualModels}")
  refuse (maxRoutingModels < policy.models.entries.length)
    (s!"routing policy has {policy.models.entries.length} model metadata entries; " ++
      s!"maximum is {maxRoutingModels}")
  refuse (maxRoutingKeywordRules < policy.keywordRules.length)
    (s!"routing policy has {policy.keywordRules.length} keyword rules; " ++
      s!"maximum is {maxRoutingKeywordRules}")
  refuse (policy.virtualModels.get "auto").isNone "virtual model auto is required"
  validateVirtualNamespace policy
  policy.virtualModels.entries.forM fun entry =>
    validateVirtualModel platform policy.models entry.1 entry.2
  refuse (policy.defaultVirtualModel ≠ "" &&
      (policy.virtualModels.get policy.defaultVirtualModel).isNone)
    s!"unknown default virtual model {quoted policy.defaultVirtualModel}"
  policy.models.entries.forM fun entry => validateMetadata platform entry.1 entry.2
  policy.keywordRules.zipIdx.forM fun entry => validateRule policy entry.2 entry.1

/-! ### The compiled policy -/

structure CompiledVirtualBase (F : Type) where
  name : String
  aliasName : String
  virtual : VirtualModel F

structure CompiledKeywordRule where
  rule : KeywordRule
  keywords : List String

structure CompiledRoutingPolicy (F : Type) where
  policy : RoutingPolicy F
  virtualBases : OrderedMap String (CompiledVirtualBase F)
  rules : List CompiledKeywordRule

def addBases (bases : OrderedMap String (CompiledVirtualBase F))
    (entry : String × VirtualModel F) : OrderedMap String (CompiledVirtualBase F) :=
  entry.2.aliases.foldl
    (fun bases aliasName =>
      bases.insert aliasName { name := entry.1, aliasName, virtual := entry.2 })
    (bases.insert entry.1 { name := entry.1, aliasName := "", virtual := entry.2 })

def compileRule (rule : KeywordRule) : CompiledKeywordRule where
  rule := rule
  keywords := rule.keywords.map fun keyword => platform.toLower (trimSpace keyword)

def compileRoutingPolicy : CompiledRoutingPolicy F where
  policy := policy
  virtualBases := policy.virtualModels.entries.foldl addBases .empty
  rules := policy.keywordRules.map (compileRule platform)

/-- The parts around the last colon, when neither is empty. -/
def splitPreset (requested : String) : Option (String × String) :=
  let reversed := requested.toList.reverse
  let preset := (reversed.takeWhile fun character => character ≠ ':').reverse
  let base := ((reversed.dropWhile fun character => character ≠ ':').drop 1).reverse
  if base = [] ∨ preset = [] then none else some (String.ofList base, String.ofList preset)

structure VirtualRequestMatch (F : Type) where
  name : String
  aliasName : String
  preset : String
  virtual : VirtualModel F
  kwargs : Kwargs

namespace CompiledRoutingPolicy

def resolveVirtualRequest (compiled : CompiledRoutingPolicy F) (requested : String) :
    Except String (Option (VirtualRequestMatch F)) :=
  match compiled.virtualBases.get requested with
  | some base =>
    match base.virtual.kwargs.get "default" with
    | some configured => .ok (some ⟨base.name, base.aliasName, "default", base.virtual,
        configured.getD .empty⟩)
    | none => .ok (some ⟨base.name, base.aliasName, "", base.virtual, .empty⟩)
  | none =>
    match splitPreset requested with
    | none => .ok none
    | some (prefixed, preset) =>
      match compiled.virtualBases.get prefixed with
      | none => .ok none
      | some base =>
        match base.virtual.kwargs.get preset with
        | none => .error
            s!"unknown kwargs preset {quoted preset} for virtual model {quoted base.name}"
        | some kwargs => .ok (some ⟨base.name, base.aliasName, preset, base.virtual,
            kwargs.getD .empty⟩)

def ownsVirtualRequest (compiled : CompiledRoutingPolicy F) (requested : String) : Bool :=
  (compiled.virtualBases.get (trimSpace requested)).isSome ||
    match splitPreset (trimSpace requested) with
    | none => false
    | some (prefixed, _) =>
      match compiled.virtualBases.get prefixed with
      | none => false
      | some base => base.name ≠ ""

end CompiledRoutingPolicy

def virtualModelsWithOverrides (virtual : VirtualModel F) (kwargs : Kwargs) : List String :=
  (modelsKwarg kwargs).getD virtual.models

namespace CompiledRoutingPolicy

def isIdentityVirtualModel (compiled : CompiledRoutingPolicy F) (name : String) : Bool :=
  match compiled.virtualBases.get name with
  | none => false
  | some base =>
    base.aliasName == "" && base.name == name &&
      virtualModelsWithOverrides base.virtual
        (((base.virtual.kwargs.get "default").getD none).getD .empty) == [name]

end CompiledRoutingPolicy

/-- `strings.Contains`. -/
def containsText (text keyword : String) : Bool :=
  text.toList.tails.any fun tail => keyword.toList.isPrefixOf tail

def CompiledKeywordRule.matched (compiled : CompiledKeywordRule) (text : String) : Nat :=
  compiled.keywords.countP fun keyword => containsText text keyword

def CompiledKeywordRule.matches (compiled : CompiledKeywordRule) (text : String) : Bool :=
  if compiled.rule.matchAll then compiled.matched text == compiled.keywords.length
  else 0 < compiled.matched text

end

end SparkRoute.ModelRouter
