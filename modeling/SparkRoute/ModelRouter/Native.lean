import SparkRoute.Lib.StableSort
import SparkRoute.ModelRouter.Policy
import Mathlib.Data.String.Basic

/-!
# Planning and selection

`plan` turns a requested name into a strategy and its eligible models; `resolveNative`
lets the strategy choose.  A strategy may read counters and latencies and draw a random
number; `route` wraps both for the gateway.
-/

namespace SparkRoute.ModelRouter

open Lib Config

/-! ### Stage signals -/

inductive StageToolCategory where
  | write
  | edit
  | read
  | plan
  | other
  deriving DecidableEq

structure StageEvent (F : Type) where
  category : StageToolCategory
  severity : F
  testsPassed : Bool

structure StageHistory (F : Type) where
  events : List (StageEvent F) := []
  turnDepth : Int := 0
  compacted : Bool := false

structure StageDimensions (F : Type) where
  severity : F
  spinning : F
  exploring : F
  productionIntensity : F

inductive Tier where
  | capable
  | efficient
  deriving DecidableEq

def Tier.text : Tier → String
  | .capable => "capable"
  | .efficient => "efficient"

inductive DecisionSource where
  | dimensions
  | override
  | fallOpen
  | testsPassed
  | tierUnavailable
  deriving DecidableEq

def DecisionSource.text : DecisionSource → String
  | .dimensions => "dimensions"
  | .override => "override"
  | .fallOpen => "fall_open"
  | .testsPassed => "tests_passed"
  | .tierUnavailable => "tier_unavailable"

structure StageRouteTrace (F : Type) where
  tier : Tier
  decisionSource : DecisionSource
  score : F
  confidence : F
  dimensions : StageDimensions F

structure CandidateTrace (F : Type) where
  model : String
  eligible : Bool
  reason : String
  score : Option F := none

structure RoutePlan (F : Type) where
  requestedModel : String
  virtualModel : String := ""
  virtualAlias : String := ""
  routingPreset : String := ""
  routerKwargs : Kwargs := .empty
  providerPriority : List String := []
  strategy : Strategy
  matchedRule : String := ""
  revision : Nat
  candidates : List (CandidateTrace F)
  eligible : List String
  models : OrderedMap String (ModelMetadata F)
  stageRouter : Option (StageRouterPolicy F) := none
  stageHistory : StageHistory F := {}
  mmProjection : Option MMProjectionPolicy := none
  explicit : Bool := false

structure RouteDecision (F : Type) where
  requestedModel : String
  resolvedModel : String
  virtualModel : String
  virtualAlias : String
  routingPreset : String
  routerKwargs : Kwargs
  providerPriority : List String
  strategy : String
  matchedRule : String
  reason : String
  revision : Nat
  candidates : List (CandidateTrace F)
  stage : Option (StageRouteTrace F)
  projectionPolicy : Option MMProjectionPolicy

section

variable {F : Type} (platform : Platform F)

def boolFloat (value : Bool) : F := if value then platform.one else platform.zero

def recentEvents (history : StageHistory F) (window : Int) : List (StageEvent F) :=
  let window := if window ≤ 0 then 3 else window
  history.events.drop (history.events.length - window.toNat)

def countCategory (events : List (StageEvent F)) (category : StageToolCategory) : Nat :=
  events.countP fun event => event.category == category

def stageStallTurnDepth : Int := 8

/-- The dimensions, whether tests passed, and whether there is any signal. -/
def stageDimensions (history : StageHistory F) (window : Int) : StageDimensions F × Bool × Bool :=
  if history.events = [] then
    (⟨platform.zero, platform.zero, platform.zero, platform.zero⟩, false, false)
  else
    let recent := recentEvents history window
    let production := countCategory recent .write + countCategory recent .edit
    let looking := countCategory recent .read + countCategory recent .plan
    let stalled := stageStallTurnDepth ≤ history.turnDepth && production == 0
    let intensity := if 0 < production + looking then
        platform.div (platform.ofInt production) (platform.ofInt (production + looking))
      else platform.zero
    (⟨recent.foldl (fun severity event => platform.max severity event.severity) platform.zero,
      boolFloat platform (stalled && looking == 0), boolFloat platform (stalled && 0 < looking),
      intensity⟩,
      recent.any StageEvent.testsPassed, true)

def stageDefaultTier (picker : StagePicker) : Tier :=
  if picker = .capableFirst then .capable else .efficient

/-- `math.Tanh(5 * 0.10 * (…))`. -/
def stageScore (dimensions : StageDimensions F) : F :=
  platform.tanh (platform.mul (platform.mul (platform.ofInt 5) (platform.decimal 10 2))
    (platform.sub
      (platform.add
        (platform.add (platform.div dimensions.severity (platform.decimal 7 1))
          dimensions.spinning)
        dimensions.exploring)
      dimensions.productionIntensity))

/-- Tier, source, score and confidence before the eligible models are looked at. -/
def stageTier (policy : StageRouterPolicy F) (history : StageHistory F) : StageRouteTrace F :=
  let (dimensions, testsPassed, hasSignals) :=
    stageDimensions platform history policy.effectiveWindow
  let score := stageScore platform dimensions
  let confidence := platform.abs score
  let default := stageDefaultTier policy.effectivePicker
  if history.compacted || platform.lessEq platform.one dimensions.severity then
    ⟨.capable, .override, platform.zero, platform.one, dimensions⟩
  else if !hasSignals then ⟨default, .fallOpen, platform.zero, platform.zero, dimensions⟩
  else if testsPassed && platform.less platform.zero dimensions.productionIntensity &&
      platform.equal dimensions.severity platform.zero then
    ⟨.efficient, .testsPassed, platform.zero, platform.one, dimensions⟩
  else if platform.lessEq confidence (policy.effectiveThreshold platform) then
    ⟨default, .fallOpen, score, confidence, dimensions⟩
  else if platform.less platform.zero score then
    ⟨.capable, .dimensions, score, confidence, dimensions⟩
  else ⟨.efficient, .dimensions, score, confidence, dimensions⟩

def StageRouterPolicy.target (policy : StageRouterPolicy F) : Tier → String
  | .capable => policy.capableModel
  | .efficient => policy.efficientModel

def Tier.opposite : Tier → Tier
  | .capable => .efficient
  | .efficient => .capable

def chooseStageRoute (plan : RoutePlan F) : Option (String × StageRouteTrace F) :=
  match plan.stageRouter with
  | none => none
  | some policy =>
    let trace := stageTier platform policy plan.stageHistory
    if plan.eligible.contains (policy.target trace.tier) then
      some (policy.target trace.tier, trace)
    else if plan.eligible.contains (policy.target trace.tier.opposite) then
      some (policy.target trace.tier.opposite,
        { trace with tier := trace.tier.opposite, decisionSource := .tierUnavailable })
    else none

/-! ### The plan -/

/-- What the virtual model or the first matching rule selects. -/
structure Selected (F : Type) where
  strategy : Strategy
  names : List String
  stage : Option (StageRouterPolicy F)
  projection : Option MMProjectionPolicy
  matched : String := ""

def emptyVirtualModel : VirtualModel F where
  strategy := .other ""

def ruleName (rule : KeywordRule) (index : Nat) : String :=
  if rule.name = "" then s!"rule[{index}]" else rule.name

def selectedByRule (policy : RoutingPolicy F) (rule : KeywordRule) (index : Nat) : Selected F :=
  if rule.virtualModel ≠ "" then
    let virtual := (policy.virtualModels.get rule.virtualModel).getD emptyVirtualModel
    ⟨virtual.strategy, virtual.models, virtual.stageRouter, virtual.mmProjection,
      ruleName rule index⟩
  else ⟨rule.strategy, rule.models, none, none, ruleName rule index⟩

namespace CompiledRoutingPolicy

variable (compiled : CompiledRoutingPolicy F)

def firstRule (text : String) :
    Option (CompiledKeywordRule × Nat) :=
  compiled.rules.zipIdx.find? fun entry => entry.1.matches text

/-- Strategy, models and settings before the preset's strategy. -/
def select (found : VirtualRequestMatch F)
    (text : String) : Selected F :=
  match compiled.firstRule (platform.toLower text) with
  | some entry => selectedByRule compiled.policy entry.1.rule entry.2
  | none =>
    { strategy := found.virtual.strategy
      names := virtualModelsWithOverrides found.virtual found.kwargs
      stage := found.virtual.stageRouter
      projection := found.virtual.mmProjection }

def wildcard (available : List String) : List String :=
  sortByKey id (available.dedup.filter fun name =>
    !compiled.ownsVirtualRequest name || compiled.isIdentityVirtualModel name)

end CompiledRoutingPolicy

def uniqueProviders (seen : List String) : List String → List String
  | [] => []
  | raw :: rest =>
    let provider := platform.toLower (trimSpace raw)
    if validBackendID provider && !seen.contains provider then
      provider :: uniqueProviders (provider :: seen) rest
    else uniqueProviders seen rest

def routingProviderPriority (kwargs : Kwargs) : List String :=
  match kwargs.get "provider_priority" with
  | none => []
  | some raw =>
    match routingStringList raw true with
    | none => []
    | some providers => uniqueProviders platform [] providers

variable (models : OrderedMap String (ModelMetadata F))

def disabledIn (name : String) : Bool :=
  match models.get name with
  | none => false
  | some metadata => !metadata.enabled

variable (policy : RoutingPolicy F)

def RoutingPolicy.disabled (name : String) : Bool :=
  disabledIn policy.models name

def candidateTrace (available : List String) (name : String) :
    CandidateTrace F :=
  let reason := if policy.disabled name then "disabled"
    else if !available.contains name then "unavailable"
    else ""
  { model := name, eligible := reason == "", reason }

/-- The name that a request without a name stands for. -/
def requestedName (requested : String) : String :=
  if trimSpace requested ≠ "" then trimSpace requested
  else if policy.defaultVirtualModel ≠ "" then policy.defaultVirtualModel
  else "auto"

def explicitPlan (available : List String) (requested : String) :
    Except String (RoutePlan F) :=
  if available.contains requested then
    if policy.disabled requested then .error s!"explicit model {quoted requested} is disabled"
    else .ok
      { requestedModel := requested, strategy := .other "explicit", revision := policy.revision
        candidates := [{ model := requested, eligible := true, reason := "" }]
        eligible := [requested], models := policy.models, explicit := true }
  else .error s!"unknown or unavailable explicit model {quoted requested}"

def virtualPlan (compiled : CompiledRoutingPolicy F) (requested text : String)
    (history : StageHistory F) (available : List String) (found : VirtualRequestMatch F) :
    Except String (RoutePlan F) :=
  let selected := compiled.select platform found text
  let names := if selected.names = [] then compiled.wildcard available else selected.names
  let traces := names.map (candidateTrace compiled.policy available)
  let eligible := (traces.filter CandidateTrace.eligible).map CandidateTrace.model
  if eligible = [] then .error s!"no eligible models for {quoted requested}"
  else .ok
    { requestedModel := requested, virtualModel := found.name, virtualAlias := found.aliasName
      routingPreset := found.preset, routerKwargs := found.kwargs
      providerPriority := routingProviderPriority platform found.kwargs
      strategy := (strategyKwarg found.kwargs).getD selected.strategy
      matchedRule := selected.matched, revision := compiled.policy.revision
      candidates := traces, eligible, models := compiled.policy.models
      stageRouter := selected.stage, stageHistory := history
      mmProjection := selected.projection }

variable (runtime : Option (CompiledRoutingPolicy F))

def plan (requested text : String)
    (history : StageHistory F) (available : List String) : Except String (RoutePlan F) :=
  match runtime with
  | none => .error "routing policy is unavailable"
  | some compiled =>
    let requested := requestedName compiled.policy requested
    match compiled.resolveVirtualRequest requested with
    | .error failure => .error failure
    | .ok none => explicitPlan compiled.policy available requested
    | .ok (some found) => virtualPlan platform compiled requested text history available found

/-! ### Strategies -/

/-- What a strategy reads: the counters of round robin and the latencies. -/
structure Signals (F : Type) where
  counters : String → Nat
  latency : String → F

def metadataOf (name : String) : ModelMetadata F :=
  (models.get name).getD
    { enabled := false, weight := 0, priority := 0, sizeB := platform.zero
      inputPrice := platform.zero, outputPrice := platform.zero, context := 0, tags := []
      mmProjection := none, mmProjectionDisabled := false, discoveryDisabled := false }

def weightOf (name : String) : Nat :=
  let weight := (metadataOf platform models name).weight
  if weight ≤ 0 then 1 else weight.toNat

/-- The loop that subtracts weights from a pick. -/
def pickWeighted (weight : String → Nat) : Nat → List String → Option String
  | _, [] => none
  | pick, name :: rest =>
    if pick < weight name then some name else pickWeighted weight (pick - weight name) rest

/-- The loop that adds weights up to an index. -/
def pickCumulative (weight : String → Nat) (index : Nat) : Nat → List String → Option String
  | _, [] => none
  | cumulative, name :: rest =>
    if index < cumulative + weight name then some name
    else pickCumulative weight index (cumulative + weight name) rest

def totalWeight (weight : String → Nat) (names : List String) : Nat := (names.map weight).sum

def roundRobinWeight (strategy : Strategy) (models : OrderedMap String (ModelMetadata F))
    (name : String) : Nat :=
  if strategy = .weightedRoundRobin then weightOf platform models name else 1

structure Maxima (F : Type) where
  size : F
  cost : F
  latency : F

def costOf (metadata : ModelMetadata F) : F :=
  platform.add metadata.inputPrice metadata.outputPrice

/-- Only these strategies read the latencies. -/
def observed (strategy : Strategy) (signals : Signals F) (name : String) : F :=
  if strategy = .fastest ∨ strategy = .balanced then signals.latency name else platform.zero

def maxima (strategy : Strategy) (models : OrderedMap String (ModelMetadata F))
    (signals : Signals F) (names : List String) : Maxima F :=
  names.foldl (fun largest name =>
    let metadata := metadataOf platform models name
    ⟨platform.max largest.size metadata.sizeB, platform.max largest.cost (costOf platform metadata),
      platform.max largest.latency (observed platform strategy signals name)⟩)
    ⟨platform.zero, platform.zero, platform.zero⟩

def scoreOf (strategy : Strategy) (models : OrderedMap String (ModelMetadata F))
    (signals : Signals F) (largest : Maxima F) (name : String) : F :=
  let metadata := metadataOf platform models name
  let latency := observed platform strategy signals name
  match strategy with
  | .smallest => metadata.sizeB
  | .largest => platform.neg metadata.sizeB
  | .lowestCost => costOf platform metadata
  | .fastest =>
    if platform.equal latency platform.zero && platform.less platform.zero largest.latency then
      largest.latency
    else latency
  | .balanced =>
    let size := platform.div metadata.sizeB (platform.max largest.size platform.one)
    let cost := platform.div (costOf platform metadata) (platform.max largest.cost platform.one)
    let latency := platform.div latency (platform.max largest.latency platform.one)
    platform.sub (platform.sub (platform.add cost latency)
      (platform.mul size (platform.decimal 25 2)))
      (platform.mul (platform.ofInt metadata.priority) (platform.decimal 1 2))
  | _ => platform.zero

/-- One round of the loop for the best score. -/
def better (score : String → F) (best : String × F) (name : String) : String × F :=
  if best.1 == "" || platform.less (score name) best.2 ||
      (platform.equal (score name) best.2 && name < best.1) then (name, score name)
  else best

structure Choice (F : Type) where
  chosen : String
  scores : List (String × F)
  counters : String → Nat

def bestScored (strategy : Strategy) (sorted : List String)
    (models : OrderedMap String (ModelMetadata F)) (signals : Signals F)
    (counters : String → Nat) : Choice F :=
  let score := scoreOf platform strategy models signals
    (maxima platform strategy models signals sorted)
  ⟨(sorted.foldl (better platform score) ("", platform.infinity)).1,
    sorted.map fun name => (name, score name), counters⟩

/-- `counters[key]++` on a 64-bit counter. -/
def advance (counters : String → Nat) (key : String) : String → Nat :=
  fun other => if other = key then (counters other + 1) % 2 ^ 64 else counters other

/-- The strategies that draw or count; a loop that returns nothing falls through. -/
def choose (strategy : Strategy) (names : List String)
    (models : OrderedMap String (ModelMetadata F)) (key : String) (dryRun : Bool)
    (draw : Nat) (signals : Signals F) : Choice F :=
  let sorted := sortByKey id names
  match strategy with
  | .random =>
    let weight := weightOf platform models
    match pickWeighted weight (draw % totalWeight weight sorted) sorted with
    | some name => ⟨name, [], signals.counters⟩
    | none => bestScored platform strategy sorted models signals signals.counters
  | .roundRobin | .weightedRoundRobin =>
    let weight := roundRobinWeight platform strategy models
    let index := signals.counters key % totalWeight weight sorted
    let counters := if dryRun then signals.counters else advance signals.counters key
    match pickCumulative weight index 0 sorted with
    | some name => ⟨name, [], counters⟩
    | none => bestScored platform strategy sorted models signals counters
  | _ => bestScored platform strategy sorted models signals signals.counters

def resolvedMMProjectionPolicy (plan : RoutePlan F) (model : String) : Option MMProjectionPolicy :=
  match plan.models.get model with
  | none => plan.mmProjection
  | some metadata =>
    if metadata.mmProjectionDisabled then none
    else if metadata.mmProjection.isSome then metadata.mmProjection
    else plan.mmProjection

def scoredTraces (scores : List (String × F)) (traces : List (CandidateTrace F)) :
    List (CandidateTrace F) :=
  traces.map fun trace => { trace with score := scores.lookup trace.model }

def decisionFor (plan : RoutePlan F) (chosen strategy reason : String)
    (candidates : List (CandidateTrace F)) (stage : Option (StageRouteTrace F)) :
    RouteDecision F where
  requestedModel := plan.requestedModel
  resolvedModel := chosen
  virtualModel := plan.virtualModel
  virtualAlias := plan.virtualAlias
  routingPreset := plan.routingPreset
  routerKwargs := plan.routerKwargs
  providerPriority := plan.providerPriority
  strategy := strategy
  matchedRule := plan.matchedRule
  reason := reason
  revision := plan.revision
  candidates := candidates
  stage := stage
  projectionPolicy := resolvedMMProjectionPolicy plan chosen

def selectionKey (plan : RoutePlan F) : String :=
  plan.virtualModel ++ "|" ++ plan.routingPreset ++ "|" ++ plan.matchedRule ++ "|" ++
    plan.strategy.text

def stageReason (trace : StageRouteTrace F) : String :=
  "stage_router selected " ++ trace.tier.text ++ " tier via " ++ trace.decisionSource.text ++
    " (confidence " ++ platform.fixed 3 trace.confidence ++ ")"

def selectionReason (plan : RoutePlan F) : String :=
  let reason := "selected by " ++ plan.strategy.text
  if plan.matchedRule ≠ "" then "matched " ++ plan.matchedRule ++ "; " ++ reason else reason

/-- The decision of the strategy, and the counters after it. -/
def resolveNative (plan : RoutePlan F) (dryRun : Bool) (draw : Nat) (signals : Signals F) :
    (String → Nat) × Except String (RouteDecision F) :=
  match plan.eligible with
  | [] => (signals.counters, .error "route plan has no eligible models")
  | first :: _ =>
    if plan.explicit then
      (signals.counters, .ok { decisionFor plan first "explicit" "explicit physical model"
        plan.candidates none with matchedRule := "" })
    else if plan.strategy = .stageRouter then
      match chooseStageRoute platform plan with
      | none => (signals.counters, .error "stage_router has no eligible tier target")
      | some (chosen, trace) =>
        (signals.counters, .ok (decisionFor plan chosen plan.strategy.text
          (stageReason platform trace)
          (scoredTraces [(chosen, platform.one)] plan.candidates) (some trace)))
    else
      let choice := choose platform plan.strategy plan.eligible plan.models (selectionKey plan)
        dryRun draw signals
      (choice.counters, .ok (decisionFor plan choice.chosen plan.strategy.text
        (selectionReason plan) (scoredTraces choice.scores plan.candidates) none))

/-! ### Route -/

structure ProviderStatePin where
  virtualModel : String
  kind : String

structure Input (F : Type) where
  requestedModel : String
  resolvedVirtualModel : String
  providerStatePin : Option ProviderStatePin
  candidates : List String
  routingText : String
  stageHistory : StageHistory F

structure Decision (F : Type) where
  virtualModel : String
  router : String
  version : String
  reason : String
  providerPriority : List String
  mmProjection : Option MMProjectionPolicy
  annotations : List (String × String)
  stage : Option (StageRouteTrace F)

def annotationIf (name value : String) : List (String × String) :=
  if value = "" then [] else [(name, value)]

def stageAnnotations (trace : StageRouteTrace F) : List (String × String) :=
  [("decision_source", trace.decisionSource.text), ("routing_tier", trace.tier.text),
    ("stage_score", platform.fixed 6 trace.score),
    ("stage_confidence", platform.fixed 6 trace.confidence),
    ("stage_severity", platform.fixed 6 trace.dimensions.severity),
    ("stage_spinning", platform.fixed 6 trace.dimensions.spinning),
    ("stage_exploring", platform.fixed 6 trace.dimensions.exploring),
    ("stage_production_intensity", platform.fixed 6 trace.dimensions.productionIntensity)]

/-- The annotations without the ones of a pin; the selector is overwritten by a pin. -/
def annotationsOf (decision : RouteDecision F) (selector : List (String × String)) :
    List (String × String) :=
  [("strategy", decision.strategy)] ++ selector ++
    annotationIf "matched_rule" decision.matchedRule ++
    annotationIf "routing_preset" decision.routingPreset ++
    (decision.stage.map (stageAnnotations platform)).getD []

def decisionOf (input : Input F) (decision : RouteDecision F) : Decision F :=
  let common : Decision F :=
    { virtualModel := decision.resolvedModel, router := "fox-sparkroute-native"
      version := s!"policy-v{routingPolicyVersion}-revision-{decision.revision}"
      reason := decision.reason, providerPriority := decision.providerPriority
      mmProjection := decision.projectionPolicy
      annotations := annotationsOf platform decision
        (annotationIf "selector" decision.virtualModel)
      stage := decision.stage }
  match input.providerStatePin with
  | none => common
  | some pin => { common with
      reason := "provider_state_pin"
      annotations := annotationsOf platform decision [("selector", input.requestedModel)] ++
        [("state_affinity_kind", pin.kind)] }

def routedName (input : Input F) : String :=
  match input.providerStatePin with
  | some pin => pin.virtualModel
  | none =>
    let owned := match runtime with
      | none => false
      | some compiled => compiled.ownsVirtualRequest input.requestedModel
    if !owned && input.resolvedVirtualModel ≠ "" then input.resolvedVirtualModel
    else input.requestedModel

def outsideCandidates (model : String) : String :=
  s!"routing policy selected virtual model {quoted model} outside the candidate set"

def route (signals : Signals F) (cancelled : Bool)
    (input : Input F) (draw : Nat) : (String → Nat) × Except String (Decision F) :=
  if cancelled then (signals.counters, .error "context canceled")
  else
    match plan platform runtime (routedName runtime input) input.routingText input.stageHistory
      input.candidates with
    | .error failure => (signals.counters, .error failure)
    | .ok planned =>
      match resolveNative platform planned false draw signals with
      | (counters, .error failure) => (counters, .error failure)
      | (counters, .ok decision) =>
        if input.candidates.contains decision.resolvedModel then
          (counters, .ok (decisionOf platform input decision))
        else (counters, .error (outsideCandidates decision.resolvedModel))

end

end SparkRoute.ModelRouter
