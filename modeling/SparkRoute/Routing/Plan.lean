import Mathlib.Data.List.Dedup
import SparkRoute.Lib.Machine
import SparkRoute.Lib.StableSort
import SparkRoute.Routing.Snapshot

/-!
# Execution plans

`buildPlanFor` filters the targets of a virtual model and orders the remaining
ones: pool by pool, and inside a pool by protocol and capability class, drawn by
weight inside a class.  A call of the picker is an input: `picker n` answers the
`n`-th call, whatever it answered before.  The rendezvous score of a target,
`strings.ToLower` and every callback are arbitrary functions.
-/

namespace SparkRoute.Routing

open Config SparkRoute.Lib

structure Selection where
  requestedModel : String
  virtualModel : String
  provider : Provider
  deployment : Deployment
  upstreamProtocol : Option Protocol
  nativeProtocol : Bool
  poolPriority : Int
  running : Bool := false
  preferenceClass : Nat
  providerPreference : Nat := 0
  weight : Int
  responseModel : ResponseModelMode

structure ProtocolRoute where
  protocol : Option Protocol := none
  native : Bool
  requiredCapabilities : List Capability := []

structure PlanOptions where
  requiredCapabilities : List Capability := []
  allowedProviderTypes : List String := []
  compatibility : Option (String → Bool) := none
  protocolResolver : Option (Provider → Deployment → ProtocolRoute × Bool) := none
  pinnedDeployment : String := ""
  pinnedProvider : String := ""
  singleAttempt : Bool := false
  eligibility : Option (String → Bool) := none
  ready : Option (String → Bool) := none
  picker : Nat → Int → Except String Int
  selectionKey : String := ""
  providerPriority : List String := []
  allowInternal : Bool := false

structure Plan where
  requestedModel : String
  virtualModel : String
  requiredCapabilities : List Capability
  maxAttempts : Int
  limits : EffectiveModelLimits
  retry : RetryPolicy
  guardrails : GuardrailPolicy
  providerPriority : List String
  candidates : List Selection

inductive PlanError where
  | modelNotFound (requested : String)
  | weightOverflow (priority : Int)
  | pickerFailed (message : String)
  | pickerOutOfRange (value total : Int)
  | unsupportedSemantics
  | unsupportedCapabilities (required : List Capability)
  | noTargets (model : String)

/-- A sorted union. -/
def mergeCapabilities (first second : List Capability) : List Capability :=
  (first ++ second).dedup.mergeSort fun left right => left ≤ right

def providerTypeAllowed (providerType : String) (allowed : List String) : Bool :=
  allowed.isEmpty || allowed.contains providerType

def effectiveResponseModel : ResponseModelMode → ResponseModelMode
  | .unset => .virtual
  | mode => mode

structure EligibleTarget where
  target : WeightedTarget
  route : ProtocolRoute

/-- Where the filter loop leaves one target. -/
inductive Assessment where
  | skipped
  | incompatible
  | incapable
  | ineligible
  | admitted (route : ProtocolRoute) (capability : CapabilityMatch)

/-- The route of a target, or `none` when the request cannot be served by it. -/
def routeFor (options : PlanOptions) (provider : Provider) (deployment : Deployment) :
    Option ProtocolRoute :=
  match options.protocolResolver with
  | some resolver =>
    let (route, compatible) := resolver provider deployment
    if !compatible ∨ route.protocol.isNone then none else some route
  | none =>
    if options.compatibility.any fun compatible => !compatible provider.type then none
    else some
      { native := true
        protocol := (deployment.effectiveNativeProtocols provider).head? }

def assess (snapshot : Snapshot) (options : PlanOptions) (required : List Capability)
    (target : WeightedTarget) : Assessment :=
  if options.pinnedDeployment ≠ "" ∧ target.deployment ≠ options.pinnedDeployment then
    .skipped
  else
    match snapshot.deployments.lookup target.deployment with
    | none => .skipped
    | some deployment =>
      if options.pinnedProvider ≠ "" ∧ deployment.provider ≠ options.pinnedProvider then
        .skipped
      else
        match snapshot.providers.lookup deployment.provider with
        | none => .skipped
        | some provider =>
          if !providerTypeAllowed provider.type options.allowedProviderTypes then
            .skipped
          else
            match routeFor options provider deployment with
            | none => .incompatible
            | some route =>
              let capability :=
                deployment.matchCapabilities (required ++ route.requiredCapabilities)
              if capability = .rejected then
                .incapable
              else if options.eligibility.any
                  fun eligible => !eligible deployment.name then
                .ineligible
              else
                .admitted route capability

/-- The counters that choose the error of an empty plan, and the four classes. -/
structure PoolScan where
  protocolTargets : Nat := 0
  compatibleTargets : Nat := 0
  capableTargets : Nat := 0
  nativeDeclared : List EligibleTarget := []
  nativeUnknown : List EligibleTarget := []
  translatedDeclared : List EligibleTarget := []
  translatedUnknown : List EligibleTarget := []

def PoolScan.classify (scan : PoolScan) (eligible : EligibleTarget)
    (capability : CapabilityMatch) : PoolScan :=
  if eligible.route.native ∧ capability = .declared then
    { scan with nativeDeclared := scan.nativeDeclared ++ [eligible] }
  else if eligible.route.native then
    { scan with nativeUnknown := scan.nativeUnknown ++ [eligible] }
  else if capability = .declared then
    { scan with translatedDeclared := scan.translatedDeclared ++ [eligible] }
  else
    { scan with translatedUnknown := scan.translatedUnknown ++ [eligible] }

def PoolScan.count (scan : PoolScan) : Assessment → PoolScan
  | .skipped => scan
  | .incompatible => { scan with protocolTargets := scan.protocolTargets + 1 }
  | .incapable =>
    { scan with
      protocolTargets := scan.protocolTargets + 1
      compatibleTargets := scan.compatibleTargets + 1 }
  | _ =>
    { scan with
      protocolTargets := scan.protocolTargets + 1
      compatibleTargets := scan.compatibleTargets + 1
      capableTargets := scan.capableTargets + 1 }

def scanTarget (snapshot : Snapshot) (options : PlanOptions) (required : List Capability)
    (scan : PoolScan) (target : WeightedTarget) : PoolScan :=
  let assessment := assess snapshot options required target
  match assessment with
  | .admitted route capability =>
    (scan.count assessment).classify ⟨target, route⟩ capability
  | _ => scan.count assessment

section Ordering

variable {Score : Type} [BEq Score] [LT Score] [DecidableLT Score]
  (hashScore : String → WeightedTarget → Score)

/-- The positions of the targets by ascending score, then name. -/
def weightedHashOrder (key : String) (targets : List WeightedTarget) : List Nat :=
  let ranked := targets.zipIdx.mergeSort fun first second =>
    if hashScore key first.1 == hashScore key second.1 then
      first.1.deployment ≤ second.1.deployment
    else
      hashScore key first.1 < hashScore key second.1
  ranked.map fun entry => entry.2

def orderGroup (model : VirtualModel) (options : PlanOptions)
    (group : List EligibleTarget) : List EligibleTarget :=
  if model.selection.mode = .weightedHash ∧ options.selectionKey ≠ "" ∧
      1 < group.length then
    (weightedHashOrder hashScore options.selectionKey
      (group.map fun eligible => eligible.target)).filterMap fun index => group[index]?
  else
    group

end Ordering

/-- The overflow-checked sum of the remaining weights. -/
def totalWeight : Int → List EligibleTarget → Option Int
  | total, [] => some total
  | total, eligible :: rest =>
    if maxInt64 - total < eligible.target.weight then none
    else totalWeight (total + eligible.target.weight) rest

/-- The first position whose cumulative weight exceeds `value`. -/
def pickIndex (value : Int) : Int → List EligibleTarget → Option Nat
  | _, [] => none
  | boundary, eligible :: rest =>
    if value < boundary + eligible.target.weight then some 0
    else (pickIndex value (boundary + eligible.target.weight) rest).map (· + 1)

def usesPicker (model : VirtualModel) (options : PlanOptions) : Bool :=
  options.pinnedDeployment = "" ∧
    (model.selection.mode ≠ .weightedHash ∨ options.selectionKey = "")

/-- The point of the cumulative weights that the next draw selects. -/
def pickValue (model : VirtualModel) (options : PlanOptions) (calls : Nat) (total : Int) :
    Except PlanError Int :=
  if usesPicker model options then
    match options.picker calls total with
    | .error message => .error (.pickerFailed message)
    | .ok value =>
      if value < 0 ∨ total ≤ value then .error (.pickerOutOfRange value total)
      else .ok value
  else
    .ok 0

/-- Draw every target of one class without replacement; `remaining.length`
iterations empty the class. -/
def drawGroup (model : VirtualModel) (options : PlanOptions) (priority : Int) :
    Nat → Nat → List EligibleTarget → Except PlanError (Nat × List EligibleTarget)
  | 0, calls, _ => .ok (calls, [])
  | fuel + 1, calls, remaining =>
    if remaining = [] then
      .ok (calls, [])
    else
      match totalWeight 0 remaining with
      | none => .error (.weightOverflow priority)
      | some total => do
        let value ← pickValue model options calls total
        let index := (pickIndex value 0 remaining).getD 0
        let (calls, drawn) ← drawGroup model options priority fuel
          (if usesPicker model options then calls + 1 else calls)
          (remaining.eraseIdx index)
        .ok (calls, remaining[index]?.toList ++ drawn)

structure PlanState where
  calls : Nat := 0
  preferenceClass : Nat := 0
  protocolTargets : Nat := 0
  compatibleTargets : Nat := 0
  capableTargets : Nat := 0
  candidates : List Selection := []

section Building

variable (snapshot : Snapshot) (requested : String) (model : VirtualModel)
  (options : PlanOptions)

def selectionOf (priority : Int) (preferenceClass : Nat) (eligible : EligibleTarget) :
    Option Selection :=
  match snapshot.deployments.lookup eligible.target.deployment with
  | none => none
  | some deployment =>
    match snapshot.providers.lookup deployment.provider with
    | none => none
    | some provider =>
      some
        { requestedModel := requested
          virtualModel := model.name
          provider := provider
          deployment := deployment
          upstreamProtocol := eligible.route.protocol
          nativeProtocol := eligible.route.native
          poolPriority := priority
          preferenceClass := preferenceClass
          weight := eligible.target.weight
          responseModel := effectiveResponseModel model.responseModel }

variable {Score : Type} [BEq Score] [LT Score] [DecidableLT Score]
  (hashScore : String → WeightedTarget → Score)

def planGroup (priority : Int) (state : PlanState) (group : List EligibleTarget) :
    Except PlanError PlanState := do
  let remaining := orderGroup hashScore model options group
  let (calls, drawn) ← drawGroup model options priority remaining.length state.calls remaining
  .ok { state with
    calls := calls
    preferenceClass := state.preferenceClass + 1
    candidates := state.candidates ++
      drawn.filterMap (selectionOf snapshot requested model priority state.preferenceClass) }

def scanPool (required : List Capability) (pool : RoutingPool) : PoolScan :=
  pool.targets.foldl (scanTarget snapshot options required) {}

def PoolScan.groups (scan : PoolScan) : List (List EligibleTarget) :=
  [scan.nativeDeclared, scan.nativeUnknown, scan.translatedDeclared, scan.translatedUnknown]

def planPool (required : List Capability) (state : PlanState) (pool : RoutingPool) :
    Except PlanError PlanState :=
  let scan := scanPool snapshot options required pool
  scan.groups.foldlM (planGroup snapshot requested model options hashScore pool.priority)
    { state with
      protocolTargets := state.protocolTargets + scan.protocolTargets
      compatibleTargets := state.compatibleTargets + scan.compatibleTargets
      capableTargets := state.capableTargets + scan.capableTargets }

end Building

def sortedPools (model : VirtualModel) : List RoutingPool :=
  sortByKey (fun pool => pool.priority) model.pools

/-- Ready candidates first, otherwise in the order they have. -/
def preferRunning (model : VirtualModel) (options : PlanOptions)
    (candidates : List Selection) : List Selection :=
  match options.ready with
  | some ready =>
    if model.selection.prefersRunning then
      let marked := candidates.map fun candidate =>
        { candidate with running := ready candidate.deployment.name }
      marked.filter (fun candidate => candidate.running) ++
        marked.filter (fun candidate => !candidate.running)
    else
      candidates
  | none => candidates

def maxProviderPriorityEntries : Nat := 64

def maxProviderPriorityNameBytes : Nat := 256

/-- The distinct usable names of the selector's list, normalised, in order. -/
def priorityNames (toLower : String → String) (configured : List String) : List String :=
  (configured.take maxProviderPriorityEntries).foldl
    (fun priority raw =>
      let name := trimSpace raw
      if name = "" ∨ maxProviderPriorityNameBytes < name.utf8ByteSize then priority
      else if priority.contains (toLower name) then priority
      else priority ++ [toLower name])
    []

/-- `idxOf` gives an unlisted provider the rank after the last listed one. -/
def applyProviderPriority (toLower : String → String) (priority : List String)
    (candidates : List Selection) : List Selection :=
  if priority = [] then
    candidates
  else
    sortByKey (fun candidate => candidate.providerPreference)
      (candidates.map fun candidate =>
        { candidate with
          providerPreference := priority.idxOf (toLower candidate.provider.name) })

def emptyPlanError (required : List Capability) (model : VirtualModel) (state : PlanState) :
    PlanError :=
  if 0 < state.protocolTargets ∧ state.compatibleTargets = 0 then
    .unsupportedSemantics
  else if 0 < state.protocolTargets ∧ state.capableTargets = 0 ∧ required ≠ [] then
    .unsupportedCapabilities required
  else
    .noTargets model.name

def attemptLimit (model : VirtualModel) (options : PlanOptions)
    (candidates : List Selection) : Int :=
  let attempts := model.limits.effective.maxAttempts
  let bounded := if (candidates.length : Int) < attempts then (candidates.length : Int)
    else attempts
  if options.singleAttempt ∧ 1 < bounded then 1 else bounded

def Snapshot.buildPlanFor {Score : Type} [BEq Score] [LT Score] [DecidableLT Score]
    (toLower : String → String) (hashScore : String → WeightedTarget → Score)
    (snapshot : Snapshot) (requested : String) (options : PlanOptions) : Except PlanError Plan :=
  match snapshot.resolveModel requested options.allowInternal with
  | none => .error (.modelNotFound requested)
  | some model => do
    let required :=
      mergeCapabilities model.requiredCapabilities options.requiredCapabilities
    let state ← (sortedPools model).foldlM
      (planPool snapshot requested model options hashScore required) {}
    if state.candidates = [] then
      .error (emptyPlanError required model state)
    else
      let priority := priorityNames toLower options.providerPriority
      let ordered := applyProviderPriority toLower priority
        (preferRunning model options state.candidates)
      let candidates := if options.pinnedDeployment ≠ "" then ordered.take 1 else ordered
      let attempts := attemptLimit model options candidates
      .ok
        { requestedModel := requested
          virtualModel := model.name
          requiredCapabilities := required
          maxAttempts := attempts
          limits := { model.limits.effective with maxAttempts := attempts }
          retry := model.retry.effective
          guardrails := model.guardrails
          providerPriority := priority
          candidates := candidates }

end SparkRoute.Routing
