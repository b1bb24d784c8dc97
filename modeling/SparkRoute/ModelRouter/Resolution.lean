import SparkRoute.ModelRouter.Accepted

/-!
# From the plan to the decision

Whatever a plan admits is available and enabled, and every strategy but one chooses among
it.  The exception is a preset that names the stage router for a selection that has no
stage settings.
-/

namespace SparkRoute.ModelRouter

open Lib Config RouterManager List

variable {F : Type} {platform : Platform F}

/-! ### Strategies choose among the names -/

variable {names : List String} {name : String} {weight : String → Nat}

theorem pickWeighted_mem {pick : Nat} (picked : pickWeighted weight pick names = some name) :
    name ∈ names := by
  induction names generalizing pick with
  | nil => cases picked
  | cons first rest ih =>
    rw [pickWeighted] at picked
    split at picked
    next =>
      cases picked
      exact mem_cons_self
    next => exact mem_cons_of_mem _ (ih picked)

theorem pickCumulative_mem {index cumulative : Nat}
    (picked : pickCumulative weight index cumulative names = some name) : name ∈ names := by
  induction names generalizing cumulative with
  | nil => cases picked
  | cons first rest ih =>
    rw [pickCumulative] at picked
    split at picked
    next =>
      cases picked
      exact mem_cons_self
    next => exact mem_cons_of_mem _ (ih picked)

theorem foldl_better_mem (score : String → F) (best : String × F) (names : List String) :
    (names.foldl (better platform score) best).1 ∈ best.1 :: names := by
  induction names generalizing best with
  | nil => exact mem_cons_self
  | cons name rest ih =>
    have later := ih (better platform score best name)
    rw [foldl_cons]
    rcases mem_cons.mp later with head | tail
    · rw [head]
      unfold better
      split
      next => exact mem_cons_of_mem _ mem_cons_self
      next => exact mem_cons_self
    · exact mem_cons_of_mem _ (mem_cons_of_mem _ tail)

variable {strategy : Strategy} {models : OrderedMap String (ModelMetadata F)} {signals : Signals F}

theorem bestScored_mem {sorted : List String} {counters : String → Nat} (some : sorted ≠ []) :
    (bestScored platform strategy sorted models signals counters).chosen ∈ sorted := by
  cases sorted with
  | nil => exact absurd rfl some
  | cons first rest =>
    -- The first round takes its name, since the best name is still empty.
    exact foldl_better_mem _ _ rest

theorem choose_mem {key : String} {dryRun : Bool} {draw : Nat} (some : names ≠ []) :
    (choose platform strategy names models key dryRun draw signals).chosen ∈ names := by
  have permuted := sortByKey_perm (id : String → String) names
  have nonempty : sortByKey id names ≠ [] := by
    intro none
    rw [none] at permuted
    exact some permuted.nil_eq.symm
  apply permuted.mem_iff.mp
  unfold choose
  dsimp only
  split
  · split
    next name picked => exact pickWeighted_mem picked
    next => exact bestScored_mem nonempty
  · split
    next name picked => exact pickCumulative_mem picked
    next => exact bestScored_mem nonempty
  · split
    next name picked => exact pickCumulative_mem picked
    next => exact bestScored_mem nonempty
  · exact bestScored_mem nonempty

/-! ### Plans -/

variable {available : List String} {policy : RoutingPolicy F}

theorem candidateTrace_eligible :
    (candidateTrace policy available name).eligible = true ↔
      policy.disabled name = false ∧ name ∈ available := by
  cases disabled : policy.disabled name with
  | true => simp [candidateTrace, disabled]
  | false =>
    by_cases listed : name ∈ available
    · simp [candidateTrace, disabled, listed]
    · simp [candidateTrace, disabled, listed]

def admitted (policy : RoutingPolicy F) (available names : List String) : List String :=
  ((names.map (candidateTrace policy available)).filter CandidateTrace.eligible).map
    CandidateTrace.model

theorem mem_admitted :
    name ∈ admitted policy available names ↔
      name ∈ names ∧ policy.disabled name = false ∧ name ∈ available := by
  simp only [admitted, mem_map, mem_filter]
  constructor
  · rintro ⟨trace, ⟨⟨origin, listed, rfl⟩, eligible⟩, rfl⟩
    exact ⟨listed, candidateTrace_eligible.mp eligible⟩
  · rintro ⟨listed, fit⟩
    exact ⟨_, ⟨⟨name, listed, rfl⟩, candidateTrace_eligible.mpr fit⟩, rfl⟩

/-- The names of a selection; none stands for a wildcard. -/
def selectedNames (compiled : CompiledRoutingPolicy F) (available : List String)
    (selected : Selected F) : List String :=
  if selected.names = [] then compiled.wildcard available else selected.names

structure SelectorPlan (platform : Platform F) (compiled : CompiledRoutingPolicy F)
    (requested text : String) (history : StageHistory F) (available : List String)
    (planned : RoutePlan F) : Prop where
  nonempty : planned.eligible ≠ []
  implicit : planned.explicit = false
  origin : ∃ found, compiled.resolveVirtualRequest requested = .ok (some found) ∧
    planned.eligible = admitted compiled.policy available
      (selectedNames compiled available (compiled.select platform found text)) ∧
    planned.strategy = (strategyKwarg found.kwargs).getD
      (compiled.select platform found text).strategy ∧
    planned.stageRouter = (compiled.select platform found text).stage ∧
    planned.matchedRule = (compiled.select platform found text).matched ∧
    planned.stageHistory = history

structure ExplicitPlan (compiled : CompiledRoutingPolicy F) (requested : String)
    (available : List String) (planned : RoutePlan F) : Prop where
  unowned : compiled.resolveVirtualRequest requested = .ok none
  explicit : planned.explicit = true
  eligible : planned.eligible = [requested]
  available : requested ∈ available
  enabled : compiled.policy.disabled requested = false

variable {planned : RoutePlan F} {compiled : CompiledRoutingPolicy F} {requested : String}

theorem explicitPlan_ok (unowned : compiled.resolveVirtualRequest requested = .ok none)
    (made : explicitPlan compiled.policy available requested = .ok planned) :
    ExplicitPlan compiled requested available planned := by
  revert made
  fun_cases explicitPlan compiled.policy available requested <;> rintro ⟨⟩
  next listed enabled =>
    exact ⟨unowned, rfl, rfl, contains_iff_mem.mp listed, Bool.eq_false_iff.mpr enabled⟩

variable {history : StageHistory F} {text : String}

theorem virtualPlan_ok {found : VirtualRequestMatch F}
    (resolved : compiled.resolveVirtualRequest requested = .ok (some found))
    (made : virtualPlan platform compiled requested text history available found = .ok planned) :
    SelectorPlan platform compiled requested text history available planned := by
  by_cases empty : admitted compiled.policy available
      (selectedNames compiled available (compiled.select platform found text)) = []
  · have failed := (if_pos empty).symm.trans made
    cases failed
  · have succeeded := (if_neg empty).symm.trans made
    cases succeeded
    exact ⟨empty, rfl, found, resolved, rfl, rfl, rfl, rfl, rfl⟩

theorem plan_ok
    (made : plan platform (some compiled) requested text history available = .ok planned) :
    ExplicitPlan compiled (requestedName compiled.policy requested) available planned ∨
      SelectorPlan platform compiled (requestedName compiled.policy requested) text history
        available planned := by
  simp only [plan] at made
  split at made
  next => cases made
  next unowned => exact Or.inl (explicitPlan_ok unowned made)
  next found resolved => exact Or.inr (virtualPlan_ok resolved made)

theorem plan_eligible
    (made : plan platform (some compiled) requested text history available = .ok planned) :
    planned.eligible ≠ [] ∧
      ∀ name ∈ planned.eligible, name ∈ available ∧ compiled.policy.disabled name = false := by
  rcases plan_ok made with explicit | selector
  · rw [explicit.eligible]
    refine ⟨cons_ne_nil _ _, ?_⟩
    intro name listed
    cases mem_singleton.mp listed
    exact ⟨explicit.available, explicit.enabled⟩
  · obtain ⟨found, _, eligible, _⟩ := selector.origin
    refine ⟨selector.nonempty, ?_⟩
    intro name listed
    rw [eligible] at listed
    obtain ⟨_, enabled, isAvailable⟩ := mem_admitted.mp listed
    exact ⟨isAvailable, enabled⟩

/-! ### Resolution -/

/-- The decision is made, whatever the counters, latencies and random numbers are. -/
def Resolves (platform : Platform F) (planned : RoutePlan F) : Prop :=
  ∀ dryRun draw signals, ∃ decision,
    (resolveNative platform planned dryRun draw signals).2 = .ok decision ∧
      decision.resolvedModel ∈ planned.eligible

theorem resolves_explicit (explicit : planned.explicit = true)
    (nonempty : planned.eligible ≠ []) : Resolves platform planned := by
  intro dryRun draw signals
  unfold resolveNative
  cases eligible : planned.eligible with
  | nil => exact absurd eligible nonempty
  | cons first rest =>
    dsimp only
    rw [if_pos explicit]
    exact ⟨_, rfl, mem_cons_self⟩

theorem resolves_strategy (nonempty : planned.eligible ≠ []) (implicit : planned.explicit = false)
    (plain : planned.strategy ≠ .stageRouter) : Resolves platform planned := by
  intro dryRun draw signals
  unfold resolveNative
  cases eligible : planned.eligible with
  | nil => exact absurd eligible nonempty
  | cons first rest =>
    dsimp only
    rw [if_neg (by simp [implicit]), if_neg plain]
    exact ⟨_, rfl, choose_mem (cons_ne_nil first rest)⟩

theorem chooseStageRoute_mem {chosen : String}
    {trace : StageRouteTrace F} (found : chooseStageRoute platform planned = some (chosen, trace)) :
    chosen ∈ planned.eligible := by
  revert found
  unfold chooseStageRoute
  dsimp only
  split
  next => exact nofun
  next => split_ifs with listed listed <;> rintro ⟨⟩ <;> exact contains_iff_mem.mp listed

theorem chooseStageRoute_isSome {planned : RoutePlan F} {settings : StageRouterPolicy F}
    (configured : planned.stageRouter = some settings) {name : String}
    (eligible : name ∈ planned.eligible)
    (tier : name = settings.capableModel ∨ name = settings.efficientModel) :
    ∃ chosen, chooseStageRoute platform planned = some chosen := by
  unfold chooseStageRoute
  rw [configured]
  dsimp only
  split
  next => exact ⟨_, rfl⟩
  next first =>
    split
    next => exact ⟨_, rfl⟩
    next second =>
      rw [contains_iff_mem] at first second
      generalize (stageTier platform settings planned.stageHistory).tier = trace at first second
      cases trace with
      | capable =>
        rcases tier with rfl | rfl
        · exact absurd eligible first
        · exact absurd eligible second
      | efficient =>
        rcases tier with rfl | rfl
        · exact absurd eligible second
        · exact absurd eligible first

section

variable (implicit : planned.explicit = false) (stage : planned.strategy = .stageRouter)
  {settings : StageRouterPolicy F} (configured : planned.stageRouter = some settings)
  (eligible : name ∈ planned.eligible)
  (tier : name = settings.capableModel ∨ name = settings.efficientModel)

include implicit stage configured eligible tier

/-- A decision of the stage router shows the confidence that the history gave it. -/
theorem resolveNative_stage (dryRun : Bool) (draw : Nat) (signals : Signals F) :
    ∃ decision, resolveNative platform planned dryRun draw signals =
        (signals.counters, .ok decision) ∧
      decision.resolvedModel ∈ planned.eligible ∧ decision.matchedRule = planned.matchedRule ∧
      ∃ trace, decision.stage = some trace ∧
        trace.confidence = (stageTier platform settings planned.stageHistory).confidence := by
  obtain ⟨⟨chosen, trace⟩, found⟩ := @chooseStageRoute_isSome F platform planned settings
    configured name eligible tier
  have inside := chooseStageRoute_mem found
  unfold resolveNative
  cases list : planned.eligible with
  | nil =>
    rw [list] at eligible
    cases eligible
  | cons first rest =>
    rw [list] at inside
    simp only [implicit, Bool.false_eq_true, if_false, if_pos stage, found]
    refine ⟨_, rfl, inside, rfl, trace, rfl, ?_⟩
    revert found
    simp only [chooseStageRoute, configured]
    split_ifs <;> rintro ⟨⟩ <;> rfl

theorem resolves_stage : Resolves platform planned := by
  intro dryRun draw signals
  obtain ⟨decision, resolved, inside, _⟩ :=
    @resolveNative_stage F platform name planned implicit stage settings configured eligible tier
      dryRun draw signals
  exact ⟨decision, congrArg Prod.snd resolved, inside⟩

end

theorem stageless_fails (implicit : planned.explicit = false)
    (stage : planned.strategy = .stageRouter) (unset : planned.stageRouter = none)
    (nonempty : planned.eligible ≠ []) (dryRun : Bool) (draw : Nat) (signals : Signals F) :
    resolveNative platform planned dryRun draw signals =
      (signals.counters, .error "stage_router has no eligible tier target") := by
  unfold resolveNative
  cases list : planned.eligible with
  | nil => exact absurd list nonempty
  | cons first rest => simp [implicit, stage, chooseStageRoute, unset]

/-! ### Presets that name the stage router -/

/-- The preset asks for the stage router, and neither the virtual model nor the matching
rule has one. -/
def Stageless (platform : Platform F) (compiled : CompiledRoutingPolicy F)
    (requested text : String) : Prop :=
  ∃ found, compiled.resolveVirtualRequest (requestedName compiled.policy requested) =
      .ok (some found) ∧
    strategyKwarg found.kwargs = some .stageRouter ∧
    (compiled.select platform found text).strategy ≠ .stageRouter

theorem selector_stage (accepted : AcceptedPolicy policy)
    (selector : SelectorPlan platform (compileRoutingPolicy platform policy)
      (requestedName policy requested) text history available planned) :
    (planned.strategy = .stageRouter ∧ planned.stageRouter = none) ↔
      Stageless platform (compileRoutingPolicy platform policy) requested text := by
  obtain ⟨found, resolved, _, strategy, stage, _⟩ := selector.origin
  have fits := @select_fits F platform policy accepted _ text found resolved
  rw [strategy, stage]
  constructor
  · rintro ⟨isStage, unset⟩
    refine ⟨found, resolved, ?_⟩
    rcases fits with ⟨plain, _⟩ | ⟨_, settings, configured, _⟩
    · refine ⟨?_, plain⟩
      cases preset : strategyKwarg found.kwargs with
      | none =>
        rw [preset] at isStage
        exact absurd isStage plain
      | some named =>
        rw [preset] at isStage
        exact congrArg some isStage
    · rw [unset] at configured
      cases configured
  · rintro ⟨found', resolved', preset, plain⟩
    have same := resolved.symm.trans resolved'
    cases same
    refine ⟨by rw [preset]; rfl, ?_⟩
    rcases fits with ⟨_, unset⟩ | ⟨isStage, _⟩
    · exact unset
    · exact absurd isStage plain

/-- A plan resolves unless its preset asks for a stage router that is not configured. -/
theorem resolves_iff (accepted : AcceptedPolicy policy)
    (made : plan platform (some (compileRoutingPolicy platform policy)) requested text history
      available = .ok planned) :
    Resolves platform planned ↔
      ¬ Stageless platform (compileRoutingPolicy platform policy) requested text := by
  rcases plan_ok made with explicit | selector
  · constructor
    · rintro - ⟨found, resolved, _⟩
      have unowned := explicit.unowned
      have same := unowned.symm.trans resolved
      cases same
    · intro _
      apply resolves_explicit explicit.explicit
      rw [explicit.eligible]
      exact cons_ne_nil _ _
  · constructor
    · intro resolves stageless
      obtain ⟨stage, unset⟩ := (selector_stage accepted selector).mpr stageless
      obtain ⟨decision, succeeded, _⟩ :=
        resolves false 0 ⟨fun _ => 0, fun _ => platform.zero⟩
      rw [stageless_fails selector.implicit stage unset selector.nonempty] at succeeded
      cases succeeded
    · intro configured
      by_cases stage : planned.strategy = .stageRouter
      · obtain ⟨found, resolved, eligible, _, same, _⟩ := selector.origin
        have isSet : planned.stageRouter ≠ none :=
          fun unset => configured ((selector_stage accepted selector).mp ⟨stage, unset⟩)
        rcases @select_fits F platform policy accepted _ text found resolved with
          ⟨_, unset⟩ | ⟨_, settings, isSome, tiers⟩
        · exact absurd (same.trans unset) isSet
        · obtain ⟨name, listed⟩ := exists_mem_of_ne_nil _ selector.nonempty
          have inNames := (mem_admitted.mp (eligible ▸ listed)).1
          rw [selectedNames, if_neg tiers.nonempty] at inNames
          exact resolves_stage selector.implicit stage (same.trans isSome) listed
            (tiers.tiers name inNames)
      · exact resolves_strategy selector.nonempty selector.implicit stage

/-! ### Routing -/

theorem decisionOf_virtualModel (input : Input F) (decision : RouteDecision F) :
    (decisionOf platform input decision).virtualModel = decision.resolvedModel := by
  unfold decisionOf
  cases input.providerStatePin with
  | none | some pin => rfl

/-- `Stageless` at the runtime index of a manager. -/
def StagelessRequest (platform : Platform F) (runtime : Option (CompiledRoutingPolicy F))
    (requested text : String) : Prop :=
  ∃ compiled, runtime = some compiled ∧ Stageless platform compiled requested text

/-- Every input that leads to the plan is routed to one of its models. -/
def Routes (platform : Platform F) (runtime : Option (CompiledRoutingPolicy F))
    (requested text : String) (history : StageHistory F) (available : List String)
    (planned : RoutePlan F) : Prop :=
  ∀ input : Input F, routedName runtime input = requested → input.routingText = text →
    input.stageHistory = history → input.candidates = available →
    ∀ signals draw, ∃ decision, (route platform runtime signals false input draw).2 = .ok decision ∧
        decision.virtualModel ∈ planned.eligible

/-- After any publications, what a plan admits is available and enabled, and it is resolved
and routed to one of these models unless its preset asks for a stage router that neither
the virtual model nor the matching rule has. -/
theorem planned_resolves_iff {policy : RoutingPolicy F} {manager : RouterManager F}
    (created : newRouterManager platform policy = .ok manager) (calls : List (ManagerCall F))
    (requested text : String) (history : StageHistory F) (available : List String)
    {planned : RoutePlan F}
    (made : plan platform (run (step platform) manager calls).runtime requested text history
      available = .ok planned) :
    (∀ name ∈ planned.eligible, name ∈ available ∧
      (run (step platform) manager calls).policy.disabled name = false) ∧
    ((Resolves platform planned ∧ Routes platform (run (step platform) manager calls).runtime
        requested text history available planned) ↔
      ¬ StagelessRequest platform (run (step platform) manager calls).runtime requested text) := by
  have installed := run_installed created calls
  obtain ⟨effective, agrees, compiled⟩ := installed.compiled
  have accepted := (validateRoutingPolicy_accepted installed.accepted).agrees agrees
  have admits := plan_eligible (compiled ▸ made)
  constructor
  · intro name listed
    obtain ⟨isAvailable, enabled⟩ := admits.2 name listed
    exact ⟨isAvailable, (agrees.disabled name) ▸ enabled⟩
  · have exactly := resolves_iff accepted (compiled ▸ made)
    constructor
    · rintro ⟨resolves, _⟩ ⟨compiled', same, stageless⟩
      rw [compiled] at same
      cases same
      exact exactly.mp resolves stageless
    · intro configured
      have resolves := exactly.mpr fun stageless => configured ⟨_, compiled, stageless⟩
      refine ⟨resolves, ?_⟩
      rintro input rfl rfl rfl rfl signals draw
      obtain ⟨decision, resolved, inside⟩ := resolves false draw signals
      have offered := (admits.2 _ inside).1
      refine ⟨decisionOf platform input decision, ?_, ?_⟩
      · cases outcome : resolveNative platform planned false draw signals with
        | mk counters result =>
          rw [outcome] at resolved
          subst resolved
          simp [route, made, outcome, offered]
      · rw [decisionOf_virtualModel]
        exact inside

/-! ### A preset that cannot be resolved -/

/-- Whole numbers in place of floating-point ones. -/
def samplePlatform : Platform Int where
  decimal mantissa _ := mantissa
  ofInt := id
  add := (· + ·)
  sub := (· - ·)
  mul := (· * ·)
  div := (· / ·)
  max := max
  neg := Int.neg
  abs value := value.natAbs
  tanh := id
  infinity := 1000000
  smallestNonzero := 1
  less first second := first < second
  lessEq first second := first ≤ second
  equal first second := first == second
  isNaN _ := false
  isInf _ := false
  fixed _ value := toString value
  lower := id
  marshalled kwargs := some kwargs.entries.length
  decimal_distinct := by decide
  zero_below_one := by decide

def plainMetadata : ModelMetadata Int :=
  { metadataOf samplePlatform .empty "" with enabled := true }

/-- One virtual model with one preset over one model. -/
def presetPolicy (strategy : String) : RoutingPolicy Int where
  version := 2
  revision := 1
  defaultVirtualModel := "auto"
  virtualModels := OrderedMap.empty.insert "auto"
    { strategy := .balanced, models := ["m"]
      kwargs := OrderedMap.empty.insert "high"
        (some (OrderedMap.empty.insert "strategy" (.text strategy))) }
  models := OrderedMap.empty.insert "m" plainMetadata
  keywordRules := []

def presetManager (strategy : String) : RouterManager Int :=
  RouterManager.installPolicyLocked samplePlatform
    { policy := presetPolicy strategy, runtime := none, metadata := .empty
      deploymentMetadata := .empty, signals := ⟨fun _ => 0, fun _ => 0⟩ } (presetPolicy strategy)

theorem presetManager_runtime (strategy : String) :
    (presetManager strategy).runtime =
      some (compileRoutingPolicy samplePlatform (presetPolicy strategy)) := by
  simp only [presetManager, installPolicyLocked, recompiled]
  rw [effectivePolicy_plain _ rfl rfl]

/-- The plan for a preset of `presetPolicy`, seen through a function of plans. -/
def presetPlanned {Value : Type} (strategy : String) (view : RoutePlan Int → Value) :
    Option Value :=
  match plan samplePlatform (some (compileRoutingPolicy samplePlatform (presetPolicy strategy)))
    "auto:high" "" {} ["m"] with
  | .error _ => none
  | .ok planned => some (view planned)

theorem presetPlanned_some {Value : Type} {strategy : String} {view : RoutePlan Int → Value}
    {value : Value} (seen : presetPlanned strategy view = some value) :
    ∃ planned, plan samplePlatform (presetManager strategy).runtime "auto:high" "" {} ["m"] =
      .ok planned ∧ view planned = value := by
  rw [presetManager_runtime]
  unfold presetPlanned at seen
  split at seen
  next => cases seen
  next planned made =>
    cases seen
    exact ⟨planned, made, rfl⟩

def failureOf {Value : Type} : Except String Value → String
  | .error failure => failure
  | .ok _ => ""

theorem stage_preset_unresolved :
    ∃ manager planned, newRouterManager samplePlatform (presetPolicy "stage_router") = .ok manager ∧
      plan samplePlatform manager.runtime "auto:high" "" {} ["m"] = .ok planned ∧
      failureOf (resolveNative samplePlatform planned false 0 ⟨fun _ => 0, fun _ => 0⟩).2 =
        "stage_router has no eligible tier target" := by
  have seen : presetPlanned "stage_router" (fun planned =>
      failureOf (resolveNative samplePlatform planned false 0 ⟨fun _ => 0, fun _ => 0⟩).2) =
      some "stage_router has no eligible tier target" := by decide +kernel
  obtain ⟨planned, made, failed⟩ := presetPlanned_some seen
  exact ⟨presetManager "stage_router", planned, rfl, made, failed⟩

theorem planned_resolves_iff_smallest :
    ∃ manager planned, newRouterManager samplePlatform (presetPolicy "smallest") = .ok manager ∧
      plan samplePlatform manager.runtime "auto:high" "" {} ["m"] = .ok planned ∧
      planned.eligible = ["m"] ∧ Resolves samplePlatform planned ∧
      Routes samplePlatform manager.runtime "auto:high" "" {} ["m"] planned := by
  have seen : presetPlanned "smallest" RoutePlan.eligible = some ["m"] := by decide +kernel
  obtain ⟨planned, made, eligible⟩ := presetPlanned_some seen
  have created : newRouterManager samplePlatform (presetPolicy "smallest") =
      .ok (presetManager "smallest") := rfl
  refine ⟨presetManager "smallest", planned, created, made, eligible, ?_⟩
  apply (planned_resolves_iff created [] "auto:high" "" {} ["m"] made).2.mpr
  rintro ⟨compiled, same, found, resolved, preset, _⟩
  cases same
  have kwargs : ((compileRoutingPolicy samplePlatform
      (presetPolicy "smallest")).resolveVirtualRequest
        (requestedName (presetPolicy "smallest") "auto:high")).toOption.join.bind
          (fun found => strategyKwarg found.kwargs) = some .smallest := by decide +kernel
  have resolved : (compileRoutingPolicy samplePlatform
      (presetPolicy "smallest")).resolveVirtualRequest
        (requestedName (presetPolicy "smallest") "auto:high") = .ok (some found) := resolved
  rw [resolved] at kwargs
  change strategyKwarg found.kwargs = some .smallest at kwargs
  rw [preset] at kwargs
  cases kwargs

end SparkRoute.ModelRouter
