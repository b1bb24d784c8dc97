import SparkRoute.ModelRouter.Manager

/-!
# What an accepted policy guarantees

The facts of `validateRoutingPolicy` that planning relies on: a stage router has its two
tiers as its only models, its presets change neither strategy nor models, and a rule that
names no virtual model is no stage router.
-/

namespace SparkRoute.ModelRouter

open Lib Config List

variable {F : Type} {platform : Platform F} {policy : RoutingPolicy F}

/-! ### Virtual models -/

structure StageTiers (settings : StageRouterPolicy F) (models : List String) : Prop where
  nonempty : models ≠ []
  tiers : ∀ name ∈ models, name = settings.capableModel ∨ name = settings.efficientModel

theorem pair_members {Item : Type} {items : List Item} {first second : Item}
    (two : items.length = 2) (one : first ∈ items) (other : second ∈ items)
    (distinct : first ≠ second) {item : Item} (listed : item ∈ items) :
    item = first ∨ item = second := by
  match items, two with
  | [left, right], _ =>
    simp only [mem_cons, not_mem_nil, or_false] at one other listed
    rcases one with rfl | rfl <;> rcases other with rfl | rfl
    · exact absurd rfl distinct
    · exact listed
    · exact listed.symm
    · exact absurd rfl distinct

variable {virtual : VirtualModel F}

theorem validateStageSettings_tiers {settings : StageRouterPolicy F}
    (accepted : validateStageSettings platform virtual settings = .ok ()) :
    StageTiers settings virtual.models := by
  obtain ⟨_, names, rest⟩ := bind_eq_ok.mp accepted
  obtain ⟨_, models, _⟩ := bind_eq_ok.mp rest
  have names := refuse_eq_ok.mp names
  have models := refuse_eq_ok.mp models
  simp only [Bool.or_eq_false_iff, beq_eq_false_iff_ne, ne_eq] at names
  simp only [Bool.or_eq_false_iff, ne_eq, decide_not, Bool.not_eq_false', decide_eq_true_eq,
    contains_iff_mem] at models
  constructor
  · intro none
    rw [none] at models
    cases models.1.1
  · intro name listed
    exact pair_members models.1.1 models.1.2 models.2 names.2 listed

theorem validateStageRouterPolicy_cases
    (accepted : validateStageRouterPolicy platform virtual = .ok ()) :
    (virtual.strategy ≠ .stageRouter ∧ virtual.stageRouter = none) ∨
      (virtual.strategy = .stageRouter ∧ ∃ settings, virtual.stageRouter = some settings ∧
        StageTiers settings virtual.models) := by
  unfold validateStageRouterPolicy at accepted
  split at accepted
  next other =>
    have none := refuse_eq_ok.mp accepted
    exact Or.inl ⟨other, by simpa using none⟩
  next stage =>
    cases settings : virtual.stageRouter with
    | none =>
      rw [settings] at accepted
      cases accepted
    | some settings' =>
      rw [settings] at accepted
      exact Or.inr ⟨not_not.mp stage, settings', rfl, validateStageSettings_tiers accepted⟩

structure AcceptedVirtual (virtual : VirtualModel F) : Prop where
  stage : (virtual.strategy ≠ .stageRouter ∧ virtual.stageRouter = none) ∨
    (virtual.strategy = .stageRouter ∧ ∃ settings, virtual.stageRouter = some settings ∧
      StageTiers settings virtual.models)
  presets : virtual.strategy = .stageRouter → ∀ preset kwargs,
    virtual.kwargs.get preset = some kwargs →
    (kwargs.getD .empty).get "strategy" = none ∧ (kwargs.getD .empty).get "models" = none

variable {models : OrderedMap String (ModelMetadata F)}

theorem validatePreset_fixed {kwargs : Kwargs}
    (accepted : validatePreset platform virtual models kwargs = .ok ())
    (stage : virtual.strategy = .stageRouter) :
    kwargs.get "strategy" = none ∧ kwargs.get "models" = none := by
  obtain ⟨_, _, rest⟩ := bind_eq_ok.mp accepted
  obtain ⟨_, strategies, models⟩ := bind_eq_ok.mp rest
  have strategies := refuse_eq_ok.mp strategies
  have models := refuse_eq_ok.mp models
  simp only [stage, beq_self_eq_true, Bool.true_and, Option.isSome_eq_false_iff,
    Option.isNone_iff_eq_none] at strategies models
  exact ⟨strategies, models⟩

theorem mem_of_get {Value : Type} {map : OrderedMap String Value} {key : String} {value : Value}
    (found : map.get key = some value) : (key, value) ∈ map.entries := by
  obtain ⟨entry, listed, rfl⟩ := mem_map.mp (OrderedMap.mem_keys.mpr ⟨value, found⟩)
  have same := OrderedMap.get_of_mem listed
  rw [found] at same
  cases same
  exact listed

theorem validateVirtualModel_accepted {name : String}
    (accepted : validateVirtualModel platform models name virtual = .ok ()) :
    AcceptedVirtual virtual := by
  obtain ⟨_, _, rest⟩ := bind_eq_ok.mp accepted
  obtain ⟨_, _, rest⟩ := bind_eq_ok.mp rest
  obtain ⟨_, _, rest⟩ := bind_eq_ok.mp rest
  obtain ⟨_, stage, rest⟩ := bind_eq_ok.mp rest
  obtain ⟨_, presets, _⟩ := bind_eq_ok.mp rest
  refine ⟨validateStageRouterPolicy_cases (located_eq_ok.mp stage), ?_⟩
  intro isStage preset kwargs found
  have checked := forM_eq_ok.mp presets _ (mem_of_get found)
  exact validatePreset_fixed (located_eq_ok.mp checked) isStage

/-! ### Rules -/

structure AcceptedRule (policy : RoutingPolicy F) (rule : KeywordRule) : Prop where
  keywords : rule.keywords ≠ []
  nonempty : ∀ keyword ∈ rule.keywords, trimSpace keyword ≠ ""
  target : (rule.virtualModel ≠ "" ∧
      ∃ virtual, policy.virtualModels.get rule.virtualModel = some virtual) ∨
    (rule.virtualModel = "" ∧ rule.strategy ≠ .stageRouter)

variable {rule : KeywordRule}

theorem validateRuleTarget_cases {subject : String}
    (accepted : validateRuleTarget policy subject rule = .ok ()) :
    (rule.virtualModel ≠ "" ∧
      ∃ virtual, policy.virtualModels.get rule.virtualModel = some virtual) ∨
    (rule.virtualModel = "" ∧ rule.strategy ≠ .stageRouter) := by
  unfold validateRuleTarget at accepted
  split at accepted
  next named =>
    obtain ⟨_, known, _⟩ := bind_eq_ok.mp accepted
    have known := refuse_eq_ok.mp known
    simp only [Option.isNone_eq_false_iff, Option.isSome_iff_exists] at known
    exact Or.inl ⟨named, known⟩
  next unnamed =>
    obtain ⟨_, stage, _⟩ := bind_eq_ok.mp accepted
    have stage := refuse_eq_ok.mp stage
    simp only [beq_eq_false_iff_ne, ne_eq] at stage
    exact Or.inr ⟨not_not.mp unnamed, stage⟩

theorem validateRule_accepted {index : Nat} (accepted : validateRule policy index rule = .ok ()) :
    AcceptedRule policy rule := by
  obtain ⟨_, some, rest⟩ := bind_eq_ok.mp accepted
  obtain ⟨_, _, rest⟩ := bind_eq_ok.mp rest
  obtain ⟨_, _, rest⟩ := bind_eq_ok.mp rest
  obtain ⟨_, keywords, target⟩ := bind_eq_ok.mp rest
  refine ⟨?_, ?_, validateRuleTarget_cases target⟩
  · intro none
    rw [none] at some
    cases some
  · intro keyword listed blank
    have checked := refuse_eq_ok.mp (forM_eq_ok.mp keywords keyword listed)
    simp [invalidText, blank] at checked

/-! ### Policies -/

structure AcceptedPolicy (policy : RoutingPolicy F) : Prop where
  virtuals : ∀ name virtual, policy.virtualModels.get name = some virtual →
    AcceptedVirtual virtual
  rules : ∀ rule ∈ policy.keywordRules, AcceptedRule policy rule

theorem validateRoutingPolicy_accepted
    (accepted : validateRoutingPolicy platform policy = .ok ()) : AcceptedPolicy policy := by
  obtain ⟨_, _, rest⟩ := bind_eq_ok.mp accepted
  obtain ⟨_, _, rest⟩ := bind_eq_ok.mp rest
  obtain ⟨_, _, rest⟩ := bind_eq_ok.mp rest
  obtain ⟨_, _, rest⟩ := bind_eq_ok.mp rest
  obtain ⟨_, _, rest⟩ := bind_eq_ok.mp rest
  obtain ⟨_, _, rest⟩ := bind_eq_ok.mp rest
  obtain ⟨_, _, rest⟩ := bind_eq_ok.mp rest
  obtain ⟨_, virtuals, rest⟩ := bind_eq_ok.mp rest
  obtain ⟨_, _, rest⟩ := bind_eq_ok.mp rest
  obtain ⟨_, _, rules⟩ := bind_eq_ok.mp rest
  constructor
  · intro name virtual found
    exact validateVirtualModel_accepted (forM_eq_ok.mp virtuals _ (mem_of_get found))
  · intro rule listed
    obtain ⟨index, located⟩ := List.getElem?_of_mem listed
    have numbered : (rule, index) ∈ policy.keywordRules.zipIdx :=
      mk_mem_zipIdx_iff_getElem?.mpr located
    exact validateRule_accepted (forM_eq_ok.mp rules _ numbered)

theorem AcceptedPolicy.agrees {effective : RoutingPolicy F} (accepted : AcceptedPolicy policy)
    (agrees : RouterManager.Agrees policy effective) : AcceptedPolicy effective where
  virtuals := agrees.virtualModels ▸ accepted.virtuals
  rules rule listed := by
    have old := accepted.rules rule (agrees.keywordRules ▸ listed)
    exact ⟨old.keywords, old.nonempty, agrees.virtualModels ▸ old.target⟩

/-! ### The compiled index -/

variable {base : CompiledVirtualBase F}

section

variable {bases : OrderedMap String (CompiledVirtualBase F)} {entry : String × VirtualModel F}
  {owned : CompiledVirtualBase F → Prop} {key : String}
  (before : ∀ key base, bases.get key = some base → owned base)
  (own : ∀ aliasName, owned { name := entry.1, aliasName, virtual := entry.2 })

include before own

theorem insert_owned (name aliasName other : String) (base : CompiledVirtualBase F)
    (found : (bases.insert name { name := entry.1, aliasName, virtual := entry.2 }).get other =
      some base) : owned base := by
  rw [OrderedMap.get_insert] at found
  split at found
  next =>
    cases found
    exact own aliasName
  next => exact before other base found

theorem addAliases_owned {aliases : List String} (found : (aliases.foldl (fun bases aliasName =>
      bases.insert aliasName { name := entry.1, aliasName, virtual := entry.2 }) bases).get key =
        some base) : owned base := by
  induction aliases generalizing bases with
  | nil => exact before key base found
  | cons aliasName rest ih => exact ih (insert_owned before own aliasName aliasName) found

theorem addBases_owned (found : (addBases bases entry).get key = some base) : owned base :=
  addAliases_owned (insert_owned before own entry.1 "") own found

end

theorem virtualBases_owned {key : String}
    (found : (compileRoutingPolicy platform policy).virtualBases.get key = some base) :
    policy.virtualModels.get base.name = some base.virtual := by
  have general : ∀ (entries : List (String × VirtualModel F))
      (bases : OrderedMap String (CompiledVirtualBase F)),
      (∀ entry ∈ entries, policy.virtualModels.get entry.1 = some entry.2) →
      (∀ key base, bases.get key = some base →
        policy.virtualModels.get base.name = some base.virtual) →
      ∀ key base, (entries.foldl addBases bases).get key = some base →
        policy.virtualModels.get base.name = some base.virtual := by
    intro entries
    induction entries with
    | nil => exact fun bases _ before => before
    | cons entry rest ih =>
      intro bases listed before
      apply ih (addBases bases entry)
        fun other later => listed other (mem_cons_of_mem _ later)
      intro key base found
      exact addBases_owned before (fun _ => listed entry mem_cons_self) found
  apply general policy.virtualModels.entries .empty
    (fun entry listed => OrderedMap.get_of_mem listed) _ key base found
  intro other base' absent
  cases absent

/-- A match belongs to a virtual model, with its preset or with none. -/
theorem resolveVirtualRequest_owned {requested : String} {found : VirtualRequestMatch F}
    (resolved : (compileRoutingPolicy platform policy).resolveVirtualRequest requested =
      .ok (some found)) :
    policy.virtualModels.get found.name = some found.virtual ∧
      (found.kwargs = .empty ∨ ∃ preset kwargs,
        found.virtual.kwargs.get preset = some kwargs ∧ found.kwargs = kwargs.getD .empty) := by
  revert resolved
  fun_cases CompiledRoutingPolicy.resolveVirtualRequest <;> rintro ⟨⟩
  next base baseFound configured hasDefault =>
    exact ⟨virtualBases_owned baseFound, Or.inr ⟨"default", configured, hasDefault, rfl⟩⟩
  next base baseFound _ => exact ⟨virtualBases_owned baseFound, Or.inl rfl⟩
  next prefixed preset parts base baseFound kwargs hasPreset =>
    exact ⟨virtualBases_owned baseFound, Or.inr ⟨preset, kwargs, hasPreset, rfl⟩⟩

/-! ### Selections -/

/-- Strategy, models and settings fit together. -/
def Selected.Fits (selected : Selected F) : Prop :=
  (selected.strategy ≠ .stageRouter ∧ selected.stage = none) ∨
    (selected.strategy = .stageRouter ∧ ∃ settings, selected.stage = some settings ∧
      StageTiers settings selected.names)

theorem selectedByRule_fits (accepted : AcceptedPolicy policy) (listed : rule ∈ policy.keywordRules)
    (index : Nat) : (selectedByRule policy rule index).Fits := by
  unfold selectedByRule
  rcases (accepted.rules rule listed).target with ⟨named, virtual, found⟩ | ⟨unnamed, plain⟩
  · rw [if_pos named, found]
    exact (accepted.virtuals _ virtual found).stage
  · rw [if_neg (not_not.mpr unnamed)]
    exact Or.inl ⟨plain, rfl⟩

theorem firstRule_listed {text : String} {entry : CompiledKeywordRule × Nat}
    (first : (compileRoutingPolicy platform policy).firstRule text = some entry) :
    entry.1.rule ∈ policy.keywordRules := by
  have numbered := mem_of_find?_eq_some first
  have listed := fst_mem_of_mem_zipIdx numbered
  obtain ⟨rule, original, same⟩ := mem_map.mp listed
  rw [← same]
  exact original

theorem select_fits (accepted : AcceptedPolicy policy) {requested text : String}
    {found : VirtualRequestMatch F}
    (resolved : (compileRoutingPolicy platform policy).resolveVirtualRequest requested =
      .ok (some found)) :
    ((compileRoutingPolicy platform policy).select platform found text).Fits := by
  unfold CompiledRoutingPolicy.select
  split
  next entry first => exact selectedByRule_fits accepted (firstRule_listed first) entry.2
  next =>
    obtain ⟨own, origin⟩ := resolveVirtualRequest_owned resolved
    have virtual := accepted.virtuals _ _ own
    rcases virtual.stage with plain | ⟨stage, settings, isSome, tiers⟩
    · exact Or.inl plain
    · refine Or.inr ⟨stage, settings, isSome, ?_⟩
      have unchanged : virtualModelsWithOverrides found.virtual found.kwargs =
          found.virtual.models := by
        unfold virtualModelsWithOverrides
        rcases origin with empty | ⟨preset, kwargs, isPreset, same⟩
        · rw [empty]
          rfl
        · rw [same]
          simp [modelsKwarg, (virtual.presets stage preset kwargs isPreset).2]
      rw [unchanged]
      exact tiers

end SparkRoute.ModelRouter
