import SparkRoute.ModelRouter.Resolution
import Mathlib.Algebra.Order.BigOperators.Group.List
import Mathlib.Data.List.Dedup
import Mathlib.Data.List.Infix
import Mathlib.Data.List.TakeWhile

/-!
# Provider-state pins

A request that consumes provider-owned state is pinned to one model.  The pin is looked up
like any other name, so it decides the model exactly when that lookup cannot lead anywhere
else: for names outside the selector namespace, and for selectors that are as good as none.
-/

namespace SparkRoute.ModelRouter

open Lib Config RouterManager List CompiledRoutingPolicy

variable {F : Type} {platform : Platform F}

/-! ### What a pin promises -/

def PinnedTo (model : String) (input : Input F) : Prop :=
  ∃ kind, input.providerStatePin = some ⟨model, kind⟩

/-- The same request with another text and another history. -/
def withFeatures (input : Input F) (text : String) (history : StageHistory F) : Input F :=
  { input with routingText := text, stageHistory := history }

/-- The promise of a pin to `model`; `disabled` says whether the policy disables it. -/
structure RespectsPin (platform : Platform F) (runtime : Option (CompiledRoutingPolicy F))
    (disabled : Bool) (model : String) : Prop where
  decides : ∀ signals cancelled input draw decision, PinnedTo model input →
    (route platform runtime signals cancelled input draw).2 = .ok decision →
      decision.virtualModel = model
  succeeds : ∀ signals input draw, PinnedTo model input → model ∈ input.candidates →
    disabled = false →
      ∃ decision, (route platform runtime signals false input draw).2 = .ok decision
  counters : ∀ signals cancelled input draw, PinnedTo model input →
    (route platform runtime signals cancelled input draw).1 = signals.counters
  independent : ∀ signals cancelled input draw text history, PinnedTo model input →
    (route platform runtime signals cancelled (withFeatures input text history) draw).2 =
      (route platform runtime signals cancelled input draw).2

/-! ### When it is kept -/

/-- The models that a selector admits for a text. -/
def admits (platform : Platform F) (compiled : CompiledRoutingPolicy F)
    (found : VirtualRequestMatch F) (text : String) (available : List String) : List String :=
  admitted compiled.policy available
    (selectedNames compiled available (compiled.select platform found text))

def finalStrategy (platform : Platform F) (compiled : CompiledRoutingPolicy F)
    (found : VirtualRequestMatch F) (text : String) : Strategy :=
  (strategyKwarg found.kwargs).getD (compiled.select platform found text).strategy

/-- The selector fails for every list of candidates. -/
def Refusing (platform : Platform F) (compiled : CompiledRoutingPolicy F)
    (found : VirtualRequestMatch F) (text : String) : Prop :=
  ((compiled.select platform found text).names ≠ [] ∧
      ∀ name ∈ (compiled.select platform found text).names, compiled.policy.disabled name = true) ∨
    (finalStrategy platform compiled found text = .stageRouter ∧
      (compiled.select platform found text).stage = none)

/-- The selector always refuses, in the same way for every text. -/
structure AlwaysRefusing (platform : Platform F) (compiled : CompiledRoutingPolicy F)
    (found : VirtualRequestMatch F) : Prop where
  refusing : ∀ text, Refusing platform compiled found text
  alike : ∀ text text' available, admits platform compiled found text available = [] ↔
    admits platform compiled found text' available = []

/-- No rule applies, the one enabled model is `model`, and the strategy neither counts nor
reads the history. -/
structure Fixed (platform : Platform F) (compiled : CompiledRoutingPolicy F)
    (found : VirtualRequestMatch F) (model : String) : Prop where
  unruled : compiled.rules = []
  listed : model ∈ (compiled.select platform found "").names
  enabled : compiled.policy.disabled model = false
  only : ∀ name ∈ (compiled.select platform found "").names,
    compiled.policy.disabled name = false → name = model
  uncounted : finalStrategy platform compiled found "" ≠ .roundRobin ∧
    finalStrategy platform compiled found "" ≠ .weightedRoundRobin
  unstaged : finalStrategy platform compiled found "" ≠ .stageRouter

def PinSafe (platform : Platform F) (compiled : CompiledRoutingPolicy F) (model : String) : Prop :=
  match compiled.resolveVirtualRequest (requestedName compiled.policy model) with
  | .error _ => compiled.policy.disabled model = true
  | .ok none => requestedName compiled.policy model = model ∨
      compiled.policy.disabled (requestedName compiled.policy model) = true ∧
        compiled.policy.disabled model = true
  | .ok (some found) =>
    AlwaysRefusing platform compiled found ∧ compiled.policy.disabled model = true ∨
      Fixed platform compiled found model

/-- The promise of a pin under the policy that decides it. -/
abbrev Respected (platform : Platform F) (compiled : CompiledRoutingPolicy F) (model : String) :
    Prop :=
  RespectsPin platform (some compiled) (compiled.policy.disabled model) model

/-- The name leads to the selector `found`. -/
abbrev Owned (compiled : CompiledRoutingPolicy F) (model : String)
    (found : VirtualRequestMatch F) : Prop :=
  compiled.resolveVirtualRequest (requestedName compiled.policy model) = .ok (some found)

abbrev Unowned (compiled : CompiledRoutingPolicy F) (model : String) : Prop :=
  compiled.resolveVirtualRequest (requestedName compiled.policy model) = .ok none

/-! ### Names outside the selector namespace -/

section

variable {compiled : CompiledRoutingPolicy F} {model : String} {signals : Signals F}
  {input : Input F} {draw : Nat} {text : String} {history : StageHistory F}
  {available : List String}

theorem pinned_routedName (pinned : PinnedTo model input)
    (runtime : Option (CompiledRoutingPolicy F)) : routedName runtime input = model := by
  obtain ⟨kind, pin⟩ := pinned
  simp [routedName, pin]

def pinnedInput (model candidate text : String) (history : StageHistory F) : Input F :=
  ⟨"", "", some ⟨model, ""⟩, [candidate], text, history⟩

theorem pinnedInput_pinned (model candidate text : String) (history : StageHistory F) :
    PinnedTo model (pinnedInput model candidate text history) := ⟨"", rfl⟩

theorem PinnedTo.withFeatures (pinned : PinnedTo model input) (text : String)
    (history : StageHistory F) : PinnedTo model (withFeatures input text history) := pinned

theorem route_cancelled (runtime : Option (CompiledRoutingPolicy F)) :
    route platform runtime signals true input draw =
      (signals.counters, .error "context canceled") := by
  simp [route]

variable {failure : String}

theorem route_failed (pinned : PinnedTo model input)
    (made : plan platform (some compiled) model input.routingText input.stageHistory
      input.candidates = .error failure) :
    route platform (some compiled) signals false input draw =
      (signals.counters, .error failure) := by
  simp only [route, Bool.false_eq_true, if_false, pinned_routedName pinned, made]

variable {planned : RoutePlan F}

theorem route_resolved (pinned : PinnedTo model input) {counters : String → Nat}
    {decision : RouteDecision F}
    (made : plan platform (some compiled) model input.routingText input.stageHistory
      input.candidates = .ok planned)
    (resolved : resolveNative platform planned false draw signals = (counters, .ok decision))
    (inside : decision.resolvedModel ∈ input.candidates) :
    route platform (some compiled) signals false input draw =
      (counters, .ok (decisionOf platform input decision)) := by
  simp only [route, Bool.false_eq_true, if_false, pinned_routedName pinned, made, resolved,
    contains_iff_mem.mpr inside, if_true]

theorem plan_unresolved
    (unresolved : compiled.resolveVirtualRequest (requestedName compiled.policy model) =
      .error failure) :
    plan platform (some compiled) model text history available = .error failure := by
  simp only [plan, unresolved]

theorem plan_unowned (unowned : Unowned compiled model) :
    plan platform (some compiled) model text history available =
      explicitPlan compiled.policy available (requestedName compiled.policy model) := by
  simp only [plan, unowned]

theorem plan_owned {found : VirtualRequestMatch F} (owned : Owned compiled model found) :
    plan platform (some compiled) model text history available =
      virtualPlan platform compiled (requestedName compiled.policy model) text history available
        found := by
  simp only [plan, owned]

/-- The promise is kept by requests that leave the counters alone, decide only for the
pinned model and do not read the text and the history. -/
theorem respects_of_answers {disabled : Bool}
    (answers : ∀ signals input draw, PinnedTo model input → ∃ answer,
      route platform (some compiled) signals false input draw = (signals.counters, answer) ∧
      (∀ decision, answer = .ok decision → decision.virtualModel = model) ∧
      (model ∈ input.candidates → disabled = false → ∃ decision, answer = .ok decision))
    (independent : ∀ signals input draw text history, PinnedTo model input →
      (route platform (some compiled) signals false (withFeatures input text history) draw).2 =
        (route platform (some compiled) signals false input draw).2) :
    RespectsPin platform (some compiled) disabled model where
  decides signals cancelled input draw decision pinned succeeded := by
    cases cancelled with
    | true => simp [route_cancelled] at succeeded
    | false =>
      obtain ⟨answer, routed, decides, _⟩ := answers signals input draw pinned
      rw [routed] at succeeded
      exact decides decision succeeded
  succeeds signals input draw pinned listed enabled := by
    obtain ⟨answer, routed, _, succeeds⟩ := answers signals input draw pinned
    rw [routed]
    exact succeeds listed enabled
  counters signals cancelled input draw pinned := by
    cases cancelled with
    | true => rw [route_cancelled]
    | false =>
      obtain ⟨answer, routed, _⟩ := answers signals input draw pinned
      rw [routed]
  independent signals cancelled input draw text history pinned := by
    cases cancelled with
    | true => rw [route_cancelled, route_cancelled]
    | false => exact independent signals input draw text history pinned

/-- A request that always fails keeps the promise for a disabled model. -/
theorem respects_failing (disabled : compiled.policy.disabled model = true)
    (fails : ∀ signals input draw, PinnedTo model input → ∃ failure,
      ∀ text history, route platform (some compiled) signals false
        (withFeatures input text history) draw = (signals.counters, .error failure)) :
    Respected platform compiled model := by
  apply respects_of_answers
  · intro signals input draw pinned
    obtain ⟨failure, failed⟩ := fails signals input draw pinned
    exact ⟨_, failed input.routingText input.stageHistory, by simp, by simp [disabled]⟩
  · intro signals input draw text history pinned
    obtain ⟨failure, failed⟩ := fails signals input draw pinned
    have same := failed input.routingText input.stageHistory
    rw [failed text history]
    exact (congrArg Prod.snd same).symm

/-- A pin to a model that always fails is broken unless the model is disabled. -/
theorem disabled_of_failing (respects : Respected platform compiled model)
    (fails : ∀ signals input draw, PinnedTo model input → ∃ failure,
      (route platform (some compiled) signals false input draw).2 = .error failure) :
    compiled.policy.disabled model = true := by
  cases enabled : compiled.policy.disabled model with
  | true => rfl
  | false =>
    have pinned := pinnedInput_pinned model model "" ({} : StageHistory F)
    have signals : Signals F := ⟨fun _ => 0, fun _ => platform.zero⟩
    obtain ⟨decision, succeeded⟩ :=
      respects.succeeds signals _ 0 pinned mem_cons_self enabled
    obtain ⟨failure, failed⟩ := fails signals _ 0 pinned
    rw [failed] at succeeded
    cases succeeded

/-! ### Unknown presets and explicit names -/

theorem respects_unresolved
    (unresolved : compiled.resolveVirtualRequest (requestedName compiled.policy model) =
      .error failure) :
    Respected platform compiled model ↔
      compiled.policy.disabled model = true := by
  constructor
  · intro respects
    apply disabled_of_failing respects
    intro signals input draw pinned
    exact ⟨failure, congrArg Prod.snd (route_failed pinned (plan_unresolved unresolved))⟩
  · intro disabled
    apply respects_failing disabled
    intro signals input draw pinned
    exact ⟨failure, fun text history =>
      route_failed (pinned.withFeatures text history) (plan_unresolved unresolved)⟩

variable {requested : String}

theorem resolveNative_explicit (explicit : planned.explicit = true)
    (eligible : planned.eligible = [requested]) (dryRun : Bool) (draw : Nat) (signals : Signals F) :
    ∃ decision, resolveNative platform planned dryRun draw signals =
        (signals.counters, .ok decision) ∧ decision.resolvedModel = requested := by
  unfold resolveNative
  rw [eligible]
  dsimp only
  rw [if_pos explicit]
  exact ⟨_, rfl, rfl⟩

theorem route_explicit (pinned : PinnedTo model input) (unowned : Unowned compiled model) :
    (∃ failure, explicitPlan compiled.policy input.candidates
        (requestedName compiled.policy model) = .error failure ∧
      route platform (some compiled) signals false input draw =
        (signals.counters, .error failure)) ∨
    ∃ planned decision, explicitPlan compiled.policy input.candidates
        (requestedName compiled.policy model) = .ok planned ∧
      resolveNative platform planned false draw signals = (signals.counters, .ok decision) ∧
      decision.resolvedModel = requestedName compiled.policy model ∧
      route platform (some compiled) signals false input draw =
        (signals.counters, .ok (decisionOf platform input decision)) := by
  have made : plan platform (some compiled) model input.routingText input.stageHistory
      input.candidates = _ := plan_unowned unowned
  cases outcome : explicitPlan compiled.policy input.candidates
      (requestedName compiled.policy model) with
  | error failure => exact Or.inl ⟨failure, rfl, route_failed pinned (made.trans outcome)⟩
  | ok planned =>
    have parts := explicitPlan_ok unowned outcome
    obtain ⟨decision, resolved, same⟩ := @resolveNative_explicit F platform planned _
      parts.explicit parts.eligible false draw signals
    refine Or.inr ⟨planned, decision, rfl, resolved, same, ?_⟩
    exact route_resolved pinned (made.trans outcome) resolved (same ▸ parts.available)

theorem explicitPlan_enabled (listed : requested ∈ available)
    (enabled : compiled.policy.disabled requested = false) :
    ∃ planned, explicitPlan compiled.policy available requested = .ok planned := by
  unfold explicitPlan
  rw [if_pos (contains_iff_mem.mpr listed), if_neg (by simp [enabled])]
  exact ⟨_, rfl⟩

theorem explicitPlan_disabled (available : List String)
    (disabled : compiled.policy.disabled requested = true) :
    ∃ failure, explicitPlan compiled.policy available requested = .error failure := by
  unfold explicitPlan
  by_cases listed : available.contains requested = true
  · rw [if_pos listed, if_pos disabled]
    exact ⟨_, rfl⟩
  · rw [if_neg listed]
    exact ⟨_, rfl⟩

theorem respects_direct (unowned : Unowned compiled model)
    (direct : requestedName compiled.policy model = model) : Respected platform compiled model := by
  apply respects_of_answers
  · intro signals input draw pinned
    rcases route_explicit pinned unowned with
      ⟨failure, failed, routed⟩ | ⟨_, decision, _, _, same, routed⟩
    · refine ⟨_, routed, by simp, fun listed enabled => ?_⟩
      obtain ⟨planned, made⟩ := explicitPlan_enabled listed enabled
      rw [direct, made] at failed
      cases failed
    · refine ⟨_, routed, ?_, by simp⟩
      rintro _ ⟨⟩
      rw [decisionOf_virtualModel, same, direct]
  · intro signals input draw text history pinned
    simp only [route, Bool.false_eq_true, if_false, pinned_routedName pinned,
      pinned_routedName (pinned.withFeatures text history), plan_unowned unowned]
    rfl

theorem respects_explicit (unowned : Unowned compiled model) :
    Respected platform compiled model ↔
      (requestedName compiled.policy model = model ∨
        compiled.policy.disabled (requestedName compiled.policy model) = true ∧
          compiled.policy.disabled model = true) := by
  constructor
  · intro respects
    by_cases direct : requestedName compiled.policy model = model
    · exact Or.inl direct
    · have disabled :
          compiled.policy.disabled (requestedName compiled.policy model) = true := by
        cases enabled : compiled.policy.disabled (requestedName compiled.policy model) with
        | true => rfl
        | false =>
          have pinned := pinnedInput_pinned model (requestedName compiled.policy model) ""
            ({} : StageHistory F)
          have signals : Signals F := ⟨fun _ => 0, fun _ => platform.zero⟩
          obtain ⟨planned, made⟩ :=
            explicitPlan_enabled (mem_singleton_self _) enabled
          rcases @route_explicit F platform compiled model signals _ 0 pinned unowned with
            ⟨_, failed, _⟩ | ⟨_, decision, _, _, same, routed⟩
          · cases made.symm.trans failed
          · have decided := respects.decides signals false _ 0 _ pinned
              (congrArg Prod.snd routed)
            rw [decisionOf_virtualModel, same] at decided
            exact absurd decided direct
      refine Or.inr ⟨disabled, ?_⟩
      apply disabled_of_failing respects
      intro signals input draw pinned
      obtain ⟨failure, failed⟩ := explicitPlan_disabled input.candidates disabled
      exact ⟨failure, congrArg Prod.snd
        (route_failed pinned ((plan_unowned unowned).trans failed))⟩
  · rintro (direct | ⟨disabled, unused⟩)
    · exact respects_direct unowned direct
    · apply respects_failing unused
      intro signals input draw pinned
      obtain ⟨failure, failed⟩ := explicitPlan_disabled input.candidates disabled
      exact ⟨failure, fun text history =>
        route_failed (pinned.withFeatures text history) ((plan_unowned unowned).trans failed)⟩

/-! ### Selectors -/

theorem advance_ne (counters : String → Nat) (key : String) : advance counters key ≠ counters := by
  intro same
  have atKey := congrFun same key
  simp only [advance, if_true] at atKey
  omega

def Strategy.counts (strategy : Strategy) : Prop :=
  strategy = .roundRobin ∨ strategy = .weightedRoundRobin

theorem choose_counters (strategy : Strategy) (names : List String)
    (models : OrderedMap String (ModelMetadata F)) (key : String) (draw : Nat)
    (signals : Signals F) :
    (strategy.counts ∧ (choose platform strategy names models key false draw signals).counters =
      advance signals.counters key) ∨
    (¬ strategy.counts ∧ (choose platform strategy names models key false draw signals).counters =
      signals.counters) := by
  cases strategy with
  | random =>
    refine Or.inr ⟨by simp [Strategy.counts], ?_⟩
    simp only [choose]
    split <;> rfl
  | roundRobin | weightedRoundRobin =>
    refine Or.inl ⟨by simp [Strategy.counts], ?_⟩
    simp only [choose]
    split <;> rfl
  | smallest | largest | lowestCost | fastest | balanced | stageRouter | other =>
    exact Or.inr ⟨by simp [Strategy.counts], rfl⟩

theorem resolveNative_strategy (nonempty : planned.eligible ≠ [])
    (implicit : planned.explicit = false) (plain : planned.strategy ≠ .stageRouter) (draw : Nat)
    (signals : Signals F) :
    ∃ counters decision, resolveNative platform planned false draw signals =
        (counters, .ok decision) ∧
      decision.resolvedModel ∈ planned.eligible ∧ decision.matchedRule = planned.matchedRule ∧
      ((planned.strategy.counts ∧ counters ≠ signals.counters) ∨
        (¬ planned.strategy.counts ∧ counters = signals.counters)) := by
  unfold resolveNative
  cases eligible : planned.eligible with
  | nil => exact absurd eligible nonempty
  | cons first rest =>
    dsimp only
    rw [if_neg (by simp [implicit]), if_neg plain]
    refine ⟨_, _, rfl, choose_mem (cons_ne_nil first rest), rfl, ?_⟩
    rcases @choose_counters F platform planned.strategy (first :: rest) planned.models
      (selectionKey planned) draw signals with ⟨counts, same⟩ | ⟨uncounted, same⟩
    · exact Or.inl ⟨counts, same ▸ advance_ne _ _⟩
    · exact Or.inr ⟨uncounted, same⟩

/-- An empty history and a compacted one are told apart. -/
theorem stageTier_histories (settings : StageRouterPolicy F) :
    (stageTier platform settings {}).confidence ≠
      (stageTier platform settings { compacted := true }).confidence := by
  have below : platform.lessEq platform.one platform.zero = false := platform.zero_below_one
  simp [stageTier, stageDimensions, below]
  exact platform.decimal_distinct

theorem decisionOf_matched (pinned : PinnedTo model input) (decision : RouteDecision F) :
    (decisionOf platform input decision).annotations.lookup "matched_rule" =
      if decision.matchedRule = "" then none else some decision.matchedRule := by
  obtain ⟨kind, pin⟩ := pinned
  have stage : ((decision.stage.map (stageAnnotations platform)).getD []).lookup
      "matched_rule" = none := by
    cases decision.stage with
    | none => rfl
    | some trace => simp [stageAnnotations, List.lookup_cons]
  have preset : (annotationIf "routing_preset" decision.routingPreset).lookup
      "matched_rule" = none := by
    unfold annotationIf
    split <;> rfl
  simp only [decisionOf, pin, annotationsOf, lookup_append, stage, preset]
  unfold annotationIf
  split
  next => simp [List.lookup_cons]
  next => simp [List.lookup_cons]

theorem decisionOf_stage (input : Input F) (decision : RouteDecision F) :
    (decisionOf platform input decision).stage = decision.stage := by
  unfold decisionOf
  cases input.providerStatePin with
  | none | some pin => rfl

end

/-! ### Texts and rules -/

theorem containsText_of_part {text keyword : String} {before after : List Char}
    (parts : text.toList = before ++ (keyword.toList ++ after)) :
    containsText text keyword = true := by
  unfold containsText
  rw [any_eq_true, parts]
  refine ⟨keyword.toList ++ after, ?_, by simp⟩
  exact (mem_tails _ _).mpr ⟨before, rfl⟩

theorem containsText_empty {keyword : String} (nonempty : keyword ≠ "") :
    containsText "" keyword = false := by
  have chars : keyword.toList ≠ [] := fun none => nonempty (String.toList_eq_nil_iff.mp none)
  cases letters : keyword.toList with
  | nil => exact absurd letters chars
  | cons first rest => simp [containsText, letters]

theorem toLower_ne_empty {text : String} (nonempty : text ≠ "") : platform.toLower text ≠ "" := by
  intro empty
  have letters := congrArg String.toList empty
  simp only [Platform.toLower, String.toList_ofList] at letters
  exact nonempty (String.toList_eq_nil_iff.mp (map_eq_nil_iff.mp letters))

variable {policy : RoutingPolicy F} {rule : KeywordRule}

theorem compileRule_length (accepted : AcceptedRule policy rule) :
    0 < (compileRule platform rule).keywords.length := by
  simp [compileRule, accepted.keywords, length_pos_iff]

theorem compileRule_blank (accepted : AcceptedRule policy rule) :
    (compileRule platform rule).matches "" = false := by
  have none : (compileRule platform rule).matched "" = 0 := by
    apply countP_eq_zero.mpr
    intro keyword listed
    obtain ⟨original, inRule, rfl⟩ := mem_map.mp listed
    rw [containsText_empty (toLower_ne_empty (accepted.nonempty original inRule))]
    exact Bool.false_ne_true
  unfold CompiledKeywordRule.matches
  rw [none]
  split
  next => simpa using (compileRule_length accepted).ne
  next => rfl

def keywordText (rule : KeywordRule) : String :=
  String.ofList (rule.keywords.flatMap fun keyword => (trimSpace keyword).toList)

theorem compileRule_matches (accepted : AcceptedRule policy rule) :
    (compileRule platform rule).matches (platform.toLower (keywordText rule)) = true := by
  have every : (compileRule platform rule).matched (platform.toLower (keywordText rule)) =
      (compileRule platform rule).keywords.length := by
    apply countP_eq_length.mpr
    intro keyword listed
    obtain ⟨original, inRule, rfl⟩ := mem_map.mp listed
    obtain ⟨before, after, split⟩ := append_of_mem inRule
    apply @containsText_of_part _ _
      ((before.flatMap fun keyword => (trimSpace keyword).toList).map platform.lower)
      ((after.flatMap fun keyword => (trimSpace keyword).toList).map platform.lower)
    simp [keywordText, Platform.toLower, split]
  unfold CompiledKeywordRule.matches
  rw [every]
  split
  next => exact beq_self_eq_true _
  next => simpa using compileRule_length accepted

section

variable {policy : RoutingPolicy F}

theorem firstRule_blank (accepted : AcceptedPolicy policy) :
    (compileRoutingPolicy platform policy).firstRule "" = none := by
  apply List.find?_eq_none.mpr
  intro entry numbered
  obtain ⟨rule, listed, same⟩ := mem_map.mp (fst_mem_of_mem_zipIdx numbered)
  rw [← same, compileRule_blank (accepted.rules rule listed)]
  exact Bool.false_ne_true

theorem select_blank (accepted : AcceptedPolicy policy) (found : VirtualRequestMatch F) :
    ((compileRoutingPolicy platform policy).select platform found "").matched = "" := by
  unfold CompiledRoutingPolicy.select
  rw [show platform.toLower "" = "" from rfl, firstRule_blank accepted]

theorem ruleName_ne (rule : KeywordRule) (index : Nat) : ruleName rule index ≠ "" := by
  unfold ruleName
  split
  next =>
    intro empty
    have first := congrArg (fun text => text.toList.head?) empty
    simp [toString] at first
  next named => exact named

/-- With rules, some text is matched by one. -/
theorem select_ruled (accepted : AcceptedPolicy policy) (found : VirtualRequestMatch F)
    (ruled : (compileRoutingPolicy platform policy).rules ≠ []) :
    ∃ text, ((compileRoutingPolicy platform policy).select platform found text).matched ≠ "" := by
  cases rules : policy.keywordRules with
  | nil => simp [compileRoutingPolicy, rules] at ruled
  | cons rule rest =>
    refine ⟨keywordText rule, ?_⟩
    have listed : rule ∈ policy.keywordRules := by simp [rules]
    have matched := @compileRule_matches F platform policy rule (accepted.rules rule listed)
    have first : (compileRoutingPolicy platform policy).firstRule
        (platform.toLower (keywordText rule)) = some (compileRule platform rule, 0) := by
      simp [firstRule, compileRoutingPolicy, rules, zipIdx_cons, matched]
    unfold CompiledRoutingPolicy.select
    rw [first]
    dsimp only
    unfold selectedByRule
    split <;> exact ruleName_ne _ _

theorem select_unruled {compiled : CompiledRoutingPolicy F} (unruled : compiled.rules = [])
    (found : VirtualRequestMatch F) (text : String) :
    compiled.select platform found text = compiled.select platform found "" := by
  simp [CompiledRoutingPolicy.select, firstRule, unruled]

/-! ### A name that no policy knows -/

def freshName (length : Nat) : String := String.ofList (List.replicate length 'x')

theorem freshName_letters {length : Nat} {letter : Char}
    (listed : letter ∈ (freshName length).toList) : letter = 'x' := by
  simp only [freshName, String.toList_ofList] at listed
  exact eq_of_mem_replicate listed

theorem dropWhile_none {Item : Type} {drops : Item → Bool} {items : List Item}
    (kept : ∀ item ∈ items, drops item = false) : items.dropWhile drops = items := by
  cases items with
  | nil => rfl
  | cons first rest => simp [List.dropWhile, kept first mem_cons_self]

theorem trimSpace_freshName (length : Nat) : trimSpace (freshName length) = freshName length := by
  have kept : ∀ letter ∈ (freshName length).toList, isSpace letter = false := by
    intro letter listed
    rw [freshName_letters listed]
    decide
  unfold trimSpace
  rw [dropWhile_none kept, dropWhile_none (fun letter listed =>
    kept letter (mem_reverse.mp listed)), reverse_reverse, String.ofList_toList]

theorem splitPreset_freshName (length : Nat) : splitPreset (freshName length) = none := by
  have kept : ∀ letter ∈ (freshName length).toList.reverse, (decide (letter ≠ ':')) = true := by
    intro letter listed
    rw [freshName_letters (mem_reverse.mp listed)]
    decide
  unfold splitPreset
  dsimp only
  rw [dropWhile_eq_nil_iff.mpr kept]
  simp

theorem freshName_exists (names : List String) : ∃ length, freshName length ∉ names := by
  refine ⟨(names.map String.length).sum + 1, ?_⟩
  intro listed
  have bounded : (freshName ((names.map String.length).sum + 1)).length ≤
      (names.map String.length).sum :=
    single_le_sum (fun _ _ => Nat.zero_le _) _ (mem_map_of_mem listed)
  simp [freshName] at bounded

/-- A wildcard admits the unknown name when it is the only candidate. -/
theorem wildcard_fresh (compiled : CompiledRoutingPolicy F) {length : Nat}
    (unowned : compiled.virtualBases.get (freshName length) = none) :
    compiled.wildcard [freshName length] = [freshName length] := by
  have free : compiled.ownsVirtualRequest (freshName length) = false := by
    simp [ownsVirtualRequest, trimSpace_freshName, unowned,
      splitPreset_freshName]
  unfold wildcard
  rw [dedup_cons_of_notMem not_mem_nil, dedup_nil, filter_cons_of_pos (by simp [free]), filter_nil]
  simp [sortByKey]

/-! ### Requests for a selector -/

abbrev StageUnset (platform : Platform F) (compiled : CompiledRoutingPolicy F)
    (found : VirtualRequestMatch F) (text : String) : Prop :=
  finalStrategy platform compiled found text = .stageRouter ∧
    (compiled.select platform found text).stage = none

variable {model : String} {found : VirtualRequestMatch F} {signals : Signals F}
  {input : Input F} {draw : Nat} {compiled : CompiledRoutingPolicy F}

def noEligible (requested : String) : String := s!"no eligible models for {quoted requested}"

def noTierTarget : String := "stage_router has no eligible tier target"

theorem noEligible_ne (requested : String) : noEligible requested ≠ noTierTarget := by
  have literal : "no eligible models for ".toList.head? = some 'n' := by decide
  have starts (rest : String) : ("no eligible models for " ++ rest).toList.head? = some 'n' := by
    rw [String.toList_append, head?_append, literal, Option.some_or]
  have other : noTierTarget.toList.head? ≠ some 'n' := by decide
  exact fun same => other (same ▸ starts _)

theorem route_ineligible (pinned : PinnedTo model input) (owned : Owned compiled model found)
    (none : admits platform compiled found input.routingText input.candidates = []) :
    route platform (some compiled) signals false input draw =
      (signals.counters, .error (noEligible (requestedName compiled.policy model))) :=
  route_failed pinned ((plan_owned owned).trans (if_pos none))

variable {available : List String} {text : String}

theorem plan_eligible_some (owned : Owned compiled model found) (history : StageHistory F)
    (some : admits platform compiled found text available ≠ []) :
    ∃ planned, plan platform (Option.some compiled) model text history available = .ok planned ∧
      planned.explicit = false ∧
      planned.eligible = admits platform compiled found text available ∧
      planned.strategy = finalStrategy platform compiled found text ∧
      planned.stageRouter = (compiled.select platform found text).stage ∧
      planned.matchedRule = (compiled.select platform found text).matched ∧
      planned.stageHistory = history :=
  ⟨_, (plan_owned owned).trans (if_neg some), rfl, rfl, rfl, rfl, rfl, rfl⟩

theorem admits_available {name : String}
    (listed : name ∈ admits platform compiled found text available) : name ∈ available :=
  (mem_admitted.mp listed).2.2

theorem route_stageless_pinned (pinned : PinnedTo model input) (owned : Owned compiled model found)
    (some : admits platform compiled found input.routingText input.candidates ≠ [])
    (stageless : StageUnset platform compiled found input.routingText) :
    route platform (Option.some compiled) signals false input draw =
      (signals.counters, .error noTierTarget) := by
  obtain ⟨planned, made, implicit, eligible, strategy, isStage, _⟩ :=
    plan_eligible_some owned input.stageHistory some
  have unresolved := @stageless_fails F platform planned implicit (strategy.trans stageless.1)
    (isStage.trans stageless.2) (eligible ▸ some) false draw signals
  simp only [route, Bool.false_eq_true, if_false, pinned_routedName pinned, made, unresolved]
  rfl

/-- A refusing selector fails, with an error that depends only on what it admits. -/
theorem route_refusing (pinned : PinnedTo model input) (owned : Owned compiled model found)
    (refusing : Refusing platform compiled found input.routingText) :
    route platform (some compiled) signals false input draw = (signals.counters, .error
      (if admits platform compiled found input.routingText input.candidates = [] then
        noEligible (requestedName compiled.policy model) else noTierTarget)) := by
  split
  next none => exact route_ineligible pinned owned none
  next some =>
    rcases refusing with ⟨named, disabled⟩ | stageless
    · exfalso
      obtain ⟨name, listed⟩ := exists_mem_of_ne_nil _ some
      obtain ⟨inNames, enabled, _⟩ := mem_admitted.mp listed
      rw [selectedNames, if_neg named] at inNames
      rw [disabled name inNames] at enabled
      cases enabled
    · exact route_stageless_pinned pinned owned some stageless

/-- A selector that does not refuse routes what it admits. -/
structure RoutedBy (platform : Platform F) (compiled : CompiledRoutingPolicy F)
    (found : VirtualRequestMatch F) (signals : Signals F) (input : Input F)
    (counters : String → Nat) (decision : RouteDecision F) : Prop where
  admitted : decision.resolvedModel ∈
    admits platform compiled found input.routingText input.candidates
  matched : decision.matchedRule = (compiled.select platform found input.routingText).matched
  counted : (finalStrategy platform compiled found input.routingText).counts ↔
    counters ≠ signals.counters
  staged : finalStrategy platform compiled found input.routingText = .stageRouter →
    ∃ settings trace, (compiled.select platform found input.routingText).stage = some settings ∧
      decision.stage = some trace ∧
      trace.confidence = (stageTier platform settings input.stageHistory).confidence

theorem route_selected (pinned : PinnedTo model input) (owned : Owned compiled model found)
    (fits : (compiled.select platform found input.routingText).Fits)
    (some : admits platform compiled found input.routingText input.candidates ≠ [])
    (staged : ¬ StageUnset platform compiled found input.routingText) :
    ∃ counters decision, route platform (Option.some compiled) signals false input draw =
        (counters, .ok (decisionOf platform input decision)) ∧
      RoutedBy platform compiled found signals input counters decision := by
  obtain ⟨planned, made, implicit, eligible, strategy, stage, matched, history⟩ :=
    plan_eligible_some owned input.stageHistory some
  have nonempty : planned.eligible ≠ [] := eligible ▸ some
  by_cases isStage : planned.strategy = .stageRouter
  · rcases fits with ⟨_, unset⟩ | ⟨_, settings, isSome, tiers⟩
    · exact absurd ⟨strategy ▸ isStage, unset⟩ staged
    · obtain ⟨name, listed⟩ := exists_mem_of_ne_nil _ nonempty
      have inNames := (mem_admitted.mp (eligible ▸ listed : name ∈ admitted _ _ _)).1
      rw [selectedNames, if_neg tiers.nonempty] at inNames
      obtain ⟨decision, resolved, inside, rule, trace, shown, confident⟩ :=
        @resolveNative_stage F platform name planned implicit isStage settings
          (stage.trans isSome) listed (tiers.tiers name inNames) false draw signals
      rw [eligible] at inside
      refine ⟨_, decision, route_resolved pinned made resolved (admits_available inside), ?_⟩
      refine ⟨inside, rule.trans matched, ?_, ?_⟩
      · rw [← strategy, isStage]
        simp [Strategy.counts]
      · intro _
        exact ⟨settings, trace, isSome, shown, history ▸ confident⟩
  · obtain ⟨counters, decision, resolved, inside, rule, counted⟩ :=
      @resolveNative_strategy F platform planned nonempty implicit isStage draw signals
    rw [eligible] at inside
    refine ⟨counters, decision, route_resolved pinned made resolved (admits_available inside), ?_⟩
    refine ⟨inside, rule.trans matched, ?_, ?_⟩
    · rw [← strategy]
      rcases counted with ⟨counts, changed⟩ | ⟨uncounted, same⟩
      · exact ⟨fun _ => changed, fun _ => counts⟩
      · exact ⟨fun counts => absurd counts uncounted, fun changed => absurd same changed⟩
    · intro stage
      exact absurd (strategy.trans stage) isStage

/-! ### Selectors that keep the promise -/

theorem respects_refusing (owned : Owned compiled model found)
    (refusing : AlwaysRefusing platform compiled found)
    (disabled : compiled.policy.disabled model = true) : Respected platform compiled model := by
  apply respects_failing disabled
  intro signals input draw pinned
  refine ⟨if admits platform compiled found input.routingText input.candidates = [] then
      noEligible (requestedName compiled.policy model) else noTierTarget,
    fun text history => ?_⟩
  rw [route_refusing (pinned.withFeatures text history) owned (refusing.refusing text)]
  have alike := refusing.alike text input.routingText input.candidates
  exact congrArg (fun failure => (signals.counters, Except.error failure))
    (if_congr alike rfl rfl)

theorem finalStrategy_unruled (unruled : compiled.rules = []) (text : String) :
    finalStrategy platform compiled found text = finalStrategy platform compiled found "" := by
  unfold finalStrategy
  rw [select_unruled unruled]

theorem virtualPlan_history {requested : String} (history history' : StageHistory F) :
    virtualPlan platform compiled requested text history' available found =
      (virtualPlan platform compiled requested text history available found).map
        fun planned => { planned with stageHistory := history' } := by
  by_cases none : admits platform compiled found text available = []
  · have failed (any : StageHistory F) : virtualPlan platform compiled requested text any
        available found = .error (noEligible requested) := if_pos none
    rw [failed history', failed history]
    rfl
  · obtain ⟨planned, made, made'⟩ : ∃ planned : RoutePlan F,
        virtualPlan platform compiled requested text history available found = .ok planned ∧
        virtualPlan platform compiled requested text history' available found =
          .ok { planned with stageHistory := history' } := ⟨_, if_neg none, if_neg none⟩
    rw [made, made']
    rfl

theorem virtualPlan_unruled (unruled : compiled.rules = []) (text : String)
    {requested text' : String} {history : StageHistory F} :
    virtualPlan platform compiled requested text' history available found =
      virtualPlan platform compiled requested text history available found := by
  unfold virtualPlan
  rw [select_unruled unruled found text', select_unruled unruled found text]

theorem resolveNative_history {planned : RoutePlan F} (plain : planned.strategy ≠ .stageRouter)
    (history : StageHistory F) :
    resolveNative platform { planned with stageHistory := history } false draw signals =
      resolveNative platform planned false draw signals := by
  unfold resolveNative
  cases planned.eligible with
  | nil => rfl
  | cons first rest =>
    rw [if_neg plain, if_neg plain]
    rfl

section

variable (fixed : Fixed platform compiled found model)

include fixed

theorem Fixed.admits_only {name : String} :
    name ∈ admits platform compiled found text available ↔
      name = model ∧ model ∈ available := by
  have named : (compiled.select platform found text).names ≠ [] := by
    rw [select_unruled fixed.unruled]
    exact ne_nil_of_mem fixed.listed
  unfold admits
  rw [mem_admitted, selectedNames, if_neg named, select_unruled fixed.unruled]
  constructor
  · rintro ⟨listed, enabled, isAvailable⟩
    have same := fixed.only name listed enabled
    exact ⟨same, same ▸ isAvailable⟩
  · rintro ⟨rfl, isAvailable⟩
    exact ⟨fixed.listed, fixed.enabled, isAvailable⟩

theorem Fixed.route (pinned : PinnedTo model input) (owned : Owned compiled model found)
    (fits : ∀ text, (compiled.select platform found text).Fits) :
    (model ∉ input.candidates ∧
      route platform (some compiled) signals false input draw =
        (signals.counters, .error (noEligible (requestedName compiled.policy model)))) ∨
    ∃ decision, route platform (some compiled) signals false input draw =
        (signals.counters, .ok decision) ∧ decision.virtualModel = model := by
  by_cases isAvailable : model ∈ input.candidates
  · have some : admits platform compiled found input.routingText input.candidates ≠ [] :=
      ne_nil_of_mem (fixed.admits_only.mpr ⟨rfl, isAvailable⟩)
    obtain ⟨counters, decision, routed, by_selector⟩ :=
      @route_selected F platform model found signals input draw compiled pinned owned
        (fits _) some fun staged =>
          fixed.unstaged ((finalStrategy_unruled fixed.unruled _).symm.trans staged.1)
    have uncounted : counters = signals.counters := by
      by_contra changed
      have counts := by_selector.counted.mpr changed
      rw [finalStrategy_unruled fixed.unruled] at counts
      rcases counts with first | second
      · exact fixed.uncounted.1 first
      · exact fixed.uncounted.2 second
    rw [uncounted] at routed
    refine Or.inr ⟨_, routed, ?_⟩
    rw [decisionOf_virtualModel]
    exact (fixed.admits_only.mp by_selector.admitted).1
  · refine Or.inl ⟨isAvailable, route_ineligible pinned owned ?_⟩
    apply eq_nil_iff_forall_not_mem.mpr
    intro name listed
    exact isAvailable (fixed.admits_only.mp listed).2

theorem Fixed.independent (pinned : PinnedTo model input) (owned : Owned compiled model found)
    (text : String) (history : StageHistory F) :
    (ModelRouter.route platform (some compiled) signals false (withFeatures input text history)
        draw).2 =
      (ModelRouter.route platform (some compiled) signals false input draw).2 := by
  simp only [ModelRouter.route, Bool.false_eq_true, if_false, pinned_routedName pinned,
    pinned_routedName (pinned.withFeatures text history), plan_owned owned]
  rw [virtualPlan_history input.stageHistory, virtualPlan_unruled fixed.unruled input.routingText]
  cases made : virtualPlan platform compiled (requestedName compiled.policy model)
      input.routingText input.stageHistory input.candidates found with
  | error failure =>
    simp only [withFeatures, made]
    rfl
  | ok planned =>
    have plain : planned.strategy ≠ .stageRouter := by
      obtain ⟨found', resolved, _, strategy, _⟩ := (virtualPlan_ok owned made).origin
      cases owned.symm.trans resolved
      exact fun stage => fixed.unstaged
        ((finalStrategy_unruled fixed.unruled _).symm.trans (strategy.symm.trans stage))
    simp only [withFeatures, made, Except.map, resolveNative_history plain history]
    rfl

theorem respects_fixed (owned : Owned compiled model found)
    (fits : ∀ text, (compiled.select platform found text).Fits) :
    Respected platform compiled model := by
  apply respects_of_answers
  · intro signals input draw pinned
    rcases fixed.route pinned owned fits with ⟨absent, routed⟩ | ⟨decision, routed, same⟩
    · exact ⟨_, routed, by simp, fun listed => absurd listed absent⟩
    · refine ⟨_, routed, ?_, by simp⟩
      rintro _ ⟨⟩
      exact same
  · intro signals input draw text history pinned
    exact fixed.independent pinned owned text history

end

/-! ### Selectors that break it -/

section

variable (owned : Owned compiled model found)
  (fits : ∀ text, (compiled.select platform found text).Fits)

include owned fits

theorem routed_matched (pinned : PinnedTo model input) {decision : Decision F}
    (succeeded : (route platform (some compiled) signals false input draw).2 = .ok decision) :
    decision.annotations.lookup "matched_rule" =
      if (compiled.select platform found input.routingText).matched = "" then none
      else some (compiled.select platform found input.routingText).matched := by
  by_cases none : admits platform compiled found input.routingText input.candidates = []
  · rw [route_ineligible pinned owned none] at succeeded
    cases succeeded
  · by_cases staged : StageUnset platform compiled found input.routingText
    · rw [route_stageless_pinned pinned owned none staged] at succeeded
      cases succeeded
    · obtain ⟨counters, chosen, routed, by_selector⟩ :=
        @route_selected F platform model found signals input draw compiled pinned owned
          (fits _) none staged
      rw [routed] at succeeded
      cases succeeded
      rw [decisionOf_matched pinned, by_selector.matched]

variable (respects : Respected platform compiled model)
  (staged : ¬ StageUnset platform compiled found text)

include respects staged

/-- A selector that admits a name for a text, and is no stage router without settings,
admits only the pinned model. -/
theorem admitted_is_pinned {name : String}
    (admits : name ∈ admits platform compiled found text [name]) : name = model := by
  have pinned := pinnedInput_pinned model name text ({} : StageHistory F)
  have signals : Signals F := ⟨fun _ => 0, fun _ => platform.zero⟩
  obtain ⟨counters, decision, routed, by_selector⟩ :=
    @route_selected F platform model found signals _ 0 compiled pinned owned (fits text)
      (ne_nil_of_mem admits) staged
  have decided := respects.decides signals false _ 0 _ pinned (congrArg Prod.snd routed)
  have single : decision.resolvedModel = name :=
    mem_singleton.mp (admits_available by_selector.admitted)
  exact single.symm.trans decided

/-- A wildcard selector breaks the promise with a name that the policy does not know. -/
theorem not_wildcard : (compiled.select platform found text).names ≠ [] := by
  intro wild
  obtain ⟨length, unknown⟩ := freshName_exists
    (compiled.virtualBases.keys ++ compiled.policy.models.keys ++ [model])
  simp only [mem_append, mem_singleton, not_or] at unknown
  have unowned : compiled.virtualBases.get (freshName length) = none := by
    apply Option.eq_none_iff_forall_ne_some.mpr
    exact fun base found => unknown.1.1 (OrderedMap.mem_keys.mpr ⟨base, found⟩)
  have unlisted : compiled.policy.disabled (freshName length) = false := by
    have absent : compiled.policy.models.get (freshName length) = none := by
      apply Option.eq_none_iff_forall_ne_some.mpr
      exact fun metadata found => unknown.1.2 (OrderedMap.mem_keys.mpr ⟨metadata, found⟩)
    simp [RoutingPolicy.disabled, disabledIn, absent]
  apply unknown.2
  apply admitted_is_pinned owned fits respects staged
  apply mem_admitted.mpr
  rw [selectedNames, if_pos wild, wildcard_fresh compiled unowned]
  exact ⟨mem_singleton_self _, unlisted, mem_singleton_self _⟩

end

theorem alike_of_respects (owned : Owned compiled model found)
    (respects : Respected platform compiled model)
    (refusing : ∀ text, Refusing platform compiled found text) :
    AlwaysRefusing platform compiled found where
  refusing := refusing
  alike text text' available := by
    have carried (text text' : String)
        (none : admits platform compiled found text available = []) :
        admits platform compiled found text' available = [] := by
      have pinned : PinnedTo model
          (⟨"", "", some ⟨model, ""⟩, available, text, {}⟩ : Input F) := ⟨"", rfl⟩
      have signals : Signals F := ⟨fun _ => 0, fun _ => platform.zero⟩
      have same := respects.independent signals false _ 0 text' {} pinned
      rw [route_refusing pinned owned (refusing text),
        route_refusing (pinned.withFeatures text' {}) owned (refusing text')] at same
      by_contra some
      have failures := ((if_neg some).symm.trans (Except.error.inj same)).trans (if_pos none)
      exact noEligible_ne _ failures.symm
    exact ⟨carried text text', carried text' text⟩

section

variable (accepted : AcceptedPolicy policy)
  (isCompiled : compiled = compileRoutingPolicy platform policy)
  (owned : Owned compiled model found)

include accepted isCompiled owned

theorem owned_fits (text : String) : (compiled.select platform found text).Fits := by
  subst isCompiled
  exact select_fits accepted owned

theorem fixed_of_respects (respects : Respected platform compiled model)
    (open_ : ¬ Refusing platform compiled found text) : Fixed platform compiled found model := by
  have fits := owned_fits accepted isCompiled owned
  have staged := fun stageless => open_ (Or.inr stageless)
  have named := not_wildcard owned fits respects staged
  have only : ∀ name ∈ (compiled.select platform found text).names,
      compiled.policy.disabled name = false → name = model := by
    intro name listed enabled
    apply admitted_is_pinned owned fits respects staged
    apply mem_admitted.mpr
    rw [selectedNames, if_neg named]
    exact ⟨listed, enabled, mem_singleton_self _⟩
  have enabledListed : model ∈ (compiled.select platform found text).names ∧
      compiled.policy.disabled model = false := by
    by_contra neither
    apply open_
    refine Or.inl ⟨named, fun name listed => ?_⟩
    cases enabled : compiled.policy.disabled name with
    | true => rfl
    | false =>
      have same := only name listed enabled
      subst same
      exact absurd ⟨listed, enabled⟩ neither
  have admitsModel : admits platform compiled found text [model] ≠ [] := by
    apply ne_nil_of_mem
    apply mem_admitted.mpr
    rw [selectedNames, if_neg named]
    exact ⟨enabledListed.1, enabledListed.2, mem_singleton_self model⟩
  have signals : Signals F := ⟨fun _ => 0, fun _ => platform.zero⟩
  -- One candidate and any history: the selector routes, with the text that it admits.
  have routes (history : StageHistory F) := @route_selected F platform model found signals
    (pinnedInput model model text history) 0 compiled
    (pinnedInput_pinned model model text history) owned (fits text) admitsModel staged
  obtain ⟨counters, decision, routed, by_selector⟩ := routes {}
  have pinned := pinnedInput_pinned model model text ({} : StageHistory F)
  have unruled : compiled.rules = [] := by
    by_contra ruled
    subst isCompiled
    obtain ⟨text', matched⟩ := select_ruled accepted found ruled
    have blank := respects.independent signals false _ 0 "" {} pinned
    have other := respects.independent signals false _ 0 text' {} pinned
    rw [routed] at blank other
    have shownBlank := routed_matched owned fits (pinned.withFeatures "" {}) blank
    have shownOther := routed_matched owned fits (pinned.withFeatures text' {}) other
    rw [shownBlank] at shownOther
    have left := (if_pos (select_blank accepted found)).symm.trans
      (shownOther.trans (if_neg matched))
    cases left
  have selected := @select_unruled F platform _ unruled found text
  have strategy := @finalStrategy_unruled F platform found _ unruled text
  refine ⟨unruled, selected ▸ enabledListed.1, enabledListed.2, selected ▸ only, ?_, ?_⟩
  · have same := respects.counters signals false _ 0 pinned
    rw [routed] at same
    have uncounted : ¬ (finalStrategy platform compiled found text).counts :=
      fun counts => by_selector.counted.mp counts same
    rw [strategy] at uncounted
    exact ⟨fun first => uncounted (Or.inl first), fun second => uncounted (Or.inr second)⟩
  · intro stage
    obtain ⟨_, decision', routed', by_selector'⟩ := routes { compacted := true }
    obtain ⟨settings, trace, configured, shown, confident⟩ :=
      by_selector.staged (strategy.trans stage)
    obtain ⟨settings', trace', configured', shown', confident'⟩ :=
      by_selector'.staged (strategy.trans stage)
    have sameSettings := configured.symm.trans configured'
    cases sameSettings
    have independent := respects.independent signals false _ 0 text { compacted := true } pinned
    have moved : withFeatures (pinnedInput model model text ({} : StageHistory F)) text
        { compacted := true } = pinnedInput model model text { compacted := true } := rfl
    rw [moved, routed', routed] at independent
    have stages := congrArg Decision.stage (Except.ok.inj independent)
    rw [decisionOf_stage, decisionOf_stage, shown, shown'] at stages
    have traces := Option.some.inj stages
    have confidences : trace.confidence = trace'.confidence := by rw [traces]
    rw [confident, confident'] at confidences
    exact stageTier_histories settings confidences

theorem respects_owned :
    Respected platform compiled model ↔
      AlwaysRefusing platform compiled found ∧ compiled.policy.disabled model = true ∨
        Fixed platform compiled found model := by
  constructor
  · intro respects
    by_cases refusing : ∀ text, Refusing platform compiled found text
    · refine Or.inl ⟨alike_of_respects owned respects refusing, ?_⟩
      apply disabled_of_failing respects
      intro signals input draw pinned
      exact ⟨_, congrArg Prod.snd (route_refusing pinned owned (refusing input.routingText))⟩
    · obtain ⟨text, open_⟩ := not_forall.mp refusing
      exact Or.inr (fixed_of_respects accepted isCompiled owned respects open_)
  · rintro (⟨refusing, disabled⟩ | fixed)
    · exact respects_refusing owned refusing disabled
    · exact respects_fixed fixed owned (owned_fits accepted isCompiled owned)

end

theorem respects_iff (accepted : AcceptedPolicy policy) (model : String) :
    Respected platform (compileRoutingPolicy platform policy) model ↔
      PinSafe platform (compileRoutingPolicy platform policy) model := by
  unfold PinSafe
  cases resolved : (compileRoutingPolicy platform policy).resolveVirtualRequest
      (requestedName (compileRoutingPolicy platform policy).policy model) with
  | error failure => exact respects_unresolved resolved
  | ok outcome =>
    cases outcome with
    | none => exact respects_explicit resolved
    | some found => exact respects_owned accepted rfl resolved

/-- `PinSafe` at the runtime index of a manager. -/
def PinSafeAt (platform : Platform F) (runtime : Option (CompiledRoutingPolicy F))
    (model : String) : Prop :=
  ∃ compiled, runtime = some compiled ∧ PinSafe platform compiled model

/-- After any publications, a pin decides the model exactly when its name is one that the
selector namespace cannot lead elsewhere. -/
theorem pin_respected_iff {policy : RoutingPolicy F} {manager : RouterManager F}
    (created : newRouterManager platform policy = .ok manager) (calls : List (ManagerCall F))
    (model : String) :
    RespectsPin platform (run (step platform) manager calls).runtime
        ((run (step platform) manager calls).policy.disabled model) model ↔
      PinSafeAt platform (run (step platform) manager calls).runtime model := by
  have installed := run_installed created calls
  obtain ⟨effective, agrees, compiled⟩ := installed.compiled
  have accepted := (validateRoutingPolicy_accepted installed.accepted).agrees agrees
  have exactly := @respects_iff F platform effective accepted model
  rw [compiled, ← agrees.disabled model]
  constructor
  · intro respects
    exact ⟨_, rfl, exactly.mp respects⟩
  · rintro ⟨compiled', same, safe⟩
    cases same
    exact exactly.mpr safe

/-! ### A selector that shares its name with a model -/

/-- The selector `chat` chooses the model `other`. -/
def sharedPolicy : RoutingPolicy Int :=
  { presetPolicy "smallest" with
    virtualModels := (presetPolicy "smallest").virtualModels.insert "chat"
      { strategy := .smallest, models := ["other"] }
    models := OrderedMap.empty.insert "m" plainMetadata |>.insert "other" plainMetadata }

def sharedManager : RouterManager Int :=
  RouterManager.installPolicyLocked samplePlatform
    { policy := sharedPolicy, runtime := none, metadata := .empty, deploymentMetadata := .empty
      signals := ⟨fun _ => 0, fun _ => 0⟩ } sharedPolicy

theorem sharedManager_runtime :
    sharedManager.runtime = some (compileRoutingPolicy samplePlatform sharedPolicy) := by
  simp only [sharedManager, installPolicyLocked, recompiled]
  rw [effectivePolicy_plain _ rfl rfl]

def sharedInput : Input Int where
  requestedModel := "chat"
  resolvedVirtualModel := "chat"
  providerStatePin := some ⟨"chat", "response"⟩
  candidates := ["chat", "other"]
  routingText := ""
  stageHistory := {}

theorem pinned_selector_reselects :
    ∃ manager decision, newRouterManager samplePlatform sharedPolicy = .ok manager ∧
      PinnedTo "chat" sharedInput ∧ manager.policy.disabled "chat" = false ∧
      (route samplePlatform manager.runtime ⟨fun _ => 0, fun _ => 0⟩ false sharedInput 0).2 =
        .ok decision ∧ decision.virtualModel = "other" := by
  have seen : ((route samplePlatform (some (compileRoutingPolicy samplePlatform sharedPolicy))
      ⟨fun _ => 0, fun _ => 0⟩ false sharedInput 0).2.toOption.map Decision.virtualModel) =
      some "other" := by decide +kernel
  rw [← sharedManager_runtime] at seen
  cases outcome : (route samplePlatform sharedManager.runtime ⟨fun _ => 0, fun _ => 0⟩ false
      sharedInput 0).2 with
  | error failure =>
    rw [outcome] at seen
    cases seen
  | ok decision =>
    rw [outcome] at seen
    exact ⟨sharedManager, decision, rfl, ⟨"response", rfl⟩, by decide +kernel, outcome,
      Option.some.inj seen⟩

theorem pin_respected_iff_direct :
    ∃ manager, newRouterManager samplePlatform (presetPolicy "smallest") = .ok manager ∧
      RespectsPin samplePlatform manager.runtime (manager.policy.disabled "m") "m" := by
  have created : newRouterManager samplePlatform (presetPolicy "smallest") =
      .ok (presetManager "smallest") := rfl
  refine ⟨presetManager "smallest", created, ?_⟩
  apply (pin_respected_iff created [] "m").mpr
  refine ⟨_, presetManager_runtime "smallest", ?_⟩
  have unowned : (match (compileRoutingPolicy samplePlatform
      (presetPolicy "smallest")).resolveVirtualRequest
        (requestedName (compileRoutingPolicy samplePlatform (presetPolicy "smallest")).policy "m")
      with
      | .ok none => true
      | _ => false) = true := by decide +kernel
  unfold PinSafe
  split at unowned
  next resolved =>
    exact Or.inl (by decide +kernel)
  next => cases unowned

end

end SparkRoute.ModelRouter
