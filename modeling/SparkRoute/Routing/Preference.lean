import SparkRoute.Routing.PlanCorrectness

/-!
# Soft preferences

`PreferDeployment` moves a candidate to the front of a plan when it shares the readiness, the
pool, the class and the provider rank of the first candidate.  The prompt cache looks up the
candidates that share the pool and the class only.
-/

namespace SparkRoute.Routing

open Config List Selection

/-- The two fields that the prompt cache compares. -/
def Selection.sharesClass (candidate first : Selection) : Bool :=
  candidate.poolPriority = first.poolPriority ∧
    candidate.preferenceClass = first.preferenceClass

/-- The four fields that `PreferDeployment` compares. -/
def Selection.sharesPreference (candidate first : Selection) : Bool :=
  candidate.sharesClass first ∧ candidate.running = first.running ∧
    candidate.providerPreference = first.providerPreference

/-- `copy(p.Candidates[1:index+1], p.Candidates[0:index])` with the match in front. -/
def moveToFront (candidates : List Selection) (index : Nat) : List Selection :=
  candidates[index]?.toList ++ (candidates.take index ++ candidates.drop (index + 1))

/-- The plan after the call, and its answer. -/
def Plan.preferDeployment (plan : Plan) (deployment : String) : Plan × Bool :=
  let index := plan.candidates.findIdx fun candidate => candidate.deployment.name = deployment
  match plan.candidates.head?, plan.candidates[index]? with
  | some first, some candidate =>
    if deployment = "" then (plan, false)
    else if index = 0 then (plan, true)
    else if candidate.sharesPreference first then
      ({ plan with candidates := moveToFront plan.candidates index }, true)
    else (plan, false)
  | _, _ => (plan, false)

structure PromptCacheRoute where
  provider : String
  deployment : String
  upstreamModel : String
  upstreamProtocol : Option Protocol

/-- `upstreamModel` reads the model name of a deployment. -/
def promptCacheRoute (upstreamModel : Deployment → String) (selection : Selection) :
    PromptCacheRoute where
  provider := selection.provider.name
  deployment := selection.deployment.name
  upstreamModel := upstreamModel selection.deployment
  upstreamProtocol := selection.upstreamProtocol <|>
    protocolForProviderType selection.provider.type

def promptCacheCandidates (upstreamModel : Deployment → String) (plan : Plan) :
    List PromptCacheRoute :=
  match plan.candidates.head? with
  | none => []
  | some first =>
    (plan.candidates.filter fun selection => selection.sharesClass first).map
      (promptCacheRoute upstreamModel)

/-! ### Preference calls -/

variable {plan : Plan}

/-- A call leaves the plan, or puts a candidate of the name and of the first sort key in front. -/
theorem preferDeployment_cases (plan : Plan) (deployment : String) :
    plan.preferDeployment deployment = (plan, false) ∨
    ∃ before candidate after, deployment ≠ "" ∧ candidate.deployment.name = deployment ∧
      plan.candidates = before ++ candidate :: after ∧
      (∀ first ∈ plan.candidates.head?, candidate.sortKey = first.sortKey) ∧
      plan.preferDeployment deployment =
        ({ plan with candidates := candidate :: (before ++ after) }, true) := by
  have named {candidate : Selection} (found : plan.candidates[plan.candidates.findIdx fun
      candidate => decide (candidate.deployment.name = deployment)]? = some candidate) :
      candidate.deployment.name = deployment := by
    obtain ⟨inside, rfl⟩ := List.getElem?_eq_some_iff.mp found
    exact of_decide_eq_true (findIdx_getElem (w := inside))
  fun_cases Plan.preferDeployment plan deployment with
  | case2 index first candidate found head given zero =>
    obtain ⟨rest, shape⟩ := List.head?_eq_some_iff.mp head
    have same : plan.candidates[index]? = some first := by rw [zero, shape]; rfl
    exact .inr ⟨[], first, rest, given, named same, shape, by simp [head], by simp [← shape]⟩
  | case3 index first candidate found head given later shares =>
    simp only [sharesPreference, sharesClass, decide_eq_true_eq] at shares
    have own := named found
    obtain ⟨inside, rfl⟩ := List.getElem?_eq_some_iff.mp found
    refine .inr ⟨plan.candidates.take index, plan.candidates[index],
      plan.candidates.drop (index + 1), given, own, by simp, ?_, by simp [moveToFront, inside]⟩
    simp [head, sortKey, shares]
  | _ => exact .inl rfl

/-- The candidates of a plan, in an order that respects the operator's preference. -/
def Plan.Respects (plan : Plan) (candidates : List Selection) : Prop :=
  plan.candidates.Perm candidates ∧
    plan.candidates.Pairwise fun first second => first.sortKey ≤ second.sortKey

variable {candidates : List Selection}

/-- What stands before the match has the sort key of the first candidate, and so has the match. -/
theorem preferDeployment_respects (deployment : String) (respects : plan.Respects candidates) :
    (plan.preferDeployment deployment).1.Respects candidates := by
  obtain ⟨permuted, sorted⟩ := respects
  rcases preferDeployment_cases plan deployment with same | ⟨before, candidate, after, moves⟩
  · rw [same]
    exact ⟨permuted, sorted⟩
  · obtain ⟨-, -, shape, key, same⟩ := moves
    rw [same]
    rw [shape] at permuted sorted key
    refine ⟨perm_middle.symm.trans permuted, pairwise_cons.mpr ⟨?_, ?_⟩⟩
    · intro other listed
      cases before with
      | nil => exact rel_of_pairwise_cons sorted listed
      | cons first before =>
        rw [key first rfl]
        rcases mem_cons.mp listed with rfl | later
        · exact le_rfl
        · exact rel_of_pairwise_cons sorted (by simp at later ⊢; tauto)
    · exact sorted.sublist ((sublist_cons_self candidate after).append_left before)

def Plan.preferAll (plan : Plan) (deployments : List String) : Plan :=
  deployments.foldl (fun plan deployment => (plan.preferDeployment deployment).1) plan

theorem preferAll_respects (deployments : List String) (respects : plan.Respects candidates) :
    (plan.preferAll deployments).Respects candidates := by
  induction deployments generalizing plan with
  | nil => exact respects
  | cons deployment rest ih => exact ih (preferDeployment_respects deployment respects)

variable {Score : Type} [BEq Score] [LT Score] [DecidableLT Score]
  {toLower : String → String} {hashScore : String → WeightedTarget → Score}
  {snapshot : Snapshot} {requested : String} {options : PlanOptions}

/-- What planning establishes of the candidates, and a prefix of them keeps. -/
theorem buildPlanFor_keeps {property : List Selection → Prop}
    (planned : snapshot.buildPlanFor toLower hashScore requested options = .ok plan)
    (holds : ∀ model candidates,
      snapshot.resolveModel requested options.allowInternal = some model →
      Ordered snapshot toLower requested model options
        (mergeCapabilities model.requiredCapabilities options.requiredCapabilities) candidates →
      property candidates)
    (first : ∀ candidates, property candidates → property (candidates.take 1)) :
    property plan.candidates := by
  cases visible : snapshot.resolveModel requested options.allowInternal with
  | none => simp [Snapshot.buildPlanFor, visible] at planned
  | some model =>
    obtain ⟨candidates, -, ordered, shape, -⟩ := buildPlanFor_ordered visible planned
    have whole := holds model candidates visible ordered
    rw [shape]
    split
    · exact first candidates whole
    · exact whole

/-- Over any sequence of calls the candidates stay the same and sorted, and each call either
refuses, or moves one candidate to the front and has nothing to do the second time. -/
theorem preferDeployment_respects_order
    (planned : snapshot.buildPlanFor toLower hashScore requested options = .ok plan)
    (deployments : List String) (deployment : String) :
    let preferred := plan.preferAll deployments
    let result := preferred.preferDeployment deployment
    preferred.Respects plan.candidates ∧
    (result.2 = false → result.1 = preferred) ∧
    (result.2 = true → ∃ before candidate after,
      preferred.candidates = before ++ candidate :: after ∧
      candidate.deployment.name = deployment ∧
      result.1 = { preferred with candidates := candidate :: (before ++ after) }) ∧
    (result.1.preferDeployment deployment).1 = result.1 := by
  intro preferred result
  have sorted := buildPlanFor_keeps planned (fun _ _ _ ordered => ordered.sorted)
    fun _ sorted => sorted.sublist (take_sublist 1 _)
  refine ⟨preferAll_respects deployments ⟨.refl _, sorted⟩, ?_⟩
  rcases preferDeployment_cases preferred deployment with same | ⟨before, candidate, after, moves⟩
  · simp [result, same]
  · obtain ⟨given, named, shape, -, same⟩ := moves
    refine ⟨by simp [result, same], fun _ => ⟨before, candidate, after, shape, named, ?_⟩, ?_⟩
    · rw [show result = _ from same]
    · simp [result, same, Plan.preferDeployment, findIdx_cons, named, given]

/-! ### The boundary of the prompt cache -/

/-- Whether a candidate may be preferred depends on itself and on the first one. -/
theorem preferDeployment_iff {first candidate : Selection}
    (distinct : (plan.candidates.map fun candidate => candidate.deployment.name).Nodup)
    (head : plan.candidates.head? = some first) (listed : candidate ∈ plan.candidates) :
    (plan.preferDeployment candidate.deployment.name).2 = true ↔
      candidate.deployment.name ≠ "" ∧ candidate.sharesPreference first = true := by
  have inside := findIdx_lt_length_of_exists
    (p := fun other => other.deployment.name = candidate.deployment.name)
    ⟨candidate, listed, decide_eq_true rfl⟩
  -- names are distinct, so the search finds the candidate itself
  have found : plan.candidates[plan.candidates.findIdx
      fun other => other.deployment.name = candidate.deployment.name]? = some candidate := by
    rw [List.getElem?_eq_getElem inside, Option.some.injEq]
    exact inj_on_of_nodup_map distinct (getElem_mem inside) listed
      (of_decide_eq_true (findIdx_getElem (w := inside)))
  simp only [Plan.preferDeployment, head, found]
  by_cases given : candidate.deployment.name = ""
  · simp [given]
  · rw [if_neg given]
    split
    next zero =>
      rw [zero, ← List.head?_eq_getElem?, head] at found
      cases found
      simp [given, sharesPreference, sharesClass]
    · cases shares : candidate.sharesPreference first <;> simp [given]

/-- Every route that the prompt cache may return is accepted exactly when the candidates that
share the class of the first one share its readiness and its provider rank too. -/
theorem promptCache_boundary_iff {document : Document} (upstreamModel : Deployment → String)
    (compiled : compile toLower document = .ok snapshot)
    (planned : snapshot.buildPlanFor toLower hashScore requested options = .ok plan) :
    (∀ route ∈ promptCacheCandidates upstreamModel plan,
      (plan.preferDeployment route.deployment).2 = true) ↔
    ∀ first, plan.candidates.head? = some first → ∀ candidate ∈ plan.candidates,
      candidate.sharesClass first = true → candidate.deployment.name ≠ "" ∧
        candidate.running = first.running ∧
        candidate.providerPreference = first.providerPreference := by
  have guarantees := Snapshot.compiled_of_compile compiled
  have distinct := buildPlanFor_keeps planned
    (fun _ _ visible ordered => ordered.nodup guarantees (guarantees.resolved visible))
    fun _ distinct => distinct.sublist ((take_sublist 1 _).map _)
  unfold promptCacheCandidates
  cases head : plan.candidates.head? with
  | none => simp
  | some first =>
    simp only [forall_mem_map, mem_filter, and_imp, Option.some.injEq, forall_eq']
    refine forall₃_congr fun candidate listed shares => ?_
    rw [promptCacheRoute, preferDeployment_iff distinct head listed]
    simp [sharesPreference, shares]

/-- Two targets in one class. -/
def twinDocument : Document where
  providers := [{ name := "edge", type := "openai" }]
  deployments := [{ name := "a", provider := "edge" }, { name := "b", provider := "edge" }]
  virtualModels :=
    [{ name := "chat", pools := [{ priority := 1, targets := [⟨"a", 1⟩, ⟨"b", 1⟩] }] }]

def oneRunning : PlanOptions where
  picker := fun _ _ => .ok 0
  ready := some (· = "b")

def bothRunning : PlanOptions := { oneRunning with ready := some fun _ => true }

def twinPlan : Except String (Option Plan) :=
  (compile id twinDocument).map fun snapshot =>
    (snapshot.buildPlanFor id (fun _ _ => 0) "chat" oneRunning).toOption

/-- Both targets are in one class and only `b` is running: `a` may be found in the prompt cache
and is not preferred. -/
theorem promptCache_match_refused :
    twinPlan.map (Option.map fun plan =>
      (promptCacheCandidates (fun _ => "") plan).map fun route =>
        (route.deployment, (plan.preferDeployment route.deployment).2)) =
      .ok (some [("b", true), ("a", false)]) := by
  decide +kernel

/-- With both running, the second target can be moved before the first. -/
theorem preferDeployment_respects_order_twin : ∃ (snapshot : Snapshot) (plan : Plan),
    snapshot.buildPlanFor id (fun _ _ => (0 : Float)) "chat" bothRunning = .ok plan ∧
      plan.candidates.map (fun candidate => candidate.deployment.name) = ["a", "b"] ∧
      (plan.preferAll ["b"]).candidates.map (fun candidate => candidate.deployment.name) =
        ["b", "a"] ∧
      (plan.preferAll ["b"]).Respects plan.candidates := by
  have evaluated : evaluatePlan twinDocument bothRunning (fun plan =>
      (plan.candidates.map fun candidate => candidate.deployment.name,
        (plan.preferAll ["b"]).candidates.map fun candidate => candidate.deployment.name)) =
      some (["a", "b"], ["b", "a"]) := by
    decide +kernel
  obtain ⟨snapshot, _, plan, _, _, planned, names⟩ := exists_plan_of_evaluatePlan evaluated
  obtain ⟨given, moved⟩ := Prod.mk.inj names
  exact ⟨snapshot, plan, planned, given, moved,
    (preferDeployment_respects_order planned ["b"] "a").1⟩

/-- Every route is accepted with both running, and not with one. -/
theorem promptCache_boundary_iff_twin :
    (∃ snapshot plan, compile id twinDocument = .ok snapshot ∧
      snapshot.buildPlanFor id (fun _ _ => (0 : Float)) "chat" bothRunning = .ok plan ∧
      (promptCacheCandidates (fun _ => "") plan).length = 2 ∧
      ∀ route ∈ promptCacheCandidates (fun _ => "") plan,
        (plan.preferDeployment route.deployment).2 = true) ∧
    ∃ snapshot plan, compile id twinDocument = .ok snapshot ∧
      snapshot.buildPlanFor id (fun _ _ => (0 : Float)) "chat" oneRunning = .ok plan ∧
      ¬∀ route ∈ promptCacheCandidates (fun _ => "") plan,
        (plan.preferDeployment route.deployment).2 = true := by
  constructor
  · have evaluated : evaluatePlan twinDocument bothRunning (fun plan =>
        ((promptCacheCandidates (fun _ => "") plan).length, plan.candidates.all fun candidate =>
          candidate.deployment.name ≠ "" ∧ candidate.running = true ∧
            candidate.providerPreference = 0)) = some (2, true) := by
      decide +kernel
    obtain ⟨snapshot, _, plan, compiled, _, planned, shown⟩ := exists_plan_of_evaluatePlan evaluated
    obtain ⟨found, uniform⟩ := Prod.mk.inj shown
    simp only [all_eq_true, decide_eq_true_eq] at uniform
    refine ⟨snapshot, plan, compiled, planned, found,
      (promptCache_boundary_iff _ compiled planned).mpr fun first head candidate listed _ => ?_⟩
    obtain ⟨-, firstRunning, firstRank⟩ := uniform first (mem_of_head? head)
    obtain ⟨named, running, rank⟩ := uniform candidate listed
    exact ⟨named, running.trans firstRunning.symm, rank.trans firstRank.symm⟩
  · have evaluated : evaluatePlan twinDocument oneRunning (fun plan =>
        plan.candidates.head?.any fun first => plan.candidates.any fun candidate =>
          candidate.sharesClass first && candidate.running != first.running) = some true := by
      decide +kernel
    obtain ⟨snapshot, _, plan, compiled, _, planned, shown⟩ := exists_plan_of_evaluatePlan evaluated
    refine ⟨snapshot, plan, compiled, planned, fun accepted => ?_⟩
    simp only [Option.any_eq_true, any_eq_true, Bool.and_eq_true, bne_iff_ne] at shown
    obtain ⟨first, head, candidate, listed, shares, different⟩ := shown
    exact different ((promptCache_boundary_iff _ compiled planned).mp accepted first head candidate
      listed shares).2.1

end SparkRoute.Routing
