import Mathlib.Data.Prod.Lex
import SparkRoute.Routing.PlanOrder

/-!
# The plan is exactly the admissible targets, in the documented order

The layers after the pool loop only set `running` and `providerPreference` and
reorder, so a plan is compared with the pool loop after both are erased.
-/

namespace SparkRoute.Routing

open Config SparkRoute.Lib List

namespace Selection

/-- A candidate without the marks of the readiness and provider layers. -/
def unmarked (candidate : Selection) : Selection :=
  { candidate with running := false, providerPreference := 0 }

/-- Provider preference, then not running, then pool priority, then class. -/
def sortKey (candidate : Selection) : Nat ×ₗ Bool ×ₗ Int ×ₗ Nat :=
  toLex (candidate.providerPreference, toLex (!candidate.running,
    toLex (candidate.poolPriority, candidate.preferenceClass)))

def PoolOrdered (first second : Selection) : Prop :=
  first.poolPriority ≤ second.poolPriority ∧
    first.preferenceClass ≤ second.preferenceClass

/-- The pool order, with running candidates ahead. -/
def ReadyOrdered (first second : Selection) : Prop :=
  first.running = true ∧ second.running = false ∨
    first.running = second.running ∧ PoolOrdered first second

theorem sortKey_le {first second : Selection}
    (ordered : first.providerPreference < second.providerPreference ∨
      first.providerPreference = second.providerPreference ∧ ReadyOrdered first second) :
    first.sortKey ≤ second.sortKey := by
  unfold sortKey
  rw [Prod.Lex.toLex_le_toLex]
  rcases ordered with less | ⟨same, ready | ⟨sameReady, priority, preference⟩⟩
  · exact Or.inl less
  · refine Or.inr ⟨same, ?_⟩
    rw [Prod.Lex.toLex_le_toLex]
    exact Or.inl (by simp [ready])
  · refine Or.inr ⟨same, ?_⟩
    rw [Prod.Lex.toLex_le_toLex]
    refine Or.inr ⟨by simp [sameReady], ?_⟩
    rw [Prod.Lex.toLex_le_toLex]
    rcases lt_or_eq_of_le priority with less | samePriority
    · exact Or.inl less
    · exact Or.inr ⟨samePriority, preference⟩

end Selection

/-! ### The readiness layer -/

def markedRunning (model : VirtualModel) (options : PlanOptions) (deployment : String) : Bool :=
  model.selection.prefersRunning && options.ready.any fun ready => ready deployment

variable {candidates : List Selection}

theorem preferRunning_ordered (model : VirtualModel) (options : PlanOptions)
    (fresh : ∀ candidate ∈ candidates, candidate.running = false)
    (ordered : candidates.Pairwise Selection.PoolOrdered) :
    (preferRunning model options candidates).Pairwise Selection.ReadyOrdered := by
  fun_cases preferRunning model options candidates with
  | case1 =>
    apply partition_refines
    exact ordered.map _ fun _ _ pair => pair
  | _ =>
    apply ordered.imp_of_mem
    intro first second firstMember secondMember pair
    exact Or.inr ⟨(fresh first firstMember).trans (fresh second secondMember).symm, pair⟩

theorem preferRunning_unmarked (model : VirtualModel) (options : PlanOptions)
    (candidates : List Selection) :
    ((preferRunning model options candidates).map Selection.unmarked).Perm
      (candidates.map Selection.unmarked) := by
  fun_cases preferRunning model options candidates with
  | case1 ready _ _ marked =>
    have permuted := (filter_append_perm (fun candidate => candidate.running) marked).map
      Selection.unmarked
    rw [map_map] at permuted
    exact permuted
  | _ => exact .refl _

theorem preferRunning_preference (model : VirtualModel) (options : PlanOptions)
    (fresh : ∀ candidate ∈ candidates, candidate.providerPreference = 0) :
    ∀ candidate ∈ preferRunning model options candidates, candidate.providerPreference = 0 := by
  fun_cases preferRunning model options candidates with
  | case1 =>
    intro candidate mem
    have marked := (filter_append_perm _ _).mem_iff.mp mem
    obtain ⟨original, present, same⟩ := mem_map.mp marked
    subst same
    exact fresh original present
  | _ => exact fresh

variable {options : PlanOptions} {model : VirtualModel}

theorem preferRunning_running (fresh : ∀ candidate ∈ candidates, candidate.running = false) :
    ∀ candidate ∈ preferRunning model options candidates,
      candidate.running = markedRunning model options candidate.deployment.name := by
  unfold preferRunning
  cases given : options.ready with
  | none =>
    intro candidate mem
    simpa [markedRunning, given] using fresh candidate mem
  | some ready =>
    by_cases prefers : model.selection.prefersRunning = true
    · intro candidate mem
      simp only [prefers, if_true] at mem
      have marked := (filter_append_perm _ _).mem_iff.mp mem
      obtain ⟨original, _, same⟩ := mem_map.mp marked
      subst same
      simp [markedRunning, given, prefers]
    · intro candidate mem
      simp only [prefers] at mem
      simpa [markedRunning, prefers] using fresh candidate mem

/-! ### The provider layer -/

def providerRank (toLower : String → String) (priority : List String) (provider : String) : Nat :=
  if priority = [] then 0 else priority.idxOf (toLower provider)

theorem applyProviderPriority_ordered (toLower : String → String) (priority : List String)
    (fresh : ∀ candidate ∈ candidates, candidate.providerPreference = 0)
    (ordered : candidates.Pairwise Selection.ReadyOrdered) :
    (applyProviderPriority toLower priority candidates).Pairwise
      fun first second => first.sortKey ≤ second.sortKey := by
  unfold applyProviderPriority
  split
  next =>
    apply ordered.imp_of_mem
    intro first second firstMember secondMember pair
    apply Selection.sortKey_le
    exact Or.inr ⟨(fresh first firstMember).trans (fresh second secondMember).symm, pair⟩
  next =>
    have ranked : (candidates.map fun candidate =>
        { candidate with
          providerPreference := priority.idxOf (toLower candidate.provider.name) }).Pairwise
        Selection.ReadyOrdered := ordered.map _ fun _ _ pair => pair
    exact (sortByKey_refines Selection.providerPreference ranked).imp
      fun pair => Selection.sortKey_le pair

theorem applyProviderPriority_unmarked (toLower : String → String) (priority : List String)
    (candidates : List Selection) :
    ((applyProviderPriority toLower priority candidates).map Selection.unmarked).Perm
      (candidates.map Selection.unmarked) := by
  unfold applyProviderPriority
  split
  next => exact .refl _
  next =>
    have permuted := (sortByKey_perm Selection.providerPreference
      (candidates.map fun candidate =>
        { candidate with
          providerPreference := priority.idxOf (toLower candidate.provider.name) })).map
      Selection.unmarked
    rw [map_map] at permuted
    exact permuted

theorem applyProviderPriority_marks {toLower : String → String} {priority : List String}
    (fresh : ∀ candidate ∈ candidates, candidate.providerPreference = 0)
    (running : ∀ candidate ∈ candidates,
      candidate.running = markedRunning model options candidate.deployment.name) :
    ∀ candidate ∈ applyProviderPriority toLower priority candidates,
      candidate.running = markedRunning model options candidate.deployment.name ∧
      candidate.providerPreference =
        providerRank toLower priority candidate.provider.name := by
  intro candidate mem
  unfold applyProviderPriority at mem
  split at mem
  next empty =>
    refine ⟨running candidate mem, ?_⟩
    rw [fresh candidate mem, providerRank, if_pos empty]
  next listed =>
    have ranked := (sortByKey_perm _ _).mem_iff.mp mem
    obtain ⟨original, present, same⟩ := mem_map.mp ranked
    subst same
    refine ⟨running original present, ?_⟩
    rw [providerRank, if_neg listed]

/-! ### The pool loop -/

def candidateFor (requested : String) (model : VirtualModel) (priority : Int)
    (preferenceClass : Nat) (target : WeightedTarget) (deployment : Deployment)
    (provider : Provider) (route : ProtocolRoute) : Selection where
  requestedModel := requested
  virtualModel := model.name
  provider := provider
  deployment := deployment
  upstreamProtocol := route.protocol
  nativeProtocol := route.native
  poolPriority := priority
  preferenceClass := preferenceClass
  weight := target.weight
  responseModel := effectiveResponseModel model.responseModel

section Contents

variable {snapshot : Snapshot} {requested : String} {model : VirtualModel}
  {options : PlanOptions} {required : List Capability} {selection : Selection}

theorem admittedSelection_eq_some_iff {base : Nat} {priority : Int} {target : WeightedTarget} :
    admittedSelection snapshot requested model options required base priority target =
        some selection ↔
      (options.pinnedDeployment = "" ∨ target.deployment = options.pinnedDeployment) ∧
      ∃ deployment provider route capability,
        Admissible snapshot options required target deployment provider route capability ∧
        selection = candidateFor requested model priority
          (base + preferenceRank route.native capability) target deployment provider
          route := by
  have selected {deployment : Deployment} {provider : Provider} {route : ProtocolRoute}
      {capability : CapabilityMatch}
      (admissible : Admissible snapshot options required target deployment provider route
        capability) (preferenceClass : Nat) :
      selectionOf snapshot requested model priority preferenceClass ⟨target, route⟩ =
        some (candidateFor requested model priority preferenceClass target deployment
          provider route) := by
    unfold selectionOf
    simp only [admissible.deploymentFound, admissible.providerFound]
    rfl
  unfold admittedSelection
  constructor
  · intro accepted
    split at accepted
    next route capability assessed =>
      obtain ⟨pinned, deployment, provider, admissible⟩ := assess_eq_admitted_iff.mp assessed
      rw [selected admissible, Option.some.injEq] at accepted
      exact ⟨pinned, deployment, provider, route, capability, admissible, accepted.symm⟩
    next => cases accepted
  · rintro ⟨pinned, deployment, provider, route, capability, admissible, same⟩
    rw [assess_eq_admitted_iff.mpr ⟨pinned, deployment, provider, admissible⟩, same]
    exact selected admissible _

variable {selects : Nat → Int → WeightedTarget → Option Selection} {pools : List RoutingPool}

theorem mem_poolSelections :
    selection ∈ poolSelections selects pools ↔
      ∃ index pool target, pools[index]? = some pool ∧ target ∈ pool.targets ∧
        selects (4 * index) pool.priority target = some selection := by
  unfold poolSelections
  simp only [mem_flatMap, mem_filterMap, Prod.exists, mem_zipIdx_iff_getElem?]
  constructor
  · rintro ⟨pool, index, found, target, mem, admitted⟩
    exact ⟨index, pool, target, found, mem, admitted⟩
  · rintro ⟨index, pool, target, found, mem, admitted⟩
    exact ⟨pool, index, found, target, mem, admitted⟩

/-- The class number tells the pool of a candidate. -/
theorem poolSelections_located
    (mem : selection ∈ poolSelections (admittedSelection snapshot requested model options
      required) pools) :
    ∃ pool, pools[selection.preferenceClass / 4]? = some pool ∧
      selection.poolPriority = pool.priority := by
  obtain ⟨index, pool, target, found, _, admitted⟩ := mem_poolSelections.mp mem
  obtain ⟨_, deployment, provider, route, capability, _, same⟩ :=
    admittedSelection_eq_some_iff.mp admitted
  have bounded := preferenceRank_lt route.native capability
  have position : selection.preferenceClass / 4 = index := by
    rw [same]
    simp only [candidateFor]
    omega
  refine ⟨pool, by rw [position]; exact found, ?_⟩
  rw [same]
  rfl

theorem Built.poolOrdered {state : PlanState}
    (built : Built (admittedSelection snapshot requested model options required)
      (sortedPools model) state) : state.candidates.Pairwise Selection.PoolOrdered := by
  apply built.block.ordered.imp_of_mem
  intro first second firstMember secondMember classes
  obtain ⟨firstPool, firstFound, firstPriority⟩ :=
    poolSelections_located (built.contents.mem_iff.mp firstMember)
  obtain ⟨secondPool, secondFound, secondPriority⟩ :=
    poolSelections_located (built.contents.mem_iff.mp secondMember)
  refine ⟨?_, classes⟩
  have sorted := sortByKey_sorted (fun pool => pool.priority) model.pools
  have positions : first.preferenceClass / 4 ≤ second.preferenceClass / 4 :=
    Nat.div_le_div_right classes
  rw [firstPriority, secondPriority]
  rcases Nat.lt_or_eq_of_le positions with before | same
  · obtain ⟨firstBound, firstSame⟩ := List.getElem?_eq_some_iff.mp firstFound
    obtain ⟨secondBound, secondSame⟩ := List.getElem?_eq_some_iff.mp secondFound
    have ascending := pairwise_iff_getElem.mp sorted _ _ firstBound secondBound before
    rw [← firstSame, ← secondSame]
    exact ascending
  · rw [same, secondFound, Option.some.injEq] at firstFound
    rw [firstFound]

theorem filterMap_names_sublist {selects : WeightedTarget → Option Selection}
    (named : ∀ target selection, selects target = some selection →
      selection.deployment.name = target.deployment) (targets : List WeightedTarget) :
    ((targets.filterMap selects).map fun selection => selection.deployment.name).Sublist
      (targets.map fun target => target.deployment) := by
  induction targets with
  | nil => exact .slnil
  | cons target rest ih =>
    cases admitted : selects target with
    | none =>
      rw [filterMap_cons_none admitted]
      exact ih.cons _
    | some selection =>
      rw [filterMap_cons_some admitted, map_cons, map_cons, named target selection admitted]
      exact ih.cons_cons _

theorem poolSelections_names_sublist
    (named : ∀ base priority target selection, selects base priority target = some selection →
      selection.deployment.name = target.deployment) (pools : List RoutingPool) :
    ((poolSelections selects pools).map fun selection => selection.deployment.name).Sublist
      ((pools.flatMap fun pool => pool.targets).map fun target => target.deployment) := by
  unfold poolSelections
  generalize 0 = start
  induction pools generalizing start with
  | nil => exact .slnil
  | cons pool rest ih =>
    simp only [zipIdx_cons, flatMap_cons, map_append]
    exact (filterMap_names_sublist (named _ _) pool.targets).append
      (ih (start + 1))

theorem poolSelections_nodup (compiled : snapshot.Compiled) (routable : Routable model) :
    ((poolSelections (admittedSelection snapshot requested model options required)
      (sortedPools model)).map fun selection => selection.deployment.name).Nodup := by
  have named : ∀ base priority target selection,
      admittedSelection snapshot requested model options required base priority target =
        some selection → selection.deployment.name = target.deployment := by
    intro base priority target selection admitted
    obtain ⟨_, deployment, provider, route, capability, admissible, same⟩ :=
      admittedSelection_eq_some_iff.mp admitted
    rw [same]
    exact compiled.named _ _ admissible.deploymentFound
  have permuted : (sortedPools model).Perm model.pools := sortByKey_perm _ _
  have distinct : (((sortedPools model).flatMap fun pool => pool.targets).map
      fun target => target.deployment).Nodup := by
    refine (List.Perm.nodup_iff ?_).mpr routable.distinct
    exact (permuted.flatMap_right _).map _
  exact distinct.sublist (poolSelections_names_sublist named _)

end Contents

/-! ### The whole plan -/

theorem attemptLimit_bounds (attempts : 0 ≤ model.limits.maxAttempts) (nonempty : candidates ≠ []) :
    1 ≤ attemptLimit model options candidates ∧
      attemptLimit model options candidates ≤ candidates.length ∧
      (options.singleAttempt = true → attemptLimit model options candidates = 1) := by
  have length : 0 < candidates.length := length_pos_iff.mpr nonempty
  have effective : 1 ≤ model.limits.effective.maxAttempts := by
    simp only [ModelLimits.effective]
    split <;> omega
  unfold attemptLimit
  cases single : options.singleAttempt with
  | false =>
    simp only [Bool.false_eq_true, false_and, if_false, false_implies, and_true]
    split <;> omega
  | true =>
    simp only [true_and, true_implies]
    split_ifs <;> omega

/-- What remains true of the candidates through the last two layers. -/
structure Ordered (snapshot : Snapshot) (toLower : String → String) (requested : String)
    (model : VirtualModel) (options : PlanOptions) (required : List Capability)
    (candidates : List Selection) : Prop where
  contents : (candidates.map Selection.unmarked).Perm
    (poolSelections (admittedSelection snapshot requested model options required)
      (sortedPools model))
  sorted : candidates.Pairwise fun first second => first.sortKey ≤ second.sortKey
  marks : ∀ candidate ∈ candidates,
    candidate.running = markedRunning model options candidate.deployment.name ∧
    candidate.providerPreference = providerRank toLower
      (priorityNames toLower options.providerPriority) candidate.provider.name

section Layers

variable {snapshot : Snapshot} {requested : String} {model : VirtualModel}
  {options : PlanOptions} {required : List Capability}

theorem Built.unmarked {state : PlanState}
    (built : Built (admittedSelection snapshot requested model options required)
      (sortedPools model) state) :
    ∀ candidate ∈ state.candidates,
      candidate.running = false ∧ candidate.providerPreference = 0 := by
  intro candidate mem
  obtain ⟨_, _, _, _, _, admitted⟩ :=
    mem_poolSelections.mp (built.contents.mem_iff.mp mem)
  obtain ⟨_, _, _, _, _, _, same⟩ := admittedSelection_eq_some_iff.mp admitted
  rw [same]
  exact ⟨rfl, rfl⟩

theorem Built.ordered {state : PlanState} (toLower : String → String)
    (built : Built (admittedSelection snapshot requested model options required)
      (sortedPools model) state) :
    Ordered snapshot toLower requested model options required
      (applyProviderPriority toLower (priorityNames toLower options.providerPriority)
        (preferRunning model options state.candidates)) := by
  have fresh := built.unmarked
  have unranked := preferRunning_preference model options
    fun candidate mem => (fresh candidate mem).2
  have same : state.candidates.map Selection.unmarked = state.candidates := by
    have pointwise : ∀ candidate ∈ state.candidates, candidate.unmarked = id candidate := by
      intro candidate mem
      obtain ⟨running, preference⟩ := fresh candidate mem
      unfold Selection.unmarked
      rw [← running, ← preference, id]
    rw [map_congr_left pointwise, map_id]
  constructor
  · have layers := (applyProviderPriority_unmarked toLower
      (priorityNames toLower options.providerPriority)
      (preferRunning model options state.candidates)).trans
      (preferRunning_unmarked model options state.candidates)
    rw [same] at layers
    exact layers.trans built.contents
  · apply applyProviderPriority_ordered toLower _ unranked
    exact preferRunning_ordered model options
      (fun candidate mem => (fresh candidate mem).1) built.poolOrdered
  · apply applyProviderPriority_marks unranked
    exact preferRunning_running fun candidate mem => (fresh candidate mem).1

variable {toLower : String → String} {candidate : Selection}

section

variable {candidates : List Selection}
  (ordered : Ordered snapshot toLower requested model options required candidates)

include ordered

theorem Ordered.mem_unmarked (mem : candidate ∈ candidates) :
    ∃ index pool target deployment provider route capability,
      (sortedPools model)[index]? = some pool ∧ target ∈ pool.targets ∧
      (options.pinnedDeployment = "" ∨ target.deployment = options.pinnedDeployment) ∧
      Admissible snapshot options required target deployment provider route capability ∧
      candidate.unmarked = candidateFor requested model pool.priority
        (4 * index + preferenceRank route.native capability) target deployment provider
        route := by
  have present := ordered.contents.mem_iff.mp (mem_map_of_mem mem)
  obtain ⟨index, pool, target, found, targetMember, admitted⟩ := mem_poolSelections.mp present
  obtain ⟨pinned, deployment, provider, route, capability, admissible, same⟩ :=
    admittedSelection_eq_some_iff.mp admitted
  exact ⟨index, pool, target, deployment, provider, route, capability, found, targetMember,
    pinned, admissible, same⟩

theorem Ordered.sound (mem : candidate ∈ candidates) :
    ∃ index pool target route capability,
      (sortedPools model)[index]? = some pool ∧ target ∈ pool.targets ∧
      Admissible snapshot options required target candidate.deployment
        candidate.provider route capability ∧
      candidate.poolPriority = pool.priority ∧ candidate.weight = target.weight ∧
      candidate.upstreamProtocol = route.protocol ∧
      candidate.nativeProtocol = route.native ∧
      candidate.preferenceClass = 4 * index + preferenceRank route.native capability := by
  obtain ⟨index, pool, target, deployment, provider, route, capability, found,
    targetMember, _, admissible, same⟩ := ordered.mem_unmarked mem
  have sameDeployment : candidate.deployment = deployment :=
    congrArg Selection.deployment same
  have sameProvider : candidate.provider = provider := congrArg Selection.provider same
  refine ⟨index, pool, target, route, capability, found, targetMember, ?_,
    congrArg Selection.poolPriority same, congrArg Selection.weight same,
    congrArg Selection.upstreamProtocol same, congrArg Selection.nativeProtocol same,
    congrArg Selection.preferenceClass same⟩
  rw [sameDeployment, sameProvider]
  exact admissible

theorem Ordered.complete (unpinned : options.pinnedDeployment = "") {pool : RoutingPool}
    (poolMember : pool ∈ model.pools) {target : WeightedTarget}
    (targetMember : target ∈ pool.targets) {deployment : Deployment} {provider : Provider}
    {route : ProtocolRoute} {capability : CapabilityMatch}
    (admissible : Admissible snapshot options required target
      deployment provider route capability) :
    ∃ candidate ∈ candidates, candidate.deployment = deployment ∧
      candidate.provider = provider ∧ candidate.poolPriority = pool.priority ∧
      candidate.weight = target.weight := by
  have sortedMember : pool ∈ sortedPools model := (sortByKey_perm _ _).mem_iff.mpr poolMember
  obtain ⟨index, found⟩ := mem_iff_getElem?.mp sortedMember
  have admitted : admittedSelection snapshot requested model options required (4 * index)
      pool.priority target = some (candidateFor requested model pool.priority
        (4 * index + preferenceRank route.native capability) target deployment provider
        route) :=
    admittedSelection_eq_some_iff.mpr
      ⟨Or.inl unpinned, deployment, provider, route, capability, admissible, rfl⟩
  have present := mem_poolSelections.mpr ⟨index, pool, target, found, targetMember, admitted⟩
  obtain ⟨candidate, mem, same⟩ :=
    mem_map.mp (ordered.contents.mem_iff.mpr present)
  exact ⟨candidate, mem, congrArg Selection.deployment same,
    congrArg Selection.provider same, congrArg Selection.poolPriority same,
    congrArg Selection.weight same⟩

theorem Ordered.pinned (compiled : snapshot.Compiled) (pinned : options.pinnedDeployment ≠ "")
    (mem : candidate ∈ candidates) : candidate.deployment.name = options.pinnedDeployment := by
  obtain ⟨index, pool, target, deployment, provider, route, capability, _, _,
    matching, admissible, same⟩ := ordered.mem_unmarked mem
  have sameDeployment : candidate.deployment = deployment :=
    congrArg Selection.deployment same
  rw [sameDeployment, compiled.named _ _ admissible.deploymentFound]
  exact matching.resolve_left pinned

theorem Ordered.nodup (compiled : snapshot.Compiled) (routable : Routable model) :
    (candidates.map fun candidate => candidate.deployment.name).Nodup := by
  have names := ordered.contents.map fun candidate => candidate.deployment.name
  rw [map_map] at names
  exact names.nodup_iff.mpr (poolSelections_nodup compiled routable)

end

theorem buildPlanFor_ordered {Score : Type} [BEq Score] [LT Score] [DecidableLT Score]
    {hashScore : String → WeightedTarget → Score} {plan : Plan}
    (visible : snapshot.resolveModel requested options.allowInternal = some model)
    (planned : snapshot.buildPlanFor toLower hashScore requested options = .ok plan) :
    ∃ candidates, candidates ≠ [] ∧
      Ordered snapshot toLower requested model options
        (mergeCapabilities model.requiredCapabilities options.requiredCapabilities) candidates ∧
      plan.candidates =
        (if options.pinnedDeployment ≠ "" then candidates.take 1 else candidates) ∧
      plan.maxAttempts = attemptLimit model options plan.candidates := by
  unfold Snapshot.buildPlanFor at planned
  simp only [visible, bind_eq_ok] at planned
  obtain ⟨state, loop, planned⟩ := planned
  split at planned
  · cases planned
  next nonempty =>
    have built := built_pools loop
    have ordered := built.ordered toLower
    cases planned
    refine ⟨_, fun empty => ?_, ordered, rfl, rfl⟩
    have permuted := ordered.contents.symm
    rw [empty] at permuted
    exact nonempty (built.contents.trans permuted).eq_nil

end Layers

/-- A successful plan holds exactly the admissible targets, each once, ordered by
provider preference, readiness, pool and class; a pinned plan holds the pinned one. -/
theorem buildPlanFor_admissible_sorted {toLower : String → String}
    {hashScore : String → WeightedTarget → Float} {document : Document}
    {snapshot : Snapshot} {requested : String} {options : PlanOptions}
    {model : VirtualModel} {plan : Plan} (compiled : compile toLower document = .ok snapshot)
    (visible : snapshot.resolveModel requested options.allowInternal = some model)
    (planned : snapshot.buildPlanFor toLower hashScore requested options = .ok plan) :
    let required := mergeCapabilities model.requiredCapabilities options.requiredCapabilities
    (options.pinnedDeployment = "" →
      (plan.candidates.map fun candidate => candidate.deployment.name).Nodup ∧
      (∀ candidate ∈ plan.candidates, ∃ index pool target route capability,
        (sortedPools model)[index]? = some pool ∧ target ∈ pool.targets ∧
        Admissible snapshot options required target candidate.deployment
          candidate.provider route capability ∧
        candidate.poolPriority = pool.priority ∧ candidate.weight = target.weight ∧
        candidate.upstreamProtocol = route.protocol ∧
        candidate.nativeProtocol = route.native ∧
        candidate.preferenceClass = 4 * index + preferenceRank route.native capability) ∧
      (∀ pool ∈ model.pools, ∀ target ∈ pool.targets, ∀ deployment provider route capability,
          Admissible snapshot options required target deployment provider route capability →
          ∃ candidate ∈ plan.candidates, candidate.deployment = deployment ∧
            candidate.provider = provider ∧ candidate.poolPriority = pool.priority ∧
            candidate.weight = target.weight)) ∧
    (plan.candidates.Pairwise fun first second => first.sortKey ≤ second.sortKey) ∧
    (∀ candidate ∈ plan.candidates,
      candidate.running = markedRunning model options candidate.deployment.name ∧
      candidate.providerPreference = providerRank toLower
        (priorityNames toLower options.providerPriority) candidate.provider.name) ∧
    (options.pinnedDeployment ≠ "" →
      plan.candidates.length ≤ 1 ∧
      ∀ candidate ∈ plan.candidates, candidate.deployment.name = options.pinnedDeployment) ∧
    1 ≤ plan.maxAttempts ∧ plan.maxAttempts ≤ plan.candidates.length ∧
    (options.singleAttempt = true → plan.maxAttempts = 1) := by
  intro required
  have guarantees := Snapshot.compiled_of_compile compiled
  have routable := guarantees.resolved visible
  obtain ⟨candidates, someCandidate, ordered, shape, attempts⟩ :=
    buildPlanFor_ordered visible planned
  rw [attempts, shape]
  by_cases pinned : options.pinnedDeployment = ""
  · rw [if_neg (by simp [pinned])]
    exact ⟨fun _ => ⟨ordered.nodup guarantees routable, fun _ mem => ordered.sound mem,
        fun _ poolMember _ targetMember _ _ _ _ admissible =>
          ordered.complete pinned poolMember targetMember admissible⟩,
      ordered.sorted, ordered.marks, fun other => absurd pinned other,
      attemptLimit_bounds routable.attempts someCandidate⟩
  · rw [if_pos pinned]
    have first := take_sublist 1 candidates
    have someFirst : candidates.take 1 ≠ [] := by
      simpa [take_eq_nil_iff] using someCandidate
    exact ⟨fun unpinned => absurd unpinned pinned, ordered.sorted.sublist first,
      fun candidate mem => ordered.marks candidate (first.subset mem),
      fun _ => ⟨length_take_le 1 candidates, fun _ mem =>
        ordered.pinned guarantees pinned (first.subset mem)⟩,
      attemptLimit_bounds routable.attempts someFirst⟩

/-- Two providers, a pool with three targets and one behind it. -/
def severalTargetsDocument : Document where
  providers := [{ name := "edge", type := "openai" }, { name := "cloud", type := "anthropic" }]
  deployments :=
    [{ name := "slow", provider := "edge" }, { name := "fast", provider := "edge" },
      { name := "remote", provider := "cloud" }, { name := "spare", provider := "cloud" }]
  virtualModels :=
    [{ name := "chat"
       pools :=
        [{ priority := 2, targets := [⟨"spare", 1⟩] },
          { priority := 1, targets := [⟨"remote", 1⟩, ⟨"slow", 1⟩, ⟨"fast", 3⟩] }] }]

/-- Only `edge` is native, only `fast` and `spare` are ready, and `cloud` is preferred. -/
def cloudFirst : PlanOptions where
  protocolResolver := some fun provider _ =>
    ({ protocol := some .openai, native := provider.name = "edge" }, true)
  ready := some fun name => name = "fast" || name = "spare"
  picker := fun _ total => .ok (total - 1)
  providerPriority := ["cloud", "edge"]

/-- What `shown` gives of the plan for `chat`, where there is one. -/
def evaluatePlan {Shown : Type} (document : Document) (options : PlanOptions)
    (shown : Plan → Shown) : Option Shown :=
  (compile id document).toOption.bind fun snapshot =>
    (snapshot.buildPlanFor id (fun _ _ => (0 : Float)) "chat" options).toOption.map shown

theorem exists_plan_of_evaluatePlan {document : Document} {options : PlanOptions} {Shown : Type}
    {shown : Plan → Shown} {value : Shown}
    (evaluated : evaluatePlan document options shown = some value) :
    ∃ snapshot model plan, compile id document = .ok snapshot ∧
      snapshot.resolveModel "chat" options.allowInternal = some model ∧
      snapshot.buildPlanFor id (fun _ _ => (0 : Float)) "chat" options = .ok plan ∧
      shown plan = value := by
  unfold evaluatePlan at evaluated
  cases compiled : compile id document with
  | error message => simp [compiled, Except.toOption] at evaluated
  | ok snapshot =>
    cases planned : snapshot.buildPlanFor id (fun _ _ => (0 : Float)) "chat" options with
    | error failure => simp [compiled, planned, Except.toOption] at evaluated
    | ok plan =>
      cases visible : snapshot.resolveModel "chat" options.allowInternal with
      | none => simp [Snapshot.buildPlanFor, visible] at planned
      | some model =>
        exact ⟨snapshot, model, plan, rfl, visible, planned,
          by simpa [compiled, planned, Except.toOption] using evaluated⟩

def Plan.ranks (plan : Plan) : List (String × Nat × Bool × Nat) :=
  plan.candidates.map fun candidate => (candidate.deployment.name,
    candidate.providerPreference, candidate.running, candidate.preferenceClass)

theorem buildPlanFor_admissible_sorted_several :
    ∃ snapshot model plan, compile id severalTargetsDocument = .ok snapshot ∧
      snapshot.resolveModel "chat" cloudFirst.allowInternal = some model ∧
      snapshot.buildPlanFor id (fun _ _ => (0 : Float)) "chat" cloudFirst = .ok plan ∧
      plan.ranks = [("spare", 0, true, 6), ("remote", 0, false, 2), ("fast", 1, true, 0),
        ("slow", 1, false, 0)] ∧
      (plan.candidates.map fun candidate => candidate.deployment.name).Nodup ∧
      (plan.candidates.Pairwise fun first second => first.sortKey ≤ second.sortKey) ∧
      1 ≤ plan.maxAttempts := by
  have evaluated : evaluatePlan severalTargetsDocument cloudFirst Plan.ranks =
      some [("spare", 0, true, 6), ("remote", 0, false, 2), ("fast", 1, true, 0),
        ("slow", 1, false, 0)] := by
    -- the merges do not evaluate, the insertions do
    unfold evaluatePlan Snapshot.buildPlanFor sortedPools applyProviderPriority
    simp only [sortByKey_eq_insertionSort]
    decide +kernel
  obtain ⟨snapshot, model, plan, compiled, visible, planned, ranks⟩ :=
    exists_plan_of_evaluatePlan evaluated
  have correct := buildPlanFor_admissible_sorted compiled visible planned
  exact ⟨snapshot, model, plan, compiled, visible, planned, ranks, (correct.1 rfl).1,
    correct.2.1, correct.2.2.2.2.1⟩

end SparkRoute.Routing
