import Mathlib.Data.List.Perm.Basic
import SparkRoute.Routing.Plan

/-!
# Contents and order of a plan

Each layer of `buildPlanFor` is followed by what it keeps: drawing and hashing
permute a class, the classes partition the admitted targets of a pool, and the
readiness and provider layers refine the order that the pool loop produced.
-/

namespace SparkRoute.Routing

open Config SparkRoute.Lib List

/-! ### Specification -/

/-- The position of a class among the four of its pool. -/
def preferenceRank (native : Bool) (capability : CapabilityMatch) : Nat :=
  if native ∧ capability = .declared then 0
  else if native then 1
  else if capability = .declared then 2
  else 3

theorem preferenceRank_lt (native : Bool) (capability : CapabilityMatch) :
    preferenceRank native capability < 4 := by
  cases native <;> cases capability <;> decide

/-- What a target contributes to class `rank` of its pool. -/
def classMember (snapshot : Snapshot) (options : PlanOptions) (required : List Capability)
    (rank : Nat) (target : WeightedTarget) : Option EligibleTarget :=
  match assess snapshot options required target with
  | .admitted route capability =>
    if preferenceRank route.native capability = rank then some ⟨target, route⟩ else none
  | _ => none

/-- The candidate that a target contributes when its pool starts at class `base`. -/
def admittedSelection (snapshot : Snapshot) (requested : String) (model : VirtualModel)
    (options : PlanOptions) (required : List Capability) (base : Nat) (priority : Int)
    (target : WeightedTarget) : Option Selection :=
  match assess snapshot options required target with
  | .admitted route capability =>
    selectionOf snapshot requested model priority
      (base + preferenceRank route.native capability) ⟨target, route⟩
  | _ => none

/-- Candidates in class order, with class numbers from `low` up to `high`. -/
structure Block (low high : Nat) (candidates : List Selection) : Prop where
  ordered : candidates.Pairwise fun first second =>
    first.preferenceClass ≤ second.preferenceClass
  bounds : ∀ selection ∈ candidates,
    low ≤ selection.preferenceClass ∧ selection.preferenceClass < high

theorem Block.append {low middle high : Nat} {first second : List Selection}
    (lower : Block low middle first) (upper : Block middle high second)
    (below : low ≤ middle) (above : middle ≤ high) : Block low high (first ++ second) := by
  constructor
  · apply pairwise_append.mpr
    refine ⟨lower.ordered, upper.ordered, ?_⟩
    intro earlier earlierMember later laterMember
    have before := (lower.bounds earlier earlierMember).2
    have after := (upper.bounds later laterMember).1
    omega
  · intro selection mem
    rcases mem_append.mp mem with present | present
    · obtain ⟨atLeast, less⟩ := lower.bounds selection present
      omega
    · obtain ⟨atLeast, less⟩ := upper.bounds selection present
      omega

structure PoolPart (selects : Nat → Int → WeightedTarget → Option Selection)
    (pool : RoutingPool) (base : Nat) (added : List Selection) : Prop where
  contents : added.Perm (pool.targets.filterMap (selects base pool.priority))
  block : Block base (base + 4) added
  priority : ∀ selection ∈ added, selection.poolPriority = pool.priority

/-! ### One class -/

variable {remaining : List EligibleTarget}

theorem pickIndex_lt {value boundary : Int} {index : Nat}
    (picked : pickIndex value boundary remaining = some index) : index < remaining.length := by
  fun_induction pickIndex value boundary remaining generalizing index with
  | case1 => cases picked
  | case2 =>
    cases picked
    simp
  | case3 _ _ rest _ ih =>
    obtain ⟨earlier, found, equality⟩ := Option.map_eq_some_iff.mp picked
    subst equality
    have bounded := ih found
    simpa using bounded

theorem pickIndex_getD_lt (value : Int) (nonempty : remaining ≠ []) :
    (pickIndex value 0 remaining).getD 0 < remaining.length := by
  cases picked : pickIndex value 0 remaining with
  | none => exact length_pos_iff.mpr nonempty
  | some index => exact pickIndex_lt picked

variable {options : PlanOptions}

theorem drawGroup_perm {model : VirtualModel} {priority : Int} {fuel calls after : Nat}
    {drawn : List EligibleTarget}
    (drew : drawGroup model options priority fuel calls remaining = .ok (after, drawn))
    (enough : remaining.length ≤ fuel) : drawn.Perm remaining := by
  induction fuel generalizing calls after remaining drawn with
  | zero =>
    have empty : remaining = [] := length_eq_zero_iff.mp (Nat.le_zero.mp enough)
    cases drew
    rw [empty]
  | succ fuel ih =>
    unfold drawGroup at drew
    split at drew
    next empty =>
      cases drew
      rw [empty]
    next nonempty =>
    split at drew
    · cases drew
    simp only [bind_eq_ok] at drew
    obtain ⟨value, _, ⟨later, rest⟩, drew, equality⟩ := drew
    have inside := pickIndex_getD_lt value nonempty
    cases equality
    have smaller : (remaining.eraseIdx ((pickIndex value 0 remaining).getD 0)).length ≤ fuel := by
      rw [length_eraseIdx_of_lt inside]
      omega
    have permuted := ih drew smaller
    rw [List.getElem?_eq_getElem inside]
    exact (permuted.cons _).trans (getElem_cons_eraseIdx_perm inside)

variable {Score : Type} [BEq Score] [LT Score] [DecidableLT Score]
  (hashScore : String → WeightedTarget → Score)

theorem weightedHashOrder_perm (key : String) (targets : List WeightedTarget) :
    (weightedHashOrder hashScore key targets).Perm (List.range targets.length) := by
  have positions : targets.zipIdx.map (fun entry => entry.2) =
      List.range targets.length := by
    rw [range_eq_range']
    exact zipIdx_map_snd 0 targets
  rw [← positions]
  exact (mergeSort_perm _ _).map _

theorem filterMap_range_getElem? {Element : Type} (elements : List Element) :
    (List.range elements.length).filterMap (fun index => elements[index]?) = elements := by
  induction elements with
  | nil => rfl
  | cons element rest ih =>
    simp only [length_cons, range_succ_eq_map, filterMap_cons,
      List.getElem?_cons_zero, filterMap_map]
    congr 1

theorem orderGroup_perm (model : VirtualModel) (options : PlanOptions)
    (group : List EligibleTarget) : (orderGroup hashScore model options group).Perm group := by
  unfold orderGroup
  split
  next =>
    have order := weightedHashOrder_perm hashScore options.selectionKey
      (group.map fun eligible => eligible.target)
    rw [length_map] at order
    have selected := order.filterMap fun index => group[index]?
    rw [filterMap_range_getElem?] at selected
    exact selected
  next => exact List.Perm.refl group

section Building

variable {snapshot : Snapshot} {requested : String} {model : VirtualModel} {options : PlanOptions}
  {hashScore : String → WeightedTarget → Score} {priority : Int} {group : List EligibleTarget}

variable {state : PlanState}

theorem planGroup_spec {after : PlanState}
    (planned : planGroup snapshot requested model options hashScore priority state group = .ok
      after) :
    ∃ added, after.candidates = state.candidates ++ added ∧
      after.preferenceClass = state.preferenceClass + 1 ∧
      added.Perm (group.filterMap
        (selectionOf snapshot requested model priority state.preferenceClass)) := by
  unfold planGroup at planned
  rw [bind_eq_ok] at planned
  obtain ⟨⟨calls, drawn⟩, drew, equality⟩ := planned
  cases equality
  refine ⟨_, rfl, rfl, ?_⟩
  apply List.Perm.filterMap
  exact (drawGroup_perm drew (le_refl _)).trans
    (orderGroup_perm hashScore model options group)

/-! ### The classes of one pool -/

theorem scanTarget_groups (required : List Capability) (scan : PoolScan) (target : WeightedTarget) :
    (scanTarget snapshot options required scan target).groups =
      scan.groups.mapIdx fun rank group =>
        group ++ (classMember snapshot options required rank target).toList := by
  unfold scanTarget classMember
  cases assessed : assess snapshot options required target with
  | skipped | incompatible | incapable | ineligible => simp [PoolScan.count, PoolScan.groups]
  | admitted route capability =>
    cases native : route.native <;> cases capability <;>
      simp [PoolScan.count, PoolScan.classify, PoolScan.groups, preferenceRank, native]

theorem scanPool_groups (required : List Capability) (pool : RoutingPool) :
    (scanPool snapshot options required pool).groups =
      (List.range 4).map fun rank =>
        pool.targets.filterMap (classMember snapshot options required rank) := by
  have shape : ∀ (targets : List WeightedTarget) (scan : PoolScan),
      (targets.foldl (scanTarget snapshot options required) scan).groups =
        scan.groups.mapIdx fun rank group =>
          group ++ targets.filterMap (classMember snapshot options required rank) := by
    intro targets
    induction targets with
    | nil =>
      intro scan
      simp [PoolScan.groups]
    | cons target rest ih =>
      intro scan
      rw [foldl_cons, ih, scanTarget_groups, mapIdx_mapIdx]
      apply mapIdx_eq_mapIdx_iff.mpr
      intro rank _
      cases member : classMember snapshot options required rank target <;>
        simp [member]
  rw [scanPool, shape]
  rfl

theorem classes_perm (snapshot : Snapshot) (requested : String) (model : VirtualModel)
    (options : PlanOptions) (required : List Capability) (base : Nat) (priority : Int)
    (targets : List WeightedTarget) :
    ((List.range 4).flatMap fun rank =>
        (targets.filterMap (classMember snapshot options required rank)).filterMap
          (selectionOf snapshot requested model priority (base + rank))).Perm
      (targets.filterMap
        (admittedSelection snapshot requested model options required base priority)) := by
  have single (chosen : Option EligibleTarget) (select : EligibleTarget → Option Selection) :
      chosen.toList.filterMap select = (chosen.bind select).toList := by
    cases chosen with
    | none => rfl
    | some eligible => cases selected : select eligible <;> simp [selected]
  induction targets with
  | nil => simp
  | cons target rest ih =>
    have head : ((List.range 4).flatMap fun rank =>
        (classMember snapshot options required rank target).toList.filterMap
          (selectionOf snapshot requested model priority (base + rank))) =
        (admittedSelection snapshot requested model options required base priority
          target).toList := by
      simp only [single]
      unfold classMember admittedSelection
      cases assessed : assess snapshot options required target with
      | admitted route capability =>
        cases native : route.native <;> cases capability <;>
          simp [range_succ, preferenceRank, native]
      | _ => simp
    have split {Image : Type} (keep : WeightedTarget → Option Image) :
        (target :: rest).filterMap keep =
          (keep target).toList ++ rest.filterMap keep := by
      cases kept : keep target <;> simp [kept]
    simp only [split, filterMap_append]
    rw [← head]
    exact (flatMap_append_perm _ _ _).symm.trans
      (List.Perm.append_left _ ih)

/-- One class of a pool carries its class number and the pool's priority. -/
theorem group_block {preferenceClass : Nat} {added : List Selection}
    (permuted : added.Perm (group.filterMap (selectionOf snapshot requested model priority
      preferenceClass))) :
    Block preferenceClass (preferenceClass + 1) added ∧
      ∀ selection ∈ added, selection.poolPriority = priority := by
  have fields : ∀ selection ∈ added, selection.poolPriority = priority ∧
      selection.preferenceClass = preferenceClass := by
    intro selection mem
    obtain ⟨eligible, _, selected⟩ :=
      mem_filterMap.mp (permuted.mem_iff.mp mem)
    revert selected
    fun_cases selectionOf snapshot requested model priority preferenceClass eligible <;> rintro ⟨⟩
    exact ⟨rfl, rfl⟩
  refine ⟨⟨?_, ?_⟩, fun selection mem => (fields selection mem).1⟩
  · rw [pairwise_iff_forall_sublist]
    intro first second pair
    have firstClass := (fields first (pair.subset (by simp))).2
    have secondClass := (fields second (pair.subset (by simp))).2
    omega
  · intro selection mem
    have sameClass := (fields selection mem).2
    omega

variable {required : List Capability}

theorem planPool_spec {after : PlanState} {pool : RoutingPool}
    (planned : planPool snapshot requested model options hashScore required state pool =
      .ok after) :
    ∃ added, after.candidates = state.candidates ++ added ∧
      after.preferenceClass = state.preferenceClass + 4 ∧
      PoolPart (admittedSelection snapshot requested model options required) pool
        state.preferenceClass added := by
  have classes := classes_perm snapshot requested model options required
    state.preferenceClass pool.priority pool.targets
  unfold planPool at planned
  have four : List.range 4 = [0, 1, 2, 3] := rfl
  simp only [scanPool_groups, four, map_cons, map_nil, foldlM_cons,
    foldlM_nil, bind_eq_ok] at planned
  simp only [four, flatMap_cons, flatMap_nil, append_nil] at classes
  obtain ⟨first, firstPlanned, second, secondPlanned, third, thirdPlanned,
    fourth, fourthPlanned, equality⟩ := planned
  cases equality
  obtain ⟨part0, shape0, class0, perm0⟩ := planGroup_spec firstPlanned
  obtain ⟨part1, shape1, class1, perm1⟩ := planGroup_spec secondPlanned
  obtain ⟨part2, shape2, class2, perm2⟩ := planGroup_spec thirdPlanned
  obtain ⟨part3, shape3, class3, perm3⟩ := planGroup_spec fourthPlanned
  simp only at shape0 class0 perm0
  rw [class0] at perm1 class1
  rw [class1] at perm2 class2
  rw [class2] at perm3 class3
  obtain ⟨block0, priority0⟩ := group_block perm0
  obtain ⟨block1, priority1⟩ := group_block perm1
  obtain ⟨block2, priority2⟩ := group_block perm2
  obtain ⟨block3, priority3⟩ := group_block perm3
  refine ⟨part0 ++ (part1 ++ (part2 ++ part3)), ?_, class3, ?_, ?_, ?_⟩
  · rw [shape3, shape2, shape1, shape0]
    simp
  · exact (perm0.append (perm1.append (perm2.append perm3))).trans classes
  · exact block0.append
      (block1.append (block2.append block3 (by omega) (by omega)) (by omega) (by omega))
      (by omega) (by omega)
  · intro selection mem
    simp only [mem_append] at mem
    rcases mem with present | present | present | present
    · exact priority0 selection present
    · exact priority1 selection present
    · exact priority2 selection present
    · exact priority3 selection present

/-! ### The pools -/

/-- The candidates of a list of pools, in no particular order. -/
def poolSelections (selects : Nat → Int → WeightedTarget → Option Selection)
    (pools : List RoutingPool) : List Selection :=
  pools.zipIdx.flatMap fun entry =>
    entry.1.targets.filterMap (selects (4 * entry.2) entry.1.priority)

structure Built (selects : Nat → Int → WeightedTarget → Option Selection)
    (visited : List RoutingPool) (state : PlanState) : Prop where
  classes : state.preferenceClass = 4 * visited.length
  contents : state.candidates.Perm (poolSelections selects visited)
  block : Block 0 (4 * visited.length) state.candidates

theorem built_pools {pools : List RoutingPool}
    (planned : pools.foldlM (planPool snapshot requested model options hashScore required) {} =
      .ok state) :
    Built (admittedSelection snapshot requested model options required) pools state := by
  have initially : Built (admittedSelection snapshot requested model options required) []
      {} := ⟨rfl, List.Perm.nil, .nil, by simp⟩
  refine foldlM_invariant (Built _) ?_ initially planned
  intro visited before pool after built stepped
  obtain ⟨added, candidates, classes, part⟩ := planPool_spec stepped
  rw [built.classes] at classes part
  have longer : 4 * (visited ++ [pool]).length = 4 * visited.length + 4 := by
    simp only [length_append, length_singleton]
    omega
  constructor
  · rw [classes, longer]
  · rw [candidates]
    simpa [poolSelections, zipIdx_append] using built.contents.append part.contents
  · rw [candidates, longer]
    exact built.block.append part.block (by omega) (by omega)

end Building

/-! ### Admissible targets -/

/-- The request can be served through `route`: as the resolver says, or natively
when no compatibility check objects. -/
def Compatible (options : PlanOptions) (provider : Provider) (deployment : Deployment)
    (route : ProtocolRoute) : Prop :=
  match options.protocolResolver with
  | some resolver => resolver provider deployment = (route, true) ∧ route.protocol ≠ none
  | none =>
    (∀ compatible, options.compatibility = some compatible →
      compatible provider.type = true) ∧
    route =
      { native := true
        protocol := (deployment.effectiveNativeProtocols provider).head? }

/-- The filters of a plan, as conditions on one target and what it resolves to. -/
structure Admissible (snapshot : Snapshot) (options : PlanOptions)
    (required : List Capability) (target : WeightedTarget) (deployment : Deployment)
    (provider : Provider) (route : ProtocolRoute) (capability : CapabilityMatch) :
    Prop where
  deploymentFound : snapshot.deployments.lookup target.deployment = some deployment
  providerFound : snapshot.providers.lookup deployment.provider = some provider
  pinnedProvider : options.pinnedProvider = "" ∨
    deployment.provider = options.pinnedProvider
  providerType : options.allowedProviderTypes = [] ∨
    provider.type ∈ options.allowedProviderTypes
  compatible : Compatible options provider deployment route
  matched : deployment.matchCapabilities (required ++ route.requiredCapabilities) =
    capability
  capable : capability ≠ .rejected
  eligible : ∀ eligible, options.eligibility = some eligible →
    eligible deployment.name = true

variable {route : ProtocolRoute}

theorem routeFor_eq_some_iff {provider : Provider} {deployment : Deployment} :
    routeFor options provider deployment = some route ↔
      Compatible options provider deployment route := by
  unfold routeFor Compatible
  cases options.protocolResolver with
  | some resolver =>
    dsimp only
    rcases resolver provider deployment with ⟨found, compatible⟩
    simp only [Option.ite_none_left_eq_some, not_or, Bool.not_eq_true', Bool.not_eq_false,
      Option.isNone_iff_eq_none, Option.some.injEq, Prod.mk.injEq]
    constructor
    · rintro ⟨⟨usable, typed⟩, rfl⟩
      exact ⟨⟨rfl, usable⟩, typed⟩
    · rintro ⟨⟨rfl, usable⟩, typed⟩
      exact ⟨⟨usable, typed⟩, rfl⟩
  | none =>
    rw [Option.ite_none_left_eq_some, Option.some.injEq]
    refine and_congr ?_ eq_comm
    cases options.compatibility with
    | none | some compatible => simp

theorem providerTypeAllowed_iff {providerType : String} {allowed : List String} :
    providerTypeAllowed providerType allowed = true ↔
      allowed = [] ∨ providerType ∈ allowed := by
  simp [providerTypeAllowed]

theorem assess_eq_admitted_iff {snapshot : Snapshot} {required : List Capability}
    {target : WeightedTarget} {capability : CapabilityMatch} :
    assess snapshot options required target = .admitted route capability ↔
      (options.pinnedDeployment = "" ∨ target.deployment = options.pinnedDeployment) ∧
      ∃ deployment provider, Admissible snapshot options required target deployment
        provider route capability := by
  constructor
  · fun_cases assess snapshot options required target with
    | case9 pinned deployment deploymentFound pinnedProvider provider providerFound allowed found
        routed matched capable eligible =>
      intro accepted
      obtain ⟨rfl, rfl⟩ := Assessment.admitted.inj accepted
      refine ⟨by tauto, deployment, provider, ?_⟩
      constructor
      · exact deploymentFound
      · exact providerFound
      · tauto
      · exact providerTypeAllowed_iff.mp (by simpa using allowed)
      · exact routeFor_eq_some_iff.mp routed
      · rfl
      · exact capable
      · intro check given
        simpa [given] using eligible
    | _ => rintro ⟨⟩
  · rintro ⟨pinned, deployment, provider, admissible⟩
    have routed := routeFor_eq_some_iff.mpr admissible.compatible
    have allowed := providerTypeAllowed_iff.mpr admissible.providerType
    have eligible : ¬ (options.eligibility.any fun eligible =>
        !eligible deployment.name) = true := by
      cases given : options.eligibility with
      | none => simp
      | some check => simp [admissible.eligible check given]
    unfold assess
    rw [if_neg (by tauto)]
    simp only [admissible.deploymentFound, admissible.providerFound, allowed, routed,
      admissible.matched, admissible.capable, eligible, Bool.not_true, Bool.false_eq_true,
      if_false]
    rw [if_neg (by have := admissible.pinnedProvider; tauto)]

end SparkRoute.Routing
