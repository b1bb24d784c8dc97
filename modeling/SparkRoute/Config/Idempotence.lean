import SparkRoute.Config.Inheritance

/-!
# Resolving a document twice

A resolved document is resolved again, and each of its models is rebuilt from the resolved
parent.
-/

namespace SparkRoute.Config.Profiles

open Lib List

variable {Other Settings Rest : Type} {encoding : Encoding}

/-! ### One pass -/

/-- A successful resolution, with the document between its two halves. -/
structure Pass (encoding : Encoding) (document stage resolved : Document Other Settings Rest) :
    Prop where
  deployments : List.Forall₂
    (fun deployment result => resolveDeployment encoding document.requestProfileSources deployment =
      .ok result) document.deployments stage.deployments
  inherited : List.Forall₂
    (fun child model => inheritProfile encoding document.virtualModels child = .ok model)
    document.virtualModels stage.virtualModels
  staged : stage = { document with
    deployments := stage.deployments
    virtualModels := stage.virtualModels }
  policies : stage.validatePolicies = .ok ()
  assigned : List.Forall₂ (fun model result => stage.assignPolicy model = .ok result)
    stage.virtualModels resolved.virtualModels
  finished : resolved = { stage with virtualModels := resolved.virtualModels }

variable {document resolved : Document Other Settings Rest}

theorem resolveModelPolicies_eq_ok :
    document.resolveModelPolicies encoding = .ok resolved ↔
      ∃ stage, Pass encoding document stage resolved := by
  constructor
  · intro accepted
    obtain ⟨stage, staging, accepted⟩ := bind_eq_ok.mp accepted
    obtain ⟨deployments, resolvedDeployments, staging⟩ := bind_eq_ok.mp staging
    obtain ⟨models, inherited, staging⟩ := bind_eq_ok.mp staging
    obtain ⟨⟨⟩, policies, accepted⟩ := bind_eq_ok.mp accepted
    obtain ⟨results, assigned, accepted⟩ := bind_eq_ok.mp accepted
    cases staging
    cases accepted
    exact ⟨_, mapM_forall₂ resolvedDeployments, mapM_forall₂ inherited, rfl, policies,
      mapM_forall₂ assigned, rfl⟩
  · rintro ⟨stage, pass⟩
    refine bind_eq_ok.mpr ⟨stage, ?_, ?_⟩
    · refine bind_eq_ok.mpr ⟨_, mapM_of_forall₂ pass.deployments, ?_⟩
      refine bind_eq_ok.mpr ⟨_, mapM_of_forall₂ pass.inherited, ?_⟩
      exact congrArg Except.ok pass.staged.symm
    · refine bind_eq_ok.mpr ⟨⟨⟩, pass.policies, ?_⟩
      refine bind_eq_ok.mpr ⟨_, mapM_of_forall₂ pass.assigned, ?_⟩
      exact congrArg Except.ok pass.finished.symm

theorem resolveDeployment_again {sources : OrderedMap String RequestProfileSource}
    {deployment result : Deployment Other}
    (accepted : resolveDeployment encoding sources deployment = .ok result) :
    resolveDeployment encoding sources result = .ok result := by
  obtain ⟨⟨⟩, jobs, accepted⟩ := bind_eq_ok.mp accepted
  obtain ⟨⟨⟩, discovered, accepted⟩ := bind_eq_ok.mp accepted
  obtain ⟨⟨⟩, identifiers, accepted⟩ := bind_eq_ok.mp accepted
  obtain ⟨⟨⟩, source, accepted⟩ := bind_eq_ok.mp accepted
  obtain ⟨⟨⟩, profiles, accepted⟩ := bind_eq_ok.mp accepted
  cases accepted
  have refreshed : refreshedProfiles sources
        { deployment with requestProfiles := refreshedProfiles sources deployment } =
      refreshedProfiles sources deployment := by
    simp only [refreshedProfiles]
    cases sources.get deployment.name with
    | none => rfl
    | some source =>
      cases deployment.profileSource with
      | none => rfl
      | some stored =>
        by_cases current : source.recipe = stored.recipe ∧
            source.recipeRevision = stored.recipeRevision ∧
            source.baselineRevision = stored.revision
        · simp only [if_pos current]
        · simp only [if_neg current]
  refine bind_eq_ok.mpr ⟨⟨⟩, jobs, bind_eq_ok.mpr ⟨⟨⟩, discovered, ?_⟩⟩
  refine bind_eq_ok.mpr ⟨⟨⟩, identifiers, bind_eq_ok.mpr ⟨⟨⟩, source, ?_⟩⟩
  simp only [refreshed]
  exact bind_eq_ok.mpr ⟨⟨⟩, profiles, rfl⟩

variable {models : List (VirtualModel Settings)} {child : VirtualModel Settings}
  {binding : RequestProfileBinding}

theorem profileParent_eq_ok {parent : VirtualModel Settings} :
    profileParent models child binding = .ok parent ↔
      modelNamed models binding.parent = some parent ∧ parent.profile = none ∧
        child.name ≠ binding.parent := by
  unfold profileParent
  cases modelNamed models binding.parent with
  | none => simp
  | some found =>
    simp only [Option.some.injEq]
    split
    next refused =>
      constructor
      · intro impossible
        cases impossible
      · rintro ⟨rfl, plain, different⟩
        rcases refused with profiled | same
        · rw [plain] at profiled
          cases profiled
        · exact absurd same different
    next accepted =>
      obtain ⟨plain, different⟩ := not_or.mp accepted
      constructor
      · intro same
        cases same
        exact ⟨rfl, Option.not_isSome_iff_eq_none.mp plain, different⟩
      · rintro ⟨rfl, -, -⟩
        rfl

variable {model : VirtualModel Settings}

theorem inheritProfile_eq_ok (profiled : child.profile = some binding) :
    inheritProfile encoding models child = .ok model ↔
      validateProfileParameters encoding child.requestOverrides = .ok () ∧
        validateBinding encoding binding child.name = .ok () ∧
        ∃ parent, profileParent models child binding = .ok parent ∧
          model = parent.inherit child binding := by
  simp only [inheritProfile, profiled, bind_eq_ok]
  constructor
  · rintro ⟨⟨⟩, parameters, parent, found, ⟨⟩, bound, same⟩
    cases same
    exact ⟨parameters, bound, parent, found, rfl⟩
  · rintro ⟨parameters, bound, parent, found, rfl⟩
    exact ⟨⟨⟩, parameters, parent, found, ⟨⟩, bound, rfl⟩

theorem inheritProfile_plain (plain : child.profile = none) :
    inheritProfile encoding models child = .ok child := by
  simp only [inheritProfile, plain]

theorem inheritProfile_name
    (accepted : inheritProfile encoding models child = .ok model) : child.name = model.name := by
  cases profiled : child.profile with
  | none =>
    rw [inheritProfile_plain profiled] at accepted
    cases accepted
    rfl
  | some binding =>
    obtain ⟨-, -, parent, -, rfl⟩ := (inheritProfile_eq_ok profiled).mp accepted
    rfl

theorem assignPolicy_eq_ok {stage : Document Other Settings Rest} {result : VirtualModel Settings} :
    stage.assignPolicy model = .ok result ↔
      ∃ assignment, effectivePolicy stage.virtualModels stage.modelPolicies model = .ok assignment ∧
        result = model.assigned stage.policyProfiles assignment := by
  rw [Document.assignPolicy, bind_eq_ok]
  constructor
  · rintro ⟨assignment, walked, same⟩
    cases same
    exact ⟨assignment, walked, rfl⟩
  · rintro ⟨assignment, walked, rfl⟩
    exact ⟨assignment, walked, rfl⟩

variable {related : VirtualModel Settings → VirtualModel Settings → Prop}
  {results : List (VirtualModel Settings)}

theorem modelNamed_forall₂ (pairs : List.Forall₂ related models results)
    (names : ∀ model result, related model result → model.name = result.name) {name : String}
    (found : modelNamed models name = some model) :
    ∃ result, modelNamed results name = some result ∧ related model result := by
  apply find?_forall₂ (rel_reverse pairs) _ found
  intro element result pair
  rw [names element result pair]

namespace Pass

variable {document stage resolved : Document Other Settings Rest} {parent : VirtualModel Settings}
  {binding : RequestProfileBinding}

section

variable (pass : Pass encoding document stage resolved)

include pass

/-- The parent of a profile passes the first half unchanged. -/
theorem parent_staged {child : VirtualModel Settings}
    (found : profileParent document.virtualModels child binding = .ok parent) :
    modelNamed stage.virtualModels binding.parent = some parent := by
  obtain ⟨named, plain, -⟩ := profileParent_eq_ok.mp found
  obtain ⟨model, located, pair⟩ := modelNamed_forall₂ pass.inherited
    (fun _ _ accepted => inheritProfile_name accepted) named
  rw [inheritProfile_plain plain] at pair
  cases pair
  exact located

theorem stored_unnamed : ModelPolicyAssignment.stored stage.modelPolicies "" = {} := by
  have absent : stage.modelPolicies.get "" = none := by
    cases found : stage.modelPolicies.get "" with
    | none => rfl
    | some assignment =>
      have listed : ("", assignment) ∈ stage.modelPolicies.entries :=
        OrderedMap.lookupEntry_mem found
      obtain ⟨⟨⟩, -, rest⟩ := bind_eq_ok.mp pass.policies
      obtain ⟨⟨⟩, -, rest⟩ := bind_eq_ok.mp rest
      obtain ⟨⟨⟩, -, checked⟩ := bind_eq_ok.mp rest
      have sorted : ("", assignment) ∈ sortedPolicyNames stage.modelPolicies.entries :=
        (mergeSort_perm _ _).mem_iff.mpr listed
      have passed := forM_eq_ok.mp checked _ sorted
      obtain ⟨⟨⟩, identified, -⟩ := bind_eq_ok.mp passed
      cases identified
  rw [ModelPolicyAssignment.stored, absent]
  rfl

theorem covers_parent {child : VirtualModel Settings} {assignment inherited : ModelPolicyAssignment}
    (found : profileParent document.virtualModels child binding = .ok parent)
    (walked : effectivePolicy stage.virtualModels stage.modelPolicies (parent.inherit child
      binding) = .ok assignment)
    (walkedParent : effectivePolicy stage.virtualModels stage.modelPolicies parent =
      .ok inherited) : assignment.Covers inherited := by
  obtain ⟨named, plain, -⟩ := profileParent_eq_ok.mp found
  by_cases unnamed : binding.parent = ""
  · have name : parent.name = "" := by
      have matched := List.find?_some named
      simpa [unnamed] using matched
    have nothing : inherited = {} := by
      rw [effectivePolicy, name, pass.stored_unnamed, inheritedPolicy] at walkedParent
      split at walkedParent
      next =>
        cases walkedParent
        rfl
      next =>
        have rootless : policyParent parent = none := by
          rw [policyParent, plain, name]
          rfl
        simp only [contains_nil, rootless, Option.bind_none] at walkedParent
        cases walkedParent
        rfl
    rw [nothing]
    exact .nothing assignment
  · have next : policyParent (parent.inherit child binding) = some binding.parent := by
      simp only [policyParent, VirtualModel.inherit, if_neg unnamed]
    rw [effectivePolicy, inheritedPolicy, next, Option.bind_some, pass.parent_staged found]
      at walked
    have profiled : (parent.inherit child binding).profile.isNone = false := rfl
    rw [profiled, Bool.and_false] at walked
    obtain ⟨further, left, right⟩ := inheritedPolicy_same walked walkedParent
    rw [left, right, ModelPolicyAssignment.orElse_assoc]
    exact .orElse _ _

/-- The second pass rebuilds a model from its resolved parent. -/
theorem inherits_again {child model result : VirtualModel Settings}
    (inherited : inheritProfile encoding document.virtualModels child = .ok model)
    (assigned : stage.assignPolicy model = .ok result)
    (parameters : result.profile.isSome → validateProfileParameters encoding
      result.requestOverrides = .ok ()) :
    ∃ rebuilt assignment, inheritProfile encoding resolved.virtualModels result = .ok rebuilt ∧
        rebuilt.bare = model.bare ∧
        effectivePolicy stage.virtualModels stage.modelPolicies model = .ok assignment ∧
        result = rebuilt.assigned stage.policyProfiles assignment := by
  obtain ⟨assignment, walked, rfl⟩ := assignPolicy_eq_ok.mp assigned
  cases profiled : child.profile with
  | none =>
    rw [inheritProfile_plain profiled] at inherited
    cases inherited
    refine ⟨_, assignment, inheritProfile_plain profiled, rfl, walked, ?_⟩
    exact (child.assigned_again stage.policyProfiles (.refl assignment)).symm
  | some binding =>
    obtain ⟨-, bound, parent, found, rfl⟩ := (inheritProfile_eq_ok profiled).mp inherited
    obtain ⟨-, plain, different⟩ := profileParent_eq_ok.mp found
    obtain ⟨resolvedParent, named, parentAssigned⟩ := modelNamed_forall₂ pass.assigned
      (fun _ _ pair => by
        obtain ⟨_, -, rfl⟩ := assignPolicy_eq_ok.mp pair
        rfl) (pass.parent_staged found)
    obtain ⟨inheritedPolicies, walkedParent, rfl⟩ := assignPolicy_eq_ok.mp parentAssigned
    have covers := pass.covers_parent found walked walkedParent
    refine ⟨_, assignment, (inheritProfile_eq_ok rfl).mpr ⟨parameters rfl, bound, _,
      profileParent_eq_ok.mpr ⟨named, plain, different⟩, rfl⟩, ?_, walked, ?_⟩
    · simp only [VirtualModel.assigned, VirtualModel.inherit_again]
      rfl
    · change _ = ((parent.withPolicies _ _).inherit
        ((parent.inherit child binding).withPolicies _ _) binding).assigned _ _
      rw [VirtualModel.inherit_again]
      exact ((parent.inherit child binding).assigned_again stage.policyProfiles covers).symm

end

end Pass

/-- Every profile of the document carries parameters a profile may author. -/
def SelfContained (encoding : Encoding) (document : Document Other Settings Rest) : Prop :=
  ∀ model ∈ document.virtualModels, model.profile.isSome →
    validateProfileParameters encoding model.requestOverrides = .ok ()

theorem validatePolicies_congr {document' : Document Other Settings Rest}
    (framed : document' = { document with virtualModels := document'.virtualModels })
    (same : document'.virtualModels.map VirtualModel.bare =
      document.virtualModels.map VirtualModel.bare) :
    document'.validatePolicies = document.validatePolicies := by
  have owners : aliasOwner document'.virtualModels = aliasOwner document.virtualModels := by
    funext name
    rw [← aliasOwner_bare, same, aliasOwner_bare]
  have checks : validateModelPolicy document' = validateModelPolicy document := by
    funext entry
    simp only [validateModelPolicy, owners]
    rw [framed]
  simp only [Document.validatePolicies, checks]
  rw [framed]

theorem map_bare_of_forall₂
    (alike : ∀ {model result}, related model result → model.bare = result.bare)
    (pairs : List.Forall₂ related models results) :
    models.map VirtualModel.bare = results.map VirtualModel.bare := by
  induction pairs with
  | nil => rfl
  | cons pair _ ih =>
    rw [map_cons, map_cons, alike pair, ih]

namespace Pass

variable {document stage resolved : Document Other Settings Rest}

section

variable (pass : Pass encoding document stage resolved)

include pass

theorem sources : resolved.requestProfileSources = document.requestProfileSources := by
  rw [pass.finished, pass.staged]

theorem deployments_again :
    List.Forall₂ (fun deployment result =>
      resolveDeployment encoding resolved.requestProfileSources deployment = .ok result)
      resolved.deployments resolved.deployments := by
  have same : resolved.deployments = stage.deployments := by rw [pass.finished]
  rw [same, pass.sources]
  apply forall₂_same.mpr
  intro result listed
  obtain ⟨deployment, -, accepted⟩ := forall₂_mem pass.deployments.flip listed
  exact resolveDeployment_again accepted

theorem origin {result : VirtualModel Settings} (listed : result ∈ resolved.virtualModels) :
    ∃ child model, inheritProfile encoding document.virtualModels child = .ok model ∧
      stage.assignPolicy model = .ok result := by
  obtain ⟨model, staged, assigned⟩ := forall₂_mem pass.assigned.flip listed
  obtain ⟨child, -, inherited⟩ := forall₂_mem pass.inherited.flip staged
  exact ⟨child, model, inherited, assigned⟩

theorem bare_staged :
    stage.virtualModels.map VirtualModel.bare = resolved.virtualModels.map VirtualModel.bare := by
  apply map_bare_of_forall₂ _ pass.assigned
  intro model result assigned
  obtain ⟨_, -, rfl⟩ := assignPolicy_eq_ok.mp assigned
  rfl

end

/-- A rebuilt model takes the policies that the first pass chose for its result. -/
def Rebuilds (stage : Document Other Settings Rest) (rebuilt result : VirtualModel Settings) :
    Prop :=
  ∃ model assignment, rebuilt.bare = model.bare ∧
    effectivePolicy stage.virtualModels stage.modelPolicies model = .ok assignment ∧
    result = rebuilt.assigned stage.policyProfiles assignment

theorem rebuilds (pass : Pass encoding document stage resolved)
    (contained : SelfContained encoding resolved) :
    ∃ models, List.Forall₂ (fun result model =>
        inheritProfile encoding resolved.virtualModels result = .ok model)
          resolved.virtualModels models ∧
      List.Forall₂ (Rebuilds stage) models resolved.virtualModels := by
  have same : List.Forall₂ Eq resolved.virtualModels resolved.virtualModels :=
    forall₂_refl _
  refine forall₂_split same ?_
  rintro result listed _ rfl
  obtain ⟨child, model, inherited, assigned⟩ := pass.origin listed
  obtain ⟨rebuilt, assignment, again, alike, walked, finished⟩ :=
    pass.inherits_again inherited assigned (contained result listed)
  exact ⟨rebuilt, again, model, assignment, alike, walked, finished⟩

theorem again (pass : Pass encoding document stage resolved)
    (contained : SelfContained encoding resolved) :
    ∃ models, Pass encoding resolved { resolved with virtualModels := models } resolved := by
  obtain ⟨models, inherited, assigned⟩ := pass.rebuilds contained
  have same : models.map VirtualModel.bare = stage.virtualModels.map VirtualModel.bare := by
    rw [pass.bare_staged]
    apply map_bare_of_forall₂ _ assigned
    rintro rebuilt result ⟨model, assignment, -, -, rfl⟩
    rfl
  have framed : ({ resolved with virtualModels := models } : Document Other Settings Rest) =
      { stage with virtualModels := models } := by
    rw [pass.finished]
  refine ⟨models, pass.deployments_again, inherited, rfl, ?_, ?_, rfl⟩
  · rw [validatePolicies_congr framed same]
    exact pass.policies
  · refine assigned.imp ?_
    rintro rebuilt result ⟨model, assignment, alike, walked, rfl⟩
    apply assignPolicy_eq_ok.mpr
    rw [framed]
    refine ⟨assignment, ?_, rfl⟩
    rw [← walked]
    exact effectivePolicy_congr stage.modelPolicies same alike

end Pass

/-- A document that resolves at all has only profiles with parameters of their own. -/
theorem selfContained_of_resolved
    (accepted : document.resolveModelPolicies encoding = .ok resolved) :
    SelfContained encoding document := by
  obtain ⟨stage, pass⟩ := resolveModelPolicies_eq_ok.mp accepted
  intro model listed profiled
  obtain ⟨result, -, inherited⟩ := forall₂_mem pass.inherited listed
  obtain ⟨binding, bound⟩ := Option.isSome_iff_exists.mp profiled
  exact ((inheritProfile_eq_ok bound).mp inherited).1

end SparkRoute.Config.Profiles
