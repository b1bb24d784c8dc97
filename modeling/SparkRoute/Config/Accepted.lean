import Mathlib.Data.List.Nodup
import SparkRoute.Config.Validate

/-!
# What an accepted document guarantees

Compilation resolves a document and then validates the result, and validation
resolves it once more.  A second resolution gives every model the pools and the
limits it already has, so the checks speak about the compiled models.
-/

namespace SparkRoute.Config

open Lib List

def VirtualModel.targets (model : VirtualModel) : List WeightedTarget :=
  model.pools.flatMap fun pool => pool.targets

structure Routable (model : VirtualModel) : Prop where
  distinct : (model.targets.map fun target => target.deployment).Nodup
  positive : ∀ target ∈ model.targets, 0 < target.weight
  attempts : 0 ≤ model.limits.maxAttempts

variable {path : String} {known : String → Bool}

theorem validateTargets_seen {index : Nat} {seen after : List String}
    {targets : List WeightedTarget}
    (accepted : validateTargets path known index seen targets = .ok after) (distinct : seen.Nodup) :
    after.Nodup ∧ (∀ target ∈ targets, 0 < target.weight) ∧
      after = (targets.map fun target => target.deployment).reverse ++ seen := by
  induction targets generalizing index seen with
  | nil =>
    cases accepted
    exact ⟨distinct, by simp, rfl⟩
  | cons target rest ih =>
    simp only [validateTargets, check_eq_ok] at accepted
    obtain ⟨_, fresh, weighted, accepted⟩ := accepted
    have extended : (target.deployment :: seen).Nodup := by
      apply nodup_cons.mpr
      exact ⟨by simpa using fresh, distinct⟩
    obtain ⟨nodup, positive, shape⟩ := ih accepted extended
    exact ⟨nodup, forall_mem_cons.mpr ⟨by omega, positive⟩, by simpa using shape⟩

theorem validatePools_seen {index : Nat} {priorities : List Int} {seen after : List String}
    {pools : List RoutingPool}
    (accepted : validatePools path known index priorities seen pools = .ok after)
    (distinct : seen.Nodup) :
    after.Nodup ∧ (∀ target ∈ pools.flatMap fun pool => pool.targets, 0 < target.weight) ∧
      after = ((pools.flatMap fun pool => pool.targets).map
        fun target => target.deployment).reverse ++ seen := by
  induction pools generalizing index priorities seen with
  | nil =>
    cases accepted
    exact ⟨distinct, by simp, rfl⟩
  | cons pool rest ih =>
    simp only [validatePools, check_eq_ok, bind_eq_ok] at accepted
    obtain ⟨_, _, between, checked, accepted⟩ := accepted
    obtain ⟨betweenNodup, first, betweenShape⟩ := validateTargets_seen checked distinct
    obtain ⟨nodup, positive, shape⟩ := ih accepted betweenNodup
    refine ⟨nodup, ?_, by simp [shape, betweenShape]⟩
    rw [flatMap_cons, forall_mem_append]
    exact ⟨first, positive⟩

variable {model : VirtualModel} {toLower : String → String} {deployments : List Deployment}
  {names : List (String × String)}

theorem validateModel_routable {after : List (String × String)}
    (accepted : validateModel toLower deployments path names model = .ok after) :
    Routable model := by
  unfold validateModel at accepted
  rw [bind_eq_ok] at accepted
  obtain ⟨_, _, accepted⟩ := accepted
  split at accepted
  next => cases accepted
  next =>
    simp only [bind_eq_ok] at accepted
    obtain ⟨_, _, _, _, _, _, _, limits, _, _, _, _, _, pools, _⟩ := accepted
    obtain ⟨nodup, positive, shape⟩ := validatePools_seen pools nodup_nil
    rw [shape, append_nil, nodup_reverse] at nodup
    rw [located_eq_ok] at limits
    simp only [ModelLimits.validate, check_eq_ok] at limits
    exact ⟨nodup, positive, by omega⟩

variable {models : List VirtualModel}

theorem validateModels_routable (accepted : validateModels toLower deployments models = .ok names) :
    ∀ model ∈ models, Routable model := by
  have visited : ∀ entry ∈ ([] ++ models.zipIdx), Routable entry.1 := by
    apply foldlM_invariant (fun visited _ => ∀ entry ∈ visited, Routable entry.1) ?_ ?_
      accepted
    · intro visited before element after earlier stepped
      exact forall_mem_append.mpr
        ⟨earlier, forall_mem_singleton.mpr (validateModel_routable stepped)⟩
    · simp
  intro model mem
  obtain ⟨index, found⟩ := mem_iff_getElem?.mp mem
  exact visited (model, index) (by simpa using mem_zipIdx_iff_getElem?.mpr (by simpa using found))

/-- `resolved` has the routing of `model`, or of the parent it is a profile of. -/
structure Derived (models : List VirtualModel) (model resolved : VirtualModel) : Prop where
  name : resolved.name = model.name
  profile : resolved.profile = model.profile
  plain : model.profile = none →
    resolved.pools = model.pools ∧ resolved.limits = model.limits
  inherited : ∀ binding, model.profile = some binding →
    ∃ parent, modelNamed models binding.parent = some parent ∧ parent.profile = none ∧
      resolved.pools = parent.pools ∧ resolved.limits = parent.limits

theorem inheritProfile_derived {resolved : VirtualModel}
    (accepted : inheritProfile models model = .ok resolved) : Derived models model resolved := by
  unfold inheritProfile at accepted
  split at accepted
  next plain =>
    cases accepted
    exact ⟨rfl, rfl, fun _ => ⟨rfl, rfl⟩, fun binding bound => by simp [plain] at bound⟩
  next binding bound =>
    split at accepted
    next => cases accepted
    next parent found =>
      split at accepted
      next => cases accepted
      next allowed =>
        cases accepted
        refine ⟨rfl, bound.symm, fun plain => by simp [plain] at bound, ?_⟩
        intro other otherBound
        rw [bound, Option.some.injEq] at otherBound
        subst otherBound
        refine ⟨parent, found, ?_, rfl, rfl⟩
        by_contra profiled
        exact allowed (Or.inl (Option.isSome_iff_ne_none.mpr profiled))

theorem resolveModelPolicies_derived {document resolved : Document}
    (accepted : document.resolveModelPolicies = .ok resolved) :
    List.Forall₂ (Derived document.virtualModels) document.virtualModels
      resolved.virtualModels := by
  unfold Document.resolveModelPolicies Document.resolveRequestProfiles at accepted
  simp only [bind_eq_ok] at accepted
  obtain ⟨profiled, ⟨models, inherited, equality⟩, _, _, _, _, _, _, assigned, policies,
    accepted⟩ := accepted
  cases accepted
  cases equality
  refine forall₂_comp ?_ (mapM_forall₂ inherited) (mapM_forall₂ policies)
  intro model between assigned profileStep policyStep
  have derived := inheritProfile_derived profileStep
  unfold assignPolicy at policyStep
  obtain ⟨assignment, _, policyStep⟩ := bind_eq_ok.mp policyStep
  split at policyStep <;> cases policyStep <;>
    exact ⟨derived.name, derived.profile, derived.plain, derived.inherited⟩

/-- Resolving a resolved document keeps the pools and limits of its models. -/
theorem resolved_again {resolved again : List VirtualModel}
    (first : List.Forall₂ (Derived models) models resolved)
    (second : List.Forall₂ (Derived resolved) resolved again) (mem : model ∈ resolved) :
    ∃ final ∈ again, final.pools = model.pools ∧ final.limits = model.limits := by
  obtain ⟨final, present, derived⟩ := forall₂_mem second mem
  obtain ⟨source, _, origin⟩ := forall₂_mem first.flip mem
  refine ⟨final, present, ?_⟩
  cases bound : model.profile with
  | none => exact derived.plain bound
  | some binding =>
    obtain ⟨parent, found, plain, pools, limits⟩ :=
      origin.inherited binding (origin.profile ▸ bound)
    obtain ⟨resolvedParent, resolvedFound, parentDerived⟩ :
        ∃ child, modelNamed resolved binding.parent = some child ∧ Derived models parent child :=
      find?_forall₂ (forall₂_reverse_iff.mpr first) (fun _ _ derived => by rw [derived.name]) found
    obtain ⟨other, otherFound, _, otherPools, otherLimits⟩ :=
      derived.inherited binding bound
    obtain rfl := Option.some.inj (resolvedFound.symm.trans otherFound)
    obtain ⟨parentPools, parentLimits⟩ := parentDerived.plain plain
    constructor
    · rw [otherPools, parentPools, pools]
    · rw [otherLimits, parentLimits, limits]

/-- Every model that compilation takes from an accepted document is routable. -/
theorem routable_of_validate {authored resolved : Document}
    (resolution : authored.resolveModelPolicies = .ok resolved)
    (accepted : (resolved.resolveCapabilityPolicies .attempt).validate toLower = .ok ()) :
    ∀ model ∈ resolved.virtualModels, Routable model := by
  unfold Document.validate at accepted
  simp only [bind_eq_ok] at accepted
  obtain ⟨again, resolvedAgain, _, _, deployments, _, names, models, _⟩ := accepted
  have first := resolveModelPolicies_derived resolution
  have second := resolveModelPolicies_derived resolvedAgain
  intro model mem
  obtain ⟨final, present, pools, limits⟩ := resolved_again first second mem
  have routable := validateModels_routable models final present
  have targets : final.targets = model.targets := by rw [VirtualModel.targets, pools]; rfl
  constructor
  · exact targets ▸ routable.distinct
  · exact targets ▸ routable.positive
  · have attempts := routable.attempts
    rw [limits] at attempts
    exact attempts

end SparkRoute.Config
