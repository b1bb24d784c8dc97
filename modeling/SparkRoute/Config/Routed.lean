import SparkRoute.Config.Idempotence

/-!
# What routing reads of a document

Routing has its own embedding of the resolution, without parameter values, recipes and
privacy policies.  A document that resolves with all of them resolves for routing, to what
routing reads of the result.
-/

namespace SparkRoute.Config.Profiles

open Lib List

/-- The fields that a profile copies whole, as far as routing reads them. -/
structure RoutingSettings where
  visibility : ModelVisibility := .unset
  requiredCapabilities : List Capability := []
  responseModel : ResponseModelMode := .unset
  selection : SelectionPolicy := {}
  limits : ModelLimits := {}
  retry : RetryPolicy := {}
  pools : List RoutingPool

def VirtualModel.routed (model : VirtualModel RoutingSettings) : Config.VirtualModel where
  name := model.name
  aliases := model.aliases
  profile := model.profile.map fun binding => ⟨binding.parent⟩
  requestOverrides := model.requestOverrides.keys
  visibility := model.settings.visibility
  requiredCapabilities := model.settings.requiredCapabilities
  responseModel := model.settings.responseModel
  selection := model.settings.selection
  limits := model.settings.limits
  retry := model.settings.retry
  guardrails := model.guardrails
  pools := model.settings.pools

variable {Other Rest : Type}

def Document.routed (document : Document Other RoutingSettings Rest) : Config.Document where
  capabilityDefault := document.capabilityDefault
  guardrailProfiles := document.guardrailProfiles.entries
  modelPolicies :=
    document.modelPolicies.entries.map fun entry => (entry.1, entry.2.guardrailProfile)
  providers := document.providers
  deployments := document.deployments.map (·.toDeployment)
  virtualModels := document.virtualModels.map VirtualModel.routed

variable {encoding : Encoding} {document stage resolved : Document Other RoutingSettings Rest}
variable {models : List (VirtualModel RoutingSettings)} {child : VirtualModel RoutingSettings}

theorem find?_routed (accepts : Config.VirtualModel → Bool) :
    (models.map VirtualModel.routed).reverse.find? accepts =
      (models.reverse.find? fun model => accepts model.routed).map VirtualModel.routed := by
  rw [← map_reverse, find?_map]
  rfl

theorem modelNamed_routed (name : String) :
    Config.modelNamed (models.map VirtualModel.routed) name =
      (modelNamed models name).map VirtualModel.routed :=
  find?_routed _

theorem aliasOwner_routed (name : String) :
    Config.aliasOwner (models.map VirtualModel.routed) name = aliasOwner models name := by
  unfold Config.aliasOwner aliasOwner
  rw [find?_routed, Option.map_map]
  rfl

/-! ### Request profiles -/

/-- Of the merged parameters routing keeps the operations. -/
theorem mergeOverrides_keys (base overlay : RequestParameters) :
    (mergeOverrides base overlay).keys =
      base.keys ++ overlay.keys.filter fun operation => !base.keys.contains operation := by
  refine (OrderedMap.overlayEntries_keys mergeOperation overlay.distinct).trans ?_
  simp [OrderedMap.keys]

theorem inheritProfile_routed {result : VirtualModel RoutingSettings}
    (inherited : inheritProfile encoding models child = .ok result) :
    Config.inheritProfile (models.map VirtualModel.routed) child.routed = .ok result.routed := by
  cases profiled : child.profile with
  | none =>
    rw [inheritProfile_plain profiled] at inherited
    cases inherited
    simp [Config.inheritProfile, VirtualModel.routed, profiled]
  | some binding =>
    obtain ⟨-, -, parent, found, rfl⟩ := (inheritProfile_eq_ok profiled).mp inherited
    obtain ⟨named, plain, different⟩ := profileParent_eq_ok.mp found
    have bound : child.routed.profile = some ⟨binding.parent⟩ := by
      simp [VirtualModel.routed, profiled]
    have accepted : ¬ (parent.routed.profile.isSome ∨ child.routed.name = binding.parent) := by
      simpa [VirtualModel.routed, plain] using different
    simp only [Config.inheritProfile, bound, modelNamed_routed, named, Option.map_some,
      if_neg accepted]
    simp [VirtualModel.routed, VirtualModel.inherit, mergeOverrides_keys]

theorem resolveDeployment_routed {sources : OrderedMap String RequestProfileSource}
    {deployment result : Deployment Other}
    (accepted : resolveDeployment encoding sources deployment = .ok result) :
    result.toDeployment = deployment.toDeployment := by
  simp only [resolveDeployment, bind_eq_ok] at accepted
  obtain ⟨_, _, _, _, _, _, _, _, _, _, same⟩ := accepted
  cases same
  rfl

/-! ### Policy assignments -/

theorem stored_guardrailProfile (policies : OrderedMap String ModelPolicyAssignment)
    (name : String) :
    (ModelPolicyAssignment.stored policies name).guardrailProfile =
      ((policies.entries.map fun entry =>
        (entry.1, entry.2.guardrailProfile)).lookup name).join := by
  rw [← OrderedMap.lookupEntry_eq_lookup, OrderedMap.lookupEntry_map, ModelPolicyAssignment.stored,
    OrderedMap.get]
  cases OrderedMap.lookupEntry name policies.entries with
  | none | some assignment => rfl

theorem policyParent_routed (child : VirtualModel RoutingSettings) :
    Config.policyParent child.routed = policyParent child := by
  unfold Config.policyParent policyParent VirtualModel.routed
  cases child.profile with
  | none | some binding => rfl

theorem inheritedPolicy_routed (model : String) (fuel : Nat) (visited : List String)
    (child : VirtualModel RoutingSettings) (assignment : ModelPolicyAssignment) :
    Config.inheritedPolicy document.routed model fuel visited child.routed
        assignment.guardrailProfile =
      (inheritedPolicy document.virtualModels document.modelPolicies model fuel visited child
        assignment).map (·.guardrailProfile) := by
  induction fuel generalizing visited child assignment with
  | zero => rfl
  | succ fuel ih =>
    have parents : (Config.policyParent child.routed).bind
          (Config.modelNamed document.routed.virtualModels) =
        ((policyParent child).bind (modelNamed document.virtualModels)).map
          VirtualModel.routed := by
      rw [policyParent_routed]
      cases policyParent child with
      | none => rfl
      | some name => exact modelNamed_routed name
    have plain : (child.routed.requestOverrides = [] ∧ child.routed.profile.isNone) ↔
        (child.requestOverrides.entries.isEmpty && child.profile.isNone) = true := by
      simp [VirtualModel.routed, OrderedMap.keys]
    have named : child.routed.name = child.name := rfl
    simp only [Config.inheritedPolicy, inheritedPolicy, parents, plain, named]
    split
    · rfl
    · split
      · rfl
      · cases (policyParent child).bind (modelNamed document.virtualModels) with
        | none => rfl
        | some parent =>
          have stored : (document.routed.modelPolicies.lookup parent.routed.name).join =
              (ModelPolicyAssignment.stored document.modelPolicies parent.name).guardrailProfile :=
            (stored_guardrailProfile _ _).symm
          simp only [Option.map_some, stored]
          exact ih (child.name :: visited) parent
            (assignment.orElse (.stored document.modelPolicies parent.name))

theorem assignPolicy_routed {model result : VirtualModel RoutingSettings}
    (assigned : document.assignPolicy model = .ok result) :
    Config.assignPolicy document.routed model.routed = .ok result.routed := by
  obtain ⟨assignment, walked, rfl⟩ := assignPolicy_eq_ok.mp assigned
  have routed := @inheritedPolicy_routed _ _ document model.name
    (document.virtualModels.length + 2) [] model (.stored document.modelPolicies model.name)
  rw [show inheritedPolicy _ _ _ _ _ _ _ = _ from walked, stored_guardrailProfile] at routed
  have length : document.routed.virtualModels.length = document.virtualModels.length :=
    length_map _
  refine bind_eq_ok.mpr ⟨assignment.guardrailProfile, by rw [length]; exact routed, ?_⟩
  cases chosen : assignment.guardrailProfile with
  | none => simp [VirtualModel.routed, VirtualModel.assigned, VirtualModel.withPolicies,
      PolicyProfiles.guardrails, chosen]
  | some reference =>
    simp [VirtualModel.routed, VirtualModel.assigned, VirtualModel.withPolicies,
      PolicyProfiles.guardrails, chosen, Document.policyProfiles, Document.routed, OrderedMap.get,
      OrderedMap.lookupEntry_eq_lookup]

theorem validateModelPolicy_routed {entry : String × ModelPolicyAssignment}
    (accepted : validateModelPolicy document entry = .ok ()) :
    Config.validateModelPolicy document.routed (entry.1, entry.2.guardrailProfile) = .ok () := by
  have known (reference : String) : danglingReference document.guardrailProfiles reference =
      decide (reference ≠ "" ∧
        (document.routed.guardrailProfiles.lookup reference).isNone = true) := by
    rw [danglingReference, OrderedMap.get, OrderedMap.lookupEntry_eq_lookup, Bool.decide_and]
    exact congrArg (decide (reference ≠ "") && ·) Bool.decide_eq_true.symm
  have owner : Config.aliasOwner document.routed.virtualModels entry.1 =
      aliasOwner document.virtualModels entry.1 :=
    aliasOwner_routed entry.1
  unfold Config.validateModelPolicy
  unfold validateModelPolicy at accepted
  rw [owner]
  generalize aliasOwner document.virtualModels entry.1 = owned at accepted ⊢
  generalize entry.2.piiProfile = pii at accepted
  generalize entry.2.guardrailProfile = guardrail at accepted ⊢
  cases owned with
  | none | some parent =>
    cases pii with
    | none | some pii =>
      cases guardrail with
      | none | some reference =>
        simp only [bind_eq_ok, Unique.exists_iff, refuse_eq_ok, known, and_true] at accepted ⊢
        tauto

/-! ### The whole resolution -/

/-- Everything that routing checks of the policies has been checked. -/
theorem resolveModelPolicies_staged
    (staged : document.routed.resolveRequestProfiles = .ok stage.routed)
    (policies : stage.validatePolicies = .ok ()) {results : List Config.VirtualModel}
    (assigned : stage.routed.virtualModels.mapM (Config.assignPolicy stage.routed) = .ok results) :
    document.routed.resolveModelPolicies = .ok { stage.routed with virtualModels := results } := by
  obtain ⟨⟨⟩, bounded, policies⟩ := bind_eq_ok.mp policies
  obtain ⟨⟨⟩, _, policies⟩ := bind_eq_ok.mp policies
  obtain ⟨⟨⟩, guardrails, models⟩ := bind_eq_ok.mp policies
  rw [forM_eq_ok] at models
  have within : decide (256 < stage.routed.guardrailProfiles.length ∨
      4096 < stage.routed.modelPolicies.length) = false := by
    simp only [refuse_eq_ok, decide_eq_false_iff_not, not_or] at bounded ⊢
    exact ⟨bounded.2.1, by simpa [Document.routed] using bounded.2.2⟩
  have assignments : (sortedPolicyNames stage.routed.modelPolicies).forM
      (Config.validateModelPolicy stage.routed) = .ok () := by
    refine forM_eq_ok.mpr fun entry listed => ?_
    obtain ⟨assignment, present, rfl⟩ := mem_map.mp ((mergeSort_perm _ _).mem_iff.mp listed)
    exact validateModelPolicy_routed (models _ ((mergeSort_perm _ _).mem_iff.mpr present))
  have profiles : (sortedPolicyNames stage.routed.guardrailProfiles).forM
      validateGuardrailProfile = .ok () :=
    guardrails
  simp only [Config.Document.resolveModelPolicies, staged, ok_bind, refuse_eq_ok.mpr within,
    profiles, assignments, assigned]

/-- A document that resolves also resolves for routing, to what routing reads of the result. -/
theorem resolveModelPolicies_routed
    (accepted : document.resolveModelPolicies encoding = .ok resolved) :
    document.routed.resolveModelPolicies = .ok resolved.routed := by
  obtain ⟨stage, pass⟩ := resolveModelPolicies_eq_ok.mp accepted
  have deployments : document.deployments.map (·.toDeployment) =
      stage.deployments.map (·.toDeployment) := by
    rw [← forall₂_eq_eq_eq, forall₂_map_left_iff, forall₂_map_right_iff]
    exact pass.deployments.imp fun _ _ accepted => (resolveDeployment_routed accepted).symm
  have inherited : document.routed.virtualModels.mapM
      (Config.inheritProfile document.routed.virtualModels) =
      .ok stage.routed.virtualModels := by
    apply mapM_of_forall₂
    refine forall₂_map_left_iff.mpr (forall₂_map_right_iff.mpr ?_)
    exact pass.inherited.imp fun _ _ => inheritProfile_routed
  have assigned : stage.routed.virtualModels.mapM (Config.assignPolicy stage.routed) =
      .ok resolved.routed.virtualModels := by
    apply mapM_of_forall₂
    refine forall₂_map_left_iff.mpr (forall₂_map_right_iff.mpr ?_)
    exact pass.assigned.imp fun _ _ => assignPolicy_routed
  have staged : document.routed.resolveRequestProfiles = .ok stage.routed := by
    refine bind_eq_ok.mpr ⟨_, inherited, ?_⟩
    rw [pass.staged]
    simp [Document.routed, deployments]
  rw [resolveModelPolicies_staged staged pass.policies assigned, pass.finished]
  rfl

theorem resolveCapabilityPolicies_routed (editionDefault : UnknownCapabilityPolicy) :
    (document.resolveCapabilityPolicies editionDefault).routed =
      document.routed.resolveCapabilityPolicies editionDefault := by
  simp only [Document.resolveCapabilityPolicies, Config.Document.resolveCapabilityPolicies,
    Document.routed, map_map]
  rfl

end SparkRoute.Config.Profiles
