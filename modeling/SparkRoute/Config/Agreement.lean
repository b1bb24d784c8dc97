import SparkRoute.Config.Idempotence

/-!
# Agreement of validation and compilation

Compilation resolves a document and validation resolves it again.  The second pass sees
the parameters a profile took from its parent as if the profile had authored them.
-/

namespace SparkRoute.Config.Profiles

open Lib List

variable {Other Settings Rest : Type} {encoding : Encoding}

/-! ### Capability defaults -/

def settleCapabilities (responses : Bool) (fallback : UnknownCapabilityPolicy)
    (deployment : Config.Deployment) : Config.Deployment :=
  { deployment with
    capabilities := if responses && !deployment.capabilities.contains "responses"
      then deployment.capabilities ++ ["responses"] else deployment.capabilities
    capabilityPolicy := { deployment.capabilityPolicy with
      unknown := if deployment.capabilityPolicy.unknown ≠ .unset
        then deployment.capabilityPolicy.unknown else fallback } }

theorem settleCapabilities_again (responses : Bool) {fallback : UnknownCapabilityPolicy}
    (chosen : fallback ≠ .unset) (deployment : Config.Deployment) :
    settleCapabilities responses fallback (settleCapabilities responses fallback deployment) =
      settleCapabilities responses fallback deployment := by
  have capabilities : (settleCapabilities responses fallback
        (settleCapabilities responses fallback deployment)).capabilities =
      (settleCapabilities responses fallback deployment).capabilities := by
    cases responses with
    | false => rfl
    | true =>
      by_cases listed : "responses" ∈ deployment.capabilities
      · simp [settleCapabilities, listed]
      · simp [settleCapabilities, listed]
  have policies : (settleCapabilities responses fallback
        (settleCapabilities responses fallback deployment)).capabilityPolicy =
      (settleCapabilities responses fallback deployment).capabilityPolicy := by
    by_cases unset : deployment.capabilityPolicy.unknown = .unset
    · simp [settleCapabilities, unset, chosen]
    · simp [settleCapabilities, unset]
  simp only [settleCapabilities, Config.Deployment.mk.injEq, true_and] at capabilities policies ⊢
  exact ⟨capabilities, policies, trivial⟩

def providerFallback (globalDefault : UnknownCapabilityPolicy) :
    Option Provider → UnknownCapabilityPolicy
  | some provider => if provider.capabilityDefault = .unset then globalDefault
      else provider.capabilityDefault
  | none => globalDefault

variable {globalDefault : UnknownCapabilityPolicy}

theorem providerFallback_ne (chosen : globalDefault ≠ .unset) (provider : Option Provider) :
    providerFallback globalDefault provider ≠ .unset := by
  cases provider with
  | none => exact chosen
  | some provider =>
    rw [providerFallback]
    split
    next => exact chosen
    next authored => exact authored

theorem resolveDeploymentCapabilities_again (document : Config.Document)
    (chosen : globalDefault ≠ .unset) (deployment : Config.Deployment) :
    resolveDeploymentCapabilities document globalDefault
        (resolveDeploymentCapabilities document globalDefault deployment) =
      resolveDeploymentCapabilities document globalDefault deployment := by
  exact settleCapabilities_again _ (providerFallback_ne chosen _) deployment

namespace Document

def withCapabilities (document : Document Other Settings Rest) (deployment : Deployment Other) :
    Deployment Other :=
  { deployment with
    toDeployment := resolveDeploymentCapabilities
      { providers := document.providers, deployments := [], virtualModels := [] }
      (if document.capabilityDefault = .unset then .attempt else document.capabilityDefault)
      deployment.toDeployment }

theorem resolveCapabilityPolicies_eq (document : Document Other Settings Rest) :
    document.resolveCapabilityPolicies .attempt =
      { document with deployments := document.deployments.map document.withCapabilities } := rfl

theorem resolveCapabilityPolicies_again (document : Document Other Settings Rest) :
    (document.resolveCapabilityPolicies .attempt).resolveCapabilityPolicies .attempt =
      document.resolveCapabilityPolicies .attempt := by
  have set : (if document.capabilityDefault = .unset then UnknownCapabilityPolicy.attempt
      else document.capabilityDefault) ≠ .unset := by
    split
    next => exact fun same => by cases same
    next authored => exact authored
  simp only [resolveCapabilityPolicies_eq, map_map]
  congr 1
  apply map_congr_left
  intro deployment _
  simp only [Function.comp, withCapabilities, resolveDeploymentCapabilities_again _ set]

end Document

variable {document : Document Other Settings Rest}

theorem resolveDeployment_withCapabilities {deployment result : Deployment Other}
    (accepted : resolveDeployment encoding document.requestProfileSources deployment = .ok result) :
    resolveDeployment encoding document.requestProfileSources
      (document.withCapabilities deployment) = .ok (document.withCapabilities result) := by
  obtain ⟨⟨⟩, jobs, accepted⟩ := bind_eq_ok.mp accepted
  obtain ⟨⟨⟩, discovered, accepted⟩ := bind_eq_ok.mp accepted
  obtain ⟨⟨⟩, identifiers, accepted⟩ := bind_eq_ok.mp accepted
  obtain ⟨⟨⟩, source, accepted⟩ := bind_eq_ok.mp accepted
  obtain ⟨⟨⟩, profiles, accepted⟩ := bind_eq_ok.mp accepted
  cases accepted
  refine bind_eq_ok.mpr ⟨⟨⟩, jobs, bind_eq_ok.mpr ⟨⟨⟩, discovered, ?_⟩⟩
  refine bind_eq_ok.mpr ⟨⟨⟩, identifiers, bind_eq_ok.mpr ⟨⟨⟩, source, ?_⟩⟩
  exact bind_eq_ok.mpr ⟨⟨⟩, profiles, rfl⟩

/-- Resolution does not read the capabilities. -/
theorem resolved_withCapabilities (fixed : document.resolveModelPolicies encoding = .ok document) :
    (document.resolveCapabilityPolicies .attempt).resolveModelPolicies encoding =
      .ok (document.resolveCapabilityPolicies .attempt) := by
  obtain ⟨stage, pass⟩ := resolveModelPolicies_eq_ok.mp fixed
  have staged : stage.withCapabilities = document.withCapabilities := by
    rw [pass.staged]
    rfl
  apply resolveModelPolicies_eq_ok.mpr
  refine ⟨stage.resolveCapabilityPolicies .attempt, ?_, pass.inherited, ?_, pass.policies,
    pass.assigned, ?_⟩
  · simp only [Document.resolveCapabilityPolicies_eq, staged]
    apply forall₂_map_left_iff.mpr
    apply forall₂_map_right_iff.mpr
    exact pass.deployments.imp fun _ _ accepted => resolveDeployment_withCapabilities accepted
  · simp only [Document.resolveCapabilityPolicies_eq, staged]
    conv =>
      lhs
      rw [pass.staged]
  · conv =>
      lhs
      rw [pass.finished]
    rfl

/-! ### Agreement -/

variable (encoding) (overrides : Rest → Except String Unit)
  (checks : Document Other Settings Rest → Except String Unit)

/-- Resolving again gives the same document, and compilation accepts what validation
accepts, exactly when every profile of the resolved document carries parameters a
profile may author. -/
theorem resolution_agrees_iff (document resolved : Document Other Settings Rest)
    (accepted : document.resolveModelPolicies encoding = .ok resolved) :
    (resolved.resolveModelPolicies encoding = .ok resolved ↔ SelfContained encoding resolved) ∧
      (document.validate encoding overrides checks = .ok () →
        ((document.compile encoding overrides checks).isOk ↔
          SelfContained encoding resolved)) := by
  have again : SelfContained encoding resolved →
      resolved.resolveModelPolicies encoding = .ok resolved := by
    intro contained
    obtain ⟨stage, pass⟩ := resolveModelPolicies_eq_ok.mp accepted
    obtain ⟨models, second⟩ := pass.again contained
    exact resolveModelPolicies_eq_ok.mpr ⟨_, second⟩
  refine ⟨⟨selfContained_of_resolved, again⟩, ?_⟩
  intro valid
  obtain ⟨⟨⟩, overridden, valid⟩ := bind_eq_ok.mp valid
  obtain ⟨_, found, checked⟩ := bind_eq_ok.mp valid
  cases accepted.symm.trans found
  constructor
  · intro compiled
    cases outcome : document.compile encoding overrides checks with
    | error message =>
      rw [outcome] at compiled
      cases compiled
    | ok snapshot =>
      obtain ⟨_, found, outcome⟩ := bind_eq_ok.mp outcome
      cases accepted.symm.trans found
      obtain ⟨⟨⟩, validated, -⟩ := bind_eq_ok.mp outcome
      obtain ⟨⟨⟩, -, validated⟩ := bind_eq_ok.mp validated
      obtain ⟨_, twice, -⟩ := bind_eq_ok.mp validated
      have contained := selfContained_of_resolved twice
      exact contained
  · intro contained
    have kept : resolved.rest = document.rest := by
      obtain ⟨stage, pass⟩ := resolveModelPolicies_eq_ok.mp accepted
      rw [pass.finished, pass.staged]
    have compiled : document.compile encoding overrides checks =
        .ok (resolved.resolveCapabilityPolicies .attempt) := by
      refine bind_eq_ok.mpr ⟨resolved, accepted, ?_⟩
      refine bind_eq_ok.mpr ⟨⟨⟩, ?_, rfl⟩
      refine bind_eq_ok.mpr ⟨⟨⟩, ?_, ?_⟩
      · rw [← kept] at overridden
        exact overridden
      · refine bind_eq_ok.mpr ⟨_, resolved_withCapabilities (again contained), ?_⟩
        rw [Document.resolveCapabilityPolicies_again]
        exact checked
    rw [compiled]
    rfl

/-- Of the later checks, the one that reads the parameters of every model. -/
def Document.validateOverrides (document : Document Other Settings Rest) : Except String Unit :=
  document.virtualModels.zipIdx.forM fun entry =>
    located s!"virtual_models[{entry.2}].request_overrides"
      (validateRequestOverrides encoding entry.1.requestOverrides)

/-- Lengths that no bound minds. -/
def plainEncoding : Encoding where
  toLower := String.toLower
  valueBytes := fun _ => 4
  profilesBytes := fun _ => 0
  patchBytes := fun _ => 0

/-- A model that sets one chat parameter, with a request profile that sets nothing. -/
def parameterised (parameter : String) : Document Unit Unit Unit where
  providers := []
  deployments := []
  virtualModels :=
    [{ name := "base"
       requestOverrides := OrderedMap.empty.insert "chat_completions"
         (OrderedMap.empty.insert parameter ⟨.leaf (.boolean true), .leaf _⟩)
       settings := () },
     { name := "base:fast"
       profile := some { parent := "base", selector := "fast" }
       settings := () }]
  rest := ()

/-- A profile below a model that sets `store` is valid, but does not compile. -/
theorem inherited_store_fails_again :
    failureOf ((parameterised "store").validate plainEncoding (fun _ => .ok ())
        (Document.validateOverrides plainEncoding)) = none ∧
      failureOf ((parameterised "store").resolveModelPolicies plainEncoding) = none ∧
      failureOf ((parameterised "store").resolveModelPolicies plainEncoding >>=
        Document.resolveModelPolicies plainEncoding) =
        some "profile cannot override state or request structure field store" ∧
      failureOf ((parameterised "store").compile plainEncoding (fun _ => .ok ())
        (Document.validateOverrides plainEncoding)) =
        some "profile cannot override state or request structure field store" := by
  decide +kernel

theorem resolution_agrees_iff_tuned :
    ∃ resolved, (parameterised "logprobs").resolveModelPolicies plainEncoding = .ok resolved ∧
      resolved.resolveModelPolicies plainEncoding = .ok resolved := by
  have valid : failureOf ((parameterised "logprobs").validate plainEncoding (fun _ => .ok ())
      (Document.validateOverrides plainEncoding)) = none := by decide +kernel
  have compiled : ((parameterised "logprobs").compile plainEncoding (fun _ => .ok ())
      (Document.validateOverrides plainEncoding)).isOk := by decide +kernel
  obtain ⟨⟨⟩, valid⟩ := failureOf_eq_none.mp valid
  obtain ⟨resolved, accepted⟩ : ∃ resolved,
      (parameterised "logprobs").resolveModelPolicies plainEncoding = .ok resolved :=
    failureOf_eq_none.mp (by decide +kernel)
  obtain ⟨again, agrees⟩ := resolution_agrees_iff plainEncoding (fun _ => .ok ())
    (Document.validateOverrides plainEncoding) _ resolved accepted
  exact ⟨resolved, accepted, again.mpr ((agrees valid).mp compiled)⟩

end SparkRoute.Config.Profiles
