import SparkRoute.Config.Profiles

/-!
# What a profile inherits

Parameters, aliases and policy assignments that a profile takes from its parent are the
same when it takes them again.
-/

namespace SparkRoute.Config.Profiles

open Lib List ModelPolicyAssignment

variable {Other Settings Rest : Type}

/-! ### Parameters and aliases -/

theorem mergeValue_self (value : ParameterValue) : mergeValue (some value) value = value :=
  Subtype.ext value.2.overlay_self

theorem mergeValue_again (held : Option ParameterValue) (value : ParameterValue) :
    mergeValue held (mergeValue held value) = mergeValue held value := by
  apply Subtype.ext
  apply value.2.overlay_again
  intro tree present
  obtain ⟨parameter, _, rfl⟩ := Option.map_eq_some_iff.mp present
  exact parameter.2

theorem mergeOperation_self (values : Parameters) : mergeOperation (some values) values = values :=
  OrderedMap.overlay_self mergeValue_self values

theorem mergeOperation_again (held : Option Parameters) (values : Parameters) :
    mergeOperation held (mergeOperation held values) = mergeOperation held values :=
  OrderedMap.overlay_again mergeValue_self mergeValue_again (held.getD .empty) values

theorem mergeOverrides_again (base overlay : RequestParameters) :
    mergeOverrides base (mergeOverrides base overlay) = mergeOverrides base overlay :=
  OrderedMap.overlay_again mergeOperation_self mergeOperation_again base overlay

section Aliases

variable (derive : String → String)

def addDerived (aliases : List String) (alternative : String) : List String :=
  if aliases.contains (derive alternative) then aliases else aliases ++ [derive alternative]

theorem addDerived_subset (aliases : List String) (alternative : String) :
    aliases ⊆ addDerived derive aliases alternative := by
  unfold addDerived
  split
  next => exact List.Subset.refl aliases
  next => exact subset_append_left aliases _

theorem foldl_addDerived_subset (alternatives aliases : List String) :
    aliases ⊆ alternatives.foldl (addDerived derive) aliases := by
  induction alternatives generalizing aliases with
  | nil => exact List.Subset.refl aliases
  | cons alternative rest ih =>
    apply List.Subset.trans (addDerived_subset derive aliases alternative)
    exact ih _

theorem mem_foldl_addDerived {alternatives : List String} (aliases : List String)
    {alternative : String} (listed : alternative ∈ alternatives) :
    derive alternative ∈ alternatives.foldl (addDerived derive) aliases := by
  induction alternatives generalizing aliases with
  | nil => cases listed
  | cons first rest ih =>
    rcases mem_cons.mp listed with rfl | later
    · apply foldl_addDerived_subset derive rest
      unfold addDerived
      split
      next listed => exact contains_iff_mem.mp listed
      next => simp
    · exact ih _ later

theorem foldl_addDerived_of_mem {alternatives aliases : List String}
    (present : ∀ alternative ∈ alternatives, derive alternative ∈ aliases) :
    alternatives.foldl (addDerived derive) aliases = aliases := by
  induction alternatives with
  | nil => rfl
  | cons first rest ih =>
    have kept : addDerived derive aliases first = aliases :=
      if_pos (contains_iff_mem.mpr (present first mem_cons_self))
    rw [foldl_cons, kept]
    apply ih
    exact fun alternative listed => present alternative (mem_cons_of_mem _ listed)

end Aliases

theorem derivedAliases_again (parent child : String) (alternatives aliases : List String) :
    derivedAliases parent child alternatives (derivedAliases parent child alternatives aliases) =
      derivedAliases parent child alternatives aliases := by
  unfold derivedAliases
  cases cutPrefix (parent ++ ":") child with
  | none => rfl
  | some suffix =>
    apply foldl_addDerived_of_mem fun alternative => alternative ++ ":" ++ suffix
    intro alternative listed
    exact mem_foldl_addDerived (fun alternative => alternative ++ ":" ++ suffix) _ listed

theorem VirtualModel.inherit_again (parent child : VirtualModel Settings)
    (binding : RequestProfileBinding) (privacy privacy' : Option PrivacyPolicy)
    (guardrails guardrails' : GuardrailPolicy) :
    (parent.withPolicies privacy guardrails).inherit
        ((parent.inherit child binding).withPolicies privacy' guardrails') binding =
      (parent.inherit child binding).withPolicies privacy guardrails := by
  simp only [inherit, withPolicies, mergeOverrides_again, derivedAliases_again]

/-! ### Policies -/

/-- The model without its policies, which is all that an inheritance walk reads. -/
def VirtualModel.bare (model : VirtualModel Settings) : VirtualModel Settings :=
  model.withPolicies none {}

variable (models : List (VirtualModel Settings))

theorem find?_reverse_bare
    (accepts : VirtualModel Settings → Bool) (blind : ∀ model, accepts model.bare = accepts model) :
    (models.map VirtualModel.bare).reverse.find? accepts =
      (models.reverse.find? accepts).map VirtualModel.bare := by
  rw [← map_reverse, List.find?_map]
  congr 2
  funext model
  exact blind model

theorem aliasOwner_bare (name : String) :
    aliasOwner (models.map VirtualModel.bare) name = aliasOwner models name := by
  unfold aliasOwner
  rw [find?_reverse_bare models _ fun _ => rfl, Option.map_map]
  rfl

variable (policies : OrderedMap String ModelPolicyAssignment)

theorem inheritedPolicy_bare (model : String) (fuel : Nat) (visited : List String)
    (child : VirtualModel Settings) (assignment : ModelPolicyAssignment) :
    inheritedPolicy (models.map VirtualModel.bare) policies model fuel visited child.bare
        assignment =
      inheritedPolicy models policies model fuel visited child assignment := by
  induction fuel generalizing visited child assignment with
  | zero => rfl
  | succ fuel ih =>
    have parents : (policyParent child.bare).bind
          (modelNamed (models.map VirtualModel.bare)) =
        ((policyParent child).bind (modelNamed models)).map VirtualModel.bare := by
      change (policyParent child).bind _ = _
      cases policyParent child with
      | none => rfl
      | some name => exact find?_reverse_bare models _ fun _ => rfl
    simp only [inheritedPolicy, parents]
    cases (policyParent child).bind (modelNamed models) with
    | none => rfl
    | some parent =>
      have walked := ih (child.name :: visited) parent
        (assignment.orElse (.stored policies parent.name))
      change (if _ then _ else if _ then _ else inheritedPolicy _ policies model fuel
        (child.name :: visited) parent.bare (assignment.orElse (.stored policies parent.name))) = _
      rw [walked]
      rfl

theorem effectivePolicy_congr {models models' : List (VirtualModel Settings)}
    (same : models.map VirtualModel.bare = models'.map VirtualModel.bare)
    {model model' : VirtualModel Settings} (alike : model.bare = model'.bare) :
    effectivePolicy models policies model = effectivePolicy models' policies model' := by
  have lengths : models.length = models'.length := by
    simpa only [length_map] using congrArg List.length same
  have names : model.bare.name = model'.bare.name := congrArg VirtualModel.name alike
  change model.name = model'.name at names
  unfold effectivePolicy
  rw [← inheritedPolicy_bare models, ← inheritedPolicy_bare models', same, alike, lengths, names]

theorem ModelPolicyAssignment.orElse_assoc (first second third : ModelPolicyAssignment) :
    (first.orElse second).orElse third = first.orElse (second.orElse third) := by
  obtain ⟨pii, guardrail⟩ := first
  cases pii with
  | none | some _ =>
    cases guardrail with
    | none | some _ => rfl

theorem ModelPolicyAssignment.orElse_nothing (assignment : ModelPolicyAssignment) :
    assignment.orElse {} = assignment := by
  simp [orElse]

/-- Walks from one model differ only in what they started with. -/
theorem inheritedPolicy_same {models : List (VirtualModel Settings)}
    {policies : OrderedMap String ModelPolicyAssignment} {model model' : String}
    {fuel fuel' : Nat} {visited visited' : List String} {child : VirtualModel Settings}
    {start start' result result' : ModelPolicyAssignment}
    (walked : inheritedPolicy models policies model fuel visited child start = .ok result)
    (walked' : inheritedPolicy models policies model' fuel' visited' child start' = .ok result') :
    ∃ further, result = start.orElse further ∧ result' = start'.orElse further := by
  induction fuel generalizing visited visited' fuel' child start start' with
  | zero => cases walked
  | succ fuel ih =>
    cases fuel' with
    | zero => cases walked'
    | succ fuel' =>
      unfold inheritedPolicy at walked walked'
      split at walked
      next stops =>
        rw [if_pos stops] at walked'
        cases walked
        cases walked'
        exact ⟨{}, (orElse_nothing _).symm,
          (orElse_nothing _).symm⟩
      next goes =>
        rw [if_neg goes] at walked'
        split at walked
        next => cases walked
        next =>
          split at walked'
          next => cases walked'
          next =>
            cases found : (policyParent child).bind (modelNamed models) with
            | none =>
              simp only [found] at walked walked'
              cases walked
              cases walked'
              exact ⟨{}, (orElse_nothing _).symm,
                (orElse_nothing _).symm⟩
            | some parent =>
              simp only [found] at walked walked'
              obtain ⟨further, left, right⟩ := ih walked walked'
              refine ⟨ModelPolicyAssignment.orElse (.stored policies parent.name) further, ?_, ?_⟩
              · rw [left, orElse_assoc]
              · rw [right, orElse_assoc]

/-- Whatever the second assignment sets, the first one sets too. -/
structure ModelPolicyAssignment.Covers (first second : ModelPolicyAssignment) : Prop where
  pii : first.piiProfile = none → second.piiProfile = none
  guardrail : first.guardrailProfile = none → second.guardrailProfile = none

namespace ModelPolicyAssignment.Covers

variable (assignment : ModelPolicyAssignment)

theorem refl : assignment.Covers assignment :=
  ⟨id, id⟩

theorem orElse (nearer further : ModelPolicyAssignment) :
    (nearer.orElse further).Covers further := by
  have second : ∀ {left right : Option String}, (left <|> right) = none → right = none := by
    intro left right unset
    cases left with
    | none => exact unset
    | some value => cases unset
  exact ⟨second, second⟩

theorem nothing : assignment.Covers {} :=
  ⟨fun _ => rfl, fun _ => rfl⟩

end ModelPolicyAssignment.Covers

theorem VirtualModel.assigned_again (profiles : PolicyProfiles)
    {assignment inherited : ModelPolicyAssignment} (covers : assignment.Covers inherited)
    (model : VirtualModel Settings) :
    (model.withPolicies (profiles.privacy inherited model.privacy)
      (profiles.guardrails inherited model.guardrails)).assigned profiles assignment =
      model.assigned profiles assignment := by
  have privacies : profiles.privacy assignment (profiles.privacy inherited model.privacy) =
      profiles.privacy assignment model.privacy := by
    unfold PolicyProfiles.privacy
    cases chosen : assignment.piiProfile with
    | none => rw [covers.pii chosen]
    | some reference => rfl
  have screens : profiles.guardrails assignment (profiles.guardrails inherited model.guardrails) =
      profiles.guardrails assignment model.guardrails := by
    unfold PolicyProfiles.guardrails
    cases chosen : assignment.guardrailProfile with
    | none => rw [covers.guardrail chosen]
    | some reference => rfl
  simp only [assigned, withPolicies, privacies, screens]

end SparkRoute.Config.Profiles
