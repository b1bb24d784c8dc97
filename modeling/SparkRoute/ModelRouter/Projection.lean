import SparkRoute.ModelRouter.Resolution

/-!
# Projection capabilities

The gateway asks `ProjectionCapabilities` which models may take images and audio before it
routes.  The name of a gateway alias is replaced in `Route` only, so the answer is about another
plan when the policy does not know the requested name.
-/

namespace SparkRoute.ModelRouter

open Lib Config RouterManager

variable {F : Type} (platform : Platform F)

/-- The name that is looked up for the capabilities of an input. -/
def projectedName (input : Input F) : String :=
  match input.providerStatePin with
  | some pin => pin.virtualModel
  | none => input.requestedModel

def projectable (plan : RoutePlan F) : List (String × List String) :=
  (plan.eligible.filter fun candidate => (resolvedMMProjectionPolicy plan candidate).isSome).map
    fun candidate => (candidate, ["vision", "audio_input"])

def RouterManager.projectionCapabilities (manager : RouterManager F) (cancelled : Bool)
    (input : Input F) : RouterManager F × Except String (List (String × List String)) :=
  if cancelled then (manager, .error "context canceled")
  else
    match plan platform manager.runtime (projectedName input) input.routingText
      input.stageHistory input.candidates with
    | .error failure => (manager, .error failure)
    | .ok planned => (manager, .ok (projectable planned))

/-- If the input is routed, its capabilities name the model exactly when the decision carries a
projection policy. -/
def RouterManager.Predicts (manager : RouterManager F) (cancelled : Bool) (input : Input F)
    (draw : Nat) : Prop :=
  ∀ decision, (manager.routed platform cancelled input draw).2 = .ok decision →
    ∃ capabilities,
      manager.projectionCapabilities platform cancelled input = (manager, .ok capabilities) ∧
      (decision.virtualModel ∈ capabilities.map Prod.fst ↔ decision.mmProjection.isSome)

variable {platform} {planned : RoutePlan F}

theorem resolveNative_ok {draw : Nat} {signals : Signals F} {decision : RouteDecision F}
    (resolved : (resolveNative platform planned false draw signals).2 = .ok decision) :
    decision.resolvedModel ∈ planned.eligible ∧
      decision.projectionPolicy = resolvedMMProjectionPolicy planned decision.resolvedModel := by
  revert resolved
  fun_cases resolveNative platform planned false draw signals with
  | case1 | case3 => exact nofun
  | case2 first rest eligible =>
    rintro ⟨⟩
    rw [eligible]
    exact ⟨List.mem_cons_self, rfl⟩
  | case4 first rest eligible _ _ chosen trace found =>
    rintro ⟨⟩
    exact ⟨chooseStageRoute_mem found, rfl⟩
  | case5 first rest eligible _ _ choice =>
    rintro ⟨⟩
    exact ⟨choose_mem (by simp [eligible]), rfl⟩

theorem route_ok {manager : RouterManager F} {cancelled : Bool} {input : Input F} {draw : Nat}
    {decision : Decision F}
    (routed : (manager.routed platform cancelled input draw).2 = .ok decision) :
    cancelled = false ∧ ∃ planned, plan platform manager.runtime (routedName manager.runtime input)
        input.routingText input.stageHistory input.candidates = .ok planned ∧
      (decision.virtualModel ∈ (projectable planned).map Prod.fst ↔
        decision.mmProjection.isSome) := by
  revert routed
  simp only [RouterManager.routed]
  fun_cases route platform manager.runtime manager.signals cancelled input draw with
  | case4 running planned made counters chosen resolved =>
    rintro ⟨⟩
    obtain ⟨eligible, policy⟩ := resolveNative_ok (congrArg Prod.snd resolved)
    refine ⟨Bool.eq_false_iff.mpr running, planned, made, ?_⟩
    have shown : (decisionOf platform input chosen).mmProjection = chosen.projectionPolicy := by
      unfold decisionOf
      cases input.providerStatePin <;> rfl
    rw [decisionOf_virtualModel, shown, policy]
    simp [projectable, eligible]
  | _ => exact nofun

/-- The capabilities predict the route whenever the policy is asked for one name. -/
theorem projection_predicted {manager : RouterManager F} {input : Input F}
    (same : routedName manager.runtime input = projectedName input) (cancelled : Bool)
    (draw : Nat) : manager.Predicts platform cancelled input draw := by
  intro decision routed
  obtain ⟨rfl, planned, made, predicted⟩ := route_ok routed
  refine ⟨projectable planned, ?_, predicted⟩
  rw [RouterManager.projectionCapabilities, ← same, made]
  rfl

/-- A gateway alias of the model `m`. -/
def aliasInput : Input Int where
  requestedModel := "alias"
  resolvedVirtualModel := "m"
  providerStatePin := none
  candidates := ["m"]
  routingText := ""
  stageHistory := {}

/-- The manager of `presetPolicy`, whose model projects images and audio. -/
def projectingManager : RouterManager Int :=
  installPolicyLocked samplePlatform (presetManager "smallest")
    { presetPolicy "smallest" with
      models := OrderedMap.empty.insert "m"
        { plainMetadata with mmProjection := some ⟨"eyes", "", 0⟩ } }

theorem projection_predicted_preset :
    let input := { aliasInput with requestedModel := "auto:high" }
    ((projectingManager.routed samplePlatform false input 0).2.toOption.bind
        (·.mmProjection)).isSome ∧
      projectingManager.Predicts samplePlatform false input 0 :=
  ⟨by decide +kernel, projection_predicted (by decide +kernel) false 0⟩

/-- The alias is routed, and the capabilities are refused. -/
theorem alias_capabilities_refused :
    ∃ manager, newRouterManager samplePlatform (presetPolicy "smallest") = .ok manager ∧
      ¬ manager.Predicts samplePlatform false aliasInput 0 := by
  refine ⟨presetManager "smallest", rfl, fun predicts => ?_⟩
  have answers : ((presetManager "smallest").routed samplePlatform false aliasInput 0).2.isOk ∧
      ((presetManager "smallest").projectionCapabilities samplePlatform false
        aliasInput).2.isOk = false := by
    decide +kernel
  cases routed : ((presetManager "smallest").routed samplePlatform false aliasInput 0).2 with
  | error failure =>
    rw [routed] at answers
    cases answers.1
  | ok decision =>
    obtain ⟨_, asked, _⟩ := predicts decision routed
    rw [asked] at answers
    cases answers.2

end SparkRoute.ModelRouter
