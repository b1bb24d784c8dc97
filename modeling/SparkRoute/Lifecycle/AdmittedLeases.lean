import SparkRoute.Lifecycle.Vetting

/-!
# Admitted leases over whole runs

The three invariants of admission leases together: what their endpoints were
checked for, where every controller lease is, and what the counters say.
-/

namespace SparkRoute.Lifecycle

open Lib Lifecycle.System Execution
open Registry

namespace AdmissionCoordinator

variable {coordinator : AdmissionCoordinator}

theorem Admissible.of_withColdStart {target : Target} {behavior : ColdStartBehavior}
    {endpoint : Endpoint}
    (admissible : coordinator.Admissible (target.withColdStart behavior) endpoint) :
    coordinator.Admissible target endpoint :=
  ⟨admissible.wellFormed, admissible.deployment, admissible.ready, admissible.controller,
    admissible.revision, admissible.fenced, admissible.recipe, admissible.protocol,
    admissible.served⟩

end AdmissionCoordinator

theorem Execution.vetLease_listed {coordinator : AdmissionCoordinator}
    {execution : Execution} {claim : Option ActivationClaim} {expected : GoString}
    {lease : Lease} {answers : Answers} {endpoint : Endpoint}
    (vetted : execution.vetLease coordinator claim expected lease answers = .ok endpoint) :
    ∃ listed position, answers.registry = some listed ∧
      listed[position]? = some endpoint ∧ answers.authorized (position + 1) = true ∧
      coordinator.Admissible execution.target endpoint ∧
      ∀ owner, claim = some owner → endpoint.fencingToken = owner.fencingToken := by
  obtain ⟨own, vetted⟩ := check_eq_ok.mp vetted
  obtain ⟨listed, position, registry, present, permitted, admissible, same⟩ :=
    AdmissionCoordinator.validateControllerLease_listed vetted
  refine ⟨listed, position, registry, present, permitted, admissible, ?_⟩
  intro owner claimed
  subst claimed
  simp only [sameRuntimeRegistration, decide_eq_true_eq] at same
  simp only [foreign, decide_eq_true_eq, not_or, Decidable.not_not] at own
  obtain ⟨_, _, _, _, _, _, _, _, _, token, _⟩ := same
  exact token.trans own.2

namespace System

variable {coordinator : AdmissionCoordinator} {system : System}

def Quiescent (system : System) : Prop :=
  ∀ execution ∈ system.executions, ∃ result, execution.stage = .done result

theorem Quiescent.unheld (quiescent : system.Quiescent) (wellFormed : system.WellFormed coordinator)
    (number : Nat) : system.executions.countP (holds number) = 0 := by
  apply List.countP_eq_zero.mpr
  intro execution mem
  obtain ⟨_, fits⟩ := wellFormed execution mem
  obtain ⟨result, stage⟩ := quiescent execution mem
  unfold Execution.Fits at fits
  rw [stage] at fits
  simp [holds, eq_none_of_unheld fits.2]

theorem Quiescent.returned (quiescent : system.Quiescent) (delivered : system.Delivered)
    {index number : Nat} {lease : AdmissionLease}
    (found : system.shared.leases[index]? = some lease) (owns : lease.owns number = true) :
    lease.returned = true := by
  rcases delivered index lease found with settled | ⟨carrier, mem, carries⟩
  · simp only [AdmissionLease.delivered, Bool.or_eq_true, decide_eq_true_eq] at settled
    simp only [AdmissionLease.owns, decide_eq_true_eq] at owns
    exact settled.resolve_right owns.2
  · obtain ⟨result, stage⟩ := quiescent carrier mem
    rw [stage] at carries
    cases carries

end System

/-- Admission leases at every instant of every interleaving.  A lease of an activatable
target has an endpoint that passed validation against the registry's answer; every
controller lease is in exactly one place and is passed to `Release` once; the
counters are the numbers of leases that `Release` has not taken off them. -/
theorem admittedLeases_vetted_and_accounted {targets : List Target}
    {options : AdmissionOptions} {coordinator : AdmissionCoordinator}
    (accepted : newAdmissionCoordinator targets options = .ok coordinator) (actions : List Action) :
    let system := run coordinator actions
    (∀ lease ∈ system.shared.leases, ∀ target,
      coordinator.lookup lease.deployment = some target → target.source = .activatable →
        ∃ execution answers claim expected number granted listed position,
          (execution, answers) ∈ system.trace ∧
          execution.stage = .validating claim expected ∧
          execution.target.deployment = target.deployment ∧
          execution.held = some (number, granted) ∧
          lease.controllerLease = some (number, granted) ∧
          answers.registry = some listed ∧ listed[position]? = some lease.endpoint ∧
          answers.authorized (position + 1) = true ∧
          coordinator.Admissible target lease.endpoint ∧
          ∀ owner, claim = some owner →
            lease.endpoint.fencingToken = owner.fencingToken) ∧
    (∀ number < system.shared.grants.length,
      (system.executions.countP (holds number) : Int) +
        system.shared.leases.countP (AdmissionLease.owns number) +
        system.shared.released.count number = 1) ∧
    (system.Quiescent → ∀ number < system.shared.grants.length,
      system.shared.leases.countP (AdmissionLease.owns number) +
          system.shared.released.count number = 1 ∧
        ∀ lease ∈ system.shared.leases, lease.owns number = true →
          lease.returned = true) ∧
    (∀ index lease, system.shared.leases[index]? = some lease → lease.phase ≠ .held →
      system.shared.claimRelease index = system.shared) ∧
    (∀ id, (system.shared.endpointActive id : Int) =
      system.shared.leases.countP (AdmissionLease.countedAt id)) ∧
    (∀ target ∈ coordinator.targets, target.source = .activatable →
      ((system.shared.bindings (activationKey target.binding)).activeLeases : Int) =
        system.shared.leases.countP
          (AdmissionLease.countedOn coordinator (activationKey target.binding))) := by
  intro system
  have configured := newAdmissionCoordinator_configured accepted
  have wellFormed := run_wellFormed coordinator actions
  have traced := run_traced coordinator actions
  have counted := run_counted configured actions
  have delivered := run_delivered coordinator actions
  have vetting := run_vetting configured actions
  have placed : ∀ number < system.shared.grants.length,
      (system.executions.countP (holds number) : Int) +
        system.shared.leases.countP (AdmissionLease.owns number) +
        system.shared.released.count number = 1 := by
    intro number granted
    have total := traced number
    rw [if_pos granted] at total
    exact (Int.add_assoc _ _ _).trans total
  refine ⟨?_, placed, ?_, ?_, counted.active, fun target _ _ => counted.bound _⟩
  · intro lease mem target found source
    obtain ⟨behavior, execution, answers, claim, expected, number, granted, step, serving,
      holding, controllerLease, stage, vetted⟩ :=
        vetting.admitted lease mem target found source
    obtain ⟨listed, position, registry, present, permitted, admissible, token⟩ :=
      vetLease_listed vetted
    rw [serving] at admissible
    refine ⟨execution, answers, claim, expected, number, granted, listed, position, step,
      stage, ?_, holding, controllerLease, registry, present, permitted,
      admissible.of_withColdStart, token⟩
    rw [serving]
    rfl
  · intro quiescent number granted
    constructor
    · have total := placed number granted
      rw [quiescent.unheld wellFormed number] at total
      omega
    · intro lease mem owns
      obtain ⟨index, found⟩ := List.mem_iff_getElem?.mp mem
      exact quiescent.returned delivered found owns
  · intro index lease found released
    unfold Shared.claimRelease
    rw [found]
    exact if_neg released

/-- A registration of the sample deployment that advertises no model. -/
def silentEndpoint : Endpoint where
  id := ascii "e"
  target := ascii "d"
  controller := ascii "c"
  bindingRevision := ascii "r"
  fencingToken := 1
  state := .ready

/-- A request that finds the silent endpoint ready and is admitted. -/
def admission : List Action :=
  [.acquire none sampleRequest,
    .advance 0 { registry := some [silentEndpoint] }, .advance 0 {},
    .advance 0 { ensureReady := .ok ⟨ascii "l", silentEndpoint⟩ },
    .advance 0 { registry := some [silentEndpoint] }, .advance 0 {}, .advance 0 {}]

/-- After the admission one lease is out: it owns the controller's only grant, and the
endpoint's counter says so. -/
theorem admittedLeases_vetted_and_accounted_single :
    newAdmissionCoordinator [sampleTarget] sampleOptions = .ok sampleCoordinator ∧
      (run sampleCoordinator admission).shared.leases.countP
        (AdmissionLease.countedAt (ascii "e")) = 1 ∧
      ((run sampleCoordinator admission).shared.endpointActive (ascii "e") : Int) =
        (run sampleCoordinator admission).shared.leases.countP
          (AdmissionLease.countedAt (ascii "e")) := by
  refine ⟨sampleCoordinator_accepted, by decide +kernel, ?_⟩
  exact (admittedLeases_vetted_and_accounted sampleCoordinator_accepted
    admission).2.2.2.2.1 (ascii "e")

/-- The sample target names an upstream model, and a lease is returned on an endpoint
that does not serve it. -/
theorem admitted_without_served_model :
    (run sampleCoordinator admission).shared.leases.map
        (fun lease => (lease.returned, lease.endpoint.servedModels)) = [(true, [])] ∧
      sampleTarget.upstreamModel = ascii "m" := by
  decide +kernel

end SparkRoute.Lifecycle
