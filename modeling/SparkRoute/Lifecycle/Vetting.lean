import SparkRoute.Lifecycle.Delivery

/-!
# Every admitted endpoint was validated

The endpoint of an admission lease on an activatable target is one that the
registry listed, and the authorizer accepted, when the request validated the
controller's lease.  The trace of the run has that step.
-/

namespace SparkRoute.Lifecycle

open Lib List
open Registry

/-- The endpoint that a request on an activatable target goes on with. -/
def Stage.chosen : Stage → Option Endpoint
  | .completing _ endpoint => some endpoint
  | .announcing endpoint => some endpoint
  | .admitting endpoint none => some endpoint
  | _ => none

/-- A step of the trace validated `endpoint` against the held lease. -/
def Vetted (coordinator : AdmissionCoordinator) (trace : List (Execution × Answers))
    (target : Target) (held : Option (Nat × Lease)) (endpoint : Endpoint) : Prop :=
  ∃ execution answers claim expected number lease,
    (execution, answers) ∈ trace ∧ execution.target = target ∧
    execution.held = some (number, lease) ∧ held = some (number, lease) ∧
    execution.stage = .validating claim expected ∧
    execution.vetLease coordinator claim expected lease answers = .ok endpoint

theorem Vetted.later {coordinator : AdmissionCoordinator} {trace : List (Execution × Answers)}
    {target : Target} {held : Option (Nat × Lease)} {endpoint : Endpoint}
    (vetted : Vetted coordinator trace target held endpoint) (more : List (Execution × Answers)) :
    Vetted coordinator (trace ++ more) target held endpoint := by
  obtain ⟨execution, answers, claim, expected, number, lease, mem, rest⟩ := vetted
  exact ⟨execution, answers, claim, expected, number, lease, mem_append_left _ mem, rest⟩

namespace Execution

variable {coordinator : AdmissionCoordinator} {shared : Shared} {execution : Execution}

theorem observe_chosen (execution : Execution) (coordinator : AdmissionCoordinator)
    (claim : ActivationClaim) (answers : Answers) :
    (execution.observe coordinator claim answers).chosen = none := by
  unfold observe
  extract_lets wait
  have waiting : wait.chosen = none := by
    dsimp only [wait]
    split
    · rfl
    · split <;> rfl
  repeat' split
  all_goals first | rfl | exact waiting

/-- A request goes on with an endpoint only once it has validated it. -/
theorem advance_chosen {endpoint : Endpoint} {answers : Answers}
    (chosen : (execution.advance coordinator shared answers).2.stage.chosen = some endpoint) :
    (execution.advance coordinator shared answers).2.held = execution.held ∧
      (execution.stage.chosen = some endpoint ∨
        ∃ claim expected number lease, execution.stage = .validating claim expected ∧
          execution.held = some (number, lease) ∧
          execution.vetLease coordinator claim expected lease answers = .ok endpoint) := by
  revert chosen
  fun_cases advance coordinator shared execution answers with
  | case1 | case3 => fun_cases notReady <;> rintro ⟨⟩
  | case6 site => cases site <;> rintro ⟨⟩
  | case16 claim place =>
    intro chosen
    change (execution.observe coordinator claim answers).chosen = _ at chosen
    rw [observe_chosen] at chosen
    cases chosen
  | case22 claim expected place number lease held =>
    intro chosen
    refine ⟨rfl, .inr ⟨claim, expected, number, lease, place, held, ?_⟩⟩
    cases outcome : execution.vetLease coordinator claim expected lease answers with
    | error invalid =>
      rw [outcome] at chosen
      cases claim <;> cases chosen
    | ok found =>
      rw [outcome] at chosen
      cases claim <;> exact congrArg Except.ok (Option.some.inj chosen)
  | case21 | case39 | case40 =>
    intro chosen
    rw [‹execution.stage = _›] at chosen
    cases chosen
  | case25 claim found place | case27 binding found place =>
    intro chosen
    rw [place]
    exact ⟨rfl, .inl chosen⟩
  | _ => rintro ⟨⟩

end Execution

namespace Shared

variable {shared : Shared}

/-- The leases afterwards are the earlier ones, possibly further on in `Release`. -/
def SameLeases (before after : Shared) : Prop :=
  ∀ lease ∈ after.leases, ∃ earlier ∈ before.leases,
    earlier.endpoint = lease.endpoint ∧ earlier.deployment = lease.deployment ∧
      earlier.controllerLease = lease.controllerLease

theorem SameLeases.of_leases {after : Shared} (same : after.leases = shared.leases) :
    shared.SameLeases after := by
  intro lease mem
  rw [same] at mem
  exact ⟨lease, mem, rfl, rfl, rfl⟩

theorem Touches.sameLeases {after : Shared} (touches : shared.Touches after) :
    shared.SameLeases after := by
  obtain same | ⟨index, lease, changed, found, same, alike, _⟩ := touches
  · exact .of_leases same
  · intro later mem
    rw [same] at mem
    rcases mem_or_eq_of_mem_set mem with earlier | replaced
    · exact ⟨later, earlier, rfl, rfl, rfl⟩
    · rw [replaced]
      exact ⟨lease, mem_of_getElem? found, alike⟩

end Shared

namespace System

variable {coordinator : AdmissionCoordinator} {system : System}

structure Vetting (coordinator : AdmissionCoordinator) (system : System) : Prop where
  chosen : ∀ execution ∈ system.executions, ∀ endpoint, execution.stage.chosen = some endpoint →
      Vetted coordinator system.trace execution.target execution.held endpoint
  admitted : ∀ lease ∈ system.shared.leases, ∀ target,
    coordinator.lookup lease.deployment = some target → target.source = .activatable →
      ∃ behavior, Vetted coordinator system.trace (target.withColdStart behavior)
        lease.controllerLease lease.endpoint

theorem Vetting.sameLeases (vetting : system.Vetting coordinator) {shared : Shared}
    (same : system.shared.SameLeases shared) :
    Vetting coordinator { system with shared := shared } := by
  refine ⟨vetting.chosen, ?_⟩
  intro lease mem target found source
  obtain ⟨earlier, present, endpoint, deployment, controllerLease⟩ := same lease mem
  rw [← endpoint, ← controllerLease]
  exact vetting.admitted earlier present target (deployment ▸ found) source

variable {position : Nat} {moved : Execution} {answers : Answers}

section

variable (vetting : system.Vetting coordinator) {execution : Execution} {shared : Shared}
  (found : system.executions[position]? = some execution)
  (advanced : execution.advance coordinator system.shared answers = (shared, moved))
  (target : moved.target = execution.target)

include vetting found advanced target

theorem Vetting.chosen_advanced :
    ∀ member ∈ system.executions.set position moved, ∀ endpoint,
      member.stage.chosen = some endpoint →
        Vetted coordinator (system.trace ++ [(execution, answers)]) member.target
          member.held endpoint := by
  intro member mem endpoint chosen
  rcases mem_or_eq_of_mem_set mem with earlier | replaced
  · exact (vetting.chosen member earlier endpoint chosen).later _
  · subst replaced
    have origin : member.held = execution.held ∧
        (execution.stage.chosen = some endpoint ∨
          ∃ claim expected number lease, execution.stage = .validating claim expected ∧
            execution.held = some (number, lease) ∧
            execution.vetLease coordinator claim expected lease answers = .ok endpoint) := by
      have step := @Execution.advance_chosen coordinator system.shared execution endpoint
        answers
      rw [advanced] at step
      exact step chosen
    obtain ⟨held, before | ⟨claim, expected, number, lease, stage, holding, vetted⟩⟩ := origin
    · rw [target, held]
      exact (vetting.chosen execution (mem_of_getElem? found) endpoint before).later _
    · refine ⟨execution, answers, claim, expected, number, lease, ?_, target.symm, holding,
        held.trans holding, stage, vetted⟩
      exact mem_append_right _ (mem_singleton.mpr rfl)

theorem Vetting.stepped (same : system.shared.SameLeases shared) :
    Vetting coordinator
      ⟨shared, system.executions.set position moved, system.trace ++ [(execution, answers)]⟩ := by
  refine ⟨vetting.chosen_advanced found advanced target, ?_⟩
  intro lease mem configured looked source
  obtain ⟨behavior, vetted⟩ :=
    (vetting.sameLeases same).admitted lease mem configured looked source
  exact ⟨behavior, vetted.later _⟩

theorem Vetting.admitting (configured : coordinator.Configured)
    (wellFormed : system.WellFormed coordinator) {endpoint : Endpoint} {attempt : Option Nat}
    (stage : execution.stage = .admitting endpoint attempt)
    (accepted : system.shared.admitEndpoint execution.target endpoint execution.held
      attempt.isSome = some shared) :
    Vetting coordinator
      ⟨shared, system.executions.set position moved, system.trace ++ [(execution, answers)]⟩ := by
  refine ⟨vetting.chosen_advanced found advanced target, ?_⟩
  intro lease mem looked lookedUp source
  rw [Shared.admitEndpoint_leases accepted] at mem
  rcases mem_append.mp mem with earlier | last
  · obtain ⟨behavior, vetted⟩ := vetting.admitted lease earlier looked lookedUp source
    exact ⟨behavior, vetted.later _⟩
  · rw [mem_singleton.mp last] at lookedUp ⊢
    have member := mem_of_getElem? found
    obtain ⟨serves, fits⟩ := wellFormed execution member
    obtain ⟨served, servedMember, behavior, equal⟩ := serves.target
    have same : looked = served := by
      rw [equal] at lookedUp
      change coordinator.lookup served.deployment = some looked at lookedUp
      rw [configured.lookup_deployment servedMember] at lookedUp
      exact (Option.some.inj lookedUp).symm
    subst same
    unfold Execution.Fits at fits
    rw [stage, equal] at fits
    cases attempt with
    | some number =>
      have discovered : looked.source = .discovered := fits.1
      rw [source] at discovered
      cases discovered
    | none =>
      have vetted := vetting.chosen execution member endpoint (by rw [stage]; rfl)
      rw [equal] at vetted
      exact ⟨behavior, vetted.later _⟩

end

theorem Vetting.kept (vetting : system.Vetting coordinator) (configured : coordinator.Configured)
    (wellFormed : system.WellFormed coordinator) {after : System}
    (effect : SystemEffect coordinator system after) : after.Vetting coordinator := by
  cases effect with
  | idle => exact vetting
  | opened execution fresh =>
    refine ⟨?_, vetting.admitted⟩
    intro member mem endpoint chosen
    rcases mem_append.mp mem with earlier | last
    · exact vetting.chosen member earlier endpoint chosen
    · rw [mem_singleton.mp last] at chosen
      obtain ⟨site, stage⟩ := fresh.ready
      rw [stage] at chosen
      cases chosen
  | moved found advanced effect fits =>
    rcases effect.leases with touches | ⟨endpoint, attempt, admitting, accepted, _⟩
    · exact vetting.stepped found advanced effect.target touches.sameLeases
    · exact vetting.admitting found advanced effect.target configured wellFormed admitting accepted
  | released found returned => exact vetting.sameLeases (Shared.claimRelease_touches _ _).sameLeases
  | accounted index =>
    exact vetting.sameLeases (Shared.accountRelease_touches _ coordinator index).sameLeases
  | passed index => exact vetting.sameLeases (Shared.passRelease_touches _ index).sameLeases

theorem run_vetting (configured : coordinator.Configured) (actions : List Action) :
    (run coordinator actions).Vetting coordinator :=
  run_kept
    ⟨fun _ mem => absurd mem not_mem_nil, fun _ mem => absurd mem not_mem_nil⟩
    (fun wellFormed vetting effect => vetting.kept configured wellFormed effect) actions

end System

end SparkRoute.Lifecycle
