import SparkRoute.Lifecycle.Execution

/-!
# What one step of a request can do

`Effect` lists the ways in which a step moves the shared state and the request
itself; every invariant of the coordinator is proved from this list.  `Fits`
says which reservations a request has at each stage.
-/

namespace SparkRoute.Lifecycle

open Lib
open Registry

/-! ### Reservations at each stage -/

def Site.Fits (source : EndpointSource) (queued : Bool) : Site → Prop
  | .entry => source = .activatable ∧ queued = false
  | .queueFull _ => source = .activatable ∧ queued = false
  | .observing _ => source = .activatable
  | .attempt _ => source = .discovered ∧ queued = false

def Stage.Fits (source : EndpointSource) (queued held : Bool) : Stage → Prop
  | .ready site => held = false ∧ site.Fits source queued
  | .scanning site _ => held = false ∧ site.Fits source queued
  | .checkingStatus => source = .activatable ∧ queued = false ∧ held = false
  | .rejecting _ => source = .activatable ∧ queued = false ∧ held = false
  | .rejected _ _ => source = .activatable ∧ queued = false ∧ held = false
  | .enqueueing => source = .activatable ∧ queued = false ∧ held = false
  | .beginning => source = .activatable ∧ held = false
  | .observing _ => source = .activatable ∧ held = false
  | .activating _ => source = .activatable ∧ held = false
  | .ensuring _ _ => source = .activatable ∧ held = false
  | .validating _ _ => source = .activatable ∧ held = true
  | .abandoning _ _ => source = .activatable
  | .completing _ _ => source = .activatable ∧ held = true
  | .announcing _ => source = .activatable ∧ held = true
  | .discarding _ => source = .activatable ∧ held = true
  | .failing _ => source = .activatable ∧ held = false
  | .admitting _ none => source = .activatable ∧ held = true
  | .admitting _ (some _) => source = .discovered ∧ queued = false ∧ held = false
  | .leaving _ => held = false ∧ (queued = true → source = .activatable)
  | .releasing _ => queued = false ∧ held = false
  | .returning _ => queued = false ∧ held = false
  | .done _ => queued = false ∧ held = false

namespace Execution

def Fits (execution : Execution) : Prop :=
  execution.stage.Fits execution.target.source execution.queued execution.held.isSome

variable {coordinator : AdmissionCoordinator} {shared : Shared} {execution : Execution}

theorem notReady_fits {site : Site} (unheld : execution.held.isSome = false)
    (fits : site.Fits execution.target.source execution.queued) :
    (execution.notReady coordinator site).Fits := by
  cases site with
  | entry =>
    obtain ⟨source, unqueued⟩ := fits
    unfold notReady
    dsimp only
    split
    · exact ⟨unheld, fun _ => source⟩
    · split
      · exact ⟨source, unqueued, unheld⟩
      · exact ⟨source, unqueued, unheld⟩
  | queueFull failure => exact ⟨fits.1, fits.2, unheld⟩
  | observing claim => exact ⟨fits, unheld⟩
  | attempt number =>
    refine ⟨unheld, fun queued => ?_⟩
    change execution.queued = true at queued
    rw [fits.2] at queued
    cases queued

theorem foundReady_fits {endpoint : Endpoint} {site : Site} (unheld : execution.held.isSome = false)
    (fits : site.Fits execution.target.source execution.queued) :
    (execution.foundReady endpoint site).Fits := by
  cases site with
  | entry | queueFull failure => exact ⟨fits.1, unheld⟩
  | observing claim => exact ⟨fits, unheld⟩
  | attempt number => exact ⟨fits.1, fits.2, unheld⟩

theorem observe_fits (claim : ActivationClaim) (answers : Answers)
    (source : execution.target.source = .activatable) (unheld : execution.held.isSome = false) :
    (execution.observe coordinator claim answers).Fits execution.target.source
      execution.queued execution.held.isSome := by
  unfold observe
  extract_lets wait
  have waiting : wait.Fits execution.target.source execution.queued execution.held.isSome := by
    dsimp only [wait]
    split
    · exact ⟨source, unheld⟩
    · split
      · exact ⟨source, unheld⟩
      · exact ⟨unheld, source⟩
  repeat' split
  all_goals first | exact waiting | exact ⟨source, unheld⟩

theorem validated_fits (claim : Option ActivationClaim) (outcome : Except InvalidEndpoint Endpoint)
    (source : execution.target.source = .activatable) (holding : execution.held.isSome = true) :
    (execution.moveTo (validated claim outcome)).Fits := by
  cases outcome <;> cases claim <;> first | exact ⟨source, holding⟩ | exact source

end Execution

/-! ### Effects -/

def Execution.left (execution : Execution) (shared : Shared) : Shared :=
  if execution.queued then
    shared.dequeue execution.target.binding execution.bodyBytes.val
  else shared

/-- The parts of a request that never change. -/
structure Execution.Same (execution moved : Execution) : Prop where
  target : moved.target = execution.target
  bodyBytes : moved.bodyBytes = execution.bodyBytes
  started : moved.started = execution.started

section

variable (coordinator : AdmissionCoordinator) (shared : Shared) (execution : Execution)
  (answers : Answers)

inductive Effect : Shared → Execution → Prop where
  | quiet {moved : Execution} (same : execution.Same moved)
      (queued : moved.queued = execution.queued) (held : moved.held = execution.held) :
      Effect shared moved
  | wrote (state : State) (reason : Reason) (endpoint : Option Endpoint) (stage : Stage)
      (activatable : execution.target.source = .activatable) :
      Effect (shared.transition execution.target.binding state reason endpoint answers.now)
        (execution.moveTo stage)
  | enqueued {extended : Shared} (activatable : execution.target.source = .activatable)
      (unqueued : execution.queued = false)
      (accepted : shared.enqueue coordinator execution.target.binding
        execution.bodyBytes.val = .ok extended) :
      Effect extended { execution with queued := true, stage := .beginning }
  | granted (claim : Option ActivationClaim) (expected : GoString) (lease : Lease)
      (unheld : execution.held = none) :
      Effect (shared.grant lease)
        { execution with
          held := some (shared.grants.length, lease)
          stage := .validating claim expected }
  | discarded {number : Nat} {lease : Lease} (fault : Fault)
      (held : execution.held = some (number, lease)) :
      Effect (shared.giveBack number) { execution with held := none, stage := .failing fault }
  | admitted {extended : Shared} (endpoint : Endpoint) (attempt : Option Nat)
      (admitting : execution.stage = .admitting endpoint attempt)
      (accepted : shared.admitEndpoint execution.target endpoint execution.held
        attempt.isSome = some extended) :
      Effect extended { execution with held := none, stage := .leaving (.ok shared.leases.length) }
  | departed (stage : Stage)
      (activatable : execution.queued = true → execution.target.source = .activatable) :
      Effect (execution.left shared) { execution with queued := false, stage := stage }
  | returned (lease : Nat) (unstarted : execution.started = false)
      (leaving : execution.stage = .leaving (.ok lease))
      (activatable : execution.queued = true → execution.target.source = .activatable) :
      Effect
        ((execution.left shared).markReturned lease)
        { execution with queued := false, stage := .done (.ok lease) }
  | claimed (lease : Nat) : Effect (shared.claimRelease lease) (execution.moveTo (.returning lease))

end

namespace Execution

variable {coordinator : AdmissionCoordinator} {shared : Shared} {execution : Execution}

theorem eq_none_of_unheld {held : Option (Nat × Lease)} (unheld : held.isSome = false) :
    held = none := by
  cases held with
  | none => rfl
  | some lease => cases unheld

variable (answers : Answers)

theorem quiet_moveTo (stage : Stage) :
    Effect coordinator shared execution answers shared (execution.moveTo stage) :=
  .quiet ⟨rfl, rfl, rfl⟩ rfl rfl

theorem quiet_notReady (site : Site) :
    Effect coordinator shared execution answers shared
      (execution.notReady coordinator site) := by
  fun_cases Execution.notReady execution coordinator site <;> exact .quiet ⟨rfl, rfl, rfl⟩ rfl rfl

theorem quiet_foundReady (endpoint : Endpoint) (site : Site) :
    Effect coordinator shared execution answers shared
      (execution.foundReady endpoint site) := by
  cases site <;> exact .quiet ⟨rfl, rfl, rfl⟩ rfl rfl

/-- Every step has one of the listed effects and leaves the request with the
reservations of its next stage. -/
theorem advance_effect (fits : execution.Fits) (answers : Answers) :
    Effect coordinator shared execution answers
        (execution.advance coordinator shared answers).1
        (execution.advance coordinator shared answers).2 ∧
      (execution.advance coordinator shared answers).2.Fits := by
  fun_cases advance coordinator shared execution answers
  all_goals rw [Fits, ‹execution.stage = _›] at fits
  case case1 | case3 => exact ⟨quiet_notReady answers _, notReady_fits fits.1 fits.2⟩
  case case6 => exact ⟨quiet_foundReady answers _ _, foundReady_fits fits.1 fits.2⟩
  case case7 => exact ⟨.quiet ⟨rfl, rfl, rfl⟩ rfl rfl, fits⟩
  case case10 | case30 =>
    obtain ⟨source, rest⟩ := fits
    exact ⟨.wrote _ _ _ _ source, by first | exact rest | exact rest.2, fun _ => source⟩
  case case17 | case27 => exact ⟨.wrote _ _ _ _ fits.1, fits⟩
  case case11 =>
    obtain ⟨source, unqueued, unheld⟩ := fits
    exact ⟨quiet_moveTo answers _, unheld, source, unqueued⟩
  case case12 outcome =>
    obtain ⟨source, unqueued, unheld⟩ := fits
    exact ⟨.enqueued source unqueued outcome, source, unheld⟩
  case case15 => exact ⟨quiet_moveTo answers _, fits.2, fits.1⟩
  case case16 claim _ =>
    exact ⟨quiet_moveTo answers _, observe_fits claim answers fits.1 fits.2⟩
  case case18 claim expected _ lease _ =>
    exact ⟨.granted claim expected lease (eq_none_of_unheld fits.2), fits.1, rfl⟩
  case case19 => exact ⟨quiet_moveTo answers _, fits.1⟩
  case case21 unheld | case28 unheld =>
    rw [unheld] at fits
    cases fits.2
  case case22 claim _ _ _ _ _ =>
    exact ⟨quiet_moveTo answers _, validated_fits claim _ fits.1 fits.2⟩
  case case23 holding => exact ⟨quiet_moveTo answers _, fits, holding⟩
  case case24 unheld => exact ⟨quiet_moveTo answers _, fits, eq_false_of_ne_true unheld⟩
  case case29 fault _ _ _ held => exact ⟨.discarded fault held, fits.1, rfl⟩
  case case31 endpoint attempt place extended outcome =>
    refine ⟨.admitted endpoint attempt place outcome, rfl, fun queued => ?_⟩
    cases attempt with
    | none => exact fits.1
    | some number => exact absurd queued (ne_true_of_eq_false fits.2.1)
  case case32 endpoint attempt _ outcome _ | case33 endpoint attempt _ outcome _ =>
    cases attempt with
    | none => simp [Shared.admitEndpoint] at outcome
    | some number =>
      obtain ⟨source, unqueued, unheld⟩ := fits
      first
      | exact ⟨quiet_moveTo answers _, unheld, source, unqueued⟩
      | exact ⟨quiet_moveTo answers _, unheld,
          fun queued => absurd queued (ne_true_of_eq_false unqueued)⟩
  case case34 | case35 => exact ⟨.departed _ fits.2, rfl, fits.1⟩
  case case36 lease unstarted place =>
    exact ⟨.returned lease (eq_false_of_ne_true unstarted) place fits.2, rfl, fits.1⟩
  case case37 lease _ => exact ⟨.claimed lease, fits⟩
  case case39 | case40 =>
    refine ⟨.quiet ⟨rfl, rfl, rfl⟩ rfl rfl, ?_⟩
    rwa [Fits, ‹execution.stage = _›]
  all_goals exact ⟨quiet_moveTo answers _, fits⟩

end Execution

end SparkRoute.Lifecycle
