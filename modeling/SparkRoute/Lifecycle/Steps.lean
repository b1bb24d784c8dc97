import SparkRoute.Lifecycle.Effect

/-!
# Steps of the whole coordinator

A step opens a request, moves one request, or moves one lease through `Release`.
Requests always serve a configured target.
-/

namespace SparkRoute.Lifecycle

open Lib List
open Registry

/-- `Start` overrides the cold-start behaviour and nothing else of a target. -/
def Target.withColdStart (target : Target) (behavior : ColdStartBehavior) : Target :=
  { target with binding := { target.binding with coldStart := behavior } }

structure Execution.Serves (coordinator : AdmissionCoordinator) (execution : Execution) :
    Prop where
  target : ∃ target ∈ coordinator.targets, ∃ behavior,
    execution.target = target.withColdStart behavior
  bodyBytes : 0 ≤ execution.bodyBytes.val

structure Execution.Fresh (coordinator : AdmissionCoordinator) (execution : Execution) :
    Prop where
  serves : execution.Serves coordinator
  fits : execution.Fits
  unqueued : execution.queued = false
  unheld : execution.held = none
  ready : ∃ site, execution.stage = .ready site

namespace AdmissionCoordinator

variable {coordinator : AdmissionCoordinator} {execution : Execution}

theorem acquire_fresh {cancelled : Option Fault} {request : AdmissionRequest}
    (opened : coordinator.acquire cancelled request = .ok (some execution)) :
    execution.Fresh coordinator := by
  revert opened
  fun_cases acquire coordinator cancelled request <;> rintro ⟨⟩
  all_goals
    next nonnegative target found source =>
    have serves : ∃ configured ∈ coordinator.targets, ∃ behavior,
        target = configured.withColdStart behavior :=
      ⟨target, (lookup_member found).1, target.binding.coldStart, rfl⟩
    exact ⟨⟨serves, Int.not_lt.mp nonnegative⟩, ⟨rfl, source, rfl⟩, rfl, rfl, _, rfl⟩

theorem start_fresh {deployment : GoString}
    (opened : coordinator.start deployment = .ok execution) : execution.Fresh coordinator := by
  revert opened
  fun_cases start coordinator deployment <;> rintro ⟨⟩
  next target found source =>
    exact ⟨⟨⟨target, (lookup_member found).1, .wait, rfl⟩, Int.le_refl 0⟩,
      ⟨rfl, source, rfl⟩, rfl, rfl, _, rfl⟩

end AdmissionCoordinator

section

variable {coordinator : AdmissionCoordinator} {shared after : Shared}
  {execution moved : Execution} {answers : Answers}
  (effect : Effect coordinator shared execution answers after moved)

include effect

/-- The parts of a request that effects keep are enough to serve its target. -/
theorem Effect.serves (serves : execution.Serves coordinator) : moved.Serves coordinator := by
  cases effect with
  | quiet same =>
    refine ⟨?_, ?_⟩
    · rw [same.target]
      exact serves.target
    · rw [same.bodyBytes]
      exact serves.bodyBytes
  | _ => exact ⟨serves.target, serves.bodyBytes⟩

theorem Effect.target : moved.target = execution.target := by
  cases effect with
  | quiet same => exact same.target
  | _ => rfl

end

section

variable (coordinator : AdmissionCoordinator) (system : System)

inductive SystemEffect : System → Prop where
  | idle : SystemEffect system
  | opened (execution : Execution) (fresh : execution.Fresh coordinator) :
      SystemEffect { system with executions := system.executions ++ [execution] }
  | moved {index : Nat} {execution moved : Execution} {answers : Answers} {shared : Shared}
      (found : system.executions[index]? = some execution)
      (advanced : execution.advance coordinator system.shared answers = (shared, moved))
      (effect : Effect coordinator system.shared execution answers shared moved)
      (fits : moved.Fits) :
      SystemEffect
        { shared := shared
          executions := system.executions.set index moved
          trace := system.trace ++ [(execution, answers)] }
  | released {index : Nat} {lease : AdmissionLease}
      (found : system.shared.leases[index]? = some lease) (returned : lease.returned = true) :
      SystemEffect { system with shared := system.shared.claimRelease index }
  | accounted (index : Nat) :
      SystemEffect { system with shared := system.shared.accountRelease coordinator index }
  | passed (index : Nat) : SystemEffect { system with shared := system.shared.passRelease index }

end

namespace System

variable {coordinator : AdmissionCoordinator} {system : System}

def WellFormed (coordinator : AdmissionCoordinator) (system : System) : Prop :=
  ∀ execution ∈ system.executions, execution.Serves coordinator ∧ execution.Fits

theorem step_advance {index : Nat} {execution : Execution}
    (found : system.executions[index]? = some execution) (answers : Answers) :
    system.step coordinator (.advance index answers) =
      { shared := (execution.advance coordinator system.shared answers).1
        executions := system.executions.set index
          (execution.advance coordinator system.shared answers).2
        trace := system.trace ++ [(execution, answers)] } := by
  simp only [step, found]

theorem run_concat (coordinator : AdmissionCoordinator) (actions : List Action) (action : Action) :
    run coordinator (actions ++ [action]) = (run coordinator actions).step coordinator action :=
  Lib.run_concat _ _ _ _

theorem step_effect (wellFormed : system.WellFormed coordinator) (action : Action) :
    SystemEffect coordinator system (system.step coordinator action) := by
  cases action with
  | acquire cancelled request =>
    dsimp only [step]
    split
    next execution opened =>
      exact .opened execution (AdmissionCoordinator.acquire_fresh opened)
    · exact .idle
  | start deployment =>
    dsimp only [step]
    split
    next execution opened =>
      exact .opened execution (AdmissionCoordinator.start_fresh opened)
    · exact .idle
  | advance index answers =>
    dsimp only [step]
    split
    · exact .idle
    next execution found =>
      obtain ⟨_, fits⟩ := wellFormed execution (mem_of_getElem? found)
      obtain ⟨effect, moved_fits⟩ := Execution.advance_effect fits answers
      exact .moved found rfl effect moved_fits
  | release index =>
    dsimp only [step]
    split
    · exact .idle
    next lease found =>
      split
      next returned => exact .released found returned
      · exact .idle
  | account index => exact .accounted index
  | pass index => exact .passed index

theorem WellFormed.kept (wellFormed : system.WellFormed coordinator) {after : System}
    (effect : SystemEffect coordinator system after) : after.WellFormed coordinator := by
  cases effect with
  | opened execution fresh =>
    intro member mem
    rcases mem_append.mp mem with earlier | last
    · exact wellFormed member earlier
    · rw [mem_singleton.mp last]
      exact ⟨fresh.serves, fresh.fits⟩
  | moved found advanced effect fits =>
    intro member mem
    rcases mem_or_eq_of_mem_set mem with earlier | replaced
    · exact wellFormed member earlier
    · rw [replaced]
      obtain ⟨serves, _⟩ := wellFormed _ (mem_of_getElem? found)
      exact ⟨Effect.serves effect serves, fits⟩
  | _ => exact wellFormed

/-- Whatever holds of the empty system and survives every effect from well-formed
states holds along every run. -/
theorem run_kept {invariant : System → Prop} (initially : invariant {})
    (kept : ∀ {system after : System}, system.WellFormed coordinator → invariant system →
      SystemEffect coordinator system after → invariant after)
    (actions : List Action) : invariant (run coordinator actions) := by
  have both : (run coordinator actions).WellFormed coordinator ∧
      invariant (run coordinator actions) := by
    refine @run_invariant System Action (step coordinator)
      (fun system => system.WellFormed coordinator ∧ invariant system) {} ?_ ?_ actions
    · exact ⟨fun _ mem => absurd mem (not_mem_nil), initially⟩
    · rintro system action ⟨wellFormed, holds⟩
      have effect := step_effect wellFormed action
      exact ⟨wellFormed.kept effect, kept wellFormed holds effect⟩
  exact both.2

theorem run_wellFormed (coordinator : AdmissionCoordinator) (actions : List Action) :
    (run coordinator actions).WellFormed coordinator := by
  apply run_invariant
  · intro execution mem
    cases mem
  · intro system action wellFormed
    exact wellFormed.kept (step_effect wellFormed action)

end System

end SparkRoute.Lifecycle
