import SparkRoute.Lib.Run
import SparkRoute.Routing.Target

/-!
# Interleaved use of one target

Requests run concurrently, so a completion is two steps: the compare-and-swap
that decides which caller completes the lease, and the critical section that
later accounts for it.  Every other operation is a single critical section.
Clock readings are taken outside the lock and are therefore arbitrary.
-/

namespace SparkRoute.Routing

/-- `completing` lies between a won compare-and-swap and its critical section. -/
inductive LeasePhase where
  | held
  | completing (result : TargetResult) (failureClass : String)
  | settled

structure LeaseCell where
  lease : TargetLease
  phase : LeasePhase

namespace LeaseCell

def uncompleted (cell : LeaseCell) : Bool :=
  match cell.phase with
  | .settled => false
  | _ => true

/-- The lease is the probe of circuit generation `generation`. -/
def probes (generation : UInt64) (cell : LeaseCell) : Bool :=
  cell.uncompleted && cell.lease.halfOpenProbe &&
    cell.lease.circuitGeneration == generation

end LeaseCell

/-- A target together with every lease it has handed out, in order. -/
structure TargetSystem where
  target : TargetRuntime
  leases : List LeaseCell

inductive TargetOperation where
  | eligible (now : Int)
  | acquire (now : Int)
  | status (now : Int)
  | complete (index : Nat) (result : TargetResult) (failureClass : String)
  | settle (index : Nat) (now : Int)

namespace TargetSystem

def initial (target : TargetRuntime) : TargetSystem :=
  ⟨target, []⟩

/-- A completed lease fails the compare-and-swap, and only a lease whose
compare-and-swap was won reaches the critical section. -/
def step (system : TargetSystem) : TargetOperation → TargetSystem
  | .eligible now => { system with target := (system.target.eligible now).1 }
  | .status now => { system with target := (system.target.status now).1 }
  | .acquire now =>
    match system.target.acquire now with
    | (target, .ok lease) => ⟨target, system.leases ++ [⟨lease, .held⟩]⟩
    | (target, .error _) => ⟨target, system.leases⟩
  | .complete index result failureClass =>
    match system.leases[index]? with
    | some ⟨lease, .held⟩ =>
      { system with
        leases := system.leases.set index ⟨lease, .completing result failureClass⟩ }
    | _ => system
  | .settle index now =>
    match system.leases[index]? with
    | some ⟨lease, .completing result failureClass⟩ =>
      let (target, completed) := system.target.complete lease now result failureClass
      ⟨target, system.leases.set index ⟨completed, .settled⟩⟩
    | _ => system

/-- Every interleaving of operations is one list of them. -/
def run (system : TargetSystem) (operations : List TargetOperation) : TargetSystem :=
  Lib.run step system operations

/-- The completion that the next critical section of lease `index` records. -/
def completing (system : TargetSystem) (index : Nat) :
    Option (TargetLease × TargetResult × String) :=
  match system.leases[index]? with
  | some ⟨lease, .completing result failureClass⟩ => some (lease, result, failureClass)
  | _ => none

variable {system : TargetSystem} {index : Nat}
  {lease : TargetLease} {result : TargetResult} {failureClass : String}

theorem found_of_completing (found : system.completing index = some (lease, result, failureClass)) :
    system.leases[index]? = some ⟨lease, .completing result failureClass⟩ := by
  unfold completing at found
  split at found
  next heldLease heldResult heldClass cell =>
    rcases found with ⟨rfl, rfl, rfl⟩
    exact cell
  next => simp at found

theorem step_settle_of_completing
    (found : system.completing index = some (lease, result, failureClass)) (now : Int) :
    system.step (.settle index now) =
      ⟨(system.target.complete lease now result failureClass).1, system.leases.set index
          ⟨(system.target.complete lease now result failureClass).2, .settled⟩⟩ := by
  simp only [step, found_of_completing found]

theorem step_settle_of_none (missing : system.completing index = none) (now : Int) :
    system.step (.settle index now) = system := by
  unfold completing at missing
  simp only [step]
  split
  next lease result failureClass cell => simp [cell] at missing
  next => rfl

end TargetSystem

end SparkRoute.Routing
