import SparkRoute.Lib.Gate
import SparkRoute.Sparkrun.Tasks

/-!
# Runs over shared workloads

Any number of controllers, numbered, share one `Workloads`. An action starts a task, lets a
timer fire, moves one task, or is a call that takes a single section of a mutex.
-/

namespace SparkRoute.Sparkrun

open Lib
open Lifecycle (RequestFeatures Lease)

inductive Action where
  | ensureReady (controller : Nat) (binding : Binding) (features : RequestFeatures)
  | release (controller : Nat) (lease : Lease) (outcome : RequestOutcome) (now : Int)
  | stop (controller : Nat) (binding : Binding)
  | control (controller : Nat) (deployment jobID : GoString) (action : ControlAction)
  | reconcile (controller : Nat) (order : List GoString)
  | configure (targets : List Target) (order : List GoString) (now : Int)
  | retire (binding : Binding)
  | close
  | closeController (controller : Nat)
  | fireIdle (id : GoString) (epoch : Nat)
  | fireRecovery (key : RecoveryKey) (epoch : Nat) (id : GoString)
  | advance (index : Nat) (answers : Answers)

structure System where
  workloads : Workloads := {}
  controllers : Nat → Controller := fun _ => {}
  tasks : List Task := []

namespace Controller

/-- `Release` up to the call of `Workloads.release`; `none` is an unknown lease. -/
def release (controller : Controller) (lease : Lease) : Option Controller :=
  match controller.leases.get lease.id with
  | none => none
  | some key =>
    let released := { controller with leases := controller.leases.erase lease.id }
    match controller.states.get key with
    | none => some released
    | some state =>
      if (state.endpoint.map fun known => known.endpoint.id) = some lease.endpoint.id then
        some (released.setState key { state with active := state.active - 1 })
      else some released

end Controller

namespace System

def spawn (system : System) (task : Task) : System :=
  { system with tasks := system.tasks ++ [task] }

def setController (system : System) (index : Nat) (controller : Controller) : System :=
  { system with controllers := Function.update system.controllers index controller }

variable (platform : Platform) (generations : Nat → Generation)

def step (system : System) : Action → System
  | .ensureReady controller binding features =>
    system.spawn (.ensureReady ⟨controller, binding, features⟩ .waiting)
  | .release index lease outcome now =>
    match (system.controllers index).release lease with
    | none => system
    | some controller =>
      { system.setController index controller with
        workloads := system.workloads.release lease.endpoint.clusterID outcome now }
  | .stop controller binding => system.spawn (.stop ⟨controller, binding⟩ .reading)
  | .control controller deployment jobID action =>
    match (generations controller).lookup deployment with
    | none => system
    | some target =>
      if target.source = .activatable ∧ jobID ≠ [] ∧
          (generations controller).lifecycleBridge then
        system.spawn (.control ⟨controller, target, jobID, action⟩ .waiting)
      else system
  | .reconcile controller order =>
    if order.Perm ((generations controller).targets.map Target.deployment) then
      system.spawn (.reconcile controller
        (.discovering (order.filterMap (generations controller).lookup)))
    else system
  | .configure targets order now =>
    if order.Perm system.workloads.jobs.keys then
      { system with workloads := system.workloads.configure targets order now }
    else system
  | .retire binding => { system with workloads := system.workloads.retireBinding binding }
  | .close => { system with workloads := system.workloads.close }
  | .closeController index =>
    system.setController index { system.controllers index with closed := true }
  | .fireIdle id epoch =>
    match system.workloads.jobs.get id with
    | none => system
    | some job =>
      if epoch ∈ job.armed then
        { system with
          workloads := system.workloads.setJob id
            { job with armed := job.armed.erase epoch } }.spawn
          (.idle ⟨id, epoch⟩ .fired)
      else system
  | .fireRecovery key epoch id =>
    match system.workloads.recoveries.get key with
    | none => system
    | some state =>
      if (epoch, id) ∈ state.armed then
        { system with
          workloads := system.workloads.setRecovery key
            { state with armed := state.armed.erase (epoch, id) } }.spawn
          (.recovery ⟨id, key, epoch⟩ .fired)
      else system
  | .advance index answers =>
    match system.tasks[index]? with
    | none => system
    | some task =>
      let moved := task.advance platform generations system.workloads system.controllers
        answers
      { workloads := moved.1.enter system.workloads
        controllers := moved.2.1
        tasks := system.tasks.set index moved.2.2 }

def run (actions : List Action) : System :=
  Lib.run (step platform generations) {} actions

end System

/-! ### A small configuration -/

def samplePlatform : Platform where
  parseIP := fun _ => true
  printable := fun _ => true
  joinHostPort := fun host _ => host
  endpointID := fun deployment endpoint => deployment ++ endpoint.workloadID

def sampleBinding (deployment revision : String) : Binding where
  controller := ascii "sparkrun"
  revision := ascii deployment
  deployment := ascii deployment
  recipe := ascii "x"
  recipeRevision := ascii revision
  coldStart := .wait
  idleTTL := 1
  fencingToken := 1

def sampleTarget (deployment revision : String) : Target where
  deployment := ascii deployment
  upstreamModel := ascii "m"
  protocol := ascii "openai"
  source := .activatable
  binding := sampleBinding deployment revision

def sampleGeneration : Generation where
  targets := [sampleTarget "a" "1", sampleTarget "b" "2"]
  endpointTTL := 100
  lifecycleBridge := false
  keys := by decide +kernel

def sampleEndpoint (workload revision : String) (owned : Bool) : Endpoint where
  owned := owned
  state := .ready
  workloadID := ascii workload
  clusterName := ascii "c"
  jobID := ascii workload
  host := ascii "h"
  port := 1
  protocol := ascii "openai"
  servedModels := [ascii "m"]
  recipeRevision := ascii revision

/-- The bridge reports a workload, and the registry takes it. -/
def sampleAnswers (workload revision : String) : Answers where
  ensured := some ⟨.ready, some (sampleEndpoint workload revision true)⟩
  registered := true
  published := true

def steps (index count : Nat) (answers : Answers) : List Action :=
  List.replicate count (.advance index answers)

/-- A request starts workload `w` of revision `1`, is served, and returns its lease. -/
def servedOnce : List Action :=
  [.ensureReady 0 (sampleBinding "a" "1") {}] ++ steps 0 14 (sampleAnswers "w" "1") ++
    [.release 0 ⟨ascii "sparkrun-lease-1", { clusterID := ascii "w" }⟩ {} 0]

/-- The idle timer of the served workload has its stop in progress. -/
def idleStop : List Action := servedOnce ++ [.fireIdle (ascii "w") 3] ++ steps 1 4 {}

def sampleRun (actions : List Action) : System :=
  System.run samplePlatform (fun _ => sampleGeneration) actions

end SparkRoute.Sparkrun
