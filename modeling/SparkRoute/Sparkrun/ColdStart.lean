import SparkRoute.Lifecycle.Steps
import SparkRoute.Sparkrun.System

/-!
# Requests that must not launch a workload

Admission and the controllers run side by side. A request of the admission coordinator that
reaches `EnsureReady` becomes a task of the controller and waits for its result.
-/

namespace SparkRoute.Lifecycle

open Lib List
open Registry

/-! ### Requests on targets that reject cold starts -/

/-- Places that a request reaches without joining the queue. -/
def Stage.direct : Stage → Bool
  | .ready (.queueFull _) | .ready (.observing _) => false
  | .scanning (.queueFull _) _ | .scanning (.observing _) _ => false
  | .enqueueing | .beginning | .observing _ | .activating _ => false
  | .ensuring (some _) _ | .validating (some _) _ => false
  | .abandoning _ _ | .completing _ _ | .announcing _ => false
  | _ => true

namespace Execution

variable {coordinator : AdmissionCoordinator} {execution : Execution}

/-- A request that may launch although its target rejects cold starts never queued: it comes
from the first look at the registry. -/
def Direct (execution : Execution) : Prop :=
  execution.target.binding.coldStart = .reject → execution.features.preparedOnly = false →
    execution.queued = false ∧ execution.stage.direct = true

theorem Direct.of_stage {stage : Stage} (direct : execution.Direct)
    (placed : execution.stage.direct = true → stage.direct = true) :
    (execution.moveTo stage).Direct :=
  fun reject unprepared =>
    ⟨(direct reject unprepared).1, placed (direct reject unprepared).2⟩

/-- A request that has queued carries `PreparedOnly` or waits for a launch, and keeps to it. -/
theorem Direct.of_queued {moved : Execution} (direct : execution.Direct)
    (queued : execution.stage.direct = false) (target : moved.target = execution.target)
    (features : moved.features = execution.features) : moved.Direct := by
  intro reject unprepared
  rw [target] at reject
  rw [features] at unprepared
  have placed := (direct reject unprepared).2
  rw [queued] at placed
  cases placed

theorem notReady_direct {site : Site} (direct : execution.Direct)
    (placed : execution.stage.direct = true → (Stage.ready site).direct = true) :
    (execution.notReady coordinator site).Direct := by
  fun_cases notReady execution coordinator site with
  | case3 _ waits => exact fun reject => absurd reject waits
  | case5 => exact direct.of_stage fun earlier => absurd (placed earlier) Bool.false_ne_true
  | _ => exact direct.of_stage fun _ => rfl

theorem scanning_direct (site : Site) (remaining : List Endpoint) :
    (Stage.scanning site remaining).direct = (Stage.ready site).direct := by
  cases site <;> rfl

theorem advance_direct (direct : execution.Direct) (shared : Shared) (answers : Answers) :
    (execution.advance coordinator shared answers).2.Direct := by
  fun_cases advance coordinator shared execution answers with
  | case1 site place => exact notReady_direct direct fun earlier => place ▸ earlier
  | case2 site place =>
    refine direct.of_stage fun earlier => ?_
    rwa [scanning_direct, ← place]
  | case3 site place =>
    refine notReady_direct direct fun earlier => ?_
    rwa [← scanning_direct, ← place]
  | case4 site _ _ place | case5 site _ _ place =>
    refine direct.of_stage fun earlier => ?_
    rwa [scanning_direct, ← scanning_direct site, ← place]
  | case6 site => cases site <;> exact direct.of_stage fun _ => rfl
  | case7 => exact fun _ unprepared => by cases unprepared
  | case18 claim expected place =>
    intro reject unprepared
    obtain ⟨unqueued, placed⟩ := direct reject unprepared
    rw [place] at placed
    exact ⟨unqueued, by cases claim <;> first | rfl | cases placed⟩
  | case22 claim expected place =>
    refine direct.of_stage fun earlier => ?_
    rw [place] at earlier
    cases claim with
    | some => cases earlier
    | none =>
      dsimp only [validated]
      split <;> rfl
  | _ =>
    first
    | exact direct
    | exact direct.of_stage fun _ => rfl
    | exact direct.of_queued (by rw [‹execution.stage = _›]; rfl) rfl rfl
    | exact fun _ _ => ⟨rfl, rfl⟩

end Execution

namespace System

variable {coordinator : AdmissionCoordinator} {system : System}

theorem step_direct (direct : ∀ execution ∈ system.executions, execution.Direct) (action : Action) :
    ∀ execution ∈ (system.step coordinator action).executions, execution.Direct := by
  fun_cases step coordinator system action with
  | case1 cancelled request execution opened =>
    refine forall_mem_append.mpr ⟨direct, forall_mem_singleton.mpr ?_⟩
    revert opened
    fun_cases AdmissionCoordinator.acquire coordinator cancelled request <;> rintro ⟨⟩ <;>
      exact fun _ _ => ⟨rfl, rfl⟩
  | case3 deployment execution opened =>
    refine forall_mem_append.mpr ⟨direct, forall_mem_singleton.mpr ?_⟩
    revert opened
    fun_cases AdmissionCoordinator.start coordinator deployment <;> rintro ⟨⟩
    exact fun reject => by cases reject
  | case6 index answers execution found shared moved advanced =>
    intro member mem
    rcases mem_or_eq_of_mem_set mem with earlier | replaced
    · exact direct member earlier
    · rw [replaced, ← show _ = moved from congrArg Prod.snd advanced]
      exact Execution.advance_direct (direct execution (mem_of_getElem? found)) _ _
  | _ => exact direct

end System

end SparkRoute.Lifecycle

namespace SparkRoute.Sparkrun

open Lib
open Lifecycle (AdmissionCoordinator Execution Stage Site)

/-- `callers` lists the calls of `EnsureReady`: the task, the request, and the request as it was
when it called. -/
structure Gateway where
  admission : Lifecycle.System := {}
  workloads : System := {}
  callers : List (Nat × Nat × Execution) := []

/-- `workloads` also stands for the calls of other coordinators over the same workloads. -/
inductive GatewayAction where
  | admission (action : Lifecycle.Action)
  | workloads (action : Action)
  | call (request controller : Nat)
  | resume (request task : Nat) (answers : Lifecycle.Answers)

namespace Gateway

def ensuring (gateway : Gateway) (request : Nat) : Bool :=
  match gateway.admission.executions[request]? with
  | some execution =>
    match execution.stage with
    | .ensuring _ _ => true
    | _ => false
  | none => false

def callBinding (target : Target) (execution : Execution)
    (claim : Option Lifecycle.ActivationClaim) : Binding :=
  { target.binding with
    toBinding := execution.target.binding
    fencingToken := (claim.map Lifecycle.ActivationClaim.fencingToken).getD 0 }

/-- A failure of the controller reaches the request as the fault that `errors.Is` finds. -/
def delivered (answers : Lifecycle.Answers) :
    Except EnsureFailure Lifecycle.Lease → Lifecycle.Answers
  | .ok lease => { answers with ensureReady := .ok lease }
  | .error _ =>
    match answers.ensureReady with
    | .ok _ => { answers with ensureReady := .error .other }
    | .error fault => { answers with ensureReady := .error fault }

variable (coordinator : AdmissionCoordinator) (platform : Platform)
  (generations : Nat → Generation)

def step (gateway : Gateway) : GatewayAction → Gateway
  | .admission action =>
    match action with
    | .advance request answers =>
      if gateway.ensuring request then gateway
      else
        { gateway with
          admission := gateway.admission.step coordinator (.advance request answers) }
    | action => { gateway with admission := gateway.admission.step coordinator action }
  | .workloads action =>
    { gateway with workloads := gateway.workloads.step platform generations action }
  | .call request controller =>
    match gateway.admission.executions[request]? with
    | none => gateway
    | some execution =>
      match execution.stage, (generations controller).lookup execution.target.deployment with
      | .ensuring claim _, some target =>
        if gateway.callers.any fun caller => caller.2.1 = request then gateway
        else
          { gateway with
            workloads := gateway.workloads.spawn (.ensureReady
              ⟨controller, callBinding target execution claim, execution.features⟩
              .waiting)
            callers := gateway.callers ++
              [(gateway.workloads.tasks.length, request, execution)] }
      | _, _ => gateway
  | .resume request task answers =>
    match gateway.workloads.tasks[task]? with
    | some (.ensureReady _ (.done result)) =>
      if gateway.callers.any fun caller => caller.1 = task ∧ caller.2.1 = request then
        { gateway with
          admission := gateway.admission.step coordinator
            (.advance request (delivered answers result)) }
      else gateway
    | _ => gateway

def run (actions : List GatewayAction) : Gateway :=
  Lib.run (step coordinator platform generations) {} actions

end Gateway

/-! ### The decision to launch -/

/-- `EnsureReady` calls the bridge exactly when no prepared endpoint is left and the request
does not forbid it. -/
theorem EnsureCall.advance_launching (platform : Platform) (generation : Generation)
    (workloads : Workloads) (controller : Controller) (call : EnsureCall) (answers : Answers)
    (stage : EnsureStage) :
    (call.advance platform generation workloads controller answers stage).2.2 = .launching ↔
      stage = .choosing ∧
        workloads.preparedEndpoint call.binding answers.now answers.choice = none ∧
        call.features.preparedOnly = false := by
  have other (result : EnsureResult) :
      call.verify platform generation controller result answers.now ≠ .launching := by
    fun_cases verify platform generation controller call result answers.now <;> simp
  fun_cases advance platform generation workloads controller call answers stage <;> simp_all

def System.Carries (system : System) (index : Nat) (call : EnsureCall) : Prop :=
  ∃ stage, system.tasks[index]? = some (.ensureReady call stage)

variable {call : EnsureCall}

theorem System.Carries.spawn {system : System} {index : Nat} (carries : system.Carries index call)
    (task : Task) : (system.spawn task).Carries index call := by
  obtain ⟨stage, found⟩ := carries
  refine ⟨stage, ?_⟩
  rw [← found]
  exact List.getElem?_append_left (List.getElem?_eq_some_iff.mp found).1

theorem System.Carries.step {system : System} {index : Nat} (platform : Platform)
    (generations : Nat → Generation) (carries : system.Carries index call) (action : Action) :
    (system.step platform generations action).Carries index call := by
  fun_cases System.step platform generations system action with
  | case22 other answers task found =>
    obtain ⟨stage, placed⟩ := carries
    by_cases same : other = index
    · subst same
      rw [placed] at found
      cases found
      exact ⟨_, List.getElem?_set_self (List.getElem?_eq_some_iff.mp placed).1⟩
    · refine ⟨stage, ?_⟩
      rw [List.getElem?_set_ne same, placed]
  | _ => first | exact carries | exact carries.spawn _

/-! ### Requests and their calls -/

namespace Gateway

/-- What a recorded call says about its task and its request. -/
structure Called (gateway : Gateway) (task : Nat) (execution : Execution) : Prop where
  carries : ∃ call, gateway.workloads.Carries task call ∧ call.features = execution.features
  ensuring : ∃ claim expected, execution.stage = .ensuring claim expected
  direct : execution.Direct

structure Coherent (gateway : Gateway) : Prop where
  requests : ∀ execution ∈ gateway.admission.executions, execution.Direct
  callers : ∀ caller ∈ gateway.callers, gateway.Called caller.1 caller.2.2

variable {coordinator : AdmissionCoordinator} {platform : Platform}
  {generations : Nat → Generation} {gateway : Gateway}

theorem Coherent.admission (coherent : gateway.Coherent) (action : Lifecycle.Action) :
    { gateway with admission := gateway.admission.step coordinator action }.Coherent where
  requests := Lifecycle.System.step_direct coherent.requests action
  callers := fun caller mem =>
    ⟨(coherent.callers caller mem).carries, (coherent.callers caller mem).ensuring,
      (coherent.callers caller mem).direct⟩

theorem Coherent.workloads (coherent : gateway.Coherent) {after : System}
    (carried : ∀ {index : Nat} {call : EnsureCall}, gateway.workloads.Carries index call →
      after.Carries index call) : { gateway with workloads := after }.Coherent where
  requests := coherent.requests
  callers := by
    intro caller mem
    obtain ⟨⟨call, carries, features⟩, ensuring, direct⟩ := coherent.callers caller mem
    exact ⟨⟨call, carried carries, features⟩, ensuring, direct⟩

theorem step_coherent (coherent : gateway.Coherent) (action : GatewayAction) :
    (gateway.step coordinator platform generations action).Coherent := by
  fun_cases step coordinator platform generations gateway action with
  | case4 action => exact coherent.workloads fun carries => carries.step _ _ action
  | case7 request controller execution found claim expected target _ place fresh =>
    refine ⟨coherent.requests, List.forall_mem_append.mpr
      ⟨fun caller earlier => ?_, List.forall_mem_singleton.mpr ?_⟩⟩
    · obtain ⟨⟨call, carries, features⟩, ensuring, direct⟩ := coherent.callers caller earlier
      exact ⟨⟨call, carries.spawn _, features⟩, ensuring, direct⟩
    · refine ⟨⟨⟨controller, callBinding target execution claim, execution.features⟩,
        ⟨.waiting, ?_⟩, rfl⟩, ⟨claim, expected, place⟩,
        coherent.requests execution (List.mem_of_getElem? found)⟩
      exact List.getElem?_concat_length
  | _ => first | exact coherent | exact coherent.admission _

theorem run_coherent (actions : List GatewayAction) :
    (run coordinator platform generations actions).Coherent := by
  apply run_invariant
  · exact ⟨fun _ mem => absurd mem List.not_mem_nil, fun _ mem => absurd mem List.not_mem_nil⟩
  · exact fun _ action coherent => step_coherent coherent action

end Gateway

/-- A call of the bridge's `EnsureReady` is in progress. -/
def Task.launching : Task → Bool
  | .ensureReady _ .launching => true
  | _ => false

namespace Gateway

variable (coordinator : AdmissionCoordinator) (platform : Platform)
  (generations : Nat → Generation)

/-- The next step of the task calls the bridge's `EnsureReady`. -/
def launches (gateway : Gateway) (task : Nat) (answers : Answers) : Bool :=
  (gateway.step coordinator platform generations
    (.workloads (.advance task answers))).workloads.tasks[task]?.any Task.launching

variable {stage : EnsureStage}

theorem launching_iff : Task.launching (.ensureReady call stage) = true ↔ stage = .launching := by
  cases stage <;> simp [Task.launching]

theorem launches_iff {gateway : Gateway} {task : Nat}
    (found : gateway.workloads.tasks[task]? = some (.ensureReady call stage)) (answers : Answers) :
    gateway.launches coordinator platform generations task answers = true ↔
      stage = .choosing ∧
        gateway.workloads.workloads.preparedEndpoint call.binding answers.now answers.choice =
          none ∧
        call.features.preparedOnly = false := by
  have moved := call.advance_launching platform (generations call.controller)
    gateway.workloads.workloads (gateway.workloads.controllers call.controller) answers stage
  rw [← moved]
  simp only [launches, step, System.step, found]
  rw [List.getElem?_set_self (List.getElem?_eq_some_iff.mp found).1]
  exact launching_iff

theorem guarded_launch_iff (actions : List GatewayAction) (task request : Nat)
    (execution : Execution) (called : (task, request, execution) ∈
      (run coordinator platform generations actions).callers)
    (guarded : execution.target.binding.coldStart = .reject ∨
      execution.features.preparedOnly = true) (answers : Answers) :
    let gateway := run coordinator platform generations actions
    gateway.launches coordinator platform generations task answers = true ↔
      (∃ call, gateway.workloads.tasks[task]? = some (.ensureReady call .choosing) ∧
        gateway.workloads.workloads.preparedEndpoint call.binding answers.now answers.choice =
          none) ∧
      execution.features.preparedOnly = false ∧ execution.queued = false ∧
      ∃ expected, execution.stage = .ensuring none expected := by
  intro gateway
  obtain ⟨⟨call, ⟨stage, found⟩, features⟩, ⟨claim, expected, place⟩, direct⟩ :=
    (run_coherent actions).callers _ called
  rw [launches_iff coordinator platform generations found, features]
  constructor
  · rintro ⟨rfl, unprepared, permitted⟩
    have reject : execution.target.binding.coldStart = .reject := by
      rcases guarded with reject | forbidden
      · exact reject
      · rw [permitted] at forbidden
        cases forbidden
    obtain ⟨unqueued, placed⟩ := direct reject permitted
    refine ⟨⟨call, found, unprepared⟩, permitted, unqueued, expected, ?_⟩
    rw [place] at placed ⊢
    cases claim with
    | none => rfl
    | some => cases placed
  · rintro ⟨⟨other, placed, unprepared⟩, permitted, _, _⟩
    have same := found.symm.trans placed
    cases same
    exact ⟨rfl, unprepared, permitted⟩

end Gateway

/-! ### A workload that stops between the look at the registry and the call -/

def rejectTarget : Lifecycle.Target where
  deployment := ascii "a"
  upstreamModel := ascii "m"
  protocol := ascii "openai"
  source := .activatable
  controller := ascii "sparkrun"
  binding :=
    { (sampleBinding "a" "1").toBinding with
      coldStart := .reject
      activationTimeout := 10
      maxQueuedWaiters := 1
      maxQueuedBodyBytes := Lifecycle.sampleTarget.binding.maxQueuedBodyBytes }

def rejectOptions : Lifecycle.AdmissionOptions :=
  { Lifecycle.sampleOptions with controllers := [ascii "sparkrun"] }

def rejectCoordinator : AdmissionCoordinator :=
  { Lifecycle.sampleCoordinator with
    controllers := [ascii "sparkrun"]
    targets := [rejectTarget] }

/-- The registration of workload `w`. -/
def registeredEndpoint : Registry.Endpoint where
  id := ascii "aw"
  target := ascii "a"
  baseURL := ascii "http://h/v1"
  protocol := ascii "openai"
  servedModels := [ascii "m"]
  controller := ascii "sparkrun"
  clusterID := ascii "w"
  jobID := ascii "w"
  bindingRevision := ascii "a"
  recipeRevision := ascii "1"
  fencingToken := 1
  state := .ready
  metadata := [(ascii "cluster_name", ascii "c"), (ascii "owned", ascii "true")]

/-- The request sees the workload in the registry, the workload is stopped for idleness, and
then the request calls its controller. -/
def lostReadiness : List GatewayAction :=
  servedOnce.map .workloads ++
    [.admission (.acquire none { deployment := ascii "a", bodyBytes := ⟨0, Lib.int64_zero⟩ }),
      .admission (.advance 0 { registry := some [registeredEndpoint] }),
      .admission (.advance 0 {})] ++
    ([Action.fireIdle (ascii "w") 3] ++
      steps 1 7 { stop := some ⟨.offline, [ascii "w"]⟩ }).map .workloads ++
    [.call 0 0] ++ (steps 2 5 {}).map .workloads

def rejectRun (actions : List GatewayAction) : Gateway :=
  Gateway.run rejectCoordinator samplePlatform (fun _ => sampleGeneration) actions

/-- The callers of a run, as far as they concern cold starts. -/
def Gateway.calls (gateway : Gateway) : List (Nat × Nat × Lifecycle.ColdStartBehavior × Bool) :=
  gateway.callers.map fun caller =>
    (caller.1, caller.2.1, caller.2.2.target.binding.coldStart, caller.2.2.features.preparedOnly)

/-- The registered endpoint is what the controller registered, and the request that saw it
launches a workload that its target forbids. -/
theorem reject_launches_after_idle_stop :
    Lifecycle.newAdmissionCoordinator [rejectTarget] rejectOptions = .ok rejectCoordinator ∧
      ((rejectRun (servedOnce.map .workloads)).workloads.controllers 0).approved.entries.map
        (fun entry => entry.2.endpoint) = [registeredEndpoint] ∧
      (rejectRun lostReadiness).calls = [(2, 0, .reject, false)] ∧
      (rejectRun lostReadiness).launches rejectCoordinator samplePlatform
        (fun _ => sampleGeneration) 2 {} = true := by
  refine ⟨rfl, ?_, ?_, ?_⟩
  · decide +kernel
  · decide +kernel
  · decide +kernel

/-- The request's call carries no `PreparedOnly`, since it never queued. -/
theorem guarded_launch_iff_lost :
    ∃ execution : Execution, (2, 0, execution) ∈ (rejectRun lostReadiness).callers ∧
      execution.target.binding.coldStart = .reject ∧ execution.queued = false ∧
      ∃ expected, execution.stage = .ensuring none expected := by
  have calls : (rejectRun lostReadiness).calls = [(2, 0, .reject, false)] := by
    decide +kernel
  obtain ⟨⟨task, request, execution⟩, member, seen⟩ := List.mem_map.mp
    (calls ▸ List.mem_singleton_self _ :
      (2, 0, Lifecycle.ColdStartBehavior.reject, false) ∈ (rejectRun lostReadiness).calls)
  simp only [Prod.mk.injEq] at seen
  obtain ⟨rfl, rfl, reject, _⟩ := seen
  have launches : (rejectRun lostReadiness).launches rejectCoordinator samplePlatform
      (fun _ => sampleGeneration) 2 {} = true := by
    decide +kernel
  obtain ⟨_, _, unqueued, placed⟩ := (Gateway.guarded_launch_iff rejectCoordinator
    samplePlatform (fun _ => sampleGeneration) lostReadiness 2 0 execution member (.inl reject)
    {}).mp launches
  exact ⟨execution, member, reject, unqueued, placed⟩

end SparkRoute.Sparkrun
