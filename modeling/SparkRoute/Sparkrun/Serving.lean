import SparkRoute.Sparkrun.Coherence
import SparkRoute.Sparkrun.Steps

/-!
# No workload is stopped while it serves

From the check that a job has no active request until the bridge's answer, the task that stops
the job is behind the gate of the job's revision, and so is every task that grants a lease on it.
-/

namespace SparkRoute.Sparkrun

open Lib List Workloads Sparkrun.Task

variable {platform : Platform} {generations : Nat → Generation} {workloads : Workloads}
  {revisionOf : GoString → GoString}

def Workloads.activeAt (workloads : Workloads) (id : GoString) : Nat :=
  ((workloads.jobs.get id).map Workload.active).getD 0

namespace Task

/-- The workload that the task stops or puts to sleep with the call that it is in: the idle
timer, `Stop`, or recovery. -/
def stopCall : Task → Option GoString
  | .stop _ (.locked id .calling) => some id
  | .idle timer (.calling _) => some timer.id
  | .recovery job (.callingStop _) => some job.id
  | _ => none

/-- The workload that the task has found to serve no request and is about to stop. -/
def quiesced : Task → Option GoString
  | .stop _ (.locked id stage) =>
    match stage with
    | .suspending | .marking | .calling => some id
    | _ => none
  | .idle timer stage =>
    match stage with
    | .committed _ | .calling _ => some timer.id
    | _ => none
  | .recovery job stage =>
    match stage with
    | .committing _ | .committed _ | .callingStop _ => some job.id
    | _ => none
  | _ => none

/-- The recipe revision that the task's call of the bridge names: a start, a stop or a lifecycle
action. -/
def callRevision : Task → Option GoString
  | .ensureReady call .launching => some call.binding.recipeRevision
  | .stop call (.locked _ .calling) => some call.binding.recipeRevision
  | .control call (.stopping _ .calling) => some call.target.binding.recipeRevision
  | .control call .calling => some call.target.binding.recipeRevision
  | .idle _ (.calling binding) => some binding.recipeRevision
  | .recovery _ (.callingStop binding) => some binding.recipeRevision
  | .recovery _ (.callingStart binding) => some binding.recipeRevision
  | _ => none

/-! ### Every such task is behind its gate -/

variable {task : Task}

theorem holds_of_callRevision {revision : GoString} (calls : task.callRevision = some revision) :
    task.holds = some revision := by
  unfold callRevision at calls
  split at calls
  case h_8 => cases calls
  all_goals exact calls

theorem Coherent.holds_quiesced {id : GoString} (coherent : task.Coherent revisionOf generations)
    (quiet : task.quiesced = some id) : task.holds = some (revisionOf id) := by
  revert quiet
  fun_cases quiesced task <;> rintro ⟨⟩ <;>
    first
    | exact congrArg some coherent
    | exact congrArg some (coherent.2.1 (coherent.2.2 rfl)).symm

theorem Coherent.holds_granting {id : GoString} (coherent : task.Coherent revisionOf generations)
    (grants : task.granting = some id) : task.holds = some (revisionOf id) := by
  cases task with
  | ensureReady call stage =>
    cases stage with
    | granting registration | settling registration =>
      cases grants
      exact congrArg some coherent.2.symm
    | _ => cases grants
  | _ => cases grants

end Task

/-! ### Counts -/

theorem Workloads.JobsKept.activeAt {before after : Workloads} (kept : before.JobsKept after)
    (id : GoString) : after.activeAt id ≤ before.activeAt id := by
  unfold Workloads.activeAt
  cases present : after.jobs.get id with
  | none => exact Nat.zero_le _
  | some job =>
    obtain ⟨old, there, same⟩ := kept.backward present
    rw [there]
    exact same.active

variable {id : GoString}

theorem Section.enter_activeAt {entered : Section} (other : entered ≠ .acquire id) :
    (entered.enter workloads).activeAt id ≤ workloads.activeAt id := by
  cases entered with
  | acquire leased =>
    have apart : id ≠ leased := fun same => other (same ▸ rfl)
    rw [enter, Workloads.acquire, Workloads.activeAt, modifyJob_get, if_neg apart]
    exact le_rfl
  | observe binding endpoint lifecycleBridge prepared now =>
    obtain ⟨job, kept, jobs⟩ := @Workloads.observe_jobs workloads binding endpoint
      lifecycleBridge prepared now
    have noted := @Workloads.noted_found workloads binding endpoint lifecycleBridge prepared
      now
    rw [enter, Workloads.activeAt, jobs]
    split
    next same =>
      have count := kept.active
      rw [noted.active, Workloads.found] at count
      rw [same, Workloads.activeAt]
      cases present : workloads.jobs.get endpoint.workloadID <;>
        · rw [present] at count
          exact count
    · exact le_rfl
  | _ => exact (enter_kept workloads rfl rfl).activeAt id

/-! ### Steps of one task -/

variable {task : Task} {controllers : Nat → Controller}

theorem Task.advance_acquire {answers : Answers}
    (leases : (task.advance platform generations workloads controllers answers).1 = .acquire id) :
    task.granting = some id := by
  have allowed := task.advance_allowed platform workloads generations controllers answers
  rw [leases] at allowed
  cases task with
  | ensureReady call stage => exact allowed
  | _ => cases allowed

theorem Workloads.activeAt_of_job {job : Workload}
    (present : workloads.jobs.get id = some job) : workloads.activeAt id = job.active := by
  rw [activeAt, present]
  rfl

theorem Workloads.canStop_activeAt (allowed : workloads.canStop id = true) :
    workloads.activeAt id = 0 := by
  unfold canStop at allowed
  split at allowed
  next absent => rw [activeAt, absent]; rfl
  next job present =>
    rw [activeAt_of_job present]
    exact of_decide_eq_true allowed

/-- Before a task commits to a stop, it has seen that the workload serves no request. -/
theorem Task.advance_quiesced {answers : Answers}
    (quiet : (task.advance platform generations workloads controllers answers).2.2.quiesced = some
      id) : task.quiesced = some id ∨ workloads.activeAt id = 0 := by
  revert quiet
  cases task with
  | stop call place =>
    dsimp only [advance]
    fun_cases StopCall.advance workloads (controllers call.controller) call answers place with
    | case6 workload stage _ moved =>
      subst moved
      fun_cases StopStage.advance (controllers call.controller) call.binding workload workloads
        answers stage with
      | case1 passed =>
        rintro ⟨⟩
        exact .inr (canStop_activeAt passed.2)
      | _ => first | exact .inl | (rintro ⟨⟩)
    | _ => rintro ⟨⟩
  | idle timer stage =>
    dsimp only [advance]
    fun_cases IdleTimer.advance workloads timer answers stage with
    | case7 binding job present due =>
      rintro ⟨⟩
      rw [activeAt_of_job present]
      exact .inr (of_decide_eq_true due).2.2.1
    | _ => first | exact .inl | (rintro ⟨⟩)
  | recovery job stage =>
    dsimp only [advance]
    fun_cases RecoveryJob.advance platform workloads job answers stage with
    | case1 state workload present _ =>
      fun_cases RecoveryJob.proceed platform workloads job answers state workload stage with
      | case9 binding _ drained =>
        rintro ⟨⟩
        rw [activeAt_of_job present]
        exact .inr drained
      | _ => first | exact .inl | (rintro ⟨⟩)
    | case2 => exact .inl
  | ensureReady | control | reconcile => rintro ⟨⟩

/-! ### Every run -/

namespace System

/-- A workload that a task is about to stop serves no request. -/
def Quiet (system : System) : Prop :=
  ∀ task ∈ system.tasks, ∀ id, task.quiesced = some id → system.workloads.activeAt id = 0

variable {system : System}

theorem Quiet.append (quiet : system.Quiet) {task : Task} (fresh : task.quiesced = none) :
    (system.spawn task).Quiet := by
  refine forall_mem_append.mpr ⟨quiet, forall_mem_singleton.mpr fun id quiesced => ?_⟩
  rw [fresh] at quiesced
  cases quiesced

theorem Quiet.kept (quiet : system.Quiet) {after : System} (tasks : after.tasks = system.tasks)
    (jobs : system.workloads.JobsKept after.workloads) : after.Quiet := by
  intro task mem id quiesced
  apply Nat.le_zero.mp
  rw [← quiet task (tasks ▸ mem) id quiesced]
  exact jobs.activeAt id

/-- A task that grants a lease on a workload keeps all others from stopping it. -/
theorem granting_apart (exclusive : system.Exclusive)
    (coherent : system.Coherent revisionOf generations) {first second : Nat}
    {granter stopper : Task} {id : GoString} (firstFound : system.tasks[first]? = some granter)
    (secondFound : system.tasks[second]? = some stopper) (grants : granter.granting = some id)
    (stops : stopper.quiesced = some id) : False := by
  have granterHolds := (coherent.tasks granter (mem_of_getElem? firstFound)).holds_granting
    grants
  have stopperHolds := (coherent.tasks stopper (mem_of_getElem? secondFound)).holds_quiesced
    stops
  have same := exclusive.unique firstFound secondFound granterHolds stopperHolds
  subst same
  rw [firstFound] at secondFound
  cases secondFound
  cases granter with
  | ensureReady => cases stops
  | _ => cases grants

theorem advance_quiet (exclusive : system.Exclusive)
    (coherent : system.Coherent revisionOf generations) (quiet : system.Quiet) (index : Nat)
    (answers : Answers) : (system.step platform generations (.advance index answers)).Quiet := by
  dsimp only [step]
  split
  · exact quiet
  next task found =>
    have inside : index < system.tasks.length := (List.getElem?_eq_some_iff.mp found).1
    have still : ∀ id, system.workloads.activeAt id = 0 → task.granting ≠ some id →
        ((task.advance platform generations system.workloads system.controllers answers).1.enter
          system.workloads).activeAt id = 0 := by
      intro id zero apart
      apply Nat.le_zero.mp
      rw [← zero]
      exact Section.enter_activeAt fun leases => apart (advance_acquire leases)
    intro member mem id quiesced
    obtain ⟨position, there⟩ := List.getElem?_of_mem mem
    by_cases same : position = index
    · subst same
      rw [List.getElem?_set_self inside] at there
      cases there
      apply still
      · rcases advance_quiesced quiesced with before | seen
        · exact quiet task (mem_of_getElem? found) id before
        · exact seen
      · -- Only calls of `EnsureReady` grant leases, and they stop nothing.
        intro grants
        cases task with
        | ensureReady => cases quiesced
        | _ => cases grants
    · rw [List.getElem?_set_ne (Ne.symm same)] at there
      apply still
      · exact quiet member (mem_of_getElem? there) id quiesced
      · intro grants
        exact granting_apart exclusive coherent found there grants quiesced

theorem step_quiet (exclusive : system.Exclusive)
    (coherent : system.Coherent revisionOf generations) (quiet : system.Quiet)
    (action : Action) : (system.step platform generations action).Quiet := by
  fun_cases step platform generations system action with
  | case3 => exact quiet.kept rfl (release_edited _ _ _).jobs
  | case10 => exact quiet.kept rfl (configure_kept _ _ _)
  | case13 => exact quiet.kept rfl close_kept
  | case16 id epoch job present armed =>
    refine Quiet.append ?_ rfl
    exact quiet.kept rfl (disarm_kept present epoch)
  | case19 =>
    refine Quiet.append ?_ rfl
    exact quiet.kept rfl (.of_eq rfl)
  | case22 index answers task found =>
    simpa only [step, found] using
      @advance_quiet platform _ _ _ exclusive coherent quiet index answers
  | _ => first | exact quiet | exact quiet.append rfl

theorem run_coherent {actions : List Action}
    (within : ∀ action ∈ actions, action.Coherent revisionOf generations) :
    (run platform generations actions).Coherent revisionOf generations ∧
      (run platform generations actions).Quiet := by
  have all : (run platform generations actions).Exclusive ∧
      (run platform generations actions).Coherent revisionOf generations ∧
      (run platform generations actions).Quiet := by
    refine @run_invariant_of _ _ (step platform generations) _
      (fun system => system.Exclusive ∧ system.Coherent revisionOf generations ∧ system.Quiet)
      {} ⟨@run_exclusive platform generations [],
        initial_coherent, fun _ mem => by cases mem⟩ ?_ _ within
    rintro system action fits ⟨exclusive, coherent, quiet⟩
    exact ⟨step_exclusive exclusive action, step_coherent coherent fits,
      step_quiet exclusive coherent quiet action⟩
  exact all.2

end System

/-! ### Leases -/

theorem Controller.disapprove_granted (controller : Controller) (registration : Registration)
    (prior : Option Registration) :
    (controller.disapprove registration prior).granted = controller.granted := by
  fun_cases disapprove controller registration prior <;> rfl

variable {controller : Controller}

theorem Controller.release_granted {released : Controller} {lease : Lifecycle.Lease}
    (found : controller.release lease = some released) : released.granted = controller.granted := by
  revert found
  fun_cases release controller lease with
  | case1 =>
    intro found
    cases found
  | _ => exact fun found => Option.some.inj found ▸ rfl

theorem EnsureCall.advance_granted (generation : Generation) (controller : Controller)
    (call : EnsureCall) (answers : Answers) (stage : EnsureStage) :
    let moved := call.advance platform generation workloads controller answers stage
    moved.2.1.granted = controller.granted ∨
      ∃ id, (ensureReady call stage).granting = some id ∧
        moved.2.1.granted = id :: controller.granted := by
  fun_cases advance platform generation workloads controller call answers stage <;>
    first
    | exact .inl rfl
    | exact .inr ⟨_, rfl, rfl⟩
    | exact .inl (controller.disapprove_granted _ _)

theorem StopStage.advance_granted (controller : Controller) (binding : Binding) (id : GoString)
    (answers : Answers) (stage : StopStage) :
    (stage.advance controller binding id workloads answers).2.1.granted =
      controller.granted := by
  fun_cases advance controller binding id workloads answers stage <;> rfl

theorem StopCall.advance_granted (controller : Controller) (call : StopCall)
    (answers : Answers) (place : StopPlace) :
    (call.advance workloads controller answers place).2.1.granted = controller.granted := by
  fun_cases advance workloads controller call answers place <;>
    first | rfl | exact StopStage.advance_granted controller call.binding _ answers _

theorem ControlCall.advance_granted (controller : Controller) (call : ControlCall)
    (answers : Answers) (place : ControlPlace) :
    (call.advance workloads controller answers place).2.1.granted = controller.granted := by
  fun_cases advance workloads controller call answers place <;>
    first
    | rfl
    | exact StopStage.advance_granted controller call.target.binding call.jobID answers _

theorem ReconcileStage.advance_granted (generation : Generation) (controller : Controller)
    (answers : Answers) (stage : ReconcileStage) :
    (stage.advance platform generation workloads controller answers).2.1.granted =
      controller.granted := by
  fun_cases advance platform generation workloads controller answers stage <;>
    first
    | rfl
    | exact controller.disapprove_granted _ _
    | (fun_cases Controller.refreshBindingState <;> rfl)

theorem granted_update {controllers : Nat → Controller} {index : Nat} (number : Nat) :
    (Function.update controllers index controller number).granted =
      if number = index then controller.granted else (controllers number).granted := by
  rw [Function.update_apply]
  split <;> rfl

theorem granted_kept {controllers : Nat → Controller} {index : Nat}
    (same : controller.granted = (controllers index).granted) (number : Nat) :
    (Function.update controllers index controller number).granted =
      (controllers number).granted := by
  rw [granted_update]
  split
  next here => rw [here, same]
  · rfl

theorem Task.advance_granted (controllers : Nat → Controller) (answers : Answers) (task : Task)
    (number : Nat) : let moved := task.advance platform generations workloads controllers answers
    (moved.2.1 number).granted = (controllers number).granted ∨
      ∃ id, task.granting = some id ∧
        (moved.2.1 number).granted = id :: (controllers number).granted := by
  cases task with
  | ensureReady call stage =>
    simp only [advance, granted_update]
    split
    next same =>
      rw [same]
      exact call.advance_granted _ _ answers stage
    · exact .inl rfl
  | stop call place | control call place =>
    exact .inl (granted_kept (call.advance_granted _ answers place) number)
  | reconcile index stage =>
    exact .inl (granted_kept (stage.advance_granted _ _ answers) number)
  | idle | recovery => exact .inl rfl

/-- While a workload is being stopped, no step grants a lease on it. -/
theorem System.step_granted {system : System} (exclusive : system.Exclusive)
    (coherent : system.Coherent revisionOf generations) (member : task ∈ system.tasks)
    (quiet : task.quiesced = some id) (action : Action) (number : Nat) :
    ((system.step platform generations action).controllers number).granted.count id =
      (system.controllers number).granted.count id := by
  fun_cases step platform generations system action with
  | case3 index lease outcome now controller found =>
    exact congrArg (List.count id) (granted_kept (Controller.release_granted found) number)
  | case14 index =>
    apply congrArg (List.count id)
    apply granted_kept
    rfl
  | case22 index answers moving found =>
    rcases @advance_granted platform generations system.workloads system.controllers
      answers moving number with same | ⟨granted, grants, cons⟩
    · exact congrArg (List.count id) same
    · -- The lease is on another workload, for this one is about to stop.
      have apart : granted ≠ id := by
        rintro rfl
        obtain ⟨position, there⟩ := List.getElem?_of_mem member
        exact granting_apart exclusive coherent found there grants quiet
      exact (congrArg (List.count id) cons).trans (count_cons_of_ne apart)
  | _ => rfl

/-- When the bridge reports each workload under one recipe revision and calls come with
configured bindings, a workload that the idle timer, `Stop` or recovery is stopping serves no
request and gets no lease until the call returns, and at most one call that changes a workload
is in progress for each revision. -/
theorem stops_only_idle_workloads (platform : Platform) (generations : Nat → Generation)
    (revisionOf : GoString → GoString) (actions : List Action)
    (coherent : ∀ action ∈ actions, action.Coherent revisionOf generations) :
    let system := System.run platform generations actions
    (∀ task ∈ system.tasks, ∀ id, task.stopCall = some id →
      system.workloads.activeAt id = 0 ∧
        ∀ action number,
          ((system.step platform generations action).controllers number).granted.count id =
            (system.controllers number).granted.count id) ∧
      ∀ (first second : Nat) (left right : Task) (revision : GoString),
        system.tasks[first]? = some left → system.tasks[second]? = some right →
        left.callRevision = some revision → right.callRevision = some revision →
        first = second := by
  have exclusive := @System.run_exclusive platform generations actions
  obtain ⟨sound, quiet⟩ := @System.run_coherent platform generations revisionOf actions coherent
  refine ⟨?_, ?_⟩
  · intro task member id stops
    have quiesced : task.quiesced = some id := by
      unfold stopCall at stops
      split at stops
      case h_4 => cases stops
      all_goals exact stops
    refine ⟨quiet task member id quiesced, fun action number => ?_⟩
    exact System.step_granted exclusive sound member quiesced action number
  · intro first second left right revision firstFound secondFound leftCalls rightCalls
    exact exclusive.unique firstFound secondFound (holds_of_callRevision leftCalls)
      (holds_of_callRevision rightCalls)

theorem idleStop_coherent : ∀ action ∈ idleStop,
    action.Coherent (fun _ => ascii "1") fun _ => sampleGeneration := by
  have identified : (sampleAnswers "w" "1").Identified fun _ => ascii "1" := by
    constructor
    · intro result answered endpoint reported
      cases answered
      cases reported
      rfl
    · intro endpoints absent
      cases absent
  intro action member
  simp only [idleStop, servedOnce, steps, mem_append, mem_singleton, mem_replicate] at member
  rcases member with (((rfl | ⟨_, rfl⟩) | rfl) | rfl) | ⟨_, rfl⟩
  · exact ⟨sampleTarget "a" "1", rfl, rfl, rfl, rfl⟩
  · exact identified
  · trivial
  · trivial
  · exact ⟨fun _ absent => (by cases absent), fun _ absent => (by cases absent)⟩

/-- The idle timer of a served workload stops it, and it serves nothing at that time. -/
theorem stops_only_idle_workloads_timer :
    (sampleRun idleStop).tasks.map stopCall = [none, some (ascii "w")] ∧
      (sampleRun idleStop).workloads.activeAt (ascii "w") = 0 := by
  have calls : (sampleRun idleStop).tasks.map stopCall = [none, some (ascii "w")] := by
    decide +kernel
  refine ⟨calls, ?_⟩
  obtain ⟨task, member, stops⟩ := mem_map.mp
    (calls ▸ mem_cons_of_mem _ mem_cons_self :
      some (ascii "w") ∈ (sampleRun idleStop).tasks.map stopCall)
  exact ((stops_only_idle_workloads samplePlatform (fun _ => sampleGeneration)
    (fun _ => ascii "1") idleStop idleStop_coherent).1 task member (ascii "w") stops).1

/-- A bridge that reports one workload under two revisions lets a request through the gate of
the second one while the idle timer stops the workload behind the first. -/
theorem shared_workload_stopped_while_serving :
    let system := sampleRun (idleStop ++ [.ensureReady 0 (sampleBinding "b" "2") {}] ++
      steps 2 13 (sampleAnswers "w" "2"))
    system.tasks.map stopCall = [none, some (ascii "w"), none] ∧
      system.workloads.activeAt (ascii "w") = 1 ∧
      (system.controllers 0).granted = [ascii "w", ascii "w"] := by
  decide +kernel

end SparkRoute.Sparkrun
