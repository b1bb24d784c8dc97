import SparkRoute.Sparkrun.Frames

/-!
# One task per recipe revision

Every call of the bridge that changes a workload is made behind the gate of the recipe revision
it names, so no two of them are in progress for one revision.
-/

namespace SparkRoute.Sparkrun

open Lib

variable {platform : Platform} {workloads : Workloads} {controller : Controller}

/-! ### What a step does to the gates -/

/-- What a task's step may do with the section it enters. -/
abbrev Task.GateStep (workloads : Workloads) (task moved : Task) (entered : Section) : Prop :=
  GateMove Task.holds task moved workloads.gates (entered.enter workloads).gates

namespace Task.GateStep

variable {task moved : Task} {entered : Section}

theorem keep (ungated : entered.ungated = true) (same : moved.holds = task.holds) :
    Task.GateStep workloads task moved entered := by
  rw [Task.GateStep, Section.enter_gates workloads ungated]
  exact .keep same

theorem lock {binding : Binding} (free : (workloads.lock binding).isSome = true)
    (outside : task.holds = none) (inside : moved.holds = some binding.recipeRevision) :
    Task.GateStep workloads task moved (.lock binding) := by
  unfold Workloads.lock at free
  split at free
  · cases free
  next empty =>
    have entered : ((Section.lock binding).enter workloads).gates =
        binding.recipeRevision :: workloads.gates := by
      simp only [Section.enter, Workloads.lock, if_neg empty, Option.getD_some]
    rw [Task.GateStep, entered]
    exact .lock outside inside empty

theorem unlock {binding : Binding} (inside : task.holds = some binding.recipeRevision)
    (outside : moved.holds = none) : Task.GateStep workloads task moved (.unlock binding) :=
  GateMove.unlock inside outside

end Task.GateStep

theorem EnsureCall.advance_gate (generation : Generation) (call : EnsureCall)
    (answers : Answers) (stage : EnsureStage) :
    let moved := call.advance platform generation workloads controller answers stage
    Task.GateStep workloads (.ensureReady call stage) (.ensureReady call moved.2.2) moved.1 := by
  fun_cases advance platform generation workloads controller call answers stage <;>
    first
    | exact .keep rfl rfl
    | exact .lock ‹_› rfl rfl
    | exact .unlock rfl rfl
    | exact .keep rfl (by fun_cases verify <;> rfl)

theorem StopStage.advance_ungated (binding : Binding) (id : GoString) (answers : Answers)
    (stage : StopStage) :
    (stage.advance controller binding id workloads answers).1.ungated = true := by
  fun_cases advance controller binding id workloads answers stage <;> rfl

theorem StopCall.advance_gate (call : StopCall) (answers : Answers) (place : StopPlace) :
    let moved := call.advance workloads controller answers place
    Task.GateStep workloads (.stop call place) (.stop call moved.2.2) moved.1 := by
  fun_cases advance workloads controller call answers place <;>
    first
    | exact .keep rfl rfl
    | exact .lock ‹_› rfl rfl
    | exact .unlock rfl rfl
    | exact .keep (StopStage.advance_ungated call.binding _ answers _) rfl

theorem ControlCall.advance_gate (call : ControlCall) (answers : Answers) (place : ControlPlace) :
    let moved := call.advance workloads controller answers place
    Task.GateStep workloads (.control call place) (.control call moved.2.2) moved.1 := by
  have ending : (Task.control call call.ending).holds =
      some call.target.binding.recipeRevision := by
    unfold ending
    split <;> rfl
  fun_cases advance workloads controller call answers place <;>
    first
    | exact .keep rfl rfl
    | exact .keep rfl ending
    | exact .lock ‹_› rfl rfl
    | exact .unlock rfl rfl
    | exact .keep (StopStage.advance_ungated call.target.binding call.jobID answers _) rfl
    | (split <;> exact .keep rfl rfl)

theorem ReconcileStage.advance_ungated (generation : Generation) (answers : Answers)
    (stage : ReconcileStage) :
    (stage.advance platform generation workloads controller answers).1.ungated = true := by
  fun_cases advance platform generation workloads controller answers stage <;> rfl

theorem IdleTimer.advance_gate (timer : IdleTimer) (answers : Answers) (stage : IdleStage) :
    let moved := timer.advance workloads answers stage
    Task.GateStep workloads (.idle timer stage) (.idle timer moved.2) moved.1 := by
  fun_cases advance workloads timer answers stage <;>
    first
    | exact .keep rfl rfl
    | exact .lock ‹_› rfl rfl
    | exact .unlock rfl rfl

theorem RecoveryJob.proceed_gate (job : RecoveryJob) (answers : Answers)
    (state : RecoveryState) (workload : Workload) (stage : RecoveryStage) :
    let moved := job.proceed platform workloads answers state workload stage
    Task.GateStep workloads (.recovery job stage) (.recovery job moved.2) moved.1 := by
  fun_cases proceed platform workloads job answers state workload stage <;>
    first
    | exact .keep rfl rfl
    | exact .lock ‹_› rfl rfl
    | exact .unlock rfl rfl
    | (split <;> exact .keep rfl rfl)

theorem RecoveryJob.advance_gate (job : RecoveryJob) (answers : Answers) (stage : RecoveryStage) :
    let moved := job.advance platform workloads answers stage
    Task.GateStep workloads (.recovery job stage) (.recovery job moved.2) moved.1 := by
  dsimp only [advance]
  split
  · exact proceed_gate job answers _ _ stage
  · exact .keep rfl rfl

theorem Task.advance_gate (generations : Nat → Generation) (controllers : Nat → Controller)
    (answers : Answers) (task : Task) :
    let moved := task.advance platform generations workloads controllers answers
    Task.GateStep workloads task moved.2.2 moved.1 := by
  cases task with
  | ensureReady call stage => exact call.advance_gate _ answers stage
  | stop call place | control call place => exact call.advance_gate answers place
  | reconcile controller stage =>
    exact .keep (ReconcileStage.advance_ungated _ answers stage) rfl
  | idle timer stage => exact timer.advance_gate answers stage
  | recovery job stage => exact job.advance_gate answers stage

/-! ### Every run -/

namespace System

variable {generations : Nat → Generation}

def Exclusive (system : System) : Prop :=
  Lib.Exclusive Task.holds system.tasks system.workloads.gates

theorem step_exclusive {system : System} (exclusive : system.Exclusive) (action : Action) :
    (system.step platform generations action).Exclusive := by
  fun_cases step platform generations system action with
  | case3 index lease outcome now controller released =>
    rw [Exclusive, (Workloads.release_edited _ _ _).rest.gates]
    exact exclusive
  | case10 targets order now =>
    rw [Exclusive, (Workloads.configure_gates _ _ _).1]
    exact exclusive
  | case22 index answers task found =>
    exact exclusive.move found (task.advance_gate generations system.controllers answers)
  | _ => first | exact exclusive | exact exclusive.append rfl

theorem run_exclusive (actions : List Action) : (run platform generations actions).Exclusive := by
  apply run_invariant
  · exact ⟨.nil, List.nodup_nil⟩
  · intro system action exclusive
    exact step_exclusive exclusive action

end System

end SparkRoute.Sparkrun
