import SparkRoute.Sparkrun.Gates

/-!
# Which sections a task enters

`Task.Allows` lists them for every kind of task, with the place in the code from which the ones
that matter are entered.
-/

namespace SparkRoute.Sparkrun

open Lib

/-- The workload that the task grants a lease on with its next step. -/
def Task.granting : Task → Option GoString
  | .ensureReady _ (.granting registration) => some registration.endpoint.clusterID
  | .ensureReady _ (.settling registration) => some registration.endpoint.clusterID
  | _ => none

/-- The sections that every task may enter. -/
def Section.common : Section → Bool
  | .skip | .lock _ | .unlock _ => true
  | _ => false

def EnsureCall.Allows (call : EnsureCall) (stage : EnsureStage) : Section → Prop
  | .prepareManualStart binding => binding = call.binding ∧ stage = .preparing
  | .acquire id => (Task.ensureReady call stage).granting = some id
  | .observe binding endpoint _ _ _ =>
    binding = call.binding ∧ ∃ registration, stage = .observing registration endpoint
  | entered => entered.common = true

def StopStage.allows : Section → Bool
  | .suspend _ | .stopped _ | .finishAction _ => true
  | entered => entered.common

def ControlCall.Allows (call : ControlCall) (place : ControlPlace) : Section → Prop
  | .running _ => True
  | .resetRecovery revision _ =>
    revision = call.target.binding.recipeRevision ∧ ∃ info, place = .resetting info
  | entered => StopStage.allows entered = true

def ReconcileStage.Allows (stage : ReconcileStage) : Section → Prop
  | .observe binding endpoint _ _ _ =>
    ∃ target remaining sweep, binding = target.binding ∧
      stage = .observing target endpoint remaining sweep
  | entered => entered.common = true

def IdleTimer.Allows (timer : IdleTimer) (stage : IdleStage) : Section → Prop
  | .commitIdle id => id = timer.id ∧ ∃ binding, stage = .checking binding
  | .settleIdle id _ => id = timer.id
  | entered => entered.common = true

/-- A recovery works on its own workload and its own recovery state. -/
def RecoveryJob.Allows (job : RecoveryJob) (stage : RecoveryStage) : Section → Prop
  | .observe binding endpoint _ _ _ => stage = .observing binding endpoint
  | .beginRecovery key | .failRecovery key _ | .issueStop key | .restarting key
  | .issueStart key | .backoff key _ | .retry key _ => key = job.key
  | .missDrain key id | .drain key id | .attempt key id _ | .confirmStop key id _ =>
    key = job.key ∧ id = job.id
  | .recovered id => id = job.id
  | entered => entered.common = true

def Task.Allows : Task → Section → Prop
  | .ensureReady call stage => call.Allows stage
  | .stop _ _ => fun entered => StopStage.allows entered = true
  | .control call place => call.Allows place
  | .reconcile _ stage => stage.Allows
  | .idle timer stage => timer.Allows stage
  | .recovery job stage => job.Allows stage

variable (platform : Platform) (workloads : Workloads) (controller : Controller)

theorem EnsureCall.advance_allowed (generation : Generation) (call : EnsureCall)
    (answers : Answers) (stage : EnsureStage) :
    call.Allows stage
      (call.advance platform generation workloads controller answers stage).1 := by
  fun_cases advance platform generation workloads controller call answers stage <;>
    first | rfl | exact ⟨rfl, rfl⟩ | exact ⟨rfl, _, rfl⟩

theorem StopStage.advance_allowed (binding : Binding) (id : GoString) (answers : Answers)
    (stage : StopStage) :
    StopStage.allows (stage.advance controller binding id workloads answers).1 = true := by
  fun_cases advance controller binding id workloads answers stage <;> rfl

theorem StopCall.advance_allowed (call : StopCall) (answers : Answers) (place : StopPlace) :
    StopStage.allows (call.advance workloads controller answers place).1 = true := by
  fun_cases advance workloads controller call answers place <;>
    first | rfl | exact StopStage.advance_allowed workloads controller call.binding _ answers _

theorem ControlCall.Allows.of_stop {call : ControlCall} {place : ControlPlace} {entered : Section}
    (allowed : StopStage.allows entered = true) : call.Allows place entered := by
  cases entered with
  | resetRecovery => cases allowed
  | running => trivial
  | _ => exact allowed

theorem ControlCall.advance_allowed (call : ControlCall) (answers : Answers)
    (place : ControlPlace) :
    call.Allows place (call.advance workloads controller answers place).1 := by
  fun_cases advance workloads controller call answers place <;>
    first
    | rfl
    | trivial
    | exact ⟨rfl, _, rfl⟩
    | exact .of_stop (StopStage.advance_allowed workloads controller call.target.binding
        call.jobID answers _)

theorem ReconcileStage.advance_allowed (generation : Generation) (answers : Answers)
    (stage : ReconcileStage) :
    stage.Allows (stage.advance platform generation workloads controller answers).1 := by
  fun_cases advance platform generation workloads controller answers stage <;>
    first | rfl | exact ⟨_, _, _, rfl, rfl⟩

theorem IdleTimer.advance_allowed (timer : IdleTimer) (answers : Answers) (stage : IdleStage) :
    timer.Allows stage (timer.advance workloads answers stage).1 := by
  fun_cases advance workloads timer answers stage <;> first | rfl | exact ⟨rfl, _, rfl⟩

theorem RecoveryJob.advance_allowed (job : RecoveryJob) (answers : Answers)
    (stage : RecoveryStage) :
    job.Allows stage (job.advance platform workloads answers stage).1 := by
  fun_cases advance platform workloads job answers stage with
  | case1 state workload _ _ =>
    fun_cases proceed platform workloads job answers state workload stage <;>
      first | rfl | exact ⟨rfl, rfl⟩ | (split <;> first | rfl | exact ⟨rfl, rfl⟩)
  | case2 => rfl

theorem Task.advance_allowed (generations : Nat → Generation)
    (controllers : Nat → Controller) (answers : Answers) (task : Task) :
    task.Allows (task.advance platform generations workloads controllers answers).1 := by
  cases task with
  | ensureReady call stage => exact call.advance_allowed platform workloads _ _ answers stage
  | stop call place | control call place => exact call.advance_allowed workloads _ answers place
  | reconcile controller stage => exact stage.advance_allowed platform workloads _ _ answers
  | idle timer stage => exact timer.advance_allowed workloads answers stage
  | recovery job stage => exact job.advance_allowed platform workloads answers stage

end SparkRoute.Sparkrun
