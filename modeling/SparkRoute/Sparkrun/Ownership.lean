import Mathlib.Data.List.Induction
import SparkRoute.Sparkrun.Moves
import SparkRoute.Sparkrun.Serving

/-!
# Automatic stops and ownership

The idle timer is armed for an owned workload, and recovery checks the owner before it drains.
Neither looks at the owner again, so an observation that finds the stop pending and reports the
workload as borrowed comes too late.
-/

namespace SparkRoute.Sparkrun

open Lib List Workloads

variable {platform : Platform} {generations : Nat → Generation}

/-! ### Pending stops -/

namespace Task

/-- The task stops the workload without asking for its owner or its timer again. -/
def intends (id : GoString) : Task → Bool
  | .idle timer (.committed _) => timer.id = id
  | .recovery job stage =>
    match stage with
    | .draining _ | .committing _ | .committed _ => job.id = id
    | _ => false
  | _ => false

/-- The task is the callback of an idle timer that has not found its timer current yet. -/
def awaits (id : GoString) (epoch : Nat) : Task → Bool
  | .idle timer stage =>
    match stage with
    | .fired | .waiting _ | .checking _ => timer.id = id ∧ timer.epoch = epoch
    | _ => false
  | _ => false

def automatic : Task → Bool
  | .idle _ _ | .recovery _ _ => true
  | _ => false

end Task

namespace System

/-- A stop for idleness or by recovery is under way and nothing but a new epoch of the job
keeps it from happening. -/
def Pending (system : System) (id : GoString) : Prop :=
  (∃ task ∈ system.tasks, task.intends id = true) ∨
    ∃ job, system.workloads.jobs.get id = some job ∧
      (job.epoch ∈ job.armed ∨ ∃ task ∈ system.tasks, task.awaits id job.epoch = true)

/-- The workload that the next step of an idle timer or a recovery stops or puts to sleep. -/
def automaticStop (platform : Platform) (generations : Nat → Generation) (system : System)
    (index : Nat) (answers : Answers) : Option GoString :=
  match system.tasks[index]? with
  | none => none
  | some task =>
    if task.automatic ∧ task.stopCall = none then
      (task.advance platform generations system.workloads system.controllers answers
        ).2.2.stopCall
    else none

end System

/-- What the newest observation of the workload said about its owner. -/
def lastObserved (id : GoString) (observations : List (GoString × Bool)) : Option Bool :=
  (observations.find? fun seen => seen.1 = id).map Prod.snd

theorem lastObserved_cons (id : GoString) (seen : GoString × Bool)
    (observations : List (GoString × Bool)) :
    lastObserved id (seen :: observations) =
      if seen.1 = id then some seen.2 else lastObserved id observations := by
  simp only [lastObserved, List.find?_cons]
  split <;> simp_all

variable {id : GoString}

theorem lastObserved_append {newer observations : List (GoString × Bool)}
    (others : ∀ seen ∈ newer, seen.1 ≠ id) :
    lastObserved id (newer ++ observations) = lastObserved id observations := by
  induction newer with
  | nil => rfl
  | cons seen newer ih =>
    rw [cons_append, lastObserved_cons, if_neg (others seen mem_cons_self)]
    exact ih fun other member => others other (mem_cons_of_mem _ member)

/-! ### One job -/

/-- Epochs only grow, and a timer that is armed carries a new one and is for an owned job. -/
structure Workload.Timed (old new : Workload) : Prop where
  epoch : old.epoch ≤ new.epoch
  armed : ∀ epoch ∈ new.armed,
    epoch ∈ old.armed ∨ (old.epoch < epoch ∧ epoch ≤ new.epoch ∧ new.owned = true)

namespace Workload

theorem Kept.timed {old new : Workload} (kept : old.Kept new) : old.Timed new :=
  ⟨kept.epoch, kept.armed⟩

theorem Timed.refl (job : Workload) : job.Timed job := (Kept.refl job).timed

theorem lease_timed (job : Workload) : job.Timed job.lease := by
  have kept := stopTimer_kept
    { job with
      active := job.active + 1
      idleSince := none
      stopped := false
      epoch := job.epoch + 1 }
  refine ⟨(Nat.le_succ _).trans kept.epoch, fun epoch listed => ?_⟩
  rcases kept.armed epoch listed with before | ⟨later, bound, owned⟩
  · exact .inl before
  · exact .inr ⟨(Nat.lt_succ_self _).trans later, bound, owned⟩

end Workload

/-! ### All jobs and what was observed -/

namespace Workloads

/-- A job that no timer was ever armed for. -/
def Unarmed (job : Workload) : Prop := job.armed = [] ∧ job.epoch = 0

/-- What becomes of the jobs when `seen` is what the step observes. -/
structure Observed (before after : Workloads) (seen : Option (GoString × Bool)) : Prop where
  history : after.observations = seen.toList ++ before.observations
  stays : ∀ id old, before.jobs.get id = some old →
    ∃ new, after.jobs.get id = some new ∧ old.Timed new ∧
      ((∀ owned, seen ≠ some (id, owned)) → new.owned = old.owned)
  owner : ∀ id owned, seen = some (id, owned) →
    ∃ new, after.jobs.get id = some new ∧ new.owned = owned
  origin : ∀ id new, before.jobs.get id = none → after.jobs.get id = some new →
    (∃ owned, seen = some (id, owned)) ∧ ∃ old, Unarmed old ∧ old.Timed new

variable {workloads : Workloads}

theorem Observed.of_follows {before after : Workloads}
    (follows : before.jobs.Follows (fun old new => old.Timed new ∧ new.owned = old.owned)
      after.jobs)
    (history : after.observations = before.observations) : before.Observed after none where
  history := history
  stays := by
    intro id old present
    obtain ⟨new, found, timed, owned⟩ := follows.forward present
    exact ⟨new, found, timed, fun _ => owned⟩
  owner := nofun
  origin := by
    intro id new absent present
    obtain ⟨old, found, _⟩ := follows.backward present
    rw [absent] at found
    cases found

theorem Observed.of_kept {before after : Workloads} (kept : before.JobsKept after)
    (history : after.observations = before.observations) : before.Observed after none := by
  refine .of_follows (OrderedMap.Follows.imp ?_ kept) history
  exact fun related => ⟨related.timed, related.owned⟩

theorem acquire_observed (id : GoString) : workloads.Observed (workloads.acquire id) none := by
  refine .of_follows (fun other => ?_) (modifyJob_rest id _).observations
  rw [acquire, modifyJob_get]
  split
  next same =>
    rw [same]
    cases workloads.jobs.get id with
    | none => exact .none
    | some job => exact .some ⟨job.lease_timed, job.lease_revision.2.2.2⟩
  · cases workloads.jobs.get other with
    | none => exact .none
    | some job => exact .some ⟨.refl job, rfl⟩

theorem observe_observed (binding : Binding) (endpoint : Endpoint)
    (lifecycleBridge prepared : Bool) (now : Int) :
    workloads.Observed (workloads.observe binding endpoint lifecycleBridge false prepared now)
      (some (endpoint.workloadID, endpoint.owned)) := by
  obtain ⟨job, kept, placed⟩ :=
    @observe_jobs workloads binding endpoint lifecycleBridge prepared now
  have noted := @noted_found workloads binding endpoint lifecycleBridge prepared now
  have timed : (workloads.found binding endpoint lifecycleBridge).Timed job := by
    refine ⟨noted.epoch ▸ kept.epoch, fun epoch listed => ?_⟩
    rw [← noted.armed, ← noted.epoch]
    exact kept.armed epoch listed
  refine ⟨(observe_rest binding endpoint lifecycleBridge prepared now).2.2.2, ?_, ?_, ?_⟩
  · intro id old present
    rw [placed]
    split
    next same =>
      subst same
      rw [found, present, Option.getD_some] at timed
      exact ⟨job, rfl, timed, fun unseen => absurd rfl (unseen endpoint.owned)⟩
    · exact ⟨old, present, .refl old, fun _ => rfl⟩
  · intro id owned seen
    cases seen
    rw [placed, if_pos rfl]
    exact ⟨job, rfl, kept.owned.trans noted.owned⟩
  · intro id new absent present
    rw [placed] at present
    split at present
    next same =>
      cases present
      subst same
      rw [found, absent, Option.getD_none] at timed
      exact ⟨⟨endpoint.owned, rfl⟩, _, ⟨rfl, rfl⟩, timed⟩
    · rw [absent] at present
      cases present

end Workloads

/-- What entering the section observes. -/
def Section.seen : Section → Option (GoString × Bool)
  | .observe _ endpoint _ _ _ => some (endpoint.workloadID, endpoint.owned)
  | _ => none

theorem Section.enter_observed (workloads : Workloads) (entered : Section) :
    workloads.Observed (entered.enter workloads) entered.seen := by
  cases entered with
  | acquire id => exact acquire_observed id
  | observe binding endpoint lifecycleBridge prepared now =>
    exact observe_observed binding endpoint lifecycleBridge prepared now
  | _ => exact .of_kept (enter_kept workloads rfl rfl) (enter_unobserved workloads rfl).2

/-! ### Tasks -/

variable {workloads : Workloads}

theorem IdleTimer.Moves.intends {timer : IdleTimer} {stage next : IdleStage} {entered : Section}
    (moves : timer.Moves workloads stage entered next)
    (intends : (Task.idle timer next).intends id = true) :
    ∃ job, workloads.jobs.get id = some job ∧
      (Task.idle timer stage).awaits id job.epoch = true := by
  cases moves with
  | commit binding present due =>
    have same := of_decide_eq_true intends
    subst same
    have current := (of_decide_eq_true due).2.1
    exact ⟨_, present, decide_eq_true ⟨rfl, current.symm⟩⟩
  | _ => cases intends

theorem RecoveryJob.Moves.intends {job : RecoveryJob} {state : RecoveryState} {workload : Workload}
    {stage next : RecoveryStage} {entered : Section}
    (moves : job.Moves platform workloads state workload stage entered next)
    (intends : (Task.recovery job next).intends id = true) :
    (Task.recovery job stage).intends id = true ∨
      (job.id = id ∧ workload.owned = true ∧ entered.seen = none) := by
  cases moves with
  | drain binding live owned => exact .inr ⟨of_decide_eq_true intends, owned, rfl⟩
  | drained | linger | attempt => exact .inl intends
  | _ => cases intends

namespace Task

variable {workloads : Workloads} {controllers : Nat → Controller} {answers : Answers} {task : Task}
  {id : GoString}

theorem advance_intends
    (intends : (task.advance platform generations workloads controllers answers).2.2.intends id =
      true) :
    task.intends id = true ∨
      ∃ job, workloads.jobs.get id = some job ∧
        ((job.owned = true ∧
          (task.advance platform generations workloads controllers answers).1.seen = none) ∨
        task.awaits id job.epoch = true) := by
  cases task with
  | ensureReady | stop | control | reconcile => cases intends
  | idle timer stage =>
    obtain ⟨job, present, awaits⟩ :=
      (timer.advance_moves workloads answers stage).intends intends
    exact .inr ⟨job, present, .inr awaits⟩
  | recovery job stage =>
    rcases job.advance_moves platform workloads answers stage with
      still | ⟨state, workload, _, present, moves⟩
    · simp only [advance, still] at intends
      exact .inl intends
    · rcases moves.intends intends with before | ⟨same, owned, unseen⟩
      · exact .inl before
      · exact .inr ⟨workload, same ▸ present, .inl ⟨owned, unseen⟩⟩

theorem advance_awaits {epoch : Nat}
    (awaits : (task.advance platform generations workloads controllers answers).2.2.awaits id
      epoch = true) : task.awaits id epoch = true := by
  cases task with
  | ensureReady | stop | control | reconcile | recovery => cases awaits
  | idle timer stage =>
    have moves := timer.advance_moves workloads answers stage
    simp only [advance] at awaits
    generalize timer.advance workloads answers stage = moved at moves awaits
    obtain ⟨entered, next⟩ := moved
    cases moves with
    | wake | enter | wait => exact awaits
    | _ => cases awaits

/-- An automatic stop is issued by a task that has decided on it. -/
theorem advance_automaticStop (automatic : task.automatic = true) (before : task.stopCall = none)
    (stops : (task.advance platform generations workloads controllers answers).2.2.stopCall = some
      id) : task.intends id = true := by
  cases task with
  | ensureReady | stop | control | reconcile => cases automatic
  | idle timer stage =>
    have moves := timer.advance_moves workloads answers stage
    simp only [advance] at stops
    generalize timer.advance workloads answers stage = moved at moves stops
    obtain ⟨entered, next⟩ := moved
    cases moves with
    | call => exact decide_eq_true (Option.some.inj stops)
    | _ => cases stops
  | recovery job stage =>
    rcases job.advance_moves platform workloads answers stage with
      still | ⟨state, workload, _, _, moves⟩
    · simp only [advance, still, before] at stops
      cases stops
    · simp only [advance] at stops
      generalize job.advance platform workloads answers stage = moved at moves stops
      obtain ⟨entered, next⟩ := moved
      cases moves with
      | issueStop => exact decide_eq_true (Option.some.inj stops)
      | _ => cases stops

end Task

/-! ### Where a pending stop comes from -/

namespace System

/-- Timers carry epochs that their jobs have reached. -/
structure Bounded (system : System) : Prop where
  armed : ∀ id job, system.workloads.jobs.get id = some job →
    ∀ epoch ∈ job.armed, epoch ≤ job.epoch
  timers : ∀ task ∈ system.tasks, ∀ id epoch, task.awaits id epoch = true →
    ∃ job, system.workloads.jobs.get id = some job ∧ epoch ≤ job.epoch

/-- Where the tasks after a step come from, as far as they are about to stop something. -/
structure Origin (before after : System) (seen : Option (GoString × Bool)) : Prop where
  jobs : before.workloads.Observed after.workloads seen
  intends : ∀ task ∈ after.tasks, ∀ id, task.intends id = true →
    before.Pending id ∨
      ∃ job, before.workloads.jobs.get id = some job ∧ job.owned = true ∧ seen = none
  awaits : ∀ task ∈ after.tasks, ∀ id epoch, task.awaits id epoch = true →
    (∃ earlier ∈ before.tasks, earlier.awaits id epoch = true) ∨
      ∃ job, before.workloads.jobs.get id = some job ∧ epoch ∈ job.armed

namespace Origin

variable {before after : System} {seen : Option (GoString × Bool)}

theorem of_tasks (jobs : before.workloads.Observed after.workloads seen)
    (same : after.tasks = before.tasks) : before.Origin after seen where
  jobs := jobs
  intends := fun task member _ intends => .inl (.inl ⟨task, same ▸ member, intends⟩)
  awaits := fun task member _ _ awaits => .inl ⟨task, same ▸ member, awaits⟩

section

variable (origin : before.Origin after seen)

include origin

theorem spawn {task : Task} (undecided : ∀ id, task.intends id = false)
    (awaits : ∀ id epoch, task.awaits id epoch = true → ∃ job, before.workloads.jobs.get id = some
      job ∧ epoch ∈ job.armed) : before.Origin (after.spawn task) seen where
  jobs := origin.jobs
  intends := by
    refine forall_mem_append.mpr ⟨origin.intends, forall_mem_singleton.mpr fun id intends => ?_⟩
    rw [undecided] at intends
    cases intends
  awaits := forall_mem_append.mpr ⟨origin.awaits,
    forall_mem_singleton.mpr fun id epoch waiting => .inr (awaits id epoch waiting)⟩

theorem current {id : GoString} {old new : Workload}
    (present : before.workloads.jobs.get id = some old)
    (found : after.workloads.jobs.get id = some new) (reached : new.epoch ≤ old.epoch) :
    new.epoch = old.epoch := by
  obtain ⟨other, same, timed, _⟩ := origin.jobs.stays id old present
  rw [found] at same
  cases same
  exact le_antisymm reached timed.epoch

theorem armed {id : GoString} {new : Workload} {epoch : Nat}
    (found : after.workloads.jobs.get id = some new) (listed : epoch ∈ new.armed) :
    (∃ old, before.workloads.jobs.get id = some old ∧ old.Timed new ∧ epoch ∈ old.armed) ∨
      (epoch ≤ new.epoch ∧ new.owned = true) := by
  cases present : before.workloads.jobs.get id with
  | none =>
    obtain ⟨_, old, ⟨unarmed, _⟩, timed⟩ := origin.jobs.origin id new present found
    rcases timed.armed epoch listed with earlier | ⟨_, fresh⟩
    · rw [unarmed] at earlier
      cases earlier
    · exact .inr fresh
  | some old =>
    obtain ⟨other, same, timed, _⟩ := origin.jobs.stays id old present
    rw [found] at same
    cases same
    exact (timed.armed epoch listed).imp (fun earlier => ⟨old, rfl, timed, earlier⟩) And.right

theorem bounded (bounded : before.Bounded) : after.Bounded where
  armed := by
    intro id new found epoch listed
    rcases origin.armed found listed with ⟨old, present, timed, earlier⟩ | ⟨bound, _⟩
    · exact (bounded.armed id old present epoch earlier).trans timed.epoch
    · exact bound
  timers := by
    intro task member id epoch awaits
    have reached : ∃ job, before.workloads.jobs.get id = some job ∧ epoch ≤ job.epoch := by
      rcases origin.awaits task member id epoch awaits with
        ⟨earlier, mem, waiting⟩ | ⟨job, present, listed⟩
      · exact bounded.timers earlier mem id epoch waiting
      · exact ⟨job, present, bounded.armed id job present epoch listed⟩
    obtain ⟨old, present, bound⟩ := reached
    obtain ⟨new, found, timed, _⟩ := origin.jobs.stays id old present
    exact ⟨new, found, bound.trans timed.epoch⟩

theorem pending (bounded : before.Bounded) {id : GoString} (pending : after.Pending id) :
    before.Pending id ∨ ∃ job, after.workloads.jobs.get id = some job ∧ job.owned = true := by
  rcases pending with ⟨task, member, intends⟩ | ⟨new, found, listed | ⟨task, member, awaits⟩⟩
  · rcases origin.intends task member id intends with earlier | ⟨old, present, owned, unseen⟩
    · exact .inl earlier
    · obtain ⟨new, found, _, kept⟩ := origin.jobs.stays id old present
      refine .inr ⟨new, found, (kept ?_).trans owned⟩
      rw [unseen]
      nofun
  · rcases origin.armed found listed with ⟨old, present, _, earlier⟩ | ⟨_, owned⟩
    · have same := origin.current present found
        (bounded.armed id old present new.epoch earlier)
      exact .inl (.inr ⟨old, present, .inl (same ▸ earlier)⟩)
    · exact .inr ⟨new, found, owned⟩
  · rcases origin.awaits task member id new.epoch awaits with
      ⟨earlier, mem, waiting⟩ | ⟨old, present, listed⟩
    · obtain ⟨old, present, bound⟩ := bounded.timers earlier mem id new.epoch waiting
      have same := origin.current present found bound
      exact .inl (.inr ⟨old, present, .inr ⟨earlier, mem, same ▸ waiting⟩⟩)
    · have same := origin.current present found
        (bounded.armed id old present new.epoch listed)
      exact .inl (.inr ⟨old, present, .inl (same ▸ listed)⟩)

end

end Origin

/-- Only a task's step observes, and only an idle timer or a recovery intends to stop. -/
theorem step_origin (system : System) (action : Action) :
    ∃ seen, system.Origin (system.step platform generations action) seen := by
  have still : system.Origin system none :=
    .of_tasks (.of_kept (.of_eq rfl) rfl) rfl
  fun_cases step platform generations system action with
  | case1 | case4 | case6 | case8 =>
    exact ⟨none, still.spawn (fun _ => rfl) fun _ _ awaits => absurd awaits Bool.false_ne_true⟩
  | case3 =>
    exact ⟨none, .of_tasks (.of_kept (release_edited _ _ _).jobs
      (release_edited _ _ _).rest.observations) rfl⟩
  | case10 =>
    exact ⟨none, .of_tasks (.of_kept (configure_kept _ _ _)
      (configure_gates _ _ _).2.2) rfl⟩
  | case12 | case14 => exact ⟨none, .of_tasks (.of_kept (.of_eq rfl) rfl) rfl⟩
  | case13 => exact ⟨none, .of_tasks (.of_kept close_kept rfl) rfl⟩
  | case16 id epoch job present listed =>
    have disarmed : system.Origin { system with
        workloads := system.workloads.setJob id
          { job with armed := job.armed.erase epoch } } none :=
      .of_tasks (.of_kept (disarm_kept present epoch) rfl) rfl
    refine ⟨none, disarmed.spawn (fun _ => rfl) ?_⟩
    intro other number awaits
    obtain ⟨rfl, rfl⟩ := of_decide_eq_true awaits
    exact ⟨job, present, listed⟩
  | case19 key epoch id state =>
    have disarmed : system.Origin { system with
        workloads := system.workloads.setRecovery key
          { state with armed := state.armed.erase (epoch, id) } } none :=
      .of_tasks (.of_kept (.of_eq rfl) rfl) rfl
    exact ⟨none, disarmed.spawn (fun _ => rfl) fun _ _ awaits =>
      absurd awaits Bool.false_ne_true⟩
  | case22 index answers task found =>
    have known := mem_of_getElem? found
    refine ⟨_, Section.enter_observed _ _, ?_, ?_⟩
    · intro other member id intends
      rcases mem_or_eq_of_mem_set member with earlier | rfl
      · exact .inl (.inl ⟨other, earlier, intends⟩)
      · rcases Task.advance_intends intends with
          earlier | ⟨job, present, ⟨owned, unseen⟩ | awaits⟩
        · exact .inl (.inl ⟨task, known, earlier⟩)
        · exact .inr ⟨job, present, owned, unseen⟩
        · exact .inl (.inr ⟨job, present, .inr ⟨task, known, awaits⟩⟩)
    · intro other member id epoch awaits
      rcases mem_or_eq_of_mem_set member with earlier | rfl
      · exact .inl ⟨other, earlier, awaits⟩
      · exact .inl ⟨task, known, Task.advance_awaits awaits⟩
  | _ => exact ⟨none, still⟩

/-- A job knows what was last observed of its workload. -/
def Witnessed (system : System) : Prop :=
  ∀ id job, system.workloads.jobs.get id = some job →
    lastObserved id system.workloads.observations = some job.owned

variable {before after : System}

theorem Origin.lastObserved {id : GoString} {owned : Bool}
    (origin : before.Origin after (some (id, owned))) :
    lastObserved id after.workloads.observations = some owned := by
  rw [origin.jobs.history, Option.toList_some, singleton_append, lastObserved_cons, if_pos rfl]

variable {seen : Option (GoString × Bool)}

theorem Origin.unobserved {id : GoString} (origin : before.Origin after seen)
    (others : ∀ entry ∈ seen.toList, entry.1 ≠ id) :
    Sparkrun.lastObserved id after.workloads.observations =
      Sparkrun.lastObserved id before.workloads.observations := by
  rw [origin.jobs.history, lastObserved_append others]

theorem observes_cases (id : GoString) (seen : Option (GoString × Bool)) :
    (∃ owned, seen = some (id, owned)) ∨ ∀ entry ∈ seen.toList, entry.1 ≠ id := by
  cases seen with
  | none => exact .inr nofun
  | some entry =>
    by_cases same : entry.1 = id
    · exact .inl ⟨entry.2, by rw [← same]⟩
    · refine .inr fun other member => ?_
      rw [Option.toList_some, mem_singleton] at member
      rw [member]
      exact same

theorem Origin.witnessed (origin : before.Origin after seen) (witnessed : before.Witnessed) :
    after.Witnessed := by
  intro id new found
  rcases observes_cases id seen with ⟨owned, rfl⟩ | others
  · obtain ⟨other, same, reported⟩ := origin.jobs.owner id owned rfl
    rw [found] at same
    cases same
    rw [origin.lastObserved, reported]
  · have unseen : ∀ owned, seen ≠ some (id, owned) := by
      rintro owned rfl
      exact others (id, owned) mem_cons_self rfl
    rw [origin.unobserved others]
    cases present : before.workloads.jobs.get id with
    | none =>
      obtain ⟨⟨owned, observed⟩, _⟩ := origin.jobs.origin id new present found
      exact absurd observed (unseen owned)
    | some old =>
      obtain ⟨other, same, _, kept⟩ := origin.jobs.stays id old present
      rw [found] at same
      cases same
      rw [witnessed id old present, kept unseen]

theorem run_bounded (actions : List Action) :
    (run platform generations actions).Bounded ∧
      (run platform generations actions).Witnessed := by
  refine @run_invariant System Action (step platform generations)
    (fun system => system.Bounded ∧ system.Witnessed) {} ?_ ?_ actions
  · exact ⟨⟨by rintro _ _ ⟨⟩, by rintro _ ⟨⟩⟩, by rintro _ _ ⟨⟩⟩
  · rintro system action ⟨bounded, witnessed⟩
    obtain ⟨seen, origin⟩ := @step_origin platform generations system action
    exact ⟨origin.bounded bounded, origin.witnessed witnessed⟩

/-- The newest observation of the workload said that it is borrowed, and found a stop of it
pending. -/
def Overlooked (platform : Platform) (generations : Nat → Generation) (actions : List Action)
    (id : GoString) : Prop :=
  ∃ before action after newer, actions = before ++ action :: after ∧
    (run platform generations (before ++ [action])).workloads.observations =
      (id, false) :: (run platform generations before).workloads.observations ∧
    (run platform generations actions).workloads.observations =
      newer ++ (run platform generations (before ++ [action])).workloads.observations ∧
    (∀ seen ∈ newer, seen.1 ≠ id) ∧ (run platform generations before).Pending id

theorem run_concat (actions : List Action) (action : Action) :
    run platform generations (actions ++ [action]) =
      (run platform generations actions).step platform generations action :=
  Lib.run_concat _ _ _ _

/-- A stop that is pending for a borrowed workload was pending when the workload was found to
be borrowed: no step makes it pending later. -/
theorem overlooked_of_pending (actions : List Action) (id : GoString)
    (pending : (run platform generations actions).Pending id)
    (borrowed : lastObserved id (run platform generations actions).workloads.observations =
      some false) : Overlooked platform generations actions id := by
  induction actions using List.reverseRecOn with
  | nil => cases borrowed
  | append_singleton actions action ih =>
    have after := @run_bounded platform generations (actions ++ [action])
    rw [run_concat] at pending borrowed after
    obtain ⟨seen, origin⟩ :=
      @step_origin platform generations (run platform generations actions) action
    have earlier : (run platform generations actions).Pending id := by
      rcases origin.pending (run_bounded actions).1 pending with earlier | ⟨job, found, owned⟩
      · exact earlier
      · rw [after.2 id job found, owned] at borrowed
        cases borrowed
    rcases observes_cases id seen with ⟨owned, rfl⟩ | others
    · rw [origin.lastObserved] at borrowed
      cases borrowed
      refine ⟨actions, action, [], [], rfl, ?_, rfl, nofun, earlier⟩
      rw [run_concat]
      exact origin.jobs.history
    · rw [origin.unobserved others] at borrowed
      obtain ⟨before, observing, rest, newer, split, seenThen, history, quiet, found⟩ :=
        ih earlier borrowed
      refine ⟨before, observing, rest ++ [action], seen.toList ++ newer, ?_, seenThen, ?_, ?_,
        found⟩
      · rw [split, append_assoc, cons_append]
      · rw [run_concat, origin.jobs.history, history, append_assoc]
      · exact forall_mem_append.mpr ⟨others, quiet⟩

end System

theorem borrowed_stop_iff (platform : Platform) (generations : Nat → Generation)
    (actions : List Action) (index : Nat) (answers : Answers) (id : GoString)
    (stops : (System.run platform generations actions).automaticStop platform generations index
      answers = some id) :
    lastObserved id (System.run platform generations actions).workloads.observations =
        some false ↔
      System.Overlooked platform generations actions id := by
  constructor
  · intro borrowed
    refine System.overlooked_of_pending actions id (.inl ?_) borrowed
    unfold System.automaticStop at stops
    split at stops
    · cases stops
    next task found =>
      obtain ⟨idle, stops⟩ := Option.ite_none_right_eq_some.mp stops
      exact ⟨task, mem_of_getElem? found, Task.advance_automaticStop idle.1 idle.2 stops⟩
  · rintro ⟨before, action, after, newer, _, seen, history, others, _⟩
    rw [history, lastObserved_append others, seen, lastObserved_cons, if_pos rfl]

/-- While the idle timer of workload `w` runs, discovery reports `w` as borrowed. -/
def borrowedMeanwhile : List Action :=
  servedOnce ++ [.reconcile 0 [ascii "a", ascii "b"]] ++
    steps 1 12 { discovered := some [sampleEndpoint "w" "1" false], registered := true }

/-- The idle timer that was armed while `w` was owned stops it. -/
theorem borrowed_workload_stopped :
    let system := sampleRun (borrowedMeanwhile ++ [.fireIdle (ascii "w") 3] ++ steps 2 3 {})
    system.automaticStop samplePlatform (fun _ => sampleGeneration) 2 {} =
        some (ascii "w") ∧
      lastObserved (ascii "w") system.workloads.observations = some false := by
  decide +kernel

/-- The observation of the borrowed workload found the timer armed. -/
theorem borrowed_stop_iff_idle :
    System.Overlooked samplePlatform (fun _ => sampleGeneration)
      (borrowedMeanwhile ++ [.fireIdle (ascii "w") 3] ++ steps 2 3 {}) (ascii "w") := by
  refine (borrowed_stop_iff samplePlatform (fun _ => sampleGeneration)
    (borrowedMeanwhile ++ [.fireIdle (ascii "w") 3] ++ steps 2 3 {}) 2 {} (ascii "w") ?_).mp ?_
  · decide +kernel
  · decide +kernel

end SparkRoute.Sparkrun
