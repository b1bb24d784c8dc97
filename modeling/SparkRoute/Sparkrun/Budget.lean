import Mathlib.Data.List.Induction
import SparkRoute.Sparkrun.Moves
import SparkRoute.Sparkrun.Recoveries
import SparkRoute.Sparkrun.Steps

/-!
# The budget of automatic restarts

A recovery that has not taken its attempt yet was scheduled with a restart left in the budget,
and the policy belongs to its epoch. The calls that an attempt pays for are made behind the gate
of the recipe revision, and so are the resets.
-/

namespace SparkRoute.Sparkrun

open Lib List Workloads RecoveryStage Sparkrun.System RecoveryState Sparkrun.Task

variable {platform : Platform} {generations : Nat → Generation} {workloads : Workloads}

/-! ### Places in a recovery -/

namespace RecoveryStage

def binding : RecoveryStage → Option Binding
  | .fired | .done => none
  | .waiting binding | .checking binding | .draining binding | .expired binding
  | .committing binding | .committed binding | .callingStop binding | .confirming binding _
  | .restarting binding | .starting binding | .callingStart binding | .judging binding _
  | .sleeping binding | .retrying binding | .observing binding _ | .leaving binding =>
    some binding

/-- The next attempt has not been taken from the budget. -/
def unspent : RecoveryStage → Bool
  | .fired | .waiting _ | .checking _ | .draining _ | .committing _ | .sleeping _
  | .retrying _ => true
  | _ => false

/-- The stop that the attempt pays for is still to come. -/
def stopDue : RecoveryStage → Bool
  | .committed _ => true
  | _ => false

/-- The start that the attempt pays for is still to come. -/
def startDue : RecoveryStage → Bool
  | .committed _ | .callingStop _ | .confirming _ _ | .restarting _ | .starting _ => true
  | _ => false

/-- The recovery runs under a context. -/
def begun : RecoveryStage → Bool
  | .fired | .done => false
  | _ => true

variable {stage : RecoveryStage}

theorem startDue_of_stopDue (due : stage.stopDue = true) : stage.startDue = true := by
  cases stage with
  | committed => rfl
  | _ => cases due

theorem startDue_holds (due : stage.startDue = true) (job : RecoveryJob) :
    ∃ binding, stage.binding = some binding ∧
      (recovery job stage).holds = some binding.recipeRevision := by
  cases stage with
  | committed | callingStop | confirming | restarting | starting => exact ⟨_, rfl, rfl⟩
  | _ => cases due

end RecoveryStage

/-! ### What a step of a recovery does to them -/

namespace RecoveryJob.Moves

variable {job : RecoveryJob} {state : RecoveryState} {workload : Workload}
  {stage next : RecoveryStage} {entered : Section}

section

variable (moves : job.Moves platform workloads state workload stage entered next)

include moves

theorem unspent (unspent : next.unspent = true) :
    entered.attempts job.key = false ∧
      (stage.unspent = true ∨ (state.attempts : Int) < state.policy.maxRestarts) := by
  cases moves with
  | begin | enter | wait | drain | drained | linger | wake => exact ⟨rfl, .inl rfl⟩
  | backoff _ _ _ left => exact ⟨rfl, .inr left⟩
  | _ => cases unspent

theorem begun (begun : next.begun = true) :
    stage.begun = true ∨
      (entered = .beginRecovery job.key ∧ job.live workloads state = true) := by
  cases moves with
  | begin live => exact .inr ⟨rfl, live⟩
  | interrupt place =>
    refine .inl ?_
    cases stage with
    | fired | done => cases place
    | _ => rfl
  | stale | missed | cancelled | leave | done => cases begun
  | _ => exact .inl rfl

theorem stopDue (due : next.stopDue = true) : entered.attempts job.key = true := by
  cases moves with
  | attempt => exact decide_eq_true rfl
  | _ => cases due

theorem startDue (due : next.startDue = true) :
    entered.attempts job.key = true ∨
      (stage.startDue = true ∧ ∀ key, entered ≠ .issueStart key) := by
  cases moves with
  | attempt | retry => exact .inl (decide_eq_true rfl)
  | issueStop | stopAnswered | restartConfirmed | restart => exact .inr ⟨rfl, nofun⟩
  | _ => cases due

theorem attempts {key : RecoveryKey} (attempts : entered.attempts key = true) :
    key = job.key ∧ stage.unspent = true ∧ job.live workloads state = true := by
  cases moves with
  | attempt _ _ live | retry _ _ live => exact ⟨(of_decide_eq_true attempts).symm, rfl, live⟩
  | _ => cases attempts

end

theorem binding {binding : Binding}
    (moves : job.Moves platform workloads state workload stage entered next)
    (placed : next.binding = some binding) :
    (∃ earlier, stage.binding = some earlier ∧
      binding.recipeRevision = earlier.recipeRevision) ∨ binding = workload.binding := by
  cases moves with
  | begin => exact .inr (Option.some.inj placed).symm
  | interrupt place =>
    cases placed
    refine .inl ⟨binding, ?_, rfl⟩
    cases stage <;> first | exact place | cases place
  | stale | missed | cancelled | leave | done => cases placed
  | _ =>
    cases placed
    exact .inl ⟨_, rfl, rfl⟩

end RecoveryJob.Moves

/-! ### The invariant -/

structure RecoveryJob.Funded (job : RecoveryJob) (stage : RecoveryStage)
    (state : RecoveryState) : Prop where
  epoch : job.epoch ≤ state.epoch
  fired : ∀ entry ∈ state.armed, entry.1 ≠ job.epoch
  unspent : stage.unspent = true → job.epoch = state.epoch →
    (state.attempts : Int) < state.policy.maxRestarts
  begun : stage.begun = true →
    (job.epoch = state.epoch ∧ state.cancel = some state.epoch) ∨ job.epoch ∈ state.cancelled
  stop : stage.stopDue = true → state.stops < state.attempts
  start : stage.startDue = true → state.starts < state.attempts

/-- The workload of a recovery belongs to its recovery state. -/
structure RecoveryJob.Placed (job : RecoveryJob) (stage : RecoveryStage)
    (jobs : OrderedMap GoString Workload) : Prop where
  workload : ∃ workload, jobs.get job.id = some workload ∧ workload.recoveryKey = job.key
  binding : ∀ binding, stage.binding = some binding →
    binding.recipeRevision = job.key.revision

structure RecoveryState.Budgeted (state : RecoveryState) (key : RecoveryKey)
    (jobs : OrderedMap GoString Workload) : Prop where
  armed : ∀ entry ∈ state.armed, entry.1 ≤ state.epoch ∧
    ∃ workload, jobs.get entry.2 = some workload ∧ workload.recoveryKey = key
  distinct : (state.armed.map Prod.fst).Nodup
  unspent : ∀ entry ∈ state.armed, entry.1 = state.epoch →
    (state.attempts : Int) < state.policy.maxRestarts
  stops : state.stops ≤ state.attempts
  starts : state.starts ≤ state.attempts

/-- Jobs stay, with their recovery keys. -/
def KeysKept (before after : OrderedMap GoString Workload) : Prop :=
  ∀ id old, before.get id = some old →
    ∃ new, after.get id = some new ∧ new.recoveryKey = old.recoveryKey

theorem KeysKept.refl (jobs : OrderedMap GoString Workload) : KeysKept jobs jobs :=
  fun _ old present => ⟨old, present, rfl⟩

theorem Workloads.JobsKept.keys {before after : Workloads} (kept : before.JobsKept after) :
    KeysKept before.jobs after.jobs := by
  intro id old present
  obtain ⟨new, found, related⟩ := kept.forward present
  exact ⟨new, found, related.recoveryKey⟩

theorem Workloads.acquire_keys (id : GoString) :
    KeysKept workloads.jobs (workloads.acquire id).jobs := by
  intro other old present
  rw [acquire, modifyJob_get]
  split
  next same =>
    rw [same] at present
    refine ⟨old.lease, by rw [present]; rfl, ?_⟩
    simp only [Workload.recoveryKey, old.lease_revision.1, old.lease_revision.2.1]
  · exact ⟨old, present, rfl⟩

theorem Workloads.observe_keys (binding : Binding) (endpoint : Endpoint)
    (lifecycleBridge prepared : Bool) (now : Int) :
    KeysKept workloads.jobs
      (workloads.observe binding endpoint lifecycleBridge false prepared now).jobs := by
  obtain ⟨job, kept, placed⟩ :=
    @observe_jobs workloads binding endpoint lifecycleBridge prepared now
  have noted := @noted_found workloads binding endpoint lifecycleBridge prepared now
  intro id old present
  rw [placed]
  split
  next same =>
    subst same
    rw [found, present, Option.getD_some] at noted
    refine ⟨job, rfl, kept.recoveryKey.trans ?_⟩
    simp only [Workload.recoveryKey, noted.revision, noted.cluster]
  · exact ⟨old, present, rfl⟩

theorem Section.enter_keys (workloads : Workloads) (entered : Section) :
    KeysKept workloads.jobs (entered.enter workloads).jobs := by
  cases entered with
  | acquire id => exact acquire_keys id
  | observe binding endpoint lifecycleBridge prepared now =>
    exact observe_keys binding endpoint lifecycleBridge prepared now
  | _ => exact (enter_kept workloads rfl rfl).keys

variable {job : RecoveryJob} {stage : RecoveryStage}

theorem RecoveryJob.Placed.kept {before after : OrderedMap GoString Workload}
    (placed : job.Placed stage before) (kept : KeysKept before after) : job.Placed stage after := by
  obtain ⟨workload, present, same⟩ := placed.workload
  obtain ⟨new, found, key⟩ := kept job.id workload present
  exact ⟨⟨new, found, key.trans same⟩, placed.binding⟩

/-! ### How it survives a change of the recovery state -/

section Changes

variable {old new : RecoveryState} {job : RecoveryJob} {stage : RecoveryStage}
  {entered : Section}

/-- A budget with a restart left keeps it, unless the section takes it. -/
theorem Section.Counts.left {key : RecoveryKey} (counts : entered.Counts key old new)
    (framed : old.Framed new) (still : new.epoch = old.epoch)
    (unattempted : entered.attempts key ≠ true)
    (left : (old.attempts : Int) < old.policy.maxRestarts) :
    (new.attempts : Int) < new.policy.maxRestarts := by
  rw [framed.policy still]
  cases counts with
  | same _ counters => rwa [counters.attempts]
  | attempted enters => exact absurd enters unattempted
  | stopIssued _ attempts | startIssued _ attempts => rwa [attempts]
  | reset _ zero =>
    rw [zero] at still
    exact absurd still (Nat.succ_ne_self _)

theorem Section.Counts.of_attempts {key : RecoveryKey} (counts : entered.Counts key old new)
    (attempts : entered.attempts key = true) : new.attempts = old.attempts + 1 ∧
      new.stops = old.stops ∧ new.starts = old.starts := by
  cases counts with
  | attempted _ more stops starts => exact ⟨more, stops, starts⟩
  | same unattempted =>
    rw [unattempted] at attempts
    cases attempts
  | stopIssued enters | startIssued enters =>
    rw [enters] at attempts
    cases attempts
  | reset enters => cases entered <;> first | cases attempts | cases enters

/-- The stops stay within the attempts, by the same margin as before. -/
theorem Section.Counts.stops_le {key : RecoveryKey} (margin : Nat)
    (counts : entered.Counts key old new) (left : old.stops + margin ≤ old.attempts)
    (stop : entered = .issueStop key → old.stops + margin < old.attempts)
    (reset : entered.resets key = true → margin = 0) : new.stops + margin ≤ new.attempts := by
  cases counts with
  | same _ counters => rwa [counters.attempts, counters.stops]
  | attempted _ attempts stops => omega
  | stopIssued enters attempts stops =>
    have spare := stop enters
    omega
  | startIssued _ attempts stops => omega
  | reset enters zero =>
    rw [zero, reset enters]
    exact le_rfl

theorem Section.Counts.starts_le {key : RecoveryKey} (margin : Nat)
    (counts : entered.Counts key old new) (left : old.starts + margin ≤ old.attempts)
    (start : entered = .issueStart key → old.starts + margin < old.attempts)
    (reset : entered.resets key = true → margin = 0) : new.starts + margin ≤ new.attempts := by
  cases counts with
  | same _ counters => rwa [counters.attempts, counters.starts]
  | attempted _ attempts _ starts | stopIssued _ attempts _ starts => omega
  | startIssued enters attempts _ starts =>
    have spare := start enters
    omega
  | reset enters zero =>
    rw [zero, reset enters]
    exact le_rfl

section

variable (funded : job.Funded stage old)

include funded

theorem RecoveryJob.Funded.begun_framed (framed : old.Framed new) (begun : stage.begun = true) :
    (job.epoch = new.epoch ∧ new.cancel = some new.epoch) ∨ job.epoch ∈ new.cancelled := by
  rcases funded.begun begun with ⟨same, current⟩ | listed
  · rcases framed.epoch.lt_or_eq with later | still
    · exact .inr (same ▸ framed.bumped later current)
    · exact .inl ⟨same.trans still, framed.cancel still.symm current⟩
  · exact .inr (framed.cancelled _ listed)

/-- A recovery whose epoch is current after a step was so before it. -/
theorem RecoveryJob.Funded.still (framed : old.Framed new) (current : job.epoch = new.epoch) :
    new.epoch = old.epoch :=
  le_antisymm (current ▸ funded.epoch) framed.epoch

variable {state : RecoveryState}

/-- What a section of one task leaves to the recoveries of others: the live recovery is the one
that attempts, and nobody else is behind the gate of a task that calls or resets. -/
theorem RecoveryJob.Funded.counts (framed : old.Framed new)
    (counts : entered.Counts job.key old new)
    (single : entered.attempts job.key = true → job.epoch ≠ old.epoch)
    (gated : entered = .issueStop job.key ∨ entered = .issueStart job.key ∨ entered.resets job.key
      = true → stage.startDue = false) : job.Funded stage new := by
  have undue : (entered = .issueStop job.key ∨ entered = .issueStart job.key ∨
      entered.resets job.key = true) → ∀ {claim : Prop}, stage.startDue = true → claim := by
    intro acts claim due
    rw [gated acts] at due
    cases due
  refine ⟨funded.epoch.trans framed.epoch, fun entry listed =>
    funded.fired entry (framed.armed.subset listed), ?_, funded.begun_framed framed, ?_, ?_⟩
  · intro unspent current
    have still := funded.still framed current
    exact counts.left framed still (fun enters => single enters (current.trans still))
      (funded.unspent unspent (current.trans still))
  · intro due
    have starts := startDue_of_stopDue due
    exact counts.stops_le 1 (funded.stop due) (fun enters => undue (.inl enters) starts)
      fun enters => undue (.inr (.inr enters)) starts
  · intro due
    exact counts.starts_le 1 (funded.start due) (fun enters => undue (.inr (.inl enters)) due)
      fun enters => undue (.inr (.inr enters)) due

theorem RecoveryJob.Funded.calm (calm : old.Calm new) : job.Funded stage new :=
  @counts old new job stage .skip funded calm.framed (.same rfl calm.counters) nofun
    (by rintro (acts | acts | acts) <;> cases acts)

theorem RecoveryJob.Funded.scheduled {id : GoString}
    (scheduled : RecoveryState.Scheduled id old new) : job.Funded stage new where
  epoch := scheduled.epoch ▸ funded.epoch.trans (Nat.le_succ _)
  fired := by
    rw [scheduled.armed]
    exact forall_mem_append.mpr
      ⟨funded.fired, forall_mem_singleton.mpr (Nat.lt_succ_of_le funded.epoch).ne'⟩
  unspent := by
    intro _ current
    rw [scheduled.epoch] at current
    exact absurd current (Nat.lt_succ_of_le funded.epoch).ne
  begun := by
    intro begun
    rcases funded.begun begun with ⟨_, current⟩ | listed
    · rw [scheduled.unbegun] at current
      cases current
    · exact .inr (scheduled.cancelled ▸ listed)
  stop := by
    rw [scheduled.counters.attempts, scheduled.counters.stops]
    exact funded.stop
  start := by
    rw [scheduled.counters.attempts, scheduled.counters.starts]
    exact funded.start

end

variable {key : RecoveryKey} {jobs later : OrderedMap GoString Workload}

theorem RecoveryState.Fresh.budgeted (fresh : new.Fresh) : new.Budgeted key jobs where
  armed := by
    rw [fresh.armed]
    nofun
  distinct := by
    rw [fresh.armed]
    exact .nil
  unspent := by
    rw [fresh.armed]
    nofun
  stops := by rw [fresh.stops, fresh.attempts]
  starts := by rw [fresh.starts, fresh.attempts]

theorem RecoveryState.Budgeted.counts (budgeted : old.Budgeted key jobs) (framed : old.Framed new)
    (counts : entered.Counts key old new) (kept : KeysKept jobs later)
    (single : entered.attempts key = true → ∀ entry ∈ old.armed, entry.1 ≠ old.epoch)
    (stop : entered = .issueStop key → old.stops < old.attempts)
    (start : entered = .issueStart key → old.starts < old.attempts) : new.Budgeted key later := by
  refine ⟨?_, ?_, ?_, ?_, ?_⟩
  · intro entry listed
    obtain ⟨bound, workload, present, same⟩ := budgeted.armed entry (framed.armed.subset listed)
    obtain ⟨moved, found, kept⟩ := kept entry.2 workload present
    exact ⟨bound.trans framed.epoch, moved, found, kept.trans same⟩
  · exact budgeted.distinct.sublist (framed.armed.map Prod.fst)
  · intro entry listed current
    have known := framed.armed.subset listed
    have still : new.epoch = old.epoch :=
      le_antisymm (current ▸ (budgeted.armed entry known).1) framed.epoch
    exact counts.left framed still
      (fun enters => single enters entry known (current.trans still))
      (budgeted.unspent entry known (current.trans still))
  · exact counts.stops_le 0 budgeted.stops stop fun _ => rfl
  · exact counts.starts_le 0 budgeted.starts start fun _ => rfl

theorem RecoveryState.Budgeted.calm (budgeted : old.Budgeted key jobs) (calm : old.Calm new)
    (kept : KeysKept jobs later) : new.Budgeted key later :=
  @counts old new .skip key jobs later budgeted calm.framed (.same rfl calm.counters) kept
    nofun nofun nofun

theorem RecoveryState.Budgeted.scheduled {id : GoString} (budgeted : old.Budgeted key jobs)
    (scheduled : RecoveryState.Scheduled id old new) (kept : KeysKept jobs later)
    (governs : ∃ job, jobs.get id = some job ∧ job.recoveryKey = key) : new.Budgeted key later := by
  have older : ∀ entry ∈ old.armed, entry.1 < old.epoch + 1 :=
    fun entry listed => Nat.lt_succ_of_le (budgeted.armed entry listed).1
  refine ⟨?_, ?_, ?_, ?_, ?_⟩
  · intro entry listed
    rw [scheduled.armed] at listed
    rw [scheduled.epoch]
    have workload : ∃ workload, jobs.get entry.2 = some workload ∧ workload.recoveryKey = key := by
      rcases mem_append.mp listed with earlier | last
      · exact (budgeted.armed entry earlier).2
      · rw [mem_singleton.mp last]
        exact governs
    obtain ⟨workload, present, same⟩ := workload
    obtain ⟨moved, found, kept⟩ := kept entry.2 workload present
    refine ⟨?_, moved, found, kept.trans same⟩
    rcases mem_append.mp listed with earlier | last
    · exact (older entry earlier).le
    · rw [mem_singleton.mp last]
  · rw [scheduled.armed, map_append, map_singleton]
    refine nodup_append.mpr ⟨budgeted.distinct, nodup_singleton _, ?_⟩
    intro earlier listed last single
    obtain ⟨entry, member, rfl⟩ := mem_map.mp listed
    rw [mem_singleton.mp single]
    exact (older entry member).ne
  · intro entry _ _
    rw [scheduled.policy, scheduled.counters.attempts]
    exact scheduled.left
  · rw [scheduled.counters.attempts, scheduled.counters.stops]
    exact budgeted.stops
  · rw [scheduled.counters.attempts, scheduled.counters.starts]
    exact budgeted.starts

end Changes

/-! ### How it survives a step of the recovery itself -/

theorem RecoveryJob.live_epoch (live : job.live workloads state = true) : job.epoch = state.epoch :=
  (of_decide_eq_true live).2.symm

variable {entered : Section} {workload : Workload} {next : RecoveryStage}

theorem RecoveryJob.Moves.funded {old new : RecoveryState} {key : RecoveryKey}
    {jobs : OrderedMap GoString Workload}
    (moves : job.Moves platform workloads old workload stage entered next)
    (funded : job.Funded stage old) (budgeted : old.Budgeted key jobs) (framed : old.Framed new)
    (counts : entered.Counts job.key old new) (begins : entered = .beginRecovery job.key →
      new.epoch = old.epoch ∧ new.cancel = some new.epoch) : job.Funded next new := by
  refine ⟨funded.epoch.trans framed.epoch, fun entry listed =>
    funded.fired entry (framed.armed.subset listed), ?_, ?_, ?_, ?_⟩
  · intro unspent current
    have still := funded.still framed current
    obtain ⟨unattempted, left⟩ := moves.unspent unspent
    refine counts.left framed still (by rw [unattempted]; nofun) ?_
    exact left.elim (fun unspent => funded.unspent unspent (current.trans still)) fun left => left
  · intro begun
    rcases moves.begun begun with earlier | ⟨enters, live⟩
    · exact funded.begun_framed framed earlier
    · obtain ⟨still, current⟩ := begins enters
      exact .inl ⟨(RecoveryJob.live_epoch live).trans still.symm, current⟩
  · intro due
    obtain ⟨more, stops, _⟩ := counts.of_attempts (moves.stopDue due)
    have bounded := budgeted.stops
    omega
  · intro due
    rcases moves.startDue due with attempts | ⟨earlier, other⟩
    · obtain ⟨more, _, starts⟩ := counts.of_attempts attempts
      have bounded := budgeted.starts
      omega
    · refine counts.starts_le 1 (funded.start earlier) (fun enters => absurd enters (other _)) ?_
      cases moves <;> nofun

/-! ### Which task acts on a budget -/

namespace Task

variable {controllers : Nat → Controller} {answers : Answers} {key : RecoveryKey} {task : Task}

/-- Attempts and the calls that they pay for are steps of a recovery. -/
theorem advance_spends
    (acted : (task.advance platform generations workloads controllers answers).1 = entered)
    (spends : entered.attempts key = true ∨ entered = .issueStop key ∨ entered = .issueStart key) :
    ∃ job stage next state workload, task = .recovery job stage ∧
      workloads.recoveries.get job.key = some state ∧
      job.Moves platform workloads state workload stage entered next := by
  have allowed := advance_allowed platform workloads generations controllers answers task
  rw [acted] at allowed
  cases task with
  | recovery job stage =>
    rcases job.advance_moves platform workloads answers stage with
      still | ⟨state, workload, present, _, moves⟩
    · simp only [advance, still] at acted
      subst acted
      rcases spends with spends | spends | spends <;> cases spends
    · simp only [advance] at acted
      rw [acted] at moves
      exact ⟨job, stage, _, state, workload, rfl, present, moves⟩
  | ensureReady | stop | control | reconcile | idle =>
    rcases spends with attempts | rfl | rfl
    · cases entered <;> first | cases attempts | cases allowed
    · cases allowed
    · cases allowed

theorem advance_attempts
    (attempts : (task.advance platform generations workloads controllers answers).1.attempts key =
      true) :
    ∃ job stage state, task = .recovery job stage ∧ job.key = key ∧ stage.unspent = true ∧
      workloads.recoveries.get key = some state ∧ job.epoch = state.epoch := by
  obtain ⟨job, stage, _, state, _, same, present, moves⟩ := advance_spends rfl (.inl attempts)
  obtain ⟨rfl, unspent, live⟩ := moves.attempts attempts
  exact ⟨job, stage, state, same, rfl, unspent, present, RecoveryJob.live_epoch live⟩

theorem advance_issueStop
    (issues : (task.advance platform generations workloads controllers answers).1 =
      .issueStop key) :
    ∃ job stage, task = .recovery job stage ∧ job.key = key ∧ stage.stopDue = true := by
  obtain ⟨job, stage, _, _, _, same, _, moves⟩ := advance_spends issues (.inr (.inl rfl))
  cases moves
  exact ⟨job, _, same, rfl, rfl⟩

theorem advance_issueStart
    (issues : (task.advance platform generations workloads controllers answers).1 =
      .issueStart key) :
    ∃ job stage, task = .recovery job stage ∧ job.key = key ∧ stage.startDue = true := by
  obtain ⟨job, stage, _, _, _, same, _, moves⟩ := advance_spends issues (.inr (.inr rfl))
  cases moves
  exact ⟨job, _, same, rfl, rfl⟩

/-- Budgets are reset behind the gate of their revision, and not by recovery. -/
theorem advance_resets
    (resets : (task.advance platform generations workloads controllers answers).1.resets key =
      true) : task.holds = some key.revision ∧ ∀ job stage, task ≠ .recovery job stage := by
  have allowed := advance_allowed platform workloads generations controllers answers task
  revert resets allowed
  generalize (advance platform generations workloads controllers answers _).1 = entered
  intro resets allowed
  cases entered with
  | prepareManualStart binding =>
    have same := of_decide_eq_true resets
    cases task with
    | ensureReady call stage =>
      obtain ⟨rfl, rfl⟩ := allowed
      exact ⟨by rw [same]; rfl, fun _ _ equal => by cases equal⟩
    | _ => cases allowed
  | resetRecovery revision cluster =>
    have same := of_decide_eq_true resets
    cases task with
    | control call place =>
      obtain ⟨rfl, info, rfl⟩ := allowed
      exact ⟨by rw [same]; rfl, fun _ _ equal => by cases equal⟩
    | _ => cases allowed
  | _ => cases resets

end Task

/-! ### Steps and runs -/

namespace System

structure Budgeted (system : System) : Prop where
  states : ∀ key state, system.workloads.recoveries.get key = some state →
    state.Budgeted key system.workloads.jobs
  tasks : ∀ job stage, .recovery job stage ∈ system.tasks →
    job.Placed stage system.workloads.jobs ∧
      ∃ state, system.workloads.recoveries.get job.key = some state ∧ job.Funded stage state
  unique : ∀ (first second : Nat) (left right : RecoveryJob)
    (leftStage rightStage : RecoveryStage),
    system.tasks[first]? = some (.recovery left leftStage) →
    system.tasks[second]? = some (.recovery right rightStage) →
    left.key = right.key → left.epoch = right.epoch → first = second

namespace Budgeted

variable {system after : System}

theorem judged (budgeted : system.Budgeted) {id : GoString}
    (recovers : Recovers (fun key => Workloads.Judges id key system.workloads.jobs)
      system.workloads.recoveries after.workloads.recoveries)
    (kept : KeysKept system.workloads.jobs after.workloads.jobs)
    (same : after.tasks = system.tasks) : after.Budgeted where
  states := by
    intro key new found
    cases present : system.workloads.recoveries.get key with
    | none => exact (recovers.fresh key new present found).budgeted
    | some old =>
      obtain ⟨other, reached, judged⟩ := recovers.stays key old present
      rw [found] at reached
      cases reached
      rcases judged with calm | ⟨scheduled, governs⟩
      · exact (budgeted.states key old present).calm calm kept
      · exact (budgeted.states key old present).scheduled scheduled kept governs
  tasks := by
    intro job stage member
    rw [same] at member
    obtain ⟨placed, old, present, funded⟩ := budgeted.tasks job stage member
    obtain ⟨new, found, judged⟩ := recovers.stays job.key old present
    refine ⟨placed.kept kept, new, found, ?_⟩
    rcases judged with calm | ⟨scheduled, _⟩
    · exact funded.calm calm
    · exact funded.scheduled scheduled
  unique := by
    rw [same]
    exact budgeted.unique

theorem calm (budgeted : system.Budgeted)
    (recovers : Recovers Calmly system.workloads.recoveries after.workloads.recoveries)
    (kept : KeysKept system.workloads.jobs after.workloads.jobs)
    (same : after.tasks = system.tasks) : after.Budgeted := by
  have judged : Recovers (fun key => Workloads.Judges [] key system.workloads.jobs)
      system.workloads.recoveries after.workloads.recoveries := recovers.imp .inl
  exact budgeted.judged judged kept same

variable {task : Task}

theorem spawned {index : Nat} {listed : Task}
    (found : (system.spawn task).tasks[index]? = some listed) :
    system.tasks[index]? = some listed ∨ index = system.tasks.length ∧ listed = task := by
  dsimp only [spawn] at found
  rw [List.getElem?_append, List.getElem?_singleton] at found
  split at found
  · exact .inl found
  · split at found
    · exact .inr ⟨by omega, (Option.some.inj found).symm⟩
    · cases found

theorem spawn (budgeted : system.Budgeted)
    (other : ∀ job stage, task ≠ .recovery job stage) : (system.spawn task).Budgeted where
  states := budgeted.states
  tasks := by
    intro job stage member
    rcases mem_append.mp member with earlier | last
    · exact budgeted.tasks job stage earlier
    · exact absurd (mem_singleton.mp last).symm (other job stage)
  unique := by
    intro first second left right leftStage rightStage leftFound rightFound
    have earlier {index : Nat} {job : RecoveryJob} {stage : RecoveryStage}
        (found : (system.spawn task).tasks[index]? = some (.recovery job stage)) :
        system.tasks[index]? = some (.recovery job stage) :=
      (spawned found).resolve_right fun last => other job stage last.2.symm
    exact budgeted.unique first second left right leftStage rightStage (earlier leftFound)
      (earlier rightFound)

variable {index : Nat}

theorem acting_holds (budgeted : system.Budgeted) {answers : Answers}
    {key : RecoveryKey} (found : system.tasks[index]? = some task)
    (acts : (task.advance platform generations system.workloads system.controllers answers).1 =
        .issueStop key ∨
      (task.advance platform generations system.workloads system.controllers answers).1 =
        .issueStart key ∨
      (task.advance platform generations system.workloads system.controllers answers).1.resets
        key = true) : task.holds = some key.revision := by
  have calls {job : RecoveryJob} {stage : RecoveryStage} (same : task = .recovery job stage)
      (own : job.key = key) (due : stage.startDue = true) : task.holds = some key.revision := by
    subst same
    obtain ⟨placed, _⟩ := budgeted.tasks job stage (mem_of_getElem? found)
    obtain ⟨binding, at_stage, holds⟩ := startDue_holds due job
    rw [holds, placed.binding binding at_stage, own]
  rcases acts with issues | issues | resets
  · obtain ⟨job, stage, same, own, due⟩ := advance_issueStop issues
    exact calls same own (startDue_of_stopDue due)
  · obtain ⟨job, stage, same, own, due⟩ := advance_issueStart issues
    exact calls same own due
  · exact (advance_resets resets).1

variable {stage : RecoveryStage}

theorem recovery_of_set {other : Nat} {answers : Answers} (found : system.tasks[index]? = some task)
    (listed : (system.tasks.set index (task.advance platform generations system.workloads
      system.controllers answers).2.2)[other]? = some (.recovery job stage)) :
    ∃ earlier, system.tasks[other]? = some (.recovery job earlier) ∧
      (other = index → task = .recovery job earlier ∧
        stage = (job.advance platform system.workloads answers earlier).2) ∧
      (other ≠ index → stage = earlier) := by
  by_cases same : other = index
  · subst same
    rw [List.getElem?_set_self (List.getElem?_eq_some_iff.mp found).1] at listed
    cases task with
    | recovery acting place =>
      obtain ⟨rfl, rfl⟩ := listed
      exact ⟨place, found, fun _ => ⟨rfl, rfl⟩, fun differs => absurd rfl differs⟩
    | ensureReady | stop | control | reconcile | idle => cases listed
  · rw [List.getElem?_set_ne (Ne.symm same)] at listed
    exact ⟨stage, listed, fun equal => absurd equal same, fun _ => rfl⟩

section

variable (budgeted : system.Budgeted)

include budgeted

theorem advance_states (found : system.tasks[index]? = some task) (answers : Answers)
    (key : RecoveryKey) (new : RecoveryState)
    (reached : ((task.advance platform generations system.workloads system.controllers
      answers).1.enter system.workloads).recoveries.get key = some new) :
    new.Budgeted key ((task.advance platform generations system.workloads system.controllers
      answers).1.enter system.workloads).jobs := by
  generalize acted : (task.advance platform generations system.workloads system.controllers
    answers).1 = entered at reached ⊢
  have recovers := entered.enter_counts system.workloads
  cases present : system.workloads.recoveries.get key with
  | none => exact (recovers.fresh key new present reached).budgeted
  | some old =>
    obtain ⟨other, same, framed, counts⟩ := recovers.stays key old present
    rw [reached] at same
    cases same
    have funded {job : RecoveryJob} {stage : RecoveryStage} (same : task = .recovery job stage)
        (own : job.key = key) : job.Funded stage old := by
      subst same own
      obtain ⟨_, state, known, funded⟩ := budgeted.tasks job stage (mem_of_getElem? found)
      rw [present] at known
      cases known
      exact funded
    refine (budgeted.states key old present).counts framed counts
      (entered.enter_keys system.workloads) ?_ ?_ ?_
    · intro attempts
      rw [← acted] at attempts
      obtain ⟨job, stage, state, same, own, _, known, current⟩ := advance_attempts attempts
      rw [present] at known
      cases known
      exact current ▸ (funded same own).fired
    · intro issues
      rw [← acted] at issues
      obtain ⟨job, stage, same, own, due⟩ := advance_issueStop issues
      exact (funded same own).stop due
    · intro issues
      rw [← acted] at issues
      obtain ⟨job, stage, same, own, due⟩ := advance_issueStart issues
      exact (funded same own).start due

theorem advance_self (found : system.tasks[index]? = some (.recovery job stage))
    (answers : Answers) : let moved := job.advance platform system.workloads answers stage
    job.Placed moved.2 (moved.1.enter system.workloads).jobs ∧
      ∃ state, (moved.1.enter system.workloads).recoveries.get job.key = some state ∧
        job.Funded moved.2 state := by
  obtain ⟨placed, old, present, funded⟩ :=
    budgeted.tasks job stage (mem_of_getElem? found)
  rcases job.advance_moves platform system.workloads answers stage with
    still | ⟨state, workload, known, owned, moves⟩
  · rw [still]
    exact ⟨placed, old, present, funded⟩
  · rw [present] at known
    cases known
    generalize job.advance platform system.workloads answers stage = moved at moves ⊢
    obtain ⟨entered, next⟩ := moved
    obtain ⟨new, reached, framed, counts⟩ :=
      (entered.enter_counts system.workloads).stays job.key old present
    refine ⟨?_, new, reached, ?_⟩
    · refine RecoveryJob.Placed.kept ⟨placed.workload, fun binding listed => ?_⟩
        (entered.enter_keys system.workloads)
      rcases moves.binding listed with ⟨earlier, at_stage, same⟩ | rfl
      · rw [same]
        exact placed.binding earlier at_stage
      · obtain ⟨other, same, key⟩ := placed.workload
        rw [owned] at same
        cases same
        rw [← key]
        rfl
    · refine moves.funded funded (budgeted.states job.key old present) framed counts ?_
      rintro rfl
      simp only [Section.enter, Workloads.modifyRecovery, present, Workloads.setRecovery,
        OrderedMap.get_insert_same, Option.some.injEq] at reached
      subst reached
      exact ⟨rfl, rfl⟩

theorem advance_other (exclusive : system.Exclusive) {other : Nat}
    (found : system.tasks[index]? = some task)
    (listed : system.tasks[other]? = some (.recovery job stage)) (differs : other ≠ index)
    (answers : Answers) : let entered :=
      (task.advance platform generations system.workloads system.controllers answers).1
    job.Placed stage (entered.enter system.workloads).jobs ∧
      ∃ state, (entered.enter system.workloads).recoveries.get job.key = some state ∧
        job.Funded stage state := by
  intro entered
  obtain ⟨placed, old, present, funded⟩ :=
    budgeted.tasks job stage (mem_of_getElem? listed)
  obtain ⟨new, reached, framed, counts⟩ :=
    (entered.enter_counts system.workloads).stays job.key old present
  refine ⟨placed.kept (entered.enter_keys system.workloads), new, reached,
    funded.counts framed counts ?_ ?_⟩
  · intro attempts current
    obtain ⟨acting, place, state, rfl, own, _, known, live⟩ := advance_attempts attempts
    rw [present] at known
    cases known
    exact differs (budgeted.unique other index job acting stage place listed found own.symm
      (current.trans live.symm))
  · intro acts
    by_contra due
    rw [Bool.not_eq_false] at due
    obtain ⟨binding, at_stage, holds⟩ := startDue_holds due job
    rw [placed.binding binding at_stage] at holds
    exact differs (exclusive.unique listed found holds (budgeted.acting_holds found acts))

theorem advance (exclusive : system.Exclusive) (found : system.tasks[index]? = some task)
    (answers : Answers) :
    let moved := task.advance platform generations system.workloads system.controllers answers
    System.Budgeted
      { workloads := moved.1.enter system.workloads
        controllers := moved.2.1
        tasks := system.tasks.set index moved.2.2 } where
  states := budgeted.advance_states found answers
  tasks := by
    intro job stage member
    obtain ⟨other, listed⟩ := mem_iff_getElem?.mp member
    obtain ⟨earlier, known, self, rest⟩ := recovery_of_set found listed
    by_cases same : other = index
    · obtain ⟨rfl, rfl⟩ := self same
      exact budgeted.advance_self found answers
    · obtain rfl := rest same
      exact budgeted.advance_other exclusive found known same answers
  unique := by
    intro first second left right leftStage rightStage leftFound rightFound
    obtain ⟨_, leftKnown, _⟩ := recovery_of_set found leftFound
    obtain ⟨_, rightKnown, _⟩ := recovery_of_set found rightFound
    exact budgeted.unique first second left right _ _ leftKnown rightKnown

/-- A timer that fires is gone, and its recovery is the only one of its epoch. -/
theorem fire {key : RecoveryKey} {epoch : Nat} {id : GoString}
    (present : system.workloads.recoveries.get key = some state)
    (listed : (epoch, id) ∈ state.armed) :
    ({ system with
        workloads := system.workloads.setRecovery key
          { state with armed := state.armed.erase (epoch, id) } }.spawn
      (.recovery ⟨id, key, epoch⟩ .fired)).Budgeted := by
  have known := budgeted.states key state present
  have disarmed : System.Budgeted { system with
      workloads := system.workloads.setRecovery key
        { state with armed := state.armed.erase (epoch, id) } } := by
    refine budgeted.calm (.insert (fun _ _ => .refl) present ?_) (.refl _) rfl
    exact ⟨⟨erase_sublist, le_rfl, fun _ => rfl, fun _ current => current,
      fun later => absurd later (lt_irrefl _), fun _ listed => listed⟩, ⟨rfl, rfl, rfl⟩⟩
  have gone : ∀ entry ∈ state.armed.erase (epoch, id), entry.1 ≠ epoch := by
    intro entry remaining same
    obtain ⟨differs, member⟩ := (known.distinct.of_map.mem_erase_iff).mp remaining
    exact differs (inj_on_of_nodup_map known.distinct member listed same)
  have apart {index : Nat} {job : RecoveryJob} {stage : RecoveryStage}
      (found : system.tasks[index]? = some (.recovery job stage)) (own : job.key = key) :
      epoch ≠ job.epoch := by
    obtain ⟨_, other, reached, funded⟩ := budgeted.tasks job stage (mem_of_getElem? found)
    rw [own, present] at reached
    cases reached
    exact funded.fired (epoch, id) listed
  refine ⟨disarmed.states, ?_, ?_⟩
  · intro job stage member
    rcases mem_append.mp member with earlier | last
    · exact disarmed.tasks job stage earlier
    · cases mem_singleton.mp last
      obtain ⟨bound, workload⟩ := known.armed (epoch, id) listed
      refine ⟨⟨workload, fun _ absent => ?_⟩, _, OrderedMap.get_insert_same _ _ _, bound, gone,
        fun _ current => known.unspent (epoch, id) listed current, nofun, nofun, nofun⟩
      cases absent
  · intro first second left right leftStage rightStage leftFound rightFound key_eq epoch_eq
    rcases spawned leftFound with leftFound | ⟨leftLast, leftSame⟩
    · rcases spawned rightFound with rightFound | ⟨-, ⟨⟩⟩
      · exact budgeted.unique first second left right leftStage rightStage leftFound rightFound
          key_eq epoch_eq
      · exact absurd epoch_eq.symm (apart leftFound key_eq)
    · rcases spawned rightFound with rightFound | ⟨rightLast, -⟩
      · cases leftSame
        exact absurd epoch_eq (apart rightFound key_eq.symm)
      · exact leftLast.trans rightLast.symm

end

end Budgeted

variable {system : System}

theorem step_budgeted (exclusive : system.Exclusive) (budgeted : system.Budgeted)
    (action : Action) : (system.step platform generations action).Budgeted := by
  fun_cases step platform generations system action with
  | case1 | case4 | case6 | case8 => exact budgeted.spawn fun _ _ same => by cases same
  | case3 =>
    exact budgeted.judged (release_judges _ _ _) (release_edited _ _ _).jobs.keys rfl
  | case10 =>
    exact budgeted.calm (configure_calm _ _ _) (configure_kept _ _ _).keys rfl
  | case12 | case14 => exact budgeted.calm (.calm_refl _) (.refl _) rfl
  | case13 => exact budgeted.calm close_calm close_kept.keys rfl
  | case16 id epoch job present armed =>
    refine Budgeted.spawn ?_ fun _ _ same => by cases same
    exact budgeted.calm (.calm_refl _) (disarm_kept present epoch).keys rfl
  | case19 key epoch id state present listed => exact budgeted.fire present listed
  | case22 index answers task found => exact budgeted.advance exclusive found answers
  | _ => exact budgeted

theorem run_budgeted (actions : List Action) : (run platform generations actions).Budgeted := by
  have both : (run platform generations actions).Exclusive ∧
      (run platform generations actions).Budgeted := by
    refine @run_invariant System Action (step platform generations)
      (fun system => system.Exclusive ∧ system.Budgeted) {} ?_ ?_ actions
    · refine ⟨@run_exclusive platform generations [], fun _ _ present => ?_, fun _ _ member => ?_,
        fun _ _ _ _ _ _ found => ?_⟩
      · cases present
      · cases member
      · cases found
    · rintro system action ⟨exclusive, budgeted⟩
      exact ⟨step_exclusive exclusive action, step_budgeted exclusive budgeted action⟩
  exact both.2

end System

/-! ### A replaced recovery -/

/-- The recovery has verified a replacement and is about to record it. -/
def RecoveryStage.recording : RecoveryStage → Bool
  | .observing _ _ => true
  | _ => false

/-- The recovery state without its history. -/
def RecoveryState.forget (state : RecoveryState) : RecoveryState :=
  { state with stops := 0, starts := 0 }

/-- Sections that change neither a job nor what a recovery state remembers. -/
def Section.idle : Section → Bool
  | .skip | .lock _ | .unlock _ | .issueStop _ | .issueStart _ => true
  | _ => false

theorem Section.enter_idle (idle : entered.idle = true) :
    (entered.enter workloads).jobs = workloads.jobs ∧
      ∀ key, ((entered.enter workloads).recoveries.get key).map forget =
        (workloads.recoveries.get key).map forget := by
  have counted {key : RecoveryKey} {move : RecoveryState → RecoveryState}
      (same : ∀ state, (move state).forget = state.forget) :
      (workloads.modifyRecovery key move).jobs = workloads.jobs ∧
        ∀ other, ((workloads.modifyRecovery key move).recoveries.get other).map
          forget = (workloads.recoveries.get other).map forget := by
    refine ⟨modifyRecovery_jobs key move, fun other => ?_⟩
    unfold Workloads.modifyRecovery
    cases present : workloads.recoveries.get key with
    | none => rfl
    | some state =>
      dsimp only [Workloads.setRecovery]
      rw [OrderedMap.get_insert]
      split
      next equal =>
        rw [equal, present, Option.map_some, Option.map_some, same]
      · rfl
  cases entered with
  | skip | unlock => exact ⟨rfl, fun _ => rfl⟩
  | lock binding =>
    simp only [enter, Workloads.lock]
    split <;> exact ⟨rfl, fun _ => rfl⟩
  | issueStop key | issueStart key => exact counted fun _ => rfl
  | _ => cases idle

theorem RecoveryJob.Moves.idle
    (moves : job.Moves platform workloads state workload stage entered next)
    (replaced : job.epoch ≠ state.epoch) (unrecorded : stage.recording = false) :
    entered.idle = true := by
  cases moves with
  | begin live | missed _ live | drain _ live | attempt _ _ live | stopFailed _ _ live
  | stopConfirmed _ _ live | restartConfirmed _ _ live | restart _ live | recovered _ live
  | invalid _ _ live | exhausted _ live | backoff _ _ live | retry _ _ live =>
    exact absurd (live_epoch live) replaced
  | expired _ current => exact absurd current.symm replaced
  | observe => cases unrecorded
  | _ => rfl

/-! ### The budget over runs -/

/-- What holds of the budgets in the state that the actions lead to. `stops` and `starts` count
the calls of the bridge since the last reset. -/
structure RestartBudget (platform : Platform) (generations : Nat → Generation)
    (actions : List Action) : Prop where
  /-- An attempt is taken while the policy has a restart left. -/
  attempts : ∀ key old action new,
    (run platform generations actions).workloads.recoveries.get key = some old →
    ((run platform generations actions).step platform generations action
      ).workloads.recoveries.get key = some new →
    old.attempts < new.attempts →
    new.attempts = old.attempts + 1 ∧ (old.attempts : Int) < old.policy.maxRestarts
  /-- Attempts are given back by `resetRecovery` and `prepareManualStart` only. -/
  resets : ∀ key old action new,
    (run platform generations actions).workloads.recoveries.get key = some old →
    ((run platform generations actions).step platform generations action
      ).workloads.recoveries.get key = some new →
    new.attempts < old.attempts →
    ∃ index answers task, action = .advance index answers ∧
      (run platform generations actions).tasks[index]? = some task ∧
      (task.advance platform generations (run platform generations actions).workloads
        (run platform generations actions).controllers answers).1.resets key = true
  /-- One recovery has the current epoch of a recovery state. -/
  single : ∀ (first second : Nat) (left right : RecoveryJob)
    (leftStage rightStage : RecoveryStage) (state : RecoveryState),
    (run platform generations actions).tasks[first]? =
      some (.recovery left leftStage) →
    (run platform generations actions).tasks[second]? =
      some (.recovery right rightStage) →
    (run platform generations actions).workloads.recoveries.get left.key = some state →
    left.key = right.key → left.epoch = state.epoch → right.epoch = state.epoch →
    first = second
  /-- A recovery of an earlier epoch runs under a cancelled context and changes nothing, unless
  it is about to record a replacement. -/
  replaced : ∀ (index : Nat) (job : RecoveryJob) (stage : RecoveryStage)
    (state : RecoveryState),
    (run platform generations actions).tasks[index]? = some (.recovery job stage) →
    (run platform generations actions).workloads.recoveries.get job.key = some state →
    job.epoch ≠ state.epoch →
    (stage.begun = true → job.epoch ∈ state.cancelled) ∧
      (stage.recording = false → ∀ answers,
        ((run platform generations actions).step platform generations
          (.advance index answers)).workloads.jobs =
            (run platform generations actions).workloads.jobs ∧
          ∀ key, (((run platform generations actions).step platform generations
            (.advance index answers)).workloads.recoveries.get key).map forget =
            ((run platform generations actions).workloads.recoveries.get key).map
              forget)
  /-- From a reset on, and as long as the policy stays, recovery makes no more calls than the
  policy has restarts. -/
  calls : ∀ (key : RecoveryKey) (policy : RecoveryPolicy) (before after : List Action)
    (state : RecoveryState),
    actions = before ++ after →
    (∀ earlier, (run platform generations before).workloads.recoveries.get key =
      some earlier → earlier.attempts = 0) →
    (∀ early late, after = early ++ late → ∀ middle,
      (run platform generations (before ++ early)).workloads.recoveries.get key =
        some middle → middle.policy = policy) →
    (run platform generations actions).workloads.recoveries.get key = some state →
    state.stops ≤ policy.maxRestarts.toNat ∧ state.starts ≤ policy.maxRestarts.toNat

namespace System

/-- How the attempts of a recovery state change with one step. -/
inductive Spends (platform : Platform) (generations : Nat → Generation) (system : System)
    (action : Action) (key : RecoveryKey) (old new : RecoveryState) : Prop where
  | same (attempts : new.attempts = old.attempts)
  | attempted (attempts : new.attempts = old.attempts + 1)
      (left : (old.attempts : Int) < old.policy.maxRestarts)
  | reset (attempts : new.attempts = 0) (index : Nat) (answers : Answers) (task : Task)
      (moves : action = .advance index answers) (found : system.tasks[index]? = some task)
      (resets : (task.advance platform generations system.workloads system.controllers answers
        ).1.resets key = true)

theorem advance_spends {system : System} (budgeted : system.Budgeted) {index : Nat} {task : Task}
    (found : system.tasks[index]? = some task) (answers : Answers) :
    Recovers (Spends platform generations system (.advance index answers))
      system.workloads.recoveries
      ((task.advance platform generations system.workloads system.controllers answers
        ).1.enter system.workloads).recoveries := by
  have recovers := Section.enter_counts system.workloads
    (task.advance platform generations system.workloads system.controllers answers).1
  refine ⟨fun key old present => ?_, recovers.fresh⟩
  obtain ⟨new, reached, _, counts⟩ := recovers.stays key old present
  refine ⟨new, reached, ?_⟩
  cases counts with
  | same _ counters => exact .same counters.attempts
  | attempted enters more =>
    obtain ⟨job, stage, state, rfl, rfl, unspent, known, live⟩ := advance_attempts enters
    rw [present] at known
    cases known
    obtain ⟨_, other, known, funded⟩ := budgeted.tasks job stage (mem_of_getElem? found)
    rw [present] at known
    cases known
    exact .attempted more (funded.unspent unspent live)
  | stopIssued _ attempts | startIssued _ attempts => exact .same attempts
  | reset enters zero =>
    rw [zero]
    exact .reset rfl index answers task rfl found enters

theorem step_spends {system : System} (budgeted : system.Budgeted) (action : Action) :
    Recovers (Spends platform generations system action) system.workloads.recoveries
      (system.step platform generations action).workloads.recoveries := by
  have calmly {after : OrderedMap RecoveryKey RecoveryState}
      (recovers : Recovers Calmly system.workloads.recoveries after) :
      Recovers (Spends platform generations system action) system.workloads.recoveries after :=
    recovers.imp fun calm => .same calm.counters.attempts
  fun_cases step platform generations system action with
  | case3 index lease outcome now controller found =>
    refine (release_judges _ outcome now).imp fun judged => ?_
    rcases judged with calm | ⟨scheduled, _⟩
    · exact .same calm.counters.attempts
    · exact .same scheduled.counters.attempts
  | case10 => exact calmly (configure_calm _ _ _)
  | case13 => exact calmly close_calm
  | case19 key epoch id state present => exact .insert (fun _ _ _ => .same rfl) present (.same rfl)
  | case22 index answers task found => exact advance_spends budgeted found answers
  | _ => exact calmly (.calm_refl _)

/-- From a state without attempts on, attempts stay within the policy that stays in force. -/
theorem attempts_bounded {key : RecoveryKey} {policy : RecoveryPolicy} (before after : List Action)
    (reset : ∀ earlier, (run platform generations before).workloads.recoveries.get key =
      some earlier → earlier.attempts = 0)
    (constant : ∀ early late, after = early ++ late → ∀ middle,
      (run platform generations (before ++ early)).workloads.recoveries.get key =
        some middle → middle.policy = policy)
    (present : (run platform generations (before ++ after)).workloads.recoveries.get key =
      some state) : state.attempts ≤ policy.maxRestarts.toNat := by
  induction after using List.reverseRecOn generalizing state with
  | nil =>
    rw [append_nil] at present
    rw [reset state present]
    exact Nat.zero_le _
  | append_singleton after action ih =>
    have earlier : ∀ early late, after = early ++ late → ∀ middle,
        (run platform generations (before ++ early)).workloads.recoveries.get key =
          some middle → middle.policy = policy := by
      intro early late split
      exact constant early (late ++ [action]) (by rw [split, append_assoc])
    rw [← append_assoc, run, Lib.run_concat] at present
    have budgeted := @run_budgeted platform generations (before ++ after)
    have recovers := @step_spends platform generations _ budgeted action
    cases known : (run platform generations (before ++ after)).workloads.recoveries.get key with
    | none =>
      rw [(recovers.fresh key state known present).attempts]
      exact Nat.zero_le _
    | some old =>
      obtain ⟨other, reached, spends⟩ := recovers.stays key old known
      have same := present.symm.trans reached
      cases same
      have bound := ih earlier known
      cases spends with
      | same attempts => rwa [attempts]
      | attempted attempts left =>
        rw [constant after [action] rfl old known] at left
        omega
      | reset attempts =>
        rw [attempts]
        exact Nat.zero_le _

end System

theorem restart_budget_kept (platform : Platform) (generations : Nat → Generation)
    (actions : List Action) : RestartBudget platform generations actions := by
  have budgeted := @run_budgeted platform generations actions
  refine ⟨?_, ?_, ?_, ?_, ?_⟩
  · intro key old action new present found more
    obtain ⟨other, reached, spends⟩ :=
      (@step_spends platform generations _ budgeted action).stays key old present
    rw [found] at reached
    cases reached
    cases spends with
    | same attempts => omega
    | attempted attempts left => exact ⟨attempts, left⟩
    | reset attempts => omega
  · intro key old action new present found fewer
    obtain ⟨other, reached, spends⟩ :=
      (@step_spends platform generations _ budgeted action).stays key old present
    rw [found] at reached
    cases reached
    cases spends with
    | same attempts | attempted attempts left => omega
    | reset _ index answers task moves listed resets =>
      exact ⟨index, answers, task, moves, listed, resets⟩
  · intro first second left right leftStage rightStage state leftFound rightFound _ own
      leftCurrent rightCurrent
    exact budgeted.unique first second left right leftStage rightStage leftFound rightFound own
      (leftCurrent.trans rightCurrent.symm)
  · intro index job stage state found present replaced
    obtain ⟨_, known, listed, funded⟩ := budgeted.tasks job stage (mem_of_getElem? found)
    rw [present] at listed
    cases listed
    refine ⟨fun begun => ?_, fun unrecorded answers => ?_⟩
    · rcases funded.begun begun with ⟨current, _⟩ | cancelled
      · exact absurd current replaced
      · exact cancelled
    · simp only [step, found, advance]
      apply Section.enter_idle
      rcases job.advance_moves platform _ answers stage with
        still | ⟨other, workload, listed, _, moves⟩
      · rw [still]
        rfl
      · rw [present] at listed
        cases listed
        exact moves.idle replaced unrecorded
  · intro key policy before after state split reset constant present
    subst split
    have bound := attempts_bounded before after reset constant present
    have within := budgeted.states key state present
    exact ⟨within.stops.trans bound, within.starts.trans bound⟩

/-! ### A replaced recovery that still records -/

def recoveringBinding (maxRestarts : Int) : Binding :=
  { sampleBinding "a" "1" with
    recovery := { action := .restart, failedProbes := 1, maxRestarts := maxRestarts } }

/-- The request on `w` fails, recovery stops `w` and starts `v`; before it records `v`, a
configuration with another budget takes its place. -/
def replacedRecovery : List Action :=
  [.ensureReady 0 (recoveringBinding 1) {}] ++ steps 0 14 (sampleAnswers "w" "1") ++
    [.release 0 ⟨ascii "sparkrun-lease-1", { clusterID := ascii "w" }⟩
      { healthObserved := true, circuitOpened := true, halfOpenProbe := true,
        backendFailure := true } 0,
      .fireRecovery ⟨ascii "1", ascii "c"⟩ 2 (ascii "w")] ++
    steps 1 12
      { stop := some ⟨.offline, [ascii "w"]⟩,
        ensured := some ⟨.ready, some (sampleEndpoint "v" "1" true)⟩ } ++
    [.configure [{ sampleTarget "a" "1" with binding := recoveringBinding 2 }] [ascii "w"] 0]

/-- The task is a recovery whose epoch its recovery state has left behind. -/
def System.replacedAt (system : System) (index : Nat) : Bool :=
  match system.tasks[index]? with
  | some (.recovery job _) =>
    ((system.workloads.recoveries.get job.key).map epoch).any (job.epoch < ·)
  | _ => false

/-- The recovery adds the job of its replacement after its epoch has ended. -/
theorem replaced_recovery_records :
    (sampleRun replacedRecovery).replacedAt 1 = true ∧
      (sampleRun replacedRecovery).workloads.jobs.keys = [ascii "w"] ∧
      (sampleRun (replacedRecovery ++ [.advance 1 {}])).workloads.jobs.keys =
        [ascii "w", ascii "v"] := by
  decide +kernel

end SparkRoute.Sparkrun
