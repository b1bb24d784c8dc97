import SparkRoute.Sparkrun.Tasks

/-!
# What one step of a timer's callback can do

The callbacks of idle timers and of recovery timers, as relations between two places in their
code and the section entered between them. The guards are the facts that later proofs need.
-/

namespace SparkRoute.Sparkrun

open Lib

/-! ### Idle timers -/

namespace IdleTimer

variable (timer : IdleTimer) (workloads : Workloads)

inductive Moves : IdleStage → Section → IdleStage → Prop where
  | lost : Moves .fired .skip .done
  | wake {job : Workload} (present : workloads.jobs.get timer.id = some job) :
      Moves .fired .skip (.waiting job.binding)
  | cancelled (binding : Binding) : Moves (.waiting binding) .skip .done
  | enter (binding : Binding) (free : (workloads.lock binding).isSome = true) :
      Moves (.waiting binding) (.lock binding) (.checking binding)
  | wait (binding : Binding) : Moves (.waiting binding) .skip (.waiting binding)
  | refuse (binding : Binding) : Moves (.checking binding) .skip (.leaving binding)
  | commit {job : Workload} (binding : Binding) (present : workloads.jobs.get timer.id = some job)
      (due : timer.due workloads job = true) : Moves (.checking binding) (.commitIdle timer.id)
      (.committed binding)
  | vanished (binding : Binding) : Moves (.committed binding) .skip (.leaving binding)
  | unsupported (binding : Binding) : Moves (.committed binding) .skip (.settling binding false)
  | call (binding : Binding) : Moves (.committed binding) .skip (.calling binding)
  | answered (binding : Binding) (ok : Bool) : Moves (.calling binding) .skip (.settling binding ok)
  | settle (binding : Binding) (ok : Bool) : Moves (.settling binding ok)
      (.settleIdle timer.id (IdleTimer.pause binding ok)) (.leaving binding)
  | leave (binding : Binding) : Moves (.leaving binding) (.unlock binding) .done
  | done : Moves .done .skip .done

theorem advance_moves (answers : Answers) (stage : IdleStage) :
    timer.Moves workloads stage (timer.advance workloads answers stage).1
      (timer.advance workloads answers stage).2 := by
  cases stage with
  | fired =>
    dsimp only [advance]
    split
    · exact .lost
    next job present => exact .wake present
  | waiting binding =>
    dsimp only [advance]
    split
    · exact .cancelled binding
    · split
      next free => exact .enter binding free
      · exact .wait binding
  | checking binding =>
    dsimp only [advance]
    split
    · exact .refuse binding
    next job present =>
      split
      next due => exact .commit binding present due
      · exact .refuse binding
  | committed binding =>
    dsimp only [advance]
    split
    · exact .vanished binding
    · split
      · exact .unsupported binding
      · exact .call binding
  | calling binding =>
    dsimp only [advance]
    split <;> exact .answered binding _
  | settling binding ok => exact .settle binding ok
  | leaving binding => exact .leave binding
  | done => exact .done

end IdleTimer

/-! ### Recovery -/

/-- The places at which a recovery gives up when it finds itself replaced. -/
def RecoveryStage.interrupted : RecoveryStage → Option Binding
  | .checking binding | .draining binding | .expired binding | .committing binding
  | .confirming binding _ | .restarting binding | .judging binding _ | .sleeping binding
  | .retrying binding => some binding
  | _ => none

namespace RecoveryJob

variable (job : RecoveryJob) (platform : Platform) (workloads : Workloads)
  (state : RecoveryState) (workload : Workload)

inductive Moves : RecoveryStage → Section → RecoveryStage → Prop where
  | begin (live : job.live workloads state = true) : Moves .fired (.beginRecovery job.key)
      (.waiting workload.binding)
  | stale : Moves .fired .skip .done
  | missed (binding : Binding) (live : job.live workloads state = true) : Moves (.waiting binding)
      (.missDrain job.key job.id) .done
  | cancelled (binding : Binding) : Moves (.waiting binding) .skip .done
  | enter (binding : Binding) (free : (workloads.lock binding).isSome = true) :
      Moves (.waiting binding) (.lock binding) (.checking binding)
  | wait (binding : Binding) : Moves (.waiting binding) .skip (.waiting binding)
  | drain (binding : Binding) (live : job.live workloads state = true)
      (owned : workload.owned = true) : Moves (.checking binding) (.drain job.key job.id)
      (.draining binding)
  | drained (binding : Binding) (live : job.live workloads state = true)
      (idle : workload.active = 0) : Moves (.draining binding)
      .skip (.committing { binding with clusterCandidates := [workload.cluster] })
  | expire (binding : Binding) : Moves (.draining binding) .skip (.expired binding)
  | linger (binding : Binding) (live : job.live workloads state = true) : Moves (.draining binding)
      .skip (.draining binding)
  | expired (binding : Binding) (current : state.epoch = job.epoch) : Moves (.expired binding)
      (.failRecovery job.key .drainTimeout) (.leaving binding)
  | attempt (binding : Binding) (now : Int) (live : job.live workloads state = true) :
      Moves (.committing binding) (.attempt job.key job.id now) (.committed binding)
  | issueStop (binding : Binding) : Moves (.committed binding) (.issueStop job.key)
      (.callingStop binding)
  | stopAnswered (binding : Binding) (ok : Bool) : Moves (.callingStop binding)
      .skip (.confirming binding ok)
  | stopFailed (binding : Binding) (ok : Bool) (live : job.live workloads state = true) :
      Moves (.confirming binding ok) (.failRecovery job.key .stopFailed) (.leaving binding)
  | stopConfirmed (binding : Binding) (ok : Bool) (live : job.live workloads state = true) :
      Moves (.confirming binding ok) (.confirmStop job.key job.id false) (.leaving binding)
  | restartConfirmed (binding : Binding) (ok : Bool) (live : job.live workloads state = true) :
      Moves (.confirming binding ok) (.confirmStop job.key job.id true) (.restarting binding)
  | restart (binding : Binding) (live : job.live workloads state = true) :
      Moves (.restarting binding) (.restarting job.key) (.starting binding)
  | issueStart (binding : Binding) : Moves (.starting binding) (.issueStart job.key)
      (.callingStart binding)
  | startAnswered (binding : Binding) (result : Option EnsureResult) :
      Moves (.callingStart binding) .skip (.judging binding result)
  | recovered (binding : Binding) {result : EnsureResult} {endpoint : Endpoint}
      (live : job.live workloads state = true)
      (accepted : job.replacement platform binding result = some endpoint) :
      Moves (.judging binding (some result)) (.recovered job.id) (.observing binding endpoint)
  | invalid (binding : Binding) (result : EnsureResult) (live : job.live workloads state = true) :
      Moves (.judging binding (some result)) (.failRecovery job.key .invalidEndpoint)
      (.leaving binding)
  | exhausted (binding : Binding) (live : job.live workloads state = true) :
      Moves (.judging binding none) (.failRecovery job.key .exhausted) (.leaving binding)
  | backoff (binding : Binding) (now : Int) (live : job.live workloads state = true)
      (left : (state.attempts : Int) < state.policy.maxRestarts) : Moves (.judging binding none)
      (.backoff job.key now) (.sleeping binding)
  | wake (binding : Binding) : Moves (.sleeping binding) .skip (.retrying binding)
  | retry (binding : Binding) (now : Int) (live : job.live workloads state = true) :
      Moves (.retrying binding) (.retry job.key now) (.restarting binding)
  | observe (binding : Binding) (endpoint : Endpoint) (now : Int) :
      Moves (.observing binding endpoint)
      (.observe binding endpoint workload.lifecycleBridge true now) (.leaving binding)
  | leave (binding : Binding) : Moves (.leaving binding) (.unlock binding) .done
  | done : Moves .done .skip .done
  | interrupt {stage : RecoveryStage} {binding : Binding}
      (place : stage.interrupted = some binding) : Moves stage .skip (.leaving binding)

theorem proceed_moves (answers : Answers) (stage : RecoveryStage) :
    job.Moves platform workloads state workload stage
      (job.proceed platform workloads answers state workload stage).1
      (job.proceed platform workloads answers state workload stage).2 := by
  fun_cases proceed platform workloads job answers state workload stage with
  | case1 live => exact .begin live
  | case2 => exact .stale
  | case3 binding =>
    split
    next live => exact .missed binding live
    · exact .cancelled binding
  | case4 binding _ free => exact .enter binding free
  | case5 binding => exact .wait binding
  | case6 binding due => exact .drain binding due.1 due.2.2
  | case9 binding live idle => exact .drained binding (Decidable.not_not.mp live) idle
  | case10 binding => exact .expire binding
  | case11 binding live => exact .linger binding (Decidable.not_not.mp live)
  | case12 binding =>
    split
    next current => exact .expired binding current
    · exact .interrupt rfl
  | case13 binding live => exact .attempt binding _ live
  | case15 binding => exact .issueStop binding
  | case16 binding => exact .stopAnswered binding _
  | case18 binding ok live => exact .stopFailed binding ok (Decidable.not_not.mp live)
  | case19 binding ok live => exact .stopConfirmed binding ok (Decidable.not_not.mp live)
  | case20 binding ok live => exact .restartConfirmed binding ok (Decidable.not_not.mp live)
  | case21 binding live => exact .restart binding live
  | case23 binding => exact .issueStart binding
  | case24 binding => exact .startAnswered binding _
  | case26 binding live result endpoint accepted =>
    exact .recovered binding (Decidable.not_not.mp live) accepted
  | case27 binding live result => exact .invalid binding result (Decidable.not_not.mp live)
  | case28 binding live => exact .exhausted binding (Decidable.not_not.mp live)
  | case29 binding live left =>
    exact .backoff binding _ (Decidable.not_not.mp live) (Int.lt_of_not_ge left)
  | case31 binding => exact .wake binding
  | case32 binding live => exact .retry binding _ live
  | case34 binding endpoint => exact .observe binding endpoint _
  | case35 binding => exact .leave binding
  | case36 => exact .done
  | _ => exact .interrupt rfl

theorem advance_moves (answers : Answers) (stage : RecoveryStage) :
    job.advance platform workloads answers stage = (.skip, stage) ∨
      ∃ state workload, workloads.recoveries.get job.key = some state ∧
        workloads.jobs.get job.id = some workload ∧
        job.Moves platform workloads state workload stage
          (job.advance platform workloads answers stage).1
          (job.advance platform workloads answers stage).2 := by
  unfold advance
  split
  next state workload found present =>
    exact .inr ⟨state, workload, found, present, job.proceed_moves ..⟩
  · exact .inl rfl

end RecoveryJob

end SparkRoute.Sparkrun
