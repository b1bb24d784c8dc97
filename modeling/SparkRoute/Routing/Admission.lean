import SparkRoute.Lib.Tally
import SparkRoute.Routing.Manager

/-!
# Admission and probe accounting of one target

The invariant `Accounted` says that the counter and the probe flag are exactly
what the outstanding leases make them.  An uncompleted probe pins the circuit
in its half-open generation, because only that probe's own completion can leave
it; so no generation counter, wrapping or not, can ever confuse two probes.
-/

namespace SparkRoute.Routing

open Lib List

namespace TargetRuntime

/-- Two records agree on everything admission reads. -/
structure SameGate (before after : TargetRuntime) : Prop where
  state : after.state = before.state
  active : after.active = before.active
  maxConcurrency : after.maxConcurrency = before.maxConcurrency
  generation : after.generation = before.generation
  probeInFlight : after.probeInFlight = before.probeInFlight

variable (target : TargetRuntime)

theorem recordSample_sameGate (failed : Bool) : target.SameGate (target.recordSample failed) := by
  unfold recordSample
  split <;> exact ⟨rfl, rfl, rfl, rfl, rfl⟩

variable (now : Int)

/-- `advance` does nothing, or moves an ejected circuit to a fresh half-open
generation without a probe. -/
theorem advance_cases :
    ((target.advance now).1 = target ∧
        (target.state ≠ .opened ∨ now < target.ejectedUntil)) ∨
      ((target.advance now).1 =
          { target with
            state := .halfOpen
            generation := target.generation + 1
            probeInFlight := false } ∧
        target.state = .opened ∧ target.ejectedUntil ≤ now) := by
  unfold advance
  split
  next waiting => exact Or.inl ⟨rfl, waiting⟩
  next elapsed =>
    simp only [not_or, not_not, not_lt] at elapsed
    exact Or.inr ⟨rfl, elapsed.1, elapsed.2⟩

/-- A result recorded while closed either leaves the gate alone or ejects the
target into a new generation without a probe. -/
theorem recordClosedResult_cases (result : TargetResult) :
    target.SameGate (target.recordClosedResult now result).1 ∨
      ((target.recordClosedResult now result).1.state = .opened ∧
        (target.recordClosedResult now result).1.active = target.active ∧
        (target.recordClosedResult now result).1.maxConcurrency =
          target.maxConcurrency ∧
        (target.recordClosedResult now result).1.probeInFlight = false) := by
  have sampled := target.recordSample_sameGate true
  have passed := target.recordSample_sameGate false
  fun_cases recordClosedResult target now result with
  | case1 => exact Or.inl ⟨rfl, rfl, rfl, rfl, rfl⟩
  | case2 | case3 => exact Or.inr ⟨rfl, sampled.active, sampled.maxConcurrency, rfl⟩
  | case4 =>
    exact Or.inl ⟨sampled.state, sampled.active, sampled.maxConcurrency, sampled.generation,
      sampled.probeInFlight⟩
  | case5 =>
    exact Or.inl ⟨passed.state, passed.active, passed.maxConcurrency, passed.generation,
      passed.probeInFlight⟩

/-- What a completion may do to the gate, apart from freeing its slot. -/
inductive HealthEffect (before : TargetRuntime) (lease : TargetLease)
    (after : TargetRuntime) : Prop where
  | probe (matched : lease.halfOpenProbe = true) (freed : after.probeInFlight = false)
  | ejected (closed : before.state = .closed) (freed : after.probeInFlight = false)
  | same (state : after.state = before.state)
      (generation : after.generation = before.generation)
      (probeInFlight : after.probeInFlight = before.probeInFlight)
      (unmatched : lease.halfOpenProbe = true → before.state = .halfOpen →
        before.generation ≠ lease.circuitGeneration)

variable (lease : TargetLease)

theorem applyHealth_gate (now : Int) (result : TargetResult) :
    (target.applyHealth lease now result).1.active = target.active ∧
      (target.applyHealth lease now result).1.maxConcurrency = target.maxConcurrency := by
  unfold applyHealth
  split
  next => cases result <;> exact ⟨rfl, rfl⟩
  split
  next =>
    rcases target.recordClosedResult_cases now result with same | ⟨_, active, limit, _⟩
    · exact ⟨same.active, same.maxConcurrency⟩
    · exact ⟨active, limit⟩
  next => exact ⟨rfl, rfl⟩

theorem applyHealth_effect (now : Int) (result : TargetResult) :
    HealthEffect target lease (target.applyHealth lease now result).1 := by
  unfold applyHealth
  split
  next matched =>
    refine .probe matched.1 ?_
    cases result <;> rfl
  next unmatched =>
    split
    next ordinary =>
      rcases target.recordClosedResult_cases now result with same | ⟨_, _, _, freed⟩
      · exact .same same.state same.generation same.probeInFlight fun probe =>
          absurd probe ordinary.1
      · exact .ejected ordinary.2.1 freed
    next =>
      exact .same rfl rfl rfl fun probe halfOpen equality =>
        unmatched ⟨probe, halfOpen, equality⟩

theorem releaseSlot_frame (result : TargetResult) (failureClass : String) :
    ∃ recentFailures, target.releaseSlot now result failureClass =
      { target with
        active := if 0 < target.active then target.active - 1 else target.active
        recentFailures := recentFailures } := by
  unfold releaseSlot recordFailure
  split <;>
    · dsimp only
      split
      · split <;> exact ⟨_, rfl⟩
      · exact ⟨_, rfl⟩

theorem complete_counters (now : Int) (result : TargetResult) (failureClass : String) :
    (target.complete lease now result failureClass).1.active =
        (if 0 < target.active then target.active - 1 else target.active) ∧
      (target.complete lease now result failureClass).1.maxConcurrency =
        target.maxConcurrency := by
  have health := (target.releaseSlot now result failureClass).applyHealth_gate
    lease now result
  rcases target.releaseSlot_frame now result failureClass with ⟨recentFailures, released⟩
  rw [released] at health
  unfold complete
  rw [released]
  exact health

theorem complete_effect (now : Int) (result : TargetResult) (failureClass : String) :
    HealthEffect target lease (target.complete lease now result failureClass).1 := by
  have effect := (target.releaseSlot now result failureClass).applyHealth_effect
    lease now result
  rcases target.releaseSlot_frame now result failureClass with ⟨recentFailures, released⟩
  unfold complete
  rw [released] at effect ⊢
  cases effect with
  | probe matched freed => exact .probe matched freed
  | ejected closed freed => exact .ejected closed freed
  | same state generation probeInFlight unmatched =>
    exact .same state generation probeInFlight unmatched

theorem admissionReason_none {target : TargetRuntime} (passed : target.admissionReason = none) :
    target.state ≠ .opened ∧
      (target.state = .halfOpen → target.probeInFlight = false) ∧
      (0 < target.maxConcurrency → target.active < target.maxConcurrency) := by
  revert passed
  fun_cases admissionReason target <;> rintro ⟨⟩
  next notOpen noProbe room =>
    refine ⟨notOpen, ?_, ?_⟩
    · intro halfOpen
      simpa [halfOpen] using noProbe
    · intro limited
      by_contra full
      exact room ⟨limited, by omega⟩

end TargetRuntime

/-- An uncompleted half-open probe, of whichever generation. -/
def LeaseCell.outstandingProbe (cell : LeaseCell) : Bool :=
  cell.uncompleted && cell.lease.halfOpenProbe

namespace TargetSystem

structure Accounted (limit : Int) (system : TargetSystem) : Prop where
  limited : system.target.maxConcurrency = limit
  active : system.target.active = system.leases.countP LeaseCell.uncompleted
  bounded : 0 < limit → system.target.active ≤ limit
  probes : (system.leases.countP LeaseCell.outstandingProbe : Int) =
    if system.target.probeInFlight then 1 else 0
  pinned : ∀ cell ∈ system.leases, cell.outstandingProbe = true →
    cell.lease.circuitGeneration = system.target.generation
  halfOpen : system.target.probeInFlight = true → system.target.state = .halfOpen

variable {limit : Int} {system : TargetSystem}

theorem Accounted.initially (deployment : Config.Deployment) :
    Accounted deployment.maxConcurrency (initial (newTargetRuntime deployment)) where
  limited := rfl
  active := rfl
  bounded := fun positive => by
    change (0 : Int) ≤ deployment.maxConcurrency
    omega
  probes := rfl
  pinned := by simp [initial]
  halfOpen := by simp [initial, newTargetRuntime]

namespace Accounted

section

variable (accounted : Accounted limit system)

include accounted

theorem no_probe (idle : system.target.probeInFlight = false) :
    ∀ cell ∈ system.leases, cell.outstandingProbe = false := by
  have none := accounted.probes
  simp only [idle, Bool.false_eq_true, if_false, Int.natCast_eq_zero, countP_eq_zero] at none
  intro cell mem
  exact Bool.not_eq_true _ |>.mp (none cell mem)

theorem probeInFlight_of_outstanding {cell : LeaseCell} (mem : cell ∈ system.leases)
    (outstanding : cell.outstandingProbe = true) : system.target.probeInFlight = true := by
  by_contra idle
  have absent := accounted.no_probe (Bool.not_eq_true _ |>.mp idle) cell mem
  simp [outstanding] at absent

theorem idle_of_not_halfOpen (elsewhere : system.target.state ≠ .halfOpen) :
    system.target.probeInFlight = false := by
  by_contra busy
  exact elsewhere (accounted.halfOpen (Bool.not_eq_false _ |>.mp busy))

theorem advance (now : Int) :
    Accounted limit { system with target := (system.target.advance now).1 } := by
  rcases system.target.advance_cases now with ⟨same, _⟩ | ⟨changed, opened, _⟩
  · rw [same]
    exact accounted
  · have idle := accounted.idle_of_not_halfOpen (by simp [opened])
    rw [changed]
    refine ⟨accounted.limited, accounted.active, accounted.bounded, ?_, ?_, by simp⟩
    · simpa [idle] using accounted.probes
    · intro cell mem outstanding
      simp [accounted.no_probe idle cell mem] at outstanding

variable {lease : TargetLease}

theorem admitted (passed : system.target.admissionReason = none)
    (probe : lease.halfOpenProbe = decide (system.target.state = .halfOpen))
    (generation : lease.circuitGeneration = system.target.generation) :
    Accounted limit
      ⟨{ system.target with
          active := system.target.active + 1
          probeInFlight := if system.target.state = .halfOpen
            then true else system.target.probeInFlight },
        system.leases ++ [⟨lease, .held⟩]⟩ := by
  have active := accounted.active
  have probes := accounted.probes
  rcases TargetRuntime.admissionReason_none passed with ⟨_, noProbe, room⟩
  constructor
  case limited => exact accounted.limited
  case active =>
    simp only [countP_append, countP_singleton, LeaseCell.uncompleted, if_true]
    omega
  case bounded =>
    intro positive
    have below := room (by rw [accounted.limited]; exact positive)
    rw [accounted.limited] at below
    change system.target.active + 1 ≤ limit
    omega
  case probes =>
    by_cases halfOpen : system.target.state = .halfOpen
    · simp only [noProbe halfOpen, Bool.false_eq_true, if_false] at probes
      simp only [countP_append, countP_singleton, LeaseCell.outstandingProbe,
        LeaseCell.uncompleted, probe, halfOpen, decide_true, Bool.and_self, if_true]
      omega
    · simpa [LeaseCell.outstandingProbe, probe, halfOpen] using probes
  case pinned =>
    exact forall_mem_append.mpr
      ⟨accounted.pinned, forall_mem_singleton.mpr fun _ => generation⟩
  case halfOpen =>
    intro busy
    by_cases halfOpen : system.target.state = .halfOpen
    · exact halfOpen
    · exact accounted.halfOpen (by simpa [halfOpen] using busy)

theorem acquire (now : Int) : Accounted limit (system.step (.acquire now)) := by
  have advanced := accounted.advance now
  simp only [step, TargetRuntime.acquire]
  split
  next target lease admitted =>
    split at admitted <;> cases admitted
    next passed => exact advanced.admitted passed rfl rfl
  next target reason rejected =>
    split at rejected <;> cases rejected
    exact advanced

theorem compareAndSwap (index : Nat) (result : TargetResult) (failureClass : String) :
    Accounted limit (system.step (.complete index result failureClass)) := by
  simp only [step]
  split
  next lease found =>
    refine ⟨accounted.limited, ?_, accounted.bounded, ?_, ?_, accounted.halfOpen⟩
    · dsimp only
      rw [countP_set_of_eq LeaseCell.uncompleted found _ (by rfl)]
      exact accounted.active
    · dsimp only
      rw [countP_set_of_eq LeaseCell.outstandingProbe found _ (by rfl)]
      exact accounted.probes
    · intro cell mem outstanding
      rcases mem_or_eq_of_mem_set mem with earlier | rfl
      · exact accounted.pinned cell earlier outstanding
      · exact accounted.pinned ⟨lease, .held⟩ (mem_of_getElem? found) outstanding
  next => exact accounted

/-- The completing lease's own probe, if it is one, is the current one, so the
circuit is half-open in its generation and the completion frees the probe slot. -/
theorem probes_settled {index : Nat} {result : TargetResult} {failureClass : String}
    (found : system.leases[index]? = some ⟨lease, .completing result failureClass⟩)
    (completed : TargetLease) {after : TargetRuntime}
    (effect : system.target.HealthEffect lease after) :
    (((system.leases.set index ⟨completed, .settled⟩).countP
        LeaseCell.outstandingProbe : Nat) : Int) =
      (if after.probeInFlight then 1 else 0) ∧
    (after.probeInFlight = true → after.state = system.target.state ∧
      after.generation = system.target.generation ∧
      system.target.probeInFlight = true) := by
  have mem := mem_of_getElem? found
  have probes := accounted.probes
  have probed := countP_set LeaseCell.outstandingProbe found ⟨completed, .settled⟩
  simp only [LeaseCell.outstandingProbe, LeaseCell.uncompleted, Bool.true_and,
    Bool.false_and, Bool.false_eq_true, if_false, Int.add_zero] at probed
  have outstanding (probe : lease.halfOpenProbe = true) :
      LeaseCell.outstandingProbe ⟨lease, .completing result failureClass⟩ = true := by
    simpa [LeaseCell.outstandingProbe, LeaseCell.uncompleted] using probe
  cases effect with
  | probe matched freed =>
    have busy := accounted.probeInFlight_of_outstanding mem (outstanding matched)
    simp only [matched, if_true] at probed
    simp only [freed, Bool.false_eq_true, if_false, false_implies, and_true]
    omega
  | ejected closed freed =>
    have idle := accounted.idle_of_not_halfOpen (by simp [closed])
    simp only [idle, Bool.false_eq_true, if_false] at probes
    simp only [freed, Bool.false_eq_true, if_false, false_implies, and_true]
    split at probed <;> omega
  | same state generation probeInFlight unmatched =>
    have ordinary : ¬ lease.halfOpenProbe = true := by
      intro probe
      have busy := accounted.probeInFlight_of_outstanding mem (outstanding probe)
      exact unmatched probe (accounted.halfOpen busy)
        (accounted.pinned _ mem (outstanding probe)).symm
    simp only [ordinary] at probed
    rw [probeInFlight]
    exact ⟨probed.trans probes, fun busy => ⟨state, generation, busy⟩⟩

theorem settle (index : Nat) (now : Int) : Accounted limit (system.step (.settle index now)) := by
  cases completing : system.completing index with
  | none =>
    rw [step_settle_of_none completing]
    exact accounted
  | some entry =>
    rcases entry with ⟨lease, result, failureClass⟩
    have found := found_of_completing completing
    rw [step_settle_of_completing completing]
    rcases system.target.complete_counters lease now result failureClass with
      ⟨active, maxConcurrency⟩
    have effect := system.target.complete_effect lease now result failureClass
    generalize (system.target.complete lease now result failureClass).2 = completed
    generalize (system.target.complete lease now result failureClass).1 = after at *
    rcases accounted.probes_settled found completed effect with
      ⟨probes, kept⟩
    have counted := countP_set LeaseCell.uncompleted found ⟨completed, .settled⟩
    have occupied : 0 < system.target.active := by
      rw [accounted.active]
      exact Int.natCast_pos.mpr
        (countP_pos_iff.mpr ⟨_, mem_of_getElem? found, rfl⟩)
    simp only [LeaseCell.uncompleted, if_true, Bool.false_eq_true, if_false] at counted
    refine ⟨maxConcurrency.trans accounted.limited, ?_, ?_, probes, ?_, ?_⟩
    · have before := accounted.active
      simp only [active, counted, before]
      omega
    · intro positive
      have before := accounted.bounded positive
      change after.active ≤ limit
      omega
    · intro cell mem outstanding
      have present : after.probeInFlight = true := by
        by_contra idle
        simp only [idle, if_false, Int.natCast_eq_zero, countP_eq_zero] at probes
        exact probes cell mem outstanding
      rw [(kept present).2.1]
      rcases mem_or_eq_of_mem_set mem with earlier | rfl
      · exact accounted.pinned cell earlier outstanding
      · simp [LeaseCell.outstandingProbe, LeaseCell.uncompleted] at outstanding
    · intro busy
      rw [(kept busy).1]
      exact accounted.halfOpen (kept busy).2.2

end

end Accounted

theorem accounted_step (accounted : Accounted limit system)
    (operation : TargetOperation) : Accounted limit (system.step operation) := by
  cases operation with
  | eligible now | status now => exact accounted.advance now
  | acquire now => exact accounted.acquire now
  | complete index result failureClass =>
    exact accounted.compareAndSwap index result failureClass
  | settle index now => exact accounted.settle index now

theorem accounted_run (accounted : Accounted limit system)
    (operations : List TargetOperation) : Accounted limit (system.run operations) :=
  run_invariant accounted (fun _ operation before => accounted_step before operation)
    operations

theorem Accounted.countP_probes (accounted : Accounted limit system) :
    (system.leases.countP (LeaseCell.probes system.target.generation) : Int) =
      if system.target.probeInFlight then 1 else 0 := by
  rw [← accounted.probes]
  refine congrArg Nat.cast (countP_congr ?_)
  intro cell mem
  refine ⟨fun probes => ?_, fun outstanding => ?_⟩
  · simp only [LeaseCell.probes, Bool.and_eq_true] at probes
    simp only [LeaseCell.outstandingProbe, Bool.and_eq_true]
    exact probes.1
  · have current := accounted.pinned cell mem outstanding
    simpa [LeaseCell.probes, LeaseCell.outstandingProbe, current] using outstanding

end TargetSystem

/-- Along every interleaving the slot counter and the probe flag are exactly
what the uncompleted leases make them. -/
theorem targetManager_admission {deployments : List Config.Deployment}
    {manager : List (String × TargetRuntime)} {name : String} {target : TargetRuntime}
    (created : newTargetManager deployments = .ok manager)
    (found : manager.lookup name = some target) (operations : List TargetOperation) :
    let system := (TargetSystem.initial target).run operations
    (system.target.active = system.leases.countP LeaseCell.uncompleted ∧
      0 ≤ system.target.active ∧
      ∀ index cell, system.leases[index]? = some cell → cell.phase ≠ .held →
        ∀ result failureClass, system.step (.complete index result failureClass) = system) ∧
    (0 < target.maxConcurrency → system.target.active ≤ target.maxConcurrency) ∧
    ((system.target.probeInFlight = true ↔
        system.leases.countP (LeaseCell.probes system.target.generation) = 1) ∧
      system.leases.countP (LeaseCell.probes system.target.generation) ≤ 1 ∧
      (system.target.probeInFlight = true → system.target.state = .halfOpen)) ∧
    (system.target.state = .opened → ∀ now, now < system.target.ejectedUntil →
      system.target.acquire now = (system.target, .error .circuitOpen)) := by
  intro system
  rcases newTargetManager_registered created found with ⟨deployment, _, _, _, _, rfl⟩
  have accounted : TargetSystem.Accounted deployment.maxConcurrency system :=
    TargetSystem.accounted_run (.initially deployment) operations
  have probes := accounted.countP_probes
  refine ⟨⟨accounted.active, ?_, ?_⟩, accounted.bounded, ⟨?_, ?_, accounted.halfOpen⟩, ?_⟩
  · rw [accounted.active]
    exact Int.natCast_nonneg _
  · rintro index ⟨lease, phase⟩ cellFound completed result failureClass
    cases phase with
    | held => exact absurd rfl completed
    | completing _ _ | settled => simp [TargetSystem.step, cellFound]
  · cases busy : system.target.probeInFlight with
    | false =>
      simp only [busy, Bool.false_eq_true, if_false] at probes
      simp only [Bool.false_eq_true, false_iff]
      omega
    | true =>
      simp only [busy, if_true] at probes
      simp only [true_iff]
      omega
  · split at probes <;> omega
  · intro opened now waiting
    simp [TargetRuntime.acquire, TargetRuntime.advance, TargetRuntime.admissionReason, opened,
      waiting]

theorem targetManager_admission_single :
    ∃ manager target, newTargetManager [{ name := "local", maxConcurrency := 1 }] = .ok manager ∧
      manager.lookup "local" = some target ∧ 0 < target.maxConcurrency ∧
      ((TargetSystem.initial target).run
        [.acquire 0, .acquire 1, .complete 0 .failure "timeout", .settle 0 2,
          .acquire 3]).target.active ≤ target.maxConcurrency := by
  let deployment : Config.Deployment := { name := "local", maxConcurrency := 1 }
  have created : newTargetManager [deployment] =
      .ok [("local", newTargetRuntime deployment)] := by
    simp [newTargetManager, addTargets, deployment, Config.CircuitPolicy.validate_default]
  have found : List.lookup "local" [("local", newTargetRuntime deployment)] =
      some (newTargetRuntime deployment) := rfl
  exact ⟨_, _, created, found, by decide, (targetManager_admission created found _).2.1 (by decide)⟩

end SparkRoute.Routing
