import SparkRoute.Lib.RingCounter
import SparkRoute.Routing.Admission

/-!
# The failure window of a closed circuit

The ring and the counters of a closed circuit refine one list: the results
recorded since the circuit last became closed.  `history` computes that list
beside a run, from the completions alone, and the opening rule is stated on it.
-/

namespace SparkRoute.Routing

open Config SparkRoute.Lib List RingCounter

def trailingFailures (history : List Bool) : Nat :=
  (history.rtakeWhile id).length

theorem trailingFailures_concat (history : List Bool) (failed : Bool) :
    trailingFailures (history ++ [failed]) =
      if failed then trailingFailures history + 1 else 0 := by
  cases failed <;> simp [trailingFailures]

/-- The rolling-rate rule on a list of results, with the binary64 quotient. -/
def rateReached (policy : EffectiveCircuitPolicy) (history : List Bool) : Bool :=
  let samples := min history.length policy.sampleWindow.toNat
  let failures := (history.rtake policy.sampleWindow.toNat).count true
  policy.minimumSamples ≤ samples ∧
    policy.failureRate ≤ Float.ofInt failures / Float.ofInt samples

namespace TargetRuntime

def ring (target : TargetRuntime) : RingCounter :=
  ⟨target.samples, target.sampleCount, target.sampleCursor, target.failuresInWindow⟩

variable (target : TargetRuntime)

variable (failed : Bool)

theorem recordSample_ring : (target.recordSample failed).ring = target.ring.push failed := by
  unfold recordSample push ring
  by_cases room : target.sampleCount < target.samples.length <;> simp [room]

/-- The part of a target that the window is about. -/
structure SameWindow (before after : TargetRuntime) : Prop where
  policy : after.policy = before.policy
  ring : after.ring = before.ring
  consecutiveFailures : after.consecutiveFailures = before.consecutiveFailures

/-- The closed record after one more result, before the opening rule is tried. -/
def sampled (target : TargetRuntime) (failed : Bool) : TargetRuntime :=
  { target.recordSample failed with
    consecutiveFailures := if failed
      then (target.recordSample failed).consecutiveFailures + 1 else 0 }

theorem recordSample_frame :
    (target.recordSample failed).policy = target.policy ∧
      (target.recordSample failed).state = target.state ∧
      (target.recordSample failed).consecutiveFailures = target.consecutiveFailures := by
  unfold recordSample
  split <;> exact ⟨rfl, rfl, rfl⟩

theorem sampled_policy : (target.sampled failed).policy = target.policy :=
  (target.recordSample_frame failed).1

theorem sampled_state : (target.sampled failed).state = target.state :=
  (target.recordSample_frame failed).2.1

theorem sampled_ring : (target.sampled failed).ring = target.ring.push failed :=
  target.recordSample_ring failed

theorem sampled_consecutiveFailures :
    (target.sampled failed).consecutiveFailures =
      if failed then target.consecutiveFailures + 1 else 0 := by
  simp only [sampled, (target.recordSample_frame failed).2.2]

/-- The opening rule on the counters. -/
def opens (target : TargetRuntime) : Bool :=
  target.policy.consecutiveFailures ≤ target.consecutiveFailures ∨
    target.failureRateReached

variable (now : Int)

theorem openCircuit_opened (reason : String) :
    (target.openCircuit now reason).1.state = .opened ∧
      target.SameWindow (target.openCircuit now reason).1 :=
  ⟨rfl, rfl, rfl, rfl⟩

theorem recordClosedResult_failure (enabled : target.policy.disabled = false) :
    target.recordClosedResult now .failure =
      if target.policy.consecutiveFailures ≤ (target.sampled true).consecutiveFailures then
        (target.sampled true).openCircuit now "consecutive_failures"
      else if (target.sampled true).failureRateReached then
        (target.sampled true).openCircuit now "failure_rate"
      else
        (target.sampled true, none) := by
  unfold recordClosedResult
  rw [if_neg (by simp [enabled]), if_pos rfl]
  rfl

variable {result : TargetResult}

/-- A counted result is sampled, and the opening rule is tried on a failure only. -/
theorem recordClosedResult_sampled (now : Int) (enabled : target.policy.disabled = false)
    (counted : result ≠ .neutral) : let failed := decide (result = .failure)
    let recorded := (target.recordClosedResult now result).1
    if failed && (target.sampled failed).opens then
      recorded.state = .opened ∧ (target.sampled failed).SameWindow recorded
    else recorded = target.sampled failed := by
  intro failed recorded
  by_cases failure : result = .failure
  · subst failure
    simp only [failed, recorded, decide_true, Bool.true_and, opens, sampled_policy,
      recordClosedResult_failure target now enabled]
    by_cases trailing :
        target.policy.consecutiveFailures ≤ (target.sampled true).consecutiveFailures
    · simp only [trailing, true_or, decide_true, if_true]
      exact openCircuit_opened _ _ _
    · by_cases rate : (target.sampled true).failureRateReached = true
      · simp only [trailing, rate, or_true, decide_true, if_true, if_false]
        exact openCircuit_opened _ _ _
      · simp only [trailing, rate, or_self, decide_false, Bool.false_eq_true, if_false]
  · have failedFalse : failed = false := decide_eq_false failure
    simp only [failedFalse, Bool.false_and, Bool.false_eq_true, if_false, recorded]
    unfold recordClosedResult
    rw [if_neg (by simp [enabled, counted]), if_neg failure]
    rfl

variable {after : TargetRuntime}

theorem SameWindow.opens {before : TargetRuntime} (same : before.SameWindow after) :
    after.opens = before.opens := by
  have count : after.sampleCount = before.sampleCount :=
    congrArg count same.ring
  have hits : after.failuresInWindow = before.failuresInWindow :=
    congrArg hits same.ring
  have rate : after.failureRateReached = before.failureRateReached := by
    unfold failureRateReached
    rw [same.policy, count, hits]
  unfold TargetRuntime.opens
  rw [same.policy, same.consecutiveFailures, rate]

/-- What one operation may do to the window, given the result it records. -/
inductive WindowEffect (before : TargetRuntime) :
    Option Bool → TargetRuntime → Prop where
  | kept {after : TargetRuntime} (window : before.SameWindow after)
      (stays : after.state = before.state ∨
        before.state ≠ .closed ∧ after.state ≠ .closed) :
      WindowEffect before none after
  | recovered {after : TargetRuntime} (elsewhere : before.state ≠ .closed)
      (closed : after.state = .closed) (policy : after.policy = before.policy)
      (ring : after.ring = .empty before.samples.length)
      (consecutiveFailures : after.consecutiveFailures = 0) :
      WindowEffect before none after
  | counted {failed : Bool} {after : TargetRuntime} (closed : before.state = .closed)
      (policy : after.policy = before.policy)
      (ring : after.ring = before.ring.push failed)
      (consecutiveFailures : after.consecutiveFailures =
        if failed then before.consecutiveFailures + 1 else 0)
      (state : after.state = if failed && after.opens then .opened else .closed) :
      WindowEffect before (some failed) after

theorem WindowEffect.refl : WindowEffect target none target :=
  .kept ⟨rfl, rfl, rfl⟩ (Or.inl rfl)

theorem advance_window : WindowEffect target none (target.advance now).1 := by
  rcases target.advance_cases now with ⟨same, _⟩ | ⟨changed, opened, _⟩
  · rw [same]
    exact .refl target
  · rw [changed]
    exact .kept ⟨rfl, rfl, rfl⟩ (Or.inr ⟨by simp [opened], by simp⟩)

theorem acquire_window : WindowEffect target none (target.acquire now).1 := by
  have advanced := target.advance_window now
  unfold acquire
  dsimp only
  split
  next => exact advanced
  cases advanced with
  | kept window stays =>
    exact .kept ⟨window.policy, window.ring, window.consecutiveFailures⟩ stays
  | recovered elsewhere closed policy ring consecutiveFailures =>
    exact .recovered elsewhere closed policy ring consecutiveFailures

theorem recordClosedResult_window (enabled : target.policy.disabled = false)
    (closed : target.state = .closed) (counted : result ≠ .neutral) :
    WindowEffect target (some (decide (result = .failure)))
      (target.recordClosedResult now result).1 := by
  have outcome := target.recordClosedResult_sampled now enabled counted
  generalize (target.recordClosedResult now result).1 = recorded at outcome ⊢
  generalize decide (result = .failure) = failed at outcome ⊢
  have policy := target.sampled_policy failed
  have ring := target.sampled_ring failed
  have consecutive := target.sampled_consecutiveFailures failed
  simp only at outcome
  split at outcome
  next opening =>
    rcases outcome with ⟨opened, window⟩
    refine .counted closed (window.policy.trans policy) (window.ring.trans ring)
      (window.consecutiveFailures.trans consecutive) ?_
    rw [opened, window.opens, if_pos opening]
  next staying =>
    subst outcome
    refine .counted closed policy ring consecutive ?_
    rw [if_neg staying, target.sampled_state, closed]

/-- The result that a completion of `lease` records in the window of a target. -/
def recordedResult (target : TargetRuntime) (lease : TargetLease)
    (result : TargetResult) : Option Bool :=
  if target.state = .closed ∧ lease.halfOpenProbe = false ∧
      lease.circuitGeneration = target.generation ∧ result ≠ .neutral then
    some (decide (result = .failure))
  else
    none

variable {lease : TargetLease}

theorem recordedResult_none {target : TargetRuntime}
    (excluded : target.state ≠ .closed ∨ lease.halfOpenProbe = true ∨ lease.circuitGeneration ≠
      target.generation ∨ result = .neutral) : target.recordedResult lease result = none := by
  unfold recordedResult
  rw [if_neg]
  rintro ⟨closed, ordinary, current, counted⟩
  rcases excluded with elsewhere | probe | stale | neutral
  · exact elsewhere closed
  · simp [probe] at ordinary
  · exact stale current
  · exact counted neutral

theorem applyHealth_window (lease : TargetLease) (now : Int)
    (result : TargetResult) (enabled : target.policy.disabled = false) :
    WindowEffect target (target.recordedResult lease result)
      (target.applyHealth lease now result).1 := by
  by_cases matched : lease.halfOpenProbe ∧ target.state = .halfOpen ∧
      target.generation = lease.circuitGeneration
  · rw [recordedResult_none (Or.inr (Or.inl matched.1)), applyHealth, if_pos matched]
    have elsewhere : target.state ≠ .closed := by simp [matched.2.1]
    cases result with
    | success => exact .recovered elsewhere rfl rfl rfl rfl
    | failure => exact .kept ⟨rfl, rfl, rfl⟩ (Or.inr ⟨elsewhere, by simp [openCircuit]⟩)
    | neutral | other => exact .kept ⟨rfl, rfl, rfl⟩ (Or.inl rfl)
  · rw [applyHealth, if_neg matched]
    by_cases ordinary : ¬ lease.halfOpenProbe ∧ target.state = .closed ∧
        target.generation = lease.circuitGeneration
    · rw [if_pos ordinary]
      by_cases neutral : result = .neutral
      · rw [recordedResult_none (Or.inr (Or.inr (Or.inr neutral)))]
        simp only [recordClosedResult, neutral, or_true, if_true]
        exact .refl target
      · have recorded : target.recordedResult lease result =
            some (decide (result = .failure)) := by
          unfold recordedResult
          rw [if_pos ⟨ordinary.2.1, by simpa using ordinary.1, ordinary.2.2.symm, neutral⟩]
        rw [recorded]
        exact target.recordClosedResult_window now enabled ordinary.2.1 neutral
    · rw [if_neg ordinary, recordedResult_none]
      · exact .refl target
      · by_contra included
        simp only [not_or, not_not] at included
        exact ordinary ⟨included.2.1, included.1, included.2.2.1.symm⟩

theorem WindowEffect.of_released {target : TargetRuntime} {recorded : Option Bool} {active : Int}
    {recentFailures : List RecentTargetFailure} (effect : WindowEffect
      { target with active := active, recentFailures := recentFailures } recorded after) :
    WindowEffect target recorded after := by
  cases effect with
  | kept window stays =>
    exact .kept ⟨window.policy, window.ring, window.consecutiveFailures⟩ stays
  | recovered elsewhere closed policy ring consecutiveFailures =>
    exact .recovered elsewhere closed policy ring consecutiveFailures
  | counted closed policy ring consecutiveFailures state =>
    exact .counted closed policy ring consecutiveFailures state

theorem complete_window (lease : TargetLease) (now : Int)
    (result : TargetResult) (failureClass : String) (enabled : target.policy.disabled = false) :
    WindowEffect target (target.recordedResult lease result)
      (target.complete lease now result failureClass).1 := by
  have effect := (target.releaseSlot now result failureClass).applyHealth_window
    lease now result
  rcases target.releaseSlot_frame now result failureClass with ⟨recentFailures, released⟩
  unfold complete
  rw [released] at effect ⊢
  exact (effect enabled).of_released

/-- A completion from another generation is only accounted for. -/
theorem complete_stale (result : TargetResult) (failureClass : String)
    (stale : lease.circuitGeneration ≠ target.generation) :
    ∃ active recentFailures, (target.complete lease now result failureClass).1 =
        { target with active := active, recentFailures := recentFailures } := by
  rcases target.releaseSlot_frame now result failureClass with ⟨recentFailures, released⟩
  refine ⟨if 0 < target.active then target.active - 1 else target.active, recentFailures, ?_⟩
  unfold complete applyHealth
  rw [released, if_neg fun matched => stale matched.2.2.symm,
    if_neg fun matched => stale matched.2.2.symm]

end TargetRuntime

namespace TargetSystem

def recorded (system : TargetSystem) : TargetOperation → Option Bool
  | .settle index _ =>
    match system.completing index with
    | some (lease, result, _) => system.target.recordedResult lease result
    | none => none
  | _ => none

/-- One step of a run, with the list of results restarted whenever the circuit
becomes closed. -/
def observe (entry : TargetSystem × List Bool) (operation : TargetOperation) :
    TargetSystem × List Bool :=
  let after := entry.1.step operation
  (after, if entry.1.target.state ≠ .closed ∧ after.target.state = .closed then []
    else entry.2 ++ (entry.1.recorded operation).toList)

/-- The results recorded since the circuit last became closed. -/
def history (target : TargetRuntime) (operations : List TargetOperation) : List Bool :=
  (Lib.run observe (initial target, []) operations).2

theorem run_observe (system : TargetSystem) (results : List Bool)
    (operations : List TargetOperation) :
    (Lib.run observe (system, results) operations).1 = system.run operations := by
  induction operations generalizing system results with
  | nil => rfl
  | cons operation operations ih =>
    exact ih _ _

theorem step_window (system : TargetSystem) (operation : TargetOperation)
    (enabled : system.target.policy.disabled = false) :
    system.target.WindowEffect (system.recorded operation)
      (system.step operation).target := by
  cases operation with
  | eligible now | status now => exact system.target.advance_window now
  | acquire now =>
    have acquired := system.target.acquire_window now
    simp only [step, recorded]
    split
    next admitted =>
      rw [admitted] at acquired
      exact acquired
    next rejected =>
      rw [rejected] at acquired
      exact acquired
  | complete index result failureClass =>
    simp only [step, recorded]
    split <;> exact .refl system.target
  | settle index now =>
    cases completing : system.completing index with
    | none =>
      rw [step_settle_of_none completing]
      simp only [recorded, completing]
      exact .refl system.target
    | some entry =>
      rcases entry with ⟨lease, result, failureClass⟩
      rw [step_settle_of_completing completing]
      simp only [recorded, completing]
      exact system.target.complete_window lease now result failureClass enabled

/-- The counters of a closed circuit are those of the recorded results. -/
structure Windowed (policy : EffectiveCircuitPolicy)
    (entry : TargetSystem × List Bool) : Prop where
  configured : entry.1.target.policy = policy
  capacity : entry.1.target.samples.length = policy.sampleWindow.toNat
  tracks : entry.1.target.state = .closed → entry.1.target.ring.Tracks entry.2
  trailing : entry.1.target.state = .closed →
    entry.1.target.consecutiveFailures = trailingFailures entry.2

variable {policy : EffectiveCircuitPolicy} {deployment : Deployment}

theorem Windowed.initially (accepted : CircuitPolicy.Accepted deployment.circuit.effective) :
    Windowed deployment.circuit.effective (initial (newTargetRuntime deployment), []) where
  configured := rfl
  capacity := length_replicate
  tracks := fun _ => by
    have minimum := accepted.minimum
    have window := accepted.window
    exact empty_tracks (by omega)
  trailing := fun _ => rfl

theorem Windowed.observe {entry : TargetSystem × List Bool} (windowed : Windowed policy entry)
    (accepted : CircuitPolicy.Accepted policy) (enabled : policy.disabled = false)
    (operation : TargetOperation) : Windowed policy (TargetSystem.observe entry operation) := by
  have effect := entry.1.step_window operation (by rw [windowed.configured]; exact enabled)
  have capacity := windowed.capacity
  unfold TargetSystem.observe
  generalize entry.1.recorded operation = recorded at effect ⊢
  generalize entry.1.step operation = after at effect ⊢
  cases effect with
  | kept window stays =>
    have samples : after.target.samples = entry.1.target.samples :=
      congrArg cells window.ring
    have closedBefore (closed : after.target.state = .closed) :
        entry.1.target.state = .closed := by
      rcases stays with same | ⟨_, elsewhere⟩
      · rw [← same]
        exact closed
      · exact absurd closed elsewhere
    refine ⟨window.policy.trans windowed.configured, by rw [samples]; exact capacity, ?_, ?_⟩
    · intro closed
      simp only [closedBefore closed, ne_eq, not_true_eq_false, false_and, if_false,
        Option.toList_none, append_nil, window.ring]
      exact windowed.tracks (closedBefore closed)
    · intro closed
      simp only [closedBefore closed, ne_eq, not_true_eq_false, false_and, if_false,
        Option.toList_none, append_nil, window.consecutiveFailures]
      exact windowed.trailing (closedBefore closed)
  | recovered elsewhere closed samePolicy ring consecutiveFailures =>
    have minimum := accepted.minimum
    have atLeast := accepted.window
    have samples : after.target.samples = List.replicate entry.1.target.samples.length false :=
      congrArg cells ring
    refine ⟨samePolicy.trans windowed.configured, ?_, ?_, ?_⟩
    · simp only [samples, length_replicate]
      exact capacity
    · intro _
      simp only [elsewhere, closed, ne_eq, not_false_eq_true, and_self, if_true, ring]
      exact empty_tracks (by omega)
    · intro _
      simp only [elsewhere, closed, ne_eq, not_false_eq_true, and_self, if_true,
        consecutiveFailures]
      rfl
  | counted closed samePolicy ring consecutiveFailures state =>
    have samples : after.target.samples.length = entry.1.target.samples.length := by
      have cells := congrArg (fun counter => counter.cells.length) ring
      exact cells.trans (push_cells_length _ _)
    refine ⟨samePolicy.trans windowed.configured, samples.trans capacity, ?_, ?_⟩
    · intro _
      simp only [closed, ne_eq, not_true_eq_false, false_and, if_false, Option.toList_some, ring]
      exact (windowed.tracks closed).push _
    · intro _
      simp only [closed, ne_eq, not_true_eq_false, false_and, if_false,
        Option.toList_some, consecutiveFailures, trailingFailures_concat,
        windowed.trailing closed]

/-- The opening rule on the recorded results. -/
def opensOn (policy : EffectiveCircuitPolicy) (results : List Bool) : Prop :=
  policy.consecutiveFailures ≤ trailingFailures results ∨
    rateReached policy results = true

variable {system : TargetSystem} {results : List Bool}

theorem Windowed.opens_iff (windowed : Windowed policy (system, results)) {after : TargetRuntime}
    (closed : system.target.state = .closed) (samePolicy : after.policy = system.target.policy)
    (ring : after.ring = system.target.ring.push true)
    (consecutiveFailures : after.consecutiveFailures = system.target.consecutiveFailures + 1) :
    after.opens = true ↔ opensOn policy (results ++ [true]) := by
  have configured : after.policy = policy := samePolicy.trans windowed.configured
  have tracks := (windowed.tracks closed).push true
  have trailing : after.consecutiveFailures = trailingFailures (results ++ [true]) := by
    rw [consecutiveFailures, trailingFailures_concat, windowed.trailing closed]
    rfl
  have capacity : (system.target.ring.push true).cells.length =
      policy.sampleWindow.toNat := by
    rw [push_cells_length]
    exact windowed.capacity
  rw [← ring] at tracks capacity
  have count := tracks.count
  have hits := tracks.hits
  rw [capacity] at count hits
  have rate : after.failureRateReached = rateReached policy (results ++ [true]) := by
    unfold TargetRuntime.failureRateReached rateReached
    rw [configured, show after.sampleCount = _ from count,
      show after.failuresInWindow = _ from hits]
  simp only [TargetRuntime.opens, opensOn, configured, trailing, rate, decide_eq_true_eq]

/-- From a closed circuit, an operation opens it exactly when it records a
failure that meets the opening rule. -/
theorem Windowed.step_opens_iff (windowed : Windowed policy (system, results))
    (enabled : policy.disabled = false) (closed : system.target.state = .closed)
    (operation : TargetOperation) :
    (system.step operation).target.state = .opened ↔
      system.recorded operation = some true ∧ opensOn policy (results ++ [true]) := by
  have effect := system.step_window operation (by rw [windowed.configured]; exact enabled)
  generalize system.recorded operation = recorded at effect ⊢
  generalize (system.step operation).target = after at effect ⊢
  cases effect with
  | kept window stays =>
    have same : after.state = system.target.state := by
      rcases stays with same | ⟨elsewhere, _⟩
      · exact same
      · exact absurd closed elsewhere
    simp [same, closed]
  | recovered elsewhere => exact absurd closed elsewhere
  | @counted failed _ _ samePolicy ring consecutiveFailures state =>
    cases failed with
    | false => simp [state]
    | true =>
      have rule := windowed.opens_iff closed samePolicy ring consecutiveFailures
      rw [state, ← rule]
      cases after.opens <;> simp

/-- While closed, the ring and its counters are those of the recorded results,
and the opening rule is decided on these results.  The rate is compared in binary64. -/
theorem closedCircuit_refines_history {deployment : Deployment}
    (valid : deployment.circuit.validate = .ok ())
    (enabled : deployment.circuit.disabled = false) (operations : List TargetOperation) :
    let policy := deployment.circuit.effective
    let system := (initial (newTargetRuntime deployment)).run operations
    let results := history (newTargetRuntime deployment) operations
    (system.target.state = .closed →
      system.target.sampleCount = min results.length policy.sampleWindow.toNat ∧
      system.target.failuresInWindow =
        ((results.rtake (min results.length policy.sampleWindow.toNat)).count true : Nat) ∧
      system.target.consecutiveFailures = trailingFailures results ∧
      ∀ operation, (system.step operation).target.state = .opened ↔
        system.recorded operation = some true ∧ opensOn policy (results ++ [true])) ∧
    (∀ index now lease result failureClass,
      system.completing index = some (lease, result, failureClass) →
      lease.circuitGeneration ≠ system.target.generation →
      ∃ active recentFailures, (system.step (.settle index now)).target =
          { system.target with active := active, recentFailures := recentFailures }) := by
  intro policy system results
  have accepted := CircuitPolicy.accepted_of_validate valid
  have windowed : Windowed policy (system, results) := by
    dsimp only [system, results]
    rw [← run_observe _ []]
    exact run_invariant (.initially accepted)
      (fun _ operation windowed => windowed.observe accepted enabled operation) operations
  refine ⟨fun closed => ?_, ?_⟩
  · have tracks := windowed.tracks closed
    have capacity : system.target.ring.cells.length = policy.sampleWindow.toNat :=
      windowed.capacity
    have count := tracks.count
    have hits := tracks.hits
    rw [capacity] at count hits
    refine ⟨count, ?_, windowed.trailing closed, windowed.step_opens_iff enabled closed⟩
    have dropped : results.length - min results.length policy.sampleWindow.toNat =
        results.length - policy.sampleWindow.toNat := by omega
    rw [List.rtake, dropped]
    exact hits
  · intro index now lease result failureClass completing stale
    rw [step_settle_of_completing completing]
    exact system.target.complete_stale now result failureClass stale

def shortWindow : CircuitPolicy where
  consecutiveFailures := 3
  minimumSamples := 2
  sampleWindow := 2
  failureRate := 0.75

/-- The third result takes the cell of the first; the fourth request has failed and is not
settled. -/
def wrappingOperations : List TargetOperation :=
  [.acquire 0, .complete 0 .failure "", .settle 0 0,
    .acquire 0, .complete 1 .success "", .settle 1 0,
    .acquire 0, .complete 2 .failure "", .settle 2 0,
    .acquire 0, .complete 3 .failure ""]

def shortDeployment : Deployment := { name := "local", circuit := shortWindow }

theorem closedCircuit_refines_history_wrapped :
    let system := (initial (newTargetRuntime shortDeployment)).run wrappingOperations
    let results := history (newTargetRuntime shortDeployment) wrappingOperations
    results = [true, false, true] ∧
      system.target.sampleCount = min results.length 2 ∧
      system.target.failuresInWindow = ((results.rtake (min results.length 2)).count true : Nat) ∧
      system.target.consecutiveFailures = trailingFailures results ∧
      (system.step (.settle 3 0)).target.state = .opened := by
  have recorded : history (newTargetRuntime shortDeployment) wrappingOperations =
      [true, false, true] := by
    decide +kernel
  have closed : ((initial (newTargetRuntime shortDeployment)).run
      wrappingOperations).target.state = .closed := by
    decide +kernel
  have valid : shortDeployment.circuit.validate = .ok () := by decide +kernel
  have enabled : shortDeployment.circuit.disabled = false := by decide +kernel
  have refined := (closedCircuit_refines_history valid enabled wrappingOperations).1 closed
  exact ⟨recorded, refined.1, refined.2.1, refined.2.2.1,
    (refined.2.2.2 (.settle 3 0)).mpr ⟨by decide +kernel, .inr (by decide +kernel)⟩⟩

/-- The exact rational value of a finite binary64 number. -/
def binary64Value (number : Float) : Option ℚ :=
  match number.toModel.unpack with
  | .finite .positive mantissa exponent _ => some (mantissa * 2 ^ exponent)
  | .finite .negative mantissa exponent _ => some (-(mantissa * 2 ^ exponent))
  | .zero _ => some 0
  | _ => none

/-- The rolling-rate rule with an exact comparison. -/
def exactRateReached (policy : EffectiveCircuitPolicy) (results : List Bool) : Prop :=
  let samples := min results.length policy.sampleWindow.toNat
  let failures := (results.rtake policy.sampleWindow.toNat).count true
  policy.minimumSamples ≤ samples ∧
    ∃ rate, binary64Value policy.failureRate = some rate ∧
      rate ≤ (failures : ℚ) / samples

def fifthRate : CircuitPolicy where
  consecutiveFailures := 5
  minimumSamples := 5
  sampleWindow := 5
  failureRate := 0.2

def fourSuccessesOneFailure : List TargetOperation :=
  [.acquire 0, .complete 0 .success "", .settle 0 0,
    .acquire 0, .complete 1 .success "", .settle 1 0,
    .acquire 0, .complete 2 .success "", .settle 2 0,
    .acquire 0, .complete 3 .success "", .settle 3 0,
    .acquire 0, .complete 4 .failure ""]

/-- One failure in five is below the exact value of the binary64 number `0.2`,
yet the rounded quotient reaches it and the circuit opens. -/
theorem circuit_opens_below_exact_rate :
    let target := newTargetRuntime { name := "local", circuit := fifthRate }
    let system := (initial target).run fourSuccessesOneFailure
    let results := history target fourSuccessesOneFailure
    fifthRate.validate = .ok () ∧ fifthRate.disabled = false ∧
      system.target.state = .closed ∧ system.recorded (.settle 4 0) = some true ∧
      (system.step (.settle 4 0)).target.state = .opened ∧
      (trailingFailures (results ++ [true]) : Int) < fifthRate.effective.consecutiveFailures ∧
      ¬ exactRateReached fifthRate.effective (results ++ [true]) := by
  refine ⟨rfl, rfl, by decide, by decide, by decide, by decide, ?_⟩
  have value : binary64Value fifthRate.effective.failureRate =
      some (((7205759403792794 : Nat) : ℚ) * (2 : ℚ) ^ (-55 : Int)) := rfl
  rintro ⟨_, rate, equality, below⟩
  have recorded : history (newTargetRuntime { name := "local", circuit := fifthRate })
      fourSuccessesOneFailure = [false, false, false, false] := by decide
  rw [value, Option.some.injEq] at equality
  rw [← equality, recorded] at below
  norm_num [fifthRate, CircuitPolicy.effective, List.rtake] at below

end TargetSystem

end SparkRoute.Routing
