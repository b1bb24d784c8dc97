import SparkRoute.Config.Document
import SparkRoute.Lib.Machine

/-!
# One routing target

`TargetRuntime` is the mutable record behind one deployment: its concurrency
counter, its circuit, and the ring of recent results.  Every function here is
the body of one critical section, or a step of one, and the clock reading it
uses is an argument.  Times are nanoseconds since the zero time.
-/

namespace SparkRoute.Routing

open Config SparkRoute.Lib List

inductive CircuitState where
  | closed
  | opened
  | halfOpen
  deriving DecidableEq

inductive AdmissionReason where
  | circuitOpen
  | halfOpenInFlight
  | concurrencyLimit
  | unknownTarget
  deriving DecidableEq

/-- The source's type is an open string; `other` is any further value. -/
inductive TargetResult where
  | success
  | failure
  | neutral
  | other
  deriving DecidableEq

structure RecentTargetFailure where
  occurredAt : Int
  failureClass : String
  deriving DecidableEq

structure CircuitTransition where
  deployment : String
  source : CircuitState
  target : CircuitState
  reason : String
  ejectionCount : Nat := 0
  ejectedUntil : Int := 0

structure TargetRuntime where
  deployment : String
  maxConcurrency : Int
  policy : EffectiveCircuitPolicy
  state : CircuitState := .closed
  active : Int := 0
  consecutiveFailures : Nat := 0
  samples : List Bool
  sampleCount : Nat := 0
  sampleCursor : Nat := 0
  failuresInWindow : Int := 0
  ejectionCount : Nat := 0
  ejectedUntil : Int := 0
  generation : UInt64 := 0
  probeInFlight : Bool := false
  recentFailures : List RecentTargetFailure := []

structure TargetLease where
  healthApplied : Bool := false
  circuitOpened : Bool := false
  deployment : String
  circuitState : CircuitState
  halfOpenProbe : Bool
  activeRequests : Int
  circuitGeneration : UInt64

def maxRecentTargetFailures : Nat := 8

def maxFailureClassLength : Nat := 96

def failureClassCharacter (character : Char) : Bool :=
  ('a' ≤ character ∧ character ≤ 'z') ∨ ('0' ≤ character ∧ character ≤ '9') ∨
    character = '_' ∨ character = '-' ∨ character = '.'

def sanitizeTargetFailureClass (value : String) : String :=
  if value = "" then "upstream_failure"
  else if maxFailureClassLength < value.utf8ByteSize then "upstream_failure"
  else if value.toList.all failureClassCharacter then value
  else "upstream_failure"

namespace TargetRuntime

/-- The doubling loop; the guard returns before a product could pass the
maximum, and the product is the 64-bit one. -/
def ejectionLoop (maximum : Int) : Nat → Int → Int
  | 0, duration => if maximum < duration then maximum else duration
  | remaining + 1, duration =>
    if maximum ≤ duration ∨ Int.tdiv maximum 2 < duration then maximum
    else ejectionLoop maximum remaining (wrapInt64 (duration * 2))

variable (target : TargetRuntime)

def ejectionDuration : Int :=
  ejectionLoop target.policy.maxEjectionTime (target.ejectionCount - 1)
    target.policy.baseEjectionTime

variable (now : Int)

def advance : TargetRuntime × Option CircuitTransition :=
  if target.state ≠ .opened ∨ now < target.ejectedUntil then
    (target, none)
  else
    ({ target with
        state := .halfOpen
        generation := target.generation + 1
        probeInFlight := false },
      some
        { deployment := target.deployment
          source := target.state
          target := .halfOpen
          reason := "ejection_elapsed"
          ejectionCount := target.ejectionCount })

def openCircuit (reason : String) :
    TargetRuntime × Option CircuitTransition :=
  let counted := { target with
    state := .opened
    ejectionCount := target.ejectionCount + 1 }
  let ejected := { counted with
    ejectedUntil := now + counted.ejectionDuration
    generation := target.generation + 1
    probeInFlight := false }
  (ejected, some
      { deployment := target.deployment
        source := target.state
        target := .opened
        reason := reason
        ejectionCount := ejected.ejectionCount
        ejectedUntil := ejected.ejectedUntil })

def closeCircuit (reason : String) :
    TargetRuntime × Option CircuitTransition :=
  ({ target with
      state := .closed
      consecutiveFailures := 0
      sampleCount := 0
      sampleCursor := 0
      failuresInWindow := 0
      ejectionCount := 0
      ejectedUntil := 0
      generation := target.generation + 1
      probeInFlight := false
      samples := List.replicate target.samples.length false },
    some
      { deployment := target.deployment
        source := target.state
        target := .closed
        reason := reason })

def recordSample (failed : Bool) : TargetRuntime :=
  let stored :=
    if target.sampleCount < target.samples.length then
      { target with
        samples := target.samples.set target.sampleCursor failed
        sampleCount := target.sampleCount + 1 }
    else
      { target with
        failuresInWindow := if target.samples.getD target.sampleCursor false
          then target.failuresInWindow - 1 else target.failuresInWindow
        samples := target.samples.set target.sampleCursor failed }
  { stored with
    failuresInWindow := if failed
      then stored.failuresInWindow + 1 else stored.failuresInWindow
    sampleCursor := (target.sampleCursor + 1) % target.samples.length }

/-- The rolling-rate test on the counters, in binary64 arithmetic. -/
def failureRateReached : Bool :=
  target.policy.minimumSamples ≤ target.sampleCount ∧
    target.policy.failureRate ≤
      Float.ofInt target.failuresInWindow / Float.ofInt target.sampleCount

def recordClosedResult (result : TargetResult) :
    TargetRuntime × Option CircuitTransition :=
  if target.policy.disabled ∨ result = .neutral then
    (target, none)
  else if result = .failure then
    let sampled := target.recordSample true
    let failed := { sampled with
      consecutiveFailures := sampled.consecutiveFailures + 1 }
    if target.policy.consecutiveFailures ≤ failed.consecutiveFailures then
      failed.openCircuit now "consecutive_failures"
    else if failed.failureRateReached then
      failed.openCircuit now "failure_rate"
    else
      (failed, none)
  else
    ({ target.recordSample false with consecutiveFailures := 0 }, none)

def recordFailure (failureClass : String) : TargetRuntime :=
  let event : RecentTargetFailure := ⟨now, sanitizeTargetFailureClass failureClass⟩
  if target.recentFailures.length = maxRecentTargetFailures then
    { target with recentFailures := target.recentFailures.drop 1 ++ [event] }
  else
    { target with recentFailures := target.recentFailures ++ [event] }

/-- The admission gates, tried in order after `advance`. -/
def admissionReason : Option AdmissionReason :=
  if target.state = .opened then some .circuitOpen
  else if target.state = .halfOpen ∧ target.probeInFlight then some .halfOpenInFlight
  else if 0 < target.maxConcurrency ∧ target.maxConcurrency ≤ target.active then
    some .concurrencyLimit
  else none

/-- A planning hint: it advances the circuit and reserves nothing. -/
def eligible : TargetRuntime × Bool :=
  let advanced := (target.advance now).1
  (advanced, advanced.admissionReason.isNone)

def acquire :
    TargetRuntime × Except AdmissionReason TargetLease :=
  let advanced := (target.advance now).1
  match advanced.admissionReason with
  | some reason => (advanced, .error reason)
  | none =>
    let halfOpen := advanced.state = .halfOpen
    let admitted := { advanced with
      active := advanced.active + 1
      probeInFlight := if halfOpen then true else advanced.probeInFlight }
    (admitted, .ok
      { deployment := admitted.deployment
        circuitState := admitted.state
        halfOpenProbe := halfOpen
        activeRequests := admitted.active
        circuitGeneration := admitted.generation })

/-- The part of a completion that only accounts for the finished request. -/
def releaseSlot (result : TargetResult)
    (failureClass : String) : TargetRuntime :=
  let freed := if 0 < target.active
    then { target with active := target.active - 1 } else target
  if result = .failure then freed.recordFailure now failureClass else freed

/-- How a completion touches the circuit: its new state, whether the result was
applied to it, and the transition it caused. -/
def applyHealth (lease : TargetLease) (now : Int)
    (result : TargetResult) : TargetRuntime × Bool × Option CircuitTransition :=
  if lease.halfOpenProbe ∧ target.state = .halfOpen ∧
      target.generation = lease.circuitGeneration then
    let freed := { target with probeInFlight := false }
    match result with
    | .success =>
      let (closed, transition) := freed.closeCircuit "half_open_success"
      (closed, true, transition)
    | .failure =>
      let (opened, transition) := freed.openCircuit now "half_open_failure"
      (opened, true, transition)
    | _ => (freed, true, none)
  else if ¬ lease.halfOpenProbe ∧ target.state = .closed ∧
      target.generation = lease.circuitGeneration then
    let (recorded, transition) := target.recordClosedResult now result
    (recorded, !target.policy.disabled, transition)
  else
    (target, lease.healthApplied, none)

/-- The critical section of `CompleteWithFailureClass`. -/
def complete (lease : TargetLease) (now : Int)
    (result : TargetResult) (failureClass : String) : TargetRuntime × TargetLease :=
  let (updated, applied, transition) :=
    (target.releaseSlot now result failureClass).applyHealth lease now result
  (updated, { lease with
      healthApplied := applied
      circuitOpened := transition.any fun event => event.target = .opened })

end TargetRuntime

structure TargetStatus where
  deployment : String
  circuitState : CircuitState
  activeRequests : Int
  maxConcurrency : Int
  consecutiveFailures : Nat
  samples : Nat
  failures : Int
  ejectionCount : Nat
  ejectedUntil : Int
  halfOpenProbeActive : Bool
  recentFailures : List RecentTargetFailure

/-- Recent failures are reported newest first. -/
def TargetRuntime.currentStatus (target : TargetRuntime) : TargetStatus where
  deployment := target.deployment
  circuitState := target.state
  activeRequests := target.active
  maxConcurrency := target.maxConcurrency
  consecutiveFailures := target.consecutiveFailures
  samples := target.sampleCount
  failures := target.failuresInWindow
  ejectionCount := target.ejectionCount
  ejectedUntil := target.ejectedUntil
  halfOpenProbeActive := target.probeInFlight
  recentFailures := target.recentFailures.reverse

def TargetRuntime.status (target : TargetRuntime) (now : Int) : TargetRuntime × TargetStatus :=
  let advanced := (target.advance now).1
  (advanced, advanced.currentStatus)

def newTargetRuntime (deployment : Deployment) : TargetRuntime :=
  let policy := deployment.circuit.effective
  { deployment := deployment.name
    maxConcurrency := deployment.maxConcurrency
    policy := policy
    samples := List.replicate policy.sampleWindow.toNat false }

/-- The construction loop of `NewTargetManager`. -/
def addTargets :
    Nat → List (String × TargetRuntime) → List Deployment →
      Except String (List (String × TargetRuntime))
  | _, targets, [] => .ok targets
  | index, targets, deployment :: rest =>
    if deployment.name = "" then
      .error s!"deployments[{index}].name is required"
    else if (targets.lookup deployment.name).isSome then
      .error s!"duplicate deployment \"{deployment.name}\""
    else if deployment.maxConcurrency < 0 then
      .error s!"deployment \"{deployment.name}\" max_concurrency must not be negative"
    else
      match deployment.circuit.validate with
      | .error message =>
        .error s!"deployment \"{deployment.name}\" circuit: {message}"
      | .ok () =>
        addTargets (index + 1)
          (targets ++ [(deployment.name, newTargetRuntime deployment)]) rest

def newTargetManager (deployments : List Deployment) :
    Except String (List (String × TargetRuntime)) :=
  addTargets 0 [] deployments

/-- A target that `NewTargetManager` may register under `name`. -/
def Registered (deployments : List Deployment) (name : String) (target : TargetRuntime) : Prop :=
  ∃ deployment ∈ deployments, deployment.name = name ∧ 0 ≤ deployment.maxConcurrency ∧
      deployment.circuit.validate = .ok () ∧ target = newTargetRuntime deployment

variable {manager : List (String × TargetRuntime)} {deployments : List Deployment}

theorem addTargets_registered (all : List Deployment) {index : Nat}
    {targets : List (String × TargetRuntime)}
    (included : ∀ deployment ∈ deployments, deployment ∈ all)
    (before : ∀ name target, (name, target) ∈ targets → Registered all name target)
    (created : addTargets index targets deployments = .ok manager) :
    ∀ name target, (name, target) ∈ manager → Registered all name target := by
  fun_induction addTargets index targets deployments with
  | case1 =>
    cases created
    exact before
  | case6 index targets deployment rest _ _ bounded valid ih =>
    apply ih ?_ ?_ created
    · intro later mem
      exact included later (mem_cons_of_mem _ mem)
    · intro name target mem
      rcases mem_append.mp mem with earlier | added
      · exact before name target earlier
      · simp only [mem_singleton, Prod.mk.injEq] at added
        exact ⟨deployment, included deployment mem_cons_self, added.1.symm, by omega, valid,
          added.2⟩
  | _ => cases created

theorem newTargetManager_registered {name : String} {target : TargetRuntime}
    (created : newTargetManager deployments = .ok manager)
    (found : manager.lookup name = some target) : Registered deployments name target := by
  refine addTargets_registered deployments (fun _ mem => mem) ?_ created
    name target (lookup_eq_some_iff.mp found |>.elim ?_)
  · simp
  · rintro before ⟨after, rfl, _⟩
    simp

end SparkRoute.Routing
