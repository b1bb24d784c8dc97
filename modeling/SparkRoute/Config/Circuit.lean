import Mathlib.Data.Int.Order.Basic
import SparkRoute.Lib.Checked

/-!
# Circuit policy of a deployment

`CircuitPolicy` is the authored block and `EffectiveCircuitPolicy` the one
with every default filled in.  Durations are integers, in nanoseconds.  The
failure rate is a `Float`, whose kernel model is IEEE binary64, exactly as in the gateway.
-/

namespace SparkRoute.Config

def second : Int := 1000000000

def minute : Int := 60 * second

def hour : Int := 60 * minute

structure CircuitPolicy where
  disabled : Bool := false
  consecutiveFailures : Int := 0
  minimumSamples : Int := 0
  sampleWindow : Int := 0
  failureRate : Float := 0
  baseEjectionTime : Int := 0
  maxEjectionTime : Int := 0

structure EffectiveCircuitPolicy where
  disabled : Bool
  consecutiveFailures : Int
  minimumSamples : Int
  sampleWindow : Int
  failureRate : Float
  baseEjectionTime : Int
  maxEjectionTime : Int

def maxCircuitSamples : Int := 10000

def maxConfiguredEjectionTime : Int := 24 * hour

def defaultCircuitConsecutiveFailures : Int := 5

def defaultCircuitMinimumSamples : Int := 20

def defaultCircuitSampleWindow : Int := 50

def defaultCircuitFailureRate : Float := 0.5

def defaultCircuitBaseEjectionTime : Int := 30 * second

def defaultCircuitMaxEjectionTime : Int := 10 * minute

namespace CircuitPolicy

/-- The default window and the default maximum ejection grow with the
configured minimum and base, so a partial block is never inconsistent. -/
def effective (policy : CircuitPolicy) : EffectiveCircuitPolicy :=
  let consecutive := if policy.consecutiveFailures = 0
    then defaultCircuitConsecutiveFailures else policy.consecutiveFailures
  let minimum := if policy.minimumSamples = 0
    then defaultCircuitMinimumSamples else policy.minimumSamples
  let window := if policy.sampleWindow = 0
    then (if defaultCircuitSampleWindow < minimum
      then minimum else defaultCircuitSampleWindow)
    else policy.sampleWindow
  let rate := if policy.failureRate == 0
    then defaultCircuitFailureRate else policy.failureRate
  let base := if policy.baseEjectionTime = 0
    then defaultCircuitBaseEjectionTime else policy.baseEjectionTime
  let maximum := if policy.maxEjectionTime = 0
    then (if defaultCircuitMaxEjectionTime < base
      then base else defaultCircuitMaxEjectionTime)
    else policy.maxEjectionTime
  { disabled := policy.disabled
    consecutiveFailures := consecutive
    minimumSamples := minimum
    sampleWindow := window
    failureRate := rate
    baseEjectionTime := base
    maxEjectionTime := maximum }

/-- The first failed check, in the source's order, with its message. -/
def validate (policy : CircuitPolicy) : Except String Unit :=
  let effective := policy.effective
  if effective.consecutiveFailures < 1 ∨
      maxCircuitSamples < effective.consecutiveFailures then
    .error "consecutive_failures must be between 1 and 10000, or 0 for default"
  else if effective.minimumSamples < 1 ∨
      maxCircuitSamples < effective.minimumSamples then
    .error "minimum_samples must be between 1 and 10000, or 0 for default"
  else if effective.sampleWindow < effective.minimumSamples ∨
      maxCircuitSamples < effective.sampleWindow then
    .error s!"sample_window must be between effective minimum_samples ({effective.minimumSamples}) and 10000"
  else if effective.failureRate ≤ 0 ∨ 1 < effective.failureRate then
    .error "failure_rate must be greater than 0 and at most 1, or 0 for default"
  else if effective.baseEjectionTime ≤ 0 ∨
      maxConfiguredEjectionTime < effective.baseEjectionTime then
    .error "base_ejection_time must be positive and at most 24h0m0s"
  else if effective.maxEjectionTime < effective.baseEjectionTime ∨
      maxConfiguredEjectionTime < effective.maxEjectionTime then
    .error "max_ejection_time must be at least base_ejection_time and at most 24h0m0s"
  else
    .ok ()

/-- What an accepted policy guarantees about its effective values.  The rate is
only bounded through `Float` comparisons, which a NaN also passes. -/
structure Accepted (policy : EffectiveCircuitPolicy) : Prop where
  consecutive : 1 ≤ policy.consecutiveFailures
  minimum : 1 ≤ policy.minimumSamples
  window : policy.minimumSamples ≤ policy.sampleWindow
  base : 0 < policy.baseEjectionTime
  maximum : policy.baseEjectionTime ≤ policy.maxEjectionTime

theorem accepted_of_validate {policy : CircuitPolicy}
    (valid : policy.validate = .ok ()) : Accepted policy.effective := by
  simp only [validate, Lib.check_eq_ok] at valid
  obtain ⟨consecutive, minimum, window, rate, base, maximum, _⟩ := valid
  exact ⟨by omega, by omega, by omega, by omega, by omega⟩

theorem validate_default : ({} : CircuitPolicy).validate = .ok () := rfl

end CircuitPolicy

end SparkRoute.Config
