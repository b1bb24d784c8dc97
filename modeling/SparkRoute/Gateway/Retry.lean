import SparkRoute.Config.Validate
import SparkRoute.Pii.Builtin
import SparkRoute.Routing.Target
import SparkRoute.Sparkrun.Workloads

/-!
# Exponential back-offs

Ejections of a target, recoveries of a workload and retries of a request wait for a base
delay that doubles up to a maximum.  The loops differ in how they keep the 64-bit product
from overflowing; for accepted policies all of them compute the capped power.

`trimSpace` and `parseTime` stand for `strings.TrimSpace` and `http.ParseTime`.
-/

namespace SparkRoute.Gateway

open Lib
open Config (CircuitPolicy RetryPolicy second refuse_eq_ok)
open Routing (TargetRuntime)
open Routing.TargetRuntime (ejectionLoop)
open Sparkrun (RecoveryPolicy recoveryBackoff)

/-- `WeightedPicker`: a value below the total, or an error. -/
abbrev Picker := (total : Int) → Except String { value : Int // 0 ≤ value ∧ value < total }

/-- The loop of `retryDelay` leaves where that of `ejectionDuration` returns. -/
def retryBackoff (policy : RetryPolicy) (retryNumber : Int) : Int :=
  let retryNumber := if retryNumber < 1 then 1 else retryNumber
  ejectionLoop policy.maxBackoff (retryNumber - 1).toNat policy.baseBackoff

section

variable (trimSpace : GoString → GoString) (parseTime : GoString → Option Int)

def parseRetryAfter (value : GoString) (now : Int) : Option Int :=
  let value := trimSpace value
  if value = [] then none
  else
    match Pii.atoi value with
    | some seconds =>
      if seconds < 0 ∨ Int.tdiv maxInt64 second < seconds then none
      else some (wrapInt64 (seconds * second))
    | none =>
      (parseTime value).map fun time =>
        -- `Sub` saturates.
        let delay := max minInt64 (min maxInt64 (time - now))
        if delay < 0 then 0 else delay

def retryDelay (policy : RetryPolicy) (retryNumber : Int) (retryAfter : GoString) (now : Int)
    (picker : Picker) : Except String Int := do
  let jitter ← picker (wrapInt64 (retryBackoff policy retryNumber + 1))
  let delay := jitter.val
  match parseRetryAfter trimSpace parseTime retryAfter now with
  | some upstreamDelay =>
    let upstreamDelay :=
      if policy.maxRetryAfter < upstreamDelay then policy.maxRetryAfter else upstreamDelay
    .ok (if delay < upstreamDelay then upstreamDelay else delay)
  | none => .ok delay

end

theorem le_mul_two_pow {base : Int} (nonneg : 0 ≤ base) (count : Nat) :
    base ≤ base * 2 ^ count := by
  have power : (1 : Int) ≤ 2 ^ count := Int.pow_pos (by decide)
  simpa using Int.mul_le_mul_of_nonneg_left power nonneg

theorem ejectionLoop_eq {maximum : Int} (positive : 0 < maximum) (bounded : maximum ≤ maxInt64)
    (count : Nat) {duration : Int} (nonneg : 0 ≤ duration) :
    ejectionLoop maximum count duration = min (duration * 2 ^ count) maximum := by
  induction count generalizing duration with
  | zero =>
    simp only [ejectionLoop]
    omega
  | succ count ih =>
    have grown := le_mul_two_pow (show 0 ≤ duration * 2 by omega) count
    rw [Int.pow_succ', ← Int.mul_assoc]
    unfold ejectionLoop
    rw [Int.tdiv_eq_ediv_of_nonneg positive.le]
    split
    · omega
    · rw [wrapInt64_of_nonneg (by omega) (by omega), ih (by omega)]

variable {policy : RecoveryPolicy}

theorem recoveryBackoff_eq (nonneg : 0 ≤ policy.backoff)
    (ordered : policy.backoff ≤ policy.maxBackoff) (bounded : policy.maxBackoff * 2 ≤ maxInt64)
    (count : Nat) :
    recoveryBackoff policy (count + 1) = min (policy.backoff * 2 ^ count) policy.maxBackoff := by
  induction count with
  | zero =>
    simp only [recoveryBackoff]
    omega
  | succ count ih =>
    have grown := le_mul_two_pow nonneg count
    unfold recoveryBackoff
    rw [ih, Int.pow_succ, ← Int.mul_assoc]
    dsimp only
    split
    · rw [wrapInt64_of_nonneg (by omega) (by omega)]
      omega
    · omega

theorem recoveryPolicy_accepted (valid : policy.validate = .ok ()) :
    0 ≤ policy.effective.backoff ∧ policy.effective.backoff ≤ policy.effective.maxBackoff ∧
      policy.effective.maxBackoff * 2 ≤ maxInt64 := by
  by_cases unset : policy.action = .unset
  · rw [RecoveryPolicy.effective, if_pos unset]
    decide
  · simp only [RecoveryPolicy.validate, if_neg unset, check_eq_ok, bind_eq_ok] at valid
    obtain ⟨_, _, _, _, _, ⟨⟩, durations, ordered⟩ := valid
    simp only [RecoveryPolicy.durations, forM_eq_ok, List.forall_mem_cons, refuse_eq_ok,
      decide_eq_false_iff_not, not_or] at durations ordered
    have day : 24 * (60 * Lifecycle.minute) * 2 ≤ maxInt64 := by decide
    omega

theorem retryPolicy_accepted {policy : RetryPolicy} (valid : policy.validate = .ok ()) :
    0 < policy.effective.baseBackoff ∧
      policy.effective.baseBackoff ≤ policy.effective.maxBackoff ∧
      policy.effective.maxBackoff < maxInt64 ∧ 0 < policy.effective.maxRetryAfter := by
  have day : Config.maxConfiguredTimeout < maxInt64 := by decide
  simp only [RetryPolicy.validate, check_eq_ok] at valid
  omega

theorem retryBackoff_eq {policy : RetryPolicy} (valid : policy.validate = .ok ())
    (retryNumber : Int) : retryBackoff policy.effective retryNumber =
      min (policy.effective.baseBackoff * 2 ^ (max retryNumber 1 - 1).toNat)
        policy.effective.maxBackoff := by
  obtain ⟨base, ordered, bounded, _⟩ := retryPolicy_accepted valid
  have number : (if retryNumber < 1 then 1 else retryNumber) = max retryNumber 1 := by omega
  unfold retryBackoff
  rw [number]
  exact ejectionLoop_eq (by omega) bounded.le _ base.le

section

variable {policy : RetryPolicy} {trimSpace : GoString → GoString}
variable {parseTime : GoString → Option Int} {retryNumber : Int} {retryAfter : GoString} {now : Int}
variable {picker : Picker}

/-- The picker is asked for a value up to the back-off. -/
theorem retryDelay_eq (valid : policy.validate = .ok ()) :
    retryDelay trimSpace parseTime policy.effective retryNumber retryAfter now picker =
      (picker (retryBackoff policy.effective retryNumber + 1)).map fun jitter =>
        match parseRetryAfter trimSpace parseTime retryAfter now with
        | some upstreamDelay => max jitter.val (min upstreamDelay policy.effective.maxRetryAfter)
        | none => jitter.val := by
  obtain ⟨base, ordered, bounded, _⟩ := retryPolicy_accepted valid
  have backoff := retryBackoff_eq valid retryNumber
  have grown := le_mul_two_pow base.le (max retryNumber 1 - 1).toNat
  unfold retryDelay
  rw [wrapInt64_of_nonneg (by omega) (by omega)]
  cases picker (retryBackoff policy.effective retryNumber + 1) with
  | error reason => rfl
  | ok jitter =>
    rw [ok_bind, Except.map]
    cases parseRetryAfter trimSpace parseTime retryAfter now with
    | none => rfl
    | some upstreamDelay =>
      have capped : (if policy.effective.maxRetryAfter < upstreamDelay
          then policy.effective.maxRetryAfter else upstreamDelay) =
          min upstreamDelay policy.effective.maxRetryAfter := by
        omega
      dsimp only
      rw [capped, Int.max_def]
      congr 1
      split <;> split <;> omega

theorem retryDelay_within (valid : policy.validate = .ok ()) {delay : Int}
    (done : retryDelay trimSpace parseTime policy.effective retryNumber retryAfter now picker =
      .ok delay) :
    0 ≤ delay ∧ delay ≤ max policy.effective.maxBackoff policy.effective.maxRetryAfter ∧
      ∀ upstreamDelay, parseRetryAfter trimSpace parseTime retryAfter now = some upstreamDelay →
        min upstreamDelay policy.effective.maxRetryAfter ≤ delay := by
  have backoff := retryBackoff_eq valid retryNumber
  rw [retryDelay_eq valid] at done
  cases drawn : picker (retryBackoff policy.effective retryNumber + 1) with
  | error reason =>
    rw [drawn] at done
    cases done
  | ok jitter =>
    obtain ⟨value, nonneg, below⟩ := jitter
    rw [drawn] at done
    cases parsed : parseRetryAfter trimSpace parseTime retryAfter now with
    | none =>
      rw [parsed] at done
      cases done
      dsimp only
      exact ⟨nonneg, by omega, nofun⟩
    | some upstreamDelay =>
      rw [parsed] at done
      cases done
      dsimp only
      refine ⟨nonneg.trans (Int.le_max_left _ _), Int.max_le.mpr ⟨by omega, by omega⟩, ?_⟩
      rintro _ ⟨⟩
      exact Int.le_max_right _ _

end

theorem ejectionDuration_eq {policy : CircuitPolicy} {target : TargetRuntime} {count : Nat}
    (valid : policy.validate = .ok ()) (same : target.policy = policy.effective)
    (counted : target.ejectionCount = count + 1) :
    target.ejectionDuration =
      min (target.policy.baseEjectionTime * 2 ^ count) target.policy.maxEjectionTime := by
  have day : Config.maxConfiguredEjectionTime ≤ maxInt64 := by decide
  simp only [CircuitPolicy.validate, check_eq_ok] at valid
  rw [TargetRuntime.ejectionDuration, counted, same]
  exact ejectionLoop_eq (by omega) (by omega) _ (by omega)

/-- All three back-offs are the capped power, and a retry waits neither longer than its policy
allows nor shorter than the upstream asks. -/
theorem backoffs_exact (count : Nat) :
    (∀ (policy : CircuitPolicy) (target : TargetRuntime), policy.validate = .ok () →
      target.policy = policy.effective → target.ejectionCount = count + 1 →
      target.ejectionDuration =
        min (target.policy.baseEjectionTime * 2 ^ count) target.policy.maxEjectionTime) ∧
    (∀ policy : RecoveryPolicy, policy.validate = .ok () →
      recoveryBackoff policy.effective (count + 1) =
        min (policy.effective.backoff * 2 ^ count) policy.effective.maxBackoff) ∧
    ∀ policy : RetryPolicy, policy.validate = .ok () →
      retryBackoff policy.effective (count + 1) =
        min (policy.effective.baseBackoff * 2 ^ count) policy.effective.maxBackoff ∧
      ∀ trimSpace parseTime retryNumber retryAfter now picker,
        (∀ message, retryDelay trimSpace parseTime policy.effective retryNumber retryAfter now
            picker = .error message →
          picker (retryBackoff policy.effective retryNumber + 1) = .error message) ∧
        ∀ delay, retryDelay trimSpace parseTime policy.effective retryNumber retryAfter now
            picker = .ok delay →
          0 ≤ delay ∧ delay ≤ max policy.effective.maxBackoff policy.effective.maxRetryAfter ∧
          ∀ upstreamDelay, parseRetryAfter trimSpace parseTime retryAfter now =
              some upstreamDelay →
            min upstreamDelay policy.effective.maxRetryAfter ≤ delay := by
  refine ⟨fun _ _ => ejectionDuration_eq, fun policy valid => ?_, fun policy valid => ⟨?_, ?_⟩⟩
  · obtain ⟨nonneg, ordered, bounded⟩ := recoveryPolicy_accepted valid
    exact recoveryBackoff_eq nonneg ordered bounded count
  · rw [retryBackoff_eq valid]
    congr 3
    omega
  · intro trimSpace parseTime retryNumber retryAfter now picker
    refine ⟨fun message failed => ?_, fun delay => retryDelay_within valid⟩
    rw [retryDelay_eq valid] at failed
    cases drawn : picker (retryBackoff policy.effective retryNumber + 1) with
    | error reason =>
      rw [drawn] at failed
      cases failed
      rfl
    | ok jitter =>
      rw [drawn] at failed
      cases failed

def sampleRetry : RetryPolicy where
  baseBackoff := 300000000
  maxBackoff := second
  maxRetryAfter := 5 * second

def zeroPicker : Picker := fun total =>
  if positive : 0 < total then .ok ⟨0, Int.le_refl 0, positive⟩ else .error "empty range"

/-- At the third failure: two waits that have doubled twice, a retry that has reached its
maximum, and one that waits for the upstream. -/
theorem backoffs_exact_third :
    ({ Routing.newTargetRuntime { name := "local" } with ejectionCount := 3 } :
      TargetRuntime).ejectionDuration = 2 * (60 * second) ∧
    recoveryBackoff ({ action := .restart, backoff := second } : RecoveryPolicy).effective 3 =
      4 * second ∧
    retryBackoff sampleRetry.effective 3 = second ∧
    ∃ delay, retryDelay id (fun _ => none) sampleRetry.effective 3 (ascii "2") 0 zeroPicker =
      .ok delay ∧ 2 * second ≤ delay ∧ delay ≤ 5 * second := by
  obtain ⟨ejects, recovers, retries⟩ := backoffs_exact 2
  have valid : sampleRetry.validate = .ok () := rfl
  have delayed : retryDelay id (fun _ => none) sampleRetry.effective 3 (ascii "2") 0 zeroPicker =
      .ok (2 * second) := by
    decide +kernel
  obtain ⟨_, most, least⟩ := ((retries sampleRetry valid).2 _ _ _ _ _ _).2 _ delayed
  exact ⟨ejects {} _ rfl rfl rfl, recovers { action := .restart, backoff := second } rfl,
    (retries sampleRetry valid).1, _, delayed,
    (by decide : 2 * second ≤ min (2 * second) sampleRetry.effective.maxRetryAfter).trans
      (least (2 * second) (by decide +kernel)), most⟩

end SparkRoute.Gateway
