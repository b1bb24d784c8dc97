import SparkRoute.Gateway.Guardrails

/-!
# The approved context

The context that a review is shown is the longest end of the approved payloads that fits.
-/

namespace SparkRoute.Gateway

open Lib List

def totalBytes (payloads : List GoString) : Int :=
  payloads.flatten.length

/-- The longest suffix of the approved payloads within the limit, and its size. -/
structure LongestSuffix (contextMax : Int) (approved : List GoString)
    (context : List GoString × Int) : Prop where
  suffix : context.1 <:+ approved
  bytes : context.2 = totalBytes context.1
  fits : 0 ≤ contextMax → totalBytes context.1 ≤ contextMax
  longest : ∀ other, other <:+ approved → totalBytes other ≤ contextMax → other <:+ context.1

variable {contextMax : Int} {approved : List GoString} {context : List GoString × Int}

theorem trimContext_longest (payloads : List GoString) :
    LongestSuffix contextMax payloads
      (trimContext contextMax payloads (totalBytes payloads)) := by
  induction payloads with
  | nil => exact ⟨suffix_rfl, rfl, id, fun _ suffix _ => suffix⟩
  | cons payload rest ih =>
    unfold trimContext
    split
    next large =>
      have left : totalBytes (payload :: rest) - payload.length = totalBytes rest := by
        simp only [totalBytes, flatten_cons, length_append]
        omega
      rw [left]
      refine ⟨ih.suffix.trans (suffix_cons payload rest), ih.bytes, ih.fits, ?_⟩
      intro other suffix within
      rcases suffix_cons_iff.mp suffix with rfl | shorter
      · exact absurd within (by omega)
      · exact ih.longest other shorter within
    next within =>
      exact ⟨suffix_rfl, rfl, fun _ => not_lt.mp within, fun _ suffix _ => suffix⟩

theorem rememberPayload_longest (longest : LongestSuffix contextMax approved context)
    (payload : GoString) :
    LongestSuffix contextMax (approved ++ [payload])
      (rememberPayload contextMax context payload) := by
  unfold rememberPayload
  split
  next large =>
    refine ⟨nil_suffix, rfl, id, fun other suffix within => ?_⟩
    rcases suffix_concat_iff.mp suffix with rfl | ⟨front, rfl, -⟩
    · exact suffix_rfl
    · simp only [totalBytes, flatten_concat, length_append] at within
      omega
  next =>
    have trimmed := @trimContext_longest contextMax (context.1 ++ [payload])
    have bytes : totalBytes (context.1 ++ [payload]) = context.2 + payload.length := by
      simp [longest.bytes, totalBytes]
    rw [bytes] at trimmed
    refine ⟨trimmed.suffix.trans ?_, trimmed.bytes, trimmed.fits, fun other suffix within => ?_⟩
    · exact suffix_append_self_iff.mpr longest.suffix
    · apply trimmed.longest other ?_ within
      rcases suffix_concat_iff.mp suffix with rfl | ⟨front, rfl, front_suffix⟩
      · exact nil_suffix
      · apply suffix_append_self_iff.mpr
        apply longest.longest front front_suffix
        simp only [totalBytes, flatten_concat, length_append] at within ⊢
        omega

theorem rememberPayloads_longest (longest : LongestSuffix contextMax approved context)
    (payloads : List GoString) :
    LongestSuffix contextMax (approved ++ payloads)
      (payloads.foldl (rememberPayload contextMax) context) := by
  induction payloads generalizing approved context with
  | nil => simpa using longest
  | cons payload rest ih => simpa using ih (rememberPayload_longest longest payload)

/-! ### Releases -/

namespace GuardrailWriter

variable (policy : GuardrailPolicy)

def releasePayloads (writer : GuardrailWriter) (final : Bool) : List GoString :=
  if writer.pendingEvents ≠ [] ∧ (writer.release policy final).2 = none then
    writer.pendingPayloads
  else []

def callPayloads (writer : GuardrailWriter) : GuardrailCall → List GoString
  | .write event =>
    match writer.keep policy event with
    | (writer, final) =>
      if writer.pendingBytes < policy.windowBytes ∧ !final then []
      else writer.releasePayloads policy final
  | .finish => writer.releasePayloads policy true

/-- A call, with the payloads approved so far. -/
def stepApproving (state : GuardrailWriter × List GoString) (call : GuardrailCall) :
    GuardrailWriter × List GoString :=
  (state.1.step policy call, state.2 ++ state.1.callPayloads policy call)

def window (writer : GuardrailWriter) : List GoString × Int :=
  (writer.contextPayloads, writer.contextBytes)

variable {policy}

theorem review_window (writer : GuardrailWriter) (final : Bool) :
    (writer.review policy final).1.window = writer.window ∧
      (writer.review policy final).1.pendingPayloads = writer.pendingPayloads := by
  unfold review reviewed
  split
  · exact ⟨rfl, rfl⟩
  · obtain ⟨result, invocations⟩ := policy.applyStreamPostGuardrails writer.invocations _
    cases result <;> exact ⟨rfl, rfl⟩

theorem release_window (writer : GuardrailWriter) (final : Bool) :
    (writer.release policy final).1.window =
      (writer.releasePayloads policy final).foldl (rememberPayload policy.contextMax)
        writer.window := by
  have kept := @review_window policy writer final
  unfold releasePayloads
  fun_cases release policy writer final with
  | case1 empty => simp [empty]
  | case2 pending reviewed error stopped => simp_all
  | case3 pending reviewed passed trace reason broken => simp_all [window]
  | case4 pending reviewed passed trace delivered =>
    rw [passed] at kept
    rw [if_pos ⟨pending, rfl⟩, ← kept.1, ← kept.2]
    rfl

theorem step_window (writer : GuardrailWriter) (call : GuardrailCall) :
    (writer.step policy call).window =
      (writer.callPayloads policy call).foldl (rememberPayload policy.contextMax)
        writer.window := by
  cases call with
  | finish => exact release_window writer true
  | write event =>
    have kept : (writer.keep policy event).1.window = writer.window := by
      fun_cases keep policy writer event <;> rfl
    simp only [step, write, callPayloads]
    split
    · exact kept
    · rw [release_window, kept]

end GuardrailWriter

theorem context_longest_suffix (policy : GuardrailPolicy) (calls : List GuardrailCall) :
    let reached := run (GuardrailWriter.stepApproving policy) ({}, []) calls
    LongestSuffix policy.contextMax reached.2
      (reached.1.contextPayloads, reached.1.contextBytes) := by
  refine @run_invariant _ _ _
    (fun state : GuardrailWriter × List GoString =>
      LongestSuffix policy.contextMax state.2 state.1.window) _ ?_ ?_ calls
  · exact ⟨suffix_rfl, rfl, id, fun _ suffix _ => suffix⟩
  · intro state call longest
    simp only [GuardrailWriter.stepApproving, GuardrailWriter.step_window]
    exact rememberPayloads_longest longest _

end SparkRoute.Gateway
