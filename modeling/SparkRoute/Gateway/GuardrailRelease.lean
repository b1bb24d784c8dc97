import SparkRoute.Gateway.Guardrails

/-!
# Only reviewed output is released

`ReleaseCase` says what one release does; from it follows what every sequence of calls
does, whatever the guardrails answer and however the caller goes on after an error.
-/

namespace SparkRoute.Gateway

open Lib List GuardrailWriter

/-- The payload of an event that is subject to review. -/
def GuardrailPolicy.guarded (policy : GuardrailPolicy) (event : GoString) : Option GoString :=
  match policy.extractPayload event with
  | some (payload, false) => some payload
  | _ => none

def GuardrailTrace.event : GuardrailTrace → Option GoString
  | .wrote event _ => some event
  | .review _ _ => none

def GuardrailWriter.written (writer : GuardrailWriter) : List GoString :=
  writer.trace.filterMap GuardrailTrace.event

/-- The destination took everything that it was given. -/
def GuardrailWriter.Taken (writer : GuardrailWriter) : Prop :=
  ∀ event, .wrote event false ∉ writer.trace

def GuardrailWriter.passedReview (writer : GuardrailWriter) : List GuardrailTrace :=
  if writer.pendingPayloads = [] then [] else [.review writer.pendingPayloads .passed]

/-! ### One release -/

theorem deliverAll_cases (policy : GuardrailPolicy) (events : List GoString)
    (trace : List GuardrailTrace) :
    deliverAll policy events trace =
        (trace ++ events.map (.wrote · true), none) ∨
      ∃ front event reason, front ++ [event] <+: events ∧
        deliverAll policy events trace =
          (trace ++ front.map (.wrote · true) ++ [.wrote event false], some reason) := by
  induction events generalizing trace with
  | nil => exact Or.inl (by simp [deliverAll])
  | cons event events ih =>
    unfold deliverAll
    cases policy.deliver trace.length event with
    | some reason =>
      exact Or.inr ⟨[], event, reason, cons_prefix_cons.mpr ⟨rfl, nil_prefix⟩, by simp⟩
    | none =>
      rcases ih (trace ++ [.wrote event true]) with
        all | ⟨front, last, reason, listed, partly⟩
      · exact Or.inl (by simp [all])
      · exact Or.inr ⟨event :: front, last, reason,
          cons_prefix_cons.mpr ⟨rfl, listed⟩, by simp [partly]⟩

section

variable (writer next : GuardrailWriter)

inductive ReleaseCase : Option GuardrailError → Prop where
  | idle (empty : writer.pendingEvents = []) (same : next = writer) : ReleaseCase none
  | refused {result : GuardrailResult} {error : GuardrailError} (refusal : result ≠ .passed)
      (trace : next.trace = writer.trace ++ [.review writer.pendingPayloads result])
      (events : next.pendingEvents = writer.pendingEvents)
      (payloads : next.pendingPayloads = writer.pendingPayloads) : ReleaseCase (some error)
  | broken {front : List GoString} {event : GoString} {error : GuardrailError}
      (listed : front ++ [event] <+: writer.pendingEvents)
      (trace : next.trace = writer.trace ++ (writer.passedReview ++
        (front.map (.wrote · true) ++ [.wrote event false])))
      (events : next.pendingEvents = writer.pendingEvents)
      (payloads : next.pendingPayloads = writer.pendingPayloads) : ReleaseCase (some error)
  | released
      (trace : next.trace = writer.trace ++ (writer.passedReview ++
        writer.pendingEvents.map (.wrote · true)))
      (events : next.pendingEvents = []) (payloads : next.pendingPayloads = []) : ReleaseCase none

end

theorem review_cases (policy : GuardrailPolicy) (writer : GuardrailWriter) (final : Bool) :
    (∃ result error next, result ≠ .passed ∧ writer.review policy final = (next, some error) ∧
      next.trace = writer.trace ++ [.review writer.pendingPayloads result] ∧
      next.pendingEvents = writer.pendingEvents ∧
      next.pendingPayloads = writer.pendingPayloads) ∨
    ∃ next, writer.review policy final = (next, none) ∧
      next.trace = writer.trace ++ writer.passedReview ∧
      next.pendingEvents = writer.pendingEvents ∧
      next.pendingPayloads = writer.pendingPayloads := by
  unfold review passedReview
  by_cases empty : writer.pendingPayloads = []
  · rw [if_pos empty, if_pos empty]
    exact Or.inr ⟨writer, rfl, by simp, rfl, rfl⟩
  rw [if_neg empty, if_neg empty]
  unfold reviewed
  rcases policy.applyStreamPostGuardrails writer.invocations
    ⟨writer.sequence, writer.contextPayloads, writer.pendingPayloads, final⟩ with
    ⟨result, invocations⟩
  cases result with
  | passed => exact Or.inr ⟨_, rfl, rfl, rfl, rfl⟩
  | blocked => exact Or.inl ⟨.blocked, _, _, by decide, rfl, rfl, rfl, rfl⟩
  | failed => exact Or.inl ⟨.failed, _, _, by decide, rfl, rfl, rfl, rfl⟩

theorem release_cases (policy : GuardrailPolicy) (writer : GuardrailWriter) (final : Bool) :
    ReleaseCase writer (writer.release policy final).1 (writer.release policy final).2 := by
  unfold release
  by_cases empty : writer.pendingEvents = []
  · rw [if_pos empty]
    exact .idle empty rfl
  rw [if_neg empty]
  rcases review_cases policy writer final with
    ⟨result, error, next, refusal, reviewed, trace, events, payloads⟩ |
      ⟨next, reviewed, trace, events, payloads⟩
  · rw [reviewed]
    exact .refused refusal trace events payloads
  rw [reviewed]
  dsimp only
  rcases deliverAll_cases policy next.pendingEvents next.trace with
    all | ⟨front, event, reason, listed, partly⟩
  · rw [all]
    refine .released ?_ rfl rfl
    rw [← append_assoc, ← trace, ← events]
    rfl
  · rw [partly]
    refine .broken (events ▸ listed) ?_ events payloads
    rw [← append_assoc, ← trace, ← append_assoc]

/-! ### Runs -/

/-- Every guarded payload was passed by a review before its event was written. -/
def Cleared (policy : GuardrailPolicy) (entries : List GuardrailTrace) : Prop :=
  ∀ (index : Nat) event taken, entries[index]? = some (.wrote event taken) →
    ∀ payload, policy.guarded event = some payload →
      ∃ pending, .review pending .passed ∈ entries.take index ∧ payload ∈ pending

structure Accounted (policy : GuardrailPolicy) (inputs : List GoString)
    (writer : GuardrailWriter) : Prop where
  payloads : writer.pendingPayloads = writer.pendingEvents.filterMap policy.guarded
  events : writer.Taken → inputs = writer.written ++ writer.pendingEvents
  cleared : Cleared policy writer.trace

variable {policy : GuardrailPolicy} {more : List GuardrailTrace}

theorem Cleared.append {trace : List GuardrailTrace} (cleared : Cleared policy trace)
    (later : ∀ (index : Nat) event taken, more[index]? = some (.wrote event taken) → ∀ payload,
      policy.guarded event = some payload → ∃ pending, .review pending .passed ∈ trace ++
      more.take index ∧ payload ∈ pending) : Cleared policy (trace ++ more) := by
  intro index event taken found payload guarded
  rw [take_append]
  rcases Nat.lt_or_ge index trace.length with early | late
  · rw [List.getElem?_append_left early] at found
    obtain ⟨pending, passed, listed⟩ := cleared index event taken found payload guarded
    exact ⟨pending, mem_append_left _ passed, listed⟩
  · rw [List.getElem?_append_right late] at found
    obtain ⟨pending, passed, listed⟩ := later _ event taken found payload guarded
    rw [take_of_length_le late]
    exact ⟨pending, passed, listed⟩

variable {writer : GuardrailWriter}

theorem Cleared.release (cleared : Cleared policy writer.trace)
    (payloads : writer.pendingPayloads = writer.pendingEvents.filterMap policy.guarded)
    {writes : List GuardrailTrace}
    (pending : ∀ event taken, .wrote event taken ∈ writes → event ∈ writer.pendingEvents) :
    Cleared policy (writer.trace ++ (writer.passedReview ++ writes)) := by
  refine cleared.append ?_
  intro index event taken found payload guarded
  have mem : .wrote event taken ∈ writes := by
    have listed := mem_of_getElem? found
    rcases mem_append.mp listed with review | write
    · unfold passedReview at review
      split at review <;> simp at review
    · exact write
  have listed : payload ∈ writer.pendingPayloads := by
    rw [payloads]
    exact mem_filterMap.mpr ⟨event, pending event taken mem, guarded⟩
  have review : writer.passedReview = [.review writer.pendingPayloads .passed] :=
    if_neg (ne_nil_of_mem listed)
  rw [review] at found ⊢
  cases index with
  | zero => simp at found
  | succ index =>
    refine ⟨writer.pendingPayloads, ?_, listed⟩
    simp

variable {next : GuardrailWriter}

theorem GuardrailWriter.written_eq (trace : next.trace = writer.trace ++ more) :
    next.written = writer.written ++ more.filterMap GuardrailTrace.event := by
  rw [written, trace, filterMap_append]
  rfl

theorem GuardrailWriter.Taken.before (taken : next.Taken)
    (trace : next.trace = writer.trace ++ more) : writer.Taken := by
  intro event refused
  exact taken event (trace ▸ mem_append_left more refused)

variable {inputs : List GoString} {error : Option GuardrailError}

theorem accounted_release (accounted : Accounted policy inputs writer)
    (outcome : ReleaseCase writer next error) : Accounted policy inputs next := by
  cases outcome with
  | idle empty same => rwa [same]
  | refused refusal trace events payloads =>
    refine ⟨by rw [payloads, events, accounted.payloads], ?_, ?_⟩
    · intro taken
      rw [written_eq trace, events, accounted.events (taken.before trace)]
      simp [GuardrailTrace.event]
    · rw [trace]
      exact accounted.cleared.append (by simp [List.getElem?_cons])
  | @broken front event error listed trace events payloads =>
    refine ⟨by rw [payloads, events, accounted.payloads], ?_, ?_⟩
    · intro taken
      have refused : .wrote event false ∈ next.trace := by simp [trace]
      exact absurd refused (taken event)
    · rw [trace]
      refine accounted.cleared.release accounted.payloads ?_
      intro event taken mem
      refine listed.subset ?_
      simp only [mem_append, mem_map, mem_singleton, GuardrailTrace.wrote.injEq] at mem ⊢
      rcases mem with ⟨written, present, rfl, _⟩ | ⟨rfl, _⟩
      · exact Or.inl present
      · exact Or.inr rfl
  | released trace events payloads =>
    refine ⟨by rw [payloads, events]; rfl, ?_, ?_⟩
    · intro taken
      rw [written_eq trace, events, accounted.events (taken.before trace),
        filterMap_append, filterMap_map]
      unfold passedReview
      split <;> simp [Function.comp_def, GuardrailTrace.event]
    · rw [trace]
      refine accounted.cleared.release accounted.payloads ?_
      intro event taken mem
      obtain ⟨written, present, same⟩ := mem_map.mp mem
      cases same
      exact present

theorem accounted_keep (accounted : Accounted policy inputs writer) (event : GoString) :
    Accounted policy (inputs ++ [event]) (writer.keep policy event).1 := by
  obtain ⟨payloads, events, cleared⟩ := accounted
  unfold keep
  cases extracted : policy.extractPayload event with
  | none =>
    refine ⟨by simp [payloads, GuardrailPolicy.guarded, extracted], fun taken => ?_, cleared⟩
    rw [events taken, append_assoc]
    rfl
  | some found =>
    obtain ⟨payload, _ | _⟩ := found
    all_goals
      refine ⟨by simp [payloads, GuardrailPolicy.guarded, extracted], fun taken => ?_, cleared⟩
      rw [events taken, append_assoc]
      rfl

theorem keep_trace (policy : GuardrailPolicy) (writer : GuardrailWriter) (event : GoString) :
    (writer.keep policy event).1.trace = writer.trace := by
  unfold keep
  rcases policy.extractPayload event with _ | ⟨payload, _ | _⟩ <;> rfl

theorem accounted_step (accounted : Accounted policy inputs writer) (call : GuardrailCall) :
    Accounted policy (inputs ++ call.event.toList) (writer.step policy call) := by
  cases call with
  | finish =>
    rw [show GuardrailCall.finish.event.toList = [] from rfl, append_nil]
    exact accounted_release accounted (release_cases policy writer true)
  | write event =>
    have kept := accounted_keep accounted event
    unfold step write
    dsimp only
    split
    · exact kept
    · exact accounted_release kept (release_cases policy _ _)

theorem accounted_run (policy : GuardrailPolicy) (calls : List GuardrailCall) :
    Accounted policy (calls.filterMap GuardrailCall.event)
      (run (step policy) {} calls) := by
  induction calls using List.reverseRecOn with
  | nil => exact ⟨rfl, fun _ => rfl, by simp [Cleared]⟩
  | append_singleton calls call ih =>
    rw [run_concat, filterMap_append]
    have stepped := accounted_step ih call
    cases call with
    | write event | finish => exact stepped

/-! ### The guarantee -/

def GuardrailWriter.added (policy : GuardrailPolicy) (writer : GuardrailWriter)
    (call : GuardrailCall) : List GuardrailTrace :=
  (writer.step policy call).trace.drop writer.trace.length

variable {pending : List GoString} {result : GuardrailResult}

theorem release_refused (outcome : ReleaseCase writer next error) (refusal : result ≠ .passed)
    (reviewed : .review pending result ∈ next.trace.drop writer.trace.length) (event : GoString)
    (taken : Bool) : .wrote event taken ∉ next.trace.drop writer.trace.length := by
  have onlyPassed : .review pending result ∉ writer.passedReview := by
    unfold passedReview
    split
    · exact not_mem_nil
    · intro listed
      cases mem_singleton.mp listed
      exact refusal rfl
  cases outcome with
  | idle empty same =>
    rw [same, drop_length]
    exact not_mem_nil
  | refused _ trace =>
    rw [trace, drop_left]
    simp
  | broken listed trace | released trace =>
    rw [trace, drop_left] at reviewed
    simp [onlyPassed] at reviewed

theorem step_refused {call : GuardrailCall} (refusal : result ≠ .passed)
    (reviewed : .review pending result ∈ writer.added policy call) (event : GoString)
    (taken : Bool) : .wrote event taken ∉ writer.added policy call := by
  unfold added step at *
  cases call with
  | finish => exact release_refused (release_cases policy writer true) refusal reviewed event taken
  | write written =>
    unfold write at *
    rw [← keep_trace policy writer written] at reviewed ⊢
    dsimp only at reviewed ⊢
    split at reviewed
    next waiting =>
      rw [drop_length] at reviewed
      cases reviewed
    next full =>
      rw [if_neg full]
      exact release_refused (release_cases policy _ _) refusal reviewed event taken

theorem finish_releases (accounted : Accounted policy inputs writer)
    (success : (writer.finish policy).2 = none) (taken : (writer.finish policy).1.Taken) :
    (writer.finish policy).1.written = inputs := by
  have outcome := release_cases policy writer true
  have after := (accounted_release accounted outcome).events taken
  unfold finish at *
  rw [success] at outcome
  cases outcome with
  | idle empty same => rw [after, same, empty, append_nil]
  | released trace events => rw [after, events, append_nil]

/-- Whatever the guardrails answer: an event is written only with a payload that a review has
passed before, and a refused review writes nothing. A destination that takes every write gets a
prefix of the events, and all of them by a successful `Finish`. -/
theorem guarded_output_reviewed (policy : GuardrailPolicy) (calls : List GuardrailCall) :
    let inputs := calls.filterMap GuardrailCall.event
    let writer := run (step policy) {} calls
    (writer.Taken → writer.written <+: inputs) ∧
      (∀ (index : Nat) event taken, writer.trace[index]? = some (.wrote event taken) →
        ∀ payload, policy.extractPayload event = some (payload, false) →
          ∃ pending, .review pending .passed ∈ writer.trace.take index ∧ payload ∈ pending) ∧
      (∀ call pending result, result ≠ .passed →
        .review pending result ∈ writer.added policy call →
          ∀ event taken, .wrote event taken ∉ writer.added policy call) ∧
      ((writer.finish policy).2 = none → (writer.finish policy).1.Taken →
        (writer.finish policy).1.written = inputs) := by
  intro inputs writer
  have accounted := accounted_run policy calls
  refine ⟨?_, ?_, ?_, finish_releases accounted⟩
  · intro taken
    rw [show inputs = _ from accounted.events taken]
    exact prefix_append _ _
  · intro index event taken found payload extracted
    refine accounted.cleared index event taken found payload ?_
    rw [GuardrailPolicy.guarded, extracted]
  · intro call pending result refusal reviewed
    exact step_refused refusal reviewed

def allowingPolicy : GuardrailPolicy where
  guardrails := [⟨ascii "safety", true⟩]
  windowBytes := 4096
  contextMax := 8192
  extractPayload := sseGuardrailPayload
  invoke _ _ _ := ⟨some .allow, false⟩
  deliver _ _ := none

/-- A message without headers; the checksum is left out. -/
def bedrockEvent : GoString := [0, 0, 0, 17, 0, 0, 0, 0, 0, 0, 0, 0, 0x31, 0, 0, 0, 0]

def bedrockPolicy : GuardrailPolicy :=
  { allowingPolicy with
    extractPayload := bedrockGuardrailPayload id (fun _ => 0) fun payload => payload != [] }

theorem guarded_output_reviewed_bedrock :
    let calls := [GuardrailCall.write bedrockEvent, .write (ascii "rest")]
    let writer := run (step bedrockPolicy) {} calls
    writer.pendingPayloads = [ascii "1"] ∧
      (writer.finish bedrockPolicy).1.written = [bedrockEvent, ascii "rest"] := by
  have guarantee := guarded_output_reviewed bedrockPolicy
    [.write bedrockEvent, .write (ascii "rest")]
  refine ⟨by decide +kernel, guarantee.2.2.2 (by decide +kernel) ?_⟩
  intro event refused
  have entries : ((run (step bedrockPolicy) {} [.write bedrockEvent,
      .write (ascii "rest")]).finish bedrockPolicy).1.trace =
        [.review [ascii "1"] .passed, .wrote bedrockEvent true, .wrote (ascii "rest") true] := by
    decide +kernel
  rw [entries] at refused
  simp at refused

/-- The destination refuses the third entry of the trace. -/
def refusingPolicy : GuardrailPolicy :=
  { allowingPolicy with
    deliver := fun number _ => if number = 2 then some (ascii "reset") else none }

/-- After a refused write the events before it are written once more. -/
theorem refused_write_repeats :
    let first := ascii "data: 1\n\n"
    let second := ascii "data: 2\n\n"
    let writer := run (step refusingPolicy) {} [.write first, .write second, .finish, .finish]
    writer.trace =
        [.review [ascii "1", ascii "2"] .passed, .wrote first true, .wrote second false,
          .review [ascii "1", ascii "2"] .passed, .wrote first true, .wrote second true] ∧
      ¬ writer.written <+: [first, second] := by
  decide +kernel

end SparkRoute.Gateway
