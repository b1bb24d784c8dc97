import SparkRoute.Gateway.MaskPending

/-!
# When a channel is finalised

`EndsOnce` says of a stream that no channel goes on after an event that closes it. In such
a stream no channel is finalised too early, and only in such a stream.
-/

namespace SparkRoute.Gateway

open Lib List
open Lib.Json (Value)
open MaskWriter

/-! ### Boundaries carry no text -/

theorem suffix_unique {text first second : GoString} (left : first.isSuffixOf text = true)
    (right : second.isSuffixOf text = true) (different : first.getLast? ≠ second.getLast?)
    (some : first ≠ []) (some' : second ≠ []) : False := by
  obtain ⟨front, rfl⟩ := isSuffixOf_iff_suffix.mp left
  obtain ⟨other, same⟩ := isSuffixOf_iff_suffix.mp right
  have last := congrArg List.getLast? same
  rw [List.getLast?_append_of_ne_nil _ some', List.getLast?_append_of_ne_nil _ some] at last
  exact different last.symm

variable {codec : StreamCodec} {root : Value}

theorem responses_boundary_without_fields
    (boundary : piiSSEBoundaryChannel codec .responses root ≠ none) :
    piiResponsesStreamFields codec root = [] := by
  unfold piiSSEBoundaryChannel at boundary
  unfold piiResponsesStreamFields
  cases kind : textOf (member "type" root) with
  | none => rfl
  | some eventType =>
    simp only [kind] at boundary ⊢
    by_cases done : (ascii ".done").isSuffixOf eventType = true
    · rw [if_neg]
      intro delta
      exact suffix_unique done delta (by decide) (by decide) (by decide)
    · rw [if_neg done] at boundary
      exact absurd rfl boundary

theorem anthropic_boundary_without_fields
    (boundary : piiSSEBoundaryChannel codec .anthropicMessages root ≠ none) :
    piiAnthropicStreamFields codec root = [] := by
  unfold piiSSEBoundaryChannel at boundary
  have stops : isText "content_block_stop" (member "type" root) = true := by
    by_contra other
    rw [if_neg other] at boundary
    exact boundary rfl
  have delta : isText "content_block_delta" (member "type" root) = false := by
    simp only [isText, decide_eq_true_eq, decide_eq_false_iff_not] at stops ⊢
    rw [stops]
    decide
  simp [piiAnthropicStreamFields, delta]

variable {operation : StreamOperation}

theorem sse_boundary_without_fields (boundary : piiSSEBoundaryChannel codec operation root ≠ none) :
    streamFields codec root operation [] = [] := by
  cases operation with
  | responses => exact responses_boundary_without_fields boundary
  | anthropicMessages => exact anthropic_boundary_without_fields boundary
  | chatCompletions | geminiStreamContent | bedrockConverseStream => exact absurd rfl boundary

theorem bedrock_boundary_without_fields {eventType : GoString}
    (boundary : bedrockBoundaryChannel codec eventType root ≠ none) :
    streamFields codec root .bedrockConverseStream eventType = [] := by
  unfold bedrockBoundaryChannel at boundary
  have stops : eventType = ascii "contentBlockStop" := by
    by_contra other
    rw [if_neg other] at boundary
    exact boundary rfl
  have different : ascii "contentBlockStop" ≠ ascii "contentBlockDelta" := by decide
  simp [streamFields, piiBedrockFields, stops, different]

variable {frame : GoString} {event : Inspected}

theorem boundary_without_fields (seen : inspect codec operation frame = .inspected event)
    (boundary : event.boundary ≠ none) : event.fields = [] := by
  cases operation with
  | bedrockConverseStream =>
    obtain ⟨found, fields⟩ := inspectAWS_form seen
    rw [found] at boundary
    rw [fields]
    exact bedrock_boundary_without_fields boundary
  | chatCompletions | responses | anthropicMessages | geminiStreamContent =>
    obtain ⟨_, found, fields⟩ := inspectSSE_form seen
    rw [found] at boundary
    rw [fields]
    exact sse_boundary_without_fields boundary

/-! ### Streams -/

variable (env : MaskEnvironment)

def seenFrame (frame : GoString) : Seen := inspect env.codec env.operation frame

def frameChannels (frame : GoString) : List GoString :=
  (seenFields (seenFrame env frame)).map (·.channel)

def Receives (frame channel : GoString) : Prop :=
  ∃ field ∈ seenFields (seenFrame env frame), field.channel = channel ∧ field.value ≠ []

instance (frame channel : GoString) : Decidable (Receives env frame channel) :=
  inferInstanceAs (Decidable (∃ field ∈ seenFields (seenFrame env frame),
    field.channel = channel ∧ field.value ≠ []))

def Terminal (frame : GoString) : Prop :=
  ∃ event, seenFrame env frame = .inspected event ∧ event.terminal = true

/-- The frame says that the channel has ended: it ends the stream or carries a boundary of
the channel. -/
def Closes (frame channel : GoString) : Prop :=
  match seenFrame env frame with
  | .done => True
  | .inspected event => event.terminal = true ∨
      ∃ boundary, event.boundary = some boundary ∧ boundary.isPrefixOf channel = true
  | _ => False

/-- The calls that a frame causes after the frames before it. -/
def callsAt (before : List GoString) (frame : GoString) : List TransformCall :=
  (writeAll env (before ++ [frame])).calls.drop (writeAll env before).calls.length

/-- A call that comes after a final one of its channel has no text. -/
def FinalThenEmpty (call next : TransformCall) : Prop :=
  call.2.2 = true → next.1 = call.1 → next.2.1 = []

/-- No channel is finalised before its last text. -/
structure FinalisedAtEnd (frames : List GoString) : Prop where
  later : ∀ before frame after, frames = before ++ frame :: after →
    ∀ channel fragment, (channel, fragment, true) ∈ callsAt env before frame →
      ∀ next ∈ after, ¬ Receives env next channel
  within : ∀ before frame after, frames = before ++ frame :: after →
    (callsAt env before frame).Pairwise FinalThenEmpty

/-- No channel goes on after a frame that closes it. -/
structure EndsOnce (frames : List GoString) : Prop where
  later : ∀ before frame after, frames = before ++ frame :: after →
    ∀ channel, Closes env frame channel →
      (∃ earlier ∈ before, channel ∈ frameChannels env earlier) ∨
        (Terminal env frame ∧ channel ∈ frameChannels env frame) →
      ∀ next ∈ after, ¬ Receives env next channel
  within : ∀ frame ∈ frames, Terminal env frame →
    (seenFields (seenFrame env frame)).Pairwise fun field next =>
      next.channel = field.channel → next.value = []

/-- Every frame goes through without a failed step. -/
def CleanStream (frames : List GoString) : Prop :=
  ∀ before frame after, frames = before ++ frame :: after →
    (writeAll env before).passthrough = false ∧
      ((writeAll env before).writeFrame env frame).2 = .ok ()

/-! ### Calls of one frame -/

theorem writeAll_concat (before : List GoString) (frame : GoString) :
    writeAll env (before ++ [frame]) = (write env frame (writeAll env before)).1 :=
  run_concat _ _ _ _

theorem callsAt_begin (before : List GoString) (frame : GoString) :
    callsAt env before frame <+:
      frameCalls (writeAll env before).channels.keys (seenFrame env frame) := by
  obtain ⟨made, same, _, early, _⟩ := write_calls env (writeAll env before) frame
  rw [callsAt, writeAll_concat, same, drop_left]
  exact early

variable {before : List GoString}

theorem callsAt_clean (going : (writeAll env before).passthrough = false)
    (written : ((writeAll env before).writeFrame env frame).2 = .ok ()) :
    callsAt env before frame =
      frameCalls (writeAll env before).channels.keys (seenFrame env frame) := by
  obtain ⟨made, same, _, _, complete⟩ := write_calls env (writeAll env before) frame
  rw [callsAt, writeAll_concat, same, drop_left]
  exact complete going written

variable {channel : GoString} {names : List GoString}

/-- Who may be finalised by a frame: an open channel that it closes, or a channel of its own
fields when it is terminal. -/
theorem finalised_by_frame {fragment : GoString}
    (called : (channel, fragment, true) ∈ frameCalls names (seenFrame env frame)) :
    Closes env frame channel ∧
      (channel ∈ names ∨ (Terminal env frame ∧ channel ∈ frameChannels env frame)) := by
  unfold Closes Terminal frameChannels
  cases seen : seenFrame env frame with
  | plain | unreadable reason => rw [seen] at called; cases called
  | done =>
    rw [seen] at called
    obtain ⟨name, listed, same⟩ := mem_map.mp called
    cases same
    exact ⟨trivial, Or.inl listed⟩
  | inspected event =>
    rw [seen] at called
    rw [frameCalls, eventCalls_eq] at called
    rcases mem_append.mp called with flush | field
    · obtain ⟨name, listed, same⟩ := mem_map.mp flush
      cases same
      obtain ⟨open_, closes⟩ := mem_eventNames.mp listed
      exact ⟨closes.symm.imp_left And.left, Or.inl open_⟩
    · obtain ⟨field, listed, same⟩ := mem_map.mp field
      simp only [fieldCall, Prod.mk.injEq] at same
      obtain ⟨rfl, rfl, terminal⟩ := same
      exact ⟨Or.inl terminal, Or.inr ⟨⟨event, rfl, terminal⟩, mem_map_of_mem listed⟩⟩

theorem own_field_finalised (names : List GoString)
    (terminal : event.terminal = true) (listed : channel ∈ event.fields.map (·.channel)) :
    ∃ fragment, (channel, fragment, true) ∈ eventCalls event names := by
  obtain ⟨field, present, rfl⟩ := mem_map.mp listed
  rw [eventCalls_eq, ← terminal]
  exact ⟨field.value, mem_append_right _ (mem_map_of_mem present)⟩

theorem open_channel_finalised (listed : channel ∈ names) (closes : event.terminal = true ∨
      ∃ boundary, event.boundary = some boundary ∧ boundary.isPrefixOf channel = true) :
    ∃ fragment, (channel, fragment, true) ∈ eventCalls event names := by
  by_cases flushed : channel ∈ eventNames event names
  · rw [eventCalls_eq]
    exact ⟨[], mem_append_left _ (mem_map_of_mem flushed)⟩
  rcases closes with terminal | boundary
  · by_cases own : channel ∈ event.fields.map (·.channel)
    · exact own_field_finalised names terminal own
    · exact absurd (mem_eventNames.mpr ⟨listed, Or.inr ⟨terminal, own⟩⟩) flushed
  · exact absurd (mem_eventNames.mpr ⟨listed, Or.inl boundary⟩) flushed

theorem frame_finalises {names : List GoString} {frame channel : GoString}
    (closes : Closes env frame channel)
    (known : channel ∈ names ∨ (Terminal env frame ∧ channel ∈ frameChannels env frame)) :
    ∃ fragment, (channel, fragment, true) ∈ frameCalls names (seenFrame env frame) := by
  unfold Closes Terminal frameChannels at *
  cases seen : seenFrame env frame with
  | plain | unreadable reason => rw [seen] at closes; exact closes.elim
  | done =>
    rw [seen] at known
    rcases known with listed | ⟨⟨event, same, _⟩, _⟩
    · exact ⟨[], mem_map_of_mem listed⟩
    · cases same
  | inspected event =>
    simp only [seen] at closes known
    rcases known with listed | ⟨⟨other, same, terminal⟩, listed⟩
    · exact open_channel_finalised listed closes
    · cases same
      exact own_field_finalised names terminal listed

theorem flushes_finalThenEmpty (names : List GoString) :
    (names.map flushCall).Pairwise FinalThenEmpty := by
  rw [pairwise_map]
  exact pairwise_of_forall fun _ _ _ _ => rfl

theorem fieldCalls_finalThenEmpty (event : Inspected) :
    (event.fields.map (fieldCall event.terminal)).Pairwise FinalThenEmpty ↔
      (event.terminal = true → event.fields.Pairwise fun field next =>
        next.channel = field.channel → next.value = []) := by
  rw [pairwise_map]
  cases terminal : event.terminal with
  | true =>
    refine ⟨fun ordered _ => ordered.imp fun given => given rfl, fun ordered => ?_⟩
    exact (ordered rfl).imp fun given _ same => given same
  | false =>
    refine ⟨fun _ given => absurd given (by decide), fun _ => ?_⟩
    exact pairwise_of_forall fun _ _ final => absurd final Bool.false_ne_true

theorem eventCalls_finalThenEmpty (names : List GoString)
    (single : event.boundary ≠ none → event.fields = [])
    (own : (event.fields.map (fieldCall event.terminal)).Pairwise FinalThenEmpty) :
    (eventCalls event names).Pairwise FinalThenEmpty := by
  rw [eventCalls_eq, pairwise_append]
  refine ⟨flushes_finalThenEmpty _, own, ?_⟩
  intro flush flushed call called _ same
  exfalso
  obtain ⟨name, listed, rfl⟩ := mem_map.mp flushed
  obtain ⟨field, present, rfl⟩ := mem_map.mp called
  rcases (mem_eventNames.mp listed).2 with ⟨boundary, found, _⟩ | ⟨_, other⟩
  · rw [single (by simp [found])] at present
    cases present
  · exact other (mem_map.mpr ⟨field, present, same⟩)

/-- Within one frame the order of calls is right if the frame has each channel once. -/
theorem frameCalls_finalThenEmpty (names : List GoString)
    (own : Terminal env frame → (seenFields (seenFrame env frame)).Pairwise fun field next =>
      next.channel = field.channel → next.value = []) :
    (frameCalls names (seenFrame env frame)).Pairwise FinalThenEmpty := by
  unfold Terminal at own
  cases seen : seenFrame env frame with
  | plain | unreadable reason => exact List.Pairwise.nil
  | done => exact flushes_finalThenEmpty names
  | inspected event =>
    rw [seen] at own
    refine eventCalls_finalThenEmpty names (boundary_without_fields seen) ?_
    rw [fieldCalls_finalThenEmpty]
    exact fun terminal => own ⟨event, rfl, terminal⟩

/-! ### Open channels along a stream -/

theorem open_channels_seen (frames : List GoString)
    (listed : channel ∈ (writeAll env frames).channels.keys) :
    ∃ frame ∈ frames, channel ∈ frameChannels env frame := by
  induction frames using List.reverseRecOn with
  | nil => cases listed
  | append_singleton before frame ih =>
    rw [writeAll_concat] at listed
    rcases (write_alters env (writeAll env before) frame).keys listed with added | kept
    · exact ⟨frame, by simp, added⟩
    · obtain ⟨earlier, present, has⟩ := ih kept
      exact ⟨earlier, mem_append_left _ present, has⟩

theorem write_of_ok {writer : MaskWriter} (going : writer.passthrough = false)
    (written : (writer.writeFrame env frame).2 = .ok ()) :
    (write env frame writer).1 = (writer.writeFrame env frame).1 := by
  unfold write
  rw [going, if_neg Bool.false_ne_true]
  revert written
  rcases writer.writeFrame env frame with ⟨after, reason | _⟩ <;> intro written
  · cases written
  · rfl

/-- A channel that is open or gets text is open after a frame that goes through, or the frame
finalises it. -/
theorem open_or_finalised (going : (writeAll env before).passthrough = false)
    (written : ((writeAll env before).writeFrame env frame).2 = .ok ())
    (known : channel ∈ frameChannels env frame ∨ channel ∈ (writeAll env before).channels.keys) :
    channel ∈ (writeAll env (before ++ [frame])).channels.keys ∨
      ∃ fragment, (channel, fragment, true) ∈ callsAt env before frame := by
  rw [callsAt_clean env going written, writeAll_concat, write_of_ok env going written]
  have finalises := @frame_finalises env (writeAll env before).channels.keys frame channel
  unfold Closes Terminal frameChannels at finalises
  unfold frameChannels at known
  revert written
  unfold writeFrame
  cases seen : seenFrame env frame with
  | plain =>
    intro written
    rw [seenFrame] at seen
    rw [seenFrame, seen] at known
    simp only [seen, deliver_channels]
    exact Or.inl (known.resolve_left not_mem_nil)
  | unreadable reason =>
    intro written
    rw [seenFrame] at seen
    rw [seen] at written
    cases written
  | done =>
    intro written
    rw [seen] at finalises known
    exact Or.inr (finalises trivial (Or.inl (known.resolve_left not_mem_nil)))
  | inspected event =>
    intro written
    rw [seen] at finalises known
    rw [seenFrame] at seen
    rw [seen] at written ⊢
    cases terminal : event.terminal with
    | true =>
      refine Or.inr (finalises (Or.inl terminal) ?_)
      exact known.symm.imp_right fun own => ⟨⟨event, rfl, terminal⟩, own⟩
    | false =>
      by_cases ended : channel ∈ eventNames event (writeAll env before).channels.keys
      · rw [frameCalls, eventCalls_eq]
        exact Or.inr ⟨[], mem_append_left _ (mem_map_of_mem ended)⟩
      · refine Or.inl (writeInspected_keys_ok env _ written terminal ?_)
        exact known.imp_right fun listed => ⟨listed, ended⟩

theorem CleanStream.init {env : MaskEnvironment} {after : List GoString}
    (clean : CleanStream env (before ++ after)) : CleanStream env before := by
  intro first frame rest same
  exact clean first frame (rest ++ after) (by rw [same, append_assoc, cons_append])

variable {frames : List GoString}

/-- In a clean stream a channel that has had text is open or has been finalised. -/
theorem seen_open_or_finalised (clean : CleanStream env frames) {earlier : GoString}
    (present : earlier ∈ frames) (has : channel ∈ frameChannels env earlier) :
    channel ∈ (writeAll env frames).channels.keys ∨
      ∃ before frame after fragment, frames = before ++ frame :: after ∧
        (channel, fragment, true) ∈ callsAt env before frame := by
  induction frames using List.reverseRecOn with
  | nil => cases present
  | append_singleton before frame ih =>
    obtain ⟨going, written⟩ := clean before frame [] rfl
    have last (known : channel ∈ frameChannels env frame ∨
        channel ∈ (writeAll env before).channels.keys) :
        channel ∈ (writeAll env (before ++ [frame])).channels.keys ∨
          ∃ first closing rest fragment, before ++ [frame] = first ++ closing :: rest ∧
            (channel, fragment, true) ∈ callsAt env first closing := by
      rcases open_or_finalised env going written known with still | ⟨fragment, called⟩
      · exact Or.inl still
      · exact Or.inr ⟨before, frame, [], fragment, rfl, called⟩
    rcases mem_append.mp present with old | new
    · rcases ih clean.init old with still | ⟨first, closing, rest, fragment, rfl, called⟩
      · exact last (Or.inr still)
      · exact Or.inr ⟨first, closing, rest ++ [frame], fragment,
          by rw [append_assoc, cons_append], called⟩
    · rw [mem_singleton.mp new] at has
      exact last (Or.inl has)

/-! ### Streams whose channels end once -/

theorem finalisedAtEnd_of_endsOnce (ends : EndsOnce env frames) : FinalisedAtEnd env frames where
  later := by
    intro before frame after same channel fragment called next listed
    have called := (callsAt_begin env before frame).subset called
    obtain ⟨closes, known⟩ := finalised_by_frame env called
    exact ends.later before frame after same channel closes
      (known.imp_left (open_channels_seen env before)) next listed
  within := by
    intro before frame after same
    have listed : frame ∈ frames := by simp [same]
    have ordered := frameCalls_finalThenEmpty env (writeAll env before).channels.keys
      (ends.within frame listed)
    exact ordered.sublist (callsAt_begin env before frame).sublist

theorem endsOnce_of_finalisedAtEnd (clean : CleanStream env frames)
    (final : FinalisedAtEnd env frames) : EndsOnce env frames where
  later := by
    intro before frame after same channel closes known next listed
    obtain ⟨going, written⟩ := clean before frame after same
    have here (open_ : channel ∈ (writeAll env before).channels.keys ∨
        (Terminal env frame ∧ channel ∈ frameChannels env frame)) :
        ¬ Receives env next channel := by
      obtain ⟨fragment, called⟩ := frame_finalises env closes open_
      rw [← callsAt_clean env going written] at called
      exact final.later before frame after same channel fragment called next listed
    rcases known with ⟨earlier, present, has⟩ | own
    · have cleanBefore : CleanStream env before := (same ▸ clean).init
      rcases seen_open_or_finalised env cleanBefore present has with
        open_ | ⟨first, closing, rest, fragment, split, called⟩
      · exact here (Or.inl open_)
      · have whole : frames = first ++ closing :: (rest ++ frame :: after) := by
          rw [same, split, append_assoc, cons_append]
        exact final.later first closing _ whole channel fragment called next (by simp [listed])
    · exact here (Or.inr own)
  within := by
    intro frame listed terminal
    obtain ⟨before, after, same⟩ := append_of_mem listed
    obtain ⟨going, written⟩ := clean before frame after same
    have ordered := final.within before frame after same
    rw [callsAt_clean env going written] at ordered
    obtain ⟨event, seen, ends⟩ := terminal
    rw [seen] at ordered ⊢
    rw [frameCalls, eventCalls_eq] at ordered
    exact (fieldCalls_finalThenEmpty event).mp (pairwise_append.mp ordered).2.1 ends

/-! ### Interleaved choices -/

def decodeWhole (text : GoString) : Option Value :=
  match Json.parse text with
  | some (value, rest) => if Json.skipSpace rest = [] then some value else none
  | none => none

/-- `fmt.Sprint` of numbers, texts and nil. -/
def sprintScalar : Value → GoString
  | .number text => text
  | .string text => text
  | .null => ascii "<nil>"
  | _ => []

/-- The built-in detector, with nothing that fails. -/
def sampleEnvironment : MaskEnvironment where
  codec := ⟨decodeWhole, sprintScalar, id, fun _ => 0⟩
  operation := .chatCompletions
  toUpper := List.map Registry.upperCase
  entities := [ascii "phone"]
  detector _ := Pii.builtin none none
  streaming _ := true
  encodable _ _ := true
  refuses _ := none
  failClosed := false

def choiceEvent (choice : String) : GoString :=
  ascii "data: \x7b\"choices\":[\x7b" ++ ascii choice ++ ascii "\x7d]\x7d\n\n"

def firstHalf : GoString :=
  choiceEvent "\"index\":1,\"delta\":\x7b\"content\":\"312 555 \"\x7d"

def otherFinished : GoString :=
  choiceEvent "\"index\":0,\"delta\":\x7b\x7d,\"finish_reason\":\"stop\""

def secondHalf : GoString :=
  choiceEvent "\"index\":1,\"delta\":\x7b\"content\":\"0199\"\x7d"

/-- The choice goes on and ends. -/
def lastHalf : GoString :=
  choiceEvent "\"index\":1,\"delta\":\x7b\"content\":\"0199\"\x7d,\"finish_reason\":\"stop\""

/-- A channel is finalised only at its own end when no channel goes on after a frame that
closes it, and for a stream without a failed step only then. -/
theorem finalised_at_end_iff (frames : List GoString) :
    (EndsOnce env frames → FinalisedAtEnd env frames) ∧
      (CleanStream env frames → (FinalisedAtEnd env frames ↔ EndsOnce env frames)) :=
  ⟨finalisedAtEnd_of_endsOnce env,
    fun clean => ⟨endsOnce_of_finalisedAtEnd env clean, finalisedAtEnd_of_endsOnce env⟩⟩

theorem split_pair {Item : Type} {first second frame : Item} {before after : List Item}
    (same : [first, second] = before ++ frame :: after) :
    (before = [] ∧ first = frame ∧ after = [second]) ∨
      (before = [first] ∧ second = frame ∧ after = []) := by
  match before with
  | [] =>
    cases same
    exact .inl ⟨rfl, rfl, rfl⟩
  | [_] =>
    cases same
    exact .inr ⟨rfl, rfl, rfl⟩
  | _ :: _ :: _ => simp at same

def endsStream : Seen → Bool
  | .inspected event => event.terminal
  | _ => false

/-- A number in two frames, of which the second ends the choice: it is finalised there and
masked. -/
theorem finalised_at_end_iff_halves :
    CleanStream sampleEnvironment [firstHalf, lastHalf] ∧
      EndsOnce sampleEnvironment [firstHalf, lastHalf] ∧
      FinalisedAtEnd sampleEnvironment [firstHalf, lastHalf] ∧
      (ascii "chat:1:content", ascii "0199", true) ∈
        callsAt sampleEnvironment [firstHalf] lastHalf ∧
      ((writeAll sampleEnvironment [firstHalf, lastHalf]).finish sampleEnvironment).1.written
        (ascii "chat:1:content") = ascii "[[SPARKROUTE_PII_PHONE_REDACTED]]" := by
  have clean : CleanStream sampleEnvironment [firstHalf, lastHalf] := by
    intro before frame after same
    obtain ⟨rfl, rfl, rfl⟩ | ⟨rfl, rfl, rfl⟩ := split_pair same <;> decide +kernel
  have ends : EndsOnce sampleEnvironment [firstHalf, lastHalf] := by
    constructor
    · intro before frame after same channel _ known next listed
      obtain ⟨rfl, rfl, rfl⟩ | ⟨rfl, rfl, rfl⟩ := split_pair same
      · -- nothing ends in the first frame
        have goesOn : endsStream (seenFrame sampleEnvironment firstHalf) = false := by
          decide +kernel
        obtain ⟨_, none, _⟩ | ⟨⟨event, seen, terminal⟩, _⟩ := known
        · cases none
        · simp [seen, endsStream, terminal] at goesOn
      · cases listed
    · have alone : ∀ frame ∈ [firstHalf, lastHalf],
          (seenFields (seenFrame sampleEnvironment frame)).Pairwise fun field next =>
            next.channel = field.channel → next.value = [] := by
        decide +kernel
      exact fun frame listed _ => alone frame listed
  exact ⟨clean, ends, ((finalised_at_end_iff sampleEnvironment _).2 clean).mpr ends,
    by decide +kernel, by decide +kernel⟩

/-- The end of one choice finalises the others: a telephone number that goes on behind it is
written in clear. -/
theorem other_choice_finalised_early :
    let channel := ascii "chat:1:content"
    let writer := writeAll sampleEnvironment [firstHalf, otherFinished, secondHalf]
    (channel, [], true) ∈ callsAt sampleEnvironment [firstHalf] otherFinished ∧
      Receives sampleEnvironment secondHalf channel ∧
      (writer.finish sampleEnvironment).1.written channel = ascii "312 555 0199" ∧
      Pii.redact sampleEnvironment.toUpper (Pii.builtin none none) [ascii "phone"]
        (ascii "312 555 0199") = .ok (ascii "[[SPARKROUTE_PII_PHONE_REDACTED]]") ∧
      ¬ FinalisedAtEnd sampleEnvironment [firstHalf, otherFinished, secondHalf] := by
  intro channel writer
  have called : (channel, [], true) ∈ callsAt sampleEnvironment [firstHalf] otherFinished := by
    decide +kernel
  have goes : Receives sampleEnvironment secondHalf channel := by decide +kernel
  refine ⟨called, goes, by decide +kernel, by decide +kernel, ?_⟩
  intro final
  exact final.later [firstHalf] otherFinished [secondHalf] rfl channel [] called secondHalf
    (mem_singleton_self _) goes

end SparkRoute.Gateway
