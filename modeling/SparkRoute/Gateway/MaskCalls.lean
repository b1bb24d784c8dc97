import SparkRoute.Gateway.MaskWriter

/-!
# The calls of Transform

For every operation of the masking writer there is a list of calls that it makes when it
succeeds. When it fails it has made the first of them.
-/

namespace SparkRoute.Gateway

open Lib List OrderedMap
open Lib.Json (Value)

/-- A call: the channel, the fragment, and whether it is final. -/
abbrev TransformCall := GoString × GoString × Bool

def MaskTrace.call : MaskTrace → Option TransformCall
  | .transform channel fragment final => some (channel, fragment, final)
  | .wrote _ => none

namespace MaskWriter

def calls (writer : MaskWriter) : List TransformCall := writer.trace.filterMap MaskTrace.call

@[simp] theorem used_calls (writer : MaskWriter) : writer.used.calls = writer.calls := rfl

@[simp] theorem used_channels (writer : MaskWriter) : writer.used.channels = writer.channels := rfl

theorem record_calls (writer : MaskWriter) (entry : MaskTrace) :
    (writer.record entry).calls = writer.calls ++ entry.call.toList := by
  cases entry <;> simp [record, calls, MaskTrace.call]

/-- The outcome has made the first of the expected calls, and all of them when it succeeded. -/
def Makes {Result : Type} (writer : MaskWriter) (outcome : MaskOutcome Result)
    (expected : List TransformCall) : Prop :=
  ∃ made, outcome.1.calls = writer.calls ++ made ∧ made <+: expected ∧
    ∀ result, outcome.2 = .ok result → made = expected

section Rules

variable {First Result : Type} {writer : MaskWriter}

theorem Makes.none {outcome : MaskOutcome Result} (same : outcome.1.calls = writer.calls) :
    Makes writer outcome [] :=
  ⟨[], by rw [same, append_nil], nil_prefix, fun _ _ => rfl⟩

variable {expected : List TransformCall}

theorem Makes.all {outcome : MaskOutcome Result}
    (made : outcome.1.calls = writer.calls ++ expected) : Makes writer outcome expected :=
  ⟨expected, made, prefix_refl _, fun _ _ => rfl⟩

variable {next : First → MaskWriter → MaskOutcome Result} {outcome : MaskOutcome First}

theorem Makes.andThen {more : List TransformCall} (first : Makes writer outcome expected)
    (then_ : ∀ value, outcome.2 = .ok value → Makes outcome.1 (next value outcome.1) more) :
    Makes writer (MaskWriter.andThen outcome next) (expected ++ more) := by
  obtain ⟨after, result⟩ := outcome
  obtain ⟨made, same, early, complete⟩ := first
  cases result with
  | error reason =>
    exact ⟨made, same, early.trans (prefix_append _ _), fun _ failed => nomatch failed⟩
  | ok value =>
    cases complete value rfl
    obtain ⟨later, sameLater, earlyLater, completeLater⟩ := then_ value rfl
    refine ⟨expected ++ later, ?_, (prefix_append_right_inj expected).mpr earlyLater, ?_⟩
    · rw [MaskWriter.andThen, sameLater, same, append_assoc]
    · intro result succeeded
      rw [completeLater result succeeded]

theorem Makes.afterSilent (silent : Makes writer outcome [])
    (then_ : ∀ value, outcome.2 = .ok value → Makes outcome.1 (next value outcome.1) expected) :
    Makes writer (MaskWriter.andThen outcome next) expected :=
  silent.andThen then_

theorem Makes.thenSilent (first : Makes writer outcome expected)
    (silent : ∀ value, outcome.2 = .ok value → Makes outcome.1 (next value outcome.1) []) :
    Makes writer (MaskWriter.andThen outcome next) expected := by
  have both := first.andThen silent
  rwa [append_nil] at both

theorem andThen_eq_ok {result : Result} :
    (MaskWriter.andThen outcome next).2 = .ok result ↔
      ∃ value, outcome.2 = .ok value ∧ (next value outcome.1).2 = .ok result := by
  obtain ⟨after, first⟩ := outcome
  cases first with
  | error reason | ok value => simp [MaskWriter.andThen]

theorem andThen_of_ok {value : First}
    (next : First → MaskWriter → MaskOutcome Result) (succeeded : outcome.2 = .ok value) :
    MaskWriter.andThen outcome next = next value outcome.1 := by
  obtain ⟨after, first⟩ := outcome
  cases succeeded
  rfl

theorem andThen_congr {other : First → MaskWriter → MaskOutcome Result}
    (same : ∀ value, outcome.2 = .ok value → next value outcome.1 = other value outcome.1) :
    MaskWriter.andThen outcome next = MaskWriter.andThen outcome other := by
  obtain ⟨after, first⟩ := outcome
  cases first with
  | error reason => rfl
  | ok value => exact same value rfl

theorem andThen_assoc {Last : Type} (outcome : MaskOutcome First)
    (next : First → MaskWriter → MaskOutcome Result)
    (last : Result → MaskWriter → MaskOutcome Last) :
    MaskWriter.andThen (MaskWriter.andThen outcome next) last =
      MaskWriter.andThen outcome fun value writer =>
        MaskWriter.andThen (next value writer) last := by
  obtain ⟨after, reason | value⟩ := outcome <;> rfl

theorem andThen_channels (first : outcome.1.channels = writer.channels)
    (then_ : ∀ value, (next value outcome.1).1.channels = outcome.1.channels) :
    (MaskWriter.andThen outcome next).1.channels = writer.channels := by
  obtain ⟨after, result⟩ := outcome
  cases result with
  | error reason => exact first
  | ok value => exact (then_ value).trans first

theorem andThen_keeps {holds : MaskWriter → Prop} {outcome : MaskOutcome First}
    {next : First → MaskWriter → MaskOutcome Result} (first : holds outcome.1)
    (then_ : ∀ value, outcome.2 = .ok value → holds (next value outcome.1).1) :
    holds (MaskWriter.andThen outcome next).1 := by
  obtain ⟨after, result⟩ := outcome
  cases result with
  | error reason => exact first
  | ok value => exact then_ value rfl

end Rules

/-! ### Steps without calls -/

variable (env : MaskEnvironment) (writer : MaskWriter)

theorem deliver_makes (texts : FrameTexts) : Makes writer (writer.deliver env texts) [] := by
  unfold deliver
  split
  next => exact .none rfl
  next => exact .none (by simp [record_calls, MaskTrace.call])

theorem deliver_channels (texts : FrameTexts) :
    (writer.deliver env texts).1.channels = writer.channels := by
  unfold deliver
  split <;> rfl

theorem encode_writer (document : Value) : (writer.encode env document).1 = writer.used := by
  unfold encode
  split <;> rfl

theorem encode_makes (document : Value) : Makes writer (writer.encode env document) [] :=
  .none (by rw [encode_writer, used_calls])

/-- Redacts a document as a whole and writes it. -/
def send (fields : List StreamField) (document : Value) (writer : MaskWriter) : MaskOutcome Unit :=
  andThen (writer.mask env document) fun document writer =>
    andThen (writer.encode env document) fun _ writer =>
      writer.deliver env (fieldTexts fields document)

/-- What sending comes to: nothing but the number of uses has changed, or the redacted document
was written. -/
inductive Sent (fields : List StreamField) (document : Value) : MaskOutcome Unit → Prop
  | failed (uses : Nat) (reason : String) :
      Sent fields document ({ writer with uses := uses }, .error reason)
  | written (uses again : Nat) {result : Value}
      (masked : Json.transformStrings (Pii.redact env.toUpper (env.detector again) env.entities)
        document = .ok result) :
      Sent fields document
        ({ writer with uses := uses }.record (.wrote (fieldTexts fields result)), .ok ())

theorem send_sent (fields : List StreamField) (document : Value) :
    Sent env writer fields document (writer.send env fields document) := by
  unfold send mask
  dsimp only
  split
  · exact .failed _ _
  · cases masked : Json.transformStrings (writer.redact env) document with
    | error reason => exact .failed _ _
    | ok result =>
      change Sent _ _ _ _ (andThen (writer.used.encode env result) _)
      unfold encode
      split
      · change Sent _ _ _ _ (writer.used.used.deliver env _)
        unfold deliver
        split
        · exact .failed _ _
        · exact .written _ _ masked
      · exact .failed _ _

variable (channel : StreamChannel) (text : GoString)

theorem writeFlushed_sent :
    Sent env writer (flushFields env channel text) (channel.flush text)
      (writer.writeFlushed env channel text) := by
  change Sent _ _ _ _ (andThen (writer.encode env _) fun _ writer => writer.send env _ _)
  unfold encode
  split
  · have sent := send_sent env writer.used (flushFields env channel text) (channel.flush text)
    simp only [andThen]
    generalize send env _ _ writer.used = outcome at sent ⊢
    cases sent with
    | failed uses reason => exact .failed uses reason
    | written uses again masked => exact .written uses again masked
  · exact .failed _ _

section

variable {env} {writer} {fields : List StreamField} {document : Value} {outcome : MaskOutcome Unit}
  (sent : Sent env writer fields document outcome)

include sent

theorem Sent.makes : Makes writer outcome [] := by
  cases sent with
  | failed => exact .none rfl
  | written => exact .none (by simp [record_calls, MaskTrace.call]; rfl)

theorem Sent.channels : outcome.1.channels = writer.channels := by
  cases sent <;> rfl

end

/-! ### Flushes -/

variable (name : GoString)

theorem transform_makes (channel : StreamChannel) (fragment : GoString) (final : Bool) :
    Makes writer (writer.transform env name channel fragment final)
      [(name, fragment, final)] :=
  .all (by simp [transform, record_calls, MaskTrace.call])

def flushCall (name : GoString) : TransformCall := (name, [], true)

theorem flushChannel_makes {name : GoString} (listed : name ∈ writer.channels.keys) :
    Makes writer (flushChannel env name writer) [flushCall name] := by
  obtain ⟨channel, found⟩ := mem_keys.mp listed
  unfold flushChannel
  rw [found]
  refine (transform_makes env writer name channel [] true).thenSilent fun result _ => ?_
  refine Makes.afterSilent ?_ fun _ _ => .none rfl
  split
  next => exact .none rfl
  next => exact (writeFlushed_sent env _ _ _).makes

@[simp] theorem transform_channels (channel : StreamChannel) (fragment : GoString) (final : Bool) :
    (writer.transform env name channel fragment final).1.channels = writer.channels := rfl

theorem settle_keys {writer : MaskWriter} {name : GoString} (channel : StreamChannel)
    (redactor : Pii.StreamRedactor) (listed : name ∈ writer.channels.keys) :
    (writer.settle name channel redactor).channels.keys = writer.channels.keys :=
  keys_insert_old _ listed

/-- The part of a flush between the call and the end of the channel. -/
theorem flushed_channels (writer : MaskWriter) (channel : StreamChannel) (text : GoString) :
    (if text = [] then (writer, .ok ()) else writer.writeFlushed env channel text :
      MaskOutcome Unit).1.channels = writer.channels := by
  split
  next => rfl
  next => exact (writeFlushed_sent env writer channel text).channels

theorem flushChannel_keys_ok {name : GoString} (listed : name ∈ writer.channels.keys)
    (flushed : (flushChannel env name writer).2 = .ok ()) :
    (flushChannel env name writer).1.channels.keys =
      writer.channels.keys.filter fun key => key ≠ name := by
  obtain ⟨channel, found⟩ := mem_keys.mp listed
  unfold flushChannel at flushed ⊢
  rw [found] at flushed ⊢
  dsimp only at flushed ⊢
  obtain ⟨result, transformed, flushed⟩ := andThen_eq_ok.mp flushed
  rw [andThen_of_ok _ transformed]
  obtain ⟨done, delivered, _⟩ := andThen_eq_ok.mp flushed
  rw [andThen_of_ok _ delivered]
  simp only [close]
  rw [keys_erase, flushed_channels, settle_keys]
  · rfl
  · exact listed

variable {key : GoString}

theorem flushAll_makes {names : List GoString} (distinct : names.Nodup)
    (listed : ∀ name ∈ names, name ∈ writer.channels.keys) :
    Makes writer (flushAll env names writer) (names.map flushCall) := by
  induction names generalizing writer with
  | nil => exact .none rfl
  | cons name names ih =>
    obtain ⟨notLater, distinct⟩ := nodup_cons.mp distinct
    refine (flushChannel_makes env writer (listed name mem_cons_self)).andThen ?_
    intro value flushed
    refine ih _ distinct fun other later => ?_
    rw [flushChannel_keys_ok env writer (listed name mem_cons_self) flushed]
    refine mem_filter.mpr ⟨listed other (mem_cons_of_mem _ later), ?_⟩
    have different : other ≠ name := fun same => notLater (same ▸ later)
    simpa using different

theorem flushAll_keys_ok {names : List GoString} (distinct : names.Nodup)
    (listed : ∀ name ∈ names, name ∈ writer.channels.keys)
    (flushed : (flushAll env names writer).2 = .ok ()) :
    (flushAll env names writer).1.channels.keys =
      writer.channels.keys.filter fun key => key ∉ names := by
  induction names generalizing writer with
  | nil => simp [flushAll]
  | cons name names ih =>
    obtain ⟨notLater, distinct⟩ := nodup_cons.mp distinct
    rw [flushAll] at flushed ⊢
    obtain ⟨value, first, flushed⟩ := andThen_eq_ok.mp flushed
    have keys := flushChannel_keys_ok env writer (listed name mem_cons_self) first
    rw [andThen_of_ok _ first, ih _ distinct ?_ flushed, keys, filter_filter]
    · apply filter_congr
      intro key _
      by_cases same : key = name <;> simp [same]
    · intro other later
      rw [keys]
      refine mem_filter.mpr ⟨listed other (mem_cons_of_mem _ later), ?_⟩
      have different : other ≠ name := fun same => notLater (same ▸ later)
      simpa using different

theorem flushAll_append (first second : List GoString) :
    flushAll env (first ++ second) writer =
      andThen (flushAll env first writer) fun _ writer => flushAll env second writer := by
  induction first generalizing writer with
  | nil => rfl
  | cons name names ih => simp only [cons_append, flushAll, ih, andThen_assoc]

/-! ### Fields -/

def fieldCall (final : Bool) (field : StreamField) : TransformCall :=
  (field.channel, field.value, final)

variable (eventType : GoString)

theorem openChannel_makes (field : StreamField) :
    Makes writer (writer.openChannel env eventType field) [] := by
  fun_cases openChannel env writer eventType field <;> exact .none rfl

variable {field : StreamField}

/-- An opened channel is in its place, and no other key has changed. -/
theorem openChannel_ok {eventType : GoString} {channel : StreamChannel}
    (opened : (writer.openChannel env eventType field).2 = .ok channel) :
    (writer.openChannel env eventType field).1.channels =
      writer.channels.insert field.channel channel := by
  revert opened
  fun_cases openChannel env writer eventType field with
  | case1 | case4 =>
    intro opened
    rw [← Except.ok.inj opened]
  | _ => exact nofun

theorem transformField_makes (final : Bool) (field : StreamField) (document : Value) :
    Makes writer (transformField env eventType final field document writer)
      [fieldCall final field] := by
  refine (openChannel_makes env writer eventType field).afterSilent fun channel _ => ?_
  refine (transform_makes env _ field.channel channel field.value final).thenSilent ?_
  intro result _
  dsimp only
  split
  next => exact .none rfl
  next =>
    split <;> exact .none rfl

theorem transformField_keys_ok {eventType : GoString} {document result : Value}
    (transformed : (transformField env eventType false field document writer).2 = .ok result)
    (listed : key = field.channel ∨ key ∈ writer.channels.keys) :
    key ∈ (transformField env eventType false field document writer).1.channels.keys := by
  unfold transformField at transformed ⊢
  obtain ⟨channel, opened, transformed⟩ := andThen_eq_ok.mp transformed
  rw [andThen_of_ok _ opened]
  obtain ⟨output, called, transformed⟩ := andThen_eq_ok.mp transformed
  rw [andThen_of_ok _ called]
  have place := openChannel_ok env writer opened
  dsimp only at transformed ⊢
  split at transformed
  next => cases transformed
  next within =>
    rw [if_neg within]
    refine (mem_keys_insert _).mpr (Or.inr ?_)
    rw [transform_channels, place]
    exact (mem_keys_insert _).mpr listed

theorem transformFields_makes (final : Bool) (fields : List StreamField) (document : Value) :
    Makes writer (transformFields env eventType final fields document writer)
      (fields.map (fieldCall final)) := by
  induction fields generalizing writer document with
  | nil => exact .none rfl
  | cons field fields ih =>
    refine (transformField_makes env writer eventType final field document).andThen ?_
    intro result _
    exact ih _ result

theorem transformFields_keys_ok {eventType : GoString} {fields : List StreamField}
    {document result : Value}
    (transformed : (transformFields env eventType false fields document writer).2 = .ok result)
    (listed : key ∈ fields.map (·.channel) ∨ key ∈ writer.channels.keys) :
    key ∈ (transformFields env eventType false fields document writer).1.channels.keys := by
  induction fields generalizing writer document with
  | nil =>
    rcases listed with listed | listed
    · cases listed
    · exact listed
  | cons field fields ih =>
    rw [transformFields] at transformed ⊢
    obtain ⟨next, first, transformed⟩ := andThen_eq_ok.mp transformed
    rw [andThen_of_ok _ first]
    refine ih _ transformed ?_
    rcases listed with listed | listed
    · rcases mem_cons.mp listed with same | later
      · exact Or.inr (transformField_keys_ok env writer first (Or.inl same))
      · exact Or.inl later
    · exact Or.inr (transformField_keys_ok env writer first (Or.inr listed))

/-! ### Frames -/

def boundaryNames (event : Inspected) (names : List GoString) : List GoString :=
  match event.boundary with
  | some boundary => names.filter fun name => boundary.isPrefixOf name
  | none => []

/-- The channels that a terminal event flushes besides those of its own fields. -/
def terminalNames (event : Inspected) (names : List GoString) : List GoString :=
  if event.terminal then names.filter fun name => name ∉ event.fields.map (·.channel) else []

def eventNames (event : Inspected) (names : List GoString) : List GoString :=
  boundaryNames event names ++
    terminalNames event (names.filter fun name => name ∉ boundaryNames event names)

/-- The calls of an event that succeeds while these channels are open. -/
def eventCalls (event : Inspected) (names : List GoString) : List TransformCall :=
  (boundaryNames event names).map flushCall ++
    ((terminalNames event (names.filter fun name => name ∉ boundaryNames event names)).map
      flushCall ++ event.fields.map (fieldCall event.terminal))

variable (event : Inspected)

theorem boundaryNames_subset (names : List GoString) :
    (boundaryNames event names).Sublist names := by
  unfold boundaryNames
  split
  next => exact filter_sublist
  next => exact nil_sublist _

theorem terminalNames_subset (names : List GoString) :
    (terminalNames event names).Sublist names := by
  unfold terminalNames
  split
  next => exact filter_sublist
  next => exact nil_sublist _

variable {event} {names : List GoString}

theorem mem_eventNames {name : GoString} :
    name ∈ eventNames event names ↔ name ∈ names ∧
      ((∃ boundary, event.boundary = some boundary ∧ boundary.isPrefixOf name = true) ∨
        (event.terminal = true ∧ name ∉ event.fields.map (·.channel))) := by
  unfold eventNames boundaryNames terminalNames
  cases event.boundary <;> cases event.terminal <;> simp
  tauto

theorem eventCalls_eq :
    eventCalls event names =
      (eventNames event names).map flushCall ++ event.fields.map (fieldCall event.terminal) := by
  rw [eventCalls, eventNames, map_append, append_assoc]

theorem eventNames_nodup (distinct : names.Nodup) : (eventNames event names).Nodup := by
  refine nodup_append.mpr ⟨(boundaryNames_subset event names).nodup distinct,
    (terminalNames_subset event _).nodup (distinct.filter _), ?_⟩
  rintro first boundary second terminal rfl
  have other := (mem_filter.mp ((terminalNames_subset event _).subset terminal)).2
  exact of_decide_eq_true other boundary

variable (event)

theorem flushEvent_keys_ok
    (flushed : (flushAll env (eventNames event writer.channels.keys) writer).2 = .ok ()) :
    (flushAll env (eventNames event writer.channels.keys) writer).1.channels.keys =
      writer.channels.keys.filter fun key => key ∉ eventNames event writer.channels.keys :=
  flushAll_keys_ok env writer (eventNames_nodup writer.channels.distinct)
    (fun _ listed => (mem_eventNames.mp listed).1) flushed

theorem writeInspected_eq :
    writer.writeInspected env event =
      andThen (flushAll env (eventNames event writer.channels.keys) writer) fun _ writer =>
        andThen (transformFields env event.eventType event.terminal event.fields event.document
          writer) fun document writer =>
            andThen (writer.send env event.fields document) fun _ writer =>
              (writer.reset event, .ok ()) := by
  have boundary := boundaryNames_subset event writer.channels.keys
  have first : flushBoundary env event.boundary writer =
      flushAll env (boundaryNames event writer.channels.keys) writer := by
    unfold flushBoundary boundaryNames
    cases event.boundary <;> rfl
  unfold writeInspected send
  simp only [eventNames, flushAll_append, andThen_assoc, first]
  refine andThen_congr fun _ flushed => ?_
  rw [← flushAll_keys_ok env writer (boundary.nodup writer.channels.distinct)
    (fun name listed => boundary.subset listed) flushed]
  congr 1
  unfold flushTerminal terminalNames
  split <;> rfl

theorem reset_calls : (writer.reset event).calls = writer.calls := by
  unfold reset
  split <;> rfl

theorem writeInspected_makes :
    Makes writer (writer.writeInspected env event) (eventCalls event writer.channels.keys) := by
  rw [writeInspected_eq, eventCalls_eq]
  refine (flushAll_makes env writer (eventNames_nodup writer.channels.distinct)
    fun _ listed => (mem_eventNames.mp listed).1).andThen fun _ _ => ?_
  refine (transformFields_makes env _ _ _ _ _).thenSilent fun document _ => ?_
  exact (send_sent env _ _ _).makes.afterSilent fun _ _ => .none (reset_calls _ event)

theorem writeInspected_keys_ok {event : Inspected}
    (written : (writer.writeInspected env event).2 = .ok ()) (going : event.terminal = false)
    (listed : key ∈ event.fields.map (·.channel) ∨
      key ∈ writer.channels.keys ∧ key ∉ eventNames event writer.channels.keys) :
    key ∈ (writer.writeInspected env event).1.channels.keys := by
  rw [writeInspected_eq] at written ⊢
  obtain ⟨_, flushed, written⟩ := andThen_eq_ok.mp written
  rw [andThen_of_ok _ flushed]
  obtain ⟨document, turned, written⟩ := andThen_eq_ok.mp written
  rw [andThen_of_ok _ turned]
  obtain ⟨_, sent, _⟩ := andThen_eq_ok.mp written
  rw [andThen_of_ok _ sent, reset, if_neg (by simp [going]), (send_sent env _ _ _).channels]
  rw [going] at turned ⊢
  refine transformFields_keys_ok env _ turned (listed.imp_right fun still => ?_)
  rw [flushEvent_keys_ok env writer event flushed]
  exact mem_filter.mpr ⟨still.1, decide_eq_true still.2⟩

/-! ### The whole write -/

theorem writeAborted_makes : Makes writer (writer.writeAborted env channel text) [] :=
  (encode_makes env _ _).afterSilent fun _ _ => deliver_makes env _ _

theorem writeAborted_channels :
    (writer.writeAborted env channel text).1.channels = writer.channels :=
  andThen_channels (by rw [encode_writer, used_channels]) fun _ => deliver_channels env _ _

/-- The part of an abort between the redactor and the end of the channel. -/
theorem aborted_channels (writer : MaskWriter) (channel : StreamChannel) (text : GoString) :
    (if text = [] then (writer, .ok ()) else writer.writeAborted env channel text :
      MaskOutcome Unit).1.channels = writer.channels := by
  split
  next => rfl
  next => exact writeAborted_channels env writer channel text

theorem abortChannel_makes : Makes writer (abortChannel env name writer) [] := by
  unfold abortChannel
  split
  next => exact .none rfl
  next channel _ =>
    refine Makes.afterSilent ?_ fun _ _ => .none rfl
    split
    next => exact .none rfl
    next => exact writeAborted_makes env _ _ _

theorem abortAll_makes (names : List GoString) : Makes writer (abortAll env names writer) [] := by
  induction names generalizing writer with
  | nil => exact .none rfl
  | cons name names ih =>
    exact (abortChannel_makes env writer name).afterSilent fun _ _ => ih _

/-- The calls of a frame that succeeds while these channels are open. -/
def frameCalls (names : List GoString) : Seen → List TransformCall
  | .done => names.map flushCall
  | .inspected event => eventCalls event names
  | _ => []

def seenFields : Seen → List StreamField
  | .inspected event => event.fields
  | _ => []

theorem flushPending_eq : flushPending env writer = flushAll env writer.channels.keys writer := by
  rw [flushPending, flushPendingExcept, orderedChannels]
  congr 1
  simp

theorem writeFrame_makes (frame : GoString) :
    Makes writer (writer.writeFrame env frame)
      (frameCalls writer.channels.keys (inspect env.codec env.operation frame)) := by
  unfold writeFrame
  cases inspect env.codec env.operation frame with
  | plain => exact deliver_makes env _ _
  | unreadable reason => exact .none rfl
  | inspected event => exact writeInspected_makes env writer event
  | done =>
    rw [flushPending_eq]
    exact (flushAll_makes env writer writer.channels.distinct fun _ => id).thenSilent
      fun _ _ => deliver_makes env _ _

/-- A write makes the first of the calls of its frame, and all of them when the frame goes
through; a writer that has given up makes none. -/
theorem write_calls (frame : GoString) :
    ∃ made, (write env frame writer).1.calls = writer.calls ++ made ∧
      (writer.passthrough = true → made = []) ∧
      made <+: frameCalls writer.channels.keys (inspect env.codec env.operation frame) ∧
      (writer.passthrough = false → (writer.writeFrame env frame).2 = .ok () →
        made = frameCalls writer.channels.keys (inspect env.codec env.operation frame)) := by
  obtain ⟨made, same, early, complete⟩ := writeFrame_makes env writer frame
  unfold write
  split
  next gaveUp =>
    obtain ⟨silent, calls, nothing, _⟩ := deliver_makes env writer (rawTexts env frame)
    rw [prefix_nil.mp nothing] at calls
    exact ⟨[], calls, fun _ => rfl, nil_prefix, fun going => by simp [gaveUp] at going⟩
  next going =>
    refine ⟨made, ?_, fun gaveUp => absurd gaveUp going, early, fun _ => complete ()⟩
    revert same
    rcases writer.writeFrame env frame with ⟨after, reason | _⟩ <;> intro same
    · dsimp only at same ⊢
      split
      next => exact same
      next =>
        have silent : Makes after (after.giveUp env frame) [] := by
          refine (abortAll_makes env after _).afterSilent fun _ _ => ?_
          obtain ⟨none, calls, nothing, all⟩ := deliver_makes env
            { (abortPending env after).1 with passthrough := true } (rawTexts env frame)
          exact ⟨none, calls, nothing, all⟩
        obtain ⟨none, calls, nothing, _⟩ := silent
        rw [prefix_nil.mp nothing, append_nil] at calls
        rw [calls, same]
    · exact same

end MaskWriter

end SparkRoute.Gateway
