import SparkRoute.Gateway.StreamFields
import SparkRoute.Lib.OrderedMap
import SparkRoute.Lib.Run
import SparkRoute.Pii.Stream

/-!
# The masking writer

`streamPIIMaskWriter` keeps one redactor for each semantic channel. Frames are written as
documents, and the trace records the calls of `Transform` and the texts that each written
frame carries on its channels.
-/

namespace SparkRoute.Gateway

open Lib
open Lib.Json (Value)

def maximumPIIStreamChannels : Nat := 4096

def maximumPIIStreamPendingBytes : Int := 4194304

def maximumPIITextSegments : Nat := 65536

def maximumPIITextBytes : Nat := 67108864

/-- The writer's surroundings. What may differ from call to call is numbered: the detector,
whether a redactor can be made, whether a document can be encoded, and what the destination
answers. -/
structure MaskEnvironment where
  codec : StreamCodec
  operation : StreamOperation
  toUpper : GoString → GoString
  entities : List GoString
  detector : Nat → Pii.Detector
  streaming : Nat → Bool
  encodable : Nat → Value → Bool
  refuses : Nat → Option String
  failClosed : Bool

/-- The flush form of the last field, with the type of its event. -/
structure StreamChannel where
  redactor : Pii.StreamRedactor
  flush : GoString → Value
  eventType : GoString

/-- A frame as what it carries: on each channel a text. -/
abbrev FrameTexts := List (GoString × GoString)

inductive MaskTrace where
  | transform (channel fragment : GoString) (final : Bool)
  | wrote (texts : FrameTexts)
  deriving DecidableEq

structure MaskWriter where
  channels : OrderedMap GoString StreamChannel := .empty
  pendingBytes : Int := 0
  passthrough : Bool := false
  uses : Nat := 0
  trace : List MaskTrace := []

def textsOn (channel : GoString) (texts : FrameTexts) : GoString :=
  texts.flatMap fun entry => if entry.1 = channel then entry.2 else []

def MaskTrace.writtenOn (channel : GoString) : MaskTrace → GoString
  | .wrote texts => textsOn channel texts
  | .transform _ _ _ => []

def MaskWriter.written (writer : MaskWriter) (channel : GoString) : GoString :=
  writer.trace.flatMap (MaskTrace.writtenOn channel)

abbrev MaskOutcome (Result : Type) := MaskWriter × Except String Result

namespace MaskWriter

/-- Goes on with the result of a step that succeeded. -/
def andThen {First Result : Type} (outcome : MaskOutcome First)
    (next : First → MaskWriter → MaskOutcome Result) : MaskOutcome Result :=
  match outcome with
  | (writer, .error reason) => (writer, .error reason)
  | (writer, .ok value) => next value writer

variable (env : MaskEnvironment)

variable (writer : MaskWriter)

def used : MaskWriter := { writer with uses := writer.uses + 1 }

def record (entry : MaskTrace) : MaskWriter :=
  { writer with trace := writer.trace ++ [entry] }

def deliver (texts : FrameTexts) : MaskOutcome Unit :=
  match env.refuses writer.uses with
  | some reason => (writer.used, .error reason)
  | none => (writer.used.record (.wrote texts), .ok ())

/-- `session.Redact`, which asks the detector once. -/
def redact (writer : MaskWriter) (text : GoString) : Except String GoString :=
  Pii.redact env.toUpper (env.detector writer.uses) env.entities text

/-- `maskPIIJSONDocument` within the limits of a traversal. -/
def mask (document : Value) : MaskOutcome Value :=
  let texts := Json.strings document
  if maximumPIITextSegments < texts.length ∨ maximumPIITextBytes < texts.flatten.length then
    (writer.used, .error "PII text traversal exceeds its segment or byte limit")
  else (writer.used, Json.transformStrings (writer.redact env) document)

/-- `json.Marshal`, and for AWS the new message. -/
def encode (document : Value) : MaskOutcome Unit :=
  if env.encodable writer.uses document then (writer.used, .ok ())
  else (writer.used, .error "PII stream payload cannot be encoded")

def fieldTexts (fields : List StreamField) (document : Value) : FrameTexts :=
  fields.map fun field =>
    (field.channel, ((Json.get field.path document).bind textOf).getD [])

def flushFields (channel : StreamChannel) (text : GoString) : List StreamField :=
  streamFields env.codec (channel.flush text) env.operation channel.eventType

/-! ### Transform -/

def transform (writer : MaskWriter) (name : GoString) (channel : StreamChannel)
    (fragment : GoString) (final : Bool) : MaskOutcome (GoString × Pii.StreamRedactor) :=
  (writer.used.record (.transform name fragment final),
    channel.redactor.transform env.toUpper env.entities ⟨env.detector writer.uses, fragment⟩ final)

/-- The channel of a field, made when there is none. -/
def openChannel (eventType : GoString) (field : StreamField) :
    MaskOutcome StreamChannel :=
  match writer.channels.get field.channel with
  | some channel =>
    let channel := { channel with flush := field.flush, eventType := eventType }
    ({ writer with channels := writer.channels.insert field.channel channel }, .ok channel)
  | none =>
    if maximumPIIStreamChannels ≤ writer.channels.entries.length then
      (writer, .error "PII stream exceeds 4096 semantic channels")
    else
      match Pii.newStreamRedactor (env.streaming writer.uses) 0 with
      | .error message => (writer.used, .error message)
      | .ok redactor =>
        let channel : StreamChannel := ⟨redactor, field.flush, eventType⟩
        ({ writer.used with channels := writer.channels.insert field.channel channel },
          .ok channel)

/-- The redactor after a successful `Transform`, with the bytes that are pending now. -/
def settle (name : GoString) (channel : StreamChannel)
    (redactor : Pii.StreamRedactor) : MaskWriter :=
  { writer with
    channels := writer.channels.insert name { channel with redactor := redactor }
    pendingBytes := writer.pendingBytes +
      ((redactor.pending.length : Int) - (channel.redactor.pending.length : Int)) }

def close (name : GoString) : MaskWriter :=
  { writer with channels := writer.channels.erase name }

/-- One turn of `transformFields`. -/
def transformField (eventType : GoString) (final : Bool) (field : StreamField)
    (document : Value) (writer : MaskWriter) : MaskOutcome Value :=
  andThen (writer.openChannel env eventType field) fun channel writer =>
    andThen (writer.transform env field.channel channel field.value final)
      fun result writer =>
        let writer := writer.settle field.channel channel result.2
        if writer.pendingBytes > maximumPIIStreamPendingBytes then
          (writer, .error "PII stream pending suffixes exceed 4194304 bytes")
        else
          (if final then writer.close field.channel else writer,
            .ok (Json.set result.1 field.path document))

def transformFields (eventType : GoString) (final : Bool) :
    List StreamField → Value → MaskWriter → MaskOutcome Value
  | [], document, writer => (writer, .ok document)
  | field :: fields, document, writer =>
    andThen (transformField env eventType final field document writer) fun document writer =>
      transformFields eventType final fields document writer

/-! ### Flushing -/

/-- The frame of a flushed text, redacted once more as a whole. -/
def writeFlushed (channel : StreamChannel) (text : GoString) (writer : MaskWriter) :
    MaskOutcome Unit :=
  andThen (writer.encode env (channel.flush text)) fun _ writer =>
    andThen (writer.mask env (channel.flush text)) fun document writer =>
      andThen (writer.encode env document) fun _ writer =>
        writer.deliver env (fieldTexts (flushFields env channel text) document)

def flushChannel (name : GoString) (writer : MaskWriter) : MaskOutcome Unit :=
  match writer.channels.get name with
  | none => (writer, .ok ())
  | some channel =>
    andThen (writer.transform env name channel [] true) fun result writer =>
      let writer := writer.settle name channel result.2
      andThen (if result.1 = [] then (writer, .ok ())
          else writer.writeFlushed env channel result.1)
        fun _ writer => (writer.close name, .ok ())

def flushAll : List GoString → MaskWriter → MaskOutcome Unit
  | [], writer => (writer, .ok ())
  | name :: names, writer =>
    andThen (flushChannel env name writer) fun _ writer => flushAll names writer

/-- The channels are kept in the order of their sequence numbers. -/
def orderedChannels : List GoString := writer.channels.keys

def flushPendingExcept (excluded : List GoString) (writer : MaskWriter) : MaskOutcome Unit :=
  flushAll env (writer.orderedChannels.filter fun name => name ∉ excluded) writer

def flushPending : MaskOutcome Unit :=
  flushPendingExcept env [] writer

def flushMatching (boundary : GoString) (writer : MaskWriter) : MaskOutcome Unit :=
  flushAll env (writer.orderedChannels.filter fun name => boundary.isPrefixOf name) writer

/-- The frame of a text that is given back as it is. -/
def writeAborted (channel : StreamChannel) (text : GoString) (writer : MaskWriter) :
    MaskOutcome Unit :=
  andThen (writer.encode env (channel.flush text)) fun _ writer =>
    writer.deliver env (fieldTexts (flushFields env channel text) (channel.flush text))

/-- One turn of `abortPending`. -/
def abortChannel (name : GoString) (writer : MaskWriter) : MaskOutcome Unit :=
  match writer.channels.get name with
  | none => (writer, .ok ())
  | some channel =>
    let (pending, redactor) := channel.redactor.abort []
    let writer := writer.settle name channel redactor
    andThen (if pending = [] then (writer, .ok ())
        else writer.writeAborted env channel pending)
      fun _ writer => (writer.close name, .ok ())

def abortAll : List GoString → MaskWriter → MaskOutcome Unit
  | [], writer => (writer, .ok ())
  | name :: names, writer =>
    andThen (abortChannel env name writer) fun _ writer => abortAll names writer

def abortPending : MaskOutcome Unit :=
  abortAll env writer.orderedChannels writer

/-! ### Frames -/

def rawTexts (frame : GoString) : FrameTexts :=
  match inspect env.codec env.operation frame with
  | .inspected event => event.fields.map fun field => (field.channel, field.value)
  | _ => []

def flushBoundary (boundary : Option GoString) (writer : MaskWriter) : MaskOutcome Unit :=
  match boundary with
  | some boundary => flushMatching env boundary writer
  | none => (writer, .ok ())

def flushTerminal (event : Inspected) (writer : MaskWriter) : MaskOutcome Unit :=
  if event.terminal then flushPendingExcept env (event.fields.map (·.channel)) writer
  else (writer, .ok ())

def reset (event : Inspected) (writer : MaskWriter) : MaskWriter :=
  if event.terminal then { writer with channels := .empty, pendingBytes := 0 } else writer

def writeInspected (event : Inspected) (writer : MaskWriter) : MaskOutcome Unit :=
  andThen (flushBoundary env event.boundary writer) fun _ writer =>
    andThen (flushTerminal env event writer) fun _ writer =>
      andThen (transformFields env event.eventType event.terminal event.fields event.document
        writer) fun document writer =>
          andThen (writer.mask env document) fun document writer =>
            andThen (writer.encode env document) fun _ writer =>
              andThen (writer.deliver env (fieldTexts event.fields document)) fun _ writer =>
                (writer.reset event, .ok ())

/-- `writeSSE` and `writeAWS`. -/
def writeFrame (frame : GoString) (writer : MaskWriter) : MaskOutcome Unit :=
  match inspect env.codec env.operation frame with
  | .plain => writer.deliver env []
  | .done => andThen (writer.flushPending env) fun _ writer => writer.deliver env []
  | .unreadable reason => (writer, .error reason)
  | .inspected event => writer.writeInspected env event

/-- What follows a failed step when failures are let through. -/
def giveUp (frame : GoString) (writer : MaskWriter) : MaskOutcome Unit :=
  andThen (writer.abortPending env) fun _ writer =>
    { writer with passthrough := true }.deliver env (rawTexts env frame)

def write (frame : GoString) (writer : MaskWriter) : MaskOutcome Unit :=
  if writer.passthrough then writer.deliver env (rawTexts env frame)
  else
    match writer.writeFrame env frame with
    | (writer, .ok ()) => (writer, .ok ())
    | (writer, .error reason) =>
      if env.failClosed then (writer, .error reason) else writer.giveUp env frame

def finish : MaskOutcome Unit :=
  if writer.passthrough then (writer, .ok ())
  else
    match writer.flushPending env with
    | (writer, .ok ()) => (writer, .ok ())
    | (writer, .error reason) =>
      if env.failClosed then (writer, .error reason)
      else andThen (writer.abortPending env) fun _ writer =>
        ({ writer with passthrough := true }, .ok ())

def writeAll (frames : List GoString) : MaskWriter :=
  run (fun writer frame => (write env frame writer).1) {} frames

end MaskWriter

end SparkRoute.Gateway
