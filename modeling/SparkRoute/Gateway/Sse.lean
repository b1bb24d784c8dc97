import SparkRoute.Lib.Lines

/-!
# Server-sent events

`proxySSEEvents` buffers one event at a time and passes it on when its blank line has
arrived. The scanner remembers where it stopped, so that a byte is looked at once however
the transport cuts the stream.
-/

namespace SparkRoute.Gateway

open Lib

def maxSSEEventBytes : Nat := 1048576

def splitSSELines (event : GoString) : List Line := splitLines event

def sseData (line : Line) : Option GoString :=
  if line.content = ascii "data" then some []
  else if (ascii "data:").isPrefixOf line.content then
    let value := line.content.drop 5
    some (if value.head? = some 0x20 then value.tail else value)
  else none

def sseDataPayload (event : GoString) : Option GoString :=
  match (splitSSELines event).filterMap sseData with
  | [] => none
  | data => some ([lineFeed].intercalate data)

/-- The destination with the functions that look at an event before it is written.
`State` is whatever the observer and the destination remember. -/
structure Proxy (State : Type) where
  observePayload : Option (State → GoString → State × Option GoString)
  transformEvent : Option (GoString → GoString)
  write : State → GoString → State × Option GoString

structure Output (State : Type) where
  state : State
  written : List GoString
  deriving DecidableEq

variable {State : Type}

variable (proxy : Proxy State)

def Proxy.observe (state : State) (event : GoString) :
    State × Option GoString :=
  match proxy.observePayload, sseDataPayload event with
  | some observePayload, some payload => observePayload state payload
  | _, _ => (state, none)

def Proxy.transform (event : GoString) : GoString :=
  match proxy.transformEvent with
  | some transformEvent => transformEvent event
  | none => event

def writeSSEEvent (output : Output State) (event : GoString) :
    Output State × Option GoString :=
  match proxy.observe output.state event with
  | (state, some reason) => ({ output with state := state }, some reason)
  | (state, none) =>
    let text := proxy.transform event
    let (state, failure) := proxy.write state text
    (⟨state, output.written ++ [text]⟩, failure)

/-- The bytes of an event that is still incomplete, and how far they have been scanned. -/
structure SseBuffer where
  event : GoString
  scanIndex : Nat
  lineStart : Nat
  deriving DecidableEq, Repr

def SseBuffer.start (event : GoString) : SseBuffer := ⟨event, 0, 0⟩

def eventTooLong : GoString := ascii "SSE event exceeds 1048576 bytes"

/-- The length of the ending whose first byte is at `scanIndex`. -/
def endingBytes (event : GoString) (scanIndex : Nat) : Nat :=
  if event[scanIndex]? = some carriageReturn ∧ event[scanIndex + 1]? = some lineFeed then 2
  else 1

theorem endingBytes_pos (event : GoString) (scanIndex : Nat) : 0 < endingBytes event scanIndex := by
  unfold endingBytes
  split <;> decide

def writeCompleteSSEEvents (proxy : Proxy State) (eof : Bool) (output : Output State)
    (buffer : SseBuffer) : Output State × Except GoString SseBuffer :=
  if inside : buffer.scanIndex < buffer.event.length then
    let byte := buffer.event[buffer.scanIndex]
    if !isEnding byte then
      writeCompleteSSEEvents proxy eof output { buffer with scanIndex := buffer.scanIndex + 1 }
    else if byte = carriageReturn ∧ buffer.scanIndex + 1 = buffer.event.length ∧ !eof then
      (output, .ok buffer)
    else
      let next := buffer.scanIndex + endingBytes buffer.event buffer.scanIndex
      if buffer.scanIndex ≠ buffer.lineStart then
        writeCompleteSSEEvents proxy eof output ⟨buffer.event, next, next⟩
      else if next > maxSSEEventBytes then (output, .error eventTooLong)
      else
        match writeSSEEvent proxy output (buffer.event.take next) with
        | (output, some reason) => (output, .error reason)
        | (output, none) =>
          writeCompleteSSEEvents proxy eof output (.start (buffer.event.drop next))
  else (output, .ok buffer)
termination_by buffer.event.length - buffer.scanIndex
decreasing_by
  all_goals have positive := endingBytes_pos buffer.event buffer.scanIndex
  · omega
  · omega
  · simp only [SseBuffer.start, List.length_drop]
    omega

/-- The reads of a stream: those without an error, then the last one with its error, which
is `none` at the end of the stream. -/
structure Source where
  reads : List GoString
  last : GoString
  failure : Option GoString

def Source.bytes (source : Source) : GoString := source.reads.flatten ++ source.last

def noProgress : GoString := ascii "multiple Read calls return no data or error"

def takeRead (output : Output State) (buffer : SseBuffer)
    (read : GoString) : Output State × Except GoString SseBuffer :=
  if read = [] then (output, .ok buffer)
  else
    match writeCompleteSSEEvents proxy false output
      { buffer with event := buffer.event ++ read } with
    | (output, .error reason) => (output, .error reason)
    | (output, .ok buffer) =>
      if buffer.event.length > maxSSEEventBytes then (output, .error eventTooLong)
      else (output, .ok buffer)

/-- The end of the stream: an event without its blank line is written as it is. -/
def finishReads (output : Output State) (buffer : SseBuffer) :
    Output State × Option GoString :=
  match writeCompleteSSEEvents proxy true output buffer with
  | (output, .error reason) => (output, some reason)
  | (output, .ok buffer) =>
    if 0 < buffer.event.length then writeSSEEvent proxy output buffer.event
    else (output, none)

def proxyReads (proxy : Proxy State) (last : GoString) (failure : Option GoString) :
    List GoString → Output State → SseBuffer → Output State × Option GoString
  | [], output, buffer =>
    match takeRead proxy output buffer last, failure with
    | (output, .error reason), _ => (output, some reason)
    | (output, .ok _), some reason => (output, some reason)
    | (output, .ok buffer), none => finishReads proxy output buffer
  | read :: reads, output, buffer =>
    match takeRead proxy output buffer read with
    | (output, .error reason) => (output, some reason)
    | (output, .ok buffer) =>
      if read = [] then (output, some noProgress)
      else proxyReads proxy last failure reads output buffer

def proxySSEEvents (state : State) (source : Source) :
    Output State × Option GoString :=
  proxyReads proxy source.last source.failure source.reads ⟨state, []⟩ (.start [])

end SparkRoute.Gateway
