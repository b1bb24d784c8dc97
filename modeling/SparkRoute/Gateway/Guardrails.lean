import SparkRoute.Gateway.AwsProxy
import SparkRoute.Lib.Run
import SparkRoute.Pii.Session

/-!
# Streaming guardrails

`streamPostGuardrailWriter` keeps events back until every guardrail has allowed their
payloads. The trace records the reviews and the writes to the destination in the order in
which they happen.
-/

namespace SparkRoute.Gateway

open Lib

structure Guardrail where
  name : GoString
  failClosed : Bool
  deriving DecidableEq, Repr

inductive GuardrailAction where
  | allow
  | block
  | replace
  deriving DecidableEq, Repr

structure GuardrailStreamInput where
  sequence : Nat
  approvedContext : List GoString
  pending : List GoString
  final : Bool
  deriving DecidableEq, Repr

/-- What an invocation gives: a verdict or an error, and whether the request's context is
done. -/
structure GuardrailAnswer where
  verdict : Option GuardrailAction
  contextDone : Bool
  deriving DecidableEq, Repr

inductive GuardrailResult where
  | passed
  | blocked
  | failed
  deriving DecidableEq, Repr

/-- `invoke` answers the invocation with this number. -/
structure GuardrailPolicy where
  guardrails : List Guardrail
  windowBytes : Int
  contextMax : Int
  extractPayload : GoString → Option (GoString × Bool)
  invoke : Nat → Guardrail → GuardrailStreamInput → GuardrailAnswer
  deliver : Nat → GoString → Option GoString

/-! ### Payloads -/

def sseGuardrailPayload (event : GoString) : Option (GoString × Bool) :=
  (sseDataPayload event).map fun payload =>
    (payload, Pii.trimSpace payload = ascii "[DONE]")

def bedrockGuardrailPayload (toLower : GoString → GoString) (checksum : GoString → UInt32)
    (jsonValid : GoString → Bool) (event : GoString) : Option (GoString × Bool) :=
  match readAWSEventMessage toLower checksum ⟨event, false⟩ with
  | .error _ => none
  | .ok (message, _) => if jsonValid message.payload then some (message.payload, false) else none

/-! ### Reviews -/

namespace GuardrailPolicy

variable (policy : GuardrailPolicy)

/-- The outcome of the loop over the guardrails, and the number of invocations after it. -/
def applyFrom (input : GuardrailStreamInput) : List Guardrail → Nat → GuardrailResult × Nat
  | [], invocations => (.passed, invocations)
  | guardrail :: guardrails, invocations =>
    let answer := policy.invoke invocations guardrail input
    match answer.verdict with
    | none =>
      if answer.contextDone || guardrail.failClosed then (.failed, invocations + 1)
      else applyFrom input guardrails (invocations + 1)
    | some .allow => applyFrom input guardrails (invocations + 1)
    | some .block => (.blocked, invocations + 1)
    | some .replace =>
      if guardrail.failClosed then (.failed, invocations + 1)
      else applyFrom input guardrails (invocations + 1)

def applyStreamPostGuardrails (invocations : Nat) (input : GuardrailStreamInput) :
    GuardrailResult × Nat :=
  policy.applyFrom input policy.guardrails invocations

end GuardrailPolicy

inductive GuardrailTrace where
  | review (pending : List GoString) (result : GuardrailResult)
  | wrote (event : GoString) (taken : Bool)
  deriving DecidableEq, Repr

structure GuardrailWriter where
  pendingEvents : List GoString := []
  pendingPayloads : List GoString := []
  pendingBytes : Int := 0
  contextPayloads : List GoString := []
  contextBytes : Int := 0
  sequence : Nat := 0
  invocations : Nat := 0
  trace : List GuardrailTrace := []
  deriving DecidableEq, Repr

inductive GuardrailError where
  | blocked
  | failed
  | destination (reason : GoString)
  deriving DecidableEq, Repr

/-- The inner loop of `rememberApproved`. -/
def trimContext (contextMax : Int) : List GoString → Int → List GoString × Int
  | [], bytes => ([], bytes)
  | payload :: payloads, bytes =>
    if bytes > contextMax then trimContext contextMax payloads (bytes - payload.length)
    else (payload :: payloads, bytes)

def rememberPayload (contextMax : Int) (context : List GoString × Int) (payload : GoString) :
    List GoString × Int :=
  if payload.length > contextMax then ([], 0)
  else trimContext contextMax (context.1 ++ [payload]) (context.2 + payload.length)

namespace GuardrailWriter

variable (policy : GuardrailPolicy)

variable (writer : GuardrailWriter)

def rememberApproved (payloads : List GoString) : GuardrailWriter :=
  let context := payloads.foldl (rememberPayload policy.contextMax)
    (writer.contextPayloads, writer.contextBytes)
  { writer with contextPayloads := context.1, contextBytes := context.2 }

def reviewed (final : Bool) : GuardrailResult × GuardrailWriter :=
  let (result, invocations) := policy.applyStreamPostGuardrails writer.invocations
    ⟨writer.sequence, writer.contextPayloads, writer.pendingPayloads, final⟩
  (result, { writer with
    invocations := invocations
    trace := writer.trace ++ [.review writer.pendingPayloads result] })

def review (final : Bool) : GuardrailWriter × Option GuardrailError :=
  if writer.pendingPayloads = [] then (writer, none)
  else
    match writer.reviewed policy final with
    | (.blocked, writer) => (writer, some .blocked)
    | (.failed, writer) => (writer, some .failed)
    | (.passed, writer) => ({ writer with sequence := writer.sequence + 1 }, none)

def deliverAll : List GoString → List GuardrailTrace → List GuardrailTrace × Option GoString
  | [], trace => (trace, none)
  | event :: events, trace =>
    match policy.deliver trace.length event with
    | some reason => (trace ++ [.wrote event false], some reason)
    | none => deliverAll events (trace ++ [.wrote event true])

def forgetPending : GuardrailWriter :=
  { writer with pendingEvents := [], pendingPayloads := [], pendingBytes := 0 }

def release (final : Bool) : GuardrailWriter × Option GuardrailError :=
  if writer.pendingEvents = [] then (writer, none)
  else
    match writer.review policy final with
    | (writer, some error) => (writer, some error)
    | (writer, none) =>
      match deliverAll policy writer.pendingEvents writer.trace with
      | (trace, some reason) => ({ writer with trace := trace }, some (.destination reason))
      | (trace, none) =>
        let writer := { writer with trace := trace }
        ((writer.rememberApproved policy writer.pendingPayloads).forgetPending, none)

/-- The writer with one more event, and whether it is the terminal marker. -/
def keep (event : GoString) : GuardrailWriter × Bool :=
  let writer := { writer with
    pendingEvents := writer.pendingEvents ++ [event]
    pendingBytes := writer.pendingBytes + event.length }
  match policy.extractPayload event with
  | some (payload, false) =>
    ({ writer with pendingPayloads := writer.pendingPayloads ++ [payload] }, false)
  | some (_, true) => (writer, true)
  | none => (writer, false)

def write (event : GoString) : GuardrailWriter × Option GuardrailError :=
  match writer.keep policy event with
  | (writer, final) =>
    if writer.pendingBytes < policy.windowBytes ∧ !final then (writer, none)
    else writer.release policy final

def finish : GuardrailWriter × Option GuardrailError :=
  writer.release policy true

end GuardrailWriter

inductive GuardrailCall where
  | write (event : GoString)
  | finish
  deriving DecidableEq, Repr

def GuardrailCall.event : GuardrailCall → Option GoString
  | .write event => some event
  | .finish => none

/-- One call; what follows an error is up to the caller. -/
def GuardrailWriter.step (policy : GuardrailPolicy) (writer : GuardrailWriter) :
    GuardrailCall → GuardrailWriter
  | .write event => (writer.write policy event).1
  | .finish => (writer.finish policy).1

end SparkRoute.Gateway
