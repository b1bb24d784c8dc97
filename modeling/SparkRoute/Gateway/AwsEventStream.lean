import SparkRoute.Lib.BigEndian
import SparkRoute.Lib.Checked

/-!
# AWS event-stream messages

A message is a prelude with two lengths and their checksum, the headers, the payload, and a
checksum of all of it. Indices and slices are checked: `outOfRange` is the failure that the
reader must never meet.
-/

namespace SparkRoute.Gateway

open Lib

def awsEventPreludeBytes : Nat := 12

def awsEventOverheadBytes : Nat := 16

def maxAWSEventPayloadBytes : Nat := 16777216

def maxAWSEventHeaderBytes : Nat := 131072

def maxAWSEventMessageBytes : Nat :=
  maxAWSEventPayloadBytes + maxAWSEventHeaderBytes + awsEventOverheadBytes

inductive AwsFault where
  | eof
  | unexpectedEOF
  | failed (reason : GoString)
  | outOfRange
  deriving DecidableEq, Repr

abbrev AwsResult (Value : Type) := Except AwsFault Value

def reject (condition : Prop) [Decidable condition] (reason : String) : AwsResult Unit :=
  if condition then .error (.failed (ascii reason)) else .ok ()

/-- `bytes[start:stop]`. -/
def slice (bytes : GoString) (start stop : Nat) : AwsResult GoString :=
  if start ≤ stop ∧ stop ≤ bytes.length then .ok ((bytes.take stop).drop start)
  else .error .outOfRange

/-- `bytes[index]`. -/
def byteAt (bytes : GoString) (index : Nat) : AwsResult UInt8 :=
  match bytes[index]? with
  | some byte => .ok byte
  | none => .error .outOfRange

/-- `binary.BigEndian.Uint32` and `Uint16`. -/
def bigEndianUint (width : Nat) (bytes : GoString) : AwsResult Nat := do
  let front ← slice bytes 0 width
  return readBigEndian front

/-! ### Headers -/

def truncatedValue : AwsFault :=
  .failed (ascii "AWS event-stream header value is truncated")

def fixedValue (width : Nat) (raw : GoString) : AwsResult (GoString × Nat) :=
  if raw.length < width then .error truncatedValue else .ok ([], width)

/-- A value with its length in front; only text is kept. -/
def sizedValue (text : Bool) (raw : GoString) : AwsResult (GoString × Nat) :=
  if raw.length < 2 then .error truncatedValue
  else do
    let length ← bigEndianUint 2 raw
    if raw.length < 2 + length then .error truncatedValue
    else if text then do
      let value ← slice raw 2 (2 + length)
      return (value, 2 + length)
    else return ([], 2 + length)

def decodeAWSEventHeaderValue (valueType : UInt8) (raw : GoString) : AwsResult (GoString × Nat) :=
  match valueType.toNat with
  | 0 => .ok (ascii "true", 0)
  | 1 => .ok (ascii "false", 0)
  | 2 => fixedValue 1 raw
  | 3 => fixedValue 2 raw
  | 4 => fixedValue 4 raw
  | 5 | 8 => fixedValue 8 raw
  | 6 => sizedValue false raw
  | 7 => sizedValue true raw
  | 9 => fixedValue 16 raw
  | _ => .error (.failed (ascii "AWS event-stream header has an unknown value type"))

abbrev AwsHeaders := List (GoString × GoString)

variable (toLower : GoString → GoString)

def decodeAWSEventHeader (raw : GoString) : AwsResult ((GoString × GoString) × GoString) := do
  let nameLength ← byteAt raw 0
  let raw ← slice raw 1 raw.length
  reject (nameLength.toNat = 0 ∨ raw.length < nameLength.toNat + 1)
    "AWS event-stream header is truncated"
  let name ← slice raw 0 nameLength.toNat
  let raw ← slice raw nameLength.toNat raw.length
  let valueType ← byteAt raw 0
  let raw ← slice raw 1 raw.length
  let (value, consumed) ← decodeAWSEventHeaderValue valueType raw
  let raw ← slice raw consumed raw.length
  return ((toLower name, value), raw)

theorem slice_eq_ok {bytes part : GoString} {start stop : Nat} :
    slice bytes start stop = .ok part ↔
      start ≤ stop ∧ stop ≤ bytes.length ∧ part = (bytes.take stop).drop start := by
  unfold slice
  split
  next inside => simp [inside, eq_comm]
  next outside => simpa using fun ordered bounded => absurd ⟨ordered, bounded⟩ outside

theorem slice_length {bytes part : GoString} {start stop : Nat}
    (cut : slice bytes start stop = .ok part) : part.length = stop - start := by
  obtain ⟨ordered, bounded, rfl⟩ := slice_eq_ok.mp cut
  simp [bounded]

theorem decodeAWSEventHeader_shorter {raw rest : GoString} {header : GoString × GoString}
    (decoded : decodeAWSEventHeader toLower raw = .ok (header, rest)) :
    rest.length < raw.length := by
  obtain ⟨nameLength, first, decoded⟩ := bind_eq_ok.mp decoded
  obtain ⟨afterLength, cutLength, decoded⟩ := bind_eq_ok.mp decoded
  obtain ⟨_, _, decoded⟩ := bind_eq_ok.mp decoded
  obtain ⟨name, _, decoded⟩ := bind_eq_ok.mp decoded
  obtain ⟨afterName, cutName, decoded⟩ := bind_eq_ok.mp decoded
  obtain ⟨valueType, typed, decoded⟩ := bind_eq_ok.mp decoded
  obtain ⟨afterType, cutType, decoded⟩ := bind_eq_ok.mp decoded
  obtain ⟨⟨value, consumed⟩, _, decoded⟩ := bind_eq_ok.mp decoded
  obtain ⟨afterValue, cutValue, decoded⟩ := bind_eq_ok.mp decoded
  cases decoded
  have nonempty := (slice_eq_ok.mp cutLength).1
  have lengths := slice_length cutLength
  have names := slice_length cutName
  have types := slice_length cutType
  have values := slice_length cutValue
  omega

def decodeHeadersFrom (headers : AwsHeaders) (raw : GoString) : AwsResult AwsHeaders :=
  if raw = [] then .ok headers
  else
    match decoded : decodeAWSEventHeader toLower raw with
    | .error fault => .error fault
    | .ok ((name, value), rest) =>
      have := decodeAWSEventHeader_shorter toLower decoded
      if headers.any (fun header => header.1 = name) then
        .error (.failed (ascii "AWS event-stream contains a duplicate header"))
      else decodeHeadersFrom (headers ++ [(name, value)]) rest
termination_by raw.length

def decodeAWSEventHeaders (raw : GoString) : AwsResult AwsHeaders :=
  decodeHeadersFrom toLower [] raw

/-! ### Messages -/

structure AwsEventMessage where
  raw : GoString
  headers : AwsHeaders
  payload : GoString
  deriving DecidableEq, Repr

def AwsEventMessage.header (message : AwsEventMessage) (name : GoString) : GoString :=
  ((message.headers.find? fun header => header.1 = toLower name).map (·.2)).getD []

/-- A byte stream; a broken one ends with an error other than the end of the file. -/
structure ByteStream where
  bytes : GoString
  broken : Bool
  deriving DecidableEq, Repr

/-- `io.ReadFull` of the prelude. -/
def readPrelude (source : ByteStream) : AwsResult (GoString × ByteStream) :=
  if awsEventPreludeBytes ≤ source.bytes.length then
    .ok (source.bytes.take awsEventPreludeBytes,
      { source with bytes := source.bytes.drop awsEventPreludeBytes })
  else if source.bytes = [] ∧ !source.broken then .error .eof
  else .error .unexpectedEOF

/-- `io.ReadFull` of the bytes after the prelude. -/
def readBody (source : ByteStream) (count : Nat) : AwsResult (GoString × ByteStream) :=
  if count ≤ source.bytes.length then
    .ok (source.bytes.take count, { source with bytes := source.bytes.drop count })
  else .error .unexpectedEOF

variable (checksum : GoString → UInt32)

def decodePrelude (prelude : GoString) : AwsResult (Nat × Nat) := do
  let totalLength ← bigEndianUint 4 prelude
  let headersLength ← slice prelude 4 8 >>= bigEndianUint 4
  let expectedPreludeCRC ← slice prelude 8 12 >>= bigEndianUint 4
  reject (totalLength < awsEventOverheadBytes ∨ totalLength > maxAWSEventMessageBytes)
    "AWS event-stream message length is invalid"
  reject (headersLength > maxAWSEventHeaderBytes ∨
      headersLength > totalLength - awsEventOverheadBytes)
    "AWS event-stream header length is invalid"
  reject (totalLength - awsEventOverheadBytes - headersLength > maxAWSEventPayloadBytes)
    "AWS event-stream payload length is invalid"
  let lengths ← slice prelude 0 8
  reject ((checksum lengths).toNat ≠ expectedPreludeCRC)
    "AWS event-stream prelude checksum is invalid"
  return (totalLength, headersLength)

def decodeMessage (raw : GoString) (totalLength headersLength : Nat) :
    AwsResult AwsEventMessage := do
  let expectedMessageCRC ← slice raw (totalLength - 4) raw.length >>= bigEndianUint 4
  let front ← slice raw 0 (totalLength - 4)
  reject ((checksum front).toNat ≠ expectedMessageCRC)
    "AWS event-stream message checksum is invalid"
  let headerBytes ← slice raw awsEventPreludeBytes (awsEventPreludeBytes + headersLength)
  let headers ← decodeAWSEventHeaders toLower headerBytes
  let payload ← slice raw (awsEventPreludeBytes + headersLength) (totalLength - 4)
  return ⟨raw, headers, payload⟩

def readAWSEventMessage (source : ByteStream) : AwsResult (AwsEventMessage × ByteStream) := do
  let (prelude, source) ← readPrelude source
  let (totalLength, headersLength) ← decodePrelude checksum prelude
  let (body, source) ← readBody source (totalLength - awsEventPreludeBytes)
  let message ← decodeMessage toLower checksum (prelude ++ body) totalLength headersLength
  return (message, source)

def replaceAWSEventPayload (message : AwsEventMessage) (payload : GoString) :
    AwsResult GoString := do
  reject (payload.length > maxAWSEventPayloadBytes)
    "AWS event-stream payload exceeds 16777216 bytes"
  let headersLength ← slice message.raw 4 8 >>= bigEndianUint 4
  let totalLength := awsEventOverheadBytes + headersLength + payload.length
  reject (totalLength > maxAWSEventMessageBytes)
    "AWS event-stream message exceeds 16908304 bytes"
  let lengths := bigEndian 4 totalLength ++ bigEndian 4 headersLength
  let prelude := lengths ++ bigEndian 4 (checksum lengths).toNat
  let headerBytes ← slice message.raw awsEventPreludeBytes
    (awsEventPreludeBytes + headersLength)
  let front := prelude ++ headerBytes ++ payload
  return front ++ bigEndian 4 (checksum front).toNat

end SparkRoute.Gateway
