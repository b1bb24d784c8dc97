import SparkRoute.Gateway.AwsCodec
import SparkRoute.Gateway.Sse

/-!
# Proxying an event stream

Messages are read, shown to the observer and written as they came, until the stream ends
or a step fails.
-/

namespace SparkRoute.Gateway

open Lib List

variable (toLower : GoString → GoString) (checksum : GoString → UInt32)

theorem readAWSEventMessage_shorter {source rest : ByteStream} {message : AwsEventMessage}
    (read : readAWSEventMessage toLower checksum source = .ok (message, rest)) :
    rest.bytes.length < source.bytes.length := by
  obtain ⟨headerBytes, accepted⟩ := readAWSEventMessage_accepted toLower checksum read
  rw [accepted.bytes, accepted.framed, frameMessage, length_append, length_append, length_bigEndian]
  omega

structure AwsProxy (State : Type) where
  observe : Option (State → AwsEventMessage → State × Option GoString)
  write : State → GoString → State × Option GoString

variable {State : Type} (proxy : AwsProxy State)

def AwsProxy.observed (state : State) (message : AwsEventMessage) : State × Option GoString :=
  match proxy.observe with
  | some observe => observe state message
  | none => (state, none)

def proxyAWSEventMessages (output : Output State) (source : ByteStream) :
    Output State × Option AwsFault :=
  match read : readAWSEventMessage toLower checksum source with
  | .error .eof => (output, none)
  | .error fault => (output, some fault)
  | .ok (message, rest) =>
    have := readAWSEventMessage_shorter toLower checksum read
    match proxy.observed output.state message with
    | (state, some reason) => (⟨state, output.written⟩, some (.failed reason))
    | (state, none) =>
      match proxy.write state message.raw with
      | (state, some reason) =>
        (⟨state, output.written ++ [message.raw]⟩, some (.failed reason))
      | (state, none) =>
        proxyAWSEventMessages ⟨state, output.written ++ [message.raw]⟩ rest
termination_by source.bytes.length

/-- The reader accepts the messages one after the other and stands at the last stream. -/
inductive ReadsAll : ByteStream → List AwsEventMessage → ByteStream → Prop where
  | nil (source : ByteStream) : ReadsAll source [] source
  | cons {source next rest : ByteStream} {message : AwsEventMessage}
      {messages : List AwsEventMessage}
      (read : readAWSEventMessage toLower checksum source = .ok (message, next))
      (later : ReadsAll next messages rest) : ReadsAll source (message :: messages) rest

/-- Why the proxy stopped: the stream ended, the reader refused what follows, or the observer
or the destination failed. -/
inductive Stopped (rest : ByteStream) : Option AwsFault → Prop where
  | ended (read : readAWSEventMessage toLower checksum rest = .error .eof) : Stopped rest none
  | refused {fault : AwsFault} (other : fault ≠ .eof)
      (read : readAWSEventMessage toLower checksum rest = .error fault) :
      Stopped rest (some fault)
  | failed {state : State} {message : AwsEventMessage} {reason : GoString}
      (failed : (proxy.observed state message).2 = some reason ∨
        (proxy.write state message.raw).2 = some reason) : Stopped rest (some (.failed reason))

theorem proxyAWSEventMessages_writes (output : Output State) (source : ByteStream) :
    ∃ messages rest, ReadsAll toLower checksum source messages rest ∧
      Stopped toLower checksum proxy rest
        (proxyAWSEventMessages toLower checksum proxy output source).2 ∧
      (proxyAWSEventMessages toLower checksum proxy output source).1.written =
        output.written ++ messages.map (·.raw) := by
  fun_induction proxyAWSEventMessages toLower checksum proxy output source with
  | case1 output source read => exact ⟨[], source, .nil _, .ended read, by simp⟩
  | case2 output source fault other read => exact ⟨[], source, .nil _, .refused other read, by simp⟩
  | case3 output source message rest read _ state reason observed =>
    exact ⟨[], source, .nil _, .failed (Or.inl (by rw [observed])), by simp⟩
  | case4 output source message rest read _ state _ next reason written =>
    exact ⟨[message], rest, .cons read (.nil _), .failed (Or.inr (by rw [written])), by simp⟩
  | case5 output source message rest read _ state _ next _ ih =>
    obtain ⟨messages, last, reads, stopped, written⟩ := ih
    refine ⟨message :: messages, last, .cons read reads, stopped, ?_⟩
    simp [written]

theorem ReadsAll.bytes {source rest : ByteStream} {messages : List AwsEventMessage}
    (reads : ReadsAll toLower checksum source messages rest) :
    source.bytes = (messages.map (·.raw)).flatten ++ rest.bytes := by
  induction reads with
  | nil => rfl
  | cons read later ih =>
    obtain ⟨headerBytes, accepted⟩ := readAWSEventMessage_accepted toLower checksum read
    rw [accepted.bytes, ih]
    simp

/-- A replaced payload reads back with the same headers, the own payload gives the message
back, the reader never leaves its buffer, and the proxy writes what the reader accepts. -/
theorem awsEventStream_round_trip :
    (∀ source message rest, readAWSEventMessage toLower checksum source = .ok (message, rest) →
        (∀ payload : GoString, payload.length ≤ maxAWSEventPayloadBytes →
          ∃ encoded, replaceAWSEventPayload checksum message payload = .ok encoded ∧
            ∀ more : ByteStream, ∃ reread,
              readAWSEventMessage toLower checksum ⟨encoded ++ more.bytes, more.broken⟩ =
                .ok (reread, more) ∧
              reread.headers = message.headers ∧ reread.payload = payload) ∧
        replaceAWSEventPayload checksum message message.payload = .ok message.raw) ∧
    (∀ source, readAWSEventMessage toLower checksum source ≠ .error .outOfRange) ∧
    ∀ (state : State) (source : ByteStream),
      let result := proxyAWSEventMessages toLower checksum proxy ⟨state, []⟩ source
      ∃ messages rest, ReadsAll toLower checksum source messages rest ∧
        Stopped toLower checksum proxy rest result.2 ∧
        result.1.written = messages.map (·.raw) ∧
        source.bytes = result.1.written.flatten ++ rest.bytes := by
  refine ⟨?_, readAWSEventMessage_safe toLower checksum, ?_⟩
  · intro source message rest read
    obtain ⟨headerBytes, accepted⟩ := readAWSEventMessage_accepted toLower checksum read
    constructor
    · intro payload fits
      refine ⟨_, accepted.replace toLower checksum fits, fun more => ?_⟩
      exact ⟨_, accepted.reread toLower checksum fits more, rfl, rfl⟩
    · rw [accepted.replace toLower checksum accepted.fits.payload, accepted.framed]
  · intro state source
    obtain ⟨messages, rest, reads, stopped, written⟩ :=
      proxyAWSEventMessages_writes toLower checksum proxy ⟨state, []⟩ source
    refine ⟨messages, rest, reads, stopped, written, ?_⟩
    rw [written]
    exact reads.bytes toLower checksum

theorem decodeHeadersFrom_next {headers : AwsHeaders} {raw rest name value : GoString}
    (decoded : decodeAWSEventHeader toLower raw = .ok ((name, value), rest))
    (fresh : (headers.any fun header => header.1 = name) = false) :
    decodeHeadersFrom toLower headers raw =
      decodeHeadersFrom toLower (headers ++ [(name, value)]) rest := by
  have given : raw ≠ [] := ne_nil_of_length_pos
    (Nat.zero_lt_of_lt (decodeAWSEventHeader_shorter toLower decoded))
  rw [decodeHeadersFrom, if_neg given]
  split
  next fault refused => rw [decoded] at refused; cases refused
  next again =>
    rw [decoded] at again
    cases again
    simp [fresh]

def asciiLower : GoString → GoString :=
  map fun byte => if 65 ≤ byte ∧ byte ≤ 90 then byte + 32 else byte

def byteSum (bytes : GoString) : UInt32 :=
  UInt32.ofNat (bytes.foldl (fun sum byte => sum + byte.toNat) 0)

/-- A text and a flag. -/
def chunkHeaders : GoString :=
  [11] ++ ascii ":Event-Type" ++ [7, 0, 5] ++ ascii "chunk" ++ [5] ++ ascii "Final" ++ [0]

def chunkMessage : AwsEventMessage where
  raw := frameMessage byteSum chunkHeaders (ascii "old")
  headers := [(ascii ":event-type", ascii "chunk"), (ascii "final", ascii "true")]
  payload := ascii "old"

theorem awsEventStream_round_trip_chunk :
    let read := readAWSEventMessage asciiLower byteSum
    read ⟨chunkMessage.raw, false⟩ = .ok (chunkMessage, ⟨[], false⟩) ∧
      replaceAWSEventPayload byteSum chunkMessage (ascii "old") = .ok chunkMessage.raw ∧
      ∃ encoded, replaceAWSEventPayload byteSum chunkMessage (ascii "newer") = .ok encoded ∧
        ∀ more : ByteStream, ∃ reread,
          read ⟨encoded ++ more.bytes, more.broken⟩ = .ok (reread, more) ∧
          reread.headers = chunkMessage.headers ∧ reread.payload = ascii "newer" := by
  have headers : decodeAWSEventHeaders asciiLower chunkHeaders = .ok chunkMessage.headers := by
    have first : decodeAWSEventHeader asciiLower chunkHeaders =
        .ok ((ascii ":event-type", ascii "chunk"), [5] ++ ascii "Final" ++ [0]) := by
      decide +kernel
    have second : decodeAWSEventHeader asciiLower ([5] ++ ascii "Final" ++ [0]) =
        .ok ((ascii "final", ascii "true"), []) := by
      decide +kernel
    rw [decodeAWSEventHeaders, decodeHeadersFrom_next asciiLower first rfl,
      decodeHeadersFrom_next asciiLower second (by decide), decodeHeadersFrom, if_pos rfl]
    rfl
  have read : readAWSEventMessage asciiLower byteSum ⟨chunkMessage.raw, false⟩ =
      .ok (chunkMessage, ⟨[], false⟩) :=
    Accepted.read asciiLower _ ⟨⟨by decide, by decide⟩, rfl, by simp, rfl, headers⟩
  have correct := (awsEventStream_round_trip asciiLower _ (⟨none, fun _ _ => ((), none)⟩ :
    AwsProxy Unit)).1 _ _ _ read
  exact ⟨read, correct.2, correct.1 _ (by decide)⟩

end SparkRoute.Gateway
