import SparkRoute.Gateway.AwsEventStream

/-!
# The event-stream codec

`frameMessage` is the wire form of headers and a payload. The reader accepts exactly the
wire forms within the limits, and replacing a payload writes the wire form of the new one.
-/

namespace SparkRoute.Gateway

open Lib List

variable (toLower : GoString → GoString) (checksum : GoString → UInt32)

def lengthBytes (headerBytes payload : GoString) : GoString :=
  bigEndian 4 (awsEventOverheadBytes + headerBytes.length + payload.length) ++
    bigEndian 4 headerBytes.length

def framePrelude (headerBytes payload : GoString) : GoString :=
  lengthBytes headerBytes payload ++
    bigEndian 4 (checksum (lengthBytes headerBytes payload)).toNat

def frameFront (headerBytes payload : GoString) : GoString :=
  framePrelude checksum headerBytes payload ++ headerBytes ++ payload

def frameMessage (headerBytes payload : GoString) : GoString :=
  frameFront checksum headerBytes payload ++
    bigEndian 4 (checksum (frameFront checksum headerBytes payload)).toNat

structure FrameFits (headerBytes payload : GoString) : Prop where
  headers : headerBytes.length ≤ maxAWSEventHeaderBytes
  payload : payload.length ≤ maxAWSEventPayloadBytes

/-! ### Checked operations -/

theorem reject_eq_ok {condition : Prop} [Decidable condition] {reason : String} {done : Unit} :
    reject condition reason = .ok done ↔ ¬ condition := by
  unfold reject
  split <;> simp_all

theorem slice_front (front back : GoString) : slice (front ++ back) 0 front.length = .ok front := by
  rw [slice_eq_ok]
  simp

theorem slice_middle {front middle back : GoString} {start stop : Nat}
    (starts : start = front.length) (stops : stop = front.length + middle.length) :
    slice (front ++ middle ++ back) start stop = .ok middle := by
  rw [slice_eq_ok, starts, stops]
  refine ⟨Nat.le_add_right _ _, by simp, ?_⟩
  rw [← length_append, take_left, drop_left]

theorem slice_back {front back : GoString} {start stop : Nat} (starts : start = front.length)
    (stops : stop = (front ++ back).length) : slice (front ++ back) start stop = .ok back := by
  have middle := @slice_middle front back [] start stop starts (by simpa using stops)
  rwa [append_nil] at middle

variable {width : Nat}

theorem bigEndianUint_append {front : GoString} (sized : front.length = width) (back : GoString) :
    bigEndianUint width (front ++ back) = .ok (readBigEndian front) := by
  rw [bigEndianUint, ← sized, slice_front]
  rfl

variable {bytes : GoString}

theorem bigEndianUint_whole (sized : bytes.length = width) :
    bigEndianUint width bytes = .ok (readBigEndian bytes) := by
  have whole := bigEndianUint_append sized []
  rwa [append_nil] at whole

/-! ### The prelude -/

structure SizesFit (totalLength headersLength : Nat) : Prop where
  least : awsEventOverheadBytes ≤ totalLength
  most : totalLength ≤ maxAWSEventMessageBytes
  headers : headersLength ≤ maxAWSEventHeaderBytes
  inside : headersLength ≤ totalLength - awsEventOverheadBytes
  payload : totalLength - awsEventOverheadBytes - headersLength ≤ maxAWSEventPayloadBytes

variable {headersLength : Nat}

theorem decodePrelude_eq_ok {first second third : GoString} {totalLength : Nat}
    (firstFour : first.length = 4) (secondFour : second.length = 4) (thirdFour : third.length = 4) :
    decodePrelude checksum (first ++ second ++ third) = .ok (totalLength, headersLength) ↔
      totalLength = readBigEndian first ∧ headersLength = readBigEndian second ∧
      SizesFit totalLength headersLength ∧
      (checksum (first ++ second)).toNat = readBigEndian third := by
  have total : bigEndianUint 4 (first ++ second ++ third) = .ok (readBigEndian first) := by
    rw [append_assoc]
    exact bigEndianUint_append firstFour _
  have headers : slice (first ++ second ++ third) 4 8 = .ok second :=
    slice_middle firstFour.symm (by rw [firstFour, secondFour])
  have expected : slice (first ++ second ++ third) 8 12 = .ok third := by
    apply slice_back
    · rw [length_append, firstFour, secondFour]
    · rw [length_append, length_append, firstFour, secondFour, thirdFour]
  have lengths : slice (first ++ second ++ third) 0 8 = .ok (first ++ second) := by
    have front := slice_front (first ++ second) third
    rwa [length_append, firstFour, secondFour] at front
  unfold decodePrelude
  rw [total, headers, expected, lengths]
  simp only [ok_bind, bigEndianUint_whole secondFour, bigEndianUint_whole thirdFour,
    bind_eq_ok, reject_eq_ok]
  constructor
  · rintro ⟨_, length, _, header, _, payload, _, sum, same⟩
    cases same
    refine ⟨rfl, rfl, ⟨?_, ?_, ?_, ?_, ?_⟩, ?_⟩
    all_goals omega
  · rintro ⟨rfl, rfl, fits, sum⟩
    obtain ⟨least, most, headers, inside, payload⟩ := fits
    exact ⟨(), by omega, (), by omega, (), by omega, (), not_not.mpr sum, rfl⟩

/-! ### The message -/

variable {headerBytes : GoString} {payload : GoString}

theorem decodeMessage_eq_ok {prelude last : GoString} {message : AwsEventMessage}
    (twelve : prelude.length = awsEventPreludeBytes) (four : last.length = 4) :
    decodeMessage toLower checksum (prelude ++ headerBytes ++ payload ++ last)
        (awsEventOverheadBytes + headerBytes.length + payload.length) headerBytes.length =
        .ok message ↔
      (checksum (prelude ++ headerBytes ++ payload)).toNat = readBigEndian last ∧
      decodeAWSEventHeaders toLower headerBytes = .ok message.headers ∧
      message.raw = prelude ++ headerBytes ++ payload ++ last ∧ message.payload = payload := by
  have stop : awsEventOverheadBytes + headerBytes.length + payload.length - 4 =
      (prelude ++ headerBytes ++ payload).length := by
    simp only [length_append, twelve, awsEventOverheadBytes, awsEventPreludeBytes]
    omega
  have expected := @slice_back (prelude ++ headerBytes ++ payload) last _ _ rfl rfl
  have front := slice_front (prelude ++ headerBytes ++ payload) last
  have headers : slice (prelude ++ headerBytes ++ payload ++ last) awsEventPreludeBytes
      (awsEventPreludeBytes + headerBytes.length) = .ok headerBytes := by
    rw [append_assoc]
    exact slice_middle twelve.symm (by rw [twelve])
  have body : slice (prelude ++ headerBytes ++ payload ++ last)
      (awsEventPreludeBytes + headerBytes.length) (prelude ++ headerBytes ++ payload).length =
        .ok payload :=
    slice_middle (by rw [length_append, twelve]) (length_append)
  unfold decodeMessage
  rw [stop, expected, front, headers, body]
  simp only [ok_bind, bigEndianUint_whole four, bind_eq_ok, reject_eq_ok]
  constructor
  · rintro ⟨_, sum, headers, decoded, same⟩
    cases same
    exact ⟨not_not.mp sum, decoded, rfl, rfl⟩
  · rintro ⟨sum, decoded, raw, same⟩
    refine ⟨(), not_not.mpr sum, message.headers, decoded, ?_⟩
    cases message
    simp_all [pure, Except.pure]

/-! ### The reader -/

theorem exists_append_of_le {length : Nat} (fits : length ≤ bytes.length) :
    ∃ front back, bytes = front ++ back ∧ front.length = length :=
  ⟨bytes.take length, bytes.drop length, (take_append_drop length bytes).symm,
    length_take_of_le fits⟩

theorem readPrelude_append {prelude : GoString} (twelve : prelude.length = awsEventPreludeBytes)
    (rest : GoString) (broken : Bool) :
    readPrelude ⟨prelude ++ rest, broken⟩ = .ok (prelude, ⟨rest, broken⟩) := by
  rw [readPrelude, if_pos (by simp [twelve])]
  simp [← twelve]

theorem readBody_append {body : GoString} {count : Nat} (sized : body.length = count)
    (rest : GoString) (broken : Bool) :
    readBody ⟨body ++ rest, broken⟩ count = .ok (body, ⟨rest, broken⟩) := by
  rw [readBody, if_pos (by simp [sized])]
  simp [← sized]

variable {source : ByteStream}

theorem readPrelude_eq_ok {next : ByteStream} {prelude : GoString}
    (read : readPrelude source = .ok (prelude, next)) :
    source.bytes = prelude ++ next.bytes ∧ next.broken = source.broken ∧
      prelude.length = awsEventPreludeBytes := by
  unfold readPrelude at read
  split at read
  next long =>
    cases read
    exact ⟨(take_append_drop _ _).symm, rfl, length_take_of_le long⟩
  next short =>
    split at read <;> cases read

theorem readBody_eq_ok {next : ByteStream} {body : GoString} {count : Nat}
    (read : readBody source count = .ok (body, next)) :
    source.bytes = body ++ next.bytes ∧ next.broken = source.broken ∧
      body.length = count := by
  unfold readBody at read
  split at read
  next long =>
    cases read
    exact ⟨(take_append_drop _ _).symm, rfl, length_take_of_le long⟩
  next short => cases read

theorem bigEndian_four {value : Nat} (four : bytes.length = 4)
    (same : value = readBigEndian bytes) : bigEndian 4 value = bytes := by
  rw [same, ← four, bigEndian_readBigEndian]

/-- What the reader accepts: a wire form within the limits whose headers decode. -/
structure Accepted (source : ByteStream) (message : AwsEventMessage) (rest : ByteStream)
    (headerBytes : GoString) : Prop where
  fits : FrameFits headerBytes message.payload
  framed : message.raw = frameMessage checksum headerBytes message.payload
  bytes : source.bytes = message.raw ++ rest.bytes
  broken : rest.broken = source.broken
  headers : decodeAWSEventHeaders toLower headerBytes = .ok message.headers

theorem frameFits_sizes (fits : FrameFits headerBytes payload) :
    SizesFit (awsEventOverheadBytes + headerBytes.length + payload.length)
      headerBytes.length := by
  obtain ⟨headers, payload⟩ := fits
  refine ⟨?_, ?_, headers, ?_, ?_⟩ <;>
    simp only [maxAWSEventMessageBytes, awsEventOverheadBytes] <;> omega

theorem framePrelude_length (headerBytes payload : GoString) :
    (framePrelude checksum headerBytes payload).length = awsEventPreludeBytes := by
  simp [framePrelude, lengthBytes, awsEventPreludeBytes]

theorem decodePrelude_framePrelude (fits : FrameFits headerBytes payload) :
    decodePrelude checksum (framePrelude checksum headerBytes payload) =
      .ok (awsEventOverheadBytes + headerBytes.length + payload.length, headerBytes.length) := by
  have sizes := frameFits_sizes fits
  have totalFits : awsEventOverheadBytes + headerBytes.length + payload.length < 256 ^ 4 :=
    Nat.lt_of_le_of_lt sizes.most (by decide)
  have headersFit : headerBytes.length < 256 ^ 4 := Nat.lt_of_le_of_lt sizes.headers (by decide)
  have sumFits : (checksum (lengthBytes headerBytes payload)).toNat < 256 ^ 4 :=
    UInt32.toNat_lt _
  refine (decodePrelude_eq_ok checksum (length_bigEndian _ _) (length_bigEndian _ _)
    (length_bigEndian _ _)).mpr ⟨?_, ?_, sizes, ?_⟩
  · rw [readBigEndian_bigEndian totalFits]
  · rw [readBigEndian_bigEndian headersFit]
  · exact (readBigEndian_bigEndian sumFits).symm

theorem Accepted.read {rest : ByteStream} {message : AwsEventMessage}
    (accepted : Accepted toLower checksum source message rest headerBytes) :
    readAWSEventMessage toLower checksum source = .ok (message, rest) := by
  obtain ⟨fits, framed, bytes, broken, headers⟩ := accepted
  have sumFits :
      (checksum (frameFront checksum headerBytes message.payload)).toNat < 256 ^ 4 :=
    UInt32.toNat_lt _
  have twelve := framePrelude_length checksum headerBytes message.payload
  set body := headerBytes ++ message.payload ++
    bigEndian 4 (checksum (frameFront checksum headerBytes message.payload)).toNat with bodyEq
  have raw : message.raw = framePrelude checksum headerBytes message.payload ++ body := by
    rw [framed, bodyEq, ← append_assoc, ← append_assoc]
    rfl
  have sourceEq : source =
      ⟨framePrelude checksum headerBytes message.payload ++ (body ++ rest.bytes),
        source.broken⟩ := by
    rw [← append_assoc, ← raw, ← bytes]
  have sized : body.length = awsEventOverheadBytes + headerBytes.length +
      message.payload.length - awsEventPreludeBytes := by
    simp only [bodyEq, length_append, length_bigEndian, awsEventOverheadBytes, awsEventPreludeBytes]
    omega
  have decoded := (decodeMessage_eq_ok toLower checksum twelve
    (length_bigEndian 4 _)).mpr ⟨(readBigEndian_bigEndian sumFits).symm, headers, framed, rfl⟩
  rw [append_assoc, append_assoc, ← append_assoc headerBytes, ← bodyEq]
    at decoded
  rw [sourceEq, readAWSEventMessage, readPrelude_append twelve, ok_bind]
  dsimp only
  rw [decodePrelude_framePrelude checksum fits, ok_bind]
  rw [readBody_append sized, ok_bind]
  rw [decoded, ok_bind, ← broken]
  rfl

theorem decodePrelude_parts {prelude : GoString} {totalLength : Nat}
    (twelve : prelude.length = awsEventPreludeBytes)
    (decoded : decodePrelude checksum prelude = .ok (totalLength, headersLength)) :
    SizesFit totalLength headersLength ∧
      ∃ lengths, lengths = bigEndian 4 totalLength ++ bigEndian 4 headersLength ∧
        prelude = lengths ++ bigEndian 4 (checksum lengths).toNat := by
  obtain ⟨lengths, third, rfl, eight⟩ := @exists_append_of_le prelude 8 (by rw [twelve]; decide)
  obtain ⟨first, second, rfl, firstFour⟩ := @exists_append_of_le lengths 4 (by omega)
  have secondFour : second.length = 4 := by
    rw [length_append] at eight
    omega
  have thirdFour : third.length = 4 := by
    rw [length_append, eight, awsEventPreludeBytes] at twelve
    omega
  obtain ⟨total, headers, sizes, sum⟩ :=
    (decodePrelude_eq_ok checksum firstFour secondFour thirdFour).mp decoded
  refine ⟨sizes, first ++ second, ?_, ?_⟩
  · rw [bigEndian_four firstFour total, bigEndian_four secondFour headers]
  · rw [bigEndian_four thirdFour sum]

theorem readAWSEventMessage_accepted {rest : ByteStream} {message : AwsEventMessage}
    (read : readAWSEventMessage toLower checksum source = .ok (message, rest)) :
    ∃ headerBytes, Accepted toLower checksum source message rest headerBytes := by
  obtain ⟨⟨prelude, afterPrelude⟩, readPrelude, read⟩ := bind_eq_ok.mp read
  obtain ⟨⟨totalLength, headersLength⟩, decodedPrelude, read⟩ := bind_eq_ok.mp read
  obtain ⟨⟨body, afterBody⟩, readBody, read⟩ := bind_eq_ok.mp read
  obtain ⟨message, decoded, read⟩ := bind_eq_ok.mp read
  cases read
  obtain ⟨sourceBytes, preludeBroken, twelve⟩ := readPrelude_eq_ok readPrelude
  obtain ⟨bodyBytes, bodyBroken, sized⟩ := readBody_eq_ok readBody
  obtain ⟨⟨least, most, headersFit, inside, payloadFits⟩, lengths, lengthsEq, preludeEq⟩ :=
    decodePrelude_parts checksum twelve decodedPrelude
  rw [awsEventPreludeBytes] at sized
  rw [awsEventOverheadBytes] at least inside payloadFits
  obtain ⟨headerBytes, tail, rfl, headerSized⟩ :=
    @exists_append_of_le body headersLength (by omega)
  rw [length_append] at sized
  obtain ⟨payload, last, rfl, payloadSized⟩ :=
    @exists_append_of_le tail (totalLength - 16 - headersLength) (by omega)
  rw [length_append] at sized
  have total : totalLength = awsEventOverheadBytes + headerBytes.length + payload.length := by
    rw [awsEventOverheadBytes]
    omega
  have four : last.length = 4 := by omega
  rw [← append_assoc, ← append_assoc, total, ← headerSized] at decoded
  obtain ⟨sum, headers, raw, samePayload⟩ :=
    (decodeMessage_eq_ok toLower checksum twelve four).mp decoded
  have framedPrelude : framePrelude checksum headerBytes payload = prelude := by
    rw [framePrelude, lengthBytes, ← total, headerSized, ← lengthsEq, ← preludeEq]
  have framed : frameMessage checksum headerBytes payload =
      prelude ++ headerBytes ++ payload ++ last := by
    rw [frameMessage, frameFront, framedPrelude, bigEndian_four four sum]
  refine ⟨headerBytes, ⟨?_, ?_⟩, ?_, ?_, ?_, headers⟩
  · rw [headerSized]
    exact headersFit
  · rw [samePayload, payloadSized]
    exact payloadFits
  · rw [samePayload, framed, raw]
  · rw [sourceBytes, bodyBytes, raw]
    simp only [append_assoc]
  · rw [bodyBroken, preludeBroken]

/-! ### Replacing the payload -/

theorem frameMessage_parts (headerBytes payload : GoString) :
    ∃ back, frameMessage checksum headerBytes payload =
      bigEndian 4 (awsEventOverheadBytes + headerBytes.length + payload.length) ++
        bigEndian 4 headerBytes.length ++ back := by
  exact ⟨_, rfl⟩

theorem slice_frameMessage_headers (headerBytes payload : GoString) :
    slice (frameMessage checksum headerBytes payload) awsEventPreludeBytes
      (awsEventPreludeBytes + headerBytes.length) = .ok headerBytes := by
  have twelve := framePrelude_length checksum headerBytes payload
  rw [frameMessage, frameFront, append_assoc]
  exact slice_middle twelve.symm (by rw [twelve])

section

variable {rest : ByteStream} {message : AwsEventMessage} {payload : GoString}
  (accepted : Accepted toLower checksum source message rest headerBytes)
  (fits : payload.length ≤ maxAWSEventPayloadBytes)

include accepted fits

theorem Accepted.replace :
    replaceAWSEventPayload checksum message payload =
      .ok (frameMessage checksum headerBytes payload) := by
  have sizes := frameFits_sizes ⟨accepted.fits.headers, fits⟩
  have headersFit : headerBytes.length < 256 ^ 4 :=
    Nat.lt_of_le_of_lt accepted.fits.headers (by decide)
  obtain ⟨back, parts⟩ := frameMessage_parts checksum headerBytes message.payload
  have lengthSlice : slice message.raw 4 8 = .ok (bigEndian 4 headerBytes.length) := by
    rw [accepted.framed, parts]
    exact slice_middle (by simp) (by simp)
  have headerSlice := slice_frameMessage_headers checksum headerBytes message.payload
  rw [← accepted.framed] at headerSlice
  unfold replaceAWSEventPayload
  rw [(@reject_eq_ok _ _ _ ()).mpr (Nat.not_lt.mpr fits), ok_bind, lengthSlice, ok_bind,
    bigEndianUint_whole (length_bigEndian _ _), ok_bind, readBigEndian_bigEndian headersFit]
  dsimp only
  rw [(@reject_eq_ok _ _ _ ()).mpr (Nat.not_lt.mpr sizes.most), ok_bind, headerSlice]
  rfl

theorem Accepted.reread (more : ByteStream) :
    let encoded := frameMessage checksum headerBytes payload
    readAWSEventMessage toLower checksum ⟨encoded ++ more.bytes, more.broken⟩ =
      .ok (⟨encoded, message.headers, payload⟩, more) :=
  Accepted.read toLower checksum
    ⟨⟨accepted.fits.headers, fits⟩, rfl, rfl, rfl, accepted.headers⟩

end

/-! ### Indices in range -/

def Safe {Value : Type} (result : AwsResult Value) : Prop := result ≠ .error .outOfRange

theorem Safe.ok {Value : Type} (value : Value) : Safe (.ok value) := nofun

theorem Safe.bind {First Value : Type} {first : AwsResult First} {next : First → AwsResult Value}
    (firstSafe : Safe first) (nextSafe : ∀ value, first = .ok value → Safe (next value)) :
    Safe (first >>= next) := by
  cases first with
  | error fault =>
    rintro ⟨⟩
    exact firstSafe rfl
  | ok value => exact nextSafe value rfl

theorem Safe.reject (condition : Prop) [Decidable condition] (reason : String) :
    Safe (reject condition reason) := by
  unfold Gateway.reject
  split
  next => exact nofun
  next => exact Safe.ok ()

theorem Safe.slice {start stop : Nat} (ordered : start ≤ stop) (bounded : stop ≤ bytes.length) :
    Safe (slice bytes start stop) := by
  rw [slice_eq_ok.mpr ⟨ordered, bounded, rfl⟩]
  exact Safe.ok _

theorem Safe.byteAt {index : Nat} (inside : index < bytes.length) : Safe (byteAt bytes index) := by
  rw [Gateway.byteAt, List.getElem?_eq_getElem inside]
  exact Safe.ok _

theorem Safe.bigEndianUint (fits : width ≤ bytes.length) : Safe (bigEndianUint width bytes) :=
  Safe.bind (Safe.slice (Nat.zero_le _) fits) fun _ _ => Safe.ok _

theorem Safe.fixedValue (width : Nat) (raw : GoString) : Safe (fixedValue width raw) := by
  unfold Gateway.fixedValue
  split
  next => exact nofun
  next => exact Safe.ok _

theorem Safe.sizedValue (text : Bool) (raw : GoString) : Safe (sizedValue text raw) := by
  unfold Gateway.sizedValue
  split
  next => exact nofun
  next long =>
    refine Safe.bind (Safe.bigEndianUint (Nat.le_of_not_lt long)) ?_
    intro length _
    split
    next => exact nofun
    next fits =>
      split
      next =>
        exact Safe.bind (Safe.slice (Nat.le_add_right _ _) (Nat.le_of_not_lt fits))
          fun _ _ => Safe.ok _
      next => exact Safe.ok _

theorem Safe.headerValue (valueType : UInt8) (raw : GoString) :
    Safe (decodeAWSEventHeaderValue valueType raw) := by
  unfold decodeAWSEventHeaderValue
  split
  all_goals first
    | exact Safe.fixedValue _ _
    | exact Safe.sizedValue _ _
    | exact nofun

variable {raw value : GoString} {consumed : Nat}

theorem fixedValue_consumed (decoded : fixedValue width raw = .ok (value, consumed)) :
    consumed ≤ raw.length := by
  obtain ⟨fits, decoded⟩ := check_eq_ok.mp decoded
  cases decoded
  exact Nat.le_of_not_lt fits

theorem sizedValue_consumed {text : Bool} (decoded : sizedValue text raw = .ok (value, consumed)) :
    consumed ≤ raw.length := by
  simp only [sizedValue, check_eq_ok, bind_eq_ok] at decoded
  obtain ⟨_, length, _, fits, decoded⟩ := decoded
  split at decoded
  next =>
    obtain ⟨text, _, decoded⟩ := bind_eq_ok.mp decoded
    cases decoded
    exact Nat.le_of_not_lt fits
  next =>
    cases decoded
    exact Nat.le_of_not_lt fits

theorem headerValue_consumed {valueType : UInt8}
    (decoded : decodeAWSEventHeaderValue valueType raw = .ok (value, consumed)) :
    consumed ≤ raw.length := by
  unfold decodeAWSEventHeaderValue at decoded
  split at decoded
  all_goals first
    | exact fixedValue_consumed decoded
    | exact sizedValue_consumed decoded
    | cases decoded; exact Nat.zero_le _
    | cases decoded

theorem Safe.header {raw : GoString} (nonempty : raw ≠ []) :
    Safe (decodeAWSEventHeader toLower raw) := by
  have some := length_pos_iff.mpr nonempty
  refine Safe.bind (Safe.byteAt some) fun nameLength _ => ?_
  refine Safe.bind (Safe.slice some (Nat.le_refl _)) fun afterLength _ => ?_
  refine Safe.bind (Safe.reject _ _) fun _ checked => ?_
  have bounded := reject_eq_ok.mp checked
  refine Safe.bind (Safe.slice (Nat.zero_le _) (by omega)) fun name _ => ?_
  refine Safe.bind (Safe.slice (by omega) (Nat.le_refl _)) fun afterName cutName => ?_
  have nameSized := slice_length cutName
  refine Safe.bind (Safe.byteAt (by omega)) fun valueType _ => ?_
  refine Safe.bind (Safe.slice (by omega) (Nat.le_refl _)) fun afterType _ => ?_
  refine Safe.bind (Safe.headerValue _ _) fun value decoded => ?_
  exact Safe.bind (Safe.slice (headerValue_consumed decoded) (Nat.le_refl _))
    fun _ _ => Safe.ok _

theorem Safe.headersFrom (headers : AwsHeaders) (raw : GoString) :
    Safe (decodeHeadersFrom toLower headers raw) := by
  fun_induction decodeHeadersFrom toLower headers raw with
  | case1 headers => exact Safe.ok headers
  | case2 headers raw nonempty fault decoded =>
    intro failed
    cases failed
    exact Safe.header toLower nonempty decoded
  | case3 => exact nofun
  | case4 _ _ _ _ _ _ _ _ _ ih => exact ih

theorem Safe.prelude {prelude : GoString} (twelve : prelude.length = awsEventPreludeBytes) :
    Safe (decodePrelude checksum prelude) := by
  rw [awsEventPreludeBytes] at twelve
  refine Safe.bind (Safe.bigEndianUint (by omega)) fun totalLength _ => ?_
  refine Safe.bind (Safe.bind (Safe.slice (by decide) (by omega)) fun four cut => ?_)
    fun headersLength _ => ?_
  · exact Safe.bigEndianUint (slice_length cut).ge
  refine Safe.bind (Safe.bind (Safe.slice (by decide) (by omega)) fun four cut => ?_)
    fun expected _ => ?_
  · exact Safe.bigEndianUint (slice_length cut).ge
  refine Safe.bind (Safe.reject _ _) fun _ _ => ?_
  refine Safe.bind (Safe.reject _ _) fun _ _ => ?_
  refine Safe.bind (Safe.reject _ _) fun _ _ => ?_
  refine Safe.bind (Safe.slice (by decide) (by omega)) fun lengths _ => ?_
  exact Safe.bind (Safe.reject _ _) fun _ _ => Safe.ok _

theorem Safe.message {raw : GoString} (sizes : SizesFit raw.length headersLength) :
    Safe (decodeMessage toLower checksum raw raw.length headersLength) := by
  obtain ⟨least, most, headersFit, inside, payloadFits⟩ := sizes
  rw [awsEventOverheadBytes] at least inside
  refine Safe.bind (Safe.bind (Safe.slice (Nat.sub_le _ _) (Nat.le_refl _)) fun four cut => ?_)
    fun expected _ => ?_
  · have four := slice_length cut
    exact Safe.bigEndianUint (by omega)
  refine Safe.bind (Safe.slice (Nat.zero_le _) (Nat.sub_le _ _)) fun front _ => ?_
  refine Safe.bind (Safe.reject _ _) fun _ _ => ?_
  refine Safe.bind (Safe.slice (Nat.le_add_right _ _) ?_) fun headerBytes _ => ?_
  · rw [awsEventPreludeBytes]
    omega
  refine Safe.bind (Safe.headersFrom toLower [] headerBytes) fun headers _ => ?_
  refine Safe.bind (Safe.slice ?_ (Nat.sub_le _ _)) fun payload _ => Safe.ok _
  rw [awsEventPreludeBytes]
  omega

theorem readAWSEventMessage_safe (source : ByteStream) :
    Safe (readAWSEventMessage toLower checksum source) := by
  refine Safe.bind ?_ fun prelude readPrelude => ?_
  · unfold readPrelude
    split
    next => exact Safe.ok _
    next => split <;> exact nofun
  obtain ⟨_, _, twelve⟩ := readPrelude_eq_ok readPrelude
  refine Safe.bind (Safe.prelude checksum twelve) fun lengths decoded => ?_
  refine Safe.bind ?_ fun body readBody => ?_
  · unfold readBody
    split
    next => exact Safe.ok _
    next => exact nofun
  obtain ⟨_, _, sized⟩ := readBody_eq_ok readBody
  have sizes := (decodePrelude_parts checksum twelve decoded).1
  have total : lengths.1 = (prelude.1 ++ body.1).length := by
    have least := sizes.least
    rw [awsEventOverheadBytes] at least
    rw [length_append, twelve, sized, awsEventPreludeBytes]
    omega
  rw [total] at sizes ⊢
  exact Safe.bind (Safe.message toLower checksum sizes) fun _ _ => Safe.ok _

end SparkRoute.Gateway
