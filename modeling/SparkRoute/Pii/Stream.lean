import SparkRoute.Pii.Redaction

/-!
# Streaming redaction

A redactor keeps the suffix that a later fragment could complete and redacts the rest.
`cut` parts the text it holds; `segments` are the texts that it hands to `redact` one
after the other.
-/

namespace SparkRoute.Pii

open Lib List BuiltinEntity
open Config (refuse refuse_eq_ok)

/-! ### The prefix that is safe to release -/

def opaqueTokenPrefix : GoString := ascii "[[SPARKROUTE_PII_"

def occursAt (needle text : GoString) (position : Nat) : Bool :=
  needle.isPrefixOf (text.drop position)

/-- `strings.LastIndex`. -/
def lastIndex (text needle : GoString) : Option Nat :=
  ((List.range (text.length + 1)).filter (occursAt needle text)).getLast?

/-- `strings.Contains`. -/
def containsText (text needle : GoString) : Bool :=
  (List.range (text.length + 1)).any (occursAt needle text)

/-- The start of the longest proper beginning of a token at the end of the text. -/
def partialTokenStart (text : GoString) : Nat :=
  (List.range' 1 (min (opaqueTokenPrefix.length - 1) text.length)).foldl
    (fun safe length =>
      if (opaqueTokenPrefix.take length).isSuffixOf text then text.length - length else safe)
    text.length

def safeOpaqueTokenPrefix (text : GoString) : Nat :=
  match lastIndex text opaqueTokenPrefix with
  | some start =>
    if !containsText (text.drop (start + opaqueTokenPrefix.length)) (ascii "]]") ∧
        start < partialTokenStart text then start
    else partialTokenStart text
  | none => partialTokenStart text

def trailingAllowedStart (text : GoString) (allowed : UInt8 → Bool) : Nat :=
  text.length - (text.reverse.takeWhile allowed).length

def emailStreamByte (byte : UInt8) : Bool :=
  isLetter byte || isDigit byte || oneOf ".!#$%&'*+/=?^_\x60\x7b|\x7d~@-" byte

def phoneStreamByte (byte : UInt8) : Bool := isDigit byte || oneOf "+() .-" byte

def ssnStreamByte (byte : UInt8) : Bool := isDigit byte || byte == 0x2D

def creditCardStreamByte (byte : UInt8) : Bool :=
  isDigit byte || byte == 0x20 || byte == 0x2D

def ipv4StreamByte (byte : UInt8) : Bool := isDigit byte || byte == 0x2E

/-- The alphabet of an entity's trailing candidate. -/
def streamGrammar (entity : GoString) : Option (UInt8 → Bool) :=
  if entity = email.name then some emailStreamByte
  else if entity = phone.name then some phoneStreamByte
  else if entity = ssn.name then some ssnStreamByte
  else if entity = creditCard.name then some creditCardStreamByte
  else if entity = ipv4.name then some ipv4StreamByte
  else none

def safePrefixFrom (text : GoString) : Nat → List GoString → Except String Nat
  | safe, [] => .ok safe
  | safe, entity :: rest =>
    match streamGrammar entity with
    | none =>
      .error ("PII entity " ++ Config.quotedBytes entity ++ " has no built-in streaming grammar")
    | some allowed => safePrefixFrom text (min safe (trailingAllowedStart text allowed)) rest

def safePrefixBuiltin (cause : Option String) (text : GoString) (entities : List GoString) :
    Except String Int :=
  match cause with
  | some reason => .error reason
  | none => (safePrefixFrom text text.length entities).map Int.ofNat

/-- The built-in detector in one call; the context is asked twice. -/
def builtin (safeCause detectCause : Option String) : Detector where
  detect := detectBuiltin detectCause
  safePrefix := safePrefixBuiltin safeCause

/-! ### The redactor -/

structure StreamRedactor where
  maximumPendingBytes : Int
  pending : GoString := []

def defaultMaximumStreamPendingBytes : Int := 65536

/-- `streaming` says whether the detector of the session is a `StreamingDetector`. -/
def newStreamRedactor (streaming : Bool) (maximum : Int) : Except String StreamRedactor :=
  if !streaming then .error "PII detector does not support bounded streaming"
  else
    let maximum := if maximum = 0 then defaultMaximumStreamPendingBytes else maximum
    if maximum < 1 then .error "PII stream pending-byte limit must be positive"
    else .ok { maximumPendingBytes := maximum }

theorem newStreamRedactor_eq_ok {streaming : Bool} {maximum : Int} {redactor : StreamRedactor}
    (created : newStreamRedactor streaming maximum = .ok redactor) :
    0 < redactor.maximumPendingBytes ∧ redactor.pending = [] := by
  unfold newStreamRedactor at created
  split at created
  · cases created
  · dsimp only at created
    generalize
      (if maximum = 0 then defaultMaximumStreamPendingBytes else maximum) = limit at created
    split at created
    · cases created
    next positive =>
      cases created
      exact ⟨Int.not_lt.mp positive, rfl⟩

/-- One call of `Transform`, with the detector's behaviour in that call. -/
structure Call where
  detector : Detector
  fragment : GoString

/-- The length of the prefix to release, before it is checked. -/
def safeLength (entities : List GoString) (detector : Detector) (combined : GoString)
    (final : Bool) : Except String Int :=
  if final then .ok combined.length
  else do
    let safe ← detector.safePrefix combined entities
    .ok (min safe (safeOpaqueTokenPrefix combined))

/-- Parts the text into what is released now and what is retained. -/
def StreamRedactor.cut (redactor : StreamRedactor) (entities : List GoString) (call : Call)
    (final : Bool) : Except String (GoString × GoString) := do
  let combined := redactor.pending ++ call.fragment
  let safe ← safeLength entities call.detector combined final
  refuse (safe < 0 ∨ combined.length < safe ∨
      (safe < combined.length ∧ !runeStartAt combined safe.toNat))
    "PII streaming detector returned an invalid UTF-8 prefix"
  refuse (redactor.maximumPendingBytes < combined.length - safe)
    ("PII stream pending suffix exceeds " ++ toString redactor.maximumPendingBytes ++ " bytes")
  .ok (combined.take safe.toNat, combined.drop safe.toNat)

def StreamRedactor.transform (toUpper : GoString → GoString) (redactor : StreamRedactor)
    (entities : List GoString) (call : Call) (final : Bool) :
    Except String (GoString × StreamRedactor) := do
  let (released, retained) ← redactor.cut entities call final
  let masked ← redact toUpper call.detector entities released
  .ok (masked, { redactor with pending := retained })

def StreamRedactor.abort (redactor : StreamRedactor) (fragment : GoString) :
    GoString × StreamRedactor :=
  (redactor.pending ++ fragment, { redactor with pending := [] })

/-- The outputs of a stream: every call succeeds and the last one is final. -/
def StreamRedactor.stream (toUpper : GoString → GoString) (entities : List GoString) :
    StreamRedactor → List Call → Call → Except String (List GoString)
  | redactor, [], last => do
    let (masked, _) ← redactor.transform toUpper entities last true
    .ok [masked]
  | redactor, call :: calls, last => do
    let (masked, next) ← redactor.transform toUpper entities call false
    let later ← next.stream toUpper entities calls last
    .ok (masked :: later)

/-- The texts that the calls of a stream release one after the other. -/
def StreamRedactor.segments (entities : List GoString) :
    StreamRedactor → List Call → Call → Except String (List GoString)
  | redactor, [], last => do
    let (released, _) ← redactor.cut entities last true
    .ok [released]
  | redactor, call :: calls, last => do
    let (released, retained) ← redactor.cut entities call false
    let later ← StreamRedactor.segments entities { redactor with pending := retained } calls last
    .ok (released :: later)

def wholeText (calls : List Call) (last : Call) : GoString :=
  calls.flatMap Call.fragment ++ last.fragment

/-! ### What a call does -/

variable {redactor : StreamRedactor} {entities : List GoString}

theorem StreamRedactor.cut_eq_ok {call : Call} {final : Bool} {released retained : GoString}
    (parted : redactor.cut entities call final = .ok (released, retained)) :
    released ++ retained = redactor.pending ++ call.fragment ∧
      (final = true → retained = []) := by
  obtain ⟨safe, length, checked⟩ := bind_eq_ok.mp parted
  obtain ⟨⟨⟩, _, checked⟩ := bind_eq_ok.mp checked
  obtain ⟨⟨⟩, _, result⟩ := bind_eq_ok.mp checked
  cases result
  refine ⟨take_append_drop _ _, ?_⟩
  rintro rfl
  cases length
  exact drop_of_length_le (Nat.le_refl _)

variable {toUpper : GoString → GoString}

theorem StreamRedactor.transform_eq_ok {next : StreamRedactor} {call : Call} {final : Bool}
    {masked : GoString}
    (transformed : redactor.transform toUpper entities call final = .ok (masked, next)) :
    ∃ released retained, redactor.cut entities call final = .ok (released, retained) ∧
      redact toUpper call.detector entities released = .ok masked ∧
      next = { redactor with pending := retained } := by
  obtain ⟨⟨released, retained⟩, parted, rest⟩ := bind_eq_ok.mp transformed
  obtain ⟨output, redacted, result⟩ := bind_eq_ok.mp rest
  cases result
  exact ⟨released, retained, parted, redacted, rfl⟩

theorem StreamRedactor.segments_flatten {calls : List Call} {last : Call} {segments : List GoString}
    (released : redactor.segments entities calls last = .ok segments) :
    segments.flatten = redactor.pending ++ wholeText calls last := by
  induction calls generalizing redactor segments with
  | nil =>
    obtain ⟨⟨segment, retained⟩, parted, result⟩ := bind_eq_ok.mp released
    cases result
    obtain ⟨whole, final⟩ := StreamRedactor.cut_eq_ok parted
    rw [final rfl, append_nil] at whole
    rw [flatten_cons, flatten_nil, append_nil, whole]
    rfl
  | cons call calls ih =>
    obtain ⟨⟨segment, retained⟩, parted, rest⟩ := bind_eq_ok.mp released
    obtain ⟨later, releasedLater, result⟩ := bind_eq_ok.mp rest
    cases result
    obtain ⟨whole, _⟩ := StreamRedactor.cut_eq_ok parted
    rw [flatten_cons, ih releasedLater, ← append_assoc, whole, wholeText, wholeText, flatMap_cons]
    simp only [append_assoc]

/-- Every output of a stream is the redaction of what the call released. -/
theorem StreamRedactor.stream_eq_ok {calls : List Call} {last : Call} {outputs : List GoString}
    (ran : redactor.stream toUpper entities calls last = .ok outputs) :
    ∃ segments, redactor.segments entities calls last = .ok segments ∧
      List.Forall₂ (fun segment output => ∃ call ∈ calls ++ [last],
        redact toUpper call.detector entities segment = .ok output) segments outputs := by
  induction calls generalizing redactor outputs with
  | nil =>
    obtain ⟨⟨masked, next⟩, transformed, result⟩ := bind_eq_ok.mp ran
    cases result
    obtain ⟨released, retained, parted, redacted, _⟩ :=
      StreamRedactor.transform_eq_ok transformed
    refine ⟨[released], ?_, .cons ⟨last, mem_singleton_self _, redacted⟩ .nil⟩
    rw [StreamRedactor.segments, parted]
    rfl
  | cons call calls ih =>
    obtain ⟨⟨masked, next⟩, transformed, rest⟩ := bind_eq_ok.mp ran
    obtain ⟨later, ranLater, result⟩ := bind_eq_ok.mp rest
    cases result
    obtain ⟨released, retained, parted, redacted, rfl⟩ :=
      StreamRedactor.transform_eq_ok transformed
    obtain ⟨segments, releasedLater, redactedLater⟩ := ih ranLater
    refine ⟨released :: segments, ?_, .cons ⟨call, mem_cons_self, redacted⟩ ?_⟩
    · rw [StreamRedactor.segments, parted, ok_bind]
      dsimp only
      rw [releasedLater]
      rfl
    · apply redactedLater.imp
      rintro segment output ⟨other, listed, redaction⟩
      exact ⟨other, mem_cons_of_mem _ listed, redaction⟩

end SparkRoute.Pii
