import SparkRoute.Config.Identifier
import SparkRoute.Lib.Checked
import SparkRoute.Lib.Utf8
import SparkRoute.Pii.Builtin

/-!
# Spans and redaction

A detector reports spans of a text for the entities that a session asks for.  `redact`
copies what lies between the spans and writes a marker for each of them.
-/

namespace SparkRoute.Pii

open Lib List
open Config (refuse refuse_eq_ok)

structure Span where
  start : Int
  stop : Int
  entity : GoString
  deriving DecidableEq

/-- What `Detect` and `SafePrefix` answer in one call, its context included. -/
structure Detector where
  detect : GoString → List GoString → Except String (List Span)
  safePrefix : GoString → List GoString → Except String Int

def Candidate.span (candidate : Candidate) : Span :=
  ⟨candidate.start, candidate.stop, candidate.entity.name⟩

/-- `cause` is what `ctx.Err` returns; it is never taken back once it is set. -/
def detectBuiltin (cause : Option String) (text : GoString) (entities : List GoString) :
    Except String (List Span) :=
  match cause with
  | some reason => .error reason
  | none => .ok ((detected entities text).map Candidate.span)

/-- `utf8.RuneStart`. -/
def runeStart (byte : UInt8) : Bool := !Utf8.continuation byte

def runeStartAt (text : GoString) (position : Nat) : Bool := text[position]?.any runeStart

/-- The checks of the spans from the `index`th on. -/
def validateSpansFrom (text : GoString) : Nat → Int → List Span → Except String Unit
  | _, _, [] => .ok ()
  | index, previousEnd, span :: rest => do
    refuse (span.start < 0 ∨ span.stop ≤ span.start ∨ (text.length : Int) < span.stop)
      ("PII detector span " ++ toString index ++ " is out of bounds")
    refuse (span.start < previousEnd) "PII detector spans overlap or are not ordered"
    refuse (span.entity = []) ("PII detector span " ++ toString index ++ " has no entity")
    refuse (!runeStartAt text span.start.toNat ∨
        (span.stop < text.length ∧ !runeStartAt text span.stop.toNat))
      ("PII detector span " ++ toString index ++ " splits UTF-8")
    validateSpansFrom text (index + 1) span.stop rest

def validateSpans (text : GoString) (spans : List Span) : Except String Unit :=
  validateSpansFrom text 0 0 spans

/-- What one `WriteString` call of `Redact` writes. -/
inductive Write where
  | copy (start stop : Nat)
  | marker (entity : GoString)
  deriving DecidableEq

def redactWrites (text : GoString) : Nat → List Span → List Write
  | position, [] => [.copy position text.length]
  | position, span :: rest =>
    .copy position span.start.toNat :: .marker span.entity ::
      redactWrites text span.stop.toNat rest

/-- `strings.ToUpper` on an ASCII text. -/
def asciiUpper (text : GoString) : GoString :=
  text.map fun byte => if 0x61 ≤ byte ∧ byte ≤ 0x7A then byte - 0x20 else byte

/-- `toUpper` stands for `strings.ToUpper`. -/
def Write.render (toUpper : GoString → GoString) (text : GoString) : Write → GoString
  | .copy start stop => slice text start stop
  | .marker entity => ascii "[[SPARKROUTE_PII_" ++ toUpper entity ++ ascii "_REDACTED]]"

def redact (toUpper : GoString → GoString) (detector : Detector) (entities : List GoString)
    (text : GoString) : Except String GoString := do
  let spans ← detector.detect text entities
  validateSpans text spans
  .ok ((redactWrites text 0 spans).flatMap (Write.render toUpper text))

/-- The byte at this position is written as it is. -/
def Copied (writes : List Write) (position : Nat) : Prop :=
  ∃ start stop, Write.copy start stop ∈ writes ∧ start ≤ position ∧ position < stop

variable {candidates : List Candidate}

theorem copied_outside (text : GoString) {position done : Nat}
    (ordered : candidates.Pairwise fun first second => first.stop ≤ second.start)
    (nonempty : ∀ candidate ∈ candidates, candidate.start < candidate.stop)
    (behind : ∀ candidate ∈ candidates, done ≤ candidate.start)
    (copied : Copied (redactWrites text done (candidates.map Candidate.span)) position) :
    done ≤ position ∧ ¬ Covers Candidate.start Candidate.stop candidates position := by
  obtain ⟨start, stop, written, above, below⟩ := copied
  induction candidates generalizing done with
  | nil =>
    cases mem_singleton.mp written
    refine ⟨above, ?_⟩
    rintro ⟨candidate, listed, _⟩
    cases listed
  | cons candidate rest ih =>
    obtain ⟨least, restOrdered⟩ := pairwise_cons.mp ordered
    have candidateNonempty := nonempty candidate mem_cons_self
    have candidateBehind := behind candidate mem_cons_self
    have restNonempty := fun other listed =>
      nonempty other (mem_cons_of_mem candidate listed)
    rcases mem_cons.mp written with here | later
    · cases here
      have before : position < candidate.start := below
      refine ⟨above, ?_⟩
      rw [covers_cons]
      rintro (inside | ⟨other, listed, starts, _⟩)
      · omega
      · have after := least other listed
        omega
    · rcases mem_cons.mp later with marker | later
      · cases marker
      · obtain ⟨after, outside⟩ := ih restOrdered restNonempty least later
        refine ⟨by omega, ?_⟩
        rw [covers_cons]
        rintro (inside | covered)
        · omega
        · exact outside covered

theorem copied_bounded (text : GoString) {position done : Nat}
    (within : ∀ candidate ∈ candidates, candidate.start ≤ text.length)
    (copied : Copied (redactWrites text done (candidates.map Candidate.span)) position) :
    position < text.length := by
  obtain ⟨start, stop, written, above, below⟩ := copied
  induction candidates generalizing done with
  | nil =>
    cases mem_singleton.mp written
    exact below
  | cons candidate rest ih =>
    rcases mem_cons.mp written with here | later
    · cases here
      exact Nat.lt_of_lt_of_le below (within candidate mem_cons_self)
    · rcases mem_cons.mp later with marker | later
      · cases marker
      · apply ih _ later
        intro other listed
        exact within other (mem_cons_of_mem candidate listed)

end SparkRoute.Pii
