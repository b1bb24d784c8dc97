import Mathlib.Data.Prod.Lex
import SparkRoute.Lib.Bytes
import SparkRoute.Lib.Machine
import SparkRoute.Lib.Regex
import SparkRoute.Lib.Selection
import SparkRoute.Lib.StableSort

/-!
# The built-in detector

Every entity has a pattern and a check of the matched text.  The patterns are read over
bytes: the letters they name are ASCII, except that folding the case of `s` and `k` adds
U+017F and U+212A, which are written as their encodings.
-/

namespace SparkRoute.Pii

open Lib
open Lib.Regex (Range)

/-- The entities of the built-in detector, in the order of their priorities. -/
inductive BuiltinEntity where
  | email
  | ssn
  | creditCard
  | ipv4
  | phone
  deriving DecidableEq

namespace BuiltinEntity

def name : BuiltinEntity → GoString
  | email => ascii "email"
  | ssn => ascii "ssn"
  | creditCard => ascii "credit_card"
  | ipv4 => ascii "ipv4"
  | phone => ascii "phone"

def priority : BuiltinEntity → Nat
  | email => 0
  | ssn => 1
  | creditCard => 2
  | ipv4 => 3
  | phone => 4

/-- The order in which `Detect` adds the entities' candidates. -/
def all : List BuiltinEntity := [email, ssn, creditCard, ipv4, phone]

end BuiltinEntity

/-! ### Patterns -/

def isDigit (byte : UInt8) : Bool := 0x30 ≤ byte && byte ≤ 0x39

def isLetter (byte : UInt8) : Bool :=
  0x41 ≤ byte && byte ≤ 0x5A || 0x61 ≤ byte && byte ≤ 0x7A

def oneOf (letters : String) (byte : UInt8) : Bool := (ascii letters).contains byte

def literal (byte : UInt8) : Regex UInt8 := .one (· == byte)

def digit : Regex UInt8 := .one isDigit

/-- A class of ASCII bytes with `s` and `k` among them, with their other folds. -/
def folded (accepts : UInt8 → Bool) : Regex UInt8 :=
  .alt (.one accepts)
    (.alt (.seq (literal 0xC5) (literal 0xBF))
      (.seq (literal 0xE2) (.seq (literal 0x84) (literal 0xAA))))

def emailLocal : Regex UInt8 :=
  folded fun byte => isLetter byte || isDigit byte || oneOf ".!#$%&'*+/=?^_\x60\x7b|\x7d~-" byte

def alphanumeric : Regex UInt8 := folded fun byte => isLetter byte || isDigit byte

def alphanumericOrDash : Regex UInt8 :=
  folded fun byte => isLetter byte || isDigit byte || byte == 0x2D

def emailLabel : Regex UInt8 :=
  .seq alphanumeric (.optional (.seq (.between 0 61 alphanumericOrDash) alphanumeric))

def emailPattern : Regex UInt8 :=
  .seq (.plus emailLocal) (.seq (literal 0x40)
    (.seq emailLabel (.plus (.seq (literal 0x2E) emailLabel))))

def phonePattern : Regex UInt8 :=
  .seq (.optional (literal 0x2B)) (.seq digit
    (.seq (.atLeast 7 (.one fun byte => isDigit byte || oneOf "() .-" byte)) digit))

def ssnPattern : Regex UInt8 :=
  .seq (.times 3 digit) (.seq (literal 0x2D) (.seq (.times 2 digit)
    (.seq (literal 0x2D) (.times 4 digit))))

def creditCardPattern : Regex UInt8 :=
  .seq digit (.seq (.between 11 21 (.one fun byte => isDigit byte || oneOf " -" byte)) digit)

def ipv4Pattern : Regex UInt8 :=
  .seq (.times 3 (.seq (.between 1 3 digit) (literal 0x2E))) (.between 1 3 digit)

def BuiltinEntity.pattern : BuiltinEntity → Regex UInt8
  | email => emailPattern
  | ssn => ssnPattern
  | creditCard => creditCardPattern
  | ipv4 => ipv4Pattern
  | phone => phonePattern

/-! ### Checks of matched texts -/

def isWord (byte : UInt8) : Bool := isDigit byte || isLetter byte || byte == 0x5F

def asciiBoundary (text : GoString) (start stop : Nat) : Bool :=
  (start == 0 || !(text[start - 1]?.any isWord)) &&
    (stop == text.length || !(text[stop]?.any isWord))

/-- `text[start:stop]`. -/
def slice (text : GoString) (start stop : Nat) : GoString := (text.take stop).drop start

variable (value : GoString)

def digits : GoString := value.filter isDigit

def validPhone : Bool :=
  10 ≤ (digits value).length && (digits value).length ≤ 15

def validSSN : Bool :=
  value.length == 11 && slice value 0 3 != ascii "000" && slice value 4 6 != ascii "00" &&
    value.drop 7 != ascii "0000"

/-- The Luhn sum of the digits, last digit first. -/
def luhnSum : Bool → List UInt8 → Nat
  | _, [] => 0
  | double, byte :: rest =>
    let value := byte.toNat - 48
    let value := if double then (if 9 < value * 2 then value * 2 - 9 else value * 2) else value
    value + luhnSum (!double) rest

def validCreditCard : Bool :=
  13 ≤ (digits value).length && (digits value).length ≤ 19 &&
    luhnSum false (digits value).reverse % 10 == 0

/-- `strings.Split` at single bytes. -/
def splitOn (separator : UInt8) : GoString → List GoString
  | [] => [[]]
  | byte :: rest =>
    match splitOn separator rest with
    | [] => [[]]
    | part :: parts => if byte = separator then [] :: part :: parts else (byte :: part) :: parts

/-- `strconv.Atoi`. -/
def atoi (text : GoString) : Option Int :=
  let negative := text.head? == some 0x2D
  let body := if negative || text.head? == some 0x2B then text.drop 1 else text
  let size : Nat := body.foldl (fun total byte => total * 10 + (byte.toNat - 48)) 0
  let value : Int := if negative then -(size : Int) else size
  if body ≠ [] ∧ body.all isDigit ∧ minInt64 ≤ value ∧ value ≤ maxInt64 then some value else none

def validOctet (part : GoString) : Bool :=
  !(1 < part.length && part.head? == some 0x30) &&
    match atoi part with
    | none => false
    | some number => 0 ≤ number && number ≤ 255

def validIPv4 : Bool :=
  (splitOn 0x2E value).length == 4 && (splitOn 0x2E value).all validOctet

def BuiltinEntity.valid : BuiltinEntity → GoString → Bool
  | email => fun _ => true
  | ssn => validSSN
  | creditCard => validCreditCard
  | ipv4 => validIPv4
  | phone => validPhone

/-! ### Detection -/

structure Candidate where
  entity : BuiltinEntity
  start : Nat
  stop : Nat
  deriving DecidableEq

/-- What `Detect` sorts by: the start, the priority and, downwards, the end. -/
def Candidate.key (candidate : Candidate) : ℕ ×ₗ ℕ ×ₗ ℤ :=
  toLex (candidate.start, toLex (candidate.entity.priority, -(candidate.stop : ℤ)))

/-- The matches of an entity's pattern that pass its checks. -/
def BuiltinEntity.candidates (entity : BuiltinEntity) (text : GoString) : List Candidate :=
  ((entity.pattern.findAll text).filter fun range =>
      asciiBoundary text range.start range.stop &&
        entity.valid (slice text range.start range.stop)).map
    fun range => ⟨entity, range.start, range.stop⟩

variable (entities : List GoString)

def enabled : List BuiltinEntity :=
  BuiltinEntity.all.filter fun entity => entities.contains entity.name

def sortedCandidates (text : GoString) : List Candidate :=
  sortByKey Candidate.key ((enabled entities).flatMap fun entity => entity.candidates text)

/-- The spans that `Detect` reports when its context stays alive. -/
def detected (text : GoString) : List Candidate :=
  select Candidate.start Candidate.stop 0 (sortedCandidates entities text)

/-- A position inside a reported span. -/
abbrev Detected (text : GoString) (position : Nat) : Prop :=
  Covers Candidate.start Candidate.stop (detected entities text) position

end SparkRoute.Pii
