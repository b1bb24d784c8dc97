import Mathlib.Data.List.Basic
import SparkRoute.Lib.Utf8

/-!
# Identifiers and the text helpers of the validators

Character classes are those of Go's `unicode` package.  `quoted` and `quotedBytes` are `%q`
for text whose non-ASCII characters are printable.
-/

namespace SparkRoute.Config

/-- `unicode.IsSpace`. -/
def isSpace (character : Char) : Bool :=
  let code := character.toNat
  (9 ≤ code ∧ code ≤ 13) ∨ code = 0x20 ∨ code = 0x85 ∨ code = 0xA0 ∨ code = 0x1680 ∨
    (0x2000 ≤ code ∧ code ≤ 0x200A) ∨ code = 0x2028 ∨ code = 0x2029 ∨
    code = 0x202F ∨ code = 0x205F ∨ code = 0x3000

/-- `unicode.IsControl`. -/
def isControl (character : Char) : Bool :=
  character.toNat < 0x20 ∨ (0x7F ≤ character.toNat ∧ character.toNat < 0xA0)

def trimSpace (value : String) : String :=
  String.ofList (((value.toList.dropWhile isSpace).reverse.dropWhile isSpace).reverse)

def hexDigit (value : Nat) : Char :=
  Char.ofNat (if value < 10 then 48 + value else 87 + value)

def escapedByte (value : Nat) : List Char :=
  ['\\', 'x', hexDigit (value / 16), hexDigit (value % 16)]

def quotedCharacter (character : Char) : List Char :=
  if character = '"' ∨ character = '\\' then ['\\', character]
  else if character.toNat = 7 then ['\\', 'a']
  else if character.toNat = 8 then ['\\', 'b']
  else if character.toNat = 12 then ['\\', 'f']
  else if character.toNat = 10 then ['\\', 'n']
  else if character.toNat = 13 then ['\\', 'r']
  else if character.toNat = 9 then ['\\', 't']
  else if character.toNat = 11 then ['\\', 'v']
  else if isControl character ∧ character.toNat < 0x80 then
    escapedByte character.toNat
  else [character]

def quoted (value : String) : String :=
  String.ofList ('"' :: value.toList.flatMap quotedCharacter ++ ['"'])

def quotedPiece : Lib.Utf8.Piece → List Char
  | .rune bytes => quotedCharacter (Char.ofNat (Lib.Utf8.codePoint bytes))
  | .invalid byte => escapedByte byte.toNat

def quotedBytes (value : Lib.GoString) : String :=
  String.ofList ('"' :: (Lib.Utf8.pieces value).flatMap quotedPiece ++ ['"'])

def maxIDLength : Nat := 256

def validateID (value : String) : Except String Unit :=
  if value = "" then
    .error "required"
  else if maxIDLength < value.utf8ByteSize then
    .error "must not exceed 256 bytes"
  else if value ≠ trimSpace value then
    .error "must not have surrounding whitespace"
  else if value.toList.any fun character => isSpace character || isControl character then
    .error "must not contain whitespace or control characters"
  else
    .ok ()

/-- Fail with `message` when `condition` holds. -/
def refuse (condition : Bool) (message : String) : Except String Unit :=
  if condition then .error message else .ok ()

@[simp]
theorem refuse_eq_ok {condition : Bool} {message : String} :
    refuse condition message = .ok () ↔ condition = false := by
  cases condition with
  | false | true => simp [refuse]

/-- A failed check, reported under the path of the field it reads. -/
def located (path : String) : Except String Unit → Except String Unit
  | .error message => .error s!"{path}: {message}"
  | .ok () => .ok ()

@[simp]
theorem located_eq_ok {path : String} {outcome : Except String Unit} :
    located path outcome = .ok () ↔ outcome = .ok () := by
  cases outcome with
  | error message | ok value => simp [located]

end SparkRoute.Config
