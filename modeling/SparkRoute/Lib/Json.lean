import SparkRoute.Lib.Utf8

/-!
# JSON texts over arbitrary bytes

`escape` writes the inside of a string literal the way encoders for HTML pages do,
and `parse` reads a value.  A literal read back is the repaired text.
-/

namespace SparkRoute.Lib

open Utf8 List Option

namespace Json

inductive Value where
  | null
  | bool (value : Bool)
  | number (text : GoString)
  | string (text : GoString)
  | array (elements : List Value)
  | object (members : List (GoString × Value))

/-! ### String literals -/

def hexDigit (value : Nat) : UInt8 :=
  if value < 10 then (48 + value).toUInt8 else (87 + value).toUInt8

variable (byte : UInt8)

def hexValue : Option Nat :=
  if 48 ≤ byte ∧ byte ≤ 57 then some (byte.toNat - 48)
  else if 97 ≤ byte ∧ byte ≤ 102 then some (byte.toNat - 87)
  else if 65 ≤ byte ∧ byte ≤ 70 then some (byte.toNat - 55)
  else none

/-- The letter of a two-character escape. -/
def escapeLetter : Option UInt8 :=
  if byte = 0x22 then some 0x22
  else if byte = 0x5C then some 0x5C
  else if byte = 8 then some 0x62
  else if byte = 12 then some 0x66
  else if byte = 10 then some 0x6E
  else if byte = 13 then some 0x72
  else if byte = 9 then some 0x74
  else none

def unescapeLetter : Option UInt8 :=
  if byte = 0x22 then some 0x22
  else if byte = 0x5C then some 0x5C
  else if byte = 0x2F then some 0x2F
  else if byte = 0x62 then some 8
  else if byte = 0x66 then some 12
  else if byte = 0x6E then some 10
  else if byte = 0x72 then some 13
  else if byte = 0x74 then some 9
  else none

/-- Control characters and the characters that HTML gives a meaning. -/
def unsafeByte : Bool :=
  byte < 0x20 || byte == 0x3C || byte == 0x3E || byte == 0x26

def escapeByte : GoString :=
  match escapeLetter byte with
  | some letter => [0x5C, letter]
  | none =>
    if unsafeByte byte then
      [0x5C, 0x75, 0x30, 0x30, hexDigit (byte.toNat / 16), hexDigit (byte.toNat % 16)]
    else [byte]

def escapePiece : Piece → GoString
  | .invalid _ => replacement
  | .rune [byte] => escapeByte byte
  | .rune bytes =>
    if bytes = [0xE2, 0x80, 0xA8] then ascii "\\u2028"
    else if bytes = [0xE2, 0x80, 0xA9] then ascii "\\u2029"
    else bytes

def escape (text : GoString) : GoString :=
  (pieces text).flatMap escapePiece

def hex4 : GoString → Option (Nat × GoString)
  | first :: second :: third :: fourth :: rest => do
    let high ← hexValue first
    let upper ← hexValue second
    let lower ← hexValue third
    let low ← hexValue fourth
    some (high * 4096 + upper * 256 + lower * 16 + low, rest)
  | _ => none

/-- The bytes of a `\u` escape with this code; a surrogate takes its partner along. -/
def decodeUnit (code : Nat) (rest : GoString) : GoString × GoString :=
  if 0xD800 ≤ code ∧ code ≤ 0xDBFF then
    match rest with
    | 0x5C :: 0x75 :: more =>
      match hex4 more with
      | some (low, more) =>
        if 0xDC00 ≤ low ∧ low ≤ 0xDFFF then
          (encode (0x10000 + (code - 0xD800) * 0x400 + (low - 0xDC00)), more)
        else (replacement, rest)
      | none => (replacement, rest)
    | _ => (replacement, rest)
  else (encode code, rest)

variable (bytes : GoString)

def prepend (read : GoString × GoString) : GoString × GoString :=
  (bytes ++ read.1, read.2)

/-- The inside of a string literal and what follows its closing quote. -/
def parseTextWith : Nat → GoString → Option (GoString × GoString)
  | 0, _ => none
  | _ + 1, [] => none
  | fuel + 1, byte :: rest =>
    if byte = 0x22 then some ([], rest)
    else if byte = 0x5C then
      match rest with
      | [] => none
      | kind :: rest =>
        if kind = 0x75 then
          match hex4 rest with
          | none => none
          | some (code, rest) =>
            (parseTextWith fuel (decodeUnit code rest).2).map
              (prepend (decodeUnit code rest).1)
        else
          match unescapeLetter kind with
          | none => none
          | some letter => (parseTextWith fuel rest).map (prepend [letter])
    else if byte < 0x20 then none
    else
      match front (byte :: rest) with
      | some bytes =>
        (parseTextWith fuel (rest.drop (bytes.length - 1))).map (prepend bytes)
      | none => (parseTextWith fuel rest).map (prepend replacement)

def parseText : Option (GoString × GoString) :=
  parseTextWith (bytes.length + 1) bytes

/-! ### Values -/

def space : Bool :=
  byte == 0x20 || byte == 0x09 || byte == 0x0A || byte == 0x0D

def skipSpace : GoString :=
  bytes.dropWhile space

def decimal : Bool :=
  0x30 ≤ byte && byte ≤ 0x39

def parseDigits : Option (GoString × GoString) :=
  if bytes.takeWhile decimal = [] then none
  else some (bytes.takeWhile decimal, bytes.dropWhile decimal)

def parseInteger : GoString → Option (GoString × GoString)
  | [] => none
  | first :: rest =>
    if first = 0x30 then some ([first], rest) else parseDigits (first :: rest)

def parseFraction : GoString → Option (GoString × GoString)
  | [] => some ([], [])
  | first :: rest =>
    if first = 0x2E then (parseDigits rest).map (prepend [first])
    else some ([], first :: rest)

def parseExponent : GoString → Option (GoString × GoString)
  | [] => some ([], [])
  | first :: rest =>
    if first = 0x65 ∨ first = 0x45 then
      match rest with
      | [] => none
      | sign :: more =>
        if sign = 0x2B ∨ sign = 0x2D then (parseDigits more).map (prepend [first, sign])
        else (parseDigits rest).map (prepend [first])
    else some ([], first :: rest)

def parseUnsigned : Option (GoString × GoString) := do
  let (whole, rest) ← parseInteger bytes
  let (fraction, rest) ← parseFraction rest
  let (exponent, rest) ← parseExponent rest
  some (whole ++ fraction ++ exponent, rest)

def parseNumber : GoString → Option (GoString × GoString)
  | [] => none
  | first :: rest =>
    if first = 0x2D then (parseUnsigned rest).map (prepend [first])
    else parseUnsigned (first :: rest)

def parseScalar : Option (Value × GoString) :=
  if (ascii "null").isPrefixOf bytes then some (.null, bytes.drop 4)
  else if (ascii "true").isPrefixOf bytes then some (.bool true, bytes.drop 4)
  else if (ascii "false").isPrefixOf bytes then some (.bool false, bytes.drop 5)
  else (parseNumber bytes).map fun read => (.number read.1, read.2)

/-- The bytes after `byte`, which has to be the next one that is no space. -/
def expect : Option GoString :=
  match skipSpace bytes with
  | [] => none
  | first :: rest => if first = byte then some rest else none

mutual

def parseValue : Nat → GoString → Option (Value × GoString)
  | 0, _ => none
  | fuel + 1, bytes =>
    match skipSpace bytes with
    | [] => none
    | first :: rest =>
      if first = 0x22 then (parseText rest).map fun read => (.string read.1, read.2)
      else if first = 0x7B then
        match expect 0x7D rest with
        | some rest => some (.object [], rest)
        | none => (parseMembers fuel rest).map fun read => (.object read.1, read.2)
      else if first = 0x5B then
        match expect 0x5D rest with
        | some rest => some (.array [], rest)
        | none => (parseElements fuel rest).map fun read => (.array read.1, read.2)
      else parseScalar (first :: rest)

def parseMembers : Nat → GoString → Option (List (GoString × Value) × GoString)
  | 0, _ => none
  | fuel + 1, bytes => do
    let rest ← expect 0x22 bytes
    let (name, rest) ← parseText rest
    let rest ← expect 0x3A rest
    let (value, rest) ← parseValue fuel rest
    match expect 0x7D rest with
    | some rest => some ([(name, value)], rest)
    | none => do
      let rest ← expect 0x2C rest
      let (members, rest) ← parseMembers fuel rest
      some ((name, value) :: members, rest)

def parseElements : Nat → GoString → Option (List Value × GoString)
  | 0, _ => none
  | fuel + 1, bytes => do
    let (value, rest) ← parseValue fuel bytes
    match expect 0x5D rest with
    | some rest => some ([value], rest)
    | none => do
      let rest ← expect 0x2C rest
      let (elements, rest) ← parseElements fuel rest
      some (value :: elements, rest)

end

/-- The value at the front and what follows it. -/
def parse (bytes : GoString) : Option (Value × GoString) :=
  parseValue (bytes.length + 1) bytes

/-! ### Literals read back -/

theorem hexValue_hexDigit {value : Nat} (small : value < 16) :
    hexValue (hexDigit value) = some value := by
  have every : ∀ digit : Fin 16, hexValue (hexDigit digit) = some digit.val := by
    decide
  exact every ⟨value, small⟩

theorem unescapeLetter_escapeLetter {byte letter : UInt8}
    (escaped : escapeLetter byte = some letter) :
    unescapeLetter letter = some byte ∧ letter ≠ 0x75 := by
  unfold escapeLetter at escaped
  repeat' split at escaped
  all_goals cases escaped
  all_goals
    subst_vars
    decide

theorem hex4_escaped (byte : UInt8) (rest : GoString) :
    hex4 (0x30 :: 0x30 :: hexDigit (byte.toNat / 16) :: hexDigit (byte.toNat % 16) :: rest)
      = some (byte.toNat, rest) := by
  have bounded := byte.toNat_lt
  have zero : hexValue 0x30 = some 0 := rfl
  simp only [hex4, zero, hexValue_hexDigit (show byte.toNat / 16 < 16 by omega),
    hexValue_hexDigit (show byte.toNat % 16 < 16 by omega), bind_eq_bind,
    bind_some, Option.some.injEq, Prod.mk.injEq, and_true]
  omega

theorem parseTextWith_unit (fuel code : Nat) (rest digits : GoString)
    (read : hex4 digits = some (code, rest)) (plain : code < 0xD800 ∨ 0xDBFF < code) :
    parseTextWith (fuel + 1) (0x5C :: 0x75 :: digits)
      = (parseTextWith fuel rest).map (prepend (encode code)) := by
  have unit : decodeUnit code rest = (encode code, rest) := by
    unfold decodeUnit
    rw [if_neg]
    omega
  simp only [parseTextWith, read, unit, if_true, if_false, show ¬ (0x5C : UInt8) = 0x22 by decide]

theorem parseTextWith_rune (fuel : Nat) {bytes : GoString} (rest : GoString)
    (valid : Piece.Valid bytes)
    (plain : ∀ lead ∈ bytes.head?, lead ≠ 0x22 ∧ lead ≠ 0x5C ∧ ¬ lead < 0x20) :
    parseTextWith (fuel + 1) (bytes ++ rest)
      = (parseTextWith fuel rest).map (prepend bytes) := by
  cases bytes with
  | nil => exact absurd rfl valid.nonempty
  | cons lead tail =>
    obtain ⟨quote, backslash, printable⟩ := plain lead rfl
    have found := valid.found rest
    rw [cons_append] at found ⊢
    simp only [parseTextWith, if_neg quote, if_neg backslash, if_neg printable, found,
      length_cons, Nat.add_sub_cancel, drop_left]

theorem parseTextWith_escapeByte (fuel : Nat) {byte : UInt8} (rest : GoString)
    (valid : Piece.Valid [byte]) :
    parseTextWith (fuel + 1) (escapeByte byte ++ rest)
      = (parseTextWith fuel rest).map (prepend [byte]) := by
  have small := valid.single_ascii
  unfold escapeByte
  cases escaped : escapeLetter byte with
  | some letter =>
    obtain ⟨unescaped, notUnit⟩ := unescapeLetter_escapeLetter escaped
    simp only [cons_append, nil_append, parseTextWith, if_true, if_neg notUnit,
      unescaped, show ¬ (0x5C : UInt8) = 0x22 by decide, if_false]
  | none =>
    dsimp only
    split
    · have code : encode byte.toNat = [byte] := by
        have smallCode : byte.toNat < 0x80 := small
        rw [encode, if_pos smallCode]
        simp
      rw [← code]
      apply parseTextWith_unit
      · exact hex4_escaped byte rest
      · have bounded := byte.toNat_lt
        omega
    next safe =>
      apply parseTextWith_rune fuel rest valid
      intro lead mem
      cases mem
      refine ⟨?_, ?_, ?_⟩
      · rintro rfl
        cases escaped
      · rintro rfl
        cases escaped
      · intro control
        simp [unsafeByte, control] at safe

theorem parseTextWith_escapePiece (fuel : Nat) {piece : Piece} (rest : GoString)
    (wellFormed : piece.WellFormed) :
    parseTextWith (fuel + 1) (escapePiece piece ++ rest)
      = (parseTextWith fuel rest).map (prepend piece.repaired) := by
  cases piece with
  | invalid byte =>
    have valid : Piece.Valid replacement := (@front_valid replacement _ (by decide)).1
    apply parseTextWith_rune fuel rest valid
    rintro lead ⟨⟩
    decide
  | rune bytes =>
    match bytes, wellFormed with
    | [], valid => exact absurd rfl valid.nonempty
    | [byte], valid => exact parseTextWith_escapeByte fuel rest valid
    | lead :: second :: tail, valid =>
      dsimp only [escapePiece, Piece.repaired]
      split
      next separator =>
        rw [separator]
        exact parseTextWith_unit fuel 0x2028 rest _ rfl (by decide)
      · split
        next separator =>
          rw [separator]
          exact parseTextWith_unit fuel 0x2029 rest _ rfl (by decide)
        · apply parseTextWith_rune fuel rest valid
          intro first mem
          cases mem
          have large : ¬ lead < 0x80 := by
            intro small
            have found := valid.found []
            rw [cons_append, front_ascii small] at found
            cases found
          refine ⟨?_, ?_, ?_⟩
          · rintro rfl
            exact large (by decide)
          · rintro rfl
            exact large (by decide)
          · intro control
            exact large (UInt8.lt_trans control (by decide))

theorem parseTextWith_pieces (rest : GoString) (parts : List Piece)
    (wellFormed : ∀ piece ∈ parts, piece.WellFormed) (fuel : Nat) (enough : parts.length < fuel) :
    parseTextWith fuel (parts.flatMap escapePiece ++ 0x22 :: rest)
      = some (parts.flatMap Piece.repaired, rest) := by
  induction parts generalizing fuel with
  | nil =>
    cases fuel with
    | zero => cases enough
    | succ fuel => rfl
  | cons piece parts ih =>
    cases fuel with
    | zero => cases enough
    | succ fuel =>
      rw [flatMap_cons, append_assoc,
        parseTextWith_escapePiece fuel _ (wellFormed piece mem_cons_self),
        ih (fun later mem =>
          wellFormed later (mem_cons_of_mem _ mem)) fuel
          (Nat.lt_of_succ_lt_succ enough)]
      rfl

theorem escapePiece_nonempty {piece : Piece} (wellFormed : piece.WellFormed) :
    1 ≤ (escapePiece piece).length := by
  cases piece with
  | invalid byte => exact (by decide : 1 ≤ replacement.length)
  | rune bytes =>
    match bytes, wellFormed with
    | [], valid => exact absurd rfl valid.nonempty
    | [byte], _ =>
      dsimp only [escapePiece, escapeByte]
      repeat' split
      all_goals simp
    | lead :: second :: tail, _ =>
      dsimp only [escapePiece]
      repeat' split
      all_goals simp [ascii]

theorem length_le_flatMap {Item Part : Type} (f : Item → List Part) (items : List Item)
    (nonempty : ∀ item ∈ items, 1 ≤ (f item).length) : items.length ≤ (items.flatMap f).length := by
  induction items with
  | nil => exact Nat.zero_le _
  | cons item items ih =>
    have first := nonempty item mem_cons_self
    have later := ih fun other mem =>
      nonempty other (mem_cons_of_mem _ mem)
    rw [flatMap_cons, length_append, length_cons]
    omega

theorem parseText_escape (text rest : GoString) :
    parseText (escape text ++ 0x22 :: rest) = some (repair text, rest) := by
  apply parseTextWith_pieces rest (pieces text) (pieces_wellFormed text)
  have parts := length_le_flatMap escapePiece (pieces text) fun piece mem =>
    escapePiece_nonempty (pieces_wellFormed text piece mem)
  rw [escape, length_append]
  omega

/-! ### Objects read back -/

theorem skipSpace_solid {first : UInt8} (solid : space first = false) (rest : GoString) :
    skipSpace (first :: rest) = first :: rest := by
  rw [skipSpace, dropWhile_cons, solid]
  rfl

theorem expect_found {byte : UInt8} (solid : space byte = false) (rest : GoString) :
    expect byte (byte :: rest) = some rest := by
  rw [expect, skipSpace_solid solid]
  exact if_pos rfl

theorem expect_other {byte first : UInt8} (solid : space first = false)
    (other : first ≠ byte) (rest : GoString) : expect byte (first :: rest) = none := by
  rw [expect, skipSpace_solid solid]
  exact if_neg other

theorem parseValue_string (fuel : Nat) (text rest : GoString) :
    parseValue (fuel + 1) (0x22 :: (escape text ++ 0x22 :: rest)) =
      some (.string (repair text), rest) := by
  rw [parseValue, skipSpace_solid (by decide)]
  dsimp only
  rw [if_pos rfl, parseText_escape]
  rfl

variable {fuel : Nat} {body rest : GoString}

theorem parseMembers_last {value : Value} (name : GoString)
    (read : parseValue fuel body = some (value, 0x7D :: rest)) :
    parseMembers (fuel + 1) (0x22 :: (escape name ++ 0x22 :: 0x3A :: body)) =
      some ([(repair name, value)], rest) := by
  simp only [parseMembers, expect_found (show space 0x22 = false by decide),
    expect_found (show space 0x3A = false by decide), parseText_escape, read,
    expect_found (show space 0x7D = false by decide), bind_eq_bind, bind_some]

variable {members : List (GoString × Value)}

theorem parseMembers_more {more : GoString} {value : Value} (name : GoString)
    (read : parseValue fuel body = some (value, 0x2C :: more))
    (readMore : parseMembers fuel more = some (members, rest)) :
    parseMembers (fuel + 1) (0x22 :: (escape name ++ 0x22 :: 0x3A :: body)) =
      some ((repair name, value) :: members, rest) := by
  simp only [parseMembers, expect_found (show space 0x22 = false by decide),
    expect_found (show space 0x3A = false by decide), parseText_escape, read,
    expect_other (show space 0x2C = false by decide) (show (0x2C : UInt8) ≠ 0x7D by decide),
    expect_found (show space 0x2C = false by decide), readMore, bind_eq_bind,
    bind_some]

theorem parseValue_object (read : parseMembers fuel (0x22 :: body) = some (members, rest)) :
    parseValue (fuel + 1) (0x7B :: 0x22 :: body) = some (.object members, rest) := by
  rw [parseValue, skipSpace_solid (by decide)]
  dsimp only
  rw [if_neg (by decide), if_pos rfl, expect_other (by decide) (by decide), read]
  rfl

end Json

end SparkRoute.Lib
