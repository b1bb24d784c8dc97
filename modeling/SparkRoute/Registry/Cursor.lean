import SparkRoute.Lib.Base64
import SparkRoute.Lib.Json
import SparkRoute.Lib.Machine

/-!
# Inventory cursors

A cursor is the unpadded URL-safe Base64 form of a small JSON object that names the
last identifier of a page.  The encoder takes every identifier; the decoder has
limits of its own.
-/

namespace SparkRoute.Registry

open Lib List Json Utf8

def maxCursorBytes : Nat := 2048

def cursorVersion : Int := 1

structure ListCursor where
  version : Int := 0
  afterID : GoString := []

open ListCursor

/-- `json.Marshal` of the cursor. -/
def ListCursor.marshal (cursor : ListCursor) : GoString :=
  ascii "\x7b\"v\":" ++ ascii (toString cursor.version) ++ ascii ",\"after_id\":\"" ++
    escape cursor.afterID ++ ascii "\"\x7d"

variable (endpointID : GoString)

def encodeCursor : GoString :=
  Base64.encode (marshal { version := cursorVersion, afterID := endpointID })

def upperCase (byte : UInt8) : UInt8 :=
  if 0x61 ≤ byte ∧ byte ≤ 0x7A then byte - 0x20 else byte

/-- Field names are matched without regard to case. -/
def sameField (field : String) (name : GoString) : Bool :=
  name.map upperCase == (ascii field).map upperCase

def parseDecimal (digits : GoString) : Nat :=
  digits.foldl (fun total digit => total * 10 + (digit.toNat - 48)) 0

/-- `strconv.ParseInt` on the text of a JSON number. -/
def parseInt : GoString → Option Int
  | [] => none
  | first :: rest =>
    let digits := if first = 0x2D then rest else first :: rest
    let value : Int :=
      if first = 0x2D then -(parseDecimal digits : Int) else parseDecimal digits
    if digits ≠ [] ∧ digits.all decimal ∧ minInt64 ≤ value ∧ value ≤ maxInt64 then
      some value
    else none

def ListCursor.setVersion (cursor : ListCursor) : Json.Value → Option ListCursor
  | .null => some cursor
  | .number text => (parseInt text).map fun version => { cursor with version }
  | _ => none

def ListCursor.setAfterID (cursor : ListCursor) : Json.Value → Option ListCursor
  | .null => some cursor
  | .string afterID => some { cursor with afterID }
  | _ => none

def ListCursor.setField (cursor : ListCursor) (member : GoString × Json.Value) :
    Option ListCursor :=
  if sameField "v" member.1 then cursor.setVersion member.2
  else if sameField "after_id" member.1 then cursor.setAfterID member.2
  else none

/-- `Decode` with `DisallowUnknownFields`. -/
def ListCursor.unmarshal : Json.Value → Option ListCursor
  | .null => some {}
  | .object members => members.foldlM setField {}
  | _ => none

def decodeCursor (value : GoString) : Except String GoString :=
  if maxCursorBytes < value.length then
    .error "invalid endpoint cursor: cursor is too large"
  else
    match Base64.decode value with
    | none => .error "invalid endpoint cursor: malformed encoding"
    | some raw =>
      match parse raw with
      | none => .error "invalid endpoint cursor: malformed payload"
      | some (document, rest) =>
        match unmarshal document with
        | none => .error "invalid endpoint cursor: malformed payload"
        | some cursor =>
          if skipSpace rest ≠ [] then
            .error "invalid endpoint cursor: trailing payload"
          else if cursor.version ≠ cursorVersion ∨ cursor.afterID = [] ∨
              1024 < cursor.afterID.length then
            .error "invalid endpoint cursor: unsupported payload"
          else .ok cursor.afterID

theorem marshal_eq :
    marshal { version := cursorVersion, afterID := endpointID } =
      0x7B :: 0x22 :: (escape (ascii "v") ++ 0x22 :: 0x3A :: 0x31 :: 0x2C :: 0x22 ::
        (escape (ascii "after_id") ++ 0x22 :: 0x3A :: 0x22 ::
          (escape endpointID ++ [0x22, 0x7D]))) := by
  have opening : ascii "\x7b\"v\":" ++ ascii (toString cursorVersion) ++
      ascii ",\"after_id\":\"" = 0x7B :: 0x22 :: (escape (ascii "v") ++ 0x22 :: 0x3A ::
        0x31 :: 0x2C :: 0x22 :: (escape (ascii "after_id") ++ [0x22, 0x3A, 0x22])) := by
    decide +kernel
  have closing : ascii "\"\x7d" = [0x22, 0x7D] := by
    decide +kernel
  rw [marshal, opening, closing]
  simp only [cons_append, append_assoc, nil_append]

/-- The document that an encoded identifier is read back as. -/
theorem parse_marshal :
    parse (marshal { version := cursorVersion, afterID := endpointID }) =
      some (.object [(repair (ascii "v"), .number (ascii "1")),
        (repair (ascii "after_id"), .string (repair endpointID))], []) := by
  have fuelled : ∃ fuel, (marshal
      { version := cursorVersion, afterID := endpointID }).length = fuel + 3 := by
    exact ⟨_, rfl⟩
  obtain ⟨fuel, length⟩ := fuelled
  rw [parse, length, marshal_eq]
  apply parseValue_object
  apply parseMembers_more (ascii "v")
  · rfl
  · apply parseMembers_last (ascii "after_id")
    exact parseValue_string fuel endpointID [0x7D]

theorem unmarshal_readBack (afterID : GoString) :
    unmarshal
        (.object [(repair (ascii "v"), .number (ascii "1")),
          (repair (ascii "after_id"), .string afterID)]) =
      some { version := cursorVersion, afterID } := by
  have version : sameField "v" (repair (ascii "v")) = true := by
    decide +kernel
  have notVersion : sameField "v" (repair (ascii "after_id")) = false := by
    decide +kernel
  have identifier : sameField "after_id" (repair (ascii "after_id")) = true := by
    decide +kernel
  have one : parseInt (ascii "1") = some cursorVersion := by
    decide +kernel
  simp [unmarshal, setField, setVersion,
    setAfterID, version, notVersion, identifier, one]

theorem decodeCursor_encodeCursor :
    decodeCursor (encodeCursor endpointID) =
      if maxCursorBytes < (encodeCursor endpointID).length then
        .error "invalid endpoint cursor: cursor is too large"
      else if repair endpointID = [] ∨ 1024 < (repair endpointID).length then
        .error "invalid endpoint cursor: unsupported payload"
      else .ok (repair endpointID) := by
  unfold decodeCursor
  split
  · rfl
  · rw [encodeCursor, Base64.decode_encode]
    dsimp only
    rw [parse_marshal]
    dsimp only
    rw [unmarshal_readBack]
    simp [skipSpace, cursorVersion]

end SparkRoute.Registry
