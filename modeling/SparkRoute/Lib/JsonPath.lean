import SparkRoute.Lib.Checked
import SparkRoute.Lib.Json

/-!
# Places in a JSON value

A path names a place in a value. An object is a list of members of which the last with a
name counts.
-/

namespace SparkRoute.Lib

open List Option

namespace Json

inductive Step where
  | key (name : GoString)
  | index (position : Nat)
  deriving DecidableEq, Repr

abbrev Path := List Step

/-- The member that counts: a later one replaces an earlier one. -/
def lookup (name : GoString) : List (GoString × Value) → Option Value
  | [] => none
  | (other, value) :: rest =>
    (lookup name rest).or (if other = name then some value else none)

def get : Path → Value → Option Value
  | [], value => some value
  | .key name :: path, .object members => (lookup name members).bind (get path)
  | .index position :: path, .array elements => elements[position]?.bind (get path)
  | _ :: _, _ => none

/-- The value with this text at the path. -/
def set (text : GoString) : Path → Value → Value
  | [], _ => .string text
  | .key name :: path, .object members =>
    .object (members.map fun member =>
      if member.1 = name then (member.1, set text path member.2) else member)
  | .index position :: path, .array elements =>
    .array (elements.modify position (set text path))
  | _ :: _, value => value

mutual

def transformStrings (transform : GoString → Except String GoString) :
    Value → Except String Value
  | .string text => do
    let text ← transform text
    return .string text
  | .array elements => do
    let elements ← transformElements transform elements
    return .array elements
  | .object members => do
    let members ← transformMembers transform members
    return .object members
  | .null => .ok .null
  | .bool value => .ok (.bool value)
  | .number text => .ok (.number text)

def transformElements (transform : GoString → Except String GoString) :
    List Value → Except String (List Value)
  | [] => .ok []
  | value :: rest => do
    let value ← transformStrings transform value
    let rest ← transformElements transform rest
    return value :: rest

def transformMembers (transform : GoString → Except String GoString) :
    List (GoString × Value) → Except String (List (GoString × Value))
  | [] => .ok []
  | (name, value) :: rest => do
    let value ← transformStrings transform value
    let rest ← transformMembers transform rest
    return (name, value) :: rest

end

mutual

def strings : Value → List GoString
  | .string text => [text]
  | .array elements => elementStrings elements
  | .object members => memberStrings members
  | .null => []
  | .bool _ => []
  | .number _ => []

def elementStrings : List Value → List GoString
  | [] => []
  | value :: rest => strings value ++ elementStrings rest

def memberStrings : List (GoString × Value) → List GoString
  | [] => []
  | (_, value) :: rest => strings value ++ memberStrings rest

end

end Json

end SparkRoute.Lib
