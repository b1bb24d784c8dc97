import SparkRoute.Lib.Bytes

/-!
# Unpadded URL-safe base64

`decode` skips line breaks and ignores the unused bits of a last short group, as
decoders that are not strict do.
-/

namespace SparkRoute.Lib

open List Option

namespace Base64

def digit (value : Nat) : UInt8 :=
  if value < 26 then (65 + value).toUInt8
  else if value < 52 then (71 + value).toUInt8
  else if value < 62 then (value - 4).toUInt8
  else if value = 62 then 45
  else 95

def value (byte : UInt8) : Option Nat :=
  if 65 ≤ byte ∧ byte ≤ 90 then some (byte.toNat - 65)
  else if 97 ≤ byte ∧ byte ≤ 122 then some (byte.toNat - 71)
  else if 48 ≤ byte ∧ byte ≤ 57 then some (byte.toNat + 4)
  else if byte = 45 then some 62
  else if byte = 95 then some 63
  else none

def encode : GoString → GoString
  | [] => []
  | [first] =>
    [digit (first.toNat / 4), digit (first.toNat % 4 * 16)]
  | [first, second] =>
    [digit (first.toNat / 4), digit (first.toNat % 4 * 16 + second.toNat / 16),
      digit (second.toNat % 16 * 4)]
  | first :: second :: third :: rest =>
    digit (first.toNat / 4) :: digit (first.toNat % 4 * 16 + second.toNat / 16) ::
      digit (second.toNat % 16 * 4 + third.toNat / 64) :: digit (third.toNat % 64) ::
        encode rest

def decodeGroups : GoString → Option GoString
  | [] => some []
  | [_] => none
  | [first, second] => do
    let high ← value first
    let low ← value second
    some [(high * 4 + low / 16).toUInt8]
  | [first, second, third] => do
    let high ← value first
    let middle ← value second
    let low ← value third
    some [(high * 4 + middle / 16).toUInt8, (middle % 16 * 16 + low / 4).toUInt8]
  | first :: second :: third :: fourth :: rest => do
    let high ← value first
    let upper ← value second
    let lower ← value third
    let low ← value fourth
    let decoded ← decodeGroups rest
    some ((high * 4 + upper / 16).toUInt8 :: (upper % 16 * 16 + lower / 4).toUInt8 ::
      (lower % 4 * 64 + low).toUInt8 :: decoded)

def lineBreak (byte : UInt8) : Bool :=
  byte == 10 || byte == 13

def decode (text : GoString) : Option GoString :=
  decodeGroups (text.filter fun byte => !lineBreak byte)

variable {number : Nat}

@[simp]
theorem value_digit (small : number < 64) : value (digit number) = some number := by
  have all : ∀ candidate < 64, value (digit candidate) = some candidate := by decide
  exact all number small

theorem digit_not_lineBreak (small : number < 64) : lineBreak (digit number) = false := by
  have all : ∀ candidate < 64, lineBreak (digit candidate) = false := by decide
  exact all number small

variable (bytes : GoString)

theorem encode_not_lineBreak : ∀ byte ∈ encode bytes, lineBreak byte = false := by
  fun_induction encode bytes with
  | case1 => simp
  | case2 first =>
    have bound := first.toNat_lt
    refine forall_mem_cons.mpr ⟨digit_not_lineBreak (by omega), forall_mem_singleton.mpr ?_⟩
    exact digit_not_lineBreak (by omega)
  | case3 first second =>
    have firstBound := first.toNat_lt
    have secondBound := second.toNat_lt
    simp only [forall_mem_cons]
    refine ⟨?_, ?_, ?_, nofun⟩ <;> exact digit_not_lineBreak (by omega)
  | case4 first second third rest ih =>
    have firstBound := first.toNat_lt
    have secondBound := second.toNat_lt
    have thirdBound := third.toNat_lt
    simp only [forall_mem_cons]
    refine ⟨?_, ?_, ?_, ?_, ih⟩ <;> exact digit_not_lineBreak (by omega)

theorem toUInt8_of_eq {byte : UInt8} (same : number = byte.toNat) : number.toUInt8 = byte := by
  subst same
  exact UInt8.ofNat_toNat

theorem decodeGroups_encode : decodeGroups (encode bytes) = some bytes := by
  fun_induction encode bytes with
  | case1 => rfl
  | case2 first =>
    have bound := first.toNat_lt
    have back : (first.toNat / 4 * 4 + first.toNat % 4 * 16 / 16).toUInt8 = first :=
      toUInt8_of_eq (by omega)
    simp only [decodeGroups, value_digit (show first.toNat / 4 < 64 by omega),
      value_digit (show first.toNat % 4 * 16 < 64 by omega), bind_eq_bind,
      bind_some, back]
  | case3 first second =>
    have firstBound := first.toNat_lt
    have secondBound := second.toNat_lt
    have firstBack : (first.toNat / 4 * 4 +
        (first.toNat % 4 * 16 + second.toNat / 16) / 16).toUInt8 = first :=
      toUInt8_of_eq (by omega)
    have secondBack : ((first.toNat % 4 * 16 + second.toNat / 16) % 16 * 16 +
        second.toNat % 16 * 4 / 4).toUInt8 = second := toUInt8_of_eq (by omega)
    simp only [decodeGroups, value_digit (show first.toNat / 4 < 64 by omega),
      value_digit (show first.toNat % 4 * 16 + second.toNat / 16 < 64 by omega),
      value_digit (show second.toNat % 16 * 4 < 64 by omega), bind_eq_bind,
      bind_some, firstBack, secondBack]
  | case4 first second third rest ih =>
    have firstBound := first.toNat_lt
    have secondBound := second.toNat_lt
    have thirdBound := third.toNat_lt
    have firstBack : (first.toNat / 4 * 4 +
        (first.toNat % 4 * 16 + second.toNat / 16) / 16).toUInt8 = first :=
      toUInt8_of_eq (by omega)
    have secondBack : ((first.toNat % 4 * 16 + second.toNat / 16) % 16 * 16 +
        (second.toNat % 16 * 4 + third.toNat / 64) / 4).toUInt8 = second :=
      toUInt8_of_eq (by omega)
    have thirdBack : ((second.toNat % 16 * 4 + third.toNat / 64) % 4 * 64 +
        third.toNat % 64).toUInt8 = third := toUInt8_of_eq (by omega)
    simp only [decodeGroups, value_digit (show first.toNat / 4 < 64 by omega),
      value_digit (show first.toNat % 4 * 16 + second.toNat / 16 < 64 by omega),
      value_digit (show second.toNat % 16 * 4 + third.toNat / 64 < 64 by omega),
      value_digit (show third.toNat % 64 < 64 by omega), ih,
      bind_eq_bind, bind_some, firstBack, secondBack, thirdBack]

theorem decode_encode : decode (encode bytes) = some bytes := by
  unfold decode
  rw [filter_eq_self.mpr, decodeGroups_encode]
  intro byte mem
  rw [encode_not_lineBreak bytes byte mem]
  rfl

theorem encode_length : (encode bytes).length = (bytes.length * 4 + 2) / 3 := by
  fun_induction encode bytes with
  | case1 => rfl
  | case2 first | case3 first second => simp
  | case4 first second third rest ih =>
    simp only [length_cons, ih]
    omega

end Base64

end SparkRoute.Lib
