import SparkRoute.Lib.Bytes
import Mathlib.Algebra.Ring.Nat
import Mathlib.Data.List.Induction

/-!
# Big-endian numbers

A number in a fixed number of bytes, most significant byte first.
-/

namespace SparkRoute.Lib

def bigEndian : Nat → Nat → GoString
  | 0, _ => []
  | width + 1, value => bigEndian width (value / 256) ++ [UInt8.ofNat value]

def readBigEndian (bytes : GoString) : Nat :=
  bytes.foldl (fun value byte => value * 256 + byte.toNat) 0

@[simp] theorem length_bigEndian (width value : Nat) : (bigEndian width value).length = width := by
  induction width generalizing value with
  | zero => rfl
  | succ width ih => simp [bigEndian, ih]

theorem readBigEndian_concat (bytes : GoString) (byte : UInt8) :
    readBigEndian (bytes ++ [byte]) = readBigEndian bytes * 256 + byte.toNat := by
  simp [readBigEndian]

theorem readBigEndian_bigEndian {width value : Nat} (fits : value < 256 ^ width) :
    readBigEndian (bigEndian width value) = value := by
  induction width generalizing value with
  | zero =>
    rw [Nat.pow_zero, Nat.lt_one_iff] at fits
    rw [fits]
    rfl
  | succ width ih =>
    have high : value / 256 < 256 ^ width := by
      rw [Nat.div_lt_iff_lt_mul (by decide)]
      rwa [Nat.pow_succ] at fits
    rw [bigEndian, readBigEndian_concat, ih high, UInt8.toNat_ofNat']
    exact Nat.div_add_mod' value 256

theorem bigEndian_readBigEndian (bytes : GoString) :
    bigEndian bytes.length (readBigEndian bytes) = bytes := by
  induction bytes using List.reverseRecOn with
  | nil => rfl
  | append_singleton bytes byte ih =>
    have low := byte.toNat_lt
    have high : (readBigEndian bytes * 256 + byte.toNat) / 256 = readBigEndian bytes := by
      omega
    have last : UInt8.ofNat (readBigEndian bytes * 256 + byte.toNat) = byte := by
      apply UInt8.toNat_inj.mp
      rw [UInt8.toNat_ofNat']
      omega
    rw [List.length_append, List.length_singleton, bigEndian, readBigEndian_concat, high, last, ih]

end SparkRoute.Lib
