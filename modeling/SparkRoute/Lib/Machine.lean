import Mathlib.Algebra.Ring.Int.Defs
import Mathlib.Algebra.Ring.Nat
import Mathlib.Data.Int.Order.Basic

/-!
# Fixed-width integers

Signed 64-bit arithmetic as integers reduced into the representable range.
-/

namespace SparkRoute.Lib

/-- Two's complement reduction to a signed 64-bit value. -/
def wrapInt64 (value : Int) : Int :=
  Int.bmod value (2 ^ 64)

def minInt64 : Int := -(2 ^ 63)

def maxInt64 : Int := 2 ^ 63 - 1

/-- What a signed 64-bit variable holds. -/
abbrev Int64Value :=
  { value : Int // minInt64 ≤ value ∧ value ≤ maxInt64 }

theorem int64_zero : minInt64 ≤ 0 ∧ 0 ≤ maxInt64 := by decide

theorem wrapInt64_of_bounds {value : Int} (lower : minInt64 ≤ value) (upper : value ≤ maxInt64) :
    wrapInt64 value = value := by
  unfold minInt64 at lower
  unfold maxInt64 at upper
  apply Int.bmod_eq_of_le <;> omega

theorem wrapInt64_of_nonneg {value : Int} (nonneg : 0 ≤ value) (upper : value ≤ maxInt64) :
    wrapInt64 value = value :=
  wrapInt64_of_bounds (Int.le_trans (by decide) nonneg) upper

end SparkRoute.Lib
