import Mathlib.Algebra.BigOperators.Group.List.Basic
import Mathlib.Algebra.Ring.Int.Defs
import Mathlib.Algebra.Ring.Nat

/-!
# Counting over a list of cells

Shared counters are compared with sums over a list whose cells are replaced or
appended one at a time.  These rules say how such a sum moves.
-/

namespace SparkRoute.Lib

open List

variable {Cell : Type*} {cells : List Cell} {old : Cell} {index : Nat} (weight : Cell → Int)

theorem sum_map_set (found : cells[index]? = some old) (new : Cell) :
    ((cells.set index new).map weight).sum =
      (cells.map weight).sum - weight old + weight new := by
  induction cells generalizing index with
  | nil => simp at found
  | cons head rest ih =>
    cases index with
    | zero =>
      simp only [List.getElem?_cons_zero, Option.some.injEq] at found
      subst found
      simp only [set_cons_zero, map_cons, sum_cons]
      omega
    | succ index =>
      simp only [set_cons_succ, map_cons, sum_cons, ih found]
      omega

theorem sum_map_concat (cells : List Cell) (new : Cell) :
    ((cells ++ [new]).map weight).sum = (cells.map weight).sum + weight new := by
  simp

variable (keep : Cell → Bool)

theorem countP_eq_sum (cells : List Cell) :
    (cells.countP keep : Int) =
      (cells.map fun cell => if keep cell then (1 : Int) else 0).sum := by
  induction cells with
  | nil => rfl
  | cons head rest ih =>
    cases kept : keep head with
    | false => simp [kept, ih]
    | true =>
      simp only [countP_cons, kept, if_true, map_cons, sum_cons]
      omega

theorem countP_set (found : cells[index]? = some old) (new : Cell) :
    ((cells.set index new).countP keep : Int) =
      cells.countP keep - (if keep old then 1 else 0) +
        (if keep new then 1 else 0) := by
  simp only [countP_eq_sum]
  exact sum_map_set (fun cell => if keep cell then (1 : Int) else 0) found new

theorem countP_set_of_eq (found : cells[index]? = some old) (new : Cell)
    (alike : keep new = keep old) : (cells.set index new).countP keep = cells.countP keep := by
  have moved := countP_set keep found new
  rw [alike] at moved
  omega

/-- One cell's share of a sum of natural weights. -/
theorem exists_rest (weight : Cell → Nat) (found : cells[index]? = some old) :
    ∃ rest, (cells.map weight).sum = rest + weight old ∧
      ∀ new, ((cells.set index new).map weight).sum = rest + weight new := by
  induction cells generalizing index with
  | nil => simp at found
  | cons head others ih =>
    cases index with
    | zero =>
      simp only [List.getElem?_cons_zero, Option.some.injEq] at found
      subst found
      refine ⟨(others.map weight).sum, ?_, fun new => ?_⟩
      · simp only [map_cons, sum_cons]
        omega
      · simp only [set_cons_zero, map_cons, sum_cons]
        omega
    | succ index =>
      obtain ⟨rest, before, after⟩ := ih found
      refine ⟨weight head + rest, ?_, fun new => ?_⟩
      · simp only [map_cons, sum_cons, before]
        omega
      · simp only [set_cons_succ, map_cons, sum_cons, after]
        omega

theorem sum_map_filter (cells : List Cell) :
    ((cells.filter keep).map weight).sum =
      (cells.map fun cell => if keep cell then weight cell else 0).sum := by
  induction cells with
  | nil => rfl
  | cons head rest ih =>
    cases kept : keep head with
    | false | true => simp [kept, ih]

end SparkRoute.Lib
