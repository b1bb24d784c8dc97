import Mathlib.Data.List.Lex

/-!
# Byte strings

A Go string is any sequence of bytes, compared byte by byte; `ascii` writes
literals.
-/

namespace SparkRoute.Lib

open List

abbrev GoString := List UInt8

def ascii (text : String) : GoString :=
  text.toList.map fun character => character.toNat.toUInt8

instance instLinearOrderUInt8 : LinearOrder UInt8 where
  le_refl _ := UInt8.le_refl _
  le_trans _ _ _ := UInt8.le_trans
  le_antisymm _ _ := UInt8.le_antisymm
  le_total := UInt8.le_total
  lt_iff_le_not_ge _ _ := by
    rw [UInt8.not_le]
    exact ⟨fun less => ⟨UInt8.le_of_lt less, less⟩, fun both => both.2⟩
  toDecidableLE := inferInstance
  toDecidableEq := inferInstance
  toDecidableLT := inferInstance

instance instLawfulBEqGoString : LawfulBEq GoString := inferInstance

/-- A separator that neither part contains fixes where they end. -/
theorem separated_unique {Item : Type} {separator : Item} {first second : List Item}
    {rest other : List Item} (firstFree : separator ∉ first) (secondFree : separator ∉ second)
    (same : first ++ separator :: rest = second ++ separator :: other) :
    first = second ∧ rest = other := by
  induction first generalizing second with
  | nil =>
    cases second with
    | nil => exact ⟨rfl, (List.cons.inj same).2⟩
    | cons item second =>
      exact absurd ((List.cons.inj same).1 ▸ mem_cons_self) secondFree
  | cons item first ih =>
    cases second with
    | nil => exact absurd ((List.cons.inj same).1 ▸ mem_cons_self) firstFree
    | cons item' second =>
      obtain ⟨rfl, tails⟩ := List.cons.inj same
      obtain ⟨rfl, rests⟩ := ih
        (fun inside => firstFree (mem_cons_of_mem _ inside))
        (fun inside => secondFree (mem_cons_of_mem _ inside)) tails
      exact ⟨rfl, rests⟩

end SparkRoute.Lib
