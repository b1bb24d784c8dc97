import Mathlib.Data.List.Basic
import Mathlib.Data.List.Nodup

/-!
# Keyed gates

A gate is a channel with room for one token. Tasks put a token in before a protected section
and take it out after it; `holds` reads off a task's place in its code which gate it is behind.
-/

namespace SparkRoute.Lib

open List

variable {Task Key : Type*} {holds : Task → Option Key} {tasks : List Task} {full : List Key}

/-- `full` lists the gates with a token in them: one for each task that is behind a gate. -/
structure Exclusive (holds : Task → Option Key) (tasks : List Task) (full : List Key) :
    Prop where
  tokens : full.Perm (tasks.filterMap holds)
  single : full.Nodup

variable [BEq Key]

/-- What a step of one task does to the gates. -/
inductive GateMove (holds : Task → Option Key) (task moved : Task) (full : List Key) :
    List Key → Prop where
  | keep (same : holds moved = holds task) : GateMove holds task moved full full
  | lock {key : Key} (outside : holds task = none) (inside : holds moved = some key)
      (free : key ∉ full) : GateMove holds task moved full (key :: full)
  | unlock {key : Key} (inside : holds task = some key) (outside : holds moved = none) :
      GateMove holds task moved full (full.erase key)

namespace Exclusive

omit [BEq Key] in
theorem unique (exclusive : Exclusive holds tasks full) {first second : Nat} {left right : Task}
    {key : Key} (leftFound : tasks[first]? = some left) (rightFound : tasks[second]? = some right)
    (leftHolds : holds left = some key) (rightHolds : holds right = some key) :
    first = second := by
  have apart := pairwise_filterMap.mp (exclusive.tokens.nodup_iff.mp exclusive.single)
  obtain ⟨firstInside, rfl⟩ := List.getElem?_eq_some_iff.mp leftFound
  obtain ⟨secondInside, rfl⟩ := List.getElem?_eq_some_iff.mp rightFound
  rw [pairwise_iff_getElem] at apart
  rcases Nat.lt_trichotomy first second with before | same | behind
  · exact absurd rfl (apart _ _ firstInside secondInside before _ leftHolds _ rightHolds)
  · exact same
  · exact absurd rfl (apart _ _ secondInside firstInside behind _ rightHolds _ leftHolds)

omit [BEq Key] in
theorem append (exclusive : Exclusive holds tasks full) {task : Task}
    (outside : holds task = none) : Exclusive holds (tasks ++ [task]) full where
  tokens := by simpa [filterMap_append, outside] using exclusive.tokens
  single := exclusive.single

theorem move [LawfulBEq Key] (exclusive : Exclusive holds tasks full) {index : Nat}
    {task moved : Task} {after : List Key} (found : tasks[index]? = some task)
    (step : GateMove holds task moved full after) :
    Exclusive holds (tasks.set index moved) after := by
  obtain ⟨tokens, single⟩ := exclusive
  obtain ⟨inside, rfl⟩ := List.getElem?_eq_some_iff.mp found
  obtain ⟨front, back, split, _, replaced⟩ := @exists_of_set _ _ moved tasks inside
  rw [replaced]
  rw [split] at tokens
  simp only [filterMap_append, filterMap_cons] at tokens
  cases step with
  | keep same =>
    refine ⟨?_, single⟩
    simp only [filterMap_append, filterMap_cons]
    rwa [same]
  | lock outside entered free =>
    rw [outside] at tokens
    refine ⟨?_, nodup_cons.mpr ⟨free, single⟩⟩
    simp only [filterMap_append, filterMap_cons]
    rw [entered]
    exact (tokens.cons _).trans perm_middle.symm
  | @unlock key entered outside =>
    rw [entered] at tokens
    refine ⟨?_, single.sublist erase_sublist⟩
    simp only [filterMap_append, filterMap_cons]
    rw [outside]
    have rest := (tokens.trans perm_middle).erase key
    rwa [erase_cons_head] at rest

end Exclusive

end SparkRoute.Lib
