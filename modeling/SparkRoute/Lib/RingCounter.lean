import Mathlib.Data.List.DropRight
import Mathlib.Tactic.Linarith

/-!
# A counting ring buffer and the sliding window it stands for

`RingCounter.push` overwrites the oldest cell once every cell is in use and
keeps a running number of set cells.  `Tracks` relates the buffer to the whole
sequence of pushed values: the buffer holds the last `cells.length` of them, at
positions taken modulo the capacity, and the running number is their count.
-/

namespace SparkRoute.Lib

open List

structure RingCounter where
  cells : List Bool
  count : Nat
  cursor : Nat
  hits : Int

namespace RingCounter

def empty (capacity : Nat) : RingCounter :=
  ⟨List.replicate capacity false, 0, 0, 0⟩

/-- Evict the cell under the cursor only when the buffer is full. -/
def push (ring : RingCounter) (hit : Bool) : RingCounter :=
  let hits := if ring.count < ring.cells.length then ring.hits
    else if ring.cells.getD ring.cursor false then ring.hits - 1 else ring.hits
  { cells := ring.cells.set ring.cursor hit
    count := if ring.count < ring.cells.length then ring.count + 1 else ring.count
    cursor := (ring.cursor + 1) % ring.cells.length
    hits := if hit then hits + 1 else hits }

/-- The buffer state after pushing exactly `history`, oldest value first. -/
structure Tracks (ring : RingCounter) (history : List Bool) : Prop where
  positive : 0 < ring.cells.length
  count : ring.count = min history.length ring.cells.length
  cursor : ring.cursor = history.length % ring.cells.length
  cell : ∀ index, index < history.length →
    history.length ≤ index + ring.cells.length →
    ring.cells[index % ring.cells.length]? = history[index]?
  hits : ring.hits = ((history.rtake ring.cells.length).count true : Nat)

@[simp]
theorem push_cells_length (ring : RingCounter) (hit : Bool) :
    (ring.push hit).cells.length = ring.cells.length := by
  simp [push]

variable {capacity : Nat}

theorem empty_tracks (positive : 0 < capacity) : (empty capacity).Tracks [] := by
  refine ⟨by simpa [empty] using positive, by simp [empty], by simp [empty], ?_, ?_⟩
  · intro index bounded
    simp at bounded
  · simp [empty, List.rtake]

variable {history : List Bool}

theorem rtake_concat_of_lt (hit : Bool) (short : history.length < capacity) :
    (history ++ [hit]).rtake capacity = history.rtake capacity ++ [hit] := by
  have whole : (history ++ [hit]).length - capacity = 0 := by
    simp only [length_append, length_singleton]
    omega
  have rest : history.length - capacity = 0 := by omega
  simp only [List.rtake, whole, rest, drop_zero]

/-- A full window loses its oldest value when it gains a new one. -/
theorem rtake_concat_of_le (hit : Bool) (positive : 0 < capacity)
    (full : capacity ≤ history.length) :
    ∃ oldest rest, history[history.length - capacity]? = some oldest ∧
      history.rtake capacity = oldest :: rest ∧
      (history ++ [hit]).rtake capacity = rest ++ [hit] := by
  have inside : history.length - capacity < history.length := by omega
  refine ⟨history[history.length - capacity],
    history.drop (history.length - capacity + 1), ?_, ?_, ?_⟩
  · exact List.getElem?_eq_getElem inside
  · exact drop_eq_getElem_cons inside
  · have shifted : (history ++ [hit]).length - capacity =
        history.length - capacity + 1 := by
      simp only [length_append, length_singleton]
      omega
    rw [List.rtake, shifted, drop_append_of_le_length (by omega)]

variable {ring : RingCounter}

theorem Tracks.evicted (tracks : ring.Tracks history) (full : ¬ ring.count < ring.cells.length) :
    ring.cells.length ≤ history.length ∧
      ring.cells[ring.cursor]? = history[history.length - ring.cells.length]? := by
  have positive := tracks.positive
  have count := tracks.count
  have long : ring.cells.length ≤ history.length := by omega
  refine ⟨long, ?_⟩
  have wrapped : (history.length - ring.cells.length) % ring.cells.length =
      history.length % ring.cells.length :=
    (Nat.mod_eq_sub_mod long).symm
  rw [tracks.cursor, ← wrapped]
  exact tracks.cell _ (by omega) (by omega)

theorem push_hits (tracks : ring.Tracks history) (hit : Bool) :
    (ring.push hit).hits =
      (((history ++ [hit]).rtake ring.cells.length).count true : Nat) := by
  have hits := tracks.hits
  by_cases room : ring.count < ring.cells.length
  · have short : history.length < ring.cells.length := by
      have count := tracks.count
      omega
    rw [rtake_concat_of_lt hit short]
    cases hit <;> simp [push, room, hits]
  · rcases tracks.evicted room with ⟨long, evicted⟩
    rcases rtake_concat_of_le hit tracks.positive long with
      ⟨oldest, rest, found, before, after⟩
    have underCursor : ring.cells[ring.cursor]? = some oldest :=
      evicted.trans found
    rw [before] at hits
    rw [after]
    cases hit <;> cases oldest <;>
      simp [push, room, underCursor, hits]

theorem mod_ne_of_lt_of_lt {first second : Nat} (ordered : first < second)
    (near : second < first + capacity) : first % capacity ≠ second % capacity := by
  intro equality
  have divides : capacity ∣ second - first :=
    (Nat.dvd_iff_mod_eq_zero).mpr (Nat.sub_mod_eq_zero_of_mod_eq equality.symm)
  have bounded := Nat.le_of_dvd (by omega) divides
  omega

theorem Tracks.push (tracks : ring.Tracks history) (hit : Bool) :
    (ring.push hit).Tracks (history ++ [hit]) := by
  have positive := tracks.positive
  have count := tracks.count
  refine ⟨by simpa using positive, ?_, ?_, ?_, ?_⟩
  · simp only [RingCounter.push, length_set, length_append, length_singleton]
    split <;> omega
  · simp only [RingCounter.push, length_set, length_append,
      length_singleton, tracks.cursor, Nat.mod_add_mod]
  · intro index bounded recent
    simp only [push_cells_length, length_append, length_singleton]
      at bounded recent ⊢
    rcases Nat.lt_succ_iff_lt_or_eq.mp bounded with earlier | newest
    · have distinct : history.length % ring.cells.length ≠
          index % ring.cells.length :=
        (mod_ne_of_lt_of_lt earlier (by omega)).symm
      rw [List.getElem?_append_left earlier]
      simp only [RingCounter.push, tracks.cursor]
      rw [List.getElem?_set_ne distinct]
      exact tracks.cell index earlier (by omega)
    · subst newest
      simp only [RingCounter.push, tracks.cursor, List.getElem?_concat_length]
      exact List.getElem?_set_self (Nat.mod_lt _ positive)
  · simpa using push_hits tracks hit

end RingCounter

end SparkRoute.Lib
