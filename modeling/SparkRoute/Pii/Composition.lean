import SparkRoute.Pii.Detection

/-!
# Two texts with a space between them

A byte that is detected in one of the texts alone can stay undetected in the whole only
at or behind the start of a match that contains the space, and there exactly when every match
around it fails its checks or is dropped for an overlap.
-/

namespace SparkRoute.Pii

open Lib List

/-- A match that passes its checks and is not dropped: every such match that comes before it in
the order of `Detect` and reaches into it is itself dropped for a standing one. -/
abbrev Standing (entities : List GoString) (text : GoString) : Candidate → Prop :=
  Stands Candidate.start Candidate.stop Candidate.key (Accepted entities text)

theorem standing_iff {entities : List GoString} {text : GoString} {candidate : Candidate} :
    Standing entities text candidate ↔ candidate ∈ detected entities text := by
  have listed : Accepted entities text = (· ∈ sortedCandidates entities text) :=
    funext fun _ => propext mem_sortedCandidates.symm
  rw [Standing, listed]
  exact stands_iff_mem_select Candidate.key_injective (sortByKey_sorted Candidate.key _)
    fun _ mem => (sortedCandidates_bounded mem).1

/-! ### Before the space -/

variable {text more : GoString}

variable {entities : List GoString} {position : Nat}

theorem Uncut.shifted (uncut : Uncut entities text more) {entity : BuiltinEntity}
    (requested : entity ∈ enabled entities) {range : Regex.Range}
    (listed : range ∈ entity.pattern.findAll more) :
    range.shift text.length ∈ entity.pattern.findAll (text ++ more) := by
  rw [Regex.findAll_append _ _ _ (uncut entity requested)]
  exact mem_append_right _ (mem_map_of_mem listed)

section

variable (kept : ∀ candidate ∈ sortedCandidates entities more,
  candidate.start ≠ 0 ∨ endsClear text = true)

include kept

theorem filter_keptBehind : (sortedCandidates entities more).filter (keptBehind text more) =
    sortedCandidates entities more := by
  rw [filter_eq_self]
  intro candidate listed
  have boundary := (mem_sortedCandidates.mp listed).2.2.1
  rw [keptBehind, asciiBoundary_behind, boundary]
  rcases kept candidate listed with later | clear
  · simp [later]
  · simp [clear]

end

end SparkRoute.Pii
