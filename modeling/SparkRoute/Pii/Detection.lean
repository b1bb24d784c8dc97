import Mathlib.Data.List.Perm.Basic
import SparkRoute.Pii.Builtin

/-!
# Detection in texts side by side

Where no match of an enabled pattern reaches across the border of two texts, detection in
the whole is detection in the parts, except for matches at the border that are refused
there because a word goes on.
-/

namespace SparkRoute.Pii

open Lib List Candidate
open Lib.Regex (Range)

def Candidate.shift (distance : Nat) (candidate : Candidate) : Candidate :=
  { candidate with
    start := candidate.start + distance
    stop := candidate.stop + distance }

/-- No match of an enabled pattern starts in `text` and ends in `more`. -/
def Uncut (entities : List GoString) (text more : GoString) : Prop :=
  ∀ entity ∈ enabled entities, ∀ range ∈ entity.pattern.findAll (text ++ more),
    range.start < text.length → range.stop ≤ text.length

variable (text more : GoString)

/-- The candidate of `text` is one of `text ++ more` too. -/
def keptBefore (candidate : Candidate) : Bool :=
  asciiBoundary (text ++ more) candidate.start candidate.stop

/-- The candidate of `more` is one of `text ++ more` too. -/
def keptBehind (candidate : Candidate) : Bool :=
  asciiBoundary (text ++ more) (candidate.start + text.length) (candidate.stop + text.length)

/-! ### Boundaries -/

theorem slice_append_left {start stop : Nat}
    (within : stop ≤ text.length) : slice (text ++ more) start stop = slice text start stop := by
  rw [slice, slice, take_append_of_le_length within]

theorem slice_append_right (start stop : Nat) :
    slice (text ++ more) (start + text.length) (stop + text.length) = slice more start stop := by
  rw [slice, slice, Nat.add_comm stop, take_length_add_append, Nat.add_comm start,
    drop_length_add_append]

/-- The first byte is no part of a word. -/
def startsClear (text : GoString) : Bool := !(text.head?.any isWord)

def endsClear (text : GoString) : Bool := !(text.getLast?.any isWord)

theorem asciiBoundary_before {start stop : Nat}
    (nonempty : start < stop) (within : stop ≤ text.length) :
    asciiBoundary (text ++ more) start stop =
      (asciiBoundary text start stop && (stop != text.length || startsClear more)) := by
  have left : (text ++ more)[start - 1]? = text[start - 1]? :=
    List.getElem?_append_left (by omega)
  unfold asciiBoundary
  rw [left, Bool.and_assoc]
  congr 1
  rcases Nat.lt_or_eq_of_le within with inside | rfl
  · have right : (text ++ more)[stop]? = text[stop]? := List.getElem?_append_left inside
    have notWhole : (stop == (text ++ more).length) = false := by
      rw [beq_eq_false_iff_ne, length_append]
      omega
    have notLast : (stop == text.length) = false := beq_eq_false_iff_ne.mpr (by omega)
    rw [right, notWhole, bne, notLast, Bool.not_false, Bool.true_or, Bool.and_true]
  · have right : (text ++ more)[text.length]? = more.head? := by
      rw [List.getElem?_append_right (Nat.le_refl _), Nat.sub_self, List.head?_eq_getElem?]
    cases more with
    | nil | cons byte rest => simp [startsClear]

theorem asciiBoundary_behind (start stop : Nat) :
    asciiBoundary (text ++ more) (start + text.length) (stop + text.length) =
      (asciiBoundary more start stop && (start != 0 || endsClear text)) := by
  have right : (text ++ more)[stop + text.length]? = more[stop]? := by
    rw [List.getElem?_append_right (Nat.le_add_left _ _), Nat.add_sub_cancel]
  have whole : (stop + text.length == (text ++ more).length) = (stop == more.length) := by
    rw [Bool.eq_iff_iff, beq_iff_eq, beq_iff_eq, length_append]
    omega
  unfold asciiBoundary
  rw [right, whole, Bool.and_right_comm]
  congr 1
  cases start with
  | zero =>
    have left : (text ++ more)[0 + text.length - 1]? = if text = [] then more[0]? else
        text.getLast? := by
      split
      next empty => simp [empty]
      next given =>
        have positive := length_pos_iff.mpr given
        rw [List.getElem?_append_left (by omega), List.getLast?_eq_getElem?, Nat.zero_add]
    rw [left]
    cases text with
    | nil | cons byte rest => simp [endsClear]
  | succ start =>
    have left : (text ++ more)[start + 1 + text.length - 1]? = more[start]? := by
      rw [List.getElem?_append_right (by omega)]
      congr 1
      omega
    have notFirst : (start + 1 + text.length == 0) = false :=
      beq_eq_false_iff_ne.mpr (by omega)
    rw [left, notFirst]
    simp

/-! ### The candidates of both parts -/

theorem BuiltinEntity.candidates_append (entity : BuiltinEntity) (text more : GoString)
    (uncut : ∀ range ∈ entity.pattern.findAll (text ++ more),
      range.start < text.length → range.stop ≤ text.length) :
    entity.candidates (text ++ more) =
      (entity.candidates text).filter (keptBefore text more) ++
        ((entity.candidates more).filter (keptBehind text more)).map
          (shift text.length) := by
  unfold BuiltinEntity.candidates
  rw [Regex.findAll_append entity.pattern text more uncut]
  simp only [filter_append, map_append, filter_map, filter_filter, map_map]
  congr 1
  · congr 1
    apply filter_congr
    intro range listed
    obtain ⟨nonempty, within⟩ := Regex.findAll_bounded _ _ range listed
    dsimp only [Function.comp_apply, keptBefore]
    rw [slice_append_left text more within, asciiBoundary_before text more nonempty within]
    cases asciiBoundary text range.start range.stop with
    | false | true => simp
  · congr 1
    apply filter_congr
    intro range _
    dsimp only [Function.comp_apply, keptBehind, Range.shift]
    rw [slice_append_right, asciiBoundary_behind]
    cases asciiBoundary more range.start range.stop with
    | false | true => simp

theorem BuiltinEntity.priority_injective : Function.Injective BuiltinEntity.priority := by
  intro first second same
  cases first <;> cases second <;> first | rfl | cases same

theorem Candidate.key_injective : Function.Injective key := by
  intro first second same
  simp only [key, EmbeddingLike.apply_eq_iff_eq, Prod.mk.injEq] at same
  obtain ⟨starts, priorities, stops⟩ := same
  have entities := BuiltinEntity.priority_injective priorities
  cases first
  cases second
  simp only [mk.injEq]
  exact ⟨entities, starts, by dsimp only at stops; omega⟩

variable {first second : Candidate}

theorem Candidate.key_le_of_start_lt (below : first.start < second.start) :
    first.key ≤ second.key :=
  Prod.Lex.le_iff.mpr (Or.inl below)

theorem Candidate.key_shift_le (distance : Nat) (below : first.key ≤ second.key) :
    (first.shift distance).key ≤ (second.shift distance).key := by
  rcases Prod.Lex.le_iff.mp below with less | ⟨same, tie⟩
  · exact key_le_of_start_lt (Nat.add_lt_add_right less distance)
  · apply Prod.Lex.le_iff.mpr
    refine Or.inr ⟨congrArg (· + distance) same, ?_⟩
    rcases Prod.Lex.le_iff.mp tie with less | ⟨samePriority, stops⟩
    · exact Prod.Lex.le_iff.mpr (Or.inl less)
    · refine Prod.Lex.le_iff.mpr (Or.inr ⟨samePriority, ?_⟩)
      have ends : -(first.stop : ℤ) ≤ -(second.stop : ℤ) := stops
      show -((first.stop + distance : ℕ) : ℤ) ≤ -((second.stop + distance : ℕ) : ℤ)
      omega

theorem start_le_of_key_le {first second : Candidate} (below : first.key ≤ second.key) :
    first.start ≤ second.start := by
  rcases Prod.Lex.le_iff.mp below with less | ⟨same, _⟩
  · exact Nat.le_of_lt less
  · exact Nat.le_of_eq same

theorem sortedCandidates_ordered (entities : List GoString) (text : GoString) :
    Ordered start (sortedCandidates entities text) :=
  (sortByKey_sorted key _).imp start_le_of_key_le

/-- A match of an enabled pattern that passes its boundary and validity checks. -/
def Accepted (entities : List GoString) (text : GoString) (candidate : Candidate) : Prop :=
  candidate.entity ∈ enabled entities ∧
    ⟨candidate.start, candidate.stop⟩ ∈ candidate.entity.pattern.findAll text ∧
    asciiBoundary text candidate.start candidate.stop = true ∧
    candidate.entity.valid (slice text candidate.start candidate.stop) = true

variable {entities : List GoString} {candidate : Candidate}

theorem mem_sortedCandidates {text : GoString} :
    candidate ∈ sortedCandidates entities text ↔ Accepted entities text candidate := by
  rw [sortedCandidates, (sortByKey_perm _ _).mem_iff, mem_flatMap]
  constructor
  · rintro ⟨entity, requested, listed⟩
    obtain ⟨range, passed, rfl⟩ := mem_map.mp listed
    obtain ⟨found, checked⟩ := mem_filter.mp passed
    exact ⟨requested, found, Bool.and_eq_true_iff.mp checked⟩
  · rintro ⟨requested, found, checked⟩
    refine ⟨candidate.entity, requested, mem_map.mpr ⟨_, mem_filter.mpr ⟨found, ?_⟩, rfl⟩⟩
    exact Bool.and_eq_true_iff.mpr checked

theorem sortedCandidates_bounded {text : GoString}
    (listed : candidate ∈ sortedCandidates entities text) :
    candidate.start < candidate.stop ∧ candidate.stop ≤ text.length :=
  Regex.findAll_bounded _ _ _ (mem_sortedCandidates.mp listed).2.1

theorem sortedCandidates_append {text more : GoString} (uncut : Uncut entities text more) :
    sortedCandidates entities (text ++ more) =
      (sortedCandidates entities text).filter (keptBefore text more) ++
        ((sortedCandidates entities more).filter (keptBehind text more)).map
          (shift text.length) := by
  apply sortByKey_eq_of_perm key_injective
  · have parted : (enabled entities).flatMap (fun entity => entity.candidates (text ++ more)) =
        (enabled entities).flatMap fun entity =>
          (entity.candidates text).filter (keptBefore text more) ++
            ((entity.candidates more).filter (keptBehind text more)).map
              (shift text.length) := by
      apply flatMap_congr
      intro entity requested
      exact entity.candidates_append text more (uncut entity requested)
    rw [parted]
    refine List.Perm.trans ?_ (flatMap_append_perm _ _ _)
    rw [← filter_flatMap, ← map_flatMap, ← filter_flatMap]
    apply List.Perm.append
    · exact (sortByKey_perm _ _).filter _
    · exact ((sortByKey_perm _ _).filter _).map _
  · apply pairwise_append.mpr
    refine ⟨(sortByKey_sorted _ _).filter _, ?_, ?_⟩
    · rw [pairwise_map]
      apply ((sortByKey_sorted key _).filter _).imp
      intro first second below
      exact key_shift_le text.length below
    · intro first before second behind
      obtain ⟨original, kept, rfl⟩ := mem_map.mp behind
      have bounded := sortedCandidates_bounded (mem_filter.mp before).1
      apply key_le_of_start_lt
      show first.start < original.start + text.length
      omega

/-- Detection in two texts side by side, up to matches refused at the border. -/
theorem detected_append {text more : GoString} (uncut : Uncut entities text more) :
    detected entities (text ++ more) =
      select start stop 0
          ((sortedCandidates entities text).filter (keptBefore text more)) ++
        (select start stop 0
          ((sortedCandidates entities more).filter (keptBehind text more))).map
            (shift text.length) := by
  have behind : ∀ candidate ∈ ((sortedCandidates entities more).filter
      (keptBehind text more)).map (shift text.length),
      text.length ≤ candidate.start := by
    intro candidate listed
    obtain ⟨original, _, rfl⟩ := mem_map.mp listed
    exact Nat.le_add_left _ _
  rw [detected, sortedCandidates_append uncut,
    select_append (Nat.zero_le text.length) (fun candidate listed =>
      (sortedCandidates_bounded (mem_filter.mp listed).1).2) behind,
    ← select_map (fun _ => rfl) (fun _ => rfl) 0, Nat.zero_add, select_clear behind]

end SparkRoute.Pii
