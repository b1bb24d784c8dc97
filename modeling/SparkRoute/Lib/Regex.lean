import Mathlib.Data.List.Basic

/-!
# Backtracking regular expressions

`ends` lists the lengths of the matches at the front of a text in the order in which
a backtracking matcher tries them; the first one is the match.  `findAll` scans a text
for its successive matches and is used with expressions that match no empty text.

Whatever follows a text only adds ends beyond it (`ends_append`), so a scan can be
parted at a place that no match contains (`findAll_append`).
-/

namespace SparkRoute.Lib

open List

variable {Letter : Type}

inductive Regex (Letter : Type) where
  | empty
  | one (accepts : Letter → Bool)
  | seq (first second : Regex Letter)
  | alt (first second : Regex Letter)
  | star (body : Regex Letter)

namespace Regex

def optional (body : Regex Letter) : Regex Letter := alt body empty

def plus (body : Regex Letter) : Regex Letter := seq body (star body)

def times : Nat → Regex Letter → Regex Letter
  | 0, _ => empty
  | count + 1, body => seq body (times count body)

/-- As many copies as possible, at most `count`. -/
def upTo : Nat → Regex Letter → Regex Letter
  | 0, _ => empty
  | count + 1, body => optional (seq body (upTo count body))

def between (least most : Nat) (body : Regex Letter) : Regex Letter :=
  seq (times least body) (upTo (most - least) body)

def atLeast (least : Nat) (body : Regex Letter) : Regex Letter :=
  seq (times least body) (star body)

/-- Continues every length of `first` with the lengths of `next` behind it. -/
def chain (first : List Nat) (next : List Letter → List Nat) (text : List Letter) : List Nat :=
  first.flatMap fun length => (next (text.drop length)).map (length + ·)

def starEnds (body : List Letter → List Nat) : Nat → List Letter → List Nat
  | 0, _ => [0]
  | fuel + 1, text =>
    chain ((body text).filter (0 < ·)) (starEnds body fuel) text ++ [0]

def ends : Regex Letter → List Letter → List Nat
  | .empty, _ => [0]
  | .one _, [] => []
  | .one accepts, letter :: _ => if accepts letter then [1] else []
  | .seq first second, text => chain (ends first text) (ends second) text
  | .alt first second, text => ends first text ++ ends second text
  | .star body, text => starEnds (ends body) text.length text

/-- The letter classes of an expression. -/
def classes : Regex Letter → List (Letter → Bool)
  | .empty => []
  | .one accepts => [accepts]
  | .seq first second => classes first ++ classes second
  | .alt first second => classes first ++ classes second
  | .star body => classes body

def matchAt (regex : Regex Letter) (text : List Letter) : Option Nat :=
  (ends regex text).head?

structure Range where
  start : Nat
  stop : Nat
  deriving DecidableEq

open Range

def Range.shift (distance : Nat) (range : Range) : Range :=
  ⟨range.start + distance, range.stop + distance⟩

def findAllWith (regex : Regex Letter) : Nat → List Letter → List Range
  | 0, _ => []
  | _ + 1, [] => []
  | fuel + 1, letter :: rest =>
    match matchAt regex (letter :: rest) with
    | some (length + 1) =>
      ⟨0, length + 1⟩ ::
        (findAllWith regex fuel (rest.drop length)).map (shift (length + 1))
    | _ => (findAllWith regex fuel rest).map (shift 1)

def findAll (regex : Regex Letter) (text : List Letter) : List Range :=
  findAllWith regex text.length text

/-! ### Ends and what follows the text -/

/-- No end lies beyond the text. -/
def Bounded (lengths : List Letter → List Nat) : Prop :=
  ∀ text, ∀ length ∈ lengths text, length ≤ text.length

/-- What follows a text adds ends beyond it and changes no others. -/
def Extends (lengths : List Letter → List Nat) : Prop :=
  ∀ text more, lengths text = (lengths (text ++ more)).filter (· ≤ text.length)

theorem chain_cons (length : Nat) (first : List Nat) (next : List Letter → List Nat)
    (text : List Letter) :
    chain (length :: first) next text =
      (next (text.drop length)).map (length + ·) ++ chain first next text := rfl

variable {text : List Letter}

section

variable {P : List Letter → Nat → Prop} (zero : ∀ text, P text 0)
  (add : ∀ text first second, P text first → P (text.drop first) second →
    P text (first + second))

include add

theorem chain_rule {first : List Nat} {next : List Letter → List Nat}
    (firstHolds : ∀ length ∈ first, P text length)
    (nextHolds : ∀ text, ∀ length ∈ next text, P text length) :
    ∀ length ∈ chain first next text, P text length := by
  intro length mem
  obtain ⟨start, started, continued⟩ := mem_flatMap.mp mem
  obtain ⟨more, found, rfl⟩ := mem_map.mp continued
  exact add text start more (firstHolds start started) (nextHolds _ more found)

include zero

theorem starEnds_rule {body : List Letter → List Nat}
    (bodyHolds : ∀ text, ∀ length ∈ body text, P text length) (fuel : Nat) :
    ∀ text, ∀ length ∈ starEnds body fuel text, P text length := by
  induction fuel with
  | zero => exact fun text => forall_mem_singleton.mpr (zero text)
  | succ fuel ih =>
    intro text
    refine forall_mem_append.mpr ⟨?_, forall_mem_singleton.mpr (zero text)⟩
    apply chain_rule add _ ih
    intro start started
    exact bodyHolds text start (mem_filter.mp started).1

/-- What holds of no letters and of one letter of every class, and is kept by putting matches
side by side, holds of every match. -/
theorem ends_rule (regex : Regex Letter)
    (one : ∀ accepts ∈ regex.classes, ∀ letter rest, accepts letter = true → P (letter :: rest) 1) :
    ∀ text, ∀ length ∈ ends regex text, P text length := by
  induction regex with
  | empty => exact fun text => forall_mem_singleton.mpr (zero text)
  | one accepts =>
    intro text length mem
    cases text with
    | nil => cases mem
    | cons letter rest =>
      dsimp only [ends] at mem
      split at mem
      next accepted =>
        rw [mem_singleton.mp mem]
        exact one accepts mem_cons_self letter rest accepted
      next => cases mem
  | seq first second firstHolds secondHolds =>
    obtain ⟨one, other⟩ := forall_mem_append.mp one
    exact fun text => chain_rule add (firstHolds one text) (secondHolds other)
  | alt first second firstHolds secondHolds =>
    obtain ⟨one, other⟩ := forall_mem_append.mp one
    exact fun text => forall_mem_append.mpr ⟨firstHolds one text, secondHolds other text⟩
  | star body bodyHolds =>
    exact fun text => starEnds_rule zero add (bodyHolds one) text.length text

end

theorem ends_bounded (regex : Regex Letter) : Bounded (ends regex) := by
  apply ends_rule
  · exact fun text => Nat.zero_le _
  · intro text first second firstWithin within
    rw [length_drop] at within
    omega
  · intro accepts _ letter rest _
    exact Nat.succ_le_succ (Nat.zero_le _)

variable {body : List Letter → List Nat}

theorem starEnds_fuel (bodyBounded : Bounded body)
    (fuel other : Nat) (text : List Letter) (enough : text.length ≤ fuel)
    (otherEnough : text.length ≤ other) : starEnds body fuel text = starEnds body other text := by
  have exhausted : ∀ fuel, starEnds body fuel [] = [0] := by
    intro fuel
    cases fuel with
    | zero => rfl
    | succ fuel =>
      have nothing : (body []).filter (0 < ·) = [] := by
        rw [filter_eq_nil_iff]
        intro length mem
        have within := bodyBounded [] length mem
        simpa using within
      rw [starEnds, nothing]
      rfl
  induction fuel generalizing other text with
  | zero =>
    rw [length_eq_zero_iff.mp (Nat.le_zero.mp enough), exhausted, exhausted]
  | succ fuel ih =>
    cases text with
    | nil => rw [exhausted, exhausted]
    | cons letter rest =>
      cases other with
      | zero => cases otherEnough
      | succ other =>
        rw [starEnds, starEnds]
        congr 1
        apply flatMap_congr
        intro length mem
        have positive := of_decide_eq_true (mem_filter.mp mem).2
        rw [ih other]
        · rw [length_drop]
          omega
        · rw [length_drop]
          omega

theorem chain_extends {first : List Nat} {next : List Letter → List Nat}
    (nextExtends : Extends next) (text more : List Letter) :
    chain (first.filter (· ≤ text.length)) next text =
      (chain first next (text ++ more)).filter (· ≤ text.length) := by
  induction first with
  | nil => rfl
  | cons length first ih =>
    rw [chain_cons, filter_append, ← ih, filter_map]
    by_cases within : length ≤ text.length
    · have kept : (length :: first).filter (· ≤ text.length) =
          length :: first.filter (· ≤ text.length) := by
        simp [within]
      have same : ((fun total => decide (total ≤ text.length)) ∘ fun more => length + more) =
          fun more => decide (more ≤ (text.drop length).length) := by
        funext more
        rw [Function.comp_apply, decide_eq_decide, length_drop]
        omega
      rw [kept, chain_cons, drop_append_of_le_length within, same, ← nextExtends]
    · have dropped : (length :: first).filter (· ≤ text.length) =
          first.filter (· ≤ text.length) := by
        simp [within]
      have nothing : (next ((text ++ more).drop length)).filter
          ((fun total => decide (total ≤ text.length)) ∘ fun more => length + more) = [] := by
        rw [filter_eq_nil_iff]
        intro more _
        simp only [Function.comp_apply, decide_eq_true_eq]
        omega
      rw [dropped, nothing, map_nil, nil_append]

theorem starEnds_extends (bodyExtends : Extends body)
    (fuel : Nat) : Extends (starEnds body fuel) := by
  induction fuel with
  | zero =>
    intro text more
    simp [starEnds]
  | succ fuel ih =>
    intro text more
    rw [starEnds, starEnds, filter_append, bodyExtends text more,
      ← chain_extends ih, filter_filter, filter_filter]
    simp [Bool.and_comm]

theorem ends_extends (regex : Regex Letter) : Extends (ends regex) := by
  induction regex with
  | empty =>
    intro text more
    simp [ends]
  | one accepts =>
    intro text more
    cases text with
    | nil =>
      cases more with
      | nil => rfl
      | cons letter more =>
        simp only [nil_append, ends]
        split
        · rfl
        · rfl
    | cons letter rest =>
      simp only [cons_append, ends]
      split
      · simp
      · rfl
  | seq first second firstExtends secondExtends =>
    intro text more
    rw [ends, ends, firstExtends text more, chain_extends secondExtends]
  | alt first second firstExtends secondExtends =>
    intro text more
    rw [ends, ends, filter_append, ← firstExtends, ← secondExtends]
  | star body bodyExtends =>
    intro text more
    have enough : text.length ≤ (text ++ more).length := by
      rw [length_append]
      omega
    rw [ends, ends, ← starEnds_extends bodyExtends,
      starEnds_fuel (ends_bounded body) _ _ text (Nat.le_refl _) enough]

/-! ### Scans -/

variable {regex : Regex Letter} {length : Nat}

theorem matchAt_bounded (found : matchAt regex text = some length) : length ≤ text.length :=
  ends_bounded regex text length (mem_of_head? found)

variable {more : List Letter}

/-- A match that does not reach beyond the text does not depend on what follows. -/
theorem matchAt_append
    (within : ∀ length, matchAt regex (text ++ more) = some length → length ≤ text.length) :
    matchAt regex (text ++ more) = matchAt regex text := by
  have parted := ends_extends regex text more
  unfold matchAt at within ⊢
  cases listed : ends regex (text ++ more) with
  | nil =>
    rw [parted, listed]
    rfl
  | cons length rest =>
    rw [listed] at within parted
    have kept := decide_eq_true (within length rfl)
    rw [parted, filter_cons, kept]
    rfl

theorem findAllWith_fuel (regex : Regex Letter) (fuel other : Nat) (text : List Letter)
    (enough : text.length ≤ fuel) (otherEnough : text.length ≤ other) :
    findAllWith regex fuel text = findAllWith regex other text := by
  induction fuel generalizing other text with
  | zero =>
    rw [length_eq_zero_iff.mp (Nat.le_zero.mp enough)]
    cases other with
    | zero | succ other => rfl
  | succ fuel ih =>
    cases text with
    | nil =>
      cases other with
      | zero | succ other => rfl
    | cons letter rest =>
      cases other with
      | zero => cases otherEnough
      | succ other =>
        rw [length_cons] at enough otherEnough
        rw [findAllWith, findAllWith]
        split
        next length _ =>
          have shorter : (rest.drop length).length ≤ rest.length := by
            rw [length_drop]
            omega
          rw [ih other (rest.drop length) (by omega) (by omega)]
        next => rw [ih other rest (by omega) (by omega)]

theorem findAll_found (found : matchAt regex text = some (length + 1)) :
    findAll regex text = ⟨0, length + 1⟩ ::
      (findAll regex (text.drop (length + 1))).map (shift (length + 1)) := by
  cases text with
  | nil => exact absurd (matchAt_bounded found) (Nat.not_succ_le_zero _)
  | cons letter rest =>
    rw [findAll, length_cons, findAllWith, found]
    dsimp only
    rw [drop_succ_cons, findAll, findAllWith_fuel regex rest.length
      (rest.drop length).length (rest.drop length) (length_drop ▸ Nat.sub_le _ _)
      (Nat.le_refl _)]

variable {letter : Letter}

theorem findAll_skipped {rest : List Letter}
    (skipped : ∀ length, matchAt regex (letter :: rest) ≠ some (length + 1)) :
    findAll regex (letter :: rest) = (findAll regex rest).map (shift 1) := by
  rw [findAll, length_cons, findAllWith]
  split
  next length found => exact absurd found (skipped length)
  next => rfl

/-- The cases of a scan: its end, a match, and a letter at which none starts. -/
@[elab_as_elim]
theorem scan_induction {motive : List Letter → Prop} (regex : Regex Letter) (nil : motive [])
    (found : ∀ text length, matchAt regex text = some (length + 1) →
      motive (text.drop (length + 1)) → motive text)
    (skipped : ∀ letter rest, (∀ length, matchAt regex (letter :: rest) ≠ some (length + 1)) →
      motive rest → motive (letter :: rest)) (text : List Letter) : motive text := by
  induction size : text.length using Nat.strongRecOn generalizing text with
  | ind size ih =>
    by_cases matched : ∃ length, matchAt regex text = some (length + 1)
    · obtain ⟨length, here⟩ := matched
      apply found text length here
      have bounded := matchAt_bounded here
      exact ih _ (by rw [length_drop]; omega) _ rfl
    · cases text with
      | nil => exact nil
      | cons letter rest =>
        apply skipped letter rest (fun length here => matched ⟨length, here⟩)
        exact ih rest.length (size ▸ Nat.lt_succ_self _) rest rfl

theorem findAll_matched (regex : Regex Letter) (text : List Letter) :
    ∀ range ∈ findAll regex text, ∃ length, range.stop = range.start + (length + 1) ∧
      matchAt regex (text.drop range.start) = some (length + 1) := by
  induction text using scan_induction regex with
  | nil =>
    intro range mem
    cases mem
  | found text length here ih =>
    rw [findAll_found here, forall_mem_cons, forall_mem_map]
    refine ⟨⟨length, (Nat.zero_add _).symm, here⟩, fun range mem => ?_⟩
    obtain ⟨size, stop, later⟩ := ih range mem
    refine ⟨size, ?_, by rwa [drop_drop, Nat.add_comm] at later⟩
    dsimp only [shift]
    omega
  | skipped letter rest none ih =>
    rw [findAll_skipped none, forall_mem_map]
    intro range mem
    obtain ⟨size, stop, later⟩ := ih range mem
    refine ⟨size, ?_, later⟩
    dsimp only [shift]
    omega

theorem findAll_bounded (regex : Regex Letter) (text : List Letter) :
    ∀ range ∈ findAll regex text, range.start < range.stop ∧ range.stop ≤ text.length := by
  intro range mem
  obtain ⟨length, stop, matched⟩ := findAll_matched regex text range mem
  have within := matchAt_bounded matched
  rw [length_drop] at within
  omega

/-- A match has no letter that its expression has no class for. -/
theorem findAll_foreign {range : Range} (mem : range ∈ findAll regex text)
    (foreign : ∀ accepts ∈ regex.classes, accepts letter = false) {position : Nat}
    (above : range.start ≤ position) (below : position < range.stop) :
    text[position]? ≠ some letter := by
  obtain ⟨length, stop, matched⟩ := findAll_matched regex text range mem
  have without := @ends_rule _
    (fun text length => ∀ position < length, text[position]? ≠ some letter)
    (fun _ _ less => absurd less (Nat.not_lt_zero _)) (by
      intro text first second before behind position less
      by_cases inside : position < first
      · exact before position inside
      · have later := behind (position - first) (by omega)
        rwa [getElem?_drop, Nat.add_sub_cancel' (Nat.le_of_not_lt inside)] at later)
    regex (by
      rintro accepts listed other rest accepted position less same
      rw [Nat.lt_one_iff.mp less, getElem?_cons_zero, Option.some.injEq] at same
      rw [same, foreign accepts listed] at accepted
      cases accepted)
    _ _ (mem_of_head? matched) (position - range.start) (by omega)
  rwa [getElem?_drop, Nat.add_sub_cancel' above] at without

theorem letter_of_ends {first second : Regex Letter} {accepts : Letter → Bool}
    (mem : length ∈ ends (.seq first (.seq (.one accepts) second)) text) :
    ∃ letter ∈ text, accepts letter = true := by
  obtain ⟨start, _, continued⟩ := mem_flatMap.mp mem
  obtain ⟨more, found, rfl⟩ := mem_map.mp continued
  obtain ⟨next, one, _⟩ := mem_flatMap.mp found
  cases rest : text.drop start with
  | nil =>
    rw [rest] at one
    cases one
  | cons letter behind =>
    rw [rest, ends] at one
    split at one
    next accepted => exact ⟨letter, mem_of_mem_drop (rest ▸ mem_cons_self), accepted⟩
    next => cases one

variable {limit : Nat}

/-- Where no match that starts before `limit` reaches beyond the text, the front of a
scan does not depend on what follows. -/
theorem matchAt_uncut (positive : 0 < limit) (uncut : ∀ range ∈ findAll regex (text ++ more),
      range.start < limit → range.stop ≤ text.length) :
    matchAt regex (text ++ more) = matchAt regex text := by
  apply matchAt_append
  intro length found
  cases length with
  | zero => exact Nat.zero_le _
  | succ length =>
    rw [findAll_found found] at uncut
    exact uncut ⟨0, length + 1⟩ mem_cons_self positive

theorem findAll_append_found (positive : 0 < limit)
    (uncut : ∀ range ∈ findAll regex (text ++ more), range.start < limit → range.stop ≤ text.length)
    (here : matchAt regex text = some (length + 1)) :
    findAll regex (text ++ more) = ⟨0, length + 1⟩ ::
      (findAll regex (text.drop (length + 1) ++ more)).map (shift (length + 1)) := by
  have whole := matchAt_uncut positive uncut
  rw [here] at whole
  rw [findAll_found whole, drop_append_of_le_length (matchAt_bounded here)]

theorem findAll_append_skipped {rest : List Letter} (positive : 0 < limit)
    (uncut : ∀ range ∈ findAll regex (letter :: rest ++ more),
      range.start < limit → range.stop ≤ (letter :: rest).length)
    (none : ∀ length, matchAt regex (letter :: rest) ≠ some (length + 1)) :
    findAll regex (letter :: rest ++ more) =
      (findAll regex (rest ++ more)).map (shift 1) := by
  rw [← matchAt_uncut positive uncut] at none
  exact findAll_skipped none

/-- What is behind a part of the scan inherits that no match reaches beyond the text. -/
theorem uncut_behind {ranges behind : List Range} {limit stop distance : Nat}
    (listed : ∀ range ∈ behind, range.shift distance ∈ ranges)
    (uncut : ∀ range ∈ ranges, range.start < limit → range.stop ≤ stop) :
    ∀ range ∈ behind, range.start + distance < limit → range.stop + distance ≤ stop :=
  fun range mem => uncut (range.shift distance) (listed range mem)

/-- A scan is the scans of its parts when no match reaches across. -/
theorem findAll_append (regex : Regex Letter) (text more : List Letter)
    (uncut : ∀ range ∈ findAll regex (text ++ more),
      range.start < text.length → range.stop ≤ text.length) :
    findAll regex (text ++ more) =
      findAll regex text ++ (findAll regex more).map (shift text.length) := by
  induction text using scan_induction regex with
  | nil =>
    have same : shift 0 = id := rfl
    rw [nil_append, length_nil, same, map_id]
    rfl
  | found text length here ih =>
    have bounded := matchAt_bounded here
    have whole := findAll_append_found (by omega) uncut here
    have behind := ih (by
      intro range mem before
      have within := @uncut_behind _ _ _ _ (length + 1) (fun other listed => by
        rw [whole]
        exact mem_cons_of_mem _ (mem_map_of_mem listed)) uncut range mem
      rw [length_drop] at before ⊢
      omega)
    rw [whole, findAll_found here, behind, map_append, map_map, cons_append, length_drop]
    congr 3
    funext range
    simp only [Function.comp_apply, shift, Nat.add_assoc, Nat.sub_add_cancel bounded]
  | skipped letter rest none ih =>
    have whole := findAll_append_skipped (Nat.succ_pos rest.length) uncut none
    have behind := ih (by
      intro range mem before
      have within := @uncut_behind _ _ _ _ 1 (fun other listed => by
        rw [whole]
        exact mem_map_of_mem listed) uncut range mem
      rw [length_cons] at within
      omega)
    rw [whole, findAll_skipped none, behind, map_append, map_map, length_cons]
    congr 2

end Regex

end SparkRoute.Lib
