import Mathlib.Data.List.Basic

/-!
# Replacing delimited tokens

`replaceWith` replaces, from left to right, the first listed text that stands at each
place.  A delimited token opens and closes with a doubled delimiter that its body does
not contain.  Such tokens neither overlap each other nor start in the text before one, so
replacing takes back what was spliced in.
-/

namespace SparkRoute.Lib

open List

namespace Replace

variable {Letter : Type}

section

variable [DecidableEq Letter]

def replaceWith (pairs : List (List Letter × List Letter)) : Nat → List Letter → List Letter
  | 0, _ => []
  | _ + 1, [] => []
  | fuel + 1, letter :: rest =>
    match pairs.find? fun pair => pair.1.isPrefixOf (letter :: rest) with
    | some pair => pair.2 ++ replaceWith pairs fuel ((letter :: rest).drop pair.1.length)
    | none => letter :: replaceWith pairs fuel rest

def replace (pairs : List (List Letter × List Letter)) (text : List Letter) : List Letter :=
  replaceWith pairs text.length text

def Proper (pairs : List (List Letter × List Letter)) : Prop :=
  ∀ pair ∈ pairs, pair.1 ≠ []

/-- None of the listed texts stands at the front. -/
def Absent (pairs : List (List Letter × List Letter)) (text : List Letter) : Prop :=
  ∀ pair ∈ pairs, ¬ pair.1 <+: text

variable {pairs : List (List Letter × List Letter)}

theorem replaceWith_fuel (proper : Proper pairs) (fuel other : Nat) (text : List Letter)
    (enough : text.length ≤ fuel) (otherEnough : text.length ≤ other) :
    replaceWith pairs fuel text = replaceWith pairs other text := by
  induction fuel generalizing other text with
  | zero =>
    rw [length_eq_zero_iff.mp (Nat.le_zero.mp enough)]
    cases other with
    | zero | succ other => rfl
  | succ fuel ih =>
    cases text with
    | nil =>
      cases other with
      | zero | succ other => rfl
    | cons letter rest =>
      cases other with
      | zero => cases otherEnough
      | succ other =>
        rw [length_cons] at enough otherEnough
        rw [replaceWith, replaceWith]
        split
        next pair found =>
          have positive : 0 < pair.1.length :=
            length_pos_iff.mpr (proper pair (mem_of_find?_eq_some found))
          have shorter : ((letter :: rest).drop pair.1.length).length ≤ rest.length := by
            rw [length_drop, length_cons]
            omega
          rw [ih other _ (by omega) (by omega)]
        next => rw [ih other rest (by omega) (by omega)]

theorem replace_absent {letter : Letter}
    {rest : List Letter} (absent : Absent pairs (letter :: rest)) :
    replace pairs (letter :: rest) = letter :: replace pairs rest := by
  have missed : (pairs.find? fun pair => pair.1.isPrefixOf (letter :: rest)) = none := by
    rw [List.find?_eq_none]
    intro pair listed
    rw [ isPrefixOf_iff_prefix]
    exact absent pair listed
  rw [replace, length_cons, replaceWith, missed]
  rfl

theorem replace_append_absent {pairs : List (List Letter × List Letter)} {copied rest : List Letter}
    (absent : ∀ start, start <:+ copied → start ≠ [] → Absent pairs (start ++ rest)) :
    replace pairs (copied ++ rest) = copied ++ replace pairs rest := by
  induction copied with
  | nil => rfl
  | cons letter copied ih =>
    have first : Absent pairs (letter :: (copied ++ rest)) :=
      absent _ (suffix_refl _) (cons_ne_nil _ _)
    have later := ih fun start suffix =>
      absent start (suffix.trans (suffix_cons letter copied))
    rw [cons_append, replace_absent first, later, cons_append]

theorem replace_found (proper : Proper pairs)
    {pair : List Letter × List Letter} (listed : pair ∈ pairs) {rest : List Letter}
    (alone : ∀ other ∈ pairs, other.1 <+: pair.1 ++ rest → other = pair) :
    replace pairs (pair.1 ++ rest) = pair.2 ++ replace pairs rest := by
  have found : (pairs.find? fun other => other.1.isPrefixOf (pair.1 ++ rest)) = some pair := by
    cases outcome : pairs.find? fun other => other.1.isPrefixOf (pair.1 ++ rest) with
    | none =>
      have missed := List.find?_eq_none.mp outcome pair listed
      rw [ isPrefixOf_iff_prefix] at missed
      exact absurd (prefix_append _ _) missed
    | some other =>
      have standing := List.find?_some outcome
      rw [ isPrefixOf_iff_prefix] at standing
      rw [alone other (mem_of_find?_eq_some outcome) standing]
  have nonempty := proper pair listed
  cases whole : pair.1 ++ rest with
  | nil => exact absurd (append_eq_nil_iff.mp whole).1 nonempty
  | cons letter tail =>
    rw [whole] at found
    have length := congrArg List.length whole
    have positive := length_pos_iff.mpr nonempty
    rw [length_append, length_cons] at length
    rw [replace, length_cons, replaceWith, found]
    dsimp only
    rw [← whole, drop_left,
      replaceWith_fuel proper tail.length rest.length rest (by omega) (Nat.le_refl _)]
    rfl

end

/-! ### Delimited tokens -/

structure Delimited (opening closing : Letter) (token : List Letter) : Prop where
  parts : ∃ body, token = opening :: opening :: (body ++ [closing, closing]) ∧ body ≠ [] ∧
    opening ∉ body ∧ closing ∉ body

variable {opening closing : Letter}

/-- A token that stands where another starts is that token. -/
theorem Delimited.eq_of_prefix [DecidableEq Letter] {token other rest : List Letter}
    (delimited : Delimited opening closing token) (otherDelimited : Delimited opening closing other)
    (standing : other <+: token ++ rest) : other = token := by
  obtain ⟨body, rfl, _, _, plain⟩ := delimited.parts
  obtain ⟨otherBody, rfl, _, _, otherPlain⟩ := otherDelimited.parts
  obtain ⟨tail, whole⟩ := standing
  simp only [cons_append, append_assoc, List.cons.injEq, true_and, nil_append] at whole
  have upToClosing : ∀ (body rest : List Letter), closing ∉ body →
      (body ++ closing :: rest).takeWhile (· ≠ closing) = body := by
    intro body rest plain
    rw [takeWhile_append_of_pos]
    · simp
    · intro letter listed
      simpa using fun same : letter = closing => plain (same ▸ listed)
  have left := upToClosing otherBody (closing :: tail) otherPlain
  rw [whole, upToClosing body (closing :: rest) plain] at left
  rw [left]

/-- No token starts in the text before another and reaches into it. -/
theorem Delimited.not_straddling (different : opening ≠ closing)
    {token other start rest : List Letter} (delimited : Delimited opening closing token)
    (otherDelimited : Delimited opening closing other) (nonempty : start ≠ [])
    (standing : other <+: start ++ (token ++ rest)) : other <+: start := by
  obtain ⟨body, rfl, _⟩ := delimited.parts
  obtain ⟨otherBody, rfl, otherNonempty, unopened, _⟩ := otherDelimited.parts
  rcases prefix_or_prefix_of_prefix standing (prefix_append start _) with
    inside | ⟨reaching, whole⟩
  · exact inside
  · rw [← whole, prefix_append_right_inj] at standing
    cases reaching with
    | nil =>
      rw [append_nil] at whole
      exact whole ▸ prefix_refl _
    | cons first reaching =>
      have opens : first = opening := (cons_prefix_cons.mp standing).1
      match start, nonempty with
      | [_], _ =>
        obtain ⟨_, _, same⟩ := List.cons.inj whole |>.imp id List.cons.inj
        obtain ⟨letter, otherBody, rfl⟩ := exists_cons_of_ne_nil otherNonempty
        rw [same] at standing
        have second := (cons_prefix_cons.mp (cons_prefix_cons.mp standing).2).1
        exact absurd (second ▸ mem_cons_self) unopened
      | _ :: _ :: more, _ =>
        have same := (List.cons.inj (List.cons.inj whole).2).2
        have listed : opening ∈ otherBody ++ [closing, closing] := by
          rw [← same, opens]
          exact mem_append_right _ mem_cons_self
        rcases mem_append.mp listed with within | closes
        · exact absurd within unopened
        · exact absurd (by simpa using closes) different

end Replace

end SparkRoute.Lib
