import Mathlib.Data.List.Forall2
import Mathlib.Data.List.Nodup

/-!
# Loops of checks

A validator is a loop in `Except` that stops at its first failed check.  These
rules turn an accepting run into facts about every element it visited.
-/

namespace SparkRoute.Lib

open List

universe u

variable {Element Result State Failure : Type u}

theorem ok_bind (value : Element) (rest : Element → Except Failure Result) :
    (Except.ok value >>= rest) = rest value := rfl

variable {result : Result}

theorem bind_eq_ok {first : Except Failure Element} {rest : Element → Except Failure Result} :
    (first >>= rest) = .ok result ↔
      ∃ value, first = .ok value ∧ rest value = .ok result := by
  cases first with
  | error failure | ok value => simp [bind, Except.bind]

variable {outcome : Except Failure Element}

theorem check_eq_ok {refused : Prop} [Decidable refused] {failure : Failure}
    {rest : Except Failure Result} :
    (if refused then .error failure else rest) = .ok result ↔ ¬ refused ∧ rest = .ok result := by
  split <;> simp [*]

theorem map_eq_ok {change : Element → Result} :
    outcome.map change = .ok result ↔ ∃ value, outcome = .ok value ∧ change value = result := by
  cases outcome with
  | error failure | ok value => simp [Except.map]

variable {elements : List Element}

theorem forM_eq_ok {check : Element → Except Failure PUnit.{u + 1}} :
    elements.forM check = .ok ⟨⟩ ↔ ∀ element ∈ elements, check element = .ok ⟨⟩ := by
  induction elements with
  | nil => simp [pure, Except.pure]
  | cons element rest ih =>
    change (check element >>= fun _ => rest.forM check) = .ok ⟨⟩ ↔ _
    rw [bind_eq_ok, forall_mem_cons, ← ih]
    constructor
    · rintro ⟨⟨⟩, first, others⟩
      exact ⟨first, others⟩
    · rintro ⟨first, others⟩
      exact ⟨⟨⟩, first, others⟩

def failureOf : Except Failure Element → Option Failure
  | .error message => some message
  | .ok _ => none

theorem failureOf_eq_none : failureOf outcome = none ↔ ∃ result, outcome = .ok result := by
  cases outcome with
  | error message | ok result => simp [failureOf]

theorem mapError_eq_ok {Reason : Type u} {result : Except Failure Element} {value : Element}
    {describe : Failure → Reason} : result.mapError describe = .ok value ↔ result = .ok value := by
  cases result with
  | error failure | ok found => simp [Except.mapError]

/-- An invariant over the visited elements of an accepting loop. -/
theorem foldlM_invariant {step : State → Element → Except Failure State}
    (invariant : List Element → State → Prop) (preserved : ∀ visited before element after,
      invariant visited before → step before element = .ok after →
        invariant (visited ++ [element]) after)
    {visited elements : List Element} {start finish : State} (initially : invariant visited start)
    (accepted : elements.foldlM step start = .ok finish) :
    invariant (visited ++ elements) finish := by
  induction elements generalizing visited start with
  | nil =>
    cases accepted
    simpa using initially
  | cons element rest ih =>
    rw [foldlM_cons, bind_eq_ok] at accepted
    obtain ⟨after, stepped, accepted⟩ := accepted
    have reached := ih
      (preserved visited start element after initially stepped) accepted
    simpa using reached

variable {results : List Result} {transform : Element → Except Failure Result}

theorem mapM_forall₂ (accepted : elements.mapM transform = .ok results) :
    List.Forall₂ (fun element result => transform element = .ok result) elements results := by
  induction elements generalizing results with
  | nil =>
    cases accepted
    exact .nil
  | cons element rest ih =>
    rw [mapM_cons, bind_eq_ok] at accepted
    obtain ⟨result, transformed, accepted⟩ := accepted
    rw [bind_eq_ok] at accepted
    obtain ⟨remaining, accepted, equality⟩ := accepted
    cases equality
    exact .cons transformed (ih accepted)

theorem mapM_of_forall₂
    (pairs : List.Forall₂ (fun element result => transform element = .ok result) elements results) :
    elements.mapM transform = .ok results := by
  induction pairs with
  | nil => rfl
  | cons pair _ ih =>
    rw [mapM_cons, bind_eq_ok]
    refine ⟨_, pair, ?_⟩
    rw [bind_eq_ok]
    exact ⟨_, ih, rfl⟩

theorem forall₂_comp {First Second Third : Type u} {left : First → Second → Prop}
    {right : Second → Third → Prop} {whole : First → Third → Prop}
    (compose : ∀ first second third, left first second → right second third → whole first third)
    {firsts : List First} {seconds : List Second} {thirds : List Third}
    (leftPairs : List.Forall₂ left firsts seconds)
    (rightPairs : List.Forall₂ right seconds thirds) : List.Forall₂ whole firsts thirds := by
  induction leftPairs generalizing thirds with
  | nil =>
    cases rightPairs
    exact .nil
  | cons pair _ ih =>
    cases rightPairs with
    | cons next remaining =>
      exact .cons (compose _ _ _ pair next) (ih remaining)

variable {related : Element → Result → Prop} {element : Element}

theorem forall₂_mem (pairs : List.Forall₂ related elements results) (mem : element ∈ elements) :
    ∃ result ∈ results, related element result := by
  induction pairs with
  | nil => cases mem
  | cons pair _ ih =>
    cases mem with
    | head => exact ⟨_, mem_cons_self, pair⟩
    | tail _ later =>
      obtain ⟨result, present, pair⟩ := ih later
      exact ⟨result, mem_cons_of_mem _ present, pair⟩

/-- Pairs that share an intermediate element share a list of them. -/
theorem forall₂_split {First Second Third : Type u} {whole : First → Third → Prop}
    {left : First → Second → Prop} {right : Second → Third → Prop}
    {firsts : List First} {thirds : List Third} (pairs : List.Forall₂ whole firsts thirds)
    (split : ∀ first ∈ firsts, ∀ third, whole first third →
      ∃ second, left first second ∧ right second third) :
    ∃ seconds, List.Forall₂ left firsts seconds ∧ List.Forall₂ right seconds thirds := by
  induction pairs with
  | nil => exact ⟨[], .nil, .nil⟩
  | cons pair _ ih =>
    obtain ⟨second, before, after⟩ := split _ mem_cons_self _ pair
    obtain ⟨seconds, lefts, rights⟩ := ih fun first listed =>
      split first (mem_cons_of_mem _ listed)
    exact ⟨second :: seconds, .cons before lefts, .cons after rights⟩

/-- Where keys are distinct, an element is the one that its key finds. -/
theorem find?_key {Key : Type*} [DecidableEq Key] {key : Element → Key}
    (distinct : (elements.map key).Nodup) (listed : element ∈ elements) :
    elements.find? (fun other => key other = key element) = some element := by
  cases found : elements.find? (fun other => key other = key element) with
  | none =>
    have absent := find?_eq_none.mp found element listed
    simp at absent
  | some other =>
    have same := find?_some found
    rw [decide_eq_true_eq] at same
    rw [inj_on_of_nodup_map distinct (mem_of_find?_eq_some found) listed same]

theorem find?_forall₂ {accepts : Element → Bool} {accepts' : Result → Bool}
    (lists : List.Forall₂ related elements results)
    (agree : ∀ element result, related element result → accepts element = accepts' result)
    (found : elements.find? accepts = some element) :
    ∃ result, results.find? accepts' = some result ∧ related element result := by
  induction lists with
  | nil => simp at found
  | @cons first second rest rest' pair pairs ih =>
    have same := agree first second pair
    cases accepted : accepts first with
    | true =>
      rw [List.find?_cons_of_pos accepted] at found
      cases found
      exact ⟨second, List.find?_cons_of_pos (same ▸ accepted), pair⟩
    | false =>
      rw [List.find?_cons_of_neg (by simp [accepted])] at found
      obtain ⟨result, found, pair⟩ := ih found
      refine ⟨result, ?_, pair⟩
      rw [List.find?_cons_of_neg (by simp [← same, accepted])]
      exact found

end SparkRoute.Lib
