import Mathlib.Data.List.Basic

/-!
# Runs of a deterministic transition function

An interleaving is a list of actions; every nondeterministic choice, including
clock readings and answers of the environment, is part of an action.
-/

namespace SparkRoute.Lib

variable {State Action : Type*} (step : State → Action → State)

def run (start : State) (actions : List Action) : State :=
  actions.foldl step start

variable (start : State)

@[simp]
theorem run_nil : run step start [] = start := rfl

@[simp]
theorem run_cons (action : Action) (actions : List Action) :
    run step start (action :: actions) = run step (step start action) actions := rfl

theorem run_append (first second : List Action) :
    run step start (first ++ second) = run step (run step start first) second := by
  simp [run]

theorem run_concat (actions : List Action) (action : Action) :
    run step start (actions ++ [action]) = step (run step start actions) action := by
  simp [run]

variable {step}

/-- Whatever holds at the start and survives every step holds along every run. -/
theorem run_invariant {invariant : State → Prop} {start : State} (initially : invariant start)
    (preserved : ∀ state action, invariant state → invariant (step state action))
    (actions : List Action) : invariant (run step start actions) := by
  induction actions generalizing start with
  | nil => exact initially
  | cons action actions ih =>
    exact ih (preserved start action initially)

/-- The same for runs whose actions are all allowed. -/
theorem run_invariant_of {allowed : Action → Prop} {invariant : State → Prop} {start : State}
    (initially : invariant start)
    (preserved : ∀ state action, allowed action → invariant state → invariant (step state action))
    {actions : List Action} (within : ∀ action ∈ actions, allowed action) :
    invariant (run step start actions) := by
  induction actions generalizing start with
  | nil => exact initially
  | cons action actions ih =>
    exact ih
      (preserved start action (within action List.mem_cons_self) initially)
      fun later listed => within later (List.mem_cons_of_mem _ listed)

/-- The same for runs whose actions are allowed in the states that they are taken in. -/
theorem run_invariant_along {allowed : State → Action → Prop} {invariant : State → Prop}
    {start : State} (initially : invariant start)
    (preserved : ∀ state action, allowed state action → invariant state →
      invariant (step state action))
    {actions : List Action} (within : ∀ before action after, actions = before ++ action :: after →
      allowed (run step start before) action) : invariant (run step start actions) := by
  induction actions generalizing start with
  | nil => exact initially
  | cons action actions ih =>
    refine ih (preserved start action (within [] action actions rfl) initially) ?_
    rintro before later after rfl
    exact within (action :: before) later after rfl

/-! ### What the actions say about one object -/

/-- An action opened the object, and later ones include `marks` in this order. -/
def Passed (opened : List Action → Action → Prop) (marks actions : List Action) : Prop :=
  ∃ before first after, actions = before ++ first :: after ∧ opened before first ∧
    marks.Sublist after

variable {opened : List Action → Action → Prop}

theorem Passed.of_concat {marks actions : List Action} {mark : Action}
    (passed : Passed opened (marks ++ [mark]) actions) : Passed opened marks actions := by
  obtain ⟨before, first, after, split, opening, listed⟩ := passed
  exact ⟨before, first, after, split, opening, (List.sublist_append_left _ _).trans listed⟩

theorem not_passed_nil (marks : List Action) : ¬ Passed opened marks [] := by
  rintro ⟨before, first, after, split, _⟩
  exact List.append_ne_nil_of_right_ne_nil before (List.cons_ne_nil first after) split.symm

theorem passed_nil_concat {actions : List Action} {last : Action} :
    Passed opened [] (actions ++ [last]) ↔ Passed opened [] actions ∨ opened actions last := by
  constructor
  · rintro ⟨before, first, after, split, opening, _⟩
    rcases after.eq_nil_or_concat with rfl | ⟨after, final, rfl⟩
    · obtain ⟨rfl, rfl⟩ := List.append_singleton_inj.mp split
      exact .inr opening
    · rw [List.concat_eq_append, ← List.cons_append, ← List.append_assoc] at split
      obtain ⟨rfl, rfl⟩ := List.append_singleton_inj.mp split
      exact .inl ⟨before, first, after, rfl, opening, List.nil_sublist _⟩
  · rintro (⟨before, first, after, rfl, opening, _⟩ | opening)
    · exact ⟨before, first, after ++ [last], by simp, opening, List.nil_sublist _⟩
    · exact ⟨actions, last, [], rfl, opening, .slnil⟩

theorem passed_concat_concat {marks actions : List Action} {mark last : Action} :
    Passed opened (marks ++ [mark]) (actions ++ [last]) ↔
      Passed opened (marks ++ [mark]) actions ∨ last = mark ∧ Passed opened marks actions := by
  constructor
  · rintro ⟨before, first, after, split, opening, listed⟩
    rcases after.eq_nil_or_concat with rfl | ⟨after, final, rfl⟩
    · exact absurd (List.sublist_nil.mp listed) (by simp)
    · rw [List.concat_eq_append, ← List.cons_append, ← List.append_assoc] at split
      obtain ⟨rfl, rfl⟩ := List.append_singleton_inj.mp split
      rw [List.concat_eq_append] at listed
      obtain ⟨front, back, parts, frontListed, backListed⟩ := List.sublist_append_iff.mp listed
      rcases List.sublist_singleton.mp backListed with rfl | rfl
      · rw [List.append_nil] at parts
        exact .inl ⟨before, first, after, rfl, opening, parts ▸ frontListed⟩
      · obtain ⟨rfl, rfl⟩ := List.append_singleton_inj.mp parts
        exact .inr ⟨rfl, before, first, after, rfl, opening, frontListed⟩
  · rintro (⟨before, first, after, rfl, opening, listed⟩ |
      ⟨rfl, before, first, after, rfl, opening, listed⟩)
    · exact ⟨before, first, after ++ [last], by simp, opening,
        listed.trans (List.sublist_append_left _ _)⟩
    · exact ⟨before, first, after ++ [last], by simp, opening, listed.append_right _⟩

end SparkRoute.Lib
