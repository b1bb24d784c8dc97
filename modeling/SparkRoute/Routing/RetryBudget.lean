import Mathlib.Algebra.Order.Floor.Ring
import Mathlib.Data.List.Induction
import Mathlib.Data.Rat.Floor
import SparkRoute.Lib.Run
import SparkRoute.Lib.Tally

/-!
# Retry budgets

Requests and leases of one manager share the counters of their virtual model.  `End` and
`Release` first mark their object and then take the manager's lock, so each of them is two steps;
a request's own lock keeps `TryAcquireRetry` out in between.
-/

namespace SparkRoute.Routing

open SparkRoute.Lib List

/-- `Ratio` is the rational that the float64 stands for. -/
structure EffectiveRetryBudgetPolicy where
  disabled : Bool := false
  ratio : ℚ
  minConcurrency : Int
  deriving DecidableEq

structure RetryBudgetState where
  activeRequests : Nat := 0
  activeRetries : Nat := 0
  deriving DecidableEq

inductive Phase where
  | active
  | closing
  | closed
  deriving DecidableEq

structure RetryBudgetRequest where
  virtualModel : String
  policy : EffectiveRetryBudgetPolicy
  phase : Phase := .active

structure RetryBudgetLease where
  virtualModel : String
  phase : Phase := .active

structure RetryBudgetManager where
  models : String → RetryBudgetState := fun _ => {}
  requests : List RetryBudgetRequest := []
  leases : List RetryBudgetLease := []

inductive BudgetAction where
  | beginRequest (virtualModel : String) (policy : EffectiveRetryBudgetPolicy)
  | tryAcquireRetry (request : Nat)
  | endMarks (request : Nat)
  | endCounts (request : Nat)
  | releaseMarks (lease : Nat)
  | releaseCounts (lease : Nat)
  deriving DecidableEq

/-- `round` is the rounding of float64 conversions and products. -/
def allowedRetryConcurrency (round : ℚ → ℚ) (activeRequests : Nat)
    (policy : EffectiveRetryBudgetPolicy) : Int :=
  let allowed := ⌈round (round activeRequests * policy.ratio)⌉
  if allowed < policy.minConcurrency then policy.minConcurrency else allowed

/-- The guarded decrement of `End` and `Release`. -/
def decrement (active : Nat) : Nat :=
  if 0 < active then active - 1 else active

theorem decrement_eq (active : Nat) : decrement active = active - 1 := by
  unfold decrement
  split <;> omega

namespace RetryBudgetManager

/-- The counters after a change to those of one virtual model. -/
def counted (manager : RetryBudgetManager) (virtualModel : String)
    (change : RetryBudgetState → RetryBudgetState) : String → RetryBudgetState :=
  Function.update manager.models virtualModel (change (manager.models virtualModel))

def step (round : ℚ → ℚ) (manager : RetryBudgetManager) : BudgetAction → RetryBudgetManager
  | .beginRequest virtualModel policy =>
    { manager with
      models := manager.counted virtualModel fun state =>
        { state with activeRequests := state.activeRequests + 1 }
      requests := manager.requests ++ [{ virtualModel, policy }] }
  | .tryAcquireRetry index =>
    match manager.requests[index]? with
    | none => manager
    | some request =>
      let state := manager.models request.virtualModel
      if request.phase ≠ .active then
        manager
      else if ¬request.policy.disabled ∧
          allowedRetryConcurrency round state.activeRequests request.policy ≤
            state.activeRetries then
        manager
      else
        { manager with
          models := manager.counted request.virtualModel fun state =>
            { state with activeRetries := state.activeRetries + 1 }
          leases := manager.leases ++ [{ virtualModel := request.virtualModel }] }
  | .endMarks index =>
    match manager.requests[index]? with
    | some request@{ phase := .active, .. } =>
      { manager with requests := manager.requests.set index { request with phase := .closing } }
    | _ => manager
  | .endCounts index =>
    match manager.requests[index]? with
    | some request@{ phase := .closing, .. } =>
      { manager with
        models := manager.counted request.virtualModel fun state =>
          { state with activeRequests := decrement state.activeRequests }
        requests := manager.requests.set index { request with phase := .closed } }
    | _ => manager
  | .releaseMarks index =>
    match manager.leases[index]? with
    | some lease@{ phase := .active, .. } =>
      { manager with leases := manager.leases.set index { lease with phase := .closing } }
    | _ => manager
  | .releaseCounts index =>
    match manager.leases[index]? with
    | some lease@{ phase := .closing, .. } =>
      { manager with
        models := manager.counted lease.virtualModel fun state =>
          { state with activeRetries := decrement state.activeRetries }
        leases := manager.leases.set index { lease with phase := .closed } }
    | _ => manager

end RetryBudgetManager

/-- The virtual model whose counters an action may touch. -/
def BudgetAction.virtualModel (manager : RetryBudgetManager) : BudgetAction → Option String
  | .beginRequest virtualModel _ => some virtualModel
  | .tryAcquireRetry index | .endMarks index | .endCounts index =>
    manager.requests[index]?.map (·.virtualModel)
  | .releaseMarks index | .releaseCounts index => manager.leases[index]?.map (·.virtualModel)

def BudgetAction.begun : BudgetAction → Option (String × EffectiveRetryBudgetPolicy)
  | .beginRequest virtualModel policy => some (virtualModel, policy)
  | _ => none

/-! ### Requests and leases of a history -/

/-- Where an object is after an action, if its closing takes the actions `marks` and `counts`. -/
def Phase.after (marks counts action : BudgetAction) : Phase → Phase
  | .active => if action = marks then .closing else .active
  | .closing => if action = counts then .closed else .closing
  | .closed => .closed

/-- What a history says about an object's phase. -/
@[mk_iff]
structure PhaseOf (opened : List BudgetAction → BudgetAction → Prop) (marks counts : BudgetAction)
    (actions : List BudgetAction) (phase : Option Phase) : Prop where
  missing : phase = none ↔ ¬ Passed opened [] actions
  active : phase = some .active ↔ Passed opened [] actions ∧ ¬ Passed opened [marks] actions
  closed : phase = some .closed ↔ Passed opened [marks, counts] actions

theorem phase_of_history (phaseAt : List BudgetAction → Option Phase)
    {opened : List BudgetAction → BudgetAction → Prop} {marks counts : BudgetAction}
    (start : phaseAt [] = none)
    (unopened : ∀ actions last, phaseAt actions = none →
      phaseAt (actions ++ [last]) = none ∧ ¬ opened actions last ∨
        phaseAt (actions ++ [last]) = some .active ∧ opened actions last)
    (later : ∀ actions last phase, phaseAt actions = some phase →
      phaseAt (actions ++ [last]) = some (phase.after marks counts last))
    (actions : List BudgetAction) :
    PhaseOf opened marks counts actions (phaseAt actions) := by
  induction actions using List.reverseRecOn with
  | nil => simp [phaseOf_iff, start, not_passed_nil]
  | append_singleton actions last ih =>
    have fewer : Passed opened [marks, counts] actions → Passed opened [marks] actions :=
      @Passed.of_concat _ _ [marks] actions counts
    have fewest : Passed opened [marks] actions → Passed opened [] actions :=
      @Passed.of_concat _ _ [] actions marks
    have opens := @passed_nil_concat _ opened actions last
    have marked := @passed_concat_concat _ opened [] actions marks last
    have counted := @passed_concat_concat _ opened [marks] actions counts last
    simp only [nil_append, singleton_append] at marked counted
    rw [phaseOf_iff] at ih ⊢
    obtain ⟨missing, active, closed⟩ := ih
    rw [opens, marked, counted]
    generalize Passed opened [] actions = begun, Passed opened [marks] actions = ending,
      Passed opened [marks, counts] actions = ended at *
    cases phase : phaseAt actions with
    | none =>
      simp only [phase] at missing active closed
      rcases unopened actions last phase with ⟨next, opening⟩ | ⟨next, opening⟩ <;>
        simp [next, opening] at * <;> tauto
    | some place =>
      simp only [phase] at missing active closed
      rw [later actions last place phase]
      cases place with
      | active | closing =>
        simp only [Phase.after]
        split <;> simp_all
      | closed =>
        simp [Phase.after] at *
        tauto

namespace RetryBudgetManager

/-! ### The counters of every state -/

def openRequests (manager : RetryBudgetManager) (name : String) : Nat :=
  manager.requests.countP fun request => request.virtualModel = name ∧ request.phase ≠ .closed

def openLeases (manager : RetryBudgetManager) (name : String) : Nat :=
  manager.leases.countP fun lease => lease.virtualModel = name ∧ lease.phase ≠ .closed

def Accounts (manager : RetryBudgetManager) : Prop :=
  ∀ name, manager.models name = ⟨manager.openRequests name, manager.openLeases name⟩

variable {round : ℚ → ℚ} {manager : RetryBudgetManager}

theorem counted_of_ne {virtualModel name : String} (other : virtualModel ≠ name)
    (change : RetryBudgetState → RetryBudgetState) :
    manager.counted virtualModel change name = manager.models name :=
  Function.update_of_ne other.symm _ _

theorem step_accounts (action : BudgetAction) (accounts : manager.Accounts) :
    (manager.step round action).Accounts := by
  intro name
  have holds := accounts name
  simp only [openRequests, openLeases] at holds ⊢
  fun_cases step round manager action with
  | case1 virtualModel policy =>
    by_cases same : virtualModel = name
    · simp [counted, same, holds]
    · simp [counted_of_ne, same, holds]
  | case5 index request found state active allowed =>
    by_cases same : request.virtualModel = name
    · simp [counted, same, holds]
    · simp [counted_of_ne, same, holds]
  | case6 index virtualModel policy found =>
    simp only [holds, RetryBudgetState.mk.injEq, and_true]
    exact (countP_set_of_eq _ found _ (by simp)).symm
  | case8 index virtualModel policy found =>
    have moved := countP_set
      (fun request => decide (request.virtualModel = name ∧ request.phase ≠ .closed)) found
      ⟨virtualModel, policy, .closed⟩
    by_cases same : virtualModel = name
    · subst same
      simp [counted, decrement_eq, holds] at moved ⊢
      omega
    · simp [counted_of_ne, same, holds] at moved ⊢
      omega
  | case10 index virtualModel found =>
    simp only [holds, RetryBudgetState.mk.injEq, true_and]
    exact (countP_set_of_eq _ found _ (by simp)).symm
  | case12 index virtualModel found =>
    have moved := countP_set
      (fun lease => decide (lease.virtualModel = name ∧ lease.phase ≠ .closed)) found
      ⟨virtualModel, .closed⟩
    by_cases same : virtualModel = name
    · subst same
      simp [counted, decrement_eq, holds] at moved ⊢
      omega
    · simp [counted_of_ne, same, holds] at moved ⊢
      omega
  | _ => exact holds

/-- The virtual model of the lease that a call of `TryAcquireRetry` returns. -/
def granted (round : ℚ → ℚ) (manager : RetryBudgetManager) : BudgetAction → Option String
  | .tryAcquireRetry index =>
    match manager.requests[index]? with
    | none => none
    | some request =>
      let state := manager.models request.virtualModel
      if request.phase = .active ∧ (request.policy.disabled ∨
          state.activeRetries < allowedRetryConcurrency round state.activeRequests request.policy)
      then some request.virtualModel
      else none
  | _ => none

theorem step_request {index : Nat} {request : RetryBudgetRequest}
    (found : manager.requests[index]? = some request) (action : BudgetAction) :
    (manager.step round action).requests[index]? = some
      { request with
        phase := request.phase.after (.endMarks index) (.endCounts index) action } := by
  have inside := (List.getElem?_eq_some_iff.mp found).1
  fun_cases step round manager action <;> cases request with
  | mk virtualModel policy phase => cases phase <;> grind [Phase.after]

theorem set_map_eq_self {Cell Key : Type} (key : Cell → Key) {cells : List Cell} {index : Nat}
    {old new : Cell} (found : cells[index]? = some old) (same : key new = key old) :
    (cells.set index new).map key = cells.map key := by
  obtain ⟨inside, rfl⟩ := List.getElem?_eq_some_iff.mp found
  rw [map_set, same, ← @getElem_map _ _ key _ _ (by simpa using inside), set_getElem_self]

theorem step_requests (action : BudgetAction) :
    (manager.step round action).requests.map
        (fun request => (request.virtualModel, request.policy)) =
      manager.requests.map (fun request => (request.virtualModel, request.policy)) ++
        action.begun.toList := by
  fun_cases step round manager action with
  | case1 => simp [BudgetAction.begun]
  | case6 index virtualModel policy found | case8 index virtualModel policy found =>
    exact (set_map_eq_self _ found (by rfl)).trans (append_nil _).symm
  | _ => simp [BudgetAction.begun]

theorem step_lease {index : Nat} {lease : RetryBudgetLease}
    (found : manager.leases[index]? = some lease) (action : BudgetAction) :
    (manager.step round action).leases[index]? = some
      { lease with
        phase := lease.phase.after (.releaseMarks index) (.releaseCounts index) action } := by
  have inside := (List.getElem?_eq_some_iff.mp found).1
  fun_cases step round manager action <;> cases lease with
  | mk virtualModel phase => cases phase <;> grind [Phase.after]

theorem step_leases (action : BudgetAction) :
    (manager.step round action).leases.map RetryBudgetLease.virtualModel =
      manager.leases.map RetryBudgetLease.virtualModel ++
        (manager.granted round action).toList := by
  fun_cases step round manager action with
  | case10 index virtualModel found | case12 index virtualModel found =>
    exact (set_map_eq_self _ found (by rfl)).trans (append_nil _).symm
  | case2 index missing => simp [granted, missing]
  | case3 index request found ended => simp [granted, found, ended]
  | case4 index request found state active full =>
    have refused : manager.granted round (.tryAcquireRetry index) = none := by
      simp only [granted, found]
      exact if_neg fun allowed => by grind
    rw [refused, Option.toList_none, append_nil]
  | case5 index request found state active free =>
    have allowed : manager.granted round (.tryAcquireRetry index) = some request.virtualModel := by
      simp only [granted, found]
      exact if_pos (by grind)
    rw [allowed, map_append]
    rfl
  | _ => simp [granted]

theorem step_request_new {index : Nat} (missing : manager.requests[index]? = none)
    (action : BudgetAction) :
    (manager.step round action).requests[index]?.map (·.phase) = none ∧
        ¬ (action.begun.isSome ∧ manager.requests.length = index) ∨
      (manager.step round action).requests[index]?.map (·.phase) = some .active ∧
        action.begun.isSome ∧ manager.requests.length = index := by
  fun_cases step round manager action <;> grind [BudgetAction.begun]

theorem step_lease_new {index : Nat} (missing : manager.leases[index]? = none)
    (action : BudgetAction) :
    (manager.step round action).leases[index]?.map (·.phase) = none ∧
        ¬ ((manager.granted round action).isSome ∧ manager.leases.length = index) ∨
      (manager.step round action).leases[index]?.map (·.phase) = some .active ∧
        (manager.granted round action).isSome ∧ manager.leases.length = index := by
  fun_cases step round manager action <;> grind [granted]

/-- The virtual models of the leases that the actions acquire. -/
def acquired (round : ℚ → ℚ) : RetryBudgetManager → List BudgetAction → List String
  | _, [] => []
  | manager, action :: actions =>
    (manager.granted round action).toList ++ acquired round (manager.step round action) actions

theorem acquired_concat (actions : List BudgetAction) (last : BudgetAction) :
    acquired round manager (actions ++ [last]) = acquired round manager actions ++
      ((run (step round) manager actions).granted round last).toList := by
  induction actions generalizing manager with
  | nil => simp [acquired]
  | cons action actions ih => simp [acquired, ih]

theorem run_requests (actions : List BudgetAction) :
    (run (step round) {} actions).requests.map
      (fun request => (request.virtualModel, request.policy)) =
        actions.filterMap BudgetAction.begun := by
  induction actions using List.reverseRecOn with
  | nil => rfl
  | append_singleton actions last ih =>
    rw [run_concat, step_requests, ih, filterMap_append]
    cases last <;> rfl

theorem run_leases (actions : List BudgetAction) :
    (run (step round) {} actions).leases.map RetryBudgetLease.virtualModel =
      acquired round {} actions := by
  induction actions using List.reverseRecOn with
  | nil => rfl
  | append_singleton actions last ih => rw [run_concat, step_leases, ih, acquired_concat]

def Begins (index : Nat) (before : List BudgetAction) (first : BudgetAction) : Prop :=
  first.begun.isSome ∧ (before.filterMap BudgetAction.begun).length = index

def Acquires (round : ℚ → ℚ) (index : Nat) (before : List BudgetAction) (first : BudgetAction) :
    Prop :=
  ((run (step round) {} before).granted round first).isSome ∧
    (acquired round {} before).length = index

def Ended (actions : List BudgetAction) (index : Nat) : Prop :=
  Passed (Begins index) [.endMarks index, .endCounts index] actions

def Released (round : ℚ → ℚ) (actions : List BudgetAction) (index : Nat) : Prop :=
  Passed (Acquires round index) [.releaseMarks index, .releaseCounts index] actions

open Classical in
/-- The number of requests that the actions begin and do not end. -/
noncomputable def unended (actions : List BudgetAction) (name : String) : Nat :=
  (actions.filterMap BudgetAction.begun).zipIdx.countP fun begun =>
    begun.1.1 = name ∧ ¬ Ended actions begun.2

open Classical in
/-- The number of leases that the actions acquire and do not release. -/
noncomputable def unreleased (round : ℚ → ℚ) (actions : List BudgetAction) (name : String) :
    Nat :=
  (acquired round {} actions).zipIdx.countP fun lease =>
    lease.1 = name ∧ ¬ Released round actions lease.2

theorem request_phase (round : ℚ → ℚ) (index : Nat) (actions : List BudgetAction) :
    PhaseOf (Begins index) (.endMarks index) (.endCounts index) actions
      ((run (step round) {} actions).requests[index]?.map (·.phase)) := by
  refine phase_of_history
    (fun actions => (run (step round) {} actions).requests[index]?.map (·.phase)) rfl ?_ ?_ actions
  · intro actions last missing
    have new := @step_request_new round _ _ (Option.map_eq_none_iff.mp missing) last
    rw [← length_map, run_requests] at new
    simpa only [run_concat, Begins] using new
  · intro actions last phase present
    obtain ⟨request, found, rfl⟩ := Option.map_eq_some_iff.mp present
    simp only [run_concat, step_request found, Option.map_some]

theorem lease_phase (round : ℚ → ℚ) (index : Nat) (actions : List BudgetAction) :
    PhaseOf (Acquires round index) (.releaseMarks index) (.releaseCounts index) actions
      ((run (step round) {} actions).leases[index]?.map (·.phase)) := by
  refine phase_of_history
    (fun actions => (run (step round) {} actions).leases[index]?.map (·.phase)) rfl ?_ ?_ actions
  · intro actions last missing
    have new := @step_lease_new round _ _ (Option.map_eq_none_iff.mp missing) last
    rw [← length_map, run_leases] at new
    simpa only [run_concat, Acquires] using new
  · intro actions last phase present
    obtain ⟨lease, found, rfl⟩ := Option.map_eq_some_iff.mp present
    simp only [run_concat, step_lease found, Option.map_some]

theorem countP_zipIdx {Cell Key : Type} (key : Cell → Key) {cells : List Cell}
    {keep : Cell → Bool} {kept : Key × Nat → Bool}
    (same : ∀ (index : Nat) cell, cells[index]? = some cell → keep cell = kept (key cell, index)) :
    cells.countP keep = (cells.map key).zipIdx.countP kept := by
  rw [zipIdx_map, countP_map]
  conv_lhs => rw [← zipIdx_map_fst 0 cells, countP_map]
  refine countP_congr fun place listed => ?_
  rw [Function.comp_apply, same _ _ (mem_zipIdx_iff_getElem?.mp listed)]
  rfl

theorem openRequests_eq (actions : List BudgetAction) (name : String) :
    (run (step round) {} actions).openRequests name = unended actions name := by
  classical
  rw [unended, ← @run_requests round]
  refine countP_zipIdx _ fun index request found => ?_
  have ended := (request_phase round index actions).closed
  simp only [found, Option.map_some, Option.some.injEq] at ended
  exact decide_eq_decide.mpr (by rw [ne_eq, ended]; rfl)

theorem openLeases_eq (actions : List BudgetAction) (name : String) :
    (run (step round) {} actions).openLeases name = unreleased round actions name := by
  classical
  rw [unreleased, ← run_leases]
  refine countP_zipIdx _ fun index lease found => ?_
  have ended := (lease_phase round index actions).closed
  simp only [found, Option.map_some, Option.some.injEq] at ended
  exact decide_eq_decide.mpr (by rw [ne_eq, ended]; rfl)

/-- What the rounded product allows, up to the integers that float64 holds exactly. -/
theorem allowed_le (monotone : Monotone round)
    (exact : ∀ whole : ℕ, whole ≤ 2 ^ 53 → round whole = whole) {requests retries : Nat}
    {policy : EffectiveRetryBudgetPolicy} (few : requests ≤ 2 ^ 53) (small : retries < 2 ^ 53)
    (below : (retries : Int) < allowedRetryConcurrency round requests policy) :
    (retries + 1 : Int) ≤ max policy.minConcurrency ⌈policy.ratio * requests⌉ := by
  by_contra above
  rw [not_le, max_lt_iff] at above
  have product : (round requests * policy.ratio : ℚ) ≤ (retries : ℕ) := by
    rw [exact requests few, mul_comm]
    exact (Int.le_ceil _).trans (by exact_mod_cast Int.lt_add_one_iff.mp above.2)
  have rounded : ⌈round (round requests * policy.ratio)⌉ ≤ retries := by
    rw [Int.ceil_le]
    exact_mod_cast (monotone product).trans_eq (exact retries small.le)
  unfold allowedRetryConcurrency at below
  simp only at below
  split at below <;> omega

theorem granted_some {index : Nat} {request : RetryBudgetRequest}
    (found : manager.requests[index]? = some request)
    (granted : manager.granted round (.tryAcquireRetry index) ≠ none) :
    manager.granted round (.tryAcquireRetry index) = some request.virtualModel ∧
      request.phase = .active ∧ (request.policy.disabled = true ∨
        (manager.models request.virtualModel).activeRetries <
          allowedRetryConcurrency round (manager.models request.virtualModel).activeRequests
            request.policy) := by
  simp only [RetryBudgetManager.granted, found] at granted ⊢
  split at granted
  next allowed => exact ⟨if_pos allowed, allowed⟩
  next => exact absurd rfl granted

/-- A lease that an enabled policy grants is within the budget. -/
theorem granted_within (monotone : Monotone round)
    (exact : ∀ whole : ℕ, whole ≤ 2 ^ 53 → round whole = whole) (accounts : manager.Accounts)
    {index : Nat} {request : RetryBudgetRequest}
    (found : manager.requests[index]? = some request)
    (granted : manager.granted round (.tryAcquireRetry index) ≠ none)
    (enabled : request.policy.disabled = false) (few : manager.requests.length ≤ 2 ^ 53)
    (small : manager.leases.length < 2 ^ 53) :
    let state := (manager.step round (.tryAcquireRetry index)).models request.virtualModel
    (state.activeRetries : Int) ≤
      max request.policy.minConcurrency ⌈request.policy.ratio * (state.activeRequests : ℚ)⌉ := by
  obtain ⟨_, active, allowed⟩ := granted_some found granted
  rw [enabled, or_iff_right Bool.false_ne_true] at allowed
  have requests : (manager.models request.virtualModel).activeRequests ≤
      manager.requests.length := by
    rw [accounts]
    exact countP_le_length
  have held : (manager.models request.virtualModel).activeRetries ≤ manager.leases.length := by
    rw [accounts]
    exact countP_le_length
  simpa [step, found, active, Int.not_le.mpr allowed, counted] using
    allowed_le monotone exact (requests.trans few) (held.trans_lt small) allowed

theorem closed_zero {Object : Type} {objects : List Object} {closed : Nat → Prop}
    [DecidablePred closed] (all : ∀ index < objects.length, closed index)
    (named : Object → Prop) [DecidablePred named] :
    objects.zipIdx.countP (fun place => named place.1 ∧ ¬ closed place.2) = 0 := by
  rw [countP_eq_zero]
  rintro ⟨object, index⟩ listed
  obtain ⟨inside, _⟩ := List.getElem?_eq_some_iff.mp (mem_zipIdx_iff_getElem?.mp listed)
  simp [all index inside]

/-- In every state that an interleaving reaches the counters are the requests and leases that its
actions have left open, so no guard of a decrement fails and the counters are zero once everything
is ended and released; an ended request acquires nothing; an acquired lease is within the budget;
and no action changes the counters of another virtual model. -/
theorem retry_budget_accounting (monotone : Monotone round)
    (exact : ∀ whole : ℕ, whole ≤ 2 ^ 53 → round whole = whole) (actions : List BudgetAction) :
    let manager := run (step round) {} actions
    let begun := actions.filterMap BudgetAction.begun
    (∀ name, manager.models name = ⟨unended actions name, unreleased round actions name⟩) ∧
    (∀ request ∈ manager.requests, request.phase = .closing →
      0 < (manager.models request.virtualModel).activeRequests) ∧
    (∀ lease ∈ manager.leases, lease.phase = .closing →
      0 < (manager.models lease.virtualModel).activeRetries) ∧
    ((∀ index < begun.length, Ended actions index) →
      (∀ index < (acquired round {} actions).length, Released round actions index) →
      ∀ name, manager.models name = {}) ∧
    (∀ (index : Nat) name policy, begun[index]? = some (name, policy) →
      let granted := manager.granted round (.tryAcquireRetry index)
      let state := (manager.step round (.tryAcquireRetry index)).models name
      (Passed (Begins index) [.endMarks index] actions → granted = none) ∧
      (granted = none ∨ granted = some name) ∧
      (granted ≠ none → policy.disabled = false → begun.length ≤ 2 ^ 53 →
        (acquired round {} actions).length < 2 ^ 53 →
        (state.activeRetries : Int) ≤
          max policy.minConcurrency ⌈policy.ratio * (state.activeRequests : ℚ)⌉)) ∧
    ∀ action name, action.virtualModel manager ≠ some name →
      (manager.step round action).models name = manager.models name := by
  classical
  intro manager begun
  have accounts : manager.Accounts :=
    run_invariant (fun _ => rfl) (fun _ action => step_accounts action) actions
  have counters : ∀ name,
      manager.models name = ⟨unended actions name, unreleased round actions name⟩ := by
    intro name
    rw [accounts, openRequests_eq, openLeases_eq]
  refine ⟨counters, ?_, ?_, ?_, ?_, fun action name other => ?models⟩
  case models =>
    fun_cases step round manager action <;> simp_all [BudgetAction.virtualModel, counted_of_ne]
  · intro request listed closing
    rw [accounts, openRequests, countP_pos_iff]
    exact ⟨request, listed, by simp [closing]⟩
  · intro lease listed closing
    rw [accounts, openLeases, countP_pos_iff]
    exact ⟨lease, listed, by simp [closing]⟩
  · intro requests leases name
    rw [counters, unended, unreleased, closed_zero requests fun begun => begun.1 = name,
      closed_zero leases (· = name)]
  · intro index name policy listed granted state
    have length : manager.requests.length = begun.length := by
      rw [← length_map, run_requests]
    obtain ⟨request, found, same⟩ : ∃ request, manager.requests[index]? = some request ∧
        (request.virtualModel, request.policy) = (name, policy) := by
      simpa only [begun, ← @run_requests round, getElem?_map, Option.map_eq_some_iff] using listed
    cases same
    have started : Passed (Begins index) [.endMarks index] actions → request.phase ≠ .active := by
      intro marked active
      refine ((request_phase round index actions).active.mp ?_).2 marked
      rw [show (run (step round) {} actions).requests[index]? = some request from found, ← active]
      rfl
    refine ⟨fun marked => ?_, ?_, fun acquired enabled few small => ?_⟩
    · by_contra acquired
      exact started marked (granted_some found acquired).2.1
    · by_cases none : granted = .none
      · exact .inl none
      · exact .inr (granted_some found none).1
    · exact granted_within monotone exact accounts found acquired enabled (length ▸ few)
        (by rwa [← @length_map _ _ _ RetryBudgetLease.virtualModel, run_leases])

theorem retry_budget_accounting_lease :
    let policy : EffectiveRetryBudgetPolicy := { ratio := 1 / 5, minConcurrency := 0 }
    let actions := [.beginRequest "chat" policy, .tryAcquireRetry 0, .tryAcquireRetry 0]
    let manager := run (step id) {} actions
    manager.models "chat" = ⟨1, 1⟩ ∧
      manager.models "chat" = ⟨unended actions "chat", unreleased id actions "chat"⟩ := by
  intro policy actions manager
  exact ⟨by decide +kernel,
    (retry_budget_accounting monotone_id (fun _ _ => rfl) actions).1 "chat"⟩

end RetryBudgetManager

end SparkRoute.Routing
