import SparkRoute.Lib.Tally
import SparkRoute.Lifecycle.Steps

/-!
# Controller leases never leak

Every lease that a controller has granted is in exactly one place: held by one
request, owned by one admission lease that has not passed it on, or passed to the
controller's `Release` once.
-/

namespace SparkRoute.Lifecycle

open Lib List Shared Execution AdmissionLease
open Registry

def Execution.holds (number : Nat) (execution : Execution) : Bool :=
  execution.held.map Prod.fst = some number

/-- The lease still has to pass the controller's grant on. -/
def AdmissionLease.owns (number : Nat) (lease : AdmissionLease) : Bool :=
  lease.controllerLease.map Prod.fst = some number ∧ lease.phase ≠ .passed

namespace Shared

variable {shared : Shared}

/-- The places outside requests where a grant is found. -/
def settled (shared : Shared) (number : Nat) : Int :=
  shared.leases.countP (owns number) + shared.released.count number

theorem setLease_settled {index : Nat} {lease changed : AdmissionLease}
    (found : shared.leases[index]? = some lease) (number : Nat)
    (alike : changed.owns number = lease.owns number) :
    (shared.setLease index changed).settled number = shared.settled number := by
  unfold settled setLease
  rw [countP_set_of_eq _ found changed alike]

section

variable (shared : Shared) (index number : Nat)

theorem markReturned_settled :
    (shared.markReturned index).settled number = shared.settled number := by
  fun_cases markReturned shared index with
  | case1 => rfl
  | case2 lease found =>
    apply setLease_settled found
    rfl

theorem claimRelease_settled :
    (shared.claimRelease index).settled number = shared.settled number := by
  fun_cases claimRelease shared index with
  | case1 lease found held =>
    apply setLease_settled found
    simp [owns, held]
  | _ => rfl

variable (coordinator : AdmissionCoordinator)

theorem accountRelease_settled (index number : Nat) :
    (shared.accountRelease coordinator index).settled number = shared.settled number := by
  fun_cases accountRelease shared coordinator index with
  | case1 lease found claimed counted =>
    obtain ⟨leases, _, released, _⟩ : counted.leases = shared.leases ∧ _ :=
      discountLease_leases _ coordinator lease.deployment
    have found' : counted.leases[index]? = some lease := by rw [leases]; exact found
    rw [setLease_settled found' number (by simp [owns, claimed])]
    unfold settled
    rw [leases, released]
  | _ => rfl

theorem passRelease_settled :
    (shared.passRelease index).settled number = shared.settled number := by
  fun_cases passRelease shared index with
  | case1 lease found accounted marked granted value controllerLease =>
    have moved := countP_set (owns number) found { lease with phase := .passed }
    dsimp only [marked, giveBack, setLease, settled]
    rw [count_append, count_singleton, moved]
    simp only [owns, controllerLease, accounted]
    by_cases same : granted = number
    · subst same
      simp
    · simp [same]
  | case2 lease found accounted _ controllerLease =>
    apply setLease_settled found
    simp [owns, controllerLease]
  | _ => rfl

theorem markReturned_grants : (shared.markReturned index).grants = shared.grants := by
  fun_cases markReturned shared index <;> rfl

theorem claimRelease_grants : (shared.claimRelease index).grants = shared.grants := by
  fun_cases claimRelease shared index <;> rfl

theorem passRelease_grants : (shared.passRelease index).grants = shared.grants := by
  fun_cases passRelease shared index <;> rfl

theorem accountRelease_grants (index : Nat) :
    (shared.accountRelease coordinator index).grants = shared.grants := by
  fun_cases accountRelease shared coordinator index with
  | case1 => exact (discountLease_leases _ coordinator _).2.1
  | _ => rfl

end

theorem enqueue_setBinding {coordinator : AdmissionCoordinator} {binding : Binding}
    {bodyBytes : Int} {extended : Shared}
    (accepted : shared.enqueue coordinator binding bodyBytes = .ok extended) :
    ∃ state, extended = shared.setBinding (activationKey binding) state ∧
      state.activeLeases = (shared.bindings (activationKey binding)).activeLeases := by
  simp only [enqueue, check_eq_ok] at accepted
  exact ⟨_, (Except.ok.inj accepted.2.2).symm, rfl⟩

theorem admitEndpoint_settled {target : Target} {endpoint : Endpoint}
    {controllerLease : Option (Nat × Lease)} {enforceCapacity : Bool} {extended : Shared}
    (accepted : shared.admitEndpoint target endpoint controllerLease enforceCapacity =
      some extended) (number : Nat) :
    extended.settled number = shared.settled number +
        (if controllerLease.map Prod.fst = some number then 1 else 0) ∧
      extended.grants = shared.grants := by
  cases (Option.ite_none_left_eq_some.mp accepted).2
  refine ⟨?_, (countLease_leases _ target endpoint).2.1⟩
  dsimp only [settled]
  rw [(countLease_leases _ target endpoint).2.2.1, countP_append, countP_singleton]
  simp only [owns]
  by_cases owned : controllerLease.map Prod.fst = some number
  · simp [owned]
    omega
  · simp [owned]

end Shared

namespace System

variable {coordinator : AdmissionCoordinator} {system : System}

/-- Every grant is in exactly one place, and numbers not yet granted are in none. -/
def Traced (system : System) : Prop :=
  ∀ number, (system.executions.countP (holds number) : Int) +
      system.shared.settled number =
    if number < system.shared.grants.length then 1 else 0

theorem Traced.initially : Traced {} := by
  intro number
  rfl

theorem Traced.settled_eq (traced : system.Traced) {shared : Shared}
    (settled : ∀ number, shared.settled number = system.shared.settled number)
    (grants : shared.grants = system.shared.grants) : Traced { system with shared := shared } := by
  intro number
  rw [settled number, grants]
  exact traced number

theorem Traced.replace (traced : system.Traced) {index : Nat} {execution moved : Execution}
    {shared : Shared} (trace : List (Execution × Answers))
    (found : system.executions[index]? = some execution) (balanced : ∀ number,
      (if moved.holds number then 1 else 0) + shared.settled number +
          (if number < system.shared.grants.length then (1 : Int) else 0) =
        (if execution.holds number then 1 else 0) + system.shared.settled number +
          (if number < shared.grants.length then 1 else 0)) :
    Traced ⟨shared, system.executions.set index moved, trace⟩ := by
  intro number
  have before := traced number
  have change := balanced number
  dsimp only
  rw [countP_set (holds number) found moved]
  omega

theorem left_settled (execution : Execution) (shared : Shared) (number : Nat) :
    (execution.left shared).settled number = shared.settled number ∧
      (execution.left shared).grants = shared.grants := by
  fun_cases left execution shared <;> exact ⟨rfl, rfl⟩

theorem Traced.kept (traced : system.Traced) {after : System}
    (effect : SystemEffect coordinator system after) : after.Traced := by
  cases effect with
  | idle => exact traced
  | opened execution fresh =>
    intro number
    have unheld : execution.holds number = false := by
      simp [holds, fresh.unheld]
    rw [countP_append, countP_singleton, unheld]
    exact traced number
  | @moved index execution moved answers shared found advanced effect fits =>
    apply traced.replace _ found
    intro number
    cases effect with
    | quiet same queued held =>
      unfold holds
      rw [held]
    | wrote state reason endpoint stage => rfl
    | enqueued source unqueued accepted =>
      obtain ⟨state, equal, _⟩ := enqueue_setBinding accepted
      rw [equal]
      rfl
    | granted claim expected lease unheld =>
      have grew : (system.shared.grant lease).grants.length =
          system.shared.grants.length + 1 := length_append
      have holding : holds number
          { execution with
            held := some (system.shared.grants.length, lease)
            stage := .validating claim expected } =
          decide (system.shared.grants.length = number) := by
        simp [holds]
      have empty : execution.holds number = false := by simp [holds, unheld]
      rw [grew, holding, empty]
      change _ + system.shared.settled number + _ = _
      by_cases same : system.shared.grants.length = number
      · subst same
        simp only [decide_true, if_true, Nat.lt_irrefl, if_false, Nat.lt_succ_self,
          Bool.false_eq_true]
        omega
      · have bounds : number < system.shared.grants.length + 1 ↔
            number < system.shared.grants.length := by omega
        simp [same, bounds]
    | @discarded given lease fault held =>
      have holding : execution.holds number = decide (given = number) := by
        simp [holds, held]
      rw [holding]
      dsimp only [Shared.giveBack, Shared.settled, holds]
      rw [count_append, count_singleton]
      by_cases same : given = number
      · subst same
        simp
        omega
      · simp only [same, Option.map_none, reduceCtorEq, decide_false,
          Bool.false_eq_true, if_false, beq_eq_false_iff_ne.mpr same, Nat.add_zero]
        rfl
    | admitted endpoint attempt admitting accepted =>
      obtain ⟨settled, grants⟩ := admitEndpoint_settled accepted number
      rw [settled, grants]
      unfold holds
      simp only [Option.map_none, reduceCtorEq, decide_false, Bool.false_eq_true,
        if_false, decide_eq_true_eq]
      omega
    | departed stage source =>
      obtain ⟨settled, grants⟩ := left_settled execution system.shared number
      rw [settled, grants]
      rfl
    | returned lease unstarted leaving source =>
      obtain ⟨settled, grants⟩ := left_settled execution system.shared number
      rw [markReturned_settled, settled, markReturned_grants, grants]
      rfl
    | claimed lease =>
      rw [claimRelease_settled, claimRelease_grants]
      rfl
  | released found returned =>
    exact traced.settled_eq (claimRelease_settled _ _) (claimRelease_grants _ _)
  | accounted index =>
    exact traced.settled_eq (accountRelease_settled _ coordinator index)
      (accountRelease_grants _ coordinator index)
  | passed index =>
    exact traced.settled_eq (passRelease_settled _ index)
      (passRelease_grants _ index)

theorem run_traced (coordinator : AdmissionCoordinator) (actions : List Action) :
    (run coordinator actions).Traced :=
  run_kept Traced.initially (fun _ traced effect => traced.kept effect) actions

end System

end SparkRoute.Lifecycle
