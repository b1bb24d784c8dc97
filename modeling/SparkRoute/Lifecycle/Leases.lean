import SparkRoute.Lifecycle.Grants

/-!
# Counting admitted leases

A lease counts from its admission to the critical section of its `Release`.  The
counters of endpoints and bindings are the numbers of counted leases, so the
clamps of `Release` never act.
-/

namespace SparkRoute.Lifecycle

open Lib List Function
open Registry

namespace AdmissionLease

/-- `Release` has not yet taken the lease off the counters. -/
def counted (lease : AdmissionLease) : Bool :=
  lease.phase = .held ∨ lease.phase = .claimed

/-- The lease was admitted on the binding with this activation key. -/
def onBinding (coordinator : AdmissionCoordinator) (key : GoString)
    (lease : AdmissionLease) : Bool :=
  match coordinator.lookup lease.deployment with
  | some target => target.source = .activatable ∧ activationKey target.binding = key
  | none => false

def countedAt (id : GoString) (lease : AdmissionLease) : Bool :=
  lease.counted && decide (lease.endpoint.id = id)

def countedOn (coordinator : AdmissionCoordinator) (key : GoString)
    (lease : AdmissionLease) : Bool :=
  lease.counted && lease.onBinding coordinator key

end AdmissionLease

namespace Shared

variable {coordinator : AdmissionCoordinator} {shared : Shared}

structure Counted (coordinator : AdmissionCoordinator) (shared : Shared) : Prop where
  active : ∀ id, (shared.endpointActive id : Int) =
    shared.leases.countP (AdmissionLease.countedAt id)
  bound : ∀ key, ((shared.bindings key).activeLeases : Int) =
    shared.leases.countP (AdmissionLease.countedOn coordinator key)

theorem Counted.initially : Counted coordinator {} :=
  ⟨fun _ => rfl, fun _ => rfl⟩

section

variable (counted : shared.Counted coordinator)

include counted

theorem Counted.setBinding {key : GoString} {state : AdmissionBindingState}
    (same : state.activeLeases = (shared.bindings key).activeLeases) :
    (shared.setBinding key state).Counted coordinator := by
  refine ⟨counted.active, ?_⟩
  intro other
  dsimp only [Shared.setBinding]
  rw [← counted.bound other]
  by_cases equal : other = key
  · subst equal
    rw [update_self, same]
  · rw [update_of_ne equal]

theorem Counted.setLease {index : Nat} {lease changed : AdmissionLease}
    (found : shared.leases[index]? = some lease) (endpoint : changed.endpoint = lease.endpoint)
    (deployment : changed.deployment = lease.deployment) (alike : changed.counted = lease.counted) :
    (shared.setLease index changed).Counted coordinator := by
  constructor
  · intro id
    dsimp only [Shared.setLease]
    rw [countP_set_of_eq _ found changed]
    · exact counted.active id
    · unfold AdmissionLease.countedAt
      rw [alike, endpoint]
  · intro key
    dsimp only [Shared.setLease]
    rw [countP_set_of_eq _ found changed]
    · exact counted.bound key
    · unfold AdmissionLease.countedOn AdmissionLease.onBinding
      rw [alike, deployment]

theorem Counted.left (execution : Execution) : (execution.left shared).Counted coordinator := by
  fun_cases Execution.left execution shared with
  | case1 =>
    apply counted.setBinding
    rfl
  | case2 => exact counted

theorem Counted.markReturned (index : Nat) : (shared.markReturned index).Counted coordinator := by
  fun_cases Shared.markReturned shared index with
  | case1 => exact counted
  | case2 lease found => exact counted.setLease found (by rfl) (by rfl) (by rfl)

theorem Counted.claimRelease (index : Nat) : (shared.claimRelease index).Counted coordinator := by
  fun_cases Shared.claimRelease shared index with
  | case1 lease found held =>
    exact counted.setLease found (by rfl) (by rfl) (by simp [AdmissionLease.counted, held])
  | _ => exact counted

theorem Counted.passRelease (index : Nat) : (shared.passRelease index).Counted coordinator := by
  fun_cases Shared.passRelease shared index with
  | case1 lease found accounted | case2 lease found accounted =>
    have marked : (shared.setLease index { lease with phase := .passed }).Counted coordinator :=
      counted.setLease found (by rfl) (by rfl) (by simp [AdmissionLease.counted, accounted])
    exact ⟨marked.active, marked.bound⟩
  | _ => exact counted

end

theorem discountLease_activeLeases (shared : Shared) (coordinator : AdmissionCoordinator)
    (lease : AdmissionLease) (key : GoString) :
    ((shared.discountLease coordinator lease.deployment).bindings key).activeLeases =
      (shared.bindings key).activeLeases -
        (if lease.onBinding coordinator key then 1 else 0) := by
  unfold discountLease AdmissionLease.onBinding
  cases coordinator.lookup lease.deployment with
  | none => rfl
  | some target =>
    dsimp only
    by_cases source : target.source = .activatable
    · rw [if_pos source]
      dsimp only [Shared.setBinding]
      by_cases same : key = activationKey target.binding
      · subst same
        rw [update_self]
        dsimp only
        rw [if_pos (decide_eq_true ⟨source, rfl⟩)]
        split <;> omega
      · rw [update_of_ne same]
        simp [Ne.symm same]
    · rw [if_neg source]
      simp [source]

theorem countLease_activeLeases (shared : Shared) (target : Target) (endpoint : Endpoint)
    (key : GoString) :
    ((shared.countLease target endpoint).bindings key).activeLeases =
      (shared.bindings key).activeLeases +
        (if target.source = .activatable ∧ activationKey target.binding = key then 1
        else 0) := by
  unfold countLease
  by_cases source : target.source = .activatable
  · rw [if_pos source]
    dsimp only [Shared.setBinding]
    by_cases same : key = activationKey target.binding
    · subst same
      rw [update_self, if_pos ⟨source, rfl⟩]
    · rw [update_of_ne same]
      simp [Ne.symm same]
  · rw [if_neg source]
    simp [source]

theorem Counted.accountRelease (counted : shared.Counted coordinator) (index : Nat) :
    (shared.accountRelease coordinator index).Counted coordinator := by
  fun_cases Shared.accountRelease shared coordinator index with
  | case1 lease found claimed discounted =>
    have mem := mem_of_getElem? found
    have counting : lease.counted = true := by simp [AdmissionLease.counted, claimed]
    have silent : AdmissionLease.counted { lease with phase := .accounted } = false := rfl
    constructor
    · intro id
      dsimp only [Shared.setLease, discounted]
      rw [(discountLease_leases _ _ _).1, (discountLease_leases _ _ _).2.2.2,
        countP_set (AdmissionLease.countedAt id) found, ← counted.active id]
      unfold AdmissionLease.countedAt
      rw [silent, counting]
      dsimp only
      by_cases same : id = lease.endpoint.id
      · subst same
        have present : 0 < shared.leases.countP (AdmissionLease.countedAt lease.endpoint.id) :=
          countP_pos_iff.mpr ⟨lease, mem, by
            simp [AdmissionLease.countedAt, counting]⟩
        have total := counted.active lease.endpoint.id
        rw [update_self]
        simp only [decide_true, Bool.true_and, Bool.false_and, if_true,
          Bool.false_eq_true, if_false]
        split <;> omega
      · rw [update_of_ne same]
        simp [Ne.symm same]
    · intro key
      dsimp only [Shared.setLease, discounted]
      rw [(discountLease_leases _ _ _).1, discountLease_activeLeases,
        countP_set (AdmissionLease.countedOn coordinator key) found]
      have total := counted.bound key
      have placed : AdmissionLease.countedOn coordinator key lease =
          lease.onBinding coordinator key := by
        simp [AdmissionLease.countedOn, counting]
      have moved : AdmissionLease.countedOn coordinator key
          { lease with phase := .accounted } = false := by
        simp [AdmissionLease.countedOn, silent]
      rw [placed, moved]
      cases onto : lease.onBinding coordinator key with
      | false =>
        simp only [Bool.false_eq_true, if_false]
        omega
      | true =>
        have present : 0 < shared.leases.countP (AdmissionLease.countedOn coordinator key) :=
          countP_pos_iff.mpr ⟨lease, mem, placed.trans onto⟩
        simp only [if_true, Bool.false_eq_true, if_false]
        omega
  | _ => exact counted

theorem Counted.admitEndpoint (counted : shared.Counted coordinator) {target configured : Target}
    (found : coordinator.lookup target.deployment = some configured)
    (source : configured.source = target.source)
    (key : activationKey configured.binding = activationKey target.binding) {endpoint : Endpoint}
    {controllerLease : Option (Nat × Lease)} {enforceCapacity : Bool} {extended : Shared}
    (accepted : shared.admitEndpoint target endpoint controllerLease enforceCapacity =
      some extended) : extended.Counted coordinator := by
  cases (Option.ite_none_left_eq_some.mp accepted).2
  constructor
  · intro id
    rw [(countLease_leases _ _ _).2.2.2, countP_append, countP_singleton]
    have total := counted.active id
    have placed : AdmissionLease.countedAt id
        { endpoint := endpoint, deployment := target.deployment,
          controllerLease := controllerLease } = decide (endpoint.id = id) := rfl
    rw [placed]
    dsimp only
    by_cases same : id = endpoint.id
    · subst same
      rw [update_self, if_pos (decide_eq_true rfl)]
      omega
    · rw [update_of_ne same, if_neg (by simpa using Ne.symm same)]
      omega
  · intro name
    rw [countLease_activeLeases, countP_append, countP_singleton]
    have total := counted.bound name
    have placed : AdmissionLease.countedOn coordinator name
        { endpoint := endpoint, deployment := target.deployment,
          controllerLease := controllerLease } =
        decide (target.source = .activatable ∧ activationKey target.binding = name) := by
      simp only [AdmissionLease.countedOn, AdmissionLease.counted,
        AdmissionLease.onBinding, found, source, key]
      rfl
    rw [placed]
    dsimp only
    by_cases onto : target.source = .activatable ∧ activationKey target.binding = name
    · rw [if_pos onto, if_pos (decide_eq_true onto)]
      omega
    · rw [if_neg onto, if_neg (by simpa using onto)]
      omega

end Shared

namespace System

variable {coordinator : AdmissionCoordinator} {system : System}

theorem counted_kept (configured : coordinator.Configured)
    (wellFormed : system.WellFormed coordinator)
    (counted : system.shared.Counted coordinator) {after : System}
    (effect : SystemEffect coordinator system after) : after.shared.Counted coordinator := by
  cases effect with
  | idle | opened execution fresh => exact counted
  | moved found advanced effect fits =>
    cases effect with
    | quiet same queued held => exact counted
    | wrote state reason endpoint stage =>
      apply counted.setBinding
      rfl
    | enqueued source unqueued accepted =>
      obtain ⟨state, equal, same⟩ := Shared.enqueue_setBinding accepted
      rw [equal]
      exact counted.setBinding same
    | granted claim expected lease unheld | discarded fault held =>
      exact ⟨counted.active, counted.bound⟩
    | admitted endpoint attempt admitting accepted =>
      obtain ⟨target, mem, behavior, equal⟩ := (wellFormed _ (mem_of_getElem? found)).1.target
      rw [equal] at accepted
      exact counted.admitEndpoint (configured.lookup_deployment mem) rfl rfl accepted
    | departed stage source => exact counted.left _
    | returned lease unstarted leaving source => exact (counted.left _).markReturned lease
    | claimed lease => exact counted.claimRelease lease
  | released found returned => exact counted.claimRelease _
  | accounted index => exact counted.accountRelease index
  | passed index => exact counted.passRelease index

theorem run_counted (configured : coordinator.Configured) (actions : List Action) :
    (run coordinator actions).shared.Counted coordinator :=
  run_kept Shared.Counted.initially
    (fun wellFormed counted effect => counted_kept configured wellFormed counted effect) actions

end System

end SparkRoute.Lifecycle
