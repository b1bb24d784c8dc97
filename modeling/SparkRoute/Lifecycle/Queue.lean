import Mathlib.Algebra.Order.BigOperators.Group.List
import Mathlib.Algebra.Order.Group.Int
import SparkRoute.Lib.Tally
import SparkRoute.Lifecycle.Steps

/-!
# Admission queue accounting

The queue counters of a binding are the number and the total body size of the
requests between their `enqueue` and their `dequeue`, so the clamps of `dequeue`
never act and no counter leaves its configured bound.
-/

namespace SparkRoute.Lifecycle

open Lib List Function Shared
open Registry

namespace Execution

/-- The request is between its `enqueue` and its `dequeue` on the binding. -/
def waitsOn (key : GoString) (execution : Execution) : Bool :=
  execution.queued && decide (activationKey execution.target.binding = key)

def waitingBytes (key : GoString) (execution : Execution) : Int :=
  if execution.waitsOn key then execution.bodyBytes.val else 0

end Execution

namespace Shared

/-- Two states with the same queue counters. -/
def SameQueues (before after : Shared) : Prop :=
  ∀ key, (after.bindings key).queuedWaiters = (before.bindings key).queuedWaiters ∧
    (after.bindings key).queuedBodyBytes = (before.bindings key).queuedBodyBytes

theorem setBinding_sameQueues {shared : Shared} {key : GoString} {state : AdmissionBindingState}
    (waiters : state.queuedWaiters = (shared.bindings key).queuedWaiters)
    (bytes : state.queuedBodyBytes = (shared.bindings key).queuedBodyBytes) :
    shared.SameQueues (shared.setBinding key state) := by
  intro other
  dsimp only [setBinding]
  by_cases same : other = key
  · subst same
    rw [update_self]
    exact ⟨waiters, bytes⟩
  · rw [update_of_ne same]
    exact ⟨rfl, rfl⟩

variable (shared : Shared)

theorem SameQueues.of_bindings {shared after : Shared} (same : after.bindings = shared.bindings) :
    shared.SameQueues after := by
  intro key
  rw [same]
  exact ⟨rfl, rfl⟩

theorem countLease_sameQueues (target : Target) (endpoint : Endpoint) :
    shared.SameQueues (shared.countLease target endpoint) := by
  fun_cases countLease shared target endpoint with
  | case1 => exact setBinding_sameQueues rfl rfl
  | case2 => exact .of_bindings rfl

theorem discountLease_sameQueues (coordinator : AdmissionCoordinator) (deployment : GoString) :
    shared.SameQueues (shared.discountLease coordinator deployment) := by
  fun_cases discountLease shared coordinator deployment with
  | case1 => exact setBinding_sameQueues rfl rfl
  | _ => exact .of_bindings rfl

theorem accountRelease_sameQueues (coordinator : AdmissionCoordinator) (index : Nat) :
    shared.SameQueues (shared.accountRelease coordinator index) := by
  fun_cases accountRelease shared coordinator index with
  | case1 => exact discountLease_sameQueues _ coordinator _
  | _ => exact .of_bindings rfl

end Shared

namespace System

variable {coordinator : AdmissionCoordinator} {system : System}

structure Queued (coordinator : AdmissionCoordinator) (system : System) : Prop where
  waiters : ∀ key, (system.shared.bindings key).queuedWaiters =
    (system.executions.countP (Execution.waitsOn key) : Int)
  bytes : ∀ key, (system.shared.bindings key).queuedBodyBytes =
    (system.executions.map (Execution.waitingBytes key)).sum
  bounded : ∀ target ∈ coordinator.targets, target.source = .activatable →
    (system.shared.bindings (activationKey target.binding)).queuedWaiters ≤
        target.binding.maxQueuedWaiters ∧
      (system.shared.bindings (activationKey target.binding)).queuedBodyBytes ≤
        target.binding.maxQueuedBodyBytes.val

theorem Queued.initially (configured : coordinator.Configured) : Queued coordinator {} := by
  refine ⟨fun _ => rfl, fun _ => rfl, ?_⟩
  intro target mem source
  have bound := configured.bindings target mem source
  exact ⟨Int.le_of_lt bound.waiters, Int.le_of_lt bound.bytes⟩

variable {execution : Execution}

section

variable (wellFormed : system.WellFormed coordinator) (key : GoString)

include wellFormed key

theorem waitingBytes_nonneg (mem : execution ∈ system.executions) :
    0 ≤ execution.waitingBytes key := by
  obtain ⟨serves, _⟩ := wellFormed execution mem
  unfold Execution.waitingBytes
  split
  · exact serves.bodyBytes
  · exact Int.le_refl 0

theorem waitingBytes_le_sum (mem : execution ∈ system.executions) :
    execution.waitingBytes key ≤ (system.executions.map (Execution.waitingBytes key)).sum := by
  apply single_le_sum
  · intro share present
    obtain ⟨other, otherMember, equal⟩ := mem_map.mp present
    rw [← equal]
    exact waitingBytes_nonneg wellFormed key otherMember
  · exact mem_map_of_mem mem

theorem waitingBytes_sum_nonneg : 0 ≤ (system.executions.map (Execution.waitingBytes key)).sum := by
  apply sum_nonneg
  intro share present
  obtain ⟨execution, mem, equal⟩ := mem_map.mp present
  rw [← equal]
  exact waitingBytes_nonneg wellFormed key mem

end

variable {index : Nat}

section

variable (queued : system.Queued coordinator)

include queued

variable {shared : Shared}

theorem Queued.sameQueues (same : system.shared.SameQueues shared) :
    Queued coordinator { system with shared := shared } := by
  constructor
  · intro key
    rw [(same key).1]
    exact queued.waiters key
  · intro key
    rw [(same key).2]
    exact queued.bytes key
  · intro configured mem source
    rw [(same _).1, (same _).2]
    exact queued.bounded configured mem source

theorem Queued.replace {moved : Execution} (trace : List (Execution × Answers))
    (found : system.executions[index]? = some execution) (same : system.shared.SameQueues shared)
    (target : moved.target = execution.target) (bodyBytes : moved.bodyBytes = execution.bodyBytes)
    (alike : moved.queued = execution.queued) :
    Queued coordinator ⟨shared, system.executions.set index moved, trace⟩ := by
  have waits (key) : moved.waitsOn key = execution.waitsOn key := by
    unfold Execution.waitsOn
    rw [target, alike]
  have before := queued.sameQueues same
  refine ⟨fun key => (before.waiters key).trans ?_, fun key => (before.bytes key).trans ?_,
    before.bounded⟩
  · exact congrArg Nat.cast (countP_set_of_eq _ found moved (waits key)).symm
  · rw [sum_map_set _ found moved]
    unfold Execution.waitingBytes
    rw [waits key, bodyBytes, Int.sub_add_cancel]

/-- While the counters are within their bounds, the free space of a queue is exact. -/
theorem Queued.free_exact (wellFormed : system.WellFormed coordinator) {target : Target}
    (mem : target ∈ coordinator.targets) (source : target.source = .activatable) :
    wrapInt64 (target.binding.maxQueuedBodyBytes.val -
        (system.shared.bindings (activationKey target.binding)).queuedBodyBytes) =
      target.binding.maxQueuedBodyBytes.val -
        (system.shared.bindings (activationKey target.binding)).queuedBodyBytes := by
  have nonneg := waitingBytes_sum_nonneg wellFormed (activationKey target.binding)
  rw [← queued.bytes] at nonneg
  have bounded := (queued.bounded target mem source).2
  have upper := target.binding.maxQueuedBodyBytes.property.2
  apply wrapInt64_of_nonneg <;> omega

/-- Replacing a request whose place in the queue changes, together with the counters
of its binding. -/
theorem Queued.rebalance {moved : Execution} (trace : List (Execution × Answers))
    (found : system.executions[index]? = some execution) (target : moved.target = execution.target)
    (bodyBytes : moved.bodyBytes = execution.bodyBytes)
    (others : ∀ key, key ≠ activationKey execution.target.binding →
      shared.bindings key = system.shared.bindings key)
    (waiters : (shared.bindings (activationKey execution.target.binding)).queuedWaiters =
      (system.shared.bindings (activationKey execution.target.binding)).queuedWaiters -
        (if execution.queued then 1 else 0) + (if moved.queued then 1 else 0))
    (bytes : (shared.bindings (activationKey execution.target.binding)).queuedBodyBytes =
      (system.shared.bindings (activationKey execution.target.binding)).queuedBodyBytes -
        (if execution.queued then execution.bodyBytes.val else 0) +
        (if moved.queued then execution.bodyBytes.val else 0))
    (bounded : ∀ configured ∈ coordinator.targets, configured.source = .activatable →
      activationKey configured.binding = activationKey execution.target.binding →
        (shared.bindings (activationKey configured.binding)).queuedWaiters ≤
            configured.binding.maxQueuedWaiters ∧
          (shared.bindings (activationKey configured.binding)).queuedBodyBytes ≤
            configured.binding.maxQueuedBodyBytes.val) :
    Queued coordinator ⟨shared, system.executions.set index moved, trace⟩ := by
  constructor
  · intro key
    rw [countP_set (Execution.waitsOn key) found moved, ← queued.waiters key]
    unfold Execution.waitsOn
    rw [target]
    by_cases same : activationKey execution.target.binding = key
    · subst same
      simpa using waiters
    · simp [same, others key (Ne.symm same)]
  · intro key
    rw [sum_map_set (Execution.waitingBytes key) found moved, ← queued.bytes key]
    unfold Execution.waitingBytes Execution.waitsOn
    rw [target, bodyBytes]
    by_cases same : activationKey execution.target.binding = key
    · subst same
      simpa using bytes
    · simp [same, others key (Ne.symm same)]
  · intro configured mem source
    by_cases same : activationKey configured.binding = activationKey execution.target.binding
    · exact bounded configured mem source same
    · rw [others _ same]
      exact queued.bounded configured mem source

end

theorem served_target (wellFormed : system.WellFormed coordinator)
    (mem : execution ∈ system.executions) (source : execution.target.source = .activatable) :
    ∃ target ∈ coordinator.targets, target.source = .activatable ∧
      activationKey execution.target.binding = activationKey target.binding ∧
      execution.target.binding.maxQueuedWaiters = target.binding.maxQueuedWaiters ∧
      execution.target.binding.maxQueuedBodyBytes = target.binding.maxQueuedBodyBytes := by
  obtain ⟨serves, _⟩ := wellFormed execution mem
  obtain ⟨target, configured, behavior, equal⟩ := serves.target
  rw [equal] at source ⊢
  exact ⟨target, configured, source, rfl, rfl, rfl⟩

theorem Queued.enqueued (queued : system.Queued coordinator)
    (wellFormed : system.WellFormed coordinator) (configured : coordinator.Configured)
    {extended : Shared} (trace : List (Execution × Answers))
    (found : system.executions[index]? = some execution)
    (source : execution.target.source = .activatable) (unqueued : execution.queued = false)
    (accepted : system.shared.enqueue coordinator execution.target.binding execution.bodyBytes.val
      = .ok extended) :
    Queued coordinator
      ⟨extended, system.executions.set index { execution with queued := true, stage := .beginning },
        trace⟩ := by
  have mem := mem_of_getElem? found
  obtain ⟨target, targetMember, targetSource, sameKey, sameWaiters, sameBytes⟩ :=
    served_target wellFormed mem source
  simp only [Shared.enqueue, check_eq_ok] at accepted
  obtain ⟨roomy, fitting, accepted⟩ := accepted
  cases accepted
  have body := (wellFormed execution mem).1.bodyBytes
  have nonneg := waitingBytes_sum_nonneg wellFormed (activationKey target.binding)
  have upper := target.binding.maxQueuedBodyBytes.property.2
  rw [← queued.bytes] at nonneg
  rw [sameWaiters, sameKey] at roomy
  rw [sameBytes, sameKey, queued.free_exact wellFormed targetMember targetSource] at fitting
  have unwrapped : wrapInt64 ((system.shared.bindings
      (activationKey target.binding)).queuedBodyBytes + execution.bodyBytes.val) =
      (system.shared.bindings (activationKey target.binding)).queuedBodyBytes +
        execution.bodyBytes.val := by
    apply wrapInt64_of_nonneg <;> omega
  apply queued.rebalance trace found
  · rfl
  · rfl
  · exact fun key other => update_of_ne other _ _
  · dsimp only [Shared.setBinding]
    rw [update_self, unqueued]
    simp
  · dsimp only [Shared.setBinding]
    rw [update_self, sameKey, unwrapped, unqueued]
    simp
  · intro other otherMember otherSource same
    rw [configured.unique otherMember targetMember otherSource targetSource
      (same.trans sameKey)]
    dsimp only [Shared.setBinding]
    rw [sameKey, update_self, unwrapped]
    dsimp only
    omega

theorem Queued.departed (queued : system.Queued coordinator)
    (wellFormed : system.WellFormed coordinator) (trace : List (Execution × Answers))
    (stage : Stage) (found : system.executions[index]? = some execution)
    (source : execution.queued = true → execution.target.source = .activatable) :
    Queued coordinator
      ⟨execution.left system.shared,
        system.executions.set index { execution with queued := false, stage := stage },
        trace⟩ := by
  have mem := mem_of_getElem? found
  unfold Execution.left
  by_cases waiting : execution.queued = true
  · rw [if_pos waiting]
    obtain ⟨target, targetMember, targetSource, sameKey, _, _⟩ :=
      served_target wellFormed mem (source waiting)
    have share := waitingBytes_le_sum wellFormed
      (activationKey execution.target.binding) mem
    rw [← queued.bytes] at share
    have counted : 0 < (system.shared.bindings
        (activationKey execution.target.binding)).queuedWaiters := by
      rw [queued.waiters]
      have present : 0 < system.executions.countP
          (Execution.waitsOn (activationKey execution.target.binding)) :=
        countP_pos_iff.mpr ⟨execution, mem, by simp [Execution.waitsOn, waiting]⟩
      omega
    have body := (wellFormed execution mem).1.bodyBytes
    have bounded := (queued.bounded target targetMember targetSource).2
    have upper := target.binding.maxQueuedBodyBytes.property.2
    rw [← sameKey] at bounded
    simp only [Execution.waitingBytes, Execution.waitsOn, waiting, decide_true,
      Bool.and_self, if_true] at share
    -- Neither clamp of `dequeue` acts, so it gives back what was reserved.
    apply queued.rebalance trace found
    · rfl
    · rfl
    · exact fun key other => update_of_ne other _ _
    · dsimp only [Shared.dequeue, Shared.setBinding]
      rw [update_self, if_pos counted, waiting]
      simp
    · dsimp only [Shared.dequeue, Shared.setBinding]
      rw [update_self, if_pos share, wrapInt64_of_nonneg (by omega) (by omega), waiting]
      simp
    · intro other otherMember otherSource same
      have before := queued.bounded other otherMember otherSource
      rw [same] at before ⊢
      dsimp only [Shared.dequeue, Shared.setBinding]
      rw [update_self, if_pos counted, if_pos share, wrapInt64_of_nonneg (by omega) (by omega)]
      dsimp only
      omega
  · rw [if_neg waiting]
    have unqueued := Bool.eq_false_iff.mpr waiting
    exact queued.replace trace found (.of_bindings rfl) (by rfl) (by rfl) unqueued.symm

theorem Queued.kept (queued : system.Queued coordinator) (configured : coordinator.Configured)
    (wellFormed : system.WellFormed coordinator) {after : System}
    (effect : SystemEffect coordinator system after) : after.Queued coordinator := by
  cases effect with
  | idle => exact queued
  | opened execution fresh =>
    refine ⟨?_, ?_, queued.bounded⟩
    · intro key
      have unqueued : execution.waitsOn key = false := by
        simp [Execution.waitsOn, fresh.unqueued]
      rw [countP_append, countP_singleton, unqueued]
      exact queued.waiters key
    · intro key
      have weightless : execution.waitingBytes key = 0 := by
        simp [Execution.waitingBytes, Execution.waitsOn, fresh.unqueued]
      rw [sum_map_concat, weightless, Int.add_zero]
      exact queued.bytes key
  | moved found advanced effect fits =>
    cases effect with
    | quiet same alike =>
      exact queued.replace _ found (.of_bindings rfl) same.target same.bodyBytes alike
    | wrote state reason endpoint stage =>
      exact queued.replace _ found (setBinding_sameQueues rfl rfl) rfl rfl rfl
    | enqueued source unqueued accepted =>
      exact queued.enqueued wellFormed configured _ found source unqueued accepted
    | granted claim expected lease =>
      exact queued.replace _ found (.of_bindings rfl) rfl rfl rfl
    | discarded fault => exact queued.replace _ found (.of_bindings rfl) rfl rfl rfl
    | admitted endpoint attempt admitting accepted =>
      cases (Option.ite_none_left_eq_some.mp accepted).2
      exact queued.replace _ found (countLease_sameQueues _ _ _) rfl rfl rfl
    | departed stage source =>
      exact queued.departed wellFormed _ stage found source
    | returned lease unstarted leaving source =>
      exact (queued.departed wellFormed _ (.done (.ok lease)) found source).sameQueues
        (.of_bindings (markReturned_bindings _ lease))
    | claimed lease =>
      exact queued.replace _ found (.of_bindings (claimRelease_bindings _ _)) rfl rfl rfl
  | released found returned =>
    exact queued.sameQueues (.of_bindings (claimRelease_bindings _ _))
  | accounted index =>
    exact queued.sameQueues (accountRelease_sameQueues _ coordinator index)
  | passed index => exact queued.sameQueues (.of_bindings (passRelease_bindings _ _))

theorem run_queued (configured : coordinator.Configured) (actions : List Action) :
    (run coordinator actions).Queued coordinator :=
  run_kept (Queued.initially configured)
    (fun wellFormed queued effect => queued.kept configured wellFormed effect) actions

def waiting (system : System) (binding : Binding) : List Execution :=
  system.executions.filter (Execution.waitsOn (activationKey binding))

end System

/-- Queue accounting at every instant of every interleaving: exact counters within
their bounds, no overflow in the byte comparison or in the addition that follows
it, and rejected requests that change nothing. -/
theorem admissionQueue_accounted {targets : List Target} {options : AdmissionOptions}
    {coordinator : AdmissionCoordinator}
    (accepted : newAdmissionCoordinator targets options = .ok coordinator) (actions : List Action) :
    (∀ target ∈ coordinator.targets, target.source = .activatable →
      let system := System.run coordinator actions
      let state := system.shared.bindings (activationKey target.binding)
      state.queuedWaiters = ((system.waiting target.binding).length : Int) ∧
      state.queuedBodyBytes =
        ((system.waiting target.binding).map fun execution => execution.bodyBytes.val).sum ∧
      0 ≤ state.queuedWaiters ∧ state.queuedWaiters ≤ target.binding.maxQueuedWaiters ∧
      0 ≤ state.queuedBodyBytes ∧
      state.queuedBodyBytes ≤ target.binding.maxQueuedBodyBytes.val ∧
      wrapInt64 (target.binding.maxQueuedBodyBytes.val - state.queuedBodyBytes) =
        target.binding.maxQueuedBodyBytes.val - state.queuedBodyBytes ∧
      ∀ bodyBytes : Int64Value, 0 ≤ bodyBytes.val →
        bodyBytes.val ≤
            wrapInt64 (target.binding.maxQueuedBodyBytes.val - state.queuedBodyBytes) →
          wrapInt64 (state.queuedBodyBytes + bodyBytes.val) =
            state.queuedBodyBytes + bodyBytes.val) ∧
    (∀ index execution answers failure,
      (System.run coordinator actions).executions[index]? = some execution →
      execution.stage = .enqueueing →
      (System.run coordinator actions).shared.enqueue coordinator execution.target.binding
          execution.bodyBytes.val = .error failure →
        (System.run coordinator (actions ++ [.advance index answers])).shared =
          (System.run coordinator actions).shared) := by
  have configured := newAdmissionCoordinator_configured accepted
  have wellFormed := System.run_wellFormed coordinator actions
  have queued := System.run_queued configured actions
  constructor
  · intro target mem source
    have bounded := queued.bounded target mem source
    have nonneg := System.waitingBytes_sum_nonneg wellFormed (activationKey target.binding)
    rw [← queued.bytes] at nonneg
    have exactRoom := queued.free_exact wellFormed mem source
    refine ⟨?_, ?_, ?_, bounded.1, nonneg, bounded.2, exactRoom, ?_⟩
    · rw [queued.waiters, System.waiting, countP_eq_length_filter]
    · rw [queued.bytes, System.waiting, sum_map_filter]
      rfl
    · rw [queued.waiters]
      exact Int.natCast_nonneg _
    · intro bodyBytes body fitting
      have upper := target.binding.maxQueuedBodyBytes.property.2
      apply wrapInt64_of_nonneg <;> omega
  · intro index execution answers failure found stage rejected
    rw [System.run_concat, System.step_advance found]
    unfold Execution.advance
    rw [stage]
    dsimp only
    rw [rejected]

/-- One cold request waits in the queue of a binding with room for it. -/
theorem admissionQueue_accounted_waiting :
    let system := System.run sampleCoordinator
      [.acquire none { deployment := ascii "d", bodyBytes := ⟨5, by decide⟩ },
        .advance 0 {}, .advance 0 {}]
    newAdmissionCoordinator [sampleTarget] sampleOptions = .ok sampleCoordinator ∧
      (system.waiting sampleTarget.binding).length = 1 ∧
      (system.shared.bindings (activationKey sampleTarget.binding)).queuedBodyBytes =
        ((system.waiting sampleTarget.binding).map fun execution =>
          execution.bodyBytes.val).sum := by
  intro system
  refine ⟨sampleCoordinator_accepted, rfl, ?_⟩
  exact ((admissionQueue_accounted sampleCoordinator_accepted _).1 sampleTarget
    mem_cons_self rfl).2.1

end SparkRoute.Lifecycle
