import SparkRoute.Lifecycle.Leases

/-!
# Who has an admitted lease

An admission lease is carried by the request that obtained it until the lease is
returned to the caller of `Acquire`, or until `Start` has released it.
-/

namespace SparkRoute.Lifecycle

open Lib List Shared
open Registry

/-- The request has the lease and still has to return or release it. -/
def Stage.carries (index : Nat) : Stage → Bool
  | .leaving (.ok lease) => lease = index
  | .releasing lease => lease = index
  | .returning lease => lease = index
  | _ => false

def AdmissionLease.delivered (lease : AdmissionLease) : Bool :=
  lease.returned || decide (lease.phase = .passed)

namespace Shared

variable {shared : Shared}

/-- No lease disappears, and a delivered lease stays delivered. -/
structure Advances (before after : Shared) : Prop where
  length : after.leases.length = before.leases.length
  kept : ∀ (index : Nat) (lease later : AdmissionLease),
    before.leases[index]? = some lease → after.leases[index]? = some later →
      lease.delivered = true → later.delivered = true

theorem Advances.of_leases {after : Shared} (same : after.leases = shared.leases) :
    shared.Advances after := by
  refine ⟨congrArg List.length same, ?_⟩
  intro index lease later found foundLater delivered
  rw [same, found, Option.some.injEq] at foundLater
  exact foundLater ▸ delivered

/-- At most one lease has changed: it is further on in `Release`, or has been returned. -/
def Touches (before after : Shared) : Prop :=
  after.leases = before.leases ∨
    ∃ index lease changed, before.leases[index]? = some lease ∧
      after.leases = before.leases.set index changed ∧
      (lease.endpoint = changed.endpoint ∧ lease.deployment = changed.deployment ∧
        lease.controllerLease = changed.controllerLease) ∧
      (lease.delivered = true → changed.delivered = true)

theorem Touches.advances {after : Shared} (touches : shared.Touches after) :
    shared.Advances after := by
  obtain same | ⟨index, lease, changed, found, same, _, kept⟩ := touches
  · exact .of_leases same
  · refine ⟨by rw [same, length_set], ?_⟩
    intro other before later foundBefore foundLater delivered
    rw [same] at foundLater
    by_cases own : index = other
    · subst own
      rw [found, Option.some.injEq] at foundBefore
      obtain ⟨bound, _⟩ := List.getElem?_eq_some_iff.mp found
      rw [List.getElem?_set_self bound, Option.some.injEq] at foundLater
      rw [← foundLater]
      exact kept (foundBefore ▸ delivered)
    · rw [List.getElem?_set_ne own, foundBefore, Option.some.injEq] at foundLater
      exact foundLater ▸ delivered

variable (shared)

theorem markReturned_touches (index : Nat) : shared.Touches (shared.markReturned index) := by
  fun_cases markReturned shared index with
  | case1 => exact .inl rfl
  | case2 lease found => exact .inr ⟨index, lease, _, found, rfl, ⟨rfl, rfl, rfl⟩, fun _ => rfl⟩

theorem claimRelease_touches (index : Nat) : shared.Touches (shared.claimRelease index) := by
  fun_cases claimRelease shared index with
  | case1 lease found held =>
    refine .inr ⟨index, lease, _, found, rfl, ⟨rfl, rfl, rfl⟩, ?_⟩
    simp [AdmissionLease.delivered, held]
  | _ => exact .inl rfl

theorem accountRelease_touches (coordinator : AdmissionCoordinator) (index : Nat) :
    shared.Touches (shared.accountRelease coordinator index) := by
  fun_cases accountRelease shared coordinator index with
  | case1 lease found claimed =>
    refine .inr ⟨index, lease, { lease with phase := .accounted }, found, ?_, ⟨rfl, rfl, rfl⟩, ?_⟩
    · exact congrArg (List.set · index _) (discountLease_leases _ coordinator _).1
    · simp [AdmissionLease.delivered, claimed]
  | _ => exact .inl rfl

theorem passRelease_touches (index : Nat) : shared.Touches (shared.passRelease index) := by
  fun_cases passRelease shared index with
  | case1 lease found | case2 lease found =>
    refine .inr ⟨index, lease, { lease with phase := .passed }, found, rfl, ⟨rfl, rfl, rfl⟩, ?_⟩
    simp [AdmissionLease.delivered]
  | _ => exact .inl rfl

theorem left_leases (execution : Execution) : (execution.left shared).leases = shared.leases := by
  fun_cases Execution.left execution shared <;> rfl

variable {shared}

theorem markReturned_delivered {index : Nat} {later : AdmissionLease}
    (found : (shared.markReturned index).leases[index]? = some later) : later.delivered = true := by
  unfold markReturned at found
  split at found
  next absent =>
    rw [absent] at found
    cases found
  next lease present =>
    obtain ⟨bound, _⟩ := List.getElem?_eq_some_iff.mp present
    dsimp only [Shared.setLease] at found
    rw [List.getElem?_set_self bound, Option.some.injEq] at found
    rw [← found]
    rfl

theorem admitEndpoint_leases {target : Target} {endpoint : Endpoint}
    {controllerLease : Option (Nat × Lease)} {enforceCapacity : Bool} {extended : Shared}
    (accepted : shared.admitEndpoint target endpoint controllerLease enforceCapacity =
      some extended) :
    extended.leases = shared.leases ++
      [{ endpoint := endpoint, deployment := target.deployment,
         controllerLease := controllerLease }] := by
  cases (Option.ite_none_left_eq_some.mp accepted).2
  rfl

end Shared

theorem Effect.leases {coordinator : AdmissionCoordinator} {shared after : Shared}
    {execution moved : Execution} {answers : Answers}
    (effect : Effect coordinator shared execution answers after moved) :
    shared.Touches after ∨ ∃ endpoint attempt, execution.stage = .admitting endpoint attempt ∧
      shared.admitEndpoint execution.target endpoint execution.held attempt.isSome = some after ∧
      moved.stage = .leaving (.ok shared.leases.length) := by
  cases effect with
  | quiet | wrote | granted | discarded => exact .inl (.inl rfl)
  | enqueued _ _ accepted =>
    obtain ⟨state, equal, _⟩ := enqueue_setBinding accepted
    exact .inl (.inl (by rw [equal]; rfl))
  | admitted endpoint attempt admitting accepted =>
    exact .inr ⟨endpoint, attempt, admitting, accepted, rfl⟩
  | departed => exact .inl (.inl (left_leases _ _))
  | returned lease =>
    have touches := markReturned_touches (execution.left shared) lease
    unfold Touches at touches
    rw [left_leases] at touches
    exact .inl touches
  | claimed lease => exact .inl (claimRelease_touches _ lease)

namespace Execution

variable {coordinator : AdmissionCoordinator} {shared : Shared} {execution : Execution}

theorem advance_carries {index : Nat} (carried : execution.stage.carries index = true)
    (answers : Answers) :
    (execution.advance coordinator shared answers).2.stage.carries index = true ∨
      ∀ later, (execution.advance coordinator shared answers).1.leases[index]? =
        some later → later.delivered = true := by
  fun_cases advance coordinator shared execution answers
  all_goals rw [‹execution.stage = _›] at carried
  case case35 | case37 => exact .inl carried
  case case36 =>
    refine .inr fun later found => ?_
    rw [← of_decide_eq_true carried] at found
    exact markReturned_delivered found
  case case38 lease _ passed =>
    refine .inr fun later found => ?_
    have same : lease = index := of_decide_eq_true carried
    rw [same, show shared.leases[index]? = some later from found] at passed
    simp [AdmissionLease.delivered, Option.some.inj passed]
  case case39 =>
    rw [‹execution.stage = _›]
    exact .inl carried
  all_goals cases carried

end Execution

namespace System

variable {coordinator : AdmissionCoordinator} {system : System}

/-- Every lease is delivered or carried by a request. -/
def Delivered (system : System) : Prop :=
  ∀ (index : Nat) (lease : AdmissionLease), system.shared.leases[index]? = some lease →
    lease.delivered = true ∨
      ∃ execution ∈ system.executions, execution.stage.carries index = true

variable {position : Nat} {moved : Execution} {answers : Answers}

theorem Delivered.advances (delivered : system.Delivered) {shared : Shared}
    (advances : system.shared.Advances shared) : Delivered { system with shared := shared } := by
  intro index later foundLater
  obtain ⟨bound, _⟩ := List.getElem?_eq_some_iff.mp foundLater
  rw [advances.length] at bound
  have present : system.shared.leases[index]? = some system.shared.leases[index] :=
    List.getElem?_eq_getElem bound
  rcases delivered index _ present with settled | carried
  · exact Or.inl (advances.kept index _ later present foundLater settled)
  · exact Or.inr carried

section

variable {execution : Execution} {shared : Shared}
  (found : system.executions[position]? = some execution)
  (advanced : execution.advance coordinator system.shared answers = (shared, moved))

include found advanced

theorem carried_kept {index : Nat}
    (carried : ∃ carrier ∈ system.executions, carrier.stage.carries index = true) :
    (∀ later, shared.leases[index]? = some later → later.delivered = true) ∨
      ∃ carrier ∈ system.executions.set position moved, carrier.stage.carries index = true := by
  obtain ⟨carrier, mem, carries⟩ := carried
  obtain ⟨place, present⟩ := mem_iff_getElem?.mp mem
  by_cases same : position = place
  · subst same
    rw [found, Option.some.injEq] at present
    subst present
    obtain ⟨bound, _⟩ := List.getElem?_eq_some_iff.mp found
    have kept : (execution.advance coordinator system.shared answers).2.stage.carries index =
        true ∨ ∀ later, (execution.advance coordinator system.shared answers).1.leases[index]? =
          some later → later.delivered = true := Execution.advance_carries carries answers
    rw [advanced] at kept
    rcases kept with still | delivered
    · refine Or.inr ⟨moved, ?_, still⟩
      exact mem_of_getElem? (List.getElem?_set_self bound)
    · exact Or.inl delivered
  · refine Or.inr ⟨carrier, ?_, carries⟩
    apply mem_of_getElem?
    rw [List.getElem?_set_ne same]
    exact present

theorem Delivered.stepped (delivered : system.Delivered)
    (advances : system.shared.Advances shared) (trace : List (Execution × Answers)) :
    Delivered ⟨shared, system.executions.set position moved, trace⟩ := by
  intro index later foundLater
  rcases delivered.advances advances index later foundLater with settled | carried
  · exact Or.inl settled
  · rcases carried_kept found advanced carried with reached | still
    · exact Or.inl (reached later foundLater)
    · exact Or.inr still

theorem Delivered.admitted (delivered : system.Delivered) {lease : AdmissionLease}
    (leases : shared.leases = system.shared.leases ++ [lease])
    (carries : moved.stage.carries system.shared.leases.length = true)
    (trace : List (Execution × Answers)) :
    Delivered ⟨shared, system.executions.set position moved, trace⟩ := by
  intro index later foundLater
  by_cases earlier : index < system.shared.leases.length
  · rw [leases, List.getElem?_append_left earlier] at foundLater
    rcases delivered index later foundLater with settled | carried
    · exact Or.inl settled
    · rcases carried_kept found advanced carried with reached | still
      · refine Or.inl (reached later ?_)
        rw [leases, List.getElem?_append_left earlier]
        exact foundLater
      · exact Or.inr still
  · have last : index = system.shared.leases.length := by
      obtain ⟨bound, _⟩ := List.getElem?_eq_some_iff.mp foundLater
      rw [leases, length_append, length_singleton] at bound
      omega
    obtain ⟨bound, _⟩ := List.getElem?_eq_some_iff.mp found
    refine Or.inr ⟨moved, mem_of_getElem? (List.getElem?_set_self bound), ?_⟩
    rw [last]
    exact carries

end

theorem Delivered.kept (delivered : system.Delivered) {after : System}
    (effect : SystemEffect coordinator system after) : after.Delivered := by
  cases effect with
  | idle => exact delivered
  | opened execution fresh =>
    intro index lease found
    rcases delivered index lease found with settled | ⟨carrier, mem, carries⟩
    · exact Or.inl settled
    · exact Or.inr ⟨carrier, mem_append_left _ mem, carries⟩
  | moved found advanced effect fits =>
    rcases effect.leases with touches | ⟨endpoint, attempt, _, accepted, stage⟩
    · exact delivered.stepped found advanced touches.advances _
    · refine delivered.admitted found advanced (admitEndpoint_leases accepted) ?_ _
      rw [stage]
      exact decide_eq_true rfl
  | released found returned => exact delivered.advances (claimRelease_touches _ _).advances
  | accounted index =>
    exact delivered.advances (accountRelease_touches _ coordinator index).advances
  | passed index => exact delivered.advances (passRelease_touches _ index).advances

theorem run_delivered (coordinator : AdmissionCoordinator) (actions : List Action) :
    (run coordinator actions).Delivered :=
  run_kept (fun _ _ found => by cases found)
    (fun _ delivered effect => delivered.kept effect) actions

end System

end SparkRoute.Lifecycle
