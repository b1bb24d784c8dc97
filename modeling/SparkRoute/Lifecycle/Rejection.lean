import Mathlib.Data.List.Induction
import SparkRoute.Lifecycle.Steps

/-!
# Rejections and the activation in progress

`recordRejected` reads the state of a binding in one critical section and writes
it back in another, together with new activation timestamps.  `owned` is what the
activation fields would be if only the other transitions wrote them; the two
agree along a run exactly when every rejection finds what it writes.
-/

namespace SparkRoute.Lifecycle

open Lib List Function Shared
open Registry

structure Activation where
  state : State := .offline
  started : Option Int := none
  deadline : Option Int := none
  deriving DecidableEq

namespace Activation

/-- The fields that a transition to `state` at `now` leaves behind. -/
def entered (binding : Binding) (state : State) (now : Int) : Activation where
  state := state
  started := if state = .activating then some now else none
  deadline := if state = .activating then some (now + binding.activationTimeout) else none

def admitted (activation : Activation) : Activation :=
  { activation with state := .ready }

end Activation

def AdmissionBindingState.activation (state : AdmissionBindingState) : Activation :=
  ⟨state.state, state.activationStarted, state.activationDeadline⟩

def System.activations (system : System) (key : GoString) : Activation :=
  (system.shared.bindings key).activation

namespace Execution

/-- What a step of a request other than a rejection does to the activation fields of
its binding. -/
def writes (execution : Execution) (shared : Shared) (answers : Answers) :
    Activation → Activation :=
  let binding := execution.target.binding
  match execution.stage with
  | .activating _ => fun _ => .entered binding .activating answers.now
  | .announcing _ => fun _ => .entered binding .ready answers.now
  | .failing _ => fun _ => .entered binding .failed answers.now
  | .admitting endpoint attempt =>
    if execution.target.source = .activatable ∧
        (shared.admitEndpoint execution.target endpoint execution.held
          attempt.isSome).isSome then
      Activation.admitted
    else id
  | _ => id

def rejects (execution : Execution) : Bool :=
  match execution.stage with
  | .rejected _ _ => true
  | _ => false

end Execution

namespace System

/-- The activation fields as every step but the rejections leaves them. -/
def own (system : System) (record : GoString → Activation) : Action → GoString → Activation
  | .advance index answers =>
    match system.executions[index]? with
    | none => record
    | some execution =>
      Function.update record (activationKey execution.target.binding)
        (execution.writes system.shared answers
          (record (activationKey execution.target.binding)))
  | _ => record

def ownStep (coordinator : AdmissionCoordinator) (state : System × (GoString → Activation))
    (action : Action) : System × (GoString → Activation) :=
  (state.1.step coordinator action, state.1.own state.2 action)

def owned (coordinator : AdmissionCoordinator) (actions : List Action) : GoString → Activation :=
  (Lib.run (ownStep coordinator) ({}, fun _ => {}) actions).2

variable (coordinator : AdmissionCoordinator)

theorem run_ownStep (actions : List Action) (start : System × (GoString → Activation)) :
    (Lib.run (ownStep coordinator) start actions).1 =
      Lib.run (step coordinator) start.1 actions := by
  induction actions generalizing start with
  | nil => rfl
  | cons action actions ih =>
    rw [run_cons, run_cons, ih]
    rfl

theorem owned_concat (actions : List Action) (action : Action) :
    owned coordinator (actions ++ [action]) =
      (run coordinator actions).own (owned coordinator actions) action := by
  have reached : (Lib.run (ownStep coordinator) ({}, fun _ => {}) actions).1 =
      run coordinator actions := run_ownStep coordinator actions _
  unfold owned
  rw [Lib.run_concat, ← reached]
  rfl

end System

namespace Shared

def activations (shared : Shared) (key : GoString) : Activation :=
  (shared.bindings key).activation

variable (shared : Shared)

theorem setBinding_activations (key : GoString) (state : AdmissionBindingState) :
    (shared.setBinding key state).activations =
      Function.update shared.activations key state.activation := by
  funext other
  dsimp only [activations, setBinding]
  by_cases same : other = key
  · subst same
    rw [update_self, update_self]
  · rw [update_of_ne same, update_of_ne same]
    rfl

theorem setBinding_activations_same {key : GoString} {state : AdmissionBindingState}
    (same : state.activation = shared.activations key) :
    (shared.setBinding key state).activations = shared.activations := by
  rw [setBinding_activations, same, update_eq_self]

theorem transition_activations (binding : Binding) (newState : State) (reason : Reason)
    (endpoint : Option Endpoint) (now : Int) :
    (shared.transition binding newState reason endpoint now).activations =
      Function.update shared.activations (activationKey binding)
        (.entered binding newState now) :=
  setBinding_activations _ _ _

variable {shared}

theorem activations_congr {after : Shared} (same : after.bindings = shared.bindings) :
    after.activations = shared.activations := by
  unfold activations
  rw [same]

variable (coordinator : AdmissionCoordinator)

theorem discountLease_activations (deployment : GoString) :
    (shared.discountLease coordinator deployment).activations = shared.activations := by
  fun_cases discountLease shared coordinator deployment with
  | case1 =>
    apply setBinding_activations_same
    rfl
  | _ => rfl

theorem accountRelease_activations (index : Nat) :
    (shared.accountRelease coordinator index).activations = shared.activations := by
  fun_cases accountRelease shared coordinator index with
  | case1 => exact discountLease_activations coordinator _
  | _ => rfl

theorem admitEndpoint_activations {target : Target} {endpoint : Endpoint}
    {controllerLease : Option (Nat × Lease)} {enforceCapacity : Bool} {extended : Shared}
    (accepted : shared.admitEndpoint target endpoint controllerLease enforceCapacity =
      some extended) :
    extended.activations =
      if target.source = .activatable then
        Function.update shared.activations (activationKey target.binding)
          (shared.activations (activationKey target.binding)).admitted
      else shared.activations := by
  cases (Option.ite_none_left_eq_some.mp accepted).2
  dsimp only [countLease]
  by_cases source : target.source = .activatable
  · rw [if_pos source, if_pos source]
    exact setBinding_activations _ _ _
  · rw [if_neg source, if_neg source]
    rfl

end Shared

namespace Execution

variable {coordinator : AdmissionCoordinator} {shared : Shared} {execution : Execution}

theorem left_activations (execution : Execution) (shared : Shared) :
    (execution.left shared).activations = shared.activations := by
  fun_cases left execution shared with
  | case1 =>
    apply setBinding_activations_same
    rfl
  | case2 => rfl

theorem advance_writes (accepting : execution.rejects = false) (answers : Answers) :
    (execution.advance coordinator shared answers).1.activations =
      Function.update shared.activations (activationKey execution.target.binding)
        (execution.writes shared answers
          (shared.activations (activationKey execution.target.binding))) := by
  have still : ∀ after : Shared, after.activations = shared.activations → after.activations =
      Function.update shared.activations (activationKey execution.target.binding)
        (id (shared.activations (activationKey execution.target.binding))) := by
    intro after same
    rw [id, update_eq_self, same]
  fun_cases advance coordinator shared execution answers with
  | case10 binding failure current place => simp [rejects, place] at accepting
  | case12 binding place extended outcome =>
    simp only [Shared.enqueue, check_eq_ok] at outcome
    cases outcome.2.2
    simp only [writes, place]
    exact still _ (Shared.setBinding_activations_same _ rfl)
  | case17 _ _ place | case27 _ _ place | case30 _ _ place =>
    simp only [writes, place]
    exact transition_activations _ _ _ _ _ _
  | case31 endpoint attempt place extended outcome =>
    simp only [writes, place, outcome, Option.isSome_some, and_true]
    have moved := admitEndpoint_activations outcome
    split
    next source => exact moved.trans (if_pos source)
    next source => exact still extended (moved.trans (if_neg source))
  | case32 endpoint attempt place outcome | case33 endpoint attempt place outcome =>
    simp only [writes, place, outcome, Option.isSome_none, Bool.false_eq_true, and_false, if_false]
    exact still _ rfl
  | case34 | case35 =>
    simp only [writes, ‹execution.stage = _›]
    exact still _ (left_activations execution shared)
  | case36 =>
    simp only [writes, ‹execution.stage = _›]
    apply still
    exact (activations_congr (markReturned_bindings _ _)).trans
      (left_activations execution shared)
  | case37 lease place =>
    simp only [writes, place]
    exact still _ (activations_congr (claimRelease_bindings _ _))
  | _ =>
    simp only [writes, ‹execution.stage = _›]
    exact still _ rfl

end Execution

/-- A rejection that writes `current` at `now` would change nothing: the binding still
has the state that was read, and its clock is the one the rejection sets. -/
structure AdmissionBindingState.Undisturbed (state : AdmissionBindingState)
    (binding : Binding) (current : State) (now : Int) : Prop where
  unmoved : state.state = current
  activating : current = .activating → state.activationStarted = some now ∧
    state.activationDeadline = some (now + binding.activationTimeout)
  settled : current ≠ .activating →
    state.activationStarted = none ∧ state.activationDeadline = none

theorem undisturbed_iff {state : AdmissionBindingState} {binding : Binding}
    {current : State} {now : Int} :
    state.Undisturbed binding current now ↔
      state.activation = .entered binding current now := by
  unfold AdmissionBindingState.activation Activation.entered
  rw [Activation.mk.injEq]
  by_cases activating : current = .activating
  · rw [if_pos activating, if_pos activating]
    constructor
    · intro undisturbed
      exact ⟨undisturbed.unmoved, undisturbed.activating activating⟩
    · rintro ⟨same, clock⟩
      exact ⟨same, fun _ => clock, fun settled => absurd activating settled⟩
  · rw [if_neg activating, if_neg activating]
    constructor
    · intro undisturbed
      exact ⟨undisturbed.unmoved, undisturbed.settled activating⟩
    · rintro ⟨same, clock⟩
      exact ⟨same, fun entered => absurd entered activating, fun _ => clock⟩

namespace System

variable {coordinator : AdmissionCoordinator} {system : System}

/-- The action is the write of a rejection by `execution`. -/
def Rejects (system : System) (action : Action) (execution : Execution) (current : State)
    (answers : Answers) : Prop :=
  ∃ index failure, action = .advance index answers ∧
    system.executions[index]? = some execution ∧ execution.stage = .rejected failure current

theorem step_own {action : Action}
    (accepting : ∀ execution current answers, ¬ system.Rejects action execution current answers) :
    (system.step coordinator action).activations = system.own system.activations action := by
  cases action with
  | acquire cancelled request | start deployment =>
    dsimp only [step]
    split <;> rfl
  | advance index answers =>
    cases found : system.executions[index]? with
    | none => simp only [step, own, found]
    | some execution =>
      rw [step_advance found]
      simp only [own, found]
      apply Execution.advance_writes
      unfold Execution.rejects
      split
      next failure current stage =>
        exact absurd ⟨index, failure, rfl, found, stage⟩ (accepting execution current answers)
      · rfl
  | release index =>
    dsimp only [step]
    split
    · rfl
    · split
      · exact activations_congr (claimRelease_bindings _ _)
      · rfl
  | account index => exact accountRelease_activations _ index
  | pass index => exact activations_congr (passRelease_bindings _ _)

theorem step_rejected (coordinator : AdmissionCoordinator) {action : Action}
    {execution : Execution} {current : State} {answers : Answers}
    (rejects : system.Rejects action execution current answers) :
    (system.step coordinator action).activations =
        Function.update system.activations (activationKey execution.target.binding)
          (.entered execution.target.binding current answers.now) ∧
      ∀ record, system.own record action = record := by
  obtain ⟨index, failure, rfl, found, stage⟩ := rejects
  constructor
  · rw [step_advance found]
    unfold Execution.advance
    rw [stage]
    exact transition_activations _ _ _ _ _ _
  · intro record
    simp only [own, found]
    unfold Execution.writes
    rw [stage]
    exact update_eq_self _ _

/-- One step keeps the activation fields what the other transitions made them exactly
when it is no rejection or a rejection that changes nothing. -/
theorem step_owned_iff (action : Action) :
    (system.step coordinator action).activations = system.own system.activations action ↔
      ∀ execution current answers, system.Rejects action execution current answers →
        (system.shared.bindings (activationKey execution.target.binding)).Undisturbed
          execution.target.binding current answers.now := by
  constructor
  · intro same execution current answers rejects
    obtain ⟨written, unowned⟩ := step_rejected coordinator rejects
    rw [written, unowned] at same
    rw [undisturbed_iff]
    have found := congrFun same (activationKey execution.target.binding)
    rw [update_self] at found
    exact found.symm
  · intro undisturbed
    by_cases accepting : ∀ execution current answers,
        ¬ system.Rejects action execution current answers
    · exact step_own accepting
    · push Not at accepting
      obtain ⟨execution, current, answers, rejects⟩ := accepting
      obtain ⟨written, unowned⟩ := step_rejected coordinator rejects
      rw [written, unowned, ← undisturbed_iff.mp (undisturbed _ _ _ rejects)]
      exact update_eq_self _ _

/-- Along a run the activation fields of every binding are what the transitions other
than rejections last made them, in every state reached, if and only if every
rejection finds what it writes. -/
theorem rejections_undisturbed_iff (coordinator : AdmissionCoordinator) (actions : List Action) :
    (∀ before after, actions = before ++ after →
      (run coordinator before).activations = owned coordinator before) ↔
    (∀ before action after, actions = before ++ action :: after →
      ∀ execution current answers,
        (run coordinator before).Rejects action execution current answers →
          ((run coordinator before).shared.bindings
            (activationKey execution.target.binding)).Undisturbed
              execution.target.binding current answers.now) := by
  constructor
  · intro agree before action after split
    have earlier := agree before (action :: after) split
    have later := agree (before ++ [action]) after (by rw [split, append_cons])
    rw [run_concat, owned_concat, ← earlier] at later
    exact (step_owned_iff action).mp later
  · intro undisturbed before
    induction before using List.reverseRecOn with
    | nil =>
      intro after _
      rfl
    | append_singleton before action ih =>
      intro after split
      rw [append_assoc, singleton_append] at split
      have earlier := ih (action :: after) split
      rw [run_concat, owned_concat, ← earlier]
      exact (step_owned_iff action).mpr (undisturbed before action after split)

/-- The owner of an activation, and a second request that its full queue turns away,
up to the moment when the rejection has read the state. -/
def overtaken : List Action :=
  [.acquire none sampleRequest,
    .advance 0 {}, .advance 0 {},
    .advance 0 { begin := .ok ⟨ascii "1:cr", ascii "a-1", 1, .owner, 10⟩ },
    .advance 0 { now := 0 },
    .acquire none sampleRequest,
    .advance 1 {}, .advance 1 {}, .advance 1 {}, .advance 1 {}]

/-- The rejection restarts the clock of the activation in progress, and when the
activation fails first, the rejection turns the failed binding back to activating. -/
theorem rejection_overwrites_activation :
    (run sampleCoordinator overtaken).activations (ascii "1:cr") =
        ⟨.activating, some 0, some 10⟩ ∧
      (run sampleCoordinator (overtaken ++ [.advance 1 { now := 7 }])).activations
        (ascii "1:cr") = ⟨.activating, some 7, some 17⟩ ∧
      (run sampleCoordinator (overtaken ++
        [.advance 0 {}, .advance 0 {}, .advance 0 { now := 6 }])).activations
        (ascii "1:cr") = ⟨.failed, none, none⟩ ∧
      (run sampleCoordinator (overtaken ++
        [.advance 0 {}, .advance 0 {}, .advance 0 { now := 6 },
          .advance 1 { now := 7 }])).activations
        (ascii "1:cr") = ⟨.activating, some 7, some 17⟩ := by
  refine ⟨?_, ?_, ?_, ?_⟩ <;> decide +kernel

end System

end SparkRoute.Lifecycle
