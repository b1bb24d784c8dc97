import SparkRoute.Sparkrun.Gates

/-!
# Workloads and their recipe revisions

The gates are kept per recipe revision, but jobs, leases and stops name workloads. `revisionOf`
assigns each workload a revision. When the bridge reports every workload under its own revision
and calls come with configured bindings, every task works behind the gate of the revision of the
workload it works on.
-/

namespace SparkRoute.Sparkrun

open Lib List Workloads
open Lifecycle (activationKey)

variable {platform : Platform} {workloads : Workloads} {controller : Controller}

section Revisions

variable (revisionOf : GoString → GoString)

/-- The bridge reports a workload under the revision it runs. -/
def Endpoint.Identified (endpoint : Endpoint) : Prop :=
  endpoint.recipeRevision = revisionOf endpoint.workloadID

def Answers.Identified (answers : Answers) : Prop :=
  (∀ result ∈ answers.ensured, ∀ endpoint ∈ result.endpoint, endpoint.Identified revisionOf) ∧
    ∀ endpoints ∈ answers.discovered, ∀ endpoint ∈ endpoints, endpoint.Identified revisionOf

/-- The binding is the one configured for its deployment, whatever its fencing token. -/
def Generation.Configures (generation : Generation) (binding : Binding) : Prop :=
  ∃ target, generation.lookup binding.deployment = some target ∧
    target.source = .activatable ∧
    activationKey target.binding.toBinding = activationKey binding.toBinding ∧
    target.binding.recipeRevision = binding.recipeRevision

def Action.Coherent (generations : Nat → Generation) : Action → Prop
  | .ensureReady controller binding _ => (generations controller).Configures binding
  | .stop controller binding => (generations controller).Configures binding
  | .advance _ answers => answers.Identified revisionOf
  | _ => True

/-! ### What coherent states look like -/

/-- A registration stands for a workload of the revision that owns the activation key. -/
def Registration.Fits (generation : Generation) (key : GoString) (registration : Registration) :
    Prop :=
  ∃ target ∈ generation.targets, target.source = .activatable ∧
    activationKey target.binding.toBinding = key ∧
    target.binding.recipeRevision = revisionOf registration.endpoint.clusterID

def Controller.Coherent (generation : Generation) (controller : Controller) : Prop :=
  ∀ key state registration, controller.states.get key = some state →
    state.endpoint = some registration → registration.Fits revisionOf generation key

structure Workloads.Coherent (workloads : Workloads) : Prop where
  revision : ∀ id job, workloads.jobs.get id = some job →
    job.binding.recipeRevision = revisionOf id
  prepared : ∀ id job endpoint, workloads.jobs.get id = some job →
    job.prepared = some endpoint → endpoint.Identified revisionOf
  policies : ∀ policies, workloads.policies = some policies →
    Workloads.PoliciesCoherent policies

/-- The endpoint that an `EnsureReady` call registers for its binding. -/
structure EnsureCall.Registers (call : EnsureCall) (registration : Registration)
    (discovered : Endpoint) : Prop where
  identified : discovered.Identified revisionOf
  workload : registration.endpoint.clusterID = discovered.workloadID
  revision : discovered.recipeRevision = call.binding.recipeRevision

def EnsureStage.Coherent (call : EnsureCall) : EnsureStage → Prop
  | .granting registration | .settling registration =>
    revisionOf registration.endpoint.clusterID = call.binding.recipeRevision
  | .verifying result => ∀ endpoint ∈ result.endpoint, endpoint.Identified revisionOf
  | .approving registration discovered | .registering registration discovered _
  | .publishing registration discovered | .observing registration discovered =>
    call.Registers revisionOf registration discovered
  | _ => True

def StopStage.entered : StopStage → Bool
  | .checking | .left _ => false
  | _ => true

/-- A target of the generation and an endpoint that matches it. -/
structure Target.Reports (generation : Generation) (target : Target) (discovered : Endpoint) :
    Prop where
  configured : target ∈ generation.targets
  identified : discovered.Identified revisionOf
  revision : target.source = .activatable →
    discovered.recipeRevision = target.binding.recipeRevision

structure Sweep.Coherent (generation : Generation) (sweep : Sweep) : Prop where
  endpoints : ∀ endpoint ∈ sweep.endpoints, endpoint.Identified revisionOf
  targets : ∀ target ∈ sweep.targets, target ∈ generation.targets

def ReconcileStage.Coherent (generation : Generation) : ReconcileStage → Prop
  | .discovering order => ∀ target ∈ order, target ∈ generation.targets
  | .visiting sweep => sweep.Coherent revisionOf generation
  | .scanning target remaining sweep =>
    target ∈ generation.targets ∧
      (∀ endpoint ∈ remaining, endpoint.Identified revisionOf) ∧
      sweep.Coherent revisionOf generation
  | .observing target discovered remaining sweep =>
    target.source = .activatable ∧ target.Reports revisionOf generation discovered ∧
      (∀ endpoint ∈ remaining, endpoint.Identified revisionOf) ∧
      sweep.Coherent revisionOf generation
  | .fencing target discovered remaining sweep =>
    target.Reports revisionOf generation discovered ∧
      (∀ endpoint ∈ remaining, endpoint.Identified revisionOf) ∧
      sweep.Coherent revisionOf generation
  | .approving target registration remaining sweep
  | .registering target registration _ remaining sweep
  | .refreshing target registration remaining sweep =>
    (target ∈ generation.targets ∧ (target.source = .activatable →
      target.binding.recipeRevision = revisionOf registration.endpoint.clusterID)) ∧
      (∀ endpoint ∈ remaining, endpoint.Identified revisionOf) ∧
      sweep.Coherent revisionOf generation
  | .done => True

def IdleStage.Coherent (timer : IdleTimer) : IdleStage → Prop
  | .fired | .done => True
  | .waiting binding | .checking binding | .committed binding | .calling binding
  | .settling binding _ | .leaving binding => binding.recipeRevision = revisionOf timer.id

def RecoveryStage.Coherent (job : RecoveryJob) : RecoveryStage → Prop
  | .fired | .done => True
  | .waiting binding | .checking binding | .draining binding | .expired binding
  | .committing binding | .committed binding | .callingStop binding | .confirming binding _
  | .restarting binding | .starting binding | .callingStart binding | .sleeping binding
  | .retrying binding | .leaving binding => binding.recipeRevision = revisionOf job.id
  | .judging binding result =>
    binding.recipeRevision = revisionOf job.id ∧
      ∀ answer ∈ result, ∀ endpoint ∈ answer.endpoint, endpoint.Identified revisionOf
  | .observing binding endpoint =>
    binding.recipeRevision = revisionOf job.id ∧ endpoint.Identified revisionOf ∧
      endpoint.recipeRevision = binding.recipeRevision

def Task.Coherent (generations : Nat → Generation) : Task → Prop
  | .ensureReady call stage =>
    (generations call.controller).Configures call.binding ∧ stage.Coherent revisionOf call
  | .stop call place =>
    (generations call.controller).Configures call.binding ∧
      match place with
      | .waiting id => id ≠ [] → revisionOf id = call.binding.recipeRevision
      | .locked id stage =>
        (id ≠ [] → revisionOf id = call.binding.recipeRevision) ∧
          (stage.entered = true → id ≠ [])
      | _ => True
  | .control _ _ => True
  | .reconcile controller stage => stage.Coherent revisionOf (generations controller)
  | .idle timer stage => stage.Coherent revisionOf timer
  | .recovery job stage => stage.Coherent revisionOf job

structure System.Coherent (generations : Nat → Generation) (system : System) : Prop where
  workloads : system.workloads.Coherent revisionOf
  controllers : ∀ index, (system.controllers index).Coherent revisionOf (generations index)
  tasks : ∀ task ∈ system.tasks, task.Coherent revisionOf generations

end Revisions

/-! ### Workloads -/

variable {revisionOf : GoString → GoString}

namespace Workloads.Coherent

theorem traced {after : Workloads} (coherent : workloads.Coherent revisionOf)
    (policies : ∀ policies, after.policies = some policies → Workloads.PoliciesCoherent policies)
    (back : ∀ id job, after.jobs.get id = some job → ∃ old, workloads.jobs.get id = some old ∧
      job.binding.recipeRevision = old.binding.recipeRevision ∧ job.prepared = old.prepared) :
    after.Coherent revisionOf where
  revision := by
    intro id job present
    obtain ⟨old, before, revision, _⟩ := back id job present
    rw [revision]
    exact coherent.revision id old before
  prepared := by
    intro id job endpoint present there
    obtain ⟨old, before, _, same⟩ := back id job present
    exact coherent.prepared id old endpoint before (same ▸ there)
  policies := policies

theorem kept {after : Workloads} (coherent : workloads.Coherent revisionOf)
    (jobs : workloads.JobsKept after) (policies : ∀ policies, after.policies = some policies →
      Workloads.PoliciesCoherent policies) : after.Coherent revisionOf := by
  refine coherent.traced policies fun id job present => ?_
  obtain ⟨old, before, same⟩ := jobs.backward present
  exact ⟨old, before, same.revision, same.prepared⟩

theorem acquire (coherent : workloads.Coherent revisionOf) (id : GoString) :
    (workloads.acquire id).Coherent revisionOf := by
  refine coherent.traced ?_ fun other job present => ?_
  · rw [Workloads.acquire, (modifyJob_rest id _).policies]
    exact coherent.policies
  · rw [Workloads.acquire, modifyJob_get] at present
    split at present
    next same =>
      obtain ⟨old, before, changed⟩ := Option.map_eq_some_iff.mp present
      rw [← changed, same]
      exact ⟨old, before, old.lease_revision.1, old.lease_revision.2.2.1⟩
    · exact ⟨job, present, rfl, rfl⟩

theorem observe (coherent : workloads.Coherent revisionOf) {binding : Binding} {endpoint : Endpoint}
    (lifecycleBridge prepared : Bool) (now : Int) (identified : endpoint.Identified revisionOf)
    (revision : endpoint.recipeRevision = binding.recipeRevision) :
    (workloads.observe binding endpoint lifecycleBridge false prepared now).Coherent
      revisionOf := by
  obtain ⟨job, kept, jobs⟩ := @Workloads.observe_jobs workloads binding endpoint
    lifecycleBridge prepared now
  have noted := @Workloads.noted_found workloads binding endpoint lifecycleBridge
    prepared now
  -- The job is either old, and then coherent, or made from a binding of its own revision.
  have start : (workloads.found binding endpoint lifecycleBridge).binding.recipeRevision =
        revisionOf endpoint.workloadID ∧
      ∀ receipt, (workloads.found binding endpoint lifecycleBridge).prepared = some receipt →
        receipt.Identified revisionOf := by
    unfold Workloads.found
    cases present : workloads.jobs.get endpoint.workloadID with
    | some old =>
      exact ⟨coherent.revision _ old present,
        fun receipt => coherent.prepared _ old receipt present⟩
    | none =>
      rw [Option.getD_none, newJob_revision coherent.policies, ← revision]
      exact ⟨identified, fun _ fresh => by cases fresh⟩
  constructor
  · intro id found present
    rw [jobs] at present
    split at present
    next same =>
      cases present
      rw [kept.revision, noted.revision, start.1, same]
    · exact coherent.revision id found present
  · intro id found receipt present prepared
    rw [jobs] at present
    split at present
    · cases present
      rw [kept.prepared] at prepared
      rcases noted.prepared with old | new
      · exact start.2 receipt (old ▸ prepared)
      · rw [new] at prepared
        cases prepared
        exact identified
    · exact coherent.prepared id found receipt present prepared
  · rw [(observe_rest binding endpoint lifecycleBridge prepared now).2.1]
    exact coherent.policies

end Workloads.Coherent

/-- An observation is of a workload of the binding's revision. -/
def Section.Coherent (revisionOf : GoString → GoString) : Section → Prop
  | .observe binding endpoint _ _ _ =>
    endpoint.Identified revisionOf ∧ endpoint.recipeRevision = binding.recipeRevision
  | _ => True

theorem Section.enter_coherent {entered : Section} (coherent : workloads.Coherent revisionOf)
    (fits : entered.Coherent revisionOf) : (entered.enter workloads).Coherent revisionOf := by
  cases entered with
  | acquire id => exact coherent.acquire id
  | observe binding endpoint lifecycleBridge prepared now =>
    exact coherent.observe lifecycleBridge prepared now fits.1 fits.2
  | _ =>
    refine coherent.kept (enter_kept workloads rfl rfl) ?_
    rw [(enter_unobserved workloads rfl).1]
    exact coherent.policies

/-! ### Controllers -/

namespace Controller.Coherent

variable {generation : Generation}

section

variable (coherent : controller.Coherent revisionOf generation)

include coherent

variable {registration : Registration}

theorem stateAt {key : GoString} (known : (controller.stateAt key).endpoint = some registration) :
    registration.Fits revisionOf generation key := by
  unfold Controller.stateAt at known
  cases present : controller.states.get key with
  | none =>
    rw [present] at known
    cases known
  | some state =>
    rw [present] at known
    exact coherent key state registration present known

theorem setState {key : GoString} {state : BindingState}
    (fits : ∀ registration, state.endpoint = some registration → registration.Fits revisionOf
      generation key) : (controller.setState key state).Coherent revisionOf generation := by
  intro other found registration present known
  rw [Controller.setState, OrderedMap.get_insert] at present
  split at present
  next same =>
    cases present
    rw [same]
    exact fits registration known
  · exact coherent other found registration present known

theorem restate {key : GoString} {state : BindingState}
    (same : state.endpoint = (controller.stateAt key).endpoint) :
    (controller.setState key state).Coherent revisionOf generation :=
  coherent.setState fun _ known => coherent.stateAt (same ▸ known)

theorem newLeaseLocked (key : GoString) (registration : Registration) :
    (controller.newLeaseLocked key registration).1.Coherent revisionOf generation :=
  @restate controller revisionOf generation coherent key
    { controller.stateAt key with active := (controller.stateAt key).active + 1 } rfl

theorem disapprove (registration : Registration) (prior : Option Registration) :
    (controller.disapprove registration prior).Coherent revisionOf generation := by
  fun_cases Controller.disapprove controller registration prior <;> exact coherent

theorem refreshBindingState {target : Target} (configured : target ∈ generation.targets)
    (revision : target.source = .activatable → target.binding.recipeRevision = revisionOf
      registration.endpoint.clusterID) :
    (controller.refreshBindingState target registration).Coherent revisionOf generation := by
  fun_cases Controller.refreshBindingState controller target registration with
  | case3 activatable =>
    have source := Decidable.not_not.mp activatable
    refine coherent.setState fun known same => ?_
    cases same
    exact ⟨target, configured, source, rfl, revision source⟩
  | _ => exact coherent

theorem removeMissing (seen : List GoString) (started : Int) :
    (controller.removeMissing seen started).Coherent revisionOf generation := by
  intro key state registration present known
  change (controller.states.mapValues _).get key = some state at present
  rw [OrderedMap.get_mapValues] at present
  obtain ⟨old, before, changed⟩ := Option.map_eq_some_iff.mp present
  rw [← changed] at known
  split at known
  · cases known
  · exact coherent key old registration before known

theorem release {lease : Lifecycle.Lease} {released : Controller}
    (found : controller.release lease = some released) :
    released.Coherent revisionOf generation := by
  revert found
  fun_cases Controller.release controller lease with
  | case1 => exact nofun
  | case3 key _ kept state present _ =>
    intro found
    rw [← Option.some.inj found]
    exact @setState kept revisionOf generation coherent key _
      fun registration known => coherent key state registration present known
  | _ =>
    intro found
    rw [← Option.some.inj found]
    exact coherent

end

end Controller.Coherent

variable {binding : Binding} {generation : Generation} {registration : Registration}

theorem Generation.Configures.revision (configured : generation.Configures binding)
    (fits : registration.Fits revisionOf generation (activationKey binding.toBinding)) :
    revisionOf registration.endpoint.clusterID = binding.recipeRevision := by
  obtain ⟨target, found, source, key, revision⟩ := configured
  obtain ⟨owner, listed, ownerSource, ownerKey, ownerRevision⟩ := fits
  rw [← ownerRevision, ← revision]
  exact generation.keys owner listed target (Generation.lookup_mem found) ownerSource source
    (ownerKey.trans key.symm)

/-! ### Steps of tasks -/

/-- What a step leaves behind: the section it enters, its controller, and where it stands. -/
structure StepCoherent (revisionOf : GoString → GoString) (generation : Generation)
    (entered : Section) (controller : Controller) (place : Prop) : Prop where
  entered : entered.Coherent revisionOf
  controller : controller.Coherent revisionOf generation
  place : place

theorem endpointFromBridge_ok {target : Target} {discovered : Endpoint} {fence now : Int}
    (made : endpointFromBridge platform generation target discovered fence now = .ok registration) :
    registration.endpoint.clusterID = discovered.workloadID ∧
      (target.source = .activatable → matchesTarget target discovered = true) := by
  simp only [endpointFromBridge, check_eq_ok] at made
  obtain ⟨_, _, _, _, _, _, _, accepted, made⟩ := made
  cases made
  refine ⟨rfl, fun source => ?_⟩
  by_contra unmatched
  exact accepted ⟨source, .inl unmatched⟩

theorem matchesTarget_revision {target : Target} {endpoint : Endpoint}
    (matched : matchesTarget target endpoint = true) (source : target.source = .activatable) :
    endpoint.recipeRevision = target.binding.recipeRevision := by
  unfold matchesTarget at matched
  split at matched
  · cases matched
  · exact (of_decide_eq_true matched).1

theorem EnsureCall.verify_coherent {call : EnsureCall}
    (configured : generation.Configures call.binding) {result : EnsureResult} (now : Int)
    (identified : ∀ endpoint ∈ result.endpoint, endpoint.Identified revisionOf) :
    (call.verify platform generation controller result now).Coherent revisionOf call := by
  fun_cases verify platform generation controller call result now with
  | case7 discovered reported _ target found _ _ _ _ registration made =>
    obtain ⟨workload, matched⟩ := endpointFromBridge_ok made
    obtain ⟨owner, ownerFound, source, _, revision⟩ := configured
    rw [ownerFound] at found
    cases found
    refine ⟨identified discovered reported, workload, ?_⟩
    rw [matchesTarget_revision (matched source) source, revision]
  | _ => trivial

theorem EnsureCall.advance_coherent (platform : Platform) {call : EnsureCall} {answers : Answers}
    {stage : EnsureStage} (jobs : workloads.Coherent revisionOf)
    (states : controller.Coherent revisionOf generation)
    (configured : generation.Configures call.binding) (coherent : stage.Coherent revisionOf call)
    (identified : answers.Identified revisionOf) :
    let moved := call.advance platform generation workloads controller answers stage
    StepCoherent revisionOf generation moved.1 moved.2.1
      (moved.2.2.Coherent revisionOf call) := by
  have look : ∀ {registration}, controller.cached workloads call.key answers.now =
      some registration →
      revisionOf registration.endpoint.clusterID = call.binding.recipeRevision :=
    fun found => configured.revision (states.stateAt (Option.filter_eq_some_iff.mp found).1)
  fun_cases advance platform generation workloads controller call answers stage with
  | case12 _ registration found | case14 registration found => exact ⟨trivial, states, look found⟩
  | case13 | case15 | case30 => exact ⟨trivial, states.restate rfl, trivial⟩
  | case16 => exact ⟨trivial, states.newLeaseLocked _ _, trivial⟩
  | case17 prepared found =>
    refine ⟨trivial, states, fun endpoint same => ?_⟩
    cases same
    obtain ⟨entry, _, receipt⟩ := mem_filterMap.mp (mem_of_getElem? found)
    revert receipt
    fun_cases Workloads.preparedAt <;> intro receipt
    case case2 job present _ => exact jobs.prepared _ job _ present receipt
    all_goals cases receipt
  | case21 result answered => exact ⟨trivial, states, identified.1 result answered⟩
  | case22 => exact ⟨trivial, states, verify_coherent configured answers.now coherent⟩
  | case25 => exact ⟨trivial, states.disapprove _ _, trivial⟩
  | case28 registration discovered =>
    refine ⟨⟨coherent.identified, coherent.revision⟩, states, ?_⟩
    change revisionOf registration.endpoint.clusterID = call.binding.recipeRevision
    rw [coherent.workload, ← coherent.revision]
    exact coherent.identified.symm
  | case29 registration =>
    refine ⟨trivial, Controller.Coherent.newLeaseLocked (states.setState ?_) _ _, trivial⟩
    intro known same
    cases same
    obtain ⟨target, found, source, key, revision⟩ := configured
    exact ⟨target, Generation.lookup_mem found, source, key, revision.trans coherent.symm⟩
  | _ => first | exact ⟨trivial, states, trivial⟩ | exact ⟨trivial, states, coherent⟩

theorem StopStage.advance_coherent (workloads : Workloads) (binding : Binding) (answers : Answers)
    (id : GoString) (stage : StopStage) (states : controller.Coherent revisionOf generation) :
    let moved := stage.advance controller binding id workloads answers
    moved.1.Coherent revisionOf ∧ moved.2.1.Coherent revisionOf generation := by
  fun_cases advance controller binding id workloads answers stage with
  | case5 state present =>
    refine ⟨trivial, states.restate ?_⟩
    rw [Controller.stateAt, present]
    rfl
  | case7 => exact ⟨trivial, states.restate rfl⟩
  | case12 =>
    refine ⟨trivial, states.setState fun _ known => ?_⟩
    cases known
  | _ => exact ⟨trivial, states⟩

theorem StopStage.advance_entered {answers : Answers} {id : GoString}
    {stage : StopStage} (entered : stage.entered = true → id ≠ [])
    (moved : (stage.advance controller binding id workloads answers).2.2.entered = true) :
    id ≠ [] := by
  revert moved
  fun_cases advance controller binding id workloads answers stage with
  | case1 passed => exact fun _ => passed.1
  | _ => first | exact fun _ => entered rfl | (rintro ⟨⟩)

/-- The workload on record for a configured binding has the binding's revision. -/
theorem StopCall.clusterID_revision (states : controller.Coherent revisionOf generation)
    (configured : generation.Configures binding) (present : clusterID controller binding ≠ []) :
    revisionOf (clusterID controller binding) = binding.recipeRevision := by
  cases known : (controller.stateAt (activationKey binding.toBinding)).endpoint with
  | none => simp [clusterID, known] at present
  | some registration =>
    simp only [clusterID, known]
    exact configured.revision (states.stateAt known)

theorem StopCall.advance_coherent (workloads : Workloads) (answers : Answers)
    {generations : Nat → Generation} {call : StopCall} {place : StopPlace}
    (states : controller.Coherent revisionOf (generations call.controller))
    (coherent : (Task.stop call place).Coherent revisionOf generations) :
    let moved := call.advance workloads controller answers place
    StepCoherent revisionOf (generations call.controller) moved.1 moved.2.1
      ((Task.stop call moved.2.2).Coherent revisionOf generations) := by
  fun_cases advance workloads controller call answers place with
  | case1 => exact ⟨trivial, states, coherent.1, clusterID_revision states coherent.1⟩
  | case2 | case5 => exact ⟨trivial, states, coherent.1, trivial⟩
  | case3 =>
    exact ⟨trivial, states, coherent.1, coherent.2,
      fun entered => absurd entered Bool.false_ne_true⟩
  | case6 id stage =>
    obtain ⟨configured, revision, entered⟩ := coherent
    have moved := StopStage.advance_coherent workloads call.binding answers id stage states
    exact ⟨moved.1, moved.2, configured, revision, StopStage.advance_entered entered⟩
  | case4 | case7 => exact ⟨trivial, states, coherent⟩

theorem ControlCall.advance_coherent (workloads : Workloads) (answers : Answers)
    (call : ControlCall) (place : ControlPlace)
    (states : controller.Coherent revisionOf generation) :
    let moved := call.advance workloads controller answers place
    StepCoherent revisionOf generation moved.1 moved.2.1 True := by
  have stopping := fun stage => StopStage.advance_coherent workloads call.target.binding answers
    call.jobID stage states
  fun_cases advance workloads controller call answers place <;>
    first
    | exact ⟨trivial, states, trivial⟩
    | exact ⟨(stopping _).1, (stopping _).2, trivial⟩

theorem ReconcileStage.advance_coherent (platform : Platform) (workloads : Workloads)
    {answers : Answers} {stage : ReconcileStage}
    (states : controller.Coherent revisionOf generation)
    (coherent : stage.Coherent revisionOf generation) (identified : answers.Identified revisionOf) :
    let moved := stage.advance platform generation workloads controller answers
    StepCoherent revisionOf generation moved.1 moved.2.1
      (moved.2.2.Coherent revisionOf generation) := by
  revert coherent
  fun_cases advance platform generation workloads controller answers stage <;> intro coherent
  case case3 endpoints answered _ =>
    exact ⟨trivial, states, identified.2 endpoints answered, coherent⟩
  case case4 => exact ⟨trivial, states.removeMissing _ _, trivial⟩
  case case5 | case6 =>
    rename_i listed _ _
    have rest : ∀ member ∈ _, member ∈ generation.targets := fun member later =>
      coherent.targets member (listed ▸ mem_cons_of_mem _ later)
    have first := coherent.targets _ (listed ▸ mem_cons_self)
    first
    | exact ⟨trivial, states, coherent.endpoints, rest⟩
    | exact ⟨trivial, states, first, coherent.endpoints, coherent.endpoints, rest⟩
  case case7 => exact ⟨trivial, states, coherent.2.2⟩
  case case8 =>
    obtain ⟨configured, reported, rest⟩ := coherent
    exact ⟨trivial, states, configured,
      fun endpoint listed => reported endpoint (mem_cons_of_mem _ listed), rest⟩
  case case9 target sweep discovered remaining usable _
      | case10 target sweep discovered remaining usable _ =>
    obtain ⟨configured, reported, rest⟩ := coherent
    have reports : target.Reports revisionOf generation discovered := by
      refine ⟨configured, reported discovered mem_cons_self, fun source => ?_⟩
      apply matchesTarget_revision _ source
      by_contra unmatched
      exact usable (.inl unmatched)
    have later : ∀ endpoint ∈ remaining, endpoint.Identified revisionOf :=
      fun endpoint listed => reported endpoint (mem_cons_of_mem _ listed)
    first
    | exact ⟨trivial, states, ‹_›, reports, later, rest⟩
    | exact ⟨trivial, states, reports, later, rest⟩
  case case11 =>
    obtain ⟨source, reports, later, rest⟩ := coherent
    exact ⟨⟨reports.identified, reports.revision source⟩, states, reports, later, rest⟩
  case case12 | case13 =>
    obtain ⟨reports, later, rest⟩ := coherent
    exact ⟨trivial, states, reports.configured, later, rest⟩
  case case14 made =>
    obtain ⟨reports, later, rest⟩ := coherent
    refine ⟨trivial, states, ⟨reports.configured, fun source => ?_⟩, later, rest⟩
    rw [(endpointFromBridge_ok made).1, ← reports.revision source]
    exact reports.identified
  case case16 =>
    obtain ⟨fits, later, rest⟩ := coherent
    exact ⟨trivial, states, fits, later, rest.endpoints, rest.targets⟩
  case case17 => exact ⟨trivial, states.disapprove _ _, trivial⟩
  case case18 =>
    obtain ⟨fits, later, rest⟩ := coherent
    exact ⟨trivial, states.refreshBindingState fits.1 fits.2, fits.1, later, rest⟩
  case case1 | case2 => exact ⟨trivial, states, trivial⟩
  all_goals exact ⟨trivial, states, coherent⟩

theorem IdleTimer.advance_coherent (answers : Answers) {timer : IdleTimer} {stage : IdleStage}
    (jobs : workloads.Coherent revisionOf) (coherent : stage.Coherent revisionOf timer) :
    let moved := timer.advance workloads answers stage
    moved.1.Coherent revisionOf ∧ moved.2.Coherent revisionOf timer := by
  fun_cases advance workloads timer answers stage with
  | case2 job present => exact ⟨trivial, jobs.revision _ job present⟩
  | _ => first | exact ⟨trivial, trivial⟩ | exact ⟨trivial, coherent⟩

theorem RecoveryJob.proceed_coherent (platform : Platform) (workloads : Workloads)
    (state : RecoveryState) {job : RecoveryJob} {answers : Answers} {workload : Workload}
    {stage : RecoveryStage} (revision : workload.binding.recipeRevision = revisionOf job.id)
    (coherent : stage.Coherent revisionOf job) (identified : answers.Identified revisionOf) :
    let moved := job.proceed platform workloads answers state workload stage
    moved.1.Coherent revisionOf ∧ moved.2.Coherent revisionOf job := by
  fun_cases proceed platform workloads job answers state workload stage with
  | case1 => exact ⟨trivial, revision⟩
  | case3 | case12 =>
    split <;> first | exact ⟨trivial, trivial⟩ | exact ⟨trivial, coherent⟩
  | case24 => exact ⟨trivial, coherent, identified.1⟩
  | case26 binding _ result endpoint found =>
    obtain ⟨reported, checked⟩ := Option.filter_eq_some_iff.mp found
    have checks := of_decide_eq_true checked
    exact ⟨trivial, coherent.1, coherent.2 result rfl endpoint reported,
      checks.2.2.2.2.2.2.2.2.2.2.2.1⟩
  | case34 => exact ⟨⟨coherent.2.1, coherent.2.2⟩, coherent.1⟩
  | _ =>
    first
    | exact ⟨trivial, trivial⟩
    | exact ⟨trivial, coherent⟩
    | exact ⟨trivial, coherent.1⟩

/-! ### Every run -/

namespace System

variable {generations : Nat → Generation} {system : System}

theorem Coherent.append (coherent : system.Coherent revisionOf generations) {task : Task}
    (fits : task.Coherent revisionOf generations) :
    (system.spawn task).Coherent revisionOf generations where
  workloads := coherent.workloads
  controllers := coherent.controllers
  tasks := forall_mem_append.mpr ⟨coherent.tasks, forall_mem_singleton.mpr fits⟩

theorem Coherent.moved (coherent : system.Coherent revisionOf generations) {index : Nat}
    {entered : Section} {controllers : Nat → Controller} {moved : Task}
    (fits : entered.Coherent revisionOf)
    (states : ∀ number, (controllers number).Coherent revisionOf (generations number))
    (place : moved.Coherent revisionOf generations) :
    ({ workloads := entered.enter system.workloads
       controllers := controllers
       tasks := system.tasks.set index moved } : System).Coherent revisionOf generations where
  workloads := Section.enter_coherent coherent.workloads fits
  controllers := states
  tasks := by
    intro member mem
    rcases mem_or_eq_of_mem_set mem with earlier | replaced
    · exact coherent.tasks member earlier
    · rw [replaced]
      exact place

theorem controllers_update {controllers : Nat → Controller} {index : Nat} {controller : Controller}
    (states : ∀ number, (controllers number).Coherent revisionOf (generations number))
    (changed : controller.Coherent revisionOf (generations index)) (number : Nat) :
    (Function.update controllers index controller number).Coherent revisionOf
      (generations number) := by
  by_cases same : number = index
  · subst same
    rw [Function.update_self]
    exact changed
  · rw [Function.update_of_ne same]
    exact states number

theorem advance_coherent (coherent : system.Coherent revisionOf generations) {index : Nat}
    {answers : Answers} (identified : answers.Identified revisionOf) :
    (system.step platform generations (.advance index answers)).Coherent revisionOf
      generations := by
  dsimp only [step]
  split
  · exact coherent
  next task found =>
    have here := coherent.tasks task (mem_of_getElem? found)
    cases task with
    | ensureReady call stage =>
      have moved := EnsureCall.advance_coherent platform coherent.workloads
        (coherent.controllers call.controller) here.1 here.2 identified
      exact coherent.moved moved.entered
        (controllers_update coherent.controllers moved.controller) ⟨here.1, moved.place⟩
    | stop call place =>
      have moved := StopCall.advance_coherent system.workloads answers
        (coherent.controllers call.controller) here
      exact coherent.moved moved.entered
        (controllers_update coherent.controllers moved.controller) moved.place
    | control call place =>
      have moved := ControlCall.advance_coherent system.workloads answers call place
        (coherent.controllers call.controller)
      exact coherent.moved moved.entered
        (controllers_update coherent.controllers moved.controller) trivial
    | reconcile controller stage =>
      have moved := ReconcileStage.advance_coherent platform system.workloads
        (coherent.controllers controller) here identified
      exact coherent.moved moved.entered
        (controllers_update coherent.controllers moved.controller) moved.place
    | idle timer stage =>
      obtain ⟨entered, place⟩ := IdleTimer.advance_coherent answers
        coherent.workloads here
      exact coherent.moved entered coherent.controllers place
    | recovery job stage =>
      dsimp only [Task.advance, RecoveryJob.advance]
      split
      next state workload _ present =>
        obtain ⟨entered, place⟩ := RecoveryJob.proceed_coherent platform
          system.workloads state (coherent.workloads.revision _ workload present) here identified
        exact coherent.moved entered coherent.controllers place
      · exact coherent.moved trivial coherent.controllers here

theorem step_coherent (coherent : system.Coherent revisionOf generations) {action : Action}
    (fits : action.Coherent revisionOf generations) :
    (system.step platform generations action).Coherent revisionOf generations := by
  have jobs := coherent.workloads
  fun_cases step platform generations system action with
  | case1 | case4 => exact coherent.append ⟨fits, trivial⟩
  | case3 index lease outcome now controller found =>
    refine ⟨jobs.kept (release_edited _ _ _).jobs ?_, controllers_update coherent.controllers
      ((coherent.controllers index).release found), coherent.tasks⟩
    rw [(release_edited _ _ _).rest.policies]
    exact jobs.policies
  | case6 => exact coherent.append trivial
  | case8 =>
    refine coherent.append fun target listed => ?_
    obtain ⟨deployment, _, found⟩ := mem_filterMap.mp listed
    exact Generation.lookup_mem found
  | case10 targets order now =>
    refine ⟨jobs.kept (configure_kept _ _ _) ?_, coherent.controllers, coherent.tasks⟩
    intro policies configured
    rw [(configure_gates _ _ _).2.1] at configured
    cases configured
    exact policiesOf_coherent targets
  | case12 => exact ⟨jobs.kept (.of_eq rfl) jobs.policies, coherent.controllers, coherent.tasks⟩
  | case13 =>
    exact ⟨jobs.kept close_kept jobs.policies, coherent.controllers, coherent.tasks⟩
  | case14 index =>
    exact ⟨jobs, controllers_update coherent.controllers (coherent.controllers index),
      coherent.tasks⟩
  | case16 id epoch job present armed =>
    refine Coherent.append ?_ trivial
    exact ⟨jobs.kept (disarm_kept present epoch) jobs.policies, coherent.controllers,
      coherent.tasks⟩
  | case19 =>
    refine Coherent.append ?_ trivial
    exact ⟨jobs.kept (.of_eq rfl) jobs.policies, coherent.controllers, coherent.tasks⟩
  | case22 index answers task found =>
    simpa only [step, found] using @advance_coherent platform _ _ _ coherent index answers fits
  | _ => exact coherent

theorem initial_coherent : (({} : System)).Coherent revisionOf generations where
  workloads := ⟨by rintro _ _ ⟨⟩, by rintro _ _ _ ⟨⟩, by rintro _ ⟨⟩⟩
  controllers := by rintro _ _ _ _ ⟨⟩
  tasks := by rintro _ ⟨⟩

end System

end SparkRoute.Sparkrun
