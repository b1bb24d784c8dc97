import SparkRoute.Lib.Checked
import SparkRoute.SavedTrace.Sessions

/-!
# Consistency of capture sessions

The rows that a recorder passes to its store, and the counters that a drained recorder is
left with, over all of its runs.
-/

namespace SparkRoute.SavedTrace

open Lib List SavedTrace.System

variable {Record : Type}

/-! ### Runs -/

structure Sound (setup : Setup) (system : System Record) : Prop where
  books : system.Books
  guarded : Guarded setup system
  staffed : system.workers ≠ []

/-- A recorder as `NewAsyncRecorder` returned it, on a clock that has started. -/
structure Opened (environment : Environment Record) (setup : Setup) (start : System Record) :
    Prop where
  created : ∃ options generated started now stored,
    newAsyncRecorder environment options generated started now stored = .ok (setup, start) ∧
      0 < started ∧ started ≤ now

section Runs

variable {environment : Environment Record} {setup : Setup} {start : System Record}

theorem Opened.sound (opened : Opened environment setup start) :
    Sound setup start ∧ Read setup start ∧ 0 < setup.sessionStart := by
  obtain ⟨options, generated, started, now, stored, created, positive, ordered⟩ := opened.created
  unfold newAsyncRecorder at created
  simp only at created
  split at created
  next => cases created
  next accepted =>
    split at created
    next => cases created
    next =>
      obtain ⟨rfl, rfl⟩ := created
      have staffed : 0 < options.withDefaults.workers.toNat := by
        unfold AsyncOptions.validate at accepted
        split at accepted
        next => cases accepted
        next valid => omega
      have idle : ∀ worker ∈ List.replicate options.withDefaults.workers.toNat
          (WorkerStage.receiving : WorkerStage Record), worker = .receiving :=
        fun worker listed => (mem_replicate.mp listed).2
      refine ⟨⟨?_, ⟨?_, ?_, ?_, ?_⟩, ?_⟩, ⟨ordered, ?_, ?_⟩, positive⟩
      · constructor <;> simp [WorkerStage.holds, WorkerStage.owes, WorkerStage.tallies]
      · intro closed
        cases closed
      · intro worker listed ends
        rw [idle worker listed] at ends
        cases ends
      · intro closer listed
        cases listed
      · intro _ call listed
        cases listed
      · intro empty
        simp only [replicate_eq_nil_iff] at empty
        omega
      · intro stage listed
        simp [System.persists, WorkerStage.persist] at listed
      · intro upsert listed
        split at listed
        next =>
          rw [mem_singleton.mp listed]
          refine ⟨⟨false, now, ordered, rfl⟩, ?_, Nat.le_refl _⟩
          rw [Moment.blocked_empty]
          rfl
        next => cases listed

theorem Sound.steps {system after : System Record} {action : Action Record}
    (sound : Sound setup system) (steps : Steps environment setup system action after) :
    Sound setup after := by
  refine ⟨steps.books sound.books, System.Guarded.steps sound.guarded steps, ?_⟩
  cases steps with
  | worker found move =>
    intro empty
    exact sound.staffed (by simpa using empty)
  | same | record | call | close | closer | tick => exact sound.staffed

end Runs

/-! ### Consistency -/

/-- The ID that the store's validation asks for. -/
def validSessionID (id : GoString) : Prop :=
  validateString "capture session ID" id 128 = .ok () ∧ id ≠ []

/-- The session passes validation, and `Accepted` counts records that are in the queue or
are being put there by a blocked call. -/
def Upsert.Consistent (setup : Setup) (upsert : Upsert) : Prop :=
  upsert.session.validate = .ok () ∧
    upsert.session.stats.accepted = upsert.opening.queued + upsert.opening.blocked setup

/-- What a drained recorder's counters add up to. -/
structure System.Settled (system : System Record) : Prop where
  pending : system.recorder.stats.pending = 0
  accepted : system.recorder.stats.accepted =
    system.recorder.stats.persisted + system.recorder.stats.storeFailures
  lost : system.recorder.stats.lost = system.recorder.stats.invalid +
    system.recorder.stats.queueFull + system.recorder.stats.closed +
    system.recorder.stats.storeFailures

variable {setup : Setup}

theorem Upsert.Faithful.consistent {upsert : Upsert} (faithful : upsert.Faithful setup)
    (positive : 0 < setup.sessionStart) (identified : validSessionID setup.sessionID) :
    upsert.Consistent setup := by
  obtain ⟨completed, now, started, same⟩ := faithful.session
  have ordered := faithful.ordered
  have named : upsert.session.id = setup.sessionID := by rw [same]; rfl
  have begun : upsert.session.startedAt = setup.sessionStart := by rw [same]; rfl
  have updated : upsert.session.updatedAt = now := by rw [same]; rfl
  have mode : upsert.session.mode ≠ [] := by
    rw [same]
    change setup.overflow.text ≠ []
    cases setup.overflow with
    | block | drop => decide
  have completion : (upsert.session.completedAt.any
      fun completed => completed < upsert.session.startedAt) = false := by
    rw [begun, same]
    cases completed with
    | true => simpa [Setup.session] using started
    | false => rfl
  refine ⟨?_, faithful.accepted⟩
  simp only [CaptureSession.validate, bind_eq_ok, check_eq_ok, named]
  refine ⟨⟨⟩, identified.1, ?_, ?_, ?_, ?_, trivial⟩
  · rintro (empty | zero | zero | empty)
    · exact identified.2 empty
    · omega
    · omega
    · exact mode empty
  · omega
  · simp [completion]
  · omega

/-- No call stands between the two halves of a loss. -/
def System.quiet (system : System Record) : Prop :=
  ∀ call ∈ system.calls, ∀ refusal, call.stage ≠ .counting refusal

theorem Sound.settled_iff {system : System Record} (sound : Sound setup system)
    (drained : CloseStage.drained ∈ system.closers) : system.Settled ↔ system.quiet := by
  obtain ⟨accepted, pending, queued, departed, lost⟩ := sound.books
  have done := sound.guarded.drained _ drained rfl
  have finished : ∀ worker ∈ system.workers, worker = .finished := by
    intro worker listed
    have ended := all_eq_true.mp done worker listed
    cases worker <;> first | rfl | cases ended
  obtain ⟨worker, listed⟩ := exists_mem_of_ne_nil _ sound.staffed
  obtain ⟨closed, empty⟩ :=
    sound.guarded.exhausted worker listed (by rw [finished worker listed]; rfl)
  have outside := sound.guarded.committed closed
  have idle : ∀ {weight : WorkerStage Record → Nat}, weight .finished = 0 →
      (system.workers.map weight).sum = 0 := by
    intro weight nothing
    apply sum_eq_zero
    intro share listed
    obtain ⟨worker, working, rfl⟩ := mem_map.mp listed
    rw [finished worker working, nothing]
  have gone : ∀ {weight : CallStage → Nat}, (∀ stage, stage.commits = false → weight stage = 0) →
      (system.calls.map fun call => weight call.stage).sum = 0 := by
    intro weight nothing
    apply sum_eq_zero
    intro share listed
    obtain ⟨call, calling, rfl⟩ := mem_map.mp listed
    exact nothing _ (outside call calling)
  have noAccepts := @gone CallStage.accepts fun stage out =>
    by cases stage <;> first | rfl | cases out
  have noPends := @gone CallStage.pends fun stage out => by cases stage <;> first | rfl | cases out
  rw [empty, idle rfl] at queued
  rw [idle rfl] at departed lost
  simp only [length_nil] at queued
  constructor
  · rintro ⟨-, -, exactly⟩ call calling refusal same
    have nothing : (system.calls.map fun call => call.stage.tallies).sum = 0 := by omega
    have share := List.sum_eq_zero_iff_forall_eq_nat.mp nothing _ (List.mem_map_of_mem calling)
    rw [same] at share
    cases share
  · intro quiet
    have nothing : (system.calls.map fun call => call.stage.tallies).sum = 0 := by
      apply List.sum_eq_zero
      intro share listed
      obtain ⟨call, calling, rfl⟩ := mem_map.mp listed
      have calm := quiet call calling
      cases stage : call.stage <;> first | rfl | exact absurd stage (calm _)
    exact ⟨by omega, by omega, by omega⟩

/-- A run whose steps are all orderly passes only consistent rows to the store; and after any
run a drained recorder's counters add up exactly when no call stands between the two halves
of a loss. -/
theorem session_accounting (environment : Environment Record) (setup : Setup)
    (start : System Record) (opened : Opened environment setup start)
    (actions : List (Action Record)) :
    let system := run (step environment setup) start actions
    (validSessionID setup.sessionID →
      (∀ before action after, actions = before ++ action :: after →
        (run (step environment setup) start before).Orderly setup action) →
      ∀ upsert ∈ system.recorder.upserts, upsert.Consistent setup) ∧
    (CloseStage.drained ∈ system.closers → (system.Settled ↔ system.quiet)) := by
  intro system
  obtain ⟨sound, read, positive⟩ := opened.sound
  constructor
  · intro identified orderly upsert listed
    have both : Sound setup system ∧ Read setup system := by
      refine @run_invariant_along _ _ _ (fun state action => state.Orderly setup action)
        (fun state => Sound setup state ∧ Read setup state) _ ⟨sound, read⟩ ?_ _ orderly
      intro state action allowed ⟨sound, read⟩
      have steps := @step_steps _ environment setup state action
      exact ⟨sound.steps steps, System.Read.steps read sound.books sound.guarded allowed steps⟩
    exact (both.2.upserts upsert listed).consistent positive identified
  · have kept : Sound setup system :=
      run_invariant sound (fun _ action sound => sound.steps (step_steps action)) actions
    exact kept.settled_iff

/-! ### A call between two loads -/

def plainEnvironment : Environment Unit where
  validate := fun _ => none
  stamp := fun _ record => record
  batches := false
  sessions := true

/-- One worker under the default options, at the first nanosecond. -/
def plainSetup : Setup where
  capacity := 4096
  overflow := .block
  batchSize := 256
  sessionInterval := 1000000000
  sessionID := ascii "s"
  sessionStart := 1

def plainStart : System Unit where
  recorder :=
    { clock := 1
      sessionLast := 1
      upserts := [⟨plainSetup.session false 1 {}, {}⟩] }
  workers := [.receiving]

theorem plainStart_opened : Opened plainEnvironment plainSetup plainStart :=
  ⟨{ sessionID := ascii "s" }, [], 1, 1, true, rfl, by decide, by decide⟩

/-- A record is stored, and a second call of `Record` comes in after the worker has loaded
`accepted`. -/
def lateArrival : List (Action Unit) :=
  .record () :: List.replicate 7 (.call 0) ++
    [.worker 0 .proceed, .worker 0 (.answer true), .worker 0 .proceed, .worker 0 .proceed,
      .tick 1000000000] ++
    List.replicate 3 (.worker 0 .proceed) ++
    .record () :: List.replicate 5 (.call 1) ++ List.replicate 8 (.worker 0 .proceed)

theorem late_arrival_inconsistent :
    ((run (step plainEnvironment plainSetup) plainStart lateArrival).recorder.upserts.map
      fun upsert => failureOf upsert.session.validate) =
        [none, some "capture session counters are inconsistent"] := by
  decide +kernel

/-- A record is stored and the recorder is closed. -/
def storedThenClosed : List (Action Unit) :=
  .record () :: List.replicate 8 (.call 0) ++
    [.worker 0 .proceed, .worker 0 (.answer true), .worker 0 .proceed, .worker 0 .proceed,
      .close, .closer 0 .proceed] ++
    List.replicate 5 (.worker 0 .proceed) ++ List.replicate 12 (.closer 0 .proceed) ++
    [.closer 0 (.answer true), .closer 0 .proceed]

theorem session_accounting_closed :
    (∀ upsert ∈ (run (step plainEnvironment plainSetup) plainStart
        storedThenClosed).recorder.upserts, upsert.Consistent plainSetup) ∧
      CloseStage.drained ∈
        (run (step plainEnvironment plainSetup) plainStart storedThenClosed).closers ∧
      (run (step plainEnvironment plainSetup) plainStart storedThenClosed).Settled := by
  have drained : CloseStage.drained ∈
      (run (step plainEnvironment plainSetup) plainStart storedThenClosed).closers := by
    have ended : ((run (step plainEnvironment plainSetup) plainStart
        storedThenClosed).closers.any fun closer => closer matches .drained) = true := by
      decide +kernel
    obtain ⟨closer, listed, same⟩ := any_eq_true.mp ended
    cases closer <;> first | exact listed | cases same
  have apart : ((range storedThenClosed.length).all fun index =>
      let system := run (step plainEnvironment plainSetup) plainStart (storedThenClosed.take index)
      (storedThenClosed[index]?.any system.joins → !system.persists.any PersistStage.between)) =
        true := by
    decide +kernel
  have returned : (run (step plainEnvironment plainSetup) plainStart
      storedThenClosed).calls.map RecordCall.stage = [.returned] := by
    decide +kernel
  obtain ⟨rows, settled⟩ := session_accounting plainEnvironment plainSetup plainStart
    plainStart_opened storedThenClosed
  refine ⟨rows ⟨rfl, by decide⟩ fun before action after split => ⟨fun joining => ?_, nofun⟩,
    drained, (settled drained).mpr ?_⟩
  · have checked := all_eq_true.mp apart before.length (by simp [split])
    simpa [split, joining] using checked
  · intro call listed refusal same
    have stage := mem_map_of_mem (f := RecordCall.stage) listed
    rw [returned, mem_singleton, same] at stage
    cases stage

end SparkRoute.SavedTrace
