import Mathlib.Algebra.Order.BigOperators.Group.List
import Mathlib.Algebra.Order.Group.Nat
import SparkRoute.SavedTrace.Accounting

/-!
# Capture sessions

A session row is put together from counters that were loaded one by one.  `Orderly` says which
steps may come between the loads, `Faithful` what the loaded values are then, and `Guarded`
what a closed queue and a finished worker mean.
-/

namespace SparkRoute.SavedTrace

open Lib List

variable {Record : Type}

/-! ### Closing -/

/-- The call of `Close` has seen every worker return. -/
def CloseStage.sawDone : CloseStage → Bool
  | .persisting _ | .drained => true
  | _ => false

structure Guarded (setup : Setup) (system : System Record) : Prop where
  committed : system.recorder.closed = true →
    ∀ call ∈ system.calls, call.stage.commits = false
  exhausted : ∀ worker ∈ system.workers, worker.exhausted = true →
    system.recorder.closed = true ∧ system.recorder.queue = []
  drained : ∀ closer ∈ system.closers, closer.sawDone = true → system.done = true
  blocking : setup.overflow = .block → ∀ call ∈ system.calls, call.stage.retreats = false

section Steps

variable {environment : Environment Record} {setup : Setup} {recorder : Recorder Record}

/-- A call of `Record` sends only into an open queue. -/
structure CallKeeps (recorder : Recorder Record) (stage : CallStage) (result : Recorder Record)
    (after : CallStage) : Prop where
  closed : result.closed = recorder.closed
  clock : result.clock = recorder.clock
  upserts : result.upserts = recorder.upserts
  queue : stage.commits = false → result.queue = recorder.queue
  commits : recorder.closed = true → stage.commits = false → after.commits = false

theorem advanceCall_keeps (index : Nat) (record : Record) (stage : CallStage) :
    CallKeeps recorder stage (recorder.advanceCall environment setup index record stage).1
      (recorder.advanceCall environment setup index record stage).2 := by
  fun_cases Recorder.advanceCall environment setup index record stage recorder <;>
    constructor <;> simp_all [CallStage.commits, Recorder.withStats]

theorem advanceCall_retreats (blocking : setup.overflow = .block) (index : Nat) (record : Record)
    {stage : CallStage} (forward : stage.retreats = false) :
    (recorder.advanceCall environment setup index record stage).2.retreats = false := by
  fun_cases Recorder.advanceCall environment setup index record stage recorder <;>
    simp_all [CallStage.retreats]

variable {after : WorkerStage Record} {result : Recorder Record}

section

variable {moment : Moment} {stage : WorkerStage Record}
  (move : WorkerMove environment setup moment recorder stage result after)

include move

theorem WorkerMove.closed : result.closed = recorder.closed := by
  cases move with
  | persist stage stored again => exact (advancePersist_sameBooks moment stored stage).closed
  | _ => rfl

theorem WorkerMove.queue_nil (empty : recorder.queue = []) : result.queue = [] := by
  cases move with
  | receive queue | collect records queue =>
    rw [empty] at queue
    cases queue
  | persist stage stored again =>
    rw [(advancePersist_sameBooks moment stored stage).queue]
    exact empty
  | _ => exact empty

/-- A worker that found the queue closed and empty was told so or had found it before. -/
theorem WorkerMove.exhausted (ends : after.exhausted = true) :
    stage.exhausted = true ∨ recorder.closed = true ∧ recorder.queue = [] := by
  cases move with
  | receive | collect =>
    rw [(collected_holds _).2.2.2] at ends
    cases ends
  | finish queue closed | exhaust records queue closed => exact .inr ⟨closed, queue⟩
  | stay | answer | credit | persist => exact .inl ends
  | settle records stored still =>
    cases stored with
    | true => exact .inl ends
    | false => cases ends
  | timer | fail | count | failed => cases ends
  | resume again =>
    cases again with
    | true => cases ends
    | false => exact .inl rfl

end

theorem WorkerMove.finished {moment : Moment}
    (move : WorkerMove environment setup moment recorder .finished result after) :
    after = .finished := by
  cases move
  rfl

end Steps

theorem mem_set_forall {Cell : Type} {property : Cell → Prop} {cells : List Cell} {new : Cell}
    (index : Nat) (others : ∀ cell ∈ cells, property cell) (replaced : property new) :
    ∀ cell ∈ cells.set index new, property cell := by
  intro cell listed
  rcases mem_or_eq_of_mem_set listed with old | rfl
  · exact others cell old
  · exact replaced

namespace System

variable {environment : Environment Record} {setup : Setup} {system : System Record}

theorem done_set {index : Nat} {worker after : WorkerStage Record}
    (found : system.workers[index]? = some worker)
    (kept : worker = .finished → after = .finished) (done : system.done = true) :
    ({ system with workers := system.workers.set index after } : System Record).done = true := by
  rw [System.done, all_eq_true] at done ⊢
  apply mem_set_forall index done
  have ended := done worker (mem_of_getElem? found)
  have finished : worker = .finished := by
    cases worker <;> first | rfl | cases ended
  rw [kept finished]

theorem commits_of_unlocked (unlocked : system.readLocked = false) :
    ∀ call ∈ system.calls, call.stage.commits = false := by
  intro call listed
  have free : call.stage.locks = false := by
    rw [readLocked, any_eq_false] at unlocked
    simpa using unlocked call listed
  cases stage : call.stage <;> rw [stage] at free <;> first | rfl | cases free

section

variable (guarded : Guarded setup system) {index : Nat} {recorder : Recorder Record}

include guarded

theorem Guarded.worker {worker after : WorkerStage Record}
    (found : system.workers[index]? = some worker)
    (move : WorkerMove environment setup system.moment system.recorder worker recorder after) :
    Guarded setup { system with
      recorder := recorder
      workers := system.workers.set index after } := by
  have kept : ∀ {ending : WorkerStage Record}, ending.exhausted = true →
      ending ∈ system.workers → recorder.closed = true ∧ recorder.queue = [] := by
    intro ending ends working
    obtain ⟨closed, empty⟩ := guarded.exhausted ending working ends
    exact ⟨move.closed.trans closed, move.queue_nil empty⟩
  constructor
  · intro closed
    exact guarded.committed (move.closed.symm.trans closed)
  · apply mem_set_forall index fun ending working ends => kept ends working
    intro ends
    rcases move.exhausted ends with before | ⟨closed, empty⟩
    · exact kept before (mem_of_getElem? found)
    · exact ⟨move.closed.trans closed, move.queue_nil empty⟩
  · intro closer closing saw
    apply done_set found _ (guarded.drained closer closing saw)
    rintro rfl
    exact move.finished
  · exact guarded.blocking

theorem Guarded.closer {closer after : CloseStage} (found : system.closers[index]? = some closer)
    (move : CloseMove environment setup system closer recorder after) :
    Guarded setup { system with
      recorder := recorder
      closers := system.closers.set index after } := by
  have listed := mem_of_getElem? found
  have finishing : after.sawDone = true → system.done = true := by
    intro saw
    cases move with
    | stay => exact guarded.drained closer listed saw
    | drain done => exact done
    | persist stage stored | leave => exact guarded.drained _ listed rfl
    | join | close | expire => cases saw
  have drained := mem_set_forall index guarded.drained finishing
  cases move with
  | close unlocked =>
    refine ⟨fun _ => commits_of_unlocked unlocked, ?_, drained, guarded.blocking⟩
    intro worker working ends
    exact ⟨rfl, (guarded.exhausted worker working ends).2⟩
  | persist stage stored =>
    have same := @advancePersist_sameBooks _ setup system.recorder system.moment stored stage
    refine ⟨?_, ?_, drained, guarded.blocking⟩
    · intro closed
      exact guarded.committed (same.closed.symm.trans closed)
    · intro worker working ends
      obtain ⟨closed, empty⟩ := guarded.exhausted worker working ends
      exact ⟨same.closed.trans closed, same.queue.trans empty⟩
  | _ => exact ⟨guarded.committed, guarded.exhausted, drained, guarded.blocking⟩

theorem Guarded.steps {action : Action Record} {after : System Record}
    (steps : Steps environment setup system action after) : Guarded setup after := by
  cases steps with
  | same => exact guarded
  | record record =>
    refine ⟨fun closed => ?_, guarded.exhausted, guarded.drained, fun blocking => ?_⟩
    · exact forall_mem_append.mpr
        ⟨guarded.committed closed, forall_mem_singleton.mpr rfl⟩
    · exact forall_mem_append.mpr
        ⟨guarded.blocking blocking, forall_mem_singleton.mpr rfl⟩
  | @call index call _ _ found advanced =>
    have listed := mem_of_getElem? found
    have keeps := @advanceCall_keeps _ environment setup system.recorder index call.record
      call.stage
    rw [advanced] at keeps
    constructor
    · intro closed
      rw [keeps.closed] at closed
      apply mem_set_forall index (guarded.committed closed)
      exact keeps.commits closed (guarded.committed closed call listed)
    · intro worker working ends
      obtain ⟨closed, empty⟩ := guarded.exhausted worker working ends
      have outside := guarded.committed closed call listed
      exact ⟨keeps.closed.trans closed, (keeps.queue outside).trans empty⟩
    · exact guarded.drained
    · intro blocking
      apply mem_set_forall index (guarded.blocking blocking)
      have forward := @advanceCall_retreats _ environment setup system.recorder blocking index
        call.record _ (guarded.blocking blocking call listed)
      rwa [advanced] at forward
  | worker found move => exact Guarded.worker guarded found move
  | close =>
    refine ⟨guarded.committed, guarded.exhausted, ?_, guarded.blocking⟩
    apply forall_mem_append.mpr ⟨guarded.drained, forall_mem_singleton.mpr ?_⟩
    intro saw
    cases saw
  | closer found move => exact Guarded.closer guarded found move
  | tick elapsed => exact ⟨guarded.committed, guarded.exhausted, guarded.drained, guarded.blocking⟩

end

end System

/-! ### Orderly steps -/

/-- The call is between `accepted.Add` and the send or the end of its roll-back. -/
def CallStage.undecided : CallStage → Bool
  | .joining | .sending | .overflowed | .withdrawing => true
  | _ => false

theorem CallStage.accepts_eq_zero {stage : CallStage} (decided : stage.undecided = false) :
    stage.accepts = 0 := by
  revert decided
  cases stage <;> simp [undecided, accepts]

theorem CallStage.pends_le_accepts {stage : CallStage} (other : stage ≠ .withdrawing) :
    stage.pends ≤ stage.accepts := by
  revert other
  cases stage <;> simp [pends, accepts]

/-- `accepted` has been loaded, and `pending` has not. -/
def PersistStage.between : PersistStage → Bool
  | .loading _ _ left _ _ => .accepted ∉ left && .pending ∈ left
  | _ => false

/-- The next operation loads `accepted`. -/
def PersistStage.opens : PersistStage → Bool
  | .loading _ _ (.accepted :: _) _ _ => true
  | _ => false

def WorkerStage.persist : WorkerStage Record → Option PersistStage
  | .persisting stage _ => some stage
  | _ => none

def CloseStage.persist : CloseStage → Option PersistStage
  | .persisting stage => some stage
  | _ => none

namespace System

variable (system : System Record)

/-- The calls of `persistSession` that are under way. -/
def persists : List PersistStage :=
  system.workers.filterMap WorkerStage.persist ++ system.closers.filterMap CloseStage.persist

/-- The action is the `pending.Add` of a call of `Record`. -/
def joins : Action Record → Bool
  | .call index => system.calls[index]?.any fun call => call.stage = .joining
  | _ => false

/-- The action loads `accepted` for a session row. -/
def opens : Action Record → Bool
  | .worker index _ => (system.workers[index]?.bind WorkerStage.persist).any PersistStage.opens
  | .closer index _ => (system.closers[index]?.bind CloseStage.persist).any PersistStage.opens
  | _ => false

/-- No `pending.Add` comes between the loads of `accepted` and `pending`; and when calls may be
turned away, none is undecided while `accepted` is loaded. -/
structure Orderly (setup : Setup) (action : Action Record) : Prop where
  joins : system.joins action = true → ∀ stage ∈ system.persists, stage.between = false
  opens : setup.overflow = .drop → system.opens action = true →
    ∀ call ∈ system.calls, call.stage.undecided = false

/-- The calls that `pending` has counted, whether their record has left it or not. -/
def arrivals : Nat :=
  system.recorder.queued.length + (system.calls.map fun call => call.stage.pends).sum

end System

/-! ### Readings -/

/-- The calls that are putting their record into the queue and cannot be turned away. -/
def Moment.blocked (setup : Setup) (moment : Moment) : Nat :=
  match setup.overflow with
  | .block => moment.joining + moment.offering
  | .drop => 0

theorem Moment.blocked_empty (setup : Setup) : ({} : Moment).blocked setup = 0 := by
  unfold blocked
  split <;> rfl

/-- The values loaded so far, when `arrivals` calls have come into `pending` and `departed`
records have left it. -/
structure Reads (setup : Setup) (arrivals departed now : Nat) (left : List Counter)
    (seen : RecorderStats) (opening : Moment) : Prop where
  started : setup.sessionStart ≤ now
  order : left <:+ statsOrder
  accepted : .accepted ∉ left → seen.accepted = opening.queued + opening.blocked setup
  arrived : .accepted ∉ left → .pending ∈ left → arrivals ≤ seen.accepted
  persisted : .persisted ∉ left → seen.persisted ≤ departed
  pending : .pending ∉ left → seen.persisted + seen.pending ≤ seen.accepted

def PersistStage.Faithful (setup : Setup) (arrivals departed : Nat) : PersistStage → Prop
  | .loading _ now left seen opening => Reads setup arrivals departed now left seen opening
  | _ => True

/-- A session row that was loaded in order. -/
structure Upsert.Faithful (setup : Setup) (upsert : Upsert) : Prop where
  session : ∃ completed now, setup.sessionStart ≤ now ∧
    upsert.session = setup.session completed now upsert.session.stats
  accepted : upsert.session.stats.accepted = upsert.opening.queued + upsert.opening.blocked setup
  ordered : upsert.session.stats.persisted + upsert.session.stats.pending ≤
    upsert.session.stats.accepted

section Persisting

variable {setup : Setup} {recorder : Recorder Record} {moment : Moment}
  {arrivals departed : Nat} {stage : PersistStage}

theorem startPersist_faithful (environment : Environment Record) (completed force : Bool) :
    (startPersist environment completed force).Faithful setup arrivals departed := by
  unfold startPersist
  split <;> trivial

/-- Between the steps of a call of `persistSession` no call comes into `pending` at the wrong
time. -/
theorem PersistStage.Faithful.later {arrived gone : Nat}
    (faithful : stage.Faithful setup arrivals departed)
    (steady : arrived ≤ arrivals ∨ stage.between = false) (onward : departed ≤ gone) :
    stage.Faithful setup arrived gone := by
  cases stage with
  | loading completed now left seen opening =>
    refine ⟨faithful.started, faithful.order, faithful.accepted, fun loaded open_ => ?_,
      fun loaded => (faithful.persisted loaded).trans onward, faithful.pending⟩
    rcases steady with fewer | apart
    · exact fewer.trans (faithful.arrived loaded open_)
    · simp [between, loaded, open_] at apart
  | locking | locked | upserting | finished => trivial

/-- What is loaded from counters that belong to `moment`. -/
structure Moment.Exact (setup : Setup) (arrivals : Nat) (opens : Bool) (moment : Moment)
    (recorder : Recorder Record) : Prop where
  accepted : opens = true → recorder.stats.accepted = moment.queued + moment.blocked setup
  arrived : opens = true → arrivals ≤ recorder.stats.accepted
  persisted : recorder.stats.persisted ≤ recorder.departed
  pending : recorder.stats.pending + recorder.departed = arrivals

theorem Reads.load {completed : Bool} {now : Nat} {counter : Counter} {left : List Counter}
    {seen : RecorderStats} {opening : Moment}
    (exactly : moment.Exact setup arrivals
      (PersistStage.loading completed now (counter :: left) seen opening).opens recorder)
    (reads : Reads setup arrivals recorder.departed now (counter :: left) seen opening) :
    Reads setup arrivals recorder.departed now left (recorder.stats.load counter seen)
      (if counter = .accepted then moment else opening) := by
  obtain ⟨started, order, accepted, arrived, persisted, pending⟩ := reads
  have rest := (suffix_cons counter left).trans order
  -- The counters come in the order of `Stats`, so `left` is one of its tails.
  simp only [statsOrder, suffix_cons_iff, cons.injEq, suffix_nil, reduceCtorEq, or_false] at order
  rcases order with ⟨rfl, rfl⟩ | ⟨rfl, rfl⟩ | ⟨rfl, rfl⟩ | ⟨rfl, rfl⟩ | ⟨rfl, rfl⟩ | ⟨rfl, rfl⟩ |
    ⟨rfl, rfl⟩ | ⟨rfl, rfl⟩
  · exact ⟨started, rest, fun _ => exactly.accepted rfl, fun _ _ => exactly.arrived rfl,
      by simp, by simp⟩
  · exact ⟨started, rest, fun _ => accepted (by decide),
      fun _ _ => arrived (by decide) (by decide), fun _ => exactly.persisted, by simp⟩
  · have loaded := persisted (by decide)
    have enough := arrived (by decide) (by decide)
    have held := exactly.pending
    refine ⟨started, rest, fun _ => accepted (by decide), by simp, fun _ => loaded, fun _ => ?_⟩
    simp only [RecorderStats.load]
    omega
  all_goals
    exact ⟨started, rest, fun _ => accepted (by decide), by simp, fun _ => persisted (by decide),
      fun _ => pending (by decide)⟩

theorem advancePersist_faithful (stored : Bool)
    (exactly : moment.Exact setup arrivals stage.opens recorder)
    (started : setup.sessionStart ≤ recorder.clock)
    (faithful : stage.Faithful setup arrivals recorder.departed)
    (upserts : ∀ upsert ∈ recorder.upserts, upsert.Faithful setup) :
    (recorder.advancePersist setup moment stored stage).2.Faithful setup arrivals
        recorder.departed ∧
      ∀ upsert ∈ (recorder.advancePersist setup moment stored stage).1.upserts,
        upsert.Faithful setup := by
  fun_cases Recorder.advancePersist setup moment stored stage recorder with
  | case4 completed force =>
    refine ⟨⟨started, suffix_rfl, ?_, ?_, ?_, ?_⟩, upserts⟩ <;> intro loaded <;>
      exact absurd (by decide) loaded
  | case5 => exact ⟨faithful.load exactly, upserts⟩
  | case6 completed now seen opening =>
    refine ⟨trivial, forall_mem_append.mpr ⟨upserts, forall_mem_singleton.mpr ?_⟩⟩
    exact ⟨⟨completed, now, faithful.started, rfl⟩, faithful.accepted not_mem_nil,
      faithful.pending not_mem_nil⟩
  | _ => exact ⟨trivial, upserts⟩

end Persisting

structure Read (setup : Setup) (system : System Record) : Prop where
  clock : setup.sessionStart ≤ system.recorder.clock
  persists : ∀ stage ∈ system.persists,
    stage.Faithful setup system.arrivals system.recorder.departed
  upserts : ∀ upsert ∈ system.recorder.upserts, upsert.Faithful setup

theorem mem_filterMap_set {Cell Part : Type} {part : Cell → Option Part} {cells : List Cell}
    {new : Cell} {index : Nat} {found : Part}
    (listed : found ∈ (cells.set index new).filterMap part) :
    found ∈ cells.filterMap part ∨ part new = some found := by
  obtain ⟨cell, placed, same⟩ := mem_filterMap.mp listed
  rcases mem_or_eq_of_mem_set placed with old | rfl
  · exact .inl (mem_filterMap.mpr ⟨cell, old, same⟩)
  · exact .inr same

namespace System

variable {environment : Environment Record} {setup : Setup} {system : System Record}

theorem sum_accepts {calls : List (RecordCall Record)}
    (forward : ∀ call ∈ calls, call.stage.retreats = false) :
    (calls.map fun call => call.stage.accepts).sum =
      calls.countP (fun call => call.stage = .joining) +
        calls.countP fun call => call.stage = .sending := by
  induction calls with
  | nil => rfl
  | cons call rest ih =>
    obtain ⟨first, later⟩ := forall_mem_cons.mp forward
    simp only [map_cons, sum_cons, countP_cons, ih later]
    revert first
    cases call.stage <;> simp [CallStage.accepts, CallStage.retreats] <;> omega

theorem moment_exact {opens : Bool} (books : system.Books) (guarded : Guarded setup system)
    (decided : setup.overflow = .drop → opens = true →
      ∀ call ∈ system.calls, call.stage.undecided = false) :
    system.moment.Exact setup system.arrivals opens system.recorder := by
  have accepted := books.accepted
  have within (opening : opens = true) : (system.calls.map fun call => call.stage.pends).sum ≤
      (system.calls.map fun call => call.stage.accepts).sum := by
    refine List.sum_le_sum fun call listed => CallStage.pends_le_accepts fun same => ?_
    cases policy : setup.overflow with
    | block => cases same ▸ guarded.blocking policy call listed
    | drop => cases same ▸ decided policy opening call listed
  refine ⟨fun opening => ?_, fun opening => ?_, ?_, books.pending⟩
  · rw [accepted]
    change system.recorder.queued.length + _ = system.recorder.queued.length + _
    congr 1
    unfold Moment.blocked
    cases policy : setup.overflow with
    | block => exact sum_accepts (guarded.blocking policy)
    | drop =>
      refine sum_eq_zero fun share listed => ?_
      obtain ⟨call, calling, rfl⟩ := mem_map.mp listed
      exact CallStage.accepts_eq_zero (decided policy opening call calling)
  · rw [accepted, arrivals]
    exact Nat.add_le_add_left (within opening) _
  · have departed := books.departed
    omega

theorem advanceCall_arrives (recorder : Recorder Record) (index : Nat) (record : Record)
    {stage : CallStage} (other : stage ≠ .joining) :
    (recorder.advanceCall environment setup index record stage).1.queued.length +
        (recorder.advanceCall environment setup index record stage).2.pends ≤
      recorder.queued.length + stage.pends := by
  fun_cases Recorder.advanceCall environment setup index record stage recorder <;>
    simp_all [CallStage.pends, Recorder.withStats]

theorem advanceCall_departed (recorder : Recorder Record) (index : Nat) (record : Record)
    (stage : CallStage) :
    (recorder.advanceCall environment setup index record stage).1.departed =
      recorder.departed := by
  fun_cases Recorder.advanceCall environment setup index record stage recorder <;> rfl

/-- A worker takes in no record and never takes a departed one back. -/
theorem worker_flows {recorder result : Recorder Record} {moment : Moment}
    {worker after : WorkerStage Record}
    (move : WorkerMove environment setup moment recorder worker result after) :
    result.queued = recorder.queued ∧ recorder.departed ≤ result.departed := by
  cases move with
  | persist stage stored again =>
    have same := @advancePersist_sameBooks _ setup recorder moment stored stage
    exact ⟨same.queued, same.departed.ge⟩
  | settle records stored still => exact ⟨rfl, Nat.le_add_right _ _⟩
  | _ => exact ⟨rfl, Nat.le_refl _⟩

theorem worker_reads {recorder result : Recorder Record} {moment : Moment}
    {worker after : WorkerStage Record} {arrivals : Nat}
    (move : WorkerMove environment setup moment recorder worker result after)
    (exactly : moment.Exact setup arrivals (worker.persist.any PersistStage.opens) recorder)
    (started : setup.sessionStart ≤ recorder.clock)
    (faithful : ∀ stage, worker.persist = some stage →
      stage.Faithful setup arrivals recorder.departed)
    (upserts : ∀ upsert ∈ recorder.upserts, upsert.Faithful setup) :
    (∀ stage, after.persist = some stage → stage.Faithful setup arrivals result.departed) ∧
      (∀ upsert ∈ result.upserts, upsert.Faithful setup) ∧
      setup.sessionStart ≤ result.clock := by
  cases move with
  | stay => exact ⟨faithful, upserts, started⟩
  | failed | credit =>
    refine ⟨?_, upserts, started⟩
    rintro stage ⟨⟩
    exact startPersist_faithful environment false _
  | persist stage stored again =>
    have same := @advancePersist_sameBooks _ setup recorder moment stored stage
    obtain ⟨after, kept⟩ := advancePersist_faithful stored exactly started (faithful stage rfl)
      upserts
    refine ⟨?_, kept, same.clock ▸ started⟩
    rintro stage ⟨⟩
    exact same.departed ▸ after
  | receive | collect | settle | resume =>
    refine ⟨fun stage same => ?_, upserts, started⟩
    try unfold collected at same
    split at same <;> cases same
  | finish | exhaust | timer | answer | fail | count => exact ⟨nofun, upserts, started⟩

theorem mem_persists_worker {index : Nat} {worker : WorkerStage Record} {stage : PersistStage}
    (found : system.workers[index]? = some worker) (persisting : worker.persist = some stage) :
    stage ∈ system.persists :=
  mem_append_left _ (mem_filterMap.mpr ⟨worker, mem_of_getElem? found, persisting⟩)

theorem Read.worker (read : Read setup system) {index : Nat} {worker after : WorkerStage Record}
    {result : Recorder Record} (found : system.workers[index]? = some worker)
    (move : WorkerMove environment setup system.moment system.recorder worker result after)
    (exactly : system.moment.Exact setup system.arrivals
      (worker.persist.any PersistStage.opens) system.recorder) :
    Read setup { system with
      recorder := result
      workers := system.workers.set index after } := by
  obtain ⟨queued, onward⟩ := worker_flows move
  obtain ⟨own, upserts, started⟩ := worker_reads move exactly read.clock
    (fun stage persisting => read.persists stage (mem_persists_worker found persisting))
    read.upserts
  have same : arrivals { system with
      recorder := result
      workers := system.workers.set index after } = system.arrivals := by
    rw [arrivals, arrivals, queued]
  refine ⟨started, fun stage listed => ?_, upserts⟩
  rw [same]
  rcases mem_append.mp listed with working | closing
  · rcases mem_filterMap_set working with old | new
    · exact (read.persists stage (mem_append_left _ old)).later (.inl le_rfl) onward
    · exact own stage new
  · exact (read.persists stage (mem_append_right _ closing)).later (.inl le_rfl) onward

theorem Read.closer (read : Read setup system) {index : Nat} {closer after : CloseStage}
    {result : Recorder Record} (found : system.closers[index]? = some closer)
    (move : CloseMove environment setup system closer result after)
    (exactly : system.moment.Exact setup system.arrivals
      (closer.persist.any PersistStage.opens) system.recorder) :
    Read setup { system with
      recorder := result
      closers := system.closers.set index after } := by
  have old (stage : PersistStage) (persisting : closer.persist = some stage) :=
    read.persists stage (mem_append_right _
      (mem_filterMap.mpr ⟨closer, mem_of_getElem? found, persisting⟩))
  -- Only the stage of this call of `Close` is new.
  have rest {result : Recorder Record} (started : setup.sessionStart ≤ result.clock)
      (queued : result.queued = system.recorder.queued)
      (departed : result.departed = system.recorder.departed)
      (upserts : ∀ upsert ∈ result.upserts, upsert.Faithful setup)
      (own : ∀ stage, after.persist = some stage →
        stage.Faithful setup system.arrivals system.recorder.departed) :
      Read setup { system with
        recorder := result
        closers := system.closers.set index after } := by
    have same : arrivals { system with
        recorder := result
        closers := system.closers.set index after } = system.arrivals := by
      rw [arrivals, arrivals, queued]
    refine ⟨started, fun stage listed => ?_, upserts⟩
    rw [same]
    change stage.Faithful setup system.arrivals result.departed
    rw [departed]
    rcases mem_append.mp listed with working | closing
    · exact read.persists stage (mem_append_left _ working)
    · rcases mem_filterMap_set closing with kept | new
      · exact read.persists stage (mem_append_right _ kept)
      · exact own stage new
  cases move with
  | stay => exact rest read.clock rfl rfl read.upserts old
  | drain =>
    refine rest read.clock rfl rfl read.upserts ?_
    rintro stage ⟨⟩
    exact startPersist_faithful environment true true
  | persist stage stored =>
    have same := @advancePersist_sameBooks _ setup system.recorder system.moment stored stage
    obtain ⟨own, upserts⟩ := advancePersist_faithful stored exactly read.clock (old stage rfl)
      read.upserts
    refine rest (same.clock ▸ read.clock) same.queued same.departed upserts ?_
    rintro stage ⟨⟩
    exact own
  | join | close | expire | leave => exact rest read.clock rfl rfl read.upserts nofun

theorem Read.steps (read : Read setup system) (books : system.Books)
    (guarded : Guarded setup system) {action : Action Record} {after : System Record}
    (orderly : system.Orderly setup action) (steps : Steps environment setup system action after) :
    Read setup after := by
  cases steps with
  | same => exact read
  | record record =>
    refine ⟨read.clock, fun stage listed => ?_, read.upserts⟩
    refine (read.persists stage listed).later (.inl ?_) le_rfl
    simp [arrivals, CallStage.pends]
  | @call index call recorder after found advanced =>
    have keeps := @advanceCall_keeps _ environment setup system.recorder index call.record
      call.stage
    have departed := @advanceCall_departed _ environment setup system.recorder index call.record
      call.stage
    have arrives := @advanceCall_arrives _ environment setup system.recorder index call.record
      call.stage
    rw [advanced] at keeps departed arrives
    obtain ⟨others, now, then_⟩ := exists_rest
      (fun call : RecordCall Record => call.stage.pends) found
    refine ⟨keeps.clock ▸ read.clock, fun stage listed => ?_, keeps.upserts ▸ read.upserts⟩
    refine (read.persists stage listed).later ?_ departed.ge
    by_cases joining : call.stage = .joining
    · exact .inr (orderly.joins (by simp [joins, found, joining]) stage listed)
    · have fewer := arrives joining
      simp only [arrivals, now, then_]
      dsimp only at fewer ⊢
      exact .inl (by omega)
  | @worker index choice worker after recorder found move =>
    refine Read.worker read found move (moment_exact books guarded fun policy opening => ?_)
    exact orderly.opens policy (by simpa [opens, found] using opening)
  | close =>
    refine ⟨read.clock, fun stage listed => read.persists stage ?_, read.upserts⟩
    simpa [persists, CloseStage.persist] using listed
  | @closer index choice closer after recorder found move =>
    refine Read.closer read found move (moment_exact books guarded fun policy opening => ?_)
    exact orderly.opens policy (by simpa [opens, found] using opening)
  | tick elapsed =>
    exact ⟨Nat.le_add_right_of_le read.clock, read.persists, read.upserts⟩

end System

end SparkRoute.SavedTrace
