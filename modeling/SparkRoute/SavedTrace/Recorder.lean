import SparkRoute.Lib.Queue
import SparkRoute.Lib.Run
import SparkRoute.Lib.Utf8

/-!
# The asynchronous trace recorder

Goroutines call `Record` and `Close`, and workers move records from the queue into the
store.  An action moves one of them over its next atomic operation or lock, with the answer
of the store where it needs one.  The counters of a capture session are loaded one by one.
Times are nanoseconds and zero is the zero time; the clock is monotonic.
-/

namespace SparkRoute.SavedTrace

open Lib

/-! ### Options -/

inductive OverflowPolicy where
  | block
  | drop
  deriving DecidableEq, Repr

def OverflowPolicy.text : OverflowPolicy → GoString
  | .block => ascii "block"
  | .drop => ascii "drop"

/-- An omitted policy is `none`. -/
structure AsyncOptions extends QueueOptions where
  workers : Int := 0
  overflow : Option OverflowPolicy := none
  batchSize : Int := 0
  batchInterval : Int := 0
  sessionInterval : Int := 0
  sessionID : GoString := []

def AsyncOptions.withDefaults (options : AsyncOptions) : AsyncOptions where
  toQueueOptions := options.toQueueOptions.withDefaults 30000000000
  workers := orDefault options.workers 1
  overflow := some (options.overflow.getD .block)
  batchSize := orDefault options.batchSize 256
  batchInterval := orDefault options.batchInterval 2000000
  sessionInterval := orDefault options.sessionInterval 1000000000
  sessionID := options.sessionID

def AsyncOptions.validate (options : AsyncOptions) : Option String :=
  if options.queueCapacity ≤ 0 ∨ options.writeTimeout ≤ 0 ∨ options.workers ≤ 0 then
    some "saved trace queue capacity, write timeout, and worker count must be positive"
  else if options.batchSize ≤ 0 ∨ options.batchInterval ≤ 0 ∨ options.sessionInterval ≤ 0 then
    some "saved trace batch size, batch interval, and session interval must be positive"
  else none

/-- The recorder's view of a record and of its store. -/
structure Environment (Record : Type) where
  validate : Record → Option String
  /-- Sets `CaptureSessionID`. -/
  stamp : GoString → Record → Record
  /-- The store is a `BatchStore`. -/
  batches : Bool
  /-- The store is a `CaptureSessionStore`. -/
  sessions : Bool

/-- A recorder after `NewAsyncRecorder`: the accepted options and the session it opened. -/
structure Setup where
  capacity : Nat
  overflow : OverflowPolicy
  batchSize : Nat
  sessionInterval : Nat
  sessionID : GoString
  sessionStart : Nat

/-! ### Counters and sessions -/

inductive Counter where
  | accepted
  | persisted
  | pending
  | lost
  | invalid
  | queueFull
  | closed
  | storeFailures
  deriving DecidableEq, Repr

structure RecorderStats where
  accepted : Nat := 0
  persisted : Nat := 0
  pending : Nat := 0
  lost : Nat := 0
  invalid : Nat := 0
  queueFull : Nat := 0
  closed : Nat := 0
  storeFailures : Nat := 0
  deriving DecidableEq, Repr

/-- The order in which `Stats` loads the counters. -/
def statsOrder : List Counter :=
  [.accepted, .persisted, .pending, .lost, .invalid, .queueFull, .closed, .storeFailures]

/-- Load one counter of `current`. -/
def RecorderStats.load (current : RecorderStats) (counter : Counter) (seen : RecorderStats) :
    RecorderStats :=
  match counter with
  | .accepted => { seen with accepted := current.accepted }
  | .persisted => { seen with persisted := current.persisted }
  | .pending => { seen with pending := current.pending }
  | .lost => { seen with lost := current.lost }
  | .invalid => { seen with invalid := current.invalid }
  | .queueFull => { seen with queueFull := current.queueFull }
  | .closed => { seen with closed := current.closed }
  | .storeFailures => { seen with storeFailures := current.storeFailures }

/-- The reasons for which a call of `Record` gives up. -/
inductive Refusal where
  | invalidRecord
  | queueFull
  | recorderClosed
  deriving DecidableEq, Repr

def Refusal.reason : Refusal → LossReason
  | .invalidRecord => .invalidRecord
  | .queueFull => .queueFull
  | .recorderClosed => .closed

/-- The second half of `loss`. -/
def RecorderStats.count (stats : RecorderStats) : LossReason → RecorderStats
  | .invalidRecord => { stats with invalid := stats.invalid + 1 }
  | .queueFull => { stats with queueFull := stats.queueFull + 1 }
  | .closed => { stats with closed := stats.closed + 1 }
  | .storeFailure => { stats with storeFailures := stats.storeFailures + 1 }

structure CaptureSession where
  id : GoString
  startedAt : Nat
  updatedAt : Nat
  completedAt : Option Nat := none
  mode : GoString
  stats : RecorderStats
  deriving DecidableEq

def validateString (name : String) (value : GoString) (maximum : Nat) : Except String Unit :=
  if maximum < value.length then .error s!"{name} exceeds {maximum} bytes"
  else if !Utf8.valid value then .error s!"{name} is not valid UTF-8"
  else .ok ()

def CaptureSession.validate (session : CaptureSession) : Except String Unit := do
  validateString "capture session ID" session.id 128
  if session.id = [] ∨ session.startedAt = 0 ∨ session.updatedAt = 0 ∨ session.mode = [] then
    .error "capture session ID, timestamps, and mode are required"
  else if session.updatedAt < session.startedAt then
    .error "capture session update precedes start"
  else if session.completedAt.any fun completed => completed < session.startedAt then
    .error "capture session completion precedes start"
  else if session.stats.accepted < session.stats.persisted + session.stats.pending then
    .error "capture session counters are inconsistent"
  else .ok ()

/-! ### States -/

abbrev Entry (Record : Type) := Nat × Record

/-- Where a call of `Record` stands.  From `reading` to `sent` or `dropped` it holds the
read lock. -/
inductive CallStage where
  | entered
  | validated
  | reading
  | adding
  | joining
  | sending
  | sent
  | overflowed
  | withdrawing
  | dropped
  | losing (refusal : Refusal)
  | counting (refusal : Refusal)
  | returned
  deriving DecidableEq, Repr

def CallStage.locks : CallStage → Bool
  | .reading | .adding | .joining | .sending | .sent | .overflowed | .withdrawing
  | .dropped => true
  | _ => false

structure RecordCall (Record : Type) where
  record : Record
  stage : CallStage := .entered

/-- The records that have gone into the queue at one instant, and the calls that have added
to `accepted`, or to `pending` too, and are to send theirs. -/
structure Moment where
  queued : Nat := 0
  joining : Nat := 0
  offering : Nat := 0
  deriving DecidableEq, Repr

/-- A value passed to `UpsertCaptureSession`, with the instant at which its `accepted` was
loaded. -/
structure Upsert where
  session : CaptureSession
  opening : Moment
  deriving DecidableEq

/-- Where a call of `persistSession` stands; from `locked` on it holds the session lock. -/
inductive PersistStage where
  | locking (completed force : Bool)
  | locked (completed force : Bool)
  | loading (completed : Bool) (now : Nat) (left : List Counter) (seen : RecorderStats)
      (opening : Moment)
  | upserting (now : Nat)
  | finished

/-- Where a worker stands; `still` is the variable `open`. -/
inductive WorkerStage (Record : Type) where
  | receiving
  | collecting (records : List (Entry Record))
  | storing (records : List (Entry Record)) (still : Bool)
  | settling (records : List (Entry Record)) (stored still : Bool)
  | failing (left : Nat)
  | counting (left : Nat)
  | crediting (records : List (Entry Record)) (still : Bool)
  | persisting (stage : PersistStage) (again : Bool)
  | finished

inductive CloseStage where
  | entered
  | waiting
  | persisting (stage : PersistStage)
  | drained
  | expired

/-- The recorder's shared state, followed by its history: the records that went into the
queue, those that workers took out of `pending`, and the sessions passed to the store. -/
structure Recorder (Record : Type) where
  queue : List (Entry Record) := []
  closed : Bool := false
  stats : RecorderStats := {}
  clock : Nat := 0
  sessionLast : Nat := 0
  sessionHeld : Bool := false
  queued : List (Entry Record) := []
  departed : Nat := 0
  upserts : List Upsert := []

structure System (Record : Type) where
  recorder : Recorder Record
  calls : List (RecordCall Record) := []
  workers : List (WorkerStage Record) := []
  closers : List CloseStage := []

inductive WorkerChoice where
  /-- The next operation, or a receive from the queue. -/
  | proceed
  /-- The batch timer fires. -/
  | timer
  /-- The store answers. -/
  | answer (stored : Bool)

inductive CloseChoice where
  | proceed
  | answer (stored : Bool)
  /-- `ctx.Done` is chosen. -/
  | expire

inductive Action (Record : Type) where
  | record (record : Record)
  | call (index : Nat)
  | worker (index : Nat) (choice : WorkerChoice)
  | close
  | closer (index : Nat) (choice : CloseChoice)
  | tick (elapsed : Nat)

section Steps

variable {Record : Type} (environment : Environment Record) (setup : Setup)

/-! ### Record -/

def Recorder.withStats (recorder : Recorder Record) (stats : RecorderStats) : Recorder Record :=
  { recorder with stats := stats }

def Recorder.advanceCall (index : Nat) (record : Record) (stage : CallStage)
    (recorder : Recorder Record) : Recorder Record × CallStage :=
  let stats := recorder.stats
  match stage with
  | .entered =>
    match environment.validate record with
    | some _ => (recorder, .losing .invalidRecord)
    | none => (recorder, .validated)
  | .validated => (recorder, .reading)
  | .reading =>
    if recorder.closed then (recorder, .losing .recorderClosed) else (recorder, .adding)
  | .adding => (recorder.withStats { stats with accepted := stats.accepted + 1 }, .joining)
  | .joining => (recorder.withStats { stats with pending := stats.pending + 1 }, .sending)
  | .sending =>
    let stamped := if setup.sessionID = [] then record
      else environment.stamp setup.sessionID record
    if recorder.queue.length < setup.capacity then
      ({ recorder with
          queue := recorder.queue ++ [(index, stamped)]
          queued := recorder.queued ++ [(index, stamped)] }, .sent)
    else
      match setup.overflow with
      | .block => (recorder, .sending)
      | .drop => (recorder, .overflowed)
  | .sent => (recorder, .returned)
  | .overflowed => (recorder.withStats { stats with accepted := stats.accepted - 1 }, .withdrawing)
  | .withdrawing => (recorder.withStats { stats with pending := stats.pending - 1 }, .dropped)
  | .dropped => (recorder, .losing .queueFull)
  | .losing refusal => (recorder.withStats { stats with lost := stats.lost + 1 }, .counting refusal)
  | .counting refusal => (recorder.withStats (stats.count refusal.reason), .returned)
  | .returned => (recorder, .returned)

/-! ### persistSession -/

def startPersist (completed force : Bool) : PersistStage :=
  if environment.sessions then .locking completed force else .finished

def Setup.session (completed : Bool) (now : Nat) (stats : RecorderStats) : CaptureSession where
  id := setup.sessionID
  startedAt := setup.sessionStart
  updatedAt := now
  completedAt := if completed then some now else none
  mode := setup.overflow.text
  stats := stats

/-- The next operation of a call of `persistSession`; `stored` is the answer of the store. -/
def Recorder.advancePersist (moment : Moment) (stored : Bool) (stage : PersistStage)
    (recorder : Recorder Record) : Recorder Record × PersistStage :=
  match stage with
  | .locking completed force =>
    if recorder.sessionHeld then (recorder, .locking completed force)
    else ({ recorder with sessionHeld := true }, .locked completed force)
  | .locked completed force =>
    if !force && recorder.sessionLast ≠ 0 &&
        recorder.clock - recorder.sessionLast < setup.sessionInterval then
      ({ recorder with sessionHeld := false }, .finished)
    else
      (recorder, .loading completed recorder.clock statsOrder {} {})
  | .loading completed now (counter :: left) seen opening =>
    (recorder, .loading completed now left (recorder.stats.load counter seen)
      (if counter = .accepted then moment else opening))
  | .loading completed now [] seen opening =>
    ({ recorder with
        upserts := recorder.upserts ++ [⟨setup.session completed now seen, opening⟩] },
      .upserting now)
  | .upserting now =>
    ({ recorder with
        sessionHeld := false
        sessionLast := if stored then now else recorder.sessionLast }, .finished)
  | .finished => (recorder, .finished)

/-! ### Workers -/

/-- After a receive the batch is stored when it is full, or when batches are not collected. -/
def collected (records : List (Entry Record)) : WorkerStage Record :=
  if environment.batches && 1 < setup.batchSize && records.length < setup.batchSize then
    .collecting records
  else
    .storing records true

def Recorder.advanceWorker (moment : Moment) (choice : WorkerChoice) (stage : WorkerStage Record)
    (recorder : Recorder Record) : Recorder Record × WorkerStage Record :=
  let stats := recorder.stats
  match stage, choice with
  | .receiving, .proceed =>
    match recorder.queue with
    | entry :: rest => ({ recorder with queue := rest }, collected environment setup [entry])
    | [] => if recorder.closed then (recorder, .finished) else (recorder, .receiving)
  | .collecting records, .proceed =>
    match recorder.queue with
    | entry :: rest =>
      ({ recorder with queue := rest }, collected environment setup (records ++ [entry]))
    | [] =>
      if recorder.closed then (recorder, .storing records false)
      else (recorder, .collecting records)
  | .collecting records, .timer => (recorder, .storing records true)
  | .storing records still, .answer stored => (recorder, .settling records stored still)
  | .settling records stored still, .proceed =>
    ({ recorder.withStats { stats with pending := stats.pending - records.length } with
        departed := recorder.departed + records.length },
      if stored then .crediting records still else .failing records.length)
  | .failing 0, .proceed => (recorder, .persisting (startPersist environment false true) true)
  | .failing (left + 1), .proceed =>
    (recorder.withStats { stats with lost := stats.lost + 1 }, .counting left)
  | .counting left, .proceed => (recorder.withStats (stats.count .storeFailure), .failing left)
  | .crediting records still, .proceed =>
    (recorder.withStats { stats with persisted := stats.persisted + records.length },
      .persisting (startPersist environment false false) still)
  | .persisting .finished again, .proceed =>
    (recorder, if again then .receiving else .finished)
  | .persisting (.upserting now) again, .answer stored =>
    let (recorder, stage) := recorder.advancePersist setup moment stored (.upserting now)
    (recorder, .persisting stage again)
  | .persisting (.upserting now) again, _ => (recorder, .persisting (.upserting now) again)
  | .persisting stage again, .proceed =>
    let (recorder, stage) := recorder.advancePersist setup moment true stage
    (recorder, .persisting stage again)
  | stage, _ => (recorder, stage)

/-! ### Close and the system -/

namespace System

variable (system : System Record)

def moment : Moment where
  queued := system.recorder.queued.length
  joining := system.calls.countP fun call => call.stage = .joining
  offering := system.calls.countP fun call => call.stage = .sending

def readLocked : Bool :=
  system.calls.any fun call => call.stage.locks

/-- `done` is closed once every worker has returned. -/
def done : Bool :=
  system.workers.all fun worker => worker matches .finished

/-- The next operation of a call of `Close`.  The first one closes the queue under the write
lock; the others wait for it. -/
def advanceClose (choice : CloseChoice) (stage : CloseStage) :
    Recorder Record × CloseStage :=
  let recorder := system.recorder
  match stage, choice with
  | .entered, .proceed =>
    if recorder.closed then (recorder, .waiting)
    else if system.readLocked then (recorder, .entered)
    else ({ recorder with closed := true }, .waiting)
  | .waiting, .proceed =>
    if system.done then (recorder, .persisting (startPersist environment true true))
    else (recorder, .waiting)
  | .waiting, .expire => (recorder, .expired)
  | .persisting .finished, .proceed => (recorder, .drained)
  | .persisting (.upserting now), .answer stored =>
    let (recorder, stage) := recorder.advancePersist setup system.moment stored (.upserting now)
    (recorder, .persisting stage)
  | .persisting (.upserting now), _ => (recorder, .persisting (.upserting now))
  | .persisting stage, .proceed =>
    let (recorder, stage) := recorder.advancePersist setup system.moment true stage
    (recorder, .persisting stage)
  | stage, _ => (recorder, stage)

def stepCall (index : Nat) : System Record :=
  match system.calls[index]? with
  | none => system
  | some call =>
    let (recorder, stage) :=
      system.recorder.advanceCall environment setup index call.record call.stage
    { system with
      recorder := recorder
      calls := system.calls.set index { call with stage := stage } }

def stepWorker (index : Nat) (choice : WorkerChoice) : System Record :=
  match system.workers[index]? with
  | none => system
  | some worker =>
    let (recorder, stage) :=
      system.recorder.advanceWorker environment setup system.moment choice worker
    { system with
      recorder := recorder
      workers := system.workers.set index stage }

def stepClose (index : Nat) (choice : CloseChoice) : System Record :=
  match system.closers[index]? with
  | none => system
  | some closer =>
    let (recorder, stage) := system.advanceClose environment setup choice closer
    { system with
      recorder := recorder
      closers := system.closers.set index stage }

def step : Action Record → System Record
  | .record record => { system with calls := system.calls ++ [{ record := record }] }
  | .call index => system.stepCall environment setup index
  | .worker index choice => system.stepWorker environment setup index choice
  | .close => { system with closers := system.closers ++ [.entered] }
  | .closer index choice => system.stepClose environment setup index choice
  | .tick elapsed =>
    { system with recorder := { system.recorder with clock := system.recorder.clock + elapsed } }

end System

end Steps

/-! ### NewAsyncRecorder -/

/-- The setup and the first state.  `generated` is the random session ID, `started` and `now`
the two clock readings, and `stored` the store's answer to the first upsert. -/
def newAsyncRecorder {Record : Type} (environment : Environment Record) (options : AsyncOptions)
    (generated : GoString) (started now : Nat) (stored : Bool) :
    Except String (Setup × System Record) :=
  let options := options.withDefaults
  match options.validate with
  | some message => .error message
  | none =>
    let sessionID := if !environment.sessions then []
      else if options.sessionID = [] then generated else options.sessionID
    let setup : Setup :=
      { capacity := options.queueCapacity.toNat
        overflow := options.overflow.getD .block
        batchSize := options.batchSize.toNat
        sessionInterval := options.sessionInterval.toNat
        sessionID := sessionID
        sessionStart := started }
    if environment.sessions && !stored then .error "start saved trace capture session"
    else
      .ok (setup,
        { recorder :=
            { clock := now
              sessionLast := if environment.sessions then now else 0
              upserts := if environment.sessions then
                  [⟨setup.session false now {}, {}⟩] else [] }
          workers := List.replicate options.workers.toNat .receiving })

end SparkRoute.SavedTrace
