import SparkRoute.Lib.Bytes
import SparkRoute.Lib.Queue
import SparkRoute.Lib.Run

/-!
# The asynchronous ledger writer

Goroutines call `Record`, one of them calls `Close`, and the writer's own goroutine moves
records from the queue into batches. An action moves one of them to its next point of
synchronisation, with the answer of the store where it needs one. A record carries the number
of the call that brought it.
-/

namespace SparkRoute.Ledger

open Lib

/-! ### Options -/

structure AsyncOptions extends QueueOptions where
  maxBatchRecords : Int := 0
  maxBatchBytes : Int := 0
  flushInterval : Int := 0
  maxRetries : Int := 0
  initialRetryDelay : Int := 0
  /-- Whether `OnLoss` is set. -/
  onLoss : Bool := false

/-- Durations are in nanoseconds. -/
def withAsyncDefaults (options : AsyncOptions) : AsyncOptions where
  toQueueOptions := options.toQueueOptions.withDefaults 5000000000
  maxBatchRecords := orDefault options.maxBatchRecords 256
  maxBatchBytes := orDefault options.maxBatchBytes 1048576
  flushInterval := orDefault options.flushInterval 1000000000
  maxRetries := orDefault options.maxRetries 3
  initialRetryDelay := orDefault options.initialRetryDelay 50000000
  onLoss := options.onLoss

def validateAsyncOptions (options : AsyncOptions) : Option String :=
  if options.queueCapacity ≤ 0 then some "queue capacity must be positive"
  else if options.maxBatchRecords ≤ 0 ∨ options.maxBatchBytes ≤ 0 then
    some "batch record and byte limits must be positive"
  else if options.flushInterval ≤ 0 ∨ options.writeTimeout ≤ 0 then
    some "flush interval and write timeout must be positive"
  else if options.maxRetries < 0 ∨ 16 < options.maxRetries then
    some "max retries must be between 0 and 16"
  else if options.initialRetryDelay ≤ 0 then some "initial retry delay must be positive"
  else none

/-- The methods of a record that the writer calls. -/
structure RecordMethods (Record : Type) where
  validate : Record → Option String
  estimatedBytes : Record → Nat

/-! ### States -/

abbrev Entry (Record : Type) := Nat × Record

structure LossEvent where
  reason : LossReason
  count : Nat
  deriving DecidableEq, Repr

/-- Where a call of `Record` stands. From `reading` to `sent` it holds the read lock. -/
inductive CallStage where
  | entered
  | validated
  | reading
  | sending
  | sent
  | losing (reason : LossReason)
  | returned
  deriving DecidableEq, Repr

def CallStage.locks : CallStage → Bool
  | .reading | .sending | .sent => true
  | _ => false

structure RecordCall (Record : Type) where
  record : Record
  stage : CallStage := .entered

/-- What the loop goes on with after a flush. -/
inductive AfterFlush (Record : Type) where
  | append (entry : Entry Record) (draining : Bool)
  | select (draining : Bool)
  | close

/-- Where the loop stands; `draining` is the inner loop after `stop`. -/
inductive LoopStage (Record : Type) where
  | selecting (draining : Bool)
  | adding (entry : Entry Record) (draining : Bool)
  | appending (entry : Entry Record) (draining : Bool)
  | flushing (attempt : Nat) (next : AfterFlush Record)
  | closing
  | reporting
  | done

structure Settled (Record : Type) where
  batch : List (Entry Record)
  attempts : Nat
  written : Bool

/-- The writer, followed by its history: the records that went into the queue, the batches of
the calls of `AppendBatch`, the batches that `flush` is through with, and the calls whose
record was lost before the queue. -/
structure AsyncWriter (Record : Type) where
  queue : List (Entry Record) := []
  stop : Bool := false
  closed : Bool := false
  locked : Bool := false
  calls : List (RecordCall Record) := []
  batch : List (Entry Record) := []
  batchBytes : Nat := 0
  stage : LoopStage Record := .selecting false
  enqueued : Nat := 0
  written : Nat := 0
  lost : Nat := 0
  batches : Nat := 0
  retries : Nat := 0
  lossQueue : List LossEvent := []
  lossStop : Bool := false
  lossDone : Bool := false
  accepted : List (Entry Record) := []
  appended : List (List (Entry Record)) := []
  settled : List (Settled Record) := []
  refused : List Nat := []

inductive LoopChoice where
  | receive
  | tick
  | stop
  | fallback
  | proceed
  /-- The answer of `AppendBatch`. -/
  | answer (stored : Bool)

inductive AsyncAction (Record : Type) where
  | record (record : Record)
  | advance (call : Nat)
  | closeLock
  | closeStop
  | loop (choice : LoopChoice)
  | report

namespace AsyncWriter

variable {Record : Type} (methods : RecordMethods Record) (options : AsyncOptions)

/-- `recordLoss`: the counter, and an event if there is room for it. -/
def recordLoss (reason : LossReason) (count : Nat) (writer : AsyncWriter Record) :
    AsyncWriter Record :=
  { writer with
    lost := writer.lost + count
    lossQueue := if options.onLoss ∧ writer.lossQueue.length < 64 then
        writer.lossQueue ++ [⟨reason, count⟩]
      else writer.lossQueue }

/-! ### Record -/

def moveCall (call : Nat) (stage : CallStage) (writer : AsyncWriter Record) : AsyncWriter Record :=
  { writer with calls := writer.calls.modify call fun entry => { entry with stage := stage } }

def advance (call : Nat) (writer : AsyncWriter Record) : AsyncWriter Record :=
  match writer.calls[call]? with
  | none => writer
  | some current =>
    match current.stage with
    | .entered =>
      match methods.validate current.record with
      | some _ => writer.moveCall call (.losing .invalidRecord)
      | none => writer.moveCall call .validated
    | .validated => if writer.locked then writer else writer.moveCall call .reading
    | .reading =>
      if writer.closed then writer.moveCall call (.losing .closed)
      else writer.moveCall call .sending
    | .sending =>
      if (writer.queue.length : Int) < options.queueCapacity then
        { writer.moveCall call .sent with
          queue := writer.queue ++ [(call, current.record)]
          accepted := writer.accepted ++ [(call, current.record)] }
      else writer.moveCall call (.losing .queueFull)
    | .sent => { writer.moveCall call .returned with enqueued := writer.enqueued + 1 }
    | .losing reason =>
      { (writer.recordLoss options reason 1).moveCall call .returned with
        refused := writer.refused ++ [call] }
    | .returned => writer

/-! ### Close -/

variable (writer : AsyncWriter Record)

def readLocked : Bool :=
  writer.calls.any fun call => call.stage.locks

/-- The first call of `Close` takes the lock and sets `closed`. -/
def closeLock : AsyncWriter Record :=
  if writer.closed ∨ writer.readLocked then writer
  else { writer with locked := true, closed := true }

def closeStop : AsyncWriter Record :=
  if writer.locked then { writer with locked := false, stop := true } else writer

/-! ### The loop -/

def resume : AfterFlush Record → LoopStage Record
  | .append entry draining => .appending entry draining
  | .select draining => .selecting draining
  | .close => .closing

/-- The end of `flush`, after which the batch is emptied. -/
def settle (attempts : Nat) (stored : Bool) (next : AfterFlush Record)
    (writer : AsyncWriter Record) : AsyncWriter Record :=
  { writer with
    settled := writer.settled ++ [⟨writer.batch, attempts, stored⟩]
    batch := []
    batchBytes := 0
    stage := resume next }

/-- The head of the loop in `flush`. -/
def attemptFlush (attempt : Nat) (next : AfterFlush Record) (writer : AsyncWriter Record) :
    AsyncWriter Record :=
  if (attempt : Int) ≤ options.maxRetries then { writer with stage := .flushing attempt next }
  else (writer.recordLoss options .storeFailure writer.batch.length).settle attempt false next

def flush (next : AfterFlush Record) (writer : AsyncWriter Record) : AsyncWriter Record :=
  if writer.batch = [] then { writer with stage := resume next }
  else writer.attemptFlush options 0 next

def appendBatch (attempt : Nat) (next : AfterFlush Record) (stored : Bool)
    (writer : AsyncWriter Record) : AsyncWriter Record :=
  let writer := { writer with appended := writer.appended ++ [writer.batch] }
  if stored then
    { writer with
      written := writer.written + writer.batch.length
      batches := writer.batches + 1 }.settle (attempt + 1) true next
  else if (attempt : Int) = options.maxRetries then
    (writer.recordLoss options .storeFailure writer.batch.length).settle (attempt + 1) false next
  else { writer with retries := writer.retries + 1 }.attemptFlush options (attempt + 1) next

/-- The first half of `add`: a batch without room for the record is flushed. -/
def add (entry : Entry Record) (draining : Bool) (writer : AsyncWriter Record) :
    AsyncWriter Record :=
  if writer.batch ≠ [] ∧ (options.maxBatchRecords ≤ writer.batch.length ∨
      options.maxBatchBytes < writer.batchBytes + methods.estimatedBytes entry.2) then
    writer.flush options (.append entry draining)
  else { writer with stage := .appending entry draining }

def append (entry : Entry Record) (draining : Bool) (writer : AsyncWriter Record) :
    AsyncWriter Record :=
  let writer := { writer with
    batch := writer.batch ++ [entry]
    batchBytes := writer.batchBytes + methods.estimatedBytes entry.2 }
  if options.maxBatchRecords ≤ writer.batch.length ∨
      options.maxBatchBytes ≤ writer.batchBytes then
    writer.flush options (.select draining)
  else { writer with stage := .selecting draining }

def loop (choice : LoopChoice) (writer : AsyncWriter Record) : AsyncWriter Record :=
  match writer.stage, choice with
  | .selecting draining, .receive =>
    match writer.queue with
    | [] => writer
    | entry :: rest => { writer with queue := rest, stage := .adding entry draining }
  | .selecting false, .tick => writer.flush options (.select false)
  | .selecting false, .stop =>
    if writer.stop then { writer with stage := .selecting true } else writer
  | .selecting true, .fallback =>
    if writer.queue = [] then writer.flush options .close else writer
  | .adding entry draining, .proceed => writer.add methods options entry draining
  | .appending entry draining, .proceed => writer.append methods options entry draining
  | .flushing attempt next, .answer stored => writer.appendBatch options attempt next stored
  | .closing, .proceed => { writer with lossStop := true, stage := .reporting }
  | .reporting, .proceed => if writer.lossDone then { writer with stage := .done } else writer
  | _, _ => writer

/-- A step of `reportLosses`, which ends once it has been stopped and the queue is empty. -/
def report : AsyncWriter Record :=
  if writer.lossDone then writer
  else
    match writer.lossQueue with
    | _ :: rest => { writer with lossQueue := rest }
    | [] => { writer with lossDone := writer.lossStop }

def step : AsyncAction Record → AsyncWriter Record
  | .record record => { writer with calls := writer.calls ++ [⟨record, .entered⟩] }
  | .advance call => writer.advance methods options call
  | .closeLock => writer.closeLock
  | .closeStop => writer.closeStop
  | .loop choice => writer.loop methods options choice
  | .report => writer.report

end AsyncWriter

end SparkRoute.Ledger
