import SparkRoute.Lib.Tally
import SparkRoute.SavedTrace.Recorder

/-!
# What the counters count

Every counter is a sum over the calls and workers that stand between two of its updates.
`Balanced` states these sums; each operation moves one call or one worker.
-/

namespace SparkRoute.SavedTrace

open Lib List Recorder

/-! ### Shares -/

namespace CallStage

/-- The call is in `accepted` and its record is not in the queue yet. -/
def accepts : CallStage → Nat
  | .joining | .sending | .overflowed => 1
  | _ => 0

/-- The same for `pending`. -/
def pends : CallStage → Nat
  | .sending | .overflowed | .withdrawing => 1
  | _ => 0

/-- The call is in `lost` and not in the counter of its reason. -/
def tallies : CallStage → Nat
  | .counting _ => 1
  | _ => 0

/-- The call has seen an open recorder and still holds the read lock. -/
def commits : CallStage → Bool
  | .adding | .joining | .sending | .sent | .overflowed | .withdrawing | .dropped => true
  | _ => false

/-- The call is rolling back, or has just done so. -/
def retreats : CallStage → Bool
  | .overflowed | .withdrawing | .dropped => true
  | _ => false

end CallStage

namespace WorkerStage

variable {Record : Type}

/-- Records taken from the queue that are still in `pending`. -/
def holds : WorkerStage Record → Nat
  | .collecting records | .storing records _ | .settling records _ _ => records.length
  | _ => 0

/-- Records that left `pending` and are in no other counter yet. -/
def owes : WorkerStage Record → Nat
  | .failing left => left
  | .counting left => left + 1
  | .crediting records _ => records.length
  | _ => 0

def tallies : WorkerStage Record → Nat
  | .counting _ => 1
  | _ => 0

/-- The worker has found the queue closed and empty. -/
def exhausted : WorkerStage Record → Bool
  | .storing _ still | .settling _ _ still | .crediting _ still | .persisting _ still => !still
  | .finished => true
  | _ => false

end WorkerStage

variable {Record : Type}

structure Balanced (recorder : Recorder Record) (accepts pends tallies holds owes held : Nat) :
    Prop where
  accepted : recorder.stats.accepted = recorder.queued.length + accepts
  pending : recorder.stats.pending + recorder.departed = recorder.queued.length + pends
  queued : recorder.queued.length = recorder.queue.length + recorder.departed + holds
  departed : recorder.departed = recorder.stats.persisted + recorder.stats.storeFailures + owes
  lost : recorder.stats.lost = recorder.stats.invalid + recorder.stats.queueFull +
    recorder.stats.closed + recorder.stats.storeFailures + tallies + held

theorem Balanced.congr {recorder other : Recorder Record}
    {accepts pends tallies holds owes held : Nat}
    (balanced : Balanced recorder accepts pends tallies holds owes held)
    (stats : other.stats = recorder.stats) (queued : other.queued = recorder.queued)
    (queue : other.queue = recorder.queue) (departed : other.departed = recorder.departed) :
    Balanced other accepts pends tallies holds owes held := by
  obtain ⟨accepts, pends, holds, owes, tallies⟩ := balanced
  constructor <;> simpa only [stats, queued, queue, departed]

section Steps

variable {environment : Environment Record} {setup : Setup} {recorder : Recorder Record}
  {accepts pends tallies holds owes held : Nat}

theorem advanceCall_balanced (index : Nat) (record : Record) (stage : CallStage)
    (balanced : Balanced recorder (accepts + stage.accepts) (pends + stage.pends)
      (tallies + stage.tallies) holds owes held) :
    Balanced (recorder.advanceCall environment setup index record stage).1
      (accepts + (recorder.advanceCall environment setup index record stage).2.accepts)
      (pends + (recorder.advanceCall environment setup index record stage).2.pends)
      (tallies + (recorder.advanceCall environment setup index record stage).2.tallies)
      holds owes held := by
  cases stage with
  | validated | sent | dropped | returned => exact balanced
  | entered | reading =>
    simp only [advanceCall]
    split <;> exact balanced
  | adding | joining | overflowed | withdrawing | losing =>
    obtain ⟨accepted, pending, queued, departed, lost⟩ := balanced
    simp only [CallStage.accepts, CallStage.pends, CallStage.tallies] at accepted pending lost
    constructor <;> simp only [advanceCall, withStats, CallStage.accepts,
      CallStage.pends, CallStage.tallies] <;> omega
  | sending =>
    simp only [advanceCall]
    split
    next =>
      obtain ⟨accepted, pending, queued, departed, lost⟩ := balanced
      simp only [CallStage.accepts, CallStage.pends] at accepted pending
      refine ⟨?_, ?_, ?_, departed, lost⟩ <;>
        simp only [CallStage.accepts, CallStage.pends, length_append, length_singleton] <;> omega
    next => split <;> exact balanced
  | counting refusal =>
    obtain ⟨accepted, pending, queued, departed, lost⟩ := balanced
    simp only [CallStage.tallies] at lost
    refine ⟨?_, ?_, queued, ?_, ?_⟩ <;> cases refusal <;>
      simp only [advanceCall, withStats, Refusal.reason, RecorderStats.count,
        CallStage.tallies] <;> first | assumption | omega

/-- A call of `persistSession` only reads the counters. -/
structure SameBooks (before after : Recorder Record) : Prop where
  stats : after.stats = before.stats
  queued : after.queued = before.queued
  queue : after.queue = before.queue
  departed : after.departed = before.departed
  closed : after.closed = before.closed
  clock : after.clock = before.clock

theorem advancePersist_sameBooks (moment : Moment) (stored : Bool) (stage : PersistStage) :
    SameBooks recorder (recorder.advancePersist setup moment stored stage).1 := by
  fun_cases advancePersist setup moment stored stage recorder <;>
    exact ⟨rfl, rfl, rfl, rfl, rfl, rfl⟩

theorem SameBooks.balanced {other : Recorder Record} (same : SameBooks recorder other)
    (balanced : Balanced recorder accepts pends tallies holds owes held) :
    Balanced other accepts pends tallies holds owes held :=
  balanced.congr same.stats same.queued same.queue same.departed

section

variable (environment : Environment Record) (setup : Setup) (moment : Moment)
  (recorder : Recorder Record)

inductive WorkerMove : WorkerStage Record → Recorder Record → WorkerStage Record → Prop where
  | stay (stage : WorkerStage Record) : WorkerMove stage recorder stage
  | receive {entry : Entry Record} {rest : List (Entry Record)}
      (queue : recorder.queue = entry :: rest) :
      WorkerMove .receiving { recorder with queue := rest } (collected environment setup [entry])
  | collect {entry : Entry Record} {rest : List (Entry Record)} (records : List (Entry Record))
      (queue : recorder.queue = entry :: rest) :
      WorkerMove (.collecting records)
        { recorder with queue := rest } (collected environment setup (records ++ [entry]))
  | finish (queue : recorder.queue = []) (closed : recorder.closed = true) :
      WorkerMove .receiving recorder .finished
  | exhaust (records : List (Entry Record)) (queue : recorder.queue = [])
      (closed : recorder.closed = true) :
      WorkerMove (.collecting records) recorder (.storing records false)
  | timer (records : List (Entry Record)) :
      WorkerMove (.collecting records) recorder (.storing records true)
  | answer (records : List (Entry Record)) (stored still : Bool) :
      WorkerMove (.storing records still) recorder (.settling records stored still)
  | settle (records : List (Entry Record)) (stored still : Bool) :
      WorkerMove (.settling records stored still)
        { recorder.withStats { recorder.stats with
            pending := recorder.stats.pending - records.length } with
          departed := recorder.departed + records.length }
        (if stored then .crediting records still else .failing records.length)
  | fail (left : Nat) :
      WorkerMove (.failing (left + 1))
        (recorder.withStats { recorder.stats with lost := recorder.stats.lost + 1 })
        (.counting left)
  | count (left : Nat) :
      WorkerMove (.counting left)
        (recorder.withStats (recorder.stats.count .storeFailure)) (.failing left)
  | failed :
      WorkerMove (.failing 0) recorder (.persisting (startPersist environment false true) true)
  | credit (records : List (Entry Record)) (still : Bool) :
      WorkerMove (.crediting records still)
        (recorder.withStats { recorder.stats with
          persisted := recorder.stats.persisted + records.length })
        (.persisting (startPersist environment false false) still)
  | persist (stage : PersistStage) (stored again : Bool) :
      WorkerMove (.persisting stage again) (recorder.advancePersist setup moment stored stage).1
        (.persisting (recorder.advancePersist setup moment stored stage).2 again)
  | resume (again : Bool) :
      WorkerMove (.persisting .finished again) recorder (if again then .receiving else .finished)

end

theorem advanceWorker_moves (moment : Moment) (choice : WorkerChoice) (stage : WorkerStage Record) :
    WorkerMove environment setup moment recorder stage
      (recorder.advanceWorker environment setup moment choice stage).1
      (recorder.advanceWorker environment setup moment choice stage).2 := by
  have persist := @WorkerMove.persist Record environment setup moment recorder
  fun_cases advanceWorker environment setup moment choice stage recorder with
  | case1 entry rest queue => exact .receive queue
  | case2 queue closed => exact .finish queue closed
  | case4 records entry rest queue => exact .collect records queue
  | case5 records queue closed => exact .exhaust records queue closed
  | case7 records => exact .timer records
  | case8 records still stored => exact .answer records stored still
  | case9 _ records stored still => exact .settle records stored still
  | case10 => exact .failed
  | case11 _ left => exact .fail left
  | case12 _ left => exact .count left
  | case13 _ records still => exact .credit records still
  | case14 again => exact .resume again
  | case15 now again stored _ _ moved =>
    simpa only [moved] using persist (.upserting now) stored again
  | case17 stage again _ _ _ _ moved => simpa only [moved] using persist stage true again
  | _ => exact .stay _

theorem collected_holds (records : List (Entry Record)) :
    (collected environment setup records).holds = records.length ∧
      (collected environment setup records).owes = 0 ∧
      (collected environment setup records).tallies = 0 ∧
      (collected environment setup records).exhausted = false := by
  unfold collected
  split <;> exact ⟨rfl, rfl, rfl, rfl⟩

theorem WorkerMove.balanced {moment : Moment} {stage after : WorkerStage Record}
    {result : Recorder Record}
    (move : WorkerMove environment setup moment recorder stage result after)
    (balanced : Balanced recorder accepts pends tallies (holds + stage.holds)
      (owes + stage.owes) (held + stage.tallies)) :
    Balanced result accepts pends tallies (holds + after.holds) (owes + after.owes)
      (held + after.tallies) := by
  cases move with
  | stay | finish | exhaust | timer | answer | failed => exact balanced
  | persist stage stored again =>
    exact (advancePersist_sameBooks moment stored stage).balanced balanced
  | resume again => cases again <;> exact balanced
  | receive queue =>
    obtain ⟨accepted, pending, queued, departed, lost⟩ := balanced
    obtain ⟨holding, owing, telling, -⟩ := @collected_holds _ environment setup [_]
    rw [holding, owing, telling]
    refine ⟨accepted, pending, ?_, departed, lost⟩
    rw [queue] at queued
    simp only [length_cons, length_nil, WorkerStage.holds] at queued ⊢
    omega
  | @collect entry rest records queue =>
    obtain ⟨accepted, pending, queued, departed, lost⟩ := balanced
    obtain ⟨holding, owing, telling, -⟩ :=
      @collected_holds _ environment setup (records ++ [entry])
    rw [holding, owing, telling]
    refine ⟨accepted, pending, ?_, departed, lost⟩
    rw [queue] at queued
    simp only [length_cons, length_append, length_nil, WorkerStage.holds] at queued ⊢
    omega
  | settle records stored still =>
    obtain ⟨accepted, pending, queued, departed, lost⟩ := balanced
    simp only [WorkerStage.holds, WorkerStage.owes] at queued departed
    -- The records are still in `pending`: they have left the queue and not departed.
    cases stored <;> refine ⟨accepted, ?_, ?_, ?_, lost⟩ <;>
      simp only [withStats, WorkerStage.holds, WorkerStage.owes, if_true, if_false,
        Bool.false_eq_true] <;> omega
  | fail | count | credit =>
    obtain ⟨accepted, pending, queued, departed, lost⟩ := balanced
    simp only [WorkerStage.holds, WorkerStage.owes, WorkerStage.tallies] at queued departed lost
    refine ⟨accepted, pending, queued, ?_, ?_⟩ <;>
      simp only [WorkerStage.owes, WorkerStage.tallies, withStats,
        RecorderStats.count] <;> omega

section

variable (environment : Environment Record) (setup : Setup) (system : System Record)

inductive CloseMove : CloseStage → Recorder Record → CloseStage → Prop where
  | stay (stage : CloseStage) : CloseMove stage system.recorder stage
  | join (closed : system.recorder.closed = true) : CloseMove .entered system.recorder .waiting
  | close (unlocked : system.readLocked = false) :
      CloseMove .entered { system.recorder with closed := true } .waiting
  | drain (done : system.done = true) :
      CloseMove .waiting system.recorder (.persisting (startPersist environment true true))
  | expire : CloseMove .waiting system.recorder .expired
  | persist (stage : PersistStage) (stored : Bool) :
      CloseMove (.persisting stage)
        (system.recorder.advancePersist setup system.moment stored stage).1
        (.persisting (system.recorder.advancePersist setup system.moment stored stage).2)
  | leave : CloseMove (.persisting .finished) system.recorder .drained

end

theorem advanceClose_moves (system : System Record) (choice : CloseChoice) (stage : CloseStage) :
    CloseMove environment setup system stage (system.advanceClose environment setup choice stage).1
      (system.advanceClose environment setup choice stage).2 := by
  have persist := @CloseMove.persist Record environment setup system
  fun_cases System.advanceClose environment setup system choice stage with
  | case1 _ closed => exact .join closed
  | case3 _ _ unlocked => exact .close (eq_false_of_ne_true unlocked)
  | case4 _ done => exact .drain done
  | case6 => exact .expire
  | case7 => exact .leave
  | case8 recorder now stored _ _ moved =>
    subst recorder
    simpa only [moved] using persist (.upserting now) stored
  | case10 recorder stage _ _ _ _ moved =>
    subst recorder
    simpa only [moved] using persist stage true
  | _ => exact .stay _

end Steps

/-! ### The books of a system -/

namespace System

variable {environment : Environment Record} {setup : Setup} {system : System Record}

def Books (system : System Record) : Prop :=
  Balanced system.recorder
    (system.calls.map fun call => call.stage.accepts).sum
    (system.calls.map fun call => call.stage.pends).sum
    (system.calls.map fun call => call.stage.tallies).sum
    (system.workers.map WorkerStage.holds).sum
    (system.workers.map WorkerStage.owes).sum
    (system.workers.map WorkerStage.tallies).sum

inductive Steps (environment : Environment Record) (setup : Setup) (system : System Record) :
    Action Record → System Record → Prop where
  | same (action : Action Record) : Steps environment setup system action system
  | record (record : Record) :
      Steps environment setup system (.record record)
        { system with calls := system.calls ++ [{ record := record }] }
  | call {index : Nat} {call : RecordCall Record} {recorder : Recorder Record} {after : CallStage}
      (found : system.calls[index]? = some call)
      (advanced : system.recorder.advanceCall environment setup index call.record call.stage =
        (recorder, after)) :
      Steps environment setup system (.call index) { system with
        recorder := recorder
        calls := system.calls.set index { call with stage := after } }
  | worker {index : Nat} {choice : WorkerChoice} {worker after : WorkerStage Record}
      {recorder : Recorder Record}
      (found : system.workers[index]? = some worker)
      (move : WorkerMove environment setup system.moment system.recorder worker recorder after) :
      Steps environment setup system (.worker index choice) { system with
        recorder := recorder
        workers := system.workers.set index after }
  | close :
      Steps environment setup system .close { system with closers := system.closers ++ [.entered] }
  | closer {index : Nat} {choice : CloseChoice} {closer after : CloseStage}
      {recorder : Recorder Record}
      (found : system.closers[index]? = some closer)
      (move : CloseMove environment setup system closer recorder after) :
      Steps environment setup system (.closer index choice) { system with
        recorder := recorder
        closers := system.closers.set index after }
  | tick (elapsed : Nat) :
      Steps environment setup system (.tick elapsed) { system with
        recorder := { system.recorder with clock := system.recorder.clock + elapsed } }

theorem step_steps (action : Action Record) :
    Steps environment setup system action (system.step environment setup action) := by
  cases action with
  | record record => exact .record record
  | call index =>
    rw [System.step, stepCall]
    split
    next => exact .same _
    next call found => exact .call found rfl
  | worker index choice =>
    rw [System.step, stepWorker]
    split
    next => exact .same _
    next worker found => exact .worker found (advanceWorker_moves system.moment choice worker)
  | close => exact .close
  | closer index choice =>
    rw [System.step, stepClose]
    split
    next => exact .same _
    next closer found => exact .closer found (advanceClose_moves system choice closer)
  | tick elapsed => exact .tick elapsed

theorem Steps.books {action : Action Record} {after : System Record}
    (steps : Steps environment setup system action after) (books : system.Books) : after.Books := by
  cases steps with
  | same | close => exact books
  | record record =>
    unfold Books
    simp only [map_append, map_singleton, sum_append, sum_singleton]
    exact books
  | @call index call recorder after found advanced =>
    obtain ⟨accepts, acceptsNow, acceptsThen⟩ := exists_rest
      (fun call : RecordCall Record => call.stage.accepts) found
    obtain ⟨pends, pendsNow, pendsThen⟩ := exists_rest
      (fun call : RecordCall Record => call.stage.pends) found
    obtain ⟨tallies, talliesNow, talliesThen⟩ := exists_rest
      (fun call : RecordCall Record => call.stage.tallies) found
    unfold Books at books ⊢
    rw [acceptsNow, pendsNow, talliesNow] at books
    simp only [acceptsThen, pendsThen, talliesThen]
    have balanced := @advanceCall_balanced _ environment setup _ _ _ _ _ _ _ index call.record
      call.stage books
    rwa [advanced] at balanced
  | worker found move =>
    obtain ⟨holds, holdsNow, holdsThen⟩ := exists_rest WorkerStage.holds found
    obtain ⟨owes, owesNow, owesThen⟩ := exists_rest WorkerStage.owes found
    obtain ⟨tallies, talliesNow, talliesThen⟩ := exists_rest WorkerStage.tallies found
    unfold Books at books ⊢
    rw [holdsNow, owesNow, talliesNow] at books
    simp only [holdsThen, owesThen, talliesThen]
    exact move.balanced books
  | closer found move =>
    cases move with
    | persist stage stored =>
      exact (advancePersist_sameBooks system.moment stored stage).balanced books
    | _ => exact books.congr rfl rfl rfl rfl
  | tick elapsed => exact Balanced.congr books rfl rfl rfl rfl

end System

end SparkRoute.SavedTrace
