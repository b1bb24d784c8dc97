import Mathlib.Algebra.BigOperators.Group.List.Basic
import Mathlib.Algebra.Ring.Nat
import Mathlib.Data.List.Nodup
import SparkRoute.Ledger.Async

/-!
# No record is lost without being counted

`Balanced` accounts for every record that went into the queue and `Counted` for the counters,
`Placed` says what the loop knows at each of its points, and `Told` accounts for the calls of
`Record`.
-/

namespace SparkRoute.Ledger

open Lib List LoopStage

variable {Record : Type}

/-! ### What the loop holds -/

def AfterFlush.hand : AfterFlush Record → List (Entry Record)
  | .append entry _ => [entry]
  | _ => []

def LoopStage.hand : LoopStage Record → List (Entry Record)
  | .adding entry _ | .appending entry _ => [entry]
  | .flushing _ next => next.hand
  | _ => []

def LoopStage.attempts : LoopStage Record → Nat
  | .flushing attempt _ => attempt
  | _ => 0

def AfterFlush.draining : AfterFlush Record → Bool
  | .append _ draining | .select draining => draining
  | .close => true

/-- The loop has seen that `stop` is closed. -/
def LoopStage.draining : LoopStage Record → Bool
  | .selecting draining | .adding _ draining | .appending _ draining => draining
  | .flushing _ next => next.draining
  | .closing | .reporting | .done => true

def AfterFlush.finishing : AfterFlush Record → Bool
  | .close => true
  | _ => false

/-- The loop has found the queue empty after `stop`. -/
def LoopStage.finishing : LoopStage Record → Bool
  | .flushing _ next => next.finishing
  | .closing | .reporting | .done => true
  | _ => false

def LoopStage.finished : LoopStage Record → Bool
  | .closing | .reporting | .done => true
  | _ => false

/-- The call's record is in the queue or has been counted as lost. -/
def CallStage.told : CallStage → Bool
  | .sent | .returned => true
  | _ => false

def totalBytes (methods : RecordMethods Record) (batch : List (Entry Record)) : Nat :=
  (batch.map fun entry => methods.estimatedBytes entry.2).sum

/-- The batches that `AppendBatch` may get. -/
structure Fits (methods : RecordMethods Record) (options : AsyncOptions)
    (batch : List (Entry Record)) : Prop where
  nonempty : batch ≠ []
  records : (batch.length : Int) ≤ options.maxBatchRecords
  bytes : (totalBytes methods batch : Int) ≤ options.maxBatchBytes ∨ batch.length = 1

def Settled.passes (settled : Settled Record) : List (List (Entry Record)) :=
  List.replicate settled.attempts settled.batch

namespace AsyncWriter

def writtenBatches (writer : AsyncWriter Record) : List (List (Entry Record)) :=
  (writer.settled.filter Settled.written).map Settled.batch

def droppedBatches (writer : AsyncWriter Record) : List (List (Entry Record)) :=
  (writer.settled.filter fun settled => !settled.written).map Settled.batch

/-- Every record of the queue is settled, in the batch, in the loop's hand or still queued. -/
structure Balanced (methods : RecordMethods Record) (options : AsyncOptions)
    (writer : AsyncWriter Record) (hand : List (Entry Record)) (attempts : Nat) : Prop where
  order : writer.accepted =
    writer.settled.flatMap Settled.batch ++ (writer.batch ++ (hand ++ writer.queue))
  passed : writer.appended =
    writer.settled.flatMap Settled.passes ++ List.replicate attempts writer.batch
  bytes : writer.batchBytes = totalBytes methods writer.batch
  fits : writer.batch ≠ [] → Fits methods options writer.batch
  settled : ∀ settled ∈ writer.settled, Fits methods options settled.batch ∧ 0 < settled.attempts

structure Counted (writer : AsyncWriter Record) : Prop where
  written : writer.written = writer.writtenBatches.flatten.length
  lost : writer.lost = writer.refused.length + writer.droppedBatches.flatten.length

structure Placed (methods : RecordMethods Record) (options : AsyncOptions)
    (writer : AsyncWriter Record) : Prop where
  room : ∀ entry draining, writer.stage = .appending entry draining →
    writer.batch = [] ∨ ((writer.batch.length : Int) < options.maxBatchRecords ∧
      (totalBytes methods writer.batch + methods.estimatedBytes entry.2 : Int) ≤
        options.maxBatchBytes)
  flushing : ∀ attempt next, writer.stage = .flushing attempt next →
    writer.batch ≠ [] ∧ (attempt : Int) ≤ options.maxRetries
  emptied : writer.stage.finished = true → writer.batch = []
  drained : writer.stage.finishing = true → writer.queue = []
  draining : writer.stage.draining = true → writer.closed = true

structure Positive (options : AsyncOptions) : Prop where
  records : 0 < options.maxBatchRecords
  retries : 0 ≤ options.maxRetries

variable {methods : RecordMethods Record} {options : AsyncOptions} {writer : AsyncWriter Record}
  {hand : List (Entry Record)} {attempts : Nat} {next : AfterFlush Record}

theorem resume_hand (next : AfterFlush Record) : (resume next).hand = next.hand := by
  cases next <;> rfl

theorem resume_attempts (next : AfterFlush Record) : (resume next).attempts = 0 := by
  cases next <;> rfl

theorem placed_resume (empty : writer.batch = [])
    (drained : next.finishing = true → writer.queue = [])
    (draining : next.draining = true → writer.closed = true) :
    Placed methods options { writer with stage := resume next } where
  room := fun _ _ _ => Or.inl empty
  flushing := by
    intro attempt after same
    cases next <;> cases same
  emptied := fun _ => empty
  drained := by cases next <;> exact drained
  draining := by cases next <;> exact draining

variable {other : AsyncWriter Record}

/-- Only the records and the history matter. -/
theorem Balanced.congr (balanced : Balanced methods options writer hand attempts)
    (accepted : other.accepted = writer.accepted := by rfl)
    (settled : other.settled = writer.settled := by rfl)
    (appended : other.appended = writer.appended := by rfl)
    (batch : other.batch = writer.batch := by rfl)
    (bytes : other.batchBytes = writer.batchBytes := by rfl)
    (queue : other.queue = writer.queue := by rfl) :
    Balanced methods options other hand attempts := by
  constructor
  · rw [accepted, settled, batch, queue]
    exact balanced.order
  · rw [appended, settled, batch]
    exact balanced.passed
  · rw [bytes, batch]
    exact balanced.bytes
  · rw [batch]
    exact balanced.fits
  · rw [settled]
    exact balanced.settled

theorem Counted.congr (counted : writer.Counted)
    (written : other.written = writer.written := by rfl) (lost : other.lost = writer.lost := by rfl)
    (refused : other.refused = writer.refused := by rfl)
    (settled : other.settled = writer.settled := by rfl) : other.Counted := by
  constructor
  · rw [written, writtenBatches, settled]
    exact counted.written
  · rw [lost, refused, droppedBatches, settled]
    exact counted.lost

/-! ### Flushes -/

theorem Balanced.settle (balanced : Balanced methods options writer next.hand attempts)
    (nonempty : writer.batch ≠ []) (tried : 0 < attempts) (stored : Bool) :
    Balanced methods options (writer.settle attempts stored next) next.hand 0 where
  order := by
    rw [AsyncWriter.settle, balanced.order]
    simp
  passed := by
    rw [AsyncWriter.settle, balanced.passed]
    simp [Settled.passes]
  bytes := rfl
  fits := fun absent => absurd rfl absent
  settled := forall_mem_append.mpr
    ⟨balanced.settled, forall_mem_singleton.mpr ⟨balanced.fits nonempty, tried⟩⟩

theorem Counted.store (counted : writer.Counted) (tries : Nat) (next : AfterFlush Record)
    (more : Nat) :
    ({ writer with
      written := writer.written + writer.batch.length
      batches := more }.settle tries true next).Counted where
  written := by
    simp [AsyncWriter.settle, writtenBatches, counted.written]
  lost := by
    simp [AsyncWriter.settle, droppedBatches, counted.lost]

theorem Counted.drop (counted : writer.Counted) (tries : Nat) (next : AfterFlush Record) :
    ((writer.recordLoss options .storeFailure writer.batch.length).settle tries false
      next).Counted where
  written := by
    simp [AsyncWriter.settle, recordLoss, writtenBatches, counted.written]
  lost := by
    simp [AsyncWriter.settle, recordLoss, droppedBatches, counted.lost, Nat.add_assoc]

structure Loops (methods : RecordMethods Record) (options : AsyncOptions)
    (writer : AsyncWriter Record) : Prop where
  balanced : Balanced methods options writer writer.stage.hand writer.stage.attempts
  placed : Placed methods options writer
  counted : writer.Counted

theorem Loops.congr (loops : Loops methods options writer)
    (accepted : other.accepted = writer.accepted := by rfl)
    (settled : other.settled = writer.settled := by rfl)
    (appended : other.appended = writer.appended := by rfl)
    (batch : other.batch = writer.batch := by rfl)
    (bytes : other.batchBytes = writer.batchBytes := by rfl)
    (queue : other.queue = writer.queue := by rfl) (stage : other.stage = writer.stage := by rfl)
    (closed : writer.closed = true → other.closed = true := by exact id)
    (written : other.written = writer.written := by rfl) (lost : other.lost = writer.lost := by rfl)
    (refused : other.refused = writer.refused := by rfl) : Loops methods options other := by
  obtain ⟨balanced, placed, counted⟩ := loops
  refine ⟨?_, ⟨?_, ?_, ?_, ?_, ?_⟩, counted.congr written lost refused settled⟩
  · rw [stage]
    exact balanced.congr accepted settled appended batch bytes queue
  · rw [stage, batch]
    exact placed.room
  · rw [stage, batch]
    exact placed.flushing
  · rw [stage, batch]
    exact placed.emptied
  · rw [stage, queue]
    exact placed.drained
  · rw [stage]
    exact fun draining => closed (placed.draining draining)

theorem Loops.standing {place : LoopStage Record} (loops : Loops methods options writer)
    (stage : writer.stage = place) :
    Balanced methods options writer place.hand place.attempts ∧
      (place.finished = true → writer.batch = []) ∧
      (place.finishing = true → writer.queue = []) ∧
      (place.draining = true → writer.closed = true) := by
  subst stage
  exact ⟨loops.balanced, loops.placed.emptied, loops.placed.drained, loops.placed.draining⟩

theorem settle_loops {after : AsyncWriter Record} {stored : Bool}
    (balanced : Balanced methods options after next.hand attempts) (nonempty : after.batch ≠ [])
    (tried : 0 < attempts) (drained : next.finishing = true → after.queue = [])
    (draining : next.draining = true → after.closed = true)
    (counted : (after.settle attempts stored next).Counted) :
    Loops methods options (after.settle attempts stored next) := by
  refine ⟨?_, ?_, counted⟩
  · have settled := balanced.settle nonempty tried stored
    rw [AsyncWriter.settle, resume_hand, resume_attempts]
    exact settled
  · exact @placed_resume _ _ _ (after.settle attempts stored next) _ rfl drained draining

theorem flush_loops (positive : Positive options)
    (balanced : Balanced methods options writer next.hand 0) (counted : writer.Counted)
    (drained : next.finishing = true → writer.queue = [])
    (draining : next.draining = true → writer.closed = true) :
    Loops methods options (writer.flush options next) := by
  unfold flush
  split
  next empty =>
    refine ⟨?_, placed_resume empty drained draining, counted.congr⟩
    rw [resume_hand, resume_attempts]
    exact balanced.congr
  next nonempty =>
    have begins : ((0 : Nat) : Int) ≤ options.maxRetries := positive.retries
    rw [attemptFlush, if_pos begins]
    refine ⟨balanced.congr, ⟨nofun, ?_, nofun, drained, draining⟩, counted.congr⟩
    intro attempt after same
    cases same
    exact ⟨nonempty, begins⟩

theorem appendBatch_loops {attempt : Nat} (loops : Loops methods options writer)
    (stage : writer.stage = .flushing attempt next) (stored : Bool) :
    Loops methods options (writer.appendBatch options attempt next stored) := by
  obtain ⟨nonempty, within⟩ := loops.placed.flushing attempt next stage
  obtain ⟨balanced, _, drained, draining⟩ := loops.standing stage
  let counting := { writer with appended := writer.appended ++ [writer.batch] }
  have passed : Balanced methods options counting next.hand (attempt + 1) := by
    refine ⟨balanced.order, ?_, balanced.bytes, balanced.fits, balanced.settled⟩
    simp only [counting, balanced.passed, attempts, replicate_succ', append_assoc]
  fun_cases appendBatch options attempt next stored writer with
  | case1 =>
    refine settle_loops passed.congr nonempty (Nat.succ_pos attempt) drained draining ?_
    exact Counted.store (loops.counted.congr : counting.Counted) _ _ _
  | case2 =>
    refine settle_loops passed.congr nonempty (Nat.succ_pos attempt) drained draining ?_
    exact Counted.drop (loops.counted.congr : counting.Counted) _ _
  | case3 =>
    have again : ((attempt + 1 : Nat) : Int) ≤ options.maxRetries := by omega
    rw [attemptFlush, if_pos again]
    refine ⟨passed.congr, ⟨nofun, ?_, nofun, drained, draining⟩, loops.counted.congr⟩
    intro number after same
    cases same
    exact ⟨nonempty, again⟩

/-! ### Adding a record -/

variable {entry : Entry Record}

theorem add_loops {draining : Bool} (positive : Positive options)
    (loops : Loops methods options writer) (stage : writer.stage = .adding entry draining) :
    Loops methods options (writer.add methods options entry draining) := by
  obtain ⟨balanced, _, _, closes⟩ := loops.standing stage
  fun_cases add methods options entry draining writer with
  | case1 => exact flush_loops positive balanced loops.counted nofun closes
  | case2 room =>
    refine ⟨balanced.congr, ⟨?_, nofun, nofun, nofun, closes⟩, loops.counted.congr⟩
    intro other after same
    cases same
    by_cases empty : writer.batch = []
    · exact Or.inl empty
    · simp only [ne_eq, empty, not_false_eq_true, true_and, not_or] at room
      rw [← balanced.bytes]
      exact Or.inr ⟨Int.not_le.mp room.1, Int.not_lt.mp room.2⟩

variable {batch : List (Entry Record)}

theorem fits_append (positive : Positive options)
    (room : batch = [] ∨ ((batch.length : Int) < options.maxBatchRecords ∧ (totalBytes methods
      batch + methods.estimatedBytes entry.2 : Int) ≤ options.maxBatchBytes)) :
    Fits methods options (batch ++ [entry]) := by
  refine ⟨by simp, ?_, ?_⟩
  · have records := positive.records
    rcases room with rfl | ⟨fewer, _⟩
    · exact Int.add_one_le_of_lt records
    · rw [length_append, length_singleton]
      omega
  · rcases room with rfl | ⟨_, bytes⟩
    · exact Or.inr rfl
    · left
      simpa [totalBytes] using bytes

theorem append_loops {draining : Bool} (positive : Positive options)
    (loops : Loops methods options writer) (stage : writer.stage = .appending entry draining) :
    Loops methods options (writer.append methods options entry draining) := by
  obtain ⟨balanced, _, _, closes⟩ := loops.standing stage
  let longer := { writer with
    batch := writer.batch ++ [entry]
    batchBytes := writer.batchBytes + methods.estimatedBytes entry.2 }
  have grown : Balanced methods options longer [] 0 := by
    refine ⟨?_, ?_, ?_, fun _ => fits_append positive (loops.placed.room entry draining stage),
      balanced.settled⟩
    · simp [longer, balanced.order, hand]
    · simp [longer, balanced.passed, attempts]
    · simp [longer, balanced.bytes, totalBytes]
  have counted : longer.Counted := loops.counted.congr
  fun_cases append methods options entry draining writer with
  | case1 => exact flush_loops positive grown counted nofun closes
  | case2 => exact ⟨grown.congr, ⟨nofun, nofun, nofun, nofun, closes⟩, counted.congr⟩

theorem loop_loops (positive : Positive options) (loops : Loops methods options writer)
    (stopped : writer.stop = true → writer.closed = true) (choice : LoopChoice) :
    Loops methods options (writer.loop methods options choice) := by
  have counted := loops.counted
  fun_cases loop methods options choice writer with
  | case2 draining stage entry rest queue =>
    obtain ⟨balanced, _, _, closes⟩ := loops.standing stage
    refine ⟨⟨?_, balanced.passed, balanced.bytes, balanced.fits, balanced.settled⟩,
      ⟨nofun, nofun, nofun, nofun, closes⟩, counted.congr⟩
    simp [balanced.order, hand, queue]
  | case3 stage => exact flush_loops positive (loops.standing stage).1 counted nofun nofun
  | case4 stage stops =>
    exact ⟨(loops.standing stage).1.congr, ⟨nofun, nofun, nofun, nofun, fun _ => stopped stops⟩,
      counted.congr⟩
  | case6 stage empty =>
    obtain ⟨balanced, _, _, closes⟩ := loops.standing stage
    exact flush_loops positive balanced counted (fun _ => empty) closes
  | case8 entry draining stage => exact add_loops positive loops stage
  | case9 entry draining stage => exact append_loops positive loops stage
  | case10 attempt next stored stage => exact appendBatch_loops loops stage stored
  | case11 stage | case12 stage =>
    obtain ⟨balanced, emptied, drained, closes⟩ := loops.standing stage
    exact ⟨balanced.congr, ⟨nofun, nofun, emptied, drained, closes⟩, counted.congr⟩
  | _ => exact loops

/-! ### Calls of Record -/

/-- Every call that is through is either accepted or refused, once. -/
structure Told (writer : AsyncWriter Record) : Prop where
  distinct : (writer.accepted.map Prod.fst ++ writer.refused).Nodup
  told : ∀ call, call ∈ writer.accepted.map Prod.fst ++ writer.refused ↔
    ∃ current, writer.calls[call]? = some current ∧ current.stage.told = true
  sending : writer.closed = true → ∀ current ∈ writer.calls, current.stage ≠ .sending

theorem moveCall_get (call : Nat) (stage : CallStage) (writer : AsyncWriter Record) (other : Nat) :
    (writer.moveCall call stage).calls[other]? =
      if call = other then writer.calls[other]?.map fun current => { current with stage := stage }
      else writer.calls[other]? := by
  rw [moveCall, List.getElem?_modify]
  split
  next => rfl
  next => simp

theorem moveCall_member {call : Nat} {stage : CallStage} {current : RecordCall Record}
    (listed : current ∈ (writer.moveCall call stage).calls) :
    current ∈ writer.calls ∨ current.stage = stage := by
  obtain ⟨other, found⟩ := mem_iff_getElem?.mp listed
  rw [moveCall_get] at found
  split at found
  next =>
    obtain ⟨old, _, rfl⟩ := Option.map_eq_some_iff.mp found
    exact Or.inr rfl
  next => exact Or.inl (mem_of_getElem? found)

section Calls

variable {call : Nat} {current : RecordCall Record} {stage : CallStage}

theorem told_moved (found : writer.calls[call]? = some current) (other : Nat) :
    (∃ entry, (writer.moveCall call stage).calls[other]? = some entry ∧
        entry.stage.told = true) ↔
      if call = other then stage.told = true
      else ∃ entry, writer.calls[other]? = some entry ∧ entry.stage.told = true := by
  rw [moveCall_get]
  split
  next same =>
    subst same
    simp [found]
  next => rfl

section

variable (told : Told writer) (found : writer.calls[call]? = some current)

include told found

theorem Told.move (same : stage.told = current.stage.told)
    (open_ : stage = .sending → writer.closed = false) : Told (writer.moveCall call stage) where
  distinct := told.distinct
  told := by
    intro other
    rw [told_moved found]
    split
    next equal =>
      subst equal
      rw [same]
      exact (told.told call).trans (by simp [found])
    next => exact told.told other
  sending := by
    intro closed entry listed
    rcases moveCall_member listed with old | moved
    · exact told.sending closed entry old
    · rw [moved]
      intro sends
      have stillOpen : writer.closed = false := open_ sends
      have closedNow : writer.closed = true := closed
      rw [stillOpen] at closedNow
      cases closedNow

theorem Told.fresh (pending : current.stage.told = false) :
    call ∉ writer.accepted.map Prod.fst ++ writer.refused := by
  rw [told.told]
  rintro ⟨entry, present, through⟩
  rw [found] at present
  cases present
  rw [pending] at through
  cases through

/-- The call gets through: its record has gone into the queue or has been counted as lost. -/
theorem Told.through {after : AsyncWriter Record} (pending : current.stage.told = false)
    (calls : after.calls = (writer.moveCall call stage).calls) (through : stage.told = true)
    (unlocked : stage ≠ .sending) (closed : after.closed = writer.closed)
    (names : (after.accepted.map Prod.fst ++ after.refused).Perm
      (call :: (writer.accepted.map Prod.fst ++ writer.refused))) : Told after where
  distinct := names.nodup_iff.mpr (nodup_cons.mpr ⟨told.fresh found pending, told.distinct⟩)
  told := by
    intro other
    rw [names.mem_iff, mem_cons, told.told, calls, told_moved found]
    split
    next same => simp [same, through]
    next different => exact or_iff_right (Ne.symm different)
  sending := by
    rw [closed, calls]
    intro isClosed entry listed
    rcases moveCall_member listed with old | moved
    · exact told.sending isClosed entry old
    · rw [moved]
      exact unlocked

end

end Calls

/-! ### Steps and runs -/

theorem Loops.moveCall (loops : Loops methods options writer) (call : Nat) (stage : CallStage) :
    Loops methods options (writer.moveCall call stage) :=
  loops.congr

theorem Loops.accept (loops : Loops methods options writer) (open_ : writer.closed = false)
    (call : Nat) (record : Record) :
    Loops methods options { writer.moveCall call .sent with
      queue := writer.queue ++ [(call, record)]
      accepted := writer.accepted ++ [(call, record)] } where
  balanced := by
    have balanced := loops.balanced
    refine ⟨?_, balanced.passed, balanced.bytes, balanced.fits, balanced.settled⟩
    simp [balanced.order, AsyncWriter.moveCall]
  placed := by
    refine ⟨loops.placed.room, loops.placed.flushing, loops.placed.emptied, ?_,
      loops.placed.draining⟩
    intro finishing
    have draining : writer.stage.draining = true := by
      have stage : (writer.moveCall call .sent).stage = writer.stage := rfl
      revert finishing
      rw [stage]
      cases writer.stage with
      | flushing attempt next => cases next <;> simp [finishing, draining,
          AfterFlush.finishing, AfterFlush.draining]
      | _ => simp [finishing, draining]
    have closed := loops.placed.draining draining
    rw [open_] at closed
    cases closed
  counted := loops.counted.congr

theorem Loops.refuse (loops : Loops methods options writer) (call : Nat) (reason : LossReason) :
    Loops methods options { (writer.recordLoss options reason 1).moveCall call .returned with
      refused := writer.refused ++ [call] } where
  balanced := loops.balanced.congr
  placed := ⟨loops.placed.room, loops.placed.flushing, loops.placed.emptied,
    loops.placed.drained, loops.placed.draining⟩
  counted := by
    refine ⟨loops.counted.written, ?_⟩
    have lost := loops.counted.lost
    simp only [AsyncWriter.moveCall, recordLoss, droppedBatches, length_append,
      length_singleton] at lost ⊢
    omega

structure Kept (methods : RecordMethods Record) (options : AsyncOptions)
    (writer : AsyncWriter Record) : Prop where
  loops : Loops methods options writer
  told : Told writer
  stopped : writer.stop = true → writer.closed = true
  locked : writer.locked = true → writer.closed = true

theorem kept_initially : Kept methods options ({} : AsyncWriter Record) where
  loops := by
    refine ⟨⟨rfl, rfl, rfl, fun absent => absurd rfl absent, nofun⟩,
      ⟨nofun, nofun, nofun, nofun, nofun⟩, ⟨rfl, rfl⟩⟩
  told := ⟨nodup_nil, by simp, nofun⟩
  stopped := nofun
  locked := nofun

theorem Kept.move (kept : Kept methods options writer) {call : Nat} {current : RecordCall Record}
    {stage : CallStage} (found : writer.calls[call]? = some current)
    (same : stage.told = current.stage.told) (open_ : stage = .sending → writer.closed = false) :
    Kept methods options (writer.moveCall call stage) :=
  ⟨kept.loops.moveCall call stage, kept.told.move found same open_, kept.stopped, kept.locked⟩

theorem advance_kept (kept : Kept methods options writer) (call : Nat) :
    Kept methods options (writer.advance methods options call) := by
  fun_cases advance methods options call writer with
  | case1 | case4 | case12 => exact kept
  | case2 _ found stage | case3 _ found stage | case5 _ found stage | case6 _ found stage
  | case9 _ found stage => exact kept.move found (by rw [stage]; rfl) nofun
  | case7 _ found stage isOpen =>
    exact kept.move found (by rw [stage]; rfl) fun _ => Bool.eq_false_iff.mpr isOpen
  | case8 current found stage =>
    have isOpen : writer.closed = false := by
      refine Bool.eq_false_iff.mpr fun closed => ?_
      exact kept.told.sending closed current (mem_of_getElem? found) stage
    refine ⟨kept.loops.accept isOpen call _, kept.told.through found (by rw [stage]; rfl) rfl rfl
      nofun rfl ?_, kept.stopped, kept.locked⟩
    simp only [map_append, map_cons, map_nil, append_assoc]
    exact perm_middle
  | case10 current found stage =>
    obtain ⟨loops, told, stopped, locked⟩ :=
      @Kept.move _ _ _ _ kept call current .returned found (by rw [stage]; rfl) nofun
    exact ⟨loops.congr, ⟨told.distinct, told.told, told.sending⟩, stopped, locked⟩
  | case11 _ found reason stage =>
    refine ⟨kept.loops.refuse call reason, kept.told.through found (by rw [stage]; rfl) rfl rfl
      nofun rfl ?_, kept.stopped, kept.locked⟩
    rw [← append_assoc]
    exact perm_append_singleton _ _

theorem closeLock_kept (kept : Kept methods options writer) :
    Kept methods options writer.closeLock := by
  unfold closeLock
  split
  next => exact kept
  next free =>
    obtain ⟨_, unread⟩ := not_or.mp free
    obtain ⟨loops, told, stopped, locked⟩ := kept
    have closing : Loops methods options { writer with locked := true, closed := true } :=
      loops.congr rfl rfl rfl rfl rfl rfl rfl fun _ => rfl
    refine ⟨closing, ⟨told.distinct, told.told, ?_⟩, fun _ => rfl, fun _ => rfl⟩
    intro _ current listed sends
    apply unread
    refine any_eq_true.mpr ⟨current, listed, ?_⟩
    rw [sends]
    rfl

def callSide (writer : AsyncWriter Record) :=
  (writer.calls, writer.accepted, writer.refused, writer.closed, writer.stop, writer.locked)

theorem attemptFlush_callSide (attempt : Nat) (next : AfterFlush Record)
    (writer : AsyncWriter Record) :
    (writer.attemptFlush options attempt next).callSide = writer.callSide := by
  unfold attemptFlush
  split <;> rfl

theorem flush_callSide (next : AfterFlush Record) (writer : AsyncWriter Record) :
    (writer.flush options next).callSide = writer.callSide := by
  fun_cases flush options next writer with
  | case1 => rfl
  | case2 => exact attemptFlush_callSide 0 next writer

theorem loop_callSide (choice : LoopChoice) (writer : AsyncWriter Record) :
    (writer.loop methods options choice).callSide = writer.callSide := by
  fun_cases loop methods options choice writer with
  | case3 | case6 => exact flush_callSide _ _
  | case8 entry draining =>
    fun_cases add methods options entry draining writer with
    | case1 => exact flush_callSide _ _
    | case2 => rfl
  | case9 entry draining =>
    fun_cases append methods options entry draining writer with
    | case1 => exact flush_callSide _ _
    | case2 => rfl
  | case10 attempt next stored =>
    fun_cases appendBatch options attempt next stored writer with
    | case3 => exact attemptFlush_callSide _ _ _
    | _ => rfl
  | _ => rfl

theorem loop_kept (positive : Positive options) (kept : Kept methods options writer)
    (choice : LoopChoice) : Kept methods options (writer.loop methods options choice) := by
  have side := @loop_callSide Record methods options choice writer
  simp only [callSide, Prod.mk.injEq] at side
  obtain ⟨calls, accepted, refused, closed, stop, locked⟩ := side
  refine ⟨loop_loops positive kept.loops kept.stopped choice, ⟨?_, ?_, ?_⟩, ?_, ?_⟩
  · rw [accepted, refused]
    exact kept.told.distinct
  · rw [accepted, refused, calls]
    exact kept.told.told
  · rw [closed, calls]
    exact kept.told.sending
  · rw [stop, closed]
    exact kept.stopped
  · rw [locked, closed]
    exact kept.locked

theorem record_told (told : Told writer) (record : Record) :
    Told { writer with calls := writer.calls ++ [⟨record, .entered⟩] } where
  distinct := told.distinct
  told := by
    intro call
    refine (told.told call).trans ?_
    rw [List.getElem?_append]
    split
    next => rfl
    next beyond =>
      rw [List.getElem?_eq_none (Nat.not_lt.mp beyond)]
      cases position : call - writer.calls.length with
      | zero => simp [CallStage.told]
      | succ more => simp
  sending := by
    intro closed
    exact forall_mem_append.mpr ⟨told.sending closed, forall_mem_singleton.mpr nofun⟩

theorem step_kept (positive : Positive options) (kept : Kept methods options writer)
    (action : AsyncAction Record) : Kept methods options (writer.step methods options action) := by
  obtain ⟨loops, told, stopped, locked⟩ := kept
  cases action with
  | record record => exact ⟨loops.congr, record_told told record, stopped, locked⟩
  | advance call => exact advance_kept ⟨loops, told, stopped, locked⟩ call
  | closeLock => exact closeLock_kept ⟨loops, told, stopped, locked⟩
  | closeStop =>
    rw [step, closeStop]
    split
    next held =>
      exact ⟨loops.congr, ⟨told.distinct, told.told, told.sending⟩, fun _ => locked held, nofun⟩
    next => exact ⟨loops, told, stopped, locked⟩
  | loop choice => exact loop_kept positive ⟨loops, told, stopped, locked⟩ choice
  | report =>
    rw [step, report]
    split
    next => exact ⟨loops, told, stopped, locked⟩
    next =>
      split <;>
        exact ⟨loops.congr, ⟨told.distinct, told.told, told.sending⟩, stopped, locked⟩

theorem run_kept (positive : Positive options) (actions : List (AsyncAction Record)) :
    Kept methods options (run (step methods options) {} actions) :=
  run_invariant kept_initially (fun _ action kept => step_kept positive kept action) actions

/-- Once `closed` is set no call gets into the queue. -/
theorem step_closed (kept : Kept methods options writer) (closed : writer.closed = true)
    (action : AsyncAction Record) :
    (writer.step methods options action).closed = true ∧
      (writer.step methods options action).accepted = writer.accepted := by
  cases action with
  | record record => exact ⟨closed, rfl⟩
  | advance call =>
    dsimp only [step]
    fun_cases advance methods options call writer with
    | case8 current found stage =>
      exact absurd stage (kept.told.sending closed current (mem_of_getElem? found))
    | _ => exact ⟨closed, rfl⟩
  | closeLock =>
    rw [step, closeLock, if_pos (Or.inl closed)]
    exact ⟨closed, rfl⟩
  | closeStop =>
    dsimp only [step]
    fun_cases closeStop writer <;> exact ⟨closed, rfl⟩
  | loop choice =>
    have side := @loop_callSide Record methods options choice writer
    simp only [callSide, Prod.mk.injEq] at side
    exact ⟨side.2.2.2.1.trans closed, side.2.1⟩
  | report =>
    dsimp only [step]
    fun_cases report writer <;> exact ⟨closed, rfl⟩

theorem run_closed (positive : Positive options) (kept : Kept methods options writer)
    (closed : writer.closed = true) (more : List (AsyncAction Record)) :
    (run (step methods options) writer more).accepted = writer.accepted := by
  induction more generalizing writer with
  | nil => rfl
  | cons action more ih =>
    obtain ⟨still, same⟩ := step_closed kept closed action
    rw [run_cons, ih (step_kept positive kept action) still, same]

/-! ### The end -/

/-- `Close` has completed and no call of `Record` is under way. -/
structure Quiescent (writer : AsyncWriter Record) : Prop where
  done : writer.stage = .done
  returned : ∀ current ∈ writer.calls, current.stage = .returned

def writtenCalls (writer : AsyncWriter Record) : List Nat :=
  writer.writtenBatches.flatten.map Prod.fst

def lostCalls (writer : AsyncWriter Record) : List Nat :=
  writer.refused ++ writer.droppedBatches.flatten.map Prod.fst

section

variable (kept : Kept methods options writer) (quiescent : Quiescent writer)

include kept quiescent

theorem Kept.told_all :
    (writer.accepted.map Prod.fst ++ writer.refused).Perm (List.range writer.calls.length) := by
  refine (perm_ext_iff_of_nodup kept.told.distinct nodup_range).mpr fun call => ?_
  rw [kept.told.told, mem_range]
  constructor
  · rintro ⟨current, found, _⟩
    exact (List.getElem?_eq_some_iff.mp found).1
  · intro below
    refine ⟨_, List.getElem?_eq_getElem below, ?_⟩
    rw [quiescent.returned _ (getElem_mem below)]
    rfl

theorem Kept.accepted_settled : writer.accepted = writer.settled.flatMap Settled.batch := by
  have order := kept.loops.balanced.order
  have emptied := kept.loops.placed.emptied
  have drained := kept.loops.placed.drained
  rw [quiescent.done] at order emptied drained
  rw [order, emptied rfl, drained rfl]
  simp [hand]

theorem Kept.fates :
    (writer.writtenCalls ++ writer.lostCalls).Perm (List.range writer.calls.length) := by
  refine List.Perm.trans ?_ (kept.told_all quiescent)
  rw [kept.accepted_settled quiescent]
  have parted := filter_append_perm Settled.written writer.settled
  have batches := (parted.flatMap_right Settled.batch).map Prod.fst
  rw [flatMap_append, map_append] at batches
  refine List.Perm.trans ?_ (batches.append_right writer.refused)
  simp only [writtenCalls, lostCalls, writtenBatches, droppedBatches, ← flatMap_def, append_assoc]
  exact List.Perm.append_left _ perm_append_comm

end

theorem Kept.appended_fit (kept : Kept methods options writer) (listed : batch ∈ writer.appended) :
    Fits methods options batch := by
  rw [kept.loops.balanced.passed, mem_append] at listed
  rcases listed with old | current
  · obtain ⟨settled, present, passed⟩ := mem_flatMap.mp old
    rw [(mem_replicate.mp passed).2]
    exact (kept.loops.balanced.settled settled present).1
  · obtain ⟨tried, rfl⟩ := mem_replicate.mp current
    refine kept.loops.balanced.fits ?_
    cases stage : writer.stage with
    | flushing attempt next => exact (kept.loops.placed.flushing attempt next stage).1
    | _ => exact absurd (by rw [stage]; rfl) tried

/-- For every store and every interleaving: `AppendBatch` gets the accepted records batch by
batch in the order in which they were accepted, each batch at least once and within the
limits; `closed` ends acceptance; and in the end every call of `Record` is written or lost
and counted as that. -/
theorem ledger_writes_conserved (methods : RecordMethods Record) (options : AsyncOptions)
    (valid : validateAsyncOptions (withAsyncDefaults options) = none)
    (actions : List (AsyncAction Record)) :
    let limits := withAsyncDefaults options
    let writer := run (step methods limits) {} actions
    writer.appended = writer.settled.flatMap Settled.passes ++
        List.replicate writer.stage.attempts writer.batch ∧
      (∀ settled ∈ writer.settled, 0 < settled.attempts) ∧
      writer.settled.flatMap Settled.batch ++ writer.batch <+: writer.accepted ∧
      (writer.accepted.map Prod.fst).Nodup ∧
      (∀ batch ∈ writer.appended, Fits methods limits batch) ∧
      (writer.closed = true → ∀ more,
        (run (step methods limits) writer more).accepted = writer.accepted) ∧
      (Quiescent writer →
        writer.accepted = writer.settled.flatMap Settled.batch ∧
          (writer.writtenCalls ++ writer.lostCalls).Perm (List.range writer.calls.length) ∧
          writer.written = writer.writtenCalls.length ∧
          writer.lost = writer.lostCalls.length ∧
          writer.calls.length = writer.written + writer.lost) := by
  intro limits writer
  have positive : Positive (withAsyncDefaults options) := by
    unfold validateAsyncOptions at valid
    split_ifs at valid
    constructor <;> omega
  have kept : Kept methods limits writer := run_kept positive actions
  have balanced := kept.loops.balanced
  refine ⟨balanced.passed, fun settled listed => (balanced.settled settled listed).2, ?_,
    (nodup_append.mp kept.told.distinct).1, fun batch => kept.appended_fit,
    fun closed => run_closed positive kept closed, fun quiescent => ?_⟩
  · rw [balanced.order, ← append_assoc]
    exact prefix_append _ _
  · have fates := kept.fates quiescent
    have written : writer.written = writer.writtenCalls.length := by
      rw [kept.loops.counted.written, writtenCalls, length_map]
    have lost : writer.lost = writer.lostCalls.length := by
      rw [kept.loops.counted.lost, lostCalls, length_append, length_map]
    refine ⟨kept.accepted_settled quiescent, fates, written, lost, ?_⟩
    have total := fates.length_eq
    rw [length_append, length_range] at total
    rw [written, lost, total]

def plainMethods : RecordMethods Unit := ⟨fun _ => none, fun _ => 300⟩

/-- One record is written at the second attempt, and one comes after `Close`. -/
def closingRun : List (AsyncAction Unit) :=
  [.record ()] ++ List.replicate 5 (.advance 0) ++
    [.loop .receive, .loop .proceed, .loop .proceed, .closeLock, .closeStop, .record (),
      .loop .stop, .loop .fallback, .loop (.answer false), .loop (.answer true),
      .loop .proceed, .report, .loop .proceed] ++ List.replicate 4 (.advance 1)

theorem ledger_writes_conserved_closing :
    let writer := run (step plainMethods (withAsyncDefaults {})) {} closingRun
    writer.appended = [[(0, ())], [(0, ())]] ∧ writer.writtenCalls = [0] ∧
      writer.lostCalls = [1] ∧ writer.calls.length = writer.written + writer.lost := by
  have account := ledger_writes_conserved plainMethods {} (by decide) closingRun
  have quiescent : Quiescent (run (step plainMethods (withAsyncDefaults {})) {} closingRun) := by
    refine ⟨rfl, ?_⟩
    decide
  exact ⟨by decide, by decide, by decide, (account.2.2.2.2.2.2 quiescent).2.2.2.2⟩

end AsyncWriter

end SparkRoute.Ledger
