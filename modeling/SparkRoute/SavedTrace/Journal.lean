import Mathlib.Data.List.Induction
import SparkRoute.Lib.OrderedMap
import SparkRoute.Lib.StableSort
import SparkRoute.SavedTrace.Recorder

/-!
# Batches in the date journals

`AppendBatch` splits a batch by date and appends the parts one after the other. A write that
fails is taken back in the journal of its own date, and in no other.
-/

namespace SparkRoute.SavedTrace

open Lib List

/-- What the store asks of a record. -/
structure Codec (Record : Type) where
  validate : Record → Option String
  directory : Record → GoString
  /-- One JSON line; `none` is a failure of the encoder. -/
  encode : Record → Option (List UInt8)
  encode_ne_nil : ∀ record line, encode record = some line → line ≠ []

inductive JournalFault where
  | context
  | mkdir
  | chmod
  | lstat
  | openFile
  | stat
  | irregular
  | seek
  | write
  | sync
  | close
  | syncDirectory
  deriving DecidableEq

namespace JournalFault

/-- The payload is in the journal, and no rollback takes it out. -/
def settled : JournalFault → Bool
  | .close | .syncDirectory => true
  | _ => false

end JournalFault

/-- What the operations of one `appendJournal` answer. A call of `Write` takes a number of bytes
and may fail; when the list is used up, the rest is written. -/
structure JournalAnswers where
  cancelled : Bool := false
  mkdir : Bool := true
  chmod : Bool := true
  lstat : Bool := true
  openFile : Bool := true
  stat : Bool := true
  regular : Bool := true
  seek : Bool := true
  writes : List (Nat × Bool) := []
  sync : Bool := true
  close : Bool := true
  syncDirectory : Bool := true

/-- The journals; one that is not there has no contents. -/
structure Disk where
  present : GoString → Bool := fun _ => false
  contents : GoString → List UInt8 := fun _ => []

def Disk.put (disk : Disk) (directory : GoString) (bytes : List UInt8) : Disk where
  present := Function.update disk.present directory true
  contents := Function.update disk.contents directory bytes

/-- The bytes that reach the file, and whether the loop ends without an error. -/
def writeLoop : List (Nat × Bool) → List UInt8 → List UInt8 × Bool
  | _, [] => ([], true)
  | [], payload => (payload, true)
  | (count, failed) :: writes, payload =>
    if failed ∨ count = 0 then (payload.take count, false)
    else
      let rest := writeLoop writes (payload.drop count)
      (payload.take count ++ rest.1, rest.2)

/-- The first operation that fails, for a journal that is `present` or not. -/
def JournalAnswers.fault (answers : JournalAnswers) (present : Bool) (payload : List UInt8) :
    Option JournalFault :=
  ([(!answers.cancelled, .context), (answers.mkdir, .mkdir), (answers.chmod, .chmod),
    (answers.lstat, .lstat), (answers.openFile, .openFile), (answers.stat, .stat),
    (answers.regular, .irregular), (answers.seek, .seek),
    ((writeLoop answers.writes payload).2, .write), (answers.sync, .sync),
    (answers.close, .close), (present || answers.syncDirectory, .syncDirectory)].find?
      fun operation => !operation.1).map Prod.snd

def appendJournal (disk : Disk) (answers : JournalAnswers) (directory : GoString)
    (payload : List UInt8) : Disk × Option JournalFault :=
  let start := disk.contents directory
  if answers.cancelled then (disk, some .context)
  else if !answers.mkdir then (disk, some .mkdir)
  else if !answers.chmod then (disk, some .chmod)
  else if !answers.lstat then (disk, some .lstat)
  else if !answers.openFile then (disk, some .openFile)
  else if !answers.stat then (disk.put directory start, some .stat)
  else if !answers.regular then (disk.put directory start, some .irregular)
  else if !answers.seek then (disk.put directory start, some .seek)
  else
    let written := writeLoop answers.writes payload
    let grown := disk.put directory (start ++ written.1)
    -- The rollback truncates the file to the length it had.
    let rolledBack := disk.put directory ((start ++ written.1).take start.length)
    if !written.2 then (rolledBack, some .write)
    else if !answers.sync then (rolledBack, some .sync)
    else if !answers.close then (grown, some .close)
    else if !disk.present directory && !answers.syncDirectory then (grown, some .syncDirectory)
    else (grown, none)

inductive BatchFault where
  | invalid (message : String)
  | context
  | encode
  | journal (directory : GoString) (fault : JournalFault)
  deriving DecidableEq

structure BatchAnswers where
  /-- The context has ended when this record is looked at. -/
  cancelled : Nat → Bool := fun _ => false
  journals : GoString → JournalAnswers := fun _ => {}

section Store

variable {Record : Type} (codec : Codec Record)

def partitions (cancelled : Nat → Bool) : Nat → List Record →
    OrderedMap GoString (List UInt8) → Except BatchFault (OrderedMap GoString (List UInt8))
  | _, [], parts => .ok parts
  | index, record :: records, parts =>
    match codec.validate record with
    | some message => .error (.invalid message)
    | none =>
      if cancelled index then .error .context
      else
        match codec.encode record with
        | none => .error .encode
        | some line =>
          let directory := codec.directory record
          partitions cancelled (index + 1) records
            (parts.insert directory ((parts.get directory).getD [] ++ line))

def appendJournals (answers : GoString → JournalAnswers)
    (parts : OrderedMap GoString (List UInt8)) : List GoString → Disk → Disk × Option BatchFault
  | [], disk => (disk, none)
  | directory :: directories, disk =>
    match appendJournal disk (answers directory) directory ((parts.get directory).getD []) with
    | (disk, none) => appendJournals answers parts directories disk
    | (disk, some fault) => (disk, some (.journal directory fault))

def appendBatch (answers : BatchAnswers) (disk : Disk) (records : List Record) :
    Disk × Option BatchFault :=
  if records.isEmpty then (disk, none)
  else
    match partitions codec answers.cancelled 0 records .empty with
    | .error fault => (disk, some fault)
    | .ok parts => appendJournals answers.journals parts (sortByKey id parts.keys) disk

def payload (records : List Record) (directory : GoString) : List UInt8 :=
  records.flatMap fun record =>
    if codec.directory record = directory then (codec.encode record).getD [] else []

/-- The batch is in the journals as a whole, or not at all. -/
def Atomic (answers : BatchAnswers) (disk : Disk) (records : List Record) : Prop :=
  match appendBatch codec answers disk records with
  | (after, none) => ∀ directory,
    after.contents directory = disk.contents directory ++ payload codec records directory
  | (after, some _) => after.contents = disk.contents

/-- The fault of the batch's part of one date. -/
def dateFault (answers : BatchAnswers) (disk : Disk) (records : List Record)
    (directory : GoString) : Option JournalFault :=
  (answers.journals directory).fault (disk.present directory) (payload codec records directory)

/-- A record is refused before anything is written, no journal operation of the batch fails, or
one fails on the first date of the batch and is taken back. -/
def Harmless (answers : BatchAnswers) (disk : Disk) (records : List Record) : Prop :=
  (∃ index record, records[index]? = some record ∧ (codec.validate record ≠ none ∨
      answers.cancelled index = true ∨ codec.encode record = none)) ∨
    (∀ record ∈ records, dateFault codec answers disk records (codec.directory record) = none) ∨
    ∃ record ∈ records, (∀ other ∈ records, codec.directory record ≤ codec.directory other) ∧
      ∃ fault, dateFault codec answers disk records (codec.directory record) = some fault ∧
        fault.settled = false

end Store

/-! ### One journal -/

theorem writeLoop_ok {writes : List (Nat × Bool)} {payload : List UInt8}
    (ok : (writeLoop writes payload).2 = true) : (writeLoop writes payload).1 = payload := by
  fun_induction writeLoop writes payload with
  | case1 | case2 => rfl
  | case3 => cases ok
  | case4 _ _ _ payload _ _ rest ih =>
    rw [ih ok]
    exact take_append_drop _ payload

/-- What `appendJournal` leaves in the journal; the others are left alone. -/
theorem appendJournal_contents (disk : Disk) (answers : JournalAnswers) (directory : GoString)
    (payload : List UInt8) :
    (appendJournal disk answers directory payload).1.contents =
      if (appendJournal disk answers directory payload).2.all JournalFault.settled then
        Function.update disk.contents directory (disk.contents directory ++ payload)
      else disk.contents := by
  have written := @writeLoop_ok answers.writes payload
  fun_cases appendJournal disk answers directory payload <;>
    simp_all +zetaDelta [Disk.put, JournalFault.settled]

theorem appendJournal_fault (disk : Disk) (answers : JournalAnswers) (directory : GoString)
    (payload : List UInt8) :
    (appendJournal disk answers directory payload).2 =
      answers.fault (disk.present directory) payload := by
  fun_cases appendJournal disk answers directory payload <;>
    simp_all +zetaDelta [JournalAnswers.fault]

theorem appendJournal_present (disk : Disk) (answers : JournalAnswers) {directory : GoString}
    (payload : List UInt8) {other : GoString} (apart : other ≠ directory) :
    (appendJournal disk answers directory payload).1.present other = disk.present other := by
  fun_cases appendJournal disk answers directory payload <;> simp +zetaDelta [Disk.put, apart]

/-! ### The journals of a batch -/

/-- The dates are `done` up to the first fault. -/
structure Appended (fault : GoString → Option JournalFault) (directories done : List GoString)
    (outcome : Option BatchFault) : Prop where
  begins : done <+: directories
  settled : ∀ directory ∈ done, (fault directory).all JournalFault.settled
  stored : outcome = none → done = directories ∧ ∀ directory ∈ directories, fault directory = none
  failed : outcome ≠ none → (∃ directory ∈ directories, fault directory ≠ none) ∧
    (done = [] → (directories.head?.bind fault).any fun fault => !fault.settled)

theorem appendJournals_contents (answers : GoString → JournalAnswers)
    (parts : OrderedMap GoString (List UInt8)) {directories : List GoString}
    (distinct : directories.Nodup) (disk : Disk) :
    ∃ done, Appended (fun directory => (answers directory).fault (disk.present directory)
        ((parts.get directory).getD [])) directories done
        (appendJournals answers parts directories disk).2 ∧
      ∀ directory, (appendJournals answers parts directories disk).1.contents directory =
        disk.contents directory ++
          if directory ∈ done then (parts.get directory).getD [] else [] := by
  induction directories generalizing disk with
  | nil =>
    exact ⟨[], ⟨ nil_prefix, forall_mem_nil _, by simp, fun failed => absurd rfl failed⟩,
      by simp [appendJournals]⟩
  | cons first directories ih =>
    obtain ⟨fresh, distinct⟩ := nodup_cons.mp distinct
    have kept := appendJournal_contents disk (answers first) first ((parts.get first).getD [])
    have fault := appendJournal_fault disk (answers first) first ((parts.get first).getD [])
    have others (other : GoString) (listed : other ∈ directories) :=
      @appendJournal_present disk (answers first) first ((parts.get first).getD []) other
        fun same => fresh (same ▸ listed)
    rw [appendJournals]
    generalize appendJournal disk (answers first) first ((parts.get first).getD []) = result
      at kept fault others ⊢
    obtain ⟨after, outcome⟩ := result
    dsimp only at kept fault others
    rcases outcome with _ | reported
    · obtain ⟨done, appended, contents⟩ := ih distinct after
      have later (other : GoString) (listed : other ∈ directories) :
          (answers other).fault (after.present other) ((parts.get other).getD []) =
            (answers other).fault (disk.present other) ((parts.get other).getD []) := by
        rw [others other listed]
      refine ⟨first :: done, ⟨(prefix_cons_inj first).mpr appended.begins, ?_, fun stored => ?_,
        fun failed => ⟨?_, fun none => absurd none (cons_ne_nil _ _)⟩⟩, fun directory => ?_⟩
      · refine forall_mem_cons.mpr ⟨by rw [← fault]; rfl, fun other listed => ?_⟩
        rw [← later other (appended.begins.subset listed)]
        exact appended.settled other listed
      · obtain ⟨rfl, clean⟩ := appended.stored stored
        refine ⟨rfl, forall_mem_cons.mpr ⟨fault.symm, fun other listed => ?_⟩⟩
        rw [← later other listed]
        exact clean other listed
      · obtain ⟨directory, listed, faulty⟩ := (appended.failed failed).1
        exact ⟨directory, mem_cons_of_mem _ listed, later directory listed ▸ faulty⟩
      · have absent : first ∉ done := fun listed => fresh (appended.begins.subset listed)
        by_cases same : directory = first
        · simp [contents, kept, same, absent]
        · simp [contents, kept, same]
    · have stopped := Option.some_ne_none (BatchFault.journal first reported)
      cases settled : reported.settled with
      | true =>
        refine ⟨[first], ⟨⟨directories, rfl⟩, ?_, fun stored => absurd stored stopped,
          fun _ => ⟨⟨first, mem_cons_self, ?_⟩, fun none => absurd none (cons_ne_nil _ _)⟩⟩,
          fun directory => ?_⟩
        · simp [← fault, settled]
        · simp [← fault]
        · by_cases same : directory = first
          · simp [kept, settled, same]
          · simp [kept, settled, same]
      | false =>
        refine ⟨[], ⟨ nil_prefix, forall_mem_nil _, fun stored => absurd stored stopped, fun _ =>
          ⟨⟨first, mem_cons_self, ?_⟩, fun _ => ?_⟩⟩, fun directory => ?_⟩
        · simp [← fault]
        · simp [← fault, settled]
        · simp [kept, settled]

section Store

variable {Record : Type} {codec : Codec Record} {cancelled : Nat → Bool}
  {records : List Record} {start : OrderedMap GoString (List UInt8)}

theorem partitions_ok {index : Nat} {parts : OrderedMap GoString (List UInt8)}
    (made : partitions codec cancelled index records start = .ok parts) (directory : GoString) :
    (parts.get directory).getD [] =
        (start.get directory).getD [] ++ payload codec records directory ∧
      (directory ∈ parts.keys ↔
        directory ∈ start.keys ∨ ∃ record ∈ records, codec.directory record = directory) ∧
      ((∃ record ∈ records, codec.directory record = directory) →
        payload codec records directory ≠ []) := by
  fun_induction partitions codec cancelled index records start with
  | case1 => cases made; simp [payload]
  | case2 | case3 | case4 => cases made
  | case5 index record records parts valid alive line encoded place ih =>
    obtain ⟨bytes, keys, filled⟩ := ih made
    have nonempty := codec.encode_ne_nil record line encoded
    rw [bytes, keys, OrderedMap.mem_keys_insert, OrderedMap.get_insert]
    by_cases same : directory = place
    · simp [payload, same, place, encoded, nonempty]
    · have apart : codec.directory record ≠ directory := Ne.symm same
      simpa [payload, same, apart] using filled

theorem partitions_error_iff {index : Nat} :
    (∃ reported, partitions codec cancelled index records start = .error reported) ↔
      ∃ offset record, records[offset]? = some record ∧ (codec.validate record ≠ none ∨
        cancelled (index + offset) = true ∨ codec.encode record = none) := by
  fun_induction partitions codec cancelled index records start with
  | case1 => simp
  | case2 _ record _ _ message invalid =>
    exact ⟨fun _ => ⟨0, record, rfl, .inl (by simp [invalid])⟩, fun _ => ⟨_, rfl⟩⟩
  | case3 _ record _ _ _ ended =>
    exact ⟨fun _ => ⟨0, record, rfl, .inr (.inl ended)⟩, fun _ => ⟨_, rfl⟩⟩
  | case4 _ record _ _ _ _ failed =>
    exact ⟨fun _ => ⟨0, record, rfl, .inr (.inr failed)⟩, fun _ => ⟨_, rfl⟩⟩
  | case5 index record records parts valid alive line encoded place ih =>
    rw [ih]
    constructor
    · rintro ⟨offset, other, found, refused⟩
      refine ⟨offset + 1, other, found, ?_⟩
      rwa [Nat.add_assoc, Nat.add_comm 1] at refused
    · rintro ⟨_ | offset, other, found, refused⟩
      · cases found
        simp_all
      · refine ⟨offset, other, found, ?_⟩
        rwa [Nat.add_assoc, Nat.add_comm 1]

theorem atomic_iff_harmless (answers : BatchAnswers) (disk : Disk) (records : List Record) :
    Atomic codec answers disk records ↔ Harmless codec answers disk records := by
  unfold Atomic Harmless appendBatch
  have refused := @partitions_error_iff _ codec answers.cancelled records .empty 0
  simp only [Nat.zero_add] at refused
  rw [← refused]
  split_ifs with empty
  · simp [isEmpty_iff.mp empty, payload]
  cases made : partitions codec answers.cancelled 0 records .empty with
  | error reported => simp
  | ok parts =>
    have sorted := sortByKey_sorted id parts.keys
    have perm := sortByKey_perm id parts.keys
    have part (directory : GoString) : (parts.get directory).getD [] =
        payload codec records directory :=
      (partitions_ok made directory).1
    have listed (directory : GoString) : directory ∈ sortByKey id parts.keys ↔
        ∃ record ∈ records, codec.directory record = directory :=
      perm.mem_iff.trans ((partitions_ok made directory).2.1.trans (or_iff_right not_mem_nil))
    obtain ⟨done, appended, contents⟩ := appendJournals_contents answers.journals parts
      (perm.nodup_iff.mpr parts.distinct) disk
    simp only [part] at appended contents
    simp only [reduceCtorEq, exists_false, false_or]
    generalize sortByKey id parts.keys = directories at *
    generalize appendJournals answers.journals parts directories disk = result at *
    obtain ⟨after, _ | reported⟩ := result
    · obtain ⟨rfl, clean⟩ := appended.stored rfl
      refine iff_of_true (fun directory => ?_)
        (.inl fun record member => clean _ ((listed _).mpr ⟨record, member, rfl⟩))
      rw [contents]
      split
      next => rfl
      next absent =>
        rw [listed] at absent
        have none : payload codec records directory = [] := by simp_all [payload]
        rw [none]
    · obtain ⟨⟨faulty, member, fault⟩, first⟩ := appended.failed (Option.some_ne_none _)
      -- Both sides say that nothing was appended before the fault.
      have nothing : (after.contents = disk.contents) ↔ done = [] := by
        constructor
        · intro same
          refine eq_nil_iff_forall_not_mem.mpr fun early appendedEarly => ?_
          have filled := (partitions_ok made early).2.2
            ((listed early).mp (appended.begins.subset appendedEarly))
          have extra := contents early
          rw [show after.contents = disk.contents from same, if_pos appendedEarly] at extra
          exact filled (self_eq_append_right.mp extra)
        · rintro rfl
          funext directory
          simpa using contents directory
      refine nothing.trans ?_
      obtain ⟨head, rest, rfl⟩ := exists_cons_of_ne_nil (ne_nil_of_mem member)
      have least (record : Record) (among : record ∈ records) : head ≤ codec.directory record := by
        rcases mem_cons.mp ((listed _).mpr ⟨record, among, rfl⟩) with same | later
        · exact same.ge
        · exact (pairwise_cons.mp sorted).1 _ later
      constructor
      · intro none
        obtain ⟨record, among, same⟩ := (listed head).mp mem_cons_self
        refine .inr ⟨record, among, fun other => same ▸ least other, ?_⟩
        obtain ⟨fault, found, unsettled⟩ := (Option.any_eq_true _ _).mp (first none)
        exact ⟨fault, same ▸ found, by simpa using unsettled⟩
      · rintro (clean | ⟨record, among, lowest, fault, found, unsettled⟩)
        · obtain ⟨record, among, rfl⟩ := (listed faulty).mp member
          exact absurd (clean record among) fault
        · by_contra some
          obtain ⟨early, others, rfl⟩ := exists_cons_of_ne_nil some
          obtain ⟨rfl, _⟩ := cons_prefix_cons.mp appended.begins
          obtain ⟨other, otherAmong, same⟩ := (listed early).mp mem_cons_self
          have placed : codec.directory record = early :=
            le_antisymm (same ▸ lowest other otherAmong) (least record among)
          have settled := appended.settled early mem_cons_self
          rw [placed] at found
          simp only [dateFault] at found
          rw [found] at settled
          simp [unsettled] at settled

end Store

/-! ### The counters of the worker that stores the batch -/

section Worker

variable {Record : Type} (codec : Codec Record) (environment : Environment Record) (setup : Setup)

def work (state : Recorder Record × WorkerStage Record) (choices : List WorkerChoice) :
    Recorder Record × WorkerStage Record :=
  Lib.run (fun state choice => state.1.advanceWorker environment setup {} choice state.2) state
    choices

/-- What a worker does from the answer of the store up to `persistSession`. -/
def settling (stored : Bool) (count : Nat) : List WorkerChoice :=
  .answer stored :: List.replicate (if stored then 2 else 2 * count + 2) .proceed

structure StoreCall (Record : Type) where
  entries : List (Entry Record)
  answers : BatchAnswers

def StoreCall.records (call : StoreCall Record) : List Record := call.entries.map Prod.snd

/-- The mutex of the store lets one call of `AppendBatch` write at a time. -/
def storeBatch (state : Disk × Recorder Record) (call : StoreCall Record) :
    Disk × Recorder Record :=
  let result := appendBatch codec call.answers state.1 call.records
  (result.1, (work environment setup (state.2, .storing call.entries true)
    (settling result.2.isNone call.entries.length)).1)

variable {codec environment setup}

theorem work_failing (recorder : Recorder Record) (left : Nat) :
    let after := (work environment setup (recorder, .failing left)
      (List.replicate (2 * left + 1) .proceed)).1.stats
    after.persisted = recorder.stats.persisted ∧
      after.storeFailures = recorder.stats.storeFailures + left := by
  induction left generalizing recorder with
  | zero => exact ⟨rfl, rfl⟩
  | succ left ih =>
    obtain ⟨persisted, failures⟩ := ih ((recorder.withStats
      { recorder.stats with lost := recorder.stats.lost + 1 }).withStats
        ({ recorder.stats with lost := recorder.stats.lost + 1 }.count .storeFailure))
    refine ⟨persisted, failures.trans ?_⟩
    exact Nat.add_right_comm _ 1 left

theorem work_settling (recorder : Recorder Record) (entries : List (Entry Record))
    (still stored : Bool) : let after := (work environment setup (recorder, .storing entries still)
      (settling stored entries.length)).1.stats
    after.persisted = recorder.stats.persisted + (if stored then entries.length else 0) ∧
      after.storeFailures =
        recorder.stats.storeFailures + if stored then 0 else entries.length := by
  cases stored with
  | true => exact ⟨rfl, rfl⟩
  | false =>
    exact @work_failing _ environment setup
      { recorder.withStats { recorder.stats with
          pending := recorder.stats.pending - entries.length } with
        departed := recorder.departed + entries.length } entries.length

/-- The journals hold what was there and the persisted records, and the counters count them. -/
def Accounted (codec : Codec Record) (start state : Disk × Recorder Record)
    (records : List Record) : Prop :=
  ∃ persisted lost : List Record, (persisted ++ lost).Perm records ∧
    (∀ directory, state.1.contents directory =
      start.1.contents directory ++ payload codec persisted directory) ∧
    state.2.stats.persisted = start.2.stats.persisted + persisted.length ∧
    state.2.stats.storeFailures = start.2.stats.storeFailures + lost.length

theorem Accounted.step {start state : Disk × Recorder Record} {records : List Record}
    (accounted : Accounted codec start state records) {call : StoreCall Record}
    (harmless : Harmless codec call.answers state.1 call.records) :
    Accounted codec start (storeBatch codec environment setup state call)
      (records ++ call.records) := by
  obtain ⟨persisted, lost, perm, contents, counted, failures⟩ := accounted
  have atomic := (atomic_iff_harmless call.answers state.1 call.records).mpr harmless
  have size : call.entries.length = call.records.length := (length_map _).symm
  unfold Atomic at atomic
  unfold storeBatch
  generalize appendBatch codec call.answers state.1 call.records = result at atomic ⊢
  obtain ⟨after, _ | fault⟩ := result
  · obtain ⟨more, same⟩ := @work_settling _ environment setup state.2 call.entries true true
    refine ⟨persisted ++ call.records, lost, ?_, fun directory => ?_, ?_, same.trans failures⟩
    · rw [append_assoc]
      refine (perm_append_comm.append_left _).trans ?_
      rw [← append_assoc]
      exact perm.append_right _
    · rw [atomic, contents, append_assoc]
      simp [payload]
    · exact more.trans (by simp [counted, size, Nat.add_assoc])
  · obtain ⟨same, more⟩ := @work_settling _ environment setup state.2 call.entries true false
    refine ⟨persisted, lost ++ call.records, ?_, fun directory => ?_, same.trans counted, ?_⟩
    · rw [← append_assoc]
      exact perm.append_right _
    · rw [← contents]
      exact congrFun atomic directory
    · exact more.trans (by simp [failures, size, Nat.add_assoc])

/-- Batches are stored as a whole or not at all exactly when no journal operation fails after
`Sync`, or on a later date than the first of its batch.  The counters of persisted
and failed records are then those of the journals. -/
theorem batches_atomic_iff (codec : Codec Record) (environment : Environment Record)
    (setup : Setup) (start : Disk × Recorder Record) (calls : List (StoreCall Record)) :
    let reach := Lib.run (storeBatch codec environment setup) start
    ((∀ before call after, calls = before ++ call :: after →
        Atomic codec call.answers (reach before).1 call.records) ↔
      ∀ before call after, calls = before ++ call :: after →
        Harmless codec call.answers (reach before).1 call.records) ∧
    ((∀ before call after, calls = before ++ call :: after →
        Harmless codec call.answers (reach before).1 call.records) →
      Accounted codec start (reach calls) (calls.flatMap StoreCall.records)) := by
  intro reach
  refine ⟨by simp only [atomic_iff_harmless], ?_⟩
  induction calls using List.reverseRecOn with
  | nil => exact fun _ => ⟨[], [], .nil, by simp [reach, payload], rfl, rfl⟩
  | append_singleton calls call ih =>
    intro harmless
    have earlier := ih fun before other after split =>
      harmless before other (after ++ [call]) (by rw [split]; simp)
    have last := harmless calls call [] rfl
    rw [flatMap_append, flatMap_singleton]
    simp only [reach, run_concat]
    exact earlier.step last

end Worker

/-! ### A batch over midnight -/

def sampleCodec : Codec Bool where
  validate := fun _ => none
  directory := fun late => if late then [49] else [48]
  encode := fun _ => some [10]
  encode_ne_nil := by
    rintro record line ⟨⟩
    simp

/-- The write for the second date fails, and the record of the first one stays. -/
theorem midnight_batch_half_stored :
    let result := appendBatch sampleCodec
      { journals := fun directory => { writes := if directory = [49] then [(0, true)] else [] } }
      {} [false, true]
    result.2 = some (.journal [49] .write) ∧ result.1.contents [48] = [10] := by
  have sorted : sortByKey id [[(48 : UInt8)], [49]] = [[48], [49]] :=
    sortByKey_eq_self id (by decide)
  change (appendJournals _ _ (sortByKey id [[(48 : UInt8)], [49]]) _).2 = _ ∧
    (appendJournals _ _ (sortByKey id [[(48 : UInt8)], [49]]) _).1.contents _ = _
  rw [sorted]
  decide

end SparkRoute.SavedTrace
