import SparkRoute.ResponsesState.Affinity

/-!
# Binding a file again after its expiry

`BindFile` compares the file record before the expired entry is removed.  So an expired
binding is as good as none exactly when the new record is the old one.
-/

namespace SparkRoute.ResponsesState

open Lib Config OrderedMap

namespace MemoryStore

/-- What the callers see of a sequence of calls. -/
def answers (store : MemoryStore) : List Call → List Answer
  | [] => []
  | call :: rest => store.answer call :: (store.step call).answers rest

variable {store : MemoryStore} {affinity : ResourceAffinity} {file : FileRecord} {now : Time}
  {entry : MemoryEntry}

theorem bindFile_eq (valid : fileChecks false affinity file = .ok ()) (store : MemoryStore) :
    store.bindFile false affinity file now = store.bindFileLocked affinity file now := by
  rw [bindFile, valid]
  rfl

section

variable (indexed : Indexed store)
  (found : store.entries.get (memoryKey affinity.key) = some entry)

include indexed found

theorem removed_file : (store.remove entry).files.get (memoryKey affinity.key) = none := by
  obtain ⟨own, _⟩ := indexed.keyed found
  change (store.files.erase (memoryKey entry.affinity.key)).get (memoryKey affinity.key) = none
  rw [get_erase, if_pos own.symm]

theorem removed_bindFileLocked : (store.remove entry).bindFileLocked affinity file now =
    (((store.remove entry).push affinity).record (memoryKey affinity.key) file, .ok ()) := by
  have absent : (store.remove entry).entries.get (memoryKey affinity.key) = none := by
    rw [get_remove, if_pos (indexed.keyed found).1.symm]
  rw [bindFileLocked, otherRecord, removed_file indexed found, bindResourceLocked, absent]
  simp only [insertNew, evict_room (indexed.remove_room found), Bool.false_eq_true, if_false]

variable (ended : resourceExpired entry.affinity now = true)

include ended

theorem expired_bindFileLocked
    (same : ∀ record, store.files.get (memoryKey affinity.key) = some record → record = file) :
    store.bindFileLocked affinity file now =
      (store.remove entry).bindFileLocked affinity file now := by
  have recorded : store.otherRecord (memoryKey affinity.key) file = false := by
    unfold otherRecord
    split
    next => rfl
    next record held => simp [same record held]
  rw [removed_bindFileLocked indexed found, bindFileLocked, recorded, bindResourceLocked, found]
  simp only [ended, if_true, insertNew, evict_room (indexed.remove_room found),
    Bool.false_eq_true, if_false]

end

/-- After any calls: a file whose entry has expired is bound as if the entry were not there,
exactly when the store holds no other record of the file. -/
theorem expired_file_absent_iff (maxEntries : Int) (calls : List Call)
    (valid : fileChecks false affinity file = .ok ())
    (ended : resourceExpired entry.affinity now = true) :
    let store := run step (newMemoryStore maxEntries) calls
    store.entries.get (memoryKey affinity.key) = some entry →
    ((∀ later, store.answers (.bindFile false affinity file now :: later) =
        (store.remove entry).answers (.bindFile false affinity file now :: later)) ↔
      ∀ record, store.files.get (memoryKey affinity.key) = some record → record = file) := by
  intro store found
  have indexed : Indexed store := (Indexed.initial maxEntries).run calls
  constructor
  · intro alike record held
    by_contra other
    have refused : store.bindFileLocked affinity file now = (store, .error .conflict) := by
      rw [bindFileLocked, otherRecord, held]
      simp [other]
    have answered := (List.cons.inj (alike [])).1
    simp only [answer, perform, bindFile_eq valid, refused, removed_bindFileLocked indexed found]
      at answered
    cases answered
  · intro same later
    have locked := expired_bindFileLocked indexed found ended same
    simp only [answers, answer, step, perform, bindFile_eq valid, locked]

/-- The record of the sample file, with a size. -/
def sampleFile (bytes : Int) : FileRecord where
  scope := ascii "team"
  id := ascii "file-1"
  object := ascii "file"
  bytes := bytes
  createdAt := 1
  expiresAt := 0
  filename := []
  purpose := []

/-- The sample file, bound until the clock reads 5. -/
def expiringStore : MemoryStore :=
  run step (newMemoryStore 1)
    [.bindFile false { sampleAffinity with expiresAt := 5 } (sampleFile 1) 2]

theorem expired_file_conflict :
    ∃ entry, expiringStore.entries.get (memoryKey sampleAffinity.key) = some entry ∧
      resourceExpired entry.affinity 9 = true ∧
      (expiringStore.bindFile false sampleAffinity (sampleFile 2) 9).2 = .error .conflict ∧
      ((expiringStore.remove entry).bindFile false sampleAffinity (sampleFile 2) 9).2 = .ok () :=
  ⟨⟨{ sampleAffinity with expiresAt := 5 }, 0⟩, by decide +kernel, rfl, by rfl, by rfl⟩

theorem expired_file_absent_iff_repeated :
    fileChecks false sampleAffinity (sampleFile 1) = .ok () ∧
    ∀ later, expiringStore.answers (.bindFile false sampleAffinity (sampleFile 1) 9 :: later) =
      (expiringStore.remove ⟨{ sampleAffinity with expiresAt := 5 }, 0⟩).answers
        (.bindFile false sampleAffinity (sampleFile 1) 9 :: later) := by
  refine ⟨rfl, ?_⟩
  apply (expired_file_absent_iff 1 _ rfl rfl (by decide +kernel)).mpr
  intro record held
  have recorded : expiringStore.files.get (memoryKey sampleAffinity.key) = some (sampleFile 1) := by
    decide +kernel
  exact Option.some.inj (held.symm.trans recorded)

end MemoryStore

end SparkRoute.ResponsesState
