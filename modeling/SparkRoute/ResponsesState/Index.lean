import Mathlib.Data.Nat.Cast.Basic
import SparkRoute.Lib.Run
import SparkRoute.ResponsesState.Store

/-!
# The index of the affinity store

The map, the recency list and the file index stay in step.  `Effect` says everything that
one call can do to them.
-/

namespace SparkRoute.ResponsesState

open Lib Config OrderedMap LinkedList

/-! ### Keys -/

theorem printable_no_separator {value : GoString} (printable : unprintable value = false) :
    (0 : UInt8) ∉ value := by
  intro inside
  have refused : unprintable value = true := List.any_eq_true.mpr ⟨0, inside, by decide⟩
  rw [printable] at refused
  cases refused

theorem kind_no_separator {kind : ResourceKind} (accepted : validateResourceKind kind = .ok ()) :
    (0 : UInt8) ∉ kind.text := by
  cases kind with
  | unsupported name => cases accepted
  | response | conversation | item | file | prompt => decide

theorem kind_text_injective {first second : ResourceKind}
    (firstAccepted : validateResourceKind first = .ok ())
    (secondAccepted : validateResourceKind second = .ok ())
    (same : first.text = second.text) : first = second := by
  cases first with
  | unsupported name => cases firstAccepted
  | response | conversation | item | file | prompt =>
    cases second with
    | unsupported name => cases secondAccepted
    | response | conversation | item | file | prompt =>
      first
        | rfl
        | exact absurd same (by decide)

theorem ResourceKey.validate_parts {key : ResourceKey} (accepted : key.validate = .ok ()) :
    unprintable key.scope = false ∧ validateResourceKind key.kind = .ok () := by
  obtain ⟨_, scope, rest⟩ := bind_eq_ok.mp accepted
  obtain ⟨_, kind, _⟩ := bind_eq_ok.mp rest
  obtain ⟨_, _, printable⟩ := bind_eq_ok.mp scope
  exact ⟨refuse_eq_ok.mp printable, kind⟩

theorem memoryKey_injective {first second : ResourceKey}
    (firstAccepted : first.validate = .ok ()) (secondAccepted : second.validate = .ok ())
    (same : memoryKey first = memoryKey second) : first = second := by
  obtain ⟨firstScope, firstKind⟩ := ResourceKey.validate_parts firstAccepted
  obtain ⟨secondScope, secondKind⟩ := ResourceKey.validate_parts secondAccepted
  obtain ⟨kinds, tails⟩ :=
    separated_unique (kind_no_separator firstKind) (kind_no_separator secondKind) same
  obtain ⟨scopes, identifiers⟩ := separated_unique (printable_no_separator firstScope)
    (printable_no_separator secondScope) tails
  have kinds := kind_text_injective firstKind secondKind kinds
  cases first
  cases second
  simp only [ResourceKey.mk.injEq]
  exact ⟨scopes, kinds, identifiers⟩

def FileRecord.key (record : FileRecord) : ResourceKey :=
  { scope := record.scope, kind := .file, resourceID := record.id }

namespace MemoryStore

variable {store : MemoryStore}

/-! ### What the primitives do to the maps -/

theorem get_remove (store : MemoryStore) (entry : MemoryEntry) (key : GoString) :
    (store.remove entry).entries.get key =
      if key = memoryKey entry.affinity.key then none else store.entries.get key :=
  store.entries.get_erase _ _

theorem get_rewrite (store : MemoryStore) (changed : GoString) (entry : MemoryEntry)
    (affinity : ResourceAffinity) (key : GoString) :
    (store.rewrite changed entry affinity).entries.get key =
      if key = changed then some { entry with affinity } else store.entries.get key :=
  store.entries.get_insert _ _ _

theorem get_push (store : MemoryStore) (affinity : ResourceAffinity) (key : GoString) :
    (store.push affinity).entries.get key =
      if key = memoryKey affinity.key then some { affinity, element := store.order.fresh }
      else store.entries.get key :=
  store.entries.get_insert _ _ _

theorem keys_length (store : MemoryStore) : store.entries.keys.length = store.length := by
  simp [OrderedMap.keys, length]

variable {affinity : ResourceAffinity} {entry : MemoryEntry} {key : GoString}

theorem length_rewrite (found : store.entries.get key = some entry) :
    (store.rewrite key entry affinity).length = store.length := by
  rw [← keys_length, ← keys_length]
  exact congrArg List.length
    (keys_insert_old _ (mem_keys.mpr ⟨entry, found⟩))

theorem length_push (absent : store.entries.get (memoryKey affinity.key) = none) :
    (store.push affinity).length = store.length + 1 := by
  have counted := total_insert_new (fun _ => 1)
    ({ affinity, element := store.order.fresh } : MemoryEntry) absent
  simpa [OrderedMap.total, push, length] using counted

theorem length_remove (found : store.entries.get (memoryKey entry.affinity.key) = some entry) :
    (store.remove entry).length + 1 = store.length := by
  have counted := total_erase (fun _ => 1) found
  simpa [OrderedMap.total, remove, length] using counted

/-! ### The invariant -/

structure Indexed (store : MemoryStore) : Prop where
  listed : ∀ {key entry}, store.entries.get key = some entry →
    (entry.element, key) ∈ store.order.elements
  held : ∀ {element key}, (element, key) ∈ store.order.elements →
    ∃ entry, store.entries.get key = some entry ∧ entry.element = element
  keyed : ∀ {key entry}, store.entries.get key = some entry →
    memoryKey entry.affinity.key = key ∧ entry.affinity.key.validate = .ok ()
  filed : ∀ {key record}, store.files.get key = some record →
    memoryKey record.key = key ∧ ∃ entry, store.entries.get key = some entry
  bounded : (store.length : Int) ≤ store.maxEntries
  positive : 0 < store.maxEntries

theorem Indexed.initial (maxEntries : Int) : Indexed (newMemoryStore maxEntries) where
  listed found := by cases found
  held listed := by cases listed
  keyed found := by cases found
  filed found := by cases found
  bounded := by
    simp only [newMemoryStore, length, OrderedMap.empty, List.length_nil, defaultMaxEntries]
    split <;> omega
  positive := by
    simp only [newMemoryStore, defaultMaxEntries]
    split <;> omega

section

variable (indexed : Indexed store)

include indexed

theorem Indexed.element_unique {other : GoString} {entry' : MemoryEntry}
    (found : store.entries.get key = some entry) (found' : store.entries.get other = some entry')
    (same : entry'.element = entry.element) : other = key := by
  have first := indexed.listed found
  have second := indexed.listed found'
  rw [same] at second
  exact congrArg Prod.snd (List.inj_on_of_nodup_map store.order.distinct second first rfl)

theorem Indexed.remove_room (found : store.entries.get key = some entry) :
    ((store.remove entry).length : Int) < (store.remove entry).maxEntries := by
  obtain ⟨rfl, _⟩ := indexed.keyed found
  have shorter := length_remove found
  have bounded := indexed.bounded
  change ((store.remove entry).length : Int) < store.maxEntries
  omega

theorem Indexed.remove (found : store.entries.get key = some entry) :
    Indexed (store.remove entry) := by
  have room := indexed.remove_room found
  obtain ⟨rfl, _⟩ := indexed.keyed found
  constructor
  · intro other entry' found'
    rw [get_remove] at found'
    split at found'
    next => cases found'
    next apart =>
      refine mem_remove.mpr ⟨indexed.listed found', ?_⟩
      exact fun same => apart (indexed.element_unique found found' same)
  · intro element other listed
    obtain ⟨listed, apart⟩ := mem_remove.mp listed
    obtain ⟨entry', found', rfl⟩ := indexed.held listed
    refine ⟨entry', ?_, rfl⟩
    rw [get_remove, if_neg]
    · exact found'
    · rintro rfl
      rw [found] at found'
      cases found'
      exact apart rfl
  · intro other entry' found'
    rw [get_remove] at found'
    split at found'
    next => cases found'
    next => exact indexed.keyed found'
  · intro other record recorded
    have recorded : (store.files.erase (memoryKey entry.affinity.key)).get other = some record :=
      recorded
    rw [get_erase] at recorded
    split at recorded
    next => cases recorded
    next apart =>
      obtain ⟨own, entry', found'⟩ := indexed.filed recorded
      refine ⟨own, entry', ?_⟩
      rw [get_remove, if_neg apart]
      exact found'
  · exact room.le
  · exact indexed.positive

theorem Indexed.touch (entry : MemoryEntry) : Indexed (store.touch entry) where
  listed found := mem_moveToBack.mpr (indexed.listed found)
  held listed := indexed.held (mem_moveToBack.mp listed)
  keyed := indexed.keyed
  filed := indexed.filed
  bounded := indexed.bounded
  positive := indexed.positive

theorem Indexed.rewrite (found : store.entries.get key = some entry)
    (same : affinity.key = entry.affinity.key) : Indexed (store.rewrite key entry affinity) := by
  constructor
  · intro other entry' found'
    rw [get_rewrite] at found'
    split at found'
    next equal =>
      cases found'
      have listed := indexed.listed found
      rw [← equal] at listed
      exact listed
    next => exact indexed.listed found'
  · intro element other listed
    obtain ⟨entry', found', rfl⟩ := indexed.held listed
    rw [get_rewrite]
    split
    next equal =>
      rw [equal, found] at found'
      cases found'
      exact ⟨_, rfl, rfl⟩
    next => exact ⟨entry', found', rfl⟩
  · intro other entry' found'
    rw [get_rewrite] at found'
    split at found'
    next equal =>
      cases found'
      rw [same, equal]
      exact indexed.keyed found
    next => exact indexed.keyed found'
  · intro other record recorded
    obtain ⟨own, entry', found'⟩ := indexed.filed recorded
    refine ⟨own, ?_⟩
    rw [get_rewrite]
    split
    next => exact ⟨_, rfl⟩
    next => exact ⟨entry', found'⟩
  · rw [length_rewrite found]
    exact indexed.bounded
  · exact indexed.positive

theorem Indexed.push (absent : store.entries.get (memoryKey affinity.key) = none)
    (accepted : affinity.key.validate = .ok ()) (room : (store.length : Int) < store.maxEntries) :
    Indexed (store.push affinity) := by
  constructor
  · intro other entry' found'
    rw [get_push] at found'
    split at found'
    next equal =>
      cases found'
      exact mem_pushBack.mpr (Or.inr (by rw [equal]))
    next => exact mem_pushBack.mpr (Or.inl (indexed.listed found'))
  · intro element other listed
    rw [get_push]
    rcases mem_pushBack.mp listed with old | new
    · obtain ⟨entry', found', rfl⟩ := indexed.held old
      split
      next equal =>
        rw [equal, absent] at found'
        cases found'
      next => exact ⟨entry', found', rfl⟩
    · obtain ⟨rfl, rfl⟩ := Prod.mk.inj new
      rw [if_pos rfl]
      exact ⟨_, rfl, rfl⟩
  · intro other entry' found'
    rw [get_push] at found'
    split at found'
    next equal =>
      cases found'
      exact ⟨equal.symm, accepted⟩
    next => exact indexed.keyed found'
  · intro other record recorded
    obtain ⟨own, entry', found'⟩ := indexed.filed recorded
    refine ⟨own, ?_⟩
    rw [get_push]
    split
    next => exact ⟨_, rfl⟩
    next => exact ⟨entry', found'⟩
  · rw [length_push absent]
    change ((store.length + 1 : Nat) : Int) ≤ store.maxEntries
    omega
  · exact indexed.positive

theorem Indexed.record {file : FileRecord} (own : memoryKey file.key = key)
    (present : ∃ entry, store.entries.get key = some entry) : Indexed (store.record key file) where
  listed := indexed.listed
  held := indexed.held
  keyed := indexed.keyed
  filed {other record} recorded := by
    have recorded : (store.files.insert key file).get other = some record := recorded
    rw [get_insert] at recorded
    split at recorded
    next equal =>
      cases recorded
      exact ⟨own.trans equal.symm, equal ▸ present⟩
    next => exact indexed.filed recorded
  bounded := indexed.bounded
  positive := indexed.positive

end

/-! ### What one call can do -/

/-- The store in which a binding of `key` finds room. -/
inductive Room (store : MemoryStore) (key : GoString) (now : Time) : MemoryStore → Prop
  | free (absent : store.entries.get key = none)
      (room : (store.length : Int) < store.maxEntries) : Room store key now store
  | expired {entry : MemoryEntry} (found : store.entries.get key = some entry)
      (ended : resourceExpired entry.affinity now = true) :
      Room store key now (store.remove entry)
  | evicted {entry : MemoryEntry} {oldest : GoString} (absent : store.entries.get key = none)
      (full : store.maxEntries ≤ (store.length : Int))
      (front : store.order.front = some (entry.element, oldest))
      (found : store.entries.get oldest = some entry) :
      Room store key now (store.remove entry)

section

variable (store : MemoryStore) (binding : Bool) (key : GoString) (now : Time)

/-- The effects of a call on `key` that reads the clock at `now`. -/
inductive Effect : MemoryStore → Prop
  | unchanged : Effect store
  | expired {entry : MemoryEntry} (found : store.entries.get key = some entry)
      (ended : resourceExpired entry.affinity now = true) : Effect (store.remove entry)
  | touched {entry : MemoryEntry} (found : store.entries.get key = some entry) :
      Effect (store.touch entry)
  | extended {entry : MemoryEntry} (affinity : ResourceAffinity)
      (found : store.entries.get key = some entry)
      (present : entry.affinity.deleted = false) :
      Effect ((store.rewrite key entry (extended entry.affinity affinity)).touch entry)
  | tombstoned {entry : MemoryEntry} (deletedAt expiresAt : Time)
      (found : store.entries.get key = some entry)
      (present : entry.affinity.deleted = false) (deleting : binding = false) :
      Effect ((store.rewrite key entry (tombstoned entry.affinity deletedAt expiresAt)).touch entry)
  | bound {room : MemoryStore} (affinity : ResourceAffinity) (own : memoryKey affinity.key = key)
      (accepted : affinity.key.validate = .ok ()) (roomy : Room store key now room)
      (isBinding : binding = true) : Effect (room.push affinity)
  | recorded {after : MemoryStore} (file : FileRecord) (effect : Effect after)
      (own : memoryKey file.key = key) (present : ∃ entry, after.entries.get key = some entry) :
      Effect (after.record key file)

end

variable {now : Time}

theorem Room.indexed {room : MemoryStore} (roomy : Room store key now room)
    (indexed : Indexed store) :
    Indexed room ∧ room.entries.get key = none ∧ (room.length : Int) < room.maxEntries := by
  cases roomy with
  | free absent room => exact ⟨indexed, absent, room⟩
  | expired found ended =>
    refine ⟨indexed.remove found, ?_, indexed.remove_room found⟩
    rw [get_remove, if_pos (indexed.keyed found).1.symm]
  | evicted absent full front found =>
    refine ⟨indexed.remove found, ?_, indexed.remove_room found⟩
    rw [get_remove, absent, ite_self]

variable {after : MemoryStore}

theorem Effect.indexed {binding : Bool} (effect : Effect store binding key now after)
    (indexed : Indexed store) : Indexed after := by
  induction effect with
  | unchanged => exact indexed
  | expired found ended => exact indexed.remove found
  | touched found => exact indexed.touch _
  | extended affinity found present | tombstoned deletedAt expiresAt found present deleting =>
    apply Indexed.touch
    exact indexed.rewrite found rfl
  | bound affinity own accepted roomy isBinding =>
    obtain ⟨kept, absent, room⟩ := roomy.indexed indexed
    exact kept.push (own ▸ absent) accepted room
  | recorded file effect own present ih =>
    exact ih.record own present

/-! ### The operations have these effects -/

theorem evict_room {rounds : Nat} (room : (store.length : Int) < store.maxEntries) :
    evict rounds store = .ok store := by
  cases rounds with
  | zero => rfl
  | succ rounds => simp [evict, Int.not_le.mpr room]

theorem evict_full (indexed : Indexed store) (full : store.maxEntries ≤ (store.length : Int)) :
    ∃ entry oldest, store.order.front = some (entry.element, oldest) ∧
      store.entries.get oldest = some entry ∧
      evict store.order.elements.length store = .ok (store.remove entry) := by
  have occupied : store.entries.entries ≠ [] := by
    intro none
    have positive := indexed.positive
    simp only [length, none, List.length_nil] at full
    omega
  obtain ⟨first, firstListed⟩ := List.exists_mem_of_ne_nil _ occupied
  obtain ⟨firstEntry, firstFound⟩ :=
    mem_keys.mp (List.mem_map_of_mem firstListed)
  have someListed := indexed.listed firstFound
  cases elements : store.order.elements with
  | nil =>
    rw [elements] at someListed
    cases someListed
  | cons front rest =>
    have atFront : store.order.front = some front := by simp [LinkedList.front, elements]
    obtain ⟨entry, found, same⟩ := indexed.held (List.mem_of_mem_head? atFront)
    refine ⟨entry, front.2, by rw [same]; exact atFront, found, ?_⟩
    simp only [List.length_cons, evict, if_pos full, atFront, found,
      evict_room (indexed.remove_room found)]

theorem insertNew_effect (indexed : Indexed store) (now : Time)
    (absent : store.entries.get (memoryKey affinity.key) = none) :
    ∃ room, Room store (memoryKey affinity.key) now room ∧
      store.insertNew affinity = (room.push affinity, .ok ()) := by
  by_cases full : store.maxEntries ≤ (store.length : Int)
  · obtain ⟨entry, oldest, front, found, made⟩ := evict_full indexed full
    refine ⟨store.remove entry, .evicted absent full front found, ?_⟩
    simp only [insertNew, made]
  · have room := Int.not_le.mp full
    refine ⟨store, .free absent room, ?_⟩
    simp only [insertNew, evict_room room]

section

variable (store : MemoryStore) (affinity : ResourceAffinity) (now : Time)

inductive Binding : MemoryStore × Except StoreError Unit → Prop
  | conflict {entry : MemoryEntry}
      (found : store.entries.get (memoryKey affinity.key) = some entry)
      (current : resourceExpired entry.affinity now = false)
      (other : entry.affinity.deleted = true ∨
        sameResourceRoute entry.affinity affinity = false) : Binding (store, .error .conflict)
  | repeated {entry : MemoryEntry}
      (found : store.entries.get (memoryKey affinity.key) = some entry)
      (current : resourceExpired entry.affinity now = false)
      (present : entry.affinity.deleted = false)
      (same : sameResourceRoute entry.affinity affinity = true) :
      Binding ((store.rewrite (memoryKey affinity.key) entry
          (MemoryStore.extended entry.affinity affinity)).touch entry, .ok ())
  | bound {room : MemoryStore} (roomy : Room store (memoryKey affinity.key) now room) :
      Binding (room.push affinity, .ok ())

end

theorem bindResourceLocked_binding (indexed : Indexed store) (affinity : ResourceAffinity)
    (now : Time) : Binding store affinity now (store.bindResourceLocked affinity now) := by
  unfold bindResourceLocked
  cases found : store.entries.get (memoryKey affinity.key) with
  | none =>
    obtain ⟨room, roomy, made⟩ := insertNew_effect indexed now found
    simp only [made]
    exact .bound roomy
  | some entry =>
    dsimp only
    split
    next ended =>
      have roomy : Room store (memoryKey affinity.key) now (store.remove entry) :=
        .expired found ended
      obtain ⟨_, _, room⟩ := roomy.indexed indexed
      simp only [insertNew, evict_room room]
      exact .bound roomy
    next current =>
      have current := Bool.eq_false_iff.mpr current
      split
      next deleted => exact .conflict found current (Or.inl deleted)
      next present =>
        have present := Bool.eq_false_iff.mpr present
        split
        next same => exact .repeated found current present same
        next different =>
          exact .conflict found current (Or.inr (Bool.eq_false_iff.mpr different))

theorem Binding.effect {outcome : MemoryStore × Except StoreError Unit}
    (binding : Binding store affinity now outcome) (accepted : affinity.key.validate = .ok ()) :
    Effect store true (memoryKey affinity.key) now outcome.1 := by
  cases binding with
  | conflict found current other => exact .unchanged
  | repeated found current present same => exact .extended affinity found present
  | bound roomy => exact .bound affinity rfl accepted roomy rfl

theorem Binding.present (binding : Binding store affinity now (after, .ok ())) :
    ∃ entry, after.entries.get (memoryKey affinity.key) = some entry := by
  cases binding with
  | repeated found current present same =>
    exact ⟨_, (get_rewrite _ _ _ _ _).trans (if_pos rfl)⟩
  | bound roomy => exact ⟨_, (get_push _ _ _).trans (if_pos rfl)⟩

theorem bindFileLocked_effect (indexed : Indexed store)
    (file : FileRecord) (now : Time) (accepted : affinity.key.validate = .ok ())
    (own : memoryKey file.key = memoryKey affinity.key) :
    Effect store true (memoryKey affinity.key) now
      (store.bindFileLocked affinity file now).1 := by
  have binding := bindResourceLocked_binding indexed affinity now
  unfold bindFileLocked
  split
  next => exact .unchanged
  next =>
    cases outcome : store.bindResourceLocked affinity now with
    | mk after result =>
      rw [outcome] at binding
      cases result with
      | error failure => exact binding.effect accepted
      | ok value =>
        exact .recorded file (binding.effect accepted) own binding.present

theorem resolveLocked_effect (store : MemoryStore) (key : ResourceKey) (now : Time) :
    Effect store false (memoryKey key) now (store.resolveLocked key now).1 := by
  unfold resolveLocked
  cases found : store.entries.get (memoryKey key) with
  | none => exact .unchanged
  | some entry =>
    dsimp only
    split
    next ended => exact .expired found ended
    next => exact .touched found

theorem tombstoneLocked_effect (store : MemoryStore) (key : ResourceKey)
    (deletedAt expiresAt now : Time) :
    Effect store false (memoryKey key) now
      (store.tombstoneLocked key deletedAt expiresAt now).1 := by
  unfold tombstoneLocked
  cases found : store.entries.get (memoryKey key) with
  | none => exact .unchanged
  | some entry =>
    dsimp only
    split
    next ended => exact .expired found ended
    next =>
      split
      next => exact .touched found
      next present =>
        exact .tombstoned deletedAt expiresAt found (Bool.eq_false_iff.mpr present) rfl

end MemoryStore

end SparkRoute.ResponsesState
