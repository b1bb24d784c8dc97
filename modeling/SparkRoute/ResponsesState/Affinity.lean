import SparkRoute.ResponsesState.Index

/-!
# Affinities are never silently changed

What the store guarantees for an entry from any reachable state on, through every sequence
of calls that neither finds it expired nor evicts it.
-/

namespace SparkRoute.ResponsesState

open Lib Config OrderedMap

/-! ### Calls and what they address -/

def Call.binds : Call → Option (ResourceAffinity × Time)
  | .bind _ affinity now => some (affinity.resource, now)
  | .bindResource _ affinity now => some (affinity, now)
  | .bindFile _ affinity _ now => some (affinity, now)
  | _ => none

def Call.addresses : Call → Option (ResourceKey × Time)
  | .bind _ affinity now => some (affinity.resource.key, now)
  | .bindResource _ affinity now => some (affinity.key, now)
  | .bindFile _ affinity _ now => some (affinity.key, now)
  | .resolve _ scope responseID now => some (responseKey scope responseID, now)
  | .resolveResource _ key now => some (key, now)
  | .tombstoneResource _ key _ _ now => some (key, now)
  | .listFiles _ _ _ => none

def Call.checks : Call → Except StoreError Unit
  | .bind cancelled affinity _ => bindChecks cancelled affinity
  | .bindResource cancelled affinity _ => resourceChecks cancelled affinity
  | .bindFile cancelled affinity file _ => fileChecks cancelled affinity file
  | .resolve cancelled scope responseID _ => keyChecks cancelled (responseKey scope responseID)
  | .resolveResource cancelled key _ => keyChecks cancelled key
  | .tombstoneResource cancelled key deletedAt expiresAt _ =>
    tombstoneChecks cancelled key deletedAt expiresAt
  | .listFiles _ _ _ => .ok ()

/-- An expiry that is not earlier; the zero time never comes. -/
def Lasts (before after : Time) : Prop := after = 0 ∨ before ≠ 0 ∧ before ≤ after

theorem Lasts.refl (time : Time) : Lasts time time := by
  by_cases zero : time = 0
  · exact Or.inl zero
  · exact Or.inr ⟨zero, Int.le_refl _⟩

theorem lasts_merge (left right : Time) : Lasts left (mergeResourceExpiry left right) := by
  unfold mergeResourceExpiry
  split
  next => exact Or.inl rfl
  next finite =>
    simp only [isZero, Bool.or_eq_true, beq_iff_eq, not_or] at finite
    split
    next later => exact Or.inr ⟨finite.1, Int.le_of_lt later⟩
    next => exact Or.inr ⟨finite.1, Int.le_refl _⟩

/-- The answer presents the resource as one that exists. -/
def Answer.Live (key : ResourceKey) : Answer → Prop
  | .found (some resource) => resource.deleted = false
  | .resolved (some _) => True
  | .page files => ∃ record ∈ files.records, record.key = key
  | _ => False

namespace MemoryStore

variable {store : MemoryStore}

/-- The call passes its checks and finds the entry expired. -/
def FoundExpired (call : Call) (key : GoString) (entry : MemoryEntry) : Prop :=
  call.checks = .ok () ∧ ∃ address now, call.addresses = some (address, now) ∧
    memoryKey address = key ∧ resourceExpired entry.affinity now = true

/-- The call binds a new key to a full store whose oldest entry is this one. -/
def Evicts (store : MemoryStore) (call : Call) (key : GoString) (entry : MemoryEntry) : Prop :=
  call.checks = .ok () ∧ store.order.front = some (entry.element, key) ∧
    store.maxEntries ≤ (store.length : Int) ∧
    ∃ affinity now, call.binds = some (affinity, now) ∧
      store.entries.get (memoryKey affinity.key) = none

/-- No call finds the entry at `key` expired, and none evicts it. -/
def Undisturbed (store : MemoryStore) (key : GoString) (calls : List Call) : Prop :=
  ∀ before call rest, calls = before ++ call :: rest →
    ∀ entry, (run step store before).entries.get key = some entry →
      ¬ FoundExpired call key entry ∧ ¬ (run step store before).Evicts call key entry

/-- The call binds nothing and is refused, with `conflict` when its checks pass. -/
def Refuses (store : MemoryStore) (call : Call) : Prop :=
  store.step call = store ∧
    ∃ failure, store.answer call = .failed failure ∧
      (call.checks = .ok () → failure = .conflict)

/-- What the next call can do to an entry. -/
structure Guarded (store : MemoryStore) (key : GoString) (entry : MemoryEntry) : Prop where
  /-- The entry belongs to the one resource with this key. -/
  own : ∀ address : ResourceKey, address.validate = .ok () → memoryKey address = key →
    entry.affinity.key = address
  /-- Another route is refused. -/
  conflict : ∀ call affinity now, call.binds = some (affinity, now) →
    memoryKey affinity.key = key → affinity.route ≠ entry.affinity.route →
    resourceExpired entry.affinity now = false → store.Refuses call
  /-- A binding, of this key or another, does not shorten the lifetime. -/
  expiry : ∀ call affinity now, call.binds = some (affinity, now) →
    ¬ FoundExpired call key entry → ¬ store.Evicts call key entry →
    ∃ after, (store.step call).entries.get key = some after ∧
      Lasts entry.affinity.expiresAt after.affinity.expiresAt
  /-- A tombstone is not presented as a resource. -/
  buried : entry.affinity.deleted = true → ∀ call address, memoryKey address = key →
    (∀ other now, call.addresses = some (other, now) → memoryKey other = key) →
    (store.answer call).Live address → False
  /-- A tombstone is not bound again before it expires. -/
  unbound : entry.affinity.deleted = true → ∀ call affinity now,
    call.binds = some (affinity, now) → memoryKey affinity.key = key →
    resourceExpired entry.affinity now = false → store.Refuses call
  /-- `TombstoneResource` succeeds when it passes its checks before the entry expires, and
  leaves a tombstone, with the call's expiry if there was none. -/
  buries : ∀ cancelled address deletedAt expiresAt now, memoryKey address = key →
    let call := Call.tombstoneResource cancelled address deletedAt expiresAt now
    (store.answer call = .done ↔
      call.checks = .ok () ∧ resourceExpired entry.affinity now = false) ∧
    (store.answer call = .done → ∃ after, (store.step call).entries.get key = some after ∧
      after.affinity.deleted = true ∧
      (entry.affinity.deleted = false → after.affinity.expiresAt = expiresAt))

/-! ### One call -/

variable {Value : Type}

theorem guarded_eq (store : MemoryStore) (checks : Except StoreError Unit)
    (locked : MemoryStore × Except StoreError Value) :
    (∃ failure, checks = .error failure ∧
      store.guarded checks locked = (store, .error failure)) ∨
    checks = .ok () ∧ store.guarded checks locked = locked := by
  cases checks with
  | error failure => exact Or.inl ⟨failure, rfl, rfl⟩
  | ok value => exact Or.inr ⟨rfl, rfl⟩

variable {affinity : ResourceAffinity} {cancelled : Bool}

theorem resourceChecks_key (accepted : resourceChecks cancelled affinity = .ok ()) :
    affinity.key.validate = .ok () := by
  obtain ⟨_, _, valid⟩ := bind_eq_ok.mp accepted
  obtain ⟨_, key, _⟩ := bind_eq_ok.mp (mapError_eq_ok.mp valid)
  exact key

theorem fileChecks_key {file : FileRecord}
    (accepted : fileChecks cancelled affinity file = .ok ()) :
    affinity.key.validate = .ok () ∧ file.key = affinity.key := by
  obtain ⟨_, resource, rest⟩ := bind_eq_ok.mp accepted
  obtain ⟨_, kind, rest⟩ := bind_eq_ok.mp rest
  obtain ⟨_, _, rest⟩ := bind_eq_ok.mp rest
  have kind := refuse_eq_ok.mp (mapError_eq_ok.mp kind)
  have alike := refuse_eq_ok.mp (mapError_eq_ok.mp rest)
  simp only [ne_eq, decide_not, Bool.not_eq_false', decide_eq_true_eq] at kind
  simp only [ne_eq, decide_not, Bool.or_eq_false_iff, Bool.not_eq_false',
    decide_eq_true_eq] at alike
  refine ⟨resourceChecks_key resource, ?_⟩
  simp only [FileRecord.key, alike, ← kind]

variable {address : ResourceKey}

theorem guarded_effect {call : Call} {locked : MemoryStore × Except StoreError Value} {now : Time}
    (addressed : call.addresses = some (address, now))
    (performed : store.step call = (store.guarded call.checks locked).1)
    (effect : call.checks = .ok () →
      Effect store call.binds.isSome (memoryKey address) now locked.1) :
    store.step call = store ∨ call.checks = .ok () ∧
      ∃ address now, call.addresses = some (address, now) ∧
        Effect store call.binds.isSome (memoryKey address) now (store.step call) := by
  rcases store.guarded_eq call.checks locked with ⟨_, _, same⟩ | ⟨checked, same⟩
  · rw [performed, same]
    exact Or.inl rfl
  · refine Or.inr ⟨checked, address, now, addressed, ?_⟩
    rw [performed, same]
    exact effect checked

theorem resolve_eq (store : MemoryStore) (cancelled : Bool) (scope responseID : GoString)
    (now : Time) : store.resolve cancelled scope responseID now =
      (store.resolveResource cancelled (responseKey scope responseID) now).map id
        (Except.map live) := by
  fun_cases resolve store cancelled scope responseID now with
  | case1 _ _ found | case2 _ _ found =>
    rw [found]
    rfl

/-- A call leaves the store as it is, or has an effect on the key it addresses. -/
theorem step_effect (indexed : Indexed store) (call : Call) :
    store.step call = store ∨ call.checks = .ok () ∧
      ∃ address now, call.addresses = some (address, now) ∧
        Effect store call.binds.isSome (memoryKey address) now (store.step call) := by
  cases call with
  | bind cancelled affinity now =>
    refine guarded_effect rfl rfl fun checked => ?_
    obtain ⟨_, _, resource⟩ := bind_eq_ok.mp checked
    exact (bindResourceLocked_binding indexed affinity.resource now).effect
      (resourceChecks_key resource)
  | bindResource cancelled affinity now =>
    refine guarded_effect rfl rfl fun checked => ?_
    exact (bindResourceLocked_binding indexed affinity now).effect (resourceChecks_key checked)
  | bindFile cancelled affinity file now =>
    refine guarded_effect rfl rfl fun checked => ?_
    obtain ⟨valid, own⟩ := fileChecks_key checked
    exact bindFileLocked_effect indexed file now valid (congrArg memoryKey own)
  | resolve cancelled scope responseID now =>
    refine guarded_effect rfl ?_ fun _ => store.resolveLocked_effect _ now
    simp only [step, perform, resolve_eq]
    rfl
  | resolveResource cancelled key now =>
    exact guarded_effect rfl rfl fun _ => store.resolveLocked_effect key now
  | tombstoneResource cancelled key deletedAt expiresAt now =>
    exact guarded_effect rfl rfl fun _ => store.tombstoneLocked_effect key deletedAt expiresAt now
  | listFiles cancelled query clock => exact Or.inl rfl

theorem Indexed.step (indexed : Indexed store) (call : Call) : Indexed (store.step call) := by
  rcases step_effect indexed call with same | ⟨_, _, _, _, effect⟩
  · rw [same]
    exact indexed
  · exact effect.indexed indexed

variable {key : GoString} {now : Time} {after : MemoryStore}

theorem Effect.maxEntries_eq {binding : Bool} (effect : Effect store binding key now after) :
    after.maxEntries = store.maxEntries := by
  induction effect with
  | unchanged | expired | touched | extended | tombstoned => rfl
  | bound affinity own accepted roomy isBinding => cases roomy <;> rfl
  | recorded file effect own present ih => exact ih

theorem Indexed.run (indexed : Indexed store) (calls : List Call) :
    Indexed (run MemoryStore.step store calls) :=
  run_invariant indexed (fun _ call kept => kept.step call) calls

theorem run_maxEntries (indexed : Indexed store) (calls : List Call) :
    (run MemoryStore.step store calls).maxEntries = store.maxEntries := by
  induction calls generalizing store with
  | nil => rfl
  | cons call calls ih =>
    refine (ih (indexed.step call)).trans ?_
    rcases step_effect indexed call with same | ⟨_, _, _, _, effect⟩
    · rw [same]
    · exact effect.maxEntries_eq

/-! ### Entries that stay -/

structure Kept (entry after : MemoryEntry) : Prop where
  route : after.affinity.route = entry.affinity.route
  buried : entry.affinity.deleted = true → after.affinity = entry.affinity

theorem Kept.refl (entry : MemoryEntry) : Kept entry entry := ⟨rfl, fun _ => rfl⟩

theorem Kept.trans {first second third : MemoryEntry} (one : Kept first second)
    (two : Kept second third) : Kept first third where
  route := two.route.trans one.route
  buried deleted := by
    have same := one.buried deleted
    exact (two.buried (same ▸ deleted)).trans same

variable {entry : MemoryEntry} {other : GoString}

theorem get_apart (found : store.entries.get other = some entry)
    (absent : store.entries.get key = none) : other ≠ key := by
  rintro rfl
  rw [found] at absent
  cases absent

variable {old : MemoryEntry}

theorem current_apart (found : store.entries.get other = some entry)
    (present : store.entries.get key = some old)
    (current : other = key → resourceExpired entry.affinity now = false)
    (ended : resourceExpired old.affinity now = true) : other ≠ key := by
  rintro rfl
  rw [found] at present
  cases present
  rw [current rfl] at ended
  cases ended

theorem Indexed.get_remove_other (indexed : Indexed store)
    (present : store.entries.get key = some old) (apart : other ≠ key) :
    (store.remove old).entries.get other = store.entries.get other := by
  rw [get_remove, (indexed.keyed present).1, if_neg apart]

theorem Room.keeps {room : MemoryStore} (indexed : Indexed store) (roomy : Room store key now room)
    (found : store.entries.get other = some entry)
    (current : other = key → resourceExpired entry.affinity now = false)
    (recent : ¬ (store.order.front = some (entry.element, other) ∧
      store.maxEntries ≤ (store.length : Int) ∧ store.entries.get key = none)) :
    other ≠ key ∧ room.entries.get other = some entry := by
  cases roomy with
  | free absent room => exact ⟨get_apart found absent, found⟩
  | expired old ended =>
    have apart := current_apart found old current ended
    exact ⟨apart, (indexed.get_remove_other old apart).trans found⟩
  | @evicted _ oldest absent full front old =>
    have apart : other ≠ oldest := by
      rintro rfl
      rw [found] at old
      cases old
      exact recent ⟨front, full, absent⟩
    exact ⟨get_apart found absent, (indexed.get_remove_other old apart).trans found⟩

theorem get_rewrite_cases (changed : ResourceAffinity)
    (found : store.entries.get other = some entry) (present : store.entries.get key = some old) :
    old = entry ∧ (store.rewrite key old changed).entries.get other =
        some { entry with affinity := changed } ∨
      (store.rewrite key old changed).entries.get other = some entry := by
  rw [get_rewrite]
  split
  next same =>
    rw [same, present] at found
    cases found
    exact Or.inl ⟨rfl, rfl⟩
  next => exact Or.inr found

/-- An entry that the call neither finds expired nor evicts is still there. -/
theorem Effect.keeps {binding : Bool} (indexed : Indexed store)
    (effect : Effect store binding key now after) (found : store.entries.get other = some entry)
    (current : other = key → resourceExpired entry.affinity now = false)
    (recent : binding = true → ¬ (store.order.front = some (entry.element, other) ∧
      store.maxEntries ≤ (store.length : Int) ∧ store.entries.get key = none)) :
    ∃ entry', after.entries.get other = some entry' ∧ Kept entry entry' ∧
      (binding = true → Lasts entry.affinity.expiresAt entry'.affinity.expiresAt) := by
  have same : Kept entry entry ∧
      (binding = true → Lasts entry.affinity.expiresAt entry.affinity.expiresAt) :=
    ⟨.refl entry, fun _ => .refl _⟩
  induction effect with
  | unchanged | touched => exact ⟨entry, found, same⟩
  | expired old ended =>
    have apart := current_apart found old current ended
    exact ⟨entry, (indexed.get_remove_other old apart).trans found, same⟩
  | @extended held affinity old present =>
    obtain ⟨rfl, rewritten⟩ | rewritten :=
      get_rewrite_cases (MemoryStore.extended held.affinity affinity) found old
    · refine ⟨_, rewritten, ⟨rfl, fun deleted => ?_⟩, fun _ => lasts_merge _ _⟩
      rw [present] at deleted
      cases deleted
    · exact ⟨entry, rewritten, same⟩
  | @tombstoned held deletedAt expiresAt old present deleting =>
    obtain ⟨rfl, rewritten⟩ | rewritten :=
      get_rewrite_cases (MemoryStore.tombstoned held.affinity deletedAt expiresAt) found old
    · refine ⟨_, rewritten, ⟨rfl, fun deleted => ?_⟩, fun isBinding => ?_⟩
      · rw [present] at deleted
        cases deleted
      · rw [deleting] at isBinding
        cases isBinding
    · exact ⟨entry, rewritten, same⟩
  | bound affinity own accepted roomy isBinding =>
    obtain ⟨apart, kept⟩ := roomy.keeps indexed found current (recent isBinding)
    refine ⟨entry, ?_, same⟩
    rw [get_push, own, if_neg apart]
    exact kept
  | recorded file effect own present ih => exact ih

variable {call : Call}

theorem binds_addresses (addressed : call.addresses = some (address, now))
    (binding : call.binds.isSome = true) :
    ∃ affinity, call.binds = some (affinity, now) ∧ affinity.key = address := by
  cases call with
  | bind | bindResource | bindFile =>
    cases addressed
    exact ⟨_, rfl, rfl⟩
  | resolve | resolveResource | tombstoneResource | listFiles => cases binding

theorem step_keeps (indexed : Indexed store) (found : store.entries.get key = some entry)
    (current : ¬ FoundExpired call key entry) (recent : ¬ store.Evicts call key entry) :
    ∃ after, (store.step call).entries.get key = some after ∧ Kept entry after ∧
      (call.binds.isSome = true →
        Lasts entry.affinity.expiresAt after.affinity.expiresAt) := by
  rcases step_effect indexed call with same | ⟨checked, address, now, addressed, effect⟩
  · rw [same]
    exact ⟨entry, found, .refl entry, fun _ => .refl _⟩
  · apply effect.keeps indexed found
    · intro own
      apply Bool.eq_false_iff.mpr
      exact fun ended => current ⟨checked, address, now, addressed, own.symm, ended⟩
    · rintro binding ⟨front, full, absent⟩
      obtain ⟨affinity, bound, rfl⟩ := binds_addresses addressed binding
      exact recent ⟨checked, front, full, affinity, now, bound, absent⟩

theorem Undisturbed.rest {calls : List Call} (undisturbed : store.Undisturbed key (call :: calls)) :
    (store.step call).Undisturbed key calls := by
  intro before next rest split entry found
  exact undisturbed (call :: before) next rest (by rw [split]; rfl) entry found

/-- The run lemma: an undisturbed entry stays, with its route. -/
theorem run_keeps (indexed : Indexed store) {calls : List Call}
    (found : store.entries.get key = some entry) (undisturbed : store.Undisturbed key calls) :
    ∃ after, (run step store calls).entries.get key = some after ∧ Kept entry after := by
  induction calls generalizing store entry with
  | nil => exact ⟨entry, found, .refl entry⟩
  | cons call calls ih =>
    obtain ⟨current, recent⟩ := undisturbed [] call calls rfl entry found
    obtain ⟨next, nextFound, kept, _⟩ := step_keeps indexed found current recent
    obtain ⟨after, afterFound, later⟩ :=
      ih (indexed.step call) nextFound undisturbed.rest
    exact ⟨after, afterFound, kept.trans later⟩

/-! ### Refusals -/

theorem bindResourceLocked_conflict
    (found : store.entries.get (memoryKey affinity.key) = some entry)
    (current : resourceExpired entry.affinity now = false)
    (other : entry.affinity.deleted = true ∨ affinity.route ≠ entry.affinity.route) :
    store.bindResourceLocked affinity now = (store, .error .conflict) := by
  have different (apart : affinity.route ≠ entry.affinity.route) :
      sameResourceRoute entry.affinity affinity = false := by
    simp [sameResourceRoute, Ne.symm apart]
  rcases other with deleted | apart
  · simp [bindResourceLocked, found, current, deleted]
  · simp [bindResourceLocked, found, current, different apart]

theorem refuses_of_conflict {locked : MemoryStore × Except StoreError Unit}
    (performed : store.perform call = (store.guarded call.checks locked).map id (Answer.of fun _
      => .done)) (conflict : locked = (store, .error .conflict)) : store.Refuses call := by
  rcases store.guarded_eq call.checks locked with ⟨failure, refused, same⟩ | ⟨_, same⟩
  · rw [same] at performed
    refine ⟨congrArg Prod.fst performed, failure, congrArg Prod.snd performed, ?_⟩
    intro accepted
    rw [refused] at accepted
    cases accepted
  · rw [same, conflict] at performed
    exact ⟨congrArg Prod.fst performed, .conflict, congrArg Prod.snd performed, fun _ => rfl⟩

theorem binding_refused (binds : call.binds = some (affinity, now))
    (found : store.entries.get (memoryKey affinity.key) = some entry)
    (current : resourceExpired entry.affinity now = false)
    (other : entry.affinity.deleted = true ∨ affinity.route ≠ entry.affinity.route) :
    store.Refuses call := by
  have conflict := bindResourceLocked_conflict found current other
  cases call with
  | bind cancelled affinity now | bindResource cancelled affinity now =>
    cases binds
    exact refuses_of_conflict rfl conflict
  | bindFile cancelled affinity file now =>
    cases binds
    apply @refuses_of_conflict _ _ (store.bindFileLocked affinity file now) rfl
    unfold bindFileLocked
    split
    next => rfl
    next => rw [conflict]
  | resolve | resolveResource | tombstoneResource | listFiles => cases binds

/-! ### Tombstones -/

theorem resolveResource_deleted {key : ResourceKey}
    (found : store.entries.get (memoryKey key) = some entry) {resource : ResourceAffinity}
    (answered : (store.resolveResource cancelled key now).2 = .ok (some resource)) :
    resource = entry.affinity := by
  revert answered
  rw [resolveResource]
  rcases store.guarded_eq (keyChecks cancelled key) (store.resolveLocked key now) with
    ⟨failure, _, same⟩ | ⟨_, same⟩
  · rw [same]
    exact nofun
  · rw [same, resolveLocked, found]
    dsimp only
    split
    next => exact nofun
    next =>
      rintro ⟨⟩
      rfl

theorem listFiles_listed {query : FileQuery} {clock : Nat → Time}
    {page : FilePage} (answered : store.listFiles cancelled query clock = .ok page)
    {record : FileRecord} (inside : record ∈ page.records) :
    ∃ entry ∈ store.entries.entries, entry.2.affinity.deleted = false ∧
      store.files.get entry.1 = some record := by
  obtain ⟨_, _, answered⟩ := bind_eq_ok.mp answered
  obtain ⟨normal, _, answered⟩ := bind_eq_ok.mp answered
  obtain ⟨cursor, _, answered⟩ := bind_eq_ok.mp answered
  have among : record ∈ store.entries.entries.zipIdx.filterMap fun place =>
      store.listed normal cursor (clock (2 * place.2)) (clock (2 * place.2 + 1)) place.1 := by
    dsimp only at answered
    split at answered <;> cases answered
    · exact List.mem_mergeSort.mp (List.mem_of_mem_take inside)
    · exact List.mem_mergeSort.mp inside
  obtain ⟨⟨entry, index⟩, visited, shown⟩ := List.mem_filterMap.mp among
  refine ⟨entry, (List.mem_zipIdx_iff_getElem?.mp visited) |> List.mem_of_getElem?, ?_⟩
  simp only [listed, Option.ite_none_left_eq_some] at shown
  obtain ⟨kept, shown⟩ := shown
  simp only [Bool.or_eq_true, not_or, Bool.not_eq_true] at kept
  refine ⟨kept.1.2, ?_⟩
  cases filed : store.files.get entry.1 with
  | none =>
    rw [filed] at shown
    cases shown
  | some file =>
    simp only [filed, Option.ite_none_left_eq_some] at shown
    exact shown.2.2.2

theorem live_of {succeeded : Value → Answer} {result : Except StoreError Value}
    (live : (Answer.of succeeded result).Live address) :
    ∃ value, result = .ok value ∧ (succeeded value).Live address := by
  cases result with
  | error failure => exact live.elim
  | ok value => exact ⟨value, rfl, live⟩

theorem tombstone_not_live (indexed : Indexed store) (found : store.entries.get key = some entry)
    (deleted : entry.affinity.deleted = true) (own : memoryKey address = key)
    (addressed : ∀ other now, call.addresses = some (other, now) → memoryKey other = key) :
    ¬ (store.answer call).Live address := by
  intro live
  cases call with
  | bind | bindResource | bindFile | tombstoneResource =>
    obtain ⟨_, _, live⟩ := live_of live
    exact live
  | resolve cancelled scope responseID now =>
    have found := addressed _ _ rfl ▸ found
    obtain ⟨answer, outcome, live⟩ := live_of live
    have outcome := (congrArg Prod.snd (resolve_eq _ _ _ _ _)).symm.trans outcome
    obtain ⟨resource, resolved, rfl⟩ := map_eq_ok.mp outcome
    cases resource with
    | none => exact live
    | some resource =>
      have same := resolveResource_deleted found resolved
      simp only [MemoryStore.live, same, deleted] at live
      exact live
  | resolveResource cancelled other now =>
    have found := addressed _ _ rfl ▸ found
    obtain ⟨resource, outcome, live⟩ := live_of live
    cases resource with
    | none => exact live
    | some resource =>
      have same := resolveResource_deleted found outcome
      simp only [Answer.Live, same, deleted] at live
      cases live
  | listFiles cancelled query clock =>
    obtain ⟨page, outcome, record, inside, rfl⟩ := live_of live
    obtain ⟨listed, among, present, filed⟩ := listFiles_listed outcome inside
    have atKey : listed.1 = key := (indexed.filed filed).1.symm.trans own
    have same := get_of_mem among
    rw [atKey, found] at same
    cases same
    rw [deleted] at present
    cases present

theorem tombstoneChecks_deletedAt {deletedAt expiresAt : Time}
    (accepted : tombstoneChecks cancelled address deletedAt expiresAt = .ok ()) :
    isZero deletedAt = false := by
  obtain ⟨_, _, dated⟩ := bind_eq_ok.mp accepted
  have dated := refuse_eq_ok.mp (mapError_eq_ok.mp dated)
  simp only [Bool.or_eq_false_iff] at dated
  exact dated.1.1

theorem tombstone_buries (found : store.entries.get (memoryKey address) = some entry)
    (cancelled : Bool) (deletedAt expiresAt now : Time) :
    let call := Call.tombstoneResource cancelled address deletedAt expiresAt now
    (store.answer call = .done ↔
      call.checks = .ok () ∧ resourceExpired entry.affinity now = false) ∧
    (store.answer call = .done → ∃ after,
      (store.step call).entries.get (memoryKey address) = some after ∧
      after.affinity.deleted = true ∧
      (entry.affinity.deleted = false → after.affinity.expiresAt = expiresAt)) := by
  intro call
  simp only [call, answer, step, perform, tombstoneResource, Call.checks]
  rcases store.guarded_eq (tombstoneChecks cancelled address deletedAt expiresAt)
      (store.tombstoneLocked address deletedAt expiresAt now) with
    ⟨failure, refused, same⟩ | ⟨accepted, same⟩
  · rw [same]
    simp [refused, Answer.of]
  rw [same, accepted, tombstoneLocked, found]
  dsimp only
  split
  next ended => simp [ended, Answer.of]
  next current =>
    split
    next deleted =>
      refine ⟨by simp [current, Answer.of], fun _ => ⟨entry, found, deleted, ?_⟩⟩
      simp [deleted]
    next =>
      refine ⟨by simp [current, Answer.of], fun _ =>
        ⟨{ entry with affinity := tombstoned entry.affinity deletedAt expiresAt }, ?_, ?_,
          fun _ => rfl⟩⟩
      · exact (get_rewrite _ _ _ _ _).trans (if_pos rfl)
      · simp [ResourceAffinity.deleted, tombstoned, tombstoneChecks_deletedAt accepted]

theorem Indexed.guarded (indexed : Indexed store)
    (found : store.entries.get key = some entry) : store.Guarded key entry where
  own address accepted same := by
    obtain ⟨own, valid⟩ := indexed.keyed found
    exact memoryKey_injective valid accepted (own.trans same.symm)
  conflict call affinity now binds same apart current :=
    binding_refused binds (same ▸ found) current (Or.inr apart)
  expiry call affinity now binds current recent := by
    obtain ⟨after, afterFound, _, lasts⟩ := step_keeps indexed found current recent
    exact ⟨after, afterFound, lasts (by rw [binds]; rfl)⟩
  buried deleted call address own addressed :=
    tombstone_not_live indexed found deleted own addressed
  unbound deleted call affinity now binds same current :=
    binding_refused binds (same ▸ found) current (Or.inl deleted)
  buries cancelled address deletedAt expiresAt now same := by
    subst same
    exact tombstone_buries found cancelled deletedAt expiresAt now

/-! ### The index as a bijection -/

/-- The list holds the map's keys, each once, and each entry points to its own element. -/
def InBijection (store : MemoryStore) : Prop :=
  (store.order.elements.map Prod.snd).Nodup ∧
    (store.order.elements.map Prod.snd).Perm store.entries.keys ∧
    ∀ key entry, store.entries.get key = some entry →
      (entry.element, key) ∈ store.order.elements

theorem Indexed.inBijection (indexed : Indexed store) : store.InBijection := by
  have once : (store.order.elements.map Prod.snd).Nodup := by
    apply (List.nodup_map_iff_inj_on store.order.distinct.of_map).mpr
    intro first firstListed second secondListed same
    obtain ⟨entry, found, element⟩ := indexed.held firstListed
    obtain ⟨entry', found', element'⟩ := indexed.held secondListed
    rw [← same, found] at found'
    cases found'
    exact Prod.ext (element.symm.trans element') same
  refine ⟨once, ?_, fun key entry found => indexed.listed found⟩
  apply (List.perm_ext_iff_of_nodup once store.entries.distinct).mpr
  intro key
  constructor
  · intro listed
    obtain ⟨element, among, rfl⟩ := List.mem_map.mp listed
    obtain ⟨entry, found, _⟩ := indexed.held among
    exact mem_keys.mpr ⟨entry, found⟩
  · intro listed
    obtain ⟨entry, found⟩ := mem_keys.mp listed
    exact List.mem_map.mpr ⟨_, indexed.listed found, rfl⟩

/-- Through every sequence of calls, an affinity changes only by expiry or eviction. -/
theorem affinity_never_silently_changes (maxEntries : Int) (calls : List Call) :
    (run step (newMemoryStore maxEntries) calls).InBijection ∧
    ((run step (newMemoryStore maxEntries) calls).length : Int) ≤
      (newMemoryStore maxEntries).maxEntries ∧
    (∀ key ∈ (run step (newMemoryStore maxEntries) calls).files.keys,
      key ∈ (run step (newMemoryStore maxEntries) calls).entries.keys) ∧
    ∀ key entry, (run step (newMemoryStore maxEntries) calls).entries.get key = some entry →
      ∀ later, (run step (newMemoryStore maxEntries) calls).Undisturbed key later →
        ∃ after, (run step (newMemoryStore maxEntries) (calls ++ later)).entries.get key =
            some after ∧
          Kept entry after ∧
          (run step (newMemoryStore maxEntries) (calls ++ later)).Guarded key after := by
  have initial := Indexed.initial maxEntries
  have indexed := initial.run calls
  refine ⟨indexed.inBijection, run_maxEntries initial calls ▸ indexed.bounded, ?_, ?_⟩
  · intro key filed
    obtain ⟨record, found⟩ := mem_keys.mp filed
    exact mem_keys.mpr (indexed.filed found).2
  · intro key entry found later undisturbed
    rw [run_append]
    obtain ⟨after, afterFound, kept⟩ := run_keeps indexed found undisturbed
    exact ⟨after, afterFound, kept, (indexed.run later).guarded afterFound⟩

def sampleAffinity : ResourceAffinity where
  key := { scope := ascii "team", kind := .file, resourceID := ascii "file-1" }
  route := ⟨ascii "chat", ascii "openai", ascii "main", ascii "gpt"⟩
  boundAt := 1

/-- A durable binding is still there when its resource has been deleted. -/
theorem affinity_never_silently_changes_tombstone :
    (run step (newMemoryStore 1) [.bindResource false sampleAffinity 2]).entries.get
      (memoryKey sampleAffinity.key) = some ⟨sampleAffinity, 0⟩ ∧
    ∃ after, (run step (newMemoryStore 1) [.bindResource false sampleAffinity 2,
        .tombstoneResource false sampleAffinity.key 3 9 4]).entries.get
        (memoryKey sampleAffinity.key) = some after ∧
      after.affinity.deleted = true ∧ Kept ⟨sampleAffinity, 0⟩ after ∧
      (run step (newMemoryStore 1) [.bindResource false sampleAffinity 2,
        .tombstoneResource false sampleAffinity.key 3 9 4]).Guarded
        (memoryKey sampleAffinity.key) after := by
  have found : (run step (newMemoryStore 1) [.bindResource false sampleAffinity 2]).entries.get
      (memoryKey sampleAffinity.key) = some ⟨sampleAffinity, 0⟩ := by decide +kernel
  have buried : (run step (newMemoryStore 1) [.bindResource false sampleAffinity 2,
      .tombstoneResource false sampleAffinity.key 3 9 4]).entries.get
      (memoryKey sampleAffinity.key) = some ⟨tombstoned sampleAffinity 3 9, 0⟩ := by decide +kernel
  have undisturbed : (run step (newMemoryStore 1)
      [.bindResource false sampleAffinity 2]).Undisturbed
      (memoryKey sampleAffinity.key) [.tombstoneResource false sampleAffinity.key 3 9 4] := by
    intro before call rest split entry here
    cases before with
    | cons first before => cases before <;> cases split
    | nil =>
      cases split
      cases found.symm.trans here
      constructor
      · rintro ⟨_, address, now, addressed, _, ended⟩
        cases addressed
        cases ended
      · rintro ⟨_, _, _, affinity, now, binds, _⟩
        cases binds
  obtain ⟨after, afterFound, guarantee⟩ :=
    (affinity_never_silently_changes 1 [.bindResource false sampleAffinity 2]).2.2.2
      (memoryKey sampleAffinity.key) ⟨sampleAffinity, 0⟩ found _ undisturbed
  cases afterFound.symm.trans buried
  exact ⟨found, _, buried, rfl, guarantee⟩

end MemoryStore

end SparkRoute.ResponsesState
