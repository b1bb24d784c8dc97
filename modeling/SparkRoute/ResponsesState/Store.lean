import SparkRoute.Lib.LinkedList
import SparkRoute.Lib.OrderedMap
import SparkRoute.Pii.Session

/-!
# The affinity store in memory

`MemoryStore` keeps which route owns a provider's resource.  Entries expire lazily, the
least recently used one makes room for a new one, and a deleted resource stays as a
tombstone.  Every operation holds the mutex from its first access to the maps on, so a
call is one transition; its clock readings are arguments.  Times are nanoseconds since
the zero time, which is `0`.
-/

namespace SparkRoute.ResponsesState

open Lib Config Pii

abbrev Time := Int

def isZero (time : Time) : Bool := time == 0

/-- `Time.Unix`. -/
def unix (time : Time) : Int := time / 1000000000 - 62135596800

def maxResponseIDBytes : Nat := 512
def maxResourceIDBytes : Nat := 512
def maxScopeBytes : Nat := 128
def maxNameBytes : Nat := 256
def defaultMaxEntries : Int := 100000
def defaultFileListLimit : Int := 100
def maxFileListLimit : Int := 1000
def maxFilenameBytes : Nat := 1024
def maxPurposeBytes : Nat := 256

inductive StoreError where
  | contextDone
  | invalid (message : String)
  | conflict
  | notFound
  | invalidFileCursor (detail : String)
  | nilEntry
  deriving DecidableEq

/-! ### Keys and their validation -/

inductive ResourceKind where
  | response
  | conversation
  | item
  | file
  | prompt
  | unsupported (name : String)
  deriving DecidableEq

def ResourceKind.text : ResourceKind → GoString
  | .response => ascii "response"
  | .conversation => ascii "conversation"
  | .item => ascii "item"
  | .file => ascii "file"
  | .prompt => ascii "prompt"
  | .unsupported name => name.toUTF8.data.toList

structure ResourceKey where
  scope : GoString
  kind : ResourceKind
  resourceID : GoString
  deriving DecidableEq

def memoryKey (key : ResourceKey) : GoString :=
  key.kind.text ++ 0 :: (key.scope ++ 0 :: key.resourceID)

/-- Whitespace and control characters; in valid UTF-8 the bytes below `0x80` are characters. -/
def unprintable (value : GoString) : Bool :=
  value.any fun byte => byte ≤ 0x20 || byte == 0x7F

def validateScope (scope : GoString) : Except String Unit := do
  refuse (scope == [] || !Utf8.valid scope || maxScopeBytes < scope.length)
    s!"scope must be valid UTF-8 and between 1 and {maxScopeBytes} bytes"
  refuse (unprintable scope) "scope must not contain whitespace or control characters"

def validateIdentifier (subject : String) (limit : Nat) (identifier : GoString) :
    Except String Unit := do
  refuse (identifier == []) s!"{subject} is required"
  refuse (!Utf8.valid identifier || limit < identifier.length)
    s!"{subject} must be valid UTF-8 and at most {limit} bytes"
  refuse (unprintable identifier)
    s!"{subject} must not contain whitespace or control characters"

def validateResponseID (responseID : GoString) : Except String Unit :=
  validateIdentifier "response ID" maxResponseIDBytes responseID

def validateResourceID (resourceID : GoString) : Except String Unit :=
  validateIdentifier "resource ID" maxResourceIDBytes resourceID

def validateResourceKind : ResourceKind → Except String Unit
  | .unsupported name => .error ("unsupported resource kind " ++ quoted name)
  | _ => .ok ()

def ResourceKey.validate (key : ResourceKey) : Except String Unit := do
  validateScope key.scope
  validateResourceKind key.kind
  validateResourceID key.resourceID

/-! ### Affinities -/

structure Route where
  virtualModel : GoString
  provider : GoString
  deployment : GoString
  upstreamModel : GoString
  deriving DecidableEq

def validateName (name : String) (value : GoString) : Except String Unit := do
  refuse (trimSpace value == []) s!"{name} is required"
  refuse (!Utf8.valid value || maxNameBytes < value.length)
    s!"{name} must be valid UTF-8 and at most {maxNameBytes} bytes"

/-- The loop over the names; the source visits them in no fixed order. -/
def Route.validate (route : Route) : Except String Unit := do
  validateName "virtual model" route.virtualModel
  validateName "provider" route.provider
  validateName "deployment" route.deployment
  validateName "upstream model" route.upstreamModel

structure ResourceAffinity where
  key : ResourceKey
  route : Route
  boundAt : Time
  deletedAt : Time := 0
  expiresAt : Time := 0
  deriving DecidableEq

def ResourceAffinity.validate (affinity : ResourceAffinity) : Except String Unit := do
  affinity.key.validate
  affinity.route.validate
  refuse (isZero affinity.boundAt) "bound time is required"
  refuse (!isZero affinity.expiresAt && affinity.expiresAt ≤ affinity.boundAt)
    "expiry must be after bound time"
  refuse (!isZero affinity.deletedAt && affinity.deletedAt < affinity.boundAt)
    "deleted time must not be before bound time"
  refuse (!isZero affinity.deletedAt &&
      (isZero affinity.expiresAt || affinity.expiresAt ≤ affinity.deletedAt))
    "deleted resource expiry must be after deleted time"

def ResourceAffinity.deleted (affinity : ResourceAffinity) : Bool :=
  !isZero affinity.deletedAt

structure Affinity where
  scope : GoString
  responseID : GoString
  route : Route
  boundAt : Time
  expiresAt : Time
  deriving DecidableEq

def Affinity.validate (affinity : Affinity) : Except String Unit := do
  validateScope affinity.scope
  validateResponseID affinity.responseID
  affinity.route.validate
  refuse (isZero affinity.boundAt) "bound time is required"
  refuse (isZero affinity.expiresAt || affinity.expiresAt ≤ affinity.boundAt)
    "expiry must be after bound time"

def responseKey (scope responseID : GoString) : ResourceKey :=
  { scope, kind := .response, resourceID := responseID }

def Affinity.resource (affinity : Affinity) : ResourceAffinity where
  key := responseKey affinity.scope affinity.responseID
  route := affinity.route
  boundAt := affinity.boundAt
  expiresAt := affinity.expiresAt

def ResourceAffinity.response (resource : ResourceAffinity) : Affinity where
  scope := resource.key.scope
  responseID := resource.key.resourceID
  route := resource.route
  boundAt := resource.boundAt
  expiresAt := resource.expiresAt

def sameResourceRoute (left right : ResourceAffinity) : Bool :=
  left.key == right.key && left.route == right.route

def mergeResourceExpiry (left right : Time) : Time :=
  if isZero left || isZero right then 0
  else if left < right then right
  else left

def resourceExpired (affinity : ResourceAffinity) (now : Time) : Bool :=
  !isZero affinity.expiresAt && affinity.expiresAt ≤ now

/-! ### File records -/

structure FileRecord where
  scope : GoString
  id : GoString
  object : GoString
  bytes : Int
  createdAt : Int
  expiresAt : Int
  filename : GoString
  purpose : GoString
  deriving DecidableEq

def validateFileString (name : String) (value : GoString) (maxBytes : Nat) :
    Except String Unit := do
  refuse (!Utf8.valid value || maxBytes < value.length)
    s!"{name} must be valid UTF-8 and at most {maxBytes} bytes"
  refuse (value.contains 0) s!"{name} must not contain NUL"

def FileRecord.validate (record : FileRecord) : Except String Unit := do
  validateScope record.scope
  validateResourceID record.id
  refuse (record.object ≠ ascii "file") "file object must be \"file\""
  refuse (record.bytes < 0) "file bytes must not be negative"
  refuse (record.createdAt < 0) "file creation time must not be negative"
  refuse (record.expiresAt ≠ 0 && record.expiresAt ≤ record.createdAt)
    "file expiry must be after creation time"
  validateFileString "filename" record.filename maxFilenameBytes
  validateFileString "purpose" record.purpose maxPurposeBytes

inductive FileOrder where
  | unset
  | ascending
  | descending
  | other (name : String)
  deriving DecidableEq

structure FileQuery where
  scope : GoString
  purpose : GoString
  limit : Int
  order : FileOrder
  after : GoString

structure FilePage where
  records : List FileRecord
  hasMore : Bool

def fileOrder : FileOrder → Except StoreError FileOrder
  | .unset => .ok .descending
  | .ascending => .ok .ascending
  | .descending => .ok .descending
  | .other _ => .error (.invalid "file list order must be asc or desc")

def normalizeFileQuery (query : FileQuery) : Except StoreError FileQuery := do
  (validateScope query.scope).mapError .invalid
  (validateFileString "purpose" query.purpose maxPurposeBytes).mapError .invalid
  let limit := if query.limit = 0 then defaultFileListLimit else query.limit
  (refuse (limit < 1 || maxFileListLimit < limit)
    s!"file list limit must be between 1 and {maxFileListLimit}").mapError .invalid
  let order ← fileOrder query.order
  if query.after ≠ [] then (validateResourceID query.after).mapError .invalidFileCursor
  .ok { query with limit, order }

def fileBefore (left right : FileRecord) (order : FileOrder) : Bool :=
  if left.createdAt = right.createdAt then
    if order = .ascending then left.id < right.id else right.id < left.id
  else if order = .ascending then left.createdAt < right.createdAt
  else right.createdAt < left.createdAt

def fileAfter (record cursor : FileRecord) (order : FileOrder) : Bool :=
  fileBefore cursor record order

/-! ### The store -/

structure MemoryEntry where
  affinity : ResourceAffinity
  element : Nat
  deriving DecidableEq

structure MemoryStore where
  entries : OrderedMap GoString MemoryEntry
  files : OrderedMap GoString FileRecord
  order : LinkedList GoString
  maxEntries : Int

def newMemoryStore (maxEntries : Int) : MemoryStore where
  entries := .empty
  files := .empty
  order := .empty
  maxEntries := if maxEntries ≤ 0 then defaultMaxEntries else maxEntries

def contextErr (cancelled : Bool) : Except StoreError Unit :=
  if cancelled then .error .contextDone else .ok ()

namespace MemoryStore

/-- `len(s.entries)`. -/
def length (store : MemoryStore) : Nat := store.entries.entries.length

def remove (store : MemoryStore) (entry : MemoryEntry) : MemoryStore :=
  { store with
    entries := store.entries.erase (memoryKey entry.affinity.key)
    files := store.files.erase (memoryKey entry.affinity.key)
    order := store.order.remove entry.element }

variable (store : MemoryStore)

/-- `MoveToBack` on the element of an entry. -/
def touch (entry : MemoryEntry) : MemoryStore :=
  { store with order := store.order.moveToBack entry.element }

/-- A write through the pointer to the entry at `key`. -/
def rewrite (key : GoString) (entry : MemoryEntry)
    (affinity : ResourceAffinity) : MemoryStore :=
  { store with entries := store.entries.insert key { entry with affinity } }

/-- The loop that makes room, at most `rounds` times. -/
def evict : Nat → MemoryStore → Except StoreError MemoryStore
  | 0, store => .ok store
  | rounds + 1, store =>
    if store.maxEntries ≤ store.length then
      match store.order.front with
      | none => .ok store
      | some front =>
        match store.entries.get front.2 with
        | none => .error .nilEntry
        | some entry => evict rounds (store.remove entry)
    else .ok store

/-- `PushBack` and the new map entry. -/
def push (affinity : ResourceAffinity) : MemoryStore :=
  { store with
    order := store.order.pushBack (memoryKey affinity.key)
    entries := store.entries.insert (memoryKey affinity.key)
      { affinity, element := store.order.fresh } }

def insertNew (affinity : ResourceAffinity) :
    MemoryStore × Except StoreError Unit :=
  match evict store.order.elements.length store with
  | .error failure => (store, .error failure)
  | .ok room => (room.push affinity, .ok ())

def extended (existing affinity : ResourceAffinity) : ResourceAffinity :=
  { existing with expiresAt := mergeResourceExpiry existing.expiresAt affinity.expiresAt }

def bindResourceLocked (affinity : ResourceAffinity) (now : Time) :
    MemoryStore × Except StoreError Unit :=
  match store.entries.get (memoryKey affinity.key) with
  | none => store.insertNew affinity
  | some existing =>
    if resourceExpired existing.affinity now then (store.remove existing).insertNew affinity
    else if existing.affinity.deleted then (store, .error .conflict)
    else if sameResourceRoute existing.affinity affinity then
      ((store.rewrite (memoryKey affinity.key) existing
        (extended existing.affinity affinity)).touch existing, .ok ())
    else (store, .error .conflict)

/-- The checks before the lock; a failed one answers with the store as it is. -/
def guarded {Answer : Type} (store : MemoryStore) (checks : Except StoreError Unit)
    (locked : MemoryStore × Except StoreError Answer) : MemoryStore × Except StoreError Answer :=
  match checks with
  | .error failure => (store, .error failure)
  | .ok () => locked

end MemoryStore

variable (cancelled : Bool)

def resourceChecks (affinity : ResourceAffinity) :
    Except StoreError Unit := do
  contextErr cancelled
  affinity.validate.mapError .invalid

def bindChecks (affinity : Affinity) : Except StoreError Unit := do
  affinity.validate.mapError .invalid
  resourceChecks cancelled affinity.resource

def keyChecks (key : ResourceKey) : Except StoreError Unit := do
  contextErr cancelled
  key.validate.mapError .invalid

def tombstoneChecks (key : ResourceKey) (deletedAt expiresAt : Time) :
    Except StoreError Unit := do
  keyChecks cancelled key
  (refuse (isZero deletedAt || isZero expiresAt || expiresAt ≤ deletedAt)
    "tombstone expiry must be after deleted time").mapError .invalid

def fileChecks (affinity : ResourceAffinity) (record : FileRecord) :
    Except StoreError Unit := do
  resourceChecks cancelled affinity
  (refuse (affinity.key.kind ≠ .file)
    "file affinity must use resource kind \"file\"").mapError .invalid
  record.validate.mapError .invalid
  (refuse (record.scope ≠ affinity.key.scope || record.id ≠ affinity.key.resourceID)
    "file metadata does not match routing affinity").mapError .invalid

namespace MemoryStore

variable (store : MemoryStore)

variable (cancelled : Bool)

variable (affinity : ResourceAffinity)

def bindResource
    (now : Time) : MemoryStore × Except StoreError Unit :=
  store.guarded (resourceChecks cancelled affinity) (store.bindResourceLocked affinity now)

def bind (affinity : Affinity) (now : Time) :
    MemoryStore × Except StoreError Unit :=
  store.guarded (bindChecks cancelled affinity)
    (store.bindResourceLocked affinity.resource now)

def resolveLocked (key : ResourceKey) (now : Time) :
    MemoryStore × Except StoreError (Option ResourceAffinity) :=
  match store.entries.get (memoryKey key) with
  | none => (store, .ok none)
  | some entry =>
    if resourceExpired entry.affinity now then (store.remove entry, .ok none)
    else (store.touch entry, .ok (some entry.affinity))

def resolveResource (key : ResourceKey)
    (now : Time) : MemoryStore × Except StoreError (Option ResourceAffinity) :=
  store.guarded (keyChecks cancelled key) (store.resolveLocked key now)

/-- What `Resolve` makes of a resource. -/
def live : Option ResourceAffinity → Option Affinity
  | none => none
  | some resource => if resource.deleted then none else some resource.response

def resolve (scope responseID : GoString)
    (now : Time) : MemoryStore × Except StoreError (Option Affinity) :=
  match store.resolveResource cancelled (responseKey scope responseID) now with
  | (after, .error failure) => (after, .error failure)
  | (after, .ok found) => (after, .ok (live found))

def tombstoned (deletedAt expiresAt : Time) : ResourceAffinity :=
  { affinity with deletedAt, expiresAt }

def tombstoneLocked (key : ResourceKey)
    (deletedAt expiresAt now : Time) : MemoryStore × Except StoreError Unit :=
  match store.entries.get (memoryKey key) with
  | none => (store, .error .notFound)
  | some entry =>
    if resourceExpired entry.affinity now then (store.remove entry, .error .notFound)
    else if entry.affinity.deleted then (store.touch entry, .ok ())
    else ((store.rewrite (memoryKey key) entry
      (tombstoned entry.affinity deletedAt expiresAt)).touch entry, .ok ())

def tombstoneResource (key : ResourceKey)
    (deletedAt expiresAt now : Time) : MemoryStore × Except StoreError Unit :=
  store.guarded (tombstoneChecks cancelled key deletedAt expiresAt)
    (store.tombstoneLocked key deletedAt expiresAt now)

/-- `s.files[key] = record`. -/
def record (key : GoString) (file : FileRecord) : MemoryStore :=
  { store with files := store.files.insert key file }

/-- The file index holds another record under the key. -/
def otherRecord (key : GoString) (file : FileRecord) : Bool :=
  match store.files.get key with
  | none => false
  | some existing => existing ≠ file

def bindFileLocked (file : FileRecord)
    (now : Time) : MemoryStore × Except StoreError Unit :=
  if store.otherRecord (memoryKey affinity.key) file then (store, .error .conflict)
  else
    match store.bindResourceLocked affinity now with
    | (after, .error failure) => (after, .error failure)
    | (after, .ok ()) => (after.record (memoryKey affinity.key) file, .ok ())

def bindFile
    (file : FileRecord) (now : Time) : MemoryStore × Except StoreError Unit :=
  store.guarded (fileChecks cancelled affinity file) (store.bindFileLocked affinity file now)

def fileCursor (query : FileQuery) : Except StoreError (Option FileRecord) :=
  if query.after = [] then .ok none
  else
    match store.files.get
      (memoryKey { scope := query.scope, kind := .file, resourceID := query.after }) with
    | none => .error (.invalidFileCursor "")
    | some cursor =>
      if query.purpose ≠ [] ∧ cursor.purpose ≠ query.purpose then
        .error (.invalidFileCursor "")
      else .ok (some cursor)

/-- The record an entry contributes to a page; the clock is read twice. -/
def listed (query : FileQuery) (cursor : Option FileRecord)
    (now later : Time) (entry : GoString × MemoryEntry) : Option FileRecord :=
  let affinity := entry.2.affinity
  if affinity.key.scope ≠ query.scope || affinity.key.kind ≠ .file || affinity.deleted ||
      resourceExpired affinity now then none
  else
    match store.files.get entry.1 with
    | none => none
    | some file =>
      if query.purpose ≠ [] && file.purpose ≠ query.purpose then none
      else if file.expiresAt ≠ 0 && file.expiresAt ≤ unix later then none
      else if cursor.any fun cursor => !fileAfter file cursor query.order then none
      else some file

def listFiles (query : FileQuery)
    (clock : Nat → Time) : Except StoreError FilePage := do
  contextErr cancelled
  let query ← normalizeFileQuery query
  let cursor ← store.fileCursor query
  let found := store.entries.entries.zipIdx.filterMap fun (entry, index) =>
    store.listed query cursor (clock (2 * index)) (clock (2 * index + 1)) entry
  let records := found.mergeSort fun left right => !fileBefore right left query.order
  if query.limit < records.length then
    .ok { records := records.take query.limit.toNat, hasMore := true }
  else .ok { records, hasMore := false }

end MemoryStore

/-! ### Calls -/

inductive Call where
  | bind (cancelled : Bool) (affinity : Affinity) (now : Time)
  | bindResource (cancelled : Bool) (affinity : ResourceAffinity) (now : Time)
  | bindFile (cancelled : Bool) (affinity : ResourceAffinity) (file : FileRecord)
      (now : Time)
  | resolve (cancelled : Bool) (scope responseID : GoString) (now : Time)
  | resolveResource (cancelled : Bool) (key : ResourceKey) (now : Time)
  | tombstoneResource (cancelled : Bool) (key : ResourceKey)
      (deletedAt expiresAt now : Time)
  | listFiles (cancelled : Bool) (query : FileQuery) (clock : Nat → Time)

inductive Answer where
  | done
  | found (resource : Option ResourceAffinity)
  | resolved (affinity : Option Affinity)
  | page (files : FilePage)
  | failed (failure : StoreError)

def Answer.of {Value : Type} (succeeded : Value → Answer) : Except StoreError Value → Answer
  | .ok value => succeeded value
  | .error failure => .failed failure

namespace MemoryStore

def perform (store : MemoryStore) : Call → MemoryStore × Answer
  | .bind cancelled affinity now =>
    (store.bind cancelled affinity now).map id (Answer.of fun _ => .done)
  | .bindResource cancelled affinity now =>
    (store.bindResource cancelled affinity now).map id (Answer.of fun _ => .done)
  | .bindFile cancelled affinity file now =>
    (store.bindFile cancelled affinity file now).map id (Answer.of fun _ => .done)
  | .resolve cancelled scope responseID now =>
    (store.resolve cancelled scope responseID now).map id (Answer.of .resolved)
  | .resolveResource cancelled key now =>
    (store.resolveResource cancelled key now).map id (Answer.of .found)
  | .tombstoneResource cancelled key deletedAt expiresAt now =>
    (store.tombstoneResource cancelled key deletedAt expiresAt now).map id
      (Answer.of fun _ => .done)
  | .listFiles cancelled query clock =>
    (store, Answer.of .page (store.listFiles cancelled query clock))

def step (store : MemoryStore) (call : Call) : MemoryStore := (store.perform call).1

def answer (store : MemoryStore) (call : Call) : Answer := (store.perform call).2

end MemoryStore

end SparkRoute.ResponsesState
