import SparkRoute.Lib.Run
import SparkRoute.Lib.StableSort
import SparkRoute.Registry.Cursor
import SparkRoute.Registry.Endpoint

/-!
# The in-memory registry

Registrations are kept by identifier.  `List` returns one page of those that match a
query, in the order of their identifiers; `inventory` is all of them.
-/

namespace SparkRoute.Registry

open Lib List
open Config (refuse refuse_eq_ok)

def defaultPageSize : Int := 100

def maxPageSize : Int := 500

/-- The map from identifiers to registrations, as the list of its values. -/
structure Memory where
  endpoints : List Endpoint
  distinct : (endpoints.map Endpoint.id).Nodup

def newMemory : Memory where
  endpoints := []
  distinct := nodup_nil

def Memory.find (memory : Memory) (id : GoString) : Option Endpoint :=
  memory.endpoints.find? fun endpoint => endpoint.id = id

def Memory.delete (memory : Memory) (id : GoString) : Memory where
  endpoints := memory.endpoints.filter fun endpoint => endpoint.id ≠ id
  distinct := memory.distinct.sublist (filter_sublist.map Endpoint.id)

def Memory.set (memory : Memory) (endpoint : Endpoint) : Memory where
  endpoints := (memory.delete endpoint.id).endpoints ++ [endpoint]
  distinct := by
    rw [map_append]
    apply List.Nodup.append (memory.delete endpoint.id).distinct (nodup_singleton _)
    intro id kept added
    rw [mem_singleton.mp added] at kept
    obtain ⟨stored, kept, same⟩ := mem_map.mp kept
    exact of_decide_eq_true (mem_filter.mp kept).2 same

/-- An unset state is stored as unknown. -/
def Endpoint.stored (endpoint : Endpoint) : Endpoint :=
  if endpoint.state = .unset then { endpoint with state := .unknown } else endpoint

/-- `cause` is what `ctx.Err` returns. -/
def Memory.register (parseURL : GoString → Option ParsedURL) (memory : Memory)
    (cause : Option String) (endpoint : Endpoint) : Except String Memory :=
  match cause with
  | some reason => .error reason
  | none => do
    endpoint.validate parseURL
    let endpoint := endpoint.stored
    match memory.find endpoint.id with
    | some current => do
      refuse (endpoint.fencingToken < current.fencingToken)
        "endpoint registration has a stale fencing token"
      .ok (memory.set endpoint)
    | none => .ok (memory.set endpoint)

def Memory.remove (memory : Memory) (cause : Option String) (id : GoString) :
    Except String Memory :=
  match cause with
  | some reason => .error reason
  | none => .ok (memory.delete id)

def Endpoint.readyFor (endpoint : Endpoint) (now : Int) (target : GoString) : Bool :=
  endpoint.target = target && endpoint.state = .ready &&
    endpoint.expiresAt.all fun expires => now < expires

def Memory.ready (memory : Memory) (cause : Option String) (now : Int) (target : GoString) :
    Except String (List Endpoint) :=
  match cause with
  | some reason => .error reason
  | none =>
    .ok (sortByKey Endpoint.id
      (memory.endpoints.filter fun endpoint => endpoint.readyFor now target))

structure Query where
  target : GoString := []
  controller : GoString := []
  state : State := .unset
  limit : Int := 0
  cursor : GoString := []

structure Page where
  endpoints : List Endpoint
  nextCursor : GoString := []

def Query.texts (query : Query) : List (String × GoString) :=
  [("target", query.target), ("controller", query.controller)]

def Query.validateFilter (query : Query) : Except String Unit := do
  query.texts.forM fun (name, value) =>
    refuse (1024 < value.length) ("endpoint query " ++ name ++ " exceeds 1024 bytes")
  if query.state ≠ .unset then validateState query.state else .ok ()

def Query.pageSize (query : Query) : Except String Int :=
  if query.limit < 0 then .error "endpoint page limit must not be negative"
  else if query.limit = 0 then .ok defaultPageSize
  else if maxPageSize < query.limit then .error "endpoint page limit exceeds 500"
  else .ok query.limit

def validateQuery (query : Query) : Except String (Query × GoString) := do
  query.validateFilter
  let limit ← query.pageSize
  if query.cursor ≠ [] then
    let afterID ← decodeCursor query.cursor
    .ok ({ query with limit }, afterID)
  else .ok ({ query with limit }, [])

def Query.selects (query : Query) (endpoint : Endpoint) : Bool :=
  !(query.target ≠ [] && endpoint.target ≠ query.target ||
    query.controller ≠ [] && endpoint.controller ≠ query.controller ||
    query.state ≠ .unset && endpoint.state ≠ query.state)

def Memory.inventory (memory : Memory) (query : Query) : List Endpoint :=
  sortByKey Endpoint.id (memory.endpoints.filter query.selects)

/-- `sort.Search` for the first identifier after `afterID`. -/
def after (afterID : GoString) (endpoints : List Endpoint) : List Endpoint :=
  if afterID ≠ [] then endpoints.dropWhile fun endpoint => !decide (afterID < endpoint.id)
  else endpoints

def Memory.list (memory : Memory) (cause : Option String) (query : Query) : Except String Page :=
  match cause with
  | some reason => .error reason
  | none => do
    let (query, afterID) ← validateQuery query
    let endpoints := after afterID (memory.inventory query)
    if query.limit < endpoints.length then
      let endpoints := endpoints.take query.limit.toNat
      .ok {
        endpoints
        nextCursor := encodeCursor ((endpoints.getLast?.map Endpoint.id).getD []) }
    else .ok { endpoints }

/-! ### Reachable registries -/

/-- Calls that fail leave the registry as it is. -/
def Memory.step (parseURL : GoString → Option ParsedURL) (memory : Memory)
    (call : Option String × Endpoint) : Memory :=
  match memory.register parseURL call.1 call.2 with
  | .ok updated => updated
  | .error _ => memory

/-- The registry after any sequence of `Register` calls. -/
def Memory.registered (parseURL : GoString → Option ParsedURL)
    (calls : List (Option String × Endpoint)) : Memory :=
  run (Memory.step parseURL) newMemory calls

def Memory.Identified (memory : Memory) : Prop :=
  ∀ endpoint ∈ memory.endpoints, endpoint.id ≠ [] ∧ endpoint.id.length ≤ 1024

variable {memory : Memory} {endpoint : Endpoint}

theorem Endpoint.stored_same (endpoint : Endpoint) :
    endpoint.stored.id = endpoint.id ∧ endpoint.stored.fencingToken = endpoint.fencingToken := by
  unfold stored
  split <;> exact ⟨rfl, rfl⟩

theorem Memory.register_eq_ok {parseURL : GoString → Option ParsedURL} {updated : Memory}
    {cause : Option String} : memory.register parseURL cause endpoint = .ok updated ↔
      cause = none ∧ endpoint.validate parseURL = .ok () ∧
      (∀ current, memory.find endpoint.id = some current →
        current.fencingToken ≤ endpoint.fencingToken) ∧
      memory.set endpoint.stored = updated := by
  obtain ⟨id, token⟩ := endpoint.stored_same
  cases cause with
  | some reason => simp [register]
  | none =>
    simp only [register, bind_eq_ok, id, token]
    cases memory.find endpoint.id <;> simp [bind_eq_ok, refuse_eq_ok, Unique.exists_iff]

theorem Memory.registered_identified (parseURL : GoString → Option ParsedURL)
    (calls : List (Option String × Endpoint)) : (Memory.registered parseURL calls).Identified := by
  apply run_invariant
  · intro endpoint mem
    cases mem
  · intro memory call identified
    unfold Memory.step
    cases outcome : memory.register parseURL call.1 call.2 with
    | error reason => exact identified
    | ok updated =>
      obtain ⟨_, valid, _, written⟩ := Memory.register_eq_ok.mp outcome
      obtain ⟨⟨⟩, fields, _⟩ := bind_eq_ok.mp valid
      have named := validateEndpoint_identified fields
      rw [← written]
      refine forall_mem_append.mpr ⟨fun stored kept => identified stored (mem_filter.mp kept).1,
        forall_mem_singleton.mpr ?_⟩
      rw [call.2.stored_same.1]
      exact named

/-! ### The inventory -/

theorem Memory.mem_inventory {query : Query} :
    endpoint ∈ memory.inventory query ↔
      endpoint ∈ memory.endpoints ∧ query.selects endpoint = true :=
  (sortByKey_perm _ _).mem_iff.trans mem_filter

theorem Memory.inventory_ascending (memory : Memory) (query : Query) :
    (memory.inventory query).Pairwise fun first second => first.id < second.id := by
  have distinct : (memory.endpoints.filter query.selects).Pairwise
      fun first second => first.id ≠ second.id := by
    have whole : memory.endpoints.Pairwise fun first second => first.id ≠ second.id :=
      pairwise_map.mp memory.distinct
    exact whole.filter _
  apply (sortByKey_refines Endpoint.id distinct).imp
  intro first second ordered
  rcases ordered with below | ⟨same, different⟩
  · exact below
  · exact absurd same different

end SparkRoute.Registry
