import SparkRoute.Registry.Memory

/-!
# Fencing tokens along histories

`Register` compares a token only with the stored registration, and `Remove` deletes
that together with its token.  A registration is therefore fenced against the ones
accepted since its identifier was last removed, not against all earlier ones.
-/

namespace SparkRoute.Registry

open Lib List

inductive Call where
  | register (cause : Option String) (endpoint : Endpoint)
  | remove (cause : Option String) (id : GoString)
  | ready (cause : Option String) (now : Int) (target : GoString)
  | list (cause : Option String) (query : Query)

inductive Event where
  | accepted (endpoint : Endpoint)
  | removed (id : GoString)
  deriving DecidableEq

/-- The registry and the changes that led to it, the newest first. -/
structure History where
  memory : Memory := newMemory
  events : List Event := []

/-- Each call holds the mutex while it reads or writes the map, so it is one step. -/
def History.call (parseURL : GoString → Option ParsedURL) (history : History) : Call → History
  | .register cause endpoint =>
    match history.memory.register parseURL cause endpoint with
    | .ok updated => ⟨updated, .accepted endpoint.stored :: history.events⟩
    | .error _ => history
  | .remove cause id =>
    match history.memory.remove cause id with
    | .ok updated => ⟨updated, .removed id :: history.events⟩
    | .error _ => history
  | .ready _ _ _ | .list _ _ => history

def History.after (parseURL : GoString → Option ParsedURL) (calls : List Call) : History :=
  run (History.call parseURL) {} calls

def acceptedFor (id : GoString) (events : List Event) : List Endpoint :=
  events.filterMap fun
    | .accepted endpoint => if endpoint.id = id then some endpoint else none
    | .removed _ => none

/-- The registrations that were accepted since the last removal. -/
def standingFor (id : GoString) (events : List Event) : List Endpoint :=
  acceptedFor id (events.takeWhile fun event => event ≠ .removed id)

/-- A larger token was accepted before the last removal, and none since. -/
def History.Forgot (history : History) (endpoint : Endpoint) : Prop :=
  (∃ newer ∈ acceptedFor endpoint.id history.events,
    endpoint.fencingToken < newer.fencingToken) ∧
  ∀ standing ∈ standingFor endpoint.id history.events,
    standing.fencingToken ≤ endpoint.fencingToken

section

variable (id : GoString) (events : List Event)

@[simp]
theorem standingFor_accepted (endpoint : Endpoint) :
    standingFor id (.accepted endpoint :: events) =
      if endpoint.id = id then endpoint :: standingFor id events else standingFor id events := by
  by_cases same : endpoint.id = id <;> simp [standingFor, acceptedFor, same]

@[simp]
theorem standingFor_removed (other : GoString) : standingFor id (.removed other :: events) =
    if other = id then [] else standingFor id events := by
  by_cases same : other = id <;> simp [standingFor, acceptedFor, same]

theorem standingFor_isPrefix : standingFor id events <+: acceptedFor id events := by
  apply IsPrefix.filterMap
  exact takeWhile_prefix _

end

namespace Memory

variable (memory : Memory)

@[simp]
theorem find_delete (id other : GoString) :
    (memory.delete id).find other = if id = other then none else memory.find other := by
  by_cases same : id = other
  · simp [find, delete, same, find?_filter]
  · simp only [find, delete, find?_filter, if_neg same]
    congr 1
    grind

@[simp]
theorem find_set (endpoint : Endpoint) (other : GoString) : (memory.set endpoint).find other =
    if endpoint.id = other then some endpoint else memory.find other := by
  have kept := memory.find_delete endpoint.id other
  unfold find at kept ⊢
  simp only [set, find?_append, kept]
  by_cases same : endpoint.id = other <;> simp [same]

end Memory

/-! ### What the registry remembers -/

structure History.Kept (history : History) : Prop where
  found : ∀ id, history.memory.find id = (standingFor id history.events).head?
  ascending : ∀ id, (standingFor id history.events).Pairwise
    fun later earlier => earlier.fencingToken ≤ later.fencingToken

variable {history : History} {parseURL : GoString → Option ParsedURL}

theorem History.Kept.bounded_iff (kept : history.Kept) (id : GoString) (token : Int) :
    (∀ current, history.memory.find id = some current → current.fencingToken ≤ token) ↔
      ∀ standing ∈ standingFor id history.events, standing.fencingToken ≤ token := by
  have ascending := kept.ascending id
  rw [kept.found id]
  cases standings : standingFor id history.events with
  | nil => simp
  | cons current earlier =>
    rw [standings] at ascending
    have below := (pairwise_cons.mp ascending).1
    simp only [head?_cons, Option.some.injEq, forall_eq', mem_cons, forall_eq_or_imp]
    refine ⟨fun bound => ⟨bound, fun other listed => ?_⟩, And.left⟩
    exact (below other listed).trans bound

theorem History.Kept.call (kept : history.Kept) (request : Call) :
    (history.call parseURL request).Kept := by
  fun_cases History.call parseURL history request with
  | case1 cause endpoint updated accepted =>
    obtain ⟨_, _, fenced, written⟩ := Memory.register_eq_ok.mp accepted
    obtain ⟨id, token⟩ := endpoint.stored_same
    subst written
    constructor
    · intro other
      simp only [Memory.find_set, standingFor_accepted, kept.found other]
      split <;> rfl
    · intro other
      rw [standingFor_accepted]
      split
      · next same =>
        refine pairwise_cons.mpr ⟨?_, kept.ascending other⟩
        rw [token, ← same, id]
        exact (kept.bounded_iff endpoint.id _).mp fenced
      · exact kept.ascending other
  | case3 cause removed updated accepted =>
    obtain rfl : history.memory.delete removed = updated := by
      cases cause with
      | none => exact Except.ok.inj accepted
      | some reason => cases accepted
    constructor
    · intro other
      simp only [Memory.find_delete, standingFor_removed, kept.found other]
      split <;> rfl
    · intro other
      rw [standingFor_removed]
      split
      · exact Pairwise.nil
      · exact kept.ascending other
  | _ => exact kept

theorem History.after_kept (calls : List Call) : (History.after parseURL calls).Kept :=
  run_invariant ⟨fun _ => rfl, fun _ => Pairwise.nil⟩ (fun _ _ kept => kept.call _) calls

theorem History.Kept.accepts_iff (kept : history.Kept) (endpoint : Endpoint) :
    (∃ cause updated, history.memory.register parseURL cause endpoint = .ok updated) ↔
      endpoint.validate parseURL = .ok () ∧
        ∀ standing ∈ standingFor endpoint.id history.events,
          standing.fencingToken ≤ endpoint.fencingToken := by
  simp only [Memory.register_eq_ok, kept.bounded_iff]
  simp

theorem History.Kept.ready (kept : history.Kept) {cause : Option String} {now : Int}
    {target : GoString} {listed : List Endpoint}
    (answered : history.memory.ready cause now target = .ok listed) :
    ∀ endpoint ∈ listed, endpoint.readyFor now target = true ∧
      (acceptedFor endpoint.id history.events).head? = some endpoint := by
  intro endpoint mem
  cases cause with
  | some reason => cases answered
  | none =>
    cases answered
    obtain ⟨stored, serves⟩ := mem_filter.mp ((sortByKey_perm _ _).mem_iff.mp mem)
    refine ⟨serves, ?_⟩
    have found : history.memory.find endpoint.id = some endpoint :=
      find?_key history.memory.distinct stored
    rw [kept.found] at found
    obtain ⟨earlier, split⟩ := standingFor_isPrefix endpoint.id history.events
    rw [← split, head?_append, found]
    rfl

/-- A registration with a smaller token than an earlier one is accepted exactly when a
removal in between has made the registry forget the larger token. -/
theorem tokens_ascend_iff (parseURL : GoString → Option ParsedURL) (calls : List Call)
    (endpoint : Endpoint) :
    (((∃ cause updated,
        (History.after parseURL calls).memory.register parseURL cause endpoint = .ok updated) →
      ∀ earlier ∈ acceptedFor endpoint.id (History.after parseURL calls).events,
        earlier.fencingToken ≤ endpoint.fencingToken) ↔
      ¬ (endpoint.validate parseURL = .ok () ∧
        (History.after parseURL calls).Forgot endpoint)) ∧
    ∀ cause now target listed,
      (History.after parseURL calls).memory.ready cause now target = .ok listed →
      ∀ serving ∈ listed, serving.readyFor now target = true ∧
        (acceptedFor serving.id (History.after parseURL calls).events).head? = some serving := by
  have kept := @History.after_kept parseURL calls
  refine ⟨?_, fun _ _ _ _ answered => kept.ready answered⟩
  rw [kept.accepts_iff]
  constructor
  · rintro bounded ⟨valid, ⟨newer, listed, larger⟩, standing⟩
    exact absurd (bounded ⟨valid, standing⟩ newer listed) (Int.not_le.mpr larger)
  · intro remembered ⟨valid, standing⟩ earlier listed
    by_contra larger
    exact remembered ⟨valid, ⟨earlier, listed, Int.not_le.mp larger⟩, standing⟩

def fencedEndpoint (token : Int) : Endpoint where
  id := ascii "e"
  target := ascii "t"
  baseURL := ascii "http://h"
  controller := ascii "c"
  bindingRevision := ascii "r"
  fencingToken := token
  state := .ready

def parseSample (text : GoString) : Option ParsedURL :=
  if text = ascii "http://h" then some ⟨ascii "http", ascii "h", false, [], []⟩ else none

/-- The owner with token 1 makes the endpoint ready after the owner with token 2 withdrew it. -/
theorem superseded_owner_ready :
    let history := History.after parseSample [.register none (fencedEndpoint 2),
      .remove none (ascii "e"), .register none (fencedEndpoint 1)]
    acceptedFor (ascii "e") history.events = [fencedEndpoint 1, fencedEndpoint 2] ∧
      (history.memory.ready none 0 (ascii "t")).toOption = some [fencedEndpoint 1] := by
  decide +kernel

/-- `Ready` lists the newest standing registration of every identifier that serves the target. -/
theorem ready_exact (parseURL : GoString → Option ParsedURL) (calls : List Call) (now : Int)
    (target : GoString) :
    let history := History.after parseURL calls
    ∃ listed, history.memory.ready none now target = .ok listed ∧
      (listed.Pairwise fun first second => first.id ≤ second.id) ∧
      ∀ endpoint, endpoint ∈ listed ↔ endpoint.readyFor now target = true ∧
        (standingFor endpoint.id history.events).head? = some endpoint := by
  intro history
  refine ⟨_, rfl, sortByKey_sorted _ _, fun endpoint => ?_⟩
  rw [← (History.after_kept calls).found, (sortByKey_perm _ _).mem_iff, mem_filter, and_comm]
  refine and_congr_right fun _ => ⟨find?_key history.memory.distinct, ?_⟩
  exact mem_of_find?_eq_some

end SparkRoute.Registry
