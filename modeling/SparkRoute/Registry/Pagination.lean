import SparkRoute.Lib.Pages
import SparkRoute.Registry.Memory

/-!
# Walking the inventory

`Memory.walk` follows the cursors that `List` returns.  It is complete exactly if the
decoder takes the cursor of every identifier that ends a page, and the identifier it
reads there parts the inventory as the original does.
-/

namespace SparkRoute.Registry

open Lib List Memory

/-- Lists page after page until one has no cursor; `none` when a call fails. -/
def Memory.walk (memory : Memory) (query : Query) : Nat → GoString → Option (List Endpoint)
  | 0, _ => none
  | fuel + 1, cursor =>
    match memory.list none { query with cursor } with
    | .error _ => none
    | .ok page =>
      if page.nextCursor = [] then some page.endpoints
      else (memory.walk query fuel page.nextCursor).map (page.endpoints ++ ·)

open Memory

/-- The walk ends, and its pages hold the matching registrations, each once and in
ascending order. -/
def Memory.Complete (memory : Memory) (query : Query) : Prop :=
  ∃ fuel found, memory.walk query fuel [] = some found ∧
    (found.Pairwise fun first second => first.id < second.id) ∧
    ∀ endpoint, endpoint ∈ found ↔
      endpoint ∈ memory.endpoints ∧ query.selects endpoint = true

/-- The identifier after which the page behind a cursor starts. -/
def resume (id : GoString) : Option GoString :=
  (decodeCursor (encodeCursor id)).toOption

/-- The page that `List` makes of the registrations after its cursor. -/
def pageOf (limit : Nat) (rest : List Endpoint) : Page :=
  if limit < rest.length then
    { endpoints := rest.take limit
      nextCursor := encodeCursor (((rest.take limit).getLast?.map Endpoint.id).getD []) }
  else { endpoints := rest }

/-- The calls of a walk pass every check but the cursor's. -/
structure Query.Admitted (query : Query) : Prop where
  filter : query.validateFilter = .ok ()
  positive : 1 ≤ query.limit
  bounded : query.limit ≤ maxPageSize

variable {query : Query}

theorem Query.Admitted.pageSize (admitted : query.Admitted) : query.pageSize = .ok query.limit := by
  have positive := admitted.positive
  have bounded := admitted.bounded
  unfold Query.pageSize
  rw [if_neg (by omega), if_neg (by omega), if_neg (by omega)]

theorem encodeCursor_nonempty (id : GoString) : encodeCursor id ≠ [] := by
  intro empty
  have length := congrArg List.length empty
  rw [encodeCursor, Base64.encode_length, marshal_eq, length_cons, length_nil] at length
  omega

variable {afterID : GoString} {cursor : GoString}

theorem decodeCursor_nonempty (decoded : decodeCursor cursor = .ok afterID) : afterID ≠ [] := by
  unfold decodeCursor at decoded
  repeat' split at decoded
  all_goals try cases decoded
  next supported =>
    intro empty
    exact supported (Or.inr (Or.inl empty))

theorem validateQuery_admitted (admitted : query.Admitted) (cursor : GoString) :
    validateQuery { query with cursor } =
      if cursor ≠ [] then (decodeCursor cursor).map fun afterID => ({ query with cursor }, afterID)
      else .ok ({ query with cursor }, []) := by
  have filter : Query.validateFilter { query with cursor } = .ok () := admitted.filter
  have size : Query.pageSize { query with cursor } = .ok query.limit := admitted.pageSize
  rw [validateQuery, filter, ok_bind, size, ok_bind]
  split
  · cases decodeCursor cursor with
    | ok afterID | error reason => rfl
  · rfl

variable {memory : Memory}

theorem Memory.list_validated {validated : Query}
    (accepted : validateQuery query = .ok (validated, afterID)) (positive : 1 ≤ validated.limit) :
    memory.list none query =
      .ok (pageOf validated.limit.toNat (after afterID (memory.inventory validated))) := by
  dsimp only [list]
  rw [accepted, ok_bind]
  have compared : validated.limit < (after afterID (memory.inventory validated)).length ↔
      validated.limit.toNat < (after afterID (memory.inventory validated)).length := by
    omega
  unfold pageOf
  simp only [compared]
  split
  · rfl
  · rfl

theorem after_eq_remaining (given : afterID ≠ []) (endpoints : List Endpoint) :
    after afterID endpoints = Pages.remaining Endpoint.id endpoints (some afterID) := by
  rw [after, if_pos given, Pages.remaining]
  congr
  funext endpoint
  exact congrArg not (decide_eq_decide.mpr Iff.rfl)

theorem Memory.list_start {memory : Memory} {query : Query} (admitted : query.Admitted) :
    memory.list none { query with cursor := [] } =
      .ok (pageOf query.limit.toNat
        (Pages.remaining Endpoint.id (memory.inventory query) none)) := by
  have accepted := validateQuery_admitted admitted []
  exact list_validated accepted admitted.positive

theorem Memory.list_refused (admitted : query.Admitted) {reason : String} (given : cursor ≠ [])
    (refused : decodeCursor cursor = .error reason) :
    memory.list none { query with cursor } = .error reason := by
  have rejected := validateQuery_admitted admitted cursor
  rw [if_pos given, refused] at rejected
  dsimp only [list]
  rw [rejected]
  rfl

/-- Along the encoded cursors the walk is the abstract one. -/
theorem Memory.walk_refines (admitted : query.Admitted) (fuel : Nat) :
    memory.walk query fuel [] =
        Pages.walk Endpoint.id resume query.limit.toNat (memory.inventory query) fuel none ∧
      ∀ id, memory.walk query fuel (encodeCursor id) = (resume id).bind fun next =>
        Pages.walk Endpoint.id resume query.limit.toNat (memory.inventory query) fuel
          (some next) := by
  have positive : 0 < query.limit.toNat := by
    have least := admitted.positive
    omega
  induction fuel with
  | zero =>
    refine ⟨rfl, ?_⟩
    intro id
    cases resume id with
    | none | some next => rfl
  | succ fuel ih =>
    have step : ∀ (cursor : GoString) (bound : Option GoString),
        memory.list none { query with cursor } = .ok (pageOf query.limit.toNat
          (Pages.remaining Endpoint.id (memory.inventory query) bound)) →
        memory.walk query (fuel + 1) cursor = Pages.walk Endpoint.id resume
          query.limit.toNat (memory.inventory query) (fuel + 1) bound := by
      intro cursor bound listed
      rw [walk, listed]
      dsimp only [Pages.walk]
      unfold pageOf
      split
      next longer =>
        rw [if_neg (encodeCursor_nonempty _)]
        obtain ⟨page, last, back, parted, full, _⟩ := Pages.page_split positive longer
        have taken : (Pages.remaining Endpoint.id (memory.inventory query) bound).take
            query.limit.toNat = page ++ [last] := by
          rw [parted, ← full, take_left]
        rw [taken, List.getLast?_concat, Option.map_some, Option.getD_some, ih.2]
        cases resumed : resume last.id with
        | none | some next => simp [resumed]
      next => exact if_pos rfl
    refine ⟨step [] none (list_start admitted), ?_⟩
    intro id
    unfold resume
    cases decoded : decodeCursor (encodeCursor id) with
    | error reason =>
      rw [walk, list_refused admitted (encodeCursor_nonempty id) decoded]
      rfl
    | ok afterID =>
      have accepted := validateQuery_admitted admitted (encodeCursor id)
      rw [if_pos (encodeCursor_nonempty id), decoded] at accepted
      refine step _ (some afterID) ?_
      rw [list_validated accepted admitted.positive,
        after_eq_remaining (decodeCursor_nonempty decoded)]
      rfl

theorem resume_eq_some {id next : GoString} (given : id ≠ []) :
    resume id = some next ↔ (encodeCursor id).length ≤ maxCursorBytes ∧
      (Utf8.repair id).length ≤ 1024 ∧ Utf8.repair id = next := by
  have repaired := Utf8.repair_nonempty given
  rw [resume, decodeCursor_encodeCursor]
  by_cases large : maxCursorBytes < (encodeCursor id).length
  · rw [if_pos large]
    exact ⟨fun found => (nomatch found), fun fits => absurd fits.1 (Nat.not_le.mpr large)⟩
  · rw [if_neg large]
    by_cases long : 1024 < (Utf8.repair id).length
    · rw [if_pos (Or.inr long)]
      exact ⟨fun found => (nomatch found), fun fits => absurd fits.2.1 (Nat.not_le.mpr long)⟩
    · rw [if_neg (by tauto)]
      exact ⟨fun found => ⟨Nat.le_of_not_lt large, Nat.le_of_not_lt long, Option.some.inj found⟩,
        fun fits => congrArg some fits.2.2⟩

/-- The cursor of a page that ends with `last` is accepted, and the identifier read from
it has the same registrations after it. -/
structure CursorKept (inventory : List Endpoint) (last : Endpoint) : Prop where
  fits : (encodeCursor last.id).length ≤ maxCursorBytes
  short : (Utf8.repair last.id).length ≤ 1024
  parts : ∀ endpoint ∈ inventory, Utf8.repair last.id < endpoint.id ↔ last.id < endpoint.id

theorem encodeCursor_fits_iff (id : GoString) :
    (encodeCursor id).length ≤ maxCursorBytes ↔ (Json.escape id).length ≤ 1515 := by
  have name : (Json.escape (ascii "v")).length = 1 := by decide +kernel
  have field : (Json.escape (ascii "after_id")).length = 8 := by decide +kernel
  rw [encodeCursor, Base64.encode_length, marshal_eq]
  simp only [length_cons, length_append, length_nil, name, field, maxCursorBytes]
  omega

variable {inventory : List Endpoint} {last : Endpoint}

theorem resumes_iff_cursorKept (given : last.id ≠ []) :
    Pages.Resumes Endpoint.id resume inventory last ↔ CursorKept inventory last := by
  constructor
  · rintro ⟨next, resumed, alike⟩
    obtain ⟨fits, short, rfl⟩ := (resume_eq_some given).mp resumed
    exact ⟨fits, short, alike⟩
  · intro kept
    exact ⟨_, (resume_eq_some given).mpr ⟨kept.fits, kept.short, rfl⟩, kept.parts⟩

theorem Memory.inventory_unique {found : List Endpoint}
    (ascending : found.Pairwise fun first second => first.id < second.id)
    (matching : ∀ endpoint, endpoint ∈ found ↔
      endpoint ∈ memory.endpoints ∧ query.selects endpoint = true) :
    found = memory.inventory query := by
  have listed := memory.inventory_ascending query
  have distinct : ∀ {endpoints : List Endpoint},
      (endpoints.Pairwise fun first second => first.id < second.id) → endpoints.Nodup := by
    intro endpoints ordered
    apply ordered.imp
    intro first second below same
    rw [same] at below
    exact lt_irrefl _ below
  have permuted : found.Perm (memory.inventory query) := by
    rw [perm_ext_iff_of_nodup (distinct ascending) (distinct listed)]
    intro endpoint
    rw [matching, mem_inventory]
  apply permuted.eq_of_pairwise _ ascending listed
  intro first second _ _ below above
  exact absurd (lt_trans below above) (lt_irrefl _)

theorem Memory.complete_iff_walk :
    memory.Complete query ↔ ∃ fuel, memory.walk query fuel [] = some (memory.inventory query) := by
  constructor
  · rintro ⟨fuel, found, walked, ascending, matching⟩
    rw [inventory_unique ascending matching] at walked
    exact ⟨fuel, walked⟩
  · rintro ⟨fuel, walked⟩
    exact ⟨fuel, _, walked, memory.inventory_ascending query, fun _ => mem_inventory⟩

theorem Memory.walk_refused (refused : query.validateFilter ≠ .ok ()) (fuel : Nat)
    (cursor : GoString) : memory.walk query fuel cursor = none := by
  cases fuel with
  | zero => rfl
  | succ fuel =>
    have filter : Query.validateFilter { query with cursor } = query.validateFilter := rfl
    have rejected : ∃ reason, memory.list none { query with cursor } = .error reason := by
      dsimp only [list]
      rw [validateQuery, filter]
      cases outcome : query.validateFilter with
      | ok accepted => exact absurd outcome refused
      | error reason => exact ⟨reason, rfl⟩
    obtain ⟨reason, failed⟩ := rejected
    rw [walk, failed]

theorem Memory.Identified.complete_iff (identified : memory.Identified)
    (positive : 1 ≤ query.limit) (bounded : query.limit ≤ maxPageSize) :
    memory.Complete query ↔ query.validateFilter = .ok () ∧
      ∀ last, Pages.Boundary query.limit.toNat (memory.inventory query) last →
        CursorKept (memory.inventory query) last := by
  rw [complete_iff_walk]
  by_cases filter : query.validateFilter = .ok ()
  · have admitted : query.Admitted := ⟨filter, positive, bounded⟩
    have pageful : 0 < query.limit.toNat := by omega
    have complete := @Pages.walk_suffix_iff _ _ _ Endpoint.id _ _ resume pageful
      (memory.inventory_ascending query) _ (memory.inventory query) rfl none rfl
    simp only [(walk_refines admitted _).1, complete, filter, true_and]
    apply forall_congr'
    intro last
    apply imp_congr_right
    intro boundary
    apply resumes_iff_cursorKept
    exact (identified last (mem_inventory.mp (Pages.Boundary.mem boundary)).1).1
  · constructor
    · rintro ⟨fuel, walked⟩
      rw [walk_refused filter] at walked
      cases walked
    · intro accepted
      exact absurd accepted.1 filter

/-- The inventory of every registry that `Register` calls lead to can be walked exactly
if the filters are accepted and the cursor at the end of every page is kept. -/
theorem registered_complete_iff (parseURL : GoString → Option ParsedURL)
    (calls : List (Option String × Endpoint)) (query : Query) (positive : 1 ≤ query.limit)
    (bounded : query.limit ≤ maxPageSize) :
    (registered parseURL calls).Complete query ↔ query.validateFilter = .ok () ∧
      ∀ last, Pages.Boundary query.limit.toNat
          ((registered parseURL calls).inventory query) last →
        CursorKept ((registered parseURL calls).inventory query) last :=
  (registered_identified parseURL calls).complete_iff positive bounded

/-! ### Two registrations and one per page -/

def sampleParse (url : GoString) : Option ParsedURL :=
  if url = ascii "http://h" then some ⟨ascii "http", ascii "h", false, [], []⟩ else none

def sampleEndpoint (id : GoString) : Endpoint :=
  { id, target := ascii "t", baseURL := ascii "http://h", state := .ready }

def samplePair (first second : GoString) : Memory :=
  registered sampleParse
    [(none, sampleEndpoint first), (none, sampleEndpoint second)]

def single : Query := { limit := 1 }

theorem samplePair_inventory {first second : GoString} (ascending : first < second)
    (stored : (samplePair first second).endpoints = [sampleEndpoint first, sampleEndpoint second]) :
    (samplePair first second).inventory single =
      [sampleEndpoint first, sampleEndpoint second] := by
  have kept : [sampleEndpoint first, sampleEndpoint second].filter single.selects =
      [sampleEndpoint first, sampleEndpoint second] := rfl
  rw [inventory, stored, kept]
  apply sortByKey_eq_self
  exact pairwise_pair.mpr (le_of_lt ascending)

theorem boundary_pair {first second : Endpoint} :
    Pages.Boundary single.limit.toNat [first, second] last ↔ last = first := by
  have parted := @Pages.boundary_append _ single.limit.toNat [] [second] first rfl
    (cons_ne_nil _ _) last
  rw [nil_append, singleton_append] at parted
  have short : ¬ Pages.Boundary single.limit.toNat [second] last :=
    Pages.boundary_short (Nat.le_refl 1)
  tauto

theorem registered_complete_iff_letters :
    1 ≤ single.limit ∧ single.limit ≤ maxPageSize ∧
      (samplePair (ascii "a") (ascii "b")).Complete single := by
  refine ⟨by decide, by decide, ?_⟩
  have inventory : (samplePair (ascii "a") (ascii "b")).inventory single =
      [sampleEndpoint (ascii "a"), sampleEndpoint (ascii "b")] :=
    samplePair_inventory (by decide +kernel) (by decide +kernel)
  apply (registered_complete_iff sampleParse
    [(none, sampleEndpoint (ascii "a")), (none, sampleEndpoint (ascii "b"))] single
    (by decide) (by decide)).mpr
  refine ⟨by decide +kernel, ?_⟩
  intro last boundary
  rw [samplePair] at inventory
  rw [inventory] at boundary ⊢
  rw [boundary_pair.mp boundary]
  have same : Utf8.repair (ascii "a") = ascii "a" := by decide +kernel
  refine ⟨by decide +kernel, by decide +kernel, ?_⟩
  intro endpoint _
  exact Iff.of_eq (congrArg (· < endpoint.id) same)

/-- 253 characters that the encoder writes as six bytes each. -/
def escapedID : GoString := List.replicate 253 0x3C

/-- A second identifier that is greater. -/
def longerID : GoString := escapedID ++ [0x3C]

theorem escapedPair_inventory :
    (samplePair escapedID longerID).inventory single =
      [sampleEndpoint escapedID, sampleEndpoint longerID] :=
  samplePair_inventory (by decide +kernel) (by decide +kernel)

theorem single_admitted : single.Admitted where
  filter := by decide +kernel
  positive := by decide
  bounded := by decide

theorem escapedID_large : maxCursorBytes < (encodeCursor escapedID).length := by
  rw [← Nat.not_le, encodeCursor_fits_iff]
  decide +kernel

theorem cursor_of_escapedID_refused :
    (sampleEndpoint escapedID).validate sampleParse = .ok () ∧
      (sampleEndpoint longerID).validate sampleParse = .ok () ∧ single.Admitted ∧
      (samplePair escapedID longerID).list none single =
        .ok { endpoints := [sampleEndpoint escapedID], nextCursor := encodeCursor escapedID } ∧
      (samplePair escapedID longerID).list none
          { single with cursor := encodeCursor escapedID } =
        .error "invalid endpoint cursor: cursor is too large" ∧
      ¬ (samplePair escapedID longerID).Complete single := by
  refine ⟨by decide +kernel, by decide +kernel, single_admitted, ?_, ?_, ?_⟩
  · have listed := @list_start (samplePair escapedID longerID) _ single_admitted
    rw [escapedPair_inventory] at listed
    exact listed
  · apply list_refused single_admitted (encodeCursor_nonempty escapedID)
    rw [decodeCursor_encodeCursor, if_pos escapedID_large]
  · intro complete
    have identified : (samplePair escapedID longerID).Identified :=
      registered_identified sampleParse _
    have kept := ((identified.complete_iff single_admitted.positive
      single_admitted.bounded).mp complete).2
    rw [escapedPair_inventory] at kept
    have fits := (kept (sampleEndpoint escapedID) (boundary_pair.mpr rfl)).fits
    exact absurd escapedID_large (Nat.not_lt.mpr fits)

end SparkRoute.Registry
