import SparkRoute.Pii.Session
import SparkRoute.Registry.Cursor

/-!
# The model that a request names

The model catalog reads the body before the data plane does, and puts it back.  Both look for the
member `model`; the catalog decodes into a struct, whose fields match in any letter case.
-/

namespace SparkRoute.Gateway

open Lib List
open Pii (trimSpace)

/-! ### The name in a body -/

abbrev Envelope := List (GoString × Json.Value)

/-- `json.Unmarshal` of a whole text into a struct or a map; `null` leaves it empty. -/
def unmarshalObject (raw : GoString) : Option Envelope := do
  let (value, rest) ← Json.parse raw
  if Json.skipSpace rest ≠ [] then none
  else
    match value with
    | .object members => some members
    | .null => some []
    | _ => none

/-- Later members replace earlier ones. -/
def lastMember (names : GoString → Bool) (envelope : Envelope) : Option Json.Value :=
  (envelope.reverse.find? (names ·.1)).map (·.2)

def unmarshalText : Json.Value → Option GoString
  | .string text => some text
  | .null => some []
  | _ => none

def maxRequestedModelBytes : Nat := 256

def validCatalogModelName (model : GoString) : Bool :=
  model ≠ [] && model.length ≤ maxRequestedModelBytes && trimSpace model == model &&
    model.all fun byte => 0x20 < byte && byte != 0x7F

def anyCaseModel : GoString → Bool := Registry.sameField "model"

def exactModel (name : GoString) : Bool := name == ascii "model"

def catalogModel (raw : GoString) : Option GoString := do
  let envelope ← unmarshalObject raw
  let value ← lastMember anyCaseModel envelope
  (unmarshalText value).filter validCatalogModelName

def unmarshalStream : Option Json.Value → Option Bool
  | none | some .null => some false
  | some (.bool streaming) => some streaming
  | some _ => none

def decodeChatRequest (raw : GoString) : Except String (Envelope × GoString × Bool) :=
  if trimSpace raw = [] then .error "request body is required"
  else
    match unmarshalObject raw with
    | none => .error "request body must be valid JSON"
    | some envelope =>
      match lastMember exactModel envelope with
      | none => .error "model is required"
      | some value =>
        let model := (unmarshalText value).getD []
        if trimSpace model = [] then .error "model must be a non-empty string"
        else if maxRequestedModelBytes < model.length then
          .error "model must not exceed 256 bytes"
        else
          match unmarshalStream (lastMember (· == ascii "stream") envelope) with
          | none => .error "stream must be a boolean"
          | some streaming => .ok (envelope, model, streaming)

/-- The decoder of an operation: `decodeChatRequest` and checks of its own. -/
def decodeRequest (checks : Envelope → Bool → Except String Bool) (raw : GoString) :
    Except String (Envelope × GoString × Bool) := do
  let (envelope, model, streaming) ← decodeChatRequest raw
  let streaming ← checks envelope streaming
  .ok (envelope, model, streaming)

/-! ### Reading ahead -/

/-- The bytes that a body yields, whether an error ends them, and what `Close` closes. -/
structure Body where
  bytes : GoString
  broken : Bool
  closer : Nat

structure CatalogRequest where
  method : String
  path : GoString
  contentLength : Int
  body : Option Body

def jsonPaths : List GoString :=
  ["/v1/chat/completions", "/v1/responses", "/v1/responses/compact", "/v1/embeddings",
    "/v1/messages", "/v1/messages/count_tokens"].map ascii

/-- The name, and the body that the request has afterwards.  The routes of Gemini and Bedrock
carry the name in the path. -/
def catalogRequestedModel (geminiRoute bedrockRoute : GoString → Option GoString)
    (request : CatalogRequest) (maximum : Int) : Option GoString × Option Body :=
  if request.method = "GET" ∧ (ascii "/v1/models/").isPrefixOf request.path then
    (some (request.path.drop 11) |>.filter validCatalogModelName, request.body)
  else if request.method ≠ "POST" then (none, request.body)
  else if (ascii "/v1beta/models/").isPrefixOf request.path then
    (geminiRoute request.path, request.body)
  else if (ascii "/model/").isPrefixOf request.path then
    (bedrockRoute request.path, request.body)
  else if request.path ∉ jsonPaths then (none, request.body)
  else
    match request.body with
    | none => (none, none)
    | some original =>
      let limit := (wrapInt64 (maximum + 1)).toNat
      let raw := original.bytes.take limit
      if maximum < request.contentLength then (none, some original)
      else if (original.broken ∧ original.bytes.length < limit) ∨ maximum < raw.length then
        (none, some { original with bytes := raw ++ original.bytes.drop limit })
      else (catalogModel raw, some ⟨raw, false, original.closer⟩)

/-! ### Two readings of one body -/

section

variable {value : Json.Value} {raw model named : GoString} {envelope : Envelope}

theorem unmarshalText_solid (given : model ≠ []) (read : (unmarshalText value).getD [] = model) :
    value = .string model := by
  cases value with
  | string text => exact congrArg Json.Value.string read
  | null | bool | number | array | object => exact absurd read.symm given

theorem catalogModel_some (found : catalogModel raw = some model) :
    ∃ envelope, unmarshalObject raw = some envelope ∧
      lastMember anyCaseModel envelope = some (.string model) := by
  obtain ⟨envelope, members, found⟩ := Option.bind_eq_some_iff.mp found
  obtain ⟨value, last, found⟩ := Option.bind_eq_some_iff.mp found
  obtain ⟨text, valid⟩ := Option.filter_eq_some_iff.mp found
  have given : model ≠ [] := by
    rintro rfl
    cases valid
  have solid : value = .string model := unmarshalText_solid given (by rw [text]; rfl)
  exact ⟨envelope, members, solid ▸ last⟩

theorem decodeChatRequest_ok {streaming : Bool}
    (decoded : decodeChatRequest raw = .ok (envelope, named, streaming)) :
    unmarshalObject raw = some envelope ∧
      lastMember exactModel envelope = some (.string named) := by
  revert decoded
  fun_cases decodeChatRequest raw with
  | case7 _ members read value last model solid =>
    simp only [Except.ok.injEq, Prod.mk.injEq]
    rintro ⟨rfl, same, _⟩
    have given : named ≠ [] := by
      rintro rfl
      exact solid (by rw [same]; rfl)
    rw [unmarshalText_solid given same] at last
    exact ⟨read, last⟩
  | _ => rintro ⟨⟩

end

section

variable {geminiRoute bedrockRoute : GoString → Option GoString} {request : CatalogRequest}
  {maximum : Int}

theorem take_within {bytes : GoString} (lower : minInt64 ≤ maximum) (upper : maximum < maxInt64)
    (within : ¬ maximum < (bytes.take (wrapInt64 (maximum + 1)).toNat).length) :
    bytes.take (wrapInt64 (maximum + 1)).toNat = bytes ∧
      bytes.length < (wrapInt64 (maximum + 1)).toNat := by
  rw [wrapInt64_of_bounds (by omega) (by omega)] at *
  rw [length_take] at within
  exact ⟨take_of_length_le (by omega), by omega⟩

theorem catalogRequestedModel_body (lower : minInt64 ≤ maximum) (upper : maximum < maxInt64) :
    (catalogRequestedModel geminiRoute bedrockRoute request maximum).2 = request.body := by
  fun_cases catalogRequestedModel geminiRoute bedrockRoute request maximum with
  | case6 _ _ _ _ _ absent => exact absent.symm
  | case7 _ _ _ _ _ original present => exact present.symm
  | case8 _ _ _ _ _ original present =>
    rw [present, take_append_drop]
  | case9 _ _ _ _ _ original present _ raw _ whole =>
    obtain ⟨all, short⟩ := take_within lower upper fun long => whole (.inr long)
    have sound : original.broken = false := by
      by_contra broken
      exact whole (.inl ⟨Bool.not_eq_false _ |>.mp broken, short⟩)
    rw [present, ← sound]
    exact congrArg (fun bytes => some { original with bytes }) all
  | _ => rfl

theorem catalogRequestedModel_some {body : Body} {model : GoString} (lower : minInt64 ≤ maximum)
    (upper : maximum ≤ maxInt64) (post : request.method = "POST")
    (listed : request.path ∈ jsonPaths) (given : request.body = some body)
    (found : (catalogRequestedModel geminiRoute bedrockRoute request maximum).1 = some model) :
    catalogModel body.bytes = some model := by
  have own : ∀ path ∈ jsonPaths, (ascii "/v1beta/models/").isPrefixOf path = false ∧
      (ascii "/model/").isPrefixOf path = false := by decide
  revert found
  fun_cases catalogRequestedModel geminiRoute bedrockRoute request maximum with
  | case1 get => exact absurd (post.symm.trans get.1) (by decide)
  | case3 _ _ gemini => exact absurd gemini (by simp [(own _ listed).1])
  | case4 _ _ _ bedrock => exact absurd bedrock (by simp [(own _ listed).2])
  | case9 _ _ _ _ _ original present _ raw _ whole =>
    rw [given] at present
    cases present
    intro found
    rcases Int.lt_or_eq_of_le upper with below | rfl
    · rwa [← (take_within lower below fun long => whole (.inr long)).1]
    · -- The limit has wrapped around, and nothing was read.
      cases found
  | _ => rintro ⟨⟩

end

/-- The body is put back whole unless the limit is the greatest number of its type.  The name that
the catalog reads is the one the decoder reads exactly when the last `model` in any letter case
holds what the last `model` proper holds. -/
theorem catalog_model_agrees_iff (geminiRoute bedrockRoute : GoString → Option GoString)
    (request : CatalogRequest) {maximum : Int} (lower : minInt64 ≤ maximum)
    (upper : maximum ≤ maxInt64) :
    (maximum ≠ maxInt64 →
      (catalogRequestedModel geminiRoute bedrockRoute request maximum).2 = request.body) ∧
    ∀ body model checks envelope named streaming, request.method = "POST" →
      request.path ∈ jsonPaths → request.body = some body →
      (catalogRequestedModel geminiRoute bedrockRoute request maximum).1 = some model →
      decodeRequest checks body.bytes = .ok (envelope, named, streaming) →
      (named = model ↔
        lastMember anyCaseModel envelope = lastMember exactModel envelope) := by
  refine ⟨fun apart => catalogRequestedModel_body lower (lt_of_le_of_ne upper apart), ?_⟩
  intro body model checks envelope named streaming post listed given found decoded
  obtain ⟨own, members, catalog⟩ :=
    catalogModel_some (catalogRequestedModel_some lower upper post listed given found)
  obtain ⟨⟨_, _, _⟩, read, rest⟩ := bind_eq_ok.mp decoded
  obtain ⟨_, _, same⟩ := bind_eq_ok.mp rest
  cases same
  obtain ⟨again, exactly⟩ := decodeChatRequest_ok read
  cases again.symm.trans members
  rw [catalog, exactly, Option.some.injEq, Json.Value.string.injEq]
  exact eq_comm

def sampleBody (more : String) : GoString := ascii ("\x7b\"model\":\"a\"" ++ more ++ "\x7d")

def sampleRequest (body : GoString) : CatalogRequest :=
  ⟨"POST", ascii "/v1/chat/completions", -1, some ⟨body, false, 1⟩⟩

/-- The last member decides in the catalog, and the greatest limit empties the body. -/
theorem catalog_reads_other_case :
    (catalogRequestedModel (fun _ => none) (fun _ => none)
      (sampleRequest (sampleBody ",\"MODEL\":\"b\"")) 64).1 = some (ascii "b") ∧
    (decodeChatRequest (sampleBody ",\"MODEL\":\"b\"")).toOption.map (·.2.1) =
      some (ascii "a") ∧
    (catalogRequestedModel (fun _ => none) (fun _ => none)
      (sampleRequest (sampleBody "")) maxInt64).2.map Body.bytes = some [] := by
  decide +kernel

theorem catalog_model_agrees_iff_several :
    let raw := sampleBody ",\"MODEL\":\"b\",\"model\":\"a\",\"stream\":true"
    (catalogRequestedModel (fun _ => none) (fun _ => none) (sampleRequest raw) 64).2 =
        some ⟨raw, false, 1⟩ ∧
      ∃ result, decodeRequest (fun _ streaming => .ok streaming) raw = .ok result ∧
        result.1.length = 4 ∧
        lastMember anyCaseModel result.1 = lastMember exactModel result.1 := by
  intro raw
  have read : (decodeRequest (fun _ streaming => .ok streaming) raw).toOption.map
      (fun result => (result.1.length, result.2.1)) = some (4, ascii "a") := by decide +kernel
  have agrees := catalog_model_agrees_iff (fun _ => none) (fun _ => none) (sampleRequest raw)
    (by decide : minInt64 ≤ 64) (by decide)
  refine ⟨agrees.1 (by decide), ?_⟩
  cases decoded : decodeRequest (fun _ streaming => .ok streaming) raw with
  | error failure =>
    rw [decoded] at read
    cases read
  | ok result =>
    rw [decoded] at read
    obtain ⟨members, named⟩ := Prod.mk.inj (Option.some.inj read)
    exact ⟨result, rfl, members,
      (agrees.2 _ _ _ _ _ _ rfl (by decide) rfl (by decide +kernel) decoded).mp named⟩

end SparkRoute.Gateway
