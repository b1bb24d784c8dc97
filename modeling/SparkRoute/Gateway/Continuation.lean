import SparkRoute.Lib.Utf8

/-!
# Following an upstream continuation

A provider may answer `303` and hand out the result under another URL.
`followUpstreamContinuation` retrieves it.  The transport is a sequence of answers, and the
loop keeps a record of the requests it sent and of the bodies it received and closed.
-/

namespace SparkRoute.Gateway

open Lib List

structure URL where
  scheme : GoString
  user : Option GoString
  host : GoString
  /-- The path and the query. -/
  path : GoString
  fragment : GoString

/-- The entries of a header, under their canonical names. -/
abbrev Header := List (String × GoString)

def Header.get (header : Header) (name : String) : GoString :=
  ((header.find? (·.1 == name)).map (·.2)).getD []

structure HTTPRequest where
  method : String
  url : URL
  header : Header
  body : Option GoString

structure HTTPResponse where
  statusCode : Int
  /-- `Location()`: resolved against the URL of the request, `none` for its error. -/
  location : Option URL

inductive ContinuationPolicy where
  | continuationsDefault | continuationsNone | continuationsSameOrigin303
  | unknown (policy : String)

/-- The provider as the continuation reads it. -/
structure ContinuationProvider where
  type : String
  continuations : ContinuationPolicy
  awsSigV4 : Bool

def maxUpstreamContinuations : Nat := 8

def errUpstreamContinuation : String := "upstream result continuation failed"

def continuationEnabled (request : HTTPRequest) (provider : ContinuationProvider) : Bool :=
  match provider.continuations with
  | .continuationsSameOrigin303 => true
  | .continuationsDefault => provider.type == "openai_compatible" &&
      request.header.get "Modal-Key" != [] && request.header.get "Modal-Secret" != []
  | _ => false

def entityHeaders : List String :=
  ["Content-Type", "Content-Length", "Content-Encoding", "Content-Language", "Content-Location",
    "Transfer-Encoding", "Trailer", "Digest", "Content-Digest", "Repr-Digest", "Content-Md5",
    "Last-Modified"]

/-- What one round of the loop meets: whether the request can be built, the header that signing
leaves, and the answer of the client, which may come with an error. -/
structure Hop where
  built : Bool
  sign : Header → Option Header
  answer : Except (Option HTTPResponse) HTTPResponse

/-- What the loop did: the requests sent, the responses received, and the positions of those
whose body was closed. -/
structure Exchange where
  requests : List HTTPRequest
  received : List HTTPResponse
  closed : List Nat

namespace Exchange

/-- Close the body of the response at hand. -/
def close (done : Exchange) : Exchange :=
  { done with closed := done.closed ++ [done.received.length - 1] }

def send (done : Exchange) (request : HTTPRequest) : Exchange :=
  { done with requests := done.requests ++ [request] }

def receive (done : Exchange) (response : HTTPResponse) : Exchange :=
  { done with received := done.received ++ [response] }

end Exchange

section

-- The case folding of `strings.EqualFold`: the class of each decoded character.
variable (folded : Utf8.Piece → Nat)

def equalFold (left right : GoString) : Bool :=
  (Utf8.pieces left).map folded == (Utf8.pieces right).map folded

variable (original : HTTPRequest) (provider : ContinuationProvider)

def sameOrigin (next : URL) : Bool :=
  original.url.scheme == ascii "https" && next.scheme == ascii "https" &&
    equalFold folded next.host original.url.host && next.user.isNone && next.fragment == []

def continuationHeader (hop : Hop) : Option Header :=
  let header := original.header.filter fun entry => !entityHeaders.contains entry.1
  if provider.awsSigV4 then hop.sign header else some header

/-- The request for the next location, `none` where the source gives up before sending it. -/
def continuationRequest (hop : Hop) (response : HTTPResponse) : Option HTTPRequest := do
  let next ← response.location.filter (sameOrigin folded original · && hop.built)
  let header ← continuationHeader original provider hop
  return ⟨"GET", next, header, none⟩

/-- The loop, with the number of requests it may still send. -/
def continueUpstream (hops : Nat → Hop) (left : Nat) (response : HTTPResponse) (done : Exchange) :
    Exchange × Except String HTTPResponse :=
  if response.statusCode = 303 then
    match left with
    | 0 => (done.close, .error errUpstreamContinuation)
    | left + 1 =>
      match continuationRequest folded original provider (hops left) response with
      | none => (done.close, .error errUpstreamContinuation)
      | some request =>
        match (hops left).answer with
        | .error none => (done.close.send request, .error errUpstreamContinuation)
        | .error (some failed) =>
          (((done.close.send request).receive failed).close, .error errUpstreamContinuation)
        | .ok answered =>
          continueUpstream hops left answered ((done.close.send request).receive answered)
  else if response.statusCode < 200 ∨ response.statusCode ≥ 300 then
    (done.close, .error errUpstreamContinuation)
  else (done, .ok response)

def followUpstreamContinuation (hops : Nat → Hop) (response : HTTPResponse) :
    Exchange × Except String HTTPResponse :=
  if response.statusCode ≠ 303 ∨ continuationEnabled original provider = false then
    (⟨[], [response], []⟩, .ok response)
  else continueUpstream folded original provider hops maxUpstreamContinuations response
    ⟨[], [response], []⟩

end

/-! ### What a whole exchange keeps -/

section

variable {folded : Utf8.Piece → Nat} {original : HTTPRequest} {provider : ContinuationProvider}
  {done : Exchange} {response : HTTPResponse}

/-- A request that only retrieves, from the host of the original one. -/
structure Retrieval (folded : Utf8.Piece → Nat) (original request : HTTPRequest) : Prop where
  method : request.method = "GET"
  body : request.body = none
  scheme : request.url.scheme = ascii "https"
  host : equalFold folded request.url.host original.url.host = true
  user : request.url.user = none

theorem continuationRequest_retrieval {hop : Hop} {request : HTTPRequest}
    (made : continuationRequest folded original provider hop response = some request) :
    Retrieval folded original request := by
  obtain ⟨next, kept, made⟩ := Option.bind_eq_some_iff.mp made
  obtain ⟨header, _, made⟩ := Option.bind_eq_some_iff.mp made
  cases made
  obtain ⟨_, allowed⟩ := Option.filter_eq_some_iff.mp kept
  simp only [sameOrigin, Bool.and_eq_true, beq_iff_eq, Option.isNone_iff_eq_none] at allowed
  obtain ⟨⟨⟨⟨⟨_, scheme⟩, host⟩, user⟩, _⟩, _⟩ := allowed
  exact ⟨rfl, rfl, scheme, host, user⟩

/-- Every body received before the response at hand is closed once, and its own is open. -/
structure Exchange.Holds (done : Exchange) (response : HTTPResponse) : Prop where
  last : done.received.getLast? = some response
  closed : done.closed = range (done.received.length - 1)

/-- A finished exchange: the returned response alone is open, and its status is a success. -/
def Settled (outcome : Exchange × Except String HTTPResponse) : Prop :=
  match outcome.2 with
  | .ok response => outcome.1.Holds response ∧
      200 ≤ response.statusCode ∧ response.statusCode < 300
  | .error failure => failure = errUpstreamContinuation ∧
      outcome.1.closed = range outcome.1.received.length

theorem Exchange.Holds.close_closed (held : done.Holds response) :
    done.close.closed = range done.received.length := by
  have some : 0 < done.received.length := by
    apply length_pos_iff.mpr
    rintro empty
    simpa [empty] using held.last
  rw [close, held.closed, ← range_succ]
  exact congrArg range (Nat.succ_pred_eq_of_pos some)

theorem Exchange.Holds.next (held : done.Holds response) (request : HTTPRequest)
    (answered : HTTPResponse) : ((done.close.send request).receive answered).Holds answered where
  last := getLast?_concat ..
  closed := by
    change done.close.closed = range ((done.received ++ [answered]).length - 1)
    rw [held.close_closed, length_append, length_singleton, Nat.add_sub_cancel]

/-- The run of the loop, by induction on the requests it may still send. -/
theorem continueUpstream_settled (hops : Nat → Hop) (left : Nat) (held : done.Holds response)
    (sent : ∀ request ∈ done.requests, Retrieval folded original request) :
    let outcome := continueUpstream folded original provider hops left response done
    Settled outcome ∧ outcome.1.requests.length ≤ done.requests.length + left ∧
      ∀ request ∈ outcome.1.requests, Retrieval folded original request := by
  have longer (done : Exchange) (request : HTTPRequest) :
      (done.close.send request).requests.length = done.requests.length + 1 := length_append
  fun_induction continueUpstream with
  | case1 | case2 | case6 => exact ⟨⟨rfl, held.close_closed⟩, Nat.le_add_right .., sent⟩
  | case3 response done _ left request made =>
    refine ⟨⟨rfl, held.close_closed⟩, by rw [longer]; omega, ?_⟩
    exact forall_mem_append.mpr
      ⟨sent, forall_mem_singleton.mpr (continuationRequest_retrieval made)⟩
  | case4 response done _ left request made failed =>
    refine ⟨⟨rfl, (held.next request failed).close_closed⟩, (longer done request).trans_le ?_, ?_⟩
    · omega
    · exact forall_mem_append.mpr
        ⟨sent, forall_mem_singleton.mpr (continuationRequest_retrieval made)⟩
  | case5 response done _ left request made answered _ step =>
    obtain ⟨rest, bounded, all⟩ := step (held.next request answered) (forall_mem_append.mpr
      ⟨sent, forall_mem_singleton.mpr (continuationRequest_retrieval made)⟩)
    refine ⟨rest, bounded.trans ?_, all⟩
    rw [Exchange.receive, longer]
    omega
  | case7 => exact ⟨⟨held, by omega, by omega⟩, Nat.le_add_right .., sent⟩

/-- At most eight retrievals from the host of the request up to letter case; the first response
untouched, a success or the one error; and every body but the returned one closed once. -/
theorem continuation_confined (folded : Utf8.Piece → Nat) (original : HTTPRequest)
    (provider : ContinuationProvider) (hops : Nat → Hop) (first : HTTPResponse) :
    let outcome := followUpstreamContinuation folded original provider hops first
    (outcome.1.requests.length ≤ 8 ∧
      ∀ request ∈ outcome.1.requests, Retrieval folded original request) ∧
    ((outcome = (⟨[], [first], []⟩, .ok first) ∧
        (first.statusCode ≠ 303 ∨ continuationEnabled original provider = false)) ∨
      Settled outcome) := by
  simp only [followUpstreamContinuation]
  split
  next untouched => exact ⟨⟨Nat.zero_le _, nofun⟩, Or.inl ⟨rfl, untouched⟩⟩
  next =>
    obtain ⟨settled, bounded, retrieved⟩ := @continueUpstream_settled folded original provider
      ⟨[], [first], []⟩ first hops maxUpstreamContinuations ⟨rfl, rfl⟩ nofun
    exact ⟨⟨bounded.trans le_rfl, retrieved⟩, Or.inr settled⟩

end

/-! ### A host in other letters -/

/-- The class of an ASCII character under folding. -/
def asciiFolded (piece : Utf8.Piece) : Nat :=
  match piece.bytes with
  | [byte] => if 65 ≤ byte.toNat ∧ byte.toNat ≤ 90 then byte.toNat + 32 else byte.toNat
  | _ => 256

def sampleURL (host : String) : URL :=
  ⟨ascii "https", none, ascii host, ascii "/result", []⟩

/-- The location spells the host in capitals, so the request goes to a host that is not the
text of the original one. -/
theorem continuation_other_letters :
    ∃ request, (followUpstreamContinuation asciiFolded
        ⟨"POST", sampleURL "a.example", [], some []⟩
        ⟨"openai_compatible", .continuationsSameOrigin303, false⟩
        (fun _ => ⟨true, some, .ok ⟨200, none⟩⟩) ⟨303, some (sampleURL "A.EXAMPLE")⟩).1.requests =
      [request] ∧ request.url.host ≠ ascii "a.example" :=
  ⟨⟨"GET", sampleURL "A.EXAMPLE", [], none⟩, rfl, by decide⟩

end SparkRoute.Gateway
