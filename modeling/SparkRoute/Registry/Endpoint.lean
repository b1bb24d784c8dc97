import SparkRoute.Config.Identifier
import SparkRoute.Lib.Bytes
import SparkRoute.Lib.Checked

/-!
# Endpoint registrations

`parseURL` stands for `net/url.Parse`; the checks read only the parts that
`ParsedURL` names.
-/

namespace SparkRoute.Registry

open Lib
open Config (refuse refuse_eq_ok quotedBytes)

/-- `unset` is the empty text and `unsupported` every text without a name here. -/
inductive State where
  | unset
  | offline
  | activating
  | ready
  | draining
  | deactivating
  | failed
  | unknown
  | unsupported (text : GoString)
  deriving DecidableEq

structure Endpoint where
  id : GoString := []
  target : GoString := []
  baseURL : GoString := []
  protocol : GoString := []
  servedModels : List GoString := []
  controller : GoString := []
  clusterID : GoString := []
  jobID : GoString := []
  bindingRevision : GoString := []
  recipeRevision : GoString := []
  fencingToken : Int := 0
  state : State := .unset
  activeRequests : Int := 0
  maxConcurrency : Int := 0
  /-- `none` is the zero time. -/
  expiresAt : Option Int := none
  metadata : List (GoString × GoString) := []
  deriving DecidableEq

structure ParsedURL where
  scheme : GoString
  host : GoString
  user : Bool
  rawQuery : GoString
  fragment : GoString

def validateState : State → Except String Unit
  | .unsupported text => .error ("unsupported endpoint state " ++ quotedBytes text)
  | _ => .ok ()

/-- The size checks of the texts, in the order in which they are listed. -/
def Endpoint.texts (endpoint : Endpoint) : List (String × GoString) :=
  [("endpoint ID", endpoint.id), ("endpoint target", endpoint.target),
    ("endpoint protocol", endpoint.protocol),
    ("endpoint controller", endpoint.controller),
    ("endpoint cluster ID", endpoint.clusterID),
    ("endpoint job ID", endpoint.jobID),
    ("endpoint binding revision", endpoint.bindingRevision),
    ("endpoint recipe revision", endpoint.recipeRevision)]

def validateMetadata (total : Nat) : List (GoString × GoString) → Except String Unit
  | [] => .ok ()
  | (key, value) :: rest =>
    if key = [] ∨ 128 < key.length ∨ 1024 < value.length then
      .error "endpoint metadata key/value is invalid"
    else if 16384 < total + key.length + value.length then
      .error "endpoint metadata exceeds 16384 bytes"
    else
      validateMetadata (total + key.length + value.length) rest

def validateEndpoint (endpoint : Endpoint) : Except String Unit := do
  refuse (endpoint.id = []) "endpoint ID is required"
  refuse (endpoint.target = []) "endpoint target is required"
  endpoint.texts.forM fun (name, value) =>
    refuse (1024 < value.length) (name ++ " exceeds 1024 bytes")
  validateState endpoint.state
  refuse (endpoint.activeRequests < 0 ∨ endpoint.maxConcurrency < 0)
    "endpoint concurrency values must not be negative"
  refuse (endpoint.fencingToken < 0) "endpoint fencing token must not be negative"
  refuse (0 < endpoint.fencingToken ∧ (endpoint.controller = [] ∨ endpoint.bindingRevision = []))
    "fenced endpoint requires controller and binding revision"
  refuse (256 < endpoint.servedModels.length) "endpoint advertises too many served models"
  endpoint.servedModels.forM fun model =>
    refuse (model = [] ∨ 1024 < model.length)
      "endpoint served model must be between 1 and 1024 bytes"
  refuse (64 < endpoint.metadata.length) "endpoint metadata has too many fields"
  validateMetadata 0 endpoint.metadata

/-- `ValidateEndpoint`: the registration's fields and its base URL. -/
def Endpoint.validate (parseURL : GoString → Option ParsedURL) (endpoint : Endpoint) :
    Except String Unit := do
  validateEndpoint endpoint
  match parseURL endpoint.baseURL with
  | none => .error "endpoint base URL must be an absolute HTTP(S) URL"
  | some parsed => do
    refuse (parsed.host = [] ∨ (parsed.scheme ≠ ascii "http" ∧ parsed.scheme ≠ ascii "https"))
      "endpoint base URL must be an absolute HTTP(S) URL"
    refuse (parsed.user ∨ parsed.rawQuery ≠ [] ∨ parsed.fragment ≠ [])
      "endpoint base URL must not contain userinfo, query, or fragment"

theorem validateEndpoint_identified {endpoint : Endpoint}
    (accepted : validateEndpoint endpoint = .ok ()) :
    endpoint.id ≠ [] ∧ endpoint.id.length ≤ 1024 := by
  unfold validateEndpoint at accepted
  simp only [bind_eq_ok] at accepted
  obtain ⟨⟨⟩, required, _, _, ⟨⟩, bounded, _⟩ := accepted
  have short := forM_eq_ok.mp bounded _ List.mem_cons_self
  simp only [refuse_eq_ok, decide_eq_false_iff_not] at required short
  exact ⟨required, Nat.le_of_not_lt short⟩

end SparkRoute.Registry
