import SparkRoute.Config.Identifier
import SparkRoute.Lib.Checked

/-!
# Privacy policies

The authored PII policy of a model and the checks on it.  A field with a fixed
vocabulary may also hold text outside of it, which validation reports.
-/

namespace SparkRoute.Config

/-- A field that is omitted, one of its words, or any other text. -/
inductive Setting (Word : Type) where
  | unset
  | word (value : Word)
  | other (text : String)
  deriving DecidableEq

namespace Setting

variable {Word : Type}

def foreign : Setting Word → Bool
  | .other _ => true
  | _ => false

end Setting

inductive PIIMode where
  | disabled
  | substitute
  deriving DecidableEq

inductive PIIEntity where
  | email
  | phone
  | ssn
  | creditCard
  | ipv4
  | person
  | address
  deriving DecidableEq

inductive PIIScope where
  | request
  | conversation
  deriving DecidableEq

inductive PIIResponseMode where
  | restore
  | masked
  deriving DecidableEq

inductive PIITraceContent where
  | masked
  | callerVisible
  | disabled
  deriving DecidableEq

inductive PIIFailureMode where
  | failOpen
  | failClosed
  deriving DecidableEq

inductive PIIMediaTextMode where
  | bestEffort
  | required
  deriving DecidableEq

inductive PIIFileTextMode where
  | disabled
  | bestEffort
  | required
  deriving DecidableEq

structure PIIFilePolicy where
  text : Setting PIIFileTextMode := .unset
  metadata : Bool := false
  maxTextBytes : Int := 0
  deriving DecidableEq

structure PIIPolicy where
  mode : Setting PIIMode := .unset
  entities : List (Setting PIIEntity) := []
  scope : Setting PIIScope := .unset
  response : Setting PIIResponseMode := .unset
  traceContent : Setting PIITraceContent := .unset
  failureMode : Setting PIIFailureMode := .unset
  mediaText : Setting PIIMediaTextMode := .unset
  files : Option PIIFilePolicy := none
  deriving DecidableEq

structure PrivacyPolicy where
  pii : Option PIIPolicy := none
  deriving DecidableEq

def maxPIIFileTextBytes : Int := 33554432

def PIIEntity.text : PIIEntity → String
  | .email => "email"
  | .phone => "phone"
  | .ssn => "ssn"
  | .creditCard => "credit_card"
  | .ipv4 => "ipv4"
  | .person => "person"
  | .address => "address"

/-- The entity scan; an omitted entity is the empty string, which is unknown too. -/
def validatePIIEntities (path : String) :
    Nat → List PIIEntity → List (Setting PIIEntity) → Except String Unit
  | _, _, [] => .ok ()
  | index, _, .unset :: _ =>
    let empty := quoted ""
    .error s!"{path}.pii.entities[{index}]: unknown entity {empty}"
  | index, _, .other text :: _ =>
    .error s!"{path}.pii.entities[{index}]: unknown entity {quoted text}"
  | index, seen, .word entity :: rest =>
    if seen.contains entity then
      .error s!"{path}.pii.entities[{index}]: duplicate entity {quoted entity.text}"
    else
      validatePIIEntities path (index + 1) (entity :: seen) rest

def PIIFilePolicy.validate (path : String) (scope : Setting PIIScope) (files : PIIFilePolicy) :
    Except String Unit := do
  refuse files.text.foreign
    s!"{path}.pii.files.text: must be disabled, best_effort, required, or empty"
  refuse (files.maxTextBytes < 0 ∨ maxPIIFileTextBytes < files.maxTextBytes)
    s!"{path}.pii.files.max_text_bytes: must be at most {maxPIIFileTextBytes} bytes"
  refuse ((files.text = .word .bestEffort ∨ files.text = .word .required ∨
      files.metadata = true) ∧ scope ≠ .word .conversation)
    s!"{path}.pii.files: inspection requires scope conversation"

def PIIPolicy.validate (path : String) (pii : PIIPolicy) : Except String Unit := do
  refuse pii.mode.foreign s!"{path}.pii.mode: must be disabled, substitute, or empty"
  if pii.mode = .word .disabled then
    refuse (pii.entities ≠ [] ∨ pii.scope ≠ .unset ∨ pii.response ≠ .unset ∨
        pii.traceContent ≠ .unset ∨ pii.failureMode ≠ .unset ∨ pii.mediaText ≠ .unset ∨
        pii.files.isSome)
      s!"{path}.pii: disabled policy must not contain other fields"
  else
    refuse (32 < pii.entities.length)
      s!"{path}.pii.entities: must not contain more than 32 entries"
    validatePIIEntities path 0 [] pii.entities
    refuse pii.scope.foreign s!"{path}.pii.scope: must be request, conversation, or empty"
    refuse pii.response.foreign s!"{path}.pii.response: must be restore, masked, or empty"
    refuse pii.traceContent.foreign
      s!"{path}.pii.trace_content: must be masked, caller_visible, disabled, or empty"
    refuse pii.failureMode.foreign
      s!"{path}.pii.failure_mode: must be fail_open, fail_closed, or empty"
    refuse pii.mediaText.foreign
      s!"{path}.pii.media_text: must be best_effort, required, or empty"
    match pii.files with
    | none => .ok ()
    | some files => files.validate path pii.scope

def validatePrivacy (path : String) (policy : Option PrivacyPolicy) : Except String Unit :=
  match policy.bind PrivacyPolicy.pii with
  | none => .ok ()
  | some pii => pii.validate path

end SparkRoute.Config
