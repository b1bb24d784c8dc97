import SparkRoute.Gateway.AwsEventStream
import SparkRoute.Gateway.Sse
import SparkRoute.Lib.JsonPath
import SparkRoute.Pii.Session
import SparkRoute.Registry.Cursor

/-!
# The semantic fields of a stream event

Each streaming operation has its own place for delta texts, its own terminal events and its
own channel keys. `inspect` reads an event the way `writeSSE` and `writeAWS` do before they
touch a redactor.
-/

namespace SparkRoute.Gateway

open Lib
open Lib.Json (Value Path Step lookup)

inductive StreamOperation where
  | chatCompletions
  | responses
  | anthropicMessages
  | geminiStreamContent
  | bedrockConverseStream
  deriving DecidableEq, Repr

/-- The parts of the standard library that the reader of events uses: `decodePIIJSON`,
`fmt.Sprint` of a decoded value, `strings.ToLower` and CRC-32. -/
structure StreamCodec where
  decode : GoString → Option Value
  sprint : Value → GoString
  toLower : GoString → GoString
  checksum : GoString → UInt32

/-! ### Decoded values -/

/-- Indexing a map: an absent name gives nil, and so does a value that is no map. -/
def member (name : String) : Value → Value
  | .object members => (lookup (ascii name) members).getD .null
  | _ => .null

def textOf : Value → Option GoString
  | .string text => some text
  | _ => none

def elementsOf : Value → List Value
  | .array elements => elements
  | _ => []

def isMap : Value → Bool
  | .object _ => true
  | _ => false

def isNil : Value → Bool
  | .null => true
  | _ => false

def isText (text : String) (value : Value) : Bool := textOf value = some (ascii text)

def membersOf : Value → List (GoString × Value)
  | .object members => members
  | _ => []

def key (name : String) : Step := .key (ascii name)

def object (members : List (String × Value)) : Value :=
  .object (members.map fun member => (ascii member.1, member.2))

def itoa (number : Nat) : GoString := ascii (toString number)

def streamIndex (codec : StreamCodec) (value : Value) (fallback : Nat) : GoString :=
  if isNil value then itoa fallback else codec.sprint value

def copyStreamEnvelope (root : Value) (names : List String) : List (String × Value) :=
  names.filterMap fun name =>
    (lookup (ascii name) (membersOf root)).map fun value => (name, value)

/-! ### Fields -/

structure StreamField where
  channel : GoString
  value : GoString
  path : Path
  flush : GoString → Value

def textField (holder : Value) (name : String) (channel : GoString) (path : Path)
    (flush : GoString → Value) : List StreamField :=
  match textOf (member name holder) with
  | some value => [⟨channel, value, path ++ [key name], flush⟩]
  | none => []

def isFunctionCall (kind : Value) : Bool := isText "function_call" kind

def chatFlushDelta (field : String) (kind : Value) (text : GoString) : Value :=
  if isFunctionCall kind then
    object [("function_call", object [("arguments", .string text)])]
  else if isNil kind then object [(field, .string text)]
  else
    object [("tool_calls", .array [object
      [("index", kind), ("function", object [("arguments", .string text)])]])]

def chatSSEFlush (root choiceIndex : Value) (field : String) (kind : Value)
    (text : GoString) : Value :=
  let choice := ("delta", chatFlushDelta field kind text) ::
    (if isNil choiceIndex then [] else [("index", choiceIndex)])
  object (copyStreamEnvelope root ["id", "object", "created", "model"] ++
    [("choices", .array [object choice])])

section Fields

variable (codec : StreamCodec) (root : Value)

def piiToolField (choice : Value) (channel : GoString) (path : Path)
    (tool : Value × Nat) : List StreamField :=
  let place := path ++ [key "tool_calls", .index tool.2, key "function"]
  textField (member "function" tool.1) "arguments"
    (channel ++ ascii "tool:" ++ streamIndex codec (member "index" tool.1) tool.2) place
    (chatSSEFlush root (member "index" choice) "arguments" (member "index" tool.1))

def piiChoiceFields (choice : Value × Nat) : List StreamField :=
  let delta := member "delta" choice.1
  if isMap delta then
    let index := member "index" choice.1
    let channel := ascii "chat:" ++ streamIndex codec index choice.2 ++ ascii ":"
    let path : Path := [key "choices", .index choice.2, key "delta"]
    textField delta "content" (channel ++ ascii "content") path
        (chatSSEFlush root index "content" .null) ++
      textField delta "refusal" (channel ++ ascii "refusal") path
        (chatSSEFlush root index "refusal" .null) ++
      textField (member "function_call" delta) "arguments" (channel ++ ascii "function_call")
        (path ++ [key "function_call"])
        (chatSSEFlush root index "arguments" (.string (ascii "function_call"))) ++
      (elementsOf (member "tool_calls" delta)).zipIdx.flatMap
        (piiToolField codec root choice.1 channel path)
  else []

def piiChatStreamFields : List StreamField :=
  (elementsOf (member "choices" root)).zipIdx.flatMap (piiChoiceFields codec root)

/-- The part of a channel key that names the item of a Responses event. -/
def responsesItem : GoString :=
  ["item_id", "output_index", "content_index"].flatMap fun name =>
    ascii ":" ++ (if isNil (member name root) then ascii "<nil>"
      else codec.sprint (member name root))

def piiResponsesStreamFields : List StreamField :=
  match textOf (member "type" root) with
  | none => []
  | some eventType =>
    if (ascii ".delta").isSuffixOf eventType then
      textField root "delta" (ascii "responses:" ++ eventType ++ responsesItem codec root) []
        fun text => object (copyStreamEnvelope root
          ["type", "item_id", "output_index", "content_index", "sequence_number"] ++
            [("delta", .string text)])
    else []

def piiAnthropicField (index : GoString) (delta : Value) (field : String) : List StreamField :=
  textField delta field (ascii "anthropic:" ++ index ++ ascii ":" ++ ascii field) [key "delta"]
    fun text => object [("type", .string (ascii "content_block_delta")),
      ("index", member "index" root),
      ("delta", object [("type", member "type" delta), (field, .string text)])]

def piiAnthropicStreamFields : List StreamField :=
  let delta := member "delta" root
  if isText "content_block_delta" (member "type" root) ∧ isMap delta then
    let index := streamIndex codec (member "index" root) 0
    (["text", "partial_json", "thinking"].flatMap (piiAnthropicField root index delta)).take 1
  else []

def piiPartField (candidate content : Value) (channel : GoString) (path : Path)
    (part : Value × Nat) : List StreamField :=
  textField part.1 "text" (channel ++ itoa part.2) (path ++ [.index part.2])
    fun text => object [("candidates", .array [object
      [("index", member "index" candidate), ("content", object
        [("role", member "role" content), ("parts", .array [object [("text", .string text)]])])]])]

def piiCandidateFields (candidate : Value × Nat) : List StreamField :=
  let content := member "content" candidate.1
  let channel := ascii "gemini:" ++
    streamIndex codec (member "index" candidate.1) candidate.2 ++ ascii ":"
  (elementsOf (member "parts" content)).zipIdx.flatMap
    (piiPartField candidate.1 content channel
      [key "candidates", .index candidate.2, key "content", key "parts"])

def piiGeminiStreamFields : List StreamField :=
  (elementsOf (member "candidates" root)).zipIdx.flatMap (piiCandidateFields codec)

/-- A field of a Bedrock delta; `nested` names the map that holds it, if there is one. -/
def bedrockPIIField (index : GoString) (nested : Option String) (field : String) :
    List StreamField :=
  let delta := member "delta" root
  let holder := match nested with
    | some name => member name delta
    | none => delta
  textField holder field
    (ascii "bedrock:" ++ index ++ ascii ":" ++ ascii (nested.getD "<nil>") ++ ascii ":" ++
      ascii field)
    (key "delta" :: nested.toList.map key)
    fun text =>
      let inner := object [(field, .string text)]
      object [("contentBlockIndex", member "contentBlockIndex" root), ("delta", match nested with
        | some name => object [(name, inner)]
        | none => inner)]

def piiBedrockFields (eventType : GoString) : List StreamField :=
  if eventType = ascii "contentBlockDelta" ∧ isMap (member "delta" root) then
    let index := streamIndex codec (member "contentBlockIndex" root) 0
    ([(none, "text"), (some "toolUse", "input"), (some "toolUse", "text"),
      (some "reasoningContent", "input"), (some "reasoningContent", "text")].flatMap
        fun place => bedrockPIIField root index place.1 place.2).take 1
  else []

/-- The fields of an event; the type of an AWS event is a header of its message. -/
def streamFields (operation : StreamOperation) (eventType : GoString) : List StreamField :=
  match operation with
  | .chatCompletions => piiChatStreamFields codec root
  | .responses => piiResponsesStreamFields codec root
  | .anthropicMessages => piiAnthropicStreamFields codec root
  | .geminiStreamContent => piiGeminiStreamFields codec root
  | .bedrockConverseStream => piiBedrockFields codec root eventType

end Fields

/-! ### Terminal events and boundaries -/

/-- The `type` member as a struct field takes it: names match without regard to case, a
later one replaces an earlier one, and a value of another kind is an error. -/
def structType (members : List (GoString × Value)) : Option GoString :=
  members.foldl
    (fun found entry =>
      if Registry.sameField "type" entry.1 then
        match entry.2 with
        | .null => found
        | .string text => found.map fun _ => text
        | _ => none
      else found)
    (some [])

def responsesTerminalTypes : List String :=
  ["response.completed", "response.failed", "response.incomplete", "response.cancelled", "error"]

def piiSSETerminal (operation : StreamOperation) (root : Value) : Bool :=
  match operation with
  | .responses =>
    responsesTerminalTypes.any fun name => structType (membersOf root) = some (ascii name)
  | .anthropicMessages =>
    isText "message_stop" (member "type" root) || isText "error" (member "type" root)
  | .geminiStreamContent =>
    !isNil (member "error" root) ||
      (elementsOf (member "candidates" root)).any fun candidate =>
        (textOf (member "finishReason" candidate)).any (· ≠ [])
  | .chatCompletions =>
    (elementsOf (member "choices" root)).any fun choice =>
      !isNil (member "finish_reason" choice)
  | .bedrockConverseStream => false

/-- A message whose payload is valid JSON. -/
def bedrockTerminal (messageType eventType : GoString) : Bool :=
  messageType = ascii "exception" || (messageType ≠ [] && messageType ≠ ascii "event") ||
    eventType = ascii "messageStop"

def piiSSEBoundaryChannel (codec : StreamCodec) (operation : StreamOperation) (root : Value) :
    Option GoString :=
  match operation with
  | .anthropicMessages =>
    if isText "content_block_stop" (member "type" root) then
      some (ascii "anthropic:" ++ streamIndex codec (member "index" root) 0 ++ ascii ":")
    else none
  | .responses =>
    match textOf (member "type" root) with
    | none => none
    | some eventType =>
      if (ascii ".done").isSuffixOf eventType then
        some (ascii "responses:" ++ eventType.take (eventType.length - 5) ++
          ascii ".delta" ++ responsesItem codec root)
      else none
  | _ => none

def bedrockBoundaryChannel (codec : StreamCodec) (eventType : GoString) (root : Value) :
    Option GoString :=
  if eventType = ascii "contentBlockStop" then
    some (ascii "bedrock:" ++ streamIndex codec (member "contentBlockIndex" root) 0 ++ ascii ":")
  else none

/-! ### Events -/

structure Inspected where
  document : Value
  eventType : GoString
  terminal : Bool
  boundary : Option GoString
  fields : List StreamField

/-- What the writer finds in an event before it looks at its channels. -/
inductive Seen where
  | plain
  | done
  | unreadable (reason : String)
  | inspected (event : Inspected)

def inspectSSE (codec : StreamCodec) (operation : StreamOperation) (event : GoString) : Seen :=
  match sseDataPayload event with
  | none => .plain
  | some payload =>
    if Pii.trimSpace payload = ascii "[DONE]" then .done
    else
      match codec.decode payload with
      | none => .unreadable "decode PII JSON"
      | some root =>
        if isMap root then
          .inspected ⟨root, [], piiSSETerminal operation root,
            piiSSEBoundaryChannel codec operation root, streamFields codec root operation []⟩
        else .unreadable "PII stream event payload must be a JSON object"

def inspectAWS (codec : StreamCodec) (raw : GoString) : Seen :=
  match readAWSEventMessage codec.toLower codec.checksum ⟨raw, false⟩ with
  | .error _ => .unreadable "read AWS event-stream message"
  | .ok (message, _) =>
    match codec.decode message.payload with
    | none => .unreadable "decode PII JSON"
    | some root =>
      let header := fun name => message.header codec.toLower (ascii name)
      if isMap root then
        .inspected ⟨root, header ":event-type",
          bedrockTerminal (header ":message-type") (header ":event-type"),
          bedrockBoundaryChannel codec (header ":event-type") root,
          streamFields codec root .bedrockConverseStream (header ":event-type")⟩
      else .unreadable "PII AWS stream payload must be a JSON object"

def inspect (codec : StreamCodec) (operation : StreamOperation) (frame : GoString) : Seen :=
  match operation with
  | .bedrockConverseStream => inspectAWS codec frame
  | operation => inspectSSE codec operation frame

variable {operation : StreamOperation} {frame : GoString} {event : Inspected} {codec : StreamCodec}

theorem inspectSSE_form (seen : inspectSSE codec operation frame = .inspected event) :
    event.eventType = [] ∧
      event.boundary = piiSSEBoundaryChannel codec operation event.document ∧
      event.fields = streamFields codec event.document operation [] := by
  revert seen
  fun_cases inspectSSE codec operation frame <;> rintro ⟨⟩
  exact ⟨rfl, rfl, rfl⟩

theorem inspectAWS_form (seen : inspectAWS codec frame = .inspected event) :
    event.boundary = bedrockBoundaryChannel codec event.eventType event.document ∧
      event.fields =
        streamFields codec event.document .bedrockConverseStream event.eventType := by
  revert seen
  fun_cases inspectAWS codec frame <;> rintro ⟨⟩
  exact ⟨rfl, rfl⟩

end SparkRoute.Gateway
