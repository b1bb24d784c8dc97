import SparkRoute.Lib.Replace
import SparkRoute.Pii.Redaction

/-!
# Substitution sessions

A session maps every pair of an entity and an original text to a token.  `byOriginal` and
`byToken` are the two directions as lists of entries; `source` gives the answer of the
token source's calls one after the other and `drawn` counts them.
-/

namespace SparkRoute.Pii

open Lib BuiltinEntity
open Config (refuse refuse_eq_ok)

structure Mapping where
  entity : GoString
  original : GoString
  token : GoString
  deriving DecidableEq

structure Session where
  entities : List GoString
  maximumMappings : Int
  maximumOriginalBytes : Int
  source : Nat → Except String GoString
  resolver : Option (Nat → GoString → GoString → Except String GoString) := none
  byOriginal : List (GoString × GoString) := []
  byToken : List (GoString × GoString) := []
  counts : GoString → Int := fun _ => 0
  originalBytes : Int := 0
  replacer : Option (List (GoString × GoString)) := none
  drawn : Nat := 0

def find (entries : List (GoString × GoString)) (key : GoString) : Option GoString :=
  (entries.find? fun entry => entry.1 == key).map Prod.snd

def assign (entries : List (GoString × GoString)) (key value : GoString) :
    List (GoString × GoString) :=
  if entries.any fun entry => entry.1 == key then
    entries.map fun entry => if entry.1 = key then (key, value) else entry
  else entries ++ [(key, value)]

/-- The characters that `strings.TrimSpace` removes. -/
def whiteSpace : List GoString :=
  [[0x09], [0x0A], [0x0B], [0x0C], [0x0D], [0x20], [0xC2, 0x85], [0xC2, 0xA0],
    [0xE1, 0x9A, 0x80], [0xE2, 0x80, 0x80], [0xE2, 0x80, 0x81], [0xE2, 0x80, 0x82],
    [0xE2, 0x80, 0x83], [0xE2, 0x80, 0x84], [0xE2, 0x80, 0x85], [0xE2, 0x80, 0x86],
    [0xE2, 0x80, 0x87], [0xE2, 0x80, 0x88], [0xE2, 0x80, 0x89], [0xE2, 0x80, 0x8A],
    [0xE2, 0x80, 0xA8], [0xE2, 0x80, 0xA9], [0xE2, 0x80, 0xAF], [0xE2, 0x81, 0x9F],
    [0xE3, 0x80, 0x80]]

def isWhite : Utf8.Piece → Bool
  | .rune bytes => whiteSpace.contains bytes
  | .invalid _ => false

def trimSpace (text : GoString) : GoString :=
  ((((Utf8.pieces text).dropWhile isWhite).reverse.dropWhile isWhite).reverse).flatMap
    Utf8.Piece.bytes

/-- The key of `byOriginal`. -/
def mappingKey (entity original : GoString) : GoString := entity ++ 0 :: original

def tokenPrefix (toUpper : GoString → GoString) (entity : GoString) : GoString :=
  ascii "[[SPARKROUTE_PII_" ++ toUpper entity ++ ascii "_"

def validateToken (toUpper : GoString → GoString) (entity token : GoString) : Except String Unit :=
  refuse (!(tokenPrefix toUpper entity).isPrefixOf token || !(ascii "]]").isSuffixOf token ||
      token.length ≤ (tokenPrefix toUpper entity).length + 2 ||
      token.any fun byte => byte == 0x0D || byte == 0x0A || byte == 0)
    "PII substitution token has an invalid shape"

namespace Session

variable (toUpper : GoString → GoString)

variable (session : Session)

/-- What the resolver or the token source offers. -/
def drawToken
    (entity original : GoString) : Except String GoString :=
  match session.resolver with
  | some resolve => resolve session.drawn entity original
  | none =>
    match session.source session.drawn with
    | .error reason => .error ("create PII substitution token: " ++ reason)
    | .ok identifier =>
      if trimSpace identifier = [] then .error "PII substitution token is empty"
      else .ok (tokenPrefix toUpper entity ++ trimSpace identifier ++ ascii "]]")

/-- The token for a pair that has none yet, before the collision check. -/
def createToken
    (entity original : GoString) : Except String GoString := do
  let token ← session.drawToken toUpper entity original
  validateToken toUpper entity token
  .ok token

/-- A mapping more would pass one of the limits. -/
def full (original : GoString) : Bool :=
  session.maximumMappings ≤ session.byToken.length ||
    session.maximumOriginalBytes - session.originalBytes < original.length

def store (entity original token : GoString) : Session :=
  { session with
    byOriginal := assign session.byOriginal (mappingKey entity original) token
    byToken := assign session.byToken token original
    counts := fun other =>
      if other = entity then session.counts other + 1 else session.counts other
    originalBytes := session.originalBytes + original.length
    replacer := none }

def tokenFor
    (entity original : GoString) : Except String GoString × Session :=
  match find session.byOriginal (mappingKey entity original) with
  | some token => (.ok token, session)
  | none =>
    if session.full original then
      (.error "PII substitution mapping limit exceeded", session)
    else
      let asked := { session with drawn := session.drawn + 1 }
      match session.createToken toUpper entity original with
      | .error reason => (.error reason, asked)
      | .ok token =>
        if (find session.byToken token).isSome then
          (.error "PII substitution token collision", asked)
        else (.ok token, asked.store entity original token)

def addMapping (mapping : Mapping) :
    Except String Session := do
  refuse (trimSpace mapping.entity = []) "PII mapping entity is empty"
  refuse (mapping.original = []) "PII mapping original value is empty"
  validateToken toUpper mapping.entity mapping.token
  match find session.byOriginal (mappingKey mapping.entity mapping.original) with
  | some existing => do
    refuse (existing ≠ mapping.token) "PII original value has conflicting tokens"
    .ok session
  | none => do
    refuse ((find session.byToken mapping.token).any (· ≠ mapping.original))
      "PII substitution token collision"
    refuse (session.full mapping.original) "PII substitution mapping limit exceeded"
    .ok (session.store mapping.entity mapping.original mapping.token)

/-- The tokens with their originals, sorted by token. -/
def pairs : List (GoString × GoString) :=
  sortByKey Prod.fst session.byToken

/-- `strings.Replacer` replaces from left to right, ties in the order of its arguments. -/
def restore (text : GoString) : GoString × Session :=
  if session.byToken = [] then (text, session)
  else
    let replacer := session.replacer.getD session.pairs
    (Replace.replace replacer text, { session with replacer := some replacer })

/-- Writes the rest of the text, with tokens for the spans in it. -/
def substituteFrom (toUpper : GoString → GoString) (text : GoString) :
    Session → Nat → List Span → Except String GoString × Session
  | session, position, [] => (.ok (text.drop position), session)
  | session, position, span :: rest =>
    match session.tokenFor toUpper span.entity
        (slice text span.start.toNat span.stop.toNat) with
    | (.error reason, next) => (.error reason, next)
    | (.ok token, next) =>
      match substituteFrom toUpper text next span.stop.toNat rest with
      | (.error reason, final) => (.error reason, final)
      | (.ok tail, final) =>
        (.ok (slice text position span.start.toNat ++ token ++ tail), final)

/-- `answer` is what the detector reports for the text. -/
def substitute (text : GoString)
    (answer : Except String (List Span)) : Except String GoString × Session :=
  match answer with
  | .error reason => (.error reason, session)
  | .ok spans =>
    match validateSpans text spans with
    | .error reason => (.error reason, session)
    | .ok _ => substituteFrom toUpper text session 0 spans

end Session

structure SessionOptions where
  detector : Bool := true
  supports : GoString → Bool := fun _ => true
  entities : List GoString := []
  maximumMappings : Int := 0
  maximumOriginalBytes : Int := 0
  source : Nat → Except String GoString
  resolver : Option (Nat → GoString → GoString → Except String GoString) := none
  initialMappings : List Mapping := []

def defaultEntities : List GoString :=
  [email.name, phone.name, ssn.name,
    creditCard.name, ipv4.name]

def validateEntities (supports : GoString → Bool) : List GoString → List GoString →
    Except String Unit
  | _, [] => .ok ()
  | seen, entity :: rest => do
    refuse (trimSpace entity = []) "PII entity must not be empty"
    refuse (seen.contains entity) ("duplicate PII entity " ++ Config.quotedBytes entity)
    refuse (!supports entity)
      ("PII detector does not support entity " ++ Config.quotedBytes entity)
    validateEntities supports (entity :: seen) rest

def newSession (toUpper : GoString → GoString) (options : SessionOptions) :
    Except String Session := do
  refuse (!options.detector) "PII detector is required"
  let entities := if options.entities = [] then defaultEntities else options.entities
  validateEntities options.supports [] entities
  let maximumMappings := if options.maximumMappings = 0 then 4096 else options.maximumMappings
  let maximumOriginalBytes :=
    if options.maximumOriginalBytes = 0 then 4194304 else options.maximumOriginalBytes
  refuse (maximumMappings < 1 ∨ maximumOriginalBytes < 1) "PII mapping limits must be positive"
  options.initialMappings.zipIdx.foldlM
    (fun session entry => (session.addMapping toUpper entry.1).mapError
      fun reason => "initial PII mapping " ++ toString entry.2 ++ ": " ++ reason)
    { entities, maximumMappings, maximumOriginalBytes,
      source := options.source, resolver := options.resolver }

end SparkRoute.Pii
