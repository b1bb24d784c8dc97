import SparkRoute.Lib.Tally
import SparkRoute.Pii.Session

/-!
# Restoring substituted texts

As long as entity names have no NUL byte and neither names nor identifiers have square
brackets, the two maps of a session are inverse to each other, and `restore` gives back
every text that was substituted in the session.
-/

namespace SparkRoute.Pii

open Lib List
open Lib.Replace (Delimited)
open Config (refuse refuse_eq_ok)

def Plain (text : GoString) : Prop := 0x5B ∉ text ∧ 0x5D ∉ text

namespace Session

/-- The two maps hold the same pairs, each pair and each token once. -/
structure Bijective (session : Session) : Prop where
  linked : List.Forall₂ (fun stored reverse => stored.2 = reverse.1 ∧
      ∃ entity, 0 ∉ entity ∧ stored.1 = mappingKey entity reverse.2)
    session.byOriginal session.byToken
  keys : (session.byOriginal.map Prod.fst).Nodup
  tokens : (session.byToken.map Prod.fst).Nodup

structure Accounted (session : Session) : Prop where
  mapped : (session.byToken.length : Int) ≤ session.maximumMappings
  bytes : session.originalBytes = (session.byToken.map fun entry => (entry.2.length : Int)).sum
  bounded : session.originalBytes ≤ session.maximumOriginalBytes

variable {entries : List (GoString × GoString)}

/-- What `tokenFor` keeps when the names and identifiers it sees are plain. -/
structure Sound (session : Session) : Prop where
  bijective : session.Bijective
  accounted : session.Accounted
  delimited : ∀ entry ∈ session.byToken, Delimited 0x5B 0x5D entry.1
  cached : ∀ replacer, session.replacer = some replacer → replacer = session.pairs
  unresolved : session.resolver = none
  plain : ∀ call identifier, session.source call = .ok identifier → Plain identifier

end Session

/-! ### Map entries -/

variable {key : GoString}

theorem find_eq_none : find entries key = none ↔ key ∉ entries.map Prod.fst := by
  rw [find, Option.map_eq_none_iff, List.find?_eq_none, mem_map]
  constructor
  · rintro missing ⟨entry, listed, same⟩
    exact missing entry listed (beq_iff_eq.mpr same)
  · intro missing entry listed same
    exact missing ⟨entry, listed, beq_iff_eq.mp same⟩

theorem mem_of_find {value : GoString} (found : find entries key = some value) :
    (key, value) ∈ entries := by
  obtain ⟨entry, located, rfl⟩ := Option.map_eq_some_iff.mp found
  have same : entry.1 = key := by simpa using List.find?_some located
  rw [← same]
  exact mem_of_find?_eq_some located

theorem assign_absent (absent : find entries key = none) (value : GoString) :
    assign entries key value = entries ++ [(key, value)] := by
  have missing : (entries.any fun entry => entry.1 == key) = false := by
    rw [any_eq_false]
    intro entry listed same
    exact find_eq_none.mp absent (mem_map.mpr ⟨entry, listed, by simpa using same⟩)
  rw [assign, missing]
  rfl

theorem mem_trimSpace {byte : UInt8} {text : GoString} (listed : byte ∈ trimSpace text) :
    byte ∈ text := by
  obtain ⟨piece, kept, inside⟩ := mem_flatMap.mp listed
  rw [mem_reverse] at kept
  have trimmed := (dropWhile_sublist _).subset kept
  rw [mem_reverse] at trimmed
  have original := (dropWhile_sublist _).subset trimmed
  rw [← Utf8.pieces_bytes text]
  exact mem_flatMap.mpr ⟨piece, original, inside⟩

variable {toUpper : GoString → GoString}

theorem delimited_token {entity identifier : GoString} (plain : Plain (toUpper entity))
    (identifierPlain : Plain identifier) :
    Delimited 0x5B 0x5D (tokenPrefix toUpper entity ++ identifier ++ ascii "]]") := by
  have opening : ascii "[[SPARKROUTE_PII_" = 0x5B :: 0x5B :: ascii "SPARKROUTE_PII_" := by
    decide +kernel
  have closing : ascii "]]" = [0x5D, 0x5D] := by decide +kernel
  refine ⟨ascii "SPARKROUTE_PII_" ++ toUpper entity ++ ascii "_" ++ identifier, ?_, ?_, ?_, ?_⟩
  · rw [tokenPrefix, opening, closing]
    simp only [cons_append, append_assoc]
  · intro empty
    have length := congrArg List.length empty
    simp [ascii] at length
  · simp only [mem_append, not_or]
    exact ⟨⟨⟨by decide +kernel, plain.1⟩, by decide +kernel⟩, identifierPlain.1⟩
  · simp only [mem_append, not_or]
    exact ⟨⟨⟨by decide +kernel, plain.2⟩, by decide +kernel⟩, identifierPlain.2⟩

/-! ### One token -/

namespace Session

variable {session : Session} {entity original token : GoString}

theorem store_sound (sound : session.Sound) (entityPlain : 0 ∉ entity)
    (newKey : find session.byOriginal (mappingKey entity original) = none)
    (newToken : find session.byToken token = none) (room : session.full original = false)
    (delimited : Delimited 0x5B 0x5D token) :
    (session.store entity original token).Sound ∧
      (session.store entity original token).byToken = session.byToken ++ [(token, original)] := by
  have stored : (session.store entity original token).byOriginal =
      session.byOriginal ++ [(mappingKey entity original, token)] :=
    assign_absent newKey token
  have reversed : (session.store entity original token).byToken =
      session.byToken ++ [(token, original)] :=
    assign_absent newToken original
  have limits : session.byToken.length < session.maximumMappings ∧
      session.originalBytes + original.length ≤ session.maximumOriginalBytes := by
    simp only [full, Bool.or_eq_false_iff, decide_eq_false_iff_not] at room
    omega
  refine ⟨⟨⟨?_, ?_, ?_⟩, ⟨?_, ?_, limits.2⟩, ?_, ?_, sound.unresolved, sound.plain⟩, reversed⟩
  · rw [stored, reversed]
    exact rel_append sound.bijective.linked (.cons ⟨rfl, entity, entityPlain, rfl⟩ .nil)
  · rw [stored, map_append]
    apply List.Nodup.append sound.bijective.keys (nodup_singleton _)
    intro key listed added
    rw [mem_singleton.mp added] at listed
    exact find_eq_none.mp newKey listed
  · rw [reversed, map_append]
    apply List.Nodup.append sound.bijective.tokens (nodup_singleton _)
    intro other listed added
    rw [mem_singleton.mp added] at listed
    exact find_eq_none.mp newToken listed
  · rw [reversed, length_append, length_singleton]
    show ((session.byToken.length + 1 : ℕ) : ℤ) ≤ session.maximumMappings
    omega
  · rw [reversed, sum_map_concat]
    exact congrArg (· + (original.length : Int)) sound.accounted.bytes
  · rw [reversed]
    exact forall_mem_append.mpr ⟨sound.delimited, forall_mem_singleton.mpr delimited⟩
  · intro replacer none
    cases none

theorem drawn_sound (sound : session.Sound) (drawn : Nat) :
    { session with drawn := drawn : Session }.Sound where
  bijective := ⟨sound.bijective.linked, sound.bijective.keys, sound.bijective.tokens⟩
  accounted := ⟨sound.accounted.mapped, sound.accounted.bytes, sound.accounted.bounded⟩
  delimited := sound.delimited
  cached := sound.cached
  unresolved := sound.unresolved
  plain := sound.plain

theorem createToken_delimited (sound : session.Sound) (plain : Plain (toUpper entity))
    (created : session.createToken toUpper entity original = .ok token) :
    Delimited 0x5B 0x5D token := by
  obtain ⟨shaped, made, checked⟩ := bind_eq_ok.mp created
  obtain ⟨⟨⟩, _, result⟩ := bind_eq_ok.mp checked
  cases result
  rw [drawToken, sound.unresolved] at made
  dsimp only at made
  split at made
  · cases made
  next identifier answered =>
    cases (check_eq_ok.mp made).2
    have identifierPlain := sound.plain _ _ answered
    apply delimited_token plain
    exact ⟨fun listed => identifierPlain.1 (mem_trimSpace listed),
      fun listed => identifierPlain.2 (mem_trimSpace listed)⟩

/-- What `tokenFor` can do: find a token, fail or store a new one. -/
theorem tokenFor_cases (toUpper : GoString → GoString) (session : Session)
    (entity original : GoString) :
    (∃ token, find session.byOriginal (mappingKey entity original) = some token ∧
      session.tokenFor toUpper entity original = (.ok token, session)) ∨
    (∃ reason drawn, session.tokenFor toUpper entity original =
      (.error reason, { session with drawn })) ∨
    ∃ token, find session.byOriginal (mappingKey entity original) = none ∧
      session.full original = false ∧ session.createToken toUpper entity original = .ok token ∧
      find session.byToken token = none ∧
      session.tokenFor toUpper entity original =
        (.ok token, { session with drawn := session.drawn + 1 }.store entity original token) := by
  unfold tokenFor
  cases known : find session.byOriginal (mappingKey entity original) with
  | some token => exact Or.inl ⟨token, rfl, rfl⟩
  | none =>
    refine Or.inr ?_
    cases room : session.full original with
    | true => exact Or.inl ⟨_, session.drawn, rfl⟩
    | false =>
      cases created : session.createToken toUpper entity original with
      | error reason => exact Or.inl ⟨reason, session.drawn + 1, rfl⟩
      | ok token =>
        dsimp only
        cases taken : find session.byToken token with
        | some other => exact Or.inl ⟨_, session.drawn + 1, rfl⟩
        | none => exact Or.inr ⟨token, rfl, rfl, rfl, taken, rfl⟩

theorem tokenFor_failed {next : Session} {entity original : GoString} {reason : String}
    (failed : session.tokenFor toUpper entity original = (.error reason, next)) :
    next = { session with drawn := next.drawn } := by
  rcases tokenFor_cases toUpper session entity original with
    ⟨token, _, outcome⟩ | ⟨cause, drawn, outcome⟩ | ⟨token, _, _, _, _, outcome⟩
  · rw [outcome] at failed
    cases failed
  · rw [outcome] at failed
    cases failed
    rfl
  · rw [outcome] at failed
    cases failed

theorem Bijective.mem_byToken (bijective : session.Bijective) (entityPlain : 0 ∉ entity)
    (stored : (mappingKey entity original, token) ∈ session.byOriginal) :
    (token, original) ∈ session.byToken := by
  obtain ⟨⟨reverseToken, reverseOriginal⟩, reversed, same, other, otherPlain, key⟩ :=
    forall₂_mem bijective.linked stored
  obtain ⟨_, originals⟩ := separated_unique entityPlain otherPlain key
  have tokens : token = reverseToken := same
  rw [tokens, originals]
  exact reversed

theorem tokenFor_sound (sound : session.Sound) {entity original : GoString}
    (entityPlain : 0 ∉ entity) (upperPlain : Plain (toUpper entity)) :
    (session.tokenFor toUpper entity original).2.Sound ∧
      session.byToken <+: (session.tokenFor toUpper entity original).2.byToken ∧
      ∀ token, (session.tokenFor toUpper entity original).1 = .ok token →
        (token, original) ∈ (session.tokenFor toUpper entity original).2.byToken := by
  rcases tokenFor_cases toUpper session entity original with
    ⟨token, known, outcome⟩ |
      ⟨cause, drawn, outcome⟩ | ⟨token, newKey, room, created, newToken, outcome⟩
  · rw [outcome]
    refine ⟨sound, prefix_refl _, ?_⟩
    intro other same
    cases same
    exact sound.bijective.mem_byToken entityPlain (mem_of_find known)
  · rw [outcome]
    refine ⟨drawn_sound sound drawn, prefix_refl _, ?_⟩
    intro other same
    cases same
  · rw [outcome]
    obtain ⟨stored, reversed⟩ := store_sound (drawn_sound sound (session.drawn + 1)) entityPlain
      newKey newToken room (createToken_delimited sound upperPlain created)
    refine ⟨stored, ?_, ?_⟩
    · rw [reversed]
      exact prefix_append _ _
    · intro other same
      cases same
      rw [reversed]
      exact mem_append_right _ (mem_singleton_self _)

end Session

/-! ### One text -/

/-- Spans as `validateSpans` accepts them. -/
def Ascends (text : GoString) : Int → List Span → Prop
  | _, [] => True
  | previous, span :: rest =>
    previous ≤ span.start ∧ 0 ≤ span.start ∧ span.start < span.stop ∧
      span.stop ≤ text.length ∧ Ascends text span.stop rest

theorem ascends_of_validateSpans {text : GoString} {index : Nat} {previous : Int}
    {spans : List Span} (accepted : validateSpansFrom text index previous spans = .ok ()) :
    Ascends text previous spans := by
  induction spans generalizing index previous with
  | nil => trivial
  | cons span rest ih =>
    obtain ⟨⟨⟩, bounds, accepted⟩ := bind_eq_ok.mp accepted
    obtain ⟨⟨⟩, order, accepted⟩ := bind_eq_ok.mp accepted
    obtain ⟨⟨⟩, _, accepted⟩ := bind_eq_ok.mp accepted
    obtain ⟨⟨⟩, _, accepted⟩ := bind_eq_ok.mp accepted
    simp only [refuse_eq_ok, decide_eq_false_iff_not] at bounds order
    exact ⟨by omega, by omega, by omega, by omega, ih accepted⟩

theorem slice_append_drop (text : GoString) {start stop : Nat} (ordered : start ≤ stop)
    (within : stop ≤ text.length) : slice text start stop ++ text.drop stop = text.drop start := by
  rw [slice, ← drop_append_of_le_length, take_append_drop]
  rw [length_take]
  omega

theorem slice_contained (text : GoString) (start stop : Nat) : slice text start stop <:+: text :=
  ((drop_suffix _ _).isInfix).trans ( take_prefix _ _).isInfix

namespace Session

def Unused (session : Session) (text : GoString) : Prop :=
  ∀ entry ∈ session.byToken, ¬ entry.1 <:+: text

variable {session : Session}

theorem mem_pairs {entry : GoString × GoString} : entry ∈ session.pairs ↔ entry ∈ session.byToken :=
  (sortByKey_perm _ _).mem_iff

theorem Sound.proper (sound : session.Sound) : Replace.Proper session.pairs := by
  intro entry listed
  obtain ⟨body, same, _⟩ := (sound.delimited entry (mem_pairs.mp listed)).parts
  rw [same]
  exact cons_ne_nil _ _

theorem replace_unused {copied : GoString} (unused : session.Unused copied) :
    Replace.replace session.pairs copied = copied := by
  have kept := @Replace.replace_append_absent _ _ session.pairs copied [] (by
    intro start suffix _ entry listed standing
    rw [append_nil] at standing
    exact unused entry (mem_pairs.mp listed) (standing.isInfix.trans suffix.isInfix))
  rw [append_nil] at kept
  rw [kept]
  exact append_nil copied

/-- Replacing takes back one token behind a text without tokens. -/
theorem Sound.replace_token (sound : session.Sound) {copied token original tail : GoString}
    (unused : session.Unused copied) (listed : (token, original) ∈ session.byToken) :
    Replace.replace session.pairs (copied ++ token ++ tail) =
      copied ++ original ++ Replace.replace session.pairs tail := by
  have delimited := sound.delimited _ listed
  rw [append_assoc, Replace.replace_append_absent, append_assoc]
  · congr 1
    apply Replace.replace_found sound.proper (mem_pairs.mpr listed)
    intro other otherListed standing
    have otherStored := mem_pairs.mp otherListed
    have same := delimited.eq_of_prefix (sound.delimited other otherStored) standing
    exact inj_on_of_nodup_map sound.bijective.tokens otherStored listed same
  · intro start suffix nonempty other otherListed standing
    have otherStored := mem_pairs.mp otherListed
    have inside := delimited.not_straddling (by decide) (sound.delimited other otherStored)
      nonempty standing
    exact unused other otherStored (inside.isInfix.trans suffix.isInfix)

def PlainNames (toUpper : GoString → GoString) (spans : List Span) : Prop :=
  ∀ span ∈ spans, 0 ∉ span.entity ∧ Plain (toUpper span.entity)

/-- After a call: more tokens, and an output that the tokens of any later state turn back
into the text from `position` on. -/
structure Reversible (session : Session) (text : GoString) (position : Nat)
    (outcome : Except String GoString × Session) : Prop where
  sound : outcome.2.Sound
  grown : session.byToken <+: outcome.2.byToken
  back : ∀ {output} {last : Session}, outcome.1 = .ok output → last.Sound →
    last.Unused text → outcome.2.byToken <+: last.byToken →
      Replace.replace last.pairs output = text.drop position

theorem substituteFrom_reversible {text : GoString} (sound : session.Sound) {position : Nat}
    {spans : List Span} (names : PlainNames toUpper spans) (ordered : Ascends text position spans)
    (within : position ≤ text.length) :
    Reversible session text position (session.substituteFrom toUpper text position spans) := by
  induction spans generalizing session position with
  | nil =>
    refine ⟨sound, prefix_refl _, ?_⟩
    rintro _ last ⟨⟩ _ unused _
    apply replace_unused
    intro entry listed occurs
    exact unused entry listed (occurs.trans (drop_suffix _ _).isInfix)
  | cons span rest ih =>
    obtain ⟨entityPlain, upperPlain⟩ := names span mem_cons_self
    obtain ⟨before, nonnegative, nonempty, bounded, restOrdered⟩ := ordered
    obtain ⟨nextSound, grown, listed⟩ := @tokenFor_sound toUpper session sound
      span.entity (slice text span.start.toNat span.stop.toNat) entityPlain upperPlain
    rw [substituteFrom]
    cases outcome : session.tokenFor toUpper span.entity
      (slice text span.start.toNat span.stop.toNat) with
    | mk result next =>
      rw [outcome] at nextSound grown listed
      cases result with
      | error reason => exact ⟨nextSound, grown, nofun⟩
      | ok token =>
        have stored := listed token rfl
        have reached : (span.stop.toNat : Int) = span.stop := by omega
        rw [← reached] at restOrdered
        have later := @ih next nextSound span.stop.toNat
          (fun other listed => names other (mem_cons_of_mem _ listed)) restOrdered (by omega)
        dsimp only
        cases remaining : next.substituteFrom toUpper text span.stop.toNat rest with
        | mk result final =>
          rw [remaining] at later
          have grownOn := grown.trans later.grown
          cases result with
          | error reason => exact ⟨later.sound, grownOn, nofun⟩
          | ok tail =>
            refine ⟨later.sound, grownOn, ?_⟩
            rintro _ last ⟨⟩ lastSound unused kept
            have restored := later.back rfl lastSound unused kept
            have inLast := kept.subset (later.grown.subset stored)
            rw [lastSound.replace_token _ inLast, restored, append_assoc,
              slice_append_drop text (by omega) (by omega),
              slice_append_drop text (by omega) (by omega)]
            intro entry entryListed occurs
            exact unused entry entryListed (occurs.trans (slice_contained _ _ _))

/-! ### Runs -/

theorem Sound.restore_eq (sound : session.Sound) (text : GoString) :
    (session.restore text).1 = Replace.replace session.pairs text := by
  unfold restore
  split
  next empty =>
    symm
    apply replace_unused
    intro entry listed
    rw [empty] at listed
    cases listed
  next =>
    cases cache : session.replacer with
    | none => rfl
    | some replacer => exact congrArg (Replace.replace · text) (sound.cached replacer cache)

end Session

structure SubstituteCall where
  text : GoString
  answer : Except String (List Span)

namespace Session

/-- The texts and outputs of the calls that succeed, and the session after the last one. -/
def substituteAll (toUpper : GoString → GoString) :
    Session → List SubstituteCall → List (GoString × GoString) × Session
  | session, [] => ([], session)
  | session, call :: rest =>
    match session.substitute toUpper call.text call.answer with
    | (.error _, next) => substituteAll toUpper next rest
    | (.ok output, next) =>
      let (results, final) := substituteAll toUpper next rest
      ((call.text, output) :: results, final)

def PlainCalls (toUpper : GoString → GoString) (calls : List SubstituteCall) : Prop :=
  ∀ call ∈ calls, ∀ spans, call.answer = .ok spans → PlainNames toUpper spans

theorem substitute_reversible {session : Session} (sound : session.Sound) {call : SubstituteCall}
    (names : ∀ spans, call.answer = .ok spans → PlainNames toUpper spans) :
    Reversible session call.text 0 (session.substitute toUpper call.text call.answer) := by
  unfold substitute
  split
  · exact ⟨sound, prefix_refl _, nofun⟩
  next spans answered =>
    split
    · exact ⟨sound, prefix_refl _, nofun⟩
    next accepted =>
      exact substituteFrom_reversible sound (names spans answered)
        (ascends_of_validateSpans accepted) (Nat.zero_le _)

/-- With the tokens of any later state, replacing gives back every text. -/
theorem substituteAll_reversible {session : Session} (sound : session.Sound)
    {calls : List SubstituteCall} (names : PlainCalls toUpper calls) :
    (session.substituteAll toUpper calls).2.Sound ∧
      session.byToken <+: (session.substituteAll toUpper calls).2.byToken ∧
      ∀ last : Session, last.Sound → (∀ call ∈ calls, last.Unused call.text) →
        (session.substituteAll toUpper calls).2.byToken <+: last.byToken →
          ∀ result ∈ (session.substituteAll toUpper calls).1,
            Replace.replace last.pairs result.2 = result.1 := by
  induction calls generalizing session with
  | nil => exact ⟨sound, prefix_refl _, fun _ _ _ _ _ => nofun⟩
  | cons call rest ih =>
    have here := substitute_reversible sound (names call mem_cons_self)
    rw [substituteAll]
    cases outcome : session.substitute toUpper call.text call.answer with
    | mk result next =>
      rw [outcome] at here
      obtain ⟨finalSound, grown, back⟩ := @ih next here.sound
        fun other listed => names other (mem_cons_of_mem _ listed)
      have later := fun (last : Session) lastSound
          (unused : ∀ member ∈ call :: rest, last.Unused member.text) =>
        back last lastSound fun other listed => unused other (mem_cons_of_mem _ listed)
      cases result with
      | error reason => exact ⟨finalSound, here.grown.trans grown, later⟩
      | ok output =>
        refine ⟨finalSound, here.grown.trans grown,
          fun last lastSound unused kept entry listed => ?_⟩
        rcases mem_cons.mp listed with rfl | behind
        · exact here.back rfl lastSound (unused call mem_cons_self) (grown.trans kept)
        · exact later last lastSound unused kept entry behind

/-! ### New sessions -/

end Session

/-- Initial mappings with plain names and delimited tokens, no token for two pairs. -/
structure PlainMappings (mappings : List Mapping) : Prop where
  names : ∀ mapping ∈ mappings, 0 ∉ mapping.entity
  delimited : ∀ mapping ∈ mappings, Delimited 0x5B 0x5D mapping.token
  single : ∀ first ∈ mappings, ∀ second ∈ mappings, first.token = second.token →
    first.entity = second.entity ∧ first.original = second.original

namespace Session

/-- What adding the visited mappings has led to. -/
structure Seeded (mappings : List Mapping) (session : Session) : Prop where
  sound : session.Sound
  seeded : ∀ entry ∈ session.byOriginal, ∃ mapping ∈ mappings,
    entry = (mappingKey mapping.entity mapping.original, mapping.token)

theorem addMapping_seeded {mappings : List Mapping} (plain : PlainMappings mappings)
    {session next : Session} (before : session.Seeded mappings) {mapping : Mapping}
    (listed : mapping ∈ mappings) (added : session.addMapping toUpper mapping = .ok next) :
    next.Seeded mappings := by
  obtain ⟨⟨⟩, _, added⟩ := bind_eq_ok.mp added
  obtain ⟨⟨⟩, _, added⟩ := bind_eq_ok.mp added
  obtain ⟨⟨⟩, _, added⟩ := bind_eq_ok.mp added
  split at added
  · obtain ⟨⟨⟩, _, result⟩ := bind_eq_ok.mp added
    cases result
    exact before
  next newKey =>
    obtain ⟨⟨⟩, _, added⟩ := bind_eq_ok.mp added
    obtain ⟨⟨⟩, room, result⟩ := bind_eq_ok.mp added
    cases result
    rw [refuse_eq_ok] at room
    have newToken : find session.byToken mapping.token = none := by
      rw [find_eq_none]
      intro taken
      obtain ⟨reverse, reversed, same⟩ := mem_map.mp taken
      obtain ⟨stored, storedListed, linkedToken, _⟩ :=
        forall₂_mem before.sound.bijective.linked.flip reversed
      obtain ⟨other, otherListed, rfl⟩ := before.seeded stored storedListed
      have tokens : other.token = mapping.token := linkedToken.trans same
      obtain ⟨entities, originals⟩ := plain.single other otherListed mapping listed tokens
      apply find_eq_none.mp newKey
      rw [← entities, ← originals]
      exact mem_map.mpr ⟨_, storedListed, rfl⟩
    refine ⟨(store_sound before.sound (plain.names mapping listed) newKey newToken room
      (plain.delimited mapping listed)).1, ?_⟩
    intro entry entryListed
    rw [store, assign_absent newKey] at entryListed
    rcases mem_append.mp entryListed with old | new
    · exact before.seeded entry old
    · exact ⟨mapping, listed, mem_singleton.mp new⟩

theorem newSession_sound {options : SessionOptions} {session : Session}
    (unresolved : options.resolver = none)
    (source : ∀ call identifier, options.source call = .ok identifier → Plain identifier)
    (mappings : PlainMappings options.initialMappings)
    (created : newSession toUpper options = .ok session) : session.Sound := by
  obtain ⟨⟨⟩, _, created⟩ := bind_eq_ok.mp created
  obtain ⟨⟨⟩, _, created⟩ := bind_eq_ok.mp created
  obtain ⟨⟨⟩, limits, created⟩ := bind_eq_ok.mp created
  simp only [refuse_eq_ok, decide_eq_false_iff_not] at limits
  have listed : ∀ entry ∈ options.initialMappings.zipIdx, entry.1 ∈ options.initialMappings :=
    fun entry mem => fst_mem_of_mem_zipIdx mem
  have seeded := @foldlM_invariant _ _ _ _ (fun visited session =>
    (∀ entry ∈ visited, entry.1 ∈ options.initialMappings) →
      Session.Seeded options.initialMappings session)
    (by
      intro visited before entry after kept added visitedListed
      have earlier := kept fun other otherListed =>
        visitedListed other (mem_append_left _ otherListed)
      apply addMapping_seeded mappings earlier
        (visitedListed entry (mem_append_right _ (mem_singleton_self _)))
      exact mapError_eq_ok.mp added) [] _ _ _ (by
      intro _
      refine ⟨⟨⟨.nil, nodup_nil, nodup_nil⟩, ⟨?_, rfl, ?_⟩, ?_, ?_, unresolved, source⟩, ?_⟩
      · dsimp only [length_nil]
        omega
      · dsimp only
        omega
      · intro entry mem
        cases mem
      · intro replacer none
        cases none
      · intro entry mem
        cases mem)
    created
  exact (seeded listed).sound

end Session

/-- Substitution and restoration in one session: every text comes back, the maps stay
inverse to each other and within their limits, and a failed `tokenFor` changes neither a
map nor a counter. -/
theorem restore_undoes_substitute (toUpper : GoString → GoString) (options : SessionOptions)
    (session : Session) (calls : List SubstituteCall)
    (created : newSession toUpper options = .ok session) (unresolved : options.resolver = none)
    (source : ∀ call identifier, options.source call = .ok identifier → Plain identifier)
    (mappings : PlainMappings options.initialMappings) (names : Session.PlainCalls toUpper calls)
    (unused : ∀ call ∈ calls, (session.substituteAll toUpper calls).2.Unused call.text) :
    (∀ result ∈ (session.substituteAll toUpper calls).1,
        ((session.substituteAll toUpper calls).2.restore result.2).1 = result.1) ∧
      (session.substituteAll toUpper calls).2.Bijective ∧
      (session.substituteAll toUpper calls).2.Accounted ∧
      ∀ (state next : Session) (entity original : GoString) (reason : String),
        state.tokenFor toUpper entity original = (.error reason, next) →
          next = { state with drawn := next.drawn } := by
  have sound := Session.newSession_sound unresolved source mappings created
  obtain ⟨finalSound, _, back⟩ := Session.substituteAll_reversible sound names
  refine ⟨?_, finalSound.bijective, finalSound.accounted, ?_⟩
  · intro result listed
    rw [finalSound.restore_eq]
    exact back _ finalSound unused (prefix_refl _) result listed
  · intro state next entity original reason failed
    exact Session.tokenFor_failed failed

/-! ### Two sample sessions -/

/-- Hands out the digits from 1 to 9 over and over. -/
def countingOptions : SessionOptions where
  source call := .ok [0x31 + (call % 9).toUInt8]

def countingSession : Session where
  entities := defaultEntities
  maximumMappings := 4096
  maximumOriginalBytes := 4194304
  source call := .ok [0x31 + (call % 9).toUInt8]

def addressCall : SubstituteCall where
  text := ascii "hi bob@x.io"
  answer := .ok [⟨3, 11, ascii "email"⟩]

/-- An entity name that contains the end of a token. -/
def bracketedCall : SubstituteCall where
  text := ascii "xy"
  answer := .ok [⟨0, 1, ascii "a"⟩, ⟨1, 2, ascii "a_1]]b"⟩]

theorem countingSession_created : newSession asciiUpper countingOptions = .ok countingSession :=
  rfl

theorem counting_plain (call : Nat) (identifier : GoString)
    (answered : countingOptions.source call = .ok identifier) : Plain identifier := by
  have every : ∀ digit : Fin 9, 0x5B ∉ [(0x31 : UInt8) + digit.val.toUInt8] ∧
      0x5D ∉ [(0x31 : UInt8) + digit.val.toUInt8] := by
    decide
  cases answered
  exact every ⟨call % 9, Nat.mod_lt _ (by decide)⟩

theorem restore_undoes_substitute_address :
    newSession asciiUpper countingOptions = .ok countingSession ∧
      (countingSession.substituteAll asciiUpper [addressCall]).1 =
        [(ascii "hi bob@x.io", ascii "hi [[SPARKROUTE_PII_EMAIL_1]]")] ∧
      ∀ result ∈ (countingSession.substituteAll asciiUpper [addressCall]).1,
        ((countingSession.substituteAll asciiUpper [addressCall]).2.restore result.2).1 =
          result.1 := by
  refine ⟨countingSession_created, by decide +kernel, ?_⟩
  apply (restore_undoes_substitute asciiUpper countingOptions countingSession [addressCall]
    countingSession_created rfl counting_plain
    ⟨fun _ listed => (nomatch listed), fun _ listed => (nomatch listed),
      fun _ listed => (nomatch listed)⟩ _ _).1
  · intro call listed spans answered
    rw [mem_singleton.mp listed] at answered
    cases answered
    intro span spanListed
    rw [mem_singleton.mp spanListed]
    exact ⟨by decide +kernel, by decide +kernel, by decide +kernel⟩
  · intro call listed entry stored
    rw [mem_singleton.mp listed]
    have tokens : (countingSession.substituteAll asciiUpper [addressCall]).2.byToken =
        [(ascii "[[SPARKROUTE_PII_EMAIL_1]]", ascii "bob@x.io")] := by
      decide +kernel
    rw [mem_singleton.mp stored]
    decide +kernel

/-- One token is the beginning of another, and `restore` takes it for the whole. -/
theorem bracketed_entity_not_restored :
    newSession asciiUpper countingOptions = .ok countingSession ∧
      (∀ spans, bracketedCall.answer = .ok spans →
        validateSpans bracketedCall.text spans = .ok ()) ∧
      (countingSession.substituteAll asciiUpper [bracketedCall]).2.Unused bracketedCall.text ∧
      (countingSession.substituteAll asciiUpper [bracketedCall]).1 =
        [(ascii "xy", ascii "[[SPARKROUTE_PII_A_1]][[SPARKROUTE_PII_A_1]]B_2]]")] ∧
      ((countingSession.substituteAll asciiUpper [bracketedCall]).2.restore
        (ascii "[[SPARKROUTE_PII_A_1]][[SPARKROUTE_PII_A_1]]B_2]]")).1 = ascii "xxB_2]]" := by
  have tokens : (countingSession.substituteAll asciiUpper [bracketedCall]).2.byToken =
      [(ascii "[[SPARKROUTE_PII_A_1]]", ascii "x"),
        (ascii "[[SPARKROUTE_PII_A_1]]B_2]]", ascii "y")] := by
    decide +kernel
  have fresh : (countingSession.substituteAll asciiUpper [bracketedCall]).2.replacer = none := rfl
  have sorted : (countingSession.substituteAll asciiUpper [bracketedCall]).2.pairs =
      [(ascii "[[SPARKROUTE_PII_A_1]]", ascii "x"),
        (ascii "[[SPARKROUTE_PII_A_1]]B_2]]", ascii "y")] := by
    apply sortByKey_eq_self
    exact pairwise_pair.mpr (by decide +kernel)
  refine ⟨countingSession_created, ?_, ?_, by decide +kernel, ?_⟩
  · intro spans answered
    cases answered
    decide +kernel
  · intro entry stored
    rcases mem_cons.mp stored with rfl | later
    · decide +kernel
    · rw [mem_singleton.mp later]
      decide +kernel
  · rw [Session.restore, tokens, if_neg (cons_ne_nil _ _), fresh, Option.getD_none, sorted]
    decide +kernel

end SparkRoute.Pii
