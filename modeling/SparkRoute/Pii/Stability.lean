import SparkRoute.Pii.Composition
import SparkRoute.Pii.Restoration
import SparkRoute.Pii.Stream

/-!
# A second pass over masked text

No pattern has a class for square brackets, so a marker or token parts the text for the
detector.  What a second pass finds lies between the spans of the first: the rest of a match
that was passed over because it overlapped or touched a span.
-/

namespace SparkRoute.Pii

open Lib List

/-- A marker or token whose name and identifier are letters, digits and underscores. -/
def WordToken (token : GoString) : Prop :=
  ∃ words, (∀ byte ∈ words, isWord byte = true) ∧
    token = opaqueTokenPrefix ++ words ++ ascii "]]"

/-- The texts before, between and behind the spans. -/
def between (text : GoString) : Nat → List Span → List GoString
  | position, [] => [text.drop position]
  | position, span :: rest =>
    slice text position span.start.toNat :: between text span.stop.toNat rest

/-- The text from `low` to `high` lies between standing matches and the ends of the whole. -/
structure Gap (entities : List GoString) (text : GoString) (low high : Nat) : Prop where
  order : low ≤ high
  within : high ≤ text.length
  starts : low = 0 ∨ ∃ candidate, Standing entities text candidate ∧ candidate.stop = low
  ends : high = text.length ∨ ∃ candidate, Standing entities text candidate ∧ candidate.start = high
  clear : ∀ candidate, Standing entities text candidate →
    candidate.stop ≤ low ∨ high ≤ candidate.start

/-- A match of an enabled pattern reaches into a gap out of the standing match before it, or out
of the one behind it, or touches that one. -/
def Reached (entities : List GoString) (text : GoString) (low high : Nat) : Prop :=
  ∃ candidate, Standing entities text candidate ∧ ∃ entity ∈ enabled entities,
    ∃ range ∈ entity.pattern.findAll text,
      (candidate.stop = low ∧ range.start ≤ low ∧ low < range.stop) ∨
        (candidate.start = high ∧ range.start < high ∧ high ≤ range.stop)

/-- Where a match is cut off by a standing one, the text that is left has no match of its own
that passes the checks. -/
def CutsClean (entities : List GoString) (text : GoString) : Prop :=
  ∀ low high, Gap entities text low high → Reached entities text low high →
    ∀ candidate, ¬ Accepted entities (slice text low high) candidate

/-- A match of an enabled pattern that overlaps or touches a standing one lies within it. -/
def Contained (entities : List GoString) (text : GoString) : Prop :=
  ∀ candidate, Standing entities text candidate → ∀ entity ∈ enabled entities,
    ∀ range ∈ entity.pattern.findAll text, range.start ≤ candidate.stop →
      candidate.start ≤ range.stop → candidate.start ≤ range.start ∧ range.stop ≤ candidate.stop

/-- Every token of the session for a built-in entity, stored or still to be made, is one of
letters, digits and underscores. -/
structure Session.Worded (toUpper : GoString → GoString) (session : Session) : Prop where
  stored : ∀ entry ∈ session.byOriginal, WordToken entry.2
  offered : ∀ (entity : BuiltinEntity) drawn original token,
    { session with drawn }.createToken toUpper entity.name original = .ok token → WordToken token

/-! ### Brackets part the text -/

variable {entities : List GoString} {text : GoString}

theorem detected_border {more : GoString} (uncut : Uncut entities text more)
    (clear : ∀ candidate ∈ sortedCandidates entities text, startsClear more = true)
    (kept : ∀ candidate ∈ sortedCandidates entities more,
      candidate.start ≠ 0 ∨ endsClear text = true) :
    detected entities (text ++ more) =
      detected entities text ++ (detected entities more).map (Candidate.shift text.length) := by
  have before : (sortedCandidates entities text).filter (keptBefore text more) =
      sortedCandidates entities text := by
    rw [filter_eq_self]
    intro candidate listed
    obtain ⟨nonempty, within⟩ := sortedCandidates_bounded listed
    have boundary := (mem_sortedCandidates.mp listed).2.2.1
    rw [keptBefore, asciiBoundary_before text more nonempty within, boundary,
      clear candidate listed, Bool.or_true, Bool.and_true]
  rw [detected_append uncut, before, filter_keptBehind kept]
  rfl

/-- A match that passes its checks starts inside a reported span. -/
theorem detected_of_listed {candidate : Candidate}
    (listed : candidate ∈ sortedCandidates entities text) :
    Detected entities text candidate.start := by
  rcases mem_select_or_inside Candidate.key_injective (sortByKey_sorted Candidate.key _)
    (Nat.zero_le _) listed with chosen | ⟨other, chosen, before, inside⟩
  · exact ⟨candidate, chosen, le_rfl, (sortedCandidates_bounded listed).1⟩
  · exact ⟨other, chosen, start_le_of_key_le before.le, inside⟩

theorem detected_eq_nil_iff :
    detected entities text = [] ↔ ∀ candidate, candidate ∉ sortedCandidates entities text := by
  constructor
  · intro silent candidate listed
    obtain ⟨other, chosen, _⟩ := detected_of_listed listed
    rw [silent] at chosen
    cases chosen
  · intro none
    rw [detected, eq_nil_iff_forall_not_mem.mpr none]
    rfl

alias ⟨_, detected_eq_nil⟩ := detected_eq_nil_iff

theorem detected_nil : detected entities [] = [] := by
  apply detected_eq_nil
  intro candidate listed
  have bounded := sortedCandidates_bounded listed
  rw [length_nil] at bounded
  omega

theorem pattern_foreign (entity : BuiltinEntity) : ∀ accepts ∈ entity.pattern.classes,
    accepts 0x5B = false ∧ accepts 0x5D = false ∧ (entity ≠ .email → accepts 0x53 = false) := by
  rw [← forall_iff_forall_mem]
  cases entity <;> decide +kernel

section

variable {bracket : UInt8} (isBracket : bracket = 0x5B ∨ bracket = 0x5D)
  {entity : BuiltinEntity} {range : Regex.Range}

include isBracket

theorem match_avoids (listed : range ∈ entity.pattern.findAll text) {position : Nat}
    (stands : text[position]? = some bracket) :
    ¬ (range.start ≤ position ∧ position < range.stop) := by
  rintro ⟨above, below⟩
  refine Regex.findAll_foreign listed (fun accepts mem => ?_) above below stands
  obtain ⟨opening, closing, _⟩ := pattern_foreign entity accepts mem
  obtain rfl | rfl := isBracket
  · exact opening
  · exact closing

theorem match_behind_bracket
    (listed : range ∈ entity.pattern.findAll (bracket :: text)) : range.start ≠ 0 := by
  have avoids := match_avoids isBracket listed getElem?_cons_zero
  have nonempty := (Regex.findAll_bounded _ _ range listed).1
  omega

theorem detected_bracket (before behind : GoString) :
    detected entities (before ++ bracket :: behind) = detected entities before ++
      (detected entities behind).map (Candidate.shift (before.length + 1)) := by
  have clear : isWord bracket = false := by
    obtain rfl | rfl := isBracket <;> rfl
  have none (candidate : Candidate) : candidate ∉ sortedCandidates entities [bracket] := by
    intro listed
    have bounded := sortedCandidates_bounded listed
    rw [length_singleton] at bounded
    have later := match_behind_bracket isBracket (mem_sortedCandidates.mp listed).2.1
    dsimp only at later
    omega
  have single : detected entities ([bracket] ++ behind) =
      (detected entities behind).map (Candidate.shift 1) := by
    rw [detected_border, detected_eq_nil none]
    · rfl
    · intro entity _ range listed starts
      exact absurd (Nat.lt_one_iff.mp starts) (match_behind_bracket isBracket listed)
    · exact fun candidate listed => absurd listed (none candidate)
    · exact fun _ _ => Or.inr (by simp [endsClear, clear])
  rw [detected_border]
  · rw [← singleton_append, single, map_map]
    simp only [Function.comp_def, Candidate.shift, Nat.add_assoc, Nat.add_comm 1]
    rfl
  · intro entity _ range listed starts
    have avoids := match_avoids isBracket listed (getElem?_append_right le_rfl |>.trans (by simp))
    omega
  · exact fun _ _ => by simp [startsClear, clear]
  · exact fun candidate listed =>
      Or.inl (match_behind_bracket isBracket (mem_sortedCandidates.mp listed).2.1)

end

theorem detected_words (words : ∀ byte ∈ text, isWord byte = true)
    (front : text[0]? = some 0x53) : detected entities text = [] := by
  apply detected_eq_nil
  intro candidate listed
  have bounded := sortedCandidates_bounded listed
  obtain ⟨_, found, boundary, _⟩ := mem_sortedCandidates.mp listed
  have atFront : candidate.start = 0 := by
    by_contra later
    have inside : candidate.start - 1 < text.length := by omega
    have word := words _ (getElem_mem inside)
    have left := (Bool.and_eq_true_iff.mp boundary).1
    rw [getElem?_eq_getElem inside] at left
    simp [later, word] at left
  by_cases email : candidate.entity = .email
  · obtain ⟨length, _, matched⟩ := Regex.findAll_matched _ _ _ found
    rw [email] at matched
    obtain ⟨byte, inside, sign⟩ := Regex.letter_of_ends (mem_of_head? matched)
    have word := words byte (mem_of_mem_drop inside)
    rw [beq_iff_eq.mp sign] at word
    cases word
  · exact Regex.findAll_foreign found
      (fun accepts mem => (pattern_foreign _ accepts mem).2.2 email) atFront.le
      (atFront ▸ bounded.1) front

/-- A token reports nothing and parts the text. -/
theorem detected_token {token : GoString} (worded : WordToken token) (before behind : GoString) :
    detected entities (before ++ token ++ behind) = detected entities before ++
      (detected entities behind).map (Candidate.shift (before.length + token.length)) := by
  obtain ⟨words, all, rfl⟩ := worded
  have opening : opaqueTokenPrefix = 0x5B :: 0x5B :: ascii "SPARKROUTE_PII_" := by decide +kernel
  have closing : ascii "]]" = [0x5D, 0x5D] := by decide +kernel
  have inner : detected entities (ascii "SPARKROUTE_PII_" ++ words) = [] := by
    apply detected_words
    · exact forall_mem_append.mpr ⟨by decide +kernel, all⟩
    · rfl
  have parts : before ++ (opaqueTokenPrefix ++ words ++ ascii "]]") ++ behind =
      before ++ 0x5B :: ([] ++ 0x5B :: ((ascii "SPARKROUTE_PII_" ++ words) ++
        0x5D :: ([] ++ 0x5D :: behind))) := by
    rw [opening, closing]
    simp
  rw [parts, detected_bracket (.inl rfl), detected_bracket (.inl rfl), detected_bracket (.inr rfl),
    detected_bracket (.inr rfl), inner, detected_nil]
  simp only [nil_append, map_map]
  congr 1
  apply map_congr_left
  intro candidate _
  simp [Candidate.shift, opening, closing]
  omega

/-! ### The texts between the spans -/

theorem Standing.bounded {candidate : Candidate} (standing : Standing entities text candidate) :
    candidate.start < candidate.stop ∧ candidate.stop ≤ text.length :=
  sortedCandidates_bounded ((select_sublist 0 _).subset (standing_iff.mp standing))

variable {low high : Nat}

section

variable (unreached : ¬ Reached entities text low high) {span : Candidate}
  (standing : Standing entities text span) {entity : BuiltinEntity}
  (requested : entity ∈ enabled entities) {range : Regex.Range}
  (listed : range ∈ entity.pattern.findAll text)

include unreached standing requested listed

theorem stop_le_low (border : span.stop = low) (before : range.start ≤ low) :
    range.stop ≤ low := by
  by_contra reaches
  exact unreached ⟨span, standing, entity, requested, range, listed,
    .inl ⟨border, before, Nat.lt_of_not_le reaches⟩⟩

theorem stop_lt_high (border : span.start = high) (before : range.start < high) :
    range.stop < high := by
  by_contra reaches
  exact unreached ⟨span, standing, entity, requested, range, listed,
    .inr ⟨border, before, Nat.le_of_not_lt reaches⟩⟩

end

/-- A gap into which no match reaches out of a standing one has nothing to report. -/
theorem Gap.silent (gap : Gap entities text low high)
    (unreached : ¬ Reached entities text low high) :
    detected entities (slice text low high) = [] := by
  obtain ⟨order, within, starts, ends, clear⟩ := gap
  have lowLength : (text.take low).length = low := length_take_of_le (order.trans within)
  have length : (slice text low high).length = high - low := by
    rw [slice, length_drop, length_take_of_le within]
  have joined := slice_append_drop text order within
  have cutLow : Uncut entities (text.take low) (text.drop low) := by
    intro entity requested range listed before
    rw [lowLength] at before ⊢
    rw [take_append_drop] at listed
    obtain rfl | ⟨span, standing, border⟩ := starts
    · exact absurd before (Nat.not_lt_zero _)
    · exact stop_le_low unreached standing requested listed border before.le
  have shifted {entity : BuiltinEntity} (requested : entity ∈ enabled entities)
      {range : Regex.Range} (listed : range ∈ entity.pattern.findAll (text.drop low)) :
      range.shift low ∈ entity.pattern.findAll text := by
    have moved := cutLow.shifted requested listed
    rwa [lowLength, take_append_drop] at moved
  have cutHigh : Uncut entities (slice text low high) (text.drop high) := by
    intro entity requested range listed before
    rw [length] at before ⊢
    rw [joined] at listed
    have moved := shifted requested listed
    obtain rfl | ⟨span, standing, border⟩ := ends
    · have bounded := (Regex.findAll_bounded _ _ _ moved).2
      simp only [Regex.Range.shift] at bounded
      omega
    · have inside := stop_lt_high unreached standing requested moved border
      simp only [Regex.Range.shift] at inside
      omega
  apply detected_eq_nil
  intro candidate listed
  obtain ⟨nonempty, bounded⟩ := sortedCandidates_bounded listed
  rw [length] at bounded
  obtain ⟨requested, matched, boundary, valid⟩ := mem_sortedCandidates.mp listed
  have found := Regex.findAll_append _ _ _ (cutHigh _ requested)
  rw [joined] at found
  have moved := shifted requested (found ▸ mem_append_left _ matched)
  simp only [Regex.Range.shift] at moved
  -- The match touches no span, so the checks at its ends give the same in the whole text.
  have before : keptBefore (slice text low high) (text.drop high) candidate = true := by
    rw [keptBefore, asciiBoundary_before _ _ nonempty (length ▸ bounded), boundary, length]
    obtain rfl | ⟨span, standing, border⟩ := ends
    · simp [startsClear]
    · have inside := stop_lt_high unreached standing requested moved border
      have apart : candidate.stop ≠ high - low := by
        dsimp only at inside
        omega
      simp [apart]
  have behind : keptBehind (text.take low) (text.drop low) candidate = true := by
    have whole := before
    rw [keptBefore, joined] at whole
    rw [keptBehind, asciiBoundary_behind, whole]
    obtain rfl | ⟨span, standing, border⟩ := starts
    · simp [endsClear]
    · have inside := stop_le_low unreached standing requested moved border
      have apart : candidate.start ≠ 0 := by
        dsimp only at inside
        omega
      simp [apart]
  have whole : candidate.shift low ∈ sortedCandidates entities text := by
    rw [← take_append_drop low text, sortedCandidates_append cutLow]
    refine mem_append_right _ (mem_map.mpr ⟨candidate, mem_filter.mpr ⟨?_, behind⟩, ?_⟩)
    · rw [← joined, sortedCandidates_append cutHigh]
      exact mem_append_left _ (mem_filter.mpr ⟨listed, before⟩)
    · rw [lowLength]
  obtain ⟨span, chosen, above, below⟩ := detected_of_listed whole
  simp only [Candidate.shift] at above below
  have apart := clear span (standing_iff.mpr chosen)
  omega

theorem Contained.cutsClean (contained : Contained entities text) : CutsClean entities text := by
  rintro low high - ⟨span, standing, entity, requested, range, listed, reaches⟩
  have nonempty := standing.bounded.1
  have inside := contained span standing entity requested range listed
  omega

theorem cutsClean_iff : CutsClean entities text ↔
    ∀ low high, Gap entities text low high → detected entities (slice text low high) = [] := by
  constructor
  · intro clean low high gap
    by_cases reached : Reached entities text low high
    · exact detected_eq_nil fun candidate listed =>
        clean low high gap reached candidate (mem_sortedCandidates.mp listed)
    · exact gap.silent reached
  · intro silent low high gap _ candidate accepted
    exact detected_eq_nil_iff.mp (silent low high gap) candidate
      (mem_sortedCandidates.mpr accepted)

/-! The rests between the reported spans are the gaps. -/

theorem detected_disjoint (entities : List GoString) (text : GoString) :
    (detected entities text).Pairwise fun first second => first.stop ≤ second.start :=
  (select_disjoint (fun _ listed => (sortedCandidates_bounded listed).1) 0).1

theorem gap_of_mem_between {front spans : List Candidate}
    (parts : detected entities text = front ++ spans) {position : Nat}
    (starts : position = 0 ∨ ∃ candidate, Standing entities text candidate ∧
      candidate.stop = position)
    (passed : ∀ candidate ∈ front, candidate.stop ≤ position)
    (ahead : ∀ candidate ∈ spans, position ≤ candidate.start) :
    ∀ rest ∈ between text position (spans.map Candidate.span),
      ∃ low high, Gap entities text low high ∧ rest = slice text low high := by
  induction spans generalizing front position with
  | nil =>
    rw [append_nil] at parts
    have within : position ≤ text.length := by
      obtain rfl | ⟨candidate, standing, rfl⟩ := starts
      · exact Nat.zero_le _
      · exact standing.bounded.2
    refine forall_mem_singleton.mpr ⟨position, text.length, ⟨within, le_rfl, starts, .inl rfl, ?_⟩,
      ?_⟩
    · exact fun candidate standing => .inl (passed candidate (parts ▸ standing_iff.mp standing))
    · rw [slice, take_length]
  | cons span spans ih =>
    have disjoint := detected_disjoint entities text
    rw [parts] at disjoint
    obtain ⟨_, later, across⟩ := pairwise_append.mp disjoint
    have behind := (pairwise_cons.mp later).1
    have own : Standing entities text span :=
      standing_iff.mpr (parts ▸ mem_append_right _ mem_cons_self)
    obtain ⟨nonempty, bounded⟩ := own.bounded
    refine forall_mem_cons.mpr ⟨⟨position, span.start, ⟨ahead span mem_cons_self,
      nonempty.le.trans bounded, starts, .inr ⟨span, own, rfl⟩, ?_⟩, rfl⟩, ?_⟩
    · intro candidate standing
      have listed := standing_iff.mp standing
      rw [parts] at listed
      rcases mem_append.mp listed with earlier | next
      · exact .inl (passed candidate earlier)
      · rcases mem_cons.mp next with rfl | next
        · exact .inr le_rfl
        · exact .inr (nonempty.le.trans (behind candidate next))
    · refine ih (parts.trans (append_cons _ _ _)) (.inr ⟨span, own, rfl⟩) ?_ behind
      refine forall_mem_append.mpr ⟨fun candidate earlier => ?_, forall_mem_singleton.mpr le_rfl⟩
      exact (across candidate earlier span mem_cons_self).trans nonempty.le

theorem slice_mem_between {spans : List Candidate} {position : Nat}
    (disjoint : spans.Pairwise fun first second => first.stop ≤ second.start)
    (bounded : ∀ span ∈ spans, span.start < span.stop ∧ span.stop ≤ text.length)
    (ahead : ∀ span ∈ spans, position ≤ span.start) (nonempty : low < high)
    (starts : low = position ∨ ∃ span ∈ spans, span.stop = low)
    (ends : high = text.length ∨ ∃ span ∈ spans, span.start = high)
    (clear : ∀ span ∈ spans, span.stop ≤ low ∨ high ≤ span.start) :
    slice text low high ∈ between text position (spans.map Candidate.span) := by
  induction spans generalizing position with
  | nil =>
    obtain rfl := starts.resolve_right fun ⟨_, listed, _⟩ => not_mem_nil listed
    obtain rfl := ends.resolve_right fun ⟨_, listed, _⟩ => not_mem_nil listed
    rw [slice, take_length]
    exact mem_singleton_self _
  | cons span rest ih =>
    obtain ⟨behind, later⟩ := pairwise_cons.mp disjoint
    obtain ⟨⟨spanNonempty, spanWithin⟩, restBounded⟩ := forall_mem_cons.mp bounded
    obtain ⟨spanAhead, _⟩ := forall_mem_cons.mp ahead
    obtain ⟨spanClear, restClear⟩ := forall_mem_cons.mp clear
    rw [exists_mem_cons_iff] at starts ends
    by_cases front : low = position
    · have same : high = span.start := by
        rcases ends with whole | same | ⟨other, listed, same⟩
        · omega
        · exact same.symm
        · have above := behind other listed
          omega
      subst front same
      exact mem_cons_self
    · refine mem_cons_of_mem _ (ih later restBounded behind ?_ ?_ restClear)
      · rcases starts with same | same | inside
        · exact absurd same front
        · exact .inl same.symm
        · exact .inr inside
      · refine ends.imp_right fun found => found.resolve_left fun same => ?_
        rcases starts with atFront | own | ⟨other, listed, own⟩
        · exact front atFront
        · omega
        · have above := behind other listed
          have wide := restBounded other listed
          omega

theorem between_silent_iff :
    (∀ rest ∈ between text 0 ((detected entities text).map Candidate.span),
      detected entities rest = []) ↔ CutsClean entities text := by
  rw [cutsClean_iff]
  constructor
  · intro silent low high gap
    by_cases nonempty : low < high
    · refine silent _ (slice_mem_between (detected_disjoint entities text) (fun span listed => ?_)
        (by simp) nonempty ?_ ?_ fun span listed => gap.clear span (standing_iff.mpr listed))
      · exact (standing_iff.mpr listed).bounded
      · simpa only [standing_iff] using gap.starts
      · simpa only [standing_iff] using gap.ends
    · have empty : slice text low high = [] := by
        rw [slice, drop_eq_nil_iff, length_take_of_le gap.within]
        omega
      rw [empty, detected_nil]
  · intro silent rest listed
    obtain ⟨low, high, gap, rfl⟩ := gap_of_mem_between (nil_append _).symm (.inl rfl) (by simp)
      (fun candidate _ => Nat.zero_le _) rest listed
    exact silent low high gap

/-! ### Both ways of masking -/

variable {toUpper : GoString → GoString}

section

variable {spans : List Span}

theorem redacted_silent_iff
    (markers : ∀ span ∈ spans, WordToken ((Write.marker span.entity).render toUpper text))
    (position : Nat) :
    detected entities ((redactWrites text position spans).flatMap (Write.render toUpper text)) =
      [] ↔ ∀ rest ∈ between text position spans, detected entities rest = [] := by
  induction spans generalizing position with
  | nil => simp [redactWrites, Write.render, between, slice]
  | cons span spans ih =>
    obtain ⟨marker, markers⟩ := forall_mem_cons.mp markers
    rw [redactWrites, between, forall_mem_cons, ← ih markers span.stop.toNat, flatMap_cons,
      flatMap_cons, ← append_assoc, detected_token marker, append_eq_nil_iff, map_eq_nil_iff]
    rfl

namespace Session

variable {session : Session}

theorem tokenFor_worded (worded : session.Worded toUpper) (entity : BuiltinEntity)
    (original : GoString) :
    (session.tokenFor toUpper entity.name original).2.Worded toUpper ∧
      ∀ token, (session.tokenFor toUpper entity.name original).1 = .ok token → WordToken token := by
  rcases tokenFor_cases toUpper session entity.name original with
    ⟨token, known, outcome⟩ |
      ⟨cause, drawn, outcome⟩ | ⟨token, newKey, _, created, _, outcome⟩
  · rw [outcome]
    refine ⟨worded, ?_⟩
    rintro _ ⟨⟩
    exact worded.stored _ (mem_of_find known)
  · rw [outcome]
    exact ⟨⟨worded.stored, worded.offered⟩, nofun⟩
  · rw [outcome]
    have word := worded.offered entity session.drawn original token created
    refine ⟨⟨?_, worded.offered⟩, ?_⟩
    · change ∀ entry ∈ assign session.byOriginal _ token, _
      rw [assign_absent newKey]
      exact forall_mem_append.mpr ⟨worded.stored, forall_mem_singleton.mpr word⟩
    · rintro _ ⟨⟩
      exact word

theorem substituted_silent_iff (worded : session.Worded toUpper)
    (named : ∀ span ∈ spans, ∃ entity : BuiltinEntity, span.entity = entity.name) {position : Nat}
    {output : GoString}
    (substituted : (session.substituteFrom toUpper text position spans).1 = .ok output) :
    detected entities output = [] ↔
      ∀ rest ∈ between text position spans, detected entities rest = [] := by
  induction spans generalizing session position output with
  | nil =>
    cases substituted
    simp [between]
  | cons span spans ih =>
    obtain ⟨⟨entity, own⟩, named⟩ := forall_mem_cons.mp named
    obtain ⟨nextWorded, token⟩ := tokenFor_worded worded entity
      (slice text span.start.toNat span.stop.toNat)
    rw [substituteFrom, own] at substituted
    cases outcome : session.tokenFor toUpper entity.name
      (slice text span.start.toNat span.stop.toNat) with
    | mk result next =>
      rw [outcome] at substituted nextWorded token
      cases result with
      | error reason => cases substituted
      | ok made =>
        dsimp only at substituted
        cases later : next.substituteFrom toUpper text span.stop.toNat spans with
        | mk result final =>
          rw [later] at substituted
          cases result with
          | error reason => cases substituted
          | ok tail =>
            cases substituted
            rw [between, forall_mem_cons, ← ih nextWorded named (congrArg Prod.fst later),
              detected_token (token made rfl), append_eq_nil_iff, map_eq_nil_iff]

end Session

end

/-- A second pass finds nothing exactly if no match that a standing one cuts off leaves a match
behind, and so if every match that meets a standing one lies within it; and no span ever overlaps
a token. -/
theorem redaction_stable_iff (toUpper : GoString → GoString) (entities : List GoString)
    (text : GoString)
    (words : ∀ entity : BuiltinEntity, ∀ byte ∈ toUpper entity.name, isWord byte = true) :
    (∀ output, redact toUpper (builtin none none) entities text = .ok output →
      (detected entities output = [] ↔ CutsClean entities text)) ∧
    (∀ (session : Session) output, session.Worded toUpper →
      (session.substitute toUpper text (detectBuiltin none text entities)).1 = .ok output →
      (detected entities output = [] ↔ CutsClean entities text)) ∧
    (Contained entities text → CutsClean entities text) ∧
    ∀ before token behind, WordToken token →
      ∀ candidate ∈ detected entities (before ++ token ++ behind),
        candidate.stop ≤ before.length ∨ before.length + token.length ≤ candidate.start := by
  have named : ∀ span ∈ (detected entities text).map Candidate.span,
      ∃ entity : BuiltinEntity, span.entity = entity.name :=
    forall_mem_map.mpr fun candidate _ => ⟨candidate.entity, rfl⟩
  refine ⟨?_, ?_, Contained.cutsClean, ?_⟩
  · intro output redacted
    obtain ⟨spans, found, checked⟩ := bind_eq_ok.mp redacted
    cases found
    obtain ⟨⟨⟩, _, result⟩ := bind_eq_ok.mp checked
    cases result
    rw [← between_silent_iff]
    refine redacted_silent_iff (fun span listed => ?_) 0
    obtain ⟨entity, same⟩ := named span listed
    have closing : ascii "_REDACTED]]" = ascii "_REDACTED" ++ ascii "]]" := by decide +kernel
    refine ⟨toUpper entity.name ++ ascii "_REDACTED", ?_, ?_⟩
    · exact forall_mem_append.mpr ⟨words entity, by decide +kernel⟩
    · rw [Write.render, same, closing]
      simp only [append_assoc]
      rfl
  · intro session output worded substituted
    unfold Session.substitute detectBuiltin at substituted
    dsimp only at substituted
    rw [← between_silent_iff]
    split at substituted
    next => cases substituted
    next => exact Session.substituted_silent_iff worded named substituted
  · intro before token behind worded candidate listed
    rw [detected_token worded] at listed
    rcases mem_append.mp listed with earlier | later
    · exact .inl (standing_iff.mpr earlier).bounded.2
    · obtain ⟨original, _, rfl⟩ := mem_map.mp later
      exact .inr (Nat.le_add_left _ _)

/-- The telephone number is passed over because it overlaps the address before it, and the
digits that stay behind are a telephone number too. -/
theorem number_behind_address :
    redact (fun _ => ascii "EMAIL") (builtin none none) [ascii "email", ascii "phone"]
      (ascii "a@b.1 5555555555") = .ok (ascii "[[SPARKROUTE_PII_EMAIL_REDACTED]] 5555555555") ∧
    detected [ascii "email", ascii "phone"]
      (ascii "[[SPARKROUTE_PII_EMAIL_REDACTED]] 5555555555") = [⟨.phone, 34, 44⟩] := by
  have found : (enabled [ascii "email", ascii "phone"]).flatMap
      (fun entity => entity.candidates (ascii "a@b.1 5555555555")) =
        [⟨.email, 0, 5⟩, ⟨.phone, 4, 16⟩] := by
    decide +kernel
  have chosen : detected [ascii "email", ascii "phone"] (ascii "a@b.1 5555555555") =
      [⟨.email, 0, 5⟩] := by
    rw [detected, sortedCandidates, found, sortByKey_eq_self]
    · rfl
    · simpa using Candidate.key_le_of_start_lt (by decide)
  constructor
  · simp only [redact, builtin, detectBuiltin, chosen]
    decide +kernel
  · decide +kernel

theorem redaction_stable_iff_address :
    detected [ascii "email", ascii "phone"] (ascii
      "to [[SPARKROUTE_PII_EMAIL_REDACTED]] or [[SPARKROUTE_PII_PHONE_REDACTED]]") = [] := by
  have words (entity : BuiltinEntity) : ∀ byte ∈ asciiUpper entity.name, isWord byte = true := by
    cases entity <;> decide +kernel
  have found : (enabled [ascii "email", ascii "phone"]).flatMap
      (fun entity => entity.candidates (ascii "to a@b.co or 3125550199")) =
        [⟨.email, 3, 9⟩, ⟨.phone, 13, 23⟩] := by
    decide +kernel
  have chosen : detected [ascii "email", ascii "phone"] (ascii "to a@b.co or 3125550199") =
      [⟨.email, 3, 9⟩, ⟨.phone, 13, 23⟩] := by
    rw [detected, sortedCandidates, found, sortByKey_eq_self]
    · rfl
    · simpa using Candidate.key_le_of_start_lt (by decide)
  have contained : Contained [ascii "email", ascii "phone"] (ascii "to a@b.co or 3125550199") := by
    intro candidate standing
    have listed := standing_iff.mp standing
    rw [chosen] at listed
    clear standing
    revert candidate
    decide +kernel
  obtain ⟨stable, _, clean, _⟩ := redaction_stable_iff asciiUpper [ascii "email", ascii "phone"]
    (ascii "to a@b.co or 3125550199") words
  refine (stable _ ?_).mpr (clean contained)
  simp only [redact, builtin, detectBuiltin, chosen]
  decide +kernel

end SparkRoute.Pii
