import SparkRoute.Pii.Composition
import SparkRoute.Pii.Stream

/-!
# What a stream gives away

A cut is clean when no match of an enabled pattern in the whole text contains it, and a
match that starts right there in the middle of a word hides no longer one.  A stream
whose cuts are clean copies no byte that unary redaction would hide.
-/

namespace SparkRoute.Pii

open Lib List Candidate

def cutsOf : List GoString → List Nat
  | [] => []
  | [_] => []
  | segment :: rest => segment.length :: (cutsOf rest).map (segment.length + ·)

structure CleanCut (entities : List GoString) (whole : GoString) (cut : Nat) : Prop where
  uncut : ∀ entity ∈ enabled entities, ∀ range ∈ entity.pattern.findAll whole,
    range.start < cut → range.stop ≤ cut
  covering : ∀ entity ∈ enabled entities, ∀ range ∈ entity.pattern.findAll whole,
    ∀ other ∈ enabled entities, ∀ hidden ∈ other.pattern.findAll whole,
      range.start = cut → (whole.take cut).getLast?.any isWord = true →
      cut ≤ hidden.start → hidden.start < range.stop → hidden.stop ≤ range.stop

def redactedWrites (entities : List GoString) (segment : GoString) : List Write :=
  redactWrites segment 0 ((detected entities segment).map span)

/-- The byte at this position of the whole text is copied to the output. -/
def Leaked (entities : List GoString) (segments : List GoString) (position : Nat) : Prop :=
  ∃ before segment behind inner, segments = before ++ segment :: behind ∧
    position = before.flatten.length + inner ∧ Copied (redactedWrites entities segment) inner

/-! ### One cut -/

variable {entities : List GoString} {position : Nat}

theorem copied_undetected {segment : GoString}
    (copied : Copied (redactedWrites entities segment) position) :
    ¬ Detected entities segment position := by
  have nonempty : ∀ candidate ∈ sortedCandidates entities segment,
      candidate.start < candidate.stop :=
    fun candidate listed => (sortedCandidates_bounded listed).1
  apply (copied_outside segment (select_disjoint nonempty 0).1 _ _ copied).2
  · intro candidate chosen
    exact nonempty candidate ((select_sublist 0 _).subset chosen)
  · intro candidate _
    exact Nat.zero_le _

theorem copied_within {segment : GoString}
    (copied : Copied (redactedWrites entities segment) position) : position < segment.length := by
  apply copied_bounded segment _ copied
  intro candidate chosen
  have bounded := sortedCandidates_bounded ((select_sublist 0 _).subset chosen)
  omega

variable {text more : GoString}

/-- Before a clean cut the part alone covers what the whole covers. -/
theorem detected_left (uncut : Uncut entities text more) (before : position < text.length)
    (found : Detected entities (text ++ more) position) : Detected entities text position := by
  obtain ⟨candidate, chosen, above, below⟩ := found
  rw [detected_append uncut] at chosen
  rcases mem_append.mp chosen with left | right
  · apply covers_of_filter_reaching (sortedCandidates_ordered entities text)
      (fun candidate listed => (sortedCandidates_bounded listed).2) _
      ⟨candidate, left, above, below⟩
    intro candidate listed refused
    obtain ⟨nonempty, within⟩ := sortedCandidates_bounded listed
    have boundary := (mem_sortedCandidates.mp listed).2.2.1
    by_contra inside
    rw [keptBefore, asciiBoundary_before text more nonempty within, boundary] at refused
    simp [inside] at refused
  · obtain ⟨original, _, rfl⟩ := mem_map.mp right
    have behind : text.length ≤ (original.shift text.length).start := Nat.le_add_left _ _
    omega

/-- Behind a clean cut the part alone covers what the whole covers. -/
theorem detected_right (clean : CleanCut entities (text ++ more) text.length)
    (found : Detected entities (text ++ more) (text.length + position)) :
    Detected entities more position := by
  have uncut : Uncut entities text more := clean.uncut
  obtain ⟨candidate, chosen, above, below⟩ := found
  rw [detected_append uncut] at chosen
  rcases mem_append.mp chosen with left | right
  · have listed := (mem_filter.mp ((select_sublist 0 _).subset left)).1
    have within := (sortedCandidates_bounded listed).2
    omega
  · obtain ⟨original, kept, rfl⟩ := mem_map.mp right
    have covered : Covers start stop
        (select start stop 0
          ((sortedCandidates entities more).filter (keptBehind text more))) position := by
      refine ⟨original, kept, ?_, ?_⟩
      · dsimp only [shift] at above
        omega
      · dsimp only [shift] at below
        omega
    have refusedFront : ∀ candidate ∈ sortedCandidates entities more,
        keptBehind text more candidate = false →
          candidate.start = 0 ∧ text.getLast?.any isWord = true := by
      intro candidate listed refused
      have boundary := (mem_sortedCandidates.mp listed).2.2.1
      rw [keptBehind, asciiBoundary_behind, boundary] at refused
      simpa [endsClear] using refused
    apply covers_of_filter_front (sortedCandidates_ordered entities more)
      (fun candidate listed => (sortedCandidates_bounded listed).1)
      (fun candidate listed refused => (refusedFront candidate listed refused).1) _ covered
    intro taken takenListed refused hidden hiddenListed overlaps
    obtain ⟨front, word⟩ := refusedFront taken takenListed refused
    obtain ⟨takenEnabled, takenFound, _⟩ := mem_sortedCandidates.mp takenListed
    obtain ⟨hiddenEnabled, hiddenFound, _⟩ := mem_sortedCandidates.mp hiddenListed
    have longer := clean.covering _ takenEnabled _ (uncut.shifted takenEnabled takenFound)
      _ hiddenEnabled _ (uncut.shifted hiddenEnabled hiddenFound)
    dsimp only [Regex.Range.shift] at longer
    rw [take_left] at longer
    have result := longer (by omega) word (Nat.le_add_left _ _) (by omega)
    omega

/-! ### Streams -/

theorem CleanCut.behind {cut : Nat} (uncut : Uncut entities text more)
    (clean : CleanCut entities (text ++ more) (text.length + cut)) :
    CleanCut entities more cut := by
  refine ⟨?_, ?_⟩
  · intro entity requested range listed before
    have within := clean.uncut entity requested _ (uncut.shifted requested listed)
    dsimp only [Regex.Range.shift] at within
    omega
  · intro entity requested range listed other otherRequested hidden hiddenListed starts word
      behind overlaps
    have longer := clean.covering entity requested _ (uncut.shifted requested listed)
      other otherRequested _ (uncut.shifted otherRequested hiddenListed)
    dsimp only [Regex.Range.shift] at longer
    have wholeWord : ((text ++ more).take (text.length + cut)).getLast?.any isWord = true := by
      rw [take_length_add_append, List.getLast?_append]
      cases last : (more.take cut).getLast? with
      | none =>
        rw [last] at word
        cases word
      | some byte =>
        rw [last] at word
        simpa using word
    have result := longer (by omega) wholeWord (by omega) (by omega)
    omega

theorem leaked_cons {first : GoString} {rest : List GoString}
    (leaked : Leaked entities (first :: rest) position) :
    Copied (redactedWrites entities first) position ∨
      ∃ behind, position = first.length + behind ∧ Leaked entities rest behind := by
  obtain ⟨before, segment, behind, inner, parted, rfl, copied⟩ := leaked
  cases before with
  | nil =>
    obtain ⟨rfl, rfl⟩ := List.cons.inj parted
    rw [flatten_nil, length_nil, Nat.zero_add]
    exact Or.inl copied
  | cons _ before =>
    obtain ⟨rfl, rfl⟩ := List.cons.inj parted
    refine Or.inr ⟨before.flatten.length + inner, ?_, before, segment, behind, inner, rfl, rfl,
      copied⟩
    rw [flatten_cons, length_append, Nat.add_assoc]

theorem leaked_undetected (segments : List GoString)
    (clean : ∀ cut ∈ cutsOf segments, CleanCut entities segments.flatten cut)
    (leaked : Leaked entities segments position) :
    ¬ Detected entities segments.flatten position := by
  induction segments generalizing position with
  | nil =>
    obtain ⟨before, segment, behind, _, parted, _⟩ := leaked
    exact absurd parted (by simp)
  | cons first rest ih =>
    cases rest with
    | nil =>
      rw [flatten_cons, flatten_nil, append_nil]
      rcases leaked_cons leaked with copied | ⟨_, _, before, _, _, _, parted, _⟩
      · exact copied_undetected copied
      · exact absurd parted (by simp)
    | cons second rest =>
      have cut := clean first.length mem_cons_self
      intro found
      rcases leaked_cons leaked with copied | ⟨behind, rfl, later⟩
      · exact copied_undetected copied
          (detected_left cut.uncut (copied_within copied) found)
      · apply ih _ later (detected_right cut found)
        intro place listed
        exact CleanCut.behind cut.uncut
          (clean _ (mem_cons_of_mem _ (mem_map_of_mem listed)))

/-- The redaction with the built-in detector, when no check fails. -/
def redacted (toUpper : GoString → GoString) (entities : List GoString) (segment : GoString) :
    GoString :=
  (redactedWrites entities segment).flatMap (Write.render toUpper segment)

/-- A stream that succeeds and whose cuts are clean copies no byte that detection in the
whole text covers. -/
theorem stream_leaks_nothing (toUpper : GoString → GoString) (entities : List GoString)
    (redactor : StreamRedactor) (calls : List Call) (last : Call) (outputs : List GoString)
    (fresh : redactor.pending = []) (builtins : ∀ call ∈ calls ++ [last], ∃ safeCause detectCause,
      call.detector = builtin safeCause detectCause)
    (ran : redactor.stream toUpper entities calls last = .ok outputs)
    (clean : ∀ segments, redactor.segments entities calls last = .ok segments →
      ∀ cut ∈ cutsOf segments, CleanCut entities (wholeText calls last) cut) :
    ∃ segments, redactor.segments entities calls last = .ok segments ∧
      segments.flatten = wholeText calls last ∧
      outputs = segments.map (redacted toUpper entities) ∧
      ∀ position, Leaked entities segments position →
        ¬ Detected entities (wholeText calls last) position := by
  obtain ⟨segments, released, outputOf⟩ := StreamRedactor.stream_eq_ok ran
  have whole := StreamRedactor.segments_flatten released
  rw [fresh, nil_append] at whole
  refine ⟨segments, released, whole, ?_, ?_⟩
  · symm
    rw [← forall₂_eq_eq_eq, forall₂_map_left_iff]
    apply outputOf.imp
    rintro segment output ⟨call, listed, done⟩
    obtain ⟨safeCause, detectCause, detector⟩ := builtins call listed
    rw [detector] at done
    obtain ⟨spans, found, rest⟩ := bind_eq_ok.mp done
    obtain ⟨⟨⟩, _, result⟩ := bind_eq_ok.mp rest
    cases detectCause with
    | some reason => cases found
    | none =>
      cases found
      cases result
      rfl
  · intro position leaked
    have cleanCuts := clean segments released
    rw [← whole] at cleanCuts ⊢
    exact leaked_undetected segments cleanCuts leaked

def liveCall (fragment : GoString) : Call := ⟨builtin none none, fragment⟩

def sampleRedactor : StreamRedactor := { maximumPendingBytes := 64 }

/-- An address in two fragments. -/
theorem stream_leaks_nothing_address :
    newStreamRedactor true 64 = .ok sampleRedactor ∧
    sampleRedactor.stream asciiUpper [ascii "email"] [liveCall (ascii "hi bob@exa")]
        (liveCall (ascii "mple.com ok")) =
      .ok [ascii "hi ", ascii "[[SPARKROUTE_PII_EMAIL_REDACTED]] ok"] ∧
    ∃ segments, sampleRedactor.segments [ascii "email"] [liveCall (ascii "hi bob@exa")]
        (liveCall (ascii "mple.com ok")) = .ok segments ∧
      segments.flatten = ascii "hi bob@example.com ok" ∧
      [ascii "hi ", ascii "[[SPARKROUTE_PII_EMAIL_REDACTED]] ok"] =
        segments.map (redacted asciiUpper [ascii "email"]) ∧
      ∀ position, Leaked [ascii "email"] segments position →
        ¬ Detected [ascii "email"] (ascii "hi bob@example.com ok") position := by
  have created : newStreamRedactor true 64 = .ok sampleRedactor := rfl
  have whole : wholeText [liveCall (ascii "hi bob@exa")] (liveCall (ascii "mple.com ok")) =
      ascii "hi bob@example.com ok" := by
    decide +kernel
  have ran : sampleRedactor.stream asciiUpper [ascii "email"] [liveCall (ascii "hi bob@exa")]
      (liveCall (ascii "mple.com ok")) =
      .ok [ascii "hi ", ascii "[[SPARKROUTE_PII_EMAIL_REDACTED]] ok"] := by
    decide +kernel
  have parted : sampleRedactor.segments [ascii "email"] [liveCall (ascii "hi bob@exa")]
      (liveCall (ascii "mple.com ok")) = .ok [ascii "hi ", ascii "bob@example.com ok"] := by
    decide +kernel
  refine ⟨created, ran, ?_⟩
  apply stream_leaks_nothing asciiUpper [ascii "email"] sampleRedactor _ _ _
    (newStreamRedactor_eq_ok created).2 _ ran
  · intro segments released cut listed
    cases released
    rw [mem_singleton.mp listed, whole]
    refine ⟨by decide +kernel, ?_⟩
    intro entity _ range _ other _ hidden _ _ word
    exact absurd word (by decide +kernel)
  · intro call listed
    rcases mem_cons.mp listed with rfl | listed
    · exact ⟨none, none, rfl⟩
    · rw [mem_singleton.mp listed]
      exact ⟨none, none, rfl⟩

/-- A cut made for one entity parts a match of another: a telephone number before a
slash, which ends no address. -/
theorem phone_before_slash_leaked :
    ∃ outputs segments, sampleRedactor.stream asciiUpper [ascii "email", ascii "phone"]
          [liveCall (ascii "312 555 0199/")] (liveCall []) = .ok outputs ∧
        outputs = segments.map (redacted asciiUpper [ascii "email", ascii "phone"]) ∧
        segments.flatten = ascii "312 555 0199/" ∧
        Leaked [ascii "email", ascii "phone"] segments 0 ∧
        Detected [ascii "email", ascii "phone"] (ascii "312 555 0199/") 0 := by
  refine ⟨[ascii "312 555 ", ascii "0199/"], [ascii "312 555 ", ascii "0199/"],
    by decide +kernel, by decide +kernel, by decide +kernel, ?_, ?_⟩
  · refine ⟨[], ascii "312 555 ", [ascii "0199/"], 0, rfl, rfl, 0, 8, ?_, Nat.le_refl 0, by decide⟩
    decide +kernel
  · have found : detected [ascii "email", ascii "phone"] (ascii "312 555 0199/") =
        [⟨.phone, 0, 12⟩] := by
      decide +kernel
    refine ⟨⟨.phone, 0, 12⟩, ?_, Nat.le_refl 0, by decide⟩
    rw [found]
    exact mem_singleton_self _

end SparkRoute.Pii
