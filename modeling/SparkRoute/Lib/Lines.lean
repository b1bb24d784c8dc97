import SparkRoute.Lib.Bytes

/-!
# Lines and blocks

A line ends with LF, CR or CRLF, and a block ends with its first blank line. `blockEnd`
finds that end byte by byte; an open text may go on, so its last CR has to wait for the
byte after it.
-/

namespace SparkRoute.Lib

open List Option

def carriageReturn : UInt8 := 0x0D

def lineFeed : UInt8 := 0x0A

structure Line where
  content : GoString
  ending : GoString
  deriving DecidableEq, Repr

def Line.raw (line : Line) : GoString := line.content ++ line.ending

def Line.blank (line : Line) : Bool := line.content.isEmpty

def Line.extend (byte : UInt8) (line : Line) : Line :=
  { line with content := byte :: line.content }

@[simp] theorem Line.raw_extend (byte : UInt8) (line : Line) :
    (line.extend byte).raw = byte :: line.raw := rfl

@[simp] theorem Line.blank_extend (byte : UInt8) (line : Line) :
    (line.extend byte).blank = false := rfl

def isEnding (byte : UInt8) : Bool := byte == carriageReturn || byte == lineFeed

/-- The lines that follow an ordinary byte: it belongs to the first of them. -/
def extendFirst (byte : UInt8) : List Line → List Line
  | [] => [⟨[byte], []⟩]
  | line :: lines => line.extend byte :: lines

def splitLines : GoString → List Line
  | [] => []
  | [byte] => if isEnding byte then [⟨[], [byte]⟩] else extendFirst byte []
  | byte :: next :: rest =>
    if byte = carriageReturn ∧ next = lineFeed then ⟨[], [byte, next]⟩ :: splitLines rest
    else if isEnding byte then ⟨[], [byte]⟩ :: splitLines (next :: rest)
    else extendFirst byte (splitLines (next :: rest))

/-- Consecutive lines in blocks, each ended by its first blank line. -/
def groupLines : List Line → List (List Line)
  | [] => []
  | line :: lines =>
    if line.blank then [line] :: groupLines lines
    else
      match groupLines lines with
      | [] => [[line]]
      | block :: blocks => (line :: block) :: blocks

def joinLines (lines : List Line) : GoString := lines.flatMap Line.raw

def blocks (text : GoString) : List GoString := (groupLines (splitLines text)).map joinLines

/-- The length of the first block. `fresh` says that the text starts a line. -/
def blockEnd (closed : Bool) : Bool → GoString → Option Nat
  | _, [] => none
  | fresh, [byte] =>
    if byte = carriageReturn ∧ !closed then none
    else if isEnding byte ∧ fresh then some 1
    else none
  | fresh, byte :: next :: rest =>
    if !isEnding byte then (blockEnd closed false (next :: rest)).map (· + 1)
    else if byte = carriageReturn ∧ next = lineFeed then
      if fresh then some 2 else (blockEnd closed true rest).map (· + 2)
    else if fresh then some 1
    else (blockEnd closed true (next :: rest)).map (· + 1)

/-! ### Joining the lines again -/

theorem joinLines_extendFirst (byte : UInt8) (lines : List Line) :
    joinLines (extendFirst byte lines) = byte :: joinLines lines := by
  cases lines with
  | nil => rfl
  | cons line rest => simp [extendFirst, joinLines]

theorem joinLines_splitLines (text : GoString) : joinLines (splitLines text) = text := by
  fun_induction splitLines text with
  | case1 | case2 byte ending | case3 byte ordinary => rfl
  | case4 byte next rest pair ih | case5 byte next rest notPair ending ih =>
    simpa [joinLines, Line.raw] using ih
  | case6 byte next rest notPair ordinary ih =>
    rw [joinLines_extendFirst, ih]

theorem flatten_groupLines (lines : List Line) : (groupLines lines).flatten = lines := by
  induction lines with
  | nil => rfl
  | cons line lines ih =>
    unfold groupLines
    split
    · simp [ih]
    · split
      next none =>
        rw [none] at ih
        simp [← ih]
      next block blocks found =>
        rw [found] at ih
        simpa using ih

theorem joinLines_flatten (groups : List (List Line)) :
    joinLines groups.flatten = (groups.map joinLines).flatten := by
  induction groups with
  | nil => rfl
  | cons group groups ih =>
    simpa [joinLines] using ih

theorem flatten_blocks (text : GoString) : (blocks text).flatten = text := by
  rw [blocks, ← joinLines_flatten, flatten_groupLines, joinLines_splitLines]

/-! ### The first block -/

/-- What `blockEnd` finds, from the lines: `fresh` says that the first one is whole. -/
def linesEnd : Bool → List Line → Option Nat
  | _, [] => none
  | fresh, line :: lines =>
    if fresh ∧ line.blank then some line.raw.length
    else (linesEnd true lines).map (· + line.raw.length)

theorem linesEnd_extendFirst (fresh : Bool) (byte : UInt8) (lines : List Line) :
    linesEnd fresh (extendFirst byte lines) = (linesEnd false lines).map (· + 1) := by
  cases lines with
  | nil => simp [extendFirst, linesEnd, Line.blank]
  | cons line rest => simp [extendFirst, linesEnd, Function.comp_def, Nat.add_assoc]

theorem blockEnd_eq_linesEnd (fresh : Bool) (text : GoString) :
    blockEnd true fresh text = linesEnd fresh (splitLines text) := by
  fun_induction splitLines text generalizing fresh with
  | case1 => rfl
  | case2 byte ending => simp [blockEnd, linesEnd, Line.blank, Line.raw, ending]
  | case3 byte ordinary => simp [blockEnd, linesEnd, extendFirst, Line.blank, ordinary]
  | case4 byte next rest pair ih =>
    obtain ⟨rfl, rfl⟩ := pair
    simp [blockEnd, linesEnd, Line.blank, Line.raw, isEnding, ih]
  | case5 byte next rest notPair ending ih =>
    simp [blockEnd, linesEnd, Line.blank, Line.raw, ending, notPair, ih]
  | case6 byte next rest notPair ordinary ih =>
    rw [linesEnd_extendFirst, ← ih]
    simp [blockEnd, ordinary]

variable {lines : List Line}

theorem groupLines_of_linesEnd_none (none : linesEnd true lines = none) (some : lines ≠ []) :
    groupLines lines = [lines] := by
  induction lines with
  | nil => exact absurd rfl some
  | cons line lines ih =>
    by_cases blank : line.blank = true
    · simp [linesEnd, blank] at none
    · cases lines with
      | nil => simp [groupLines, blank]
      | cons second rest =>
        have rest_none : linesEnd true (second :: rest) = .none := by
          simpa [linesEnd, blank] using none
        rw [groupLines, ih rest_none (cons_ne_nil _ _)]
        simp [blank]

variable {length : Nat}

theorem groupLines_of_linesEnd_some (found : linesEnd true lines = some length) :
    ∃ block rest, lines = block ++ rest ∧ length = (joinLines block).length ∧
      groupLines lines = block :: groupLines rest := by
  induction lines generalizing length with
  | nil => simp [linesEnd] at found
  | cons line lines ih =>
    by_cases blank : line.blank = true
    · refine ⟨[line], lines, rfl, ?_, by simp [groupLines, blank]⟩
      simpa [linesEnd, blank, joinLines, eq_comm] using found
    · obtain ⟨before, foundRest, total⟩ :
          ∃ before, linesEnd true lines = some before ∧ before + line.raw.length = length := by
        simpa [linesEnd, blank] using found
      obtain ⟨block, rest, parts, same, grouped⟩ := ih foundRest
      refine ⟨line :: block, rest, by rw [parts]; rfl, ?_, ?_⟩
      · simp only [joinLines, flatMap_cons, length_append] at same ⊢
        omega
      · rw [groupLines, grouped]
        simp [blank]

variable {text : GoString}

theorem splitLines_drop_line {line : Line} (split : splitLines text = line :: lines) :
    splitLines (text.drop line.raw.length) = lines := by
  fun_induction splitLines text generalizing line with
  | case1 => cases split
  | case2 byte ending | case3 byte ordinary | case4 byte next rest pair ih
  | case5 byte next rest notPair ending ih => cases split; rfl
  | case6 byte next rest notPair ordinary ih =>
    cases lines_eq : splitLines (next :: rest) with
    | nil =>
      rw [lines_eq] at split
      cases split
      exact lines_eq
    | cons first others =>
      rw [lines_eq] at split
      cases split
      exact ih lines_eq

theorem splitLines_drop {front rest : List Line} (split : splitLines text = front ++ rest) :
    splitLines (text.drop (joinLines front).length) = rest := by
  induction front generalizing text with
  | nil => exact split
  | cons line front ih =>
    have dropped := ih (splitLines_drop_line split)
    simpa [joinLines, drop_drop] using dropped

theorem blocks_of_blockEnd_none (none : blockEnd true true text = none)
    (some : text ≠ []) : blocks text = [text] := by
  have split : splitLines text ≠ [] := by
    intro empty
    rw [← joinLines_splitLines text, empty] at some
    exact some rfl
  rw [blockEnd_eq_linesEnd] at none
  simp [blocks, groupLines_of_linesEnd_none none split, joinLines_splitLines]

theorem blocks_of_blockEnd_some (found : blockEnd true true text = some length) :
    blocks text = text.take length :: blocks (text.drop length) := by
  rw [blockEnd_eq_linesEnd] at found
  obtain ⟨block, rest, parts, same, grouped⟩ := groupLines_of_linesEnd_some found
  have front : text.take length = joinLines block := by
    conv_lhs => rw [← joinLines_splitLines text, parts]
    simp [joinLines, same]
  rw [blocks, grouped, map_cons, front, same, blocks, splitLines_drop parts]

/-! ### Texts that go on -/

variable (closed : Bool) {byte : UInt8}

theorem blockEnd_ordinary (fresh : Bool) (rest : GoString) (ordinary : isEnding byte = false) :
    blockEnd closed fresh (byte :: rest) = (blockEnd closed false rest).map (· + 1) := by
  cases rest with
  | nil | cons next rest => simp [blockEnd, ordinary]

theorem blockEnd_pair (fresh : Bool) (rest : GoString) :
    blockEnd closed fresh (carriageReturn :: lineFeed :: rest) =
      if fresh then some 2 else (blockEnd closed true rest).map (· + 2) := by
  simp [blockEnd, isEnding]

theorem blockEnd_single (fresh : Bool) {rest : GoString} (ending : isEnding byte = true)
    (notPair : ¬ (byte = carriageReturn ∧ rest.head? = some lineFeed))
    (decided : ¬ (byte = carriageReturn ∧ rest = [] ∧ closed = false)) :
    blockEnd closed fresh (byte :: rest) =
      if fresh then some 1 else (blockEnd closed true rest).map (· + 1) := by
  cases rest with
  | nil =>
    have settled : ¬ (byte = carriageReturn ∧ !closed) := by simpa using decided
    simp only [blockEnd]
    rw [if_neg settled]
    simp [ending]
  | cons next rest =>
    have apart : ¬ (byte = carriageReturn ∧ next = lineFeed) := by simpa using notPair
    simp [blockEnd, ending, apart]

variable {fresh : Bool}

theorem blockEnd_pos {closed : Bool} (found : blockEnd closed fresh text = some length) :
    0 < length := by
  rcases text with _ | ⟨byte, _ | ⟨next, rest⟩⟩ <;> simp only [blockEnd] at found
  · cases found
  · split at found
    · cases found
    · split at found <;> cases found
      exact Nat.one_pos
  · split at found
    · obtain ⟨before, _, rfl⟩ := map_eq_some_iff.mp found
      exact Nat.succ_pos before
    · split at found <;> split at found
      · cases found
        exact Nat.two_pos
      · obtain ⟨before, _, rfl⟩ := map_eq_some_iff.mp found
        exact Nat.succ_pos (before + 1)
      · cases found
        exact Nat.one_pos
      · obtain ⟨before, _, rfl⟩ := map_eq_some_iff.mp found
        exact Nat.succ_pos before

theorem blockEnd_le {closed : Bool} (found : blockEnd closed fresh text = some length) :
    length ≤ text.length := by
  fun_induction blockEnd closed fresh text generalizing length with
  | case1 | case2 => cases found
  | case3 => cases found; exact Nat.le_refl 1
  | case4 => cases found
  | case6 | case8 => cases found; simp
  | case5 _ _ _ _ _ ih | case7 _ _ _ _ _ _ _ ih
  | case9 _ _ _ _ _ _ _ ih =>
    obtain ⟨before, foundRest, rfl⟩ := map_eq_some_iff.mp found
    have bounded := ih foundRest
    simp only [length_cons] at bounded ⊢
    omega

/-- An open text read from its front: it is used up, waits at a last CR, or goes on after
an ordinary byte or a decided ending. -/
inductive OpenText : GoString → Prop where
  | nil : OpenText []
  | waiting : OpenText [carriageReturn]
  | ordinary {byte : UInt8} {rest : GoString} (ordinary : isEnding byte = false)
      (tail : OpenText rest) : OpenText (byte :: rest)
  | pair {rest : GoString} (tail : OpenText rest) :
      OpenText (carriageReturn :: lineFeed :: rest)
  | single {byte : UInt8} {rest : GoString} (ending : isEnding byte = true)
      (notPair : ¬ (byte = carriageReturn ∧ rest.head? = some lineFeed))
      (decided : ¬ (byte = carriageReturn ∧ rest = [])) (tail : OpenText rest) :
      OpenText (byte :: rest)

theorem openText (text : GoString) : OpenText text := by
  fun_induction splitLines text with
  | case1 => exact .nil
  | case2 byte ending =>
    by_cases last : byte = carriageReturn
    · exact last ▸ .waiting
    · exact .single ending (fun both => last both.1) (fun both => last both.1) .nil
  | case3 byte ordinary => exact .ordinary (by simpa using ordinary) .nil
  | case4 byte next rest pair ih =>
    obtain ⟨rfl, rfl⟩ := pair
    exact .pair ih
  | case5 byte next rest notPair ending ih =>
    exact .single ending (by simpa using notPair) (by simp) ih
  | case6 byte next rest notPair ordinary ih =>
    exact .ordinary (by simpa using ordinary) ih

/-- A decided ending stays what it is, whatever follows the text. -/
theorem blockEnd_single_append {rest : GoString} (fresh : Bool) (more : GoString)
    (ending : isEnding byte = true)
    (notPair : ¬ (byte = carriageReturn ∧ rest.head? = some lineFeed))
    (decided : ¬ (byte = carriageReturn ∧ rest = [])) :
    blockEnd closed fresh (byte :: rest ++ more) =
      if fresh then some 1 else (blockEnd closed true (rest ++ more)).map (· + 1) := by
  apply blockEnd_single closed fresh ending
  · intro pair
    cases rest with
    | nil => exact decided ⟨pair.1, rfl⟩
    | cons next rest => exact notPair pair
  · intro waiting
    exact decided ⟨waiting.1, (append_eq_nil_iff.mp waiting.2.1).1⟩

theorem blockEnd_append (more : GoString) (found : blockEnd false fresh text = some length) :
    blockEnd closed fresh (text ++ more) = some length := by
  induction openText text generalizing fresh length with
  | nil | waiting => simp [blockEnd] at found
  | ordinary ordinary tail ih =>
    rw [blockEnd_ordinary _ _ _ ordinary] at found
    obtain ⟨before, foundRest, rfl⟩ := map_eq_some_iff.mp found
    simp [blockEnd_ordinary _ _ _ ordinary, ih foundRest]
  | pair tail ih =>
    simp only [cons_append, blockEnd_pair] at found ⊢
    cases fresh with
    | true => exact found
    | false =>
      obtain ⟨before, foundRest, rfl⟩ := map_eq_some_iff.mp found
      simp [ih foundRest]
  | single ending notPair decided tail ih =>
    rw [blockEnd_single_append _ _ _ ending notPair decided]
    rw [blockEnd_single _ _ ending notPair (by tauto)] at found
    cases fresh with
    | true => exact found
    | false =>
      obtain ⟨before, foundRest, rfl⟩ := map_eq_some_iff.mp found
      simp [ih foundRest]

/-- An open text is part of the block that it starts, and a line feed behind it is as well. -/
theorem length_le_of_blockEnd (more : GoString) (none : blockEnd false fresh text = none)
    (found : blockEnd closed fresh (text ++ more) = some length) :
    text.length ≤ length ∧ (more.head? = some lineFeed → text.length < length) := by
  have later : ∀ {front before : Nat} (bytes : Nat),
      (front ≤ before ∧ (more.head? = some lineFeed → front < before)) →
      front + bytes ≤ before + bytes ∧
        (more.head? = some lineFeed → front + bytes < before + bytes) :=
    fun bytes within => ⟨Nat.add_le_add_right within.1 bytes,
      fun feed => Nat.add_lt_add_right (within.2 feed) bytes⟩
  induction openText text generalizing fresh length with
  | nil => exact ⟨Nat.zero_le _, fun _ => blockEnd_pos found⟩
  | waiting =>
    refine ⟨blockEnd_pos found, fun feed => ?_⟩
    obtain ⟨rest, rfl⟩ := head?_eq_some_iff.mp feed
    rw [cons_append, nil_append, blockEnd_pair] at found
    cases fresh with
    | true => cases found; exact Nat.one_lt_two
    | false =>
      obtain ⟨before, _, rfl⟩ := map_eq_some_iff.mp found
      exact Nat.le_add_left 2 before
  | ordinary ordinary tail ih =>
    rw [blockEnd_ordinary _ _ _ ordinary, map_eq_none_iff] at none
    rw [cons_append, blockEnd_ordinary _ _ _ ordinary] at found
    obtain ⟨before, foundRest, rfl⟩ := map_eq_some_iff.mp found
    exact later 1 (ih none foundRest)
  | pair tail ih =>
    cases fresh with
    | true => cases none
    | false =>
      obtain ⟨before, foundRest, rfl⟩ := map_eq_some_iff.mp found
      exact later 2 (ih (map_eq_none_iff.mp none) foundRest)
  | single ending notPair decided tail ih =>
    rw [blockEnd_single_append _ _ _ ending notPair decided] at found
    rw [blockEnd_single _ _ ending notPair (by tauto)] at none
    cases fresh with
    | true => cases none
    | false =>
      obtain ⟨before, foundRest, rfl⟩ := map_eq_some_iff.mp found
      exact later 1 (ih (map_eq_none_iff.mp none) foundRest)

theorem blocks_lineFeed (none : blockEnd false true text = none) :
    blocks (text ++ [lineFeed]) = [text ++ [lineFeed]] := by
  cases found : blockEnd true true (text ++ [lineFeed]) with
  | none => exact blocks_of_blockEnd_none found (by simp)
  | some length =>
    have all : (text ++ [lineFeed]).length ≤ length := by
      rw [length_append]
      exact (length_le_of_blockEnd true _ none found).2 rfl
    rw [blocks_of_blockEnd_some found, take_of_length_le all, drop_of_length_le all]
    rfl

end SparkRoute.Lib
