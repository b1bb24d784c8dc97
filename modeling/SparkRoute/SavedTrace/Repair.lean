import Mathlib.Data.List.DropRight
import SparkRoute.SavedTrace.Journal

/-!
# The repair of a journal that was cut off

A crash can leave the front of a payload at the end of a journal.  `repairJournalTail` searches
the last newline backwards, chunk by chunk, and truncates the file behind it.
-/

namespace SparkRoute.SavedTrace

open Lib List

def newline : UInt8 := 10

/-- `bytes.LastIndexByte`. -/
def lastIndexByte (byte : UInt8) : List UInt8 → Option Nat
  | [] => none
  | first :: rest =>
    match lastIndexByte byte rest with
    | some index => some (index + 1)
    | none => if first = byte then some 0 else none

/-- What the operations of one `repairJournalTail` answer. -/
structure RepairAnswers where
  lstat : Bool := true
  regular : Bool := true
  openFile : Bool := true
  readLast : Bool := true
  /-- The read of the chunk that starts here. -/
  readAt : Nat → Bool := fun _ => true
  truncate : Bool := true
  sync : Bool := true
  close : Bool := true

inductive RepairFault where
  | lstat
  | irregular
  | openFile
  | readAt
  | truncate
  | sync
  | close
  deriving DecidableEq

/-- The loop over the chunks before `position`; `none` is a read that fails. -/
def truncateAt (chunkSize : Nat) [NeZero chunkSize] (readAt : Nat → Bool)
    (contents : List UInt8) (position : Nat) : Option Nat :=
  if position = 0 then some 0
  else
    let start := position - chunkSize
    if !readAt start then none
    else
      match lastIndexByte newline ((contents.drop start).take (position - start)) with
      | some index => some (start + index + 1)
      | none => truncateAt chunkSize readAt contents start
termination_by position
decreasing_by exact Nat.sub_lt (Nat.pos_of_ne_zero ‹_›) (Nat.pos_of_neZero chunkSize)

/-- The contents of the journal afterwards, and the errors that are joined. -/
def repairJournalTail (answers : RepairAnswers) (contents : List UInt8) :
    List UInt8 × List RepairFault :=
  let closed := if answers.close then [] else [.close]
  if !answers.lstat then (contents, [.lstat])
  else if !answers.regular then (contents, [.irregular])
  else if contents = [] then (contents, [])
  else if !answers.openFile then (contents, [.openFile])
  else if !answers.readLast then (contents, .readAt :: closed)
  else if contents.getLast? = some newline then (contents, closed)
  else
    match truncateAt 65536 answers.readAt contents contents.length with
    | none => (contents, .readAt :: closed)
    | some length =>
      if !answers.truncate then (contents, .truncate :: closed)
      else (contents.take length, (if answers.sync then [] else [.sync]) ++ closed)

/-- The lines of a journal, with their newlines. -/
def journalLines : List UInt8 → List (List UInt8)
  | [] => []
  | byte :: rest =>
    if byte = newline then [byte] :: journalLines rest
    else
      match journalLines rest with
      | [] => [[byte]]
      | line :: lines => (byte :: line) :: lines

/-- The JSON encoder ends a line with its only newline, and the decoder reads it back. -/
structure LineCodec (Record : Type) extends Codec Record where
  decode : List UInt8 → Option Record
  framed : ∀ record line, encode record = some line →
    ∃ body, line = body ++ [newline] ∧ newline ∉ body
  decodes : ∀ record line, validate record = none → encode record = some line →
    decode line = some record

inductive Holds {Record : Type} (codec : LineCodec Record) : List Record → List UInt8 → Prop
  | nil : Holds codec [] []
  | cons {record : Record} {records : List Record} {line bytes : List UInt8}
      (valid : codec.validate record = none) (encoded : codec.encode record = some line)
      (rest : Holds codec records bytes) : Holds codec (record :: records) (line ++ bytes)

/-! ### The search -/

/-- Everything up to the last newline. -/
def completed (contents : List UInt8) : List UInt8 :=
  contents.rdropWhile fun byte => byte ≠ newline

theorem completed_append (front : List UInt8) {back : List UInt8} (within : newline ∉ back) :
    completed (front ++ back) = completed front := by
  induction back using List.reverseRecOn with
  | nil => rw [append_nil]
  | append_singleton back byte ih =>
    simp only [mem_append, mem_singleton, not_or] at within
    rw [← append_assoc, completed, rdropWhile_concat_pos]
    · exact ih within.1
    · simpa using Ne.symm within.2

theorem completed_concat (front : List UInt8) :
    completed (front ++ [newline]) = front ++ [newline] :=
  rdropWhile_concat_neg _ _ _ (by simp)

theorem lastIndexByte_none {byte : UInt8} {chunk : List UInt8}
    (absent : lastIndexByte byte chunk = none) : byte ∉ chunk := by
  fun_induction lastIndexByte byte chunk with
  | case1 => exact not_mem_nil
  | case2 | case3 => cases absent
  | case4 first rest found other ih => simp [Ne.symm other, ih found]

theorem lastIndexByte_some {byte : UInt8} {chunk : List UInt8} {index : Nat}
    (found : lastIndexByte byte chunk = some index) :
    ∃ front back, chunk = front ++ byte :: back ∧ front.length = index ∧ byte ∉ back := by
  fun_induction lastIndexByte byte chunk generalizing index with
  | case1 | case4 => cases found
  | case2 first rest later inside ih =>
    obtain ⟨front, back, rfl, rfl, absent⟩ := ih inside
    cases found
    exact ⟨first :: front, back, rfl, rfl, absent⟩
  | case3 rest inside =>
    cases found
    exact ⟨[], rest, rfl, rfl, lastIndexByte_none inside⟩

theorem take_split {start position : Nat} (early : start ≤ position) (contents : List UInt8) :
    contents.take position =
      contents.take start ++ (contents.drop start).take (position - start) := by
  rw [← take_add, Nat.add_sub_cancel' early]

/-- The loop finds the end of what is complete before its position. -/
theorem truncateAt_eq {chunkSize : Nat} [NeZero chunkSize] {readAt : Nat → Bool}
    {contents : List UInt8} {position length : Nat}
    (found : truncateAt chunkSize readAt contents position = some length)
    (inside : position ≤ contents.length) :
    length = (completed (contents.take position)).length := by
  fun_induction truncateAt chunkSize readAt contents position with
  | case1 =>
    cases found
    rfl
  | case2 => cases found
  | case3 position _ start _ index last =>
    cases found
    have early : start ≤ position := Nat.sub_le _ _
    have within : start ≤ contents.length := early.trans inside
    obtain ⟨front, back, chunk, rfl, absent⟩ := lastIndexByte_some last
    rw [take_split early, chunk, append_cons, ← append_assoc,
      completed_append _ absent, ← append_assoc, completed_concat]
    simp [within, Nat.add_assoc]
  | case4 position _ start _ last ih =>
    have early : start ≤ position := Nat.sub_le _ _
    rw [ih found (early.trans inside), take_split early,
      completed_append _ (lastIndexByte_none last)]

/-- The journal is repaired, or an operation fails and the journal is as it was. -/
theorem repairJournalTail_cases (answers : RepairAnswers) (contents : List UInt8) :
    (repairJournalTail answers contents).1 = completed contents ∨
      (repairJournalTail answers contents).1 = contents ∧
        (repairJournalTail answers contents).2 ≠ [] := by
  fun_cases repairJournalTail answers contents with
  | case3 _ _ empty => exact .inl (by rw [empty]; rfl)
  | case6 _ _ _ _ _ _ ends =>
    obtain ⟨front, rfl⟩ := List.getLast?_eq_some_iff.mp ends
    exact .inl (completed_concat front).symm
  | case9 _ _ _ _ _ _ _ length found =>
    have ends := truncateAt_eq found le_rfl
    rw [take_length] at ends
    rw [ends]
    exact .inl (prefix_iff_eq_take.mp ( rdropWhile_prefix _ _)).symm
  | _ => exact .inr ⟨rfl, nofun⟩

theorem repairJournalTail_quiet (contents : List UInt8) :
    (repairJournalTail {} contents).2 = [] := by
  have reads (position : Nat) : (truncateAt 65536 (fun _ => true) contents position).isSome := by
    fun_induction truncateAt 65536 (fun _ => true) contents position <;> simp_all
  obtain ⟨length, found⟩ := Option.isSome_iff_exists.mp (reads contents.length)
  simp only [repairJournalTail, found]
  split_ifs <;> simp_all

/-! ### What the journal holds -/

variable {Record : Type} {codec : LineCodec Record} {records more : List Record}
  {bytes other : List UInt8}

theorem Holds.append (holds : Holds codec records bytes) (rest : Holds codec more other) :
    Holds codec (records ++ more) (bytes ++ other) := by
  induction holds with
  | nil => exact rest
  | cons valid encoded _ ih =>
    rw [append_assoc]
    exact .cons valid encoded ih

theorem Holds.completed_eq (holds : Holds codec records bytes) : completed bytes = bytes := by
  have ends : bytes = [] ∨ ∃ front, bytes = front ++ [newline] := by
    induction holds with
    | nil => exact .inl rfl
    | @cons record _ line _ _ encoded _ ih =>
      obtain ⟨body, rfl, _⟩ := codec.framed record line encoded
      rcases ih with rfl | ⟨front, rfl⟩
      · exact .inr ⟨body, append_nil _⟩
      · exact .inr ⟨body ++ [newline] ++ front, (append_assoc _ _ _).symm⟩
  rcases ends with rfl | ⟨front, rfl⟩
  · rfl
  · exact completed_concat front

theorem journalLines_cons {body : List UInt8} (within : newline ∉ body) (rest : List UInt8) :
    journalLines (body ++ newline :: rest) = (body ++ [newline]) :: journalLines rest := by
  induction body with
  | nil => simp [journalLines]
  | cons byte body ih =>
    simp only [mem_cons, not_or] at within
    simp [journalLines, Ne.symm within.1, ih within.2]

theorem Holds.decoded (holds : Holds codec records bytes) :
    (journalLines bytes).map codec.decode = records.map some := by
  induction holds with
  | nil => rfl
  | @cons record records line bytes valid encoded rest ih =>
    have read := codec.decodes record line valid encoded
    obtain ⟨body, rfl, within⟩ := codec.framed record line encoded
    rw [append_assoc, singleton_append, journalLines_cons within, map_cons, read, ih]
    rfl

theorem Holds.take (holds : Holds codec records bytes) (cut : Nat) :
    ∃ kept front back, kept <+: records ∧ bytes.take cut = front ++ back ∧
      Holds codec kept front ∧ newline ∉ back := by
  induction holds generalizing cut with
  | nil => exact ⟨[], [], [], nil_prefix, by simp, .nil, not_mem_nil⟩
  | @cons record records line bytes valid encoded rest ih =>
    by_cases short : cut < line.length
    · obtain ⟨body, rfl, within⟩ := codec.framed record line encoded
      rw [length_append, length_singleton] at short
      refine ⟨[], [], body.take cut, nil_prefix, ?_, .nil, fun inside => ?_⟩
      · rw [append_assoc, take_append_of_le_length (by omega), nil_append]
      · exact within (mem_of_mem_take inside)
    · obtain ⟨kept, front, back, early, taken, holds, within⟩ := ih (cut - line.length)
      refine ⟨record :: kept, line ++ front, back, cons_prefix_cons.mpr ⟨rfl, early⟩, ?_,
        .cons valid encoded holds, within⟩
      rw [take_append, take_of_length_le (by omega), taken, append_assoc]

/-- Wherever an append is cut off, the repair leaves what ends with the last newline: the records
before the append and some of its own, each of which is read back.  Another repair changes
nothing, and the next append adds whole records. -/
theorem repair_keeps_complete_records (codec : LineCodec Record)
    {acknowledged later : List Record} {front payload : List UInt8}
    (old : Holds codec acknowledged front) (appended : Holds codec later payload) (cut : Nat)
    {answers : RepairAnswers}
    (quiet : (repairJournalTail answers (front ++ payload.take cut)).2 = []) :
    let repaired := (repairJournalTail answers (front ++ payload.take cut)).1
    repaired = completed (front ++ payload.take cut) ∧
      ∃ kept, kept <+: later ∧ Holds codec (acknowledged ++ kept) repaired ∧
        (journalLines repaired).map codec.decode = (acknowledged ++ kept).map some ∧
        (∀ again, (repairJournalTail again repaired).1 = repaired) ∧
        ∀ disk directory more bytes, disk.contents directory = repaired →
          Holds codec more bytes → ∀ operations,
            (appendJournal disk operations directory bytes).2 = none →
            Holds codec (acknowledged ++ kept ++ more)
              ((appendJournal disk operations directory bytes).1.contents directory) := by
  intro repaired
  have complete : repaired = completed (front ++ payload.take cut) :=
    (repairJournalTail_cases answers _).resolve_right fun failed => failed.2 quiet
  obtain ⟨kept, whole, part, early, taken, holds, within⟩ := appended.take cut
  have stands := old.append holds
  have left : repaired = front ++ whole := by
    rw [complete, taken, ← append_assoc, completed_append _ within, stands.completed_eq]
  rw [← left] at stands
  refine ⟨complete, kept, early, stands, stands.decoded, fun again => ?_, ?_⟩
  · rcases repairJournalTail_cases again repaired with same | same
    · rw [same, stands.completed_eq]
    · exact same.1
  · intro disk directory more bytes same next operations done
    rw [appendJournal_contents, done]
    simpa [same] using stands.append next

/-- A record is a text; its line has the text in quotes. -/
def textCodec : LineCodec GoString where
  validate := fun text => if newline ∈ text then some "text has a newline" else none
  directory := fun text => text.take 1
  encode := fun text => if newline ∈ text then none else some (34 :: (text ++ [34, newline]))
  decode := fun line => some (line.drop 1).dropLast.dropLast
  encode_ne_nil := by
    intro text line encoded
    split at encoded
    · cases encoded
    · cases encoded
      exact cons_ne_nil _ _
  framed := by
    intro text line encoded
    split at encoded
    · cases encoded
    next absent =>
      cases encoded
      exact ⟨34 :: (text ++ [34]), by simp, by simpa [newline] using absent⟩
  decodes := by
    intro text line _ encoded
    split at encoded
    · cases encoded
    · cases encoded
      simp

def textLine (text : String) : List UInt8 := 34 :: (ascii text ++ [34, newline])

/-- A crash in the second of two lines: the first is kept and read back. -/
theorem repair_keeps_complete_records_texts :
    let appended := textLine "c" ++ textLine "def"
    let repaired := (repairJournalTail {} (textLine "ab" ++ appended.take 8)).1
    repaired = textLine "ab" ++ textLine "c" ∧
      ∃ kept, kept <+: [ascii "c", ascii "def"] ∧
        (journalLines repaired).map textCodec.decode = (ascii "ab" :: kept).map some := by
  intro appended repaired
  have old : Holds textCodec [ascii "ab"] (textLine "ab" ++ []) :=
    .cons (by decide +kernel) (by decide +kernel) .nil
  have later : Holds textCodec [ascii "c", ascii "def"]
      (textLine "c" ++ (textLine "def" ++ [])) :=
    .cons (by decide +kernel) (by decide +kernel)
      (.cons (by decide +kernel) (by decide +kernel) .nil)
  rw [append_nil] at old later
  obtain ⟨complete, kept, early, _, decoded, _⟩ := repair_keeps_complete_records textCodec old later
    8 (repairJournalTail_quiet _)
  exact ⟨complete.trans (by decide +kernel), kept, early, decoded⟩

/-- A process: it opens the journal, and a crash may cut off what it appends. -/
structure Life (codec : LineCodec Record) where
  answers : RepairAnswers
  records : List Record
  payload : List UInt8
  encoded : Holds codec records payload
  cut : Nat

/-- The journal and the acknowledged records; a process that fails to repair appends nothing. -/
def Life.after (state : List UInt8 × List Record) (life : Life codec) :
    List UInt8 × List Record :=
  let repaired := repairJournalTail life.answers state.1
  if repaired.2 ≠ [] then (repaired.1, state.2)
  else (repaired.1 ++ life.payload.take life.cut,
    state.2 ++ if life.payload.length ≤ life.cut then life.records else [])

/-- After any crashes the complete lines are the acknowledged records and some more that were
appended, in their order. -/
theorem lives_keep_acknowledged (lives : List (Life codec)) :
    let reached := lives.foldl Life.after ([], [])
    ∃ records, reached.2 <+ records ∧ records <+ lives.flatMap Life.records ∧
      Holds codec records (completed reached.1) := by
  induction lives using List.reverseRecOn with
  | nil => exact ⟨[], .slnil, .slnil, .nil⟩
  | append_singleton lives life ih =>
    obtain ⟨records, all, sent, holds⟩ := ih
    rw [foldl_concat, flatMap_append, flatMap_singleton, Life.after]
    have repaired := repairJournalTail_cases life.answers (lives.foldl Life.after ([], [])).1
    split
    next =>
      refine ⟨records, all, sent.trans (sublist_append_left _ _), ?_⟩
      rcases repaired with same | ⟨same, _⟩ <;> simpa only [same, holds.completed_eq]
    next quiet =>
      rw [repaired.resolve_right fun failed => quiet failed.2]
      split
      next whole =>
        have stands := holds.append life.encoded
        rw [take_of_length_le whole]
        exact ⟨_, all.append_right _, sent.append_right _, by rwa [stands.completed_eq]⟩
      next =>
        obtain ⟨kept, front, back, early, taken, part, within⟩ := life.encoded.take life.cut
        have stands := holds.append part
        refine ⟨_, all.append (nil_sublist _), sent.append early.sublist, ?_⟩
        rwa [taken, ← append_assoc, completed_append _ within, stands.completed_eq]

end SparkRoute.SavedTrace
