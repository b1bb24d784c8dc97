import SparkRoute.Gateway.Sse

/-!
# Framing does not depend on the transport

However a stream is cut into reads, `proxySSEEvents` delivers its blocks one after the
other: `deliver` says so of the whole text at once, and `Scanned` is what the three indices
mean between two reads.
-/

namespace SparkRoute.Gateway

open Lib List

variable {State : Type} (proxy : Proxy State)

/-- The events of a whole stream, written in order until one is too long or fails. -/
def deliver : List GoString → Output State → Output State × Option GoString
  | [], output => (output, none)
  | event :: events, output =>
    if event.length > maxSSEEventBytes then (output, some eventTooLong)
    else
      match writeSSEEvent proxy output event with
      | (output, some reason) => (output, some reason)
      | (output, none) => deliver events output

/-- The same for a stream that breaks off with `reason`: the last event is the unfinished one,
with a byte that has not come. -/
def interrupt (reason : GoString) : List GoString → Output State → Output State × Option GoString
  | [], output => (output, some reason)
  | event :: events, output =>
    if events = [] then
      (output, some (if event.length > maxSSEEventBytes + 1 then eventTooLong else reason))
    else if event.length > maxSSEEventBytes then (output, some eventTooLong)
    else
      match writeSSEEvent proxy output event with
      | (output, some failure) => (output, some failure)
      | (output, none) => interrupt reason events output

/-- What becomes of a stream with these bytes. A line feed behind an unfinished block is part
of it, so it shows which blocks are whole without the end of the stream. -/
def delivered : Option GoString → GoString → Output State → Output State × Option GoString
  | none, bytes, output => deliver proxy (blocks bytes) output
  | some reason, bytes, output => interrupt proxy reason (blocks (bytes ++ [lineFeed])) output

/-! ### Where the scanner stands -/

/-- What may follow the buffered bytes: nothing at the end of the stream. -/
def Follows (eof closed : Bool) (more : GoString) : Prop :=
  eof = true → closed = true ∧ more = []

/-- No block ends before `scanIndex`, whatever follows, and the line being read starts at
`lineStart`. -/
structure Scanned (eof : Bool) (buffer : SseBuffer) : Prop where
  started : buffer.lineStart ≤ buffer.scanIndex
  inside : buffer.scanIndex ≤ buffer.event.length
  passed : ∀ closed more, Follows eof closed more →
    blockEnd closed true (buffer.event ++ more) =
      (blockEnd closed (decide (buffer.scanIndex = buffer.lineStart))
        (buffer.event.drop buffer.scanIndex ++ more)).map (· + buffer.scanIndex)

theorem follows_nothing (eof : Bool) : Follows eof eof [] := fun ended => ⟨ended, rfl⟩

theorem Scanned.start (eof : Bool) (event : GoString) : Scanned eof (.start event) where
  started := Nat.le_refl _
  inside := Nat.zero_le _
  passed := by simp [SseBuffer.start]

variable {buffer : SseBuffer}

theorem Scanned.extend (scanned : Scanned false buffer) (eof : Bool) (read : GoString) :
    Scanned eof { buffer with event := buffer.event ++ read } where
  started := scanned.started
  inside := by
    rw [length_append]
    exact Nat.le_add_right_of_le scanned.inside
  passed := by
    intro closed more _
    have passed := scanned.passed closed (read ++ more) (fun ended => nomatch ended)
    rwa [← append_assoc, ← append_assoc, ← drop_append_of_le_length scanned.inside] at passed

variable {eof : Bool}

theorem Scanned.here (scanned : Scanned eof buffer) :
    blockEnd eof true buffer.event =
      (blockEnd eof (decide (buffer.scanIndex = buffer.lineStart))
        (buffer.event.drop buffer.scanIndex)).map (· + buffer.scanIndex) := by
  simpa using scanned.passed eof [] (follows_nothing eof)

variable {event : GoString}

theorem endingBytes_inside {index : Nat} (inside : index < event.length) :
    index + endingBytes event index ≤ event.length := by
  unfold endingBytes
  split
  next pair =>
    obtain ⟨next, _⟩ := List.getElem?_eq_some_iff.mp pair.2
    exact next
  next => exact inside

/-- An ending that the scanner takes is the same ending in every continuation. -/
theorem blockEnd_endingBytes {closed : Bool} {more : GoString} {index : Nat} (fresh : Bool)
    (inside : index < event.length) (ending : isEnding event[index] = true)
    (decided : ¬ (event[index] = carriageReturn ∧ index + 1 = event.length ∧ !eof))
    (follows : Follows eof closed more) :
    blockEnd closed fresh (event.drop index ++ more) =
      if fresh then some (endingBytes event index)
      else (blockEnd closed true (event.drop (index + endingBytes event index) ++ more)).map
        (· + endingBytes event index) := by
  rw [drop_eq_getElem_cons inside]
  by_cases pair : event[index] = carriageReturn ∧ event[index + 1]? = some lineFeed
  · obtain ⟨next, second⟩ := List.getElem?_eq_some_iff.mp pair.2
    have two : endingBytes event index = 2 := by
      rw [endingBytes, if_pos ⟨by rw [List.getElem?_eq_getElem inside, pair.1], pair.2⟩]
    rw [drop_eq_getElem_cons next, pair.1, second, two]
    exact blockEnd_pair closed fresh _
  · have one : endingBytes event index = 1 := by
      rw [endingBytes, if_neg]
      rw [List.getElem?_eq_getElem inside, Option.some_inj]
      exact pair
    rw [one]
    have last : event[index] = carriageReturn → event.drop (index + 1) = [] →
        closed = true ∧ more = [] := by
      intro return_ used
      refine follows ?_
      by_contra going
      refine decided ⟨return_, ?_, by simpa using going⟩
      have short := drop_eq_nil_iff.mp used
      omega
    refine blockEnd_single closed fresh ending ?_ ?_
    · rintro ⟨return_, feed⟩
      cases used : event.drop (index + 1) with
      | nil =>
        rw [used, (last return_ used).2] at feed
        cases feed
      | cons next rest =>
        refine pair ⟨return_, ?_⟩
        rw [← List.head?_drop, used]
        rwa [used] at feed
    · rintro ⟨return_, used, notClosed⟩
      rw [(last return_ (append_eq_nil_iff.mp used).1).1] at notClosed
      cases notClosed

section Advance

variable {eof : Bool} {buffer : SseBuffer} (scanned : Scanned eof buffer)
  (inside : buffer.scanIndex < buffer.event.length)

include scanned

theorem Scanned.ordinary (ordinary : isEnding buffer.event[buffer.scanIndex] = false) :
    Scanned eof { buffer with scanIndex := buffer.scanIndex + 1 } where
  started := Nat.le_succ_of_le scanned.started
  inside := inside
  passed := by
    intro closed more follows
    have later : buffer.scanIndex + 1 ≠ buffer.lineStart := by
      have := scanned.started
      omega
    rw [scanned.passed closed more follows, drop_eq_getElem_cons inside,
      cons_append, blockEnd_ordinary _ _ _ ordinary, decide_eq_false later]
    simp [Function.comp_def, Nat.add_comm, Nat.add_left_comm]

theorem Scanned.waiting (waiting : buffer.event[buffer.scanIndex] = carriageReturn ∧
      buffer.scanIndex + 1 = buffer.event.length ∧ !eof) :
    blockEnd eof true buffer.event = none := by
  obtain ⟨return_, last, notEof⟩ := waiting
  have open_ : eof = false := by simpa using notEof
  rw [scanned.here, drop_eq_getElem_cons inside, last, drop_length, return_, open_]
  simp [blockEnd]

variable (ending : isEnding buffer.event[buffer.scanIndex] = true)
  (decided : ¬ (buffer.event[buffer.scanIndex] = carriageReturn ∧
    buffer.scanIndex + 1 = buffer.event.length ∧ !eof))

include ending decided

theorem Scanned.blank (blank : buffer.scanIndex = buffer.lineStart) :
    blockEnd eof true buffer.event =
      some (buffer.scanIndex + endingBytes buffer.event buffer.scanIndex) := by
  have found := blockEnd_endingBytes true inside ending decided (follows_nothing eof)
  rw [append_nil, if_pos rfl] at found
  rw [scanned.here, decide_eq_true blank, found, Option.map_some, Nat.add_comm]

theorem Scanned.line (written : buffer.scanIndex ≠ buffer.lineStart) :
    let next := buffer.scanIndex + endingBytes buffer.event buffer.scanIndex
    Scanned eof ⟨buffer.event, next, next⟩ where
  started := Nat.le_refl _
  inside := endingBytes_inside inside
  passed := by
    intro closed more follows
    rw [scanned.passed closed more follows, decide_eq_false written,
      blockEnd_endingBytes false inside ending decided follows]
    simp [Function.comp_def, Nat.add_comm, Nat.add_left_comm]

end Advance

/-! ### One block -/

/-- A complete event of the given length, and the bytes after it. -/
def completeBlock (eof : Bool) (output : Output State) (event : GoString) (length : Nat) :
    Output State × Except GoString SseBuffer :=
  if length > maxSSEEventBytes then (output, .error eventTooLong)
  else
    match writeSSEEvent proxy output (event.take length) with
    | (output, some reason) => (output, .error reason)
    | (output, none) =>
      writeCompleteSSEEvents proxy eof output (.start (event.drop length))

section Steps

variable {proxy} {eof : Bool} {output : Output State} {buffer : SseBuffer}

theorem writeCompleteSSEEvents_waiting (inside : buffer.scanIndex < buffer.event.length)
    (waiting : buffer.event[buffer.scanIndex] = carriageReturn ∧
      buffer.scanIndex + 1 = buffer.event.length ∧ !eof) :
    writeCompleteSSEEvents proxy eof output buffer = (output, .ok buffer) := by
  have ending : isEnding buffer.event[buffer.scanIndex] = true := by
    rw [waiting.1]
    rfl
  rw [writeCompleteSSEEvents, dif_pos inside]
  simp only [ending, Bool.not_true, Bool.false_eq_true, if_false]
  rw [if_pos waiting]

theorem writeCompleteSSEEvents_ending (inside : buffer.scanIndex < buffer.event.length)
    (ending : isEnding buffer.event[buffer.scanIndex] = true)
    (decided : ¬ (buffer.event[buffer.scanIndex] = carriageReturn ∧
      buffer.scanIndex + 1 = buffer.event.length ∧ !eof)) :
    writeCompleteSSEEvents proxy eof output buffer =
      let next := buffer.scanIndex + endingBytes buffer.event buffer.scanIndex
      if buffer.scanIndex = buffer.lineStart then
        completeBlock proxy eof output buffer.event next
      else writeCompleteSSEEvents proxy eof output ⟨buffer.event, next, next⟩ := by
  conv_lhs => rw [writeCompleteSSEEvents, dif_pos inside]
  simp only [ending, Bool.not_true, Bool.false_eq_true, if_false]
  rw [if_neg decided]
  simp only [ne_eq, ite_not]
  rfl

end Steps

variable (output : Output State)

/-- The scanner stops before the end of a block, or finds the end of the first one. -/
theorem writeCompleteSSEEvents_block (scanned : Scanned eof buffer) :
    (∃ stopped : SseBuffer, stopped.event = buffer.event ∧ Scanned eof stopped ∧
      blockEnd eof true buffer.event = none ∧
      writeCompleteSSEEvents proxy eof output buffer = (output, .ok stopped)) ∨
    ∃ length, blockEnd eof true buffer.event = some length ∧
      writeCompleteSSEEvents proxy eof output buffer =
        completeBlock proxy eof output buffer.event length := by
  induction measure : buffer.event.length - buffer.scanIndex using Nat.strong_induction_on
    generalizing buffer with
  | _ size ih =>
    rcases Nat.lt_or_ge buffer.scanIndex buffer.event.length with inside | used
    · cases ending : isEnding buffer.event[buffer.scanIndex] with
      | false =>
        rw [writeCompleteSSEEvents, dif_pos inside]
        simp only [ending, Bool.not_false, if_true]
        exact ih _ (by simp only [← measure]; omega)
          (scanned.ordinary inside ending) rfl
      | true =>
        by_cases waiting : buffer.event[buffer.scanIndex] = carriageReturn ∧
            buffer.scanIndex + 1 = buffer.event.length ∧ !eof
        · exact Or.inl ⟨buffer, rfl, scanned, scanned.waiting inside waiting,
            writeCompleteSSEEvents_waiting inside waiting⟩
        rw [writeCompleteSSEEvents_ending inside ending waiting]
        by_cases blank : buffer.scanIndex = buffer.lineStart
        · exact Or.inr ⟨_, scanned.blank inside ending waiting blank, if_pos blank⟩
        have positive := endingBytes_pos buffer.event buffer.scanIndex
        simp only [if_neg blank]
        exact ih _ (by simp only [← measure]; omega)
          (scanned.line inside ending waiting blank) rfl
    · refine Or.inl ⟨buffer, rfl, scanned, ?_, ?_⟩
      · rw [scanned.here, drop_eq_nil_of_le used]
        simp [blockEnd]
      · rw [writeCompleteSSEEvents, dif_neg (Nat.not_lt.mpr used)]

/-! ### Whole reads -/

/-- What the scanner leaves behind: the same deliveries are still to come. -/
structure Resumes (failure : Option GoString) (eof : Bool) (more : GoString) (before : SseBuffer)
    (outcome : Output State × Option GoString) (output : Output State)
    (after : SseBuffer) : Prop where
  scanned : Scanned eof after
  incomplete : blockEnd eof true after.event = none
  shorter : after.event.length ≤ before.event.length
  same : outcome = delivered proxy failure (after.event ++ more) output

theorem blocks_append_of_blockEnd {more : GoString} {length : Nat}
    (found : blockEnd eof true event = some length) (follows : Follows eof true more) :
    blocks (event ++ more) = event.take length :: blocks (event.drop length ++ more) := by
  have whole : blockEnd true true (event ++ more) = some length := by
    cases eof with
    | false => exact blockEnd_append true more found
    | true => rw [(follows rfl).2, append_nil, found]
  rw [blocks_of_blockEnd_some whole, take_append_of_le_length (blockEnd_le found),
    drop_append_of_le_length (blockEnd_le found)]

theorem blocks_ne_nil {text : GoString} (some : text ≠ []) : blocks text ≠ [] := by
  intro none
  apply some
  rw [← flatten_blocks text, none, flatten_nil]

variable {failure : Option GoString}

theorem delivered_block {more : GoString} {length : Nat} (output : Output State)
    (found : blockEnd eof true event = some length)
    (follows : Follows eof failure.isNone more) :
    delivered proxy failure (event ++ more) output =
      if length > maxSSEEventBytes then (output, some eventTooLong)
      else
        match writeSSEEvent proxy output (event.take length) with
        | (output, some reason) => (output, some reason)
        | (output, none) => delivered proxy failure (event.drop length ++ more) output := by
  have bounded := blockEnd_le found
  cases failure with
  | none =>
    rw [delivered, blocks_append_of_blockEnd found follows, deliver, length_take_of_le bounded]
    rfl
  | some reason =>
    have undecided : Follows eof true (more ++ [lineFeed]) :=
      fun ended => nomatch (follows ended).1
    rw [delivered, append_assoc, blocks_append_of_blockEnd found undecided, interrupt,
      if_neg (blocks_ne_nil (by simp)), length_take_of_le bounded, ← append_assoc]
    rfl

theorem writeCompleteSSEEvents_delivered {buffer : SseBuffer} {more : GoString}
    (output : Output State) (scanned : Scanned eof buffer)
    (follows : Follows eof failure.isNone more) :
    match writeCompleteSSEEvents proxy eof output buffer with
    | (after, .error reason) =>
      delivered proxy failure (buffer.event ++ more) output = (after, some reason)
    | (after, .ok rest) =>
      Resumes proxy failure eof more buffer (delivered proxy failure (buffer.event ++ more) output)
        after rest := by
  induction measure : buffer.event.length using Nat.strong_induction_on
    generalizing buffer output with
  | _ size ih =>
    rcases writeCompleteSSEEvents_block proxy output scanned with
      ⟨stopped, same, stoppedScanned, none, result⟩ | ⟨length, found, result⟩
    · rw [result]
      exact ⟨stoppedScanned, same ▸ none, by rw [same], by rw [same]⟩
    · rw [result, delivered_block proxy output found follows, completeBlock]
      have bounded := blockEnd_le found
      have positive := blockEnd_pos found
      by_cases long : length > maxSSEEventBytes
      · rw [if_pos long, if_pos long]
      rw [if_neg long, if_neg long]
      rcases writeSSEEvent proxy output (buffer.event.take length) with
        ⟨written, reason | _⟩
      · have shorter : (buffer.event.drop length).length < size := by
          rw [length_drop]
          omega
        have later := ih _ shorter written
          (Scanned.start eof (buffer.event.drop length)) rfl
        dsimp only
        split at later
        next failed => exact later
        next after rest finished =>
          have remaining : (buffer.event.drop length).length ≤ buffer.event.length := by
            simp
          exact { later with shorter := le_trans later.shorter remaining }
      · rfl

theorem delivered_too_long (more : GoString) (output : Output State)
    (incomplete : blockEnd false true event = none) (long : event.length > maxSSEEventBytes) :
    delivered proxy failure (event ++ more) output = (output, some eventTooLong) := by
  -- The first block has all the buffered bytes in it, whatever follows them.
  have first : ∀ more, ∃ block rest, blocks (event ++ more) = block :: rest ∧
      event.length ≤ block.length ∧ (rest = [] → block = event ++ more) := by
    intro more
    have some : event ++ more ≠ [] := by
      intro empty
      rw [(append_eq_nil_iff.mp empty).1] at long
      exact absurd long (Nat.not_lt_zero _)
    cases found : blockEnd true true (event ++ more) with
    | none =>
      exact ⟨_, [], blocks_of_blockEnd_none found some, by simp, fun _ => rfl⟩
    | some length =>
      refine ⟨_, _, blocks_of_blockEnd_some found, ?_, fun last => ?_⟩
      · rw [length_take_of_le (blockEnd_le found)]
        exact (length_le_of_blockEnd true more incomplete found).1
      · by_contra cut
        refine blocks_ne_nil (fun used => cut ?_) last
        exact take_of_length_le (drop_eq_nil_iff.mp used)
  cases failure with
  | none =>
    obtain ⟨block, rest, listed, reaches, _⟩ := first more
    rw [delivered, listed, deliver, if_pos (Nat.lt_of_lt_of_le long reaches)]
  | some reason =>
    obtain ⟨block, rest, listed, reaches, whole⟩ := first (more ++ [lineFeed])
    rw [delivered, append_assoc, listed, interrupt]
    split
    next last =>
      have large : block.length > maxSSEEventBytes + 1 := by
        rw [whole last, length_append, length_append, length_singleton]
        omega
      rw [if_pos large]
    next => rw [if_pos (Nat.lt_of_lt_of_le long reaches)]

/-- What holds of the buffer between two reads. -/
structure Waiting (buffer : SseBuffer) : Prop where
  scanned : Scanned false buffer
  incomplete : blockEnd false true buffer.event = none
  short : buffer.event.length ≤ maxSSEEventBytes

theorem takeRead_delivered (failure : Option GoString) (waiting : Waiting buffer)
    (read more : GoString) :
    match takeRead proxy output buffer read with
    | (after, .error reason) =>
      delivered proxy failure (buffer.event ++ read ++ more) output = (after, some reason)
    | (after, .ok rest) =>
      Waiting rest ∧ delivered proxy failure (buffer.event ++ read ++ more) output =
        delivered proxy failure (rest.event ++ more) after := by
  unfold takeRead
  by_cases empty : read = []
  · rw [if_pos empty, empty, append_nil]
    exact ⟨waiting, rfl⟩
  · rw [if_neg empty]
    have step := @writeCompleteSSEEvents_delivered _ proxy false failure _ more output
      (waiting.scanned.extend false read) (fun ended => nomatch ended)
    revert step
    rcases writeCompleteSSEEvents proxy false output
      { buffer with event := buffer.event ++ read } with ⟨after, reason | rest⟩ <;> intro step
    · exact step
    · dsimp only at step ⊢
      by_cases long : rest.event.length > maxSSEEventBytes
      · rw [if_pos long, step.same]
        exact delivered_too_long proxy more after step.incomplete long
      · rw [if_neg long]
        exact ⟨⟨step.scanned, step.incomplete, Nat.le_of_not_lt long⟩, step.same⟩

theorem finishReads_delivered (waiting : Waiting buffer) :
    finishReads proxy output buffer = delivered proxy none buffer.event output := by
  have scanned : Scanned true buffer := by
    simpa using waiting.scanned.extend true []
  have step := @writeCompleteSSEEvents_delivered _ proxy true none buffer [] output scanned
    (fun _ => ⟨rfl, rfl⟩)
  rw [append_nil] at step
  unfold finishReads
  revert step
  rcases writeCompleteSSEEvents proxy true output buffer with ⟨after, reason | rest⟩ <;> intro step
  · exact step.symm
  · dsimp only at step ⊢
    rw [step.same, append_nil, delivered]
    split
    next some =>
      have short := le_trans step.shorter waiting.short
      rw [blocks_of_blockEnd_none step.incomplete (ne_nil_of_length_pos some), deliver,
        if_neg (Nat.not_lt.mpr short)]
      split
      next failed => exact failed
      next written => exact written
    next none =>
      rw [eq_nil_of_length_eq_zero (Nat.eq_zero_of_not_pos none)]
      rfl

theorem delivered_broken (reason : GoString) (waiting : Waiting buffer) :
    delivered proxy (some reason) buffer.event output = (output, some reason) := by
  have short : ¬ (buffer.event ++ [lineFeed]).length > maxSSEEventBytes + 1 := by
    have := waiting.short
    rw [length_append, length_singleton]
    omega
  rw [delivered, blocks_lineFeed waiting.incomplete, interrupt, if_pos rfl, if_neg short]

theorem proxyReads_delivered (last : GoString) (failure : Option GoString) {reads : List GoString}
    (nonempty : ∀ read ∈ reads, read ≠ []) (output : Output State) (waiting : Waiting buffer) :
    proxyReads proxy last failure reads output buffer =
      delivered proxy failure (buffer.event ++ (reads.flatten ++ last)) output := by
  induction reads generalizing output buffer with
  | nil =>
    have step := takeRead_delivered proxy output failure waiting last []
    rw [append_nil] at step
    simp only [proxyReads, flatten_nil, nil_append]
    revert step
    rcases takeRead proxy output buffer last with ⟨after, reason | rest⟩ <;> intro step
    · exact step.symm
    · rw [step.2, append_nil]
      cases failure with
      | none => exact finishReads_delivered proxy after step.1
      | some reason => exact (delivered_broken proxy after reason step.1).symm
  | cons read reads ih =>
    have step := takeRead_delivered proxy output failure waiting read (reads.flatten ++ last)
    rw [proxyReads, flatten_cons, append_assoc, ← append_assoc buffer.event]
    revert step
    rcases takeRead proxy output buffer read with ⟨after, reason | rest⟩ <;> intro step
    · exact step.symm
    · dsimp only at step ⊢
      rw [step.2, if_neg (nonempty read mem_cons_self)]
      exact ih (fun read listed => nonempty read (mem_cons_of_mem _ listed))
        after step.1

/-! ### The framing of a stream -/

theorem proxySSEEvents_eq_delivered (state : State) {source : Source}
    (nonempty : ∀ read ∈ source.reads, read ≠ []) :
    proxySSEEvents proxy state source =
      delivered proxy source.failure source.bytes ⟨state, []⟩ := by
  rw [proxySSEEvents, proxyReads_delivered proxy source.last source.failure nonempty]
  · rfl
  · exact ⟨Scanned.start false [], rfl, Nat.zero_le _⟩

theorem writeSSEEvent_written {proxy : Proxy State} (identity : proxy.transform event = event) :
    (writeSSEEvent proxy output event).1.written = output.written ++ [event] ∨
      (writeSSEEvent proxy output event).1.written = output.written ∧
        (writeSSEEvent proxy output event).2 ≠ none := by
  unfold writeSSEEvent
  split
  next => exact Or.inr ⟨rfl, by simp⟩
  next => exact Or.inl (by simp [identity])

theorem deliver_written {proxy : Proxy State} (identity : ∀ event, proxy.transform event = event)
    (events : List GoString) (output : Output State) :
    ∃ front, front <+: events ∧
      (deliver proxy events output).1.written = output.written ++ front ∧
      ((deliver proxy events output).2 = none → front = events) ∧
      ∀ event ∈ front, event.length ≤ maxSSEEventBytes := by
  induction events generalizing output with
  | nil => exact ⟨[], nil_prefix, (append_nil _).symm, fun _ => rfl, by simp⟩
  | cons event events ih =>
    rw [deliver]
    by_cases long : event.length > maxSSEEventBytes
    · rw [if_pos long]
      exact ⟨[], nil_prefix, (append_nil _).symm, by simp, by simp⟩
    rw [if_neg long]
    have bounded := Nat.le_of_not_lt long
    have written := writeSSEEvent_written output (identity event)
    revert written
    rcases writeSSEEvent proxy output event with ⟨next, _ | reason⟩ <;> intro written
    · obtain ⟨front, listed, same, complete, short⟩ := ih next
      have first : next.written = output.written ++ [event] := by simpa using written
      refine ⟨event :: front, cons_prefix_cons.mpr ⟨rfl, listed⟩, ?_, ?_, ?_⟩
      · simp only [same, first, append_assoc, singleton_append]
      · exact fun success => by rw [complete success]
      · exact forall_mem_cons.mpr ⟨bounded, short⟩
    · rcases written with written | ⟨written, _⟩
      · exact ⟨[event], cons_prefix_cons.mpr ⟨rfl, nil_prefix⟩, written,
          by simp, by simpa using bounded⟩
      · exact ⟨[], nil_prefix, by rw [written, append_nil], by simp, by simp⟩

theorem interrupt_deliver (reason : GoString) (events : List GoString) (output : Output State) :
    (interrupt proxy reason events output).1 = (deliver proxy events.dropLast output).1 ∧
      (interrupt proxy reason events output).2 ≠ none := by
  induction events generalizing output with
  | nil => exact ⟨rfl, by simp [interrupt]⟩
  | cons event events ih =>
    rw [interrupt]
    by_cases last : events = []
    · rw [if_pos last, last]
      exact ⟨rfl, by simp⟩
    rw [if_neg last, dropLast_cons_of_ne_nil last, deliver]
    by_cases long : event.length > maxSSEEventBytes
    · rw [if_pos long, if_pos long]
      exact ⟨rfl, by simp⟩
    rw [if_neg long, if_neg long]
    rcases writeSSEEvent proxy output event with ⟨next, _ | failed⟩
    · exact ih next
    · exact ⟨rfl, by simp⟩

theorem whole_blocks_isPrefix (text : GoString) :
    (blocks (text ++ [lineFeed])).dropLast <+: blocks text := by
  induction measure : text.length using Nat.strong_induction_on generalizing text with
  | _ size ih =>
    cases found : blockEnd false true text with
    | none =>
      rw [blocks_lineFeed found]
      exact nil_prefix
    | some length =>
      have shorter : (text.drop length).length < size := by
        have bounded := blockEnd_le found
        have positive := blockEnd_pos found
        rw [length_drop]
        omega
      have goesOn : ∀ more, Follows false true more := fun _ ended => nomatch ended
      have ended := blocks_append_of_blockEnd found (goesOn [])
      rw [append_nil, append_nil] at ended
      rw [blocks_append_of_blockEnd found (goesOn _), ended,
        dropLast_cons_of_ne_nil (blocks_ne_nil (by simp))]
      exact cons_prefix_cons.mpr ⟨rfl, ih _ shorter _ rfl⟩

theorem delivered_written {proxy : Proxy State}
    (identity : ∀ event, proxy.transform event = event) (failure : Option GoString)
    (bytes : GoString) (state : State) :
    let result := delivered proxy failure bytes ⟨state, []⟩
    result.1.written <+: blocks bytes ∧
      (result.2 = none → result.1.written = blocks bytes) ∧
      ∀ event ∈ result.1.written, event.length ≤ maxSSEEventBytes := by
  cases failure with
  | none =>
    obtain ⟨front, listed, written, complete, short⟩ :=
      deliver_written identity (blocks bytes) ⟨state, []⟩
    rw [nil_append] at written
    simp only [delivered, written]
    exact ⟨listed, complete, short⟩
  | some reason =>
    obtain ⟨same, failed⟩ :=
      interrupt_deliver proxy reason (blocks (bytes ++ [lineFeed])) ⟨state, []⟩
    obtain ⟨front, listed, written, _, short⟩ :=
      deliver_written identity (blocks (bytes ++ [lineFeed])).dropLast ⟨state, []⟩
    rw [nil_append] at written
    simp only [delivered, same, written]
    exact ⟨listed.trans (whole_blocks_isPrefix bytes), fun success => absurd success failed, short⟩

/-- Two ways of cutting one stream into reads give the same events and the same outcome, those
of its blocks. The events are blocks of the stream, all of them when it succeeds, and never too
long. -/
theorem framing_independent_of_reads {proxy : Proxy State}
    (identity : ∀ event, proxy.transform event = event) (state : State)
    {first second : Source} (same : first.bytes = second.bytes)
    (alike : first.failure = second.failure) (firstNonempty : ∀ read ∈ first.reads, read ≠ [])
    (secondNonempty : ∀ read ∈ second.reads, read ≠ []) :
    let result := proxySSEEvents proxy state first
    result = delivered proxy first.failure first.bytes ⟨state, []⟩ ∧
      proxySSEEvents proxy state second = result ∧
      result.1.written <+: blocks first.bytes ∧
      (result.2 = none → result.1.written = blocks first.bytes ∧
        result.1.written.flatten = first.bytes) ∧
      ∀ event ∈ result.1.written, event.length ≤ maxSSEEventBytes := by
  rw [proxySSEEvents_eq_delivered proxy state firstNonempty,
    proxySSEEvents_eq_delivered proxy state secondNonempty, same, alike]
  obtain ⟨listed, complete, short⟩ := delivered_written identity second.failure second.bytes state
  refine ⟨rfl, rfl, listed, fun success => ?_, short⟩
  rw [complete success]
  exact ⟨rfl, flatten_blocks second.bytes⟩

def plainProxy : Proxy Unit := ⟨none, none, fun state _ => (state, none)⟩

/-- A stream whose last block ends with it, and the same bytes before a failing read. -/
theorem framing_independent_of_reads_crlf :
    let cut : Option GoString → Source := fun failure =>
      ⟨[ascii "a\r\n\r", ascii "\nb"], ascii "\r\r", failure⟩
    let other : Option GoString → Source := fun failure =>
      ⟨[ascii "a\r"], ascii "\n\r\nb\r\r", failure⟩
    proxySSEEvents plainProxy () (cut none) =
        (⟨(), [ascii "a\r\n\r\n", ascii "b\r\r"]⟩, none) ∧
      proxySSEEvents plainProxy () (other none) = proxySSEEvents plainProxy () (cut none) ∧
      proxySSEEvents plainProxy () (cut (some (ascii "reset"))) =
        (⟨(), [ascii "a\r\n\r\n"]⟩, some (ascii "reset")) ∧
      proxySSEEvents plainProxy () (other (some (ascii "reset"))) =
        proxySSEEvents plainProxy () (cut (some (ascii "reset"))) := by
  intro cut other
  have framed := fun failure => @framing_independent_of_reads _ plainProxy (fun _ => rfl) ()
    (cut failure) (other failure) (show (cut none).bytes = (other none).bytes by decide) rfl
    (show ∀ read ∈ (cut none).reads, read ≠ [] by decide)
    (show ∀ read ∈ (other none).reads, read ≠ [] by decide)
  exact ⟨(framed none).1.trans (by decide +kernel), (framed none).2.1,
    (framed _).1.trans (by decide +kernel), (framed _).2.1⟩

end SparkRoute.Gateway
