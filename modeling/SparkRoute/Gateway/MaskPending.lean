import SparkRoute.Gateway.MaskCalls

/-!
# The channels and the count of pending bytes

`Alters` says what the steps of the writer, also those that fail, do to its channels. It follows
which channels are open, and that `pendingBytes` is the length of all pending texts.
-/

namespace SparkRoute.Gateway

open Lib List OrderedMap
open Lib.Json (Value)

namespace MaskWriter

def pendingOf (writer : MaskWriter) (channel : GoString) : GoString :=
  match writer.channels.get channel with
  | some entry => entry.redactor.pending
  | none => []

theorem settle_get (writer : MaskWriter) (name : GoString) (channel : StreamChannel)
    (redactor : Pii.StreamRedactor) (other : GoString) :
    (writer.settle name channel redactor).channels.get other =
      if other = name then some { channel with redactor := redactor }
      else writer.channels.get other :=
  get_insert _ _ _ _

variable (env : MaskEnvironment) {name : GoString} {writer : MaskWriter}

theorem transform_eq_ok {fragment : GoString} {channel : StreamChannel} {final : Bool}
    {result : GoString × Pii.StreamRedactor}
    (transformed : (writer.transform env name channel fragment final).2 = .ok result) :
    ∃ segment,
      Pii.redact env.toUpper (env.detector writer.uses) env.entities segment = .ok result.1 ∧
      channel.redactor.pending ++ fragment = segment ++ result.2.pending ∧
      (final = true → result.2.pending = []) := by
  obtain ⟨segment, retained, parted, redacted, next⟩ :=
    Pii.StreamRedactor.transform_eq_ok transformed
  obtain ⟨whole, ended⟩ := Pii.StreamRedactor.cut_eq_ok parted
  refine ⟨segment, redacted, ?_, ?_⟩
  · rw [next]
    exact whole.symm
  · rw [next]
    exact ended

/-! ### What a step does to the channels -/

/-- The channels of these fields are opened, open ones are settled, and closed when nothing is
pending. -/
inductive Alters (fields : List StreamField) : MaskWriter → MaskWriter → Prop
  | same {before after : MaskWriter} (channels : after.channels = before.channels)
      (bytes : after.pendingBytes = before.pendingBytes) : Alters fields before after
  | opened {before after : MaskWriter} {field : StreamField} {channel : StreamChannel}
      (listed : field ∈ fields)
      (pending : channel.redactor.pending = before.pendingOf field.channel)
      (channels : after.channels = before.channels.insert field.channel channel)
      (bytes : after.pendingBytes = before.pendingBytes) : Alters fields before after
  | settled {writer : MaskWriter} {name : GoString} {channel : StreamChannel}
      (found : writer.channels.get name = some channel) (redactor : Pii.StreamRedactor) :
      Alters fields writer (writer.settle name channel redactor)
  | closed {writer : MaskWriter} {name : GoString} {channel : StreamChannel}
      (found : writer.channels.get name = some channel) (empty : channel.redactor.pending = []) :
      Alters fields writer (writer.close name)
  | reset (writer : MaskWriter) :
      Alters fields writer { writer with channels := .empty, pendingBytes := 0 }
  | trans {before middle after : MaskWriter} (first : Alters fields before middle)
      (second : Alters fields middle after) : Alters fields before after

section Steps

variable {fields : List StreamField}

theorem Alters.andThen {First Result : Type} {outcome : MaskOutcome First}
    {next : First → MaskWriter → MaskOutcome Result} (first : Alters fields writer outcome.1)
    (then_ : ∀ value, outcome.2 = .ok value → Alters fields outcome.1 (next value outcome.1).1) :
    Alters fields writer (MaskWriter.andThen outcome next).1 :=
  andThen_keeps first fun value succeeded => first.trans (then_ value succeeded)

theorem Sent.alters {sentFields : List StreamField} {document : Value} {outcome : MaskOutcome Unit}
    (sent : Sent env writer sentFields document outcome) : Alters fields writer outcome.1 := by
  cases sent <;> exact .same rfl rfl

variable (fields) (writer : MaskWriter)

theorem deliver_alters (texts : FrameTexts) :
    Alters fields writer (writer.deliver env texts).1 := by
  unfold deliver
  split <;> exact .same rfl rfl

theorem flushChannel_alters (name : GoString) :
    Alters fields writer (flushChannel env name writer).1 := by
  unfold flushChannel
  split
  next => exact .same rfl rfl
  next channel found =>
    refine Alters.andThen (.same rfl rfl) fun result transformed => ?_
    obtain ⟨_, _, _, ended⟩ := transform_eq_ok env transformed
    have kept : (writer.transform env name channel [] true).1.channels.get name = some channel :=
      found
    refine (Alters.settled kept result.2).trans (Alters.andThen ?_ fun _ _ => ?_)
    · split
      next => exact .same rfl rfl
      next => exact (writeFlushed_sent env _ _ _).alters
    · refine @Alters.closed _ _ _ { channel with redactor := result.2 } ?_ (ended rfl)
      rw [flushed_channels, settle_get, if_pos rfl]

theorem flushAll_alters (names : List GoString) :
    Alters fields writer (flushAll env names writer).1 := by
  induction names generalizing writer with
  | nil => exact .same rfl rfl
  | cons name names ih => exact (flushChannel_alters env fields writer name).andThen fun _ _ => ih _

theorem abortChannel_alters (name : GoString) :
    Alters fields writer (abortChannel env name writer).1 := by
  unfold abortChannel
  split
  next => exact .same rfl rfl
  next channel found =>
    have emptied : { channel.redactor with pending := [] }.pending = [] := rfl
    refine (Alters.settled found { channel.redactor with pending := [] }).trans
      (Alters.andThen ?_ fun _ _ => ?_)
    · split
      next => exact .same rfl rfl
      next =>
        refine Alters.andThen ?_ fun _ _ => deliver_alters env fields _ _
        rw [encode_writer]
        exact .same rfl rfl
    · refine @Alters.closed _ _ _ { channel with redactor := _ } ?_ emptied
      rw [aborted_channels, settle_get, if_pos rfl]

theorem abortAll_alters (names : List GoString) :
    Alters fields writer (abortAll env names writer).1 := by
  induction names generalizing writer with
  | nil => exact .same rfl rfl
  | cons name names ih => exact (abortChannel_alters env fields writer name).andThen fun _ _ => ih _

variable {fields} {eventType : GoString} {field : StreamField}

theorem openChannel_alters (listed : field ∈ fields) :
    Alters fields writer (writer.openChannel env eventType field).1 := by
  fun_cases openChannel env writer eventType field with
  | case1 _ found => exact .opened listed (by simp only [pendingOf, found]; rfl) rfl rfl
  | case4 found _ redactor created =>
    have fresh := (Pii.newStreamRedactor_eq_ok created).2
    exact .opened listed (by simpa [pendingOf, found] using fresh) rfl rfl
  | _ => exact .same rfl rfl

variable {final : Bool}

theorem transformField_alters (listed : field ∈ fields) (document : Value) :
    Alters fields writer (transformField env eventType final field document writer).1 := by
  refine (openChannel_alters env writer listed).andThen fun channel opened => ?_
  refine Alters.andThen (.same rfl rfl) fun result transformed => ?_
  have found : ((writer.openChannel env eventType field).1.transform env field.channel channel
      field.value final).1.channels.get field.channel = some channel := by
    rw [transform_channels, openChannel_ok env writer opened, get_insert_same]
  obtain ⟨_, _, _, ended⟩ := transform_eq_ok env transformed
  refine (Alters.settled found result.2).trans ?_
  dsimp only
  split
  next => exact .same rfl rfl
  next =>
    cases final with
    | true =>
      refine @Alters.closed _ _ _ { channel with redactor := result.2 } ?_ (ended rfl)
      rw [settle_get, if_pos rfl]
    | false => exact .same rfl rfl

theorem transformFields_alters {turned : List StreamField}
    (within : ∀ field ∈ turned, field ∈ fields) (document : Value) :
    Alters fields writer (transformFields env eventType final turned document writer).1 := by
  induction turned generalizing writer document with
  | nil => exact .same rfl rfl
  | cons field turned ih =>
    obtain ⟨first, later⟩ := forall_mem_cons.mp within
    exact (transformField_alters env writer first document).andThen fun _ _ => ih _ later _

theorem writeInspected_alters (event : Inspected) :
    Alters event.fields writer (writer.writeInspected env event).1 := by
  rw [writeInspected_eq]
  refine (flushAll_alters env _ writer _).andThen fun _ _ => ?_
  refine (transformFields_alters env _ (fun _ => id) _).andThen fun _ _ => ?_
  refine (send_sent env _ _ _).alters.andThen fun _ _ => ?_
  unfold reset
  split
  next => exact .reset _
  next => exact .same rfl rfl

theorem writeFrame_alters (frame : GoString) :
    Alters (seenFields (inspect env.codec env.operation frame)) writer
      (writer.writeFrame env frame).1 := by
  unfold writeFrame
  cases inspect env.codec env.operation frame with
  | plain => exact deliver_alters env _ writer _
  | unreadable reason => exact .same rfl rfl
  | inspected event => exact writeInspected_alters env writer event
  | done => exact (flushAll_alters env _ writer _).andThen fun _ _ => deliver_alters env _ _ _

theorem write_alters (frame : GoString) :
    Alters (seenFields (inspect env.codec env.operation frame)) writer
      (write env frame writer).1 := by
  have first := writeFrame_alters env writer frame
  unfold write
  split
  next => exact deliver_alters env _ writer _
  next =>
    revert first
    rcases writer.writeFrame env frame with ⟨after, reason | _⟩ <;> intro first
    · dsimp only at first ⊢
      split
      next => exact first
      next =>
        refine first.trans ((abortAll_alters env _ after _).andThen fun _ _ => ?_)
        refine Alters.trans ?_ (deliver_alters env _ _ _)
        exact .same rfl rfl
    · exact first

end Steps

/-! ### What follows -/

section

variable {fields : List StreamField} {before after : MaskWriter}
  (alters : Alters fields before after)

include alters

theorem Alters.keys {key : GoString} (listed : key ∈ after.channels.keys) :
    key ∈ fields.map (·.channel) ∨ key ∈ before.channels.keys := by
  induction alters with
  | same channels => exact Or.inr (channels ▸ listed)
  | @opened _ _ field _ present _ channels =>
    rw [channels] at listed
    rcases (mem_keys_insert _).mp listed with rfl | old
    · exact Or.inl (mem_map_of_mem present)
    · exact Or.inr old
  | settled found =>
    rw [settle_keys _ _ (mem_keys.mpr ⟨_, found⟩)] at listed
    exact Or.inr listed
  | closed =>
    rw [close, keys_erase] at listed
    exact Or.inr (mem_filter.mp listed).1
  | reset => cases listed
  | trans _ _ first second => exact (second listed).elim Or.inl first

end

def pendingLength (channel : StreamChannel) : Nat := channel.redactor.pending.length

def Counted (writer : MaskWriter) : Prop :=
  writer.pendingBytes = (writer.channels.total pendingLength : Int)

theorem Alters.counted {fields : List StreamField} {before after : MaskWriter}
    (alters : Alters fields before after) (counted : before.Counted) : after.Counted := by
  induction alters with
  | same channels bytes =>
    rw [Counted, channels, bytes]
    exact counted
  | @opened before _ field channel _ pending channels bytes =>
    rw [Counted, channels, bytes, counted]
    unfold pendingOf at pending
    cases found : before.channels.get field.channel with
    | some old =>
      have change := total_insert_old pendingLength channel found
      simp only [found] at pending
      simp only [pendingLength, pending] at change ⊢
      omega
    | none =>
      have change := total_insert_new pendingLength channel found
      simp only [found] at pending
      simp only [pendingLength, pending, length_nil] at change ⊢
      omega
  | @settled _ _ channel found redactor =>
    have change := total_insert_old pendingLength
      { channel with redactor := redactor } found
    simp only [Counted, settle, pendingLength] at counted change ⊢
    omega
  | closed found empty =>
    have change := total_erase pendingLength found
    simp only [Counted, close, pendingLength, empty, length_nil] at counted change ⊢
    omega
  | reset => rfl
  | trans _ _ first second => exact second (first counted)

/-- In every state, also after failures, `pendingBytes` is the length of all pending texts. -/
theorem writeAll_counted (frames : List GoString) : (writeAll env frames).Counted := by
  apply @run_invariant _ _ _ Counted
  · rfl
  · intro writer frame counted
    exact (write_alters env writer frame).counted counted

end MaskWriter

end SparkRoute.Gateway
