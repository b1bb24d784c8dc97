import SparkRoute.Lib.Bytes

/-!
# UTF-8 in arbitrary byte strings

A byte string is read as a sequence of pieces: well-formed encodings of one code
point, and single bytes that start none.  `repair` writes every such byte as the
replacement character.
-/

namespace SparkRoute.Lib

open List

namespace Utf8

def continuation (byte : UInt8) : Bool :=
  0x80 ≤ byte && byte ≤ 0xBF

/-- The bytes that may follow `lead`: how many, and the range of the first. -/
def shape (lead : UInt8) : Option (Nat × UInt8 × UInt8) :=
  if lead < 0x80 then some (0, 0x80, 0xBF)
  else if lead < 0xC2 then none
  else if lead < 0xE0 then some (1, 0x80, 0xBF)
  else if lead = 0xE0 then some (2, 0xA0, 0xBF)
  else if lead = 0xED then some (2, 0x80, 0x9F)
  else if lead < 0xF0 then some (2, 0x80, 0xBF)
  else if lead = 0xF0 then some (3, 0x90, 0xBF)
  else if lead < 0xF4 then some (3, 0x80, 0xBF)
  else if lead = 0xF4 then some (3, 0x80, 0x8F)
  else none

/-- `tail` is what may follow a lead byte of this shape. -/
def follows (count : Nat) (low high : UInt8) (tail : GoString) : Bool :=
  match count, tail with
  | 0, [] => true
  | count + 1, first :: rest =>
    low ≤ first && first ≤ high && rest.length == count && rest.all continuation
  | _, _ => false

/-- The well-formed encoding at the front, `none` when the first byte starts none. -/
def front : GoString → Option GoString
  | [] => none
  | lead :: rest =>
    match shape lead with
    | none => none
    | some (count, low, high) =>
      if follows count low high (rest.take count) then some (lead :: rest.take count)
      else none

inductive Piece where
  | rune (bytes : GoString)
  | invalid (byte : UInt8)
  deriving DecidableEq

def piecesWith : Nat → GoString → List Piece
  | 0, _ => []
  | _ + 1, [] => []
  | fuel + 1, byte :: rest =>
    match front (byte :: rest) with
    | some bytes => .rune bytes :: piecesWith fuel (rest.drop (bytes.length - 1))
    | none => .invalid byte :: piecesWith fuel rest

variable (text : GoString)

def pieces : List Piece :=
  piecesWith text.length text

/-- `utf8.ValidString`. -/
def valid : Bool :=
  (pieces text).all fun piece => match piece with
    | .rune _ => true
    | .invalid _ => false

/-- U+FFFD. -/
def replacement : GoString := [0xEF, 0xBF, 0xBD]

def Piece.repaired : Piece → GoString
  | .rune bytes => bytes
  | .invalid _ => replacement

def Piece.bytes : Piece → GoString
  | .rune bytes => bytes
  | .invalid byte => [byte]

def repair : GoString :=
  (pieces text).flatMap Piece.repaired

/-- The encoding of a code point; surrogates and numbers out of range are replaced. -/
def encode (code : Nat) : GoString :=
  if code < 0x80 then [code.toUInt8]
  else if code < 0x800 then [(0xC0 + code / 64).toUInt8, (0x80 + code % 64).toUInt8]
  else if 0xD800 ≤ code ∧ code ≤ 0xDFFF then replacement
  else if code < 0x10000 then
    [(0xE0 + code / 4096).toUInt8, (0x80 + code / 64 % 64).toUInt8, (0x80 + code % 64).toUInt8]
  else if code ≤ 0x10FFFF then
    [(0xF0 + code / 262144).toUInt8, (0x80 + code / 4096 % 64).toUInt8,
      (0x80 + code / 64 % 64).toUInt8, (0x80 + code % 64).toUInt8]
  else replacement

/-- The code point of a well-formed encoding: the lead byte keeps what its length leaves. -/
def codePoint : GoString → Nat
  | [] => 0
  | lead :: rest =>
    rest.foldl (fun code byte => 64 * code + byte.toNat % 64)
      (if rest = [] then lead.toNat else lead.toNat % (64 >>> rest.length))

/-- The rune is found at the front of any text that starts with its bytes. -/
structure Piece.Valid (bytes : GoString) : Prop where
  nonempty : bytes ≠ []
  found : ∀ rest, front (bytes ++ rest) = some bytes

theorem follows_length {count : Nat} {low high : UInt8} {tail : GoString}
    (accepted : follows count low high tail = true) : tail.length = count := by
  cases count with
  | zero =>
    cases tail with
    | nil => rfl
    | cons first rest => cases accepted
  | succ count =>
    cases tail with
    | nil => cases accepted
    | cons first rest =>
      simp only [follows, Bool.and_eq_true, beq_iff_eq] at accepted
      rw [length_cons, accepted.1.2]

theorem front_valid {text bytes : GoString} (found : front text = some bytes) :
    Piece.Valid bytes ∧ bytes ++ text.drop bytes.length = text := by
  cases text with
  | nil => cases found
  | cons lead rest =>
    dsimp only [front] at found
    cases shaped : shape lead with
    | none =>
      rw [shaped] at found
      cases found
    | some entry =>
      obtain ⟨count, low, high⟩ := entry
      rw [shaped] at found
      dsimp only at found
      split at found
      next accepted =>
        cases found
        have length := follows_length accepted
        refine ⟨⟨cons_ne_nil _ _, ?_⟩, ?_⟩
        · intro more
          rw [cons_append]
          dsimp only [front]
          rw [shaped]
          dsimp only
          have taken : (rest.take count ++ more).take count = rest.take count := by
            rw [take_append_of_le_length (Nat.le_of_eq length.symm), take_take, Nat.min_self]
          rw [taken, if_pos accepted]
        · rw [length_cons, drop_succ_cons, cons_append, length, take_append_drop]
      · cases found

/-- Runes are valid, and bytes that start none are not ASCII. -/
def Piece.WellFormed : Piece → Prop
  | .rune bytes => Piece.Valid bytes
  | .invalid byte => 0x80 ≤ byte

theorem front_ascii {lead : UInt8} (small : lead < 0x80) (rest : GoString) :
    front (lead :: rest) = some [lead] := by
  dsimp only [front, shape]
  rw [if_pos small]
  rfl

theorem shape_alone {lead low high : UInt8} (shaped : shape lead = some (0, low, high)) :
    lead < 0x80 := by
  unfold shape at shaped
  split at shaped
  next small => exact small
  next =>
    repeat' split at shaped
    all_goals cases shaped

theorem Piece.Valid.single_ascii {byte : UInt8} (valid : Piece.Valid [byte]) : byte < 0x80 := by
  have found := valid.found []
  rw [append_nil] at found
  dsimp only [front] at found
  split at found
  · cases found
  next count low high shaped =>
    split at found
    next accepted =>
      have length := follows_length accepted
      rw [take_nil, length_nil] at length
      rw [← length] at shaped
      exact shape_alone shaped
    · cases found

theorem piecesWith_wellFormed (fuel : Nat) (text : GoString) :
    ∀ piece ∈ piecesWith fuel text, piece.WellFormed := by
  induction fuel generalizing text with
  | zero =>
    intro piece mem
    cases mem
  | succ fuel ih =>
    cases text with
    | nil =>
      intro piece mem
      cases mem
    | cons byte rest =>
      intro piece mem
      unfold piecesWith at mem
      cases found : front (byte :: rest) with
      | some bytes =>
        rw [found] at mem
        rcases mem_cons.mp mem with first | later
        · rw [first]
          exact (front_valid found).1
        · exact ih _ piece later
      | none =>
        rw [found] at mem
        rcases mem_cons.mp mem with first | later
        · rw [first]
          by_contra small
          rw [Piece.WellFormed, UInt8.not_le] at small
          rw [front_ascii small] at found
          cases found
        · exact ih _ piece later

theorem pieces_wellFormed : ∀ piece ∈ pieces text, piece.WellFormed :=
  piecesWith_wellFormed text.length text

theorem piecesWith_bytes (fuel : Nat) (text : GoString) (enough : text.length ≤ fuel) :
    (piecesWith fuel text).flatMap Piece.bytes = text := by
  induction fuel generalizing text with
  | zero =>
    rw [length_eq_zero_iff.mp (Nat.le_zero.mp enough)]
    rfl
  | succ fuel ih =>
    cases text with
    | nil => rfl
    | cons byte rest =>
      rw [length_cons] at enough
      rw [piecesWith]
      cases found : front (byte :: rest) with
      | none =>
        rw [flatMap_cons, ih rest (by omega)]
        rfl
      | some bytes =>
        obtain ⟨valid, whole⟩ := front_valid found
        obtain ⟨lead, tail, rfl⟩ := exists_cons_of_ne_nil valid.nonempty
        rw [flatMap_cons, length_cons, Nat.add_sub_cancel, ih _ (by rw [length_drop]; omega)]
        exact whole

theorem pieces_bytes : (pieces text).flatMap Piece.bytes = text :=
  piecesWith_bytes text.length text (Nat.le_refl _)

theorem repair_nonempty {text : GoString} (given : text ≠ []) : repair text ≠ [] := by
  cases text with
  | nil => exact absurd rfl given
  | cons byte rest =>
    have first : ∃ piece parts, pieces (byte :: rest) = piece :: parts := by
      rw [pieces, length_cons, piecesWith]
      split
      · exact ⟨_, _, rfl⟩
      · exact ⟨_, _, rfl⟩
    obtain ⟨piece, parts, parted⟩ := first
    have wellFormed := pieces_wellFormed (byte :: rest) piece (parted ▸ mem_cons_self)
    intro empty
    rw [repair, parted, flatMap_cons, append_eq_nil_iff] at empty
    cases piece with
    | rune bytes => exact wellFormed.nonempty empty.1
    | invalid byte => cases empty.1

end Utf8

end SparkRoute.Lib
