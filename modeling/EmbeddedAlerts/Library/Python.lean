import EmbeddedAlerts.Library.Text
import Mathlib.Data.List.DropRight
import Mathlib.Data.List.Sort
import Mathlib.Order.Lex
import Mathlib.Tactic

namespace EmbeddedAlerts
namespace Python

/-!
# Python text

A Python string is a list of code points, and a code point may be a surrogate.
UTF-8 text holds none, but an escape can write one, and then `str.encode`
raises.  Whether the string can be printed depends on how the interpreter has
opened its standard output: with strict errors, or, in the C, POSIX and C.UTF-8
locales, so that it writes a surrogate that stands for a byte as this byte.

Both standard streams are UTF-8 here.  On POSIX the standard input keeps its
carriage returns; a line ends at a line feed only.  The `unicode_escape` codec
works on bytes: a byte outside an escape stands for the code point of the same
number.
-/

structure CodePoint where
  value : Nat
  bounded : value < 0x110000
deriving DecidableEq

/-- Every character is a code point. -/
def ofChar (character : Char) : CodePoint where
  value := character.toNat
  bounded := by
    have valid := character.valid
    unfold UInt32.isValidChar Nat.isValidChar at valid
    change character.val.toNat < _
    omega

/-- A byte read as Latin-1. -/
def ofByte (byte : UInt8) : CodePoint where
  value := byte.toNat
  bounded := byte.toNat_lt.trans (by decide)

/-- `chr(value)`, which fails above the last code point. -/
def codePoint (value : Nat) : Option CodePoint :=
  if bounded : value < 0x110000 then some ⟨value, bounded⟩ else none

/-- The character of a code point that is no surrogate. -/
def CodePoint.char (point : CodePoint) : Option Char :=
  if valid : point.value.isValidChar then some (Char.ofNatAux point.value valid) else none

def ofChars (characters : List Char) : List CodePoint := characters.map ofChar

/-- The characters that `str.encode()` encodes.  It raises at a surrogate. -/
def chars : List CodePoint -> Option (List Char)
  | [] => some []
  | point :: rest => point.char.bind (fun character =>
      (chars rest).map (fun later => character :: later))

theorem ofChar_char (character : Char) : (ofChar character).char = some character := by
  have valid : character.toNat.isValidChar := character.valid
  change (if valid : character.toNat.isValidChar then
    some (Char.ofNatAux character.toNat valid) else none) = some character
  rw [dif_pos valid]
  exact congrArg some (Char.ext rfl)

theorem char_eq_some_iff {point : CodePoint} {character : Char} :
    point.char = some character ↔ point = ofChar character := by
  constructor
  · intro found
    unfold CodePoint.char at found
    by_cases valid : point.value.isValidChar
    · rw [dif_pos valid] at found
      cases found
      rfl
    · rw [dif_neg valid] at found
      cases found
  · intro same
    rw [same]
    exact ofChar_char character

theorem chars_eq_some_iff {points : List CodePoint} {characters : List Char} :
    chars points = some characters ↔ points = ofChars characters := by
  induction points generalizing characters with
  | nil =>
      cases characters with
      | nil => simp [chars, ofChars]
      | cons _ _ => simp [chars, ofChars]
  | cons point rest ih =>
      cases characters with
      | nil => simp [chars, ofChars, Option.bind_eq_some_iff]
      | cons character later =>
          simp only [chars, Option.bind_eq_some_iff, Option.map_eq_some_iff, ofChars,
            List.map_cons, List.cons.injEq, char_eq_some_iff]
          constructor
          · rintro ⟨first, pointed, others, encoded, rfl, rfl⟩
            exact ⟨pointed, ih.mp encoded⟩
          · rintro ⟨pointed, others⟩
            exact ⟨character, pointed, later, ih.mpr others, rfl, rfl⟩

/-- The code points that stand for no character. -/
def CodePoint.surrogate (point : CodePoint) : Prop :=
  0xd800 ≤ point.value ∧ point.value ≤ 0xdfff

theorem char_isSome_iff (point : CodePoint) :
    point.char.isSome = true ↔ Not point.surrogate := by
  have bounded := point.bounded
  unfold CodePoint.char CodePoint.surrogate
  by_cases valid : point.value.isValidChar
  · rw [dif_pos valid]
    unfold Nat.isValidChar at valid
    exact ⟨fun _ => by omega, fun _ => rfl⟩
  · rw [dif_neg valid]
    unfold Nat.isValidChar at valid
    refine ⟨fun none => (by cases none), fun regular => absurd ?_ valid⟩
    omega

theorem chars_isSome_iff (points : List CodePoint) :
    (chars points).isSome = true ↔ forall point, point ∈ points -> Not point.surrogate := by
  induction points with
  | nil => exact ⟨fun _ _ absent => absurd absent List.not_mem_nil, fun _ => rfl⟩
  | cons point rest ih =>
      rw [List.forall_mem_cons, ← char_isSome_iff, ← ih, chars]
      cases point.char with
      | none => simp
      | some character =>
          cases chars rest with
          | none => simp
          | some later => simp

theorem chars_ofChars (characters : List Char) : chars (ofChars characters) = some characters :=
  chars_eq_some_iff.mpr rfl

/-! ## Order -/

/-- Strings compare by their code points. -/
def strKey (text : List CodePoint) : List Nat := text.map CodePoint.value

def strLe (left right : List CodePoint) : Prop := strKey left ≤ strKey right

instance : DecidableRel strLe := fun left right =>
  inferInstanceAs (Decidable (strKey left ≤ strKey right))

theorem strKey_injective : Function.Injective strKey := by
  refine List.map_injective_iff.mpr ?_
  intro left right same
  cases left
  cases right
  cases same
  rfl

theorem strLe_refl (text : List CodePoint) : strLe text text := le_refl (strKey text)

theorem strLe_antisymm {left right : List CodePoint} (first : strLe left right)
    (second : strLe right left) : left = right :=
  strKey_injective (le_antisymm first second)

theorem ofChars_injective : Function.Injective ofChars := by
  intro left right same
  have encoded := chars_ofChars left
  rw [same, chars_ofChars] at encoded
  exact (Option.some.inj encoded).symm

/-- Tuples of a text and a string compare by the first and then by the second. -/
def tupleLe (left right : List Char × List CodePoint) : Prop :=
  strKey (ofChars left.1) < strKey (ofChars right.1) ∨ left.1 = right.1 ∧ strLe left.2 right.2

instance : DecidableRel tupleLe := fun left right =>
  inferInstanceAs (Decidable (strKey (ofChars left.1) < strKey (ofChars right.1) ∨
    left.1 = right.1 ∧ strLe left.2 right.2))

instance : Std.Total tupleLe where
  total left right := by
    rcases lt_trichotomy (strKey (ofChars left.1)) (strKey (ofChars right.1)) with
      less | same | more
    · exact Or.inl (Or.inl less)
    · have equal := ofChars_injective (strKey_injective same)
      rcases le_total (strKey left.2) (strKey right.2) with below | above
      · exact Or.inl (Or.inr ⟨equal, below⟩)
      · exact Or.inr (Or.inr ⟨equal.symm, above⟩)
    · exact Or.inr (Or.inl more)

instance : IsTrans (List Char × List CodePoint) tupleLe where
  trans first second third left right := by
    rcases left with less | ⟨same, below⟩
    · rcases right with more | ⟨equal, _⟩
      · exact Or.inl (less.trans more)
      · exact Or.inl (equal ▸ less)
    · rcases right with more | ⟨equal, above⟩
      · exact Or.inl (same ▸ more)
      · exact Or.inr ⟨same.trans equal, le_trans below above⟩

/-- `sorted` of a list of tuples. -/
def sorted (tuples : List (List Char × List CodePoint)) : List (List Char × List CodePoint) :=
  tuples.insertionSort tupleLe

theorem sorted_perm (tuples : List (List Char × List CodePoint)) :
    (sorted tuples).Perm tuples :=
  List.perm_insertionSort tupleLe tuples

theorem sorted_pairwise (tuples : List (List Char × List CodePoint)) :
    (sorted tuples).Pairwise tupleLe :=
  List.pairwise_insertionSort tupleLe tuples

/-! ## Streams -/

/-- `for line in stream`: every line with its newline. -/
def lines : List Char -> List (List Char)
  | [] => []
  | character :: rest =>
      if character = '\n' then ['\n'] :: lines rest
      else
        match lines rest with
        | [] => [[character]]
        | line :: more => (character :: line) :: more

/-- `str.isspace` for one character. -/
def isSpace (character : Char) : Bool :=
  let value := character.toNat
  (9 ≤ value && value ≤ 13) || (28 ≤ value && value ≤ 32) || value == 0x85 || value == 0xa0 ||
    value == 0x1680 || (0x2000 ≤ value && value ≤ 0x200a) || value == 0x2028 || value == 0x2029 ||
    value == 0x202f || value == 0x205f || value == 0x3000

def lstrip (line : List Char) : List Char := line.dropWhile isSpace

def strip (line : List Char) : List Char := (lstrip line).rdropWhile isSpace

/-- `line.rstrip("\n")`. -/
def rstripNewline (line : List Char) : List Char := line.rdropWhile (fun character =>
  character == '\n')

/-! ## Encoding -/

/-- The error handlers of the standard output. -/
inductive Errors where
  | strict
  | surrogateescape
deriving DecidableEq

/-- The bytes of one code point. -/
def CodePoint.encode (errors : Errors) (point : CodePoint) : Option (List UInt8) :=
  match point.char with
  | some character => some (String.utf8EncodeChar character)
  | none =>
      match errors with
      | .strict => none
      | .surrogateescape =>
          if 0xdc80 ≤ point.value ∧ point.value ≤ 0xdcff then
            some [UInt8.ofNat (point.value - 0xdc00)]
          else none

def encode (errors : Errors) : List CodePoint -> Option (List UInt8)
  | [] => some []
  | point :: rest => (point.encode errors).bind (fun bytes =>
      (encode errors rest).map (fun later => bytes ++ later))

/-- The surrogates that the handler writes. -/
def Escaped (errors : Errors) (point : CodePoint) : Prop :=
  errors = .surrogateescape ∧ 0xdc80 ≤ point.value ∧ point.value ≤ 0xdcff

theorem encode_ofChar (errors : Errors) (character : Char) :
    (ofChar character).encode errors = some (String.utf8EncodeChar character) := by
  unfold CodePoint.encode
  rw [ofChar_char]

theorem CodePoint.encode_isSome_iff (errors : Errors) (point : CodePoint) :
    (point.encode errors).isSome = true ↔ Not point.surrogate ∨ Escaped errors point := by
  rw [← char_isSome_iff]
  unfold CodePoint.encode
  cases point.char with
  | some character => simp
  | none =>
      cases errors with
      | strict => simp [Escaped]
      | surrogateescape =>
          simp only [Escaped, Option.isSome_none, Bool.false_eq_true, false_or, true_and]
          split
          · next inside => simp [inside]
          · next outside => simp [outside]

theorem encode_isSome_iff (errors : Errors) (points : List CodePoint) :
    (encode errors points).isSome = true ↔
      forall point, point ∈ points -> Not point.surrogate ∨ Escaped errors point := by
  induction points with
  | nil => exact ⟨fun _ _ absent => absurd absent List.not_mem_nil, fun _ => rfl⟩
  | cons point rest ih =>
      rw [List.forall_mem_cons, ← CodePoint.encode_isSome_iff, ← ih, encode]
      cases point.encode errors with
      | none => simp
      | some bytes =>
          cases encode errors rest with
          | none => simp
          | some later => simp

theorem encode_append (errors : Errors) (left right : List CodePoint) :
    encode errors (left ++ right) = (encode errors left).bind (fun first =>
      (encode errors right).map (fun later => first ++ later)) := by
  induction left with
  | nil => simp [encode]
  | cons point rest ih =>
      simp only [List.cons_append, encode, ih]
      cases point.encode errors with
      | none => rfl
      | some bytes =>
          cases encode errors rest with
          | none => rfl
          | some first =>
              cases encode errors right with
              | none => rfl
              | some later => simp

/-- Every handler encodes characters alike. -/
theorem encode_ofChars (errors : Errors) (characters : List Char) :
    encode errors (ofChars characters) = some (Text.utf8 characters) := by
  induction characters with
  | nil => rfl
  | cons character rest ih =>
      change ((ofChar character).encode errors).bind (fun bytes =>
        (encode errors (ofChars rest)).map (fun later => bytes ++ later)) = _
      rw [encode_ofChar, ih]
      rfl

theorem encode_of_chars {points : List CodePoint} {characters : List Char} (errors : Errors)
    (encoded : chars points = some characters) :
    encode errors points = some (Text.utf8 characters) := by
  rw [chars_eq_some_iff.mp encoded]
  exact encode_ofChars errors characters

/-- What one code point writes has an ASCII byte only if it is that
character. -/
theorem mem_encode_point_iff {errors : Errors} {point : CodePoint} {bytes : List UInt8}
    {character : Char} (low : character.toNat < 128)
    (encoded : point.encode errors = some bytes) :
    character ∈ Text.byteText bytes ↔ point = ofChar character := by
  unfold CodePoint.encode at encoded
  cases known : point.char with
  | some found =>
      rw [known, Option.some.injEq] at encoded
      have same : point = ofChar found := char_eq_some_iff.mp known
      subst encoded
      rw [same]
      by_cases high : 128 ≤ found.toNat
      · constructor
        · intro member
          rcases List.mem_map.mp member with ⟨byte, inside, rfl⟩
          have above := Text.high_of_mem_utf8EncodeChar high inside
          rw [Text.toNat_byteChar] at low
          omega
        · intro equal
          have chars := ofChar_char found
          rw [equal, ofChar_char, Option.some.injEq] at chars
          rw [chars] at low
          omega
      · rw [Text.utf8EncodeChar_of_ascii (Nat.lt_of_not_le high), List.mem_singleton]
        constructor
        · rintro rfl
          rfl
        · intro equal
          have chars := ofChar_char found
          rw [equal, ofChar_char, Option.some.injEq] at chars
          exact chars
  | none =>
      rw [known] at encoded
      have other : point ≠ ofChar character := by
        rintro rfl
        rw [ofChar_char] at known
        cases known
      cases errors with
      | strict => cases encoded
      | surrogateescape =>
          simp only at encoded
          split at encoded
          · next inside =>
              cases encoded
              refine ⟨fun member => ?_, fun equal => absurd equal other⟩
              have same := List.mem_singleton.mp member
              rw [same, Text.toNat_byteChar, UInt8.toNat_ofNat'] at low
              omega
          · cases encoded

theorem mem_encode_iff {errors : Errors} {points : List CodePoint} {bytes : List UInt8}
    {character : Char} (low : character.toNat < 128)
    (encoded : encode errors points = some bytes) :
    character ∈ Text.byteText bytes ↔ ofChar character ∈ points := by
  induction points generalizing bytes with
  | nil =>
      cases encoded
      simp [Text.byteText]
  | cons point rest ih =>
      rcases Option.bind_eq_some_iff.mp encoded with ⟨first, one, encoded⟩
      rcases Option.map_eq_some_iff.mp encoded with ⟨later, others, rfl⟩
      rw [Text.byteText_append, List.mem_append, mem_encode_point_iff low one, ih others,
        List.mem_cons]
      exact or_congr eq_comm Iff.rfl

/-- The encoded bytes as characters. -/
def encodedText (errors : Errors) (points : List CodePoint) : Option (List Char) :=
  (encode errors points).map Text.byteText

theorem encodedText_append (errors : Errors) (left right : List CodePoint) :
    encodedText errors (left ++ right) = (encodedText errors left).bind (fun first =>
      (encodedText errors right).map (fun later => first ++ later)) := by
  unfold encodedText
  rw [encode_append]
  cases encode errors left with
  | none => rfl
  | some first =>
      cases encode errors right with
      | none => rfl
      | some later => exact congrArg some (Text.byteText_append first later)

theorem mem_encodedText_iff {errors : Errors} {points : List CodePoint} {text : List Char}
    {character : Char} (low : character.toNat < 128)
    (encoded : encodedText errors points = some text) :
    character ∈ text ↔ ofChar character ∈ points := by
  rcases Option.map_eq_some_iff.mp encoded with ⟨bytes, written, rfl⟩
  exact mem_encode_iff low written

theorem encodedText_ofChars {characters : List Char} (errors : Errors)
    (ascii : Text.highCharacters characters = 0) :
    encodedText errors (ofChars characters) = some characters := by
  rw [encodedText, encode_ofChars, Option.map_some, Text.byteText_utf8_of_ascii ascii]

theorem encodedText_cons (errors : Errors) (point : CodePoint) (rest : List CodePoint) :
    encodedText errors (point :: rest) = (encodedText errors [point]).bind (fun first =>
      (encodedText errors rest).map (fun later => first ++ later)) :=
  encodedText_append errors [point] rest

/-! ## Printing -/

/-- `print` of one string after the other: the bytes that are written, and
whether all the strings could be encoded. -/
def printAll : List (Option (List UInt8)) -> List UInt8 × Bool
  | [] => ([], true)
  | none :: _ => ([], false)
  | some line :: rest => (line ++ 10 :: (printAll rest).1, (printAll rest).2)

/-- What is written ends before the first string that cannot be encoded. -/
theorem printAll_takeWhile {α : Type} {line : α -> Option (List UInt8)} {known : α -> Bool}
    {items : List α} (same : forall item, item ∈ items -> known item = (line item).isSome) :
    (printAll (items.map line)).1 = (printAll ((items.takeWhile known).map line)).1 := by
  induction items with
  | nil => rfl
  | cons item rest ih =>
      have later := ih (fun other inRest => same other (List.mem_cons_of_mem _ inRest))
      rw [List.map_cons, List.takeWhile_cons, same item List.mem_cons_self]
      cases found : line item with
      | none => rfl
      | some text =>
          rw [Option.isSome_some, if_pos rfl, List.map_cons, found, printAll, printAll, later]

theorem printAll_none {printed : List (Option (List UInt8))} (raised : none ∈ printed) :
    (printAll printed).2 = false := by
  induction printed with
  | nil => cases raised
  | cons line rest ih =>
      cases line with
      | none => rfl
      | some text =>
          rcases List.mem_cons.mp raised with impossible | later
          · cases impossible
          · exact ih later

/-! ## The `unicode_escape` codec -/

def hexDigit (byte : UInt8) : Option Nat :=
  let value := byte.toNat
  if 48 ≤ value ∧ value ≤ 57 then some (value - 48)
  else if 97 ≤ value ∧ value ≤ 102 then some (value - 87)
  else if 65 ≤ value ∧ value ≤ 70 then some (value - 55)
  else none

def octalDigit (byte : UInt8) : Option Nat :=
  let value := byte.toNat
  if 48 ≤ value ∧ value ≤ 55 then some (value - 48) else none

/-- Where the decoder stands. -/
inductive Escape where
  | outside
  | begun
  | octal (left value : Nat)
  | hex (left value : Nat)
  | named
  | name (read : List UInt8)

/-- A byte outside an escape. -/
def plainByte (byte : UInt8) : Escape × List CodePoint :=
  if byte = 0x5c then (.begun, []) else (.outside, [ofByte byte])

/-- The escapes of one letter: what they write. -/
def simpleEscape (byte : UInt8) : Option (List CodePoint) :=
  match Char.ofNat byte.toNat with
  | '\n' => some []
  | '\\' => some [ofByte 0x5c]
  | '\'' => some [ofByte 0x27]
  | '"' => some [ofByte 0x22]
  | 'a' => some [ofByte 7]
  | 'b' => some [ofByte 8]
  | 't' => some [ofByte 9]
  | 'n' => some [ofByte 10]
  | 'v' => some [ofByte 11]
  | 'f' => some [ofByte 12]
  | 'r' => some [ofByte 13]
  | _ => none

/-- The byte after a backslash.  An unknown escape stays as it is. -/
def beginEscape (byte : UInt8) : Escape × List CodePoint :=
  match simpleEscape byte, octalDigit byte, Char.ofNat byte.toNat with
  | some written, _, _ => (.outside, written)
  | none, some digit, _ => (.octal 2 digit, [])
  | none, none, 'x' => (.hex 2 0, [])
  | none, none, 'u' => (.hex 4 0, [])
  | none, none, 'U' => (.hex 8 0, [])
  | none, none, 'N' => (.named, [])
  | none, none, _ => (.outside, [ofByte 0x5c, ofByte byte])

/-- One byte.  `names` is the table of character names that the interpreter
carries; a malformed escape and an unknown name raise. -/
def escapeStep (names : List UInt8 -> Option CodePoint) (byte : UInt8) :
    Escape -> Option (Escape × List CodePoint)
  | .outside => some (plainByte byte)
  | .begun => some (beginEscape byte)
  | .octal left value =>
      match octalDigit byte with
      | some digit =>
          if left ≤ 1 then (codePoint (value * 8 + digit)).map (fun point => (.outside, [point]))
          else some (.octal (left - 1) (value * 8 + digit), [])
      | none => (codePoint value).map (fun point =>
          ((plainByte byte).1, point :: (plainByte byte).2))
  | .hex left value =>
      (hexDigit byte).bind (fun digit =>
        if left ≤ 1 then (codePoint (value * 16 + digit)).map (fun point => (.outside, [point]))
        else some (.hex (left - 1) (value * 16 + digit), []))
  | .named => if byte = 0x7b then some (.name [], []) else none
  | .name read =>
      if byte = 0x7d then
        if read.isEmpty then none else (names read).map (fun point => (.outside, [point]))
      else some (.name (read ++ [byte]), [])

/-- The decoder from a given place in an escape. -/
def decodeFrom (names : List UInt8 -> Option CodePoint) :
    Escape -> List UInt8 -> Option (List CodePoint)
  | .outside, [] => some []
  | .octal _ value, [] => (codePoint value).map (fun point => [point])
  | _, [] => none
  | place, byte :: rest => (escapeStep names byte place).bind (fun taken =>
      (decodeFrom names taken.1 rest).map (fun later => taken.2 ++ later))

theorem decodeFrom_cons (names : List UInt8 -> Option CodePoint) (place : Escape) (byte : UInt8)
    (rest : List UInt8) : decodeFrom names place (byte :: rest) =
      (escapeStep names byte place).bind (fun taken =>
        (decodeFrom names taken.1 rest).map (fun later => taken.2 ++ later)) := by
  cases place <;> rfl

/-- `bytes.decode("unicode_escape")`. -/
def unicodeEscape (names : List UInt8 -> Option CodePoint) (bytes : List UInt8) :
    Option (List CodePoint) :=
  decodeFrom names .outside bytes

/-! ## What the codec writes -/

/-- How many code points are in Latin-1 and not ASCII. -/
def latinPoints (points : List CodePoint) : Nat :=
  points.countP (fun point => decide (128 ≤ point.value ∧ point.value < 256))

/-- How many code points are not null. -/
def solidPoints (points : List CodePoint) : Nat :=
  points.countP (fun point => decide (point.value ≠ 0))

def solidBytes (bytes : List UInt8) : Nat := bytes.countP (fun byte => decide (byte.toNat ≠ 0))

/-- The bytes that are not ASCII and wait in the name of an escape. -/
def Escape.pending : Escape -> Nat
  | .name read => Text.highBytes read
  | _ => 0

/-- An escape that has begun may write one code point for its backslash. -/
def Escape.credit : Escape -> Nat
  | .outside => 0
  | _ => 1

/-- Character names are ASCII. -/
def AsciiNames (names : List UInt8 -> Option CodePoint) : Prop :=
  forall name point, names name = some point -> Text.highBytes name = 0

/-- A byte outside an escape or right behind the backslash, for all bytes at
once. -/
theorem single_bytes_tested : (List.range 256).all (fun value =>
    let byte := UInt8.ofNat value
    let plain := plainByte byte
    let begun := beginEscape byte
    decide (Text.highBytes [byte] ≤ plain.1.pending + latinPoints plain.2) &&
    decide (Text.highBytes [byte] ≤ begun.1.pending + latinPoints begun.2) &&
    decide (solidPoints plain.2 + plain.1.credit ≤ solidBytes [byte]) &&
    decide (solidPoints begun.2 + begun.1.credit ≤ 1 + solidBytes [byte]) &&
    (decide (Text.highBytes [byte] = 0) || (octalDigit byte).isNone && (hexDigit byte).isNone)) =
      true := by
  decide +kernel

structure SingleByte (byte : UInt8) : Prop where
  plainHigh : Text.highBytes [byte] ≤ (plainByte byte).1.pending + latinPoints (plainByte byte).2
  begunHigh : Text.highBytes [byte] ≤ (beginEscape byte).1.pending + latinPoints (beginEscape byte).2
  plainSolid : solidPoints (plainByte byte).2 + (plainByte byte).1.credit ≤ solidBytes [byte]
  begunSolid : solidPoints (beginEscape byte).2 + (beginEscape byte).1.credit ≤
    1 + solidBytes [byte]
  octalLow : forall digit, octalDigit byte = some digit -> Text.highBytes [byte] = 0
  hexLow : forall digit, hexDigit byte = some digit -> Text.highBytes [byte] = 0

theorem singleByte (byte : UInt8) : SingleByte byte := by
  have tested := List.all_eq_true.mp single_bytes_tested byte.toNat
    (List.mem_range.mpr byte.toNat_lt)
  simp only [UInt8.ofNat_toNat, Bool.and_eq_true, Bool.or_eq_true, decide_eq_true_eq,
    Option.isNone_iff_eq_none] at tested
  rcases tested with ⟨⟨⟨⟨plainHigh, begunHigh⟩, plainSolid⟩, begunSolid⟩, digits⟩
  refine ⟨plainHigh, begunHigh, plainSolid, begunSolid, ?_, ?_⟩
  · intro digit found
    rcases digits with low | ⟨none, _⟩
    · exact low
    · rw [found] at none
      cases none
  · intro digit found
    rcases digits with low | ⟨_, none⟩
    · exact low
    · rw [found] at none
      cases none

theorem latinPoints_append (left right : List CodePoint) :
    latinPoints (left ++ right) = latinPoints left + latinPoints right :=
  List.countP_append

theorem latinPoints_ofChars_le (text : List Char) :
    latinPoints (ofChars text) ≤ Text.highCharacters text := by
  rw [latinPoints, ofChars, List.countP_map]
  refine List.countP_mono_left (fun character _ latin => ?_)
  exact decide_eq_true (of_decide_eq_true latin).1

theorem solidPoints_append (left right : List CodePoint) :
    solidPoints (left ++ right) = solidPoints left + solidPoints right :=
  List.countP_append

theorem solidBytes_append (left right : List UInt8) :
    solidBytes (left ++ right) = solidBytes left + solidBytes right :=
  List.countP_append

theorem solidPoints_singleton_le (point : CodePoint) : solidPoints [point] ≤ 1 :=
  List.countP_le_length

section

variable {names : List UInt8 -> Option CodePoint} {byte : UInt8} {place : Escape}
  {next : Escape × List CodePoint}

/-- No byte outside ASCII is lost, apart from the name that is being read. -/
theorem escapeStep_high (ascii : AsciiNames names)
    (taken : escapeStep names byte place = some next) :
    place.pending + Text.highBytes [byte] ≤ next.1.pending + latinPoints next.2 := by
  have single := singleByte byte
  cases place with
  | outside =>
      cases taken
      exact (Nat.zero_add _).symm ▸ single.plainHigh
  | begun =>
      cases taken
      exact (Nat.zero_add _).symm ▸ single.begunHigh
  | octal left value =>
      cases digit : octalDigit byte with
      | some read =>
          change 0 + Text.highBytes [byte] ≤ _
          rw [single.octalLow read digit]
          exact Nat.zero_le _
      | none =>
          simp only [escapeStep, digit] at taken
          rcases Option.map_eq_some_iff.mp taken with ⟨point, _, rfl⟩
          change 0 + Text.highBytes [byte] ≤
            (plainByte byte).1.pending + latinPoints ([point] ++ (plainByte byte).2)
          rw [latinPoints_append]
          have plain := single.plainHigh
          omega
  | hex left value =>
      rcases Option.bind_eq_some_iff.mp taken with ⟨digit, read, _⟩
      change 0 + Text.highBytes [byte] ≤ _
      rw [single.hexLow digit read]
      exact Nat.zero_le _
  | named =>
      simp only [escapeStep] at taken
      split at taken
      · next opening =>
          rw [opening]
          exact Nat.zero_le _
      · cases taken
  | name read =>
      simp only [escapeStep] at taken
      split at taken
      · next closing =>
          split at taken
          · cases taken
          · rcases Option.map_eq_some_iff.mp taken with ⟨point, found, rfl⟩
            change Text.highBytes read + _ ≤ _
            rw [ascii read point found, closing]
            exact Nat.zero_le _
      · cases taken
        change Text.highBytes read + _ ≤ Text.highBytes (read ++ [byte]) + _
        rw [Text.highBytes_append]
        exact Nat.le_add_right _ _

/-- Every code point but a null one is paid for by a byte. -/
theorem escapeStep_solid (taken : escapeStep names byte place = some next) :
    solidPoints next.2 + next.1.credit ≤ place.credit + solidBytes [byte] := by
  have single := singleByte byte
  -- The escapes that end here write one code point.
  have written : forall {value : Nat}, (codePoint value).map (fun point =>
      (Escape.outside, [point])) = some next -> solidPoints next.2 + next.1.credit ≤ 1 := by
    intro value found
    rcases Option.map_eq_some_iff.mp found with ⟨point, _, rfl⟩
    exact solidPoints_singleton_le point
  cases place with
  | outside =>
      cases taken
      exact (Nat.zero_add _).symm ▸ single.plainSolid
  | begun =>
      cases taken
      exact single.begunSolid
  | octal left value =>
      cases digit : octalDigit byte with
      | some read =>
          simp only [escapeStep, digit] at taken
          split at taken
          · exact (written taken).trans (Nat.le_add_right _ _)
          · cases taken
            exact Nat.le_add_right _ _
      | none =>
          simp only [escapeStep, digit] at taken
          rcases Option.map_eq_some_iff.mp taken with ⟨point, _, rfl⟩
          change solidPoints ([point] ++ (plainByte byte).2) + (plainByte byte).1.credit ≤ 1 + _
          rw [solidPoints_append]
          have plain := single.plainSolid
          have one := solidPoints_singleton_le point
          omega
  | hex left value =>
      rcases Option.bind_eq_some_iff.mp taken with ⟨digit, _, done⟩
      split at done
      · exact (written done).trans (Nat.le_add_right _ _)
      · cases done
        exact Nat.le_add_right _ _
  | named =>
      simp only [escapeStep] at taken
      split at taken
      · cases taken
        exact Nat.le_add_right _ _
      · cases taken
  | name read =>
      simp only [escapeStep] at taken
      split at taken
      · split at taken
        · cases taken
        · rcases Option.map_eq_some_iff.mp taken with ⟨point, _, rfl⟩
          exact (solidPoints_singleton_le point).trans (Nat.le_add_right _ _)
      · cases taken
        exact Nat.le_add_right _ _

theorem decodeFrom_counts (ascii : AsciiNames names) {bytes : List UInt8}
    {points : List CodePoint} (decoded : decodeFrom names place bytes = some points) :
    place.pending + Text.highBytes bytes ≤ latinPoints points ∧
      solidPoints points ≤ place.credit + solidBytes bytes := by
  induction bytes generalizing place points with
  | nil =>
      cases place with
      | outside =>
          cases decoded
          exact ⟨Nat.le_refl _, Nat.le_refl _⟩
      | octal left value =>
          rcases Option.map_eq_some_iff.mp decoded with ⟨point, _, rfl⟩
          exact ⟨Nat.zero_le _, solidPoints_singleton_le point⟩
      | begun => cases decoded
      | hex left value => cases decoded
      | named => cases decoded
      | name read => cases decoded
  | cons byte tail ih =>
      rw [decodeFrom_cons] at decoded
      rcases Option.bind_eq_some_iff.mp decoded with ⟨taken, stepped, decoded⟩
      rcases Option.map_eq_some_iff.mp decoded with ⟨later, rest, rfl⟩
      have high := escapeStep_high ascii stepped
      have solid := escapeStep_solid stepped
      rcases ih rest with ⟨laterHigh, laterSolid⟩
      have bytesHigh : Text.highBytes (byte :: tail) =
          Text.highBytes [byte] + Text.highBytes tail := Text.highBytes_append [byte] tail
      have bytesSolid : solidBytes (byte :: tail) = solidBytes [byte] + solidBytes tail :=
        solidBytes_append [byte] tail
      rw [latinPoints_append, solidPoints_append, bytesHigh, bytesSolid]
      constructor
      · omega
      · omega

/-! ## What an encoding writes -/

end

end Python
end EmbeddedAlerts
