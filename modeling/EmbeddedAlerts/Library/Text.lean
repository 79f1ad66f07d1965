import Mathlib.Tactic
import Mathlib.Data.List.DropRight

namespace EmbeddedAlerts
namespace Text

/-!
# Unicode text, its byte length and separated fields

Rust strings are Unicode texts measured in UTF-8 bytes.  This module fixes the
character classes of the Rust standard library (`char::is_whitespace`,
`char::is_control`), trimming by them, and the two facts that the development
uses about lengths and separators: ASCII text has one byte per character, and
joining fields by a character that none of them contains can be undone.
-/

/-- The Unicode `White_Space` property, as `char::is_whitespace` tests it. -/
def isWhitespace (character : Char) : Bool :=
  let code := character.toNat
  decide (9 ≤ code ∧ code ≤ 13) || code == 32 || code == 0x85 || code == 0xA0 ||
    code == 0x1680 || decide (0x2000 ≤ code ∧ code ≤ 0x200A) || code == 0x2028 ||
    code == 0x2029 || code == 0x202F || code == 0x205F || code == 0x3000

/-- The general category `Cc`, as `char::is_control` tests it. -/
def isControl (character : Char) : Bool :=
  let code := character.toNat
  decide (code < 32) || decide (127 ≤ code ∧ code ≤ 159)

/-- `str::trim`: drop whitespace at both ends. -/
def trim (text : String) : String :=
  String.ofList ((text.toList.dropWhile isWhitespace).reverse.dropWhile isWhitespace).reverse

/-! ## Stripping both ends -/

/-- Drop the elements that pass the test at both ends of a list. -/
def stripped {α : Type} (test : α -> Bool) (items : List α) : List α :=
  (items.dropWhile test).rdropWhile test

section Stripping

variable {α : Type} {test : α -> Bool}

theorem stripped_sublist (items : List α) : (stripped test items).Sublist items :=
  (List.rdropWhile_prefix test _).sublist.trans (List.dropWhile_suffix test).sublist

/-- A nonempty result begins where the leading elements were dropped. -/
theorem head_stripped {items : List α} {first : α}
    (begins : (stripped test items).head? = some first) : test first = false := by
  rcases List.rdropWhile_prefix test (items.dropWhile test) with ⟨dropped, joined⟩
  have kept : (items.dropWhile test).head? = some first := by
    rw [← joined, List.head?_append]
    change ((stripped test items).head?.or _) = some first
    rw [begins, Option.some_or]
  have outside := List.head?_dropWhile_not test items
  rw [kept] at outside
  exact outside

theorem last_stripped {items : List α} {last : α}
    (ends : (stripped test items).getLast? = some last) : test last = false := by
  have nonempty : stripped test items ≠ [] := by
    intro empty
    rw [empty] at ends
    cases ends
  have found := List.getLast?_eq_some_getLast nonempty
  rw [ends, Option.some.injEq] at found
  have outside := List.rdropWhile_last_not test (items.dropWhile test) nonempty
  rw [found]
  exact Bool.eq_false_iff.mpr outside

/-- Nothing is dropped from a list whose ends fail the test. -/
theorem stripped_eq_self {items : List α}
    (begins : forall first, items.head? = some first -> test first = false)
    (ends : forall last, items.getLast? = some last -> test last = false) :
    stripped test items = items := by
  have front : items.dropWhile test = items := by
    cases items with
    | nil => rfl
    | cons head tail =>
        rw [List.dropWhile_cons_of_neg]
        rw [begins head rfl]
        exact Bool.false_ne_true
  rw [stripped, front]
  apply List.rdropWhile_eq_self_iff.mpr
  intro nonempty
  rw [ends _ (List.getLast?_eq_some_getLast nonempty)]
  exact Bool.false_ne_true

theorem stripped_stripped (items : List α) :
    stripped test (stripped test items) = stripped test items :=
  stripped_eq_self (fun _ => head_stripped) (fun _ => last_stripped)

end Stripping

theorem trim_toList (text : String) : (trim text).toList = stripped isWhitespace text.toList :=
  String.toList_ofList

theorem trim_of_solid {text : String}
    (solid : forall character, character ∈ text.toList -> isWhitespace character = false) :
    trim text = text := by
  apply String.toList_inj.mp
  rw [trim_toList]
  apply stripped_eq_self
  · intro first begins
    exact solid first (List.mem_of_head? begins)
  · intro last ends
    exact solid last (List.mem_of_getLast? ends)

theorem trim_trim (text : String) : trim (trim text) = trim text := by
  apply String.toList_inj.mp
  rw [trim_toList (trim text), trim_toList text, stripped_stripped]

theorem mem_of_mem_trim {text : String} {character : Char}
    (member : character ∈ (trim text).toList) : character ∈ text.toList := by
  rw [trim_toList] at member
  exact (stripped_sublist text.toList).mem member

/-- `str::len`, which counts UTF-8 bytes. -/
abbrev byteLength (text : String) : Nat := text.utf8ByteSize

/-- The UTF-8 bytes themselves. -/
def asBytes (text : String) : List UInt8 := text.toByteArray.data.toList

theorem asBytes_injective : Function.Injective asBytes := by
  intro left right same
  apply String.toByteArray_inj.mp
  apply ByteArray.ext
  exact Array.toList_inj.mp same

/-- The text that a sequence of bytes encodes, if they are valid UTF-8. -/
def ofBytes (bytes : List UInt8) : Option String := String.fromUTF8? ⟨bytes.toArray⟩

theorem ofBytes_eq_some_iff (bytes : List UInt8) (text : String) :
    ofBytes bytes = some text ↔ bytes = asBytes text := by
  unfold ofBytes String.fromUTF8?
  constructor
  · intro decoded
    split at decoded
    · cases decoded
      rfl
    · cases decoded
  · rintro rfl
    have same : (⟨(asBytes text).toArray⟩ : ByteArray) = text.toByteArray := by
      rw [asBytes, Array.toArray_toList]
    rw [dif_pos (same ▸ text.isValidUTF8), Option.some.injEq]
    apply String.toByteArray_inj.mp
    exact same

theorem byteLength_ofList (characters : List Char) :
    byteLength (String.ofList characters) = (characters.map Char.utf8Size).sum := by
  induction characters with
  | nil => rfl
  | cons head tail ih =>
      have split : String.ofList (head :: tail) = String.ofList [head] ++ String.ofList tail := by
        rw [← String.ofList_append]
        rfl
      rw [byteLength, split, String.utf8ByteSize_append, List.map_cons, List.sum_cons]
      have single : (String.ofList [head]).utf8ByteSize = head.utf8Size := by simp
      rw [single, ← ih]

theorem byteLength_eq_sum (text : String) :
    byteLength text = (text.toList.map Char.utf8Size).sum := by
  rw [← byteLength_ofList, String.ofList_toList]

theorem byteLength_trim_le (text : String) : byteLength (trim text) ≤ byteLength text := by
  rw [byteLength_eq_sum, byteLength_eq_sum, trim_toList]
  exact ((stripped_sublist text.toList).map Char.utf8Size).sum_le_sum (fun _ _ => Nat.zero_le _)

/-- No character takes less than one byte. -/
theorem length_le_byteLength (text : String) : text.length ≤ byteLength text := by
  rw [byteLength_eq_sum, ← String.length_toList]
  have least := List.length_le_sum_of_one_le (text.toList.map Char.utf8Size)
    (by
      intro size listed
      rcases List.mem_map.mp listed with ⟨character, _, rfl⟩
      exact Char.utf8Size_pos character)
  rwa [List.length_map] at least

/-- A text that goes on behind its beginning is longer than it. -/
theorem byteLength_lt_iff {front text : String} {rest : List Char}
    (split : text.toList = front.toList ++ rest) :
    byteLength front < byteLength text ↔ rest ≠ [] := by
  rw [byteLength_eq_sum, byteLength_eq_sum, split, List.map_append, List.sum_append]
  cases rest with
  | nil => simp
  | cons first later =>
      have positive := Char.utf8Size_pos first
      rw [List.map_cons, List.sum_cons]
      exact iff_of_true (by omega) (List.cons_ne_nil first later)

theorem utf8Size_of_ascii {character : Char} (ascii : character.toNat < 128) :
    character.utf8Size = 1 := by
  unfold Char.utf8Size
  have small : character.val ≤ 0x7f := by
    change character.val.toNat < 128 at ascii
    rw [UInt32.le_iff_toNat_le]
    simpa using Nat.le_of_lt_succ ascii
  simp [small]

/-- A text whose characters are all below 128 has one byte per character. -/
theorem byteLength_of_ascii {text : String}
    (ascii : forall character, character ∈ text.toList -> character.toNat < 128) :
    byteLength text = text.length := by
  rw [byteLength_eq_sum, ← String.length_toList]
  generalize text.toList = characters at ascii
  induction characters with
  | nil => rfl
  | cons head tail ih =>
      rw [List.map_cons, List.sum_cons, List.length_cons,
        utf8Size_of_ascii (ascii head List.mem_cons_self),
        ih (fun other later => ascii other (List.mem_cons_of_mem _ later))]
      omega

theorem asBytes_eq_flatMap (text : String) :
    asBytes text = text.toList.flatMap String.utf8EncodeChar := by
  have rebuilt : text = String.ofList text.toList := String.ofList_toList.symm
  rw [asBytes]
  conv_lhs => rw [rebuilt]
  rw [String.toByteArray_ofList, List.utf8Encode, List.toList_data_toByteArray]

/-- The UTF-8 bytes of a list of characters. -/
def utf8 (characters : List Char) : List UInt8 := characters.flatMap String.utf8EncodeChar

theorem utf8_injective : Function.Injective utf8 := by
  have encoded : forall characters, utf8 characters = asBytes (String.ofList characters) := by
    intro characters
    rw [asBytes_eq_flatMap, String.toList_ofList]
    rfl
  intro left right same
  rw [encoded, encoded] at same
  exact String.ofList_injective (asBytes_injective same)

/-- How many bytes are not ASCII. -/
def highBytes (bytes : List UInt8) : Nat := bytes.countP (fun byte => decide (128 ≤ byte.toNat))

/-- How many characters are not ASCII. -/
def highCharacters (characters : List Char) : Nat :=
  characters.countP (fun character => decide (128 ≤ character.toNat))

theorem highBytes_append (left right : List UInt8) :
    highBytes (left ++ right) = highBytes left + highBytes right :=
  List.countP_append

theorem highBytes_cons {value : Nat} (high : 128 ≤ value % 256) (rest : List UInt8) :
    highBytes (UInt8.ofNat value :: rest) = highBytes rest + 1 := by
  refine List.countP_cons_of_pos ?_
  rw [decide_eq_true_eq, UInt8.toNat_ofNat']
  exact high

/-- A character that is not ASCII has at least two bytes, none of them ASCII. -/
theorem two_le_highBytes {character : Char} (high : 128 ≤ character.toNat) :
    2 ≤ highBytes (String.utf8EncodeChar character) := by
  change 128 ≤ character.val.toNat at high
  simp only [String.utf8EncodeChar]
  rw [if_neg (by omega)]
  split
  · rw [highBytes_cons (by omega), highBytes_cons (by omega)]
    omega
  · split
    · rw [highBytes_cons (by omega), highBytes_cons (by omega)]
      omega
    · rw [highBytes_cons (by omega), highBytes_cons (by omega)]
      omega

theorem highBytes_utf8 (characters : List Char) :
    2 * highCharacters characters ≤ highBytes (utf8 characters) := by
  induction characters with
  | nil => exact Nat.le_refl _
  | cons character rest ih =>
      have split : highBytes (utf8 (character :: rest)) =
          highBytes (String.utf8EncodeChar character) + highBytes (utf8 rest) :=
        highBytes_append _ _
      unfold highCharacters at ih ⊢
      rw [split, List.countP_cons]
      by_cases high : 128 ≤ character.toNat
      · have bytes := two_le_highBytes high
        rw [if_pos (decide_eq_true high)]
        omega
      · rw [if_neg (by simpa using high)]
        omega

/-- ASCII text has one byte for each character. -/
theorem utf8_of_ascii {characters : List Char} (ascii : highCharacters characters = 0) :
    utf8 characters = characters.map (fun character => UInt8.ofNat character.toNat) := by
  induction characters with
  | nil => rfl
  | cons character rest ih =>
      unfold highCharacters at ih ascii
      have low : Not (128 ≤ character.toNat) := by
        intro high
        rw [List.countP_cons, if_pos (decide_eq_true high)] at ascii
        cases ascii
      rw [List.countP_cons, if_neg (by simpa using low)] at ascii
      have small : character.val.toNat ≤ 0x7f := by
        change Not (128 ≤ character.val.toNat) at low
        omega
      have one : String.utf8EncodeChar character = [UInt8.ofNat character.toNat] := by
        simp only [String.utf8EncodeChar]
        rw [if_pos small]
        rfl
      rw [utf8, List.flatMap_cons, one, List.map_cons, List.singleton_append]
      exact congrArg _ (ih ascii)

theorem utf8_append (left right : List Char) : utf8 (left ++ right) = utf8 left ++ utf8 right :=
  List.flatMap_append

/-! ## Bytes as characters -/

/-- A program that looks at bytes only sees each of them as a character. -/
def byteChar (byte : UInt8) : Char :=
  Char.ofNatAux byte.toNat (Or.inl (byte.toNat_lt.trans (by decide)))

def byteText (bytes : List UInt8) : List Char := bytes.map byteChar

/-- The bytes behind such characters. -/
def textBytes (text : List Char) : List UInt8 := text.map (fun character =>
  UInt8.ofNat character.toNat)

theorem toNat_byteChar (byte : UInt8) : (byteChar byte).toNat = byte.toNat := rfl

theorem textBytes_byteText (bytes : List UInt8) : textBytes (byteText bytes) = bytes := by
  rw [textBytes, byteText, List.map_map]
  refine (List.map_congr_left ?_).trans (List.map_id bytes)
  intro byte _
  rw [Function.comp_apply, toNat_byteChar]
  exact UInt8.ofNat_toNat

theorem byteText_append (left right : List UInt8) :
    byteText (left ++ right) = byteText left ++ byteText right :=
  List.map_append

theorem byteText_utf8_of_ascii {characters : List Char} (ascii : highCharacters characters = 0) :
    byteText (utf8 characters) = characters := by
  rw [utf8_of_ascii ascii, byteText, List.map_map]
  refine (List.map_congr_left ?_).trans (List.map_id characters)
  intro character member
  have low : character.toNat < 128 := by
    by_contra high
    exact List.countP_eq_zero.mp ascii character member (decide_eq_true (Nat.le_of_not_lt high))
  apply Char.toNat_inj.mp
  rw [Function.comp_apply, toNat_byteChar, UInt8.toNat_ofNat']
  exact Nat.mod_eq_of_lt (by omega)

/-- A character that is not ASCII has no ASCII byte. -/
theorem high_of_mem_utf8EncodeChar {character : Char} (high : 128 ≤ character.toNat)
    {byte : UInt8} (member : byte ∈ String.utf8EncodeChar character) : 128 ≤ byte.toNat := by
  change 128 ≤ character.val.toNat at high
  simp only [String.utf8EncodeChar] at member
  rw [if_neg (by omega)] at member
  have each : forall value : Nat, 128 ≤ value % 256 -> 128 ≤ (UInt8.ofNat value).toNat := by
    intro value above
    rw [UInt8.toNat_ofNat']
    exact above
  split at member
  · simp only [List.mem_cons, List.not_mem_nil, or_false] at member
    rcases member with rfl | rfl
    · exact each _ (by omega)
    · exact each _ (by omega)
  · split at member
    · simp only [List.mem_cons, List.not_mem_nil, or_false] at member
      rcases member with rfl | rfl | rfl
      · exact each _ (by omega)
      · exact each _ (by omega)
      · exact each _ (by omega)
    · simp only [List.mem_cons, List.not_mem_nil, or_false] at member
      rcases member with rfl | rfl | rfl | rfl
      · exact each _ (by omega)
      · exact each _ (by omega)
      · exact each _ (by omega)
      · exact each _ (by omega)

theorem utf8EncodeChar_of_ascii {character : Char} (low : character.toNat < 128) :
    byteText (String.utf8EncodeChar character) = [character] := by
  have one := byteText_utf8_of_ascii (show highCharacters [character] = 0 by
    rw [highCharacters, List.countP_singleton, if_neg (by simpa using low)])
  rwa [utf8, List.flatMap_singleton] at one

theorem asBytes_of_ascii {text : String}
    (ascii : forall character, character ∈ text.toList -> character.toNat < 128) :
    asBytes text = text.toList.map (fun character => character.val.toUInt8) := by
  rw [asBytes_eq_flatMap]
  generalize text.toList = characters at ascii
  induction characters with
  | nil => rfl
  | cons head tail ih =>
      rw [List.flatMap_cons, List.map_cons,
        String.utf8EncodeChar_eq_singleton (utf8Size_of_ascii (ascii head List.mem_cons_self)),
        ih (fun other later => ascii other (List.mem_cons_of_mem _ later))]
      rfl

/-! ## Plain characters -/

/-- A printable ASCII character other than the quote and the backslash: no
encoding of this development writes it as anything but itself. -/
def Plain (character : Char) : Prop :=
  32 ≤ character.toNat ∧ character.toNat < 128 ∧ character ≠ '"' ∧ character ≠ '\\'

instance (character : Char) : Decidable (Plain character) :=
  inferInstanceAs (Decidable (_ ∧ _ ∧ _ ∧ _))

/-- A fixed text is checked by testing its characters. -/
theorem plain_of_mem {text : String} (tested : text.toList.all (fun c => decide (Plain c)) = true)
    {character : Char} (member : character ∈ text.toList) : Plain character :=
  of_decide_eq_true (List.all_eq_true.mp tested character member)

theorem Plain.ascii {character : Char} (plain : Plain character) : character.toNat < 128 :=
  plain.2.1

theorem Plain.ne_newline {character : Char} (plain : Plain character) : character ≠ '\n' := by
  rintro rfl
  exact absurd plain.1 (by decide)

theorem plain_of_isAlphanum {character : Char} (alphanumeric : character.isAlphanum = true) :
    Plain character := by
  have range : 48 ≤ character.toNat ∧ character.toNat ≤ 122 ∧ character.toNat ≠ 92 := by
    change (decide (65 ≤ character.val ∧ character.val ≤ 90) ||
      decide (97 ≤ character.val) && decide (character.val ≤ 122) ||
      decide (48 ≤ character.val) && decide (character.val ≤ 57)) = true at alphanumeric
    simp only [Bool.or_eq_true, Bool.and_eq_true, decide_eq_true_eq, UInt32.le_iff_toNat_le]
      at alphanumeric
    have code : character.val.toNat = character.toNat := rfl
    simp at alphanumeric
    omega
  refine ⟨by omega, by omega, ?_, ?_⟩
  · rintro rfl
    exact absurd range.1 (by decide)
  · rintro rfl
    exact range.2.2 rfl

/-! ## Fields joined by a separator -/

theorem count_intercalate {separator : Char} (fields : List (List Char)) (nonempty : fields ≠ []) :
    ([separator].intercalate fields).count separator =
      (fields.length - 1) + (fields.map (List.count separator)).sum := by
  induction fields with
  | nil => exact absurd rfl nonempty
  | cons head tail ih =>
      cases tail with
      | nil => simp [List.intercalate]
      | cons next rest =>
          have step : [separator].intercalate (head :: next :: rest) =
              head ++ separator :: [separator].intercalate (next :: rest) := by
            simp [List.intercalate]
          have later := ih (by simp)
          rw [step, List.count_append, List.count_cons_self, later]
          simp only [List.length_cons, List.map_cons, List.sum_cons]
          omega

/-- Two field lists of one length that join to the same text agree, as soon
as the fields of one side are free of the separator.  The other side's fields
may be arbitrary: the count of separators leaves no room for more of them. -/
theorem joined_fields_unique {separator : Char} {left right : List (List Char)}
    (sameLength : left.length = right.length) (nonempty : left ≠ [])
    (free : forall field, field ∈ left -> separator ∉ field)
    (same : [separator].intercalate left = [separator].intercalate right) : left = right := by
  have rightNonempty : right ≠ [] := by
    intro empty
    apply nonempty
    apply List.eq_nil_of_length_eq_zero
    rw [sameLength, empty]
    rfl
  have rightFree : forall field, field ∈ right -> separator ∉ field := by
    have counted := congrArg (List.count separator) same
    rw [count_intercalate left nonempty, count_intercalate right rightNonempty, sameLength] at counted
    have noneLeft : (left.map (List.count separator)).sum = 0 := by
      apply List.sum_eq_zero
      intro value member
      rcases List.mem_map.mp member with ⟨field, present, rfl⟩
      exact List.count_eq_zero.mpr (free field present)
    intro field present
    apply List.count_eq_zero.mp
    have bound := List.single_le_sum (l := right.map (List.count separator))
      (fun _ _ => Nat.zero_le _) _ (List.mem_map_of_mem present)
    omega
  calc
    left = List.splitOn separator ([separator].intercalate left) :=
      (List.splitOn_intercalate separator free nonempty).symm
    _ = List.splitOn separator ([separator].intercalate right) := by rw [same]
    _ = right := List.splitOn_intercalate separator rightFree rightNonempty

end Text
end EmbeddedAlerts
