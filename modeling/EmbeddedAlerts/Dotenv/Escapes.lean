import EmbeddedAlerts.Dotenv.Loaders

namespace EmbeddedAlerts
namespace Dotenv

open Python (CodePoint Escape)

/-!
# The escapes of a double-quoted value

The head of `dotenv.py` gives the rule for a value in double quotes: the quotes
go, and four escapes are expanded.  The program encodes the value and decodes
the bytes with a codec that knows many more escapes and reads every byte outside
them as one character.

Whatever else the codec does makes the value shorter than the rule does, except
that a character outside ASCII becomes several.  So the two agree exactly on the
ASCII texts in which no backslash begins another escape of the codec.
-/

/-- `\n`, `\t`, `\r` and `\\`: what the letter behind the backslash stands for. -/
def expansion (character : Char) : Option Char :=
  if character = 'n' then some '\n'
  else if character = 't' then some '\t'
  else if character = 'r' then some '\r'
  else if character = '\\' then some '\\'
  else none

/-- The rule: one pass from the left, everything else unchanged. -/
def expand : List Char -> List Char
  | [] => []
  | first :: rest =>
      if first = '\\' then
        match rest with
        | [] => [first]
        | second :: later =>
            match expansion second with
            | some written => written :: expand later
            | none => first :: expand (second :: later)
      else first :: expand rest

/-- The characters behind a backslash at which the codec does something else:
a line that goes on, quotes, control characters, octal and hexadecimal numbers
and names. -/
def furtherEscapes : List Char := "\n'\"abfv01234567xuUN".toList

/-- No backslash begins a further escape or ends the text. -/
def plainEscapes : List Char -> Bool
  | [] => true
  | first :: rest =>
      if first = '\\' then
        match rest with
        | [] => false
        | second :: later => !furtherEscapes.contains second && plainEscapes later
      else plainEscapes rest

/-- The texts on which the codec follows the rule. -/
def Expandable (text : List Char) : Prop :=
  Text.highCharacters text = 0 ∧ plainEscapes text = true

/-! ## The rule -/

theorem expand_plain {first : Char} (other : first ≠ '\\') (rest : List Char) :
    expand (first :: rest) = first :: expand rest := by
  rw [expand.eq_def]
  exact if_neg other

theorem expand_escape {second written : Char} (found : expansion second = some written)
    (later : List Char) : expand ('\\' :: second :: later) = written :: expand later := by
  rw [expand, if_pos rfl]
  simp only [found]

theorem ne_backslash_of_expansion {second : Char} (none : expansion second = none) :
    second ≠ '\\' := by
  rintro rfl
  cases none

theorem expand_other {second : Char} (none : expansion second = none) (later : List Char) :
    expand ('\\' :: second :: later) = '\\' :: second :: expand later := by
  rw [expand, if_pos rfl]
  simp only [none]
  rw [expand_plain (ne_backslash_of_expansion none)]

/-- One more character in front makes the expansion longer by at most one, and
never shorter. -/
theorem length_expand_cons (text : List Char) : forall first : Char,
    (expand text).length ≤ (expand (first :: text)).length ∧
      (expand (first :: text)).length ≤ (expand text).length + 1 := by
  induction text with
  | nil =>
      intro first
      by_cases backslash : first = '\\'
      · subst first
        exact ⟨Nat.zero_le _, Nat.le_refl _⟩
      · rw [expand_plain backslash]
        exact ⟨Nat.zero_le _, Nat.le_refl _⟩
  | cons second later ih =>
      intro first
      by_cases backslash : first = '\\'
      · subst first
        cases found : expansion second with
        | some written =>
            rw [expand_escape found, List.length_cons]
            have bounds := ih second
            exact ⟨bounds.2, by omega⟩
        | none =>
            rw [expand_other found, expand_plain (ne_backslash_of_expansion found),
              List.length_cons, List.length_cons]
            exact ⟨Nat.le_succ _, Nat.le_refl _⟩
      · rw [expand_plain backslash, List.length_cons]
        exact ⟨Nat.le_succ _, Nat.le_refl _⟩

/-! ## One byte of the codec -/

def asciiBytes (text : List Char) : List UInt8 :=
  text.map (fun character => UInt8.ofNat character.toNat)

/-- The byte behind a backslash, for all ASCII characters at once. -/
theorem begun_bytes_tested : (List.range 128).all (fun value =>
    let character := Char.ofNat value
    let begun := Python.beginEscape (UInt8.ofNat value)
    match expansion character with
    | some written => decide (begun.2 = [Python.ofChar written]) && begun.1.credit == 0 &&
        !furtherEscapes.contains character
    | none =>
        if furtherEscapes.contains character then decide (begun.2.length + begun.1.credit ≤ 1)
        else decide (begun.2 = [Python.ofChar '\\', Python.ofChar character]) &&
          begun.1.credit == 0) = true := by
  decide +kernel

/-- A byte outside an escape. -/
theorem plain_bytes_tested : (List.range 128).all (fun value =>
    let character := Char.ofNat value
    let byte := UInt8.ofNat value
    (decide (byte = 0x5c) == decide (character = '\\')) &&
      decide (Python.ofByte byte = Python.ofChar character)) = true := by
  decide +kernel

theorem tested {test : Nat -> Bool} (all : (List.range 128).all test = true) {character : Char}
    (low : character.toNat < 128) : test character.toNat = true :=
  List.all_eq_true.mp all character.toNat (List.mem_range.mpr low)

theorem outside_of_credit {place : Escape} (none : place.credit = 0) : place = .outside := by
  cases place with
  | outside => rfl
  | begun => cases none
  | octal left value => cases none
  | hex left value => cases none
  | named => cases none
  | name read => cases none

section

variable {character : Char} (low : character.toNat < 128)

include low

theorem plainByte_other (other : character ≠ '\\') :
    Python.plainByte (UInt8.ofNat character.toNat) = (.outside, [Python.ofChar character]) := by
  have whole := tested plain_bytes_tested low
  simp only [Char.ofNat_toNat, Bool.and_eq_true, decide_eq_true_eq, beq_iff_eq,
    decide_eq_decide] at whole
  rw [Python.plainByte, if_neg (fun same => other (whole.1.mp same)), whole.2]

theorem beginEscape_expansion {written : Char} (found : expansion character = some written) :
    Python.beginEscape (UInt8.ofNat character.toNat) = (.outside, [Python.ofChar written]) ∧
      furtherEscapes.contains character = false := by
  have whole := tested begun_bytes_tested low
  simp only [Char.ofNat_toNat, found, Bool.and_eq_true, decide_eq_true_eq, beq_iff_eq,
    Bool.not_eq_true'] at whole
  exact ⟨Prod.ext (outside_of_credit whole.1.2) whole.1.1, whole.2⟩

theorem beginEscape_further (none : expansion character = none)
    (further : furtherEscapes.contains character = true) :
    (Python.beginEscape (UInt8.ofNat character.toNat)).2.length +
      (Python.beginEscape (UInt8.ofNat character.toNat)).1.credit ≤ 1 := by
  have whole := tested begun_bytes_tested low
  simpa only [Char.ofNat_toNat, none, further, if_true, decide_eq_true_eq] using whole

theorem beginEscape_other (none : expansion character = none)
    (other : furtherEscapes.contains character = false) :
    Python.beginEscape (UInt8.ofNat character.toNat) =
      (.outside, [Python.ofChar '\\', Python.ofChar character]) := by
  have whole := tested begun_bytes_tested low
  simp only [Char.ofNat_toNat, none, other, Bool.false_eq_true, if_false, Bool.and_eq_true,
    decide_eq_true_eq, beq_iff_eq] at whole
  exact Prod.ext (outside_of_credit whole.2) whole.1

end

/-! ## The codec never writes more than the rule -/

/-- What the rule writes for a text that is read from a given place.  An escape
that goes on writes one character more at most. -/
def allowance (place : Escape) (text : List Char) : Nat :=
  match place with
  | .outside => (expand text).length
  | .begun => (expand ('\\' :: text)).length
  | _ => (expand text).length + 1

/-- The text has no further escape from a given place on. -/
def followed (place : Escape) (text : List Char) : Bool :=
  match place with
  | .outside => plainEscapes text
  | .begun => plainEscapes ('\\' :: text)
  | _ => true

theorem allowance_le (place : Escape) (text : List Char) :
    allowance place text ≤ (expand text).length + place.credit := by
  cases place with
  | outside => exact Nat.le_refl _
  | begun => exact (length_expand_cons text '\\').2
  | octal left value => exact Nat.le_refl _
  | hex left value => exact Nat.le_refl _
  | named => exact Nat.le_refl _
  | name read => exact Nat.le_refl _

theorem plainEscapes_plain {first : Char} (other : first ≠ '\\') (rest : List Char) :
    plainEscapes (first :: rest) = plainEscapes rest := by
  rw [plainEscapes.eq_def]
  exact if_neg other

theorem plainEscapes_escape (second : Char) (later : List Char) :
    plainEscapes ('\\' :: second :: later) =
      (!furtherEscapes.contains second && plainEscapes later) := by
  rw [plainEscapes.eq_def]
  exact if_pos rfl

/-- A step takes its part of the allowance, and all of it only outside the
further escapes. -/
structure Spent (place : Escape) (character : Char) (rest : List Char)
    (next : Escape × List CodePoint) : Prop where
  within : next.2.length + allowance next.1 rest ≤ allowance place (character :: rest)
  whole : next.2.length + allowance next.1 rest = allowance place (character :: rest) ->
    followed next.1 rest = true -> followed place (character :: rest) = true

section

variable {names : List UInt8 -> Option CodePoint} {character : Char}
  (low : character.toNat < 128) (rest : List Char)

include low

theorem spent_outside :
    Spent .outside character rest (Python.plainByte (UInt8.ofNat character.toNat)) := by
  by_cases backslash : character = '\\'
  · subst character
    have taken : Python.plainByte (UInt8.ofNat '\\'.toNat) = (.begun, []) := rfl
    rw [taken]
    exact ⟨(Nat.zero_add _).le, fun _ plain => plain⟩
  · rw [plainByte_other low backslash]
    constructor
    · change 1 + (expand rest).length ≤ (expand (character :: rest)).length
      rw [expand_plain backslash, List.length_cons, Nat.add_comm]
    · intro _ plain
      change plainEscapes (character :: rest) = true
      rw [plainEscapes_plain backslash]
      exact plain

theorem spent_begun :
    Spent .begun character rest (Python.beginEscape (UInt8.ofNat character.toNat)) := by
  cases found : expansion character with
  | some written =>
      rcases beginEscape_expansion low found with ⟨taken, apart⟩
      rw [taken]
      constructor
      · change 1 + (expand rest).length ≤ (expand ('\\' :: character :: rest)).length
        rw [expand_escape found, List.length_cons, Nat.add_comm]
      · intro _ plain
        change plainEscapes ('\\' :: character :: rest) = true
        rw [plainEscapes_escape, apart]
        exact plain
  | none =>
      have length : allowance .begun (character :: rest) = (expand rest).length + 2 := by
        change (expand ('\\' :: character :: rest)).length = _
        rw [expand_other found, List.length_cons, List.length_cons]
      by_cases further : furtherEscapes.contains character = true
      · -- The escape writes less than its own characters.
        have short := beginEscape_further low found further
        have bound := allowance_le (Python.beginEscape (UInt8.ofNat character.toNat)).1 rest
        refine ⟨by omega, fun same _ => ?_⟩
        omega
      · rw [beginEscape_other low found (Bool.eq_false_iff.mpr further)]
        constructor
        · rw [length]
          change 2 + (expand rest).length ≤ _
          omega
        · intro _ plain
          change plainEscapes ('\\' :: character :: rest) = true
          rw [plainEscapes_escape, Bool.eq_false_iff.mpr further]
          exact plain

omit low in
/-- Inside an escape the allowance has one character more. -/
theorem spent_inside {place : Escape} {next : Escape × List CodePoint}
    (inside : allowance place (character :: rest) = (expand (character :: rest)).length + 1)
    (free : followed place (character :: rest) = true)
    (short : next.2.length + next.1.credit ≤ 1) : Spent place character rest next := by
  have bound := allowance_le next.1 rest
  have longer := (length_expand_cons rest character).1
  exact ⟨by omega, fun _ _ => free⟩

theorem spent_of_escapeStep {place : Escape} {next : Escape × List CodePoint}
    (taken : Python.escapeStep names (UInt8.ofNat character.toNat) place = some next) :
    Spent place character rest next := by
  have written : forall {value : Nat}, (Python.codePoint value).map (fun point =>
      (Escape.outside, [point])) = some next -> next.2.length + next.1.credit ≤ 1 := by
    intro value found
    rcases Option.map_eq_some_iff.mp found with ⟨point, _, rfl⟩
    exact Nat.le_refl 1
  cases place with
  | outside =>
      cases taken
      exact spent_outside low rest
  | begun =>
      cases taken
      exact spent_begun low rest
  | octal left value =>
      cases digit : Python.octalDigit (UInt8.ofNat character.toNat) with
      | some read =>
          simp only [Python.escapeStep, digit] at taken
          apply spent_inside rest rfl rfl
          split at taken
          · exact written taken
          · cases taken
            exact Nat.le_refl 1
      | none =>
          simp only [Python.escapeStep, digit] at taken
          rcases Option.map_eq_some_iff.mp taken with ⟨point, _, rfl⟩
          have plain := (spent_outside low rest).within
          refine ⟨?_, fun _ _ => rfl⟩
          change _ ≤ (expand (character :: rest)).length at plain
          change _ ≤ (expand (character :: rest)).length + 1
          simp only [List.length_cons]
          omega
  | hex left value =>
      rcases Option.bind_eq_some_iff.mp taken with ⟨digit, _, done⟩
      apply spent_inside rest rfl rfl
      split at done
      · exact written done
      · cases done
        exact Nat.le_refl 1
  | named =>
      simp only [Python.escapeStep] at taken
      apply spent_inside rest rfl rfl
      split at taken
      · cases taken
        exact Nat.le_refl 1
      · cases taken
  | name read =>
      simp only [Python.escapeStep] at taken
      apply spent_inside rest rfl rfl
      split at taken
      · split at taken
        · cases taken
        · rcases Option.map_eq_some_iff.mp taken with ⟨point, _, rfl⟩
          exact Nat.le_refl 1
      · cases taken
        exact Nat.le_refl 1

end

theorem low_of_ascii {text : List Char} (ascii : Text.highCharacters text = 0) :
    forall character, character ∈ text -> character.toNat < 128 := by
  intro character member
  have counted := List.countP_eq_zero.mp ascii character member
  simpa using counted

/-- A whole text: the codec writes at most what the rule writes, and as much
only where no further escape begins. -/
theorem decodeFrom_length {names : List UInt8 -> Option CodePoint} {text : List Char}
    (low : forall character, character ∈ text -> character.toNat < 128) {place : Escape}
    {points : List CodePoint}
    (decoded : Python.decodeFrom names place (asciiBytes text) = some points) :
    points.length ≤ allowance place text ∧
      (points.length = allowance place text -> followed place text = true) := by
  induction text generalizing place points with
  | nil =>
      cases place with
      | outside =>
          cases decoded
          exact ⟨Nat.le_refl _, fun _ => rfl⟩
      | octal left value =>
          rcases Option.map_eq_some_iff.mp decoded with ⟨point, _, rfl⟩
          exact ⟨Nat.le_refl _, fun _ => rfl⟩
      | begun => cases decoded
      | hex left value => cases decoded
      | named => cases decoded
      | name read => cases decoded
  | cons character rest ih =>
      rw [asciiBytes, List.map_cons, Python.decodeFrom_cons] at decoded
      rcases Option.bind_eq_some_iff.mp decoded with ⟨next, stepped, decoded⟩
      rcases Option.map_eq_some_iff.mp decoded with ⟨later, tail, rfl⟩
      have spent := spent_of_escapeStep (low character List.mem_cons_self) rest stepped
      rcases ih (fun other member => low other (List.mem_cons_of_mem _ member)) tail with
        ⟨laterWithin, laterWhole⟩
      have within := spent.within
      rw [List.length_append]
      refine ⟨by omega, fun same => ?_⟩
      exact spent.whole (by omega) (laterWhole (by omega))

/-! ## Where both agree -/

/-- Without further escapes the codec writes what the rule writes. -/
theorem decodeFrom_plain (names : List UInt8 -> Option CodePoint) {text : List Char}
    (low : forall character, character ∈ text -> character.toNat < 128) :
    (plainEscapes text = true ->
      Python.decodeFrom names .outside (asciiBytes text) = some (Python.ofChars (expand text))) ∧
    (plainEscapes ('\\' :: text) = true ->
      Python.decodeFrom names .begun (asciiBytes text) =
        some (Python.ofChars (expand ('\\' :: text)))) := by
  induction text with
  | nil => exact ⟨fun _ => rfl, fun plain => by cases plain⟩
  | cons character rest ih =>
      have mine := low character List.mem_cons_self
      rcases ih (fun other member => low other (List.mem_cons_of_mem _ member)) with
        ⟨outside, begun⟩
      rw [asciiBytes, List.map_cons, Python.decodeFrom_cons, Python.decodeFrom_cons]
      change _ ∧ (_ -> (some _).bind _ = _)
      constructor
      · intro plain
        change (some (Python.plainByte _)).bind _ = _
        by_cases backslash : character = '\\'
        · subst character
          rw [Option.bind_some]
          change (Python.decodeFrom names .begun (asciiBytes rest)).map _ = _
          rw [begun plain, Option.map_some]
          rfl
        · rw [plainEscapes_plain backslash] at plain
          rw [plainByte_other mine backslash, Option.bind_some]
          change (Python.decodeFrom names .outside (asciiBytes rest)).map _ = _
          rw [outside plain, expand_plain backslash]
          rfl
      · intro plain
        rw [plainEscapes_escape, Bool.and_eq_true, Bool.not_eq_true'] at plain
        rw [Option.bind_some]
        cases found : expansion character with
        | some written =>
            rw [(beginEscape_expansion mine found).1]
            change (Python.decodeFrom names .outside (asciiBytes rest)).map _ = _
            rw [outside plain.2, expand_escape found]
            rfl
        | none =>
            rw [beginEscape_other mine found plain.1]
            change (Python.decodeFrom names .outside (asciiBytes rest)).map _ = _
            rw [outside plain.2, expand_other found]
            rfl

theorem expansion_low {second written : Char} (found : expansion second = some written) :
    written.toNat < 128 := by
  unfold expansion at found
  split at found
  · cases found
    decide
  · split at found
    · cases found
      decide
    · split at found
      · cases found
        decide
      · split at found
        · cases found
          decide
        · cases found

/-- The rule adds no character outside ASCII. -/
theorem highCharacters_expand (text : List Char) :
    Text.highCharacters (expand text) ≤ Text.highCharacters text := by
  have step : forall (character : Char) (rest : List Char),
      Text.highCharacters (character :: rest) =
        Text.highCharacters rest + if 128 ≤ character.toNat then 1 else 0 := by
    intro character rest
    simp only [Text.highCharacters, List.countP_cons, decide_eq_true_eq]
  induction text using expand.induct with
  | case1 => exact Nat.le_refl _
  | case2 => exact Nat.le_refl _
  | case3 second later written found ih =>
      rw [expand_escape found, step, step, step, if_neg (Nat.not_le.mpr (expansion_low found))]
      omega
  | case4 second later found ih =>
      rw [expand_other found, step, step, step, step]
      rw [expand_plain (ne_backslash_of_expansion found), step, step] at ih
      omega
  | case5 first rest other ih =>
      rw [expand_plain other, step, step]
      omega

/-- The codec follows the rule exactly on these texts. -/
theorem unicodeEscape_eq_expand_iff {names : List UInt8 -> Option CodePoint}
    (ascii : Python.AsciiNames names) (text : List Char) :
    Python.unicodeEscape names (Text.utf8 text) = some (Python.ofChars (expand text)) ↔
      Expandable text := by
  constructor
  · intro decoded
    have high := (Python.decodeFrom_counts ascii decoded).1
    have latin := Python.latinPoints_ofChars_le (expand text)
    have twice := Text.highBytes_utf8 text
    have kept := highCharacters_expand text
    change 0 + _ ≤ _ at high
    have none : Text.highCharacters text = 0 := by omega
    refine ⟨none, ?_⟩
    rw [Python.unicodeEscape, Text.utf8_of_ascii none] at decoded
    refine (decodeFrom_length (low_of_ascii none) decoded).2 ?_
    exact List.length_map _
  · rintro ⟨none, plain⟩
    rw [Python.unicodeEscape, Text.utf8_of_ascii none]
    exact (decodeFrom_plain names (low_of_ascii none)).1 plain

/-! ## A line in the stream -/

/-- `name="text"`. -/
def quotedLine (name text : List Char) : List Char := name ++ '=' :: '"' :: (text ++ ['"'])

theorem quotedBy_quoted (text : List Char) : quotedBy '"' ('"' :: (text ++ ['"'])) = true := by
  rw [quotedBy, ← List.cons_append, List.getLast?_concat]
  simp

theorem inner_quoted (text : List Char) : inner ('"' :: (text ++ ['"'])) = text := by
  rw [inner, List.drop_one, List.tail_cons, List.dropLast_concat]

theorem not_isSpace_of_isNameStart {character : Char}
    (start : PosixShell.isNameStart character = true) : Python.isSpace character = false := by
  simp only [PosixShell.isNameStart, Bool.or_eq_true, Bool.and_eq_true, decide_eq_true_eq,
    beq_iff_eq, Char.le_def, UInt32.le_iff_toNat_le] at start
  have letter : 65 ≤ character.toNat ∧ character.toNat ≤ 122 := by
    change (65 ≤ character.toNat ∧ character.toNat ≤ 90 ∨
      97 ≤ character.toNat ∧ character.toNat ≤ 122) ∨ character = '_' at start
    rcases start with (upper | lower) | rfl
    · omega
    · omega
    · decide
  simp only [Python.isSpace, Bool.or_eq_false_iff, Bool.and_eq_false_iff, decide_eq_false_iff_not,
    beq_eq_false_iff_ne]
  omega

section

variable {name : List Char} (named : PosixShell.isName name = true)

include named

theorem dropWhile_name (value : List Char) :
    (name ++ '=' :: value).dropWhile PosixShell.isNameCharacter = '=' :: value := by
  rw [List.dropWhile_append_of_pos (PosixShell.isName_all named)]
  exact List.dropWhile_cons_of_neg (by decide)

theorem takeWhile_name (value : List Char) :
    (name ++ '=' :: value).takeWhile PosixShell.isNameCharacter = name := by
  rw [List.takeWhile_append_of_pos (PosixShell.isName_all named),
    List.takeWhile_cons_of_neg (by decide), List.append_nil]

/-- A name goes on with `=`, not with a blank. -/
theorem not_exportPrefix (value : List Char) :
    exportPrefix.isPrefixOf (name ++ '=' :: value) = false := by
  rw [Bool.eq_false_iff]
  intro begins
  rcases List.isPrefixOf_iff_prefix.mp begins with ⟨rest, same⟩
  have left : (exportPrefix ++ rest).dropWhile PosixShell.isNameCharacter = ' ' :: rest := rfl
  rw [same, dropWhile_name named] at left
  cases left

theorem matchAssignment_name {value : List Char} (solid : '\n' ∉ value) :
    matchAssignment (name ++ '=' :: value) = some (name, value) := by
  unfold matchAssignment
  rw [dropWhile_name named]
  simp only [takeWhile_name named, named, Bool.true_and]
  rw [if_pos (by simpa using solid)]

/-- A name begins with neither a space nor a comment. -/
theorem first_of_name (value : List Char) :
    Exists fun first => (name ++ '=' :: value).head? = some first ∧
      Python.isSpace first = false ∧ first ≠ '#' := by
  cases name with
  | nil => cases named
  | cons first rest =>
      have start := (Bool.and_eq_true_iff.mp named).1
      refine ⟨first, rfl, not_isSpace_of_isNameStart start, ?_⟩
      rintro rfl
      exact absurd start (by decide)

theorem assignment_line {value newline : List Char} (solid : '\n' ∉ value)
    (ended : newline = [] ∨ newline = ['\n']) (kept : sopsPrefix.isPrefixOf name = false) :
    assignment (name ++ '=' :: value ++ newline) = some (name, value) := by
  have whole : '\n' ∉ name ++ '=' :: value := by
    rw [List.mem_append, List.mem_cons]
    rintro (inName | same | inValue)
    · exact absurd (PosixShell.isName_all named _ inName) (by decide)
    · exact absurd same (by decide)
    · exact solid inValue
  have stripped : Python.rstripNewline (name ++ '=' :: value ++ newline) =
      name ++ '=' :: value := by
    have bare : Python.rstripNewline (name ++ '=' :: value) = name ++ '=' :: value := by
      refine List.rdropWhile_eq_self_iff.mpr (fun nonempty last => whole ?_)
      rw [← beq_iff_eq.mp last]
      exact List.getLast_mem nonempty
    rcases ended with rfl | rfl
    · rw [List.append_nil]
      exact bare
    · rw [Python.rstripNewline, List.rdropWhile_concat_pos _ _ _ rfl]
      exact bare
  have matched := matchAssignment_name named solid
  rcases first_of_name named value with ⟨first, found, visible, marked⟩
  have unprefixed := not_exportPrefix named value
  unfold assignment
  simp only [stripped, unprefixed]
  generalize name ++ '=' :: value = line at found matched
  cases line with
  | nil => cases found
  | cons head tail =>
      cases found
      have left : Python.lstrip (first :: tail) = first :: tail :=
        List.dropWhile_cons_of_neg (by rw [visible]; decide)
      have visibleLine : (Python.strip (first :: tail)).isEmpty = false := by
        rw [Python.strip, left, List.isEmpty_eq_false_iff, Ne, List.rdropWhile_eq_nil_iff]
        intro blank
        exact absurd (blank first List.mem_cons_self) (by rw [visible]; decide)
      have comment : ((first :: tail).head? == some '#') = false := by
        simpa using marked
      rw [left, visibleLine, comment]
      simp only [Bool.or_self, Bool.false_eq_true, if_false, matched, kept]

end

/-- What stands on other lines does not matter. -/
theorem parseLines_append (names : List UInt8 -> Option CodePoint) (left right : List (List Char)) :
    parseLines names (left ++ right) = (parseLines names left).bind (fun earlier =>
      (parseLines names right).map (fun later => earlier ++ later)) := by
  rw [parseLines_eq, List.filterMap_append, List.mapM_append, ← parseLines_eq, ← parseLines_eq]
  cases parseLines names left with
  | none => rfl
  | some earlier =>
      cases parseLines names right with
      | none => rfl
      | some later => rfl

/-- Among any lines that parse, a line `name="text"` gives the name and the
expanded text exactly when the text is expandable. -/
theorem quoted_line_expanded_iff {names : List UInt8 -> Option CodePoint}
    (ascii : Python.AsciiNames names) {before after : List (List Char)}
    {earlier later : List (List Char × List CodePoint)}
    (parsedBefore : parseLines names before = some earlier)
    (parsedAfter : parseLines names after = some later) {name text newline : List Char}
    (named : PosixShell.isName name = true) (kept : sopsPrefix.isPrefixOf name = false)
    (solid : '\n' ∉ text) (ended : newline = [] ∨ newline = ['\n']) :
    parseLines names (before ++ (quotedLine name text ++ newline) :: after) =
      some (earlier ++ (name, Python.ofChars (expand text)) :: later) ↔ Expandable text := by
  have within : '\n' ∉ '"' :: (text ++ ['"']) := by
    simpa using solid
  have line : parseLines names ((quotedLine name text ++ newline) :: after) =
      (Python.unicodeEscape names (Text.utf8 text)).map (fun value => (name, value) :: later) := by
    rw [parseLines, quotedLine, assignment_line named within ended kept]
    simp only [unquote, quotedBy_quoted, inner_quoted, if_true, parsedAfter, Option.map_some]
    cases Python.unicodeEscape names (Text.utf8 text) with
    | none => rfl
    | some points => rfl
  rw [← unicodeEscape_eq_expand_iff ascii, parseLines_append, parsedBefore, line]
  cases Python.unicodeEscape names (Text.utf8 text) with
  | none => simp
  | some points => simp

def accentedLine : List Char := quotedLine "K".toList "é".toList

def pathLine : List Char := quotedLine "K".toList "C:\\users".toList

/-- A letter outside ASCII becomes two others, and the escape `\u` that a path
happens to have raises. -/
theorem accented_value_misread :
    parseLines unnamed [accentedLine] = some [("K".toList, Python.ofChars "Ã©".toList)] ∧
    parseLines unnamed [pathLine] = none ∧
    Not (forall text : List Char, '\n' ∉ text -> parseLines unnamed [quotedLine "K".toList text] =
      some [("K".toList, Python.ofChars (expand text))]) := by
  have misread : parseLines unnamed [accentedLine] =
      some [("K".toList, Python.ofChars "Ã©".toList)] := by
    decide +kernel
  refine ⟨misread, by decide +kernel, ?_⟩
  intro expanded
  have same := expanded "é".toList (by decide)
  change parseLines unnamed [accentedLine] = _ at same
  rw [misread] at same
  exact absurd same (by decide +kernel)

/-- The value that the head of the program is about: a key in one line. -/
def keyText : List Char := "-----BEGIN KEY-----\\nMII\\q\\\\".toList

theorem keyText_expanded : Expandable keyText ∧
    parseLines unnamed [quotedLine "KEY".toList keyText ++ ['\n']] =
      some [("KEY".toList, Python.ofChars (expand keyText))] := by
  have plain : Expandable keyText := ⟨by decide +kernel, by decide +kernel⟩
  have table : Python.AsciiNames unnamed := fun _ _ found => by cases found
  have empty : parseLines unnamed [] = some [] := rfl
  have named : PosixShell.isName "KEY".toList = true := by decide
  have kept : sopsPrefix.isPrefixOf "KEY".toList = false := by decide
  have solid : '\n' ∉ keyText := by decide +kernel
  exact ⟨plain,
    (quoted_line_expanded_iff table empty empty named kept solid (Or.inr rfl)).mpr plain⟩

end Dotenv
end EmbeddedAlerts
