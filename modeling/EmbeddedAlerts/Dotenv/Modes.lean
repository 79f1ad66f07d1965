import EmbeddedAlerts.Dotenv.Parse

namespace EmbeddedAlerts
namespace Dotenv

open Python (CodePoint)
open PosixShell (isName)

/-!
# What the three formats denote

Each format is read back by the rules of its own reader: shell words with
their quotes removed, one assignment per line, or the data entries of a secret
in Base64.  In all of them a later entry overrides an earlier one.

The shell and the env file list the pairs in the order of the stream, so both
leave the last value of every name.  The secret lists them sorted, by value
within a name, and leaves the greatest.
-/

/-! ## Readers -/

/-- A text as exports, with the bytes of the values. -/
def readShell (output : List UInt8) : Option (List (List Char × List UInt8)) :=
  ((PosixShell.commands (Text.byteText output)).bind PosixShell.exports).map (fun entries =>
    entries.map (fun entry => (entry.1, Text.textBytes entry.2)))

/-- One `K=V` per line. -/
def readEnvfile (output : List UInt8) : Option (List (List Char × List UInt8)) :=
  ((PosixShell.readLines (Text.byteText output)).mapM PosixShell.splitAssignment).map
    (fun entries => entries.map (fun entry => (entry.1, Text.textBytes entry.2)))

def dataKey : List Char := "data:".toList

/-- The lines behind the last `data:`. -/
def dataLines (lines : List (List Char)) : List (List Char) :=
  (lines.reverse.takeWhile (fun line => line != dataKey)).reverse

/-- Two blanks, a name, a colon, a blank and the encoded value. -/
def readEntry (line : List Char) : Option (List Char × List UInt8) :=
  match line with
  | ' ' :: ' ' :: entry =>
      match entry.dropWhile (fun character => character != ':') with
      | ':' :: ' ' :: encoded => (Base64.decode encoded).map (fun bytes =>
          (entry.takeWhile (fun character => character != ':'), bytes))
      | _ => none
  | _ => none

/-- The data entries of a printed secret. -/
def readSecret (output : List UInt8) : Option (List (List Char × List UInt8)) :=
  (dataLines (PosixShell.readLines (Text.byteText output))).mapM readEntry

/-! ## Pairs that can be written -/

/-- Every value can be encoded. -/
def Encodable (errors : Python.Errors) (pairs : List (List Char × List CodePoint)) : Prop :=
  forall pair, pair ∈ pairs -> (Python.encode errors pair.2).isSome = true

/-- The bytes of a value that can be encoded, as characters. -/
def valueText (errors : Python.Errors) (value : List CodePoint) : List Char :=
  (Python.encodedText errors value).getD []

/-- The pairs as texts. -/
def texts (errors : Python.Errors) (pairs : List (List Char × List CodePoint)) :
    List (List Char × List Char) :=
  pairs.map (fun pair => (pair.1, valueText errors pair.2))

section

variable {errors : Python.Errors} {value : List CodePoint}

theorem encodedText_valueText (written : (Python.encode errors value).isSome = true) :
    Python.encodedText errors value = some (valueText errors value) := by
  rcases Option.isSome_iff_exists.mp written with ⟨bytes, encoded⟩
  rw [valueText, Python.encodedText, encoded]
  rfl

theorem encode_valueText (written : (Python.encode errors value).isSome = true) :
    Python.encode errors value = some (Text.textBytes (valueText errors value)) := by
  rcases Option.isSome_iff_exists.mp written with ⟨bytes, encoded⟩
  rw [valueText, Python.encodedText, encoded, Option.map_some, Option.getD_some,
    Text.textBytes_byteText]

/-- A strict encoding is everyone's. -/
theorem chars_of_strict (written : (Python.encode .strict value).isSome = true) :
    Exists fun text => Python.chars value = some text := by
  rw [Python.encode_isSome_iff] at written
  refine Option.isSome_iff_exists.mp ((Python.chars_isSome_iff value).mpr ?_)
  intro point member
  rcases written point member with regular | ⟨impossible, _⟩
  · exact regular
  · cases impossible

theorem encode_strict_injective {other : List CodePoint} {bytes : List UInt8}
    (written : Python.encode .strict value = some bytes)
    (otherWritten : Python.encode .strict other = some bytes) : value = other := by
  rcases chars_of_strict (by rw [written]; rfl) with ⟨text, encoded⟩
  rcases chars_of_strict (by rw [otherWritten]; rfl) with ⟨otherText, otherEncoded⟩
  rw [Python.encode_of_chars .strict encoded, Option.some.injEq] at written
  rw [Python.encode_of_chars .strict otherEncoded, Option.some.injEq] at otherWritten
  have same : text = otherText := Text.utf8_injective (written.trans otherWritten.symm)
  rw [Python.chars_eq_some_iff.mp encoded, Python.chars_eq_some_iff.mp otherEncoded, same]

theorem encode_of_strict {bytes : List UInt8} (written : Python.encode .strict value = some bytes) :
    Python.encode errors value = some bytes := by
  rcases chars_of_strict (by rw [written]; rfl) with ⟨text, encoded⟩
  rw [Python.encode_of_chars .strict encoded] at written
  rw [Python.encode_of_chars errors encoded, written]

end

/-- The last value of each name, as bytes. -/
def lastBytes (pairs : List (List Char × List CodePoint)) (name : List Char) :
    Option (List UInt8) :=
  (Assignments.lastValue pairs name).bind (Python.encode .strict)

/-- The map that a list of entries leaves. -/
def environment (entries : List (List Char × List UInt8)) : List Char -> Option (List UInt8) :=
  entries.foldl Assignments.override (fun _ => none)

/-- A run ends well, and its output is read as the last values of the pairs. -/
def Denotes (pairs : List (List Char × List CodePoint))
    (reader : List UInt8 -> Option (List (List Char × List UInt8))) (run : Run) : Prop :=
  run.failure = none ∧ Exists fun entries => reader run.output = some entries ∧
    forall name, environment entries name = lastBytes pairs name

theorem environment_eq (entries : List (List Char × List UInt8)) (name : List Char) :
    environment entries name = Assignments.lastValue entries name := by
  rw [environment, Assignments.foldl_override, Option.or_none]

variable {pairs : List (List Char × List CodePoint)} {errors : Python.Errors}

theorem Encodable.of_strict (written : Encodable .strict pairs) : Encodable errors pairs := by
  intro pair member
  rcases Option.isSome_iff_exists.mp (written pair member) with ⟨bytes, encoded⟩
  rw [encode_of_strict encoded]
  rfl

theorem mem_of_lastValue {name : List Char} {value : List CodePoint}
    (last : Assignments.lastValue pairs name = some value) : (name, value) ∈ pairs :=
  Assignments.mem_values.mp (List.mem_of_getLast? last)

/-- The entries in the order of the stream leave the last values. -/
theorem environment_texts (errors : Python.Errors) (written : Encodable .strict pairs)
    (name : List Char) :
    environment ((texts errors pairs).map (fun entry => (entry.1, Text.textBytes entry.2))) name =
      lastBytes pairs name := by
  rw [environment_eq, texts, List.map_map]
  change Assignments.lastValue (pairs.map (fun pair =>
    (pair.1, Text.textBytes (valueText errors pair.2)))) name = _
  rw [Assignments.lastValue_map (fun value => Text.textBytes (valueText errors value)), lastBytes]
  cases last : Assignments.lastValue pairs name with
  | none => rfl
  | some value =>
      rcases Option.isSome_iff_exists.mp (written _ (mem_of_lastValue last)) with ⟨bytes, encoded⟩
      have everywhere : Python.encode errors value = some bytes := encode_of_strict encoded
      rw [Option.map_some, Option.bind_some, encoded, valueText, Python.encodedText, everywhere,
        Option.map_some, Option.getD_some, Text.textBytes_byteText]

/-! ## Printing -/

/-- Lines that can be encoded are printed one after the other. -/
theorem printed_texts {lines : List (Option (List UInt8))} {written : List (List Char)}
    (spelled : lines.map (Option.map Text.byteText) = written.map some) :
    (printed lines).failure = none ∧
      (printed lines).text = written.flatMap (fun text => text ++ ['\n']) := by
  have all : (Python.printAll lines).2 = true ∧ Text.byteText (Python.printAll lines).1 =
      written.flatMap (fun text => text ++ ['\n']) := by
    induction lines generalizing written with
    | nil =>
        cases written with
        | nil => exact ⟨rfl, rfl⟩
        | cons text more => cases spelled
    | cons line rest ih =>
        cases written with
        | nil => cases spelled
        | cons text more =>
            rw [List.map_cons, List.map_cons, List.cons.injEq] at spelled
            rcases Option.map_eq_some_iff.mp spelled.1 with ⟨bytes, rfl, rfl⟩
            rcases ih spelled.2 with ⟨ended, output⟩
            refine ⟨ended, ?_⟩
            rw [Python.printAll, Text.byteText_append, List.flatMap_cons, List.append_assoc, ← output]
            rfl
  constructor
  · rw [printed, all.1]
    rfl
  · exact all.2

/-- What a line of the output looks like, in terms of its name and value. -/
def Spelled (errors : Python.Errors) (lineOf : List Char × List CodePoint -> List CodePoint)
    (line : List Char -> List Char -> List Char) : Prop :=
  forall pair : List Char × List CodePoint, isName pair.1 = true ->
    Python.encodedText errors (lineOf pair) = (Python.encodedText errors pair.2).map (line pair.1)

/-- Pairs that can be written are printed one line each. -/
theorem printed_encodable {lineOf : List Char × List CodePoint -> List CodePoint}
    {line : List Char -> List Char -> List Char} (spelled : Spelled errors lineOf line)
    (named : Named pairs) (written : Encodable errors pairs) :
    (printed (pairs.map (fun pair => Python.encode errors (lineOf pair)))).failure = none ∧
      (printed (pairs.map (fun pair => Python.encode errors (lineOf pair)))).text =
        (texts errors pairs).flatMap (fun entry => line entry.1 entry.2 ++ ['\n']) := by
  have lines : (pairs.map (fun pair => Python.encode errors (lineOf pair))).map
      (Option.map Text.byteText) =
      ((texts errors pairs).map (fun entry => line entry.1 entry.2)).map some := by
    rw [texts, List.map_map, List.map_map, List.map_map]
    apply List.map_congr_left
    intro pair member
    change Python.encodedText errors (lineOf pair) = some (line pair.1 (valueText errors pair.2))
    rw [spelled pair (named pair member), encodedText_valueText (written pair member)]
    rfl
  have run := printed_texts lines
  rwa [List.flatMap_map] at run

/-- A line that cannot be encoded makes the run fail. -/
theorem printed_failure {lines : List (Option (List UInt8))} (raised : none ∈ lines) :
    (printed lines).failure = some .unicodeEncodeError := by
  rw [printed, Python.printAll_none raised]
  rfl

theorem encodedText_name {name : List Char} (named : isName name = true) :
    Python.encodedText errors (Python.ofChars name) = some name := by
  refine Python.encodedText_ofChars errors (List.countP_eq_zero.mpr ?_)
  intro character member high
  have above := of_decide_eq_true high
  have letter := PosixShell.isName_all named character member
  exact absurd (PosixShell.toNat_lt_of_isNameCharacter letter) (by omega)

/-! ## Shell -/

theorem encodedText_replaceQuotes (value : List CodePoint) :
    Python.encodedText errors (replaceQuotes value) =
      (Python.encodedText errors value).map PosixShell.spliceQuotes := by
  induction value with
  | nil => rfl
  | cons point rest ih =>
      have split : replaceQuotes (point :: rest) =
          (if point = Python.ofChar '\'' then Python.ofChars "'\\''".toList else [point]) ++
            replaceQuotes rest := List.flatMap_cons
      rw [split, Python.encodedText_append, ih, Python.encodedText_cons errors point rest]
      by_cases quoted : point = Python.ofChar '\''
      · have quote : Python.encodedText errors [Python.ofChar '\''] = some ['\''] :=
          Python.encodedText_ofChars errors (show Text.highCharacters ['\''] = 0 by decide)
        rw [if_pos quoted, quoted, quote, Python.encodedText_ofChars errors (by decide)]
        cases Python.encodedText errors rest with
        | none => rfl
        | some later => rfl
      · rw [if_neg quoted]
        cases encoded : Python.encodedText errors [point] with
        | none => rfl
        | some first =>
            have absent : '\'' ∉ first := by
              rw [Python.mem_encodedText_iff (by decide) encoded, List.mem_singleton]
              exact fun same => quoted same.symm
            cases Python.encodedText errors rest with
            | none => rfl
            | some later =>
                simp only [Option.map_some, Option.bind_some, PosixShell.spliceQuotes_append,
                  PosixShell.spliceQuotes_of_not_mem absent]

theorem shellLine_spelled (errors : Python.Errors) :
    Spelled errors shellLine (fun name value => PosixShell.exportLine (name, value)) := by
  intro pair named
  rw [shellLine, Python.encodedText_append, Python.encodedText_append, Python.encodedText_append,
    Python.encodedText_append, encodedText_replaceQuotes, encodedText_name named,
    Python.encodedText_ofChars errors (show Text.highCharacters "export ".toList = 0 by decide),
    Python.encodedText_ofChars errors (show Text.highCharacters "='".toList = 0 by decide),
    Python.encodedText_ofChars errors (show Text.highCharacters "'".toList = 0 by decide)]
  cases Python.encodedText errors pair.2 with
  | none => rfl
  | some value =>
      simp only [Option.map_some, Option.bind_some, List.append_assoc]
      rfl

theorem shell_encodable (named : Named pairs) (written : Encodable errors pairs) :
    (shell errors pairs).failure = none ∧ (shell errors pairs).text =
      (texts errors pairs).flatMap (fun entry => PosixShell.exportLine entry ++ ['\n']) :=
  printed_encodable (shellLine_spelled errors) named written

theorem Named.texts (named : Named pairs) :
    forall entry, entry ∈ texts errors pairs -> isName entry.1 = true := by
  intro entry member
  rcases List.mem_map.mp member with ⟨pair, present, rfl⟩
  exact named pair present

theorem shell_exports (named : Named pairs) (written : Encodable errors pairs) :
    (PosixShell.commands (shell errors pairs).text).bind PosixShell.exports =
      some (texts errors pairs) := by
  rw [(shell_encodable named written).2, PosixShell.commands_exportLines named.texts,
    Option.bind_some]
  exact PosixShell.exports_exportWords named.texts

theorem shell_denotes (named : Named pairs) (written : Encodable .strict pairs) :
    Denotes pairs readShell (shell errors pairs) := by
  refine ⟨(shell_encodable named written.of_strict).1, _, ?_, environment_texts errors written⟩
  rw [readShell]
  exact congrArg (Option.map _) (shell_exports named written.of_strict)

/-! ## Env file -/

theorem envfileLine_spelled :
    Spelled errors envfileLine (fun name value => name ++ '=' :: value) := by
  intro pair named
  rw [envfileLine, Python.encodedText_append, Python.encodedText_append, encodedText_name named,
    Python.encodedText_ofChars errors (show Text.highCharacters "=".toList = 0 by decide)]
  cases Python.encodedText errors pair.2 with
  | none => rfl
  | some value =>
      simp only [Option.map_some, Option.bind_some, List.append_assoc]
      rfl

/-- No value has a line break. -/
def Unbroken (pairs : List (List Char × List CodePoint)) : Prop :=
  forall pair, pair ∈ pairs -> lineBreak pair.2 = false

theorem bad_isEmpty_iff : ((pairs.filter (fun pair => lineBreak pair.2)).map Prod.fst).isEmpty =
    true ↔ Unbroken pairs := by
  rw [List.isEmpty_iff, List.map_eq_nil_iff, List.filter_eq_nil_iff]
  exact forall_congr' (fun pair => imp_congr_right (fun _ => Iff.of_eq (Bool.not_eq_true _)))

theorem envfile_unbroken (unbroken : Unbroken pairs) : envfile errors pairs =
    printed (pairs.map (fun pair => Python.encode errors (envfileLine pair))) :=
  if_pos (bad_isEmpty_iff.mpr unbroken)

theorem envfile_broken (errors : Python.Errors) (broken : Not (Unbroken pairs)) :
    Exists fun message => envfile errors pairs = ⟨[], some (.exit message)⟩ :=
  ⟨_, if_neg (fun empty => broken (bad_isEmpty_iff.mp empty))⟩

theorem newline_not_mem_valueText {value : List CodePoint} (unbroken : lineBreak value = false)
    (written : (Python.encode errors value).isSome = true) : '\n' ∉ valueText errors value := by
  rw [lineBreak, Bool.or_eq_false_iff] at unbroken
  rw [Python.mem_encodedText_iff (by decide) (encodedText_valueText written)]
  intro held
  rw [List.contains_iff_mem.mpr held] at unbroken
  cases unbroken.1

theorem newline_not_mem_of_isName {name : List Char} (named : isName name = true) :
    '\n' ∉ name := by
  intro member
  exact absurd (PosixShell.isName_all named '\n' member) (by decide)

theorem envfile_denotes (errors : Python.Errors) (named : Named pairs)
    (written : Encodable .strict pairs) (unbroken : Unbroken pairs) :
    Denotes pairs readEnvfile (envfile errors pairs) := by
  have everywhere : Encodable errors pairs := written.of_strict
  rcases printed_encodable envfileLine_spelled named everywhere with ⟨ended, output⟩
  rw [← envfile_unbroken unbroken] at ended output
  refine ⟨ended, _, ?_, environment_texts errors written⟩
  have lines : PosixShell.readLines (envfile errors pairs).text =
      (texts errors pairs).map (fun entry => entry.1 ++ '=' :: entry.2) := by
    have each : (texts errors pairs).flatMap (fun entry => entry.1 ++ '=' :: entry.2 ++ ['\n']) =
        ((texts errors pairs).map (fun entry => entry.1 ++ '=' :: entry.2)).flatMap
          (fun line => line ++ ['\n']) := by rw [List.flatMap_map]
    rw [output, each]
    apply PosixShell.readLines_lines
    intro line member
    rcases List.mem_map.mp member with ⟨entry, present, rfl⟩
    rcases List.mem_map.mp present with ⟨pair, inPairs, rfl⟩
    simp only [List.mem_append, List.mem_cons, not_or]
    exact ⟨newline_not_mem_of_isName (named pair inPairs), by decide,
      newline_not_mem_valueText (unbroken pair inPairs) (everywhere pair inPairs)⟩
  have split : ((texts errors pairs).map (fun entry => entry.1 ++ '=' :: entry.2)).mapM
      PosixShell.splitAssignment = some ((texts errors pairs).map id) := by
    apply Fallible.mapM_map_some
    intro entry member
    exact PosixShell.splitAssignment_append
      (PosixShell.equals_not_mem_of_isName (named.texts entry member)) entry.2
  have read : (PosixShell.readLines (envfile errors pairs).text).mapM PosixShell.splitAssignment =
      some (texts errors pairs) := by
    rw [lines, split, List.map_id]
  exact congrArg (Option.map _) read

/-! ## Secret -/

/-- The text of one data entry. -/
def dataText (name : List Char) (value : List UInt8) : List Char :=
  ' ' :: ' ' :: (name ++ ':' :: ' ' :: Base64.encode value)

theorem highCharacters_dataText {name : List Char} (named : isName name = true)
    (value : List UInt8) : Text.highCharacters (dataText name value) = 0 := by
  apply List.countP_eq_zero.mpr
  intro character member high
  have above := of_decide_eq_true high
  simp only [dataText, List.mem_cons, List.mem_append] at member
  rcases member with rfl | rfl | inName | rfl | rfl | inValue
  · exact absurd above (by decide)
  · exact absurd above (by decide)
  · have letter := PosixShell.isName_all named character inName
    exact absurd (PosixShell.toNat_lt_of_isNameCharacter letter) (Nat.not_lt_of_le above)
  · exact absurd above (by decide)
  · exact absurd above (by decide)
  · exact absurd (Base64.ascii_of_mem_encode inValue) (Nat.not_lt_of_le above)

theorem dataLine_text {pair : List Char × List CodePoint} (named : isName pair.1 = true)
    (written : (Python.encode .strict pair.2).isSome = true) :
    (dataLine pair).map Text.byteText =
      some (dataText pair.1 (Text.textBytes (valueText .strict pair.2))) := by
  rcases chars_of_strict written with ⟨value, encoded⟩
  have bytes := encode_valueText written
  rw [Python.encode_of_chars .strict encoded, Option.some.injEq] at bytes
  have spelled : "  ".toList ++ pair.1 ++ ": ".toList ++ Base64.encode (Text.utf8 value) =
      dataText pair.1 (Text.utf8 value) := by
    rw [List.append_assoc, List.append_assoc]
    rfl
  rw [dataLine, encoded, Option.map_some, Option.map_some, spelled, ← bytes,
    Text.byteText_utf8_of_ascii (highCharacters_dataText named _)]

theorem readEntry_dataText {name : List Char} (named : isName name = true) (value : List UInt8) :
    readEntry (dataText name value) = some (name, value) := by
  have solid : forall character, character ∈ name -> (character != ':') = true := by
    intro character member
    rw [bne_iff_ne]
    intro same
    exact absurd (PosixShell.isName_all named character member) (same ▸ by decide)
  simp only [dataText, readEntry, List.dropWhile_append_of_pos solid,
    List.takeWhile_append_of_pos solid]
  simp [Base64.decode_encode]

theorem newline_not_mem_dataText {name : List Char} (named : isName name = true)
    (value : List UInt8) : '\n' ∉ dataText name value := by
  simp only [dataText, List.mem_cons, List.mem_append, not_or]
  exact ⟨by decide, by decide, newline_not_mem_of_isName named, by decide, by decide,
    Base64.newline_not_mem_encode _⟩

theorem dataText_ne_dataKey (name : List Char) (value : List UInt8) :
    dataText name value ≠ dataKey := by
  intro same
  exact absurd (List.cons.inj same).1 (by decide)

theorem dataLines_append {before entries : List (List Char)} (other : dataKey ∉ entries) :
    dataLines (before ++ dataKey :: entries) = entries := by
  have solid : forall line, line ∈ entries.reverse -> (line != dataKey) = true := by
    intro line member
    rw [bne_iff_ne]
    intro same
    exact other (same ▸ List.mem_reverse.mp member)
  rw [dataLines, List.reverse_append, List.reverse_cons, List.append_assoc,
    List.takeWhile_append_of_pos solid]
  simp

/-- The header ends with the line `data:`, whatever the name of the secret. -/
theorem readLines_header (name rest : List Char) : Exists fun before =>
    PosixShell.readLines (secretHeader name ++ '\n' :: rest) =
      before ++ dataKey :: PosixShell.readLines rest := by
  let opening := "apiVersion: v1\nkind: Secret\nmetadata:\n  name: ".toList ++ name ++
    "\ntype: Opaque".toList
  have split : secretHeader name ++ '\n' :: rest =
      opening ++ '\n' :: (dataKey ++ '\n' :: rest) := by
    change ("apiVersion: v1\nkind: Secret\nmetadata:\n  name: ".toList ++ name ++
      ("\ntype: Opaque".toList ++ '\n' :: dataKey)) ++ _ = _
    simp only [opening, List.append_assoc, List.cons_append]
  refine ⟨PosixShell.readLines (opening ++ ['\n']), ?_⟩
  have key := PosixShell.readLines_line (show '\n' ∉ dataKey by decide) rest
  rw [split, PosixShell.readLines_append, key]

theorem byteText_secretHeader (name : List Char) :
    Text.byteText (Text.utf8 (secretHeader name)) =
      secretHeader (Text.byteText (Text.utf8 name)) := by
  have opening : Text.byteText (Text.utf8 secretOpening) = secretOpening :=
    Text.byteText_utf8_of_ascii (by decide)
  have closing : Text.byteText (Text.utf8 secretClosing) = secretClosing :=
    Text.byteText_utf8_of_ascii (by decide)
  rw [secretHeader, Text.utf8_append, Text.utf8_append, Text.byteText_append,
    Text.byteText_append, opening, closing]
  rfl

theorem encodable_sorted : Encodable errors (Python.sorted pairs) ↔ Encodable errors pairs :=
  forall_congr' (fun _ => imp_congr_left (Python.sorted_perm pairs).mem_iff)

theorem named_sorted (named : Named pairs) : Named (Python.sorted pairs) :=
  fun pair member => named pair ((Python.sorted_perm pairs).mem_iff.mp member)

theorem k8s_failure (name : List Char) (unwritten : Not (Encodable .strict pairs)) :
    (k8s name pairs).failure = some .unicodeEncodeError := by
  refine printed_failure (List.mem_cons_of_mem _ (List.mem_map.mpr ?_))
  rw [← encodable_sorted] at unwritten
  simp only [Encodable, not_forall] at unwritten
  rcases unwritten with ⟨pair, member, surrogate⟩
  refine ⟨pair, member, ?_⟩
  cases encoded : Python.chars pair.2 with
  | none => rw [dataLine, encoded, Option.map_none]
  | some value =>
      rw [Python.encode_of_chars .strict encoded] at surrogate
      exact absurd rfl surrogate

theorem k8s_encodable (name : List Char) (named : Named pairs)
    (written : Encodable .strict pairs) :
    (k8s name pairs).failure = none ∧ (k8s name pairs).text =
      secretHeader (Text.byteText (Text.utf8 name)) ++ '\n' ::
        ((texts .strict (Python.sorted pairs)).map (fun entry =>
          dataText entry.1 (Text.textBytes entry.2))).flatMap (fun text => text ++ ['\n']) := by
  have lines : (some (Text.utf8 (secretHeader name)) ::
      (Python.sorted pairs).map dataLine).map (Option.map Text.byteText) =
      (secretHeader (Text.byteText (Text.utf8 name)) ::
        (texts .strict (Python.sorted pairs)).map (fun entry =>
          dataText entry.1 (Text.textBytes entry.2))).map some := by
    rw [List.map_cons, List.map_cons, Option.map_some, byteText_secretHeader, texts, List.map_map,
      List.map_map, List.map_map]
    refine congrArg _ (List.map_congr_left ?_)
    intro pair member
    exact dataLine_text (named_sorted named pair member)
      (encodable_sorted.mpr written pair member)
  rcases printed_texts lines with ⟨ended, output⟩
  refine ⟨ended, output.trans ?_⟩
  rw [List.flatMap_cons, List.append_assoc]
  rfl

theorem readSecret_k8s (name : List Char) (named : Named pairs)
    (written : Encodable .strict pairs) : readSecret (k8s name pairs).output =
      some ((texts .strict (Python.sorted pairs)).map (fun entry =>
        (entry.1, Text.textBytes entry.2))) := by
  have entriesNamed : forall entry, entry ∈ texts .strict (Python.sorted pairs) ->
      isName entry.1 = true := (named_sorted named).texts
  rcases readLines_header (Text.byteText (Text.utf8 name)) (((texts .strict
    (Python.sorted pairs)).map (fun entry => dataText entry.1 (Text.textBytes entry.2))).flatMap
      (fun text => text ++ ['\n'])) with ⟨before, header⟩
  have output := (k8s_encodable name named written).2
  rw [Run.text] at output
  rw [readSecret, output, header, PosixShell.readLines_lines, dataLines_append]
  · apply Fallible.mapM_map_some
    intro entry member
    exact readEntry_dataText (entriesNamed entry member) _
  · intro member
    rcases List.mem_map.mp member with ⟨entry, _, same⟩
    exact dataText_ne_dataKey _ _ same
  · intro line member
    rcases List.mem_map.mp member with ⟨entry, present, rfl⟩
    exact newline_not_mem_dataText (entriesNamed entry present) _

/-- The last value of every name is the greatest of its values. -/
def LastGreatest (pairs : List (List Char × List CodePoint)) : Prop :=
  forall name last, Assignments.lastValue pairs name = some last ->
    forall value, (name, value) ∈ pairs -> Python.strLe value last

theorem lastValue_sorted_iff (name : List Char) :
    Assignments.lastValue (Python.sorted pairs) name = Assignments.lastValue pairs name ↔
      forall last, Assignments.lastValue pairs name = some last ->
        forall value, (name, value) ∈ pairs -> Python.strLe value last := by
  have ordered : (Assignments.values (Python.sorted pairs) name).Pairwise Python.strLe := by
    apply List.pairwise_map.mpr
    have kept := (Python.sorted_pairwise pairs).sublist
      (List.filter_sublist (p := fun pair => decide (pair.1 = name)))
    apply kept.imp_of_mem
    intro left right inLeft inRight below
    have leftName := of_decide_eq_true (List.mem_filter.mp inLeft).2
    have rightName := of_decide_eq_true (List.mem_filter.mp inRight).2
    rcases below with less | ⟨_, under⟩
    · rw [leftName, rightName] at less
      exact absurd less (lt_irrefl _)
    · exact under
  have last := Assignments.getLast?_sorted_iff Python.strLe_refl
    (fun _ _ => Python.strLe_antisymm)
    (Assignments.values_perm (Python.sorted_perm pairs) name) ordered
  simp only [Assignments.mem_values] at last
  exact last

theorem lastBytes_eq_iff {left right : List (List Char × List CodePoint)}
    (leftWritten : Encodable .strict left) (rightWritten : Encodable .strict right)
    (name : List Char) :
    lastBytes left name = lastBytes right name ↔
      Assignments.lastValue left name = Assignments.lastValue right name := by
  constructor
  · intro same
    unfold lastBytes at same
    cases first : Assignments.lastValue left name with
    | none =>
        cases second : Assignments.lastValue right name with
        | none => rfl
        | some value =>
            rw [first, second, Option.bind_none, Option.bind_some] at same
            have written := rightWritten _ (mem_of_lastValue second)
            rw [← same] at written
            cases written
    | some value =>
        rcases Option.isSome_iff_exists.mp (leftWritten _ (mem_of_lastValue first)) with
          ⟨bytes, encoded⟩
        rw [first, Option.bind_some, encoded] at same
        rcases Option.bind_eq_some_iff.mp same.symm with ⟨other, second, otherEncoded⟩
        have equal : value = other := encode_strict_injective encoded otherEncoded
        rw [second, equal]
  · intro same
    rw [lastBytes, lastBytes, same]

theorem k8s_denotes_iff (name : List Char) (named : Named pairs)
    (written : Encodable .strict pairs) :
    Denotes pairs readSecret (k8s name pairs) ↔ LastGreatest pairs := by
  have read := readSecret_k8s name named written
  have sortedWritten : Encodable .strict (Python.sorted pairs) := encodable_sorted.mpr written
  have greatest : LastGreatest pairs ↔ forall key, lastBytes (Python.sorted pairs) key =
      lastBytes pairs key := by
    refine forall_congr' (fun key => ?_)
    rw [lastBytes_eq_iff sortedWritten written, lastValue_sorted_iff]
  rw [greatest]
  constructor
  · rintro ⟨_, entries, found, same⟩ key
    rw [read, Option.some.injEq] at found
    rw [← same key, ← found, environment_texts .strict sortedWritten]
  · intro same
    refine ⟨(k8s_encodable name named written).1, _, read, ?_⟩
    intro key
    rw [environment_texts .strict sortedWritten]
    exact same key

/-! ## The three modes -/

/-- The env-file mode refuses the pairs with its own message. -/
def NewlineExit (run : Run) : Prop :=
  Exists fun bad => run.failure = some (.exit (newlineMessage bad))

/-- Unless the env file cannot be written, the three outputs are read as the
last values of the stream, and the env-file mode fails exactly on a value with
a line feed or a carriage return. -/
def ModesAgree (python : Interpreter) (stream secret : List Char)
    (pairs : List (List Char × List CodePoint)) : Prop :=
  (Not (NewlineExit (main python ["envfile".toList] stream)) ->
    Denotes pairs readShell (main python ["shell".toList] stream) ∧
    Denotes pairs readEnvfile (main python ["envfile".toList] stream) ∧
    Denotes pairs readSecret (main python ["k8s".toList, secret] stream)) ∧
  ((main python ["envfile".toList] stream).failure.isSome = true ↔
    Exists fun pair => pair ∈ pairs ∧
      (Python.ofChar '\n' ∈ pair.2 ∨ Python.ofChar '\r' ∈ pair.2))

theorem lineBreak_eq_true_iff (value : List CodePoint) : lineBreak value = true ↔
    Python.ofChar '\n' ∈ value ∨ Python.ofChar '\r' ∈ value := by
  rw [lineBreak, Bool.or_eq_true, List.contains_iff_mem, List.contains_iff_mem]

theorem not_unbroken_iff : Not (Unbroken pairs) ↔ Exists fun pair => pair ∈ pairs ∧
    (Python.ofChar '\n' ∈ pair.2 ∨ Python.ofChar '\r' ∈ pair.2) := by
  simp only [Unbroken, not_forall, Bool.not_eq_false, lineBreak_eq_true_iff, exists_prop]

theorem newlineExit_iff : NewlineExit (envfile errors pairs) ↔ Not (Unbroken pairs) := by
  constructor
  · rintro ⟨bad, failed⟩ unbroken
    rw [envfile_unbroken unbroken] at failed
    unfold printed at failed
    split at failed
    · cases failed
    · cases failed
  · intro broken
    refine ⟨_, congrArg Run.failure (if_neg (fun empty => broken (bad_isEmpty_iff.mp empty)))⟩

/-- Whatever the standard output does with a surrogate, the modes agree exactly
when the env file cannot be written for a line break, or no value holds a
surrogate and the last value of every name is the greatest of its values. -/
theorem modes_agree_iff (python : Interpreter) (stream secret : List Char)
    {pairs : List (List Char × List CodePoint)} (parsed : parse python.names stream = some pairs) :
    ModesAgree python stream secret pairs ↔
      (Exists fun pair => pair ∈ pairs ∧
        (Python.ofChar '\n' ∈ pair.2 ∨ Python.ofChar '\r' ∈ pair.2)) ∨
      (Encodable .strict pairs ∧ LastGreatest pairs) := by
  have named := parse_named parsed
  have shellRun : main python ["shell".toList] stream = shell python.errors pairs :=
    main_of_parse parsed .shell (by decide) []
  have envfileRun : main python ["envfile".toList] stream = envfile python.errors pairs :=
    main_of_parse parsed .envfile (by decide) []
  have k8sRun : main python ["k8s".toList, secret] stream = k8s secret pairs :=
    main_of_parse parsed .k8s (by decide) [secret]
  rw [ModesAgree, shellRun, envfileRun, k8sRun, newlineExit_iff, ← not_unbroken_iff]
  by_cases unbroken : Unbroken pairs
  · constructor
    · rintro ⟨denote, _⟩
      rcases denote (not_not_intro unbroken) with ⟨_, _, k8sDenotes⟩
      -- The secret is encoded strictly under every handler.
      have written : Encodable .strict pairs := by
        by_contra unwritten
        have failed := k8sDenotes.1
        rw [k8s_failure secret unwritten] at failed
        cases failed
      exact Or.inr ⟨written, (k8s_denotes_iff secret named written).mp k8sDenotes⟩
    · rintro (broken | ⟨written, greatest⟩)
      · exact absurd unbroken broken
      · have envfileDenotes := envfile_denotes python.errors named written unbroken
        refine ⟨fun _ => ⟨shell_denotes named written, envfileDenotes,
          (k8s_denotes_iff secret named written).mpr greatest⟩, ?_⟩
        rw [envfileDenotes.1]
        exact ⟨fun failed => absurd failed (by decide), fun broken => absurd unbroken broken⟩
  · rcases envfile_broken python.errors unbroken with ⟨message, exits⟩
    refine ⟨fun _ => Or.inl unbroken, fun _ => ⟨fun readable => absurd unbroken readable, ?_⟩⟩
    rw [exits]
    exact ⟨fun _ => unbroken, fun _ => rfl⟩

/-! ## Two streams -/

theorem encodable_of_tested
    (tested : pairs.all (fun pair => (Python.encode errors pair.2).isSome) = true) :
    Encodable errors pairs :=
  fun pair member => List.all_eq_true.mp tested pair member

theorem lastGreatest_of_tested
    (tested : pairs.all (fun pair => (Assignments.lastValue pairs pair.1).all (fun last =>
      decide (Python.strLe pair.2 last))) = true) : LastGreatest pairs := by
  intro name last found value member
  have below := List.all_eq_true.mp tested (name, value) member
  rw [found] at below
  exact of_decide_eq_true below

/-- No character has a name here. -/
def unnamed : List UInt8 -> Option CodePoint := fun _ => none

/-- An interpreter whose standard output is strict. -/
def strictPython : Interpreter where
  names := unnamed
  ascii := fun _ _ found => by cases found
  errors := .strict

/-- An unquoted, a double-quoted and a single-quoted value. -/
def quotedStream : List Char := "A=1\nexport B=\"x\\ty=\"\nA='it's'\n".toList

def quotedPairs : List (List Char × List CodePoint) :=
  [("A".toList, Python.ofChars "1".toList), ("B".toList, Python.ofChars "x\ty=".toList),
    ("A".toList, Python.ofChars "it's".toList)]

theorem quotedStream_modes_agree : parse unnamed quotedStream = some quotedPairs ∧
    ModesAgree strictPython quotedStream "app-env".toList quotedPairs := by
  have parsed : parse unnamed quotedStream = some quotedPairs := by decide +kernel
  exact ⟨parsed, (modes_agree_iff strictPython quotedStream _ parsed).mpr
    (Or.inr ⟨encodable_of_tested (by decide +kernel), lastGreatest_of_tested (by decide +kernel)⟩)⟩

/-- The second value of the name is the smaller one. -/
def repeatedStream : List Char := "K=b\nK=a\n".toList

def repeatedPairs : List (List Char × List CodePoint) :=
  [("K".toList, Python.ofChars "b".toList), ("K".toList, Python.ofChars "a".toList)]

/-- The shell and the env file give `a`, and the secret gives `b`. -/
theorem repeated_name_modes_differ :
    parse unnamed repeatedStream = some repeatedPairs ∧
    (main strictPython ["envfile".toList] repeatedStream).failure = none ∧
    ((readShell (main strictPython ["shell".toList] repeatedStream).output).map environment).map
      (fun found => found "K".toList) = some (some (Text.utf8 "a".toList)) ∧
    ((readSecret (main strictPython ["k8s".toList] repeatedStream).output).map environment).map
      (fun found => found "K".toList) = some (some (Text.utf8 "b".toList)) ∧
    Not (ModesAgree strictPython repeatedStream "app-env".toList repeatedPairs) := by
  have parsed : parse unnamed repeatedStream = some repeatedPairs := by decide +kernel
  refine ⟨parsed, by decide +kernel, by decide +kernel, by decide +kernel, ?_⟩
  intro agree
  have k8sRun : main strictPython ["k8s".toList, "app-env".toList] repeatedStream =
      k8s "app-env".toList repeatedPairs := main_of_parse parsed .k8s (by decide) ["app-env".toList]
  have denotes := (agree.1 (by
    rintro ⟨bad, failed⟩
    rw [show (main strictPython ["envfile".toList] repeatedStream).failure = none by decide +kernel]
      at failed
    cases failed)).2.2
  rw [k8sRun, k8s_denotes_iff _ (parse_named parsed) (encodable_of_tested (by decide +kernel))]
    at denotes
  have below := denotes "K".toList (Python.ofChars "a".toList) (by decide +kernel)
    (Python.ofChars "b".toList) (by decide +kernel)
  exact absurd below (by decide +kernel)

end Dotenv
end EmbeddedAlerts
