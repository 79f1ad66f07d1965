import EmbeddedAlerts.Dotenv.Modes

namespace EmbeddedAlerts
namespace Dotenv

open Python (CodePoint)
open PosixShell (isName)

/-!
# The shell output under `eval`

`env-run` evaluates what the program prints, with the secrets in scope.  A shell
that reads the printed bytes finds the exports of the pairs and no operator,
expansion or further word, whatever the values hold: the value stands in single
quotes, and a quote in it is closed, escaped and opened again.

An escape can write a surrogate into a value.  Printing raises there, unless
the standard output writes this surrogate as a byte, so the shell finds the
exports of the pairs before it only.
-/

/-- A printed text and its substitution are read as these exports and nothing
else. -/
def Evaluates (output : List Char) (entries : List (List Char × List Char)) : Prop :=
  PosixShell.commands output = some (entries.map PosixShell.exportWords) ∧
    PosixShell.commands (PosixShell.commandSubstitution output) =
      some (entries.map PosixShell.exportWords)

/-- The pairs with the bytes of their values, if all can be written. -/
def encodedPairs (errors : Python.Errors) (pairs : List (List Char × List CodePoint)) :
    Option (List (List Char × List Char)) :=
  pairs.mapM (fun pair => (Python.encodedText errors pair.2).map (fun value => (pair.1, value)))

/-- No value holds a null character. -/
def NullFree (pairs : List (List Char × List CodePoint)) : Prop :=
  forall pair, pair ∈ pairs -> Python.ofChar '\x00' ∉ pair.2

/-- No value holds a surrogate, apart from those that are written as bytes. -/
def SurrogateFree (errors : Python.Errors) (pairs : List (List Char × List CodePoint)) : Prop :=
  forall pair, pair ∈ pairs -> forall point, point ∈ pair.2 ->
    Not point.surrogate ∨ Python.Escaped errors point

variable {errors : Python.Errors} {pairs : List (List Char × List CodePoint)}

theorem encodable_iff_surrogateFree : Encodable errors pairs ↔ SurrogateFree errors pairs :=
  forall_congr' (fun pair => imp_congr_right (fun _ => Python.encode_isSome_iff errors pair.2))

theorem encodedPairs_eq (written : Encodable errors pairs) :
    encodedPairs errors pairs = some (texts errors pairs) := by
  refine Fallible.mapM_some ?_
  intro pair member
  rw [encodedText_valueText (written pair member)]
  rfl

theorem encodable_of_encodedPairs {entries : List (List Char × List Char)}
    (encoded : encodedPairs errors pairs = some entries) : Encodable errors pairs := by
  intro pair member
  rcases Fallible.exists_of_mapM_some encoded member with ⟨entry, _, found⟩
  rcases Option.map_eq_some_iff.mp found with ⟨value, written, _⟩
  rcases Option.map_eq_some_iff.mp written with ⟨bytes, same, _⟩
  rw [same]
  rfl

/-! ## What the shell reads -/

/-- Without null characters a substitution changes no value. -/
theorem cleaned_texts (written : Encodable errors pairs) (solid : NullFree pairs) :
    (texts errors pairs).map PosixShell.cleaned = texts errors pairs := by
  refine (List.map_congr_left ?_).trans (List.map_id (texts errors pairs))
  intro entry member
  rcases List.mem_map.mp member with ⟨pair, present, rfl⟩
  have clean : '\x00' ∉ valueText errors pair.2 := by
    rw [Python.mem_encodedText_iff (by decide) (encodedText_valueText (written pair present))]
    exact solid pair present
  change (pair.1, PosixShell.dropNull (valueText errors pair.2)) = _
  rw [PosixShell.dropNull_eq_self clean]
  rfl

theorem shell_evaluates (named : Named pairs) (written : Encodable errors pairs)
    (solid : NullFree pairs) : Evaluates (shell errors pairs).text (texts errors pairs) := by
  rw [(shell_encodable named written).2]
  constructor
  · exact PosixShell.commands_exportLines named.texts
  · rw [PosixShell.commands_substitution named.texts, cleaned_texts written solid]

/-- The pairs before the first one that cannot be written. -/
def writable (errors : Python.Errors) (pairs : List (List Char × List CodePoint)) :
    List (List Char × List CodePoint) :=
  pairs.takeWhile (fun pair => (Python.encode errors pair.2).isSome)

theorem writable_begins (errors : Python.Errors) (pairs : List (List Char × List CodePoint)) :
    writable errors pairs <+: pairs :=
  List.takeWhile_prefix _

theorem encodable_writable (errors : Python.Errors) (pairs : List (List Char × List CodePoint)) :
    Encodable errors (writable errors pairs) := by
  intro pair member
  have written := List.mem_takeWhile_imp member
  exact written

theorem shell_output_writable (named : Named pairs) :
    (shell errors pairs).output = (shell errors (writable errors pairs)).output := by
  refine Python.printAll_takeWhile ?_
  intro pair member
  have line := congrArg Option.isSome (shellLine_spelled errors pair (named pair member))
  rw [Option.isSome_map, Python.encodedText, Python.encodedText, Option.isSome_map,
    Option.isSome_map] at line
  exact line.symm

/-- What a run prints is read as exports of an initial part of the pairs. -/
theorem shell_evaluates_writable (named : Named pairs) (solid : NullFree pairs) :
    Evaluates (shell errors pairs).text (texts errors (writable errors pairs)) := by
  have earlier := (writable_begins errors pairs).subset
  rw [Run.text, shell_output_writable named]
  exact shell_evaluates (fun pair member => named pair (earlier member))
    (encodable_writable errors pairs) (fun pair member => solid pair (earlier member))

theorem main_shell {python : Interpreter} {stream : List Char} {arguments : List (List Char)}
    (mode : arguments.head?.getD "shell".toList = "shell".toList)
    (parsed : parse python.names stream = some pairs) :
    main python arguments stream = shell python.errors pairs := by
  have known : modeNames.lookup "shell".toList = some .shell := by decide
  simp only [main, mode, known, parsed]
  rfl

/-- The printed text never is anything but exports of pairs in order, and it is
all of them exactly when no value holds a surrogate that cannot be written. -/
theorem shell_output_exact_iff {python : Interpreter} {stream : List Char}
    {arguments : List (List Char)} (mode : arguments.head?.getD "shell".toList = "shell".toList)
    (parsed : parse python.names stream = some pairs) (solid : NullFree pairs) :
    (Exists fun initial => Exists fun entries => initial <+: pairs ∧
      encodedPairs python.errors initial = some entries ∧
      Evaluates (main python arguments stream).text entries) ∧
    ((Exists fun entries => encodedPairs python.errors pairs = some entries ∧
      Evaluates (main python arguments stream).text entries) ↔
        SurrogateFree python.errors pairs) := by
  have named := parse_named parsed
  rw [main_shell mode parsed]
  constructor
  · exact ⟨writable python.errors pairs, _, writable_begins _ _,
      encodedPairs_eq (encodable_writable _ _), shell_evaluates_writable named solid⟩
  · rw [← encodable_iff_surrogateFree]
    constructor
    · rintro ⟨entries, encoded, _⟩
      exact encodable_of_encodedPairs encoded
    · intro written
      exact ⟨_, encodedPairs_eq written, shell_evaluates named written solid⟩

theorem nullFree_of_tested
    (tested : pairs.all (fun pair => !pair.2.contains (Python.ofChar '\x00')) = true) :
    NullFree pairs := by
  intro pair member null
  have clear := List.all_eq_true.mp tested pair member
  rw [List.contains_iff_mem.mpr null] at clear
  cases clear

/-- An interpreter whose standard output writes some surrogates as bytes. -/
def escapingPython : Interpreter := { strictPython with errors := .surrogateescape }

/-- Quotes of both kinds, an operator and an expansion in one value, and a
surrogate that stands for a byte in another. -/
def hostileStream : List Char := "K=';'$(id)`id`\nL=\"\\udc80'\"\n".toList

def hostilePairs : List (List Char × List CodePoint) :=
  [("K".toList, Python.ofChars "';'$(id)`id`".toList),
    ("L".toList, [⟨0xdc80, by decide⟩, Python.ofChar '\''])]

theorem hostileStream_exported : parse unnamed hostileStream = some hostilePairs ∧
    Exists fun entries => encodedPairs .surrogateescape hostilePairs = some entries ∧
      Evaluates (main escapingPython ["shell".toList] hostileStream).text entries := by
  have parsed : parse unnamed hostileStream = some hostilePairs := by decide +kernel
  have solid : NullFree hostilePairs := nullFree_of_tested (by decide +kernel)
  have written : Encodable escapingPython.errors hostilePairs :=
    encodable_of_tested (by decide +kernel)
  exact ⟨parsed, (shell_output_exact_iff rfl parsed solid).2.mpr
    (encodable_iff_surrogateFree.mp written)⟩

/-- The second value is one surrogate, and it stands for no byte. -/
def surrogateStream : List Char := "A=1\nK=\"\\ud800\"\nB=2\n".toList

def surrogatePairs : List (List Char × List CodePoint) :=
  [("A".toList, Python.ofChars "1".toList), ("K".toList, [⟨0xd800, by decide⟩]),
    ("B".toList, Python.ofChars "2".toList)]

/-- Printing stops at the surrogate, and the shell finds the first export only,
whatever the standard output does. -/
theorem surrogate_ends_exports : parse unnamed surrogateStream = some surrogatePairs ∧
    NullFree surrogatePairs ∧
    forall python, python = strictPython ∨ python = escapingPython ->
      PosixShell.commands (main python ["shell".toList] surrogateStream).text =
        some [["export".toList, "A=1".toList]] ∧
      Not (Exists fun entries => encodedPairs python.errors surrogatePairs = some entries ∧
        Evaluates (main python ["shell".toList] surrogateStream).text entries) := by
  refine ⟨by decide +kernel, nullFree_of_tested (by decide +kernel), ?_⟩
  rintro python (rfl | rfl)
  · refine ⟨by decide +kernel, ?_⟩
    rintro ⟨entries, encoded, _⟩
    have none : encodedPairs strictPython.errors surrogatePairs = none := by decide +kernel
    cases none.symm.trans encoded
  · refine ⟨by decide +kernel, ?_⟩
    rintro ⟨entries, encoded, _⟩
    have none : encodedPairs escapingPython.errors surrogatePairs = none := by decide +kernel
    cases none.symm.trans encoded

end Dotenv
end EmbeddedAlerts
