import EmbeddedAlerts.Library.Assignments
import EmbeddedAlerts.Library.Base64
import EmbeddedAlerts.Library.PosixShell
import EmbeddedAlerts.Library.Python
import EmbeddedAlerts.Library.Text

namespace EmbeddedAlerts
namespace Dotenv

open Python (CodePoint)
open PosixShell (isName isNameCharacter)

/-!
# The decrypted stream and its three formats

`dotenv.py` reads the decrypted stream line by line, takes the assignments out
of it, removes their quotes, and prints the pairs for a shell, for an env file
or as a Kubernetes secret.

The table of Unicode character names belongs to the interpreter and is a
parameter, and so is the error handler of its standard output.  Names are
letters, digits and underscores; values may be any string that an escape can
write, a surrogate included.  The stream is UTF-8 text.
-/

/-- `re.match(r"^([A-Za-z_][A-Za-z0-9_]*)=(.*)$", line)`, with its groups. -/
def matchAssignment (line : List Char) : Option (List Char × List Char) :=
  match line.dropWhile isNameCharacter with
  | '=' :: value =>
      let name := line.takeWhile isNameCharacter
      if isName name && !value.contains '\n' then some (name, value) else none
  | _ => none

def exportPrefix : List Char := "export ".toList

/-- sops' own trailing metadata rows. -/
def sopsPrefix : List Char := "sops_".toList

/-- The assignment of one line, unless the line is passed over. -/
def assignment (line : List Char) : Option (List Char × List Char) :=
  let line := Python.rstripNewline line
  if (Python.strip line).isEmpty || (Python.lstrip line).head? == some '#' then none
  else
    let line := if exportPrefix.isPrefixOf line then line.drop exportPrefix.length else line
    match matchAssignment line with
    | none => none
    | some (name, value) => if sopsPrefix.isPrefixOf name then none else some (name, value)

/-- At least two characters, the first and the last of them this quote. -/
def quotedBy (quote : Char) (value : List Char) : Bool :=
  decide (2 ≤ value.length) && value.head? == some quote && value.getLast? == some quote

/-- `v[1:-1]`. -/
def inner (value : List Char) : List Char := (value.drop 1).dropLast

/-- The value that an assignment stands for.  A malformed escape raises. -/
def unquote (names : List UInt8 -> Option CodePoint) (value : List Char) :
    Option (List CodePoint) :=
  if quotedBy '"' value then Python.unicodeEscape names (Text.utf8 (inner value))
  else if quotedBy '\'' value then some (Python.ofChars (inner value))
  else some (Python.ofChars value)

def parseLines (names : List UInt8 -> Option CodePoint) :
    List (List Char) -> Option (List (List Char × List CodePoint))
  | [] => some []
  | line :: rest =>
      match assignment line with
      | none => parseLines names rest
      | some (name, value) => (unquote names value).bind (fun unquoted =>
          (parseLines names rest).map (fun later => (name, unquoted) :: later))

/-- `parse(sys.stdin)`. -/
def parse (names : List UInt8 -> Option CodePoint) (stream : List Char) :
    Option (List (List Char × List CodePoint)) :=
  parseLines names (Python.lines stream)

/-! ## The program -/

inductive Failure where
  | exit (message : List Char)
  | unicodeDecodeError
  | unicodeEncodeError
deriving DecidableEq

/-- What a run writes to its standard output, and how it fails if it does. -/
structure Run where
  output : List UInt8
  failure : Option Failure
deriving DecidableEq

/-- The output as a program sees it that looks at bytes. -/
def Run.text (run : Run) : List Char := Text.byteText run.output

/-- What the program finds in its interpreter: the names of characters, which
are ASCII, and what its standard output does with a surrogate. -/
structure Interpreter where
  names : List UInt8 -> Option CodePoint
  ascii : Python.AsciiNames names
  errors : Python.Errors

inductive Mode where
  | shell
  | envfile
  | k8s
deriving DecidableEq

def modeNames : List (List Char × Mode) :=
  [("shell".toList, .shell), ("envfile".toList, .envfile), ("k8s".toList, .k8s)]

def usageMessage : List Char := "dotenv.py: mode must be one of shell, envfile, k8s".toList

/-- `", ".join(bad)` and the advice that follows it. -/
def newlineMessage (bad : List (List Char)) : List Char :=
  "dotenv.py: ".toList ++ ", ".toList.intercalate bad ++
    (" contain newlines, which docker --env-file cannot\n" ++
      "represent — it would keep the first line and drop the rest.\n" ++
      "Use `just env-run <env> <cmd>` or `just env-k8s-secret <env>`,\n" ++
      "or store the value single-line (e.g. base64).").toList

/-- Printing stops at the first string that cannot be encoded. -/
def printed (lines : List (Option (List UInt8))) : Run where
  output := (Python.printAll lines).1
  failure := if (Python.printAll lines).2 then none else some .unicodeEncodeError

/-- `v.replace("'", "'\\''")`. -/
def replaceQuotes (value : List CodePoint) : List CodePoint :=
  value.flatMap (fun point =>
    if point = Python.ofChar '\'' then Python.ofChars "'\\''".toList else [point])

def shellLine (pair : List Char × List CodePoint) : List CodePoint :=
  Python.ofChars "export ".toList ++ Python.ofChars pair.1 ++ Python.ofChars "='".toList ++
    replaceQuotes pair.2 ++ Python.ofChars "'".toList

def shell (errors : Python.Errors) (pairs : List (List Char × List CodePoint)) : Run :=
  printed (pairs.map (fun pair => Python.encode errors (shellLine pair)))

/-- A line feed or a carriage return. -/
def lineBreak (value : List CodePoint) : Bool :=
  value.contains (Python.ofChar '\n') || value.contains (Python.ofChar '\r')

def envfileLine (pair : List Char × List CodePoint) : List CodePoint :=
  Python.ofChars pair.1 ++ Python.ofChars "=".toList ++ pair.2

def envfile (errors : Python.Errors) (pairs : List (List Char × List CodePoint)) : Run :=
  let bad := (pairs.filter (fun pair => lineBreak pair.2)).map Prod.fst
  if bad.isEmpty then printed (pairs.map (fun pair => Python.encode errors (envfileLine pair)))
  else ⟨[], some (.exit (newlineMessage bad))⟩

def secretOpening : List Char := "apiVersion: v1\nkind: Secret\nmetadata:\n  name: ".toList

def secretClosing : List Char := "\ntype: Opaque\ndata:".toList

def secretHeader (name : List Char) : List Char := secretOpening ++ name ++ secretClosing

/-- One entry of the secret: two blanks, the name, and the encoded value.
`v.encode()` is strict, whatever the standard output does. -/
def dataLine (pair : List Char × List CodePoint) : Option (List UInt8) :=
  (Python.chars pair.2).map (fun value => Text.utf8
    ("  ".toList ++ pair.1 ++ ": ".toList ++ Base64.encode (Text.utf8 value)))

def k8s (name : List Char) (pairs : List (List Char × List CodePoint)) : Run :=
  printed (some (Text.utf8 (secretHeader name)) :: (Python.sorted pairs).map dataLine)

def runMode (errors : Python.Errors) (name : List Char)
    (pairs : List (List Char × List CodePoint)) : Mode -> Run
  | .shell => shell errors pairs
  | .envfile => envfile errors pairs
  | .k8s => k8s name pairs

/-- `main` with `sys.argv[1:]`. -/
def main (python : Interpreter) (arguments : List (List Char)) (stream : List Char) : Run :=
  match modeNames.lookup (arguments.head?.getD "shell".toList) with
  | none => ⟨[], some (.exit usageMessage)⟩
  | some mode =>
      match parse python.names stream with
      | none => ⟨[], some .unicodeDecodeError⟩
      | some pairs => runMode python.errors (arguments[1]?.getD "app-env".toList) pairs mode

/-! ## What parse accepts -/

/-- Every name of the pairs is a variable name. -/
def Named (pairs : List (List Char × List CodePoint)) : Prop :=
  forall pair, pair ∈ pairs -> isName pair.1 = true

theorem isName_of_matchAssignment {line name value : List Char}
    (matched : matchAssignment line = some (name, value)) : isName name = true := by
  simp only [matchAssignment] at matched
  split at matched
  · split at matched
    · next tested =>
        cases matched
        exact (Bool.and_eq_true_iff.mp tested).1
    · cases matched
  · cases matched

theorem isName_of_assignment {line name value : List Char}
    (assigned : assignment line = some (name, value)) : isName name = true := by
  simp only [assignment] at assigned
  split at assigned
  · cases assigned
  · split at assigned
    · cases assigned
    · next matched =>
        split at assigned
        · cases assigned
        · cases assigned
          exact isName_of_matchAssignment matched

theorem parseLines_named {names : List UInt8 -> Option CodePoint} {lines : List (List Char)}
    {pairs : List (List Char × List CodePoint)} (parsed : parseLines names lines = some pairs) :
    Named pairs := by
  induction lines generalizing pairs with
  | nil =>
      cases parsed
      exact fun _ absent => absurd absent List.not_mem_nil
  | cons line rest ih =>
      rw [parseLines] at parsed
      cases assigned : assignment line with
      | none =>
          rw [assigned] at parsed
          exact ih parsed
      | some found =>
          rw [assigned] at parsed
          rcases Option.bind_eq_some_iff.mp parsed with ⟨unquoted, _, parsed⟩
          rcases Option.map_eq_some_iff.mp parsed with ⟨later, parsedRest, rfl⟩
          intro pair member
          rcases List.mem_cons.mp member with rfl | inRest
          · exact isName_of_assignment assigned
          · exact ih parsedRest pair inRest

theorem parse_named {names : List UInt8 -> Option CodePoint} {stream : List Char}
    {pairs : List (List Char × List CodePoint)} (parsed : parse names stream = some pairs) :
    Named pairs :=
  parseLines_named parsed

theorem main_of_parse {python : Interpreter} {stream : List Char}
    {pairs : List (List Char × List CodePoint)} (parsed : parse python.names stream = some pairs)
    (chosen : Mode) {mode : List Char} (known : modeNames.lookup mode = some chosen)
    (rest : List (List Char)) : main python (mode :: rest) stream =
      runMode python.errors (rest[0]?.getD "app-env".toList) pairs chosen := by
  simp only [main, List.head?_cons, Option.getD_some, known, parsed, List.getElem?_cons_succ]

end Dotenv
end EmbeddedAlerts
