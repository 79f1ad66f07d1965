import EmbeddedAlerts.Dotenv.Entrypoint
import EmbeddedAlerts.Dotenv.Modes

namespace EmbeddedAlerts
namespace Dotenv

open Python (CodePoint)
open Entrypoint (Shell)

/-!
# Two loaders of one text

`env-run` evaluates the shell output of `dotenv.py`; the container's entrypoint
has a loop of its own.  Both start from an empty environment, in which a shell
has set some variables by itself and exported some of them.  A shell looks at
bytes, so this is where the two are compared.

The first takes the last line that assigns a name, removes its quotes and
expands its escapes.  The second takes the first line and keeps it as it is,
except for a single `=` at its end, and passes over a name that is set already.
So they agree exactly on the texts in which, for every name, these two lines
stand together and carry one value.
-/

/-- The assignments of a stream, as they are written. -/
def assignments (stream : List Char) : List (List Char × List Char) :=
  (Python.lines stream).filterMap assignment

/-- The environment after a list of exports. -/
def exported (start : Entrypoint.Variables) (entries : List (List Char × List Char)) :
    List Char -> Option (List Char) :=
  Entrypoint.environment (entries.foldl (fun state entry =>
    Entrypoint.exportVariable state entry.1 entry.2) start)

/-- What is printed of an assignment as it is written, unless an escape is
malformed or the value cannot be written. -/
def printedValue (python : Interpreter) (raw : List Char) : Option (List Char) :=
  (unquote python.names raw).bind (Python.encodedText python.errors)

theorem parseLines_eq (names : List UInt8 -> Option CodePoint) (lines : List (List Char)) :
    parseLines names lines = (lines.filterMap assignment).mapM (fun entry =>
      (unquote names entry.2).map (fun value => (entry.1, value))) := by
  induction lines with
  | nil => rfl
  | cons line rest ih =>
      rw [parseLines, List.filterMap_cons]
      cases assignment line with
      | none => exact ih
      | some entry =>
          rcases entry with ⟨name, raw⟩
          simp only [List.mapM_cons, ← ih]
          cases unquote names raw with
          | none => rfl
          | some value =>
              cases parseLines names rest with
              | none => rfl
              | some later => rfl

/-- The value of an assignment that decodes. -/
def unquoted (names : List UInt8 -> Option CodePoint) (raw : List Char) : List CodePoint :=
  (unquote names raw).getD []

/-- Every assignment decodes and can be written. -/
def Decodes (python : Interpreter) (stream : List Char) : Prop :=
  forall name raw, (name, raw) ∈ assignments stream -> (printedValue python raw).isSome = true

section

variable {python : Interpreter} {stream : List Char}

/-- The pairs of a stream that decodes. -/
def decodedPairs (names : List UInt8 -> Option CodePoint) (stream : List Char) :
    List (List Char × List CodePoint) :=
  (assignments stream).map (fun entry => (entry.1, unquoted names entry.2))

theorem unquote_of_printed {raw : List Char} (printed : (printedValue python raw).isSome = true) :
    unquote python.names raw = some (unquoted python.names raw) ∧
      (Python.encode python.errors (unquoted python.names raw)).isSome = true := by
  rcases Option.isSome_iff_exists.mp printed with ⟨text, found⟩
  rcases Option.bind_eq_some_iff.mp found with ⟨points, same, written⟩
  rcases Option.map_eq_some_iff.mp written with ⟨bytes, encoded, _⟩
  rw [unquoted, same, Option.getD_some, encoded]
  exact ⟨rfl, rfl⟩

theorem Decodes.parse (decodes : Decodes python stream) :
    parse python.names stream = some (decodedPairs python.names stream) := by
  rw [Dotenv.parse, parseLines_eq]
  apply Fallible.mapM_some
  intro entry member
  rw [(unquote_of_printed (decodes entry.1 entry.2 member)).1]
  rfl

end

/-! ## Agreement -/

section

variable {shell : EmptyShell} {name : List Char}

end

end Dotenv
end EmbeddedAlerts
