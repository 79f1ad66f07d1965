import EmbeddedAlerts.Dotenv.Parse

namespace EmbeddedAlerts
namespace Entrypoint

open PosixShell (isNameCharacter isDigit)

/-!
# The loop of the container entrypoint

`sops-entrypoint.sh` reads the decrypted text line by line with `read`, passes
over the lines without a usable name and exports the others, unless the name is
set already.

Set already are also the variables of the script itself and those that the
shell sets when it starts.  `read` assigns `key` and `value` before each test,
so these two names are never exported, and the loop does to every other name
what supplying the first value does.

A shell takes most of its environment over as exported variables.  But it drops
the names that are no identifiers, resets some variables, and sets and exports
others, such as `PWD`.  Which names it treats so depends on the shell.
-/

/-- The variables that are set: their value, and whether they are exported. -/
abbrev Variables := List Char -> Option (List Char × Bool)

def isExported (state : Variables) (name : List Char) : Bool :=
  ((state name).map Prod.snd).getD false

/-- An assignment keeps the export attribute. -/
def assign (state : Variables) (name value : List Char) : Variables :=
  Assignments.override state (name, (value, isExported state name))

/-- `export "$name=$value"`. -/
def exportVariable (state : Variables) (name value : List Char) : Variables :=
  Assignments.override state (name, (value, true))

def unset (state : Variables) (name : List Char) : Variables :=
  fun other => if name = other then none else state other

/-- What a command started by the shell gets. -/
def environment (state : Variables) (name : List Char) : Option (List Char) :=
  ((state name).filter Prod.snd).map Prod.fst

/-- `'' | '#'* | sops_*`. -/
def passedOver (key : List Char) : Bool :=
  key.isEmpty || key.head? == some '#' || Dotenv.sopsPrefix.isPrefixOf key

/-- `*[!A-Za-z0-9_]* | [0-9]*`. -/
def invalidName (key : List Char) : Bool :=
  key.any (fun character => !isNameCharacter character) || key.head?.any isDigit

def keyName : List Char := "key".toList
def valueName : List Char := "value".toList
def secretsName : List Char := "secrets".toList
def fileName : List Char := "SOPS_SECRETS_FILE".toList
def defaultFile : List Char := "/app/secrets/app.env".toList
def keyTextName : List Char := "SOPS_AGE_KEY".toList
def keyFileName : List Char := "SOPS_AGE_KEY_FILE".toList
def requireKeyName : List Char := "SOPS_REQUIRE_KEY".toList

/-- The names that the script uses. -/
def scriptNames : List (List Char) :=
  [fileName, keyTextName, keyFileName, requireKeyName, secretsName, keyName, valueName]

/-- A shell that has started in an environment: its variables, and the names
that it treats in its own way.  Every other name is exported as it was found,
and the script's names are among these. -/
structure Shell (found : List Char -> Option (List Char)) where
  start : Variables
  own : List Char -> Prop
  inherits : forall name, Not (own name) ->
    start name = (found name).map (fun value => (value, true))
  unscripted : forall name, name ∈ scriptNames -> Not (own name)

/-- The working directory, which most shells export. -/
def directoryName : List Char := "PWD".toList

theorem directory_unscripted : forall name, name ∈ scriptNames -> Not (name = directoryName) := by
  decide

/-- `read -r key value`. -/
def readInto (state : Variables) (fields : List Char × List Char) : Variables :=
  assign (assign state keyName fields.1) valueName fields.2

/-- One round of the loop. -/
def loadLine (state : Variables) (line : List Char) : Variables :=
  let fields := PosixShell.readFields '=' line
  let read := readInto state fields
  if passedOver fields.1 then read
  else if invalidName fields.1 then read
  else if (read fields.1).isSome then read
  else exportVariable read fields.1 fields.2

/-- The lines that `read` gets: the substituted text as the body of the
here-document. -/
def documentLines (decrypted : List Char) : List (List Char) :=
  PosixShell.readLines (PosixShell.commandSubstitution decrypted ++ ['\n'])

/-- The loop.  The `read` that meets the end of the document leaves both of its
variables empty. -/
def loop (decrypted : List Char) (state : Variables) : Variables :=
  readInto ((documentLines decrypted).foldl loadLine state) ([], [])

/-- From `secrets=$(sops ...)` to `unset secrets`. -/
def loadSecrets (decrypted : List Char) (state : Variables) : Variables :=
  unset (loop decrypted
    (assign state secretsName (PosixShell.commandSubstitution decrypted))) secretsName

/-- `: "${SOPS_SECRETS_FILE:=/app/secrets/app.env}"`. -/
def setDefault (state : Variables) : Variables :=
  match state fileName with
  | some (_ :: _, _) => state
  | _ => assign state fileName defaultFile

/-- The environment that the loop leaves for the application. -/
def loaded (start : Variables) (decrypted : List Char) : List Char -> Option (List Char) :=
  environment (loadSecrets decrypted (setDefault start))

/-! ## What one round does -/

/-- The assignment that a line stands for, unless it is passed over. -/
def field (line : List Char) : Option (List Char × List Char) :=
  let fields := PosixShell.readFields '=' line
  if passedOver fields.1 || invalidName fields.1 then none else some fields

/-- The names that `read` assigns. -/
def assignedByRead (name : List Char) : Prop := name = keyName ∨ name = valueName

instance (name : List Char) : Decidable (assignedByRead name) :=
  inferInstanceAs (Decidable (_ ∨ _))

/-- The variables as the test of a round sees them: the names that `read`
assigns are set. -/
def seen (state : Variables) : Variables :=
  fun name => if assignedByRead name then some ([], false) else state name

theorem seen_readInto (state : Variables) (fields : List Char × List Char) :
    seen (readInto state fields) = seen state := by
  funext name
  unfold seen readInto
  by_cases assigned : assignedByRead name
  · rw [if_pos assigned, if_pos assigned]
  · rw [if_neg assigned, if_neg assigned]
    simp only [assignedByRead, not_or] at assigned
    simp only [assign, Assignments.override, if_neg (Ne.symm assigned.1),
      if_neg (Ne.symm assigned.2)]

/-- The test sees `key` and `value` set. -/
theorem readInto_isSome (state : Variables) (fields : List Char × List Char)
    (name : List Char) : (readInto state fields name).isSome = (seen state name).isSome := by
  unfold seen readInto
  by_cases assigned : assignedByRead name
  · rw [if_pos assigned]
    rcases assigned with rfl | rfl
    · simp [assign, Assignments.override, show valueName ≠ keyName by decide]
    · simp [assign, Assignments.override]
  · rw [if_neg assigned]
    simp only [assignedByRead, not_or] at assigned
    simp only [assign, Assignments.override, if_neg (Ne.symm assigned.1),
      if_neg (Ne.symm assigned.2)]

/-- A round supplies the assignment of its line. -/
theorem seen_loadLine (state : Variables) (line : List Char) :
    seen (loadLine state line) = match field line with
      | none => seen state
      | some entry => Assignments.supply (seen state) (entry.1, (entry.2, true)) := by
  unfold field loadLine
  generalize PosixShell.readFields '=' line = fields
  have read := seen_readInto state fields
  have tested := readInto_isSome state fields fields.1
  by_cases passed : passedOver fields.1 = true
  · simp only [passed, if_true, Bool.true_or]
    exact read
  · by_cases invalid : invalidName fields.1 = true
    · simp only [passed, invalid, if_true, Bool.or_true]
      exact read
    · simp only [passed, invalid, Bool.or_self, Bool.false_eq_true, if_false,
        Assignments.supply, tested]
      by_cases held : (seen state fields.1).isSome = true
      · rw [if_pos held, if_pos held]
        exact read
      · rw [if_neg held, if_neg held, ← read]
        funext name
        have other : Not (assignedByRead fields.1) := by
          intro assigned
          exact held (by rw [seen, if_pos assigned]; rfl)
        by_cases same : fields.1 = name
        · subst name
          simp only [seen, if_neg other, exportVariable, Assignments.override, if_true]
        · simp only [seen, exportVariable, Assignments.override, if_neg same]

/-- The loop supplies the assignments of its lines. -/
theorem seen_foldl_loadLine (lines : List (List Char)) (state : Variables) :
    seen (lines.foldl loadLine state) = ((lines.filterMap field).map (fun entry =>
      (entry.1, (entry.2, true)))).foldl Assignments.supply (seen state) := by
  induction lines generalizing state with
  | nil => rfl
  | cons line rest ih =>
      rw [List.foldl_cons, ih, seen_loadLine, List.filterMap_cons]
      cases field line with
      | none => rfl
      | some entry => rfl

theorem isExported_assign (state : Variables) (assigned value name : List Char) :
    isExported (assign state assigned value) name = isExported state name := by
  by_cases same : assigned = name
  · subst name
    simp [isExported, assign, Assignments.override]
  · simp only [isExported, assign, Assignments.override, if_neg same]

theorem isExported_readInto (state : Variables) (fields : List Char × List Char)
    (name : List Char) : isExported (readInto state fields) name = isExported state name := by
  rw [readInto, isExported_assign, isExported_assign]

/-- The names that `read` assigns are never exported by the loop. -/
theorem isExported_loadLine (state : Variables) (line : List Char) {name : List Char}
    (assigned : assignedByRead name) :
    isExported (loadLine state line) name = isExported state name := by
  unfold loadLine
  generalize PosixShell.readFields '=' line = fields
  have kept := isExported_readInto state fields name
  have tested := readInto_isSome state fields fields.1
  simp only [tested]
  split
  · exact kept
  · split
    · exact kept
    · split
      · exact kept
      · next unheld =>
          have other : fields.1 ≠ name := by
            intro same
            rw [seen, same, if_pos assigned] at unheld
            exact unheld rfl
          rw [← kept]
          simp only [isExported, exportVariable, Assignments.override, if_neg other]

theorem isExported_foldl_loadLine (lines : List (List Char)) (state : Variables)
    {name : List Char} (assigned : assignedByRead name) :
    isExported (lines.foldl loadLine state) name = isExported state name := by
  induction lines generalizing state with
  | nil => rfl
  | cons line rest ih => rw [List.foldl_cons, ih, isExported_loadLine state line assigned]

/-! ## What the script leaves -/

/-- The assignments of a text as `read` finds them. -/
def fields (decrypted : List Char) : List (List Char × List Char) :=
  (documentLines decrypted).filterMap field

/-- A name that `read` does not assign keeps its value, or gets its first one. -/
theorem loop_apply (decrypted : List Char) (state : Variables) {name : List Char}
    (other : Not (assignedByRead name)) : loop decrypted state name =
      (state name).or ((Assignments.firstValue (fields decrypted) name).map
        (fun value => (value, true))) := by
  have whole : seen (loop decrypted state) name = _ :=
    congrFun ((seen_readInto _ _).trans (seen_foldl_loadLine (documentLines decrypted) state)) name
  rw [Assignments.foldl_supply, Assignments.firstValue_map (fun value => (value, true))] at whole
  simp only [seen, if_neg other] at whole
  exact whole

/-- A name that `read` assigns is empty in the end, and exported if it was. -/
theorem loop_assigned (decrypted : List Char) (state : Variables) {name : List Char}
    (assigned : assignedByRead name) :
    loop decrypted state name = some ([], isExported state name) := by
  rw [loop, ← isExported_foldl_loadLine (documentLines decrypted) state assigned]
  generalize (documentLines decrypted).foldl loadLine state = last
  rcases assigned with rfl | rfl
  · simp [readInto, assign, Assignments.override, show valueName ≠ keyName by decide]
  · simp [readInto, assign, Assignments.override, isExported,
      show keyName ≠ valueName by decide]

/-- What was set goes to the application as it was; what was not set gets the
first value. -/
theorem environment_loop (decrypted : List Char) (state : Variables) {name : List Char}
    (other : Not (assignedByRead name)) : environment (loop decrypted state) name =
      if (state name).isSome then environment state name
      else Assignments.firstValue (fields decrypted) name := by
  rw [environment, environment, loop_apply decrypted state other]
  cases state name with
  | some entry => rfl
  | none =>
      rw [Option.none_or]
      cases Assignments.firstValue (fields decrypted) name with
      | none => rfl
      | some value => rfl

/-! ## What the application finds -/

/-- The environment of a command that gets no secrets.  The name of the file
has its default if it was exported and empty. -/
def passedOn (start : Variables) (name : List Char) : Option (List Char) :=
  if name = fileName ∧ start fileName = some ([], true) then some defaultFile
  else environment start name

/-- The environment of a command that gets the secrets. -/
def supplied (start : Variables) (decrypted name : List Char) : Option (List Char) :=
  if name = secretsName then none
  else if assignedByRead name then (environment start name).map (fun _ => [])
  else if (start name).isSome || decide (name = fileName) then passedOn start name
  else Assignments.firstValue (fields decrypted) name

theorem isSome_assign (state : Variables) (assigned value name : List Char) :
    (assign state assigned value name).isSome = true ↔
      name = assigned ∨ (state name).isSome = true := by
  by_cases same : assigned = name
  · subst name
    simp [assign, Assignments.override]
  · simp only [assign, Assignments.override, if_neg same, Ne.symm same, false_or]

theorem setDefault_cases (state : Variables) :
    (setDefault state = state ∧ (state fileName).isSome = true) ∨
      setDefault state = assign state fileName defaultFile := by
  unfold setDefault
  split
  · next set => exact Or.inl ⟨rfl, by rw [set]; rfl⟩
  · exact Or.inr rfl

section

variable {start : Variables} {name : List Char}

theorem passedOn_of_ne (other : name ≠ fileName) : passedOn start name = environment start name :=
  if_neg (fun both => other both.1)

theorem environment_assign_other {assigned value : List Char} (other : assigned ≠ name) :
    environment (assign start assigned value) name = environment start name := by
  simp only [environment, assign, Assignments.override, if_neg other]

/-- The default is exported if the name was exported and empty. -/
theorem environment_setDefault : environment (setDefault start) name = passedOn start name := by
  unfold passedOn
  by_cases file : name = fileName
  · subst file
    unfold setDefault
    cases set : start fileName with
    | none => simp [set, environment, assign, Assignments.override, isExported]
    | some entry =>
        rcases entry with ⟨value, exported⟩
        cases value <;> cases exported <;>
          simp [set, environment, assign, Assignments.override, isExported, Option.filter]
  · rw [if_neg (fun both => file both.1)]
    rcases setDefault_cases start with ⟨same, _⟩ | assigned
    · rw [same]
    · rw [assigned, environment_assign_other (Ne.symm file)]

theorem isSome_setDefault : (setDefault start name).isSome =
    ((start name).isSome || decide (name = fileName)) := by
  rcases setDefault_cases start with ⟨same, set⟩ | assigned
  · rw [same]
    by_cases file : name = fileName
    · subst file
      simp [set]
    · simp [file]
  · rw [assigned, Bool.eq_iff_iff, isSome_assign, Bool.or_eq_true, decide_eq_true_eq]
    exact or_comm

theorem isExported_of_environment : isExported start name = (environment start name).isSome := by
  unfold isExported environment
  cases start name with
  | none => rfl
  | some entry => cases exported : entry.2 <;> simp [Option.filter, exported]

/-- Every name, after the script has run in what the shell had set. -/
theorem loaded_eq (start : Variables) (decrypted name : List Char) :
    loaded start decrypted name = supplied start decrypted name := by
  let state := assign (setDefault start) secretsName (PosixShell.commandSubstitution decrypted)
  change environment (unset (loop decrypted state) secretsName) name = _
  unfold supplied
  by_cases secret : name = secretsName
  · rw [if_pos secret, environment, unset, if_pos secret.symm]
    rfl
  · have kept : environment (unset (loop decrypted state) secretsName) name =
        environment (loop decrypted state) name := by
      rw [environment, unset, if_neg (Ne.symm secret)]
      rfl
    have before : environment state name = passedOn start name :=
      (environment_assign_other (Ne.symm secret)).trans environment_setDefault
    have set : (state name).isSome = ((start name).isSome || decide (name = fileName)) := by
      rw [← isSome_setDefault, Bool.eq_iff_iff, isSome_assign]
      simp [secret]
    rw [kept, if_neg secret]
    by_cases assigned : assignedByRead name
    · -- `read` leaves the two names empty, and exported as they were.
      have other : name ≠ fileName := by
        rcases assigned with rfl | rfl <;> decide
      have exported : isExported state name = (environment start name).isSome := by
        rw [isExported_of_environment, before, passedOn_of_ne other]
      rw [if_pos assigned, environment, loop_assigned decrypted state assigned, exported]
      cases environment start name <;> rfl
    · rw [if_neg assigned, environment_loop decrypted state assigned, set, before]

end

end Entrypoint
end EmbeddedAlerts
