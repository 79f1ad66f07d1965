import Mathlib
import EmbeddedAlerts.Library.Assignments
import EmbeddedAlerts.Library.Fallible
import EmbeddedAlerts.Library.Json
import EmbeddedAlerts.Library.Text

namespace EmbeddedAlerts

/-!
# Resolving the configuration

The configuration is resolved once, from the arguments and the environment,
before the server does anything.  The arguments are parsed by another crate
after the contract that is built into the program, and so are the values of the
configuration given their types.  What is this program's own is what it makes
of the two: which arguments it refuses and what it says about them, where a
value is taken from, and how a typed value becomes a text again.

A refusal names options and counts errors.  It never repeats a value, because
a value on the command line may be a secret that is misspelled in its name only.
-/

namespace Flags

/-- What came of writing the built-in contract to a temporary file. -/
inductive ContractFile where
  | notCreated (error : String)
  | notWritten (error : String)
  | notUtf8
  | ready

/-- What the parser finds in the arguments and in the files that they name. -/
structure Parsed where
  unknownOptions : List String
  errors : List String
  extras : List String
  dotenv : List (String × String)
  dotenvOverrides : List (String × String)
  providedFlags : List (String × String)

/-- `BundledFlags2Env` with the contract.  A typed configuration is a list of
members with unique names, in the order of the map. -/
structure Parser where
  auditConfig : Except String Unit
  parseStructured : List String -> Except String Parsed
  coerce : (String -> Option String) -> Except String (List (String × Json))

/-- The text before the first `=`. -/
def beforeEquals (text : List Char) : List Char := text.takeWhile (fun character => character ≠ '=')

def optionName (option : String) : String :=
  match option.toList with
  | '-' :: '-' :: long => "--" ++ String.ofList (beforeEquals long)
  | other => String.ofList (other.take 2)

/-- The distinct names, in their order. -/
def joinedNames (options : List String) : String :=
  ", ".intercalate ((options.map optionName).toFinset.sort)

def refuse (parsed : Parsed) : Except String Unit := do
  Fallible.refuseIf (!parsed.unknownOptions.isEmpty)
    ("unknown command-line option(s): " ++ joinedNames parsed.unknownOptions)
  Fallible.refuseIf (!parsed.errors.isEmpty)
    ("invalid command-line value(s): " ++ toString parsed.errors.length ++ " error(s)")
  Fallible.refuseIf (!parsed.extras.isEmpty)
    ("unexpected positional argument(s): " ++ toString parsed.extras.length)

/-- `extend` on a map. -/
def extend (values : String -> Option String) (entries : List (String × String)) :
    String -> Option String :=
  entries.foldl Assignments.override values

def remove (values : String -> Option String) (name : String) : String -> Option String :=
  fun other => if name = other then none else values other

/-- What is given types. -/
def rawValues (parsed : Parsed) (environment : List (String × String)) : String -> Option String :=
  extend (remove (extend (extend (extend (fun _ => none) parsed.dotenv) environment)
    parsed.dotenvOverrides) "FLAGS2ENV_COMMAND") parsed.providedFlags

def scalarString (name : String) : Json -> Except String String
  | .string text => .ok text
  | .bool value => .ok (toString value)
  | .number text => .ok text
  | _ => .error ("flags-2-env returned a non-scalar value for " ++ name)

/-- One round of the loop over the typed values. -/
def insertTyped (values : String -> Option String) (entry : String × Json) :
    Except String (String -> Option String) :=
  match entry.2 with
  | .null => .ok values
  | value => do
      let text <- scalarString entry.1 value
      return Assignments.override values (entry.1, text)

/-- An error of another crate after a text of this one. -/
def labelled {α : Type} (label : String) : Except String α -> Except String α
  | .ok value => .ok value
  | .error failure => .error (label ++ failure)

def ContractFile.opened : ContractFile -> Except String Unit
  | .notCreated error => .error ("cannot create embedded flags-2-env contract: " ++ error)
  | .notWritten error => .error ("cannot materialize embedded flags-2-env contract: " ++ error)
  | .notUtf8 => .error "flags-2-env contract path is not valid UTF-8"
  | .ready => .ok ()

def resolveFrom (file : ContractFile) (parser : Parser) (argv : List String)
    (environment : List (String × String)) : Except String (String -> Option String) := do
  file.opened
  labelled "flags-2-env contract audit failed: " parser.auditConfig
  let parsed <- labelled "flags-2-env parsing failed: " (parser.parseStructured argv)
  refuse parsed
  let typed <- labelled "flags-2-env typed configuration failed: "
    (parser.coerce (rawValues parsed environment))
  typed.foldlM insertTyped (extend (fun _ => none) environment)

/-! ## Where a value comes from -/

/-- The text of a value that has one. -/
def scalarText : Json -> Option String
  | .string text => some text
  | .bool value => some (toString value)
  | .number text => some text
  | _ => none

/-- A typed value that the loop takes: nothing, or a text. -/
def Scalar (value : Json) : Prop := value = .null ∨ (scalarText value).isSome = true

/-- The typed values that are inserted. -/
def typedTexts (typed : List (String × Json)) : List (String × String) :=
  typed.filterMap (fun entry => (scalarText entry.2).map (fun text => (entry.1, text)))

theorem insertTyped_eq_ok_iff (values next : String -> Option String) (entry : String × Json) :
    insertTyped values entry = .ok next ↔
      Scalar entry.2 ∧ next = extend values (typedTexts [entry]) := by
  rcases entry with ⟨name, value⟩
  cases value with
  | null => simp [insertTyped, Scalar, typedTexts, scalarText, extend, eq_comm]
  | array items => simp [insertTyped, Scalar, scalarText, scalarString, bind, Except.bind]
  | object members => simp [insertTyped, Scalar, scalarText, scalarString, bind, Except.bind]
  | bool flag =>
      simp [insertTyped, Scalar, typedTexts, scalarText, scalarString, extend, bind, Except.bind,
        pure, Except.pure, eq_comm]
  | number text =>
      simp [insertTyped, Scalar, typedTexts, scalarText, scalarString, extend, bind, Except.bind,
        pure, Except.pure, eq_comm]
  | string text =>
      simp [insertTyped, Scalar, typedTexts, scalarText, scalarString, extend, bind, Except.bind,
        pure, Except.pure, eq_comm]

/-- The whole loop returns when every value is taken, and inserts them in
order. -/
theorem foldlM_insertTyped_eq_ok_iff (typed : List (String × Json))
    (values next : String -> Option String) :
    typed.foldlM insertTyped values = .ok next ↔
      (forall entry, entry ∈ typed -> Scalar entry.2) ∧
        next = extend values (typedTexts typed) := by
  induction typed generalizing values with
  | nil => simp [pure, Except.pure, typedTexts, extend, eq_comm]
  | cons entry rest ih =>
      have joined : typedTexts (entry :: rest) = typedTexts [entry] ++ typedTexts rest := by
        rw [typedTexts, typedTexts, typedTexts, ← List.filterMap_append, List.singleton_append]
      rw [List.foldlM_cons, Fallible.bind_eq_ok_iff, joined, extend, List.foldl_append]
      simp only [insertTyped_eq_ok_iff, ih, List.forall_mem_cons]
      constructor
      · rintro ⟨_, ⟨first, rfl⟩, others, rfl⟩
        exact ⟨⟨first, others⟩, rfl⟩
      · rintro ⟨⟨first, others⟩, rfl⟩
        exact ⟨_, ⟨first, rfl⟩, others, rfl⟩

theorem extend_apply (values : String -> Option String) (entries : List (String × String))
    (name : String) :
    extend values entries name = (Assignments.lastValue entries name).or (values name) :=
  Assignments.foldl_override entries values name

/-- The command line comes first, then the overriding files, the environment
and the other files.  The name of the command is no value. -/
theorem rawValues_apply (parsed : Parsed) (environment : List (String × String)) (name : String) :
    rawValues parsed environment name = (Assignments.lastValue parsed.providedFlags name).or
      (if name = "FLAGS2ENV_COMMAND" then none
      else (Assignments.lastValue parsed.dotenvOverrides name).or
        ((Assignments.lastValue environment name).or
          (Assignments.lastValue parsed.dotenv name))) := by
  rw [rawValues, extend_apply, remove]
  congr 1
  by_cases command : name = "FLAGS2ENV_COMMAND"
  · rw [if_pos command.symm, if_pos command]
  · rw [if_neg (Ne.symm command), if_neg command, extend_apply, extend_apply, extend_apply,
      Option.or_none]

theorem labelled_eq_ok_iff {α : Type} (label : String) (result : Except String α) (value : α) :
    labelled label result = .ok value ↔ result = .ok value := by
  cases result <;> simp [labelled]

theorem opened_eq_ok_iff (file : ContractFile) : file.opened = .ok () ↔ file = .ready := by
  cases file <;> simp [ContractFile.opened]

theorem refuse_eq_ok_iff (parsed : Parsed) : refuse parsed = .ok () ↔
    parsed.unknownOptions = [] ∧ parsed.errors = [] ∧ parsed.extras = [] := by
  rw [refuse, Fallible.check_eq_ok_iff, Fallible.check_eq_ok_iff]
  simp only [Fallible.refuseIf_eq_ok_iff, Bool.not_eq_false', List.isEmpty_iff]

theorem resolveFrom_eq_ok_iff (file : ContractFile) (parser : Parser) (argv : List String)
    (environment : List (String × String)) (values : String -> Option String) :
    resolveFrom file parser argv environment = .ok values ↔
      file = .ready ∧ parser.auditConfig = .ok () ∧
      Exists fun parsed => parser.parseStructured argv = .ok parsed ∧ refuse parsed = .ok () ∧
      Exists fun typed => parser.coerce (rawValues parsed environment) = .ok typed ∧
        (forall entry, entry ∈ typed -> Scalar entry.2) ∧
        values = extend (extend (fun _ => none) environment) (typedTexts typed) := by
  rw [resolveFrom, Fallible.check_eq_ok_iff, Fallible.check_eq_ok_iff, opened_eq_ok_iff,
    labelled_eq_ok_iff]
  simp only [Fallible.bind_eq_ok_iff, labelled_eq_ok_iff, foldlM_insertTyped_eq_ok_iff]
  constructor
  · rintro ⟨ready, audited, parsed, found, _, clean, rest⟩
    exact ⟨ready, audited, parsed, found, clean, rest⟩
  · rintro ⟨ready, audited, parsed, found, clean, rest⟩
    exact ⟨ready, audited, parsed, found, (), clean, rest⟩

/-- A name has its typed value, or else that of the environment. -/
theorem resolved_apply (environment : List (String × String)) (typed : List (String × Json))
    (name : String) : extend (extend (fun _ => none) environment) (typedTexts typed) name =
      (Assignments.lastValue (typedTexts typed) name).or
        (Assignments.lastValue environment name) := by
  rw [extend_apply, extend_apply, Option.or_none]

/-- The configuration is resolved exactly when the arguments are clean and
every typed value is a text, and then a name has its typed value, or else that
of the environment.  What is given types is taken from four places in a fixed
order. -/
theorem resolved_iff (file : ContractFile) (parser : Parser) (argv : List String)
    (environment : List (String × String)) (values : String -> Option String) :
    resolveFrom file parser argv environment = .ok values ↔
      file = .ready ∧ parser.auditConfig = .ok () ∧
      Exists fun parsed : Parsed => Exists fun typed : List (String × Json) =>
      Exists fun raw : String -> Option String =>
        parser.parseStructured argv = .ok parsed ∧
        parsed.unknownOptions = [] ∧ parsed.errors = [] ∧ parsed.extras = [] ∧
        (forall name, raw name = (Assignments.lastValue parsed.providedFlags name).or
          (if name = "FLAGS2ENV_COMMAND" then none
          else (Assignments.lastValue parsed.dotenvOverrides name).or
            ((Assignments.lastValue environment name).or
              (Assignments.lastValue parsed.dotenv name)))) ∧
        parser.coerce raw = .ok typed ∧
        (forall entry, entry ∈ typed -> Scalar entry.2) ∧
        forall name, values name = (Assignments.lastValue (typedTexts typed) name).or
          (Assignments.lastValue environment name) := by
  rw [resolveFrom_eq_ok_iff]
  constructor
  · rintro ⟨ready, audited, parsed, found, clean, typed, coerced, scalars, rfl⟩
    rcases (refuse_eq_ok_iff parsed).mp clean with ⟨unknown, errors, extras⟩
    exact ⟨ready, audited, parsed, typed, rawValues parsed environment, found, unknown, errors,
      extras, rawValues_apply parsed environment, coerced, scalars,
      resolved_apply environment typed⟩
  · rintro ⟨ready, audited, parsed, typed, raw, found, unknown, errors, extras, given, coerced,
      scalars, same⟩
    have sameRaw : raw = rawValues parsed environment := by
      funext name
      rw [given, rawValues_apply]
    have clean := (refuse_eq_ok_iff parsed).mpr ⟨unknown, errors, extras⟩
    refine ⟨ready, audited, parsed, found, clean, typed, sameRaw ▸ coerced, scalars, ?_⟩
    funext name
    rw [same, resolved_apply]

/-! ## What a refusal says -/

theorem optionName_long (name value : String) (named : '=' ∉ name.toList) :
    optionName ("--" ++ name ++ "=" ++ value) = "--" ++ name := by
  have split : ("--" ++ name ++ "=" ++ value).toList =
      '-' :: '-' :: (name.toList ++ '=' :: value.toList) := by
    simp [String.toList_append]
  have cut : beforeEquals (name.toList ++ '=' :: value.toList) = name.toList := by
    rw [beforeEquals, List.takeWhile_append_of_pos]
    · simp
    · intro character member
      rw [decide_eq_true_eq]
      rintro rfl
      exact named member
  rw [optionName, split]
  change "--" ++ String.ofList (beforeEquals (name.toList ++ '=' :: value.toList)) = "--" ++ name
  rw [cut, String.ofList_toList]

theorem isEmpty_of_length_eq {α : Type} {left right : List α}
    (same : left.length = right.length) : left.isEmpty = right.isEmpty := by
  rw [Bool.eq_iff_iff, List.isEmpty_iff_length_eq_zero, List.isEmpty_iff_length_eq_zero, same]

/-- A refusal depends on the names of the unknown options, as a set, and on
the numbers of the other two. -/
theorem refuse_congr {parsed other : Parsed}
    (names : forall name, name ∈ parsed.unknownOptions.map optionName ↔
      name ∈ other.unknownOptions.map optionName)
    (errors : parsed.errors.length = other.errors.length)
    (extras : parsed.extras.length = other.extras.length) : refuse parsed = refuse other := by
  have joined : joinedNames parsed.unknownOptions = joinedNames other.unknownOptions := by
    have same : (parsed.unknownOptions.map optionName).toFinset =
        (other.unknownOptions.map optionName).toFinset := by
      ext name
      rw [List.mem_toFinset, List.mem_toFinset, names]
    rw [joinedNames, joinedNames, same]
  have unknown : parsed.unknownOptions.isEmpty = other.unknownOptions.isEmpty := by
    rw [Bool.eq_iff_iff, List.isEmpty_iff, List.isEmpty_iff, ← List.map_eq_nil_iff (f := optionName),
      ← List.map_eq_nil_iff (f := optionName) (l := other.unknownOptions),
      List.eq_nil_iff_forall_not_mem, List.eq_nil_iff_forall_not_mem]
    simp only [names]
  rw [refuse, refuse, joined, unknown, errors, isEmpty_of_length_eq errors, extras,
    isEmpty_of_length_eq extras]

/-- Two refused command lines with the same names and the same numbers are
refused with the same words, whatever their values and the environment. -/
theorem refusal_redacted (file : ContractFile) (parser : Parser) (argv otherArgv : List String)
    (environment otherEnvironment : List (String × String)) (parsed other : Parsed)
    (found : parser.parseStructured argv = .ok parsed)
    (otherFound : parser.parseStructured otherArgv = .ok other)
    (names : forall name, name ∈ parsed.unknownOptions.map optionName ↔
      name ∈ other.unknownOptions.map optionName)
    (errors : parsed.errors.length = other.errors.length)
    (extras : parsed.extras.length = other.extras.length)
    (refused : parsed.unknownOptions ≠ [] ∨ parsed.errors ≠ [] ∨ parsed.extras ≠ []) :
    (Exists fun message => resolveFrom file parser argv environment = .error message ∧
      resolveFrom file parser otherArgv otherEnvironment = .error message) ∧
    forall name value : String, '=' ∉ name.toList ->
      optionName ("--" ++ name ++ "=" ++ value) = "--" ++ name := by
  refine ⟨?_, optionName_long⟩
  have same := refuse_congr names errors extras
  rw [resolveFrom, resolveFrom, found, otherFound]
  cases opened : file.opened with
  | error message => exact ⟨message, rfl, rfl⟩
  | ok _ =>
      cases parser.auditConfig with
      | error message => exact ⟨"flags-2-env contract audit failed: " ++ message, rfl, rfl⟩
      | ok _ =>
          cases outcome : refuse parsed with
          | ok _ =>
              rcases (refuse_eq_ok_iff parsed).mp outcome with ⟨unknown, invalid, positional⟩
              rcases refused with some | some | some
              · exact absurd unknown some
              · exact absurd invalid some
              · exact absurd positional some
          | error message =>
              rw [outcome] at same
              refine ⟨message, ?_, ?_⟩
              · simp only [bind, Except.bind, labelled, outcome]
              · simp only [bind, Except.bind, labelled, ← same]

/-- A parser that knows no option. -/
def bareParser : Parser where
  auditConfig := .ok ()
  parseStructured := fun argv => .ok ⟨argv.tail, [], [], [], [], []⟩
  coerce := fun _ => .ok []

theorem misspelled_option_redacted :
    Exists fun message => message = "unknown command-line option(s): --definitely-unknown" ∧
      resolveFrom .ready bareParser ["server", "--definitely-unknown=do-not-echo"] [] =
        .error message ∧
      resolveFrom .ready bareParser ["server", "--definitely-unknown=another"] [] =
        .error message := by
  have redacted := refusal_redacted .ready bareParser
    ["server", "--definitely-unknown=do-not-echo"] ["server", "--definitely-unknown=another"] [] []
    ⟨["--definitely-unknown=do-not-echo"], [], [], [], [], []⟩
    ⟨["--definitely-unknown=another"], [], [], [], [], []⟩ rfl rfl (fun name => Iff.rfl) rfl rfl
    (Or.inl (by decide))
  rcases redacted.1 with ⟨message, first, second⟩
  have named : refuse ⟨["--definitely-unknown=another"], [], [], [], [], []⟩ =
      .error "unknown command-line option(s): --definitely-unknown" := by decide +kernel
  have same : resolveFrom .ready bareParser ["server", "--definitely-unknown=another"] [] =
      .error "unknown command-line option(s): --definitely-unknown" := by
    simp only [resolveFrom, ContractFile.opened, labelled, bareParser, List.tail_cons, named, bind,
      Except.bind]
  exact ⟨message, Except.error.inj (second.symm.trans same), first, second⟩

end Flags

end EmbeddedAlerts
