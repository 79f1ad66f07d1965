import EmbeddedAlerts.Dotenv.Entrypoint
import EmbeddedAlerts.Startup.Process

namespace EmbeddedAlerts
namespace Entrypoint

/-!
# The container entrypoint

`sops-entrypoint.sh` ends in one of two ways: it replaces itself by the command
of the container, or it exits with an error.  If the image carries ciphertext
and a key is supplied, the command is reached only through a decryption that
succeeded.  Without a key it is reached undecrypted, unless a key is required.
And it is reached only if it can be executed.

What the command finds in its environment is then determined for every name.
What the container sets is passed on as it is, and what it does not set has its
first value in the decrypted text.  The exceptions are the names that the shell
treats in its own way, and those of the script itself: `secrets` is gone, `key`
and `value` are empty if the container had set them, and the name of the file
gets its default if it was empty.
-/

/-- What comes of executing a command. -/
inductive Execution where
  | replaced
  | notExecutable
  | notFound
deriving DecidableEq

/-- The status that the shell exits with. -/
def Execution.status : Execution -> Nat
  | .replaced => 0
  | .notExecutable => 126
  | .notFound => 127

/-- What the script finds in its image.  `sops` gets the environment, because
the key is in it, and prints the decrypted text or fails. -/
structure Image where
  isFile : List Char -> Bool
  hasSops : Bool
  decrypt : (List Char -> Option (List Char)) -> List Char -> Option (List Char)
  exec : (List Char -> Option (List Char)) -> List (List Char) -> Execution

/-- The script becomes the command, or it exits with a status.  Either way it
has written some lines to the standard error; what the shell itself says about
a command that it cannot execute is not among them. -/
inductive Outcome where
  | becomes (environment : List Char -> Option (List Char)) (command : List (List Char))
      (messages : List String)
  | exits (status : Nat) (messages : List String)

/-- `"${name:-}"`. -/
def valueOf (state : Variables) (name : List Char) : List Char :=
  ((state name).map Prod.fst).getD []

/-- `exec "$@"`.  Without a command it does nothing and the script goes on; a
command that cannot be executed ends the shell. -/
def execute (image : Image) (state : Variables) (command : List (List Char))
    (messages : List String) (otherwise : Outcome) : Outcome :=
  if command.isEmpty then otherwise
  else
    match image.exec (environment state) command with
    | .replaced => .becomes (environment state) command messages
    | failure => .exits failure.status messages

/-- What the loop writes about the names it skips. -/
def skipped (decrypted : List Char) : List String :=
  (documentLines decrypted).filterMap (fun line =>
    let key := (PosixShell.readFields '=' line).1
    if !passedOver key && invalidName key then
      some "sops-entrypoint: skipping invalid variable name"
    else none)

/-- From `command -v sops` to the end. -/
def decryptAndExecute (image : Image) (state : Variables) (command : List (List Char))
    (messages : List String) : Outcome :=
  let file := valueOf state fileName
  if !image.hasSops then .exits 1 (messages ++ ["sops-entrypoint: sops binary not in image"])
  else
    match image.decrypt (environment state) file with
    | none => .exits 1 (messages ++ ["sops-entrypoint: failed to decrypt " ++ String.ofList file])
    | some decrypted =>
        execute image (loadSecrets decrypted state) command (messages ++ skipped decrypted)
          (.exits 0 (messages ++ skipped decrypted))

/-- From the test for a key on. -/
def withCiphertext (image : Image) (state : Variables) (command : List (List Char)) : Outcome :=
  if (valueOf state keyTextName).isEmpty && (valueOf state keyFileName).isEmpty then
    if valueOf state requireKeyName = ['1'] then
      .exits 1 ["sops-entrypoint: no SOPS_AGE_KEY or SOPS_AGE_KEY_FILE set (SOPS_REQUIRE_KEY=1).",
        "  docker run -e SOPS_AGE_KEY=\"$(cat ~/.config/sops/age/keys.txt)\" ..."]
    else
      let messages := ["sops-entrypoint: no age key supplied; starting without decrypting " ++
        String.ofList (valueOf state fileName)]
      execute image state command messages (decryptAndExecute image state command messages)
  else decryptAndExecute image state command []

/-- The script. -/
def entrypoint (image : Image) (start : Variables) (command : List (List Char)) : Outcome :=
  let state := setDefault start
  if !image.isFile (valueOf state fileName) then
    execute image state command [] (withCiphertext image state command)
  else withCiphertext image state command

/-! ## What is handed over -/

/-- The environment that the command is started with, if it is started. -/
def Outcome.reached : Outcome -> Option (List Char -> Option (List Char))
  | .becomes environment _ _ => some environment
  | .exits _ _ => none

/-- The command is reached with an environment of this kind that it can be
executed in.  Otherwise the script fails, by itself if there is no such
environment, and else with the status of the shell. -/
structure Settles (image : Image) (command : List (List Char))
    (handed : (List Char -> Option (List Char)) -> Prop) (outcome : Outcome) : Prop where
  reached : forall found, outcome.reached = some found ↔
    handed found ∧ image.exec found command = .replaced
  fails : outcome.reached = none -> Exists fun status => Exists fun messages =>
    outcome = .exits status messages ∧
      ((forall found, Not (handed found)) ∧ status = 1 ∨
        Exists fun found => handed found ∧ image.exec found command ≠ .replaced ∧
          status = (image.exec found command).status)

section

variable {image : Image} {command : List (List Char)}

theorem Settles.congr {handed other : (List Char -> Option (List Char)) -> Prop}
    {outcome : Outcome} (settles : Settles image command handed outcome)
    (same : forall found, handed found ↔ other found) : Settles image command other outcome := by
  have equal : handed = other := funext (fun found => propext (same found))
  rwa [← equal]

/-- The script's own errors. -/
theorem settles_exits (messages : List String) :
    Settles image command (fun _ => False) (.exits 1 messages) where
  reached _ := ⟨fun impossible => (nomatch impossible), fun impossible => impossible.1.elim⟩
  fails _ := ⟨1, messages, rfl, Or.inl ⟨fun _ impossible => impossible, rfl⟩⟩

theorem settles_execute (given : command ≠ []) (state : Variables) (messages : List String)
    (otherwise : Outcome) : Settles image command (fun found => found = environment state)
      (execute image state command messages otherwise) := by
  have some : command.isEmpty = false := List.isEmpty_eq_false_iff.mpr given
  unfold execute
  rw [if_neg (by rw [some]; decide)]
  constructor
  · intro found
    cases run : image.exec (environment state) command with
    | replaced =>
        rw [Outcome.reached, Option.some.injEq]
        constructor
        · rintro rfl
          exact ⟨rfl, run⟩
        · rintro ⟨rfl, _⟩
          rfl
    | notExecutable =>
        refine ⟨fun impossible => (nomatch impossible), ?_⟩
        rintro ⟨rfl, replaced⟩
        cases run.symm.trans replaced
    | notFound =>
        refine ⟨fun impossible => (nomatch impossible), ?_⟩
        rintro ⟨rfl, replaced⟩
        cases run.symm.trans replaced
  · intro failed
    cases run : image.exec (environment state) command with
    | replaced =>
        rw [run] at failed
        cases failed
    | notExecutable =>
        exact ⟨_, messages, rfl, Or.inr ⟨_, rfl, by rw [run]; decide, by rw [run]⟩⟩
    | notFound =>
        exact ⟨_, messages, rfl, Or.inr ⟨_, rfl, by rw [run]; decide, by rw [run]⟩⟩

theorem settles_decryptAndExecute (given : command ≠ []) (state : Variables)
    (messages : List String) : Settles image command (fun found => image.hasSops = true ∧
      Exists fun decrypted =>
        image.decrypt (environment state) (valueOf state fileName) = some decrypted ∧
        found = environment (loadSecrets decrypted state))
      (decryptAndExecute image state command messages) := by
  unfold decryptAndExecute
  cases installed : image.hasSops with
  | false =>
      exact (settles_exits _).congr (fun _ => ⟨False.elim, fun both => absurd both.1 (by decide)⟩)
  | true =>
      dsimp only
      rw [if_neg (by decide)]
      cases ended : image.decrypt (environment state) (valueOf state fileName) with
      | none =>
          refine (settles_exits _).congr (fun _ => ⟨False.elim, ?_⟩)
          rintro ⟨_, _, impossible, _⟩
          cases impossible
      | some decrypted =>
          refine (settles_execute given _ _ _).congr (fun found => ?_)
          constructor
          · exact fun same => ⟨rfl, decrypted, rfl, same⟩
          · rintro ⟨_, _, same, equal⟩
            cases same
            exact equal

end

/-! ## When the command is reached -/

/-- A variable of the container as the script reads it. -/
def visible (container : List Char -> Option (List Char)) (name : List Char) : List Char :=
  (container name).getD []

/-- The file with the ciphertext. -/
def secretsFile (container : List Char -> Option (List Char)) : List Char :=
  if visible container fileName = [] then defaultFile else visible container fileName

def Keyless (container : List Char -> Option (List Char)) : Prop :=
  visible container keyTextName = [] ∧ visible container keyFileName = []

/-- No ciphertext, or no key and none required. -/
def Undecrypted (image : Image) (container : List Char -> Option (List Char)) : Prop :=
  image.isFile (secretsFile container) = false ∨
    Keyless container ∧ visible container requireKeyName ≠ ['1']

/-- The environments that the script hands over. -/
def Handed (image : Image) {container : List Char -> Option (List Char)} (shell : Shell container)
    (found : List Char -> Option (List Char)) : Prop :=
  Undecrypted image container ∧ found = passedOn shell.start ∨
    ¬Undecrypted image container ∧ ¬Keyless container ∧ image.hasSops = true ∧
      Exists fun decrypted =>
        image.decrypt (passedOn shell.start) (secretsFile container) = some decrypted ∧
        found = supplied shell.start decrypted

section

variable {container : List Char -> Option (List Char)} (shell : Shell container)

theorem start_of_scriptName {name : List Char} (member : name ∈ scriptNames) :
    shell.start name = (container name).map (fun value => (value, true)) :=
  shell.inherits name (shell.unscripted name member)

theorem valueOf_start {name : List Char} (member : name ∈ scriptNames) :
    valueOf shell.start name = visible container name := by
  rw [valueOf, start_of_scriptName shell member, visible]
  cases container name <;> rfl

theorem valueOf_setDefault {name : List Char} (member : name ∈ scriptNames)
    (other : name ≠ fileName) : valueOf (setDefault shell.start) name = visible container name := by
  rcases setDefault_cases shell.start with ⟨same, _⟩ | assigned
  · rw [same, valueOf_start shell member]
  · rw [assigned, ← valueOf_start shell member]
    simp only [valueOf, assign, Assignments.override, if_neg (Ne.symm other)]

theorem valueOf_fileName :
    valueOf (setDefault shell.start) fileName = secretsFile container := by
  have found : valueOf shell.start fileName = visible container fileName :=
    valueOf_start shell (by decide)
  unfold secretsFile setDefault
  rw [← found]
  unfold valueOf
  cases held : shell.start fileName with
  | none => simp [assign, Assignments.override]
  | some entry =>
      rcases entry with ⟨value, exported⟩
      cases value <;> simp [assign, Assignments.override, held]

/-- The whole script. -/
theorem settles_entrypoint (image : Image) {command : List (List Char)} (given : command ≠ []) :
    Settles image command (Handed image shell) (entrypoint image shell.start command) := by
  have passed : environment (setDefault shell.start) = passedOn shell.start :=
    funext (fun _ => environment_setDefault)
  have keyless : ((valueOf (setDefault shell.start) keyTextName).isEmpty &&
      (valueOf (setDefault shell.start) keyFileName).isEmpty) = true ↔ Keyless container := by
    rw [valueOf_setDefault shell (by decide) (by decide),
      valueOf_setDefault shell (by decide) (by decide), Bool.and_eq_true, List.isEmpty_iff,
      List.isEmpty_iff, Keyless]
  have switch : valueOf (setDefault shell.start) requireKeyName =
      visible container requireKeyName :=
    valueOf_setDefault shell (by decide) (by decide)
  -- A command that gets no secrets.
  have plain : forall messages otherwise, Undecrypted image container ->
      Settles image command (Handed image shell)
        (execute image (setDefault shell.start) command messages otherwise) := by
    intro messages otherwise undecrypted
    refine (settles_execute given _ _ _).congr (fun found => ?_)
    rw [passed]
    constructor
    · exact fun same => Or.inl ⟨undecrypted, same⟩
    · rintro (⟨_, same⟩ | ⟨guarded, _⟩)
      · exact same
      · exact absurd undecrypted guarded
  unfold entrypoint withCiphertext
  dsimp only
  rw [valueOf_fileName, switch]
  cases present : image.isFile (secretsFile container) with
  | false =>
      rw [if_pos (by rfl)]
      exact plain _ _ (Or.inl present)
  | true =>
      rw [if_neg (by decide)]
      by_cases key : Keyless container
      · rw [if_pos (keyless.mpr key)]
        by_cases required : visible container requireKeyName = ['1']
        · rw [if_pos required]
          refine (settles_exits _).congr (fun found => ⟨False.elim, ?_⟩)
          rintro (⟨absent | ⟨_, unrequired⟩, _⟩ | ⟨_, keyed, _⟩)
          · cases present.symm.trans absent
          · exact unrequired required
          · exact keyed key
        · rw [if_neg required]
          exact plain _ _ (Or.inr ⟨key, required⟩)
      · rw [if_neg (fun empty => key (keyless.mp empty))]
        have guarded : ¬Undecrypted image container := by
          rintro (absent | ⟨none, _⟩)
          · cases present.symm.trans absent
          · exact key none
        refine (settles_decryptAndExecute given _ _).congr (fun found => ?_)
        rw [passed, valueOf_fileName]
        constructor
        · rintro ⟨installed, decrypted, ended, rfl⟩
          exact Or.inr ⟨guarded, key, installed, decrypted, ended,
            funext (loaded_eq shell.start decrypted)⟩
        · rintro (⟨undecrypted, _⟩ | ⟨_, _, installed, decrypted, ended, rfl⟩)
          · exact absurd undecrypted guarded
          · exact ⟨installed, decrypted, ended,
              (funext (loaded_eq shell.start decrypted)).symm⟩

/-- A name that neither the shell nor the script treats in its own way. -/
structure Ordinary (name : List Char) : Prop where
  inherited : ¬shell.own name
  other : name ≠ fileName
  kept : name ≠ secretsName
  unread : ¬assignedByRead name

variable {shell} {name : List Char}

theorem environment_of_inherited (inherited : ¬shell.own name) :
    environment shell.start name = container name := by
  rw [environment, shell.inherits name inherited]
  cases container name <;> rfl

theorem Ordinary.passedOn (ordinary : Ordinary shell name) :
    passedOn shell.start name = container name := by
  rw [passedOn_of_ne ordinary.other, environment_of_inherited ordinary.inherited]

/-- The container's value comes before the first one of the text. -/
theorem Ordinary.supplied (ordinary : Ordinary shell name) (decrypted : List Char) :
    supplied shell.start decrypted name =
      (container name).or (Assignments.firstValue (fields decrypted) name) := by
  rw [Entrypoint.supplied, if_neg ordinary.kept, if_neg ordinary.unread, ordinary.passedOn,
    decide_eq_false ordinary.other, Bool.or_false, shell.inherits name ordinary.inherited]
  cases container name <;> rfl

end

/-- With ciphertext and a key the command is reached only through the
decryption, and in every case its environment is determined for every name.
Where the command is not reached the script fails. -/
theorem command_reached_iff (image : Image) {container : List Char -> Option (List Char)}
    (shell : Shell container) (command : List (List Char)) (given : command ≠ []) :
    Settles image command (Handed image shell) (entrypoint image shell.start command) ∧
    forall name, Ordinary shell name -> passedOn shell.start name = container name ∧
      forall decrypted, supplied shell.start decrypted name =
        (container name).or (Assignments.firstValue (fields decrypted) name) :=
  ⟨settles_entrypoint shell image given, fun _ ordinary => ⟨ordinary.passedOn, ordinary.supplied⟩⟩

/-- An image with a secret in it, and a container that sets its port. -/
def sampleImage : Image where
  isFile := fun _ => true
  hasSops := true
  decrypt := fun _ _ => some
    "DATABASE_URL=postgres://localhost/eal\nPORT=8080\nsops_version=3.9.0\n".toList
  exec := fun _ command =>
    if command = ["eal-api-server".toList] then .replaced else .notFound

def sampleContainer (name : List Char) : Option (List Char) :=
  if name = keyTextName then some "AGE-SECRET-KEY-1".toList
  else if name = "PORT".toList then some "9000".toList
  else none

/-- A shell that sets and exports its working directory. -/
def sampleShell : Shell sampleContainer where
  start := fun name =>
    if name = directoryName then some ("/app".toList, true)
    else (sampleContainer name).map (fun value => (value, true))
  own := fun name => name = directoryName
  inherits := fun _ inherited => if_neg inherited
  unscripted := directory_unscripted

theorem sampleContainer_keyed : ¬Keyless sampleContainer := by
  unfold Keyless
  decide +kernel

theorem sampleImage_guarded : ¬Undecrypted sampleImage sampleContainer := by
  rintro (absent | ⟨none, _⟩)
  · cases absent
  · exact sampleContainer_keyed none

/-- What the sample image decrypts to reaches the command. -/
theorem sampleImage_handed : Handed sampleImage sampleShell
    (supplied sampleShell.start
      "DATABASE_URL=postgres://localhost/eal\nPORT=8080\nsops_version=3.9.0\n".toList) :=
  Or.inr ⟨sampleImage_guarded, sampleContainer_keyed, rfl, _, rfl, rfl⟩

theorem sampleImage_reached : (Exists fun found =>
    (entrypoint sampleImage sampleShell.start ["eal-api-server".toList]).reached = some found ∧
    found "DATABASE_URL".toList = some "postgres://localhost/eal".toList ∧
    found "PORT".toList = some "9000".toList ∧ found directoryName = some "/app".toList) ∧
    Exists fun messages =>
      entrypoint sampleImage sampleShell.start ["misspelled".toList] = .exits 127 messages := by
  constructor
  · have settles := (command_reached_iff sampleImage sampleShell ["eal-api-server".toList]
      (by decide)).1
    refine ⟨_, (settles.reached _).mpr ⟨sampleImage_handed, rfl⟩, ?_, ?_, ?_⟩
    · decide +kernel
    · decide +kernel
    · decide +kernel
  · have settles := (command_reached_iff sampleImage sampleShell ["misspelled".toList]
      (by decide)).1
    have other : ["misspelled".toList] ≠ ["eal-api-server".toList] := by decide
    have missing : forall found, sampleImage.exec found ["misspelled".toList] = .notFound := by
      intro found
      simp only [sampleImage, if_neg other]
    have unreached : (entrypoint sampleImage sampleShell.start ["misspelled".toList]).reached =
        none := by
      refine Option.eq_none_iff_forall_ne_some.mpr ?_
      intro found reached
      cases (missing found).symm.trans ((settles.reached found).mp reached).2
    rcases settles.fails unreached with ⟨status, messages, same, ⟨none, _⟩ | ⟨found, _, _, rfl⟩⟩
    · exact absurd sampleImage_handed (none _)
    · rw [missing] at same
      exact ⟨messages, same⟩

/-! ## Where the database URL comes from -/

def databaseName : String := "DATABASE_URL"

/-- What the command line and the files that it names say about a name. -/
def FromArguments (parsed : Flags.Parsed) (name text : String) : Prop :=
  Assignments.lastValue parsed.providedFlags name = some text ∨
    Assignments.lastValue parsed.dotenvOverrides name = some text ∨
    Assignments.lastValue parsed.dotenv name = some text

/-- A value that the server resolves is given by its arguments, or else by its
environment. -/
theorem arguments_or_environment {world : Startup.World} {values : String -> Option String}
    {name text : String} (option : name ≠ "FLAGS2ENV_COMMAND")
    (keeps : forall raw typed text, world.parser.coerce raw = .ok typed ->
      Assignments.lastValue (Flags.typedTexts typed) name = some text -> raw name = some text)
    (resolved : world.resolve = .ok values) (value : values name = some text) :
    (Exists fun parsed => world.parser.parseStructured world.argv = .ok parsed ∧
      FromArguments parsed name text) ∨
    Assignments.lastValue world.environment name = some text := by
  rcases (Flags.resolveFrom_eq_ok_iff _ _ _ _ _).mp resolved with
    ⟨_, _, parsed, read, _, typed, coerced, _, rfl⟩
  rw [Flags.resolved_apply] at value
  rcases Option.or_eq_some_iff.mp value with written | ⟨_, exported⟩
  · have raw := keeps _ typed text coerced written
    rw [Flags.rawValues_apply, if_neg option] at raw
    rcases Option.or_eq_some_iff.mp raw with flag | ⟨_, raw⟩
    · exact Or.inl ⟨parsed, read, Or.inl flag⟩
    rcases Option.or_eq_some_iff.mp raw with file | ⟨_, raw⟩
    · exact Or.inl ⟨parsed, read, Or.inr (Or.inl file)⟩
    rcases Option.or_eq_some_iff.mp raw with exported | ⟨_, file⟩
    · exact Or.inr exported
    · exact Or.inl ⟨parsed, read, Or.inr (Or.inr file)⟩
  · exact Or.inr exported

/-- The database that the server connects to is named on the command line or
in a file, by the container, or else by the secrets, and then by the first line
that names it. -/
theorem database_url_provenance (image : Image) {container : List Char -> Option (List Char)}
    (shell : Shell container) (ordinary : Ordinary shell databaseName.toList)
    (command : List (List Char)) (given : command ≠ []) (world : Startup.World)
    (found : List Char -> Option (List Char))
    (reached : (entrypoint image shell.start command).reached = some found)
    (inherits : Assignments.lastValue world.environment databaseName =
      (found databaseName.toList).map String.ofList)
    (keeps : forall raw typed text, world.parser.coerce raw = .ok typed ->
      Assignments.lastValue (Flags.typedTexts typed) databaseName = some text ->
        raw databaseName = some text)
    (url : String) (done : Startup.Effect.connectDatabase url ∈ (Startup.main world).effects) :
    (Exists fun parsed => world.parser.parseStructured world.argv = .ok parsed ∧
      FromArguments parsed databaseName url) ∨
    container databaseName.toList = some url.toList ∨
    (¬Undecrypted image container ∧ ¬Keyless container ∧
      container databaseName.toList = none ∧ Exists fun decrypted =>
        image.decrypt (passedOn shell.start) (secretsFile container) = some decrypted ∧
        Assignments.firstValue (fields decrypted) databaseName.toList = some url.toList) := by
  rcases Startup.checked_main done with ⟨values, _, ⟨⟨resolved, _⟩, _⟩, configured⟩
  have value : values databaseName = some url := (Option.filter_eq_some_iff.mp configured).1
  rcases arguments_or_environment (by decide) keeps resolved value with arguments | exported
  · exact Or.inl arguments
  right
  -- What is left is the environment that the script handed over.
  have handed : found databaseName.toList = some url.toList := by
    rw [inherits] at exported
    rcases Option.map_eq_some_iff.mp exported with ⟨text, held, rfl⟩
    rw [held, String.toList_ofList]
  rcases ((settles_entrypoint shell image given).reached found).mp reached with
    ⟨⟨_, rfl⟩ | ⟨guarded, keyed, _, decrypted, ended, rfl⟩, _⟩
  · rw [ordinary.passedOn] at handed
    exact Or.inl handed
  · rw [ordinary.supplied] at handed
    rcases Option.or_eq_some_iff.mp handed with set | ⟨unset, first⟩
    · exact Or.inl set
    · exact Or.inr ⟨guarded, keyed, unset, decrypted, ended, first⟩

/-- The container names no database, and the secrets do. -/
theorem sampleContainer_provenance :
    Startup.Effect.connectDatabase "postgres://localhost/eal" ∈
      (Startup.main Startup.sampleWorld).effects ∧
    sampleContainer databaseName.toList = none ∧ Exists fun decrypted =>
      sampleImage.decrypt (passedOn sampleShell.start) (secretsFile sampleContainer) =
        some decrypted ∧
      Assignments.firstValue (fields decrypted) databaseName.toList =
        some "postgres://localhost/eal".toList := by
  have connects : Startup.Effect.connectDatabase "postgres://localhost/eal" ∈
      (Startup.main Startup.sampleWorld).effects := List.mem_cons_of_mem _ List.mem_cons_self
  have ordinary : Ordinary sampleShell databaseName.toList := by
    have other : databaseName.toList ≠ directoryName := by decide
    exact ⟨other, by decide, by decide, by decide⟩
  have given : ["eal-api-server".toList] ≠ [] := by decide
  have reached := ((settles_entrypoint sampleShell sampleImage given).reached _).mpr
    ⟨sampleImage_handed, rfl⟩
  have untyped : forall raw typed text, Startup.sampleWorld.parser.coerce raw = .ok typed ->
      Assignments.lastValue (Flags.typedTexts typed) databaseName = some text ->
        raw databaseName = some text := by
    intro raw typed text coerced written
    have defaults : Startup.sampleWorld.parser.coerce raw = Startup.sampleParser.coerce raw := rfl
    rw [defaults, Startup.sampleParser, Except.ok.injEq] at coerced
    have none : Assignments.lastValue (Flags.typedTexts typed) databaseName = none := by
      rw [← coerced]
      decide
    cases none.symm.trans written
  have inherits : Assignments.lastValue Startup.sampleWorld.environment databaseName =
      (supplied sampleShell.start
        "DATABASE_URL=postgres://localhost/eal\nPORT=8080\nsops_version=3.9.0\n".toList
        databaseName.toList).map String.ofList := by
    decide +kernel
  refine ⟨connects, rfl, ?_⟩
  rcases database_url_provenance sampleImage sampleShell ordinary ["eal-api-server".toList]
    (by decide) Startup.sampleWorld _ reached inherits untyped "postgres://localhost/eal" connects
    with ⟨parsed, read, arguments⟩ | set | ⟨_, _, _, decrypted, ended, first⟩
  · cases read
    rcases arguments with impossible | impossible | impossible
    · cases impossible
    · cases impossible
    · cases impossible
  · cases set
  · exact ⟨decrypted, ended, first⟩

end Entrypoint
end EmbeddedAlerts
