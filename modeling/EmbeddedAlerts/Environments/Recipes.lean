import Mathlib.Data.List.AList
import EmbeddedAlerts.Dotenv.Parse
import EmbeddedAlerts.Library.Script

namespace EmbeddedAlerts
namespace Environments

/-!
# The environment recipes

The recipes keep one ciphertext for each environment in `env/enc`, decrypt into
`env/dec`, and let `.env` point there.  They run as `bash` scripts under
`set -e`, so the first command that fails ends them, and a recipe may be killed
between two commands or while it writes.

The names that are given to a recipe are put into its text as they are.  A name
here is made of characters that the shell takes literally.  What `sops` does is a
parameter; it may differ from one call to the next.
-/

/-- Characters that stand for themselves in a script, without blanks and
slashes. -/
def plainCharacter (character : Char) : Bool :=
  PosixShell.isNameCharacter character || character == '-' || character == '.'

/-- The name of an environment, as an argument of a recipe. -/
structure Name where
  text : List Char
  plain : text.all plainCharacter = true

structure File where
  content : List UInt8
  mode : Nat
deriving DecidableEq

/-- What can stand at `.env`. -/
inductive Node where
  | file (file : File)
  | link (target : List Char)
  | directory
deriving DecidableEq

/-- What can stand at `env/dec`. -/
inductive Place where
  | missing
  | link
  | other
  | directory (mode : Nat) (files : AList (fun _ : List Char => File))

/-- The part of a checkout that the recipes read and write.  The files of
`env/enc` are known by their whole names. -/
structure Workspace where
  dotenv : Option Node
  dec : Place
  enc : AList (fun _ : List Char => List UInt8)

/-- What the commands print and their exit status.  Editing a file writes it
anew or leaves it as it is.  The first argument is what else the call depends
on. -/
structure Sops where
  decrypt : Nat -> List UInt8 -> List UInt8 × Nat
  encrypt : Nat -> List Char -> List UInt8 -> List UInt8 × Nat
  edit : Nat -> List UInt8 -> List UInt8 -> Option (List UInt8) × Nat

structure Host where
  sops : Sops
  python : Dotenv.Interpreter
  /-- What `dotenv.py` does with an input that is not UTF-8, in its locale. -/
  undecoded : List UInt8 -> Dotenv.Run
  /-- The order in which a pattern lists the names that it matches. -/
  collate : List (List Char) -> List (List Char)
  collate_perm : forall names, (collate names).Perm names
  /-- The mode of a new directory. -/
  directoryMode : Nat
  /-- Whether a link leads to something. -/
  resolves : List Char -> Bool

/-- What differs between two calls of a recipe.  `mktemp` replaces its `XXXXXX`
by six letters and digits. -/
structure Choice where
  moment : Nat
  suffix : List Char -> List Char
  suffix_length : forall name, (suffix name).length = 6
  suffix_plain : forall name, (suffix name).all Char.isAlphanum = true

inductive Exit where
  | refused (message : List Char)
  | failed (status : Nat)
deriving DecidableEq

abbrev Recipe := Script Workspace Exit Unit

/-! ## Names and paths -/

def envExtension : List Char := ".env".toList

def encExtension : List Char := ".env.enc".toList

def decPath : List Char := "env/dec/".toList

def plaintextName (name : List Char) : List Char := name ++ envExtension

def ciphertextName (name : List Char) : List Char := name ++ encExtension

/-- `[[ $(readlink .env) == env/dec/*.env ]]`. -/
def managedTarget (target : List Char) : Bool :=
  let shown := PosixShell.commandSubstitution target
  decPath.isPrefixOf shown && envExtension.isSuffixOf (shown.drop decPath.length)

/-- The names that the pattern `*` with an extension matches. -/
def matched (extension name : List Char) : Bool :=
  name.head? != some '.' && extension.isSuffixOf name

/-- `$(basename "$f" extension)`. -/
def basename (extension name : List Char) : List Char :=
  PosixShell.commandSubstitution
    (if extension.isSuffixOf name ∧ name ≠ extension then
      name.take (name.length - extension.length)
    else name)

/-- `sel=({{ names }})`, or what the pattern lists if there is no word. -/
def selection (host : Host) (extension : List Char) (listed : List (List Char))
    (names : List Name) : List (List Char) :=
  let words := (names.map Name.text).filter (fun text => !text.isEmpty)
  if words.isEmpty then (host.collate (listed.filter (matched extension))).map (basename extension)
  else words

/-! ## Commands -/

namespace Workspace

def files (workspace : Workspace) : AList (fun _ : List Char => File) :=
  match workspace.dec with
  | .directory _ files => files
  | _ => ∅

/-- A file of `env/dec`. -/
def file (workspace : Workspace) (name : List Char) : Option File := workspace.files.lookup name

def changeFiles (change : AList (fun _ : List Char => File) -> AList (fun _ : List Char => File))
    (workspace : Workspace) : Workspace :=
  match workspace.dec with
  | .directory mode files => { workspace with dec := .directory mode (change files) }
  | _ => workspace

/-- `mktemp` makes an empty file that is private. -/
def create (name : List Char) : Workspace -> Workspace :=
  changeFiles (fun files => files.insert name ⟨[], 0o600⟩)

def alter (name : List Char) (change : File -> File) : Workspace -> Workspace :=
  changeFiles (fun files =>
    match files.lookup name with
    | some file => files.insert name (change file)
    | none => files)

def chmod (name : List Char) (mode : Nat) : Workspace -> Workspace :=
  alter name (fun file => { file with mode := mode })

def write (name : List Char) (content : List UInt8) : Workspace -> Workspace :=
  alter name (fun file => { file with content := content })

/-- `mv -f`. -/
def move (source target : List Char) : Workspace -> Workspace :=
  changeFiles (fun files =>
    match files.lookup source with
    | some file => (files.erase source).insert target file
    | none => files)

def remove (name : List Char) : Workspace -> Workspace := changeFiles (fun files => files.erase name)

/-- `mkdir -p`. -/
def makeDec (mode : Nat) (workspace : Workspace) : Workspace :=
  match workspace.dec with
  | .missing => { workspace with dec := .directory mode ∅ }
  | _ => workspace

def chmodDec (mode : Nat) (workspace : Workspace) : Workspace :=
  match workspace.dec with
  | .directory _ files => { workspace with dec := .directory mode files }
  | _ => workspace

def setDotenv (node : Option Node) (workspace : Workspace) : Workspace :=
  { workspace with dotenv := node }

def writeEnc (name : List Char) (content : List UInt8) (workspace : Workspace) : Workspace :=
  { workspace with enc := workspace.enc.insert name content }

end Workspace

/-- A redirection empties its file and fills it byte by byte. -/
def gradually (change : List UInt8 -> Workspace -> Workspace) (content : List UInt8) : Recipe :=
  (List.range (content.length + 1)).forM (fun size => Script.command (change (content.take size)))

/-! ## Recipes -/

/-- `_env-dec`. -/
def envDec (host : Host) : Recipe := do
  let workspace <- Script.get
  match workspace.dec with
  | .link => Script.fail (.refused "env/dec must not be a symlink".toList)
  | .other => Script.fail (.refused "env/dec must be a directory".toList)
  | _ => do
      Script.command (Workspace.makeDec host.directoryMode)
      Script.command (Workspace.chmodDec 0o700)

/-- `mktemp "env/dec/.$n.XXXXXX"`. -/
def temporary (choice : Choice) (name : List Char) : List Char :=
  '.' :: name ++ '.' :: choice.suffix name

/-- A command writes into a temporary file, which replaces the plaintext if the
command has succeeded. -/
def replacePlaintext (choice : Choice) (name : List Char) (output : List UInt8 × Nat) :
    Recipe := do
  let workspace <- Script.get
  if (workspace.file (temporary choice name)).isSome then Script.fail (.failed 1)
  else do
    Script.command (Workspace.create (temporary choice name))
    Script.command (Workspace.chmod (temporary choice name) 0o600)
    gradually (Workspace.write (temporary choice name)) output.1
    if output.2 = 0 then
      Script.command (Workspace.move (temporary choice name) (plaintextName name))
    else Script.fail (.failed output.2)

def noEnvironment (name : List Char) : Exit :=
  .refused ("no such environment: ".toList ++ name)

/-- One turn of the loop of `env-decrypt`. -/
def decryptOne (host : Host) (choice : Choice) (name : List Char) : Recipe := do
  let workspace <- Script.get
  match workspace.enc.lookup (ciphertextName name) with
  | none => Script.fail (noEnvironment name)
  | some ciphertext =>
      replacePlaintext choice name (host.sops.decrypt choice.moment ciphertext)

/-- `env-decrypt *names`. -/
def envDecrypt (host : Host) (choice : Choice) (names : List Name) : Recipe := do
  envDec host
  let workspace <- Script.get
  (selection host encExtension workspace.enc.keys names).forM (decryptOne host choice)

/-- `dotenv.py envfile`. -/
def toEnvfile (host : Host) (input : List UInt8) : Dotenv.Run :=
  match Text.ofBytes input with
  | none => host.undecoded input
  | some text => Dotenv.main host.python ["envfile".toList] text.toList

/-- `env-docker-env-file name`. -/
def envDockerEnvFile (host : Host) (choice : Choice) (name : Name) : Recipe := do
  envDec host
  let workspace <- Script.get
  match workspace.enc.lookup (ciphertextName name.text) with
  | none => Script.fail (noEnvironment name.text)
  | some ciphertext =>
      let decrypted := host.sops.decrypt choice.moment ciphertext
      let converted := toEnvfile host decrypted.1
      replacePlaintext choice name.text
        (converted.output, if converted.failure.isSome then 1 else decrypted.2)

def unmanagedExit : Exit :=
  .refused "refusing to replace unmanaged .env (not a symlink into env/dec/)".toList

/-- The end of `env-use`: a managed link is replaced, and nothing else. -/
def pointDotenv (target : List Char) : Recipe := do
  let workspace <- Script.get
  match workspace.dotenv with
  | none => Script.command (Workspace.setDotenv (some (.link target)))
  | some (.link old) =>
      if managedTarget old then do
        Script.command (Workspace.setDotenv none)
        Script.command (Workspace.setDotenv (some (.link target)))
      else Script.fail unmanagedExit
  | some _ => Script.fail unmanagedExit

/-- `env-use name`. -/
def envUse (host : Host) (choice : Choice) (name : Name) : Recipe := do
  envDecrypt host choice [name]
  let target := decPath ++ plaintextName name.text
  let workspace <- Script.get
  if (workspace.file (plaintextName name.text)).isNone then
    Script.fail (.refused ("missing ".toList ++ target))
  else pointDotenv target

/-- `env-unuse`. -/
def envUnuse (host : Host) : Recipe := do
  let workspace <- Script.get
  match workspace.dotenv with
  | none => pure ()
  | some (.link target) =>
      if managedTarget target then Script.command (Workspace.setDotenv none)
      else if host.resolves target then
        Script.fail (.refused "refusing to remove unmanaged .env".toList)
      else pure ()
  | some _ => Script.fail (.refused "refusing to remove unmanaged .env".toList)

/-- `sops encrypt ... > "$dst"`. -/
def encryptInto (host : Host) (choice : Choice) (target : List Char) (text : List UInt8) :
    Recipe := do
  let encrypted := host.sops.encrypt choice.moment target text
  gradually (Workspace.writeEnc target) encrypted.1
  if encrypted.2 = 0 then pure () else Script.fail (.failed encrypted.2)

/-- `sops edit ... "$dst"` with an editor that copies the plaintext. -/
def writeEdited (target : List Char) : Option (List UInt8) -> Recipe
  | none => pure ()
  | some written => gradually (Workspace.writeEnc target) written

/-- One turn of the loop of `env-encrypt`.  The status 200 is a file that has not
changed. -/
def encryptOne (host : Host) (choice : Choice) (name : List Char) : Recipe := do
  let workspace <- Script.get
  match workspace.file (plaintextName name) with
  | none => Script.fail (.refused
      ("no such plaintext: ".toList ++ decPath ++ plaintextName name))
  | some file =>
      match workspace.enc.lookup (ciphertextName name) with
      | none => encryptInto host choice (ciphertextName name) file.content
      | some ciphertext => do
          let edited := host.sops.edit choice.moment ciphertext file.content
          writeEdited (ciphertextName name) edited.1
          if edited.2 = 0 ∨ edited.2 = 200 then pure () else Script.fail (.failed edited.2)

/-- `env-encrypt *names`. -/
def envEncrypt (host : Host) (choice : Choice) (names : List Name) : Recipe := do
  envDec host
  let workspace <- Script.get
  (selection host envExtension workspace.files.keys names).forM (encryptOne host choice)

def headerText (name : List Char) : List UInt8 :=
  Text.utf8 ("# ".toList ++ name ++
    " environment for this repo. Values are encrypted; names are not.\n".toList)

/-- `env-new name`. -/
def envNew (host : Host) (choice : Choice) (name : Name) : Recipe := do
  envDec host
  let workspace <- Script.get
  if (workspace.enc.lookup (ciphertextName name.text)).isSome then
    Script.fail (.refused ("already exists: env/enc/".toList ++ ciphertextName name.text))
  else encryptInto host choice (ciphertextName name.text) (headerText name.text)

/-- One turn of the loop of `env-clean`: zeros over the file, then it is
removed. -/
def cleanOne (name : List Char) : Recipe := do
  let workspace <- Script.get
  let size := ((workspace.file name).map (fun file => file.content.length)).getD 0
  gradually (Workspace.write name) (List.replicate size 0)
  Script.command (Workspace.remove name)

/-- `env-clean`. -/
def envClean (host : Host) : Recipe := do
  envDec host
  let workspace <- Script.get
  (host.collate (workspace.files.keys.filter (matched envExtension))).forM cleanOne

/-- The recipes that write.  Every other one starts with `_env-dec` and then
writes no file of its own in `env/dec` and nothing at `.env`. -/
inductive Call where
  | bootstrap
  | decrypt (names : List Name)
  | dockerEnvFile (name : Name)
  | use (name : Name)
  | unuse
  | encrypt (names : List Name)
  | new (name : Name)
  | clean

def recipe (host : Host) (choice : Choice) : Call -> Recipe
  | .bootstrap => envDec host
  | .decrypt names => envDecrypt host choice names
  | .dockerEnvFile name => envDockerEnvFile host choice name
  | .use name => envUse host choice name
  | .unuse => envUnuse host
  | .encrypt names => envEncrypt host choice names
  | .new name => envNew host choice name
  | .clean => envClean host

end Environments
end EmbeddedAlerts
