import EmbeddedAlerts.Environments.Safety
import EmbeddedAlerts.Library.Runs

namespace EmbeddedAlerts
namespace Environments

/-!
# Recipes and their user

Between two recipes the user may do anything: put something else at `.env`,
write files into `env/dec` or replace it, and change the ciphertexts.  A recipe
may be killed at any moment.

In every state that comes of this, what is at `.env` is the user's unless it is
managed, and what is not private in `env/dec` is the user's as well.
-/

/-- A checkout, what the user has last put at `.env`, and the modes that the user
has given to files of `env/dec`. -/
structure Desk where
  workspace : Workspace
  placed : Option Node
  given : List (List Char × Nat)

/-- A recipe is stopped after some commands, or goes on to its end.  The user
replaces `.env`, writes or removes a file of `env/dec`, replaces `env/dec`, or
changes a ciphertext (with `git`, or through `sops`). -/
inductive Action where
  | recipe (call : Call) (choice : Choice) (commands : Nat)
  | place (node : Option Node)
  | edit (name : List Char) (file : Option File)
  | arrange (place : Place)
  | commit (name : List Char) (ciphertext : Option (List UInt8))

/-- The modes of the files of a directory. -/
def modes (files : AList (fun _ : List Char => File)) : List (List Char × Nat) :=
  files.entries.map (fun entry => (entry.1, entry.2.mode))

namespace Desk

/-- What is there at the beginning is the user's. -/
def begin (workspace : Workspace) : Desk :=
  ⟨workspace, workspace.dotenv, modes workspace.files⟩

def step (host : Host) (desk : Desk) : Action -> Option Desk
  | .recipe call choice commands => some { desk with
      workspace := (recipe host choice call).stopped commands desk.workspace }
  | .place node => some { desk with
      workspace := desk.workspace.setDotenv node
      placed := node }
  | .edit name (some file) => some { desk with
      workspace := desk.workspace.changeFiles (fun files => files.insert name file)
      given := (name, file.mode) :: desk.given }
  | .edit name none => some { desk with workspace := desk.workspace.remove name }
  | .arrange place => some { desk with
      workspace := { desk.workspace with dec := place }
      given := modes ({ desk.workspace with dec := place } : Workspace).files ++ desk.given }
  | .commit name (some ciphertext) => some { desk with
      workspace := desk.workspace.writeEnc name ciphertext }
  | .commit name none => some { desk with
      workspace := { desk.workspace with enc := desk.workspace.enc.erase name } }

/-- What the user has put at `.env` is there unless it was managed, and then
nothing else than a managed link can be there.  A file of `env/dec` has a mode
other than `0600` only if the user has given it this mode, and with a file that
the user has not made, `env/dec` is closed. -/
structure Safe (desk : Desk) : Prop where
  spared : managed desk.placed = false -> desk.workspace.dotenv = desk.placed
  managed : managed desk.placed = true -> managed desk.workspace.dotenv = true
  mode : forall name file, desk.workspace.file name = some file ->
    file.mode = 0o600 ∨ (name, file.mode) ∈ desk.given
  closed : forall name file, desk.workspace.file name = some file ->
    (forall mode, (name, mode) ∉ desk.given) -> desk.workspace.Closed

theorem mem_modes {files : AList (fun _ : List Char => File)} {name : List Char} {file : File}
    (found : files.lookup name = some file) : (name, file.mode) ∈ modes files :=
  List.mem_map.mpr ⟨⟨name, file⟩, AList.mem_lookup_iff.mp found, rfl⟩

/-- A step of the user or of a recipe that spares what is not its own. -/
theorem Safe.spares {desk : Desk} {state : Workspace} {writes own : List Char -> Prop}
    (safe : desk.Safe) (spares : Spares writes own desk.workspace state) :
    ({ desk with workspace := state } : Desk).Safe where
  spared unmanaged := by
    have same := safe.spared unmanaged
    rw [← same] at unmanaged
    exact (spares.unmanaged unmanaged).trans same
  managed kept := spares.managed (safe.managed kept)
  mode name file found := by
    rcases spares.mode name file found with fixed | ⟨old, there, same⟩
    · exact .inl fixed
    · rw [same]
      exact safe.mode name old there
  closed name file found unmade := by
    cases there : desk.workspace.file name with
    | none => exact spares.added name (by rw [found]; rfl) there
    | some old => exact spares.closed (safe.closed name old there unmade)

/-- Another thing at `.env`. -/
theorem Safe.place {desk : Desk} (safe : desk.Safe) (node : Option Node) :
    (⟨desk.workspace.setDotenv node, node, desk.given⟩ : Desk).Safe :=
  ⟨fun _ => rfl, id, safe.mode, safe.closed⟩

/-- A file of the user. -/
theorem Safe.edit {desk : Desk} (safe : desk.Safe) (name : List Char) (file : File) :
    (⟨desk.workspace.changeFiles (fun files => files.insert name file), desk.placed,
      (name, file.mode) :: desk.given⟩ : Desk).Safe := by
  have dotenv := dotenv_changeFiles desk.workspace (fun files => files.insert name file)
  have known : forall other found,
      (desk.workspace.changeFiles (fun files => files.insert name file)).file other = some found ->
      other = name ∧ found = file ∨ desk.workspace.file other = some found := by
    intro other found there
    rcases directory_of_file there with ⟨mode, files, place⟩
    rw [file_changeFiles place] at there
    by_cases same : other = name
    · rw [same, AList.lookup_insert] at there
      exact .inl ⟨same, (Option.some.inj there).symm⟩
    · rw [AList.lookup_insert_ne same] at there
      exact .inr (by rwa [file_of_directory place])
  refine ⟨fun unmanaged => dotenv.trans (safe.spared unmanaged),
    fun kept => by rw [dotenv]; exact safe.managed kept, ?_, ?_⟩
  · intro other found there
    rcases known other found there with ⟨rfl, rfl⟩ | before
    · exact .inr List.mem_cons_self
    · exact (safe.mode other found before).imp id (List.mem_cons_of_mem _)
  · intro other found there unmade
    rcases known other found there with ⟨rfl, rfl⟩ | before
    · exact absurd List.mem_cons_self (unmade found.mode)
    · rcases safe.closed other found before
        (fun mode made => unmade mode (List.mem_cons_of_mem _ made)) with ⟨files, place⟩
      exact ⟨files.insert name file, by simp only [Workspace.changeFiles, place]⟩

/-- Another `env/dec`. -/
theorem Safe.arrange {desk : Desk} (safe : desk.Safe) (place : Place) :
    (⟨{ desk.workspace with dec := place }, desk.placed,
      modes ({ desk.workspace with dec := place } : Workspace).files ++ desk.given⟩ : Desk).Safe :=
  ⟨safe.spared, safe.managed, fun _ _ found => .inr (List.mem_append_left _ (mem_modes found)),
    fun _ file found unmade =>
      absurd (List.mem_append_left _ (mem_modes found)) (unmade file.mode)⟩

/-- A recipe that is allowed in a workspace. -/
theorem reached_recipe {host : Host} {workspace : Workspace} {condition : Desk -> Action -> Prop}
    {call : Call} {choice : Choice} {commands : Nat}
    (allowed : condition ⟨workspace, none, []⟩ (.recipe call choice commands)) :
    Runs.Reachable (step host) (fun desk => desk.workspace = workspace) condition
      ⟨(recipe host choice call).stopped commands workspace, none, []⟩ :=
  .step (.start rfl) allowed rfl

/-- The desks that can come of some checkout. -/
def Reachable (host : Host) : Desk -> Prop :=
  Runs.Reachable (step host) (fun desk => Exists fun workspace => desk = begin workspace)
    Runs.anyStep

end Desk

def sealed : List UInt8 := Text.utf8 "ENC:".toList

/-- A format that keeps every text. -/
def sampleSops : Sops where
  decrypt _ ciphertext :=
    if sealed.isPrefixOf ciphertext then (ciphertext.drop sealed.length, 0) else ([], 1)
  encrypt _ _ text := (sealed ++ text, 0)
  edit _ ciphertext text :=
    if ciphertext = sealed ++ text then (none, 200) else (some (sealed ++ text), 0)

def samplePython : Dotenv.Interpreter where
  names := fun _ => none
  ascii := fun _ _ found => by cases found
  errors := .strict

def sampleHost : Host where
  sops := sampleSops
  python := samplePython
  undecoded := fun _ => ⟨[], some .unicodeDecodeError⟩
  collate := id
  collate_perm := List.Perm.refl
  directoryMode := 0o755
  resolves := fun _ => false

def sampleChoice : Choice where
  moment := 0
  suffix := fun _ => "a1b2c3".toList
  suffix_length := fun _ => rfl
  suffix_plain := fun _ => by decide

def devName : Name := ⟨"dev".toList, by decide⟩

def sampleText : List UInt8 := Text.utf8 "A=1\n".toList

/-- A fresh clone with one environment. -/
def clone : Workspace :=
  ⟨none, .missing, (∅ : AList _).insert (ciphertextName "dev".toList) (sealed ++ sampleText)⟩

end Environments
end EmbeddedAlerts
