import EmbeddedAlerts.Environments.Recipes

namespace EmbeddedAlerts
namespace Environments

/-!
# What the recipes never touch

A recipe replaces or removes `.env` only if it is a link into `env/dec`, and it
lets no one else read a file that it makes.  Both hold at every moment of a
recipe, so they hold as well if it is killed.

These are relations between the workspace before a recipe and the workspace at
some moment of it.  They hold for every command, with what is known at its place
in the recipe, and they are preorders.
-/

/-- Nothing, or a link into `env/dec`. -/
def managed : Option Node -> Bool
  | none => true
  | some (.link target) => managedTarget target
  | some _ => false

/-- `env/dec` is a directory for its owner alone. -/
def Workspace.Closed (workspace : Workspace) : Prop :=
  Exists fun files => workspace.dec = .directory 0o700 files

/-- The name of a file in `env/dec` that is not the plaintext of an
environment. -/
def Foreign (name : List Char) : Prop := envExtension.isSuffixOf name = false

/-- What holds between the start of a recipe and any later moment of it, if the
recipe may write some ciphertexts only, and some files of its own. -/
structure Spares (writes own : List Char -> Prop) (start state : Workspace) : Prop where
  unmanaged : managed start.dotenv = false -> state.dotenv = start.dotenv
  managed : managed start.dotenv = true -> managed state.dotenv = true
  mode : forall name file, state.file name = some file ->
    file.mode = 0o600 ∨ Exists fun old => start.file name = some old ∧ file.mode = old.mode
  added : forall name, (state.file name).isSome = true -> start.file name = none -> state.Closed
  closed : start.Closed -> state.Closed
  ciphertext : forall name, Not (writes name) -> state.enc.lookup name = start.enc.lookup name
  leftover : forall name file, start.file name = some file -> Foreign name -> Not (own name) ->
    state.file name = some file

section

variable {writes own : List Char -> Prop}

/-- A command that changes neither `.env` nor `env/dec`. -/
theorem spares_of_eq {start state : Workspace} (dotenv : state.dotenv = start.dotenv)
    (dec : state.dec = start.dec) (enc : state.enc = start.enc) : Spares writes own start state := by
  have same : forall name, state.file name = start.file name := by
    intro name
    rw [Workspace.file, Workspace.file, Workspace.files, Workspace.files, dec]
  refine ⟨fun _ => dotenv, fun kept => by rwa [dotenv], ?_, ?_, ?_, fun _ _ => by rw [enc],
    fun name _ found _ _ => by rwa [same name]⟩
  · intro name file found
    exact .inr ⟨file, by rwa [← same name], rfl⟩
  · intro name present absent
    rw [same name, absent] at present
    cases present
  · rintro ⟨files, place⟩
    exact ⟨files, by rw [dec, place]⟩

instance : Std.Refl (Spares writes own) where
  refl _ := spares_of_eq rfl rfl rfl

instance : IsTrans Workspace (Spares writes own) where
  trans start middle state first second := by
    refine ⟨?_, fun kept => second.managed (first.managed kept), ?_, ?_,
      fun closed => second.closed (first.closed closed), ?_, fun name file found foreign other =>
        second.leftover name file (first.leftover name file found foreign other) foreign other⟩
    · intro unmanaged
      have same := first.unmanaged unmanaged
      rw [← same] at unmanaged ⊢
      exact second.unmanaged unmanaged
    · intro name file found
      rcases second.mode name file found with fixed | ⟨between, there, same⟩
      · exact .inl fixed
      · rw [same]
        exact first.mode name between there
    · intro name present absent
      cases there : middle.file name with
      | none => exact second.added name present there
      | some between => exact second.closed (first.added name (by rw [there]; rfl) absent)
    · intro name kept
      rw [second.ciphertext name kept, first.ciphertext name kept]

/-- A file that no one else can read, if it is there. -/
def Private (name : List Char) (workspace : Workspace) : Prop :=
  forall file, workspace.file name = some file -> file.mode = 0o600

theorem Private.lasting {name : List Char} {start state : Workspace}
    (kept : Private name start) (spares : Spares writes own start state) : Private name state := by
  intro file found
  rcases spares.mode name file found with fixed | ⟨old, there, same⟩
  · exact fixed
  · rw [same]
    exact kept old there

/-! ## Commands -/

variable {start : Workspace}

theorem dotenv_changeFiles (workspace : Workspace)
    (change : AList (fun _ : List Char => File) -> AList (fun _ : List Char => File)) :
    (workspace.changeFiles change).dotenv = workspace.dotenv := by
  unfold Workspace.changeFiles
  cases workspace.dec <;> rfl

theorem enc_changeFiles (workspace : Workspace)
    (change : AList (fun _ : List Char => File) -> AList (fun _ : List Char => File)) :
    (workspace.changeFiles change).enc = workspace.enc := by
  unfold Workspace.changeFiles
  cases workspace.dec <;> rfl

theorem file_changeFiles {mode : Nat} {files : AList (fun _ : List Char => File)}
    {change : AList (fun _ : List Char => File) -> AList (fun _ : List Char => File)}
    (place : start.dec = .directory mode files) (name : List Char) :
    (start.changeFiles change).file name = (change files).lookup name := by
  simp only [Workspace.file, Workspace.files, Workspace.changeFiles, place]

theorem file_of_directory {mode : Nat} {files : AList (fun _ : List Char => File)}
    (place : start.dec = .directory mode files) (name : List Char) :
    start.file name = files.lookup name := by
  simp only [Workspace.file, Workspace.files, place]

/-- A command leaves a file alone. -/
theorem file_changeFiles_other {other : List Char}
    {change : AList (fun _ : List Char => File) -> AList (fun _ : List Char => File)}
    (frame : forall files, (change files).lookup other = files.lookup other) :
    (start.changeFiles change).file other = start.file other := by
  rcases start with ⟨dotenv, dec, enc⟩
  cases dec with
  | directory mode files => exact frame files
  | missing => rfl
  | link => rfl
  | other => rfl

theorem file_alter_other {name other : List Char} {change : File -> File}
    (different : other ≠ name) : (start.alter name change).file other = start.file other := by
  apply file_changeFiles_other
  intro files
  cases files.lookup name with
  | none => rfl
  | some file => exact AList.lookup_insert_ne different

theorem file_remove_other {name other : List Char} (different : other ≠ name) :
    (start.remove name).file other = start.file other :=
  file_changeFiles_other (fun _ => AList.lookup_erase_ne different)

theorem file_move_other {source target other : List Char} (source_ne : other ≠ source)
    (target_ne : other ≠ target) : (start.move source target).file other = start.file other := by
  apply file_changeFiles_other
  intro files
  cases files.lookup source with
  | none => rfl
  | some file => exact (AList.lookup_insert_ne target_ne).trans (AList.lookup_erase_ne source_ne)

/-- Files are in a directory only. -/
theorem directory_of_file {name : List Char} {file : File}
    {change : AList (fun _ : List Char => File) -> AList (fun _ : List Char => File)}
    (found : (start.changeFiles change).file name = some file) :
    Exists fun mode => Exists fun files => start.dec = .directory mode files := by
  rcases start with ⟨dotenv, dec, enc⟩
  cases dec with
  | directory mode files => exact ⟨mode, files, rfl⟩
  | missing => cases found
  | link => cases found
  | other => cases found

/-- A command on the files of `env/dec`. -/
theorem spares_changeFiles
    {change : AList (fun _ : List Char => File) -> AList (fun _ : List Char => File)}
    (mode : forall name file, (start.changeFiles change).file name = some file ->
      file.mode = 0o600 ∨ Exists fun old => start.file name = some old ∧ file.mode = old.mode)
    (added : forall name, ((start.changeFiles change).file name).isSome = true ->
      start.file name = none -> start.Closed)
    (leftover : forall name file, start.file name = some file -> Foreign name -> Not (own name) ->
      (start.changeFiles change).file name = some file) :
    Spares writes own start (start.changeFiles change) := by
  have closed : start.Closed -> (start.changeFiles change).Closed := by
    rintro ⟨files, place⟩
    exact ⟨change files, by simp only [Workspace.changeFiles, place]⟩
  have dotenv := dotenv_changeFiles start change
  exact ⟨fun _ => dotenv, fun kept => by rwa [dotenv], mode,
    fun name present absent => closed (added name present absent), closed,
    fun _ _ => by rw [enc_changeFiles], leftover⟩

theorem ne_of_not_own {name other : List Char} (owned : own name) (strange : Not (own other)) :
    other ≠ name := by
  rintro rfl
  exact strange owned

/-- A file that a recipe may change: its own, or the plaintext of an
environment. -/
def Changeable (own : List Char -> Prop) (name : List Char) : Prop := Foreign name -> own name

theorem Changeable.ne {name other : List Char} (changeable : Changeable own name)
    (foreign : Foreign other) (strange : Not (own other)) : other ≠ name := by
  rintro rfl
  exact strange (changeable foreign)

theorem spares_create (closed : start.Closed) {name : List Char} (owned : own name) :
    Spares writes own start (start.create name) := by
  refine spares_changeFiles ?_ (fun _ _ _ => closed) ?_
  · intro other file found
    rcases closed with ⟨files, place⟩
    rw [file_changeFiles place] at found
    by_cases same : other = name
    · rw [same, AList.lookup_insert] at found
      cases found
      exact .inl rfl
    · rw [AList.lookup_insert_ne same] at found
      exact .inr ⟨file, by rwa [file_of_directory place], rfl⟩
  · intro other file found _ strange
    have different : other ≠ name := ne_of_not_own owned strange
    rw [← found]
    exact file_changeFiles_other (fun _ => AList.lookup_insert_ne different)

theorem private_create (name : List Char) (closed : start.Closed) :
    Private name (start.create name) := by
  intro file found
  rcases closed with ⟨files, place⟩
  rw [Workspace.create, file_changeFiles place, AList.lookup_insert] at found
  cases found
  rfl

/-- Where a changed file comes from. -/
theorem file_alter {name other : List Char} {change : File -> File} {file : File}
    (found : (start.alter name change).file other = some file) :
    Exists fun old => start.file other = some old ∧ (file = old ∨ file = change old) := by
  rcases directory_of_file found with ⟨mode, files, place⟩
  rw [Workspace.alter, file_changeFiles place] at found
  cases there : files.lookup name with
  | none =>
      rw [there] at found
      exact ⟨file, by rwa [file_of_directory place], .inl rfl⟩
  | some old =>
      rw [there] at found
      by_cases same : other = name
      · rw [same, AList.lookup_insert] at found
        exact ⟨old, by rwa [same, file_of_directory place], .inr (Option.some.inj found).symm⟩
      · rw [AList.lookup_insert_ne same] at found
        exact ⟨file, by rwa [file_of_directory place], .inl rfl⟩

theorem spares_alter {name : List Char} {change : File -> File}
    (changeable : Changeable own name)
    (mode : forall file, (change file).mode = 0o600 ∨ (change file).mode = file.mode) :
    Spares writes own start (start.alter name change) := by
  refine spares_changeFiles ?_ ?_ ?_
  · intro other file found
    rcases file_alter found with ⟨old, there, rfl | rfl⟩
    · exact .inr ⟨file, there, rfl⟩
    · rcases mode old with fixed | same
      · exact .inl fixed
      · exact .inr ⟨old, there, same⟩
  · intro other present absent
    rcases Option.isSome_iff_exists.mp present with ⟨file, found⟩
    rcases file_alter found with ⟨old, there, _⟩
    rw [absent] at there
    cases there
  · intro other file found foreign strange
    rw [← found]
    exact file_alter_other (changeable.ne foreign strange)

theorem spares_write {name : List Char} (changeable : Changeable own name) (content : List UInt8) :
    Spares writes own start (start.write name content) :=
  spares_alter changeable (fun _ => .inr rfl)

theorem spares_move {source target : List Char} (owned : own source)
    (changeable : Changeable own target) (closed : start.Closed) (hidden : Private source start) :
    Spares writes own start (start.move source target) := by
  refine spares_changeFiles ?_ (fun _ _ _ => closed) ?_
  · intro other file found
    rcases closed with ⟨files, place⟩
    by_cases same : other = target
    · rw [file_changeFiles place, same] at found
      cases there : files.lookup source with
      | none =>
          rw [there] at found
          exact .inr ⟨file, by rwa [same, file_of_directory place], rfl⟩
      | some moved =>
          rw [there] at found
          cases (AList.lookup_insert (files.erase source)).symm.trans found
          exact .inl (hidden file (by rwa [file_of_directory place]))
    · by_cases gone : other = source
      · rw [file_changeFiles place, gone] at found
        cases there : files.lookup source with
        | none =>
            rw [there] at found
            rw [there] at found
            cases found
        | some moved =>
            rw [there] at found
            have lost := (AList.lookup_insert_ne (gone ▸ same)).symm.trans found
            rw [AList.lookup_erase] at lost
            cases lost
      · exact .inr ⟨file, (file_move_other gone same).symm.trans found, rfl⟩
  · intro other file found foreign strange
    rw [← found]
    exact file_move_other (ne_of_not_own owned strange) (changeable.ne foreign strange)

/-- What is left after a removal. -/
theorem file_remove {name other : List Char} {file : File}
    (found : (start.remove name).file other = some file) :
    other ≠ name ∧ start.file other = some file := by
  rcases directory_of_file found with ⟨mode, files, place⟩
  rw [Workspace.remove, file_changeFiles place] at found
  by_cases gone : other = name
  · rw [gone, AList.lookup_erase] at found
    cases found
  · rw [AList.lookup_erase_ne gone] at found
    exact ⟨gone, by rwa [file_of_directory place]⟩

theorem spares_remove {name : List Char} (changeable : Changeable own name) :
    Spares writes own start (start.remove name) := by
  refine spares_changeFiles ?_ ?_ ?_
  · intro other file found
    exact .inr ⟨file, (file_remove found).2, rfl⟩
  · intro other present absent
    rcases Option.isSome_iff_exists.mp present with ⟨file, found⟩
    rw [(file_remove found).2] at absent
    cases absent
  · intro other file found foreign strange
    rw [← found]
    exact file_remove_other (changeable.ne foreign strange)

theorem spares_setDotenv {node : Option Node} (before : managed start.dotenv = true)
    (after : managed node = true) : Spares writes own start (start.setDotenv node) := by
  refine ⟨?_, fun _ => after, fun _ file found => .inr ⟨file, found, rfl⟩, ?_, id,
    fun _ _ => rfl, fun _ _ found _ _ => found⟩
  · intro unmanaged
    rw [before] at unmanaged
    cases unmanaged
  · intro name present absent
    have there : (start.file name).isSome = true := present
    rw [absent] at there
    cases there

theorem spares_writeEnc {name : List Char} (allowed : writes name) (content : List UInt8) :
    Spares writes own start (start.writeEnc name content) := by
  have rest : Spares writes own start { start.writeEnc name content with enc := start.enc } :=
    spares_of_eq rfl rfl rfl
  refine ⟨rest.unmanaged, rest.managed, rest.mode, rest.added, rest.closed, ?_, rest.leftover⟩
  intro other kept
  have different : other ≠ name := by
    rintro rfl
    exact kept allowed
  exact AList.lookup_insert_ne different

theorem spares_makeDec (mode : Nat) : Spares writes own start (start.makeDec mode) := by
  unfold Workspace.makeDec
  cases place : start.dec with
  | missing =>
      -- A new directory is empty, so it shows nothing before its mode is set.
      refine ⟨fun _ => rfl, id, ?_, ?_, ?_, fun _ _ => rfl, ?_⟩
      · intro name file found
        cases found
      · intro name present
        cases present
      · rintro ⟨files, closed⟩
        rw [place] at closed
        cases closed
      · intro name file found
        rw [Workspace.file, Workspace.files, place] at found
        cases found
  | link => exact spares_of_eq rfl rfl rfl
  | other => exact spares_of_eq rfl rfl rfl
  | directory mode files => exact spares_of_eq rfl rfl rfl

theorem files_chmodDec (mode : Nat) : (start.chmodDec mode).files = start.files := by
  rcases start with ⟨dotenv, dec, enc⟩
  cases dec <;> rfl

theorem spares_chmodDec : Spares writes own start (start.chmodDec 0o700) := by
  have same : forall name, (start.chmodDec 0o700).file name = start.file name := by
    intro name
    rw [Workspace.file, files_chmodDec, Workspace.file]
  have kept : (start.chmodDec 0o700).dotenv = start.dotenv ∧
      (start.chmodDec 0o700).enc = start.enc := by
    unfold Workspace.chmodDec
    cases start.dec <;> exact ⟨rfl, rfl⟩
  refine ⟨fun _ => kept.1, fun before => by rwa [kept.1], ?_, ?_, ?_, fun _ _ => by rw [kept.2],
    fun name _ found _ _ => by rwa [same name]⟩
  · intro name file found
    exact .inr ⟨file, by rwa [← same name], rfl⟩
  · intro name present absent
    rw [same name, absent] at present
    cases present
  · rintro ⟨files, place⟩
    exact ⟨files, by simp only [Workspace.chmodDec, place]⟩

/-! ## Recipes -/

theorem lasting_closed (state later : Workspace) (closed : state.Closed)
    (spares : Spares writes own state later) : later.Closed :=
  spares.closed closed

theorem within_gradually {change : List UInt8 -> Workspace -> Workspace}
    (each : forall written state, Spares writes own state (change written state))
    (content : List UInt8) (begun : Workspace) :
    Script.Within (Spares writes own) (gradually change content) begun :=
  Script.within_forM (fun _ => True) (fun _ _ _ _ => trivial)
    (fun size _ state _ => Script.within_command (each (content.take size) state)) trivial

theorem within_envDec (host : Host) (begun : Workspace) :
    Script.Within (Spares writes own) (envDec host) begun := by
  apply Script.within_get
  have made : Script.Within (Spares writes own) (do
      Script.command (Workspace.makeDec host.directoryMode)
      Script.command (Workspace.chmodDec 0o700) : Recipe) begun :=
    Script.Within.bind (Script.within_command (spares_makeDec _))
      (fun _ _ => Script.within_command spares_chmodDec)
  cases begun.dec with
  | link => exact Script.within_fail _ begun
  | other => exact Script.within_fail _ begun
  | missing => exact made
  | directory mode files => exact made

/-- After the bootstrap `env/dec` is closed, with the files that it had. -/
theorem envDec_ends {host : Host} {begun ready : Workspace}
    (ended : Script.Ends (envDec host) begun () ready) :
    ready.Closed ∧ ready.files = begun.files ∧ ready.dotenv = begun.dotenv ∧
      ready.enc = begun.enc := by
  rcases begun with ⟨dotenv, dec, enc⟩
  rcases Script.ends_bind_iff.mp ended with ⟨seen, same, looked, ended⟩
  rcases Script.ends_get_iff.mp looked with ⟨rfl, rfl⟩
  cases dec with
  | link => exact absurd ended Script.not_ends_fail
  | other => exact absurd ended Script.not_ends_fail
  | missing =>
      rcases Script.ends_bind_iff.mp ended with ⟨_, middle, made, ended⟩
      rw [← Script.ends_command_iff.mp ended, ← Script.ends_command_iff.mp made]
      exact ⟨⟨∅, rfl⟩, rfl, rfl, rfl⟩
  | directory mode files =>
      rcases Script.ends_bind_iff.mp ended with ⟨_, middle, made, ended⟩
      rw [← Script.ends_command_iff.mp ended, ← Script.ends_command_iff.mp made]
      exact ⟨⟨files, rfl⟩, rfl, rfl, rfl⟩

/-- A recipe that starts with the bootstrap. -/
theorem within_bootstrap {host : Host} {begun : Workspace} {next : Recipe}
    (after : forall ready, ready.Closed -> ready.files = begun.files -> ready.enc = begun.enc ->
      Script.Within (Spares writes own) next ready) :
    Script.Within (Spares writes own) (envDec host >>= fun _ => next) begun := by
  apply Script.Within.bind (within_envDec host begun)
  intro value result
  rcases envDec_ends ⟨result, rfl⟩ with ⟨closed, files, _, enc⟩
  exact after _ closed files enc

/-- What was not there at the start needs no licence. -/
theorem Spares.forget {begun state : Workspace} {name : List Char}
    (absent : begun.file name = none)
    (spares : Spares writes (fun other => own other ∨ other = name) begun state) :
    Spares writes own begun state := by
  refine ⟨spares.unmanaged, spares.managed, spares.mode, spares.added, spares.closed,
    spares.ciphertext, ?_⟩
  intro other file found foreign strange
  apply spares.leftover other file found foreign
  rintro (owned | rfl)
  · exact strange owned
  · rw [absent] at found
    cases found

theorem changeable_of_suffix {name : List Char} (plaintext : envExtension <:+ name) :
    Changeable own name := by
  intro foreign
  rw [Foreign, List.isSuffixOf_iff_suffix.mpr plaintext] at foreign
  cases foreign

theorem within_replacePlaintext_of_own {begun : Workspace} {choice : Choice} {name : List Char}
    (closed : begun.Closed) (owned : own (temporary choice name)) (output : List UInt8 × Nat) :
    Script.Within (Spares writes own) (replacePlaintext choice name output) begun := by
  apply Script.within_get
  split
  · exact Script.within_fail _ begun
  · -- The temporary file is private when it is made, and stays so to the end.
    have made : Spares writes own begun (begun.create (temporary choice name)) :=
      spares_create closed owned
    apply Script.Within.bind (Script.within_command made)
    intro _ _
    have hidden := private_create (temporary choice name) closed
    have restricted : Spares writes own (begun.create (temporary choice name))
        ((begun.create (temporary choice name)).chmod (temporary choice name) 0o600) :=
      spares_alter (fun _ => owned) (fun _ => .inl rfl)
    apply Script.Within.bind (Script.within_command restricted)
    intro _ _
    have filled : Script.Within (Spares writes own)
        (gradually (Workspace.write (temporary choice name)) output.1)
        ((begun.create (temporary choice name)).chmod (temporary choice name) 0o600) :=
      within_gradually (fun written state => spares_write (fun _ => owned) written) output.1 _
    apply Script.Within.bind filled
    intro _ _
    split
    · exact Script.within_command (spares_move owned (changeable_of_suffix (List.suffix_append _ _))
        (filled.state.closed (restricted.closed (made.closed closed)))
        ((hidden.lasting restricted).lasting filled.state))
    · exact Script.within_fail _ _

theorem within_replacePlaintext {begun : Workspace} (closed : begun.Closed) (choice : Choice)
    (name : List Char) (output : List UInt8 × Nat) :
    Script.Within (Spares writes own) (replacePlaintext choice name output) begun := by
  cases taken : begun.file (temporary choice name) with
  | some file =>
      apply Script.within_get
      rw [taken]
      exact Script.within_fail _ begun
  | none =>
      intro state visited
      exact (within_replacePlaintext_of_own closed (.inr rfl) output state visited).forget taken

theorem within_decryptOne {host : Host} {choice : Choice} {begun : Workspace}
    (closed : begun.Closed) (name : List Char) :
    Script.Within (Spares writes own) (decryptOne host choice name) begun := by
  apply Script.within_get
  cases begun.enc.lookup (ciphertextName name) with
  | none => exact Script.within_fail _ begun
  | some ciphertext => exact within_replacePlaintext closed choice name _

theorem within_envDecrypt (host : Host) (choice : Choice) (names : List Name)
    (begun : Workspace) :
    Script.Within (Spares writes own) (envDecrypt host choice names) begun := by
  apply within_bootstrap
  intro ready closed _ _
  exact Script.within_get (Script.within_forM Workspace.Closed lasting_closed
    (fun name _ state stays => within_decryptOne stays name) closed)

theorem within_envDockerEnvFile (host : Host) (choice : Choice) (name : Name)
    (begun : Workspace) :
    Script.Within (Spares writes own) (envDockerEnvFile host choice name) begun := by
  apply within_bootstrap
  intro ready closed _ _
  apply Script.within_get
  cases ready.enc.lookup (ciphertextName name.text) with
  | none => exact Script.within_fail _ ready
  | some ciphertext => exact within_replacePlaintext closed choice name.text _

theorem managedTarget_plaintext (name : List Char) :
    managedTarget (decPath ++ plaintextName name) = true := by
  have shown : PosixShell.commandSubstitution (decPath ++ plaintextName name) =
      decPath ++ plaintextName (PosixShell.dropNull name) := by
    have dropped : PosixShell.dropNull (decPath ++ plaintextName name) =
        (decPath ++ PosixShell.dropNull name ++ ".en".toList) ++ ['v'] := by
      simp only [PosixShell.dropNull, plaintextName, List.filter_append, List.append_assoc]
      rfl
    rw [PosixShell.commandSubstitution, dropped, List.rdropWhile_concat_neg _ _ _ (by decide)]
    simp [plaintextName, envExtension]
  simp only [managedTarget, shown, List.drop_left, Bool.and_eq_true]
  exact ⟨List.isPrefixOf_iff_prefix.mpr (List.prefix_append _ _),
    List.isSuffixOf_iff_suffix.mpr (List.suffix_append _ _)⟩

theorem within_pointDotenv {target : List Char} (inside : managedTarget target = true)
    (begun : Workspace) : Script.Within (Spares writes own) (pointDotenv target) begun := by
  apply Script.within_get
  cases found : begun.dotenv with
  | none =>
      refine Script.within_command (spares_setDotenv ?_ inside)
      rw [found]
      rfl
  | some node =>
      cases node with
      | file file => exact Script.within_fail _ begun
      | directory => exact Script.within_fail _ begun
      | link old =>
          change Script.Within (Spares writes own) (if managedTarget old then _ else _) begun
          split
          · next owned =>
              refine Script.Within.bind (Script.within_command (spares_setDotenv ?_ rfl)) ?_
              · rw [found]
                exact owned
              · intro _ _
                exact Script.within_command (spares_setDotenv rfl inside)
          · exact Script.within_fail _ begun

theorem within_envUse (host : Host) (choice : Choice) (name : Name) (begun : Workspace) :
    Script.Within (Spares writes own) (envUse host choice name) begun := by
  apply Script.Within.bind (within_envDecrypt host choice [name] begun)
  intro _ _
  apply Script.within_get
  split
  · exact Script.within_fail _ _
  · exact within_pointDotenv (managedTarget_plaintext name.text) _

theorem within_envUnuse (host : Host) (begun : Workspace) :
    Script.Within (Spares writes own) (envUnuse host) begun := by
  apply Script.within_get
  cases found : begun.dotenv with
  | none => exact Script.within_pure () begun
  | some node =>
      cases node with
      | file file => exact Script.within_fail _ begun
      | directory => exact Script.within_fail _ begun
      | link target =>
          change Script.Within (Spares writes own) (if managedTarget target then _ else _) begun
          split
          · next owned =>
              refine Script.within_command (spares_setDotenv ?_ rfl)
              rw [found]
              exact owned
          · split
            · exact Script.within_fail _ begun
            · exact Script.within_pure () begun

theorem within_encryptInto {host : Host} {choice : Choice} {target : List Char}
    (allowed : writes target) (text : List UInt8) (begun : Workspace) :
    Script.Within (Spares writes own) (encryptInto host choice target text) begun := by
  refine Script.Within.bind
    (within_gradually (fun written state => spares_writeEnc allowed written) _ begun) ?_
  intro _ _
  split
  · exact Script.within_pure () _
  · exact Script.within_fail _ _

theorem within_writeEdited {target : List Char} (allowed : writes target)
    (edited : Option (List UInt8)) (begun : Workspace) :
    Script.Within (Spares writes own) (writeEdited target edited) begun := by
  cases edited with
  | none => exact Script.within_pure () begun
  | some written =>
      exact within_gradually (fun part state => spares_writeEnc allowed part) _ begun

theorem within_encryptOne {host : Host} {choice : Choice} {name : List Char}
    (allowed : writes (ciphertextName name)) (begun : Workspace) :
    Script.Within (Spares writes own) (encryptOne host choice name) begun := by
  apply Script.within_get
  cases begun.file (plaintextName name) with
  | none => exact Script.within_fail _ begun
  | some file =>
      cases begun.enc.lookup (ciphertextName name) with
      | none => exact within_encryptInto allowed file.content begun
      | some ciphertext =>
          apply Script.Within.bind (within_writeEdited allowed _ begun)
          intro _ _
          split
          · exact Script.within_pure () _
          · exact Script.within_fail _ _

theorem within_envEncrypt {host : Host} {choice : Choice} {names : List Name} {begun : Workspace}
    (allowed : forall name, name ∈ selection host envExtension begun.files.keys names ->
      writes (ciphertextName name)) :
    Script.Within (Spares writes own) (envEncrypt host choice names) begun := by
  apply within_bootstrap
  intro ready _ files _
  refine Script.within_get (Script.within_forM (fun _ => True) (fun _ _ _ _ => trivial) ?_ trivial)
  intro name chosen state _
  rw [files] at chosen
  exact within_encryptOne (allowed name chosen) state

theorem within_envNew {host : Host} {choice : Choice} {name : Name} {begun : Workspace}
    (allowed : begun.enc.lookup (ciphertextName name.text) = none ->
      writes (ciphertextName name.text)) :
    Script.Within (Spares writes own) (envNew host choice name) begun := by
  apply within_bootstrap
  intro ready _ _ enc
  apply Script.within_get
  split
  · exact Script.within_fail _ ready
  · next absent =>
      rw [Bool.not_eq_true, Option.isSome_eq_false_iff, Option.isNone_iff_eq_none, enc] at absent
      exact within_encryptInto (allowed absent) _ ready

theorem within_cleanOne {name : List Char} (changeable : Changeable own name)
    (begun : Workspace) : Script.Within (Spares writes own) (cleanOne name) begun := by
  refine Script.within_get (Script.Within.bind ?_ ?_)
  · exact within_gradually (fun written state => spares_write changeable written) _ begun
  · intro _ _
    exact Script.within_command (spares_remove changeable)

theorem suffix_of_matched {extension name : List Char} (shown : matched extension name = true) :
    extension <:+ name :=
  List.isSuffixOf_iff_suffix.mp (Bool.and_eq_true_iff.mp shown).2

theorem within_envClean (host : Host) (begun : Workspace) :
    Script.Within (Spares writes own) (envClean host) begun := by
  apply within_bootstrap
  intro ready _ _ _
  refine Script.within_get (Script.within_forM (fun _ => True) (fun _ _ _ _ => trivial) ?_ trivial)
  intro name listed state _
  have shown := (List.mem_filter.mp ((host.collate_perm _).mem_iff.mp listed)).2
  exact within_cleanOne (changeable_of_suffix (suffix_of_matched shown)) state

end

/-- The ciphertexts that a recipe may write. -/
def Call.writes (host : Host) (start : Workspace) : Call -> List Char -> Prop
  | .encrypt names, written => Exists fun name =>
      name ∈ selection host envExtension start.files.keys names ∧ written = ciphertextName name
  | .new name, written =>
      written = ciphertextName name.text ∧ start.enc.lookup written = none
  | _, _ => False

/-- Every recipe, at every moment. -/
theorem within_recipe (host : Host) (choice : Choice) (call : Call) (start : Workspace) :
    Script.Within (Spares (call.writes host start) (fun _ => False)) (recipe host choice call)
      start := by
  cases call with
  | bootstrap => exact within_envDec host start
  | decrypt names => exact within_envDecrypt host choice names start
  | dockerEnvFile name => exact within_envDockerEnvFile host choice name start
  | use name => exact within_envUse host choice name start
  | unuse => exact within_envUnuse host start
  | encrypt names => exact within_envEncrypt (fun name chosen => ⟨name, chosen, rfl⟩)
  | new name => exact within_envNew (fun absent => ⟨rfl, absent⟩)
  | clean => exact within_envClean host start

end Environments
end EmbeddedAlerts
