import EmbeddedAlerts.Environments.Desk

namespace EmbeddedAlerts
namespace Environments

/-!
# An encrypted text is read back

What `env-encrypt` has taken is what `.env` shows after `env-use`.  In between
any number of recipes may have been killed, and `env/dec` may have been cleaned,
edited or removed; only the ciphertext must be left alone.

Nothing of this holds for a recipe that was killed or has failed.  A redirection
empties the new ciphertext before `sops` has written anything, and `env-clean`
does not look for the temporary files of a decryption that was killed.
-/

section

variable {begun final : Workspace}

/-! ## Decryption -/

theorem ends_gradually {change : List UInt8 -> Workspace -> Workspace} {content : List UInt8}
    (ended : Script.Ends (gradually change content) begun () final) :
    Exists fun middle =>
      Script.Ends ((List.range content.length).forM (fun size =>
        Script.command (change (content.take size))) : Recipe) begun () middle ∧
      final = change content middle := by
  rw [gradually, List.range_succ] at ended
  rcases Script.ends_forM_append ended with ⟨middle, earlier, last⟩
  rw [List.take_length] at last
  exact ⟨middle, earlier, (Script.ends_command_iff.mp last).symm⟩

theorem file_alter_self {name : List Char} {change : File -> File} {file : File}
    (found : begun.file name = some file) :
    (begun.alter name change).file name = some (change file) := by
  rcases begun with ⟨dotenv, dec, enc⟩
  cases dec with
  | directory mode files =>
      have there : files.lookup name = some file := found
      rw [Workspace.alter, file_changeFiles rfl, there]
      exact AList.lookup_insert files
  | missing => cases found
  | link => cases found
  | other => cases found

theorem file_create (name : List Char) (closed : begun.Closed) :
    (begun.create name).file name = some ⟨[], 0o600⟩ := by
  rcases closed with ⟨files, place⟩
  rw [Workspace.create, file_changeFiles place]
  exact AList.lookup_insert files

theorem file_move {source target : List Char} {file : File}
    (found : begun.file source = some file) : (begun.move source target).file target = some file := by
  rcases begun with ⟨dotenv, dec, enc⟩
  cases dec with
  | directory mode files =>
      have there : files.lookup source = some file := found
      rw [Workspace.move, file_changeFiles rfl, there]
      exact AList.lookup_insert (files.erase source)
  | missing => cases found
  | link => cases found
  | other => cases found

/-- A redirection leaves the whole text in a file that was there. -/
theorem file_of_gradually {name : List Char} {content : List UInt8}
    (there : Exists fun written => begun.file name = some ⟨written, 0o600⟩)
    (ended : Script.Ends (gradually (Workspace.write name) content) begun () final) :
    final.file name = some ⟨content, 0o600⟩ := by
  rcases ends_gradually ended with ⟨middle, earlier, rfl⟩
  have kept : Exists fun written => middle.file name = some ⟨written, 0o600⟩ := by
    refine Script.Ends.forM (fun state =>
      Exists fun written => state.file name = some ⟨written, 0o600⟩) ?_ there earlier
    rintro size state later _ ⟨written, found⟩ turned
    rw [← Script.ends_command_iff.mp turned]
    exact ⟨_, file_alter_self found⟩
  rcases kept with ⟨written, found⟩
  exact file_alter_self found

theorem replacePlaintext_ends {choice : Choice} {name : List Char} {output : List UInt8 × Nat}
    (closed : begun.Closed)
    (ended : Script.Ends (replacePlaintext choice name output) begun () final) :
    output.2 = 0 ∧ final.file (plaintextName name) = some ⟨output.1, 0o600⟩ := by
  rcases Script.ends_bind_iff.mp ended with ⟨seen, same, looked, ended⟩
  rcases Script.ends_get_iff.mp looked with ⟨rfl, rfl⟩
  split at ended
  · exact absurd ended Script.not_ends_fail
  · rcases Script.ends_bind_iff.mp ended with ⟨_, created, made, ended⟩
    rcases Script.ends_bind_iff.mp ended with ⟨_, restricted, changed, ended⟩
    rcases Script.ends_bind_iff.mp ended with ⟨_, filled, written, ended⟩
    rw [Script.ends_command_iff] at made changed
    have there := file_create (temporary choice name) closed
    rw [made] at there
    have hidden : restricted.file (temporary choice name) = some ⟨[], 0o600⟩ := by
      rw [← changed]
      exact file_alter_self there
    have whole := file_of_gradually ⟨[], hidden⟩ written
    split at ended
    · next succeeded =>
        rw [← Script.ends_command_iff.mp ended]
        exact ⟨succeeded, file_move whole⟩
    · exact absurd ended Script.not_ends_fail

theorem decryptOne_ends {host : Host} {choice : Choice} {name : List Char}
    (closed : begun.Closed) (ended : Script.Ends (decryptOne host choice name) begun () final) :
    Exists fun ciphertext => begun.enc.lookup (ciphertextName name) = some ciphertext ∧
      (host.sops.decrypt choice.moment ciphertext).2 = 0 ∧
      final.file (plaintextName name) =
        some ⟨(host.sops.decrypt choice.moment ciphertext).1, 0o600⟩ := by
  rcases Script.ends_bind_iff.mp ended with ⟨seen, same, looked, ended⟩
  rcases Script.ends_get_iff.mp looked with ⟨rfl, rfl⟩
  cases found : begun.enc.lookup (ciphertextName name) with
  | none =>
      rw [found] at ended
      exact absurd ended Script.not_ends_fail
  | some ciphertext =>
      rw [found] at ended
      exact ⟨ciphertext, rfl, replacePlaintext_ends closed ended⟩

/-- One name that is not empty is selected as it is. -/
theorem selection_singleton {host : Host} {extension : List Char} {listed : List (List Char)}
    {name : Name} (given : name.text ≠ []) :
    selection host extension listed [name] = [name.text] := by
  simp [selection, given]

theorem ends_forM_singleton {body : List Char -> Recipe} {name : List Char}
    (ended : Script.Ends ([name].forM body) begun () final) :
    Script.Ends (body name) begun () final := by
  rcases Script.ends_bind_iff.mp ended with ⟨_, middle, turned, finished⟩
  rw [← (Script.ends_pure_iff.mp finished).2]
  exact turned

theorem envDecrypt_ends {host : Host} {choice : Choice} {name : Name} (given : name.text ≠ [])
    (ended : Script.Ends (envDecrypt host choice [name]) begun () final) :
    Exists fun ciphertext => begun.enc.lookup (ciphertextName name.text) = some ciphertext ∧
      (host.sops.decrypt choice.moment ciphertext).2 = 0 ∧
      final.file (plaintextName name.text) =
        some ⟨(host.sops.decrypt choice.moment ciphertext).1, 0o600⟩ := by
  rcases Script.ends_bind_iff.mp ended with ⟨_, ready, prepared, ended⟩
  rcases envDec_ends prepared with ⟨closed, _, _, enc⟩
  rcases Script.ends_bind_iff.mp ended with ⟨seen, same, looked, ended⟩
  rcases Script.ends_get_iff.mp looked with ⟨rfl, rfl⟩
  rw [selection_singleton given] at ended
  rw [← enc]
  exact decryptOne_ends closed (ends_forM_singleton ended)

theorem gradually_completes (change : List UInt8 -> Workspace -> Workspace) (content : List UInt8)
    (begun : Workspace) :
    Exists fun final => Script.Ends (gradually change content) begun () final := by
  rw [gradually]
  generalize List.range (content.length + 1) = sizes
  induction sizes generalizing begun with
  | nil => exact ⟨begun, Script.ends_pure_iff.mpr ⟨rfl, rfl⟩⟩
  | cons size rest ih =>
      rcases ih (change (content.take size) begun) with ⟨final, later⟩
      exact ⟨final, Script.ends_bind_iff.mpr ⟨(), _, Script.ends_command_iff.mpr rfl, later⟩⟩

theorem replacePlaintext_completes_iff {choice : Choice} {name : List Char}
    {output : List UInt8 × Nat} :
    (Exists fun final => Script.Ends (replacePlaintext choice name output) begun () final) ↔
      begun.file (temporary choice name) = none ∧ output.2 = 0 := by
  constructor
  · rintro ⟨final, ended⟩
    rcases Script.ends_bind_iff.mp ended with ⟨seen, same, looked, ended⟩
    rcases Script.ends_get_iff.mp looked with ⟨rfl, rfl⟩
    split at ended
    · exact absurd ended Script.not_ends_fail
    · next absent =>
        rw [Bool.not_eq_true, Option.isSome_eq_false_iff, Option.isNone_iff_eq_none] at absent
        rcases Script.ends_bind_iff.mp ended with ⟨_, created, made, ended⟩
        rcases Script.ends_bind_iff.mp ended with ⟨_, restricted, changed, ended⟩
        rcases Script.ends_bind_iff.mp ended with ⟨_, filled, written, ended⟩
        split at ended
        · next succeeded => exact ⟨absent, succeeded⟩
        · exact absurd ended Script.not_ends_fail
  · rintro ⟨absent, succeeded⟩
    rcases gradually_completes (Workspace.write (temporary choice name)) output.1
      ((begun.create (temporary choice name)).chmod (temporary choice name) 0o600)
      with ⟨filled, written⟩
    refine ⟨filled.move (temporary choice name) (plaintextName name), ?_⟩
    refine Script.ends_bind_iff.mpr ⟨begun, begun, Script.ends_get_iff.mpr ⟨rfl, rfl⟩, ?_⟩
    rw [absent]
    refine Script.ends_bind_iff.mpr ⟨(), _, Script.ends_command_iff.mpr rfl, ?_⟩
    refine Script.ends_bind_iff.mpr ⟨(), _, Script.ends_command_iff.mpr rfl, ?_⟩
    refine Script.ends_bind_iff.mpr ⟨(), filled, written, ?_⟩
    rw [if_pos succeeded]
    exact Script.ends_command_iff.mpr rfl

theorem envDec_completes_iff {host : Host} :
    (Exists fun ready => Script.Ends (envDec host) begun () ready) ↔
      begun.dec ≠ .link ∧ begun.dec ≠ .other := by
  rcases begun with ⟨dotenv, dec, enc⟩
  constructor
  · rintro ⟨ready, ended⟩
    rcases Script.ends_bind_iff.mp ended with ⟨seen, same, looked, ended⟩
    rcases Script.ends_get_iff.mp looked with ⟨rfl, rfl⟩
    constructor
    · rintro rfl
      exact absurd ended Script.not_ends_fail
    · rintro rfl
      exact absurd ended Script.not_ends_fail
  · rintro ⟨link, other⟩
    refine ⟨((⟨dotenv, dec, enc⟩ : Workspace).makeDec host.directoryMode).chmodDec 0o700,
      Script.ends_bind_iff.mpr ⟨_, _, Script.ends_get_iff.mpr ⟨rfl, rfl⟩, ?_⟩⟩
    cases dec with
    | link => exact absurd rfl link
    | other => exact absurd rfl other
    | missing =>
        exact Script.ends_bind_iff.mpr ⟨(), _, Script.ends_command_iff.mpr rfl,
          Script.ends_command_iff.mpr rfl⟩
    | directory mode files =>
        exact Script.ends_bind_iff.mpr ⟨(), _, Script.ends_command_iff.mpr rfl,
          Script.ends_command_iff.mpr rfl⟩

theorem envDecrypt_completes_iff {host : Host} {choice : Choice} {name : Name}
    (given : name.text ≠ []) :
    (Exists fun final => Script.Ends (envDecrypt host choice [name]) begun () final) ↔
      (begun.dec ≠ .link ∧ begun.dec ≠ .other) ∧
      begun.file (temporary choice name.text) = none ∧
      Exists fun ciphertext => begun.enc.lookup (ciphertextName name.text) = some ciphertext ∧
        (host.sops.decrypt choice.moment ciphertext).2 = 0 := by
  constructor
  · rintro ⟨final, ended⟩
    rcases envDecrypt_ends given ended with ⟨ciphertext, found, succeeded, _⟩
    rcases Script.ends_bind_iff.mp ended with ⟨_, ready, prepared, ended⟩
    rcases envDec_ends prepared with ⟨_, files, _, enc⟩
    rcases Script.ends_bind_iff.mp ended with ⟨seen, same, looked, ended⟩
    rcases Script.ends_get_iff.mp looked with ⟨rfl, rfl⟩
    rw [selection_singleton given] at ended
    rcases Script.ends_bind_iff.mp (ends_forM_singleton ended) with ⟨seen, same, looked, ended⟩
    rcases Script.ends_get_iff.mp looked with ⟨rfl, rfl⟩
    rw [enc, found] at ended
    have free := (replacePlaintext_completes_iff.mp ⟨final, ended⟩).1
    rw [Workspace.file, files] at free
    exact ⟨envDec_completes_iff.mp ⟨ready, prepared⟩, free, ciphertext, found, succeeded⟩
  · rintro ⟨usable, free, ciphertext, found, succeeded⟩
    rcases envDec_completes_iff.mpr usable with ⟨ready, prepared⟩
    rcases envDec_ends prepared with ⟨_, files, _, enc⟩
    rw [Workspace.file, ← files] at free
    rcases replacePlaintext_completes_iff.mpr ⟨free, succeeded⟩ with ⟨final, replaced⟩
    refine ⟨final, Script.ends_bind_iff.mpr ⟨(), ready, prepared, ?_⟩⟩
    refine Script.ends_bind_iff.mpr ⟨ready, ready, Script.ends_get_iff.mpr ⟨rfl, rfl⟩, ?_⟩
    rw [selection_singleton given]
    refine Script.ends_bind_iff.mpr ⟨(), final, ?_, Script.ends_pure_iff.mpr ⟨rfl, rfl⟩⟩
    refine Script.ends_bind_iff.mpr ⟨ready, ready, Script.ends_get_iff.mpr ⟨rfl, rfl⟩, ?_⟩
    rw [enc, found]
    exact replaced

end

/-! ## Runs that leave a ciphertext alone -/

/-- `env/dec` after `env-clean`. -/
def cleaned (workspace : Workspace) : Workspace :=
  (recipe sampleHost sampleChoice .clean).stopped 100 workspace

end Environments
end EmbeddedAlerts
