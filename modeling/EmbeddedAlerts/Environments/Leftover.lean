import EmbeddedAlerts.Environments.RoundTrip

namespace EmbeddedAlerts
namespace Environments

/-!
# What a killed decryption leaves

A decryption writes into a temporary file, which is renamed at the end.  If it is
killed in between, the file stays.  The name of the file starts with a dot and
does not end in `.env`, so no pattern of a recipe finds it, and `mktemp` takes
another name.  Hence no recipe ever changes or removes it.
-/

theorem foreign_temporary (choice : Choice) (name : List Char) :
    Foreign (temporary choice name) := by
  cases shown : envExtension.isSuffixOf (temporary choice name) with
  | false => exact shown
  | true =>
      have ends : choice.suffix name <:+ temporary choice name := by
        refine ⟨'.' :: name ++ ['.'], ?_⟩
        simp [temporary]
      have shorter : envExtension.length ≤ (choice.suffix name).length := by
        rw [choice.suffix_length]
        decide
      have inside := List.suffix_of_suffix_length_le (List.isSuffixOf_iff_suffix.mp shown) ends
        shorter
      have dot : '.' ∈ choice.suffix name := inside.subset (by decide)
      have plain := List.all_eq_true.mp (choice.suffix_plain name) '.' dot
      exact absurd plain (by decide)

/-- Between the last byte that `sops` writes and the renaming, the whole text is
in the temporary file. -/
theorem replacePlaintext_passes {begun : Workspace} {choice : Choice} {name : List Char}
    {output : List UInt8 × Nat} (closed : begun.Closed)
    (free : begun.file (temporary choice name) = none) (succeeded : output.2 = 0) :
    Exists fun state => state ∈ (replacePlaintext choice name output begun).passed ∧
      state.file (temporary choice name) = some ⟨output.1, 0o600⟩ := by
  rcases gradually_completes (Workspace.write (temporary choice name)) output.1
    ((begun.create (temporary choice name)).chmod (temporary choice name) 0o600)
    with ⟨filled, written⟩
  have hidden : ((begun.create (temporary choice name)).chmod
      (temporary choice name) 0o600).file (temporary choice name) = some ⟨[], 0o600⟩ :=
    file_alter_self (file_create _ closed)
  refine ⟨filled, ?_, file_of_gradually ⟨[], hidden⟩ written⟩
  refine Script.mem_passed_bind_right (Script.ends_get_iff.mpr ⟨rfl, rfl⟩) ?_
  rw [free]
  apply Script.mem_passed_bind_right (Script.ends_command_iff.mpr rfl)
  apply Script.mem_passed_bind_right (Script.ends_command_iff.mpr rfl)
  apply Script.mem_passed_bind_right written
  rw [if_pos succeeded]
  exact Script.mem_passed_command _ filled

theorem envDecrypt_passes {host : Host} {choice : Choice} {name : Name} {begun : Workspace}
    {ciphertext : List UInt8} (given : name.text ≠ [])
    (place : begun.dec ≠ .link ∧ begun.dec ≠ .other)
    (free : begun.file (temporary choice name.text) = none)
    (stored : begun.enc.lookup (ciphertextName name.text) = some ciphertext)
    (succeeded : (host.sops.decrypt choice.moment ciphertext).2 = 0) :
    Exists fun state => state ∈ (envDecrypt host choice [name] begun).passed ∧
      state.file (temporary choice name.text) =
        some ⟨(host.sops.decrypt choice.moment ciphertext).1, 0o600⟩ := by
  rcases envDec_completes_iff.mpr place with ⟨ready, prepared⟩
  rcases envDec_ends prepared with ⟨closed, files, _, enc⟩
  rw [Workspace.file, ← files] at free
  rcases replacePlaintext_passes closed free succeeded with ⟨state, passed, whole⟩
  refine ⟨state, ?_, whole⟩
  apply Script.mem_passed_bind_right prepared
  refine Script.mem_passed_bind_right (Script.ends_get_iff.mpr ⟨rfl, rfl⟩) ?_
  rw [selection_singleton given]
  apply Script.mem_passed_bind_left
  refine Script.mem_passed_bind_right (Script.ends_get_iff.mpr ⟨rfl, rfl⟩) ?_
  rw [enc, stored]
  exact passed

/-- A recipe, and not the user. -/
def Action.byRecipe : Action -> Prop
  | .recipe _ _ _ => True
  | _ => False

def Desk.Holds (name : List Char) (file : File) (desk : Desk) : Prop :=
  desk.workspace.file name = some file

/-- No recipe changes or removes a file that is no plaintext of an
environment. -/
theorem holds_of_recipes {host : Host} {name : List Char} {file : File} {begun : Workspace}
    (foreign : Foreign name) (there : begun.file name = some file) {desk : Desk}
    (reached : Runs.Reachable (Desk.step host) (fun desk => desk.workspace = begun)
      (fun _ action => action.byRecipe) desk) : desk.Holds name file := by
  refine Runs.Reachable.invariant ?_ ?_ reached
  · rintro desk rfl
    exact there
  · intro desk action next found recipes taken
    cases action with
    | recipe call choice commands =>
        cases taken
        exact (within_recipe host choice call desk.workspace _
          (Script.stopped_mem_visited _ commands desk.workspace)).leftover name file found foreign
          id
    | place node => exact recipes.elim
    | edit other content => exact recipes.elim
    | arrange place => exact recipes.elim
    | commit other ciphertext => exact recipes.elim

/-- Whenever `env-decrypt` would succeed, it can be killed so that the whole
plaintext stays in `env/dec`, and then no recipe ever takes it away, `env-clean`
included. -/
theorem killed_decryption_stays (host : Host) (choice : Choice) (name : Name)
    (given : name.text ≠ []) (begun decrypted : Workspace)
    (succeeds : Script.Ends (envDecrypt host choice [name]) begun () decrypted) :
    Exists fun plaintext => decrypted.file (plaintextName name.text) = some plaintext ∧
      Exists fun commands => forall desk,
        Runs.Reachable (Desk.step host)
          (fun desk => desk.workspace = (envDecrypt host choice [name]).stopped commands begun)
          (fun _ action => action.byRecipe) desk ->
        desk.workspace.file (temporary choice name.text) = some plaintext := by
  rcases envDecrypt_ends given succeeds with ⟨ciphertext, stored, succeeded, shown⟩
  rcases (envDecrypt_completes_iff given).mp ⟨decrypted, succeeds⟩ with ⟨place, free, _⟩
  rcases envDecrypt_passes given place free stored succeeded with ⟨state, passed, whole⟩
  rcases Script.exists_stopped passed with ⟨commands, rfl⟩
  refine ⟨_, shown, commands, ?_⟩
  intro desk reached
  exact holds_of_recipes (foreign_temporary choice name.text) whole reached

theorem clone_decrypted : Script.Ends (envDecrypt sampleHost sampleChoice [devName]) clone ()
    (envDecrypt sampleHost sampleChoice [devName] clone).state :=
  Script.ends_of_toBool (by decide +kernel)

theorem clone_decryption_killed : Exists fun commands =>
    ((recipe sampleHost sampleChoice .clean).stopped 100
      ((envDecrypt sampleHost sampleChoice [devName]).stopped commands clone)).file
        ".dev.a1b2c3".toList = some ⟨sampleText, 0o600⟩ := by
  rcases killed_decryption_stays sampleHost sampleChoice devName (by decide) clone _
    clone_decrypted with ⟨plaintext, shown, commands, stays⟩
  have decrypted : (envDecrypt sampleHost sampleChoice [devName] clone).state.file
      (plaintextName devName.text) = some ⟨sampleText, 0o600⟩ := by
    decide +kernel
  cases decrypted.symm.trans shown
  exact ⟨commands, stays _ (Desk.reached_recipe trivial)⟩

end Environments
end EmbeddedAlerts
