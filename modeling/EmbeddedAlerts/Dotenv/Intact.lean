import EmbeddedAlerts.Dotenv.Entrypoint

namespace EmbeddedAlerts
namespace Entrypoint

open PosixShell (dropNull Leaves EndsInOnly)

/-!
# The values that the entrypoint keeps

The comment over the loop says that splitting on the first `=` only keeps a
value intact.  What `read` leaves for `value` is the rest of the line, except
that a rest which is one field loses the `=` that ends it, as base64 with one
character of padding does.

A line that is a name alone is read as an empty value, null characters are gone
before the line is read, and `key` and `value` belong to `read`.  Outside these
cases every value goes to the application as it is written.
-/

/-- The names that a secret may have. -/
def isVariableName (name : List Char) : Bool :=
  PosixShell.isName name && !Dotenv.sopsPrefix.isPrefixOf name

def textLines (decrypted : List Char) : List (List Char) :=
  PosixShell.readLines (decrypted ++ ['\n'])

/-- A line as it is written: a name, and everything after the first `=`. -/
def writtenField (line : List Char) : Option (List Char × List Char) :=
  (PosixShell.splitAssignment line).filter (fun entry => isVariableName entry.1)

def written (decrypted : List Char) : List (List Char × List Char) :=
  (textLines decrypted).filterMap writtenField

/-- The application gets what was set as it was, the first value of every other
name as it is written, and nothing else. -/
def KeepsValues (decrypted : List Char) (state : Variables) : Prop :=
  forall name, environment (loop decrypted state) name =
    if (state name).isSome then environment state name
    else Assignments.firstValue (written decrypted) name

/-- Without its null characters the line is the name, or goes on with `=`. -/
def names (name line : List Char) : Bool :=
  dropNull line == name || (name ++ ['=']).isPrefixOf (dropNull line)

/-- The line carries a value that `read` does not change; or it is not a line
`name=value` at all, and leaves what the first of these carries. -/
def KeptLine (decrypted name line : List Char) : Prop :=
  (Exists fun value => line = name ++ '=' :: value ∧ '\x00' ∉ value ∧
    Not (EndsInOnly '=' value)) ∨
  (Not (name ++ ['='] <+: line) ∧ Exists fun value =>
    Assignments.firstValue (written decrypted) name = some value ∧
      Leaves '=' name value (dropNull line))

/-- The texts and the variables for which the loop keeps the values. -/
structure Intact (decrypted : List Char) (state : Variables) : Prop where
  lines : forall name, isVariableName name = true -> Not (assignedByRead name) ->
    state name = none -> forall line, (textLines decrypted).find? (names name) = some line ->
      KeptLine decrypted name line
  unwritten : forall name, assignedByRead name -> state name = none ->
    forall value, (name, value) ∉ written decrypted
  empty : forall name, assignedByRead name ->
    forall value, environment state name = some value -> value = []

/-! ## Both readings of a line -/

theorem not_isNameStart_of_isDigit {character : Char}
    (digit : PosixShell.isDigit character = true) : PosixShell.isNameStart character = false := by
  rw [PosixShell.isDigit, Bool.and_eq_true, decide_eq_true_eq, decide_eq_true_eq] at digit
  rw [Bool.eq_false_iff]
  intro start
  simp only [PosixShell.isNameStart, Bool.or_eq_true, Bool.and_eq_true, decide_eq_true_eq,
    beq_iff_eq] at start
  rcases start with (upper | lower) | rfl
  · exact absurd (Char.le_trans upper.1 digit.2) (by decide)
  · exact absurd (Char.le_trans lower.1 digit.2) (by decide)
  · exact absurd digit.2 (by decide)

/-- The two patterns pass over everything but these names. -/
theorem passedOver_or_invalidName (name : List Char) :
    (passedOver name || invalidName name) = !isVariableName name := by
  cases name with
  | nil => rfl
  | cons first rest =>
      have hash : (some first == some '#') = true -> PosixShell.isNameStart first = false := by
        intro same
        rw [Option.some.inj (beq_iff_eq.mp same)]
        rfl
      have digit := @not_isNameStart_of_isDigit first
      have others : rest.any (fun character => !PosixShell.isNameCharacter character) =
          !rest.all PosixShell.isNameCharacter := List.not_all_eq_any_not.symm
      have named : PosixShell.isNameCharacter first =
        (PosixShell.isNameStart first || PosixShell.isDigit first) := rfl
      simp only [passedOver, invalidName, isVariableName, PosixShell.isName, List.isEmpty_cons,
        List.head?_cons, Option.any_some, List.any_cons, others, named]
      revert hash digit
      generalize PosixShell.isNameStart first = start
      generalize PosixShell.isDigit first = numeral
      generalize (some first == some '#') = comment
      generalize rest.all PosixShell.isNameCharacter = valid
      generalize Dotenv.sopsPrefix.isPrefixOf (first :: rest) = internal
      revert start numeral comment valid internal
      decide

theorem equals_not_mem_of_isVariableName {name : List Char}
    (named : isVariableName name = true) : '=' ∉ name := by
  rw [isVariableName, Bool.and_eq_true] at named
  exact PosixShell.equals_not_mem_of_isName named.1

theorem field_eq_some_iff {line name value : List Char} :
    field line = some (name, value) ↔
      isVariableName name = true ∧ Leaves '=' name value line := by
  unfold field
  simp only [passedOver_or_invalidName]
  constructor
  · intro found
    split at found
    · cases found
    · next named =>
        rw [Option.some.injEq] at found
        rw [found] at named
        have valid : isVariableName name = true := by simpa using named
        exact ⟨valid, (PosixShell.readFields_eq_iff
          (equals_not_mem_of_isVariableName valid)).mp found⟩
  · rintro ⟨named, left⟩
    rw [(PosixShell.readFields_eq_iff (equals_not_mem_of_isVariableName named)).mpr left, named]
    rfl

theorem writtenField_eq_some_iff {line name value : List Char} :
    writtenField line = some (name, value) ↔
      isVariableName name = true ∧ line = name ++ '=' :: value := by
  constructor
  · intro found
    rcases Option.filter_eq_some_iff.mp found with ⟨split, named⟩
    exact ⟨named, PosixShell.eq_append_of_splitAssignment split⟩
  · rintro ⟨named, rfl⟩
    rw [writtenField, PosixShell.splitAssignment_append (equals_not_mem_of_isVariableName named),
      Option.filter_some, if_pos named]

theorem begins_iff {name line : List Char} :
    name ++ ['='] <+: line ↔ Exists fun value => line = name ++ '=' :: value := by
  simp only [List.IsPrefix, List.append_assoc, List.singleton_append]
  exact exists_congr (fun value => eq_comm)

theorem names_iff {name line : List Char} (named : isVariableName name = true) :
    names name line = true ↔
      Exists fun value => field (dropNull line) = some (name, value) := by
  simp only [field_eq_some_iff, named, true_and, names, Bool.or_eq_true, beq_iff_eq,
    List.isPrefixOf_iff_prefix, begins_iff]
  constructor
  · rintro (bare | ⟨rest, split⟩)
    · exact ⟨[], Or.inl ⟨bare, rfl⟩⟩
    · by_cases only : EndsInOnly '=' rest
      · rcases only with ⟨front, rfl, clear⟩
        exact ⟨front, Or.inr (Or.inr ⟨split, clear⟩)⟩
      · exact ⟨rest, Or.inr (Or.inl ⟨split, only⟩)⟩
  · rintro ⟨value, ⟨bare, _⟩ | ⟨split, _⟩ | ⟨split, _⟩⟩
    · exact Or.inl bare
    · exact Or.inr ⟨value, split⟩
    · exact Or.inr ⟨value ++ ['='], split⟩

theorem writes_iff {name line : List Char} (named : isVariableName name = true) :
    (name ++ ['=']).isPrefixOf line = true ↔
      Exists fun value => writtenField line = some (name, value) := by
  simp only [writtenField_eq_some_iff, named, true_and, List.isPrefixOf_iff_prefix, begins_iff]

/-- A line that is written `name=value` names its variable. -/
theorem names_of_written {name line : List Char} (named : isVariableName name = true)
    (begins : (name ++ ['=']).isPrefixOf line = true) : names name line = true := by
  rcases List.isPrefixOf_iff_prefix.mp begins with ⟨value, rfl⟩
  rw [isVariableName, Bool.and_eq_true] at named
  rw [names, Bool.or_eq_true, List.isPrefixOf_iff_prefix, PosixShell.dropNull_append,
    PosixShell.dropNull_append, PosixShell.dropNull_name named.1]
  exact Or.inr (List.prefix_append _ _)

/-! ## Both readings of a text -/

/-- Newlines at the end of a text add lines that are passed over. -/
theorem filterMap_field_rdropWhile (text : List Char) :
    (PosixShell.readLines (text.rdropWhile (fun character => character == '\n') ++
      ['\n'])).filterMap field =
      (PosixShell.readLines (text ++ ['\n'])).filterMap field := by
  induction text using List.reverseRecOn with
  | nil => rfl
  | append_singleton front last ih =>
      by_cases newline : last = '\n'
      · have lines : PosixShell.readLines (front ++ '\n' :: ['\n']) =
            PosixShell.readLines (front ++ ['\n']) ++ [[]] :=
          PosixShell.readLines_append front ['\n']
        rw [List.rdropWhile_concat_pos _ _ _ (by simpa using newline), ih, newline,
          List.append_assoc, List.singleton_append, lines, List.filterMap_append]
        exact (List.append_nil _).symm
      · rw [List.rdropWhile_concat_neg _ _ _ (by simpa using newline)]

/-- The shell reads the lines of the text without their null characters. -/
theorem fields_eq (decrypted : List Char) :
    fields decrypted = (textLines decrypted).filterMap (fun line => field (dropNull line)) := by
  have ended : dropNull decrypted ++ ['\n'] = dropNull (decrypted ++ ['\n']) :=
    (PosixShell.dropNull_append decrypted ['\n']).symm
  rw [fields, documentLines, PosixShell.commandSubstitution, filterMap_field_rdropWhile, ended,
    PosixShell.readLines_dropNull, List.filterMap_map]
  rfl

theorem firstValue_fields (decrypted : List Char) {name : List Char}
    (named : isVariableName name = true) :
    Assignments.firstValue (fields decrypted) name =
      ((textLines decrypted).find? (names name)).bind (fun line =>
        (field (dropNull line)).map Prod.snd) := by
  rw [fields_eq]
  exact Assignments.firstValue_filterMap (fun _ => names_iff named) (textLines decrypted)

theorem firstValue_written (decrypted : List Char) {name : List Char}
    (named : isVariableName name = true) :
    Assignments.firstValue (written decrypted) name =
      ((textLines decrypted).find? (name ++ ['=']).isPrefixOf).bind (fun line =>
        (writtenField line).map Prod.snd) :=
  Assignments.firstValue_filterMap (fun _ => writes_iff named) (textLines decrypted)

/-! ## One name -/

/-- The line is written: it carries its value, and `read` may change it. -/
theorem kept_iff_of_written {decrypted name raw : List Char}
    (named : isVariableName name = true)
    (first : (textLines decrypted).find? (names name) = some (name ++ '=' :: raw)) :
    Assignments.firstValue (fields decrypted) name =
      Assignments.firstValue (written decrypted) name ↔
        KeptLine decrypted name (name ++ '=' :: raw) := by
  have begins : name ++ ['='] <+: name ++ '=' :: raw := begins_iff.mpr ⟨raw, rfl⟩
  have mine : writtenField (name ++ '=' :: raw) = some (name, raw) :=
    writtenField_eq_some_iff.mpr ⟨named, rfl⟩
  have early := Assignments.find?_of_narrower (fun _ => names_of_written named) first
    (List.isPrefixOf_iff_prefix.mpr begins)
  have shell : field (dropNull (name ++ '=' :: raw)) =
      some (name, PosixShell.lastField '=' (dropNull raw)) := by
    have clean : dropNull (name ++ '=' :: raw) = name ++ '=' :: dropNull raw := by
      rw [isVariableName, Bool.and_eq_true] at named
      rw [PosixShell.dropNull_append, PosixShell.dropNull_name named.1]
      rfl
    unfold field
    simp only [passedOver_or_invalidName, clean,
      PosixShell.readFields_append (equals_not_mem_of_isVariableName named), named]
    rfl
  rw [firstValue_fields decrypted named, first, firstValue_written decrypted named, early,
    Option.bind_some, Option.bind_some, shell, mine, Option.map_some, Option.map_some,
    Option.some.injEq, PosixShell.lastField_dropNull_eq_iff]
  constructor
  · rintro ⟨clean, other⟩
    exact Or.inl ⟨raw, rfl, clean, other⟩
  · rintro (⟨value, same, clean, other⟩ | ⟨unwritten, _⟩)
    · have equal : raw = value := by simpa using same
      rw [equal]
      exact ⟨clean, other⟩
    · exact absurd begins unwritten

/-- The line is not written: it leaves a value of its own. -/
theorem kept_iff_of_unwritten {decrypted name line : List Char}
    (named : isVariableName name = true)
    (first : (textLines decrypted).find? (names name) = some line)
    (unwritten : Not (name ++ ['='] <+: line)) :
    Assignments.firstValue (fields decrypted) name =
      Assignments.firstValue (written decrypted) name ↔ KeptLine decrypted name line := by
  rcases (names_iff named).mp (List.find?_some first) with ⟨value, found⟩
  rw [firstValue_fields decrypted named, first, Option.bind_some, found, Option.map_some]
  constructor
  · intro same
    exact Or.inr ⟨unwritten, value, same.symm, (field_eq_some_iff.mp found).2⟩
  · rintro (⟨other, rfl, _⟩ | ⟨_, other, same, left⟩)
    · exact absurd (begins_iff.mpr ⟨other, rfl⟩) unwritten
    · have again := field_eq_some_iff.mpr ⟨named, left⟩
      rw [found, Option.some.injEq, Prod.mk.injEq] at again
      rw [same, again.2]

theorem kept_iff (decrypted : List Char) {name : List Char}
    (named : isVariableName name = true) :
    Assignments.firstValue (fields decrypted) name =
      Assignments.firstValue (written decrypted) name ↔
        forall line, (textLines decrypted).find? (names name) = some line ->
          KeptLine decrypted name line := by
  cases first : (textLines decrypted).find? (names name) with
  | none =>
      have unwritten : (textLines decrypted).find? (name ++ ['=']).isPrefixOf = none := by
        rw [List.find?_eq_none] at first ⊢
        exact fun line member begins => first line member (names_of_written named begins)
      rw [firstValue_fields decrypted named, first, firstValue_written decrypted named, unwritten]
      refine iff_of_true rfl ?_
      intro line found
      cases found
  | some line =>
      have whole : Assignments.firstValue (fields decrypted) name =
          Assignments.firstValue (written decrypted) name ↔ KeptLine decrypted name line := by
        by_cases begins : name ++ ['='] <+: line
        · rcases begins_iff.mp begins with ⟨raw, rfl⟩
          exact kept_iff_of_written named first
        · exact kept_iff_of_unwritten named first begins
      rw [whole]
      constructor
      · intro kept other same
        rw [← Option.some.inj same]
        exact kept
      · intro kept
        exact kept line rfl

/-! ## Every name -/

theorem firstValue_eq_none_of_not_isVariableName (decrypted : List Char) {name : List Char}
    (other : Not (isVariableName name = true)) :
    Assignments.firstValue (fields decrypted) name = none ∧
      Assignments.firstValue (written decrypted) name = none := by
  constructor
  · rw [Assignments.firstValue_eq_none_iff]
    intro value member
    rcases List.mem_filterMap.mp member with ⟨line, _, found⟩
    exact other (field_eq_some_iff.mp found).1
  · rw [Assignments.firstValue_eq_none_iff]
    intro value member
    rcases List.mem_filterMap.mp member with ⟨line, _, found⟩
    exact other (writtenField_eq_some_iff.mp found).1

/-- `read` leaves its two names empty. -/
theorem environment_loop_assigned (decrypted : List Char) (state : Variables) {name : List Char}
    (assigned : assignedByRead name) : environment (loop decrypted state) name =
      (environment state name).map (fun _ => []) := by
  rw [environment, environment, loop_assigned decrypted state assigned, isExported]
  cases state name with
  | none => rfl
  | some entry =>
      rcases entry with ⟨value, exported⟩
      cases exported with
      | true => rfl
      | false => rfl

theorem assigned_kept_iff (decrypted : List Char) (state : Variables) {name : List Char}
    (assigned : assignedByRead name) :
    (environment (loop decrypted state) name =
      if (state name).isSome then environment state name
      else Assignments.firstValue (written decrypted) name) ↔
        (state name = none -> forall value, (name, value) ∉ written decrypted) ∧
          forall value, environment state name = some value -> value = [] := by
  rw [environment_loop_assigned decrypted state assigned]
  cases held : state name with
  | none =>
      have absent : environment state name = none := by
        rw [environment, held]
        rfl
      rw [absent, Option.map_none, eq_comm]
      simp only [Option.isSome_none, Bool.false_eq_true, if_false,
        Assignments.firstValue_eq_none_iff, true_implies]
      exact (and_iff_left (fun value found => by cases found)).symm
  | some entry =>
      simp only [Option.isSome_some, if_true, reduceCtorEq, false_implies, true_and]
      cases environment state name with
      | none => simp
      | some value => simp [eq_comm]

/-- The loop keeps the values exactly when the first line of every name that is
free carries a value which `read` does not change, and the text and the
variables leave the names of `read` alone. -/
theorem keepsValues_iff_intact (decrypted : List Char) (state : Variables) :
    KeepsValues decrypted state ↔ Intact decrypted state := by
  constructor
  · intro keeps
    refine ⟨?_, ?_, ?_⟩
    · intro name named other free
      have same := keeps name
      rw [environment_loop decrypted state other, free] at same
      exact (kept_iff decrypted named).mp same
    · intro name assigned
      exact ((assigned_kept_iff decrypted state assigned).mp (keeps name)).1
    · intro name assigned
      exact ((assigned_kept_iff decrypted state assigned).mp (keeps name)).2
  · intro intact name
    by_cases assigned : assignedByRead name
    · exact (assigned_kept_iff decrypted state assigned).mpr
        ⟨intact.unwritten name assigned, intact.empty name assigned⟩
    · rw [environment_loop decrypted state assigned]
      cases held : state name with
      | some entry => rfl
      | none =>
          change Assignments.firstValue (fields decrypted) name = _
          by_cases named : isVariableName name = true
          · exact (kept_iff decrypted named).mpr (intact.lines name named assigned held)
          · rcases firstValue_eq_none_of_not_isVariableName decrypted named with
              ⟨unread, unwritten⟩
            exact unread.trans unwritten.symm

/-- `ab` in base64, which ends in one `=`. -/
def paddedText : List Char := "TOKEN=YWI=\n".toList

/-- The application gets the value without its padding. -/
theorem padded_value_cut :
    environment (loop paddedText (fun _ => none)) "TOKEN".toList = some "YWI".toList ∧
    Assignments.firstValue (written paddedText) "TOKEN".toList = some "YWI=".toList ∧
    Not (KeepsValues paddedText (fun _ => none)) := by
  have cut : environment (loop paddedText (fun _ => none)) "TOKEN".toList =
      some "YWI".toList := by
    decide +kernel
  have whole : Assignments.firstValue (written paddedText) "TOKEN".toList =
      some "YWI=".toList := by
    decide +kernel
  refine ⟨cut, whole, ?_⟩
  intro keeps
  have same := keeps "TOKEN".toList
  rw [cut, whole] at same
  exact absurd same (by decide +kernel)

end Entrypoint
end EmbeddedAlerts
