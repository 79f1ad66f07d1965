import EmbeddedAlerts.Library.Json
import EmbeddedAlerts.Library.UniqueKeys

namespace EmbeddedAlerts
namespace Json

/-!
# Records in JSON

A derived reader takes a record from an object or from an array.  In an object
the fields stand in any order, no field may occur twice, and with
`deny_unknown_fields` no other name may occur.  In an array they stand in the
order of their declaration, and only fields at the end may be missing.

What a record gives for its fields is therefore spelled in exactly these ways:
as an object whose members are the given fields in some order, or as an array
that begins with them.  A record whose fields are all there is an object with
all of them, or the array of the fields.
-/

/-- What is given for each field, in the order of declaration. -/
def fields (names : List String) : Json -> Option (List (Option Json))
  | .object members =>
      if members.all (fun member => names.contains member.1) = true ∧
          (members.map Prod.fst).Nodup then
        some (names.map (fun name => members.lookup name))
      else none
  | .array items =>
      if items.length ≤ names.length then
        some (items.map some ++ List.replicate (names.length - items.length) none)
      else none
  | _ => none

/-- The members of an object that gives these fields. -/
def givenMembers (names : List String) (given : List (Option Json)) : List (String × Json) :=
  (names.zip given).filterMap (fun field => field.2.map (fun value => (field.1, value)))

/-- The spellings of a record that gives some of its fields. -/
inductive Gives (names : List String) (given : List (Option Json)) : Json -> Prop
  | object {members : List (String × Json)} : members.Perm (givenMembers names given) ->
      Gives names given (.object members)
  | array {items : List Json} {missing : Nat} :
      given = items.map some ++ List.replicate missing none -> Gives names given (.array items)

/-- The spellings of a record with all of its fields. -/
inductive Carries (names : List String) (values : List Json) : Json -> Prop
  | object {members : List (String × Json)} : members.Perm (names.zip values) ->
      Carries names values (.object members)
  | array : Carries names values (.array values)

/-- Every field is given. -/
def allFields (names : List String) (value : Json) : Option (List Json) :=
  (fields names value).bind (fun given => given.mapM id)

section

variable {names : List String} {given : List (Option Json)} {values : List Json}

theorem mapM_id_eq_some_iff {α : Type} {given : List (Option α)} {results : List α} :
    given.mapM id = some results ↔ given = results.map some := by
  induction given generalizing results with
  | nil =>
      cases results with
      | nil => exact iff_of_true rfl rfl
      | cons head tail => exact iff_of_false (by simp) (by simp)
  | cons first rest ih =>
      rw [List.mapM_cons]
      cases first with
      | none => exact iff_of_false (by simp) (by cases results <;> simp)
      | some value =>
          cases results with
          | nil =>
              refine iff_of_false ?_ (by simp)
              intro impossible
              rcases Option.bind_eq_some_iff.mp impossible with ⟨_, _, impossible⟩
              rcases Option.bind_eq_some_iff.mp impossible with ⟨_, _, impossible⟩
              cases impossible
          | cons head tail =>
              rw [List.map_cons, List.cons.injEq, Option.some.injEq, ← ih]
              constructor
              · intro done
                rcases Option.bind_eq_some_iff.mp done with ⟨_, same, done⟩
                rcases Option.bind_eq_some_iff.mp done with ⟨_, later, done⟩
                cases same
                cases done
                exact ⟨rfl, later⟩
              · rintro ⟨rfl, later⟩
                rw [later]
                rfl

theorem mem_givenMembers_iff {name : String} {value : Json} :
    (name, value) ∈ givenMembers names given ↔
      Exists fun index : Nat => names[index]? = some name ∧ given[index]? = some (some value) := by
  rw [givenMembers, List.mem_filterMap]
  constructor
  · rintro ⟨⟨field, slot⟩, member, same⟩
    rcases Option.map_eq_some_iff.mp same with ⟨other, filled, equal⟩
    cases equal
    rcases List.mem_iff_getElem?.mp member with ⟨index, found⟩
    rcases List.getElem?_zip_eq_some.mp found with ⟨named, held⟩
    exact ⟨index, named, held.trans (congrArg some filled)⟩
  · rintro ⟨index, named, held⟩
    refine ⟨(name, some value), ?_, rfl⟩
    exact List.mem_iff_getElem?.mpr ⟨index, List.getElem?_zip_eq_some.mpr ⟨named, held⟩⟩

theorem givenMembers_names :
    ((givenMembers names given).map Prod.fst).Sublist names := by
  induction names generalizing given with
  | nil => exact List.Sublist.slnil
  | cons name rest ih =>
      cases given with
      | nil => exact List.nil_sublist _
      | cons slot later =>
          cases slot with
          | none => exact ih.cons name
          | some value => exact ih.cons_cons name

theorem givenMembers_map_some (complete : values.length = names.length) :
    givenMembers names (values.map some) = names.zip values := by
  induction names generalizing values with
  | nil => rfl
  | cons name rest ih =>
      cases values with
      | nil => cases complete
      | cons value later => exact congrArg ((name, value) :: ·) (ih (Nat.succ.inj complete))

/-- In an object with unique names, looking up every field finds what is given
exactly when the members are the given fields. -/
theorem map_lookup_eq_iff {members : List (String × Json)} (distinct : names.Nodup)
    (complete : given.length = names.length) (unique : (members.map Prod.fst).Nodup)
    (known : members.all (fun member => names.contains member.1) = true) :
    names.map (fun name => members.lookup name) = given ↔
      members.Perm (givenMembers names given) := by
  have fieldsUnique : ((givenMembers names given).map Prod.fst).Nodup :=
    distinct.sublist givenMembers_names
  rw [List.perm_ext_iff_of_nodup unique.of_map fieldsUnique.of_map]
  constructor
  · rintro found ⟨name, value⟩
    rw [mem_givenMembers_iff]
    constructor
    · intro member
      have listed := List.all_eq_true.mp known (name, value) member
      rcases List.mem_iff_getElem?.mp (List.contains_iff_mem.mp listed) with ⟨index, named⟩
      refine ⟨index, named, ?_⟩
      rw [← found, List.getElem?_map, named, Option.map_some,
        (UniqueKeys.lookup_eq_some_iff unique).mpr member]
    · rintro ⟨index, named, held⟩
      rw [← found, List.getElem?_map, named, Option.map_some, Option.some.injEq] at held
      exact (UniqueKeys.lookup_eq_some_iff unique).mp held
  · intro same
    apply List.ext_getElem?
    intro index
    rw [List.getElem?_map]
    cases named : names[index]? with
    | none =>
        rw [List.getElem?_eq_none_iff] at named
        rw [Option.map_none, eq_comm, List.getElem?_eq_none_iff]
        omega
    | some name =>
        have inside : index < given.length := by
          rw [complete]
          exact (List.getElem?_eq_some_iff.mp named).1
        rw [Option.map_some, List.getElem?_eq_getElem inside, Option.some.injEq]
        apply Option.ext
        intro value
        rw [UniqueKeys.lookup_eq_some_iff unique, same, mem_givenMembers_iff]
        constructor
        · -- A name stands at one place among the fields.
          rintro ⟨other, named', held⟩
          have apart := List.nodup_iff_getElem?_ne_getElem?.mp distinct
          have place : other = index := by
            by_contra different
            rcases Nat.lt_or_gt_of_ne different with before | after
            · exact apart other index before (List.getElem?_eq_some_iff.mp named).1
                (named'.trans named.symm)
            · exact apart index other after (List.getElem?_eq_some_iff.mp named').1
                (named.trans named'.symm)
          rw [place, List.getElem?_eq_getElem inside, Option.some.injEq] at held
          exact held
        · intro held
          exact ⟨index, named, by rw [List.getElem?_eq_getElem inside, held]⟩

/-- What a record gives for its fields is spelled as its reader expects it. -/
theorem fields_eq_some_iff (distinct : names.Nodup) (complete : given.length = names.length)
    (json : Json) : fields names json = some given ↔ Gives names given json := by
  unfold fields
  split
  · next members =>
      constructor
      · intro read
        split at read
        · next wellFormed =>
            exact .object ((map_lookup_eq_iff distinct complete wellFormed.2 wellFormed.1).mp
              (Option.some.inj read))
        · cases read
      · intro gives
        cases gives with
        | object permuted =>
          have names' := permuted.map Prod.fst
          have unique : (members.map Prod.fst).Nodup :=
            names'.nodup_iff.mpr (distinct.sublist givenMembers_names)
          have known : members.all (fun member => names.contains member.1) = true := by
            rw [List.all_eq_true]
            intro member present
            rw [List.contains_iff_mem]
            exact givenMembers_names.subset (names'.mem_iff.mp (List.mem_map_of_mem present))
          rw [if_pos ⟨known, unique⟩, Option.some.injEq]
          exact (map_lookup_eq_iff distinct complete unique known).mpr permuted
  · next items =>
      constructor
      · intro read
        split at read
        · exact .array (Option.some.inj read).symm
        · cases read
      · intro gives
        cases gives with
        | @array _ missing filled =>
          have total : items.length + missing = names.length := by
            rw [← complete, filled, List.length_append, List.length_map, List.length_replicate]
          rw [if_pos (by omega), filled, ← total, Nat.add_sub_cancel_left]
  · next notObject notArray =>
      refine iff_of_false (fun impossible => nomatch impossible) ?_
      intro gives
      cases gives with
      | object _ => exact notObject _ rfl
      | array _ => exact notArray _ rfl

/-- A record with all of its fields is spelled as its reader expects it. -/
theorem allFields_eq_some_iff (distinct : names.Nodup) (complete : values.length = names.length)
    (json : Json) : allFields names json = some values ↔ Carries names values json := by
  unfold allFields
  simp only [Option.bind_eq_some_iff, mapM_id_eq_some_iff, exists_eq_right]
  rw [fields_eq_some_iff distinct ((List.length_map _).trans complete) json]
  constructor
  · intro gives
    cases gives with
    | object permuted =>
        rw [givenMembers_map_some complete] at permuted
        exact .object permuted
    | @array items missing filled =>
        -- Nothing is missing, so the items are the values.
        have whole : missing = 0 := by
          by_contra short
          have absent : (none : Option Json) ∈ values.map Option.some := by
            rw [filled]
            exact List.mem_append_right _ (List.mem_replicate.mpr ⟨short, rfl⟩)
          rcases List.mem_map.mp absent with ⟨_, _, impossible⟩
          cases impossible
        rw [whole, List.replicate_zero, List.append_nil] at filled
        rw [List.map_injective_iff.mpr (Option.some_injective _) filled]
        exact .array
  · intro carries
    cases carries with
    | object permuted =>
        refine .object ?_
        rw [givenMembers_map_some complete]
        exact permuted
    | array =>
        have whole : values.map some = values.map some ++ List.replicate 0 none :=
          (List.append_nil _).symm
        exact .array whole

end

end Json
end EmbeddedAlerts
