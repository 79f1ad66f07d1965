import Mathlib.Tactic

namespace EmbeddedAlerts
namespace Assignments

/-!
# Lists of assignments

A list of named values is read into a map in one of two ways: a later value
overrides an earlier one, or the first value stays.  In a list that was sorted
first, the value that overrides the others is the greatest one.
-/

variable {κ ν : Type} [DecidableEq κ]

/-- The values of one name, in order. -/
def values (entries : List (κ × ν)) (key : κ) : List ν :=
  (entries.filter (fun entry => decide (entry.1 = key))).map Prod.snd

def firstValue (entries : List (κ × ν)) (key : κ) : Option ν := (values entries key).head?

def lastValue (entries : List (κ × ν)) (key : κ) : Option ν := (values entries key).getLast?

/-- Set a name, whatever it was. -/
def override (environment : κ -> Option ν) (entry : κ × ν) : κ -> Option ν :=
  fun key => if entry.1 = key then some entry.2 else environment key

/-- Set a name that is not set yet. -/
def supply (environment : κ -> Option ν) (entry : κ × ν) : κ -> Option ν :=
  if (environment entry.1).isSome then environment else override environment entry

theorem values_cons (entry : κ × ν) (entries : List (κ × ν)) (key : κ) :
    values (entry :: entries) key =
      if entry.1 = key then entry.2 :: values entries key else values entries key := by
  unfold values
  by_cases same : entry.1 = key
  · rw [List.filter_cons_of_pos (by simpa using same), if_pos same, List.map_cons]
  · rw [List.filter_cons_of_neg (by simpa using same), if_neg same]

theorem mem_values {entries : List (κ × ν)} {key : κ} {value : ν} :
    value ∈ values entries key ↔ (key, value) ∈ entries := by
  simp only [values, List.mem_map, List.mem_filter, decide_eq_true_eq, Prod.exists, exists_eq_right]

theorem firstValue_eq_none_iff {entries : List (κ × ν)} {key : κ} :
    firstValue entries key = none ↔ forall value, (key, value) ∉ entries := by
  rw [firstValue, List.head?_eq_none_iff, List.eq_nil_iff_forall_not_mem]
  simp only [mem_values]

theorem values_map {μ : Type} (change : ν -> μ) (entries : List (κ × ν)) (key : κ) :
    values (entries.map (fun entry => (entry.1, change entry.2))) key =
      (values entries key).map change := by
  induction entries with
  | nil => rfl
  | cons entry rest ih =>
      rw [List.map_cons, values_cons, values_cons, ih]
      by_cases same : entry.1 = key
      · rw [if_pos same, if_pos same, List.map_cons]
      · rw [if_neg same, if_neg same]

theorem lastValue_map {μ : Type} (change : ν -> μ) (entries : List (κ × ν)) (key : κ) :
    lastValue (entries.map (fun entry => (entry.1, change entry.2))) key =
      (lastValue entries key).map change := by
  rw [lastValue, values_map, List.getLast?_map]
  rfl

theorem firstValue_map {μ : Type} (change : ν -> μ) (entries : List (κ × ν)) (key : κ) :
    firstValue (entries.map (fun entry => (entry.1, change entry.2))) key =
      (firstValue entries key).map change := by
  rw [firstValue, values_map, List.head?_map]
  rfl

/-- The first value of a name among the entries read from a list of items is
that of the first item which carries the name. -/
theorem firstValue_filterMap {α : Type} {read : α -> Option (κ × ν)} {key : κ}
    {carries : α -> Bool} (carried : forall item, carries item = true ↔
      Exists fun value => read item = some (key, value)) (items : List α) :
    firstValue (items.filterMap read) key =
      (items.find? carries).bind (fun item => (read item).map Prod.snd) := by
  induction items with
  | nil => rfl
  | cons item rest ih =>
      rw [List.find?_cons]
      cases found : carries item with
      | true =>
          rcases (carried item).mp found with ⟨value, same⟩
          rw [List.filterMap_cons_some same, firstValue, values_cons, if_pos rfl]
          exact (congrArg (Option.map Prod.snd) same).symm
      | false =>
          rw [← ih]
          cases other : read item with
          | none => rw [List.filterMap_cons_none other]
          | some entry =>
              have different : entry.1 ≠ key := by
                rintro rfl
                rw [(carried item).mpr ⟨entry.2, other⟩] at found
                cases found
              rw [List.filterMap_cons_some other, firstValue, values_cons, if_neg different]
              rfl

/-- The first item with a property is the first with a narrower one, if it has
that. -/
theorem find?_of_narrower {α : Type} {wide narrow : α -> Bool}
    (narrower : forall item, narrow item = true -> wide item = true) {items : List α} {first : α}
    (found : items.find? wide = some first) (holds : narrow first = true) :
    items.find? narrow = some first := by
  rcases List.find?_eq_some_iff_append.mp found with ⟨_, before, after, rfl, none⟩
  refine List.find?_eq_some_iff_append.mpr ⟨holds, before, after, rfl, ?_⟩
  intro item member
  rw [Bool.not_eq_true']
  refine Bool.eq_false_iff.mpr (fun early => ?_)
  have wider := none item member
  rw [narrower item early] at wider
  cases wider

/-- Overriding in order leaves the last value of every name. -/
theorem foldl_override (entries : List (κ × ν)) (environment : κ -> Option ν) (key : κ) :
    entries.foldl override environment key = (lastValue entries key).or (environment key) := by
  induction entries generalizing environment with
  | nil => rfl
  | cons entry rest ih =>
      rw [List.foldl_cons, ih, lastValue, lastValue, values_cons]
      by_cases same : entry.1 = key
      · rw [if_pos same, List.getLast?_cons, override, if_pos same]
        cases (values rest key).getLast? with
        | none => rfl
        | some value => rfl
      · rw [if_neg same, override, if_neg same]

theorem supply_apply (environment : κ -> Option ν) (entry : κ × ν) (key : κ) :
    supply environment entry key =
      (environment key).or (if entry.1 = key then some entry.2 else none) := by
  unfold supply
  by_cases same : entry.1 = key
  · rw [if_pos same, same]
    cases held : environment key with
    | none => simp [override, same]
    | some value => simp [held]
  · rw [if_neg same, Option.or_none]
    split
    · rfl
    · rw [override, if_neg same]

/-- Supplying in order leaves what was there, else the first value. -/
theorem foldl_supply (entries : List (κ × ν)) (environment : κ -> Option ν) (key : κ) :
    entries.foldl supply environment key = (environment key).or (firstValue entries key) := by
  induction entries generalizing environment with
  | nil => exact (Option.or_none).symm
  | cons entry rest ih =>
      rw [List.foldl_cons, ih, supply_apply, firstValue, firstValue, values_cons, Option.or_assoc]
      by_cases same : entry.1 = key
      · rw [if_pos same, if_pos same]
        rfl
      · rw [if_neg same, if_neg same]
        rfl

/-! ## After sorting -/

/-- The last of sorted values is the last of the given ones exactly when that
one is the greatest. -/
theorem getLast?_sorted_iff {le : ν -> ν -> Prop} (reflexive : forall value, le value value)
    (antisymmetric : forall left right, le left right -> le right left -> left = right)
    {items sorted : List ν} (permuted : sorted.Perm items) (ordered : sorted.Pairwise le) :
    sorted.getLast? = items.getLast? ↔
      forall last, items.getLast? = some last -> forall value, value ∈ items -> le value last := by
  -- Everything is below the last of the sorted values.
  have greatest : forall last, sorted.getLast? = some last -> forall value, value ∈ sorted ->
      le value last := by
    intro last found value member
    rcases List.getLast?_eq_some_iff.mp found with ⟨earlier, rfl⟩
    rcases List.mem_append.mp member with before | same
    · exact (List.pairwise_append.mp ordered).2.2 value before last (List.mem_singleton_self _)
    · rw [List.mem_singleton.mp same]
      exact reflexive last
  constructor
  · intro same last found value member
    exact greatest last (same.trans found) value (permuted.mem_iff.mpr member)
  · intro above
    cases found : items.getLast? with
    | none =>
        rw [List.getLast?_eq_none_iff] at found ⊢
        rw [found] at permuted
        exact permuted.eq_nil
    | some last =>
        cases top : sorted.getLast? with
        | none =>
            rw [List.getLast?_eq_none_iff] at top
            rw [top] at permuted
            rw [permuted.symm.eq_nil] at found
            cases found
        | some most =>
            congr 1
            refine antisymmetric most last ?_ ?_
            · exact above last found most (permuted.mem_iff.mp (List.mem_of_getLast? top))
            · exact greatest most top last
                (permuted.mem_iff.mpr (List.mem_of_getLast? found))

theorem values_perm {left right : List (κ × ν)} (permuted : left.Perm right) (key : κ) :
    (values left key).Perm (values right key) :=
  (permuted.filter _).map _

end Assignments
end EmbeddedAlerts
