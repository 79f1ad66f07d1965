import Mathlib.Tactic

namespace EmbeddedAlerts
namespace Sql

/-!
# Conditions in a query

A condition is true, false or unknown, and a row is taken only if its condition
is true.  Evaluating a condition may raise an error, and then the whole query
fails.  In which order the parts of a conjunction are evaluated is up to the
database, and a part is skipped once another one is false.  So whether a query
fails may depend on the order, but the rows of a query that succeeds do not.
-/

/-- A truth value, where nothing stands for `NULL`. -/
abbrev Truth := Option Bool

variable {ε α ρ : Type}

/-- `=`. -/
def equal [DecidableEq α] : Option α -> Option α -> Truth
  | some left, some right => some (decide (left = right))
  | _, _ => none

/-- `AND`. -/
def both : Truth -> Truth -> Truth
  | some false, _ => some false
  | _, some false => some false
  | some true, some true => some true
  | _, _ => none

/-- The second part is not evaluated if the first one is false. -/
def inOrder (first second : Except ε Truth) : Except ε Truth :=
  match first with
  | .error failure => .error failure
  | .ok (some false) => .ok (some false)
  | .ok truth => second.map (both truth)

/-- A conjunction in one of its two orders. -/
def conjunction (swapped : Bool) (left right : Except ε Truth) : Except ε Truth :=
  if swapped then inOrder right left else inOrder left right

/-- The rows whose condition is true, if no condition raises an error. -/
def select (condition : ρ -> Except ε Truth) : List ρ -> Except ε (List ρ)
  | [] => .ok []
  | row :: rest =>
      match condition row, select condition rest with
      | .ok truth, .ok kept => .ok (if truth = some true then row :: kept else kept)
      | .error failure, _ => .error failure
      | _, .error failure => .error failure

theorem equal_eq_true_iff [DecidableEq α] {left right : Option α} :
    equal left right = some true ↔ Exists fun value => left = some value ∧ right = some value := by
  cases left with
  | none => simp [equal]
  | some value =>
      cases right with
      | none => simp [equal]
      | some other => simp [equal, eq_comm]

theorem both_eq_true_iff {left right : Truth} :
    both left right = some true ↔ left = some true ∧ right = some true := by
  rcases left with _ | _ | _ <;> rcases right with _ | _ | _ <;> decide

theorem inOrder_eq_true_iff {first second : Except ε Truth} :
    inOrder first second = .ok (some true) ↔
      first = .ok (some true) ∧ second = .ok (some true) := by
  cases first with
  | error failure => simp [inOrder]
  | ok truth =>
      rcases truth with _ | _ | _
      · cases second <;> simp [inOrder, Except.map, both_eq_true_iff]
      · simp [inOrder]
      · cases second <;> simp [inOrder, Except.map, both_eq_true_iff]

theorem conjunction_eq_true_iff {swapped : Bool} {left right : Except ε Truth} :
    conjunction swapped left right = .ok (some true) ↔
      left = .ok (some true) ∧ right = .ok (some true) := by
  unfold conjunction
  cases swapped with
  | false => exact inOrder_eq_true_iff
  | true => exact inOrder_eq_true_iff.trans And.comm

/-- Nothing raises an error if neither part does. -/
theorem conjunction_ok {swapped : Bool} {left right : Truth} :
    Exists fun truth => conjunction swapped (.ok left : Except ε Truth) (.ok right) = .ok truth := by
  unfold conjunction inOrder
  cases swapped <;> rcases left with _ | _ | _ <;> rcases right with _ | _ | _ <;>
    exact ⟨_, rfl⟩

/-- A query that succeeds has the rows whose condition is true. -/
theorem select_eq_filter {condition : ρ -> Except ε Truth} {taken : ρ -> Bool}
    (exactly : forall row, condition row = .ok (some true) ↔ taken row = true) {rows kept : List ρ}
    (selected : select condition rows = .ok kept) : kept = rows.filter taken := by
  induction rows generalizing kept with
  | nil =>
      cases selected
      rfl
  | cons row rest ih =>
      unfold select at selected
      split at selected
      · next truth later found remaining =>
          cases selected
          rw [ih remaining, List.filter_cons]
          by_cases holds : truth = some true
          · have true := (exactly row).mp (found.trans (congrArg Except.ok holds))
            rw [if_pos holds, if_pos true]
          · have other : ¬taken row = true := by
              intro true
              apply holds
              exact Except.ok.inj (found.symm.trans ((exactly row).mpr true))
            rw [if_neg holds, if_neg other]
      · cases selected
      · cases selected

theorem select_ok {condition : ρ -> Except ε Truth}
    (quiet : forall row, Exists fun truth => condition row = .ok truth) (rows : List ρ) :
    Exists fun kept => select condition rows = .ok kept := by
  induction rows with
  | nil => exact ⟨[], rfl⟩
  | cons row rest ih =>
      rcases quiet row with ⟨truth, found⟩
      rcases ih with ⟨kept, remaining⟩
      rw [select, found, remaining]
      exact ⟨_, rfl⟩

end Sql
end EmbeddedAlerts
