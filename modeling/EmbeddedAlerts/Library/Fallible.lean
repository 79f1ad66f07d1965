import Mathlib.Tactic

namespace EmbeddedAlerts
namespace Fallible

/-!
# Peeling apart computations that may fail

A computation in `Except` that returns a value ran each of its parts to a
value.  The laws here turn that into equations, so that a proof about a
sequence of fallible steps never unfolds the monad.
-/

variable {ε α β : Type}

theorem bind_eq_ok_iff (first : Except ε α) (next : α -> Except ε β) (result : β) :
    (first >>= next) = .ok result ↔
      Exists fun value => first = .ok value ∧ next value = .ok result := by
  cases first with
  | error message => simp [bind, Except.bind]
  | ok value => simp [bind, Except.bind]

/-- A check before the rest. -/
theorem check_eq_ok_iff (check : Except ε Unit) (next : Unit -> Except ε β) (result : β) :
    (check >>= next) = .ok result ↔ check = .ok () ∧ next () = .ok result := by
  rw [bind_eq_ok_iff]
  exact Unique.exists_iff

/-- Two computations whose results look alike fail alike or both return. -/
theorem map_eq_map_cases {view : α -> β} {left right : Except ε α}
    (same : left.map view = right.map view) :
    (Exists fun failure => left = .error failure ∧ right = .error failure) ∨
      Exists fun results : α × α => left = .ok results.1 ∧ right = .ok results.2 ∧
        view results.1 = view results.2 := by
  cases left with
  | error failure =>
      cases right with
      | error other =>
          cases same
          exact Or.inl ⟨failure, rfl, rfl⟩
      | ok value => cases same
  | ok value =>
      cases right with
      | error other => cases same
      | ok other => exact Or.inr ⟨(value, other), rfl, rfl, Except.ok.inj same⟩

/-- Every result of a list of computations comes from one of its items. -/
theorem exists_of_mem_mapM {items : List α} {results : List β} {step : α -> Except ε β}
    (done : items.mapM step = .ok results) {result : β} (member : result ∈ results) :
    Exists fun item => item ∈ items ∧ step item = .ok result := by
  induction items generalizing results with
  | nil =>
      cases done
      cases member
  | cons head tail ih =>
      rw [List.mapM_cons] at done
      rcases (bind_eq_ok_iff _ _ _).mp done with ⟨first, stepped, done⟩
      rcases (bind_eq_ok_iff _ _ _).mp done with ⟨rest, later, done⟩
      cases done
      rcases List.mem_cons.mp member with rfl | inRest
      · exact ⟨head, List.mem_cons_self, stepped⟩
      · rcases ih later inRest with ⟨item, present, same⟩
        exact ⟨item, List.mem_cons_of_mem _ present, same⟩

/-- Every item of a list of computations has a result among the results. -/
theorem exists_of_mapM_ok {items : List α} {results : List β} {step : α -> Except ε β}
    (done : items.mapM step = .ok results) {item : α} (member : item ∈ items) :
    Exists fun result => result ∈ results ∧ step item = .ok result := by
  induction items generalizing results with
  | nil => cases member
  | cons head tail ih =>
      rw [List.mapM_cons] at done
      rcases (bind_eq_ok_iff _ _ _).mp done with ⟨first, stepped, done⟩
      rcases (bind_eq_ok_iff _ _ _).mp done with ⟨rest, later, done⟩
      cases done
      rcases List.mem_cons.mp member with rfl | inTail
      · exact ⟨first, List.mem_cons_self, stepped⟩
      · rcases ih later inTail with ⟨result, present, same⟩
        exact ⟨result, List.mem_cons_of_mem _ present, same⟩

/-- A list of computations that all return. -/
theorem mapM_some {step : α -> Option β} {result : α -> β} {items : List α}
    (each : forall item, item ∈ items -> step item = some (result item)) :
    items.mapM step = some (items.map result) := by
  induction items with
  | nil => rfl
  | cons head tail ih =>
      rw [List.map_cons, List.mapM_cons, each head List.mem_cons_self,
        ih (fun item later => each item (List.mem_cons_of_mem _ later))]
      rfl

theorem mapM_map_some {γ : Type} {step : β -> Option γ} {form : α -> β} {result : α -> γ}
    {items : List α} (each : forall item, item ∈ items -> step (form item) = some (result item)) :
    (items.map form).mapM step = some (items.map result) := by
  rw [List.mapM_map]
  exact mapM_some each

/-- Where a list of computations returns, each of them has returned. -/
theorem exists_of_mapM_some {step : α -> Option β} {items : List α} {results : List β}
    (done : items.mapM step = some results) {item : α} (member : item ∈ items) :
    Exists fun result => result ∈ results ∧ step item = some result := by
  induction items generalizing results with
  | nil => cases member
  | cons head tail ih =>
      rw [List.mapM_cons] at done
      rcases Option.bind_eq_some_iff.mp done with ⟨first, stepped, done⟩
      rcases Option.bind_eq_some_iff.mp done with ⟨rest, later, done⟩
      cases done
      rcases List.mem_cons.mp member with rfl | inTail
      · exact ⟨first, List.mem_cons_self, stepped⟩
      · rcases ih later inTail with ⟨result, present, same⟩
        exact ⟨result, List.mem_cons_of_mem _ present, same⟩

/-- Return early with an error when the test fires. -/
def refuseIf (fires : Bool) (message : ε) : Except ε Unit :=
  if fires then .error message else .ok ()

@[simp] theorem refuseIf_eq_ok_iff (fires : Bool) (message : ε) :
    refuseIf fires message = .ok () ↔ fires = false := by
  cases fires <;> simp [refuseIf]

end Fallible
end EmbeddedAlerts
