import Mathlib.Tactic

namespace EmbeddedAlerts

/-!
# Fallible computations with effects

A computation that may fail has done something before it fails.  It is
described by what it has done, in order, and by its result.  In a sequence the
second part does nothing unless the first one has returned.

Two laws suffice for proofs about a sequence: its result in terms of the
results of its parts, and its effects in terms of their effects.
-/

/-- What was done, and what came of it. -/
structure Traced (ε η α : Type) where
  effects : List η
  result : Except ε α

namespace Traced

variable {ε η α β : Type}

/-- A computation without effects. -/
def lift (result : Except ε α) : Traced ε η α := ⟨[], result⟩

def perform (effect : η) : Traced ε η Unit := ⟨[effect], .ok ()⟩

def andThen (first : Traced ε η α) (next : α -> Traced ε η β) : Traced ε η β :=
  match first.result with
  | .ok value => ⟨first.effects ++ (next value).effects, (next value).result⟩
  | .error failure => ⟨first.effects, .error failure⟩

instance : Monad (Traced ε η) where
  pure value := ⟨[], .ok value⟩
  bind := andThen

theorem result_bind_eq_ok_iff {first : Traced ε η α} {next : α -> Traced ε η β} {result : β} :
    (first >>= next).result = .ok result ↔
      Exists fun value => first.result = .ok value ∧ (next value).result = .ok result := by
  simp only [bind, andThen]
  cases first.result with
  | error failure => simp
  | ok value => simp

theorem result_check_eq_ok_iff {check : Traced ε η Unit} {next : Unit -> Traced ε η β} {result : β} :
    (check >>= next).result = .ok result ↔
      check.result = .ok () ∧ (next ()).result = .ok result := by
  rw [result_bind_eq_ok_iff]
  exact Unique.exists_iff

theorem mem_effects_bind_iff {first : Traced ε η α} {next : α -> Traced ε η β} {effect : η} :
    effect ∈ (first >>= next).effects ↔ effect ∈ first.effects ∨
      Exists fun value => first.result = .ok value ∧ effect ∈ (next value).effects := by
  simp only [bind, andThen]
  cases first.result with
  | error failure => simp
  | ok value => simp

theorem mem_effects_check_iff {check : Traced ε η Unit} {next : Unit -> Traced ε η β} {effect : η} :
    effect ∈ (check >>= next).effects ↔ effect ∈ check.effects ∨
      check.result = .ok () ∧ effect ∈ (next ()).effects := by
  rw [mem_effects_bind_iff]
  exact or_congr Iff.rfl Unique.exists_iff

@[simp] theorem effects_lift (result : Except ε α) :
    (lift result : Traced ε η α).effects = [] := rfl

@[simp] theorem result_lift (result : Except ε α) :
    (lift result : Traced ε η α).result = result := rfl

@[simp] theorem effects_perform (effect : η) :
    (perform effect : Traced ε η Unit).effects = [effect] := rfl

@[simp] theorem result_perform (effect : η) :
    (perform effect : Traced ε η Unit).result = .ok () := rfl

@[simp] theorem effects_pure (value : α) : (pure value : Traced ε η α).effects = [] := rfl

@[simp] theorem result_pure (value : α) : (pure value : Traced ε η α).result = .ok value := rfl

end Traced
end EmbeddedAlerts
