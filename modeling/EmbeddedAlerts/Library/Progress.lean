import EmbeddedAlerts.Library.Runs

namespace EmbeddedAlerts
namespace Runs

/-!
# Runs that come to an end

A path is a run together with its actions.  When every action costs something
and a measure of the state pays for it, the measure at the start bounds what a
path can cost.  When in addition an action is enabled wherever the work is not
done, a path that cannot be extended has done it: nothing gets stuck on the way
and nothing goes on forever.
-/

variable {σ α : Type}

/-- The actions of a run in their order, each of which meets the condition in
the state before it. -/
inductive Path (step : σ -> α -> Option σ) (condition : σ -> α -> Prop) :
    σ -> List α -> σ -> Prop
  | nil {state : σ} : Path step condition state [] state
  | cons {state middle next : σ} {action : α} {rest : List α} : condition state action ->
      step state action = some middle -> Path step condition middle rest next ->
      Path step condition state (action :: rest) next

section

variable {step : σ -> α -> Option σ} {condition : σ -> α -> Prop} {state next : σ}
  {actions : List α}

theorem Path.execute (done : Runs.execute step unchecked state actions = some next) :
    Path step anyStep state actions next := by
  induction actions generalizing state with
  | nil =>
      cases done
      exact .nil
  | cons action rest ih =>
      rw [Runs.execute, if_pos (show unchecked state action = true from rfl)] at done
      rcases Option.bind_eq_some_iff.mp done with ⟨middle, taken, later⟩
      exact .cons trivial taken (ih later)

/-- What every step of a path preserves holds at its end. -/
theorem Path.invariant {holds : σ -> Prop}
    (atStep : forall state action next, holds state -> condition state action ->
      step state action = some next -> holds next)
    (path : Path step condition state actions next) (atStart : holds state) : holds next := by
  induction path with
  | nil => exact atStart
  | cons meets taken _ ih => exact ih (atStep _ _ _ atStart meets taken)

/-- The measure pays for the path. -/
theorem Path.cost_le {holds : σ -> Prop} {cost : α -> Nat} {measure : σ -> Nat}
    (atStep : forall state action next, holds state -> condition state action ->
      step state action = some next -> holds next)
    (paid : forall state action next, holds state -> condition state action ->
      step state action = some next -> cost action + measure next ≤ measure state)
    (path : Path step condition state actions next) (atStart : holds state) :
    (actions.map cost).sum + measure next ≤ measure state := by
  induction path with
  | nil => simp
  | cons meets taken _ ih =>
      have later := ih (atStep _ _ _ atStart meets taken)
      have now := paid _ _ _ atStart meets taken
      rw [List.map_cons, List.sum_cons]
      omega

end

end Runs
end EmbeddedAlerts
