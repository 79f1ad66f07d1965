import Mathlib.Tactic

namespace EmbeddedAlerts
namespace Runs

/-!
# Runs of a step function

A system is given by a partial step function: an action either is not enabled
in a state or leads to one next state.  Everything that is not determined
(scheduling, faults, the environment) is a choice of action.

A run may be restricted by a condition on the state before each step and the
action taken there.  An invariant is established once for the start and once
for a step, and then holds in every reachable state.
-/

variable {σ α : Type}

/-- The states reachable from a starting state when every step taken meets
the condition. -/
inductive Reachable (step : σ -> α -> Option σ) (start : σ -> Prop)
    (condition : σ -> α -> Prop) : σ -> Prop
  | start {state : σ} : start state -> Reachable step start condition state
  | step {state next : σ} {action : α} :
      Reachable step start condition state -> condition state action ->
      step state action = some next -> Reachable step start condition next

/-- No restriction on the steps of a run. -/
def anyStep : σ -> α -> Prop := fun _ _ => True

/-- The invariant rule. -/
theorem Reachable.invariant {step : σ -> α -> Option σ} {start : σ -> Prop}
    {condition : σ -> α -> Prop} {holds : σ -> Prop}
    (atStart : forall state, start state -> holds state)
    (atStep : forall state action next, holds state -> condition state action ->
      step state action = some next -> holds next)
    {state : σ} (reached : Reachable step start condition state) : holds state := by
  induction reached with
  | start begun => exact atStart _ begun
  | step _ meets taken ih => exact atStep _ _ _ ih meets taken

/-- Forgetting the condition on the steps. -/
theorem Reachable.unrestricted {step : σ -> α -> Option σ} {start : σ -> Prop}
    {condition : σ -> α -> Prop} {state : σ} (reached : Reachable step start condition state) :
    Reachable step start anyStep state := by
  induction reached with
  | start begun => exact .start begun
  | step _ _ taken ih => exact .step ih trivial taken

/-- Perform a list of actions, as long as each is enabled and passes a test. -/
def execute (step : σ -> α -> Option σ) (test : σ -> α -> Bool) : σ -> List α -> Option σ
  | state, [] => some state
  | state, action :: rest =>
      if test state action then
        (step state action).bind (fun next => execute step test next rest)
      else none

/-- The test that every step passes. -/
def unchecked : σ -> α -> Bool := fun _ _ => true

theorem execute_cons {step : σ -> α -> Option σ} {state middle next : σ} {action : α}
    {rest : List α} (first : step state action = some middle)
    (later : execute step unchecked middle rest = some next) :
    execute step unchecked state (action :: rest) = some next := by
  rw [execute, first]
  exact later

theorem execute_append {step : σ -> α -> Option σ} {state middle next : σ}
    {actions rest : List α} (first : execute step unchecked state actions = some middle)
    (later : execute step unchecked middle rest = some next) :
    execute step unchecked state (actions ++ rest) = some next := by
  induction actions generalizing state with
  | nil =>
      cases first
      exact later
  | cons action remaining ih =>
      rw [execute, if_pos (show unchecked state action = true from rfl)] at first
      rcases Option.bind_eq_some_iff.mp first with ⟨between, taken, done⟩
      exact execute_cons taken (ih done)

/-- A computed run is a run, for every condition that its test implies. -/
theorem Reachable.execute {step : σ -> α -> Option σ} {test : σ -> α -> Bool}
    {start : σ -> Prop} {condition : σ -> α -> Prop}
    (sound : forall state action, test state action = true -> condition state action)
    {state next : σ} {actions : List α} (reached : Reachable step start condition state)
    (done : execute step test state actions = some next) :
    Reachable step start condition next := by
  induction actions generalizing state with
  | nil =>
      cases done
      exact reached
  | cons action rest ih =>
      rw [Runs.execute] at done
      split at done
      · next passes =>
          rcases Option.bind_eq_some_iff.mp done with ⟨middle, first, later⟩
          exact ih (.step reached (sound state action passes) first) later
      · cases done

end Runs
end EmbeddedAlerts
