import Mathlib.Tactic

namespace EmbeddedAlerts
namespace Noninterference

/-!
# What one party sees of a shared service

A service answers one input after the other and keeps a state between them.
Some of the inputs are one party's own.  The party is not affected by the
others if its answers are those that it would get if nobody else had ever asked
anything: the inputs of the others can be struck out of the run.

The service need not be deterministic.  What it leaves open may come out
differently in the two runs, so answers are compared by a relation.

This follows from two facts about single inputs, for a relation between states
that says what the party can tell apart.  A foreign input leads to a state that
the party cannot tell from the one before, and an own input is answered alike
in states that it cannot tell apart, and keeps them so.

Not every input fits every state.  What is assumed of the inputs of a run is a
predicate on the state and the inputs that are still to come.
-/

variable {σ ι ω : Type}

/-- A run over the inputs, with the answers to those that pass the test. -/
inductive Answered (step : σ -> ι -> ω -> σ -> Prop) (own : ι -> Bool) :
    σ -> List ι -> List ω -> Prop
  | done {state : σ} : Answered step own state [] []
  | own {state next : σ} {input : ι} {rest : List ι} {answer : ω} {later : List ω} :
      own input = true -> step state input answer next -> Answered step own next rest later ->
      Answered step own state (input :: rest) (answer :: later)
  | foreign {state next : σ} {input : ι} {rest : List ι} {answer : ω} {later : List ω} :
      own input = false -> step state input answer next -> Answered step own next rest later ->
      Answered step own state (input :: rest) later

/-- The unwinding conditions. -/
structure Unaffected (step : σ -> ι -> ω -> σ -> Prop) (own : ι -> Bool)
    (fits : σ -> List ι -> Prop) (alike : σ -> σ -> Prop) (same : ω -> ω -> Prop) : Prop where
  later : forall {state input rest answer next}, fits state (input :: rest) ->
    step state input answer next -> fits next rest
  foreign : forall {state other input rest answer next}, own input = false ->
    fits state (input :: rest) -> alike state other -> step state input answer next ->
    alike next other
  answered : forall {state other input rest otherRest answer otherAnswer next otherNext},
    own input = true -> fits state (input :: rest) -> fits other (input :: otherRest) ->
    alike state other -> step state input answer next -> step other input otherAnswer otherNext ->
    same answer otherAnswer ∧ alike next otherNext

/-- Striking out the foreign inputs changes no own answer. -/
theorem Unaffected.purge {step : σ -> ι -> ω -> σ -> Prop} {own : ι -> Bool}
    {fits : σ -> List ι -> Prop} {alike : σ -> σ -> Prop} {same : ω -> ω -> Prop}
    (unaffected : Unaffected step own fits alike same) {state other : σ} {inputs : List ι}
    {answers others : List ω} (fit : fits state inputs) (otherFit : fits other (inputs.filter own))
    (seen : alike state other) (run : Answered step own state inputs answers)
    (alone : Answered step own other (inputs.filter own) others) :
    List.Forall₂ same answers others := by
  induction run generalizing other others with
  | done =>
      cases alone
      exact .nil
  | own mine taken _ ih =>
      rw [List.filter_cons_of_pos mine] at otherFit alone
      cases alone with
      | own _ otherTaken otherLater =>
          rcases unaffected.answered mine fit otherFit seen taken otherTaken with ⟨answer, kept⟩
          exact .cons answer (ih (unaffected.later fit taken)
            (unaffected.later otherFit otherTaken) kept otherLater)
      | foreign notMine _ _ => exact absurd (mine.symm.trans notMine) (by decide)
  | foreign notMine taken _ ih =>
      rw [List.filter_cons_of_neg (by rw [notMine]; exact Bool.false_ne_true)] at otherFit alone
      exact ih (unaffected.later fit taken) otherFit
        (unaffected.foreign notMine fit seen taken) alone

end Noninterference
end EmbeddedAlerts
