import Mathlib.Tactic

namespace EmbeddedAlerts
namespace EarlyExit

/-!
# Loops that end at the first failure

A loop takes one turn for every item, in the state that the turns before have
left.  A turn yields a result or a failure and a next state either way.  Seen
one by one the items have outcomes.  A loop that propagates a failure only
reaches the items before it.

The loop gives every item that succeeds its result exactly when no failure
stands before a success.
-/

variable {σ ι ε ω : Type}

/-- What becomes of each item when a failure does not end the loop. -/
def outcomes (turn : σ -> ι -> Except ε ω × σ) : σ -> List ι -> List (Except ε ω)
  | _, [] => []
  | state, item :: rest => (turn state item).1 :: outcomes turn (turn state item).2 rest

/-- The results of the loop that returns at the first failure. -/
def untilFailure (turn : σ -> ι -> Except ε ω × σ) : σ -> List ι -> List ω
  | _, [] => []
  | state, item :: rest =>
      match turn state item with
      | (.ok result, next) => result :: untilFailure turn next rest
      | (.error _, _) => []

/-- The results before the first failure. -/
def successes : List (Except ε ω) -> List ω
  | .ok result :: rest => result :: successes rest
  | _ => []

theorem untilFailure_eq_successes (turn : σ -> ι -> Except ε ω × σ) (state : σ) (items : List ι) :
    untilFailure turn state items = successes (outcomes turn state items) := by
  induction items generalizing state with
  | nil => rfl
  | cons item rest ih =>
      rw [untilFailure, outcomes]
      rcases turn state item with ⟨outcome, next⟩
      cases outcome with
      | error failure => rfl
      | ok result =>
          simp only [successes]
          rw [ih next]

/-- Every success is reached. -/
def Reaches (turn : σ -> ι -> Except ε ω × σ) (state : σ) (items : List ι) : Prop :=
  forall (index : Nat) (result : ω), (outcomes turn state items)[index]? = some (.ok result) ->
    (untilFailure turn state items)[index]? = some result

/-- No failure stands before a success. -/
def FailuresLast (listed : List (Except ε ω)) : Prop :=
  forall (earlier later : Nat) (failure : ε) (result : ω), listed[earlier]? = some (.error failure) ->
    listed[later]? = some (.ok result) -> later ≤ earlier

private theorem successes_iff (listed : List (Except ε ω)) :
    (forall (index : Nat) (result : ω), listed[index]? = some (.ok result) ->
      (successes listed)[index]? = some result) ↔ FailuresLast listed := by
  induction listed with
  | nil =>
      constructor
      · intro _ earlier later failure result impossible
        cases impossible
      · intro _ index result impossible
        cases impossible
  | cons head tail ih =>
      cases head with
      | ok first =>
          -- The head is reached in any case.
          constructor
          · intro reaches
            have inTail := ih.mp (fun index result found => reaches (index + 1) result found)
            intro earlier later failure result failed succeeded
            cases earlier with
            | zero => cases failed
            | succ earlier =>
                cases later with
                | zero => exact Nat.zero_le _
                | succ later =>
                    exact Nat.succ_le_succ (inTail earlier later failure result failed succeeded)
          · intro last index result found
            cases index with
            | zero =>
                cases found
                rfl
            | succ index =>
                apply ih.mpr ?_ index result found
                intro earlier later failure result failed succeeded
                exact Nat.le_of_succ_le_succ
                  (last (earlier + 1) (later + 1) failure result failed succeeded)
      | error failure =>
          -- Nothing behind the head is reached, so nothing there may succeed.
          constructor
          · intro reaches earlier later _ result _ succeeded
            have impossible := reaches later result succeeded
            cases impossible
          · intro last index result found
            have first := last 0 index failure result rfl found
            rw [Nat.le_zero.mp first] at found
            cases found

theorem reaches_iff (turn : σ -> ι -> Except ε ω × σ) (state : σ) (items : List ι) :
    Reaches turn state items ↔ FailuresLast (outcomes turn state items) := by
  rw [Reaches, untilFailure_eq_successes]
  exact successes_iff _

/-! ## Items that fail by themselves -/

/-- A loop over distinct items that stops at the first one it refuses reaches
every wanted item exactly when none of them stands at or behind a refused one. -/
theorem reached_iff {items : List ι} (nodup : items.Nodup) (accept wanted : ι -> Bool) :
    (forall item, item ∈ items -> wanted item = true -> item ∈ items.takeWhile accept) ↔
      forall (earlier later : Nat) (first item : ι), items[earlier]? = some first ->
        accept first = false -> items[later]? = some item -> earlier ≤ later ->
        wanted item = false := by
  induction items with
  | nil =>
      constructor
      · intro _ earlier later first item impossible
        cases impossible
      · intro _ item absent
        exact absurd absent List.not_mem_nil
  | cons head tail ih =>
      rw [List.nodup_cons] at nodup
      cases accepted : accept head with
      | true =>
          rw [List.takeWhile_cons_of_pos accepted]
          constructor
          · intro reaches earlier later first item refusedAt refused wantedAt behind
            have inTail : forall other, other ∈ tail -> wanted other = true ->
                other ∈ tail.takeWhile accept := by
              intro other present needed
              rcases List.mem_cons.mp (reaches other (List.mem_cons_of_mem _ present) needed) with
                same | reached
              · exact absurd (same ▸ present) nodup.1
              · exact reached
            cases earlier with
            | zero =>
                cases refusedAt
                rw [accepted] at refused
                cases refused
            | succ earlier =>
                cases later with
                | zero => exact absurd behind (Nat.not_succ_le_zero earlier)
                | succ later =>
                    exact (ih nodup.2).mp inTail earlier later first item refusedAt refused
                      wantedAt (Nat.le_of_succ_le_succ behind)
          · intro condition item present needed
            rcases List.mem_cons.mp present with same | later
            · exact List.mem_cons.mpr (Or.inl same)
            · refine List.mem_cons_of_mem _ ((ih nodup.2).mpr ?_ item later needed)
              intro earlier later first other refusedAt refused wantedAt behind
              exact condition (earlier + 1) (later + 1) first other refusedAt refused wantedAt
                (Nat.succ_le_succ behind)
      | false =>
          -- The loop ends at once.
          rw [List.takeWhile_cons_of_neg (by rw [accepted]; exact Bool.false_ne_true)]
          constructor
          · intro reaches earlier later first item _ _ wantedAt _
            cases needed : wanted item with
            | false => rfl
            | true =>
                exact absurd (reaches item (List.mem_of_getElem? wantedAt) needed)
                  List.not_mem_nil
          · intro condition item present needed
            rcases List.getElem?_of_mem present with ⟨later, found⟩
            rw [condition 0 later head item rfl accepted found (Nat.zero_le later)] at needed
            cases needed

end EarlyExit
end EmbeddedAlerts
