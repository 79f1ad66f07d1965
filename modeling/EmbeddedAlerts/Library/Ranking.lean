import Mathlib.Data.List.Sort
import Mathlib.Data.List.TakeWhile

namespace EmbeddedAlerts
namespace Ranking

/-!
# The first rows of an ordered selection

`top order limit rows` is what `ORDER BY order LIMIT limit` returns.  The order
needs to be total and transitive; it has to separate rows only inside the
selection at hand, which is what a unique tie-breaking key provides.

Two facts carry every use.  A row is in the result exactly when fewer than
`limit` rows stand strictly before it, and the result does not depend on the
order in which the table stores its rows.

A worker that takes the first rows one by one and stops at the first that it
cannot handle reaches a row exactly when it can handle all rows up to it.  Once
the first rows are gone, as many fewer stand before every other row.
-/

variable {α : Type} (order : α -> α -> Prop) [DecidableRel order]

/-- The first `limit` rows in the given order. -/
def top (limit : Nat) (rows : List α) : List α :=
  (rows.insertionSort order).take limit

/-- The order tells any two different rows of the selection apart. -/
def Separates (rows : List α) : Prop :=
  forall left, left ∈ rows -> forall right, right ∈ rows ->
    order left right -> order right left -> left = right

theorem mem_of_mem_top {limit : Nat} {rows : List α} {row : α}
    (member : row ∈ top order limit rows) : row ∈ rows :=
  (rows.perm_insertionSort order).mem_iff.mp (List.mem_of_mem_take member)

theorem nodup_top {rows : List α} (nodup : rows.Nodup) (limit : Nat) :
    (top order limit rows).Nodup :=
  ((rows.perm_insertionSort order).nodup_iff.mpr nodup).sublist (List.take_sublist _ _)

/-- A key that is unique in the table is unique in the result. -/
theorem nodup_map_top {β : Type} (key : α -> β) {rows : List α} (nodup : (rows.map key).Nodup)
    (limit : Nat) : ((top order limit rows).map key).Nodup :=
  (((rows.perm_insertionSort order).map key).nodup_iff.mpr nodup).sublist
    ((List.take_sublist _ _).map key)

/-- A selection that fits the limit is returned whole. -/
theorem top_perm_of_length_le {limit : Nat} {rows : List α} (fits : rows.length ≤ limit) :
    (top order limit rows).Perm rows := by
  rw [top, List.take_of_length_le (by rw [(rows.perm_insertionSort order).length_eq]; exact fits)]
  exact rows.perm_insertionSort order

/-- Strictly before: in the order, and not the other way round. -/
def before (row other : α) : Bool :=
  decide (order other row ∧ Not (order row other))

/-- In a sorted list without repetitions, the rows strictly before one of its
members are exactly those that stand at an earlier position. -/
private theorem mem_take_iff_count_before {sorted : List α} {row : α}
    (ordered : sorted.Pairwise order) (nodup : sorted.Nodup) (separates : Separates order sorted)
    (member : row ∈ sorted) (limit : Nat) :
    row ∈ sorted.take limit ↔ sorted.countP (before order row) < limit := by
  induction sorted generalizing limit with
  | nil => cases member
  | cons head tail ih =>
      rw [List.pairwise_cons] at ordered
      rw [List.nodup_cons] at nodup
      have tailSeparates : Separates order tail := fun left leftMember right rightMember =>
        separates left (List.mem_cons_of_mem _ leftMember) right (List.mem_cons_of_mem _ rightMember)
      by_cases same : row = head
      · subst row
        have none : (head :: tail).countP (before order head) = 0 := by
          apply List.countP_eq_zero.mpr
          intro other present selected
          have strict := of_decide_eq_true selected
          rcases List.mem_cons.mp present with equal | later
          · subst other
            exact strict.2 strict.1
          · exact strict.2 (ordered.1 other later)
        rw [none]
        cases limit with
        | zero => simp
        | succ limit => simp
      · have later : row ∈ tail := by
          rcases List.mem_cons.mp member with equal | later
          · exact absurd equal same
          · exact later
        have counted : before order row head = true := by
          apply decide_eq_true
          refine ⟨ordered.1 row later, fun backward => same ?_⟩
          exact separates row (List.mem_cons_of_mem _ later) head
            (List.mem_cons.mpr (Or.inl rfl)) backward (ordered.1 row later)
        rw [List.countP_cons, if_pos counted]
        cases limit with
        | zero => simp
        | succ limit =>
            rw [List.take_succ_cons, List.mem_cons, ih ordered.2 nodup.2 tailSeparates later limit]
            constructor
            · rintro (equal | fewer)
              · exact absurd equal same
              · omega
            · intro fewer
              exact Or.inr (by omega)

/-- In a sorted list without repetitions, a row is reached before the first
refusal exactly when it is taken and nothing up to it is refused. -/
private theorem mem_takeWhile_take_iff {sorted : List α} {row : α}
    (ordered : sorted.Pairwise order) (nodup : sorted.Nodup) (separates : Separates order sorted)
    (member : row ∈ sorted) (limit : Nat) (accept : α -> Bool) :
    row ∈ (sorted.take limit).takeWhile accept ↔ row ∈ sorted.take limit ∧
      forall other, other ∈ sorted -> other = row ∨ before order row other = true ->
        accept other = true := by
  induction sorted generalizing limit with
  | nil => cases member
  | cons head tail ih =>
      rw [List.pairwise_cons] at ordered
      rw [List.nodup_cons] at nodup
      have tailSeparates : Separates order tail := fun left leftMember right rightMember =>
        separates left (List.mem_cons_of_mem _ leftMember) right (List.mem_cons_of_mem _ rightMember)
      cases limit with
      | zero => simp
      | succ limit =>
          rw [List.take_succ_cons]
          by_cases same : row = head
          · subst row
            -- Nothing stands before the head.
            have first : forall other, other ∈ head :: tail -> other = head ∨
                before order head other = true -> other = head := by
              intro other present upTo
              rcases upTo with equal | earlier
              · exact equal
              · have strict := of_decide_eq_true earlier
                rcases List.mem_cons.mp present with equal | later
                · exact equal
                · exact absurd (ordered.1 other later) strict.2
            constructor
            · intro reached
              have accepted := List.mem_takeWhile_imp reached
              exact ⟨List.mem_cons_self, fun other present upTo =>
                (first other present upTo) ▸ accepted⟩
            · intro accepted
              rw [List.takeWhile_cons_of_pos (accepted.2 head List.mem_cons_self (Or.inl rfl))]
              exact List.mem_cons_self
          · have later : row ∈ tail := by
              rcases List.mem_cons.mp member with equal | later
              · exact absurd equal same
              · exact later
            have ahead : before order row head = true := by
              apply decide_eq_true
              refine ⟨ordered.1 row later, fun backward => same ?_⟩
              exact separates row (List.mem_cons_of_mem _ later) head
                (List.mem_cons.mpr (Or.inl rfl)) backward (ordered.1 row later)
            have rest := ih ordered.2 nodup.2 tailSeparates later limit
            cases accepted : accept head with
            | true =>
                rw [List.takeWhile_cons_of_pos accepted, List.mem_cons, List.mem_cons, rest]
                constructor
                · rintro (equal | ⟨taken, upTo⟩)
                  · exact absurd equal same
                  · refine ⟨Or.inr taken, ?_⟩
                    intro other present earlier
                    rcases List.mem_cons.mp present with equal | inTail
                    · rw [equal]
                      exact accepted
                    · exact upTo other inTail earlier
                · rintro ⟨equal | taken, upTo⟩
                  · exact absurd equal same
                  · exact Or.inr ⟨taken, fun other present earlier =>
                      upTo other (List.mem_cons_of_mem _ present) earlier⟩
            | false =>
                rw [List.takeWhile_cons_of_neg (by rw [accepted]; exact Bool.false_ne_true)]
                refine iff_of_false List.not_mem_nil ?_
                rintro ⟨_, upTo⟩
                rw [upTo head List.mem_cons_self (Or.inr ahead)] at accepted
                cases accepted

section Ordered

variable [Std.Total order] [IsTrans α order]

theorem top_eq_of_perm {left right : List α} (separates : Separates order left)
    (permuted : left.Perm right) (limit : Nat) :
    top order limit left = top order limit right := by
  have sorted : left.insertionSort order = right.insertionSort order := by
    refine List.Perm.eq_of_pairwise ?_ (List.pairwise_insertionSort order left)
      (List.pairwise_insertionSort order right)
      ((left.perm_insertionSort order).trans
        (permuted.trans (right.perm_insertionSort order).symm))
    intro first second firstMember secondMember forward backward
    exact separates first ((left.perm_insertionSort order).mem_iff.mp firstMember) second
      (permuted.mem_iff.mpr ((right.perm_insertionSort order).mem_iff.mp secondMember))
      forward backward
  rw [top, sorted, top]

/-- A row of the selection is returned exactly when fewer than `limit` rows
stand strictly before it. -/
theorem mem_top_iff {rows : List α} {row : α} (nodup : rows.Nodup)
    (separates : Separates order rows) (member : row ∈ rows) (limit : Nat) :
    row ∈ top order limit rows ↔ rows.countP (before order row) < limit := by
  have permuted := rows.perm_insertionSort order
  have sortedSeparates : Separates order (rows.insertionSort order) :=
    fun left leftMember right rightMember => separates left (permuted.mem_iff.mp leftMember) right
      (permuted.mem_iff.mp rightMember)
  rw [top, mem_take_iff_count_before order (List.pairwise_insertionSort order rows)
    (permuted.nodup_iff.mpr nodup) sortedSeparates (permuted.mem_iff.mpr member) limit,
    permuted.countP_eq]

theorem mem_takeWhile_top_iff {rows : List α} {row : α} (nodup : rows.Nodup)
    (separates : Separates order rows) (member : row ∈ rows) (limit : Nat)
    (accept : α -> Bool) :
    row ∈ (top order limit rows).takeWhile accept ↔
      rows.countP (before order row) < limit ∧
        forall other, other ∈ rows -> other = row ∨ before order row other = true ->
          accept other = true := by
  have permuted := rows.perm_insertionSort order
  have sortedSeparates : Separates order (rows.insertionSort order) :=
    fun left leftMember right rightMember => separates left (permuted.mem_iff.mp leftMember) right
      (permuted.mem_iff.mp rightMember)
  rw [← mem_top_iff order nodup separates member limit, top,
    mem_takeWhile_take_iff order (List.pairwise_insertionSort order rows)
      (permuted.nodup_iff.mpr nodup) sortedSeparates (permuted.mem_iff.mpr member) limit accept]
  simp only [permuted.mem_iff]

/-- A row behind the limit stands behind everything that is returned. -/
theorem before_of_mem_top {rows : List α} {row other : α} (nodup : rows.Nodup)
    (separates : Separates order rows) (member : row ∈ rows) {limit : Nat}
    (behind : limit ≤ rows.countP (before order row)) (taken : other ∈ top order limit rows) :
    before order row other = true := by
  have otherMember := mem_of_mem_top order taken
  have few := (mem_top_iff order nodup separates otherMember limit).mp taken
  rcases Std.Total.total (r := order) other row with forward | backward
  · apply decide_eq_true
    refine ⟨forward, fun backward => ?_⟩
    rw [separates other otherMember row member forward backward] at few
    omega
  · -- Otherwise everything before the row stands before the other as well.
    exfalso
    have fewer : rows.countP (before order row) ≤ rows.countP (before order other) := by
      apply List.countP_mono_left
      intro third _ earlier
      have strict := of_decide_eq_true earlier
      apply decide_eq_true
      refine ⟨IsTrans.trans _ _ _ strict.1 backward, fun onward => strict.2 ?_⟩
      exact IsTrans.trans _ _ _ backward onward
    omega

/-- With the first rows gone, that many fewer stand before a row behind them. -/
theorem countP_before_rest {rows : List α} [DecidableEq α] {row : α} (nodup : rows.Nodup)
    (separates : Separates order rows) (member : row ∈ rows) {limit : Nat}
    (behind : limit ≤ rows.countP (before order row)) :
    rows.countP (fun other => before order row other && !decide (other ∈ top order limit rows)) +
      limit = rows.countP (before order row) := by
  have size : (top order limit rows).length = limit := by
    rw [top, List.length_take, List.length_insertionSort]
    exact Nat.min_eq_left (behind.trans List.countP_le_length)
  have taken : rows.countP (fun other => decide (other ∈ top order limit rows)) = limit := by
    have same : (rows.filter (fun other => decide (other ∈ top order limit rows))).Perm
        (top order limit rows) := by
      rw [List.perm_ext_iff_of_nodup (nodup.filter _) (nodup_top order nodup limit)]
      intro other
      rw [List.mem_filter, decide_eq_true_eq]
      exact ⟨And.right, fun inside => ⟨mem_of_mem_top order inside, inside⟩⟩
    rw [List.countP_eq_length_filter, same.length_eq, size]
  have split := List.length_eq_length_filter_add (l := rows.filter (before order row))
    (fun other => decide (other ∈ top order limit rows))
  rw [List.filter_filter, List.filter_filter, ← List.countP_eq_length_filter,
    ← List.countP_eq_length_filter, ← List.countP_eq_length_filter] at split
  have inside : rows.countP (fun other => decide (other ∈ top order limit rows) &&
      before order row other) = limit := by
    refine Eq.trans (List.countP_congr ?_) taken
    intro other _
    rw [Bool.and_eq_true, decide_eq_true_eq]
    exact ⟨And.left, fun present =>
      ⟨present, before_of_mem_top order nodup separates member behind present⟩⟩
  rw [inside] at split
  rw [split, Nat.add_comm]
  congr 1
  apply List.countP_congr
  intro other _
  rw [Bool.and_comm]

end Ordered
end Ranking
end EmbeddedAlerts
