import Mathlib.Data.List.Perm.Subperm
import Mathlib.Tactic

namespace EmbeddedAlerts
namespace UniqueKeys

/-!
# Lists with unique keys

A symmetric relation that holds pairwise in a list holds pairwise in every
list made of some of its members, in any order.  This is how a set of claims
on unique keys survives when a claim is given up, passed on or turned into a
stored row.  A unique key also turns the existence of a row into a count.
-/

variable {α β : Type}

theorem pairwise {relation : α -> α -> Prop}
    (symmetric : forall {left right : α}, relation left right -> relation right left)
    {smaller larger : List α} (within : smaller.Subperm larger)
    (holds : larger.Pairwise relation) : smaller.Pairwise relation := by
  rcases within with ⟨middle, permuted, sublist⟩
  exact (permuted.pairwise_iff symmetric).mp (holds.sublist sublist)

theorem nodup {smaller larger : List α} (within : smaller.Subperm larger)
    (holds : larger.Nodup) : smaller.Nodup :=
  pairwise Ne.symm within holds

theorem filterMap {smaller larger : List α} (select : α -> Option β)
    (within : smaller.Subperm larger) :
    (smaller.filterMap select).Subperm (larger.filterMap select) := by
  rcases within with ⟨middle, permuted, sublist⟩
  exact ⟨middle.filterMap select, permuted.filterMap select, sublist.filterMap select⟩

theorem map {smaller larger : List α} (project : α -> β) (within : smaller.Subperm larger) :
    (smaller.map project).Subperm (larger.map project) := by
  rcases within with ⟨middle, permuted, sublist⟩
  exact ⟨middle.map project, permuted.map project, sublist.map project⟩

/-- With unique keys a lookup finds exactly the listed pairs. -/
theorem lookup_eq_some_iff [BEq α] [LawfulBEq α] {entries : List (α × β)}
    (unique : (entries.map Prod.fst).Nodup) {key : α} {value : β} :
    entries.lookup key = some value ↔ (key, value) ∈ entries := by
  constructor
  · intro found
    rcases List.lookup_eq_some_iff.mp found with ⟨front, back, split, _⟩
    rw [split]
    exact List.mem_append_right _ List.mem_cons_self
  · intro member
    rcases List.append_of_mem member with ⟨front, back, split⟩
    refine List.lookup_eq_some_iff.mpr ⟨front, back, split, ?_⟩
    intro entry earlier
    rw [split, List.map_append, List.map_cons, List.nodup_append] at unique
    have apart := unique.2.2 entry.1 (List.mem_map_of_mem earlier) key List.mem_cons_self
    exact bne_iff_ne.mpr (Ne.symm apart)

/-- Among rows with unique keys, a test that only one key can pass is passed
by exactly one row. -/
theorem countP_eq_one {rows : List α} {key : α -> β} {test : α -> Bool} {row : α}
    (unique : (rows.map key).Nodup) (member : row ∈ rows) (passes : test row = true)
    (only : forall other, other ∈ rows -> test other = true -> key other = key row) :
    rows.countP test = 1 := by
  induction rows with
  | nil => cases member
  | cons head tail ih =>
      rw [List.map_cons, List.nodup_cons] at unique
      rw [List.countP_cons]
      rcases List.mem_cons.mp member with rfl | later
      · have none : tail.countP test = 0 := by
          apply List.countP_eq_zero.mpr
          intro other present passed
          apply unique.1
          rw [← only other (List.mem_cons_of_mem _ present) passed]
          exact List.mem_map_of_mem present
        rw [none, if_pos passes]
      · have one := ih unique.2 later (fun other present => only other (List.mem_cons_of_mem _ present))
        have fails : Not (test head = true) := by
          intro passed
          apply unique.1
          rw [only head (List.mem_cons.mpr (Or.inl rfl)) passed]
          exact List.mem_map_of_mem later
        rw [one, if_neg fails]

end UniqueKeys
end EmbeddedAlerts
