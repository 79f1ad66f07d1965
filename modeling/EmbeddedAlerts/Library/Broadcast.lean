import Mathlib.Tactic

namespace EmbeddedAlerts
namespace Broadcast

/-!
# A log and the readers behind it

Whatever is sent on a channel is a log that only grows, and a receiver is a
position in it.  What a receiver has taken between two positions is a window of
the log.  A window does not change when the log grows, it grows by one item when
the receiver takes the next one, and what a filter has let through so far is
again the filter of a window.
-/

variable {α : Type}

/-- The items from one position up to another. -/
def window (log : List α) (start stop : Nat) : List α :=
  (log.drop start).take (stop - start)

@[simp] theorem window_self (log : List α) (start : Nat) : window log start start = [] := by
  rw [window, Nat.sub_self, List.take_zero]

/-- Later items are outside. -/
theorem window_append {log : List α} (more : List α) {start stop : Nat}
    (within : stop ≤ log.length) :
    window (log ++ more) start stop = window log start stop := by
  rw [window, window, List.drop_append, List.take_append_of_le_length]
  rw [List.length_drop]
  omega

theorem window_succ {log : List α} {start stop : Nat} {item : α} (ordered : start ≤ stop)
    (found : log[stop]? = some item) :
    window log start (stop + 1) = window log start stop ++ [item] := by
  have inside : (log.drop start)[stop - start]? = some item := by
    rw [List.getElem?_drop, Nat.add_sub_cancel' ordered]
    exact found
  rw [window, window, Nat.sub_add_comm ordered, List.take_add_one, inside]
  rfl

/-- Whatever a reader has let through so far is what it lets through of a
shorter window. -/
theorem exists_window_of_prefix {log shown : List α} {start stop : Nat} {keep : α -> Bool}
    (ordered : start ≤ stop) (leading : shown <+: (window log start stop).filter keep) :
    Exists fun reached => start ≤ reached ∧ reached ≤ stop ∧
      shown = (window log start reached).filter keep := by
  rcases List.prefix_filter_iff.mp leading with ⟨items, begins, rfl⟩
  have short : items.length ≤ stop - start :=
    begins.length_le.trans (List.length_take_le _ _)
  refine ⟨start + items.length, Nat.le_add_right _ _, by omega, ?_⟩
  rw [window, Nat.add_sub_cancel_left]
  congr 1
  have taken := List.prefix_iff_eq_take.mp begins
  rwa [window, List.take_take, Nat.min_eq_left short] at taken

end Broadcast
end EmbeddedAlerts
