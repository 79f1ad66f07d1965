import EmbeddedAlerts.Transport.Publishing

namespace EmbeddedAlerts

/-!
# The outbox over many passes

The publisher runs one pass after the other, whatever a pass returns, and
between two passes further replies are committed.  Each pass sees the fifty
oldest pending rows and gives up at the first that it refuses, or at the first
call that fails.

A pass takes from the front as many rows as its calls let it mark, all fifty
when none of them fails.  So a row is published as soon as the rows before it
are gone, provided that none of them is refused.  A refused row is never passed:
the rows behind it wait for ever.  A failed call costs the rest of its pass and
nothing else.  Rows that are committed meanwhile do not matter as long as they
stand behind.
-/

instance : Std.Total OutboxRow.order :=
  ⟨fun left right => by
    unfold OutboxRow.order
    rcases lt_trichotomy left.createdAt right.createdAt with earlier | same | later
    · exact Or.inl (Or.inl earlier)
    · rcases le_total left.eventId right.eventId with below | above
      · exact Or.inl (Or.inr ⟨same, below⟩)
      · exact Or.inr (Or.inr ⟨same.symm, above⟩)
    · exact Or.inr (Or.inl later)⟩

instance : IsTrans OutboxRow OutboxRow.order :=
  ⟨fun first second third forward onward => by
    unfold OutboxRow.order at *
    rcases forward with older | ⟨same, below⟩
    · rcases onward with older' | ⟨same', _⟩
      · exact Or.inl (older.trans older')
      · exact Or.inl (same' ▸ older)
    · rcases onward with older' | ⟨same', below'⟩
      · exact Or.inl (same ▸ older')
      · exact Or.inr ⟨same.trans same', below.trans below'⟩⟩

/-- The primary key makes the order of the query total on the rows. -/
theorem outboxOrder_separates {rows : List OutboxRow}
    (unique : (rows.map OutboxRow.eventId).Nodup) : Ranking.Separates OutboxRow.order rows := by
  intro left leftMember right rightMember forward backward
  apply List.inj_on_of_nodup_map unique leftMember rightMember
  rcases forward with older | ⟨same, below⟩
  · rcases backward with older' | ⟨same', _⟩
    · exact absurd older (not_lt_of_gt older')
    · exact absurd older (by rw [same']; exact lt_irrefl _)
  · rcases backward with older' | ⟨_, above⟩
    · exact absurd older' (by rw [same]; exact lt_irrefl _)
    · exact le_antisymm below above

/-- The pending rows of an outbox. -/
def pendingRows (outbox : List OutboxRow) : List OutboxRow :=
  outbox.filter (fun row => row.publishedAt.isNone)

/-- How many pending rows stand before a row. -/
def rowsAhead (outbox : List OutboxRow) (row : OutboxRow) : Nat :=
  (pendingRows outbox).countP (Ranking.before OutboxRow.order row)

/-- Neither the row nor any pending row before it is refused. -/
def WayClear (format : JsonFormat) (outbox : List OutboxRow) (row : OutboxRow) : Prop :=
  forall other, other ∈ pendingRows outbox ->
    other = row ∨ Ranking.before OutboxRow.order row other = true ->
    other.pending.publishable format = true

/-- The rows that were committed since the last pass, and what the calls of this
pass return. -/
structure PublishPass where
  arrivals : List OutboxRow
  calls : PassCalls

/-- The loop around `publish_pending`.  An error ends the pass and not the
loop. -/
def publishPasses (format : JsonFormat) : PublishState -> List PublishPass -> PublishState
  | state, [] => state
  | state, pass :: rest =>
      let done := (publishPending format pass.calls (state.outbox ++ pass.arrivals)).2
      publishPasses format ⟨done.outbox, state.published ++ done.published⟩ rest

/-- How many of its fifty rows the calls of a pass let it mark. -/
def PassCalls.reach (calls : PassCalls) : Nat :=
  if calls.queryFails then 0 else turnsBrought RowFailure.marked 50 calls.failures

/-- No call of the pass fails. -/
def PassCalls.Sound (calls : PassCalls) : Prop :=
  calls.queryFails = false ∧ forall failure, failure ∈ calls.failures -> failure = none

theorem PassCalls.Sound.reach {calls : PassCalls} (sound : calls.Sound) : calls.reach = 50 := by
  rw [PassCalls.reach, sound.1]
  exact turnsBrought_sound _ 50 sound.2

section

variable {format : JsonFormat} {calls : PassCalls} {outbox : List OutboxRow} {row : OutboxRow}

/-! ## One pass -/

/-- The rows that a pass publishes and marks. -/
def passRows (format : JsonFormat) (calls : PassCalls) (outbox : List OutboxRow) :
    List OutboxRow :=
  (Ranking.top OutboxRow.order calls.reach (pendingRows outbox)).takeWhile
    (fun row => row.pending.publishable format)

/-- The first rows of the selection that are not refused, down to those that the
calls let the pass bring as far as `turns`. -/
theorem takeWhile_selectOutbox (format : JsonFormat) (outbox : List OutboxRow) {turns : Nat}
    (few : turns ≤ 50) :
    ((selectOutbox outbox).takeWhile (PendingOutbox.publishable format)).take turns =
      ((Ranking.top OutboxRow.order turns (pendingRows outbox)).takeWhile
        (fun row => row.pending.publishable format)).map OutboxRow.pending := by
  rw [selectOutbox, List.takeWhile_map, ← List.map_take, List.take_takeWhile, Ranking.top,
    List.take_take, Nat.min_eq_left few, Ranking.top, pendingRows, Function.comp_def]

theorem publishPending_outbox :
    (publishPending format calls outbox).2.outbox =
      markRows calls.markedAt outbox ((passRows format calls outbox).map OutboxRow.eventId) := by
  rw [publishPending, passRows, PassCalls.reach]
  cases calls.queryFails with
  | true => exact (markRows_nil _ _).symm
  | false =>
      simp only [Bool.false_eq_true, if_false]
      rw [publishRows_state _ _ _ _ (selectOutbox_length outbox),
        takeWhile_selectOutbox format outbox (turnsBrought_le _ 50 _), List.map_map]
      rfl

theorem publishPending_published (reached : row ∈ passRows format calls outbox) :
    row.pending.message ∈ (publishPending format calls outbox).2.published := by
  rw [passRows, PassCalls.reach] at reached
  rw [publishPending]
  cases queried : calls.queryFails with
  | true =>
      rw [queried] at reached
      exact absurd reached List.not_mem_nil
  | false =>
      rw [queried] at reached
      simp only [Bool.false_eq_true, if_false] at reached ⊢
      rw [publishRows_state _ _ _ _ (selectOutbox_length outbox), List.nil_append]
      have marked := List.mem_map_of_mem reached (f := OutboxRow.pending)
      rw [← takeWhile_selectOutbox format outbox (turnsBrought_le _ 50 _)] at marked
      exact List.mem_map_of_mem ((List.take_sublist_take_left
        (turnsBrought_mono RowFailure.stored_of_marked 50 calls.failures)).subset marked)

theorem pendingRows_unique (unique : (outbox.map OutboxRow.eventId).Nodup) :
    ((pendingRows outbox).map OutboxRow.eventId).Nodup :=
  unique.sublist (List.filter_sublist.map _)

/-- A pass takes a row exactly when its calls let it come so far and the way is
clear. -/
theorem mem_passRows_iff (unique : (outbox.map OutboxRow.eventId).Nodup)
    (member : row ∈ pendingRows outbox) :
    row ∈ passRows format calls outbox ↔
      rowsAhead outbox row < calls.reach ∧ WayClear format outbox row :=
  Ranking.mem_takeWhile_top_iff OutboxRow.order (pendingRows_unique unique).of_map
    (outboxOrder_separates (pendingRows_unique unique)) member calls.reach _

theorem passRows_subset : passRows format calls outbox ⊆ pendingRows outbox :=
  fun _ reached => Ranking.mem_of_mem_top _ ((List.takeWhile_sublist _).subset reached)

/-- What is pending after a pass was pending before and was not reached. -/
theorem pendingRows_markRows (unique : (outbox.map OutboxRow.eventId).Nodup)
    (markedAt : Uuid -> Int) :
    pendingRows (markRows markedAt outbox ((passRows format calls outbox).map OutboxRow.eventId)) =
      (pendingRows outbox).filter (fun row => !decide (row ∈ passRows format calls outbox)) := by
  have reached : forall row, row ∈ outbox -> row.publishedAt = none ->
      (row.eventId ∈ (passRows format calls outbox).map OutboxRow.eventId ↔
        row ∈ passRows format calls outbox) := by
    intro row member _
    constructor
    · intro listed
      rcases List.mem_map.mp listed with ⟨other, present, same⟩
      have stored := (List.mem_filter.mp (passRows_subset present)).1
      rw [← List.inj_on_of_nodup_map unique stored member same]
      exact present
    · exact List.mem_map_of_mem
  rw [pendingRows, pendingRows, markRows, List.filter_filter]
  have each : forall rows : List OutboxRow, rows ⊆ outbox ->
      (rows.map (fun row =>
        if row.eventId ∈ (passRows format calls outbox).map OutboxRow.eventId ∧ row.publishedAt = none
        then { row with publishedAt := some (markedAt row.eventId) } else row)).filter
          (fun row => row.publishedAt.isNone) =
        rows.filter (fun row =>
          !decide (row ∈ passRows format calls outbox) && row.publishedAt.isNone) := by
    intro rows within
    induction rows with
    | nil => rfl
    | cons head tail ih =>
        have later := ih (fun row member => within (List.mem_cons_of_mem _ member))
        rw [List.map_cons, List.filter_cons, List.filter_cons, later]
        cases state : head.publishedAt with
        | none =>
            have known := reached head (within List.mem_cons_self) state
            by_cases taken : head ∈ passRows format calls outbox
            · simp [known.mpr taken, taken]
            · simp [known.not.mpr taken, taken, state]
        | some time => simp [state]
  exact each outbox (List.Subset.refl _)

/-- Rows behind a row change nothing for it. -/
theorem rowsAhead_append {arrivals : List OutboxRow}
    (behind : forall other, other ∈ arrivals -> Ranking.before OutboxRow.order row other = false) :
    rowsAhead (outbox ++ arrivals) row = rowsAhead outbox row := by
  have none : (pendingRows arrivals).countP (Ranking.before OutboxRow.order row) = 0 := by
    apply List.countP_eq_zero.mpr
    intro other member
    rw [behind other (List.mem_filter.mp member).1]
    exact Bool.false_ne_true
  rw [rowsAhead, pendingRows, List.filter_append, List.countP_append]
  exact congrArg (rowsAhead outbox row + ·) none

theorem wayClear_append {arrivals : List OutboxRow} (member : row ∈ outbox)
    (unique : ((outbox ++ arrivals).map OutboxRow.eventId).Nodup)
    (behind : forall other, other ∈ arrivals -> Ranking.before OutboxRow.order row other = false) :
    WayClear format (outbox ++ arrivals) row ↔ WayClear format outbox row := by
  constructor
  · intro clear other present upTo
    refine clear other ?_ upTo
    rw [pendingRows, List.filter_append]
    exact List.mem_append_left _ present
  · intro clear other present upTo
    rw [pendingRows, List.filter_append] at present
    rcases List.mem_append.mp present with old | new
    · exact clear other old upTo
    · have arrived := (List.mem_filter.mp new).1
      rcases upTo with same | ahead
      · rw [List.map_append, List.nodup_append] at unique
        exact absurd (congrArg OutboxRow.eventId same.symm) (unique.2.2 row.eventId
          (List.mem_map_of_mem member) other.eventId (List.mem_map_of_mem arrived))
      · rw [behind other arrived] at ahead
        cases ahead

/-- A row that a pass does not take is as far from the front as before, less the
rows that went, and its way is clear if it was. -/
theorem unreached_row (unique : (outbox.map OutboxRow.eventId).Nodup)
    (member : row ∈ pendingRows outbox) (unreached : row ∉ passRows format calls outbox)
    (markedAt : Uuid -> Int) (more : Nat) :
    (rowsAhead (markRows markedAt outbox ((passRows format calls outbox).map OutboxRow.eventId)) row <
          more ∧
        WayClear format
          (markRows markedAt outbox ((passRows format calls outbox).map OutboxRow.eventId)) row) ↔
      rowsAhead outbox row < calls.reach + more ∧ WayClear format outbox row := by
  have pendingUnique := pendingRows_unique unique
  have left : pendingRows (markRows markedAt outbox
      ((passRows format calls outbox).map OutboxRow.eventId)) =
        (pendingRows outbox).filter (fun row => !decide (row ∈ passRows format calls outbox)) :=
    pendingRows_markRows unique markedAt
  by_cases clear : WayClear format outbox row
  · have many : calls.reach ≤ rowsAhead outbox row := by
      by_contra few
      exact unreached ((mem_passRows_iff unique member).mpr ⟨Nat.lt_of_not_le few, clear⟩)
    -- All rows that the pass can mark stand before this one, so none is refused.
    have whole : passRows format calls outbox =
        Ranking.top OutboxRow.order calls.reach (pendingRows outbox) := by
      apply List.takeWhile_eq_self_iff.mpr
      intro other taken
      exact clear other (Ranking.mem_of_mem_top _ taken) (Or.inr (Ranking.before_of_mem_top _
        pendingUnique.of_map (outboxOrder_separates pendingUnique) member many taken))
    have fewer := Ranking.countP_before_rest OutboxRow.order pendingUnique.of_map
      (outboxOrder_separates pendingUnique) member many
    have rest : rowsAhead (markRows markedAt outbox
        ((passRows format calls outbox).map OutboxRow.eventId)) row + calls.reach =
          rowsAhead outbox row := by
      rw [rowsAhead, left, List.countP_filter, whole]
      exact fewer
    have stays : WayClear format (markRows markedAt outbox
        ((passRows format calls outbox).map OutboxRow.eventId)) row := by
      intro other present upTo
      rw [left] at present
      exact clear other (List.mem_filter.mp present).1 upTo
    constructor
    · exact fun ahead => ⟨by omega, clear⟩
    · exact fun ahead => ⟨by omega, stays⟩
  · refine iff_of_false ?_ (fun both => clear both.2)
    rintro ⟨_, stays⟩
    apply clear
    intro other present upTo
    by_cases reached : other ∈ passRows format calls outbox
    · have accepted := List.mem_takeWhile_imp reached
      exact accepted
    · refine stays other ?_ upTo
      rw [left]
      exact List.mem_filter.mpr ⟨present, by simp [reached]⟩

/-! ## Pass after pass -/

theorem markRows_eventIds (markedAt : Uuid -> Int) (ids : List Uuid) :
    (markRows markedAt outbox ids).map OutboxRow.eventId = outbox.map OutboxRow.eventId := by
  rw [markRows, List.map_map]
  apply List.map_congr_left
  intro other _
  rw [Function.comp_apply]
  split
  · rfl
  · rfl

/-- What is published stays published. -/
theorem Delivered.publishPasses {state : PublishState} {pending : PendingOutbox}
    (delivered : state.Delivered pending) (passes : List PublishPass) :
    (publishPasses format state passes).Delivered pending := by
  induction passes generalizing state with
  | nil => exact delivered
  | cons pass rest ih =>
      apply ih
      rcases delivered with ⟨published, stored, present, same, marked⟩
      refine ⟨List.mem_append_left _ published, stored, ?_, same, marked⟩
      rw [publishPending_outbox]
      refine List.mem_map.mpr ⟨stored, List.mem_append_left _ present, if_neg ?_⟩
      rintro ⟨_, unmarked⟩
      rw [unmarked] at marked
      cases marked

/-- A row that a pass takes is published and marked by it. -/
theorem delivered_of_mem_passRows (reached : row ∈ passRows format calls outbox)
    (published : List EventMessage) :
    PublishState.Delivered ⟨(publishPending format calls outbox).2.outbox,
      published ++ (publishPending format calls outbox).2.published⟩ row.pending := by
  have pending := List.mem_filter.mp (passRows_subset reached)
  refine ⟨List.mem_append_right _ (publishPending_published reached),
    { row with publishedAt := some (calls.markedAt row.eventId) }, ?_, rfl, rfl⟩
  rw [publishPending_outbox]
  refine List.mem_map.mpr ⟨row, pending.1, if_pos ⟨?_, ?_⟩⟩
  · exact List.mem_map_of_mem reached
  · exact Option.isNone_iff_eq_none.mp pending.2

theorem pending_row_delivered_iff (state : PublishState) (passes : List PublishPass)
    (unique : ((state.outbox ++ passes.flatMap PublishPass.arrivals).map
      OutboxRow.eventId).Nodup)
    (member : row ∈ pendingRows state.outbox)
    (behind : forall pass, pass ∈ passes -> forall other, other ∈ pass.arrivals ->
      Ranking.before OutboxRow.order row other = false) :
    (publishPasses format state passes).Delivered row.pending ↔
      rowsAhead state.outbox row < (passes.map (fun pass => pass.calls.reach)).sum ∧
        WayClear format state.outbox row := by
  induction passes generalizing state with
  | nil =>
      refine iff_of_false ?_ (fun ahead => absurd ahead.1 (Nat.not_lt_zero _))
      rintro ⟨_, stored, present, same, marked⟩
      rcases List.mem_filter.mp member with ⟨inside, pending⟩
      rw [List.flatMap_nil, List.append_nil] at unique
      have equal : stored = row := List.inj_on_of_nodup_map unique present inside
        (congrArg PendingOutbox.eventId same)
      rw [equal, Option.isSome_iff_ne_none] at marked
      exact marked (Option.isNone_iff_eq_none.mp pending)
  | cons pass rest ih =>
      rw [List.flatMap_cons, ← List.append_assoc] at unique
      have now : ((state.outbox ++ pass.arrivals).map OutboxRow.eventId).Nodup := by
        rw [List.map_append] at unique
        exact (List.nodup_append.mp unique).1
      have inside := (List.mem_filter.mp member).1
      have arrived := behind pass List.mem_cons_self
      have pending : row ∈ pendingRows (state.outbox ++ pass.arrivals) := by
        rw [pendingRows, List.filter_append]
        exact List.mem_append_left _ member
      rw [← rowsAhead_append arrived, ← wayClear_append inside now arrived, List.map_cons,
        List.sum_cons, publishPasses]
      by_cases reached : row ∈ passRows format pass.calls (state.outbox ++ pass.arrivals)
      · have both := (mem_passRows_iff now pending).mp reached
        refine iff_of_true ?_ ⟨?_, both.2⟩
        · exact Delivered.publishPasses (delivered_of_mem_passRows reached _) rest
        · omega
      · rw [← unreached_row now pending reached pass.calls.markedAt]
        have later : row ∈ pendingRows (markRows pass.calls.markedAt
            (state.outbox ++ pass.arrivals)
            ((passRows format pass.calls (state.outbox ++ pass.arrivals)).map
              OutboxRow.eventId)) := by
          rw [pendingRows_markRows now]
          exact List.mem_filter.mpr ⟨pending, by simp [reached]⟩
        rw [publishPending_outbox]
        refine ih ⟨_, _⟩ ?_ later (fun other inRest => behind other (List.mem_cons_of_mem _ inRest))
        rw [List.map_append, markRows_eventIds, ← List.map_append]
        exact unique

/-- Whatever the calls of the passes return, and with replies arriving behind
it, a pending row is published and marked by the loop exactly when the calls let
the passes mark more rows than stand before it, and neither the row nor any row
before it is refused.  When no call fails, those are fifty rows a pass. -/
theorem pending_row_published_iff (format : JsonFormat) (state : PublishState)
    (passes : List PublishPass)
    (unique : ((state.outbox ++ passes.flatMap PublishPass.arrivals).map
      OutboxRow.eventId).Nodup)
    {row : OutboxRow} (member : row ∈ pendingRows state.outbox)
    (behind : forall pass, pass ∈ passes -> forall other, other ∈ pass.arrivals ->
      Ranking.before OutboxRow.order row other = false) :
    ((publishPasses format state passes).Delivered row.pending ↔
      rowsAhead state.outbox row < (passes.map (fun pass => pass.calls.reach)).sum ∧
        WayClear format state.outbox row) ∧
    ((forall pass, pass ∈ passes -> pass.calls.Sound) ->
      ((publishPasses format state passes).Delivered row.pending ↔
        rowsAhead state.outbox row < 50 * passes.length ∧ WayClear format state.outbox row)) := by
  have delivered : (publishPasses format state passes).Delivered row.pending ↔ _ :=
    pending_row_delivered_iff state passes unique member behind
  refine ⟨delivered, ?_⟩
  intro sound
  have every : forall reach, reach ∈ passes.map (fun pass => pass.calls.reach) -> reach = 50 := by
    intro reach listed
    rcases List.mem_map.mp listed with ⟨pass, inside, rfl⟩
    exact (sound pass inside).reach
  rw [delivered, List.sum_eq_card_nsmul _ 50 every, List.length_map, smul_eq_mul, Nat.mul_comm]

end

/-- The second actor's row, with a reply to the first actor committed after it,
published in the third pass: the query of the first one failed, and the second
one stored the message without learning so. -/
theorem smallRow_published_by_loop :
    (publishPasses plainFormat ⟨[smallRow], []⟩
      [⟨[], true, [], fun _ => 3⟩,
        ⟨[outboxRow firstCommand (completedReply firstCommand.correlationId []) (sampleId 0xc1) 4],
          false, [some (.unacknowledged true)], fun _ => 4⟩,
        ⟨[], .sound fun _ => 5⟩]).Delivered smallRow.pending := by
  refine (pending_row_published_iff plainFormat _ _ (by decide)
    (List.mem_singleton_self smallRow) ?_).1.mpr ⟨by decide, ?_⟩
  · intro pass member other present
    simp only [List.mem_cons, List.not_mem_nil, or_false] at member
    rcases member with rfl | rfl | rfl
    · cases present
    · cases List.mem_singleton.mp present
      decide
    · cases present
  · intro other member _
    cases List.mem_singleton.mp member
    rw [PendingOutbox.publishable, smallRow_fits, Bool.true_and]
    decide

end EmbeddedAlerts
