import EmbeddedAlerts.Library.EarlyExit
import EmbeddedAlerts.Transport.Publication
import EmbeddedAlerts.Transport.ReplySize

namespace EmbeddedAlerts

/-!
# One pass of the publisher

`publish_pending` selects at most fifty pending rows, oldest first, and takes
them one by one: it reads the columns, serializes the payload, checks its size
and the header, publishes, waits for the acknowledgement and marks the row.
Each of these calls may fail, and the first one that does returns from the
whole pass.  So does a row that is refused for its own sake.

A refused row stays pending and keeps its place at the front of the next
selection.  Every row behind it waits with it.
-/

/-- The outbox, and the messages that reached the stream in this pass. -/
structure PublishState where
  outbox : List OutboxRow
  published : List EventMessage

/-- The columns that `PendingOutbox::from_row` reads. -/
inductive OutboxColumn where
  | eventId
  | correlationId
  | dedupeKey
  | subject
  | payload

/-- What it says of a column that it cannot read. -/
def OutboxColumn.invalid : OutboxColumn -> String
  | .eventId => "JetStream outbox event ID is invalid"
  | .correlationId => "JetStream outbox correlation ID is invalid"
  | .dedupeKey => "JetStream outbox dedupe key is invalid"
  | .subject => "JetStream outbox subject is invalid"
  | .payload => "JetStream outbox payload is invalid"

/-- The call of a turn that fails.  The message may have reached the stream all
the same, and the update may have been made. -/
inductive RowFailure where
  | unread (column : OutboxColumn)
  | unpublished (stored : Bool)
  | unacknowledged (stored : Bool)
  | unmarked (marked : Bool)

/-- The stream has the message although the turn failed. -/
def RowFailure.stored : RowFailure -> Bool
  | .unread _ => false
  | .unpublished stored => stored
  | .unacknowledged stored => stored
  | .unmarked _ => true

/-- The row is marked although the turn failed. -/
def RowFailure.marked : RowFailure -> Bool
  | .unmarked marked => marked
  | _ => false

/-- What the calls of one pass return.  The list has the failure of each turn,
and a turn beyond its end has none.  `markedAt` is what `now()` returns when a
row is marked. -/
structure PassCalls where
  queryFails : Bool
  failures : List (Option RowFailure)
  markedAt : Uuid -> Int

/-- No call fails. -/
def PassCalls.sound (markedAt : Uuid -> Int) : PassCalls :=
  ⟨false, [], markedAt⟩

/-- `payload.len() <= MAX_NATS_PAYLOAD_BYTES`. -/
def PendingOutbox.fits (format : JsonFormat) (row : PendingOutbox) : Bool :=
  decide ((row.payload.toJson format).size ≤ maxNatsPayloadBytes)

/-- The row passes both checks of the pass. -/
def PendingOutbox.publishable (format : JsonFormat) (row : PendingOutbox) : Bool :=
  row.fits format && headerValue row.dedupeKey

def PublishState.store (state : PublishState) (row : PendingOutbox) : PublishState :=
  { state with published := state.published ++ [row.message] }

def PublishState.mark (markedAt : Uuid -> Int) (state : PublishState) (row : PendingOutbox) :
    PublishState :=
  { state with outbox := markOutbox state.outbox row.eventId (markedAt row.eventId) }

/-- The publish, its acknowledgement and the update. -/
def sendRow (markedAt : Uuid -> Int) (failure : Option RowFailure) (state : PublishState)
    (row : PendingOutbox) : Except String Unit × PublishState :=
  match failure with
  | some (.unpublished stored) =>
      (.error "JetStream reply publish failed", if stored then state.store row else state)
  | some (.unacknowledged stored) =>
      (.error "JetStream reply was not acknowledged", if stored then state.store row else state)
  | some (.unmarked marked) =>
      (.error "mark JetStream outbox published failed",
        if marked then (state.store row).mark markedAt row else state.store row)
  | _ => (.ok (), (state.store row).mark markedAt row)

/-- One turn. -/
def publishRow (format : JsonFormat) (markedAt : Uuid -> Int) (failure : Option RowFailure)
    (state : PublishState) (row : PendingOutbox) : Except String Unit × PublishState :=
  match failure with
  | some (.unread column) => (.error column.invalid, state)
  | _ =>
      if !row.fits format then (.error "JetStream outbox payload is oversized", state)
      else if !headerValue row.dedupeKey then (.error "JetStream dedupe header is invalid", state)
      else sendRow markedAt failure state row

/-- The loop over the selected rows, with the state in which it returns. -/
def publishRows (format : JsonFormat) (markedAt : Uuid -> Int) :
    List (Option RowFailure) -> PublishState -> List PendingOutbox ->
      Except String Unit × PublishState
  | _, state, [] => (.ok (), state)
  | failures, state, row :: rest =>
      match publishRow format markedAt (failures.headD none) state row with
      | (.error message, after) => (.error message, after)
      | (.ok (), after) => publishRows format markedAt failures.tail after rest

def publishPending (format : JsonFormat) (calls : PassCalls) (outbox : List OutboxRow) :
    Except String Unit × PublishState :=
  if calls.queryFails then (.error "read JetStream outbox failed", ⟨outbox, []⟩)
  else publishRows format calls.markedAt calls.failures ⟨outbox, []⟩ (selectOutbox outbox)

/-! ## What a pass leaves behind -/

/-- The outbox after the rows with the given identifiers were marked. -/
def markRows (markedAt : Uuid -> Int) (rows : List OutboxRow) (ids : List Uuid) : List OutboxRow :=
  rows.map (fun row =>
    if row.eventId ∈ ids ∧ row.publishedAt = none then
      { row with publishedAt := some (markedAt row.eventId) }
    else row)

@[simp] theorem markRows_nil (markedAt : Uuid -> Int) (rows : List OutboxRow) :
    markRows markedAt rows [] = rows := by
  rw [markRows]
  refine (List.map_congr_left ?_).trans (List.map_id _)
  intro row _
  exact if_neg (fun both => absurd both.1 List.not_mem_nil)

theorem markRows_markOutbox (markedAt : Uuid -> Int) (rows : List OutboxRow) (id : Uuid)
    (ids : List Uuid) :
    markRows markedAt (markOutbox rows id (markedAt id)) ids = markRows markedAt rows (id :: ids) := by
  rw [markRows, markOutbox, List.map_map, markRows]
  apply List.map_congr_left
  intro row _
  rw [Function.comp_apply]
  by_cases pending : row.publishedAt = none
  · by_cases same : row.eventId = id
    · simp [same, pending]
    · simp [same, pending]
  · simp [pending]

/-- How many of the next rows are brought so far, when the row of a failed turn
counts only if it was. -/
def turnsBrought (brought : RowFailure -> Bool) : Nat -> List (Option RowFailure) -> Nat
  | 0, _ => 0
  | rows + 1, failures =>
      match failures.headD none with
      | none => turnsBrought brought rows failures.tail + 1
      | some failure => if brought failure then 1 else 0

theorem headD_sound {failures : List (Option RowFailure)}
    (sound : forall failure, failure ∈ failures -> failure = none) :
    failures.headD none = none := by
  cases failures with
  | nil => rfl
  | cons failure rest => exact sound failure List.mem_cons_self

theorem turnsBrought_sound (brought : RowFailure -> Bool) (rows : Nat)
    {failures : List (Option RowFailure)}
    (sound : forall failure, failure ∈ failures -> failure = none) :
    turnsBrought brought rows failures = rows := by
  induction rows generalizing failures with
  | zero => rfl
  | succ rows ih =>
      rw [turnsBrought, headD_sound sound]
      exact congrArg (· + 1) (ih fun failure later => sound failure (List.mem_of_mem_tail later))

theorem turnsBrought_le (brought : RowFailure -> Bool) (rows : Nat)
    (failures : List (Option RowFailure)) : turnsBrought brought rows failures ≤ rows := by
  induction rows generalizing failures with
  | zero => exact Nat.le_refl 0
  | succ rows ih =>
      rw [turnsBrought]
      split
      · exact Nat.succ_le_succ (ih _)
      · split
        · exact Nat.succ_le_succ (Nat.zero_le _)
        · exact Nat.zero_le _

theorem turnsBrought_mono {less more : RowFailure -> Bool}
    (implied : forall failure, less failure = true -> more failure = true) (rows : Nat)
    (failures : List (Option RowFailure)) :
    turnsBrought less rows failures ≤ turnsBrought more rows failures := by
  induction rows generalizing failures with
  | zero => exact Nat.le_refl 0
  | succ rows ih =>
      rw [turnsBrought, turnsBrought]
      cases failures.headD none with
      | none => exact Nat.succ_le_succ (ih _)
      | some failure =>
          cases done : less failure with
          | true => simp [done, implied failure done]
          | false => simp [done]

/-- A row that is marked was published before. -/
theorem RowFailure.stored_of_marked (failure : RowFailure) (marked : failure.marked = true) :
    failure.stored = true := by
  cases failure with
  | unmarked done => rfl
  | unread column => cases marked
  | unpublished stored => cases marked
  | unacknowledged stored => cases marked

theorem publishRow_publishable {format : JsonFormat} {row : PendingOutbox}
    (accepted : row.publishable format = true) (markedAt : Uuid -> Int) (state : PublishState) :
    publishRow format markedAt none state row =
      (.ok (), ⟨markOutbox state.outbox row.eventId (markedAt row.eventId),
        state.published ++ [row.message]⟩) := by
  rcases Bool.and_eq_true_iff.mp accepted with ⟨fits, header⟩
  simp only [publishRow, fits, header, Bool.not_true, Bool.false_eq_true, if_false]
  rfl

/-- A turn in which a call fails ends the pass, with what was done so far. -/
theorem publishRow_failed {format : JsonFormat} {row : PendingOutbox}
    (accepted : row.publishable format = true) (markedAt : Uuid -> Int) (failure : RowFailure)
    (state : PublishState) :
    Exists fun message => publishRow format markedAt (some failure) state row =
      (.error message,
        ⟨markRows markedAt state.outbox (if failure.marked then [row.eventId] else []),
          state.published ++ (if failure.stored then [row.message] else [])⟩) := by
  rcases Bool.and_eq_true_iff.mp accepted with ⟨fits, header⟩
  have marked := markRows_markOutbox markedAt state.outbox row.eventId []
  rw [markRows_nil] at marked
  cases failure with
  | unread column =>
      refine ⟨column.invalid, ?_⟩
      simp [publishRow, RowFailure.marked, RowFailure.stored]
  | unpublished stored =>
      refine ⟨"JetStream reply publish failed", ?_⟩
      cases stored <;>
        simp [publishRow, sendRow, fits, header, PublishState.store, RowFailure.marked,
          RowFailure.stored]
  | unacknowledged stored =>
      refine ⟨"JetStream reply was not acknowledged", ?_⟩
      cases stored <;>
        simp [publishRow, sendRow, fits, header, PublishState.store, RowFailure.marked,
          RowFailure.stored]
  | unmarked done =>
      refine ⟨"mark JetStream outbox published failed", ?_⟩
      cases done <;>
        simp [publishRow, sendRow, fits, header, PublishState.store, PublishState.mark,
          RowFailure.marked, RowFailure.stored, marked]

theorem publishRow_refused {format : JsonFormat} {row : PendingOutbox}
    (refused : row.publishable format = false) (markedAt : Uuid -> Int)
    (failure : Option RowFailure) (state : PublishState) :
    Exists fun message =>
      publishRow format markedAt failure state row = (.error message, state) := by
  unfold publishRow
  split
  · exact ⟨_, rfl⟩
  · cases fits : row.fits format with
    | false => exact ⟨_, rfl⟩
    | true =>
        rw [PendingOutbox.publishable, fits, Bool.true_and] at refused
        rw [refused]
        exact ⟨_, rfl⟩

/-- The pass publishes and marks the rows before the first one that it refuses,
as far as its calls let it. -/
theorem publishRows_state (format : JsonFormat) (markedAt : Uuid -> Int)
    (failures : List (Option RowFailure)) (state : PublishState) {rows : List PendingOutbox}
    {limit : Nat} (within : rows.length ≤ limit) :
    (publishRows format markedAt failures state rows).2 =
      ⟨markRows markedAt state.outbox
          (((rows.takeWhile (PendingOutbox.publishable format)).take
            (turnsBrought RowFailure.marked limit failures)).map PendingOutbox.eventId),
        state.published ++ ((rows.takeWhile (PendingOutbox.publishable format)).take
          (turnsBrought RowFailure.stored limit failures)).map PendingOutbox.message⟩ := by
  induction rows generalizing failures state limit with
  | nil => simp [publishRows]
  | cons row rest ih =>
      cases limit with
      | zero => cases within
      | succ limit =>
          cases accepted : row.publishable format with
          | false =>
              rcases publishRow_refused accepted markedAt (failures.headD none) state with
                ⟨message, failed⟩
              rw [publishRows, failed, List.takeWhile_cons_of_neg (Bool.eq_false_iff.mp accepted)]
              simp
          | true =>
              rw [List.takeWhile_cons_of_pos accepted, publishRows, turnsBrought, turnsBrought]
              cases failures.headD none with
              | none =>
                  rw [publishRow_publishable accepted]
                  simp only [ih failures.tail _ (Nat.le_of_succ_le_succ within),
                    List.take_succ_cons, List.map_cons, markRows_markOutbox, List.append_assoc,
                    List.singleton_append]
              | some failure =>
                  -- Only the row of this turn can still be stored or marked.
                  rcases publishRow_failed accepted markedAt failure state with ⟨message, failed⟩
                  rw [failed]
                  cases marked : failure.marked <;> cases stored : failure.stored <;>
                    simp [marked, stored]

/-- What was published before the rows matters to nothing that they do. -/
theorem publishRows_published (format : JsonFormat) (markedAt : Uuid -> Int)
    (failures : List (Option RowFailure)) (outbox : List OutboxRow) (before : List EventMessage)
    (rows : List PendingOutbox) :
    (publishRows format markedAt failures ⟨outbox, before⟩ rows).2.outbox =
        (publishRows format markedAt failures ⟨outbox, []⟩ rows).2.outbox ∧
      (publishRows format markedAt failures ⟨outbox, before⟩ rows).2.published =
        before ++ (publishRows format markedAt failures ⟨outbox, []⟩ rows).2.published := by
  rw [publishRows_state format markedAt failures _ (Nat.le_refl rows.length),
    publishRows_state format markedAt failures _ (Nat.le_refl rows.length)]
  exact ⟨rfl, rfl⟩

theorem selectOutbox_length (outbox : List OutboxRow) : (selectOutbox outbox).length ≤ 50 := by
  rw [selectOutbox, List.length_map, Ranking.top]
  exact List.length_take_le _ _

/-- What a pass leaves behind when no call fails. -/
theorem publishPending_sound (format : JsonFormat) (markedAt : Uuid -> Int)
    (outbox : List OutboxRow) :
    (publishPending format (.sound markedAt) outbox).2 =
      ⟨markRows markedAt outbox
          (((selectOutbox outbox).takeWhile (PendingOutbox.publishable format)).map
            PendingOutbox.eventId),
        ((selectOutbox outbox).takeWhile (PendingOutbox.publishable format)).map
          PendingOutbox.message⟩ := by
  have short : ((selectOutbox outbox).takeWhile (PendingOutbox.publishable format)).length ≤ 50 :=
    (List.takeWhile_sublist _).length_le.trans (selectOutbox_length outbox)
  have every : forall brought : RowFailure -> Bool, turnsBrought brought 50 [] = 50 :=
    fun brought => turnsBrought_sound brought 50 fun _ absent => absurd absent List.not_mem_nil
  have same := publishRows_state format markedAt [] ⟨outbox, []⟩ (selectOutbox_length outbox)
  rw [every, every, List.take_of_length_le short, List.nil_append] at same
  exact same

/-- The row was published and its outbox row is marked. -/
def PublishState.Delivered (state : PublishState) (row : PendingOutbox) : Prop :=
  row.message ∈ state.published ∧
    Exists fun stored => stored ∈ state.outbox ∧ stored.pending = row ∧
      stored.publishedAt.isSome = true

theorem exists_of_mem_selectOutbox {rows : List OutboxRow} {row : PendingOutbox}
    (member : row ∈ selectOutbox rows) :
    Exists fun stored => stored ∈ rows ∧ stored.publishedAt = none ∧ stored.pending = row := by
  rcases List.mem_map.mp member with ⟨stored, selected, same⟩
  rcases List.mem_filter.mp (Ranking.mem_of_mem_top _ selected) with ⟨present, pending⟩
  exact ⟨stored, present, Option.isNone_iff_eq_none.mp pending, same⟩

/-- The primary key of the outbox tells the selected rows apart. -/
theorem selectOutbox_ids_nodup {rows : List OutboxRow}
    (unique : (rows.map OutboxRow.eventId).Nodup) :
    ((selectOutbox rows).map PendingOutbox.eventId).Nodup := by
  rw [selectOutbox, List.map_map]
  exact Ranking.nodup_map_top OutboxRow.order OutboxRow.eventId
    (unique.sublist (List.filter_sublist.map OutboxRow.eventId)) 50

theorem pending_markRows {markedAt : Uuid -> Int} {rows : List OutboxRow} {ids : List Uuid}
    {stored : OutboxRow} (member : stored ∈ markRows markedAt rows ids) :
    Exists fun old => old ∈ rows ∧ stored.pending = old.pending ∧
      (stored.publishedAt.isSome = true ↔
        old.publishedAt.isSome = true ∨ old.eventId ∈ ids) := by
  rcases List.mem_map.mp member with ⟨old, present, rfl⟩
  refine ⟨old, present, ?_, ?_⟩
  · split
    · rfl
    · rfl
  · split
    · next marked =>
        exact iff_of_true rfl (Or.inr marked.1)
    · next kept =>
        constructor
        · exact Or.inl
        · rintro (already | listed)
          · exact already
          · cases state : old.publishedAt with
            | none => exact absurd ⟨listed, state⟩ kept
            | some time => rfl

theorem delivered_iff (format : JsonFormat) (markedAt : Uuid -> Int) {outbox : List OutboxRow}
    (unique : (outbox.map OutboxRow.eventId).Nodup) {row : PendingOutbox}
    (selected : row ∈ selectOutbox outbox) :
    (publishPending format (.sound markedAt) outbox).2.Delivered row ↔
      row ∈ (selectOutbox outbox).takeWhile (PendingOutbox.publishable format) := by
  rcases exists_of_mem_selectOutbox selected with ⟨stored, present, pending, same⟩
  rw [publishPending_sound]
  constructor
  · rintro ⟨_, marked, member, sameRow, done⟩
    rcases pending_markRows member with ⟨old, oldPresent, sameOld, state⟩
    have equal : old = stored := by
      apply List.inj_on_of_nodup_map unique oldPresent present
      exact congrArg PendingOutbox.eventId (sameOld.symm.trans (sameRow.trans same.symm))
    rcases state.mp done with already | listed
    · rw [equal, pending] at already
      cases already
    · rcases List.mem_map.mp listed with ⟨reached, inside, id⟩
      have found : reached = row := by
        apply List.inj_on_of_nodup_map (selectOutbox_ids_nodup unique)
          ((List.takeWhile_sublist _).subset inside) selected
        rw [id, equal, ← same]
        rfl
      exact found ▸ inside
  · intro reached
    refine ⟨?_, ?_⟩
    · exact List.mem_map_of_mem reached
    · have listed : stored.eventId ∈ ((selectOutbox outbox).takeWhile
          (PendingOutbox.publishable format)).map PendingOutbox.eventId :=
        List.mem_map.mpr ⟨row, reached, by rw [← same]; rfl⟩
      refine ⟨{ stored with publishedAt := some (markedAt stored.eventId) },
        List.mem_map.mpr ⟨stored, present, if_pos ⟨listed, pending⟩⟩, same, rfl⟩

/-- A refused row at the front stops the pass before it changes anything, and
so every later pass as long as the row stays the oldest. -/
theorem publishPending_blocked (format : JsonFormat) (markedAt : Uuid -> Int)
    {outbox : List OutboxRow} {row : PendingOutbox}
    (oldest : (selectOutbox outbox).head? = some row) (refused : row.publishable format = false) :
    (publishPending format (.sound markedAt) outbox).2 = ⟨outbox, []⟩ := by
  rw [publishPending_sound]
  cases rows : selectOutbox outbox with
  | nil =>
      rw [rows] at oldest
      cases oldest
  | cons first rest =>
      rw [rows] at oldest
      cases oldest
      rw [List.takeWhile_cons_of_neg (by rw [refused]; exact Bool.false_ne_true), List.map_nil,
        List.map_nil, markRows_nil]

/-! ## The pass as a run of the interleaved system -/

namespace System

variable {deployment : Deployment} {system : System}

/-- The state in which one publisher is alone, with the given queue. -/
def publishing (system : System) (publisher : Nat) (queue : List PendingOutbox) : System :=
  { system with publishers := [⟨publisher, queue, .selected⟩] }

/-- The publish of a turn alone. -/
theorem storeRow_executed (publisher : Nat) {row : PendingOutbox} (rest : List PendingOutbox)
    (accepted : row.publishable deployment.format = true) :
    Runs.execute (System.step deployment) Runs.unchecked (system.publishing publisher (row :: rest))
        [.publishReply publisher] =
      some { system with
        events := storeEvent system.events row.message
        publishers := [⟨publisher, row :: rest, .stored⟩] } := by
  rcases Bool.and_eq_true_iff.mp accepted with ⟨fits, header⟩
  have small : ¬ maxNatsPayloadBytes < (row.payload.toJson deployment.format).size :=
    Nat.not_lt.mpr (of_decide_eq_true fits)
  simp [Runs.execute, Runs.unchecked, System.step, System.publishReply, System.publisher,
    System.otherPublishers, System.publishing, small, header]

/-- One turn, undisturbed: publish, acknowledge, mark. -/
theorem publishRow_executed (publisher : Nat) {row : PendingOutbox} (rest : List PendingOutbox)
    (accepted : row.publishable deployment.format = true) :
    Runs.execute (System.step deployment) Runs.unchecked (system.publishing publisher (row :: rest))
        [.publishReply publisher, .acknowledgeReply publisher, .markReply publisher] =
      some ({ system with
        events := storeEvent system.events row.message
        database := { system.database with
          outbox := markOutbox system.database.outbox row.eventId system.clock } }.publishing
          publisher rest) := by
  apply Runs.execute_append (storeRow_executed publisher rest accepted)
  simp [Runs.execute, Runs.unchecked, System.step, System.acknowledgeReply, System.markReply,
    System.publisher, System.otherPublishers, System.publishing]

/-- A turn in which a call fails: the steps that were taken, and the end of the
pass. -/
theorem failedRow_executed (publisher : Nat) {row : PendingOutbox} (rest : List PendingOutbox)
    (accepted : row.publishable deployment.format = true) (failure : RowFailure) :
    Exists fun actions => Exists fun next =>
      Runs.execute (System.step deployment) Runs.unchecked
        (system.publishing publisher (row :: rest)) actions = some next ∧
      next.database.outbox = markRows (fun _ => system.clock) system.database.outbox
        (if failure.marked then [row.eventId] else []) ∧
      next.events = (if failure.stored then [row.message] else []).foldl storeEvent
        system.events := by
  have whole := @publishRow_executed deployment system publisher row rest accepted
  have first := @storeRow_executed deployment system publisher row rest accepted
  have marked := markRows_markOutbox (fun _ => (system.clock : Int)) system.database.outbox
    row.eventId []
  rw [markRows_nil] at marked
  have nothing : markRows (fun _ => (system.clock : Int)) system.database.outbox [] =
      system.database.outbox := markRows_nil _ _
  cases failure with
  | unread column => exact ⟨[], _, rfl, nothing.symm, rfl⟩
  | unpublished stored =>
      cases stored with
      | false => exact ⟨[], _, rfl, nothing.symm, rfl⟩
      | true => exact ⟨_, _, first, nothing.symm, rfl⟩
  | unacknowledged stored =>
      cases stored with
      | false => exact ⟨[], _, rfl, nothing.symm, rfl⟩
      | true => exact ⟨_, _, first, nothing.symm, rfl⟩
  | unmarked done =>
      cases done with
      | false => exact ⟨_, _, first, nothing.symm, rfl⟩
      | true => exact ⟨_, _, whole, marked, rfl⟩

/-- What a pass does by itself it also does as a run of the whole system,
whatever its calls return. -/
theorem publishRows_executed (publisher : Nat) (queue : List PendingOutbox)
    (failures : List (Option RowFailure)) :
    Exists fun actions => Exists fun next =>
      Runs.execute (System.step deployment) Runs.unchecked (system.publishing publisher queue)
        actions = some next ∧
      next.database.outbox = (publishRows deployment.format (fun _ => system.clock) failures
        ⟨system.database.outbox, []⟩ queue).2.outbox ∧
      next.events = (publishRows deployment.format (fun _ => system.clock) failures
        ⟨system.database.outbox, []⟩ queue).2.published.foldl storeEvent system.events := by
  induction queue generalizing system failures with
  | nil => exact ⟨[], _, rfl, rfl, rfl⟩
  | cons row rest ih =>
      cases accepted : row.publishable deployment.format with
      | false =>
          -- The pass returns here; the run stops with the row still queued.
          rcases publishRow_refused accepted (fun _ => (system.clock : Int)) (failures.headD none)
            ⟨system.database.outbox, []⟩ with ⟨message, refused⟩
          rw [publishRows, refused]
          exact ⟨[], _, rfl, rfl, rfl⟩
      | true =>
          rw [publishRows]
          cases failures.headD none with
          | some failure =>
              rcases publishRow_failed accepted (fun _ => (system.clock : Int)) failure
                ⟨system.database.outbox, []⟩ with ⟨message, failed⟩
              rw [failed]
              exact failedRow_executed publisher rest accepted failure
          | none =>
              rw [publishRow_publishable accepted]
              let after : System := { system with
                events := storeEvent system.events row.message
                database := { system.database with
                  outbox := markOutbox system.database.outbox row.eventId system.clock } }
              rcases @ih after failures.tail with ⟨actions, next, done, outbox, events⟩
              have later := publishRows_published deployment.format (fun _ => (system.clock : Int))
                failures.tail (markOutbox system.database.outbox row.eventId system.clock)
                [row.message] rest
              refine ⟨_, next, Runs.execute_append (publishRow_executed publisher rest accepted) done,
                ?_, ?_⟩
              · rw [outbox]
                exact later.1.symm
              · rw [events]
                exact (congrArg (List.foldl storeEvent system.events) later.2).symm

/-- A whole pass, from its query on, while nobody else publishes. -/
theorem publishPending_executed (publisher : Nat) (idle : system.publishers = [])
    (calls : PassCalls) (clock : calls.markedAt = fun _ => (system.clock : Int)) :
    Exists fun actions => Exists fun next =>
      Runs.execute (System.step deployment) Runs.unchecked system actions = some next ∧
      next.database.outbox =
        (publishPending deployment.format calls system.database.outbox).2.outbox ∧
      next.events = (publishPending deployment.format calls
        system.database.outbox).2.published.foldl storeEvent system.events := by
  rw [publishPending]
  cases calls.queryFails with
  | true => exact ⟨[], system, rfl, rfl, rfl⟩
  | false =>
      have begun : system.step deployment (.selectPending publisher) =
          some (system.publishing publisher (selectOutbox system.database.outbox)) := by
        simp [System.step, System.selectPending, System.publisher, System.publishing, idle]
      rcases publishRows_executed publisher (selectOutbox system.database.outbox) calls.failures
        with ⟨actions, next, done, outbox, events⟩
      rw [clock]
      exact ⟨.selectPending publisher :: actions, next, Runs.execute_cons begun done, outbox,
        events⟩

end System

/-- In a pass in which no call fails, every selected row that fits is published
and marked exactly when none of them stands at or behind a selected row that
the pass refuses.  Over the outbox of a system the pass is a run of it. -/
theorem fitting_rows_published_iff (format : JsonFormat) (markedAt : Uuid -> Int)
    (outbox : List OutboxRow) (unique : (outbox.map OutboxRow.eventId).Nodup) :
    ((forall row, row ∈ selectOutbox outbox -> row.fits format = true ->
      (publishPending format (.sound markedAt) outbox).2.Delivered row) ↔
    forall (earlier later : Nat) (refused row : PendingOutbox),
      (selectOutbox outbox)[earlier]? = some refused -> refused.publishable format = false ->
      (selectOutbox outbox)[later]? = some row -> earlier ≤ later -> row.fits format = false) ∧
    forall (deployment : Deployment) (system : System), deployment.format = format ->
      system.database.outbox = outbox -> system.publishers = [] ->
      (forall id, markedAt id = system.clock) ->
      Exists fun actions => Exists fun next =>
        Runs.execute (System.step deployment) Runs.unchecked system actions = some next ∧
        next.database.outbox = (publishPending format (.sound markedAt) outbox).2.outbox ∧
        next.events = (publishPending format (.sound markedAt) outbox).2.published.foldl storeEvent
          system.events := by
  have nodup : (selectOutbox outbox).Nodup := (selectOutbox_ids_nodup unique).of_map
  refine ⟨?_, ?_⟩
  · rw [← EarlyExit.reached_iff nodup (PendingOutbox.publishable format)
      (PendingOutbox.fits format)]
    constructor
    · intro delivered row selected fits
      exact (delivered_iff format markedAt unique selected).mp (delivered row selected fits)
    · intro reached row selected fits
      exact (delivered_iff format markedAt unique selected).mpr (reached row selected fits)
  · rintro deployment system rfl rfl idle clock
    exact System.publishPending_executed 0 idle _ (funext clock)

/-! ## A reply that is too large, and one behind it -/

/-- The alerts of an owner who has 33 of them with the longest query text. -/
def wideAlerts : List AlertRule := (burst wideInput 33).map (fun entry => entry.2)

/-- The first actor's reply is too large; the second actor has no alerts. -/
def blockedOutbox : List OutboxRow :=
  [outboxRow firstCommand (completedReply firstCommand.correlationId wideAlerts) (sampleId 0xc1) 1,
    outboxRow secondCommand (completedReply secondCommand.correlationId []) (sampleId 0xc2) 2]

theorem wideAlerts_length : wideAlerts.length = 33 := by
  rw [wideAlerts, burst, List.length_map, List.length_map, List.length_range]

theorem wideAlerts_bytes (format : JsonFormat) : 270336 ≤ listedBytes format wideAlerts := by
  have wide : forall alert, alert ∈ wideAlerts -> alert.queryText = wideInput.queryText := by
    intro alert member
    rcases List.mem_map.mp member with ⟨entry, present, rfl⟩
    rcases List.mem_map.mp present with ⟨second, _, rfl⟩
    exact trim_wideInput
  have bytes := listedBytes_wide format wide
  rw [wideAlerts_length] at bytes
  exact bytes

theorem size_sampleReply (format : JsonFormat) {command : AsyncCommand}
    (known : command = firstCommand ∨ command = secondCommand) (alerts : List AlertRule)
    (eventId : Uuid) :
    ((replyEnvelope command (completedReply command.correlationId alerts) eventId).toJson
      format).size = 326 + (alertsJson format alerts).size := by
  have keys : boundedDedupeKey command.dedupeKey = true ∧
      boundedTenant command.productTenant = true ∧ command.dedupeKey.length = 13 ∧
      command.productTenant.length = 15 := by
    rcases known with rfl | rfl
    · decide
    · decide
  rw [size_replyEnvelope format keys.1 keys.2.1, size_completedReply, keys.2.2.1, keys.2.2.2]
  omega

theorem blockedOutbox_selected : selectOutbox blockedOutbox =
    blockedOutbox.map OutboxRow.pending := rfl

theorem blockedOutbox_oldest_refused (format : JsonFormat) :
    Exists fun row => (selectOutbox blockedOutbox).head? = some row ∧
      row.publishable format = false := by
  refine ⟨_, rfl, ?_⟩
  have large := wideAlerts_bytes format
  have listed := size_alertsJson format wideAlerts
  have nonempty : wideAlerts ≠ [] := by
    intro empty
    have count := wideAlerts_length
    rw [empty] at count
    cases count
  rw [if_neg nonempty] at listed
  rw [PendingOutbox.publishable, Bool.and_eq_false_iff]
  refine Or.inl (decide_eq_false ?_)
  change ¬ ((replyEnvelope firstCommand (completedReply firstCommand.correlationId wideAlerts)
    (sampleId 0xc1)).toJson format).size ≤ maxNatsPayloadBytes
  rw [size_sampleReply format (Or.inl rfl), maxNatsPayloadBytes]
  omega

/-- The second actor's row. -/
def smallRow : OutboxRow :=
  outboxRow secondCommand (completedReply secondCommand.correlationId []) (sampleId 0xc2) 2

theorem smallRow_fits (format : JsonFormat) : smallRow.pending.fits format = true := by
  apply decide_eq_true
  change ((replyEnvelope secondCommand (completedReply secondCommand.correlationId [])
    (sampleId 0xc2)).toJson format).size ≤ maxNatsPayloadBytes
  rw [size_sampleReply format (Or.inr rfl), size_alertsJson, if_pos rfl, maxNatsPayloadBytes]
  decide

/-- Alone in the outbox it is published and marked. -/
theorem smallRow_published :
    (publishPending plainFormat (.sound fun _ => 3) [smallRow]).2.Delivered smallRow.pending := by
  refine (fitting_rows_published_iff plainFormat (fun _ => 3) [smallRow] (by decide)).1.mpr ?_
    smallRow.pending (List.mem_singleton_self _) (smallRow_fits plainFormat)
  intro earlier later refused row found refusal
  have same : refused = smallRow.pending := List.mem_singleton.mp (List.mem_of_getElem? found)
  rw [same, PendingOutbox.publishable, smallRow_fits, Bool.true_and] at refusal
  exact absurd refusal (by decide)

/-- Behind the first actor's reply it still fits, and it is neither published
nor marked. -/
theorem smallRow_blocked :
    (blockedOutbox.map OutboxRow.eventId).Nodup ∧
    smallRow.pending ∈ selectOutbox blockedOutbox ∧
    smallRow.pending.fits plainFormat = true ∧
    Not ((publishPending plainFormat (.sound fun _ => 3) blockedOutbox).2.Delivered smallRow.pending) := by
  refine ⟨by decide, ?_, smallRow_fits plainFormat, ?_⟩
  · rw [blockedOutbox_selected]
    exact List.mem_map_of_mem (List.mem_cons_of_mem _ List.mem_cons_self)
  · rintro ⟨published, _⟩
    rcases blockedOutbox_oldest_refused plainFormat with ⟨row, oldest, refused⟩
    rw [publishPending_blocked plainFormat _ oldest refused] at published
    cases published

end EmbeddedAlerts
