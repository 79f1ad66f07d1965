import EmbeddedAlerts.Transport.Correspondence

namespace EmbeddedAlerts

/-!
# The outbox and the event stream

Several publishers may select the same pending rows, and each may stop between
the publish, its acknowledgement and the mark.  What holds throughout is that
a queue only lists outbox rows, that past the publish the head of the queue is
in the stream, and that every message of the stream has its row.

A publish whose id is already stored is dropped.  The reply dedupe keys of all
rows ever enqueued are distinct, so the stored message is the same one.  Event
ids are distinct as well, so a mark touches the row that was published.
-/

/-! ## Unique keys of the outbox -/

namespace Correspondence

variable {postgres : Postgres} {system : System}

theorem outbox_eventIds_nodup (holds : Correspondence postgres system) :
    (system.database.outbox.map OutboxRow.eventId).Nodup :=
  (List.nodup_append.mp holds.events).2.1

theorem outbox_dedupeKeys_nodup (holds : Correspondence postgres system) :
    (system.database.outbox.map OutboxRow.dedupeKey).Nodup := by
  have column : system.database.outbox.map OutboxRow.dedupeKey =
      system.executed.map (fun writes => replyDedupeKey writes.command.dedupeKey) :=
    holds.outbox_column _ (fun command => replyDedupeKey command.dedupeKey) (fun _ => rfl)
      (fun _ _ _ _ => rfl)
  have keys := holds.dedupeKeys_nodup.map replyDedupeKey_injective
  rw [List.map_map] at keys
  rw [column]
  exact keys

end Correspondence

/-! ## The invariant -/

structure Publication (postgres : Postgres) (system : System) : Prop where
  corresponds : Correspondence postgres system
  queued : forall state, state ∈ system.publishers -> forall row, row ∈ state.queue ->
    row ∈ system.database.outbox.map OutboxRow.pending
  stored : forall state, state ∈ system.publishers -> state.stage ≠ .selected ->
    forall row, state.queue.head? = some row -> row.message ∈ system.events
  marked : forall row, row ∈ system.database.outbox -> row.publishedAt ≠ none ->
    row.pending.message ∈ system.events
  backed : forall message, message ∈ system.events ->
    Exists fun row => row ∈ system.database.outbox ∧ row.pending.message = message
  ids : (system.events.map EventMessage.id).Nodup

theorem publication_initial (postgres : Postgres) : Publication postgres System.initial where
  corresponds := correspondence_initial postgres
  queued := by intro state member; cases member
  stored := by intro state member; cases member
  marked := by intro row member; cases member
  backed := by intro message member; cases member
  ids := List.Pairwise.nil

/-- A selected row is a pending row of the outbox. -/
theorem mem_selectOutbox {rows : List OutboxRow} {row : PendingOutbox}
    (member : row ∈ selectOutbox rows) : row ∈ rows.map OutboxRow.pending := by
  rcases List.mem_map.mp member with ⟨stored, selected, rfl⟩
  have within := Ranking.mem_of_mem_top _ selected
  exact List.mem_map_of_mem (List.mem_filter.mp within).1

theorem pending_markOutbox (rows : List OutboxRow) (eventId : Uuid) (now : Int) :
    (markOutbox rows eventId now).map OutboxRow.pending = rows.map OutboxRow.pending := by
  rw [markOutbox, List.map_map]
  apply List.map_congr_left
  intro row _
  simp only [Function.comp_apply]
  split
  · rfl
  · rfl

namespace Publication

variable {postgres : Postgres} {deployment : Deployment} {system next : System}

/-- A step that leaves the publishers, the stream and the outbox alone. -/
theorem frame (holds : Publication postgres system) (corresponds : Correspondence postgres next)
    (publishers : next.publishers = system.publishers) (events : next.events = system.events)
    (outbox : next.database.outbox = system.database.outbox) : Publication postgres next := by
  refine ⟨corresponds, ?_, ?_, ?_, ?_, ?_⟩
  · rw [publishers, outbox]
    exact holds.queued
  · rw [publishers, events]
    exact holds.stored
  · rw [outbox, events]
    exact holds.marked
  · rw [outbox, events]
    exact holds.backed
  · rw [events]
    exact holds.ids

/-- A commit appends a row that is not marked. -/
theorem commit (holds : Publication postgres system) {consumer : Nat}
    (taken : system.commit consumer = some next) : Publication postgres next := by
  have corresponds := holds.corresponds.commit taken
  rcases System.commit_cases taken with ⟨session, found, ⟨_, rfl⟩ | ⟨writes, stage, rfl⟩⟩
  · exact holds.frame corresponds rfl rfl rfl
  · have sound := holds.corresponds.stages session (System.session_spec found).1
    rw [stage] at sound
    rcases sound.1 with ⟨_, now, eventId, _, _, outbox, _⟩
    refine ⟨corresponds, ?_, holds.stored, ?_, ?_, holds.ids⟩
    · intro state member row queued
      change row ∈ (system.database.outbox ++ writes.outbox.toList).map OutboxRow.pending
      rw [List.map_append]
      exact List.mem_append_left _ (holds.queued state member row queued)
    · intro row member published
      rcases List.mem_append.mp member with earlier | last
      · exact holds.marked row earlier published
      · rw [outbox] at last
        rw [List.mem_singleton.mp last] at published
        exact absurd rfl published
    · intro message member
      rcases holds.backed message member with ⟨row, present, same⟩
      exact ⟨row, List.mem_append_left _ present, same⟩

theorem selectPending (holds : Publication postgres system) {publisher : Nat}
    (corresponds : Correspondence postgres next)
    (taken : system.selectPending publisher = some next) : Publication postgres next := by
  rw [System.selectPending_cases taken] at corresponds ⊢
  refine ⟨corresponds, ?_, ?_, holds.marked, holds.backed, holds.ids⟩
  · intro state member row queued
    rcases List.mem_cons.mp member with rfl | other
    · exact mem_selectOutbox queued
    · exact holds.queued state other row queued
  · intro state member past
    rcases List.mem_cons.mp member with rfl | other
    · exact absurd rfl past
    · exact holds.stored state other past

/-- Two rows of the outbox with one dedupe key are one row. -/
theorem same_row (holds : Publication postgres system) {left right : OutboxRow}
    (leftMember : left ∈ system.database.outbox) (rightMember : right ∈ system.database.outbox)
    (same : left.dedupeKey = right.dedupeKey) : left = right :=
  List.inj_on_of_nodup_map holds.corresponds.outbox_dedupeKeys_nodup leftMember rightMember same

/-- After the publish of a row, its message is in the stream, whether it was
stored now or before. -/
theorem mem_storeEvent (holds : Publication postgres system) {row : OutboxRow}
    (member : row ∈ system.database.outbox) :
    row.pending.message ∈ storeEvent system.events row.pending.message := by
  unfold storeEvent
  split
  · next known =>
      rcases List.any_eq_true.mp known with ⟨message, present, sameId⟩
      rcases holds.backed message present with ⟨other, otherMember, rfl⟩
      rw [holds.same_row member otherMember (of_decide_eq_true sameId).symm]
      exact present
  · exact List.mem_append_right _ (List.mem_singleton_self _)

theorem events_subset_storeEvent (events : List EventMessage) (message : EventMessage) :
    events ⊆ storeEvent events message := by
  unfold storeEvent
  split
  · exact List.Subset.refl _
  · exact List.subset_append_left _ _

theorem ids_storeEvent {events : List EventMessage} (unique : (events.map EventMessage.id).Nodup)
    (message : EventMessage) : ((storeEvent events message).map EventMessage.id).Nodup := by
  unfold storeEvent
  split
  · exact unique
  · next unknown =>
      rw [List.map_append, List.nodup_append]
      refine ⟨unique, List.nodup_singleton _, ?_⟩
      intro id known other new same
      rcases List.mem_map.mp known with ⟨stored, present, rfl⟩
      rw [List.map_singleton, List.mem_singleton] at new
      apply unknown
      exact List.any_eq_true.mpr ⟨stored, present, decide_eq_true (same.trans new)⟩

theorem publishReply (holds : Publication postgres system) {publisher : Nat}
    (corresponds : Correspondence postgres next)
    (taken : system.publishReply deployment publisher = some next) :
    Publication postgres next := by
  rcases System.publishReply_cases taken with ⟨state, row, rest, found, _, queue, _, _, rfl⟩
  have present := (System.publisher_spec found).1
  have queued := holds.queued state present row (by rw [queue]; exact List.mem_cons_self)
  rcases List.mem_map.mp queued with ⟨stored, storedMember, rfl⟩
  refine ⟨corresponds, ?_, ?_, ?_, ?_, ids_storeEvent holds.ids _⟩
  · intro other member
    rcases List.mem_cons.mp member with rfl | later
    · exact holds.queued state present
    · exact holds.queued other (System.mem_of_mem_otherPublishers later)
  · intro other member past head first
    rcases List.mem_cons.mp member with rfl | later
    · rw [queue] at first
      rw [← Option.some.inj first]
      exact holds.mem_storeEvent storedMember
    · exact events_subset_storeEvent _ _
        (holds.stored other (System.mem_of_mem_otherPublishers later) past head first)
  · intro marked member published
    exact events_subset_storeEvent _ _ (holds.marked marked member published)
  · intro message member
    unfold storeEvent at member
    split at member
    · exact holds.backed message member
    · rcases List.mem_append.mp member with earlier | last
      · exact holds.backed message earlier
      · exact ⟨stored, storedMember, (List.mem_singleton.mp last).symm⟩

theorem acknowledgeReply (holds : Publication postgres system) {publisher : Nat}
    (corresponds : Correspondence postgres next)
    (taken : system.acknowledgeReply publisher = some next) : Publication postgres next := by
  rcases System.acknowledgeReply_cases taken with ⟨state, found, stage, rfl⟩
  have present := (System.publisher_spec found).1
  refine ⟨corresponds, ?_, ?_, holds.marked, holds.backed, holds.ids⟩
  · intro other member
    rcases List.mem_cons.mp member with rfl | later
    · exact holds.queued state present
    · exact holds.queued other (System.mem_of_mem_otherPublishers later)
  · intro other member past
    rcases List.mem_cons.mp member with rfl | later
    · exact holds.stored state present (by rw [stage]; decide)
    · exact holds.stored other (System.mem_of_mem_otherPublishers later) past

theorem markReply (holds : Publication postgres system) {publisher : Nat}
    (corresponds : Correspondence postgres next)
    (taken : system.markReply publisher = some next) : Publication postgres next := by
  rcases System.markReply_cases taken with ⟨state, row, rest, found, stage, queue, rfl⟩
  have present := (System.publisher_spec found).1
  have pending := pending_markOutbox system.database.outbox row.eventId system.clock
  refine ⟨corresponds, ?_, ?_, ?_, ?_, holds.ids⟩
  · intro other member queuedRow queued
    change queuedRow ∈ (markOutbox _ _ _).map OutboxRow.pending
    rw [pending]
    rcases List.mem_cons.mp member with rfl | later
    · exact holds.queued state present queuedRow (by rw [queue]; exact List.mem_cons_of_mem _ queued)
    · exact holds.queued other (System.mem_of_mem_otherPublishers later) queuedRow queued
  · intro other member past
    rcases List.mem_cons.mp member with rfl | later
    · exact absurd rfl past
    · exact holds.stored other (System.mem_of_mem_otherPublishers later) past
  · intro after member published
    rcases List.mem_map.mp member with ⟨before, beforeMember, rfl⟩
    split at published
    · next marking =>
        -- The marked row is the one at the head of the queue.
        have queued := holds.queued state present row (by rw [queue]; exact List.mem_cons_self)
        rcases List.mem_map.mp queued with ⟨stored, storedMember, rfl⟩
        have same : before = stored := List.inj_on_of_nodup_map
          holds.corresponds.outbox_eventIds_nodup beforeMember storedMember marking.1
        rw [if_pos marking, same]
        exact holds.stored state present (by rw [stage]; decide) stored.pending (by rw [queue]; rfl)
    · next unmarked =>
        rw [if_neg unmarked]
        exact holds.marked before beforeMember published
  · intro message member
    rcases holds.backed message member with ⟨before, beforeMember, same⟩
    have listed : before.pending ∈ (markOutbox system.database.outbox row.eventId
        system.clock).map OutboxRow.pending := by
      rw [pending]
      exact List.mem_map_of_mem beforeMember
    rcases List.mem_map.mp listed with ⟨after, afterMember, samePending⟩
    exact ⟨after, afterMember, by rw [samePending]; exact same⟩

theorem stopPublisher (holds : Publication postgres system) {publisher : Nat}
    (corresponds : Correspondence postgres next)
    (taken : system.stopPublisher publisher = some next) : Publication postgres next := by
  cases taken
  exact ⟨corresponds,
    fun state member => holds.queued state (System.mem_of_mem_otherPublishers member),
    fun state member => holds.stored state (System.mem_of_mem_otherPublishers member),
    holds.marked, holds.backed, holds.ids⟩

theorem step (holds : Publication deployment.postgres system) {action : Action}
    (taken : system.step deployment action = some next) :
    Publication deployment.postgres next := by
  have corresponds := holds.corresponds.step taken
  cases action with
  | tick milliseconds =>
      rcases System.tick_cases taken with ⟨_, rfl⟩
      exact holds.frame corresponds rfl rfl rfl
  | sign command =>
      cases taken
      exact holds.frame corresponds rfl rfl rfl
  | publishCommand payload =>
      cases taken
      exact holds.frame corresponds rfl rfl rfl
  | createAlert actor input id instant =>
      rcases System.createAlert_cases taken with ⟨_, _, _, rfl⟩
      exact holds.frame corresponds rfl rfl rfl
  | deliver consumer index termReceived =>
      rcases System.deliver_cases taken with ⟨_, _, _, _, ⟨_, rfl⟩ | ⟨_, _, rfl⟩⟩
      · exact holds.frame corresponds rfl rfl rfl
      · exact holds.frame corresponds rfl rfl rfl
  | beginTransaction consumer =>
      rcases System.beginTransaction_cases taken with ⟨_, _, _, rfl⟩
      exact holds.frame corresponds rfl rfl rfl
  | insertInbox consumer =>
      rcases System.insertInbox_cases taken with ⟨_, _, _, _, _, _, _, ⟨_, rfl⟩ | ⟨_, rfl⟩⟩
      · exact holds.frame corresponds rfl rfl rfl
      · exact holds.frame corresponds rfl rfl rfl
  | readAlerts consumer outcome =>
      rcases System.readAlerts_cases taken with ⟨_, _, _, _, _, _, _, rfl⟩
      exact holds.frame corresponds rfl rfl rfl
  | enqueueReply consumer eventId =>
      rcases System.enqueueReply_cases taken with ⟨_, _, _, _, _, _, ⟨_, rfl⟩ | ⟨_, _, rfl⟩⟩
      · exact holds.frame corresponds rfl rfl rfl
      · exact holds.frame corresponds rfl rfl rfl
  | insertStatus consumer =>
      rcases System.insertStatus_cases taken with ⟨_, _, _, _, _, _, _, _, _, rfl⟩
      exact holds.frame corresponds rfl rfl rfl
  | commit consumer => exact holds.commit taken
  | ack consumer received =>
      rcases System.ack_cases taken with ⟨_, _, _, rfl⟩
      exact holds.frame corresponds rfl rfl rfl
  | stop consumer =>
      cases taken
      exact holds.frame corresponds rfl rfl rfl
  | selectPending publisher => exact holds.selectPending corresponds taken
  | publishReply publisher => exact holds.publishReply corresponds taken
  | acknowledgeReply publisher => exact holds.acknowledgeReply corresponds taken
  | markReply publisher => exact holds.markReply corresponds taken
  | stopPublisher publisher => exact holds.stopPublisher corresponds taken

end Publication

theorem System.Reachable.publication {deployment : Deployment} {system : System}
    (reached : System.Reachable deployment system) : Publication deployment.postgres system :=
  Runs.Reachable.invariant (fun _ begun => begun ▸ publication_initial deployment.postgres)
    (fun _ _ _ holds _ taken => holds.step taken) reached

/-! ## What publishers may change -/

/-- The steps of `publish_pending`. -/
def Action.publishes : Action -> Bool
  | .selectPending _ => true
  | .publishReply _ => true
  | .acknowledgeReply _ => true
  | .markReply _ => true
  | .stopPublisher _ => true
  | _ => false

/-- Only `published_at` may differ, and only where it was not set. -/
def OutboxRow.MarkedFrom (before after : OutboxRow) : Prop :=
  after.unmarked = before.unmarked ∧ (before.publishedAt ≠ none -> after = before)

theorem markedFrom_markOutbox (rows : List OutboxRow) (eventId : Uuid) (now : Int) :
    List.Forall₂ OutboxRow.MarkedFrom rows (markOutbox rows eventId now) := by
  rw [markOutbox, List.forall₂_map_right_iff, List.forall₂_same]
  intro row _
  constructor
  · split
    · rfl
    · rfl
  · intro published
    rw [if_neg]
    exact fun marking => published marking.2

/-- No table but the outbox changes, and that only by marks. -/
theorem System.step_of_publishes {deployment : Deployment} {system next : System}
    {action : Action} (publishes : action.publishes = true)
    (taken : system.step deployment action = some next) :
    next.database.alerts = system.database.alerts ∧
      next.database.inbox = system.database.inbox ∧
      next.database.status = system.database.status ∧
      List.Forall₂ OutboxRow.MarkedFrom system.database.outbox next.database.outbox := by
  have kept : List.Forall₂ OutboxRow.MarkedFrom system.database.outbox system.database.outbox :=
    List.forall₂_same.mpr (fun row _ => ⟨rfl, fun _ => rfl⟩)
  cases action with
  | selectPending publisher =>
      rw [System.selectPending_cases taken]
      exact ⟨rfl, rfl, rfl, kept⟩
  | publishReply publisher =>
      rcases System.publishReply_cases taken with ⟨_, _, _, _, _, _, _, _, rfl⟩
      exact ⟨rfl, rfl, rfl, kept⟩
  | acknowledgeReply publisher =>
      rcases System.acknowledgeReply_cases taken with ⟨_, _, _, rfl⟩
      exact ⟨rfl, rfl, rfl, kept⟩
  | markReply publisher =>
      rcases System.markReply_cases taken with ⟨_, _, _, _, _, _, rfl⟩
      exact ⟨rfl, rfl, rfl, markedFrom_markOutbox _ _ _⟩
  | stopPublisher publisher =>
      cases taken
      exact ⟨rfl, rfl, rfl, kept⟩
  | _ => cases publishes

/-- In every reachable state a marked row is in the event stream, the stream
has at most one message for a row and no two rows share an id, and every
message comes from a committed row.  `publish_pending` changes nothing in the
database but marks, and no mark that is set. -/
theorem outbox_published_once (deployment : Deployment) :
    (forall system, System.Reachable deployment system ->
      (forall row, row ∈ system.database.outbox -> row.publishedAt ≠ none ->
        EventMessage.mk row.dedupeKey row.subject row.payload ∈ system.events) ∧
      (forall row, row ∈ system.database.outbox ->
        system.events.countP (fun message => decide (message.id = row.dedupeKey)) ≤ 1) ∧
      (system.database.outbox.map OutboxRow.dedupeKey).Nodup ∧
      (forall message, message ∈ system.events ->
        Exists fun row => row ∈ system.database.outbox ∧
          message = EventMessage.mk row.dedupeKey row.subject row.payload)) ∧
    (forall (system : System) (action : Action) (next : System), action.publishes = true ->
      system.step deployment action = some next ->
      next.database.alerts = system.database.alerts ∧
        next.database.inbox = system.database.inbox ∧
        next.database.status = system.database.status ∧
        List.Forall₂ OutboxRow.MarkedFrom system.database.outbox next.database.outbox) := by
  refine ⟨?_, fun system action next publishes taken => System.step_of_publishes publishes taken⟩
  intro system reached
  have holds := reached.publication
  refine ⟨holds.marked, ?_, holds.corresponds.outbox_dedupeKeys_nodup, ?_⟩
  · intro row _
    have unique := List.nodup_iff_count_le_one.mp holds.ids row.dedupeKey
    rw [List.count, List.countP_map] at unique
    refine (Nat.le_of_eq (List.countP_congr ?_)).trans unique
    intro message _
    simp
  · intro message member
    rcases holds.backed message member with ⟨row, present, same⟩
    exact ⟨row, present, same.symm⟩

/-- One request is answered, published, acknowledged and marked. -/
theorem firstRun_marked : (sampleRun .cast (firstRun ++
    [.selectPending 0, .publishReply 0, .acknowledgeReply 0, .markReply 0])).map
      (fun system => system.database.outbox.map OutboxRow.publishedAt) =
    some [some 2000000000000] := by
  decide +kernel

theorem firstRun_published : Exists fun system =>
    System.Reachable (sampleDeployment .cast) system ∧
    Exists fun row => row ∈ system.database.outbox ∧ row.publishedAt = some 2000000000000 ∧
      EventMessage.mk row.dedupeKey row.subject row.payload ∈ system.events := by
  rcases Option.map_eq_some_iff.mp firstRun_marked with ⟨system, done, marks⟩
  have reached := sampleRun_reached done
  have listed : some 2000000000000 ∈ system.database.outbox.map OutboxRow.publishedAt := by
    rw [marks]
    exact List.mem_singleton_self _
  rcases List.mem_map.mp listed with ⟨row, member, published⟩
  refine ⟨system, reached, row, member, published, ?_⟩
  exact ((outbox_published_once (sampleDeployment .cast)).1 system reached).1 row member
    (by rw [published]; exact Option.some_ne_none _)

end EmbeddedAlerts
