import EmbeddedAlerts.Library.UniqueKeys
import EmbeddedAlerts.Transport.Steps

namespace EmbeddedAlerts

/-!
# Inbox, outbox and status describe one log of executed requests

The abstract state of the transport is a log of executed requests, no two of
which share an event, a correlation or a dedupe key.  The three tables are its
projections: one inbox row, one outbox row and one status row for every entry,
and nothing else.

Open transactions hold keys as well.  `claimedRows` lists the inbox rows of the
open transactions together with those of the log, and the invariant is that no
two of them clash.  An inbox insert adds a row that clashes with none of them,
a commit only moves a row from the open transactions to the log, and a crash
removes one.  That is why the outbox insert is never skipped and the status
upsert never overwrites.
-/

/-! ## The invariant -/

def OutboxRow.unmarked (row : OutboxRow) : OutboxRow := { row with publishedAt := none }

/-- The rows of one executed request, all bound from its command. -/
def Writes.Sound (postgres : Postgres) (writes : Writes) : Prop :=
  Exists fun actor => Exists fun now => Exists fun eventId =>
    postgres.assignText writes.command.operation.actorSubject = some actor ∧
    writes.inbox = inboxRow writes.command actor now ∧
    writes.outbox = some (outboxRow writes.command writes.reply eventId now) ∧
    writes.status = statusRow writes.command actor writes.reply now ∧
    writes.reply.Answers writes.command

/-- What an open transaction has written so far. -/
def Stage.Sound (postgres : Postgres) (command : AsyncCommand) : Stage -> Prop
  | .reading now row => Exists fun actor =>
      postgres.assignText command.operation.actorSubject = some actor ∧
      row = inboxRow command actor now
  | .replying now row reply _ => Exists fun actor =>
      postgres.assignText command.operation.actorSubject = some actor ∧
      row = inboxRow command actor now ∧ reply.Answers command
  | .recording now row reply outbox => Exists fun actor => Exists fun eventId =>
      postgres.assignText command.operation.actorSubject = some actor ∧
      row = inboxRow command actor now ∧ reply.Answers command ∧
      outbox = some (outboxRow command reply eventId now)
  | .committing (some writes) => writes.Sound postgres ∧ writes.command = command
  | _ => True

/-- The tables are the projections of the log. -/
structure Database.Records (database : Database) (executed : List Writes) : Prop where
  inbox : database.inbox = executed.map Writes.inbox
  outbox : database.outbox.map (fun row => some row.unmarked) = executed.map Writes.outbox
  status : database.status = executed.map Writes.status

def heldRows (sessions : List Session) : List InboxRow :=
  sessions.filterMap (fun session => session.stage.inbox)

def heldEvents (sessions : List Session) : List Uuid :=
  (sessions.filterMap (fun session => session.stage.outbox)).map OutboxRow.eventId

def System.claimedRows (system : System) : List InboxRow :=
  heldRows system.sessions ++ system.executed.map Writes.inbox

def System.claimedEvents (system : System) : List Uuid :=
  heldEvents system.sessions ++ system.database.outbox.map OutboxRow.eventId

def Apart (left right : InboxRow) : Prop := left.clashes right = false

theorem Apart.symm {left right : InboxRow} (apart : Apart left right) : Apart right left := by
  rw [Apart, InboxRow.clashes_symm]
  exact apart

structure Correspondence (postgres : Postgres) (system : System) : Prop where
  records : system.database.Records system.executed
  sound : forall writes, writes ∈ system.executed -> writes.Sound postgres
  stages : forall session, session ∈ system.sessions ->
    session.stage.Sound postgres session.command
  rows : system.claimedRows.Pairwise Apart
  events : system.claimedEvents.Nodup

theorem correspondence_initial (postgres : Postgres) : Correspondence postgres System.initial where
  records := ⟨rfl, rfl, rfl⟩
  sound := by intro writes member; cases member
  stages := by intro session member; cases member
  rows := List.Pairwise.nil
  events := List.Pairwise.nil

namespace Correspondence

variable {postgres : Postgres} {deployment : Deployment} {system next : System} {consumer : Nat}

/-- A step that leaves the sessions, the log and the tables alone, up to the
publication marks of the outbox. -/
theorem frame (holds : Correspondence postgres system) (sessions : next.sessions = system.sessions)
    (executed : next.executed = system.executed) (inbox : next.database.inbox = system.database.inbox)
    (status : next.database.status = system.database.status)
    (outbox : next.database.outbox.map OutboxRow.unmarked =
      system.database.outbox.map OutboxRow.unmarked) : Correspondence postgres next := by
  have ids : next.database.outbox.map OutboxRow.eventId =
      system.database.outbox.map OutboxRow.eventId := by
    have projected := congrArg (List.map OutboxRow.eventId) outbox
    simp only [List.map_map] at projected
    exact projected
  have marked : next.database.outbox.map (fun row => some row.unmarked) =
      system.database.outbox.map (fun row => some row.unmarked) := by
    have projected := congrArg (List.map some) outbox
    simp only [List.map_map] at projected
    exact projected
  refine ⟨⟨?_, ?_, ?_⟩, ?_, ?_, ?_, ?_⟩
  · rw [inbox, executed, holds.records.inbox]
  · rw [marked, executed, holds.records.outbox]
  · rw [status, executed, holds.records.status]
  · rw [executed]
    exact holds.sound
  · rw [sessions]
    exact holds.stages
  · rw [System.claimedRows, sessions, executed]
    exact holds.rows
  · rw [System.claimedEvents, sessions, ids]
    exact holds.events

/-- Fewer sessions hold fewer keys. -/
theorem drop (holds : Correspondence postgres system) (same : next.database = system.database)
    (executed : next.executed = system.executed)
    (within : next.sessions.Sublist system.sessions) : Correspondence postgres next where
  records := by rw [same, executed]; exact holds.records
  sound := by rw [executed]; exact holds.sound
  stages := fun session member => holds.stages session (within.subset member)
  rows := by
    rw [System.claimedRows, executed]
    exact holds.rows.sublist ((within.filterMap _).append_right _)
  events := by
    rw [System.claimedEvents, same]
    exact holds.events.sublist (((within.filterMap _).map _).append_right _)

theorem heldRows_cons (session : Session) (rest : List Session) :
    heldRows (session :: rest) = session.stage.inbox.toList ++ heldRows rest := by
  simp only [heldRows, List.filterMap_cons]
  cases session.stage.inbox with
  | none => rfl
  | some row => rfl

theorem heldEvents_cons (session : Session) (rest : List Session) :
    heldEvents (session :: rest) =
      session.stage.outbox.toList.map OutboxRow.eventId ++ heldEvents rest := by
  simp only [heldEvents, List.filterMap_cons]
  cases session.stage.outbox with
  | none => rfl
  | some row => rfl

/-- The keys that one consumer and the others hold are among the claims. -/
theorem held_subperm {session : Session} (found : system.session consumer = some session) :
    (session.stage.inbox.toList ++ heldRows (system.otherSessions session.consumer)).Subperm
        (heldRows system.sessions) ∧
      ((session.stage.outbox.toList.map OutboxRow.eventId) ++
          heldEvents (system.otherSessions session.consumer)).Subperm
        (heldEvents system.sessions) := by
  have within := System.session_cons_subperm found
  rw [← heldRows_cons, ← heldEvents_cons]
  exact ⟨UniqueKeys.filterMap _ within, UniqueKeys.map _ (UniqueKeys.filterMap _ within)⟩

/-- Moving a session to a stage whose new keys, if any, nobody has or holds. -/
theorem advance (holds : Correspondence postgres system) {session : Session}
    (found : system.session consumer = some session) {stage : Stage}
    (sound : stage.Sound postgres session.command)
    (inbox : stage.inbox = session.stage.inbox ∨ stage.inbox = none ∨
      Exists fun row => stage.inbox = some row ∧
        (forall held, held ∈ heldRows (system.otherSessions session.consumer) -> Apart row held) ∧
        forall writes, writes ∈ system.executed -> Apart row writes.inbox)
    (outbox : stage.outbox = session.stage.outbox ∨ stage.outbox = none ∨
      Exists fun row => stage.outbox = some row ∧
        row.eventId ∉ heldEvents (system.otherSessions session.consumer) ∧
        row.eventId ∉ system.database.outbox.map OutboxRow.eventId) :
    Correspondence postgres (system.advance session stage) := by
  have held := held_subperm found
  have others : (heldRows (system.otherSessions session.consumer)).Subperm
      (heldRows system.sessions) :=
    (List.sublist_append_right _ _).subperm.trans held.1
  have otherEvents : (heldEvents (system.otherSessions session.consumer)).Subperm
      (heldEvents system.sessions) :=
    (List.sublist_append_right _ _).subperm.trans held.2
  refine ⟨holds.records, holds.sound, ?_, ?_, ?_⟩
  · intro other member
    rcases List.mem_cons.mp member with rfl | later
    · exact sound
    · exact holds.stages other (System.mem_of_mem_otherSessions later)
  · rw [System.claimedRows, System.advance, heldRows_cons]
    rcases inbox with same | none | ⟨row, new, free, fresh⟩
    · rw [same]
      exact UniqueKeys.pairwise Apart.symm ((List.subperm_append_right _).mpr held.1) holds.rows
    · rw [none]
      exact UniqueKeys.pairwise Apart.symm ((List.subperm_append_right _).mpr others) holds.rows
    · rw [new]
      have rest := UniqueKeys.pairwise Apart.symm ((List.subperm_append_right _).mpr others) holds.rows
      refine List.pairwise_cons.mpr ⟨?_, rest⟩
      intro other member
      rcases List.mem_append.mp member with open' | logged
      · exact free other open'
      · rcases List.mem_map.mp logged with ⟨writes, present, rfl⟩
        exact fresh writes present
  · rw [System.claimedEvents, System.advance, heldEvents_cons]
    rcases outbox with same | none | ⟨row, new, free, fresh⟩
    · rw [same]
      exact UniqueKeys.nodup ((List.subperm_append_right _).mpr held.2) holds.events
    · rw [none]
      exact UniqueKeys.nodup ((List.subperm_append_right _).mpr otherEvents) holds.events
    · rw [new]
      have rest := UniqueKeys.nodup ((List.subperm_append_right _).mpr otherEvents) holds.events
      refine List.nodup_cons.mpr ⟨?_, rest⟩
      intro member
      rcases List.mem_append.mp member with open' | stored
      · exact free open'
      · exact fresh stored

/-! ## The three steps that claim, use and pass on keys -/

theorem insertInbox (holds : Correspondence deployment.postgres system)
    (taken : system.insertInbox deployment consumer = some next) :
    Correspondence deployment.postgres next := by
  rcases System.insertInbox_cases taken with
    ⟨session, now, row, found, stage, bound, free, ⟨_, rfl⟩ | ⟨clear, rfl⟩⟩
  · exact holds.advance found trivial (Or.inr (Or.inl rfl)) (Or.inr (Or.inl rfl))
  · have owner := (System.session_spec found).2
    rcases (bindRow_eq_some_iff _ _ _ _ _).mp bound with ⟨actor, assigned, _, built⟩
    refine holds.advance found ⟨actor, assigned, built⟩ ?_ (Or.inr (Or.inl rfl))
    refine Or.inr (Or.inr ⟨row, rfl, ?_, ?_⟩)
    · intro held member
      rcases List.mem_filterMap.mp member with ⟨other, present, holdsRow⟩
      rw [owner] at present
      exact free other present held holdsRow
    · intro writes member
      apply clear
      rw [holds.records.inbox]
      exact List.mem_map_of_mem member

/-- Every outbox row was written for an executed request. -/
theorem outbox_executed (holds : Correspondence postgres system) {row : OutboxRow}
    (member : row ∈ system.database.outbox) :
    Exists fun writes => writes ∈ system.executed ∧ writes.outbox = some row.unmarked := by
  have projected : some row.unmarked ∈ system.executed.map Writes.outbox := by
    rw [← holds.records.outbox]
    exact List.mem_map.mpr ⟨row, member, rfl⟩
  rcases List.mem_map.mp projected with ⟨writes, present, same⟩
  exact ⟨writes, present, same⟩

/-- A session that holds an inbox row is apart from every executed request. -/
theorem held_apart (holds : Correspondence postgres system) {session : Session}
    (present : session ∈ system.sessions) {row : InboxRow} (held : session.stage.inbox = some row)
    {writes : Writes} (member : writes ∈ system.executed) : Apart row writes.inbox :=
  (List.pairwise_append.mp holds.rows).2.2 row
    (List.mem_filterMap.mpr ⟨session, present, held⟩) writes.inbox (List.mem_map_of_mem member)

theorem enqueueReply (holds : Correspondence postgres system) {eventId : Uuid}
    (taken : system.enqueueReply consumer eventId = some next) : Correspondence postgres next := by
  rcases System.enqueueReply_cases taken with
    ⟨session, now, row, reply, found, stage, ⟨⟨stored, member, sameKey⟩, rfl⟩ | ⟨fresh, free, rfl⟩⟩
  · -- A committed reply to this dedupe key would belong to a clashing request.
    exfalso
    have present := (System.session_spec found).1
    have sound := holds.stages session present
    rw [stage] at sound
    rcases sound with ⟨actor, _, built, _⟩
    rcases holds.outbox_executed member with ⟨writes, executed, outbox⟩
    rcases holds.sound writes executed with ⟨other, time, event, _, inbox, written, _⟩
    have held : session.stage.inbox = some row := by rw [stage]; rfl
    have apart := holds.held_apart present held executed
    have keys := ((InboxRow.not_clashes_iff _ _).mp apart).2.2
    apply keys
    rw [built, inbox]
    apply replyDedupeKey_injective
    rw [written] at outbox
    have same := congrArg OutboxRow.dedupeKey (Option.some.inj outbox)
    exact sameKey.symm.trans same.symm
  · have owner := (System.session_spec found).2
    have sound := holds.stages session (System.session_spec found).1
    rw [stage] at sound
    rcases sound with ⟨actor, assigned, built, answers⟩
    refine holds.advance found ⟨actor, eventId, assigned, built, answers, rfl⟩
      (Or.inl (by rw [stage]; rfl)) (Or.inr (Or.inr ⟨_, rfl, ?_, ?_⟩))
    · intro member
      rcases List.mem_map.mp member with ⟨held, present, same⟩
      rcases List.mem_filterMap.mp present with ⟨other, otherPresent, holdsRow⟩
      rw [owner] at otherPresent
      exact free other otherPresent held holdsRow same
    · intro member
      rcases List.mem_map.mp member with ⟨row, present, same⟩
      exact fresh row present same

theorem insertStatus (holds : Correspondence deployment.postgres system)
    (taken : system.insertStatus deployment consumer = some next) :
    Correspondence deployment.postgres next := by
  rcases System.insertStatus_cases taken with
    ⟨session, now, row, reply, outbox, status, found, stage, bound, rfl⟩
  have sound := holds.stages session (System.session_spec found).1
  rw [stage] at sound
  rcases sound with ⟨actor, eventId, assigned, built, answers, written⟩
  rcases (bindRow_eq_some_iff _ _ _ _ _).mp bound with ⟨other, otherAssigned, _, builtStatus⟩
  have same : other = actor := Option.some.inj (otherAssigned.symm.trans assigned)
  refine holds.advance found ⟨⟨actor, now, eventId, assigned, built, written, ?_, answers⟩, rfl⟩
    (Or.inl (by rw [stage]; rfl)) (Or.inl (by rw [stage]; rfl))
  rw [← same]
  exact builtStatus

theorem commit (holds : Correspondence postgres system)
    (taken : system.commit consumer = some next) : Correspondence postgres next := by
  rcases System.commit_cases taken with ⟨session, found, ⟨stage, rfl⟩ | ⟨writes, stage, rfl⟩⟩
  · exact holds.advance found trivial (Or.inr (Or.inl rfl)) (Or.inr (Or.inl rfl))
  · have present := (System.session_spec found).1
    have sound := holds.stages session present
    rw [stage] at sound
    have held := held_subperm found
    have heldInbox : session.stage.inbox = some writes.inbox := by rw [stage]; rfl
    have heldOutbox : session.stage.outbox = writes.outbox := by rw [stage]; rfl
    rcases sound.1 with ⟨actor, now, eventId, assigned, inbox, outbox, status, answers⟩
    have absent : forall other, other ∈ system.database.status ->
        other.correlationId ≠ writes.status.correlationId := by
      intro other member
      rw [holds.records.status] at member
      rcases List.mem_map.mp member with ⟨earlier, executed, rfl⟩
      rcases holds.sound earlier executed with ⟨_, _, _, _, earlierInbox, _, earlierStatus, _⟩
      have apart := ((InboxRow.not_clashes_iff _ _).mp
        (holds.held_apart present heldInbox executed)).2.1
      rw [inbox, earlierInbox] at apart
      rw [status, earlierStatus]
      exact apart.symm
    refine ⟨⟨?_, ?_, ?_⟩, ?_, ?_, ?_, ?_⟩
    · change system.database.inbox ++ [writes.inbox] = _
      rw [holds.records.inbox, List.map_append]
      rfl
    · change (system.database.outbox ++ writes.outbox.toList).map _ = _
      rw [List.map_append, holds.records.outbox, List.map_append, outbox]
      simp only [List.map_cons, List.map_nil, outbox]
      rfl
    · change upsertStatus system.database.status writes.status = _
      rw [upsertStatus_of_absent absent, holds.records.status, List.map_append]
      rfl
    · intro other member
      rcases List.mem_append.mp member with earlier | last
      · exact holds.sound other earlier
      · rw [List.mem_singleton.mp last]
        exact sound.1
    · intro other member
      rcases List.mem_cons.mp member with rfl | later
      · trivial
      · exact holds.stages other (System.mem_of_mem_otherSessions later)
    · refine UniqueKeys.pairwise Apart.symm ?_ holds.rows
      rw [System.claimedRows]
      change (heldRows (system.advance session .committed).sessions ++
        (system.executed ++ [writes]).map Writes.inbox).Subperm _
      rw [System.advance, heldRows_cons, List.map_append]
      rw [heldInbox] at held
      refine List.Subperm.trans (List.Perm.subperm ?_) ((List.subperm_append_right _).mpr held.1)
      change (heldRows _ ++ (_ ++ [writes.inbox])).Perm (writes.inbox :: heldRows _ ++ _)
      rw [← List.append_assoc, List.cons_append]
      exact List.perm_append_singleton _ _
    · refine UniqueKeys.nodup ?_ holds.events
      rw [System.claimedEvents]
      change (heldEvents (system.advance session .committed).sessions ++
        (system.database.outbox ++ writes.outbox.toList).map OutboxRow.eventId).Subperm _
      rw [System.advance, heldEvents_cons, List.map_append]
      rw [heldOutbox] at held
      refine List.Subperm.trans (List.Perm.subperm ?_) ((List.subperm_append_right _).mpr held.2)
      change (heldEvents _ ++ (_ ++ _)).Perm (_ ++ heldEvents _ ++ _)
      rw [← List.append_assoc, List.append_assoc (List.map _ _)]
      exact List.perm_append_comm

/-- A publication mark changes no other column. -/
theorem unmarked_markOutbox (rows : List OutboxRow) (eventId : Uuid) (now : Int) :
    (markOutbox rows eventId now).map OutboxRow.unmarked = rows.map OutboxRow.unmarked := by
  rw [markOutbox, List.map_map]
  apply List.map_congr_left
  intro row _
  simp only [Function.comp_apply]
  split
  · rfl
  · rfl

theorem step (holds : Correspondence deployment.postgres system) {action : Action}
    (taken : system.step deployment action = some next) :
    Correspondence deployment.postgres next := by
  cases action with
  | tick milliseconds =>
      rcases System.tick_cases taken with ⟨_, rfl⟩
      exact holds.frame rfl rfl rfl rfl rfl
  | sign command =>
      cases taken
      exact holds.frame rfl rfl rfl rfl rfl
  | publishCommand payload =>
      cases taken
      exact holds.frame rfl rfl rfl rfl rfl
  | createAlert actor input id instant =>
      rcases System.createAlert_cases taken with ⟨_, _, _, rfl⟩
      exact holds.frame rfl rfl rfl rfl rfl
  | deliver consumer index termReceived =>
      rcases System.deliver_cases taken with ⟨_, _, _, _, ⟨_, rfl⟩ | ⟨command, _, rfl⟩⟩
      · exact holds.frame rfl rfl rfl rfl rfl
      · refine ⟨holds.records, holds.sound, ?_, holds.rows, holds.events⟩
        intro session member
        rcases List.mem_cons.mp member with rfl | later
        · trivial
        · exact holds.stages session later
  | beginTransaction consumer =>
      rcases System.beginTransaction_cases taken with ⟨session, found, _, rfl⟩
      exact holds.advance found trivial (Or.inr (Or.inl rfl)) (Or.inr (Or.inl rfl))
  | insertInbox consumer => exact holds.insertInbox taken
  | readAlerts consumer outcome =>
      rcases System.readAlerts_cases taken with ⟨session, now, row, _, found, stage, _, rfl⟩
      have sound := holds.stages session (System.session_spec found).1
      rw [stage] at sound
      rcases sound with ⟨actor, assigned, built⟩
      exact holds.advance found ⟨actor, assigned, built, readReply_answers _ _ _ _⟩
        (Or.inl (by rw [stage]; rfl)) (Or.inr (Or.inl rfl))
  | enqueueReply consumer eventId => exact holds.enqueueReply taken
  | insertStatus consumer => exact holds.insertStatus taken
  | commit consumer => exact holds.commit taken
  | ack consumer received =>
      rcases System.ack_cases taken with ⟨session, _, _, rfl⟩
      exact holds.drop rfl rfl List.filter_sublist
  | stop consumer =>
      cases taken
      exact holds.drop rfl rfl List.filter_sublist
  | selectPending publisher =>
      rw [System.selectPending_cases taken]
      exact holds.frame rfl rfl rfl rfl rfl
  | publishReply publisher =>
      rcases System.publishReply_cases taken with ⟨_, _, _, _, _, _, _, _, rfl⟩
      exact holds.frame rfl rfl rfl rfl rfl
  | acknowledgeReply publisher =>
      rcases System.acknowledgeReply_cases taken with ⟨_, _, _, rfl⟩
      exact holds.frame rfl rfl rfl rfl rfl
  | markReply publisher =>
      rcases System.markReply_cases taken with ⟨_, row, _, _, _, _, rfl⟩
      exact holds.frame rfl rfl rfl rfl (unmarked_markOutbox _ _ _)
  | stopPublisher publisher =>
      cases taken
      exact holds.frame rfl rfl rfl rfl rfl

end Correspondence

/-! ## The tables and the log in the same order -/

namespace Correspondence

variable {postgres : Postgres} {system : System}

theorem executed_apart (holds : Correspondence postgres system) :
    (system.executed.map Writes.inbox).Pairwise Apart :=
  (List.pairwise_append.mp holds.rows).2.1

/-- Executed requests differ in every key that keeps inbox rows apart. -/
theorem keys_nodup {β : Type} (holds : Correspondence postgres system) {inboxKey : InboxRow -> β}
    {commandKey : AsyncCommand -> β}
    (separates : forall left right : InboxRow, Apart left right -> inboxKey left ≠ inboxKey right)
    (same : forall writes : Writes, writes.Sound postgres ->
      inboxKey writes.inbox = commandKey writes.command) :
    (system.executed.map (fun writes => commandKey writes.command)).Nodup := by
  have renamed : system.executed.map (fun writes => commandKey writes.command) =
      (system.executed.map Writes.inbox).map inboxKey := by
    rw [List.map_map]
    apply List.map_congr_left
    intro writes member
    exact (same writes (holds.sound writes member)).symm
  rw [renamed]
  exact List.pairwise_map.mpr (holds.executed_apart.imp (fun apart => separates _ _ apart))

theorem correlations_nodup (holds : Correspondence postgres system) :
    (system.executed.map (fun writes => writes.command.correlationId)).Nodup := by
  apply holds.keys_nodup (fun left right apart => ((InboxRow.not_clashes_iff left right).mp apart).2.1)
  rintro writes ⟨actor, now, eventId, _, inbox, _⟩
  rw [inbox]
  rfl

theorem dedupeKeys_nodup (holds : Correspondence postgres system) :
    (system.executed.map (fun writes => writes.command.dedupeKey)).Nodup := by
  apply holds.keys_nodup
    (fun left right apart => ((InboxRow.not_clashes_iff left right).mp apart).2.2)
  rintro writes ⟨actor, now, eventId, _, inbox, _⟩
  rw [inbox]
  rfl

/-- The outbox lists a column of its rows, marks aside, in the order of the
log. -/
theorem outbox_column {β : Type} (holds : Correspondence postgres system)
    (column : OutboxRow -> β) (logged : AsyncCommand -> β)
    (unmarked : forall row : OutboxRow, column row.unmarked = column row)
    (bound : forall command reply eventId now,
      column (outboxRow command reply eventId now) = logged command) :
    system.database.outbox.map column =
      system.executed.map (fun writes => logged writes.command) := by
  have projected := congrArg (List.map (Option.map column)) holds.records.outbox
  rw [List.map_map, List.map_map] at projected
  apply List.map_injective_iff.mpr (Option.some_injective β)
  rw [List.map_map, List.map_map]
  refine (List.map_congr_left ?_).trans (projected.trans (List.map_congr_left ?_))
  · intro row _
    simp only [Function.comp_apply, Option.map_some, unmarked]
  · intro writes member
    rcases holds.sound writes member with ⟨actor, now, eventId, _, _, outbox, _⟩
    simp only [Function.comp_apply, outbox, Option.map_some, bound]

theorem outbox_correlations (holds : Correspondence postgres system) :
    system.database.outbox.map OutboxRow.correlationId =
      system.executed.map (fun writes => writes.command.correlationId) :=
  holds.outbox_column _ AsyncCommand.correlationId (fun _ => rfl) (fun _ _ _ _ => rfl)

theorem status_correlations (holds : Correspondence postgres system) :
    system.database.status.map StatusRow.correlationId =
      system.executed.map (fun writes => writes.command.correlationId) := by
  rw [holds.records.status, List.map_map]
  apply List.map_congr_left
  intro writes member
  rcases holds.sound writes member with ⟨actor, now, eventId, _, _, _, status, _⟩
  simp only [Function.comp_apply, status]
  rfl

/-- The committed rows of one executed request. -/
theorem rows_of_executed (holds : Correspondence postgres system) {writes : Writes}
    (member : writes ∈ system.executed) :
    writes.inbox ∈ system.database.inbox ∧ writes.status ∈ system.database.status ∧
      Exists fun row => row ∈ system.database.outbox ∧ writes.outbox = some row.unmarked := by
  refine ⟨?_, ?_, ?_⟩
  · rw [holds.records.inbox]
    exact List.mem_map_of_mem member
  · rw [holds.records.status]
    exact List.mem_map_of_mem member
  · have projected : writes.outbox ∈ system.executed.map Writes.outbox :=
      List.mem_map_of_mem member
    rw [← holds.records.outbox] at projected
    rcases List.mem_map.mp projected with ⟨row, present, same⟩
    exact ⟨row, present, same.symm⟩

/-- An outbox row, its mark aside, is the reply to an executed request. -/
theorem outbox_built (holds : Correspondence postgres system) {row : OutboxRow}
    (member : row ∈ system.database.outbox) :
    Exists fun writes => Exists fun eventId => Exists fun now => writes ∈ system.executed ∧
      row.unmarked = outboxRow writes.command writes.reply eventId now := by
  rcases holds.outbox_executed member with ⟨writes, executed, written⟩
  rcases holds.sound writes executed with ⟨_, now, eventId, _, _, built, _⟩
  rw [built] at written
  exact ⟨writes, eventId, now, executed, (Option.some.inj written).symm⟩

/-! ## What the tables say about each other -/

theorem one_outbox (holds : Correspondence postgres system) {row : InboxRow}
    (member : row ∈ system.database.inbox) :
    system.database.outbox.countP (fun outbox =>
      decide (outbox.correlationId = row.correlationId) &&
        decide (outbox.dedupeKey = "reply:" ++ row.dedupeKey)) = 1 := by
  rw [holds.records.inbox] at member
  rcases List.mem_map.mp member with ⟨writes, executed, rfl⟩
  rcases holds.rows_of_executed executed with ⟨_, _, outboxRow, outboxMember, written⟩
  rcases holds.sound writes executed with ⟨actor, now, eventId, _, inbox, outbox, _⟩
  rw [outbox] at written
  have unmarked := (Option.some.inj written).symm
  have correlation : outboxRow.correlationId = writes.inbox.correlationId := by
    rw [inbox]
    exact congrArg OutboxRow.correlationId unmarked
  have dedupe : outboxRow.dedupeKey = "reply:" ++ writes.inbox.dedupeKey := by
    rw [inbox]
    exact congrArg OutboxRow.dedupeKey unmarked
  refine UniqueKeys.countP_eq_one (holds.outbox_correlations ▸ holds.correlations_nodup)
    outboxMember (by simp [correlation, dedupe]) ?_
  intro other _ passes
  rw [Bool.and_eq_true] at passes
  exact (of_decide_eq_true passes.1).trans correlation.symm

theorem one_status (holds : Correspondence postgres system) {row : InboxRow}
    (member : row ∈ system.database.inbox) :
    system.database.status.countP (fun status =>
      decide (status.correlationId = row.correlationId) &&
        decide (status.productTenant = row.productTenant) &&
        decide (status.actorSubject = row.actorSubject)) = 1 := by
  rw [holds.records.inbox] at member
  rcases List.mem_map.mp member with ⟨writes, executed, rfl⟩
  rcases holds.sound writes executed with ⟨actor, now, eventId, _, inbox, _, status, _⟩
  refine UniqueKeys.countP_eq_one (holds.status_correlations ▸ holds.correlations_nodup)
    (holds.rows_of_executed executed).2.1 (by simp [inbox, status, inboxRow, statusRow]) ?_
  intro other _ passes
  rw [Bool.and_eq_true, Bool.and_eq_true] at passes
  rw [of_decide_eq_true passes.1.1, inbox, status]
  rfl

theorem outbox_inbox (holds : Correspondence postgres system) {outbox : OutboxRow}
    (member : outbox ∈ system.database.outbox) :
    Exists fun row => row ∈ system.database.inbox ∧
      outbox.correlationId = row.correlationId ∧ outbox.dedupeKey = "reply:" ++ row.dedupeKey := by
  rcases holds.outbox_built member with ⟨writes, eventId, now, executed, unmarked⟩
  rcases holds.sound writes executed with ⟨actor, received, _, _, inbox, _⟩
  refine ⟨writes.inbox, (holds.rows_of_executed executed).1, ?_, ?_⟩
  · rw [inbox]
    exact congrArg OutboxRow.correlationId unmarked
  · rw [inbox]
    exact congrArg OutboxRow.dedupeKey unmarked

theorem status_inbox (holds : Correspondence postgres system) {status : StatusRow}
    (member : status ∈ system.database.status) :
    Exists fun row => row ∈ system.database.inbox ∧ status.correlationId = row.correlationId ∧
      status.productTenant = row.productTenant ∧ status.actorSubject = row.actorSubject := by
  rw [holds.records.status] at member
  rcases List.mem_map.mp member with ⟨writes, executed, rfl⟩
  rcases holds.sound writes executed with ⟨actor, now, eventId, _, inbox, _, built, _⟩
  refine ⟨writes.inbox, (holds.rows_of_executed executed).1, ?_⟩
  rw [inbox, built]
  exact ⟨rfl, rfl, rfl⟩

/-- Two rows of one correlation come from one request, so the reply and the
status have its outcome. -/
theorem outcomes_agree (holds : Correspondence postgres system) {outbox : OutboxRow}
    (member : outbox ∈ system.database.outbox) {status : StatusRow}
    (statusMember : status ∈ system.database.status)
    (same : outbox.correlationId = status.correlationId) :
    outbox.payload.reply.operationId = outbox.correlationId ∧
      outbox.payload.reply.status = status.status ∧
      ((outbox.payload.reply.result.isSome = true ∧ outbox.payload.reply.error = none) ↔
        status.status = "completed") := by
  rcases holds.outbox_built member with ⟨writes, eventId, now, executed, unmarked⟩
  rcases holds.sound writes executed with ⟨_, _, _, _, _, _, _, answers⟩
  rw [holds.records.status] at statusMember
  rcases List.mem_map.mp statusMember with ⟨other, otherExecuted, rfl⟩
  rcases holds.sound other otherExecuted with ⟨_, _, _, _, _, _, otherStatus, _⟩
  have correlation : outbox.correlationId = writes.command.correlationId :=
    congrArg OutboxRow.correlationId unmarked
  have payload : outbox.payload = replyEnvelope writes.command writes.reply eventId :=
    congrArg OutboxRow.payload unmarked
  have request : other = writes := by
    apply List.inj_on_of_nodup_map holds.correlations_nodup otherExecuted executed
    rw [← correlation, same, otherStatus]
    rfl
  subst request
  have status : other.status.status = other.reply.status := congrArg StatusRow.status otherStatus
  rw [payload, correlation, status]
  refine ⟨answers.1, rfl, ?_⟩
  rcases answers.2 with ⟨completed, result, error⟩ | ⟨rejected, result, error⟩
  · simp [replyEnvelope, completed, result, error]
  · simp [replyEnvelope, rejected, result]

theorem eventIds_nodup (holds : Correspondence postgres system) :
    (system.executed.map (fun writes => writes.command.eventId)).Nodup := by
  apply holds.keys_nodup
    (fun left right apart => ((InboxRow.not_clashes_iff left right).mp apart).1)
  rintro writes ⟨actor, now, eventId, _, inbox, _⟩
  rw [inbox]
  rfl

end Correspondence

theorem System.Reachable.correspondence {deployment : Deployment} {system : System}
    (reached : System.Reachable deployment system) :
    Correspondence deployment.postgres system :=
  Runs.Reachable.invariant
    (fun _ begun => begun ▸ correspondence_initial deployment.postgres)
    (fun _ _ _ holds _ taken => holds.step taken) reached

/-- In every reachable state, whatever consumers, redeliveries, replays and
crashes led to it: every inbox row has exactly one reply row and exactly one
status row, there are no others, the two agree on the outcome, and no event,
correlation or dedupe key was ever executed twice. -/
theorem inbox_outbox_status_correspondence {deployment : Deployment} {system : System}
    (reached : System.Reachable deployment system) :
    (forall row, row ∈ system.database.inbox ->
      system.database.outbox.countP (fun outbox =>
        decide (outbox.correlationId = row.correlationId) &&
          decide (outbox.dedupeKey = "reply:" ++ row.dedupeKey)) = 1 ∧
      system.database.status.countP (fun status =>
        decide (status.correlationId = row.correlationId) &&
          decide (status.productTenant = row.productTenant) &&
          decide (status.actorSubject = row.actorSubject)) = 1) ∧
    (forall outbox, outbox ∈ system.database.outbox ->
      Exists fun row => row ∈ system.database.inbox ∧
        outbox.correlationId = row.correlationId ∧
        outbox.dedupeKey = "reply:" ++ row.dedupeKey) ∧
    (forall status, status ∈ system.database.status ->
      Exists fun row => row ∈ system.database.inbox ∧
        status.correlationId = row.correlationId ∧
        status.productTenant = row.productTenant ∧ status.actorSubject = row.actorSubject) ∧
    (forall outbox, outbox ∈ system.database.outbox ->
      forall status, status ∈ system.database.status ->
      outbox.correlationId = status.correlationId ->
      outbox.payload.reply.operationId = outbox.correlationId ∧
      outbox.payload.reply.status = status.status ∧
      ((outbox.payload.reply.result.isSome = true ∧ outbox.payload.reply.error = none) ↔
        status.status = "completed")) ∧
    (system.executed.map (fun writes => writes.command.eventId)).Nodup ∧
    (system.executed.map (fun writes => writes.command.correlationId)).Nodup ∧
    (system.executed.map (fun writes => writes.command.dedupeKey)).Nodup := by
  have holds := reached.correspondence
  refine ⟨?_, ?_, ?_, ?_, holds.eventIds_nodup, holds.correlations_nodup, holds.dedupeKeys_nodup⟩
  · intro row member
    exact ⟨holds.one_outbox member, holds.one_status member⟩
  · intro outbox member
    exact holds.outbox_inbox member
  · intro status member
    exact holds.status_inbox member
  · intro outbox member status statusMember same
    exact holds.outcomes_agree member statusMember same

/-! ## One request, in a concrete deployment -/

def sampleId (number : Nat) : Uuid := Uuid.ofNat (0x40008000000000000000 + number)

/-- A request for the alerts of one actor, signed by the sample key. -/
def sampleCommand (event correlation actor : Nat) (dedupeKey signature : String) :
    AsyncCommand where
  eventId := sampleId event
  correlationId := sampleId correlation
  dedupeKey := dedupeKey
  productTenant := "embedded-alerts"
  operation := ⟨1, sampleId correlation, "list_alerts", (sampleId actor).toString,
    "embedded-alerts", 2000000015000⟩
  signature := signature

/-- Two actors ask under one dedupe key. -/
def firstCommand : AsyncCommand := sampleCommand 0xa1 0xb1 1 "list-alerts:1"
  "8baf4f9b6a2ab48e10d12301bcad25783136cbbb81c8ec760ca7d2aa3c0e0e45"

def secondCommand : AsyncCommand := sampleCommand 0xa2 0xb2 2 "list-alerts:1"
  "d9ed3904b7b392f26acb9bc0e07b008249c14bd643aff6adcc110ca69ea4665b"

def sampleKey : List UInt8 := Text.asBytes "test-only-command-key-at-least-32-bytes"

/-- HMAC-SHA256 and the JSON decoder on the bytes of the two commands. -/
def sampleHmac (key message : List UInt8) : List UInt8 :=
  match [firstCommand, secondCommand].find? (fun command =>
      decide (key = sampleKey ∧ message = Text.asBytes (commandSigningBytes command))) with
  | some command => (Hexadecimal.decode command.signature.toList).getD []
  | none => []

def sampleDecode (payload : List UInt8) : Option AsyncCommand :=
  [firstCommand, secondCommand].find? (fun command => decide (payload = command.payload))

def sampleDeployment (postgres : Postgres) : Deployment where
  postgres := postgres
  config := ⟨"embedded-alerts", sampleKey, sampleHmac, sampleDecode⟩
  format := ⟨fun _ => "2033-05-18T03:33:20Z", fun _ => "0.5"⟩

/-- One consumer takes the message at an index through to its commit. -/
def handling (consumer index event : Nat) : List Action :=
  [.deliver consumer index true, .beginTransaction consumer, .insertInbox consumer,
    .readAlerts consumer .answered, .enqueueReply consumer (sampleId event),
    .insertStatus consumer, .commit consumer]

/-- One request is published, delivered and committed. -/
def firstRun : List Action :=
  .tick 2000000000000 :: .publishCommand firstCommand.payload :: handling 0 0 0xc1

def sampleRun (postgres : Postgres) (actions : List Action) : Option System :=
  Runs.execute (System.step (sampleDeployment postgres)) Runs.unchecked System.initial actions

theorem sampleRun_reached {postgres : Postgres} {actions : List Action} {system : System}
    (done : sampleRun postgres actions = some system) :
    System.Reachable (sampleDeployment postgres) system :=
  Runs.Reachable.execute (fun _ _ _ => trivial) (.start rfl) done

theorem firstRun_recorded : (sampleRun .cast firstRun).map (fun system =>
    system.database.inbox.map InboxRow.correlationId) = some [firstCommand.correlationId] := by
  decide +kernel

theorem firstRun_correspondence : Exists fun system =>
    sampleRun .cast firstRun = some system ∧
    system.database.inbox.map InboxRow.correlationId = [firstCommand.correlationId] ∧
    forall row, row ∈ system.database.inbox ->
      system.database.outbox.countP (fun outbox =>
        decide (outbox.correlationId = row.correlationId) &&
          decide (outbox.dedupeKey = "reply:" ++ row.dedupeKey)) = 1 := by
  rcases Option.map_eq_some_iff.mp firstRun_recorded with ⟨system, done, recorded⟩
  refine ⟨system, done, recorded, fun row member => ?_⟩
  exact ((inbox_outbox_status_correspondence (sampleRun_reached done)).1 row member).1

end EmbeddedAlerts
