import EmbeddedAlerts.Transport.DeliveryLoop
import EmbeddedAlerts.Transport.Schema

namespace EmbeddedAlerts

/-!
# The answer to a read that fails

`process_command` turns every outcome of its read into a reply and writes the
reply on the transaction in which it has read.  The read ends in one of four
ways: a list, a row that does not decode, a statement that fails, or the
timeout.  Three of them leave the transaction usable.  After a failed statement
PostgreSQL refuses every further statement of the transaction, so the reply
that reports the failure cannot be written and the error is returned instead.
-/

/-- Nothing but the read may fail. -/
structure Transaction.Healthy (transaction : Transaction) : Prop where
  begun : transaction.beginFails = false
  inbox : transaction.inboxFails = false
  outbox : transaction.outboxFails = false
  status : transaction.statusFails = false
  committed : transaction.commitFails = false

/-- The reply says how the read ended: with these alerts, or why without. -/
def ReadOutcome.CarriedBy (listed : Except StoreError (List AlertRule)) (reply : OperationReply) :
    ReadOutcome -> Prop
  | .answered =>
      match listed with
      | .ok alerts => reply.status = "completed" ∧ reply.result = some alerts ∧ reply.error = none
      | .error _ =>
          reply.status = "rejected" ∧ reply.result = none ∧ reply.error = some "unavailable"
  | .failed => reply.status = "rejected" ∧ reply.result = none ∧ reply.error = some "unavailable"
  | .timedOut => reply.status = "rejected" ∧ reply.result = none ∧ reply.error = some "timeout"

/-- The inbox row, one reply and one status row that carry the outcome. -/
def OutcomeCommitted (before after : Database) (command : AsyncCommand) (row : InboxRow)
    (outcome : ReadOutcome) : Prop :=
  Exists fun actor => Exists fun outbox => Exists fun status =>
    command.ReadsAs actor ∧
    after.inbox = before.inbox ++ [row] ∧
    after.outbox = before.outbox ++ [outbox] ∧
    after.status = before.status ++ [status] ∧
    outbox.correlationId = command.correlationId ∧
    status.correlationId = command.correlationId ∧
    outbox.payload.reply.operationId = command.correlationId ∧
    status.status = outbox.payload.reply.status ∧
    outcome.CarriedBy (readAlerts before.alerts actor) outbox.payload.reply

theorem readReply_carries (alerts : List AlertRow) (command : AsyncCommand)
    (actor : VerifiedActor) (outcome : ReadOutcome) :
    outcome.CarriedBy (readAlerts alerts actor) (readReply alerts command actor outcome).1 := by
  cases outcome with
  | answered =>
      simp only [ReadOutcome.CarriedBy, readReply]
      cases readAlerts alerts actor with
      | ok listed => exact ⟨rfl, rfl, rfl⟩
      | error failure => exact ⟨rfl, rfl, rfl⟩
  | failed => exact ⟨rfl, rfl, rfl⟩
  | timedOut => exact ⟨rfl, rfl, rfl⟩

/-- Only a failed statement aborts the transaction. -/
theorem readReply_aborted (alerts : List AlertRow) (command : AsyncCommand)
    (actor : VerifiedActor) (outcome : ReadOutcome) :
    (readReply alerts command actor outcome).2 = decide (outcome = .failed) := by
  cases outcome with
  | answered =>
      simp only [readReply]
      cases readAlerts alerts actor with
      | ok listed => rfl
      | error failure => rfl
  | failed => rfl
  | timedOut => rfl

/-! ## The statements around the read -/

section Statements

variable {config : CommandConfig} {command : AsyncCommand} {now : UInt64}

theorem PassesGate.tenantWithin (passes : PassesGate config command now) :
    lengthWithin 64 command.productTenant = true := by
  rw [passes.operationTenant]
  exact boundedTenant_lengthWithin passes.envelope.productTenant

theorem PassesGate.outboxRow_checks (passes : PassesGate config command now)
    (reply : OperationReply) (eventId : Uuid) (created : Int) :
    (outboxRow command reply eventId created).checks = true := by
  have key := lengthWithin_append "reply:" "" 134
    (boundedDedupeKey_lengthWithin passes.dedupeKey) (by decide)
  rw [String.append_empty] at key
  exact Bool.and_eq_true_iff.mpr
    ⟨key, lengthWithin_append "eal.event." ".v1" 256 passes.tenantWithin (by decide)⟩

theorem PassesGate.statusRow_checks (passes : PassesGate config command now)
    {reply : OperationReply} (answers : reply.Answers command) (actor : Uuid) (updated : Int) :
    (statusRow command actor reply updated).checks = true := by
  refine Bool.and_eq_true_iff.mpr ⟨passes.tenantWithin, ?_⟩
  change (decide (reply.status = "completed") || decide (reply.status = "rejected")) = true
  rcases answers.2 with completed | rejected
  · rw [completed.1]
    rfl
  · rw [rejected.1]
    rfl

/-- The reply key of a new inbox row is free. -/
theorem Correspondence.insertOutbox_new {postgres : Postgres} {system : System}
    (holds : Correspondence postgres system) {row : InboxRow}
    (key : row.dedupeKey = command.dedupeKey)
    (new : system.database.inbox.any (InboxRow.clashes row) = false) {reply : OperationReply}
    {eventId : Uuid} {created : Int}
    (fresh : forall other, other ∈ system.database.outbox -> other.eventId ≠ eventId) :
    insertOutbox system.database.outbox (outboxRow command reply eventId created) = .inserted := by
  apply (insertOutbox_eq_inserted_iff _ _).mpr
  refine ⟨?_, fresh⟩
  intro other member same
  rcases holds.outbox_inbox member with ⟨known, present, _, dedupe⟩
  have apart := List.any_eq_false.mp new known present
  rw [Bool.not_eq_true, InboxRow.not_clashes_iff] at apart
  have keys : replyDedupeKey known.dedupeKey = replyDedupeKey command.dedupeKey :=
    dedupe.symm.trans same
  exact apart.2.2 (key.trans (replyDedupeKey_injective keys).symm)

/-- No status is recorded yet for the correlation of a new inbox row. -/
theorem Correspondence.upsertStatus_new {postgres : Postgres} {system : System}
    (holds : Correspondence postgres system) {row : InboxRow}
    (correlation : row.correlationId = command.correlationId)
    (new : system.database.inbox.any (InboxRow.clashes row) = false) {status : StatusRow}
    (same : status.correlationId = command.correlationId) :
    upsertStatus system.database.status status = system.database.status ++ [status] := by
  apply upsertStatus_of_absent
  intro other member equal
  rcases holds.status_inbox member with ⟨known, present, recorded, _⟩
  have apart := List.any_eq_false.mp new known present
  rw [Bool.not_eq_true, InboxRow.not_clashes_iff] at apart
  exact apart.2.1 (correlation.trans (same.symm.trans (equal.symm.trans recorded)))

end Statements

/-! ## The transaction -/

/-- With nothing else failing, the transaction ends as its statements do. -/
theorem processCommand_of_healthy {postgres : Postgres} {database : Database}
    {command : AsyncCommand} {transaction : Transaction} {row : InboxRow} {subject : Uuid}
    (healthy : transaction.Healthy)
    (bound : bindInbox postgres command transaction.now = some row)
    (new : database.inbox.any (InboxRow.clashes row) = false)
    (parsed : Uuid.parseStr command.operation.actorSubject = some subject) :
    processCommand postgres database command transaction =
      (do
        let answer := readReply database.alerts command ⟨subject, command.productTenant⟩
          transaction.read
        let outbox <- enqueueReply database command answer.1 answer.2 transaction
        let status <- insertStatus postgres command answer.1 transaction
        return database.commit ⟨command, answer.1, row, outbox, status⟩) := by
  simp only [processCommand, healthy.begun, healthy.inbox, healthy.committed, bound, answerCommand,
    new, parsed, Fallible.refuseIf, bind, Except.bind, pure, Except.pure, Bool.false_eq_true,
    if_false]
  cases enqueueReply database command (readReply database.alerts command
      ⟨subject, command.productTenant⟩ transaction.read).1 (readReply database.alerts command
      ⟨subject, command.productTenant⟩ transaction.read).2 transaction with
  | error message => rfl
  | ok outbox =>
      simp only
      cases insertStatus postgres command (readReply database.alerts command
          ⟨subject, command.productTenant⟩ transaction.read).1 transaction with
      | error message => rfl
      | ok status => rfl

/-- After a failed statement the reply cannot be written. -/
theorem enqueueReply_aborted (database : Database) (command : AsyncCommand)
    (reply : OperationReply) (transaction : Transaction) :
    enqueueReply database command reply true transaction =
      .error "persist JetStream outbox failed" := by
  simp only [enqueueReply, Bool.or_true, Bool.true_or, if_true]

theorem Transaction.Healthy.enqueued {transaction : Transaction} (healthy : transaction.Healthy)
    {database : Database} {command : AsyncCommand} {reply : OperationReply}
    (checked : (outboxRow command reply transaction.eventId transaction.now).checks = true)
    (inserted : insertOutbox database.outbox
      (outboxRow command reply transaction.eventId transaction.now) = .inserted) :
    enqueueReply database command reply false transaction =
      .ok (some (outboxRow command reply transaction.eventId transaction.now)) := by
  simp only [enqueueReply, healthy.outbox, checked, inserted]
  rfl

theorem Transaction.Healthy.recorded {transaction : Transaction} (healthy : transaction.Healthy)
    {postgres : Postgres} {command : AsyncCommand} {reply : OperationReply} {row : StatusRow}
    (bound : bindStatus postgres command reply transaction.now = some row) :
    insertStatus postgres command reply transaction = .ok row := by
  simp only [insertStatus, bound, healthy.status]
  rfl

/-- Whatever alerts are stored, the transaction answers its read exactly when no
statement of the read has failed.  One that does is a run of the system. -/
theorem read_outcome_answered_iff {deployment : Deployment} {system : System}
    (holds : Correspondence deployment.postgres system) {command : AsyncCommand} {now : UInt64}
    (gate : commandGate deployment.config command now = true) {transaction : Transaction}
    (healthy : transaction.Healthy) {row : InboxRow}
    (bound : bindInbox deployment.postgres command transaction.now = some row)
    (new : system.database.inbox.any (InboxRow.clashes row) = false)
    (fresh : forall other, other ∈ system.database.outbox -> other.eventId ≠ transaction.eventId) :
    ((Exists fun after =>
      processCommand deployment.postgres system.database command transaction = .ok after ∧
      OutcomeCommitted system.database after command row transaction.read) ↔
      transaction.read ≠ .failed) ∧
    forall (session : Session) (after : Database), session.command = command ->
      transaction.now = system.clock ->
      processCommand deployment.postgres system.database command transaction = .ok after ->
      Exists fun actions => Exists fun next =>
        Runs.execute (System.step deployment) Runs.unchecked (system.solo session .handed)
          actions = some next ∧
        next.database = after ∧ next.sessions = [{ session with stage := .committed }] := by
  refine ⟨?_, fun session after same clock done => processCommand_executed clock (same ▸ done)⟩
  have passes := (commandGate_eq_true_iff _ _ _).mp gate
  rcases passes.envelope.actorSubject with ⟨subject, parsed⟩
  rcases (bindRow_eq_some_iff _ _ _ _ _).mp bound with ⟨assigned, assignment, _, rfl⟩
  let actor : VerifiedActor := ⟨subject, command.productTenant⟩
  let answer := readReply system.database.alerts command actor transaction.read
  have answers : answer.1.Answers command := readReply_answers _ _ _ _
  have aborted : answer.2 = decide (transaction.read = .failed) := readReply_aborted _ _ _ _
  have checked := passes.outboxRow_checks answer.1 transaction.eventId transaction.now
  have inserted : insertOutbox system.database.outbox
      (outboxRow command answer.1 transaction.eventId transaction.now) = .inserted :=
    holds.insertOutbox_new rfl new fresh
  rw [processCommand_of_healthy healthy bound new parsed]
  change (Exists fun after =>
    (enqueueReply system.database command answer.1 answer.2 transaction >>= fun outbox =>
      insertStatus deployment.postgres command answer.1 transaction >>= fun status =>
        .ok (system.database.commit ⟨command, answer.1, _, outbox, status⟩)) = .ok after ∧ _) ↔ _
  constructor
  · rintro ⟨after, done, _⟩ failed
    rcases (Fallible.bind_eq_ok_iff _ _ _).mp done with ⟨outbox, enqueued, _⟩
    have ended : answer.2 = true := aborted.trans (decide_eq_true failed)
    rw [ended, enqueueReply_aborted] at enqueued
    cases enqueued
  · intro usable
    have alive : answer.2 = false := aborted.trans (decide_eq_false usable)
    have boundStatus : bindStatus deployment.postgres command answer.1 transaction.now =
        some (statusRow command assigned answer.1 transaction.now) :=
      (bindRow_eq_some_iff _ _ _ _ _).mpr
        ⟨assigned, assignment, passes.statusRow_checks answers _ _, rfl⟩
    let writes : Writes := ⟨command, answer.1, inboxRow command assigned transaction.now,
      some (outboxRow command answer.1 transaction.eventId transaction.now),
      statusRow command assigned answer.1 transaction.now⟩
    refine ⟨system.database.commit writes, ?_, actor,
      outboxRow command answer.1 transaction.eventId transaction.now,
      statusRow command assigned answer.1 transaction.now, ⟨parsed, rfl⟩, rfl, rfl, ?_, rfl, rfl,
      answers.1, rfl, readReply_carries _ _ _ _⟩
    · rw [alive, healthy.enqueued checked inserted, healthy.recorded boundStatus]
      rfl
    · exact holds.upsertStatus_new rfl new rfl

/-- The sample command on the empty database, with the given end of its read. -/
def sampleTransaction (outcome : ReadOutcome) : Transaction :=
  { soundTransaction 0xc1 with read := outcome }

def sampleInboxRow : InboxRow := inboxRow firstCommand (sampleId 1) 2000000000000

theorem sampleInboxRow_bound (outcome : ReadOutcome) :
    bindInbox .cast firstCommand (sampleTransaction outcome).now = some sampleInboxRow := by
  change bindInbox .cast firstCommand 2000000000000 = some sampleInboxRow
  decide +kernel

/-- An alert of the sample actor that the service did not write: a source filter
is no string. -/
def undecodableRow : AlertRow where
  id := sampleId 0xd1
  productTenant := firstCommand.productTenant
  ownerSubject := sampleId 1
  createdAt := 0
  updatedAt := 0
  name := "Port notices"
  queryText := "closures"
  embeddingModel := "model-1"
  similarityThreshold := ⟨false, ⟨1022, by decide⟩, ⟨0x6666666666666, by decide⟩⟩
  sourceFilters := .array [.bool true]
  deliveryChannels := .array []
  enabled := true

/-- The initial state, over a table that holds that alert. -/
def strayState : System :=
  { System.initial with database := { Database.empty with alerts := [undecodableRow] } }

theorem strayState_corresponds (postgres : Postgres) : Correspondence postgres strayState :=
  (correspondence_initial postgres).frame rfl rfl rfl rfl rfl

/-- The timeout of a read, and a row that does not decode. -/
theorem firstCommand_timeout_answered :
    (Exists fun after =>
      processCommand .cast Database.empty firstCommand (sampleTransaction .timedOut) = .ok after ∧
      OutcomeCommitted Database.empty after firstCommand sampleInboxRow .timedOut) ∧
    undecodableRow.checks = true ∧
    readAlerts strayState.database.alerts ⟨sampleId 1, firstCommand.productTenant⟩ =
      .error .invalidRecord ∧
    Exists fun after =>
      processCommand .cast strayState.database firstCommand (sampleTransaction .answered) =
        .ok after ∧
      OutcomeCommitted strayState.database after firstCommand sampleInboxRow .answered := by
  have healthy : forall outcome, (sampleTransaction outcome).Healthy :=
    fun _ => ⟨rfl, rfl, rfl, rfl, rfl⟩
  have initial : Correspondence (sampleDeployment .cast).postgres System.initial :=
    correspondence_initial .cast
  have stray : Correspondence (sampleDeployment .cast).postgres strayState :=
    strayState_corresponds .cast
  refine ⟨?_, by decide +kernel, by decide +kernel, ?_⟩
  · exact (read_outcome_answered_iff initial firstCommand_passes (healthy .timedOut)
      (sampleInboxRow_bound .timedOut) rfl
      (fun _ absent => absurd absent List.not_mem_nil)).1.mpr nofun
  · exact (read_outcome_answered_iff stray firstCommand_passes (healthy .answered)
      (sampleInboxRow_bound .answered) rfl
      (fun _ absent => absurd absent List.not_mem_nil)).1.mpr nofun

/-- A failed statement of the read: no reply is written, the whole request is
rolled back and the error is returned. -/
theorem firstCommand_failed_read_unanswered :
    commandGate (sampleDeployment .cast).config firstCommand 2000000000000 = true ∧
    (sampleTransaction .failed).Healthy ∧
    bindInbox .cast firstCommand (sampleTransaction .failed).now = some sampleInboxRow ∧
    Database.empty.inbox.any (InboxRow.clashes sampleInboxRow) = false ∧
    Not (Exists fun after =>
      processCommand .cast Database.empty firstCommand (sampleTransaction .failed) = .ok after) := by
  refine ⟨firstCommand_passes, ⟨rfl, rfl, rfl, rfl, rfl⟩, sampleInboxRow_bound .failed, rfl, ?_⟩
  rintro ⟨after, done⟩
  have parsed : Uuid.parseStr firstCommand.operation.actorSubject = some (sampleId 1) := by
    decide +kernel
  rw [processCommand_of_healthy ⟨rfl, rfl, rfl, rfl, rfl⟩ (sampleInboxRow_bound .failed) rfl
    parsed] at done
  cases done

end EmbeddedAlerts
