import EmbeddedAlerts.Store.Alerts
import EmbeddedAlerts.Transport.Envelope

namespace EmbeddedAlerts

/-!
# The transport tables and the statements on them

The migration's three transport tables, the rows that `process_command` binds
for them and the effect of each statement on committed rows.  A statement may
be refused because of a parameter, a CHECK or a unique key; which of these
happens is decided here and not by the caller.

How a text parameter is assigned to a `uuid` column is PostgreSQL's decision
and therefore a parameter, `Postgres.assignText`.  PostgreSQL itself has no
such assignment: there it refuses every text.
-/

structure OperationReply where
  operationId : Uuid
  status : String
  result : Option (List AlertRule)
  error : Option String
deriving DecidableEq

def completedReply (operationId : Uuid) (alerts : List AlertRule) : OperationReply :=
  ⟨operationId, "completed", some alerts, none⟩

def errorReply (operationId : Uuid) (error : String) : OperationReply :=
  ⟨operationId, "rejected", none, some error⟩

structure EventEnvelope where
  eventId : Uuid
  correlationId : Uuid
  dedupeKey : String
  productTenant : String
  subject : String
  reply : OperationReply
deriving DecidableEq

/-- One row of `eal_transport_inbox`. -/
structure InboxRow where
  eventId : Uuid
  correlationId : Uuid
  dedupeKey : String
  productTenant : String
  actorSubject : Uuid
  receivedAt : Int
deriving DecidableEq

/-- One row of `eal_transport_outbox`.  The `jsonb` payload is kept as the
envelope it encodes. -/
structure OutboxRow where
  eventId : Uuid
  correlationId : Uuid
  dedupeKey : String
  subject : String
  payload : EventEnvelope
  createdAt : Int
  publishedAt : Option Int
deriving DecidableEq

/-- One row of `eal_transport_status`. -/
structure StatusRow where
  correlationId : Uuid
  productTenant : String
  actorSubject : Uuid
  status : String
  updatedAt : Int
deriving DecidableEq

structure Database where
  alerts : List AlertRow
  inbox : List InboxRow
  outbox : List OutboxRow
  status : List StatusRow

/-- The freshly migrated database. -/
def Database.empty : Database := ⟨[], [], [], []⟩

structure Postgres where
  assignText : String -> Option Uuid

/-- PostgreSQL with its typed parameters: text is not assignable to `uuid`. -/
def Postgres.typed : Postgres := ⟨fun _ => none⟩

/-- The digit pairs of `uuid_in`.  A hyphen may follow every second pair but
the last. -/
def uuidPairs : Nat -> List Char -> Option (List Char × List Char)
  | 0, rest => some ([], rest)
  | pairs + 1, high :: low :: rest =>
      let rest := if pairs % 2 = 0 ∧ 0 < pairs ∧ rest.head? = some '-' then rest.drop 1 else rest
      (uuidPairs pairs rest).map (fun read => (high :: low :: read.1, read.2))
  | _ + 1, _ => none

/-- `uuid_in`, the input function that PostgreSQL would apply to an untyped
literal or under an explicit cast. -/
def uuidIn (text : String) : Option Uuid :=
  let braced := text.toList.head? = some '\x7b'
  match uuidPairs 16 (if braced then text.toList.drop 1 else text.toList) with
  | none => none
  | some (digits, rest) =>
      if rest = (if braced then ['\x7d'] else []) then Uuid.ofDigits digits else none

/-- PostgreSQL as it would answer if the statements cast their parameters. -/
def Postgres.cast : Postgres := ⟨uuidIn⟩

/-! ## Binding the parameters -/

def InboxRow.checks (row : InboxRow) : Bool :=
  lengthWithin 128 row.dedupeKey && lengthWithin 64 row.productTenant

def OutboxRow.checks (row : OutboxRow) : Bool :=
  lengthWithin 134 row.dedupeKey && lengthWithin 256 row.subject

def StatusRow.checks (row : StatusRow) : Bool :=
  lengthWithin 64 row.productTenant &&
    (decide (row.status = "completed") || decide (row.status = "rejected"))

/-- The parameters of `INSERT_INBOX_SQL` with the assigned actor. -/
def inboxRow (command : AsyncCommand) (actor : Uuid) (now : Int) : InboxRow where
  eventId := command.eventId
  correlationId := command.correlationId
  dedupeKey := command.dedupeKey
  productTenant := command.productTenant
  actorSubject := actor
  receivedAt := now

/-- A row whose actor column is bound from the command's text.  The statement
is refused when the text is not assignable or a CHECK fails. -/
def bindRow {α : Type} (postgres : Postgres) (command : AsyncCommand) (row : Uuid -> α)
    (checks : α -> Bool) : Option α :=
  match postgres.assignText command.operation.actorSubject with
  | none => none
  | some actor => if checks (row actor) then some (row actor) else none

def bindInbox (postgres : Postgres) (command : AsyncCommand) (now : Int) : Option InboxRow :=
  bindRow postgres command (fun actor => inboxRow command actor now) InboxRow.checks

def replyDedupeKey (dedupeKey : String) : String := "reply:" ++ dedupeKey

def replySubject (productTenant : String) : String := "eal.event." ++ productTenant ++ ".v1"

/-- The envelope that `enqueue_reply` serializes. -/
def replyEnvelope (command : AsyncCommand) (reply : OperationReply) (eventId : Uuid) :
    EventEnvelope where
  eventId := eventId
  correlationId := command.correlationId
  dedupeKey := replyDedupeKey command.dedupeKey
  productTenant := command.productTenant
  subject := replySubject command.productTenant
  reply := reply

/-- The parameters of `INSERT_OUTBOX_SQL`.  `eventId` is the fresh identifier
that `enqueue_reply` draws. -/
def outboxRow (command : AsyncCommand) (reply : OperationReply) (eventId : Uuid) (now : Int) :
    OutboxRow where
  eventId := eventId
  correlationId := command.correlationId
  dedupeKey := replyDedupeKey command.dedupeKey
  subject := replySubject command.productTenant
  payload := replyEnvelope command reply eventId
  createdAt := now
  publishedAt := none

/-- The parameters of `INSERT_STATUS_SQL` with the assigned actor. -/
def statusRow (command : AsyncCommand) (actor : Uuid) (reply : OperationReply) (now : Int) :
    StatusRow where
  correlationId := command.correlationId
  productTenant := command.productTenant
  actorSubject := actor
  status := reply.status
  updatedAt := now

def bindStatus (postgres : Postgres) (command : AsyncCommand) (reply : OperationReply)
    (now : Int) : Option StatusRow :=
  bindRow postgres command (fun actor => statusRow command actor reply now) StatusRow.checks

/-! ## The effect on committed rows -/

/-- Two inbox rows share one of the three unique keys. -/
def InboxRow.clashes (left right : InboxRow) : Bool :=
  decide (left.eventId = right.eventId) || decide (left.correlationId = right.correlationId) ||
    decide (left.dedupeKey = right.dedupeKey)

inductive InsertOutcome where
  | inserted
  | skipped
  | failed
deriving DecidableEq

/-- `ON CONFLICT (dedupe_key) DO NOTHING`; any other unique key raises. -/
def insertOutbox (rows : List OutboxRow) (row : OutboxRow) : InsertOutcome :=
  if rows.any (fun other => decide (other.dedupeKey = row.dedupeKey)) then .skipped
  else if rows.any (fun other => decide (other.eventId = row.eventId)) then .failed
  else .inserted

/-- `ON CONFLICT (correlation_id) DO UPDATE`: tenant and actor of an existing
row are kept. -/
def upsertStatus (rows : List StatusRow) (row : StatusRow) : List StatusRow :=
  if rows.any (fun other => decide (other.correlationId = row.correlationId)) then
    rows.map (fun other =>
      if other.correlationId = row.correlationId then
        { other with status := row.status, updatedAt := row.updatedAt }
      else other)
  else rows ++ [row]

/-- What one `process_command` transaction has written when it commits. -/
structure Writes where
  command : AsyncCommand
  reply : OperationReply
  inbox : InboxRow
  outbox : Option OutboxRow
  status : StatusRow

/-- The status upsert holds its row lock until the commit, so it may be
applied together with the inserts. -/
def Database.commit (database : Database) (writes : Writes) : Database where
  alerts := database.alerts
  inbox := database.inbox ++ [writes.inbox]
  outbox := database.outbox ++ writes.outbox.toList
  status := upsertStatus database.status writes.status

/-! ## The read inside the transaction -/

/-- How the bounded read ends: the query answers, a statement fails, or the
timeout fires. -/
inductive ReadOutcome where
  | answered
  | failed
  | timedOut
deriving DecidableEq

/-- The reply for the read and whether PostgreSQL has aborted the
transaction.  A row that does not decode is an error of the service, not of a
statement. -/
def readReply (alerts : List AlertRow) (command : AsyncCommand) (actor : VerifiedActor) :
    ReadOutcome -> OperationReply × Bool
  | .answered =>
      match readAlerts alerts actor with
      | .ok listed => (completedReply command.correlationId listed, false)
      | .error _ => (errorReply command.correlationId "unavailable", false)
  | .failed => (errorReply command.correlationId "unavailable", true)
  | .timedOut => (errorReply command.correlationId "timeout", false)

/-! ## One lemma for each statement -/

theorem bindRow_eq_some_iff {α : Type} (postgres : Postgres) (command : AsyncCommand)
    (row : Uuid -> α) (checks : α -> Bool) (bound : α) :
    bindRow postgres command row checks = some bound ↔
      Exists fun actor => postgres.assignText command.operation.actorSubject = some actor ∧
        checks bound = true ∧ bound = row actor := by
  unfold bindRow
  cases postgres.assignText command.operation.actorSubject with
  | none => simp
  | some actor =>
      by_cases checked : checks (row actor) = true
      · simp only [checked, if_true, Option.some.injEq]
        constructor
        · rintro rfl
          exact ⟨actor, rfl, checked, rfl⟩
        · rintro ⟨other, rfl, _, rfl⟩
          rfl
      · simp only [checked, Option.some.injEq]
        constructor
        · intro impossible
          cases impossible
        · rintro ⟨other, rfl, accepted, rfl⟩
          exact absurd accepted checked

theorem InboxRow.clashes_symm (left right : InboxRow) : left.clashes right = right.clashes left := by
  simp only [InboxRow.clashes, eq_comm]

theorem InboxRow.not_clashes_iff (left right : InboxRow) :
    left.clashes right = false ↔ left.eventId ≠ right.eventId ∧
      left.correlationId ≠ right.correlationId ∧ left.dedupeKey ≠ right.dedupeKey := by
  simp only [InboxRow.clashes, Bool.or_eq_false_iff, decide_eq_false_iff_not, and_assoc]

theorem insertOutbox_eq_inserted_iff (rows : List OutboxRow) (row : OutboxRow) :
    insertOutbox rows row = .inserted ↔
      (forall other, other ∈ rows -> other.dedupeKey ≠ row.dedupeKey) ∧
        forall other, other ∈ rows -> other.eventId ≠ row.eventId := by
  have keys : rows.any (fun other => decide (other.dedupeKey = row.dedupeKey)) = false ↔
      forall other, other ∈ rows -> other.dedupeKey ≠ row.dedupeKey := by
    simp [List.any_eq_false]
  have events : rows.any (fun other => decide (other.eventId = row.eventId)) = false ↔
      forall other, other ∈ rows -> other.eventId ≠ row.eventId := by
    simp [List.any_eq_false]
  rw [← keys, ← events]
  unfold insertOutbox
  cases rows.any (fun other => decide (other.dedupeKey = row.dedupeKey)) <;>
    cases rows.any (fun other => decide (other.eventId = row.eventId)) <;> simp

theorem insertOutbox_eq_skipped_iff (rows : List OutboxRow) (row : OutboxRow) :
    insertOutbox rows row = .skipped ↔
      Exists fun other => other ∈ rows ∧ other.dedupeKey = row.dedupeKey := by
  have keys : rows.any (fun other => decide (other.dedupeKey = row.dedupeKey)) = true ↔
      Exists fun other => other ∈ rows ∧ other.dedupeKey = row.dedupeKey := by
    simp [List.any_eq_true]
  rw [← keys]
  unfold insertOutbox
  cases rows.any (fun other => decide (other.dedupeKey = row.dedupeKey)) <;>
    cases rows.any (fun other => decide (other.eventId = row.eventId)) <;> simp

/-- Without a row of that correlation, the upsert is an insert. -/
theorem upsertStatus_of_absent {rows : List StatusRow} {row : StatusRow}
    (absent : forall other, other ∈ rows -> other.correlationId ≠ row.correlationId) :
    upsertStatus rows row = rows ++ [row] := by
  unfold upsertStatus
  rw [if_neg]
  rw [Bool.not_eq_true, List.any_eq_false]
  intro other member equal
  exact absent other member (of_decide_eq_true equal)

/-- A reply of `process_command`: completed with a result, or rejected with
an error, and always for the command's correlation. -/
def OperationReply.Answers (reply : OperationReply) (command : AsyncCommand) : Prop :=
  reply.operationId = command.correlationId ∧
    ((reply.status = "completed" ∧ reply.result.isSome = true ∧ reply.error = none) ∨
      (reply.status = "rejected" ∧ reply.result = none ∧ reply.error.isSome = true))

theorem errorReply_answers (command : AsyncCommand) (error : String) :
    (errorReply command.correlationId error).Answers command :=
  ⟨rfl, Or.inr ⟨rfl, rfl, rfl⟩⟩

theorem readReply_answers (alerts : List AlertRow) (command : AsyncCommand)
    (actor : VerifiedActor) (outcome : ReadOutcome) :
    (readReply alerts command actor outcome).1.Answers command := by
  cases outcome with
  | answered =>
      unfold readReply
      cases readAlerts alerts actor with
      | ok listed => exact ⟨rfl, Or.inl ⟨rfl, rfl, rfl⟩⟩
      | error failure => exact errorReply_answers command _
  | failed => exact errorReply_answers command _
  | timedOut => exact errorReply_answers command _

theorem replyDedupeKey_injective : Function.Injective replyDedupeKey := by
  intro left right same
  have characters := congrArg String.toList same
  simp only [replyDedupeKey, String.toList_append] at characters
  exact String.toList_inj.mp (List.append_cancel_left characters)

/-! ## Lengths that the gate admits -/

theorem lengthWithin_of_ascii {value : String} {max : Nat} (nonempty : value ≠ "")
    (short : Text.byteLength value ≤ max)
    (ascii : forall character, character ∈ value.toList -> character.toNat < 128) :
    lengthWithin max value = true := by
  rw [Text.byteLength_of_ascii ascii] at short
  refine decide_eq_true ⟨?_, short⟩
  exact Nat.pos_of_ne_zero (fun zero => nonempty (String.length_eq_zero_iff.mp zero))

theorem boundedDedupeKey_lengthWithin {value : String} (bounded : boundedDedupeKey value = true) :
    lengthWithin 128 value = true := by
  have plain : forall character, character ∈ value.toList -> character.toNat < 128 :=
    fun _ member => (boundedDedupeKey_plain bounded member).ascii
  simp only [boundedDedupeKey, Bool.and_eq_true, decide_eq_true_eq] at bounded
  exact lengthWithin_of_ascii bounded.1.1 bounded.1.2 plain

theorem boundedTenant_lengthWithin {value : String} (bounded : boundedTenant value = true) :
    lengthWithin 64 value = true := by
  have plain : forall character, character ∈ value.toList -> character.toNat < 128 :=
    fun _ member => (boundedTenant_plain bounded member).ascii
  simp only [boundedTenant, Bool.and_eq_true, decide_eq_true_eq] at bounded
  exact lengthWithin_of_ascii bounded.1.1 bounded.1.2 plain

end EmbeddedAlerts
