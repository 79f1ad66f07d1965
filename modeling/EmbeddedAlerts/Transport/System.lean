import EmbeddedAlerts.Library.Runs
import EmbeddedAlerts.Library.Ranking
import EmbeddedAlerts.Transport.Encoding

namespace EmbeddedAlerts

/-!
# The JetStream transport as one interleaved system

Any number of consumers run the delivery loop and any number of publishers run
`publish_pending`, against one database, one command stream and one event
stream.  Every `await` of the code is a step of its own, and between any two
steps anything else may happen: another consumer or publisher moves, an alert
is created, anyone publishes to the command stream, or the clock advances.  A
crash, a failed statement or a lost connection is the step `stop`, which rolls
an open transaction back.

PostgreSQL runs the transactions at READ COMMITTED.  A statement that meets an
uncommitted row with an equal unique key waits, which is modelled by the step
not being enabled.  After it a conflict is decided on the committed rows.

`handed`, `executed` and `acked` are histories.  No step of the code reads
them.
-/

/-! ## State -/

/-- Where `process_command` stands for one delivered message. -/
inductive Stage where
  | handed
  | begun (now : Int)
  | reading (now : Int) (row : InboxRow)
  | replying (now : Int) (row : InboxRow) (reply : OperationReply) (aborted : Bool)
  | recording (now : Int) (row : InboxRow) (reply : OperationReply) (outbox : Option OutboxRow)
  | committing (writes : Option Writes)
  | committed

structure Session where
  consumer : Nat
  message : Nat
  command : AsyncCommand
  stage : Stage

inductive AckKind where
  | ack
  | term
deriving DecidableEq

/-- A message of the command stream as the durable consumer sees it.
`deliveries` are the delivery times, latest first, and `accepted` records
that one of them passed the gate. -/
structure Message where
  payload : List UInt8
  deliveries : List Nat
  accepted : Bool
  acknowledgement : Option AckKind
deriving DecidableEq

/-- The columns that `SELECT_OUTBOX_SQL` returns. -/
structure PendingOutbox where
  eventId : Uuid
  correlationId : Uuid
  dedupeKey : String
  subject : String
  payload : EventEnvelope
deriving DecidableEq

/-- Where the publish loop stands with the first row of its queue. -/
inductive PublishStage where
  | selected
  | stored
  | acknowledged
deriving DecidableEq

structure Publisher where
  publisher : Nat
  queue : List PendingOutbox
  stage : PublishStage

/-- A message that the event stream has stored under its `Nats-Msg-Id`. -/
structure EventMessage where
  id : String
  subject : String
  payload : EventEnvelope
deriving DecidableEq

structure System where
  clock : Nat
  signed : List AsyncCommand
  messages : List Message
  database : Database
  sessions : List Session
  publishers : List Publisher
  events : List EventMessage
  handed : List AsyncCommand
  executed : List Writes
  acked : List AsyncCommand

def System.initial : System where
  clock := 0
  signed := []
  messages := []
  database := Database.empty
  sessions := []
  publishers := []
  events := []
  handed := []
  executed := []
  acked := []

/-- What the transport is deployed with. -/
structure Deployment where
  postgres : Postgres
  config : CommandConfig
  format : JsonFormat

/-! ## The consumer's side -/

/-- `ack_wait` and `max_deliver` of the durable consumer. -/
def ackWaitMs : Nat := 30000
def maxDeliver : Nat := 8

/-- An open message is delivered at first at any time, and again no sooner
than `ack_wait` after its previous delivery. -/
def Message.deliverable (message : Message) (clock : Nat) : Bool :=
  message.acknowledgement.isNone && decide (message.deliveries.length < maxDeliver) &&
    message.deliveries.head?.all (fun previous => decide (previous + ackWaitMs ≤ clock))

def Message.deliveredAt (message : Message) (clock : Nat) : Message :=
  { message with deliveries := clock :: message.deliveries }

/-- The stream keeps the first acknowledgement it receives. -/
def Message.acknowledge (message : Message) (received : Option AckKind) : Message :=
  { message with acknowledgement := message.acknowledgement.or received }

/-- `unix_ms`. -/
def unixMs (clock : Nat) : UInt64 := UInt64.ofNat clock

def System.session (system : System) (consumer : Nat) : Option Session :=
  system.sessions.find? (fun session => decide (session.consumer = consumer))

def System.otherSessions (system : System) (consumer : Nat) : List Session :=
  system.sessions.filter (fun session => decide (session.consumer ≠ consumer))

/-- Move one consumer to another stage. -/
def System.advance (system : System) (session : Session) (stage : Stage) : System :=
  { system with
    sessions := { session with stage := stage } :: system.otherSessions session.consumer }

/-- The uncommitted rows that an open transaction holds. -/
def Stage.inbox : Stage -> Option InboxRow
  | .reading _ row => some row
  | .replying _ row _ _ => some row
  | .recording _ row _ _ => some row
  | .committing (some writes) => some writes.inbox
  | _ => none

def Stage.outbox : Stage -> Option OutboxRow
  | .recording _ _ _ outbox => outbox
  | .committing (some writes) => writes.outbox
  | _ => none

def Stage.status : Stage -> Option StatusRow
  | .committing (some writes) => some writes.status
  | _ => none

/-- The delivery loop up to the call of `process_command`: the gate, and Term
when it refuses.  A Term that is not published or not received leaves the
message open. -/
def System.deliver (deployment : Deployment) (consumer index : Nat) (termReceived : Bool)
    (system : System) : Option System :=
  match system.session consumer, system.messages[index]? with
  | none, some message =>
      if message.deliverable system.clock then
        let delivered := message.deliveredAt system.clock
        match acceptCommand deployment.config message.payload (unixMs system.clock) with
        | none => some { system with
            messages := system.messages.set index
              (delivered.acknowledge (if termReceived then some .term else none)) }
        | some command => some { system with
            messages := system.messages.set index { delivered with accepted := true }
            sessions := ⟨consumer, index, command, .handed⟩ :: system.sessions
            handed := command :: system.handed }
      else none
  | _, _ => none

/-- `database.begin()`; `now()` is the transaction's start. -/
def System.beginTransaction (consumer : Nat) (system : System) : Option System :=
  match system.session consumer with
  | some session =>
      match session.stage with
      | .handed => some (system.advance session (.begun system.clock))
      | _ => none
  | none => none

/-- `INSERT_INBOX_SQL`.  It waits for an uncommitted row that shares a key. -/
def System.insertInbox (deployment : Deployment) (consumer : Nat) (system : System) :
    Option System :=
  match system.session consumer with
  | some session =>
      match session.stage with
      | .begun now =>
          match bindInbox deployment.postgres session.command now with
          | none => none
          | some row =>
              if (system.otherSessions consumer).any (fun other =>
                  other.stage.inbox.any (InboxRow.clashes row)) then none
              else if system.database.inbox.any (InboxRow.clashes row) then
                some (system.advance session (.committing none))
              else some (system.advance session (.reading now row))
      | _ => none
  | none => none

/-- The actor of the signed command and the bounded read for it. -/
def System.readAlerts (consumer : Nat) (outcome : ReadOutcome) (system : System) :
    Option System :=
  match system.session consumer with
  | some session =>
      match session.stage, Uuid.parseStr session.command.operation.actorSubject with
      | .reading now row, some subject =>
          let answer := readReply system.database.alerts session.command
            ⟨subject, session.command.productTenant⟩ outcome
          some (system.advance session (.replying now row answer.1 answer.2))
      | _, _ => none
  | none => none

/-- `enqueue_reply`.  In an aborted transaction the statement fails. -/
def System.enqueueReply (consumer : Nat) (eventId : Uuid) (system : System) : Option System :=
  match system.session consumer with
  | some session =>
      match session.stage with
      | .replying now row reply false =>
          let outbox := outboxRow session.command reply eventId now
          if !outbox.checks then none
          else if (system.otherSessions consumer).any (fun other =>
              other.stage.outbox.any (fun held => decide (held.dedupeKey = outbox.dedupeKey) ||
                decide (held.eventId = outbox.eventId))) then none
          else
            match insertOutbox system.database.outbox outbox with
            | .failed => none
            | .skipped => some (system.advance session (.recording now row reply none))
            | .inserted => some (system.advance session (.recording now row reply (some outbox)))
      | _ => none
  | none => none

/-- `INSERT_STATUS_SQL`. -/
def System.insertStatus (deployment : Deployment) (consumer : Nat) (system : System) :
    Option System :=
  match system.session consumer with
  | some session =>
      match session.stage with
      | .recording now row reply outbox =>
          match bindStatus deployment.postgres session.command reply now with
          | none => none
          | some status =>
              if (system.otherSessions consumer).any (fun other => other.stage.status.any
                  (fun held => decide (held.correlationId = status.correlationId))) then none
              else some (system.advance session
                (.committing (some ⟨session.command, reply, row, outbox, status⟩)))
      | _ => none
  | none => none

/-- `transaction.commit()`. -/
def System.commit (consumer : Nat) (system : System) : Option System :=
  match system.session consumer with
  | some session =>
      match session.stage with
      | .committing none => some (system.advance session .committed)
      | .committing (some writes) => some { system.advance session .committed with
          database := system.database.commit writes
          executed := system.executed ++ [writes] }
      | _ => none
  | none => none

/-- `message.ack()`, which is published without waiting for a confirmation. -/
def System.ack (consumer : Nat) (received : Bool) (system : System) : Option System :=
  match system.session consumer with
  | some session =>
      match session.stage with
      | .committed => some { system with
          sessions := system.otherSessions consumer
          messages := system.messages.modify session.message
            (fun message => message.acknowledge (if received then some .ack else none))
          acked := session.command :: system.acked }
      | _ => none
  | none => none

/-- A crash, a failed statement, a failed commit or a failed ack. -/
def System.stop (consumer : Nat) (system : System) : Option System :=
  some { system with sessions := system.otherSessions consumer }

/-! ## The publisher's side -/

def OutboxRow.pending (row : OutboxRow) : PendingOutbox :=
  ⟨row.eventId, row.correlationId, row.dedupeKey, row.subject, row.payload⟩

def PendingOutbox.message (row : PendingOutbox) : EventMessage :=
  ⟨row.dedupeKey, row.subject, row.payload⟩

/-- `ORDER BY created_at, event_id`. -/
def OutboxRow.order (left right : OutboxRow) : Prop :=
  left.createdAt < right.createdAt ∨
    left.createdAt = right.createdAt ∧ left.eventId ≤ right.eventId

instance : DecidableRel OutboxRow.order :=
  fun left right => inferInstanceAs (Decidable (left.createdAt < right.createdAt ∨
    left.createdAt = right.createdAt ∧ left.eventId ≤ right.eventId))

/-- `SELECT_OUTBOX_SQL`. -/
def selectOutbox (rows : List OutboxRow) : List PendingOutbox :=
  (Ranking.top OutboxRow.order 50 (rows.filter (fun row => row.publishedAt.isNone))).map
    OutboxRow.pending

/-- `MARK_OUTBOX_SQL`. -/
def markOutbox (rows : List OutboxRow) (eventId : Uuid) (now : Int) : List OutboxRow :=
  rows.map (fun row =>
    if row.eventId = eventId ∧ row.publishedAt = none then { row with publishedAt := some now }
    else row)

/-- A header value must not break the header line. -/
def headerValue (text : String) : Bool :=
  !text.toList.any (fun character => character == '\r' || character == '\n')

/-- The stream stores a message unless it already holds one of that id. -/
def storeEvent (events : List EventMessage) (message : EventMessage) : List EventMessage :=
  if events.any (fun other => decide (other.id = message.id)) then events
  else events ++ [message]

def System.publisher (system : System) (publisher : Nat) : Option Publisher :=
  system.publishers.find? (fun other => decide (other.publisher = publisher))

def System.otherPublishers (system : System) (publisher : Nat) : List Publisher :=
  system.publishers.filter (fun other => decide (other.publisher ≠ publisher))

/-- One pass of `publish_pending` starts with its query. -/
def System.selectPending (publisher : Nat) (system : System) : Option System :=
  match system.publisher publisher with
  | none => some { system with publishers :=
      ⟨publisher, selectOutbox system.database.outbox, .selected⟩ :: system.publishers }
  | some _ => none

/-- The checks on the row and the publish that reaches the stream. -/
def System.publishReply (deployment : Deployment) (publisher : Nat) (system : System) :
    Option System :=
  match system.publisher publisher with
  | some state =>
      match state.stage, state.queue with
      | .selected, row :: _ =>
          if maxNatsPayloadBytes < (row.payload.toJson deployment.format).size then none
          else if !headerValue row.dedupeKey then none
          else some { system with
            publishers := { state with stage := .stored } :: system.otherPublishers publisher
            events := storeEvent system.events row.message }
      | _, _ => none
  | none => none

/-- The publish acknowledgement, for a stored or an already known message. -/
def System.acknowledgeReply (publisher : Nat) (system : System) : Option System :=
  match system.publisher publisher with
  | some state =>
      match state.stage with
      | .stored => some { system with
          publishers := { state with stage := .acknowledged } :: system.otherPublishers publisher }
      | _ => none
  | none => none

def System.markReply (publisher : Nat) (system : System) : Option System :=
  match system.publisher publisher with
  | some state =>
      match state.stage, state.queue with
      | .acknowledged, row :: rest => some { system with
          publishers := ⟨publisher, rest, .selected⟩ :: system.otherPublishers publisher
          database := { system.database with
            outbox := markOutbox system.database.outbox row.eventId system.clock } }
      | _, _ => none
  | none => none

/-- The end of a pass, whether the queue is empty, an error returned early or
the process crashed. -/
def System.stopPublisher (publisher : Nat) (system : System) : Option System :=
  some { system with publishers := system.otherPublishers publisher }

/-! ## The environment -/

/-- Time passes.  The clock is read as `u64` milliseconds. -/
def System.tick (milliseconds : Nat) (system : System) : Option System :=
  if system.clock + milliseconds < 2 ^ 64 then
    some { system with clock := system.clock + milliseconds }
  else none

/-- The signer passes a command to `sign_command`. -/
def System.sign (command : AsyncCommand) (system : System) : Option System :=
  some { system with signed := command :: system.signed }

/-- Anyone publishes any bytes to the command stream. -/
def System.publishCommand (payload : List UInt8) (system : System) : Option System :=
  some { system with messages := system.messages ++ [⟨payload, [], false, none⟩] }

/-- An HTTP create commits its row. -/
def System.createAlert (actor : VerifiedActor) (input : CreateAlertRule) (id : Uuid)
    (instant : DateTime) (system : System) : Option System :=
  match (AlertStore.database system.database.alerts).create actor input id instant with
  | .ok (.database rows, _) => some { system with
      database := { system.database with alerts := rows } }
  | _ => none

inductive Action where
  | tick (milliseconds : Nat)
  | sign (command : AsyncCommand)
  | publishCommand (payload : List UInt8)
  | createAlert (actor : VerifiedActor) (input : CreateAlertRule) (id : Uuid) (instant : DateTime)
  | deliver (consumer index : Nat) (termReceived : Bool)
  | beginTransaction (consumer : Nat)
  | insertInbox (consumer : Nat)
  | readAlerts (consumer : Nat) (outcome : ReadOutcome)
  | enqueueReply (consumer : Nat) (eventId : Uuid)
  | insertStatus (consumer : Nat)
  | commit (consumer : Nat)
  | ack (consumer : Nat) (received : Bool)
  | stop (consumer : Nat)
  | selectPending (publisher : Nat)
  | publishReply (publisher : Nat)
  | acknowledgeReply (publisher : Nat)
  | markReply (publisher : Nat)
  | stopPublisher (publisher : Nat)

def System.step (deployment : Deployment) (system : System) : Action -> Option System
  | .tick milliseconds => system.tick milliseconds
  | .sign command => system.sign command
  | .publishCommand payload => system.publishCommand payload
  | .createAlert actor input id instant => system.createAlert actor input id instant
  | .deliver consumer index termReceived => system.deliver deployment consumer index termReceived
  | .beginTransaction consumer => system.beginTransaction consumer
  | .insertInbox consumer => system.insertInbox deployment consumer
  | .readAlerts consumer outcome => system.readAlerts consumer outcome
  | .enqueueReply consumer eventId => system.enqueueReply consumer eventId
  | .insertStatus consumer => system.insertStatus deployment consumer
  | .commit consumer => system.commit consumer
  | .ack consumer received => system.ack consumer received
  | .stop consumer => system.stop consumer
  | .selectPending publisher => system.selectPending publisher
  | .publishReply publisher => system.publishReply deployment publisher
  | .acknowledgeReply publisher => system.acknowledgeReply publisher
  | .markReply publisher => system.markReply publisher
  | .stopPublisher publisher => system.stopPublisher publisher

/-- Reachable from the freshly migrated database with empty streams. -/
def System.Reachable (deployment : Deployment) : System -> Prop :=
  Runs.Reachable (System.step deployment) (fun system => system = System.initial) Runs.anyStep

/-- Reachable by steps that all meet a condition on the state before them. -/
def System.ReachableUnder (deployment : Deployment) (condition : System -> Action -> Prop) :
    System -> Prop :=
  Runs.Reachable (System.step deployment) (fun system => system = System.initial) condition

end EmbeddedAlerts
