import EmbeddedAlerts.Library.EarlyExit
import EmbeddedAlerts.Transport.Correspondence

namespace EmbeddedAlerts

/-!
# The delivery loop of one consumer

`process_command` and the loop around it, run to the end for one message after
another with the errors that they return.  Every failure that the environment
may cause is an input: which step of which message fails is chosen in advance,
and the loop is a function of these choices.

The loop leaves with the first error.  Nothing restarts it, because the task
that runs it only logs the error.
-/

/-! ## One transaction -/

/-- What the environment decides about one transaction. -/
structure Transaction where
  beginFails : Bool
  inboxFails : Bool
  read : ReadOutcome
  outboxFails : Bool
  statusFails : Bool
  commitFails : Bool
  eventId : Uuid
  now : Int

/-- The row that `INSERT_OUTBOX_SQL` adds, if it adds one. -/
def enqueueReply (database : Database) (command : AsyncCommand) (reply : OperationReply)
    (aborted : Bool) (transaction : Transaction) : Except String (Option OutboxRow) :=
  let row := outboxRow command reply transaction.eventId transaction.now
  if transaction.outboxFails || aborted || !row.checks then
    .error "persist JetStream outbox failed"
  else
    match insertOutbox database.outbox row with
    | .failed => .error "persist JetStream outbox failed"
    | .skipped => .ok none
    | .inserted => .ok (some row)

def insertStatus (postgres : Postgres) (command : AsyncCommand) (reply : OperationReply)
    (transaction : Transaction) : Except String StatusRow :=
  match bindStatus postgres command reply transaction.now with
  | some row =>
      if transaction.statusFails then .error "persist JetStream status failed" else .ok row
  | none => .error "persist JetStream status failed"

/-- Nothing more is written after a conflict.  For a new inbox row the alerts
are read, the reply is enqueued and its status recorded. -/
def answerCommand (postgres : Postgres) (database : Database) (command : AsyncCommand)
    (row : InboxRow) (transaction : Transaction) : Except String Database :=
  if database.inbox.any (InboxRow.clashes row) then .ok database
  else
    match Uuid.parseStr command.operation.actorSubject with
    | none => .error "JetStream actor subject is invalid"
    | some subject => do
        let answer := readReply database.alerts command ⟨subject, command.productTenant⟩
          transaction.read
        let outbox <- enqueueReply database command answer.1 answer.2 transaction
        let status <- insertStatus postgres command answer.1 transaction
        return database.commit ⟨command, answer.1, row, outbox, status⟩

/-- The database after the transaction, or the error it returns.  An error
leaves the database as it was. -/
def processCommand (postgres : Postgres) (database : Database) (command : AsyncCommand)
    (transaction : Transaction) : Except String Database := do
  Fallible.refuseIf transaction.beginFails "begin JetStream inbox transaction failed"
  match bindInbox postgres command transaction.now with
  | none => .error "persist JetStream inbox failed"
  | some row =>
      Fallible.refuseIf transaction.inboxFails "persist JetStream inbox failed"
      let written <- answerCommand postgres database command row transaction
      Fallible.refuseIf transaction.commitFails "commit JetStream inbox transaction failed"
      return written

/-! ## The loop -/

/-- One item of the message stream and what the environment decides for it. -/
structure Delivery where
  received : Bool
  payload : List UInt8
  clock : Option UInt64
  termPublished : Bool
  transaction : Transaction
  ackPublished : Bool

inductive Handled where
  | terminated
  | acknowledged (command : AsyncCommand)
deriving DecidableEq

def terminate (database : Database) (delivery : Delivery) : Except String Handled × Database :=
  if delivery.termPublished then (.ok .terminated, database)
  else (.error "JetStream termination acknowledgement failed", database)

/-- One turn of the loop.  A failed acknowledgement comes after the commit. -/
def handleDelivery (deployment : Deployment) (database : Database) (delivery : Delivery) :
    Except String Handled × Database :=
  if !delivery.received then (.error "JetStream command delivery failed", database)
  else if maxNatsPayloadBytes < delivery.payload.length then terminate database delivery
  else
    match deployment.config.decode delivery.payload with
    | none => terminate database delivery
    | some command =>
        match delivery.clock with
        | none => (.error "system clock is unavailable", database)
        | some now =>
            if !commandGate deployment.config command now then terminate database delivery
            else
              match processCommand deployment.postgres database command delivery.transaction with
              | .error message => (.error message, database)
              | .ok written =>
                  if delivery.ackPublished then (.ok (.acknowledged command), written)
                  else (.error "JetStream explicit acknowledgement failed", written)

structure LoopEnd where
  handled : List Handled
  database : Database
  error : String

/-- The delivery loop of `run_jetstream`. -/
def deliveryLoop (deployment : Deployment) : Database -> List Delivery -> LoopEnd
  | database, [] => ⟨[], database, "JetStream command delivery ended"⟩
  | database, delivery :: rest =>
      match handleDelivery deployment database delivery with
      | (.error message, after) => ⟨[], after, message⟩
      | (.ok handled, after) =>
          let later := deliveryLoop deployment after rest
          ⟨handled :: later.handled, later.database, later.error⟩

theorem handled_deliveryLoop (deployment : Deployment) (database : Database)
    (deliveries : List Delivery) :
    (deliveryLoop deployment database deliveries).handled =
      EarlyExit.untilFailure (handleDelivery deployment) database deliveries := by
  induction deliveries generalizing database with
  | nil => rfl
  | cons delivery rest ih =>
      rw [deliveryLoop, EarlyExit.untilFailure]
      rcases handleDelivery deployment database delivery with ⟨outcome, after⟩
      cases outcome with
      | error message => rfl
      | ok handled =>
          simp only
          rw [ih after]

/-! ## What it means to be handled -/

/-- A message is terminated when the gate refuses it, and otherwise its
transaction is committed and it is acknowledged. -/
theorem handleDelivery_ok {deployment : Deployment} {database after : Database}
    {delivery : Delivery} {handled : Handled}
    (done : handleDelivery deployment database delivery = (.ok handled, after)) :
    (handled = .terminated ∧ after = database ∧ forall now, delivery.clock = some now ->
        acceptCommand deployment.config delivery.payload now = none) ∨
      Exists fun command => Exists fun now => handled = .acknowledged command ∧
        delivery.clock = some now ∧
        acceptCommand deployment.config delivery.payload now = some command ∧
        processCommand deployment.postgres database command delivery.transaction = .ok after := by
  have terminated : terminate database delivery = (.ok handled, after) ->
      handled = .terminated ∧ after = database := by
    unfold terminate
    intro ended
    split at ended
    · cases ended
      exact ⟨rfl, rfl⟩
    · cases ended
  unfold handleDelivery at done
  split at done
  · cases done
  · split at done
    · next oversized =>
        rcases terminated done with ⟨rfl, rfl⟩
        refine Or.inl ⟨rfl, rfl, fun now _ => ?_⟩
        rw [acceptCommand, if_pos oversized]
    · next fits =>
        split at done
        · next undecoded =>
            rcases terminated done with ⟨rfl, rfl⟩
            refine Or.inl ⟨rfl, rfl, fun now _ => ?_⟩
            rw [acceptCommand, if_neg fits, undecoded]
        · next command decoded =>
            split at done
            · cases done
            · next now read =>
                split at done
                · next refused =>
                    rcases terminated done with ⟨rfl, rfl⟩
                    refine Or.inl ⟨rfl, rfl, fun other same => ?_⟩
                    rw [read] at same
                    cases same
                    rw [Bool.not_eq_true'] at refused
                    simp only [acceptCommand, if_neg fits, decoded, refused]
                    rfl
                · next passes =>
                    have admitted :
                        acceptCommand deployment.config delivery.payload now = some command := by
                      rw [Bool.not_eq_true', Bool.not_eq_false] at passes
                      simp only [acceptCommand, if_neg fits, decoded, passes, if_true]
                    split at done
                    · cases done
                    · next written processed =>
                        split at done
                        · cases done
                          exact Or.inr ⟨command, now, rfl, read, admitted, processed⟩
                        · cases done

/-- What becomes of each message by its own steps, in the database that the
messages before it leave. -/
def ownOutcomes (deployment : Deployment) (database : Database) (deliveries : List Delivery) :
    List (Except String Handled) :=
  EarlyExit.outcomes (handleDelivery deployment) database deliveries

/-- Every message whose own steps succeed is handled by the loop. -/
def FailuresIsolated (deployment : Deployment) (database : Database)
    (deliveries : List Delivery) : Prop :=
  forall (index : Nat) (handled : Handled),
    (ownOutcomes deployment database deliveries)[index]? = some (.ok handled) ->
    (deliveryLoop deployment database deliveries).handled[index]? = some handled

/-! ## The transaction as a run of the interleaved system -/

namespace System

/-- The state in which one consumer is alone, at some stage. -/
def solo (system : System) (session : Session) (stage : Stage) : System :=
  { system with sessions := [{ session with stage := stage }] }

variable {deployment : Deployment} {system : System} {session : Session}

@[simp] theorem session_solo (stage : Stage) :
    (system.solo session stage).session session.consumer = some { session with stage := stage } := by
  simp [System.session, solo]

@[simp] theorem otherSessions_solo (stage : Stage) :
    (system.solo session stage).otherSessions session.consumer = [] := by
  simp [otherSessions, solo]

@[simp] theorem advance_solo (before after : Stage) :
    (system.solo session before).advance { session with stage := before } after =
      system.solo session after := by
  rw [advance, otherSessions_solo]
  rfl

@[simp] theorem database_solo (stage : Stage) :
    (system.solo session stage).database = system.database := rfl

theorem beginTransaction_solo :
    (system.solo session .handed).beginTransaction session.consumer =
      some (system.solo session (.begun system.clock)) := by
  simp only [beginTransaction, session_solo, advance_solo]
  rfl

theorem insertInbox_solo_conflict {now : Int} {row : InboxRow}
    (bound : bindInbox deployment.postgres session.command now = some row)
    (known : system.database.inbox.any (InboxRow.clashes row) = true) :
    (system.solo session (.begun now)).insertInbox deployment session.consumer =
      some (system.solo session (.committing none)) := by
  simp [insertInbox, bound, known]

theorem insertInbox_solo_new {now : Int} {row : InboxRow}
    (bound : bindInbox deployment.postgres session.command now = some row)
    (new : ¬ system.database.inbox.any (InboxRow.clashes row) = true) :
    (system.solo session (.begun now)).insertInbox deployment session.consumer =
      some (system.solo session (.reading now row)) := by
  simp only [insertInbox, session_solo, bound, otherSessions_solo, List.any_nil, database_solo,
    if_neg new, advance_solo]
  rfl

theorem readAlerts_solo {now : Int} {row : InboxRow} {subject : Uuid} {outcome : ReadOutcome}
    (parsed : Uuid.parseStr session.command.operation.actorSubject = some subject) :
    (system.solo session (.reading now row)).readAlerts session.consumer outcome =
      some (system.solo session (.replying now row
        (readReply system.database.alerts session.command
          ⟨subject, session.command.productTenant⟩ outcome).1
        (readReply system.database.alerts session.command
          ⟨subject, session.command.productTenant⟩ outcome).2)) := by
  simp [readAlerts, parsed]

theorem enqueueReply_solo {transaction : Transaction} {row : InboxRow} {reply : OperationReply}
    {aborted : Bool} {outbox : Option OutboxRow}
    (enqueued : EmbeddedAlerts.enqueueReply system.database session.command reply aborted
      transaction = .ok outbox) :
    (system.solo session (.replying transaction.now row reply aborted)).enqueueReply
        session.consumer transaction.eventId =
      some (system.solo session (.recording transaction.now row reply outbox)) := by
  unfold EmbeddedAlerts.enqueueReply at enqueued
  dsimp only at enqueued
  split at enqueued
  · cases enqueued
  · next accepted =>
      rw [Bool.not_eq_true, Bool.or_eq_false_iff, Bool.or_eq_false_iff] at accepted
      rcases accepted with ⟨⟨_, rfl⟩, checked⟩
      split at enqueued
      · cases enqueued
      · next skipped =>
          cases enqueued
          simp [System.enqueueReply, checked, skipped]
      · next inserted =>
          cases enqueued
          simp [System.enqueueReply, checked, inserted]

theorem insertStatus_solo {transaction : Transaction} {row : InboxRow} {reply : OperationReply}
    {outbox : Option OutboxRow} {status : StatusRow}
    (recorded : EmbeddedAlerts.insertStatus deployment.postgres session.command reply transaction =
      .ok status) :
    (system.solo session (.recording transaction.now row reply outbox)).insertStatus deployment
        session.consumer =
      some (system.solo session
        (.committing (some ⟨session.command, reply, row, outbox, status⟩))) := by
  unfold EmbeddedAlerts.insertStatus at recorded
  split at recorded
  · next bound =>
      split at recorded
      · cases recorded
      · cases recorded
        simp [System.insertStatus, bound]
  · cases recorded

theorem commit_solo_nothing :
    (system.solo session (.committing none)).commit session.consumer =
      some (system.solo session .committed) := by
  simp [commit]

theorem commit_solo_writes (writes : Writes) :
    (system.solo session (.committing (some writes))).commit session.consumer =
      some { system.solo session .committed with
        database := system.database.commit writes
        executed := system.executed ++ [writes] } := by
  simp [commit]
  rfl

end System

/-- A transaction that `process_command` completes is a run of the interleaved
system in which its consumer is undisturbed, with the same effect on the
database. -/
theorem processCommand_executed {deployment : Deployment} {system : System} {session : Session}
    {transaction : Transaction} {after : Database} (clock : transaction.now = system.clock)
    (done : processCommand deployment.postgres system.database session.command transaction =
      .ok after) :
    Exists fun actions => Exists fun next =>
      Runs.execute (System.step deployment) Runs.unchecked (system.solo session .handed) actions =
        some next ∧
      next.database = after ∧ next.sessions = [{ session with stage := .committed }] := by
  unfold processCommand at done
  rcases (Fallible.bind_eq_ok_iff _ _ _).mp done with ⟨_, _, done⟩
  split at done
  · cases done
  · next row bound =>
      rcases (Fallible.bind_eq_ok_iff _ _ _).mp done with ⟨_, _, done⟩
      rcases (Fallible.bind_eq_ok_iff _ _ _).mp done with ⟨written, answered, done⟩
      rcases (Fallible.bind_eq_ok_iff _ _ _).mp done with ⟨_, _, done⟩
      cases done
      have begun : (system.solo session .handed).beginTransaction session.consumer =
          some (system.solo session (.begun transaction.now)) := by
        rw [clock]
        exact System.beginTransaction_solo
      unfold answerCommand at answered
      split at answered
      · next known =>
          cases answered
          refine ⟨[.beginTransaction session.consumer, .insertInbox session.consumer,
            .commit session.consumer], system.solo session .committed, ?_, rfl, rfl⟩
          apply Runs.execute_cons begun
          apply Runs.execute_cons (System.insertInbox_solo_conflict bound known)
          exact Runs.execute_cons System.commit_solo_nothing rfl
      · next new =>
          split at answered
          · cases answered
          · next subject parsed =>
              have read : (system.solo session (.reading transaction.now row)).readAlerts
                  session.consumer transaction.read = _ := System.readAlerts_solo parsed
              generalize readReply system.database.alerts session.command
                ⟨subject, session.command.productTenant⟩ transaction.read = answer at answered read
              rcases (Fallible.bind_eq_ok_iff _ _ _).mp answered with ⟨outbox, enqueued, answered⟩
              rcases (Fallible.bind_eq_ok_iff _ _ _).mp answered with ⟨status, recorded, answered⟩
              cases answered
              let writes : Writes := ⟨session.command, answer.1, row, outbox, status⟩
              refine ⟨[.beginTransaction session.consumer, .insertInbox session.consumer,
                .readAlerts session.consumer transaction.read,
                .enqueueReply session.consumer transaction.eventId,
                .insertStatus session.consumer, .commit session.consumer],
                { system.solo session .committed with
                  database := system.database.commit writes
                  executed := system.executed ++ [writes] }, ?_, rfl, rfl⟩
              apply Runs.execute_cons begun
              apply Runs.execute_cons (System.insertInbox_solo_new bound new)
              apply Runs.execute_cons read
              apply Runs.execute_cons (System.enqueueReply_solo enqueued)
              apply Runs.execute_cons (System.insertStatus_solo recorded)
              exact Runs.execute_cons (System.commit_solo_writes writes) rfl

/-! ## The whole sequence -/

/-- The loop handles every message whose own steps succeed, in the sense of
the gate, exactly when none of them comes after one whose own steps fail.  A
transaction that is committed in it is a run of the system. -/
theorem delivery_failures_isolated_iff (deployment : Deployment) (database : Database)
    (deliveries : List Delivery) :
    (FailuresIsolated deployment database deliveries ↔
      forall (earlier later : Nat) (error : String) (handled : Handled),
        (ownOutcomes deployment database deliveries)[earlier]? = some (.error error) ->
        (ownOutcomes deployment database deliveries)[later]? = some (.ok handled) ->
        later ≤ earlier) ∧
    (forall (before after : Database) (delivery : Delivery) (handled : Handled),
      handleDelivery deployment before delivery = (.ok handled, after) ->
      (handled = .terminated ∧ after = before ∧ forall now, delivery.clock = some now ->
          acceptCommand deployment.config delivery.payload now = none) ∨
        Exists fun command => Exists fun now => handled = .acknowledged command ∧
          delivery.clock = some now ∧
          acceptCommand deployment.config delivery.payload now = some command ∧
          processCommand deployment.postgres before command delivery.transaction = .ok after) ∧
    (forall (system : System) (session : Session) (transaction : Transaction) (after : Database),
      transaction.now = system.clock ->
      processCommand deployment.postgres system.database session.command transaction = .ok after ->
      Exists fun actions => Exists fun next =>
        Runs.execute (System.step deployment) Runs.unchecked (system.solo session .handed)
          actions = some next ∧
        next.database = after ∧ next.sessions = [{ session with stage := .committed }]) := by
  refine ⟨?_, ?_, ?_⟩
  · rw [FailuresIsolated, handled_deliveryLoop]
    exact EarlyExit.reaches_iff (handleDelivery deployment) database deliveries
  · intro before after delivery handled done
    exact handleDelivery_ok done
  · intro system session transaction after clock done
    exact processCommand_executed clock done

/-- A transaction in which no step fails. -/
def soundTransaction (event : Nat) : Transaction :=
  ⟨false, false, .answered, false, false, false, sampleId event, 2000000000000⟩

/-- The first actor's commit fails, and the second actor's request follows. -/
def failedThenSound : List Delivery :=
  [⟨true, firstCommand.payload, some 2000000000000, true,
      { soundTransaction 0xc1 with commitFails := true }, true⟩,
    ⟨true, secondCommand.payload, some 2000000000000, true, soundTransaction 0xc2, true⟩]

theorem failedThenSound_outcomes :
    (ownOutcomes (sampleDeployment .cast) Database.empty failedThenSound).map Except.toOption =
        [none, some (.acknowledged secondCommand)] ∧
      (deliveryLoop (sampleDeployment .cast) Database.empty failedThenSound).handled = [] := by
  decide +kernel

theorem second_actor_not_handled :
    ¬ FailuresIsolated (sampleDeployment .cast) Database.empty failedThenSound := by
  intro isolated
  rcases failedThenSound_outcomes with ⟨own, loop⟩
  have second : (ownOutcomes (sampleDeployment .cast) Database.empty failedThenSound)[1]? =
      some (.ok (.acknowledged secondCommand)) := by
    have found := congrArg (fun listed : List (Option Handled) => listed[1]?) own
    simp only [List.getElem?_map] at found
    rcases Option.map_eq_some_iff.mp found with ⟨outcome, same, succeeded⟩
    cases outcome with
    | error message => cases succeeded
    | ok handled =>
        rw [same, Option.some.inj succeeded]
  have reached := isolated 1 _ second
  rw [loop] at reached
  cases reached

end EmbeddedAlerts
