import EmbeddedAlerts.Transport.Correspondence

namespace EmbeddedAlerts

/-!
# What an acknowledgement promises

A consumer acknowledges after the commit.  When the inbox insert took its row,
the reply and the status of the request are committed with it.  When the insert
met a conflict, the transaction commits nothing, and the acknowledgement then
rests on what another request left behind.  The inbox has three unique keys
that are not scoped by actor, so the other request need not be the same one.

The condition under which the promise holds is therefore one on the inbox
before a conflicting insert: it has a row of the same correlation, tenant and
actor.
-/

/-- The durable reply of a request: its status row, under its own tenant and
actor, and its outbox row. -/
def System.Replied (postgres : Postgres) (system : System) (command : AsyncCommand) : Prop :=
  (Exists fun status => status ∈ system.database.status ∧
    status.correlationId = command.correlationId ∧
    status.productTenant = command.productTenant ∧
    postgres.assignText command.operation.actorSubject = some status.actorSubject) ∧
  Exists fun row => row ∈ system.database.outbox ∧ row.correlationId = command.correlationId

/-- A conflicting inbox insert finds a row of the same correlation, tenant and
actor, as it does for a redelivery or a replay. -/
def ConflictIsReplay (deployment : Deployment) (system : System) : Action -> Prop
  | .insertInbox consumer =>
      forall session now row, system.session consumer = some session ->
        session.stage = .begun now ->
        bindInbox deployment.postgres session.command now = some row ->
        (Exists fun stored => stored ∈ system.database.inbox ∧ row.clashes stored = true) ->
        Exists fun stored => stored ∈ system.database.inbox ∧
          stored.correlationId = row.correlationId ∧ stored.productTenant = row.productTenant ∧
          stored.actorSubject = row.actorSubject
  | _ => True

/-- A request of this correlation, tenant and actor is in the log. -/
def System.Settled (postgres : Postgres) (system : System) (command : AsyncCommand) : Prop :=
  Exists fun writes => writes ∈ system.executed ∧
    writes.inbox.correlationId = command.correlationId ∧
    writes.inbox.productTenant = command.productTenant ∧
    postgres.assignText command.operation.actorSubject = some writes.inbox.actorSubject

theorem System.Settled.mono {postgres : Postgres} {system next : System} {command : AsyncCommand}
    (settled : system.Settled postgres command) (grows : system.executed ⊆ next.executed) :
    next.Settled postgres command := by
  rcases settled with ⟨writes, executed, same⟩
  exact ⟨writes, grows executed, same⟩

/-- The rows of a logged request are its durable reply. -/
theorem Correspondence.replied {postgres : Postgres} {system : System} {command : AsyncCommand}
    (holds : Correspondence postgres system) (settled : system.Settled postgres command) :
    system.Replied postgres command := by
  rcases settled with ⟨writes, executed, correlation, tenant, actor⟩
  rcases holds.rows_of_executed executed with ⟨_, statusMember, row, rowMember, written⟩
  rcases holds.sound writes executed with ⟨assigned, now, eventId, _, inbox, outbox, status, _⟩
  rw [inbox] at correlation tenant actor
  constructor
  · refine ⟨writes.status, statusMember, ?_, ?_, ?_⟩
    · rw [status]
      exact correlation
    · rw [status]
      exact tenant
    · rw [status]
      exact actor
  · rw [outbox] at written
    refine ⟨row, rowMember, ?_⟩
    rw [← correlation]
    exact (congrArg OutboxRow.correlationId (Option.some.inj written)).symm

/-- The transaction has nothing left to write. -/
def Stage.finishing : Stage -> Bool
  | .committing none => true
  | .committed => true
  | _ => false

/-- Requests that are acknowledged, or will be by the next steps of their
consumer, are in the log. -/
structure AckedSettled (postgres : Postgres) (system : System) : Prop where
  corresponds : Correspondence postgres system
  sessions : forall session, session ∈ system.sessions -> session.stage.finishing = true ->
    system.Settled postgres session.command
  acked : forall command, command ∈ system.acked -> system.Settled postgres command

namespace AckedSettled

variable {deployment : Deployment} {system next : System} {action : Action}

/-- A consumer with nothing left to write has a settled request.  The condition
is used where its insert met a conflict. -/
theorem settled_of_move (holds : AckedSettled deployment.postgres system)
    (replay : ConflictIsReplay deployment system action) (session : Session) {stage : Stage}
    (present : session ∈ system.sessions)
    (move : System.Move deployment system session action stage)
    (finishing : stage.finishing = true) :
    system.Settled deployment.postgres session.command := by
  cases move with
  | conflict found begun bound member clash =>
      rcases replay session _ _ found begun bound ⟨_, member, clash⟩ with
        ⟨stored, storedMember, correlation, tenant, actor⟩
      rw [holds.corresponds.records.inbox] at storedMember
      rcases List.mem_map.mp storedMember with ⟨writes, executed, rfl⟩
      rcases (bindRow_eq_some_iff _ _ _ _ _).mp bound with ⟨assigned, assignment, _, built⟩
      rw [built] at correlation tenant actor
      exact ⟨writes, executed, correlation, tenant, by rw [assignment, actor]; rfl⟩
  | finished committing => exact holds.sessions session present (by rw [committing]; rfl)
  | begin _ => cases finishing
  | inserted _ _ => cases finishing
  | read _ _ => cases finishing
  | enqueued _ _ => cases finishing
  | recorded _ => cases finishing

theorem step_sessions (holds : AckedSettled deployment.postgres system)
    (replay : ConflictIsReplay deployment system action)
    (taken : system.step deployment action = some next) (session : Session)
    (member : session ∈ next.sessions) (finishing : session.stage.finishing = true) :
    next.Settled deployment.postgres session.command := by
  have grows := System.executed_subset taken
  rcases System.step_sessions taken with ⟨within, _⟩ | ⟨_, _, _, started, _⟩ |
    ⟨moved, stage, present, move, rfl⟩ | ⟨moved, writes, present, committing, rfl⟩
  · exact (holds.sessions session (within.subset member) finishing).mono grows
  · rw [started] at member
    rcases List.mem_cons.mp member with rfl | earlier
    · cases finishing
    · exact (holds.sessions session earlier finishing).mono grows
  · rcases List.mem_cons.mp member with rfl | other
    · exact holds.settled_of_move replay moved present move finishing
    · exact holds.sessions session (System.mem_of_mem_otherSessions other) finishing
  · rcases List.mem_cons.mp member with rfl | other
    · have sound := holds.corresponds.stages moved present
      rw [committing] at sound
      rcases sound with ⟨⟨actor, now, eventId, assigned, inbox, _⟩, same⟩
      refine ⟨writes, List.mem_append_right _ (List.mem_singleton_self _), ?_, ?_, ?_⟩
      · rw [inbox, same]
        rfl
      · rw [inbox, same]
        rfl
      · rw [inbox, ← same]
        exact assigned
    · exact (holds.sessions session (System.mem_of_mem_otherSessions other) finishing).mono grows

theorem step (holds : AckedSettled deployment.postgres system)
    (replay : ConflictIsReplay deployment system action)
    (taken : system.step deployment action = some next) :
    AckedSettled deployment.postgres next := by
  refine ⟨holds.corresponds.step taken, holds.step_sessions replay taken, ?_⟩
  have grows := System.executed_subset taken
  intro command member
  rcases System.step_acked taken with same | ⟨session, present, committed, appended⟩
  · rw [same] at member
    exact (holds.acked command member).mono grows
  · rw [appended] at member
    rcases List.mem_cons.mp member with rfl | earlier
    · exact (holds.sessions session present (by rw [committed]; rfl)).mono grows
    · exact (holds.acked command earlier).mono grows

end AckedSettled

/-- In every run whose conflicting inbox inserts are replays, an acknowledged
request has its own durable reply. -/
theorem acked_commands_replied {deployment : Deployment} {system : System}
    (reached : System.ReachableUnder deployment (ConflictIsReplay deployment) system)
    {command : AsyncCommand} (acked : command ∈ system.acked) :
    system.Replied deployment.postgres command := by
  have holds : AckedSettled deployment.postgres system := by
    refine Runs.Reachable.invariant ?_ (fun _ _ _ holds replay taken => holds.step replay taken)
      reached
    rintro _ rfl
    refine ⟨correspondence_initial _, ?_, ?_⟩
    · intro session member
      cases member
    · intro command member
      cases member
  exact holds.corresponds.replied (holds.acked command acked)

/-- An inbox insert meets no row at all. -/
def insertsFirst (system : System) : Action -> Bool
  | .insertInbox _ => system.database.inbox.isEmpty
  | _ => true

theorem conflictIsReplay_of_insertsFirst {deployment : Deployment} (system : System)
    (action : Action) (passes : insertsFirst system action = true) :
    ConflictIsReplay deployment system action := by
  cases action with
  | insertInbox consumer =>
      rintro session now row _ _ _ ⟨stored, member, _⟩
      rw [List.isEmpty_iff.mp passes] at member
      cases member
  | _ => trivial

theorem firstRun_acked :
    (Runs.execute (System.step (sampleDeployment .cast)) insertsFirst System.initial
      (firstRun ++ [.ack 0 true])).map System.acked = some [firstCommand] := by
  decide +kernel

theorem first_acked_command_replied : Exists fun system =>
    System.ReachableUnder (sampleDeployment .cast) (ConflictIsReplay (sampleDeployment .cast))
      system ∧
    firstCommand ∈ system.acked ∧ system.Replied .cast firstCommand := by
  rcases Option.map_eq_some_iff.mp firstRun_acked with ⟨system, done, acked⟩
  have reached : System.ReachableUnder (sampleDeployment .cast)
      (ConflictIsReplay (sampleDeployment .cast)) system :=
    Runs.Reachable.execute conflictIsReplay_of_insertsFirst (.start rfl) done
  have member : firstCommand ∈ system.acked := by
    rw [acked]
    exact List.mem_singleton_self _
  exact ⟨system, reached, member, acked_commands_replied reached member⟩

/-! ## Two actors under one dedupe key -/

/-- The second actor's request meets the first actor's inbox row. -/
def collidingRun : List Action :=
  firstRun ++ [.ack 0 true, .publishCommand secondCommand.payload, .deliver 0 1 true,
    .beginTransaction 0, .insertInbox 0, .commit 0, .ack 0 true]

theorem collidingRun_acked : (sampleRun .cast collidingRun).map (fun system =>
    (system.acked, system.database.status.map StatusRow.correlationId)) =
      some ([secondCommand, firstCommand], [firstCommand.correlationId]) := by
  decide +kernel

/-- The second request is acknowledged and nothing is recorded for it. -/
theorem second_actor_acked_without_reply : Exists fun system =>
    System.Reachable (sampleDeployment .cast) system ∧
    secondCommand ∈ system.acked ∧ ¬ system.Replied .cast secondCommand := by
  rcases Option.map_eq_some_iff.mp collidingRun_acked with ⟨system, done, recorded⟩
  rcases Prod.mk.inj recorded with ⟨acked, correlations⟩
  refine ⟨system, sampleRun_reached done, by rw [acked]; exact List.mem_cons_self, ?_⟩
  rintro ⟨⟨status, member, same, _⟩, _⟩
  have listed := List.mem_map_of_mem (f := StatusRow.correlationId) member
  rw [correlations, same, List.mem_singleton] at listed
  revert listed
  decide

end EmbeddedAlerts
