import EmbeddedAlerts.Store.Ownership
import EmbeddedAlerts.Transport.Publication

namespace EmbeddedAlerts

/-!
# Whose alerts a JetStream reply carries

A command names its actor twice, by the signed tenant and by a signed text
that is parsed again before the read.  As long as the table holds nothing but
logged alerts, every reply carries alerts that this actor created, while the
transaction is open, once its rows are committed and when the event stream
has them.
-/

/-- Every alert of the reply was created by the actor that the command names. -/
def OperationReply.Confined (log : List (VerifiedActor × AlertRule)) (command : AsyncCommand)
    (reply : OperationReply) : Prop :=
  forall alerts, reply.result = some alerts -> forall alert, alert ∈ alerts ->
    Exists fun subject => Uuid.parseStr command.operation.actorSubject = some subject ∧
      CreatedBy log ⟨subject, command.productTenant⟩ alert

def Stage.Confined (log : List (VerifiedActor × AlertRule)) (command : AsyncCommand) :
    Stage -> Prop
  | .replying _ _ reply _ => reply.Confined log command
  | .recording _ _ reply _ => reply.Confined log command
  | .committing (some writes) => writes.command = command ∧ writes.reply.Confined log command
  | _ => True

structure System.Confined (log : List (VerifiedActor × AlertRule)) (system : System) : Prop where
  commands : forall session, session ∈ system.sessions -> session.command ∈ system.handed
  stages : forall session, session ∈ system.sessions ->
    session.stage.Confined log session.command
  executed : forall writes, writes ∈ system.executed ->
    writes.command ∈ system.handed ∧ writes.reply.Confined log writes.command

section

variable {log later : List (VerifiedActor × AlertRule)} {command : AsyncCommand}
  {deployment : Deployment} {system next : System}

theorem OperationReply.Confined.mono {reply : OperationReply}
    (confined : reply.Confined log command) (grows : log ⊆ later) : reply.Confined later command := by
  intro alerts result alert member
  rcases confined alerts result alert member with ⟨subject, parsed, created⟩
  exact ⟨subject, parsed, created.mono grows⟩

theorem Stage.Confined.mono {stage : Stage} (confined : stage.Confined log command)
    (grows : log ⊆ later) : stage.Confined later command := by
  cases stage with
  | replying now row reply aborted => exact OperationReply.Confined.mono confined grows
  | recording now row reply outbox => exact OperationReply.Confined.mono confined grows
  | committing writes =>
      cases writes with
      | none => trivial
      | some writes => exact ⟨confined.1, confined.2.mono grows⟩
  | handed => trivial
  | begun now => trivial
  | reading now row => trivial
  | committed => trivial

theorem errorReply_confined (operationId : Uuid) (error : String) :
    (errorReply operationId error).Confined log command := by
  intro alerts result
  cases result

/-- The read gives the actor of the command nothing but its own alerts. -/
theorem readReply_confined {rows : List AlertRow} {subject : Uuid}
    (within : (AlertStore.database rows).Within log)
    (parsed : Uuid.parseStr command.operation.actorSubject = some subject)
    (outcome : ReadOutcome) :
    (readReply rows command ⟨subject, command.productTenant⟩ outcome).1.Confined log command := by
  cases outcome with
  | answered =>
      unfold readReply
      cases listed : readAlerts rows ⟨subject, command.productTenant⟩ with
      | ok alerts =>
          intro shown result alert member
          cases result
          exact ⟨subject, parsed, within.list listed member⟩
      | error failure => exact errorReply_confined _ _
  | failed => exact errorReply_confined _ _
  | timedOut => exact errorReply_confined _ _

/-- One statement of a transaction. -/
theorem Move.confined {session : Session} {action : Action} {stage : Stage}
    (within : (AlertStore.database system.database.alerts).Within log)
    (confined : session.stage.Confined log session.command)
    (move : System.Move deployment system session action stage) :
    stage.Confined log session.command := by
  cases move with
  | begin _ => trivial
  | conflict _ _ _ _ _ => trivial
  | inserted _ _ => trivial
  | read _ parsed => exact readReply_confined within parsed _
  | enqueued before _ =>
      rw [before] at confined
      exact confined
  | recorded before =>
      rw [before] at confined
      exact ⟨rfl, confined⟩
  | finished _ => trivial

theorem confined_initial : System.initial.Confined log where
  commands := by intro session member; cases member
  stages := by intro session member; cases member
  executed := by intro writes member; cases member

namespace System.Confined

theorem mono (confined : system.Confined log) (grows : log ⊆ later) : system.Confined later where
  commands := confined.commands
  stages := fun session member => (confined.stages session member).mono grows
  executed := fun writes member =>
    ⟨(confined.executed writes member).1, (confined.executed writes member).2.mono grows⟩

theorem step (confined : system.Confined log)
    (within : (AlertStore.database system.database.alerts).Within log) {action : Action}
    (taken : system.step deployment action = some next) : next.Confined log := by
  have handed := System.handed_subset taken
  have earlier : forall session, session ∈ system.sessions -> session.command ∈ next.handed :=
    fun session member => handed (confined.commands session member)
  have before : forall writes, writes ∈ system.executed ->
      writes.command ∈ next.handed ∧ writes.reply.Confined log writes.command :=
    fun writes member => ⟨handed (confined.executed writes member).1,
      (confined.executed writes member).2⟩
  have advanced : forall session stage, session ∈ system.sessions ->
      stage.Confined log session.command ->
      forall other, other ∈ (system.advance session stage).sessions ->
        other.command ∈ next.handed ∧ other.stage.Confined log other.command := by
    intro session stage present moved other member
    rcases List.mem_cons.mp member with rfl | old
    · exact ⟨earlier session present, moved⟩
    · have kept := System.mem_of_mem_otherSessions old
      exact ⟨earlier other kept, confined.stages other kept⟩
  rcases System.step_sessions taken with ⟨kept, executed⟩ |
    ⟨consumer, index, command, started, appended, executed⟩ |
    ⟨session, stage, present, move, rfl⟩ | ⟨session, writes, present, committing, rfl⟩
  · refine ⟨fun other member => earlier other (kept.subset member),
      fun other member => confined.stages other (kept.subset member), ?_⟩
    rw [executed]
    exact before
  · refine ⟨?_, ?_, ?_⟩
    · rw [started]
      intro other member
      rcases List.mem_cons.mp member with rfl | old
      · rw [appended]
        exact List.mem_cons_self
      · exact earlier other old
    · rw [started]
      intro other member
      rcases List.mem_cons.mp member with rfl | old
      · trivial
      · exact confined.stages other old
    · rw [executed]
      exact before
  · have moved := advanced session stage present
      (Move.confined within (confined.stages session present) move)
    exact ⟨fun other member => (moved other member).1, fun other member => (moved other member).2,
      before⟩
  · have written := confined.stages session present
    rw [committing] at written
    rcases written with ⟨owner, replied⟩
    have moved := advanced session .committed present trivial
    refine ⟨fun other member => (moved other member).1,
      fun other member => (moved other member).2, ?_⟩
    intro other member
    rcases List.mem_append.mp member with old | last
    · exact before other old
    · rw [List.mem_singleton.mp last, owner]
      exact ⟨earlier session present, replied⟩

/-- A committed reply answers one admitted command and carries nothing but the
alerts of its actor. -/
theorem outbox (confined : system.Confined log) (reached : System.Reachable deployment system)
    {row : OutboxRow} (member : row ∈ system.database.outbox) :
    Exists fun command => command ∈ system.handed ∧
      row.payload.correlationId = command.correlationId ∧
      row.payload.reply.Confined log command := by
  rcases reached.correspondence.outbox_built member with ⟨writes, eventId, now, executed, unmarked⟩
  have payload : row.payload = replyEnvelope writes.command writes.reply eventId :=
    congrArg OutboxRow.payload unmarked
  rw [payload]
  exact ⟨writes.command, (confined.executed writes executed).1, rfl,
    (confined.executed writes executed).2⟩

/-- The same for a message of the event stream. -/
theorem event (confined : system.Confined log) (reached : System.Reachable deployment system)
    {message : EventMessage} (member : message ∈ system.events) :
    Exists fun command => command ∈ system.handed ∧
      message.payload.correlationId = command.correlationId ∧
      message.payload.reply.Confined log command := by
  rcases reached.publication.backed message member with ⟨row, present, rfl⟩
  exact confined.outbox reached present

end System.Confined

end

end EmbeddedAlerts
