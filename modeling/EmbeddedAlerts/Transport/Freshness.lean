import EmbeddedAlerts.Library.Progress
import EmbeddedAlerts.Transport.Confinement
import EmbeddedAlerts.Transport.Deadline
import EmbeddedAlerts.Transport.Schema

namespace EmbeddedAlerts

/-!
# How recent a reply is

`process_command` reads the alerts somewhere between the delivery of a command
and its commit, and the reply is published at any time after that.  Other
requests create alerts all the while.  The table only grows, so what a reply
can have seen is bounded from both sides: every alert that was committed before
the first delivery of the command, and nothing but alerts that are there when
the reply is looked at.

Between these bounds the reply is the answer for one moment.  It is never put
together from several states of the table, however many consumers and
publishers run.
-/

/-- The result was read from one state of the table, at least as late as the
earlier one and not after the current one. -/
def OperationReply.ReadSince (earlier current : List AlertRow) (command : AsyncCommand)
    (reply : OperationReply) : Prop :=
  forall alerts, reply.result = some alerts ->
    Exists fun actor => Exists fun rows => command.ReadsAs actor ∧ earlier <+: rows ∧
      rows <+: current ∧ readAlerts rows actor = .ok alerts

def Stage.ReadSince (earlier current : List AlertRow) (command : AsyncCommand) : Stage -> Prop
  | .replying _ _ reply _ => reply.ReadSince earlier current command
  | .recording _ _ reply _ => reply.ReadSince earlier current command
  | .committing (some writes) => writes.reply.ReadSince earlier current command
  | _ => True

/-- Everything about one correlation was read since the earlier table. -/
structure System.ReadSince (earlier : List AlertRow) (correlation : Uuid) (system : System) :
    Prop where
  grown : earlier <+: system.database.alerts
  stages : forall session, session ∈ system.sessions ->
    session.command.correlationId = correlation ->
    session.stage.ReadSince earlier system.database.alerts session.command
  executed : forall writes, writes ∈ system.executed ->
    writes.command.correlationId = correlation ->
    writes.reply.ReadSince earlier system.database.alerts writes.command

section

variable {earlier current later : List AlertRow} {command : AsyncCommand} {correlation : Uuid}
  {deployment : Deployment} {system next : System} {action : Action}

theorem OperationReply.ReadSince.mono {reply : OperationReply}
    (read : reply.ReadSince earlier current command) (grows : current <+: later) :
    reply.ReadSince earlier later command := by
  intro alerts result
  rcases read alerts result with ⟨actor, rows, named, after, before, listed⟩
  exact ⟨actor, rows, named, after, before.trans grows, listed⟩

theorem Stage.ReadSince.mono {stage : Stage} (read : stage.ReadSince earlier current command)
    (grows : current <+: later) : stage.ReadSince earlier later command := by
  cases stage with
  | replying now row reply aborted => exact OperationReply.ReadSince.mono read grows
  | recording now row reply outbox => exact OperationReply.ReadSince.mono read grows
  | committing writes =>
      cases writes with
      | none => trivial
      | some writes => exact OperationReply.ReadSince.mono read grows
  | _ => trivial

/-- The table of alerts grows at its end. -/
theorem System.alerts_grow (taken : system.step deployment action = some next) :
    system.database.alerts <+: next.database.alerts := by
  by_cases creates : Exists fun actor => Exists fun input => Exists fun id => Exists fun instant =>
      action = .createAlert actor input id instant
  · rcases creates with ⟨actor, input, id, instant, rfl⟩
    rcases System.createAlert_cases taken with ⟨rows, alert, created, rfl⟩
    rcases (create_database_eq_ok_iff _ _ _ _ _ _ _).mp created with ⟨_, _, _, _, same⟩
    cases same
    exact List.prefix_append _ _
  · rw [System.step_alerts taken
      (fun actor input id instant same => creates ⟨actor, input, id, instant, same⟩)]

/-- The read sees the table as it stands. -/
theorem readReply_readSince (grown : earlier <+: current) {subject : Uuid}
    (parsed : Uuid.parseStr command.operation.actorSubject = some subject)
    (outcome : ReadOutcome) :
    (readReply current command ⟨subject, command.productTenant⟩ outcome).1.ReadSince
      earlier current command := by
  cases outcome with
  | answered =>
      unfold readReply
      cases listed : readAlerts current ⟨subject, command.productTenant⟩ with
      | ok alerts =>
          intro shown result
          cases result
          exact ⟨_, current, ⟨parsed, rfl⟩, grown, List.prefix_rfl, listed⟩
      | error failure =>
          intro shown result
          cases result
  | failed =>
      intro shown result
      cases result
  | timedOut =>
      intro shown result
      cases result

theorem Move.readSince {session : Session} {stage : Stage}
    (grown : earlier <+: system.database.alerts)
    (read : session.stage.ReadSince earlier system.database.alerts session.command)
    (move : System.Move deployment system session action stage) :
    stage.ReadSince earlier system.database.alerts session.command := by
  cases move with
  | begin _ => trivial
  | conflict _ _ _ _ _ => trivial
  | inserted _ _ => trivial
  | read _ parsed => exact readReply_readSince grown parsed _
  | enqueued before _ =>
      rw [before] at read
      exact read
  | recorded before =>
      rw [before] at read
      exact read
  | finished _ => trivial

namespace System.ReadSince

theorem advance (read : system.ReadSince earlier correlation) (session : Session) (stage : Stage)
    (moved : session.command.correlationId = correlation ->
      stage.ReadSince earlier system.database.alerts session.command) {other : Session}
    (present : other ∈ (system.advance session stage).sessions)
    (same : other.command.correlationId = correlation) :
    other.stage.ReadSince earlier system.database.alerts other.command := by
  rcases List.mem_cons.mp present with rfl | old
  · exact moved same
  · exact read.stages other (System.mem_of_mem_otherSessions old) same

theorem step (read : system.ReadSince earlier correlation)
    (holds : Correspondence deployment.postgres system)
    (taken : system.step deployment action = some next) : next.ReadSince earlier correlation := by
  have grows := System.alerts_grow taken
  have before : forall writes, writes ∈ system.executed ->
      writes.command.correlationId = correlation ->
      writes.reply.ReadSince earlier next.database.alerts writes.command :=
    fun writes member same => (read.executed writes member same).mono grows
  refine ⟨read.grown.trans grows, ?_, ?_⟩
  · rcases System.step_sessions taken with ⟨kept, _⟩ | ⟨_, _, _, started, _, _⟩ |
      ⟨session, stage, present, move, rfl⟩ | ⟨session, writes, present, committing, rfl⟩
    · exact fun other member same => (read.stages other (kept.subset member) same).mono grows
    · rw [started]
      intro other member same
      rcases List.mem_cons.mp member with rfl | old
      · trivial
      · exact (read.stages other old same).mono grows
    · exact fun other member same => read.advance session stage
        (fun own => Move.readSince read.grown (read.stages session present own) move) member same
    · exact fun other member same =>
        read.advance session .committed (fun _ => trivial) member same
  · rcases System.step_sessions taken with ⟨_, executed⟩ | ⟨_, _, _, _, _, executed⟩ |
      ⟨session, stage, present, move, rfl⟩ | ⟨session, writes, present, committing, rfl⟩
    · rw [executed]
      exact before
    · rw [executed]
      exact before
    · exact before
    · intro other member same
      rcases List.mem_append.mp member with old | last
      · exact read.executed other old same
      · rw [List.mem_singleton.mp last] at same ⊢
        have sound := holds.stages session present
        rw [committing] at sound
        rw [sound.2] at same ⊢
        have written := read.stages session present same
        rw [committing] at written
        exact written

end System.ReadSince

theorem System.alertIds_step (unique : (system.database.alerts.map AlertRow.id).Nodup)
    (taken : system.step deployment action = some next) :
    (next.database.alerts.map AlertRow.id).Nodup := by
  by_cases creates : Exists fun actor => Exists fun input => Exists fun id => Exists fun instant =>
      action = .createAlert actor input id instant
  · rcases creates with ⟨actor, input, id, instant, rfl⟩
    rcases System.createAlert_cases taken with ⟨rows, alert, created, rfl⟩
    rcases (create_database_eq_ok_iff _ _ _ _ _ _ _).mp created with ⟨_, rfl, fresh, _, same⟩
    cases same
    rw [List.map_append, List.nodup_append]
    refine ⟨unique, List.nodup_singleton _, ?_⟩
    intro old member new last
    rcases List.mem_map.mp member with ⟨row, present, rfl⟩
    rw [List.mem_singleton.mp last]
    exact fresh row present
  · rw [System.step_alerts taken
      (fun actor input id instant same => creates ⟨actor, input, id, instant, same⟩)]
    exact unique

theorem System.Reachable.alertIds_nodup (reached : System.Reachable deployment system) :
    (system.database.alerts.map AlertRow.id).Nodup := by
  induction reached with
  | start begun =>
      cases begun
      exact List.nodup_nil
  | step _ _ taken ih => exact System.alertIds_step ih taken

/-- A row is listed, or a hundred others of its owner come before it. -/
theorem listed_or_passed {rows : List AlertRow} (unique : (rows.map AlertRow.id).Nodup)
    {actor : VerifiedActor} {alerts : List AlertRule} (listed : readAlerts rows actor = .ok alerts)
    {row : AlertRow} (member : row ∈ rows) (owned : row.owned actor = true) :
    (Exists fun alert => alert ∈ alerts ∧ decodeAlert row = .ok alert) ∨
      directAlertsLimit ≤ (rows.filter (AlertRow.owned actor)).countP
        (Ranking.before AlertRow.order row) := by
  have mine : ((rows.filter (AlertRow.owned actor)).map AlertRow.id).Nodup :=
    unique.sublist (List.filter_sublist.map _)
  have ranked := Ranking.mem_top_iff AlertRow.order mine.of_map (order_separates mine)
    (List.mem_filter.mpr ⟨member, owned⟩) directAlertsLimit
  by_cases few : (rows.filter (AlertRow.owned actor)).countP
      (Ranking.before AlertRow.order row) < directAlertsLimit
  · exact Or.inl (Fallible.exists_of_mapM_ok listed (ranked.mpr few))
  · exact Or.inr (Nat.le_of_not_lt few)

/-- A reply on the event stream answers for one state of the table.  Every
alert of the actor that was committed while the request was neither worked on
nor recorded is in it, unless a hundred of the actor's alerts come before. -/
theorem published_reply_fresh (reached : System.Reachable deployment system)
    (idle : forall session, session ∈ system.sessions ->
      session.command.correlationId ≠ correlation)
    (unrecorded : forall row, row ∈ system.database.inbox -> row.correlationId ≠ correlation)
    {actions : List Action}
    (path : Runs.Path (System.step deployment) Runs.anyStep system actions next)
    {message : EventMessage} (published : message ∈ next.events)
    (same : message.payload.correlationId = correlation) {alerts : List AlertRule}
    (completed : message.payload.reply.result = some alerts) :
    Exists fun command => Exists fun actor => Exists fun rows =>
      (Exists fun index => Exists fun checkedAt =>
        next.GatePassed deployment index command checkedAt) ∧
      command.correlationId = correlation ∧ command.ReadsAs actor ∧
      system.database.alerts <+: rows ∧ rows <+: next.database.alerts ∧
      readAlerts rows actor = .ok alerts ∧
      forall row, row ∈ system.database.alerts -> row.owned actor = true ->
        (Exists fun alert => alert ∈ alerts ∧ decodeAlert row = .ok alert) ∨
          directAlertsLimit ≤ (rows.filter (AlertRow.owned actor)).countP
            (Ranking.before AlertRow.order row) := by
  have start : system.ReadSince system.database.alerts correlation := by
    refine ⟨List.prefix_rfl, fun session member own => absurd own (idle session member), ?_⟩
    intro writes member own
    have recorded := System.Reachable.correspondence reached
    rcases recorded.sound writes member with ⟨_, _, _, _, inbox, _⟩
    refine absurd ?_ (unrecorded writes.inbox ?_)
    · rw [inbox]
      exact own
    · rw [recorded.records.inbox]
      exact List.mem_map_of_mem member
  have step : forall state action next, (System.Reachable deployment state ∧
      state.ReadSince system.database.alerts correlation) -> Runs.anyStep state action ->
      state.step deployment action = some next -> (System.Reachable deployment next ∧
        next.ReadSince system.database.alerts correlation) :=
    fun _ _ _ holds _ taken => ⟨.step holds.1 trivial taken,
      holds.2.step (System.Reachable.correspondence holds.1) taken⟩
  rcases path.invariant step ⟨reached, start⟩ with ⟨later, read⟩
  rcases (System.Reachable.publication later).backed message published with ⟨row, stored, rfl⟩
  rcases (System.Reachable.correspondence later).outbox_built stored with
    ⟨writes, eventId, now, executed, unmarked⟩
  have payload : row.payload = replyEnvelope writes.command writes.reply eventId :=
    congrArg OutboxRow.payload unmarked
  have own : writes.command.correlationId = correlation := by
    rw [← same]
    exact (congrArg EventEnvelope.correlationId payload).symm
  have result : writes.reply.result = some alerts := by
    rw [← completed]
    exact (congrArg (fun envelope => envelope.reply.result) payload).symm
  rcases read.executed writes executed own alerts result with
    ⟨actor, rows, named, after, before, listed⟩
  refine ⟨writes.command, actor, rows, (System.Reachable.gated later).2 writes executed, own,
    named, after, before, listed, ?_⟩
  intro row member owned
  have unique := (System.Reachable.alertIds_nodup later).sublist (before.sublist.map AlertRow.id)
  exact listed_or_passed unique listed (after.subset member) owned

end

/-- An alert is created, and its owner asks for the list. -/
def askingRun : List Action :=
  [.tick 2000000000000, .createAlert ⟨sampleId 1, "embedded-alerts"⟩ burstInput (sampleId 0xd1) ⟨1⟩,
    .publishCommand firstCommand.payload]

/-- The request is answered and the reply published. -/
def answeringRun : List Action :=
  handling 0 0 0xc1 ++ [.selectPending 0, .publishReply 0]

theorem askingRun_answered : ((sampleRun .cast askingRun).bind (fun system =>
    (Runs.execute (System.step (sampleDeployment .cast)) Runs.unchecked system answeringRun).map
      (fun next => ((system.sessions.length, system.database.inbox.length,
        system.database.alerts.map AlertRow.id), next.events.map (fun message =>
          (message.payload.correlationId, message.payload.reply.result.map
            (fun alerts => alerts.map AlertRule.id))))))) =
    some ((0, 0, [sampleId 0xd1]), [(sampleId 0xb1, some [sampleId 0xd1])]) := by
  decide +kernel

theorem askingRun_fresh : Exists fun system : System => Exists fun next : System =>
    system.database.alerts.map AlertRow.id = [sampleId 0xd1] ∧
    Exists fun message => message ∈ next.events ∧
      Exists fun alerts => message.payload.reply.result = some alerts ∧
        Exists fun rows => Exists fun actor => system.database.alerts <+: rows ∧
          rows <+: next.database.alerts ∧ readAlerts rows actor = .ok alerts := by
  rcases Option.bind_eq_some_iff.mp askingRun_answered with ⟨system, asked, shown⟩
  rcases Option.map_eq_some_iff.mp shown with ⟨next, answered, shown⟩
  rcases Prod.mk.inj shown with ⟨before, after⟩
  rcases Prod.mk.inj before with ⟨sessions, before⟩
  rcases Prod.mk.inj before with ⟨inbox, alerts⟩
  have idle := List.length_eq_zero_iff.mp sessions
  have empty := List.length_eq_zero_iff.mp inbox
  rcases List.map_eq_singleton_iff.mp after with ⟨message, events, shown⟩
  rcases Prod.mk.inj shown with ⟨correlation, result⟩
  rcases Option.map_eq_some_iff.mp result with ⟨listed, completed, _⟩
  have published : message ∈ next.events := by
    rw [events]
    exact List.mem_singleton_self _
  rcases published_reply_fresh (sampleRun_reached asked)
      (fun session member => by rw [idle] at member; cases member)
      (fun row member => by rw [empty] at member; cases member) (Runs.Path.execute answered)
      published correlation completed with
    ⟨_, actor, rows, _, _, _, after, before, read, _⟩
  exact ⟨system, next, alerts, message, published, listed, completed, rows, actor, after, before,
    read⟩

end EmbeddedAlerts
