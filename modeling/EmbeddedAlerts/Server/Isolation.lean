import EmbeddedAlerts.Server.Service
import EmbeddedAlerts.Transport.Confinement

namespace EmbeddedAlerts

/-!
# Isolation of owners

Whatever a client is shown, on any transport and after any run, was created by
the actor that was authorized for it.  And the answers to an actor are the
same whatever the alerts of everybody else.

The first half is an invariant of the server: the store, the events on their
way and the events sent are all in the log of creates under their own owner.
The second half needs no run, because every read applies the ownership
predicate before the order and the limit.
-/

/-! ## The invariant -/

structure Isolated (config : ServiceConfig) (server : Server) : Prop where
  transport : System.Reachable config.deployment server.transport
  within : server.store.Within server.created
  confined : server.transport.Confined server.created
  creating : forall event, event ∈ server.creating ->
    (event.owner, event.alert) ∈ server.created
  events : forall event, event ∈ server.events -> (event.owner, event.alert) ∈ server.created
  sockets : forall socket, socket ∈ server.sockets ->
    socket.request.actor config.policy readScope = .ok socket.actor ∧
      forall event, event ∈ socket.sent -> (socket.actor, event.alert) ∈ server.created

theorem isolated_initial (config : ServiceConfig) (backend : Backend) :
    Isolated config (Server.initial backend) where
  transport := .start rfl
  within := by cases backend <;> intro row member <;> cases member
  confined := confined_initial
  creating := by intro event member; cases member
  events := by intro event member; cases member
  sockets := by intro socket member; cases member

namespace Isolated

variable {config : ServiceConfig} {server next : Server}

theorem table (isolated : Isolated config server) (database : server.backend = .database) :
    (AlertStore.database server.transport.database.alerts).Within server.created := by
  have stored := isolated.within
  rw [Server.store, database] at stored
  exact stored

theorem runTransport (isolated : Isolated config server) {action : Action}
    (taken : server.runTransport config action = some next) : Isolated config next := by
  rcases Server.runTransport_cases taken with ⟨database, other, transport, stepped, rfl⟩
  have within := isolated.table database
  refine ⟨.step isolated.transport trivial stepped, ?_, isolated.confined.step within stepped,
    isolated.creating, isolated.events, isolated.sockets⟩
  rw [Server.store, database]
  have same := System.step_alerts stepped other
  exact same ▸ within

/-- The log grows by one entry and nothing else is touched. -/
theorem create (isolated : Isolated config server) {request : Request} {input : CreateAlertRule}
    {id : Uuid} {now : DateTime}
    (taken : server.create config request input id now = some next) : Isolated config next := by
  rcases Server.create_cases taken with ⟨store, event, _, stored, rfl⟩
  have grows : server.created ⊆ server.created ++ [(event.owner, event.alert)] :=
    List.subset_append_left _ _
  have same := server.withStore_frame store
  rcases Server.withStore_create config stored with ⟨held, change⟩
  refine ⟨?_, ?_, ?_, ?_, ?_, ?_⟩
  · rcases change with ⟨_, stepped⟩ | kept
    · exact .step isolated.transport trivial stepped
    · exact kept ▸ isolated.transport
  · have within := isolated.within.create stored
    rw [← held] at within
    exact within
  · rcases change with ⟨database, stepped⟩ | kept
    · exact (isolated.confined.step (isolated.table database) stepped).mono grows
    · exact kept ▸ isolated.confined.mono grows
  · intro other member
    rcases List.mem_append.mp member with earlier | last
    · exact grows (isolated.creating other earlier)
    · rw [List.mem_singleton.mp last]
      exact List.mem_append_right _ (List.mem_singleton_self _)
  · intro other member
    exact grows (isolated.events other (same.1 ▸ member))
  · intro socket member
    rcases isolated.sockets socket (same.2 ▸ member) with ⟨authorized, shown⟩
    exact ⟨authorized, fun sent delivered => grows (shown sent delivered)⟩

theorem announce (isolated : Isolated config server) {index : Nat}
    (taken : server.announce index = some next) : Isolated config next := by
  rcases Server.announce_cases taken with ⟨sent, present, rfl⟩
  refine ⟨isolated.transport, isolated.within, isolated.confined, ?_, ?_, isolated.sockets⟩
  · intro event member
    exact isolated.creating event (List.mem_of_mem_eraseIdx member)
  · intro event member
    rcases List.mem_append.mp member with earlier | last
    · exact isolated.events event earlier
    · rw [List.mem_singleton.mp last]
      exact isolated.creating sent present

/-- Sockets may change as long as each keeps its request and its actor, and
has sent nothing new but events of that actor. -/
theorem changeSockets (isolated : Isolated config server) {sockets : List Socket}
    (kept : forall new, new ∈ sockets -> Exists fun old => old ∈ server.sockets ∧
      new.request = old.request ∧ new.actor = old.actor ∧
      forall event, event ∈ new.sent ->
        event ∈ old.sent ∨ event ∈ server.events ∧ event.owner = old.actor) :
    Isolated config { server with sockets := sockets } := by
  refine ⟨isolated.transport, isolated.within, isolated.confined, isolated.creating,
    isolated.events, ?_⟩
  intro new member
  rcases kept new member with ⟨old, present, request, actor, sent⟩
  rcases isolated.sockets old present with ⟨authorized, shown⟩
  rw [request, actor]
  refine ⟨authorized, fun event delivered => ?_⟩
  rcases sent event delivered with earlier | ⟨broadcast, owner⟩
  · exact shown event earlier
  · rw [← owner]
    exact isolated.events event broadcast

theorem replaceSocket (isolated : Isolated config server) {index : Nat} {old new : Socket}
    (found : server.sockets[index]? = some old) (request : new.request = old.request)
    (actor : new.actor = old.actor)
    (sent : forall event, event ∈ new.sent ->
      event ∈ old.sent ∨ event ∈ server.events ∧ event.owner = old.actor) :
    Isolated config { server with sockets := server.sockets.set index new } := by
  apply isolated.changeSockets
  intro socket member
  rcases List.mem_or_eq_of_mem_set member with kept | rfl
  · exact ⟨socket, kept, rfl, rfl, fun event shown => Or.inl shown⟩
  · exact ⟨old, List.mem_of_getElem? found, request, actor, sent⟩

theorem receive (isolated : Isolated config server) {index : Nat} {sends : Bool}
    (taken : server.receive index sends = some next) : Isolated config next := by
  rcases Server.receive_cases taken with
    ⟨socket, position, found, _, ⟨_, rfl⟩ | ⟨event, _, received, rfl⟩⟩
  · exact isolated.replaceSocket found rfl rfl (fun event member => Or.inl member)
  · have broadcast := List.mem_of_getElem? received
    unfold Socket.handle
    split
    · next visible =>
        split
        · refine isolated.replaceSocket found rfl rfl (fun other member => ?_)
          rcases List.mem_append.mp member with earlier | last
          · exact Or.inl earlier
          · rw [List.mem_singleton.mp last]
            exact Or.inr ⟨broadcast, (event.visible_iff socket.actor).mp visible⟩
        · exact isolated.replaceSocket found rfl rfl (fun other member => Or.inl member)
    · exact isolated.replaceSocket found rfl rfl (fun other member => Or.inl member)

theorem step (isolated : Isolated config server) {action : ServerAction}
    (taken : server.step config action = some next) : Isolated config next := by
  cases action with
  | transport action => exact isolated.runTransport taken
  | create request input id now => exact isolated.create taken
  | announce index => exact isolated.announce taken
  | abandon index =>
      cases taken
      refine ⟨isolated.transport, isolated.within, isolated.confined, ?_, isolated.events,
        isolated.sockets⟩
      exact fun event member => isolated.creating event (List.mem_of_mem_eraseIdx member)
  | upgrade request =>
      rcases Server.upgrade_cases taken with ⟨actor, authorized, rfl⟩
      refine ⟨isolated.transport, isolated.within, isolated.confined, isolated.creating,
        isolated.events, ?_⟩
      intro socket member
      rcases List.mem_append.mp member with earlier | last
      · exact isolated.sockets socket earlier
      · rw [List.mem_singleton.mp last]
        exact ⟨authorized, fun event shown => by cases shown⟩
  | subscribe index =>
      rcases Server.subscribe_cases taken with ⟨socket, found, _, rfl⟩
      exact isolated.replaceSocket found rfl rfl (fun event member => Or.inl member)
  | receive index sends => exact isolated.receive taken
  | close index =>
      cases taken
      apply isolated.changeSockets
      intro socket member
      rcases List.mem_iff_getElem?.mp member with ⟨position, found⟩
      rw [List.getElem?_modify] at found
      rcases Option.map_eq_some_iff.mp found with ⟨old, present, same⟩
      refine ⟨old, List.mem_of_getElem? present, ?_⟩
      rw [← same]
      split <;> exact ⟨rfl, rfl, fun event shown => Or.inl shown⟩
  | restart =>
      cases taken
      have closed : Isolated config { server with
          sockets := server.sockets.map (fun socket => { socket with stage := .closed }) } := by
        apply isolated.changeSockets
        intro socket member
        rcases List.mem_map.mp member with ⟨old, present, rfl⟩
        exact ⟨old, present, rfl, rfl, fun event shown => Or.inl shown⟩
      refine ⟨closed.transport, ?_, closed.confined, ?_, closed.events, closed.sockets⟩
      · cases backend : server.backend with
        | database => exact isolated.table backend
        | fallback =>
            intro entry member
            cases member
      · intro event member
        cases member

end Isolated

theorem Server.Reachable.isolated {config : ServiceConfig} {server : Server}
    (reached : Server.Reachable config server) : Isolated config server :=
  Runs.Reachable.invariant
    (fun _ begun => by rcases begun with ⟨backend, rfl⟩; exact isolated_initial config backend)
    (fun _ _ _ isolated _ taken => isolated.step taken) reached

/-! ## Independence of other owners -/

/-- Equal replies for the table, with equal alerts up to order for the map. -/
def AlertStore.SameReplies (store : AlertStore) (left right : OperationReply) : Prop :=
  left.operationId = right.operationId ∧ left.status = right.status ∧ left.error = right.error ∧
    match store.backend, left.result, right.result with
    | .fallback, some leftAlerts, some rightAlerts => leftAlerts.Perm rightAlerts
    | _, _, _ => left.result = right.result

theorem AlertStore.SameReplies.refl (store : AlertStore) (reply : OperationReply) :
    store.SameReplies reply reply := by
  refine ⟨rfl, rfl, rfl, ?_⟩
  split
  · next left right first second =>
      cases first.symm.trans second
      exact List.Perm.refl _
  · rfl

namespace AlertStore.SameFor

variable {actor : VerifiedActor} {left right : AlertStore}

theorem listReply (same : left.SameFor actor right) (operationId : Uuid) (outcome : ReadOutcome) :
    left.SameReplies (listReply left operationId actor outcome)
      (listReply right operationId actor outcome) := by
  cases outcome with
  | answered =>
      cases same with
      | database unique _ owned =>
          simp only [EmbeddedAlerts.listReply, AlertStore.list, readAlerts_sameFor unique owned]
          exact SameReplies.refl _ _
      | fallback _ _ owned => exact ⟨rfl, rfl, rfl, owned.map Prod.snd⟩
  | failed => exact SameReplies.refl _ _
  | timedOut => exact SameReplies.refl _ _

theorem executeTcpOperation (same : left.SameFor actor right) {policy : AuthPolicy}
    {answer : String -> AuthAnswer} {decode : List UInt8 -> Option AuthenticatedOperation}
    {frame : List UInt8} {clock : Option UInt64} {operationId : Uuid}
    (admitted : authorizeOperation policy answer decode frame clock = .ok (operationId, actor))
    (outcome : ReadOutcome) :
    left.SameReplies (executeTcpOperation left policy answer decode frame clock outcome)
      (executeTcpOperation right policy answer decode frame clock outcome) := by
  simp only [EmbeddedAlerts.executeTcpOperation, admitted]
  exact same.listReply operationId outcome

end AlertStore.SameFor

/-- The read of a command leads to the same stage whatever the other rows of
the table. -/
theorem System.readAlerts_sameFor {actor : VerifiedActor} {system : System}
    {rows : List AlertRow}
    (same : AlertStore.SameFor actor (.database system.database.alerts) (.database rows))
    {consumer : Nat} {session : Session} (found : system.session consumer = some session)
    (subject : Uuid.parseStr session.command.operation.actorSubject = some actor.subject)
    (tenant : session.command.productTenant = actor.productTenant) (outcome : ReadOutcome) :
    (System.readAlerts consumer outcome
        { system with database := { system.database with alerts := rows } }).map System.sessions =
      (system.readAlerts consumer outcome).map System.sessions := by
  have read : readReply rows session.command
        ⟨actor.subject, session.command.productTenant⟩ outcome =
      readReply system.database.alerts session.command
        ⟨actor.subject, session.command.productTenant⟩ outcome := by
    cases same with
    | database unique _ owned =>
        rw [tenant]
        cases outcome with
        | answered => simp only [readReply, EmbeddedAlerts.readAlerts_sameFor unique owned]
        | failed => rfl
        | timedOut => rfl
  have other : System.session { system with
      database := { system.database with alerts := rows } } consumer = some session := found
  unfold System.readAlerts
  rw [other, found]
  dsimp only
  rw [subject]
  cases session.stage with
  | reading now row =>
      simp only [read, Option.map_some]
      rfl
  | _ => rfl

/-! ## Both halves together -/

/-- After any run, every alert in an HTTP answer, in a TCP reply, in a
WebSocket message or in a JetStream reply was created by the actor authorized
for it.  And two stores that agree on the alerts of an actor answer it alike,
for the map up to the order of a list. -/
theorem owner_isolation (config : ServiceConfig) :
    (forall server, Server.Reachable config server ->
      (forall request alerts, listAlerts config.policy server.store request = .ok alerts ->
        Exists fun actor => request.actor config.policy readScope = .ok actor ∧
          forall alert, alert ∈ alerts -> CreatedBy server.created actor alert) ∧
      (forall request id alert, getAlert config.policy server.store request id = .ok alert ->
        Exists fun actor => request.actor config.policy readScope = .ok actor ∧
          CreatedBy server.created actor alert) ∧
      (forall answer frame clock outcome alerts,
        (executeTcpOperation server.store config.policy answer config.decodeOperation frame clock
          outcome).result = some alerts ->
        Exists fun operation => Exists fun token => Exists fun actor =>
          config.decodeOperation frame = some operation ∧
          stripPrefix "Bearer " operation.authorization = some token ∧
          verifyToken config.policy answer token readScope = .ok actor ∧
          forall alert, alert ∈ alerts -> CreatedBy server.created actor alert) ∧
      (forall socket, socket ∈ server.sockets ->
        socket.request.actor config.policy readScope = .ok socket.actor ∧
        forall event, event ∈ socket.sent -> CreatedBy server.created socket.actor event.alert) ∧
      (forall payload : EventEnvelope,
        payload ∈ server.transport.database.outbox.map OutboxRow.payload ∨
          payload ∈ server.transport.events.map EventMessage.payload ->
        Exists fun command => command ∈ server.transport.handed ∧
          payload.correlationId = command.correlationId ∧
          forall alerts, payload.reply.result = some alerts -> forall alert, alert ∈ alerts ->
            Exists fun subject => Uuid.parseStr command.operation.actorSubject = some subject ∧
              CreatedBy server.created ⟨subject, command.productTenant⟩ alert)) ∧
    (forall actor left right, AlertStore.SameFor actor left right ->
      left.SameAnswers (left.list actor) (right.list actor) ∧
      (forall id, left.get actor id = right.get actor id) ∧
      (forall answer frame clock operationId outcome,
        authorizeOperation config.policy answer config.decodeOperation frame clock =
          .ok (operationId, actor) ->
        left.SameReplies
          (executeTcpOperation left config.policy answer config.decodeOperation frame clock outcome)
          (executeTcpOperation right config.policy answer config.decodeOperation frame clock
            outcome))) ∧
    (forall actor (system : System) rows,
      AlertStore.SameFor actor (.database system.database.alerts) (.database rows) ->
      forall consumer session outcome, system.session consumer = some session ->
        Uuid.parseStr session.command.operation.actorSubject = some actor.subject ->
        session.command.productTenant = actor.productTenant ->
        (System.readAlerts consumer outcome
            { system with database := { system.database with alerts := rows } }).map
          System.sessions = (system.readAlerts consumer outcome).map System.sessions) := by
  refine ⟨?_, ?_, ?_⟩
  · intro server reached
    have isolated := reached.isolated
    refine ⟨?_, ?_, ?_, ?_, ?_⟩
    · intro request alerts done
      rcases listAlerts_ok done with ⟨actor, authorized, listed⟩
      exact ⟨actor, authorized, fun alert member => isolated.within.list listed member⟩
    · intro request id alert done
      rcases getAlert_ok done with ⟨actor, authorized, fetched⟩
      exact ⟨actor, authorized, isolated.within.get fetched⟩
    · intro answer frame clock outcome alerts result
      rcases executeTcpOperation_result result with ⟨operationId, actor, admitted, listed⟩
      rcases authorizeOperation_ok admitted with ⟨operation, token, decoded, stripped, verified⟩
      exact ⟨operation, token, actor, decoded, stripped, verified,
        fun alert member => isolated.within.list listed member⟩
    · intro socket member
      rcases isolated.sockets socket member with ⟨authorized, shown⟩
      exact ⟨authorized, fun event sent => ⟨event.alert, shown event sent, Or.inl rfl⟩⟩
    · intro payload replied
      rcases replied with committed | published
      · rcases List.mem_map.mp committed with ⟨row, member, rfl⟩
        exact isolated.confined.outbox isolated.transport member
      · rcases List.mem_map.mp published with ⟨message, member, rfl⟩
        exact isolated.confined.event isolated.transport member
  · intro actor left right same
    exact ⟨same.list, same.get, fun answer frame clock operationId outcome admitted =>
      same.executeTcpOperation admitted outcome⟩
  · intro actor system rows same consumer session outcome found subject tenant
    exact System.readAlerts_sameFor same found subject tenant outcome

/-! ## Two owners, in a concrete service -/

def samplePolicy : AuthPolicy where
  issuer := "https://identity.example"
  audience := "embedded-alerts"
  authorizedClient := "embedded-alerts-web"
  providerTenant := "provider-1"
  productTenant := "embedded-alerts"

/-- A request with a token that introspects as an active user. -/
def sampleRequest (actor : Nat) : Request where
  authorization := [Text.asBytes "Bearer sample-access-token"]
  answer := fun _ => ⟨.ok {
    active := true
    sub := some (sampleId actor).toString
    sid := some "session-1"
    iss := some samplePolicy.issuer
    aud := some samplePolicy.audience
    azp := some samplePolicy.authorizedClient
    providerTenant := some samplePolicy.providerTenant
    exp := some 2000000300
    nbf := some 1999999700
    hasScope := fun _ => true
    rest := [("tenant_id", .string samplePolicy.productTenant),
      ("application_id", .string samplePolicy.authorizedClient), ("actor_kind", .string "user")] },
    some 2000000000⟩
  reachable := true

def sampleService : ServiceConfig where
  deployment := sampleDeployment .cast
  policy := samplePolicy
  decodeOperation := fun _ => none

/-- Two owners create an alert each while a socket of the first is open. -/
def twoOwners : List ServerAction :=
  [.upgrade (sampleRequest 1), .subscribe 0,
    .create (sampleRequest 1) burstInput (sampleId 0xd1) ⟨2000000000 * 10 ^ 9⟩,
    .create (sampleRequest 2) burstInput (sampleId 0xd2) ⟨2000000001 * 10 ^ 9⟩,
    .announce 1, .announce 0, .receive 0 true, .receive 0 true]

def sampleServer (backend : Backend) : Option Server :=
  Runs.execute (Server.step sampleService) Runs.unchecked (Server.initial backend) twoOwners

theorem twoOwners_shown : (sampleServer .database).map (fun server =>
      (server.created.map (fun entry => (entry.1.subject, entry.2.id)),
        server.sockets.map (fun socket => socket.sent.map (fun event => event.alert.id)),
        match listAlerts samplePolicy server.store (sampleRequest 1) with
        | .ok alerts => alerts.map AlertRule.id
        | .error _ => [])) =
    some ([(sampleId 1, sampleId 0xd1), (sampleId 2, sampleId 0xd2)], [[sampleId 0xd1]],
      [sampleId 0xd1]) := by
  decide +kernel

/-- The stored row of one owner's alert. -/
def sampleRow (owner : Nat) : AlertRow :=
  AlertStore.alertRow ⟨sampleId owner, "embedded-alerts"⟩ (burstAlert burstInput owner)

theorem sampleRows_sameFor : AlertStore.SameFor ⟨sampleId 1, "embedded-alerts"⟩
    (.database [sampleRow 1, sampleRow 2]) (.database [sampleRow 1]) :=
  .database (by decide) (by decide) (List.Perm.of_eq rfl)

theorem twoOwners_isolated :
    (Exists fun server => Server.Reachable sampleService server ∧
      (Exists fun alerts => listAlerts samplePolicy server.store (sampleRequest 1) = .ok alerts ∧
        alerts.map AlertRule.id = [sampleId 0xd1] ∧
        Exists fun actor => (sampleRequest 1).actor samplePolicy readScope = .ok actor ∧
          forall alert, alert ∈ alerts -> CreatedBy server.created actor alert) ∧
      (Exists fun socket => socket ∈ server.sockets ∧
        socket.sent.map (fun event => event.alert.id) = [sampleId 0xd1] ∧
        forall event, event ∈ socket.sent -> CreatedBy server.created socket.actor event.alert)) ∧
    (AlertStore.database [sampleRow 1, sampleRow 2]).SameAnswers
      ((AlertStore.database [sampleRow 1, sampleRow 2]).list ⟨sampleId 1, "embedded-alerts"⟩)
      ((AlertStore.database [sampleRow 1]).list ⟨sampleId 1, "embedded-alerts"⟩) := by
  constructor
  · rcases Option.map_eq_some_iff.mp twoOwners_shown with ⟨server, done, shown⟩
    have reached : Server.Reachable sampleService server :=
      Runs.Reachable.execute (fun _ _ _ => trivial) (.start ⟨.database, rfl⟩) done
    have isolation := (owner_isolation sampleService).1 server reached
    rcases Prod.mk.inj shown with ⟨_, shown⟩
    rcases Prod.mk.inj shown with ⟨sockets, listed⟩
    refine ⟨server, reached, ?_, ?_⟩
    · split at listed
      · next alerts answered =>
          exact ⟨alerts, answered, listed, isolation.1 (sampleRequest 1) alerts answered⟩
      · cases listed
    · have member : [sampleId 0xd1] ∈ server.sockets.map
          (fun socket => socket.sent.map (fun event => event.alert.id)) := by
        rw [sockets]
        exact List.mem_singleton_self _
      rcases List.mem_map.mp member with ⟨socket, present, sent⟩
      exact ⟨socket, present, sent, (isolation.2.2.2.1 socket present).2⟩
  · exact ((owner_isolation sampleService).2.1 _ _ _ sampleRows_sameFor).1

end EmbeddedAlerts
