import EmbeddedAlerts.Auth.Specification
import EmbeddedAlerts.Server.Stream

namespace EmbeddedAlerts

/-!
# Sessions and the lifetime of their token

A WebSocket session is authorized when its request is upgraded.  The loop that
follows holds the verified actor and never looks at the token or at the clock
again.  The claims of the token fix everything that the authorization checks
except the time, so from the upgrade on there is one way in which the same
authorization could fail: the token expires while the session runs.

The runs of this module are those of the server with a clock beside it.  The
clock may advance between any two steps, authorizations read it, and each event
that a session sends is recorded together with the time of the step.
-/

/-! ## The server with a clock -/

/-- The answer of the introspection comes from outside, its time from the
clock. -/
def Request.timed (request : Request) (clock : Nat) : Request :=
  { request with answer := fun token => ⟨(request.answer token).claims, some clock⟩ }

def StreamAction.timed (clock : Nat) : StreamAction -> StreamAction
  | .server (.upgrade request) => .server (.upgrade (request.timed clock))
  | .server (.create request input id now) =>
      .server (.create (request.timed clock) input id now)
  | action => action

/-- `clock` counts seconds.  `sends` lists for each session what it has sent
and when; no step of the code reads it. -/
structure TimedServer where
  clock : Nat
  server : Server
  sends : Nat -> List (ScopedAlertEvent × Nat)

inductive TimedAction where
  | advance (seconds : Nat)
  | move (action : StreamAction)

/-- What the session at an index has sent in one step. -/
def appendedSends (before after : Server) (index : Nat) : List ScopedAlertEvent :=
  match before.sockets[index]?, after.sockets[index]? with
  | some old, some new => new.sent.drop old.sent.length
  | _, _ => []

def TimedServer.step (config : ServiceConfig) (timed : TimedServer) :
    TimedAction -> Option TimedServer
  | .advance seconds => some { timed with clock := timed.clock + seconds }
  | .move action =>
      (timed.server.streamStep config (action.timed timed.clock)).map (fun next =>
        ⟨timed.clock, next, fun index => timed.sends index ++
          (appendedSends timed.server next index).map (fun event => (event, timed.clock))⟩)

/-- Reachable from an empty store of either kind, started at any time. -/
def TimedServer.Reachable (config : ServiceConfig) : TimedServer -> Prop :=
  Runs.Reachable (TimedServer.step config)
    (fun timed => (Exists fun backend => timed.server = Server.initial backend) ∧
      forall index, timed.sends index = []) Runs.anyStep

/-! ## What a move appends -/

/-- A session's list of sent events only grows, and by events of its actor. -/
theorem Socket.Moves.appended {events : List ScopedAlertEvent} {socket moved : Socket}
    (moves : socket.Moves events moved) :
    Exists fun added => moved.sent = socket.sent ++ added ∧
      forall event, event ∈ added -> event.visible socket.actor = true := by
  cases moves with
  | stays => exact ⟨[], (List.append_nil _).symm, fun _ impossible => by cases impossible⟩
  | subscribes _ => exact ⟨[], (List.append_nil _).symm, fun _ impossible => by cases impossible⟩
  | closes => exact ⟨[], (List.append_nil _).symm, fun _ impossible => by cases impossible⟩
  | @receives position event sends _ _ =>
      unfold Socket.handle
      split
      · rename_i visible
        split
        · refine ⟨[event], rfl, ?_⟩
          intro other member
          rw [List.mem_singleton.mp member]
          exact visible
        · exact ⟨[], (List.append_nil _).symm, fun _ impossible => by cases impossible⟩
      · exact ⟨[], (List.append_nil _).symm, fun _ impossible => by cases impossible⟩

/-- A session keeps its request. -/
theorem Socket.Moves.request {events : List ScopedAlertEvent} {socket moved : Socket}
    (moves : socket.Moves events moved) : moved.request = socket.request := by
  cases moves with
  | stays => rfl
  | subscribes _ => rfl
  | closes => rfl
  | @receives position event sends _ _ =>
      unfold Socket.handle
      split
      · split
        · rfl
        · rfl
      · rfl

/-! ## Credentials of the open sessions -/

/-- The session was authorized at that time, by the introspection of the token
that its request presents. -/
def Socket.Opened (policy : AuthPolicy) (socket : Socket) (openedAt : Nat) : Prop :=
  Exists fun token => Exists fun claims =>
    bearerFromHeaders socket.request.authorization = .ok token ∧
    socket.request.answer token = ⟨.ok claims, some openedAt⟩ ∧
    authorizeIntrospection claims policy readScope openedAt = .ok socket.actor

/-- A request whose answers carry the clock is authorized on that clock. -/
theorem opened_of_actor {policy : AuthPolicy} {request : Request} {actor : VerifiedActor}
    {clock : Nat} {stage : SocketStage} {sent : List ScopedAlertEvent}
    (authorized : (request.timed clock).actor policy readScope = .ok actor) :
    Socket.Opened policy ⟨request.timed clock, actor, stage, sent⟩ clock := by
  unfold Request.actor at authorized
  split at authorized
  · rename_i found verified
    cases authorized
    rcases (Fallible.bind_eq_ok_iff _ _ _).mp verified with ⟨token, bearer, verified⟩
    rcases claims_of_verifyToken verified with ⟨claims, answered, granted⟩
    refine ⟨token, claims, bearer, ?_, granted⟩
    rw [← answered]
    rfl
  · cases authorized

/-- The log of a session is what it has sent, and its times lie between the
upgrade and now. -/
structure SessionLog (policy : AuthPolicy) (clock : Nat) (socket : Socket)
    (sends : List (ScopedAlertEvent × Nat)) : Prop where
  complete : sends.map Prod.fst = socket.sent
  credential : Exists fun openedAt => openedAt ≤ clock ∧ socket.Opened policy openedAt ∧
    forall entry, entry ∈ sends -> openedAt ≤ entry.2 ∧ entry.2 ≤ clock ∧
      entry.1.visible socket.actor = true

theorem SessionLog.later {policy : AuthPolicy} {clock seconds : Nat} {socket : Socket}
    {sends : List (ScopedAlertEvent × Nat)} (log : SessionLog policy clock socket sends) :
    SessionLog policy (clock + seconds) socket sends where
  complete := log.complete
  credential := by
    rcases log.credential with ⟨openedAt, before, credential, entries⟩
    refine ⟨openedAt, Nat.le_trans before (Nat.le_add_right _ _), credential, ?_⟩
    intro entry member
    rcases entries entry member with ⟨after, until_, visible⟩
    exact ⟨after, Nat.le_trans until_ (Nat.le_add_right _ _), visible⟩

/-- A move of the session extends its log by what the move appends. -/
theorem SessionLog.moves {policy : AuthPolicy} {clock : Nat} {socket moved : Socket}
    {events : List ScopedAlertEvent} {sends : List (ScopedAlertEvent × Nat)}
    (log : SessionLog policy clock socket sends) (moves : socket.Moves events moved) :
    SessionLog policy clock moved (sends ++
      (moved.sent.drop socket.sent.length).map (fun event => (event, clock))) := by
  rcases moves.appended with ⟨added, extended, visible⟩
  have dropped : moved.sent.drop socket.sent.length = added := by
    rw [extended, List.drop_left]
  rw [dropped]
  constructor
  · rw [List.map_append, log.complete, List.map_map, extended]
    congr 1
    exact List.map_id added
  · rcases log.credential with ⟨openedAt, before, ⟨token, claims, bearer, answered, granted⟩, entries⟩
    refine ⟨openedAt, before, ⟨token, claims, ?_, ?_, ?_⟩, ?_⟩
    · rw [moves.request]
      exact bearer
    · rw [moves.request]
      exact answered
    · rw [moves.actor]
      exact granted
    · intro entry member
      rw [moves.actor]
      rcases List.mem_append.mp member with earlier | new
      · exact entries entry earlier
      · rcases List.mem_map.mp new with ⟨event, present, rfl⟩
        exact ⟨before, Nat.le_refl _, visible event present⟩

/-- A fresh session has sent nothing. -/
theorem sessionLog_fresh {policy : AuthPolicy} {request : Request} {actor : VerifiedActor}
    {clock : Nat} (authorized : (request.timed clock).actor policy readScope = .ok actor) :
    SessionLog policy clock ⟨request.timed clock, actor, .upgraded, []⟩ [] where
  complete := rfl
  credential := ⟨clock, Nat.le_refl _, opened_of_actor authorized, fun _ impossible => by
    cases impossible⟩

/-- Every session has its log, and nobody else has one. -/
structure TimedServer.Logged (config : ServiceConfig) (timed : TimedServer) : Prop where
  absent : forall index, timed.server.sockets[index]? = none -> timed.sends index = []
  sessions : forall index socket, timed.server.sockets[index]? = some socket ->
    SessionLog config.policy timed.clock socket (timed.sends index)

/-- Only an upgrade makes use of the clock that it is given. -/
theorem StreamAction.timed_upgrade {action : StreamAction} {clock : Nat} {request : Request}
    (same : action.timed clock = .server (.upgrade request)) :
    Exists fun original : Request => request = original.timed clock := by
  unfold StreamAction.timed at same
  split at same
  · cases same
    exact ⟨_, rfl⟩
  · cases same
  · rename_i other _
    cases other request same

theorem TimedServer.Logged.step {config : ServiceConfig} {timed next : TimedServer}
    {action : TimedAction} (logged : timed.Logged config)
    (taken : timed.step config action = some next) : next.Logged config := by
  cases action with
  | advance seconds =>
      cases taken
      exact ⟨logged.absent, fun index socket found => (logged.sessions index socket found).later⟩
  | move action =>
      rcases Option.map_eq_some_iff.mp taken with ⟨server, moved, rfl⟩
      constructor
      · intro index absent
        cases before : timed.server.sockets[index]? with
        | none =>
            dsimp only
            rw [logged.absent index before, appendedSends, before]
            rfl
        | some socket =>
            rcases Server.streamStep_socket moved before with ⟨_, _, there, _, _⟩
            rw [absent] at there
            cases there
      · intro index socket found
        cases before : timed.server.sockets[index]? with
        | none =>
            rcases Server.streamStep_added moved before found with
              ⟨request, actor, upgraded, authorized, rfl⟩
            rcases StreamAction.timed_upgrade upgraded with ⟨original, rfl⟩
            dsimp only
            rw [logged.absent index before, appendedSends, before]
            exact sessionLog_fresh authorized
        | some old =>
            rcases Server.streamStep_socket moved before with ⟨after, _, there, moves, _⟩
            dsimp only at found
            rw [there] at found
            cases found
            have log := (logged.sessions index old before).moves moves
            dsimp only
            rw [appendedSends, before, there]
            exact log

theorem TimedServer.Reachable.logged {config : ServiceConfig} {timed : TimedServer}
    (reached : timed.Reachable config) : timed.Logged config := by
  refine Runs.Reachable.invariant ?_ (fun _ _ _ logged _ taken => logged.step taken) reached
  rintro start ⟨⟨backend, begun⟩, empty⟩
  refine ⟨fun index _ => empty index, ?_⟩
  intro index socket found
  rw [begun] at found
  cases found

/-- What each session sends, it sends after its upgrade and to the actor that
the upgrade verified.  The claims that authorized the upgrade would authorize
the same actor again at the time of the sending exactly if they have not
expired by then; the session does not ask. -/
theorem session_sends_after_authorization {config : ServiceConfig} {timed : TimedServer}
    (reached : timed.Reachable config) {index : Nat} {socket : Socket}
    (found : timed.server.sockets[index]? = some socket) :
    (timed.sends index).map Prod.fst = socket.sent ∧
    Exists fun token => Exists fun claims => Exists fun openedAt =>
      bearerFromHeaders socket.request.authorization = .ok token ∧
      socket.request.answer token = ⟨.ok claims, some openedAt⟩ ∧
      authorizeIntrospection claims config.policy readScope openedAt = .ok socket.actor ∧
      forall event sentAt, (event, sentAt) ∈ timed.sends index ->
        openedAt ≤ sentAt ∧ event.owner = socket.actor ∧
        (authorizeIntrospection claims config.policy readScope sentAt = .ok socket.actor ↔
          Exists fun expiry => claims.exp = some expiry ∧ sentAt < expiry) := by
  have log := (TimedServer.Reachable.logged reached).sessions index socket found
  refine ⟨log.complete, ?_⟩
  rcases log.credential with ⟨openedAt, _, ⟨token, claims, bearer, answered, granted⟩, entries⟩
  refine ⟨token, claims, openedAt, bearer, answered, granted, ?_⟩
  intro event sentAt member
  rcases entries (event, sentAt) member with ⟨after, _, visible⟩
  exact ⟨after, (event.visible_iff socket.actor).mp visible,
    authorizeIntrospection_later granted after⟩

/-! ## A session that outlives its token -/

/-- The same user with a token that is valid ten minutes longer. -/
def renewedRequest : Request where
  authorization := [Text.asBytes "Bearer renewed-access-token"]
  answer := fun token => ⟨((sampleRequest 1).answer token).claims.map (fun claims =>
    { claims with exp := some 2000000900 }), none⟩
  reachable := true

/-- A session is opened, its token expires after five minutes, and then the
user creates an alert with another token. -/
def outlivedActions : List TimedAction :=
  [.move (.server (.upgrade (sampleRequest 1))), .move (.server (.subscribe 0)), .advance 400,
    .move (.server (.create renewedRequest burstInput (sampleId 0xd1) ⟨2000000400 * 10 ^ 9⟩)),
    .move (.server (.announce 0)), .move (.clientMessage 0), .move (.server (.receive 0 true))]

def outlivedRun : Option TimedServer :=
  Runs.execute (TimedServer.step sampleService) Runs.unchecked
    ⟨2000000000, Server.initial .fallback, fun _ => []⟩ outlivedActions

/-- What the first session has sent and when, and the claims that it was
opened with. -/
def TimedServer.firstSession (timed : TimedServer) :
    Option (List (Uuid × Nat) × Introspection) :=
  match timed.server.sockets[0]? with
  | some socket =>
      match bearerFromHeaders socket.request.authorization with
      | .ok token =>
          match socket.request.answer token with
          | ⟨.ok claims, some _⟩ =>
              some ((timed.sends 0).map (fun entry => (entry.1.alert.id, entry.2)), claims)
          | _ => none
      | .error _ => none
  | none => none

theorem outlivedRun_sends :
    (outlivedRun.bind TimedServer.firstSession).map (fun session =>
      (session.1, session.2.exp,
        decide (authorizeIntrospection session.2 sampleService.policy readScope 2000000400 =
          .error .unauthorized))) =
      some ([(sampleId 0xd1, 2000000400)], some 2000000300, true) := by
  decide +kernel

theorem outlivedRun_reached {timed : TimedServer} (done : outlivedRun = some timed) :
    timed.Reachable sampleService :=
  Runs.Reachable.execute (fun _ _ _ => trivial) (.start ⟨⟨.fallback, rfl⟩, fun _ => rfl⟩) done

theorem TimedServer.firstSession_spec {timed : TimedServer} {log : List (Uuid × Nat)}
    {claims : Introspection} (found : timed.firstSession = some (log, claims)) :
    Exists fun socket => Exists fun token => Exists fun openedAt =>
      timed.server.sockets[0]? = some socket ∧
      bearerFromHeaders socket.request.authorization = .ok token ∧
      socket.request.answer token = ⟨.ok claims, some openedAt⟩ ∧
      (timed.sends 0).map (fun entry => (entry.1.alert.id, entry.2)) = log := by
  unfold firstSession at found
  split at found
  · rename_i socket present
    split at found
    · rename_i token bearer
      split at found
      · rename_i opened openedAt answered
        cases found
        exact ⟨socket, token, openedAt, present, bearer, answered, rfl⟩
      · cases found
    · cases found
  · cases found

/-- The end of the run: the session, its claims and the event it has sent. -/
theorem outlivedRun_session : Exists fun timed : TimedServer => Exists fun socket =>
    Exists fun token => Exists fun claims => Exists fun openedAt => Exists fun event =>
      outlivedRun = some timed ∧ timed.server.sockets[0]? = some socket ∧
      bearerFromHeaders socket.request.authorization = .ok token ∧
      socket.request.answer token = ⟨.ok claims, some openedAt⟩ ∧
      claims.exp = some 2000000300 ∧ (event, 2000000400) ∈ timed.sends 0 ∧
      authorizeIntrospection claims sampleService.policy readScope 2000000400 =
        .error .unauthorized := by
  rcases Option.map_eq_some_iff.mp outlivedRun_sends with ⟨⟨log, claims⟩, session, facts⟩
  rcases Option.bind_eq_some_iff.mp session with ⟨timed, done, found⟩
  simp only [Prod.mk.injEq, decide_eq_true_eq] at facts
  rcases facts with ⟨rfl, expiry, refused⟩
  rcases TimedServer.firstSession_spec found with
    ⟨socket, token, openedAt, there, bearer, answered, sent⟩
  have listed : (sampleId 0xd1, 2000000400) ∈
      (timed.sends 0).map (fun entry => (entry.1.alert.id, entry.2)) := by
    rw [sent]
    exact List.mem_singleton_self _
  rcases List.mem_map.mp listed with ⟨⟨event, sentAt⟩, member, same⟩
  cases (Prod.mk.inj same).2
  exact ⟨timed, socket, token, claims, openedAt, event, done, there, bearer, answered, expiry,
    member, refused⟩

/-- The session sends an event a hundred seconds after the expiry of the token
it was opened with, when the same claims no longer authorize anybody. -/
theorem expired_session_sends : Exists fun timed : TimedServer => Exists fun socket =>
    Exists fun token => Exists fun claims => Exists fun openedAt => Exists fun event =>
      timed.Reachable sampleService ∧ timed.server.sockets[0]? = some socket ∧
      bearerFromHeaders socket.request.authorization = .ok token ∧
      socket.request.answer token = ⟨.ok claims, some openedAt⟩ ∧
      claims.exp = some 2000000300 ∧ (event, 2000000400) ∈ timed.sends 0 ∧
      authorizeIntrospection claims sampleService.policy readScope 2000000400 =
        .error .unauthorized := by
  rcases outlivedRun_session with ⟨timed, socket, token, claims, openedAt, event, done, facts⟩
  exact ⟨timed, socket, token, claims, openedAt, event, outlivedRun_reached done, facts⟩

/-- The same session, seen from its upgrade. -/
theorem outlived_session_authorized : Exists fun timed : TimedServer => Exists fun socket =>
    Exists fun claims => Exists fun openedAt =>
      timed.Reachable sampleService ∧ timed.server.sockets[0]? = some socket ∧
      authorizeIntrospection claims sampleService.policy readScope openedAt = .ok socket.actor ∧
      Exists fun event => (event, 2000000400) ∈ timed.sends 0 ∧ openedAt ≤ 2000000400 ∧
        event.owner = socket.actor := by
  rcases outlivedRun_session with ⟨timed, socket, _, _, _, event, done, there, _, _, _, member, _⟩
  have reached := outlivedRun_reached done
  rcases session_sends_after_authorization reached there with
    ⟨_, _, claims, openedAt, _, _, granted, entries⟩
  rcases entries event _ member with ⟨after, owner, _⟩
  exact ⟨timed, socket, claims, openedAt, reached, there, granted, event, member, after, owner⟩

end EmbeddedAlerts
