import EmbeddedAlerts.Library.Broadcast
import EmbeddedAlerts.Server.Isolation

namespace EmbeddedAlerts

/-!
# What one WebSocket session sends

The session waits for the client and for the channel at once.  A message of the
client other than a close is read and dropped, and does not move the session's
position in the channel, because a receive that is not chosen takes nothing.

A session that falls behind leaves the loop at the lag itself.  So the position
never jumps: it starts at the end of the channel, moves by one event at a time
and stops for good when the session ends.  What the session has sent is the
window between the two positions, filtered by its actor.
-/

/-! ## Steps with client messages -/

inductive StreamAction where
  | server (action : ServerAction)
  | clientMessage (index : Nat)

/-- A step of the server, or a client's message that a session ignores. -/
def Server.streamStep (config : ServiceConfig) (server : Server) : StreamAction -> Option Server
  | .server action => server.step config action
  | .clientMessage index =>
      match server.sockets[index]? with
      | some socket =>
          match socket.stage with
          | .subscribed _ => some server
          | _ => none
      | none => none

/-- Reachable from an empty store of either kind. -/
def Server.StreamReachable (config : ServiceConfig) : Server -> Prop :=
  Runs.Reachable (Server.streamStep config)
    (fun server => Exists fun backend => server = Server.initial backend) Runs.anyStep

/-- Reachable from a given state. -/
def Server.Follows (config : ServiceConfig) (before after : Server) : Prop :=
  Runs.Reachable (Server.streamStep config) (fun server => server = before) Runs.anyStep after

/-- `serde_json::to_string(&event)`.  The owner is skipped, and the threshold
is printed as the `f32` it is. -/
def ScopedAlertEvent.payload (dateTime : DateTime -> String) (single : F32 -> String)
    (event : ScopedAlertEvent) : String :=
  (Json.object [("kind", .string event.kind),
    ("alert", event.alert.toJson ⟨dateTime, fun wide => single wide.narrow⟩)]).compact

/-! ## What a step can do to one session -/

/-- The moves of one session, given the events sent so far. -/
inductive Socket.Moves (events : List ScopedAlertEvent) (socket : Socket) : Socket -> Prop
  | stays : Moves events socket socket
  | subscribes : socket.stage = .upgraded ->
      Moves events socket { socket with stage := .subscribed events.length }
  | receives {position : Nat} {event : ScopedAlertEvent} {sends : Bool} :
      socket.stage = .subscribed position -> events[position]? = some event ->
      Moves events socket (socket.handle position event sends)
  | closes : Moves events socket { socket with stage := .closed }

/-- A session belongs to one actor for good. -/
theorem Socket.Moves.actor {events : List ScopedAlertEvent} {socket moved : Socket}
    (moves : socket.Moves events moved) : moved.actor = socket.actor := by
  cases moves with
  | stays => rfl
  | subscribes _ => rfl
  | @receives position event sends _ _ =>
      unfold Socket.handle
      split
      · split
        · rfl
        · rfl
      · rfl
  | closes => rfl

/-- A closed session does not move. -/
theorem Socket.Moves.eq_of_closed {events : List ScopedAlertEvent} {socket moved : Socket}
    (moves : socket.Moves events moved) (closed : socket.stage = .closed) : moved = socket := by
  cases moves with
  | stays => rfl
  | subscribes upgraded =>
      rw [upgraded] at closed
      cases closed
  | receives subscribed _ =>
      rw [subscribed] at closed
      cases closed
  | closes => rw [← closed]

/-- Every session makes a move of its own and keeps its place. -/
def SocketsMove (events : List ScopedAlertEvent) (before after : List Socket) : Prop :=
  after.length = before.length ∧ forall (index : Nat) (socket : Socket),
    before[index]? = some socket ->
    Exists fun moved => after[index]? = some moved ∧ socket.Moves events moved

theorem SocketsMove.refl (events : List ScopedAlertEvent) (sockets : List Socket) :
    SocketsMove events sockets sockets :=
  ⟨rfl, fun _ socket found => ⟨socket, found, .stays⟩⟩

/-- One session moves and the others stay. -/
theorem SocketsMove.set {events : List ScopedAlertEvent} {sockets : List Socket} {index : Nat}
    {old new : Socket} (found : sockets[index]? = some old) (moves : old.Moves events new) :
    SocketsMove events sockets (sockets.set index new) := by
  refine ⟨List.length_set, ?_⟩
  intro other socket present
  by_cases same : index = other
  · subst other
    rw [found] at present
    cases present
    exact ⟨new, List.getElem?_set_self (List.getElem?_eq_some_iff.mp found).1, moves⟩
  · exact ⟨socket, (List.getElem?_set_ne same).trans present, .stays⟩

namespace Server

variable {config : ServiceConfig} {server next : Server}

/-- What a step does to the channel and to the sessions: it moves sessions, or
it sends the event of a committed create, or it adds a session. -/
theorem step_stream {action : ServerAction} (taken : server.step config action = some next) :
    (next.events = server.events ∧ SocketsMove server.events server.sockets next.sockets) ∨
      (Exists fun event => event ∈ server.creating ∧ next.events = server.events ++ [event] ∧
        next.sockets = server.sockets) ∨
      Exists fun request => Exists fun actor => action = .upgrade request ∧
        request.actor config.policy readScope = .ok actor ∧ next.events = server.events ∧
        next.sockets = server.sockets ++ [⟨request, actor, .upgraded, []⟩] := by
  cases action with
  | transport action =>
      rcases runTransport_cases taken with ⟨_, _, transport, _, rfl⟩
      exact Or.inl ⟨rfl, .refl _ _⟩
  | create request input id now =>
      rcases create_cases taken with ⟨store, event, _, _, rfl⟩
      have same := server.withStore_frame store
      refine Or.inl ⟨same.1, ?_⟩
      change SocketsMove server.events server.sockets (server.withStore store).sockets
      rw [same.2]
      exact .refl _ _
  | announce index =>
      rcases announce_cases taken with ⟨event, present, rfl⟩
      exact Or.inr (Or.inl ⟨event, present, rfl, rfl⟩)
  | abandon index =>
      cases taken
      exact Or.inl ⟨rfl, .refl _ _⟩
  | upgrade request =>
      rcases upgrade_cases taken with ⟨actor, authorized, rfl⟩
      exact Or.inr (Or.inr ⟨request, actor, rfl, authorized, rfl, rfl⟩)
  | subscribe index =>
      rcases subscribe_cases taken with ⟨old, found, stage, rfl⟩
      exact Or.inl ⟨rfl, .set found (.subscribes stage)⟩
  | receive index sends =>
      rcases receive_cases taken with
        ⟨old, position, found, stage, ⟨_, rfl⟩ | ⟨event, _, received, rfl⟩⟩
      · exact Or.inl ⟨rfl, .set found .closes⟩
      · exact Or.inl ⟨rfl, .set found (.receives stage received)⟩
  | close index =>
      cases taken
      refine Or.inl ⟨rfl, List.length_modify _ _ _, ?_⟩
      intro other socket found
      rw [List.getElem?_modify, found]
      refine ⟨_, rfl, ?_⟩
      split
      · exact .closes
      · exact .stays
  | restart =>
      cases taken
      refine Or.inl ⟨rfl, List.length_map _, ?_⟩
      intro other socket found
      rw [List.getElem?_map, found]
      exact ⟨_, rfl, .closes⟩

/-- A client's message changes nothing. -/
theorem clientMessage_cases {index : Nat}
    (taken : server.streamStep config (.clientMessage index) = some next) : next = server := by
  simp only [streamStep] at taken
  split at taken
  · split at taken
    · cases taken
      rfl
    · cases taken
  · cases taken

/-- A session is changed by its own moves only, and the channel only grows. -/
theorem streamStep_socket {action : StreamAction}
    (taken : server.streamStep config action = some next) {index : Nat} {socket : Socket}
    (found : server.sockets[index]? = some socket) :
    Exists fun moved => Exists fun sent => next.sockets[index]? = some moved ∧
      socket.Moves server.events moved ∧ next.events = server.events ++ sent := by
  cases action with
  | clientMessage other =>
      rw [clientMessage_cases taken]
      exact ⟨socket, [], found, .stays, (List.append_nil _).symm⟩
  | server action =>
      rcases step_stream taken with ⟨same, moves⟩ | ⟨event, _, sent, same⟩ |
        ⟨_, _, _, _, same, added⟩
      · rcases moves.2 index socket found with ⟨moved, there, move⟩
        exact ⟨moved, [], there, move, same.trans (List.append_nil _).symm⟩
      · exact ⟨socket, [event], same ▸ found, .stays, sent⟩
      · refine ⟨socket, [], ?_, .stays, same.trans (List.append_nil _).symm⟩
        rw [added, List.getElem?_append_left (List.getElem?_eq_some_iff.mp found).1]
        exact found

/-- A session that was not there before is a request that was upgraded. -/
theorem streamStep_added {action : StreamAction}
    (taken : server.streamStep config action = some next) {index : Nat} {socket : Socket}
    (fresh : server.sockets[index]? = none) (found : next.sockets[index]? = some socket) :
    Exists fun request => Exists fun actor => action = .server (.upgrade request) ∧
      request.actor config.policy readScope = .ok actor ∧
      socket = ⟨request, actor, .upgraded, []⟩ := by
  have outside := List.getElem?_eq_none_iff.mp fresh
  have inside := (List.getElem?_eq_some_iff.mp found).1
  cases action with
  | clientMessage other =>
      rw [clientMessage_cases taken] at inside
      omega
  | server action =>
      rcases step_stream taken with ⟨_, moves⟩ | ⟨_, _, _, same⟩ |
        ⟨request, actor, rfl, authorized, _, added⟩
      · have kept := moves.1
        omega
      · rw [same] at inside
        omega
      · refine ⟨request, actor, rfl, authorized, ?_⟩
        rw [added, List.getElem?_append_right outside] at found
        rcases List.getElem?_eq_some_iff.mp found with ⟨last, same⟩
        have first : index - server.sockets.length = 0 := by
          rw [List.length_singleton] at last
          omega
        simp only [first, List.getElem_cons_zero] at same
        exact same.symm

/-! ## Before the subscription -/

/-- A session that has not subscribed yet has sent nothing. -/
def Unsent (server : Server) : Prop :=
  forall (index : Nat) (socket : Socket), server.sockets[index]? = some socket ->
    socket.stage = .upgraded -> socket.sent = []

theorem moves_unsent {events : List ScopedAlertEvent} {old new : Socket}
    (moves : old.Moves events new) (before : old.stage = .upgraded -> old.sent = [])
    (stage : new.stage = .upgraded) : new.sent = [] := by
  cases moves with
  | stays => exact before stage
  | subscribes _ => cases stage
  | @receives position event sends _ _ =>
      unfold Socket.handle at stage
      split at stage
      · split at stage
        · cases stage
        · cases stage
      · cases stage
  | closes => cases stage

theorem Unsent.step (unsent : server.Unsent) {action : StreamAction}
    (taken : server.streamStep config action = some next) : next.Unsent := by
  intro index socket found stage
  cases earlier : server.sockets[index]? with
  | none =>
      rcases streamStep_added taken earlier found with ⟨_, _, _, _, rfl⟩
      rfl
  | some old =>
      rcases streamStep_socket taken earlier with ⟨moved, _, there, moves, _⟩
      rw [found] at there
      cases there
      exact moves_unsent moves (unsent index old earlier) stage

theorem StreamReachable.unsent (reached : StreamReachable config server) : server.Unsent :=
  Runs.Reachable.invariant
    (fun _ begun => by
      rcases begun with ⟨backend, rfl⟩
      intro index socket found
      cases found)
    (fun _ _ _ unsent _ taken => unsent.step taken) reached

/-! ## After the subscription -/

/-- The session at this index has sent the actor's events of one window that
starts at its subscription. -/
def Streams (server : Server) (index start : Nat) (actor : VerifiedActor) : Prop :=
  Exists fun socket => Exists fun stop => server.sockets[index]? = some socket ∧
    socket.actor = actor ∧ start ≤ stop ∧ stop ≤ server.events.length ∧
    socket.sent = (Broadcast.window server.events start stop).filter
      (fun event => event.visible actor) ∧
    (socket.stage = .subscribed stop ∨ socket.stage = .closed)

theorem Streams.step {index start : Nat} {actor : VerifiedActor}
    (streams : server.Streams index start actor) {action : StreamAction}
    (taken : server.streamStep config action = some next) : next.Streams index start actor := by
  rcases streams with ⟨socket, stop, found, rfl, ordered, within, sent, stage⟩
  rcases streamStep_socket taken found with ⟨moved, more, there, moves, grown⟩
  have longer : server.events.length ≤ next.events.length := by
    rw [grown, List.length_append]
    exact Nat.le_add_right _ _
  have kept : forall reached, reached ≤ server.events.length ->
      Broadcast.window next.events start reached =
        Broadcast.window server.events start reached := by
    intro reached bounded
    rw [grown, Broadcast.window_append more bounded]
  have unchanged : socket.sent = (Broadcast.window next.events start stop).filter
      (fun event => event.visible socket.actor) := by
    rw [kept stop within]
    exact sent
  cases moves with
  | stays => exact ⟨_, stop, there, rfl, ordered, within.trans longer, unchanged, stage⟩
  | subscribes upgraded =>
      rw [upgraded] at stage
      rcases stage with impossible | impossible
      · cases impossible
      · cases impossible
  | closes =>
      exact ⟨_, stop, there, rfl, ordered, within.trans longer, unchanged, Or.inr rfl⟩
  | @receives position event sends subscribed received =>
      have here : position = stop := by
        rcases stage with same | closed
        · rw [subscribed] at same
          exact SocketStage.subscribed.inj same
        · rw [subscribed] at closed
          cases closed
      subst position
      have bounded : stop + 1 ≤ server.events.length :=
        (List.getElem?_eq_some_iff.mp received).1
      have extended : (Broadcast.window next.events start (stop + 1)).filter
          (fun other => other.visible socket.actor) = socket.sent ++
            if event.visible socket.actor then [event] else [] := by
        rw [kept _ bounded, Broadcast.window_succ ordered received, List.filter_append, ← sent,
          List.filter_cons, List.filter_nil]
      unfold Socket.handle at there
      split at there
      · next visible =>
          split at there
          · refine ⟨_, stop + 1, there, rfl, by omega, bounded.trans longer, ?_, Or.inl rfl⟩
            rw [extended, if_pos visible]
          · exact ⟨_, stop, there, rfl, ordered, within.trans longer, unchanged, Or.inr rfl⟩
      · next hidden =>
          refine ⟨_, stop + 1, there, rfl, by omega, bounded.trans longer, ?_, Or.inl rfl⟩
          rw [extended, if_neg hidden, List.append_nil]

/-- What holds in a state and is kept by every step holds from then on. -/
theorem Follows.invariant (later : Follows config server next) (holds : Server -> Prop)
    (begun : holds server)
    (kept : forall state action after, holds state -> state.streamStep config action = some after ->
      holds after) : holds next :=
  Runs.Reachable.invariant (fun _ same => same ▸ begun)
    (fun state action after before _ taken => kept state action after before taken) later

theorem Streams.follows {index start : Nat} {actor : VerifiedActor}
    (streams : server.Streams index start actor) (later : Follows config server next) :
    next.Streams index start actor :=
  later.invariant (fun state => state.Streams index start actor) streams
    (fun _ _ _ holds taken => holds.step taken)

/-- A fresh subscription is an empty window at the end of the channel. -/
theorem Streams.subscribe (unsent : server.Unsent) {index : Nat}
    (taken : server.subscribe index = some next) :
    Exists fun socket => server.sockets[index]? = some socket ∧
      next.Streams index server.events.length socket.actor := by
  rcases subscribe_cases taken with ⟨socket, found, stage, rfl⟩
  refine ⟨socket, found, { socket with stage := .subscribed server.events.length },
    server.events.length, List.getElem?_set_self (List.getElem?_eq_some_iff.mp found).1, rfl,
    Nat.le_refl _, Nat.le_refl _, ?_, Or.inl rfl⟩
  rw [Broadcast.window_self, List.filter_nil]
  exact unsent index socket found stage

theorem events_follows (later : Follows config server next) : server.events <+: next.events := by
  refine later.invariant (fun state => server.events <+: state.events) List.prefix_rfl ?_
  intro state action after leading taken
  refine leading.trans ?_
  cases action with
  | clientMessage index => rw [clientMessage_cases taken]
  | server action =>
      rcases step_stream taken with ⟨same, _⟩ | ⟨event, _, sent, _⟩ |
        ⟨_, _, _, _, same, _⟩
      · rw [same]
      · rw [sent]
        exact List.prefix_append _ _
      · rw [same]

/-! ## After the session has ended -/

/-- A closed session sends nothing more. -/
theorem closed_follows {index : Nat} {socket : Socket} (stage : socket.stage = .closed)
    (found : server.sockets[index]? = some socket) (later : Follows config server next) :
    next.sockets[index]? = some socket := by
  refine later.invariant (fun state => state.sockets[index]? = some socket) found ?_
  intro state action after there taken
  rcases streamStep_socket taken there with ⟨moved, _, same, moves, _⟩
  rw [moves.eq_of_closed stage] at same
  exact same

/-- A lag, a failed send, a close, a broken connection and a restart all end
the session in the step itself. -/
def EndsSession (server : Server) (index : Nat) : StreamAction -> Prop
  | .server (.receive other sends) => other = index ∧
      Exists fun socket => Exists fun position => server.sockets[index]? = some socket ∧
        socket.stage = .subscribed position ∧
        (position + broadcastCapacity < server.events.length ∨
          sends = false ∧ Exists fun event => server.events[position]? = some event ∧
            event.visible socket.actor = true)
  | .server (.close other) => other = index
  | .server .restart => True
  | _ => False

theorem closed_of_endsSession {index : Nat} {socket : Socket} {action : StreamAction}
    (found : server.sockets[index]? = some socket) (ends : server.EndsSession index action)
    (taken : server.streamStep config action = some next) :
    next.sockets[index]? = some { socket with stage := .closed } := by
  have bound := (List.getElem?_eq_some_iff.mp found).1
  unfold EndsSession at ends
  split at ends
  · next other sends =>
      rcases ends with ⟨rfl, same, position, there, stage, cause⟩
      rw [found] at there
      cases there
      rcases receive_cases taken with
        ⟨old, reached, foundOld, stageOld, ⟨_, rfl⟩ | ⟨event, near, received, rfl⟩⟩
      · rw [found] at foundOld
        cases foundOld
        exact List.getElem?_set_self bound
      · rw [found] at foundOld
        cases foundOld
        rw [stage] at stageOld
        cases stageOld
        rcases cause with lagging | ⟨rfl, other, sameEvent, visible⟩
        · exact absurd near (Nat.not_le_of_lt lagging)
        · rw [received] at sameEvent
          cases sameEvent
          change (server.sockets.set _ (socket.handle position event false))[_]? = _
          rw [List.getElem?_set_self bound, Socket.handle, if_pos visible]
          rfl
  · next other =>
      subst other
      cases taken
      change (server.sockets.modify index _)[index]? = _
      rw [List.getElem?_modify, found]
      simp
  · cases taken
    change (server.sockets.map _)[index]? = _
    rw [List.getElem?_map, found]
    rfl
  · exact ends.elim

end Server

/-- Let a session subscribe when the channel has seen `start` events.  From
then on, whatever everybody does, the events it has sent are its actor's events
in one window that begins there, and their texts are the serializations of
these; the last of them may still be on its way.  And once the session has ended it sends nothing more. -/
theorem websocket_stream_without_gap {config : ServiceConfig} {before begun after : Server}
    {index : Nat} (reached : Server.StreamReachable config before)
    (subscribed : before.streamStep config (.server (.subscribe index)) = some begun)
    (later : Server.Follows config begun after) (dateTime : DateTime -> String)
    (single : F32 -> String) :
    before.events <+: after.events ∧
    Exists fun session => Exists fun socket => before.sockets[index]? = some session ∧
      after.sockets[index]? = some socket ∧ socket.actor = session.actor ∧
      (forall shown, shown <+: socket.sent -> Exists fun stop =>
        before.events.length ≤ stop ∧ stop ≤ after.events.length ∧
        shown = (Broadcast.window after.events before.events.length stop).filter (fun event =>
          decide (event.productTenant = session.actor.productTenant) &&
            decide (event.ownerSubject = session.actor.subject)) ∧
        shown.map (ScopedAlertEvent.payload dateTime single) =
          ((Broadcast.window after.events before.events.length stop).filter (fun event =>
            decide (event.productTenant = session.actor.productTenant) &&
              decide (event.ownerSubject = session.actor.subject))).map
            (ScopedAlertEvent.payload dateTime single)) ∧
      forall (action : StreamAction) (ended final : Server),
        after.EndsSession index action -> after.streamStep config action = some ended ->
        Server.Follows config ended final ->
        (final.sockets[index]?).map Socket.sent = some socket.sent := by
  rcases Server.Streams.subscribe reached.unsent subscribed with ⟨session, found, streams⟩
  rcases streams.follows later with
    ⟨socket, stop, there, actor, ordered, within, sent, _⟩
  have grown : before.events <+: after.events := by
    have same : begun.events = before.events := by
      rcases Server.subscribe_cases subscribed with ⟨_, _, _, rfl⟩
      rfl
    exact same ▸ Server.events_follows later
  refine ⟨grown, session, socket, found, there, actor, ?_, ?_⟩
  · intro shown leading
    rw [sent] at leading
    rcases Broadcast.exists_window_of_prefix ordered leading with ⟨limit, least, most, rfl⟩
    exact ⟨limit, least, most.trans within, rfl, rfl⟩
  · intro action ended final ends taken followed
    have closed := Server.closed_of_endsSession there ends taken
    rw [Server.closed_follows rfl closed followed]
    rfl

/-- Two owners create while the first owner's session also gets a ping. -/
def streamedCreates : List StreamAction :=
  [.server (.create (sampleRequest 1) burstInput (sampleId 0xd1) ⟨2000000000 * 10 ^ 9⟩),
    .server (.create (sampleRequest 2) burstInput (sampleId 0xd2) ⟨2000000001 * 10 ^ 9⟩),
    .server (.announce 1), .clientMessage 0, .server (.announce 0), .server (.receive 0 true),
    .server (.receive 0 true)]

theorem streamedCreates_sent :
    (Runs.execute (Server.streamStep sampleService) Runs.unchecked (Server.initial .database)
        [.server (.upgrade (sampleRequest 1))]).bind (fun before =>
      (before.streamStep sampleService (.server (.subscribe 0))).bind (fun begun =>
        (Runs.execute (Server.streamStep sampleService) Runs.unchecked begun streamedCreates).map
          (fun after => (before.events.length, after.events.map (fun event => event.alert.id),
            after.sockets.map (fun socket => socket.sent.map (fun event => event.alert.id)))))) =
      some (0, [sampleId 0xd2, sampleId 0xd1], [[sampleId 0xd1]]) := by
  decide +kernel

/-- The session of the first owner has sent one of the two events. -/
theorem streamedCreates_without_gap : Exists fun after : Server => Exists fun socket =>
    after.events.map (fun event => event.alert.id) = [sampleId 0xd2, sampleId 0xd1] ∧
    after.sockets[0]? = some socket ∧
    socket.sent.map (fun event => event.alert.id) = [sampleId 0xd1] ∧
    Exists fun stop => socket.sent.map (ScopedAlertEvent.payload (fun _ => "") (fun _ => "0.7")) =
      ((Broadcast.window after.events 0 stop).filter (fun event =>
        decide (event.productTenant = socket.actor.productTenant) &&
          decide (event.ownerSubject = socket.actor.subject))).map
        (ScopedAlertEvent.payload (fun _ => "") (fun _ => "0.7")) := by
  rcases Option.bind_eq_some_iff.mp streamedCreates_sent with ⟨before, first, rest⟩
  rcases Option.bind_eq_some_iff.mp rest with ⟨begun, subscribed, rest⟩
  rcases Option.map_eq_some_iff.mp rest with ⟨after, done, shown⟩
  rcases Prod.mk.inj shown with ⟨start, shown⟩
  rcases Prod.mk.inj shown with ⟨events, sockets⟩
  have reached : Server.StreamReachable sampleService before :=
    Runs.Reachable.execute (fun _ _ _ => trivial) (.start ⟨.database, rfl⟩) first
  have later : Server.Follows sampleService begun after :=
    Runs.Reachable.execute (fun _ _ _ => trivial) (.start rfl) done
  rcases websocket_stream_without_gap reached subscribed later (fun _ => "") (fun _ => "0.7") with
    ⟨_, session, socket, _, there, actor, streamed, _⟩
  rcases streamed socket.sent List.prefix_rfl with ⟨stop, _, _, _, same⟩
  refine ⟨after, socket, events, there, ?_, stop, ?_⟩
  · have sent := congrArg (fun listed => listed[0]?) sockets
    simp only [List.getElem?_map, there] at sent
    exact Option.some.inj sent
  · rw [actor]
    rw [start] at same
    exact same

end EmbeddedAlerts
