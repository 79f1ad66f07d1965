import EmbeddedAlerts.Server.Handlers
import EmbeddedAlerts.Transport.System

namespace EmbeddedAlerts

/-!
# The API server with all of its transports

The HTTP handlers, the WebSocket sessions and the JetStream transport share
one store.  Reading over HTTP or TCP does not change anything, so these
requests are functions of the state in `Handlers` and `Tcp`.  Every other
request is split at its awaits: a create commits its alert in one step and
sends its event in another, unless its handler is dropped in between, and an
upgraded socket subscribes in a step of its own.

`events` is everything that was ever sent on the broadcast channel.  A receiver
is a position in it, and falls off when more than the channel's capacity lies
ahead.  `created` records every committed create together with the actor that
the handler had verified; no step of the code reads it.
-/

/-- `broadcast::channel(512)`. -/
def broadcastCapacity : Nat := 512

inductive SocketStage where
  | upgraded
  | subscribed (position : Nat)
  | closed
deriving DecidableEq

/-- A WebSocket with the request that was upgraded and what it has sent. -/
structure Socket where
  request : Request
  actor : VerifiedActor
  stage : SocketStage
  sent : List ScopedAlertEvent

/-- What one event does to a subscribed socket. -/
def Socket.handle (socket : Socket) (position : Nat) (event : ScopedAlertEvent) (sends : Bool) :
    Socket :=
  if event.visible socket.actor then
    if sends then { socket with
      stage := .subscribed (position + 1)
      sent := socket.sent ++ [event] }
    else { socket with stage := .closed }
  else { socket with stage := .subscribed (position + 1) }

structure Server where
  backend : Backend
  entries : List (AlertKey × AlertRule)
  transport : System
  creating : List ScopedAlertEvent
  events : List ScopedAlertEvent
  sockets : List Socket
  created : List (VerifiedActor × AlertRule)

structure ServiceConfig where
  deployment : Deployment
  policy : AuthPolicy
  decodeOperation : List UInt8 -> Option AuthenticatedOperation

namespace Server

def initial (backend : Backend) : Server where
  backend := backend
  entries := []
  transport := System.initial
  creating := []
  events := []
  sockets := []
  created := []

/-- The store that every handler shares. -/
def store (server : Server) : AlertStore :=
  match server.backend with
  | .database => .database server.transport.database.alerts
  | .fallback => .fallback server.entries

def withStore (server : Server) : AlertStore -> Server
  | .database rows => { server with
      transport := { server.transport with
        database := { server.transport.database with alerts := rows } } }
  | .fallback entries => { server with entries := entries }

/-- JetStream runs with a database only.  Alerts are created by the handler. -/
def runTransport (config : ServiceConfig) (action : Action) (server : Server) : Option Server :=
  match server.backend, action with
  | .fallback, _ => none
  | .database, .createAlert _ _ _ _ => none
  | .database, action =>
      (server.transport.step config.deployment action).map
        (fun transport => { server with transport := transport })

/-- `create_alert` up to the commit.  A refused request changes nothing. -/
def create (config : ServiceConfig) (request : Request) (input : CreateAlertRule) (id : Uuid)
    (now : DateTime) (server : Server) : Option Server :=
  match request.actor config.policy writeScope,
      createAlert config.policy server.store request input id now with
  | .ok actor, .ok (store, event) => some { server.withStore store with
      creating := server.creating ++ [event]
      created := server.created ++ [(actor, event.alert)] }
  | _, _ => none

/-- `state.events.send(event)`. -/
def announce (index : Nat) (server : Server) : Option Server :=
  match server.creating[index]? with
  | some event => some { server with
      creating := server.creating.eraseIdx index
      events := server.events ++ [event] }
  | none => none

/-- The client is gone, and the handler with it. -/
def abandon (index : Nat) (server : Server) : Option Server :=
  some { server with creating := server.creating.eraseIdx index }

/-- `ws_upgrade`. -/
def upgrade (config : ServiceConfig) (request : Request) (server : Server) : Option Server :=
  match request.actor config.policy readScope with
  | .ok actor => some { server with
      sockets := server.sockets ++ [⟨request, actor, .upgraded, []⟩] }
  | .error _ => none

/-- A receiver starts behind the last event sent. -/
def subscribe (index : Nat) (server : Server) : Option Server :=
  match server.sockets[index]? with
  | some socket =>
      match socket.stage with
      | .upgraded => some { server with
          sockets := server.sockets.set index
            { socket with stage := .subscribed server.events.length } }
      | _ => none
  | none => none

/-- `events.recv()`.  A lagging receiver and a failed send end the session. -/
def receive (index : Nat) (sends : Bool) (server : Server) : Option Server :=
  match server.sockets[index]? with
  | some socket =>
      match socket.stage with
      | .subscribed position =>
          if position + broadcastCapacity < server.events.length then
            some { server with
              sockets := server.sockets.set index { socket with stage := .closed } }
          else
            match server.events[position]? with
            | some event => some { server with
                sockets := server.sockets.set index (socket.handle position event sends) }
            | none => none
      | _ => none
  | none => none

/-- The client closes the socket or breaks the connection. -/
def close (index : Nat) (server : Server) : Option Server :=
  some { server with
    sockets := server.sockets.modify index (fun socket => { socket with stage := .closed }) }

/-- The process starts anew: what it held in memory is gone. -/
def restart (server : Server) : Option Server :=
  some { server with
    entries := []
    creating := []
    sockets := server.sockets.map (fun socket => { socket with stage := .closed }) }

end Server

inductive ServerAction where
  | transport (action : Action)
  | create (request : Request) (input : CreateAlertRule) (id : Uuid) (now : DateTime)
  | announce (index : Nat)
  | abandon (index : Nat)
  | upgrade (request : Request)
  | subscribe (index : Nat)
  | receive (index : Nat) (sends : Bool)
  | close (index : Nat)
  | restart

def Server.step (config : ServiceConfig) (server : Server) : ServerAction -> Option Server
  | .transport action => server.runTransport config action
  | .create request input id now => server.create config request input id now
  | .announce index => server.announce index
  | .abandon index => server.abandon index
  | .upgrade request => server.upgrade config request
  | .subscribe index => server.subscribe index
  | .receive index sends => server.receive index sends
  | .close index => server.close index
  | .restart => server.restart

/-- Reachable from an empty store of either kind. -/
def Server.Reachable (config : ServiceConfig) : Server -> Prop :=
  Runs.Reachable (Server.step config)
    (fun server => Exists fun backend => server = Server.initial backend) Runs.anyStep

namespace Server

variable {config : ServiceConfig} {server next : Server}

/-! ## What a step can do -/

theorem runTransport_cases {action : Action}
    (taken : server.runTransport config action = some next) :
    server.backend = .database ∧
      (forall actor input id instant, action ≠ .createAlert actor input id instant) ∧
      Exists fun transport => server.transport.step config.deployment action = some transport ∧
        next = { server with transport := transport } := by
  unfold runTransport at taken
  split at taken
  · cases taken
  · cases taken
  · next database other =>
      rcases Option.map_eq_some_iff.mp taken with ⟨transport, stepped, rfl⟩
      refine ⟨database, ?_, transport, stepped, rfl⟩
      intro actor input id instant same
      exact other actor input id instant same

theorem create_cases {request : Request} {input : CreateAlertRule} {id : Uuid} {now : DateTime}
    (taken : server.create config request input id now = some next) :
    Exists fun store => Exists fun event : ScopedAlertEvent =>
      request.actor config.policy writeScope = .ok event.owner ∧
      server.store.create event.owner input id now = .ok (store, event.alert) ∧
      next = { server.withStore store with
        creating := server.creating ++ [event]
        created := server.created ++ [(event.owner, event.alert)] } := by
  unfold create at taken
  split at taken
  · next actor store event authorized done =>
      cases taken
      rcases createAlert_ok done with ⟨other, verified, rfl, stored⟩
      rw [authorized] at verified
      cases verified
      exact ⟨store, event, authorized, stored, rfl⟩
  · cases taken

/-- A create writes to the backend in use.  In the database it is a step of
the transport's system. -/
theorem withStore_create (config : ServiceConfig) {actor : VerifiedActor}
    {input : CreateAlertRule} {id : Uuid} {now : DateTime} {store : AlertStore} {alert : AlertRule}
    (stored : server.store.create actor input id now = .ok (store, alert)) :
    (server.withStore store).store = store ∧
      ((server.backend = .database ∧ server.transport.step config.deployment
          (.createAlert actor input id now) = some (server.withStore store).transport) ∨
        (server.withStore store).transport = server.transport) := by
  unfold Server.store at stored
  split at stored
  · next database =>
      rcases (create_database_eq_ok_iff _ _ _ _ _ _ _).mp stored with ⟨_, _, _, _, rfl⟩
      constructor
      · simp only [withStore, Server.store, database]
      · refine Or.inl ⟨database, ?_⟩
        simp only [System.step, System.createAlert, stored, withStore]
  · next fallback =>
      rcases (create_fallback_eq_ok_iff _ _ _ _ _ _ _).mp stored with ⟨_, _, rfl⟩
      constructor
      · simp only [withStore, Server.store, fallback]
      · exact Or.inr rfl

/-- Writing to the store touches neither the channel nor the sessions. -/
theorem withStore_frame (server : Server) (store : AlertStore) :
    (server.withStore store).events = server.events ∧
      (server.withStore store).sockets = server.sockets := by
  cases store with
  | database rows => exact ⟨rfl, rfl⟩
  | fallback entries => exact ⟨rfl, rfl⟩

theorem announce_cases {index : Nat} (taken : server.announce index = some next) :
    Exists fun event => event ∈ server.creating ∧ next = { server with
      creating := server.creating.eraseIdx index
      events := server.events ++ [event] } := by
  unfold announce at taken
  split at taken
  · next event found =>
      cases taken
      exact ⟨event, List.mem_of_getElem? found, rfl⟩
  · cases taken

theorem upgrade_cases {request : Request} (taken : server.upgrade config request = some next) :
    Exists fun actor => request.actor config.policy readScope = .ok actor ∧
      next = { server with sockets := server.sockets ++ [⟨request, actor, .upgraded, []⟩] } := by
  unfold upgrade at taken
  split at taken
  · next actor authorized =>
      cases taken
      exact ⟨actor, authorized, rfl⟩
  · cases taken

theorem subscribe_cases {index : Nat} (taken : server.subscribe index = some next) :
    Exists fun socket => server.sockets[index]? = some socket ∧ socket.stage = .upgraded ∧
      next = { server with
        sockets := server.sockets.set index
          { socket with stage := .subscribed server.events.length } } := by
  unfold subscribe at taken
  split at taken
  · next socket found =>
      split at taken
      · next stage =>
          cases taken
          exact ⟨socket, found, stage, rfl⟩
      · cases taken
  · cases taken

theorem receive_cases {index : Nat} {sends : Bool}
    (taken : server.receive index sends = some next) :
    Exists fun socket => Exists fun position => server.sockets[index]? = some socket ∧
      socket.stage = .subscribed position ∧
      ((position + broadcastCapacity < server.events.length ∧
          next = { server with
            sockets := server.sockets.set index { socket with stage := .closed } }) ∨
        Exists fun event => server.events.length ≤ position + broadcastCapacity ∧
          server.events[position]? = some event ∧
          next = { server with
            sockets := server.sockets.set index (socket.handle position event sends) }) := by
  unfold receive at taken
  split at taken
  · next socket found =>
      split at taken
      · next position stage =>
          refine ⟨socket, position, found, stage, ?_⟩
          split at taken
          · next lagging =>
              cases taken
              exact Or.inl ⟨lagging, rfl⟩
          · next current =>
              split at taken
              · next event received =>
                  cases taken
                  exact Or.inr ⟨event, Nat.le_of_not_lt current, received, rfl⟩
              · cases taken
      · cases taken
  · cases taken

end Server

end EmbeddedAlerts
