import EmbeddedAlerts.Library.Framing
import EmbeddedAlerts.Server.Isolation

namespace EmbeddedAlerts

/-!
# The mutual TLS listener and its connections

`run_mtls` takes a permit for every socket that it accepts and gives the permit
to the task of that connection, which drops it however it ends.  A connection
reads one frame after the other and answers each before it reads the next.

The bytes of a connection arrive in pieces of any size, and the bytes of a
reply may reach the client in part only, when the send fails or times out.
What the two sides exchange is nevertheless determined by whole streams: the
frames in everything that arrived, and the frames in everything that was
written.

`arrived`, `taken` and `exchanges` are histories.  No step of the code reads
them.
-/

/-- `TCP_CONNECTION_LIMIT`. -/
def tcpConnectionLimit : Nat := 128

/-- A frame and the reply to it. -/
structure Exchange where
  frame : List UInt8
  reply : OperationReply

/-- `serde_json::to_vec`. -/
def Exchange.payload (format : JsonFormat) (exchange : Exchange) : List UInt8 :=
  Text.asBytes (exchange.reply.toJson format).compact

/-- Where the task of a connection waits. -/
inductive ConnectionStage where
  | handshaking
  | reading
  | writing (exchange : Exchange)
  | closed

def ConnectionStage.isClosed : ConnectionStage -> Bool
  | .closed => true
  | _ => false

structure Connection where
  stage : ConnectionStage
  reader : Framing.Reader
  written : List UInt8
  arrived : List UInt8
  taken : List (List UInt8)
  exchanges : List Exchange

def Connection.accepted : Connection := ⟨.handshaking, Framing.Reader.fresh, [], [], [], []⟩

inductive ConnectionAction where
  | handshake (completes : Bool)
  | arrive (bytes : List UInt8)
  | poll (answer : String -> AuthAnswer) (clock : Option UInt64) (outcome : ReadOutcome)
  | send
  | failSend (count : Nat)
  | hangUp

namespace Connection

/-- `framed.next()` and, when it yields a frame, the operation in it.  A reply
that is over the limit breaks the connection, as does a frame that is. -/
def poll (config : ServiceConfig) (store : AlertStore) (answer : String -> AuthAnswer)
    (clock : Option UInt64) (outcome : ReadOutcome) (connection : Connection) : Connection :=
  match connection.reader.pull maxFrameBytes with
  | (.waiting, next) => { connection with reader := next }
  | (.oversized, next) => { connection with reader := next, stage := .closed }
  | (.frame bytes, next) =>
      let reply := executeTcpOperation store config.policy answer config.decodeOperation bytes clock
        outcome
      { connection with
        reader := next
        taken := connection.taken ++ [bytes]
        stage := match mtlsFrame config.deployment.format reply with
          | some _ => .writing ⟨bytes, reply⟩
          | none => .closed }

/-- `framed.send(payload)` that returns in time. -/
def send (format : JsonFormat) (exchange : Exchange) (connection : Connection) : Connection :=
  { connection with
    stage := .reading
    written := connection.written ++ Framing.encode (exchange.payload format)
    exchanges := connection.exchanges ++ [exchange] }

/-- A send that fails or times out after some bytes.  When these are all of
them, the client has the reply. -/
def failSend (format : JsonFormat) (exchange : Exchange) (count : Nat) (connection : Connection) :
    Connection :=
  let encoded := Framing.encode (exchange.payload format)
  { connection with
    stage := .closed
    written := connection.written ++ encoded.take count
    exchanges :=
      if count < encoded.length then connection.exchanges
      else connection.exchanges ++ [exchange] }

def step (config : ServiceConfig) (store : AlertStore) (connection : Connection)
    (action : ConnectionAction) : Option Connection :=
  match connection.stage, action with
  | .handshaking, .handshake true => some { connection with stage := .reading }
  | .handshaking, .handshake false => some { connection with stage := .closed }
  | .reading, .arrive bytes | .writing _, .arrive bytes => some { connection with
      reader := connection.reader.feed bytes
      arrived := connection.arrived ++ bytes }
  | .reading, .poll answer clock outcome =>
      some (connection.poll config store answer clock outcome)
  | .reading, .hangUp => some { connection with stage := .closed }
  | .writing exchange, .send => some (connection.send config.deployment.format exchange)
  | .writing exchange, .failSend count =>
      some (connection.failSend config.deployment.format exchange count)
  | _, _ => none

end Connection

structure Listener where
  server : Server
  accepting : Bool
  permits : Nat
  connections : List Connection
  refused : Nat

namespace Listener

def initial (backend : Backend) : Listener :=
  ⟨Server.initial backend, true, tcpConnectionLimit, [], 0⟩

/-- The other transports go on.  A restart is a step of its own. -/
def serve (config : ServiceConfig) (action : ServerAction) (listener : Listener) :
    Option Listener :=
  match action with
  | .restart => none
  | action => (listener.server.step config action).map
      (fun server => { listener with server := server })

/-- `listener.accept()` and `try_acquire_owned`. -/
def accept (listener : Listener) : Option Listener :=
  if listener.accepting then
    match listener.permits with
    | 0 => some { listener with refused := listener.refused + 1 }
    | permits + 1 => some { listener with
        permits := permits
        connections := listener.connections ++ [Connection.accepted] }
  else none

/-- A failed accept ends the loop, but not the connections. -/
def failAccept (listener : Listener) : Option Listener :=
  some { listener with accepting := false }

/-- A task runs on.  When it ends, `_permit` is dropped. -/
def run (config : ServiceConfig) (index : Nat) (action : ConnectionAction) (listener : Listener) :
    Option Listener :=
  match listener.connections[index]? with
  | some connection =>
      (connection.step config listener.server.store action).map (fun next => { listener with
        permits := if next.stage.isClosed then listener.permits + 1 else listener.permits
        connections := listener.connections.set index next })
  | none => none

/-- The process starts anew, with a new listener. -/
def restart (listener : Listener) : Option Listener :=
  listener.server.restart.map (fun server => { listener with
    server := server
    accepting := true
    permits := tcpConnectionLimit
    connections := listener.connections.map
      (fun connection => { connection with stage := .closed }) })

end Listener

inductive ListenerAction where
  | serve (action : ServerAction)
  | accept
  | failAccept
  | run (index : Nat) (action : ConnectionAction)
  | restart

def Listener.step (config : ServiceConfig) (listener : Listener) :
    ListenerAction -> Option Listener
  | .serve action => listener.serve config action
  | .accept => listener.accept
  | .failAccept => listener.failAccept
  | .run index action => listener.run config index action
  | .restart => listener.restart

/-- Reachable from an empty store of either kind and a new listener. -/
def Listener.Reachable (config : ServiceConfig) : Listener -> Prop :=
  Runs.Reachable (Listener.step config)
    (fun listener => Exists fun backend => listener = Listener.initial backend) Runs.anyStep

/-! ## What a step can do -/

section

variable {config : ServiceConfig} {listener next : Listener}

/-- A task that has ended takes no step. -/
theorem Connection.isClosed_of_step {store : AlertStore} {connection later : Connection}
    {action : ConnectionAction} (taken : connection.step config store action = some later) :
    connection.stage.isClosed = false := by
  unfold Connection.step at taken
  cases stage : connection.stage with
  | closed =>
      rw [stage] at taken
      cases taken
  | handshaking => rfl
  | reading => rfl
  | writing exchange => rfl

theorem Listener.serve_cases {action : ServerAction}
    (taken : listener.serve config action = some next) :
    Exists fun server => listener.server.step config action = some server ∧
      next = { listener with server := server } := by
  unfold Listener.serve at taken
  split at taken
  · cases taken
  · rcases Option.map_eq_some_iff.mp taken with ⟨server, stepped, rfl⟩
    exact ⟨server, stepped, rfl⟩

theorem Listener.accept_cases (taken : listener.accept = some next) :
    (listener.permits = 0 ∧ next = { listener with refused := listener.refused + 1 }) ∨
      Exists fun permits => listener.permits = permits + 1 ∧ next = { listener with
        permits := permits
        connections := listener.connections ++ [Connection.accepted] } := by
  unfold Listener.accept at taken
  split at taken
  · split at taken
    · next none =>
        cases taken
        exact Or.inl ⟨none, rfl⟩
    · next permits some =>
        cases taken
        exact Or.inr ⟨permits, some, rfl⟩
  · cases taken

theorem Listener.run_cases {index : Nat} {action : ConnectionAction}
    (taken : listener.run config index action = some next) :
    Exists fun connection => Exists fun later => listener.connections[index]? = some connection ∧
      connection.step config listener.server.store action = some later ∧
      next = { listener with
        permits := if later.stage.isClosed then listener.permits + 1 else listener.permits
        connections := listener.connections.set index later } := by
  unfold Listener.run at taken
  split at taken
  · next connection found =>
      rcases Option.map_eq_some_iff.mp taken with ⟨later, stepped, rfl⟩
      exact ⟨connection, later, found, stepped, rfl⟩
  · cases taken

theorem Listener.restart_cases (config : ServiceConfig) (taken : listener.restart = some next) :
    Exists fun server => listener.server.step config .restart = some server ∧
      next = { listener with
        server := server
        accepting := true
        permits := tcpConnectionLimit
        connections := listener.connections.map
          (fun connection => { connection with stage := .closed }) } := by
  unfold Listener.restart at taken
  rcases Option.map_eq_some_iff.mp taken with ⟨server, stepped, rfl⟩
  exact ⟨server, stepped, rfl⟩

end

/-! ## Permits -/

/-- The connections whose task has not ended. -/
def Listener.live (listener : Listener) : Nat :=
  listener.connections.countP (fun connection => !connection.stage.isClosed)

/-- Every permit is either free or with a task that runs. -/
def Listener.Balanced (listener : Listener) : Prop :=
  listener.live + listener.permits = tcpConnectionLimit

theorem Listener.Balanced.run {config : ServiceConfig} {listener next : Listener} {index : Nat}
    {action : ConnectionAction} (balanced : listener.Balanced)
    (taken : listener.run config index action = some next) : next.Balanced := by
  rcases Listener.run_cases taken with ⟨connection, later, found, stepped, rfl⟩
  have held := Connection.isClosed_of_step stepped
  rcases List.getElem?_eq_some_iff.mp found with ⟨inside, same⟩
  -- The task that moves is one of those that are counted.
  have counted : 0 < listener.live := by
    refine List.countP_pos_iff.mpr ⟨connection, List.mem_of_getElem? found, ?_⟩
    rw [held]
    rfl
  unfold Listener.Balanced Listener.live at *
  rw [List.countP_set inside, same, held]
  cases later.stage.isClosed with
  | false =>
      simp only [Bool.not_false, if_true, Bool.false_eq_true, if_false]
      omega
  | true =>
      simp only [Bool.not_false, if_true, Bool.not_true, Bool.false_eq_true, if_false]
      omega

theorem Listener.Balanced.step {config : ServiceConfig} {listener next : Listener}
    {action : ListenerAction} (balanced : listener.Balanced)
    (taken : listener.step config action = some next) : next.Balanced := by
  cases action with
  | serve action =>
      rcases Listener.serve_cases taken with ⟨server, _, rfl⟩
      exact balanced
  | accept =>
      rcases Listener.accept_cases taken with ⟨_, rfl⟩ | ⟨permits, free, rfl⟩
      · exact balanced
      · unfold Listener.Balanced Listener.live at *
        have fresh : [Connection.accepted].countP
            (fun connection => !connection.stage.isClosed) = 1 := rfl
        rw [List.countP_append, fresh]
        dsimp only
        omega
  | failAccept =>
      cases taken
      exact balanced
  | run index action => exact balanced.run taken
  | restart =>
      rcases Listener.restart_cases config taken with ⟨server, _, rfl⟩
      have ended : (listener.connections.map (fun connection =>
          { connection with stage := .closed })).countP
          (fun connection => !connection.stage.isClosed) = 0 := by
        rw [List.countP_eq_zero]
        intro connection member
        rcases List.mem_map.mp member with ⟨earlier, _, rfl⟩
        simp [ConnectionStage.isClosed]
      unfold Listener.Balanced Listener.live
      rw [ended, Nat.zero_add]

theorem Listener.Reachable.balanced {config : ServiceConfig} {listener : Listener}
    (reached : Listener.Reachable config listener) : listener.Balanced := by
  refine Runs.Reachable.invariant ?_ ?_ reached
  · rintro state ⟨backend, rfl⟩
    rfl
  · intro state action next balanced _ taken
    exact balanced.step taken

/-! ## What a connection exchanges -/

/-- The reply is what the operation in the frame answered at some moment of the
service, and it fits into a frame. -/
def Exchange.Sound (config : ServiceConfig) (exchange : Exchange) : Prop :=
  (exchange.payload config.deployment.format).length ≤ maxFrameBytes ∧
    Exists fun server => Exists fun answer => Exists fun clock => Exists fun outcome =>
      Server.Reachable config server ∧
      exchange.reply = executeTcpOperation server.store config.policy answer config.decodeOperation
        exchange.frame clock outcome

/-- The frames that were taken are those answered, and the one that is being
answered.  A connection may have ended without an answer to its last frame. -/
def Connection.Answered (config : ServiceConfig) (connection : Connection) : Prop :=
  match connection.stage with
  | .writing exchange => exchange.Sound config ∧
      connection.taken = connection.exchanges.map Exchange.frame ++ [exchange.frame]
  | .closed => connection.exchanges.map Exchange.frame <+: connection.taken
  | _ => connection.taken = connection.exchanges.map Exchange.frame

/-- What holds of a connection after every step.  Past the replies there is at
most a part of another one, and only if the connection has ended. -/
structure Connection.Transcript (config : ServiceConfig) (connection : Connection) : Prop where
  within : connection.reader.Within maxFrameBytes
  small : forall bytes, bytes ∈ connection.taken -> bytes.length ≤ maxFrameBytes
  arrived : connection.arrived =
    connection.taken.flatMap Framing.encode ++ connection.reader.unread
  answered : connection.Answered config
  written : Exists fun part => Framing.Blocked maxFrameBytes part ∧
    (connection.stage.isClosed = false -> part = []) ∧
    connection.written = (connection.exchanges.map
      (Exchange.payload config.deployment.format)).flatMap Framing.encode ++ part
  sound : forall exchange, exchange ∈ connection.exchanges -> exchange.Sound config

theorem maxFrameBytes_lt : maxFrameBytes < 2 ^ 32 := by decide

theorem Framing.blocked_nil : Framing.Blocked maxFrameBytes [] :=
  Framing.blocked_of_short (by decide)

section

variable {config : ServiceConfig} {connection next : Connection}

theorem Connection.Answered.isPrefix (answered : connection.Answered config) :
    connection.exchanges.map Exchange.frame <+: connection.taken := by
  unfold Connection.Answered at answered
  split at answered
  · rw [answered.2]
    exact List.prefix_append _ _
  · exact answered
  · rw [answered]

theorem Connection.transcript_accepted (config : ServiceConfig) :
    Connection.accepted.Transcript config where
  within := fun _ impossible => by cases impossible
  small := fun _ impossible => by cases impossible
  arrived := rfl
  answered := rfl
  written := ⟨[], Framing.blocked_nil, fun _ => rfl, rfl⟩
  sound := fun _ impossible => by cases impossible

/-- The connection ends and nothing else changes. -/
theorem Connection.Transcript.close (transcript : connection.Transcript config) :
    ({ connection with stage := .closed } : Connection).Transcript config := by
  rcases transcript.written with ⟨part, blocked, _, written⟩
  exact ⟨transcript.within, transcript.small, transcript.arrived, transcript.answered.isPrefix,
    ⟨part, blocked, fun impossible => (nomatch impossible), written⟩, transcript.sound⟩

theorem Connection.Transcript.arrive (transcript : connection.Transcript config)
    (bytes : List UInt8) : ({ connection with
      reader := connection.reader.feed bytes
      arrived := connection.arrived ++ bytes } : Connection).Transcript config where
  within := transcript.within
  small := transcript.small
  arrived := by rw [Framing.unread_feed, transcript.arrived, List.append_assoc]
  answered := transcript.answered
  written := transcript.written
  sound := transcript.sound

/-- The payload of a frame that is sent is within the limit. -/
theorem Exchange.length_payload {format : JsonFormat} {exchange : Exchange} {bytes : List UInt8}
    (fits : mtlsFrame format exchange.reply = some bytes) :
    (exchange.payload format).length ≤ maxFrameBytes :=
  (mtlsFrame_isSome_iff format exchange.reply).mp (Option.isSome_of_eq_some fits)

theorem Connection.Transcript.poll (transcript : connection.Transcript config)
    (reading : connection.stage = .reading) {server : Server}
    (reached : Server.Reachable config server) (answer : String -> AuthAnswer)
    (clock : Option UInt64) (outcome : ReadOutcome) :
    (connection.poll config server.store answer clock outcome).Transcript config := by
  have taken : connection.taken = connection.exchanges.map Exchange.frame := by
    have answered := transcript.answered
    rw [Connection.Answered, reading] at answered
    exact answered
  unfold Connection.poll
  split
  · next later pulled =>
      rcases Framing.pull_waiting transcript.within pulled with ⟨unread, within⟩
      exact ⟨within, transcript.small, unread ▸ transcript.arrived, transcript.answered,
        transcript.written, transcript.sound⟩
  · next later pulled =>
      have same : later = connection.reader := by
        rcases Framing.pull_cases transcript.within with ⟨_, waits⟩ | ⟨_, _, _, _, _, refuses⟩ |
          ⟨length, rest, _, _, takes⟩
        · rw [waits] at pulled
          cases pulled
        · rw [refuses] at pulled
          cases pulled
          rfl
        · rw [takes] at pulled
          exact absurd (congrArg Prod.fst pulled) (Framing.pullData_ne_oversized length rest)
      subst same
      exact transcript.close
  · next bytes later pulled =>
      rcases Framing.pull_frame transcript.within pulled with ⟨short, unread, within⟩
      rcases transcript.written with ⟨part, blocked, open_, written⟩
      refine ⟨within, ?_, ?_, ?_, ⟨part, blocked, ?_, written⟩, transcript.sound⟩
      · intro other member
        rcases List.mem_append.mp member with before | same
        · exact transcript.small other before
        · rw [List.mem_singleton.mp same]
          exact short
      · rw [transcript.arrived, unread, List.flatMap_append, List.flatMap_singleton,
          List.append_assoc]
      · dsimp only [Connection.Answered]
        cases sent : mtlsFrame config.deployment.format (executeTcpOperation server.store
            config.policy answer config.decodeOperation bytes clock outcome) with
        | some payload =>
            exact ⟨⟨Exchange.length_payload sent, server, answer, clock, outcome, reached, rfl⟩,
              congrArg (· ++ [bytes]) taken⟩
        | none =>
            rw [taken]
            exact List.prefix_append _ _
      · intro _
        exact open_ (by rw [reading]; rfl)

theorem Connection.Transcript.send (transcript : connection.Transcript config)
    {exchange : Exchange} (writing : connection.stage = .writing exchange) :
    (connection.send config.deployment.format exchange).Transcript config := by
  have answered := transcript.answered
  rw [Connection.Answered, writing] at answered
  rcases transcript.written with ⟨part, _, open_, written⟩
  have whole : part = [] := open_ (by rw [writing]; rfl)
  refine ⟨transcript.within, transcript.small, transcript.arrived, ?_, ⟨[], Framing.blocked_nil,
    fun _ => rfl, ?_⟩, ?_⟩
  · rw [Connection.Answered]
    dsimp only [Connection.send]
    rw [answered.2, List.map_append, List.map_singleton]
  · dsimp only [Connection.send]
    rw [written, whole, List.map_append, List.map_singleton, List.flatMap_append,
      List.flatMap_singleton, List.append_nil, List.append_nil]
  · intro other member
    rcases List.mem_append.mp member with before | same
    · exact transcript.sound other before
    · rw [List.mem_singleton.mp same]
      exact answered.1

theorem Connection.Transcript.failSend (transcript : connection.Transcript config)
    {exchange : Exchange} (writing : connection.stage = .writing exchange) (count : Nat) :
    (connection.failSend config.deployment.format exchange count).Transcript config := by
  have answered := transcript.answered
  rw [Connection.Answered, writing] at answered
  by_cases partly : count < (Framing.encode (exchange.payload config.deployment.format)).length
  · rcases transcript.written with ⟨part, _, open_, written⟩
    have whole : part = [] := open_ (by rw [writing]; rfl)
    have same : connection.failSend config.deployment.format exchange count =
        { connection with
          stage := .closed
          written := connection.written ++
            (Framing.encode (exchange.payload config.deployment.format)).take count } := by
      simp only [Connection.failSend, if_pos partly]
    rw [same]
    refine ⟨transcript.within, transcript.small, transcript.arrived,
      transcript.answered.isPrefix, ⟨_, Framing.blocked_of_part maxFrameBytes_lt answered.1.1 partly,
        fun impossible => (nomatch impossible), ?_⟩, transcript.sound⟩
    rw [written, whole, List.append_nil]
  · -- Every byte of the reply was written: the client has it, as after a send.
    have same : connection.failSend config.deployment.format exchange count =
        { connection.send config.deployment.format exchange with stage := .closed } := by
      simp only [Connection.failSend, if_neg partly, Connection.send,
        List.take_of_length_le (Nat.le_of_not_lt partly)]
    rw [same]
    exact (transcript.send writing).close

theorem Connection.Transcript.step (transcript : connection.Transcript config) {server : Server}
    (reached : Server.Reachable config server) {action : ConnectionAction}
    (taken : connection.step config server.store action = some next) :
    next.Transcript config := by
  unfold Connection.step at taken
  split at taken
  · next stage =>
      cases taken
      have answered := transcript.answered
      rw [Connection.Answered, stage] at answered
      rcases transcript.written with ⟨part, blocked, open_, written⟩
      exact ⟨transcript.within, transcript.small, transcript.arrived, answered,
        ⟨part, blocked, fun _ => open_ (by rw [stage]; rfl), written⟩, transcript.sound⟩
  · cases taken
    exact transcript.close
  · cases taken
    exact transcript.arrive _
  · cases taken
    exact transcript.arrive _
  · next stage =>
      cases taken
      exact transcript.poll stage reached _ _ _
  · cases taken
    exact transcript.close
  · next stage =>
      cases taken
      exact transcript.send stage
  · next stage =>
      cases taken
      exact transcript.failSend stage _
  · cases taken

end

/-! ## Every connection of the listener -/

/-- The identifier that a reply to a frame carries. -/
def ServiceConfig.operationId (config : ServiceConfig) (frame : List UInt8) : Uuid :=
  match config.decodeOperation frame with
  | some request => request.envelope.operationId
  | none => Uuid.nil

theorem listReply_operationId (store : AlertStore) (operationId : Uuid) (actor : VerifiedActor)
    (outcome : ReadOutcome) :
    (listReply store operationId actor outcome).operationId = operationId := by
  cases outcome with
  | answered =>
      cases listed : store.list actor with
      | ok alerts => simp only [listReply, listed, completedReply]
      | error failure => simp only [listReply, listed, errorReply]
  | failed => rfl
  | timedOut => rfl

/-- A refusal and an admission both name the operation of the request. -/
theorem authorizeOperation_operationId {config : ServiceConfig} {answer : String -> AuthAnswer}
    {frame : List UInt8} {clock : Option UInt64}
    {result : Except OperationReply (Uuid × VerifiedActor)}
    (answered : authorizeOperation config.policy answer config.decodeOperation frame clock = result) :
    (forall reply, result = .error reply -> reply.operationId = config.operationId frame) ∧
      forall admission, result = .ok admission -> admission.1 = config.operationId frame := by
  have refused : forall text, result = .error (errorReply (config.operationId frame) text) ->
      (forall reply, result = .error reply -> reply.operationId = config.operationId frame) ∧
        forall admission, result = .ok admission -> admission.1 = config.operationId frame := by
    rintro text rfl
    refine ⟨?_, fun _ impossible => (nomatch impossible)⟩
    intro reply same
    cases same
    rfl
  unfold authorizeOperation at answered
  split at answered
  · next undecoded =>
      refine refused "invalid_request" ?_
      rw [ServiceConfig.operationId, undecoded]
      exact answered.symm
  · next request decoded =>
      have named : config.operationId frame = request.envelope.operationId := by
        rw [ServiceConfig.operationId, decoded]
      rw [named] at refused ⊢
      dsimp only at answered
      split at answered
      · exact refused _ answered.symm
      · split at answered
        · exact refused _ answered.symm
        · split at answered
          · exact refused _ answered.symm
          · split at answered
            · exact refused _ answered.symm
            · split at answered
              · subst answered
                refine ⟨fun _ impossible => (nomatch impossible), ?_⟩
                intro admission same
                cases same
                rfl
              · exact refused _ answered.symm

/-- Whatever is answered, it is answered under the identifier of the request. -/
theorem executeTcpOperation_operationId (config : ServiceConfig) (store : AlertStore)
    (answer : String -> AuthAnswer) (frame : List UInt8) (clock : Option UInt64)
    (outcome : ReadOutcome) :
    (executeTcpOperation store config.policy answer config.decodeOperation frame clock
      outcome).operationId = config.operationId frame := by
  unfold executeTcpOperation
  split
  · next reply refused => exact (authorizeOperation_operationId refused).1 reply rfl
  · next operationId actor admitted =>
      rw [listReply_operationId]
      exact (authorizeOperation_operationId admitted).2 (operationId, actor) rfl

/-- The service is in a reachable state and every connection is as its
transcript says. -/
structure Listener.Transcribed (config : ServiceConfig) (listener : Listener) : Prop where
  server : Server.Reachable config listener.server
  connections : forall connection, connection ∈ listener.connections ->
    connection.Transcript config

theorem Listener.Transcribed.step {config : ServiceConfig} {listener next : Listener}
    {action : ListenerAction} (transcribed : listener.Transcribed config)
    (taken : listener.step config action = some next) : next.Transcribed config := by
  cases action with
  | serve action =>
      rcases Listener.serve_cases taken with ⟨server, stepped, rfl⟩
      exact ⟨.step transcribed.server trivial stepped, transcribed.connections⟩
  | accept =>
      rcases Listener.accept_cases taken with ⟨_, rfl⟩ | ⟨permits, _, rfl⟩
      · exact ⟨transcribed.server, transcribed.connections⟩
      · refine ⟨transcribed.server, ?_⟩
        intro connection member
        rcases List.mem_append.mp member with before | same
        · exact transcribed.connections connection before
        · rw [List.mem_singleton.mp same]
          exact Connection.transcript_accepted config
  | failAccept =>
      cases taken
      exact ⟨transcribed.server, transcribed.connections⟩
  | run index action =>
      rcases Listener.run_cases taken with ⟨connection, later, found, stepped, rfl⟩
      refine ⟨transcribed.server, ?_⟩
      intro other member
      rcases List.mem_or_eq_of_mem_set member with before | rfl
      · exact transcribed.connections other before
      · exact (transcribed.connections connection (List.mem_of_getElem? found)).step
          transcribed.server stepped
  | restart =>
      rcases Listener.restart_cases config taken with ⟨server, stepped, rfl⟩
      refine ⟨.step transcribed.server trivial stepped, ?_⟩
      intro connection member
      rcases List.mem_map.mp member with ⟨earlier, before, rfl⟩
      exact (transcribed.connections earlier before).close

theorem Listener.Reachable.transcribed {config : ServiceConfig} {listener : Listener}
    (reached : Listener.Reachable config listener) : listener.Transcribed config := by
  refine Runs.Reachable.invariant ?_ ?_ reached
  · rintro state ⟨backend, rfl⟩
    exact ⟨.start ⟨backend, rfl⟩, fun _ impossible => nomatch impossible⟩
  · intro state action next transcribed _ taken
    exact transcribed.step taken

/-- Under any interleaving of sockets, frames and failures the permits add up:
at most 128 tasks run, each of them holds a permit, and a socket that is
accepted is turned away exactly when 128 tasks run. -/
theorem connection_permits_conserved {config : ServiceConfig} {listener : Listener}
    (reached : Listener.Reachable config listener) :
    listener.live + listener.permits = tcpConnectionLimit ∧
      forall next, listener.step config .accept = some next ->
        (next.live = listener.live ∧ next.refused = listener.refused + 1 ∧
            listener.live = tcpConnectionLimit) ∨
          (next.live = listener.live + 1 ∧ next.refused = listener.refused ∧
            listener.live < tcpConnectionLimit) := by
  have balanced := reached.balanced
  refine ⟨balanced, ?_⟩
  intro next taken
  have later : next.Balanced := balanced.step taken
  unfold Listener.Balanced at balanced later
  rcases Listener.accept_cases taken with ⟨none, rfl⟩ | ⟨permits, free, rfl⟩
  · exact Or.inl ⟨rfl, rfl, by omega⟩
  · refine Or.inr ⟨?_, rfl, by omega⟩
    dsimp only at later
    omega

/-- A connection whose second frame follows its first in one piece, and whose
second reply is cut off after five bytes. -/
def cutRun : List ListenerAction :=
  let frame := Framing.encode (Text.asBytes "\x7b\x7d")
  let poll := ConnectionAction.poll (sampleRequest 1).answer (some 2000000000000) .answered
  [.accept, .run 0 (.handshake true), .run 0 (.arrive (frame.take 3)), .run 0 poll,
    .run 0 (.arrive (frame.drop 3 ++ frame)), .run 0 poll, .run 0 .send, .accept, .run 0 poll,
    .run 0 (.failSend 5)]

def cutListener : Option Listener :=
  Runs.execute (Listener.step sampleService) Runs.unchecked (Listener.initial .fallback) cutRun

theorem cutListener_shown : cutListener.map (fun listener => (listener.live,
      listener.connections.map (fun connection =>
        (connection.taken.length, connection.exchanges.map (fun exchange => exchange.reply.error))))) =
    some (1, [(2, [some "invalid_request"]), (0, [])]) := by
  decide +kernel

theorem cutListener_permits : Exists fun listener => Listener.Reachable sampleService listener ∧
    listener.live = 1 ∧ listener.permits = 127 := by
  rcases Option.map_eq_some_iff.mp cutListener_shown with ⟨listener, done, shown⟩
  have reached : Listener.Reachable sampleService listener :=
    Runs.Reachable.execute (fun _ _ _ => trivial) (.start ⟨.fallback, rfl⟩) done
  have conserved := (connection_permits_conserved reached).1
  rcases Prod.mk.inj shown with ⟨live, _⟩
  rw [live] at conserved
  refine ⟨listener, reached, live, ?_⟩
  change 1 + listener.permits = 128 at conserved
  omega

/-- However the bytes are cut and whatever fails: the frames that a client
finds in what it is sent are the replies to the first of its own frames, in
their order, each under the identifier of its request.  A connection that reads
has answered every frame that it took, and the next complete frame that has
arrived is the next that it takes. -/
theorem connection_replies_in_order {config : ServiceConfig} {listener : Listener}
    (reached : Listener.Reachable config listener) {connection : Connection}
    (member : connection ∈ listener.connections) :
    Framing.frames maxFrameBytes connection.written =
        connection.exchanges.map (Exchange.payload config.deployment.format) ∧
      connection.exchanges.map Exchange.frame <+:
        Framing.frames maxFrameBytes connection.arrived ∧
      (forall exchange, exchange ∈ connection.exchanges -> exchange.Sound config ∧
        exchange.reply.operationId = config.operationId exchange.frame) ∧
      (connection.stage = .reading -> forall frame,
        (Framing.frames maxFrameBytes connection.arrived)[connection.exchanges.length]? =
            some frame ->
          (connection.reader.pull maxFrameBytes).1 = .frame frame) := by
  have transcript := reached.transcribed.connections connection member
  have arrived : Framing.frames maxFrameBytes connection.arrived = connection.taken ++
      Framing.frames maxFrameBytes connection.reader.unread := by
    rw [transcript.arrived]
    exact Framing.frames_append maxFrameBytes_lt transcript.small _
  refine ⟨?_, ?_, ?_, ?_⟩
  · rcases transcript.written with ⟨part, blocked, _, written⟩
    refine Framing.frames_of_eq maxFrameBytes_lt ?_ blocked written
    intro payload present
    rcases List.mem_map.mp present with ⟨exchange, answered, rfl⟩
    exact (transcript.sound exchange answered).1
  · rw [arrived]
    exact transcript.answered.isPrefix.trans (List.prefix_append _ _)
  · intro exchange answered
    have sound := transcript.sound exchange answered
    refine ⟨sound, ?_⟩
    rcases sound.2 with ⟨server, answer, clock, outcome, _, same⟩
    rw [same]
    exact executeTcpOperation_operationId config server.store answer exchange.frame clock outcome
  · intro reading frame found
    have answered := transcript.answered
    rw [Connection.Answered, reading] at answered
    have count : connection.exchanges.length = connection.taken.length := by
      rw [answered, List.length_map]
    rw [arrived, count, List.getElem?_append_right (Nat.le_refl _), Nat.sub_self] at found
    rcases Framing.exists_frames maxFrameBytes connection.reader.unread with
      ⟨parts, rest, small, blocked, unread⟩
    rw [Framing.frames_of_eq maxFrameBytes_lt small blocked unread] at found
    cases parts with
    | nil => cases found
    | cons first others =>
        have same : first = frame := Option.some.inj found
        subst same
        rw [List.flatMap_cons, List.append_assoc] at unread
        rcases Framing.pull_of_unread transcript.within maxFrameBytes_lt
          (small first List.mem_cons_self) unread with ⟨later, pulled, _⟩
        rw [pulled]

theorem cutListener_replies : Exists fun listener => Exists fun connection =>
    Listener.Reachable sampleService listener ∧ connection ∈ listener.connections ∧
      connection.taken.length = 2 ∧
      Framing.frames maxFrameBytes connection.written =
        connection.exchanges.map (Exchange.payload sampleService.deployment.format) ∧
      connection.exchanges.map (fun exchange => exchange.reply.error) =
        [some "invalid_request"] := by
  rcases Option.map_eq_some_iff.mp cutListener_shown with ⟨listener, done, shown⟩
  have reached : Listener.Reachable sampleService listener :=
    Runs.Reachable.execute (fun _ _ _ => trivial) (.start ⟨.fallback, rfl⟩) done
  rcases Prod.mk.inj shown with ⟨_, connections⟩
  have member : (2, [some "invalid_request"]) ∈ listener.connections.map (fun connection =>
      (connection.taken.length,
        connection.exchanges.map (fun exchange => exchange.reply.error))) := by
    rw [connections]
    exact List.mem_cons_self
  rcases List.mem_map.mp member with ⟨connection, present, same⟩
  rcases Prod.mk.inj same with ⟨taken, errors⟩
  exact ⟨listener, connection, reached, present, taken,
    (connection_replies_in_order reached present).1, errors⟩

end EmbeddedAlerts
