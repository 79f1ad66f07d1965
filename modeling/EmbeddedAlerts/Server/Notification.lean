import EmbeddedAlerts.Server.Stream

namespace EmbeddedAlerts

/-!
# From a committed create to an open socket

A create commits its alert in the store and broadcasts it in a later step of
the same handler.  A session gets its upgrade response first and subscribes to
the channel in a later step of its own task.  Nothing orders the two tasks.

An alert reaches the socket when its event is sent after the subscription and
its handler lives to send it.  Between the upgrade response and the
subscription an event is sent to nobody, and a handler that is dropped after the
commit sends none at all.
-/

namespace Server

/-- Nothing is left for this session: it has received every event sent, and
no create of its actor is still on its way to the channel. -/
def Drained (server : Server) (index : Nat) : Prop :=
  Exists fun socket => server.sockets[index]? = some socket ∧
    socket.stage = .subscribed server.events.length ∧
    forall event, event ∈ server.creating -> event.owner ≠ socket.actor

/-- The alerts of the actor that were committed after the first `count` are
among the messages of the socket. -/
def Notified (server : Server) (index count : Nat) (actor : VerifiedActor) : Prop :=
  forall alert, (actor, alert) ∈ server.created.drop count ->
    Exists fun socket => server.sockets[index]? = some socket ∧
      Exists fun event => event ∈ socket.sent ∧ event.alert = alert

/-- The event at this place of the handlers' list belongs to an alert of the
actor that was committed after the first `count`. -/
def Due (server : Server) (place count : Nat) (actor : VerifiedActor) : Prop :=
  Exists fun event => server.creating[place]? = some event ∧ event.owner = actor ∧
    (actor, event.alert) ∈ server.created.drop count

/-- The session's stage, where it has one. -/
def stageIs (server : Server) (index : Nat) (stage : SocketStage) : Prop :=
  Exists fun socket => server.sockets[index]? = some socket ∧ socket.stage = stage

/-- An event that is due is not sent before the session has subscribed, and
its handler is not dropped while the session is open. -/
def KeepsDue (index count : Nat) (actor : VerifiedActor) (server : Server) :
    StreamAction -> Prop
  | .server (.announce place) => server.Due place count actor ->
      Not (server.stageIs index .upgraded)
  | .server (.abandon place) => server.Due place count actor -> server.stageIs index .closed
  | _ => True

/-! ## Where a committed alert is -/

/-- With its handler, in the channel ahead of the session, or sent. -/
def OnItsWay (server : Server) (socket : Socket) (alert : AlertRule) : Prop :=
  (Exists fun event => event ∈ server.creating ∧ event.owner = socket.actor ∧
    event.alert = alert) ∨
  (Exists fun position => Exists fun place => Exists fun event =>
    socket.stage = .subscribed position ∧ position ≤ place ∧
    server.events[place]? = some event ∧ event.owner = socket.actor ∧ event.alert = alert) ∨
  Exists fun event => event ∈ socket.sent ∧ event.alert = alert

/-- Unless the session has ended, no alert that is due is lost. -/
def Tracked (index count : Nat) (actor : VerifiedActor) (server : Server) : Prop :=
  count ≤ server.created.length ∧
  Exists fun socket => server.sockets[index]? = some socket ∧ socket.actor = actor ∧
    (socket.stage = .closed ∨
      (forall position, socket.stage = .subscribed position -> position ≤ server.events.length) ∧
      forall alert, (actor, alert) ∈ server.created.drop count -> server.OnItsWay socket alert)

variable {config : ServiceConfig} {server next : Server} {index count : Nat}
  {actor : VerifiedActor}

/-- An event that the session takes is sent, or it is not the actor's. -/
theorem onItsWay_handle {socket : Socket} {position : Nat} {event : ScopedAlertEvent}
    {sends : Bool} (subscribed : socket.stage = .subscribed position)
    (received : server.events[position]? = some event) :
    (socket.handle position event sends).stage = .closed ∨
      (socket.handle position event sends).stage = .subscribed (position + 1) ∧
      forall alert, server.OnItsWay socket alert ->
        server.OnItsWay (socket.handle position event sends) alert := by
  -- What is ahead of the session is the event it takes, or stays ahead.
  have ahead : forall alert, server.OnItsWay socket alert ->
      (Exists fun other => other ∈ server.creating ∧ other.owner = socket.actor ∧
        other.alert = alert) ∨
      (event.owner = socket.actor ∧ event.alert = alert) ∨
      (Exists fun place => Exists fun other => position + 1 ≤ place ∧
        server.events[place]? = some other ∧ other.owner = socket.actor ∧ other.alert = alert) ∨
      Exists fun other => other ∈ socket.sent ∧ other.alert = alert := by
    intro alert onWay
    rcases onWay with waiting | ⟨reached, place, other, stage, later, found, owner, same⟩ | sent
    · exact Or.inl waiting
    · rw [subscribed] at stage
      cases stage
      by_cases here : place = position
      · subst place
        rw [received] at found
        cases found
        exact Or.inr (Or.inl ⟨owner, same⟩)
      · exact Or.inr (Or.inr (Or.inl ⟨place, other, by omega, found, owner, same⟩))
    · exact Or.inr (Or.inr (Or.inr sent))
  unfold Socket.handle
  by_cases visible : event.visible socket.actor = true
  · rw [if_pos visible]
    cases sends with
    | false => exact Or.inl rfl
    | true =>
        refine Or.inr ⟨rfl, fun alert onWay => ?_⟩
        rcases ahead alert onWay with waiting | ⟨_, same⟩ | ⟨place, other, later, rest⟩ |
          ⟨other, sent, same⟩
        · exact Or.inl waiting
        · exact Or.inr (Or.inr ⟨event, List.mem_append_right _ (List.mem_singleton_self _), same⟩)
        · exact Or.inr (Or.inl ⟨position + 1, place, other, rfl, later, rest⟩)
        · exact Or.inr (Or.inr ⟨other, List.mem_append_left _ sent, same⟩)
  · rw [if_neg visible]
    refine Or.inr ⟨rfl, fun alert onWay => ?_⟩
    rcases ahead alert onWay with waiting | ⟨owner, _⟩ | ⟨place, other, later, rest⟩ | sent
    · exact Or.inl waiting
    · exact absurd ((event.visible_iff socket.actor).mpr owner) visible
    · exact Or.inr (Or.inl ⟨position + 1, place, other, rfl, later, rest⟩)
    · exact Or.inr (Or.inr sent)

/-- Steps that move sessions and leave the creates and the channel alone. -/
theorem Tracked.moves (tracked : Tracked index count actor server)
    (creating : next.creating = server.creating) (created : next.created = server.created)
    (events : next.events = server.events)
    (sockets : forall socket, server.sockets[index]? = some socket ->
      Exists fun moved => next.sockets[index]? = some moved ∧ socket.Moves server.events moved) :
    Tracked index count actor next := by
  rcases tracked with ⟨within, socket, found, rfl, state⟩
  rcases sockets socket found with ⟨moved, there, moves⟩
  refine ⟨by rw [created]; exact within, moved, there, moves.actor, ?_⟩
  rcases state with closed | ⟨bounded, onWay⟩
  · rw [moves.eq_of_closed closed]
    exact Or.inl closed
  · rw [created, events]
    unfold OnItsWay at onWay ⊢
    rw [creating, events]
    cases moves with
    | stays => exact Or.inr ⟨bounded, onWay⟩
    | closes => exact Or.inl rfl
    | subscribes upgraded =>
        refine Or.inr ⟨?_, ?_⟩
        · intro position reached
          rw [← SocketStage.subscribed.inj reached]
        · intro alert due
          rcases onWay alert due with waiting | ⟨_, _, _, subscribed, _⟩ | sent
          · exact Or.inl waiting
          · rw [upgraded] at subscribed
            cases subscribed
          · exact Or.inr (Or.inr sent)
    | @receives position event sends subscribed received =>
        have inside : position + 1 ≤ server.events.length :=
          (List.getElem?_eq_some_iff.mp received).1
        rcases onItsWay_handle subscribed received with closed | ⟨stage, carried⟩
        · exact Or.inl closed
        · refine Or.inr ⟨?_, fun alert due => carried alert (onWay alert due)⟩
          intro reached again
          rw [stage] at again
          cases again
          exact inside

/-- A create puts its alert into the hands of its handler. -/
theorem Tracked.create (tracked : Tracked index count actor server) {request : Request}
    {input : CreateAlertRule} {id : Uuid} {now : DateTime}
    (taken : server.create config request input id now = some next) :
    Tracked index count actor next := by
  rcases create_cases taken with ⟨store, event, _, _, rfl⟩
  rcases tracked with ⟨within, socket, found, rfl, state⟩
  have same := server.withStore_frame store
  refine ⟨?_, socket, ?_, rfl, ?_⟩
  · change count ≤ (server.created ++ _).length
    rw [List.length_append]
    omega
  · change (server.withStore store).sockets[index]? = some socket
    rw [same.2]
    exact found
  · rcases state with closed | ⟨bounded, onWay⟩
    · exact Or.inl closed
    · refine Or.inr ⟨?_, ?_⟩
      · change forall position, _ -> position ≤ (server.withStore store).events.length
        rw [same.1]
        exact bounded
      · intro alert due
        change (socket.actor, alert) ∈ (server.created ++ [(event.owner, event.alert)]).drop count
          at due
        rw [List.drop_append_of_le_length within, List.mem_append] at due
        rcases due with earlier | last
        · rcases onWay alert earlier with ⟨other, waiting, rest⟩ | ahead | sent
          · exact Or.inl ⟨other, List.mem_append_left _ waiting, rest⟩
          · refine Or.inr (Or.inl ?_)
            change Exists fun position => Exists fun place => Exists fun other => _ ∧ _ ∧
              (server.withStore store).events[place]? = some other ∧ _
            rw [same.1]
            exact ahead
          · exact Or.inr (Or.inr sent)
        · have pair := Prod.mk.inj (List.mem_singleton.mp last)
          exact Or.inl ⟨event, List.mem_append_right _ (List.mem_singleton_self _),
            pair.1.symm, pair.2.symm⟩

/-- A value that a removal takes away was at the place it removes. -/
private theorem mem_eraseIdx_or {α : Type} {items : List α} {item : α} (place : Nat)
    (member : item ∈ items) : item ∈ items.eraseIdx place ∨ items[place]? = some item := by
  rcases List.getElem?_of_mem member with ⟨found, there⟩
  by_cases same : found = place
  · exact Or.inr (same ▸ there)
  · exact Or.inl (List.mem_eraseIdx_iff_getElem?.mpr ⟨found, same, there⟩)

/-- The event of a due alert is sent to a session that has subscribed. -/
theorem Tracked.announce (tracked : Tracked index count actor server) {place : Nat}
    (keeps : server.Due place count actor -> Not (server.stageIs index .upgraded))
    (taken : server.announce place = some next) : Tracked index count actor next := by
  unfold Server.announce at taken
  split at taken
  · next event announced =>
      cases taken
      rcases tracked with ⟨within, socket, found, rfl, state⟩
      refine ⟨within, socket, found, rfl, ?_⟩
      by_cases closed : socket.stage = .closed
      · exact Or.inl closed
      · rcases state.resolve_left closed with ⟨bounded, onWay⟩
        refine Or.inr ⟨?_, ?_⟩
        · intro position stage
          change position ≤ (server.events ++ [event]).length
          rw [List.length_append]
          exact (bounded position stage).trans (Nat.le_add_right _ _)
        · intro alert due
          rcases onWay alert due with ⟨other, waiting, owner, same⟩ |
            ⟨position, reached, other, stage, later, there, rest⟩ | sent
          · rcases mem_eraseIdx_or place waiting with kept | removed
            · exact Or.inl ⟨other, kept, owner, same⟩
            · rw [announced] at removed
              cases removed
              have notUpgraded := keeps ⟨event, announced, owner, by rw [same]; exact due⟩
              cases stage : socket.stage with
              | upgraded => exact absurd ⟨socket, found, stage⟩ notUpgraded
              | closed => exact absurd stage closed
              | subscribed position =>
                  refine Or.inr (Or.inl ⟨position, server.events.length, event, stage,
                    bounded position stage, ?_, owner, same⟩)
                  exact List.getElem?_concat_length
          · refine Or.inr (Or.inl ⟨position, reached, other, stage, later, ?_, rest⟩)
            exact (List.getElem?_append_left (List.getElem?_eq_some_iff.mp there).1).trans there
          · exact Or.inr (Or.inr sent)
  · cases taken

/-- A handler that is dropped takes no due alert of an open session with it. -/
theorem Tracked.abandon (tracked : Tracked index count actor server) {place : Nat}
    (keeps : server.Due place count actor -> server.stageIs index .closed)
    (taken : server.abandon place = some next) : Tracked index count actor next := by
  cases taken
  rcases tracked with ⟨within, socket, found, rfl, state⟩
  refine ⟨within, socket, found, rfl, ?_⟩
  by_cases closed : socket.stage = .closed
  · exact Or.inl closed
  · rcases state.resolve_left closed with ⟨bounded, onWay⟩
    refine Or.inr ⟨bounded, ?_⟩
    intro alert due
    rcases onWay alert due with ⟨other, waiting, owner, same⟩ | ahead | sent
    · rcases mem_eraseIdx_or place waiting with kept | removed
      · exact Or.inl ⟨other, kept, owner, same⟩
      · rcases keeps ⟨other, removed, owner, by rw [same]; exact due⟩ with ⟨there, again, stage⟩
        rw [found] at again
        cases again
        exact absurd stage closed
    · exact Or.inr (Or.inl ahead)
    · exact Or.inr (Or.inr sent)

/-- A restart ends every session. -/
theorem Tracked.restart (tracked : Tracked index count actor server)
    (taken : server.restart = some next) : Tracked index count actor next := by
  cases taken
  rcases tracked with ⟨within, socket, found, owner, _⟩
  refine ⟨within, { socket with stage := .closed }, ?_, owner, Or.inl rfl⟩
  change (server.sockets.map _)[index]? = _
  rw [List.getElem?_map, found]
  rfl

/-- Every step that the condition allows keeps track of the due alerts. -/
theorem Tracked.step (tracked : Tracked index count actor server) {action : StreamAction}
    (keeps : KeepsDue index count actor server action)
    (taken : server.streamStep config action = some next) : Tracked index count actor next := by
  have moves : next.creating = server.creating -> next.created = server.created ->
      next.events = server.events -> Tracked index count actor next := by
    intro creating created events
    refine tracked.moves creating created events ?_
    intro socket found
    rcases streamStep_socket taken found with ⟨moved, _, there, move, _⟩
    exact ⟨moved, there, move⟩
  cases action with
  | clientMessage other =>
      rw [clientMessage_cases taken]
      exact tracked
  | server action =>
      cases action with
      | transport action =>
          rcases runTransport_cases taken with ⟨_, _, _, _, rfl⟩
          exact moves rfl rfl rfl
      | create request input id now => exact tracked.create taken
      | announce place => exact tracked.announce keeps taken
      | abandon place => exact tracked.abandon keeps taken
      | upgrade request =>
          rcases upgrade_cases taken with ⟨_, _, rfl⟩
          exact moves rfl rfl rfl
      | subscribe other =>
          rcases subscribe_cases taken with ⟨_, _, _, rfl⟩
          exact moves rfl rfl rfl
      | receive other sends =>
          rcases receive_cases taken with ⟨_, _, _, _, ⟨_, rfl⟩ | ⟨_, _, _, rfl⟩⟩
          · exact moves rfl rfl rfl
          · exact moves rfl rfl rfl
      | close other =>
          cases taken
          exact moves rfl rfl rfl
      | restart => exact tracked.restart taken

/-- At the upgrade response nothing is due yet. -/
theorem Tracked.upgrade {request : Request}
    (authorized : request.actor config.policy readScope = .ok actor)
    (taken : server.upgrade config request = some next) :
    Tracked server.sockets.length server.created.length actor next := by
  rcases upgrade_cases taken with ⟨other, verified, rfl⟩
  rw [authorized] at verified
  cases verified
  refine ⟨Nat.le_refl _, ⟨request, actor, .upgraded, []⟩, ?_, rfl, Or.inr ⟨?_, ?_⟩⟩
  · exact List.getElem?_concat_length
  · intro position stage
    cases stage
  · intro alert due
    change (actor, alert) ∈ server.created.drop server.created.length at due
    rw [List.drop_length] at due
    cases due

/-- A drained session has nothing of its actor ahead of it. -/
theorem Tracked.notified (tracked : Tracked index count actor server)
    (drained : server.Drained index) : server.Notified index count actor := by
  rcases tracked with ⟨_, socket, found, rfl, state⟩
  rcases drained with ⟨same, there, stage, none⟩
  rw [found] at there
  cases there
  intro alert due
  refine ⟨socket, found, ?_⟩
  rcases state with closed | ⟨_, onWay⟩
  · rw [stage] at closed
    cases closed
  · rcases onWay alert due with ⟨event, waiting, owner, _⟩ |
      ⟨position, place, event, reached, later, present, _⟩ | sent
    · exact absurd owner (none event waiting)
    · rw [stage] at reached
      cases reached
      exact absurd (List.getElem?_eq_some_iff.mp present).1 (Nat.not_lt_of_le later)
    · exact sent

end Server

/-- In every run after an upgrade response whose steps send no due event before
the subscription and drop no handler of a due alert while the session is open,
a drained session has sent all alerts of its actor committed since. -/
theorem drained_session_notified {config : ServiceConfig} {before begun after : Server}
    {request : Request} {actor : VerifiedActor}
    (authorized : request.actor config.policy readScope = .ok actor)
    (upgraded : before.streamStep config (.server (.upgrade request)) = some begun)
    (later : Runs.Reachable (Server.streamStep config) (fun server => server = begun)
      (Server.KeepsDue before.sockets.length before.created.length actor) after)
    (drained : after.Drained before.sockets.length) :
    after.Notified before.sockets.length before.created.length actor := by
  have tracked : Server.Tracked before.sockets.length before.created.length actor after := by
    refine later.invariant ?_ ?_
    · intro server same
      subst server
      exact Server.Tracked.upgrade authorized upgraded
    · intro server action next tracked keeps taken
      exact tracked.step keeps taken
  exact tracked.notified drained

/-! ## Two ways to miss an alert -/

def sampleOwner : VerifiedActor := ⟨sampleId 1, "embedded-alerts"⟩

def ownCreate : StreamAction :=
  .server (.create (sampleRequest 1) burstInput (sampleId 0xd1) ⟨2000000000 * 10 ^ 9⟩)

/-- The handler sends its event between the upgrade response and the
subscription. -/
def earlyEvent : List StreamAction := [ownCreate, .server (.announce 0), .server (.subscribe 0)]

/-- The client of the create goes away after the commit. -/
def droppedHandler : List StreamAction :=
  [.server (.subscribe 0), ownCreate, .server (.abandon 0)]

/-- The session subscribes first, and the create runs to its end. -/
def orderlyCreate : List StreamAction :=
  [.server (.subscribe 0), ownCreate, .server (.announce 0), .server (.receive 0 true)]

/-- No handler is dropped and nothing is sent before the first session has
subscribed. -/
def orderly (server : Server) : StreamAction -> Bool
  | .server (.announce _) => (server.sockets[0]?).all (fun socket =>
      decide (socket.stage ≠ .upgraded))
  | .server (.abandon _) => false
  | _ => true

theorem orderly_keepsDue {count : Nat} {actor : VerifiedActor} (server : Server)
    (action : StreamAction) (passes : orderly server action = true) :
    Server.KeepsDue 0 count actor server action := by
  unfold orderly at passes
  split at passes
  · intro _ upgraded
    rcases upgraded with ⟨socket, found, stage⟩
    rw [found] at passes
    exact of_decide_eq_true passes stage
  · cases passes
  · next notAnnounced notAbandoned =>
      unfold Server.KeepsDue
      split
      · next place => exact absurd rfl (notAnnounced place)
      · next place => exact absurd rfl (notAbandoned place)
      · trivial

/-- What a state shows: the alerts committed, how many events were sent and how
many handlers are left, and each session's stage with the alerts it has sent. -/
structure Shown where
  created : List (VerifiedActor × Uuid)
  events : Nat
  creating : Nat
  sockets : List (SocketStage × List Uuid)
deriving DecidableEq

def Server.shown (server : Server) : Shown where
  created := server.created.map (fun entry => (entry.1, entry.2.id))
  events := server.events.length
  creating := server.creating.length
  sockets := server.sockets.map (fun socket =>
    (socket.stage, socket.sent.map (fun event => event.alert.id)))

/-- The upgrade of the first session. -/
def upgradedSession : Option Server :=
  (Server.initial .database).streamStep sampleService (.server (.upgrade (sampleRequest 1)))

def runAfterUpgrade (test : Server -> StreamAction -> Bool) (actions : List StreamAction) :
    Option Server :=
  upgradedSession.bind (fun begun =>
    Runs.execute (Server.streamStep sampleService) test begun actions)

theorem sampleRequest_reads :
    (sampleRequest 1).actor sampleService.policy readScope = .ok sampleOwner := by
  rfl

/-- A session is drained once its position is the end of the channel and no
handler is left. -/
theorem drained_of_shown {server : Server} {created : List (VerifiedActor × Uuid)}
    {events : Nat} {sent : List Uuid}
    (shown : server.shown = ⟨created, events, 0, [(.subscribed events, sent)]⟩) :
    server.Drained 0 := by
  rcases Shown.mk.inj shown with ⟨_, count, none, sockets⟩
  rcases List.map_eq_singleton_iff.mp sockets with ⟨socket, alone, pair⟩
  refine ⟨socket, by rw [alone]; rfl, ?_, ?_⟩
  · rw [count]
    exact (Prod.mk.inj pair).1
  · intro event waiting
    rw [List.length_eq_zero_iff.mp none] at waiting
    cases waiting

/-- After the upgrade these actions leave the session drained, and an alert of
its actor that was committed since is not among its messages. -/
def Missed (actions : List StreamAction) : Prop :=
  Exists fun begun => Exists fun after =>
    (Server.initial .database).streamStep sampleService (.server (.upgrade (sampleRequest 1))) =
      some begun ∧
    Runs.execute (Server.streamStep sampleService) Runs.unchecked begun actions = some after ∧
    after.Drained 0 ∧ Not (after.Notified 0 0 sampleOwner)

theorem missed_of_shown {actions : List StreamAction} (events : Nat)
    (shown : (runAfterUpgrade Runs.unchecked actions).map Server.shown =
      some ⟨[(sampleOwner, sampleId 0xd1)], events, 0, [(.subscribed events, [])]⟩) :
    Missed actions := by
  rcases Option.map_eq_some_iff.mp shown with ⟨after, done, same⟩
  rcases Option.bind_eq_some_iff.mp done with ⟨begun, upgraded, run⟩
  refine ⟨begun, after, upgraded, run, drained_of_shown same, ?_⟩
  intro notified
  rcases Shown.mk.inj same with ⟨created, _, _, sockets⟩
  rcases List.map_eq_singleton_iff.mp created with ⟨entry, alone, pair⟩
  rcases List.map_eq_singleton_iff.mp sockets with ⟨socket, only, state⟩
  have due : (sampleOwner, entry.2) ∈ after.created.drop 0 := by
    rw [List.drop_zero, alone, ← (Prod.mk.inj pair).1]
    exact List.mem_singleton_self _
  rcases notified entry.2 due with ⟨other, found, event, sent, _⟩
  rw [only] at found
  cases found
  rw [List.map_eq_nil_iff.mp (Prod.mk.inj state).2] at sent
  cases sent

theorem early_event_and_dropped_handler_missed : Missed earlyEvent ∧ Missed droppedHandler := by
  constructor
  · exact missed_of_shown 1 (by decide +kernel)
  · exact missed_of_shown 0 (by decide +kernel)

theorem orderlyCreate_shown : (runAfterUpgrade orderly orderlyCreate).map Server.shown =
    some ⟨[(sampleOwner, sampleId 0xd1)], 1, 0, [(.subscribed 1, [sampleId 0xd1])]⟩ := by
  decide +kernel

/-- The orderly run commits one alert, and its session has sent it. -/
theorem orderlyCreate_notified : Exists fun after : Server =>
    after.Drained 0 ∧ after.created.map (fun entry => (entry.1, entry.2.id)) =
      [(sampleOwner, sampleId 0xd1)] ∧ after.Notified 0 0 sampleOwner := by
  rcases Option.map_eq_some_iff.mp orderlyCreate_shown with ⟨after, done, same⟩
  rcases Option.bind_eq_some_iff.mp done with ⟨begun, upgraded, run⟩
  have later : Runs.Reachable (Server.streamStep sampleService) (fun server => server = begun)
      (Server.KeepsDue 0 0 sampleOwner) after :=
    Runs.Reachable.execute orderly_keepsDue (.start rfl) run
  have drained := drained_of_shown same
  exact ⟨after, drained, (Shown.mk.inj same).1,
    drained_session_notified sampleRequest_reads upgraded later drained⟩

end EmbeddedAlerts
