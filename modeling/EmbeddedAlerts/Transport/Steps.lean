import EmbeddedAlerts.Transport.System

namespace EmbeddedAlerts

/-!
# What each step of the transport can do

One inversion lemma for every step: when it is enabled and what the next
state is.  All invariants are derived from these lemmas, and no later proof
unfolds a step.
-/

namespace System

variable {deployment : Deployment} {system next : System} {consumer publisher : Nat}

theorem session_spec {session : Session} (found : system.session consumer = some session) :
    session ∈ system.sessions ∧ session.consumer = consumer := by
  refine ⟨List.mem_of_find?_eq_some found, ?_⟩
  have selected := List.find?_some found
  simpa using selected

theorem mem_of_mem_otherSessions {session : Session}
    (member : session ∈ system.otherSessions consumer) : session ∈ system.sessions :=
  (List.mem_filter.mp member).1

/-- One consumer's session and the sessions of the others are some of the
sessions, each counted at most as often. -/
theorem session_cons_subperm {session : Session} (found : system.session consumer = some session) :
    (session :: system.otherSessions session.consumer).Subperm system.sessions := by
  rcases List.find?_eq_some_iff_append.mp found with ⟨selected, front, back, split, _⟩
  have same : session.consumer = consumer := by simpa using selected
  have others : system.otherSessions session.consumer =
      front.filter (fun other => decide (other.consumer ≠ session.consumer)) ++
        back.filter (fun other => decide (other.consumer ≠ session.consumer)) := by
    rw [otherSessions, split, List.filter_append, List.filter_cons_of_neg (by simp)]
  rw [others, split]
  refine (List.perm_middle.symm.subperm).trans ?_
  exact (List.Sublist.append List.filter_sublist
    (List.Sublist.cons_cons session List.filter_sublist)).subperm

theorem deliver_cases {index : Nat} {termReceived : Bool}
    (taken : system.deliver deployment consumer index termReceived = some next) :
    Exists fun message : Message => system.session consumer = none ∧
      system.messages[index]? = some message ∧ message.deliverable system.clock = true ∧
      ((acceptCommand deployment.config message.payload (unixMs system.clock) = none ∧
          next = { system with
            messages := system.messages.set index ((message.deliveredAt system.clock).acknowledge
              (if termReceived then some .term else none)) }) ∨
        Exists fun command =>
          acceptCommand deployment.config message.payload (unixMs system.clock) = some command ∧
          next = { system with
            messages := system.messages.set index
              { message.deliveredAt system.clock with accepted := true }
            sessions := ⟨consumer, index, command, .handed⟩ :: system.sessions
            handed := command :: system.handed }) := by
  unfold deliver at taken
  split at taken
  · next idle found =>
      split at taken
      · next deliverable =>
          refine ⟨_, idle, found, deliverable, ?_⟩
          split at taken
          · next refused =>
              cases taken
              exact Or.inl ⟨refused, rfl⟩
          · next command admitted =>
              cases taken
              exact Or.inr ⟨command, admitted, rfl⟩
      · cases taken
  · cases taken

theorem beginTransaction_cases (taken : system.beginTransaction consumer = some next) :
    Exists fun session => system.session consumer = some session ∧ session.stage = .handed ∧
      next = system.advance session (.begun system.clock) := by
  unfold beginTransaction at taken
  split at taken
  · next session found =>
      split at taken
      · next stage =>
          cases taken
          exact ⟨session, found, stage, rfl⟩
      · cases taken
  · cases taken

/-- The inbox insert finds a committed row with one of the keys and does
nothing, or it inserts and from then on holds the keys. -/
theorem insertInbox_cases (taken : system.insertInbox deployment consumer = some next) :
    Exists fun session => Exists fun now => Exists fun row =>
      system.session consumer = some session ∧ session.stage = .begun now ∧
      bindInbox deployment.postgres session.command now = some row ∧
      (forall other, other ∈ system.otherSessions consumer ->
        forall held, other.stage.inbox = some held -> row.clashes held = false) ∧
      (((Exists fun stored => stored ∈ system.database.inbox ∧ row.clashes stored = true) ∧
          next = system.advance session (.committing none)) ∨
        ((forall stored, stored ∈ system.database.inbox -> row.clashes stored = false) ∧
          next = system.advance session (.reading now row))) := by
  unfold insertInbox at taken
  split at taken
  · next session found =>
      split at taken
      · next now stage =>
          split at taken
          · cases taken
          · next row bound =>
              split at taken
              · cases taken
              · next free =>
                  refine ⟨session, now, row, found, stage, bound, ?_, ?_⟩
                  · intro other member held holds
                    rw [Bool.not_eq_true, List.any_eq_false] at free
                    have alone := free other member
                    rw [holds] at alone
                    simpa using alone
                  · split at taken
                    · next clash =>
                        cases taken
                        exact Or.inl ⟨by simpa using clash, rfl⟩
                    · next clear =>
                        cases taken
                        exact Or.inr ⟨by simpa using clear, rfl⟩
      · cases taken
  · cases taken

theorem readAlerts_cases {outcome : ReadOutcome}
    (taken : system.readAlerts consumer outcome = some next) :
    Exists fun session => Exists fun now => Exists fun row => Exists fun subject =>
      system.session consumer = some session ∧ session.stage = .reading now row ∧
      Uuid.parseStr session.command.operation.actorSubject = some subject ∧
      next = system.advance session (.replying now row
        (readReply system.database.alerts session.command
          ⟨subject, session.command.productTenant⟩ outcome).1
        (readReply system.database.alerts session.command
          ⟨subject, session.command.productTenant⟩ outcome).2) := by
  unfold readAlerts at taken
  split at taken
  · next session found =>
      split at taken
      · next now row subject stage parsed =>
          cases taken
          exact ⟨session, now, row, subject, found, stage, parsed, rfl⟩
      · cases taken
  · cases taken

/-- The outbox insert is skipped for a committed row of the same dedupe key,
or it inserts a row whose keys nobody else has or holds. -/
theorem enqueueReply_cases {eventId : Uuid}
    (taken : system.enqueueReply consumer eventId = some next) :
    Exists fun session => Exists fun now => Exists fun row => Exists fun reply =>
      system.session consumer = some session ∧ session.stage = .replying now row reply false ∧
      (((Exists fun stored => stored ∈ system.database.outbox ∧
            stored.dedupeKey = replyDedupeKey session.command.dedupeKey) ∧
          next = system.advance session (.recording now row reply none)) ∨
        ((forall stored, stored ∈ system.database.outbox -> stored.eventId ≠ eventId) ∧
          (forall other, other ∈ system.otherSessions consumer ->
            forall held, other.stage.outbox = some held -> held.eventId ≠ eventId) ∧
          next = system.advance session (.recording now row reply
            (some (outboxRow session.command reply eventId now))))) := by
  unfold enqueueReply at taken
  split at taken
  · next session found =>
      split at taken
      · next now row reply stage =>
          dsimp only at taken
          split at taken
          · cases taken
          · split at taken
            · cases taken
            · next free =>
                refine ⟨session, now, row, reply, found, stage, ?_⟩
                split at taken
                · cases taken
                · next skipped =>
                    cases taken
                    rcases (insertOutbox_eq_skipped_iff _ _).mp skipped with ⟨stored, member, same⟩
                    exact Or.inl ⟨⟨stored, member, same⟩, rfl⟩
                · next inserted =>
                    cases taken
                    refine Or.inr ⟨((insertOutbox_eq_inserted_iff _ _).mp inserted).2, ?_, rfl⟩
                    intro other member held holds
                    rw [Bool.not_eq_true, List.any_eq_false] at free
                    have alone := free other member
                    rw [holds] at alone
                    simp only [Option.any_some, Bool.or_eq_true, decide_eq_true_eq, not_or] at alone
                    exact alone.2
      · cases taken
  · cases taken

theorem insertStatus_cases (taken : system.insertStatus deployment consumer = some next) :
    Exists fun session => Exists fun now => Exists fun row => Exists fun reply =>
      Exists fun outbox => Exists fun status =>
      system.session consumer = some session ∧ session.stage = .recording now row reply outbox ∧
      bindStatus deployment.postgres session.command reply now = some status ∧
      next = system.advance session
        (.committing (some ⟨session.command, reply, row, outbox, status⟩)) := by
  unfold insertStatus at taken
  split at taken
  · next session found =>
      split at taken
      · next now row reply outbox stage =>
          split at taken
          · cases taken
          · next status bound =>
              split at taken
              · cases taken
              · cases taken
                exact ⟨session, now, row, reply, outbox, status, found, stage, bound, rfl⟩
      · cases taken
  · cases taken

theorem commit_cases (taken : system.commit consumer = some next) :
    Exists fun session => system.session consumer = some session ∧
      ((session.stage = .committing none ∧ next = system.advance session .committed) ∨
        Exists fun writes => session.stage = .committing (some writes) ∧
          next = { system.advance session .committed with
            database := system.database.commit writes
            executed := system.executed ++ [writes] }) := by
  unfold commit at taken
  split at taken
  · next session found =>
      split at taken
      · next stage =>
          cases taken
          exact ⟨session, found, Or.inl ⟨stage, rfl⟩⟩
      · next writes stage =>
          cases taken
          exact ⟨session, found, Or.inr ⟨writes, stage, rfl⟩⟩
      · cases taken
  · cases taken

theorem ack_cases {received : Bool} (taken : system.ack consumer received = some next) :
    Exists fun session => system.session consumer = some session ∧
      session.stage = .committed ∧
      next = { system with
        sessions := system.otherSessions consumer
        messages := system.messages.modify session.message
          (fun message => message.acknowledge (if received then some .ack else none))
        acked := session.command :: system.acked } := by
  unfold ack at taken
  split at taken
  · next session found =>
      split at taken
      · next stage =>
          cases taken
          exact ⟨session, found, stage, rfl⟩
      · cases taken
  · cases taken

/-! ## Publishers -/

theorem publisher_spec {state : Publisher} (found : system.publisher publisher = some state) :
    state ∈ system.publishers ∧ state.publisher = publisher := by
  refine ⟨List.mem_of_find?_eq_some found, ?_⟩
  have selected := List.find?_some found
  simpa using selected

theorem mem_of_mem_otherPublishers {state : Publisher}
    (member : state ∈ system.otherPublishers publisher) : state ∈ system.publishers :=
  (List.mem_filter.mp member).1

theorem selectPending_cases (taken : system.selectPending publisher = some next) :
    next = { system with publishers :=
      ⟨publisher, selectOutbox system.database.outbox, .selected⟩ :: system.publishers } := by
  unfold selectPending at taken
  split at taken
  · cases taken
    rfl
  · cases taken

theorem publishReply_cases (taken : system.publishReply deployment publisher = some next) :
    Exists fun state => Exists fun row => Exists fun rest =>
      system.publisher publisher = some state ∧ state.stage = .selected ∧
      state.queue = row :: rest ∧
      (row.payload.toJson deployment.format).size ≤ maxNatsPayloadBytes ∧
      headerValue row.dedupeKey = true ∧
      next = { system with
        publishers := { state with stage := .stored } :: system.otherPublishers publisher
        events := storeEvent system.events row.message } := by
  unfold publishReply at taken
  split at taken
  · next state found =>
      split at taken
      · next row rest stage queue =>
          split at taken
          · cases taken
          · next fits =>
              split at taken
              · cases taken
              · next header =>
                  cases taken
                  exact ⟨state, row, rest, found, stage, queue, Nat.le_of_not_lt fits,
                    by simpa using header, rfl⟩
      · cases taken
  · cases taken

theorem acknowledgeReply_cases (taken : system.acknowledgeReply publisher = some next) :
    Exists fun state => system.publisher publisher = some state ∧ state.stage = .stored ∧
      next = { system with
        publishers := { state with stage := .acknowledged } ::
          system.otherPublishers publisher } := by
  unfold acknowledgeReply at taken
  split at taken
  · next state found =>
      split at taken
      · next stage =>
          cases taken
          exact ⟨state, found, stage, rfl⟩
      · cases taken
  · cases taken

theorem markReply_cases (taken : system.markReply publisher = some next) :
    Exists fun state => Exists fun row => Exists fun rest =>
      system.publisher publisher = some state ∧ state.stage = .acknowledged ∧
      state.queue = row :: rest ∧
      next = { system with
        publishers := ⟨publisher, rest, .selected⟩ :: system.otherPublishers publisher
        database := { system.database with
          outbox := markOutbox system.database.outbox row.eventId system.clock } } := by
  unfold markReply at taken
  split at taken
  · next state found =>
      split at taken
      · next row rest stage queue =>
          cases taken
          exact ⟨state, row, rest, found, stage, queue, rfl⟩
      · cases taken
  · cases taken

/-! ## The environment -/

theorem tick_cases {milliseconds : Nat} (taken : system.tick milliseconds = some next) :
    system.clock + milliseconds < 2 ^ 64 ∧
      next = { system with clock := system.clock + milliseconds } := by
  unfold tick at taken
  split at taken
  · next bound =>
      cases taken
      exact ⟨bound, rfl⟩
  · cases taken

theorem createAlert_cases {actor : VerifiedActor} {input : CreateAlertRule} {id : Uuid}
    {instant : DateTime} (taken : system.createAlert actor input id instant = some next) :
    Exists fun rows => Exists fun alert =>
      (AlertStore.database system.database.alerts).create actor input id instant =
        .ok (.database rows, alert) ∧
      next = { system with database := { system.database with alerts := rows } } := by
  unfold createAlert at taken
  split at taken
  · next rows alert created =>
      cases taken
      exact ⟨rows, alert, created, rfl⟩
  · cases taken

/-! ## Steps that touch neither the streams' inputs nor the histories -/

/-- The clock, the command stream and the histories of commands stay. -/
structure Quiet (system next : System) : Prop where
  clock : next.clock = system.clock
  signed : next.signed = system.signed
  messages : next.messages = system.messages
  handed : next.handed = system.handed
  acked : next.acked = system.acked

/-- Only five kinds of step are not quiet. -/
theorem step_quiet {action : Action} (taken : system.step deployment action = some next) :
    Quiet system next ∨
      (Exists fun milliseconds => action = .tick milliseconds) ∨
      (Exists fun command => action = .sign command) ∨
      (Exists fun payload => action = .publishCommand payload) ∨
      (Exists fun consumer => Exists fun index => Exists fun termReceived =>
        action = .deliver consumer index termReceived) ∨
      Exists fun consumer => Exists fun received => action = .ack consumer received := by
  have advanced : forall (session : Session) (stage : Stage),
      Quiet system (system.advance session stage) := fun _ _ => ⟨rfl, rfl, rfl, rfl, rfl⟩
  cases action with
  | tick milliseconds => exact Or.inr (Or.inl ⟨milliseconds, rfl⟩)
  | sign command => exact Or.inr (Or.inr (Or.inl ⟨command, rfl⟩))
  | publishCommand payload => exact Or.inr (Or.inr (Or.inr (Or.inl ⟨payload, rfl⟩)))
  | deliver consumer index termReceived =>
      exact Or.inr (Or.inr (Or.inr (Or.inr (Or.inl ⟨consumer, index, termReceived, rfl⟩))))
  | ack consumer received =>
      exact Or.inr (Or.inr (Or.inr (Or.inr (Or.inr ⟨consumer, received, rfl⟩))))
  | createAlert actor input id instant =>
      rcases createAlert_cases taken with ⟨_, _, _, rfl⟩
      exact Or.inl ⟨rfl, rfl, rfl, rfl, rfl⟩
  | beginTransaction consumer =>
      rcases beginTransaction_cases taken with ⟨session, _, _, rfl⟩
      exact Or.inl (advanced _ _)
  | insertInbox consumer =>
      rcases insertInbox_cases taken with ⟨_, _, _, _, _, _, _, ⟨_, rfl⟩ | ⟨_, rfl⟩⟩
      · exact Or.inl (advanced _ _)
      · exact Or.inl (advanced _ _)
  | readAlerts consumer outcome =>
      rcases readAlerts_cases taken with ⟨_, _, _, _, _, _, _, rfl⟩
      exact Or.inl (advanced _ _)
  | enqueueReply consumer eventId =>
      rcases enqueueReply_cases taken with ⟨_, _, _, _, _, _, ⟨_, rfl⟩ | ⟨_, _, rfl⟩⟩
      · exact Or.inl (advanced _ _)
      · exact Or.inl (advanced _ _)
  | insertStatus consumer =>
      rcases insertStatus_cases taken with ⟨_, _, _, _, _, _, _, _, _, rfl⟩
      exact Or.inl (advanced _ _)
  | commit consumer =>
      rcases commit_cases taken with ⟨_, _, ⟨_, rfl⟩ | ⟨_, _, rfl⟩⟩
      · exact Or.inl (advanced _ _)
      · exact Or.inl ⟨rfl, rfl, rfl, rfl, rfl⟩
  | stop consumer =>
      cases taken
      exact Or.inl ⟨rfl, rfl, rfl, rfl, rfl⟩
  | selectPending publisher =>
      rw [selectPending_cases taken]
      exact Or.inl ⟨rfl, rfl, rfl, rfl, rfl⟩
  | publishReply publisher =>
      rcases publishReply_cases taken with ⟨_, _, _, _, _, _, _, _, rfl⟩
      exact Or.inl ⟨rfl, rfl, rfl, rfl, rfl⟩
  | acknowledgeReply publisher =>
      rcases acknowledgeReply_cases taken with ⟨_, _, _, rfl⟩
      exact Or.inl ⟨rfl, rfl, rfl, rfl, rfl⟩
  | markReply publisher =>
      rcases markReply_cases taken with ⟨_, _, _, _, _, _, rfl⟩
      exact Or.inl ⟨rfl, rfl, rfl, rfl, rfl⟩
  | stopPublisher publisher =>
      cases taken
      exact Or.inl ⟨rfl, rfl, rfl, rfl, rfl⟩

/-- A message of the next state was there before, was just published, was
just delivered or was just acknowledged. -/
theorem step_messages {action : Action} (taken : system.step deployment action = some next)
    {message : Message} (member : message ∈ next.messages) :
    message ∈ system.messages ∨
      (Exists fun payload => message = ⟨payload, [], false, none⟩) ∨
      (Exists fun consumer => Exists fun index => Exists fun termReceived => Exists fun old =>
        action = .deliver consumer index termReceived ∧
        system.messages[index]? = some old ∧ old.deliverable system.clock = true ∧
        ((acceptCommand deployment.config old.payload (unixMs system.clock) = none ∧
            message = (old.deliveredAt system.clock).acknowledge
              (if termReceived then some .term else none)) ∨
          Exists fun command =>
            acceptCommand deployment.config old.payload (unixMs system.clock) = some command ∧
            message = { old.deliveredAt system.clock with accepted := true })) ∨
      Exists fun old => Exists fun received : Bool => old ∈ system.messages ∧
        message = old.acknowledge (if received then some .ack else none) := by
  rcases step_quiet taken with quiet | ⟨_, rfl⟩ | ⟨_, rfl⟩ | ⟨payload, rfl⟩ |
    ⟨consumer, index, termReceived, rfl⟩ | ⟨consumer, received, rfl⟩
  · rw [quiet.messages] at member
    exact Or.inl member
  · rcases tick_cases taken with ⟨_, rfl⟩
    exact Or.inl member
  · cases taken
    exact Or.inl member
  · cases taken
    rcases List.mem_append.mp member with earlier | last
    · exact Or.inl earlier
    · exact Or.inr (Or.inl ⟨payload, List.mem_singleton.mp last⟩)
  · rcases deliver_cases taken with
      ⟨old, _, found, deliverable, ⟨refused, rfl⟩ | ⟨command, admitted, rfl⟩⟩
    · rcases List.mem_or_eq_of_mem_set member with earlier | same
      · exact Or.inl earlier
      · exact Or.inr (Or.inr (Or.inl ⟨consumer, index, termReceived, old, rfl, found, deliverable,
          Or.inl ⟨refused, same⟩⟩))
    · rcases List.mem_or_eq_of_mem_set member with earlier | same
      · exact Or.inl earlier
      · exact Or.inr (Or.inr (Or.inl ⟨consumer, index, termReceived, old, rfl, found, deliverable,
          Or.inr ⟨command, admitted, same⟩⟩))
  · rcases ack_cases taken with ⟨session, _, _, rfl⟩
    rcases List.mem_iff_getElem?.mp member with ⟨index, found⟩
    rw [List.getElem?_modify] at found
    rcases Option.map_eq_some_iff.mp found with ⟨old, present, same⟩
    have oldMember := List.mem_of_getElem? present
    split at same
    · exact Or.inr (Or.inr (Or.inr ⟨old, received, oldMember, same.symm⟩))
    · rw [← same]
      exact Or.inl oldMember

/-! ## What a step does to the sessions -/

/-- One statement of one consumer's transaction: the stage it leads to. -/
inductive Move (deployment : Deployment) (system : System) (session : Session) :
    Action -> Stage -> Prop
  | begin {consumer : Nat} : session.stage = .handed ->
      Move deployment system session (.beginTransaction consumer) (.begun system.clock)
  | conflict {consumer : Nat} {now : Int} {row stored : InboxRow} :
      system.session consumer = some session -> session.stage = .begun now ->
      bindInbox deployment.postgres session.command now = some row ->
      stored ∈ system.database.inbox -> row.clashes stored = true ->
      Move deployment system session (.insertInbox consumer) (.committing none)
  | inserted {consumer : Nat} {now : Int} {row : InboxRow} :
      session.stage = .begun now ->
      bindInbox deployment.postgres session.command now = some row ->
      Move deployment system session (.insertInbox consumer) (.reading now row)
  | read {consumer : Nat} {outcome : ReadOutcome} {now : Int} {row : InboxRow} {subject : Uuid} :
      session.stage = .reading now row ->
      Uuid.parseStr session.command.operation.actorSubject = some subject ->
      Move deployment system session (.readAlerts consumer outcome) (.replying now row
        (EmbeddedAlerts.readReply system.database.alerts session.command
          ⟨subject, session.command.productTenant⟩ outcome).1
        (EmbeddedAlerts.readReply system.database.alerts session.command
          ⟨subject, session.command.productTenant⟩ outcome).2)
  | enqueued {consumer : Nat} {eventId : Uuid} {now : Int} {row : InboxRow}
      {reply : OperationReply} {outbox : Option OutboxRow} :
      session.stage = .replying now row reply false ->
      (outbox = none ∨ outbox = some (outboxRow session.command reply eventId now)) ->
      Move deployment system session (.enqueueReply consumer eventId)
        (.recording now row reply outbox)
  | recorded {consumer : Nat} {now : Int} {row : InboxRow} {reply : OperationReply}
      {outbox : Option OutboxRow} {status : StatusRow} :
      session.stage = .recording now row reply outbox ->
      Move deployment system session (.insertStatus consumer)
        (.committing (some ⟨session.command, reply, row, outbox, status⟩))
  | finished {consumer : Nat} : session.stage = .committing none ->
      Move deployment system session (.commit consumer) .committed

/-- A step drops sessions, starts one, moves one or commits the rows of one. -/
theorem step_sessions {action : Action} (taken : system.step deployment action = some next) :
    (next.sessions.Sublist system.sessions ∧ next.executed = system.executed) ∨
      (Exists fun consumer => Exists fun index => Exists fun command =>
        next.sessions = ⟨consumer, index, command, .handed⟩ :: system.sessions ∧
        next.handed = command :: system.handed ∧ next.executed = system.executed) ∨
      (Exists fun session => Exists fun stage => session ∈ system.sessions ∧
        Move deployment system session action stage ∧ next = system.advance session stage) ∨
      Exists fun session => Exists fun writes => session ∈ system.sessions ∧
        session.stage = .committing (some writes) ∧
        next = { system.advance session .committed with
          database := system.database.commit writes
          executed := system.executed ++ [writes] } := by
  have kept : (system.sessions.Sublist system.sessions ∧ system.executed = system.executed) :=
    ⟨List.Sublist.refl _, rfl⟩
  cases action with
  | tick milliseconds =>
      rcases tick_cases taken with ⟨_, rfl⟩
      exact Or.inl kept
  | sign command =>
      cases taken
      exact Or.inl kept
  | publishCommand payload =>
      cases taken
      exact Or.inl kept
  | createAlert actor input id instant =>
      rcases createAlert_cases taken with ⟨_, _, _, rfl⟩
      exact Or.inl kept
  | deliver consumer index termReceived =>
      rcases deliver_cases taken with ⟨_, _, _, _, ⟨_, rfl⟩ | ⟨command, _, rfl⟩⟩
      · exact Or.inl kept
      · exact Or.inr (Or.inl ⟨consumer, index, command, rfl, rfl, rfl⟩)
  | beginTransaction consumer =>
      rcases beginTransaction_cases taken with ⟨session, found, stage, rfl⟩
      exact Or.inr (Or.inr (Or.inl ⟨session, _, (session_spec found).1, .begin stage, rfl⟩))
  | insertInbox consumer =>
      rcases insertInbox_cases taken with
        ⟨session, now, row, found, stage, bound, _, ⟨⟨stored, member, clash⟩, rfl⟩ | ⟨_, rfl⟩⟩
      · exact Or.inr (Or.inr (Or.inl ⟨session, _, (session_spec found).1,
          .conflict found stage bound member clash, rfl⟩))
      · exact Or.inr (Or.inr (Or.inl ⟨session, _, (session_spec found).1, .inserted stage bound,
          rfl⟩))
  | readAlerts consumer outcome =>
      rcases readAlerts_cases taken with ⟨session, _, _, subject, found, stage, parsed, rfl⟩
      exact Or.inr (Or.inr (Or.inl ⟨session, _, (session_spec found).1, .read stage parsed, rfl⟩))
  | enqueueReply consumer eventId =>
      rcases enqueueReply_cases taken with ⟨session, _, _, _, found, stage, ⟨_, rfl⟩ | ⟨_, _, rfl⟩⟩
      · exact Or.inr (Or.inr (Or.inl ⟨session, _, (session_spec found).1,
          .enqueued stage (Or.inl rfl), rfl⟩))
      · exact Or.inr (Or.inr (Or.inl ⟨session, _, (session_spec found).1,
          .enqueued stage (Or.inr rfl), rfl⟩))
  | insertStatus consumer =>
      rcases insertStatus_cases taken with ⟨session, _, _, _, _, _, found, stage, _, rfl⟩
      exact Or.inr (Or.inr (Or.inl ⟨session, _, (session_spec found).1, .recorded stage, rfl⟩))
  | commit consumer =>
      rcases commit_cases taken with ⟨session, found, ⟨stage, rfl⟩ | ⟨writes, stage, rfl⟩⟩
      · exact Or.inr (Or.inr (Or.inl ⟨session, _, (session_spec found).1, .finished stage, rfl⟩))
      · exact Or.inr (Or.inr (Or.inr ⟨session, writes, (session_spec found).1, stage, rfl⟩))
  | ack consumer received =>
      rcases ack_cases taken with ⟨_, _, _, rfl⟩
      exact Or.inl ⟨List.filter_sublist, rfl⟩
  | stop consumer =>
      cases taken
      exact Or.inl ⟨List.filter_sublist, rfl⟩
  | selectPending publisher =>
      rw [selectPending_cases taken]
      exact Or.inl kept
  | publishReply publisher =>
      rcases publishReply_cases taken with ⟨_, _, _, _, _, _, _, _, rfl⟩
      exact Or.inl kept
  | acknowledgeReply publisher =>
      rcases acknowledgeReply_cases taken with ⟨_, _, _, rfl⟩
      exact Or.inl kept
  | markReply publisher =>
      rcases markReply_cases taken with ⟨_, _, _, _, _, _, rfl⟩
      exact Or.inl kept
  | stopPublisher publisher =>
      cases taken
      exact Or.inl kept

/-- The log of executed requests only grows. -/
theorem executed_subset {action : Action} (taken : system.step deployment action = some next) :
    system.executed ⊆ next.executed := by
  rcases step_sessions taken with ⟨_, same⟩ | ⟨_, _, _, _, _, same⟩ | ⟨_, _, _, _, rfl⟩ |
    ⟨_, writes, _, _, rfl⟩
  · rw [same]
    exact List.Subset.refl _
  · rw [same]
    exact List.Subset.refl _
  · exact List.Subset.refl _
  · exact List.subset_append_left _ _

/-- So does the log of commands that passed the gate. -/
theorem handed_subset {action : Action} (taken : system.step deployment action = some next) :
    system.handed ⊆ next.handed := by
  rcases step_quiet taken with quiet | ⟨_, rfl⟩ | ⟨_, rfl⟩ | ⟨_, rfl⟩ | ⟨_, _, _, rfl⟩ |
    ⟨_, _, rfl⟩
  · rw [quiet.handed]
    exact List.Subset.refl _
  · rcases tick_cases taken with ⟨_, rfl⟩
    exact List.Subset.refl _
  · cases taken
    exact List.Subset.refl _
  · cases taken
    exact List.Subset.refl _
  · rcases deliver_cases taken with ⟨_, _, _, _, ⟨_, rfl⟩ | ⟨_, _, rfl⟩⟩
    · exact List.Subset.refl _
    · exact List.subset_cons_self _ _
  · rcases ack_cases taken with ⟨_, _, _, rfl⟩
    exact List.Subset.refl _

/-- A command is acknowledged by the consumer that has committed it. -/
theorem step_acked {action : Action} (taken : system.step deployment action = some next) :
    next.acked = system.acked ∨
      Exists fun session => session ∈ system.sessions ∧ session.stage = .committed ∧
        next.acked = session.command :: system.acked := by
  rcases step_quiet taken with quiet | ⟨_, rfl⟩ | ⟨_, rfl⟩ | ⟨_, rfl⟩ | ⟨_, _, _, rfl⟩ |
    ⟨_, _, rfl⟩
  · exact Or.inl quiet.acked
  · rcases tick_cases taken with ⟨_, rfl⟩
    exact Or.inl rfl
  · cases taken
    exact Or.inl rfl
  · cases taken
    exact Or.inl rfl
  · rcases deliver_cases taken with ⟨_, _, _, _, ⟨_, rfl⟩ | ⟨_, _, rfl⟩⟩
    · exact Or.inl rfl
    · exact Or.inl rfl
  · rcases ack_cases taken with ⟨session, found, committed, rfl⟩
    exact Or.inr ⟨session, (session_spec found).1, committed, rfl⟩

/-- The alerts change by a create and by nothing else. -/
theorem step_alerts {action : Action} (taken : system.step deployment action = some next)
    (other : forall actor input id instant, action ≠ .createAlert actor input id instant) :
    next.database.alerts = system.database.alerts := by
  cases action with
  | tick milliseconds =>
      rcases tick_cases taken with ⟨_, rfl⟩
      rfl
  | createAlert actor input id instant => exact absurd rfl (other actor input id instant)
  | deliver consumer index termReceived =>
      rcases deliver_cases taken with ⟨_, _, _, _, ⟨_, rfl⟩ | ⟨_, _, rfl⟩⟩
      · rfl
      · rfl
  | beginTransaction consumer =>
      rcases beginTransaction_cases taken with ⟨_, _, _, rfl⟩
      rfl
  | insertInbox consumer =>
      rcases insertInbox_cases taken with ⟨_, _, _, _, _, _, _, ⟨_, rfl⟩ | ⟨_, rfl⟩⟩
      · rfl
      · rfl
  | readAlerts consumer outcome =>
      rcases readAlerts_cases taken with ⟨_, _, _, _, _, _, _, rfl⟩
      rfl
  | enqueueReply consumer eventId =>
      rcases enqueueReply_cases taken with ⟨_, _, _, _, _, _, ⟨_, rfl⟩ | ⟨_, _, rfl⟩⟩
      · rfl
      · rfl
  | insertStatus consumer =>
      rcases insertStatus_cases taken with ⟨_, _, _, _, _, _, _, _, _, rfl⟩
      rfl
  | commit consumer =>
      rcases commit_cases taken with ⟨_, _, ⟨_, rfl⟩ | ⟨_, _, rfl⟩⟩
      · rfl
      · rfl
  | ack consumer received =>
      rcases ack_cases taken with ⟨_, _, _, rfl⟩
      rfl
  | selectPending publisher =>
      rw [selectPending_cases taken]
  | publishReply publisher =>
      rcases publishReply_cases taken with ⟨_, _, _, _, _, _, _, _, rfl⟩
      rfl
  | acknowledgeReply publisher =>
      rcases acknowledgeReply_cases taken with ⟨_, _, _, rfl⟩
      rfl
  | markReply publisher =>
      rcases markReply_cases taken with ⟨_, _, _, _, _, _, rfl⟩
      rfl
  | sign command =>
      cases taken
      rfl
  | publishCommand payload =>
      cases taken
      rfl
  | stop consumer =>
      cases taken
      rfl
  | stopPublisher publisher =>
      cases taken
      rfl

end System
end EmbeddedAlerts
