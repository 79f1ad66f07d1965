import EmbeddedAlerts.Transport.Correspondence

namespace EmbeddedAlerts

/-!
# Redelivery against the validity window

An envelope is valid for at most `MAX_OPERATION_DEADLINE_MS` after a delivery
that accepts it, and the stream waits `ack_wait` before it delivers again.  The
window is shorter than the wait.  So a message that was accepted once is
refused at every later delivery, and a refusal is a Term.

Whether that loses work depends on one thing only: whether the rows of the
request were committed before the redelivery.
-/

/-- The inbox, outbox and status rows of a correlation are committed. -/
def System.Recorded (system : System) (correlation : Uuid) : Prop :=
  (Exists fun row => row ∈ system.database.inbox ∧ row.correlationId = correlation) ∧
  (Exists fun row => row ∈ system.database.outbox ∧ row.correlationId = correlation) ∧
  Exists fun row => row ∈ system.database.status ∧ row.correlationId = correlation

/-- A message that was accepted and is terminated has its rows. -/
def System.KeepsAccepted (deployment : Deployment) (system : System) : Prop :=
  forall message, message ∈ system.messages -> message.accepted = true ->
    message.acknowledgement = some .term ->
    forall command, deployment.config.decode message.payload = some command ->
      system.Recorded command.correlationId

/-- A redelivery of an accepted message, whose Term would be received, comes
after the commit of an inbox row of its correlation. -/
def RecordedBeforeRedelivery (deployment : Deployment) (system : System) : Action -> Prop
  | .deliver _ index true =>
      forall message command, system.messages[index]? = some message ->
        message.accepted = true -> deployment.config.decode message.payload = some command ->
        Exists fun row => row ∈ system.database.inbox ∧ row.correlationId = command.correlationId
  | _ => True

/-! ## Rows of a correlation -/

/-- One row of a correlation in the inbox means all three are there. -/
theorem Correspondence.recorded_iff {postgres : Postgres} {system : System}
    (holds : Correspondence postgres system) (correlation : Uuid) :
    system.Recorded correlation ↔
      Exists fun row => row ∈ system.database.inbox ∧ row.correlationId = correlation := by
  constructor
  · exact fun recorded => recorded.1
  · rintro ⟨row, member, same⟩
    refine ⟨⟨row, member, same⟩, ?_⟩
    rw [holds.records.inbox] at member
    rcases List.mem_map.mp member with ⟨writes, executed, rfl⟩
    rcases holds.rows_of_executed executed with ⟨_, statusMember, outbox, outboxMember, written⟩
    rcases holds.sound writes executed with ⟨_, _, _, _, inbox, built, status, _⟩
    rw [inbox] at same
    constructor
    · rw [built] at written
      exact ⟨outbox, outboxMember,
        (congrArg OutboxRow.correlationId (Option.some.inj written)).symm.trans same⟩
    · exact ⟨writes.status, statusMember, by rw [status]; exact same⟩

/-- Committed rows stay. -/
theorem Correspondence.recorded_step {deployment : Deployment} {system next : System}
    {action : Action} (holds : Correspondence deployment.postgres system)
    (taken : system.step deployment action = some next) {correlation : Uuid}
    (recorded : system.Recorded correlation) : next.Recorded correlation := by
  have later := holds.step taken
  rw [later.recorded_iff]
  rcases recorded.1 with ⟨row, member, same⟩
  refine ⟨row, ?_, same⟩
  rw [holds.records.inbox] at member
  rw [later.records.inbox]
  exact List.map_subset _ (System.executed_subset taken) member

/-! ## The validity window -/

/-- The envelope of an accepted message has expired, or will before the
stream delivers it again. -/
def System.Windowed (deployment : Deployment) (system : System) : Prop :=
  system.clock < 2 ^ 64 ∧
  forall message, message ∈ system.messages -> message.accepted = true ->
    Exists fun command => Exists fun previous =>
      deployment.config.decode message.payload = some command ∧
      message.deliveries.head? = some previous ∧
      command.operation.deadlineUnixMs.toNat ≤ previous + maxOperationDeadlineMs

theorem unixMs_toNat {clock : Nat} (bounded : clock < 2 ^ 64) : (unixMs clock).toNat = clock := by
  rw [unixMs, UInt64.toNat_ofNat']
  exact Nat.mod_eq_of_lt bounded

theorem Message.deliverable_spec {message : Message} {clock : Nat}
    (deliverable : message.deliverable clock = true) :
    message.acknowledgement = none ∧
      forall previous, message.deliveries.head? = some previous -> previous + ackWaitMs ≤ clock := by
  rw [Message.deliverable, Bool.and_eq_true, Bool.and_eq_true] at deliverable
  refine ⟨Option.isNone_iff_eq_none.mp deliverable.1.1, ?_⟩
  intro previous found
  have waited := deliverable.2
  rw [found] at waited
  exact of_decide_eq_true waited

/-- What the gate reads of the clock: the deadline lies between now and the
end of the window. -/
theorem acceptCommand_window {config : CommandConfig} {payload : List UInt8} {clock : Nat}
    {command : AsyncCommand} (bounded : clock < 2 ^ 64)
    (admitted : acceptCommand config payload (unixMs clock) = some command) :
    config.decode payload = some command ∧
      clock ≤ command.operation.deadlineUnixMs.toNat ∧
      command.operation.deadlineUnixMs.toNat ≤ clock + maxOperationDeadlineMs := by
  rcases (acceptCommand_eq_some_iff _ _ _ _).mp admitted with ⟨_, decoded, passes⟩
  have late := passes.envelope.notExpired
  have near := passes.envelope.near
  rw [unixMs_toNat bounded] at late near
  exact ⟨decoded, late, near⟩

/-- No message is accepted twice: the wait outlasts the window. -/
theorem System.Windowed.refuses {deployment : Deployment} {system : System}
    (windowed : system.Windowed deployment) {message : Message}
    (member : message ∈ system.messages) (accepted : message.accepted = true)
    (deliverable : message.deliverable system.clock = true) :
    acceptCommand deployment.config message.payload (unixMs system.clock) = none := by
  rcases windowed.2 message member accepted with ⟨command, previous, decoded, head, near⟩
  have waited := (Message.deliverable_spec deliverable).2 previous head
  cases admission : acceptCommand deployment.config message.payload (unixMs system.clock) with
  | none => rfl
  | some other =>
      rcases acceptCommand_window windowed.1 admission with ⟨same, late, _⟩
      have equal : command = other := Option.some.inj (decoded.symm.trans same)
      rw [equal] at near
      simp only [ackWaitMs, maxOperationDeadlineMs] at waited near
      omega

theorem System.Windowed.step {deployment : Deployment} {system next : System} {action : Action}
    (windowed : system.Windowed deployment)
    (taken : system.step deployment action = some next) : next.Windowed deployment := by
  constructor
  · rcases System.step_quiet taken with quiet | ⟨_, rfl⟩ | ⟨_, rfl⟩ | ⟨_, rfl⟩ |
      ⟨_, _, _, rfl⟩ | ⟨_, _, rfl⟩
    · rw [quiet.clock]
      exact windowed.1
    · rcases System.tick_cases taken with ⟨bounded, rfl⟩
      exact bounded
    · cases taken
      exact windowed.1
    · cases taken
      exact windowed.1
    · rcases System.deliver_cases taken with ⟨_, _, _, _, ⟨_, rfl⟩ | ⟨_, _, rfl⟩⟩
      · exact windowed.1
      · exact windowed.1
    · rcases System.ack_cases taken with ⟨_, _, _, rfl⟩
      exact windowed.1
  · intro message member accepted
    rcases System.step_messages taken member with earlier | ⟨payload, rfl⟩ |
      ⟨_, _, _, old, rfl, found, deliverable, ⟨_, rfl⟩ | ⟨command, admitted, rfl⟩⟩ |
      ⟨old, received, oldMember, rfl⟩
    · exact windowed.2 message earlier accepted
    · cases accepted
    · -- A refused redelivery moves the head of the deliveries forward.
      rcases windowed.2 old (List.mem_of_getElem? found) accepted with
        ⟨command, previous, decoded, head, near⟩
      have waited := (Message.deliverable_spec deliverable).2 previous head
      exact ⟨command, system.clock, decoded, rfl, by omega⟩
    · rcases acceptCommand_window windowed.1 admitted with ⟨decoded, _, near⟩
      exact ⟨command, system.clock, decoded, rfl, near⟩
    · exact windowed.2 old oldMember accepted

/-! ## Terminated messages -/

/-- One step keeps the rows of terminated messages exactly under the
condition on the state before it. -/
theorem keepsAccepted_step_iff {deployment : Deployment} {system next : System} {action : Action}
    (corresponds : Correspondence deployment.postgres system)
    (windowed : system.Windowed deployment) (keeps : system.KeepsAccepted deployment)
    (taken : system.step deployment action = some next) :
    next.KeepsAccepted deployment ↔ RecordedBeforeRedelivery deployment system action := by
  constructor
  · intro keepsNext
    cases action with
    | deliver consumer index termReceived =>
        cases termReceived with
        | false => trivial
        | true =>
            intro message command found accepted decoded
            rcases System.deliver_cases taken with
              ⟨delivered, _, same, deliverable, ⟨_, rfl⟩ | ⟨_, admitted, _⟩⟩
            · have equal : delivered = message := Option.some.inj (same.symm.trans found)
              subst equal
              have inside : index < system.messages.length :=
                (List.getElem?_eq_some_iff.mp found).1
              have open' := (Message.deliverable_spec deliverable).1
              have recorded := keepsNext _ (List.mem_of_getElem? (List.getElem?_set_self inside))
                accepted (by simp [Message.acknowledge, Message.deliveredAt, open']) command decoded
              exact recorded.1
            · have equal : delivered = message := Option.some.inj (same.symm.trans found)
              subst equal
              have refused := windowed.refuses (List.mem_of_getElem? found) accepted deliverable
              rw [refused] at admitted
              cases admitted
    | _ => trivial
  · intro condition message member accepted terminated command decoded
    rcases System.step_messages taken member with earlier | ⟨payload, rfl⟩ |
      ⟨_, _, termReceived, old, rfl, found, deliverable, ⟨_, rfl⟩ | ⟨_, _, rfl⟩⟩ |
      ⟨old, received, oldMember, rfl⟩
    · exact corresponds.recorded_step taken (keeps message earlier accepted terminated command decoded)
    · cases accepted
    · have open' := (Message.deliverable_spec deliverable).1
      cases termReceived with
      | false => simp [Message.acknowledge, Message.deliveredAt, open'] at terminated
      | true =>
          apply corresponds.recorded_step taken
          exact (corresponds.recorded_iff _).mpr (condition old command found accepted decoded)
    · have open' := (Message.deliverable_spec deliverable).1
      simp [Message.deliveredAt, open'] at terminated
    · apply corresponds.recorded_step taken
      refine keeps old oldMember accepted ?_ command decoded
      cases received <;> cases kind : old.acknowledgement <;>
        simp_all [Message.acknowledge]

/-- What the two invariants say together. -/
structure RedeliverySafe (deployment : Deployment) (system : System) : Prop where
  corresponds : Correspondence deployment.postgres system
  windowed : system.Windowed deployment

theorem System.Reachable.redeliverySafe {deployment : Deployment} {system : System}
    (reached : System.Reachable deployment system) : RedeliverySafe deployment system := by
  refine Runs.Reachable.invariant ?_
    (fun _ _ _ holds _ taken => ⟨holds.corresponds.step taken, holds.windowed.step taken⟩) reached
  rintro _ rfl
  refine ⟨correspondence_initial _, by decide, ?_⟩
  intro message member
  cases member

/-- In every run whose redeliveries of accepted messages come after the commit
of their rows, no accepted message is terminated without them.  From a state
in which that holds, a step keeps it exactly when it meets this condition. -/
theorem accepted_messages_kept_iff (deployment : Deployment) :
    (forall system,
      System.ReachableUnder deployment (RecordedBeforeRedelivery deployment) system ->
      system.KeepsAccepted deployment) ∧
    (forall system action next, System.Reachable deployment system ->
      system.KeepsAccepted deployment -> system.step deployment action = some next ->
      (next.KeepsAccepted deployment ↔ RecordedBeforeRedelivery deployment system action)) := by
  have exact : forall system action next, System.Reachable deployment system ->
      system.KeepsAccepted deployment -> system.step deployment action = some next ->
      (next.KeepsAccepted deployment ↔ RecordedBeforeRedelivery deployment system action) := by
    intro system action next reached keeps taken
    have safe := reached.redeliverySafe
    exact keepsAccepted_step_iff safe.corresponds safe.windowed keeps taken
  refine ⟨?_, exact⟩
  intro system reached
  induction reached with
  | start begun =>
      rw [begun]
      intro message member
      cases member
  | step before condition taken ih =>
      exact (exact _ _ _ before.unrestricted ih taken).mpr condition

/-- A redelivery finds the correlation of an accepted message in the inbox. -/
def redeliversRecorded (deployment : Deployment) (system : System) : Action -> Bool
  | .deliver _ index true => system.messages[index]?.all (fun message => !message.accepted ||
      (deployment.config.decode message.payload).all (fun command =>
        system.database.inbox.any (fun row => decide (row.correlationId = command.correlationId))))
  | _ => true

theorem recordedBefore_of_redeliversRecorded {deployment : Deployment} (system : System)
    (action : Action) (passes : redeliversRecorded deployment system action = true) :
    RecordedBeforeRedelivery deployment system action := by
  cases action with
  | deliver consumer index termReceived =>
      cases termReceived with
      | false => trivial
      | true =>
          intro message command found accepted decoded
          rw [redeliversRecorded, found, Option.all_some, decoded, Option.all_some, accepted] at passes
          simpa using passes
  | _ => trivial

/-- The commit succeeds, the acknowledgement is lost, and the redelivery is
terminated. -/
theorem lostAck_terminated :
    (Runs.execute (System.step (sampleDeployment .cast))
      (redeliversRecorded (sampleDeployment .cast)) System.initial
      (firstRun ++ [.ack 0 false, .tick 30000, .deliver 0 0 true])).map
        (fun system => system.messages.map Message.acknowledgement) = some [some .term] := by
  decide +kernel

theorem lostAck_kept : Exists fun system =>
    System.ReachableUnder (sampleDeployment .cast)
      (RecordedBeforeRedelivery (sampleDeployment .cast)) system ∧
    system.messages.map Message.acknowledgement = [some .term] ∧
    system.KeepsAccepted (sampleDeployment .cast) := by
  rcases Option.map_eq_some_iff.mp lostAck_terminated with ⟨system, done, terminated⟩
  have reached : System.ReachableUnder (sampleDeployment .cast)
      (RecordedBeforeRedelivery (sampleDeployment .cast)) system :=
    Runs.Reachable.execute recordedBefore_of_redeliversRecorded (.start rfl) done
  exact ⟨system, reached, terminated,
    (accepted_messages_kept_iff (sampleDeployment .cast)).1 system reached⟩

/-- The first attempt crashes inside the transaction, and the redelivery is
terminated with an empty database. -/
theorem crash_terminated : (sampleRun .cast
    [.tick 2000000000000, .publishCommand firstCommand.payload, .deliver 0 0 true,
      .beginTransaction 0, .insertInbox 0, .stop 0, .tick 30000, .deliver 0 0 true]).map
        (fun system => (system.messages.map
          (fun message => (message.accepted, message.acknowledgement,
            sampleDecode message.payload)), system.database.inbox)) =
      some ([(true, some .term, some firstCommand)], []) := by
  decide +kernel

theorem crashed_request_discarded : Exists fun system =>
    System.Reachable (sampleDeployment .cast) system ∧
    ¬ system.KeepsAccepted (sampleDeployment .cast) := by
  rcases Option.map_eq_some_iff.mp crash_terminated with ⟨system, done, final⟩
  rcases Prod.mk.inj final with ⟨messages, inbox⟩
  refine ⟨system, sampleRun_reached done, ?_⟩
  intro keeps
  have listed : (true, some AckKind.term, some firstCommand) ∈ system.messages.map
      (fun message => (message.accepted, message.acknowledgement, sampleDecode message.payload)) := by
    rw [messages]
    exact List.mem_singleton_self _
  rcases List.mem_map.mp listed with ⟨message, member, facts⟩
  simp only [Prod.mk.injEq] at facts
  rcases (keeps message member facts.1 facts.2.1 firstCommand facts.2.2).1 with ⟨row, stored, _⟩
  rw [inbox] at stored
  cases stored

end EmbeddedAlerts
