import EmbeddedAlerts.Library.Progress
import EmbeddedAlerts.Transport.Answering
import EmbeddedAlerts.Transport.Deadline

namespace EmbeddedAlerts

/-!
# The consumers do not wait in a circle

Three statements of `process_command` may wait for the transaction of another
consumer, one for each table that it writes.  Only the first of them ever does.
Whoever has inserted an inbox row holds all keys of its request, and the keys
of the outbox and status rows are determined by them.  So a consumer waits
before its first row, for a consumer that holds one, and a consumer that holds
a row waits for nobody.

From this it follows that the consumers come to an end as long as nothing
fails: in every state in which a message is worked on some consumer can go on,
whatever the rest of the system does in between, and each message takes at most
seven statements until its acknowledgement.
-/

/-- The statements that are left until the acknowledgement. -/
def Stage.remaining : Stage -> Nat
  | .handed => 7
  | .begun _ => 6
  | .reading _ _ => 5
  | .replying _ _ _ _ => 4
  | .recording _ _ _ _ => 3
  | .committing _ => 2
  | .committed => 1

/-- PostgreSQL refuses every further statement of the transaction. -/
def Stage.aborted : Stage -> Bool
  | .replying _ _ _ aborted => aborted
  | _ => false

def System.remaining (system : System) : Nat :=
  (system.sessions.map (fun session => session.stage.remaining)).sum

/-- What a consumer does next.  The read ends with an answer or at its
timeout, and the identifier of the reply is one that nobody has. -/
inductive Session.Issues (system : System) (session : Session) : Action -> Prop
  | begin : session.stage = .handed ->
      Issues system session (.beginTransaction session.consumer)
  | insert {now : Int} : session.stage = .begun now ->
      Issues system session (.insertInbox session.consumer)
  | read {now : Int} {row : InboxRow} {outcome : ReadOutcome} :
      session.stage = .reading now row -> outcome ≠ .failed ->
      Issues system session (.readAlerts session.consumer outcome)
  | enqueue {now : Int} {row : InboxRow} {reply : OperationReply} {eventId : Uuid} :
      session.stage = .replying now row reply false -> eventId ∉ system.claimedEvents ->
      Issues system session (.enqueueReply session.consumer eventId)
  | record {now : Int} {row : InboxRow} {reply : OperationReply} {outbox : Option OutboxRow} :
      session.stage = .recording now row reply outbox ->
      Issues system session (.insertStatus session.consumer)
  | commit {writes : Option Writes} : session.stage = .committing writes ->
      Issues system session (.commit session.consumer)
  | ack {received : Bool} : session.stage = .committed ->
      Issues system session (.ack session.consumer received)

/-- An action that no consumer takes. -/
def Action.elsewhere : Action -> Bool
  | .tick _ => true
  | .sign _ => true
  | .publishCommand _ => true
  | .createAlert _ _ _ _ => true
  | .selectPending _ => true
  | .publishReply _ => true
  | .acknowledgeReply _ => true
  | .markReply _ => true
  | .stopPublisher _ => true
  | _ => false

/-- Nothing fails in the consumers, and none takes a new message. -/
def System.Undisturbed (system : System) (action : Action) : Prop :=
  action.elsewhere = true ∨
    Exists fun session => session ∈ system.sessions ∧ session.Issues system action

/-- One for each statement of a consumer. -/
def Action.cost (action : Action) : Nat := if action.elsewhere then 0 else 1

namespace System

variable {deployment : Deployment} {system next : System} {action : Action}

/-! ## One session for each consumer -/

def OneEach (system : System) : Prop := (system.sessions.map Session.consumer).Nodup

theorem OneEach.advance (unique : system.OneEach) (session : Session) (stage : Stage) :
    (system.advance session stage).OneEach := by
  change (session.consumer :: (system.otherSessions session.consumer).map Session.consumer).Nodup
  refine List.nodup_cons.mpr ⟨?_, unique.sublist (List.filter_sublist.map _)⟩
  intro member
  rcases List.mem_map.mp member with ⟨other, present, same⟩
  exact of_decide_eq_true (List.mem_filter.mp present).2 same

theorem OneEach.step (unique : system.OneEach)
    (taken : system.step deployment action = some next) : next.OneEach := by
  rcases step_sessions taken with ⟨within, _⟩ | ⟨_, _, command, _, handed, _⟩ |
    ⟨session, stage, _, _, rfl⟩ | ⟨session, writes, _, _, rfl⟩
  · exact unique.sublist (within.map _)
  · -- Only a delivery hands a command over, and it finds the consumer idle.
    rcases step_quiet taken with quiet | ⟨_, rfl⟩ | ⟨_, rfl⟩ | ⟨_, rfl⟩ | ⟨consumer, _, _, rfl⟩ |
      ⟨_, _, rfl⟩
    · rw [quiet.handed] at handed
      exact absurd handed.symm (List.cons_ne_self _ _)
    · rcases tick_cases taken with ⟨_, rfl⟩
      exact unique
    · cases taken
      exact unique
    · cases taken
      exact unique
    · rcases deliver_cases taken with ⟨_, idle, _, _, ⟨_, rfl⟩ | ⟨_, _, rfl⟩⟩
      · exact unique
      · refine List.nodup_cons.mpr ⟨?_, unique⟩
        intro member
        rcases List.mem_map.mp member with ⟨other, present, same⟩
        have busy := List.find?_eq_none.mp idle other present
        exact busy (decide_eq_true same)
    · rcases ack_cases taken with ⟨_, _, _, rfl⟩
      exact unique.sublist (List.filter_sublist.map _)
  · exact unique.advance session stage
  · exact unique.advance session .committed

theorem Reachable.oneEach (reached : System.Reachable deployment system) : system.OneEach := by
  refine Runs.Reachable.invariant ?_ (fun _ _ _ unique _ taken => unique.step taken) reached
  rintro _ rfl
  exact List.nodup_nil

theorem OneEach.session_eq (unique : system.OneEach) {session : Session}
    (member : session ∈ system.sessions) : system.session session.consumer = some session := by
  cases found : system.session session.consumer with
  | none => exact absurd (decide_eq_true rfl) (List.find?_eq_none.mp found session member)
  | some other =>
      rcases session_spec found with ⟨present, same⟩
      rw [List.inj_on_of_nodup_map unique present member same]

/-- The sessions are the one of a consumer and those of the others. -/
theorem OneEach.perm (unique : system.OneEach) {session : Session}
    (member : session ∈ system.sessions) :
    system.sessions.Perm (session :: system.otherSessions session.consumer) := by
  have found := unique.session_eq member
  have fewer := session_cons_subperm found
  refine (fewer.perm_of_length_le ?_).symm
  have nodup : system.sessions.Nodup := unique.of_map
  refine (List.Nodup.subperm nodup ?_).length_le
  intro other present
  by_cases same : other.consumer = session.consumer
  · rw [List.inj_on_of_nodup_map unique present member same]
    exact List.mem_cons_self
  · exact List.mem_cons_of_mem _ (List.mem_filter.mpr ⟨present, decide_eq_true same⟩)

/-! ## What an undisturbed step leaves -/

/-- The others see nothing, or one consumer is a statement further, or its
message is acknowledged. -/
theorem undisturbed_cases (unique : system.OneEach) (undisturbed : system.Undisturbed action)
    (taken : system.step deployment action = some next) :
    (action.elsewhere = true ∧ next.sessions = system.sessions ∧ next.acked = system.acked) ∨
      Exists fun session => session ∈ system.sessions ∧ action.elsewhere = false ∧
        ((Exists fun stage : Stage => stage.remaining < session.stage.remaining ∧
            stage.aborted = false ∧
            next.sessions =
              { session with stage := stage } :: system.otherSessions session.consumer ∧
            next.acked = system.acked) ∨
          (session.stage = .committed ∧
            next.sessions = system.otherSessions session.consumer ∧
            next.acked = session.command :: system.acked)) := by
  rcases undisturbed with outside | ⟨session, member, issued⟩
  · refine Or.inl ⟨outside, ?_⟩
    cases action with
    | tick milliseconds =>
        rcases tick_cases taken with ⟨_, rfl⟩
        exact ⟨rfl, rfl⟩
    | sign command =>
        cases taken
        exact ⟨rfl, rfl⟩
    | publishCommand payload =>
        cases taken
        exact ⟨rfl, rfl⟩
    | createAlert actor input id instant =>
        rcases createAlert_cases taken with ⟨_, _, _, rfl⟩
        exact ⟨rfl, rfl⟩
    | selectPending publisher =>
        rw [selectPending_cases taken]
        exact ⟨rfl, rfl⟩
    | publishReply publisher =>
        rcases publishReply_cases taken with ⟨_, _, _, _, _, _, _, _, rfl⟩
        exact ⟨rfl, rfl⟩
    | acknowledgeReply publisher =>
        rcases acknowledgeReply_cases taken with ⟨_, _, _, rfl⟩
        exact ⟨rfl, rfl⟩
    | markReply publisher =>
        rcases markReply_cases taken with ⟨_, _, _, _, _, _, rfl⟩
        exact ⟨rfl, rfl⟩
    | stopPublisher publisher =>
        cases taken
        exact ⟨rfl, rfl⟩
    | _ => cases outside
  · refine Or.inr ⟨session, member, ?_⟩
    have own := unique.session_eq member
    cases issued with
    | begin stage =>
        rcases beginTransaction_cases taken with ⟨_, found, _, rfl⟩
        cases own.symm.trans found
        exact ⟨rfl, Or.inl ⟨_, by simp [stage, Stage.remaining], rfl, rfl, rfl⟩⟩
    | insert stage =>
        rcases insertInbox_cases taken with ⟨_, _, _, found, _, _, _, ⟨_, rfl⟩ | ⟨_, rfl⟩⟩
        · cases own.symm.trans found
          exact ⟨rfl, Or.inl ⟨_, by simp [stage, Stage.remaining], rfl, rfl, rfl⟩⟩
        · cases own.symm.trans found
          exact ⟨rfl, Or.inl ⟨_, by simp [stage, Stage.remaining], rfl, rfl, rfl⟩⟩
    | read stage answered =>
        rcases readAlerts_cases taken with ⟨_, _, _, _, found, _, _, rfl⟩
        cases own.symm.trans found
        refine ⟨rfl, Or.inl ⟨_, by simp [stage, Stage.remaining], ?_, rfl, rfl⟩⟩
        exact (readReply_aborted _ _ _ _).trans (decide_eq_false answered)
    | enqueue stage fresh =>
        rcases enqueueReply_cases taken with ⟨_, _, _, _, found, _, ⟨_, rfl⟩ | ⟨_, _, rfl⟩⟩
        · cases own.symm.trans found
          exact ⟨rfl, Or.inl ⟨_, by simp [stage, Stage.remaining], rfl, rfl, rfl⟩⟩
        · cases own.symm.trans found
          exact ⟨rfl, Or.inl ⟨_, by simp [stage, Stage.remaining], rfl, rfl, rfl⟩⟩
    | record stage =>
        rcases insertStatus_cases taken with ⟨_, _, _, _, _, _, found, _, _, rfl⟩
        cases own.symm.trans found
        exact ⟨rfl, Or.inl ⟨_, by simp [stage, Stage.remaining], rfl, rfl, rfl⟩⟩
    | commit stage =>
        rcases commit_cases taken with ⟨_, found, ⟨_, rfl⟩ | ⟨_, _, rfl⟩⟩
        · cases own.symm.trans found
          exact ⟨rfl, Or.inl ⟨_, by simp [stage, Stage.remaining], rfl, rfl, rfl⟩⟩
        · cases own.symm.trans found
          exact ⟨rfl, Or.inl ⟨_, by simp [stage, Stage.remaining], rfl, rfl, rfl⟩⟩
    | ack stage =>
        rcases ack_cases taken with ⟨_, found, _, rfl⟩
        cases own.symm.trans found
        exact ⟨rfl, Or.inr ⟨stage, rfl, rfl⟩⟩

theorem OneEach.remaining (unique : system.OneEach) {session : Session}
    (member : session ∈ system.sessions) :
    system.remaining = session.stage.remaining +
      ((system.otherSessions session.consumer).map
        (fun other => other.stage.remaining)).sum := by
  rw [System.remaining, ((unique.perm member).map _).sum_eq, List.map_cons, List.sum_cons]

/-- Every statement is paid for by what is left to do. -/
theorem cost_le (unique : system.OneEach) (undisturbed : system.Undisturbed action)
    (taken : system.step deployment action = some next) :
    action.cost + next.remaining ≤ system.remaining := by
  rcases undisturbed_cases unique undisturbed taken with ⟨outside, same, _⟩ |
    ⟨session, member, statement, ⟨stage, less, _, moved, _⟩ | ⟨stage, left, _⟩⟩
  · rw [Action.cost, if_pos outside, System.remaining, same, System.remaining, Nat.zero_add]
  · have before := unique.remaining member
    rw [Action.cost, if_neg (by rw [statement]; decide), System.remaining, moved, List.map_cons,
      List.sum_cons, before]
    dsimp only
    omega
  · have before := unique.remaining member
    rw [stage] at before
    rw [Action.cost, if_neg (by rw [statement]; decide), System.remaining, left, before]
    exact Nat.le_refl _

end System

/-! ## Whoever holds an inbox row waits for nobody -/

section Keys

variable {postgres : Postgres} {command : AsyncCommand} {stage : Stage}

theorem Stage.Sound.outbox_key (sound : stage.Sound postgres command) {held : OutboxRow}
    (holds : stage.outbox = some held) :
    Exists fun row => stage.inbox = some row ∧
      held.dedupeKey = replyDedupeKey row.dedupeKey := by
  cases stage with
  | recording now row reply outbox =>
      rcases sound with ⟨_, _, _, built, _, written⟩
      change outbox = some held at holds
      rw [written, Option.some.injEq] at holds
      exact ⟨row, rfl, by rw [built, ← holds]; rfl⟩
  | committing writes =>
      cases writes with
      | none => cases holds
      | some writes =>
          rcases sound.1 with ⟨_, _, _, _, built, written, _, _⟩
          change writes.outbox = some held at holds
          rw [written, Option.some.injEq] at holds
          exact ⟨writes.inbox, rfl, by rw [built, ← holds]; rfl⟩
  | _ => cases holds

theorem Stage.Sound.status_key (sound : stage.Sound postgres command) {held : StatusRow}
    (holds : stage.status = some held) :
    Exists fun row => stage.inbox = some row ∧ held.correlationId = row.correlationId := by
  cases stage with
  | committing writes =>
      cases writes with
      | none => cases holds
      | some writes =>
          rcases sound.1 with ⟨_, _, _, _, built, _, status, _⟩
          change some writes.status = some held at holds
          rw [status, Option.some.injEq] at holds
          exact ⟨writes.inbox, rfl, by rw [built, ← holds]; rfl⟩
  | _ => cases holds

/-- No two consumers hold inbox rows that share a key. -/
theorem Correspondence.others_apart {system : System} {consumer : Nat} {session other : Session}
    (holds : Correspondence postgres system) (found : system.session consumer = some session)
    {row held : InboxRow} (own : session.stage.inbox = some row)
    (present : other ∈ system.otherSessions session.consumer)
    (theirs : other.stage.inbox = some held) : Apart row held := by
  have pairs := UniqueKeys.pairwise Apart.symm (held_subperm found).1
    (List.pairwise_append.mp holds.rows).1
  rw [own] at pairs
  exact (List.pairwise_cons.mp pairs).1 held (List.mem_filterMap.mpr ⟨other, present, theirs⟩)

end Keys

/-- A reachable state in which no transaction is aborted, and PostgreSQL takes
the actors of the open commands. -/
structure System.Workable (deployment : Deployment) (system : System) : Prop where
  reached : System.Reachable deployment system
  assigned : forall session, session ∈ system.sessions -> Exists fun actor =>
    deployment.postgres.assignText session.command.operation.actorSubject = some actor
  alive : forall session, session ∈ system.sessions -> session.stage.aborted = false

namespace System.Workable

variable {deployment : Deployment} {system next : System} {action : Action} {session : Session}

theorem step (workable : system.Workable deployment) (undisturbed : system.Undisturbed action)
    (taken : system.step deployment action = some next) : next.Workable deployment := by
  have unique := System.Reachable.oneEach workable.reached
  have reached : System.Reachable deployment next := .step workable.reached trivial taken
  rcases System.undisturbed_cases unique undisturbed taken with ⟨_, same, _⟩ |
    ⟨session, member, _, ⟨stage, _, alive, moved, _⟩ | ⟨_, left, _⟩⟩
  · refine ⟨reached, ?_, ?_⟩
    · rw [same]
      exact workable.assigned
    · rw [same]
      exact workable.alive
  · refine ⟨reached, ?_, ?_⟩
    · rw [moved]
      intro other present
      rcases List.mem_cons.mp present with rfl | later
      · exact workable.assigned session member
      · exact workable.assigned other (System.mem_of_mem_otherSessions later)
    · rw [moved]
      intro other present
      rcases List.mem_cons.mp present with rfl | later
      · exact alive
      · exact workable.alive other (System.mem_of_mem_otherSessions later)
  · refine ⟨reached, ?_, ?_⟩
    · rw [left]
      exact fun other later => workable.assigned other (System.mem_of_mem_otherSessions later)
    · rw [left]
      exact fun other later => workable.alive other (System.mem_of_mem_otherSessions later)

theorem passes (workable : system.Workable deployment) (member : session ∈ system.sessions) :
    Exists fun now => PassesGate deployment.config session.command now := by
  rcases (System.Reachable.gated workable.reached).1 session member with
    ⟨_, _, _, _, _, accepted⟩
  exact ⟨_, ((acceptCommand_eq_some_iff _ _ _ _).mp accepted).2.2⟩

/-- The reply can be enqueued: its key belongs to this request alone. -/
theorem enqueueReply (workable : system.Workable deployment) (member : session ∈ system.sessions)
    {now : Int} {row : InboxRow} {reply : OperationReply}
    (stage : session.stage = .replying now row reply false) {eventId : Uuid}
    (fresh : eventId ∉ system.claimedEvents) :
    Exists fun next => system.enqueueReply session.consumer eventId = some next := by
  have holds := System.Reachable.correspondence workable.reached
  have found := (System.Reachable.oneEach workable.reached).session_eq member
  rcases workable.passes member with ⟨_, passes⟩
  have own : session.stage.inbox = some row := by rw [stage]; rfl
  have sound := holds.stages session member
  rw [stage] at sound
  rcases sound with ⟨actor, _, built, _⟩
  have checked : (outboxRow session.command reply eventId now).checks = true :=
    passes.outboxRow_checks reply eventId now
  have free : (system.otherSessions session.consumer).any (fun other =>
      other.stage.outbox.any (fun held =>
        decide (held.dedupeKey = (outboxRow session.command reply eventId now).dedupeKey) ||
          decide (held.eventId = (outboxRow session.command reply eventId now).eventId))) =
      false := by
    rw [List.any_eq_false]
    intro other present
    cases theirs : other.stage.outbox with
    | none => exact Bool.false_ne_true
    | some held =>
        have member := System.mem_of_mem_otherSessions present
        rcases (holds.stages other member).outbox_key theirs with ⟨otherRow, holding, key⟩
        have apart := (InboxRow.not_clashes_iff _ _).mp
          (holds.others_apart found own present holding)
        rw [Option.any_some, Bool.or_eq_true, decide_eq_true_eq, decide_eq_true_eq, not_or]
        constructor
        · intro same
          apply apart.2.2
          apply replyDedupeKey_injective
          rw [built]
          exact same.symm.trans key
        · intro same
          apply fresh
          refine List.mem_append_left _ (List.mem_map.mpr ⟨held, ?_, same⟩)
          exact List.mem_filterMap.mpr ⟨other, member, theirs⟩
  have stored : insertOutbox system.database.outbox
      (outboxRow session.command reply eventId now) ≠ .failed := by
    unfold insertOutbox
    split
    · exact nofun
    · rw [if_neg]
      · exact nofun
      · rw [List.any_eq_true]
        rintro ⟨other, present, same⟩
        apply fresh
        exact List.mem_append_right _ (List.mem_map.mpr ⟨other, present, of_decide_eq_true same⟩)
  simp only [System.enqueueReply, found, stage, checked, free, Bool.not_true, Bool.false_eq_true,
    if_false]
  split
  · next failed => exact absurd failed stored
  · exact ⟨_, rfl⟩
  · exact ⟨_, rfl⟩

/-- The status can be recorded: its correlation belongs to this request alone. -/
theorem insertStatus (workable : system.Workable deployment) (member : session ∈ system.sessions)
    {now : Int} {row : InboxRow} {reply : OperationReply} {outbox : Option OutboxRow}
    (stage : session.stage = .recording now row reply outbox) :
    Exists fun next => system.insertStatus deployment session.consumer = some next := by
  have holds := System.Reachable.correspondence workable.reached
  have found := (System.Reachable.oneEach workable.reached).session_eq member
  rcases workable.passes member with ⟨_, passes⟩
  have own : session.stage.inbox = some row := by rw [stage]; rfl
  have sound := holds.stages session member
  rw [stage] at sound
  rcases sound with ⟨actor, eventId, assigned, built, answers, _⟩
  have bound : bindStatus deployment.postgres session.command reply now =
      some (statusRow session.command actor reply now) :=
    (bindRow_eq_some_iff _ _ _ _ _).mpr
      ⟨actor, assigned, passes.statusRow_checks answers _ _, rfl⟩
  have free : (system.otherSessions session.consumer).any (fun other => other.stage.status.any
      (fun held => decide (held.correlationId =
        (statusRow session.command actor reply now).correlationId))) = false := by
    rw [List.any_eq_false]
    intro other present
    cases theirs : other.stage.status with
    | none => exact Bool.false_ne_true
    | some held =>
        have member := System.mem_of_mem_otherSessions present
        rcases (holds.stages other member).status_key theirs with ⟨otherRow, holding, key⟩
        have apart := (InboxRow.not_clashes_iff _ _).mp
          (holds.others_apart found own present holding)
        rw [Option.any_some, decide_eq_true_eq]
        intro same
        apply apart.2.1
        rw [built]
        exact same.symm.trans key
  simp only [System.insertStatus, found, stage, bound, free, Bool.false_eq_true, if_false]
  exact ⟨_, rfl⟩

/-- The inbox insert waits for consumers only that hold a row themselves. -/
theorem insertInbox (workable : system.Workable deployment) (member : session ∈ system.sessions)
    {now : Int} (stage : session.stage = .begun now) :
    (Exists fun next => system.insertInbox deployment session.consumer = some next) ∨
      Exists fun other => other ∈ system.sessions ∧ other.stage.inbox.isSome = true := by
  have found := (System.Reachable.oneEach workable.reached).session_eq member
  rcases workable.passes member with ⟨_, passes⟩
  rcases workable.assigned session member with ⟨actor, assigned⟩
  have checked : (inboxRow session.command actor now).checks = true :=
    Bool.and_eq_true_iff.mpr
      ⟨boundedDedupeKey_lengthWithin passes.dedupeKey, passes.tenantWithin⟩
  have bound : bindInbox deployment.postgres session.command now =
      some (inboxRow session.command actor now) :=
    (bindRow_eq_some_iff _ _ _ _ _).mpr ⟨actor, assigned, checked, rfl⟩
  cases waits : (system.otherSessions session.consumer).any (fun other =>
      other.stage.inbox.any (InboxRow.clashes (inboxRow session.command actor now))) with
  | true =>
      rcases List.any_eq_true.mp waits with ⟨other, present, clash⟩
      refine Or.inr ⟨other, System.mem_of_mem_otherSessions present, ?_⟩
      cases held : other.stage.inbox with
      | none =>
          rw [held] at clash
          cases clash
      | some row => rfl
  | false =>
      refine Or.inl ?_
      simp only [System.insertInbox, found, stage, bound, waits, Bool.false_eq_true, if_false]
      split
      · exact ⟨_, rfl⟩
      · exact ⟨_, rfl⟩

/-- Everyone else can go on, whatever the others hold. -/
theorem goes_on (workable : system.Workable deployment) (member : session ∈ system.sessions)
    (ahead : forall now, session.stage ≠ .begun now) {eventId : Uuid}
    (fresh : eventId ∉ system.claimedEvents) :
    Exists fun action => Exists fun next => session.Issues system action ∧
      system.step deployment action = some next := by
  have found := (System.Reachable.oneEach workable.reached).session_eq member
  cases stage : session.stage with
  | handed =>
      have enabled : (system.step deployment (.beginTransaction session.consumer)).isSome =
          true := by
        simp only [System.step, System.beginTransaction, found, stage, Option.isSome_some]
      rcases Option.isSome_iff_exists.mp enabled with ⟨next, taken⟩
      exact ⟨_, next, .begin stage, taken⟩
  | begun now => exact absurd stage (ahead now)
  | reading now row =>
      rcases workable.passes member with ⟨_, passes⟩
      rcases passes.envelope.actorSubject with ⟨subject, parsed⟩
      have enabled : (system.step deployment (.readAlerts session.consumer .answered)).isSome =
          true := by
        simp only [System.step, System.readAlerts, found, stage, parsed, Option.isSome_some]
      rcases Option.isSome_iff_exists.mp enabled with ⟨next, taken⟩
      exact ⟨_, next, .read stage (by decide), taken⟩
  | replying now row reply aborted =>
      have alive := workable.alive session member
      rw [stage] at alive
      cases alive
      rcases workable.enqueueReply member stage fresh with ⟨next, taken⟩
      exact ⟨_, next, .enqueue stage fresh, taken⟩
  | recording now row reply outbox =>
      rcases workable.insertStatus member stage with ⟨next, taken⟩
      exact ⟨_, next, .record stage, taken⟩
  | committing writes =>
      have enabled : (system.step deployment (.commit session.consumer)).isSome = true := by
        cases writes with
        | none => simp only [System.step, System.commit, found, stage, Option.isSome_some]
        | some writes => simp only [System.step, System.commit, found, stage, Option.isSome_some]
      rcases Option.isSome_iff_exists.mp enabled with ⟨next, taken⟩
      exact ⟨_, next, .commit stage, taken⟩
  | committed =>
      have enabled : (system.step deployment (.ack session.consumer true)).isSome = true := by
        simp only [System.step, System.ack, found, stage, Option.isSome_some]
      rcases Option.isSome_iff_exists.mp enabled with ⟨next, taken⟩
      exact ⟨_, next, .ack stage, taken⟩

/-- Where a message is worked on, some consumer can go on. -/
theorem progress (workable : system.Workable deployment) (busy : system.sessions ≠ [])
    {eventId : Uuid} (fresh : eventId ∉ system.claimedEvents) :
    Exists fun session => session ∈ system.sessions ∧
      Exists fun action => Exists fun next => session.Issues system action ∧
        system.step deployment action = some next := by
  rcases List.exists_mem_of_ne_nil _ busy with ⟨session, member⟩
  by_cases early : Exists fun now => session.stage = .begun now
  · rcases early with ⟨now, stage⟩
    rcases workable.insertInbox member stage with ⟨next, taken⟩ | ⟨other, present, holds⟩
    · exact ⟨session, member, _, next, .insert stage, taken⟩
    · -- The other one holds a row, so it stands behind its own insert.
      have ahead : forall now, other.stage ≠ .begun now := by
        intro now stage
        rw [stage] at holds
        cases holds
      exact ⟨other, present, workable.goes_on present ahead fresh⟩
  · exact ⟨session, member,
      workable.goes_on member (fun now stage => early ⟨now, stage⟩) fresh⟩

end System.Workable

/-! ## Every message is finished -/

/-- The command is acknowledged or still worked on. -/
def System.Carries (system : System) (command : AsyncCommand) : Prop :=
  command ∈ system.acked ∨
    Exists fun session => session ∈ system.sessions ∧ session.command = command

theorem System.Carries.step {deployment : Deployment} {system next : System} {action : Action}
    {command : AsyncCommand} (carried : system.Carries command) (unique : system.OneEach)
    (undisturbed : system.Undisturbed action)
    (taken : system.step deployment action = some next) : next.Carries command := by
  rcases System.undisturbed_cases unique undisturbed taken with ⟨_, same, acked⟩ |
    ⟨session, member, _, ⟨stage, _, _, moved, acked⟩ | ⟨_, left, acked⟩⟩
  · rw [System.Carries, same, acked]
    exact carried
  · rw [System.Carries, moved, acked]
    rcases carried with done | ⟨other, present, same⟩
    · exact Or.inl done
    · rcases List.mem_cons.mp ((unique.perm member).mem_iff.mp present) with rfl | later
      · exact Or.inr ⟨_, List.mem_cons_self, same⟩
      · exact Or.inr ⟨other, List.mem_cons_of_mem _ later, same⟩
  · rw [System.Carries, left, acked]
    rcases carried with done | ⟨other, present, same⟩
    · exact Or.inl (List.mem_cons_of_mem _ done)
    · rcases List.mem_cons.mp ((unique.perm member).mem_iff.mp present) with rfl | later
      · exact Or.inl (List.mem_cons.mpr (Or.inl same.symm))
      · exact Or.inr ⟨other, later, same⟩

theorem System.remaining_le (system : System) :
    system.remaining ≤ 7 * system.sessions.length := by
  have each : forall count, count ∈ system.sessions.map (fun session => session.stage.remaining) ->
      count ≤ 7 := by
    intro count member
    rcases List.mem_map.mp member with ⟨session, _, rfl⟩
    cases session.stage <;> simp [Stage.remaining]
  have total := List.sum_le_card_nsmul _ 7 each
  rw [List.length_map, smul_eq_mul, Nat.mul_comm] at total
  exact total

/-- From every reachable state without an aborted transaction the consumers
finish, in whatever order their statements and everything around them happen:
an undisturbed run has at most seven statements for each open message, and
unless all of them are acknowledged some consumer can issue its next one. -/
theorem consumers_complete {deployment : Deployment} {system : System}
    (workable : system.Workable deployment) {actions : List Action} {next : System}
    (path : Runs.Path (System.step deployment) System.Undisturbed system actions next) :
    (actions.map Action.cost).sum ≤ 7 * system.sessions.length ∧
      ((next.sessions = [] ∧
          forall session, session ∈ system.sessions -> session.command ∈ next.acked) ∨
        forall eventId, eventId ∉ next.claimedEvents ->
          Exists fun session => session ∈ next.sessions ∧
            Exists fun action => Exists fun later => session.Issues next action ∧
              next.step deployment action = some later) := by
  have step : forall state action later, System.Workable deployment state ->
      state.Undisturbed action -> state.step deployment action = some later ->
      System.Workable deployment later :=
    fun _ _ _ holds undisturbed taken => holds.step undisturbed taken
  have paid : forall state action later, System.Workable deployment state ->
      state.Undisturbed action -> state.step deployment action = some later ->
      action.cost + later.remaining ≤ state.remaining :=
    fun _ _ _ holds undisturbed taken =>
      System.cost_le (System.Reachable.oneEach holds.reached) undisturbed taken
  constructor
  · have bounded := path.cost_le step paid workable
    have limit := system.remaining_le
    omega
  · by_cases idle : next.sessions = []
    · refine Or.inl ⟨idle, ?_⟩
      intro session member
      have carried := path.invariant
        (fun _ _ _ (holds : System.Workable deployment _ ∧ System.Carries _ session.command)
            undisturbed taken =>
          ⟨holds.1.step undisturbed taken,
            holds.2.step (System.Reachable.oneEach holds.1.reached) undisturbed taken⟩)
        ⟨workable, Or.inr ⟨session, member, rfl⟩⟩
      rcases carried.2 with done | ⟨other, present, _⟩
      · exact done
      · rw [idle] at present
        cases present
    · have kept := path.invariant step workable
      exact Or.inr (fun eventId fresh => kept.progress idle fresh)

/-- Two consumers work under one dedupe key, and one of them holds its row. -/
def waitingRun : List Action :=
  [.tick 2000000000000, .publishCommand firstCommand.payload,
    .publishCommand secondCommand.payload, .deliver 0 0 true, .deliver 1 1 true,
    .beginTransaction 0, .beginTransaction 1, .insertInbox 0]

theorem waitingRun_waits : (sampleRun .cast waitingRun).map (fun system =>
    (system.sessions.map (fun session => (session.command, session.stage.aborted)),
      system.claimedEvents, (system.insertInbox (sampleDeployment .cast) 1).isSome)) =
    some ([(firstCommand, false), (secondCommand, false)], [], false) := by
  decide +kernel

/-- The second consumer waits, and the first can issue a statement; after that
some consumer can issue the next one, unless both messages are acknowledged. -/
theorem waiting_consumers_complete : Exists fun system =>
    sampleRun .cast waitingRun = some system ∧
    (system.insertInbox (sampleDeployment .cast) 1).isSome = false ∧
    Exists fun session => session ∈ system.sessions ∧
      Exists fun action => Exists fun next => session.Issues system action ∧
        system.step (sampleDeployment .cast) action = some next ∧
        ((next.sessions = [] ∧
            forall session, session ∈ system.sessions -> session.command ∈ next.acked) ∨
          forall eventId, eventId ∉ next.claimedEvents ->
            Exists fun session => session ∈ next.sessions ∧
              Exists fun action => Exists fun later => session.Issues next action ∧
                next.step (sampleDeployment .cast) action = some later) := by
  rcases Option.map_eq_some_iff.mp waitingRun_waits with ⟨system, done, shown⟩
  rcases Prod.mk.inj shown with ⟨commands, shown⟩
  rcases Prod.mk.inj shown with ⟨events, waits⟩
  have both : forall session, session ∈ system.sessions ->
      (session.command = firstCommand ∨ session.command = secondCommand) ∧
        session.stage.aborted = false := by
    intro session member
    have listed := List.mem_map_of_mem (f := fun session : Session =>
      (session.command, session.stage.aborted)) member
    rw [commands] at listed
    simpa [or_and_right] using listed
  have workable : system.Workable (sampleDeployment .cast) := by
    refine ⟨sampleRun_reached done, ?_, fun session member => (both session member).2⟩
    intro session member
    have first : uuidIn firstCommand.operation.actorSubject = some (sampleId 1) := by
      decide +kernel
    have second : uuidIn secondCommand.operation.actorSubject = some (sampleId 2) := by
      decide +kernel
    rcases (both session member).1 with same | same
    · exact ⟨_, by rw [same]; exact first⟩
    · exact ⟨_, by rw [same]; exact second⟩
  refine ⟨system, done, waits, ?_⟩
  rcases (consumers_complete workable .nil).2 with ⟨idle, _⟩ | enabled
  · rw [idle] at commands
    cases commands
  · rcases enabled (sampleId 0xc1) (by rw [events]; exact List.not_mem_nil) with
      ⟨session, member, action, next, issues, taken⟩
    have path : Runs.Path (System.step (sampleDeployment .cast)) System.Undisturbed system
        [action] next := .cons (Or.inr ⟨session, member, issues⟩) taken .nil
    exact ⟨session, member, action, next, issues, taken, (consumers_complete workable path).2⟩

end EmbeddedAlerts
