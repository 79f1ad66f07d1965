import EmbeddedAlerts.Transport.Correspondence

namespace EmbeddedAlerts

/-!
# The command gate and the schema

The gate decides over Rust strings.  The schema decides over typed parameters
and CHECK constraints.  This module writes every statement of
`process_command` as its list of slots, a bound parameter and the column it is
for, and compares the two decisions for every command that passes the gate.

The typing rules are PostgreSQL's: a parameter keeps the type that the driver
declares for it, and a value is assigned to a column of its own type, or from
`json` to `jsonb`.  Text is read as another type only under an explicit cast.
-/

inductive SqlType where
  | text
  | uuid
  | json
  | jsonb
deriving DecidableEq

/-- A value as the driver sends it, under the type it declares. -/
inductive Parameter where
  | text (value : String)
  | uuid (value : Uuid)
  | json (value : Json)

def Parameter.type : Parameter -> SqlType
  | .text _ => .text
  | .uuid _ => .uuid
  | .json _ => .json

/-- The assignment casts between these types. -/
def assignable (source target : SqlType) : Bool :=
  decide (source = target) || decide (source = .json ∧ target = .jsonb)

/-- Under an explicit cast, text is read by the target's input function. -/
def castable (source target : SqlType) : Bool :=
  assignable source target || decide (source = .text)

inductive ColumnName where
  | eventId
  | correlationId
  | dedupeKey
  | productTenant
  | actorSubject
  | ownerSubject
  | subject
  | payload
  | status
deriving DecidableEq

/-- A NOT NULL column with its CHECK. -/
structure Column where
  name : ColumnName
  type : SqlType
  check : Parameter -> Bool

def Column.plain (name : ColumnName) (type : SqlType) : Column := ⟨name, type, fun _ => true⟩

/-- `CHECK (length(name) BETWEEN 1 AND max)`. -/
def Column.bounded (name : ColumnName) (max : Nat) : Column where
  name := name
  type := .text
  check
    | .text value => lengthWithin max value
    | _ => false

/-- `CHECK (status IN ('completed', 'rejected'))`. -/
def Column.status : Column where
  name := .status
  type := .text
  check
    | .text value => decide (value = "completed") || decide (value = "rejected")
    | _ => false

/-- One bound parameter, the explicit cast of the statement if it has one, and
the column that the value is assigned to or compared with. -/
structure Slot where
  parameter : Parameter
  cast : Option SqlType
  column : Column

def Slot.accepted (slot : Slot) : Bool :=
  (match slot.cast with
    | none => assignable slot.parameter.type slot.column.type
    | some target => castable slot.parameter.type target && assignable target slot.column.type) &&
    slot.column.check slot.parameter

/-! ## The statements of `process_command` -/

/-- `INSERT_INBOX_SQL`. -/
def insertInboxSlots (command : AsyncCommand) : List Slot :=
  [⟨.uuid command.eventId, none, .plain .eventId .uuid⟩,
    ⟨.uuid command.correlationId, none, .plain .correlationId .uuid⟩,
    ⟨.text command.dedupeKey, none, .bounded .dedupeKey 128⟩,
    ⟨.text command.productTenant, none, .bounded .productTenant 64⟩,
    ⟨.text command.operation.actorSubject, none, .plain .actorSubject .uuid⟩]

/-- `DIRECT_ALERTS_SQL`, whose parameters are compared with columns. -/
def directAlertsSlots (actor : VerifiedActor) : List Slot :=
  [⟨.text actor.productTenant, none, .plain .productTenant .text⟩,
    ⟨.uuid actor.subject, none, .plain .ownerSubject .uuid⟩]

/-- `INSERT_OUTBOX_SQL`. -/
def insertOutboxSlots (format : JsonFormat) (command : AsyncCommand) (reply : OperationReply)
    (eventId : Uuid) : List Slot :=
  let row := outboxRow command reply eventId 0
  [⟨.uuid row.eventId, none, .plain .eventId .uuid⟩,
    ⟨.uuid row.correlationId, none, .plain .correlationId .uuid⟩,
    ⟨.text row.dedupeKey, none, .bounded .dedupeKey 134⟩,
    ⟨.text row.subject, none, .bounded .subject 256⟩,
    ⟨.json (row.payload.toJson format), some .jsonb, .plain .payload .jsonb⟩]

/-- `INSERT_STATUS_SQL`. -/
def insertStatusSlots (command : AsyncCommand) (reply : OperationReply) : List Slot :=
  [⟨.uuid command.correlationId, none, .plain .correlationId .uuid⟩,
    ⟨.text command.productTenant, none, .bounded .productTenant 64⟩,
    ⟨.text command.operation.actorSubject, none, .plain .actorSubject .uuid⟩,
    ⟨.text reply.status, none, .status⟩]

/-- Every slot of the statements that answer a command. -/
def commandSlots (format : JsonFormat) (command : AsyncCommand) (actor : VerifiedActor)
    (reply : OperationReply) (eventId : Uuid) : List Slot :=
  insertInboxSlots command ++ directAlertsSlots actor ++
    insertOutboxSlots format command reply eventId ++ insertStatusSlots command reply

/-- A text put between two fixed ones is longer by their lengths. -/
theorem lengthWithin_append (front back : String) {text : String} {max : Nat} (bound : Nat)
    (within : lengthWithin max text = true) (fits : front.length + max + back.length ≤ bound) :
    lengthWithin bound (front ++ text ++ back) = true := by
  have lengths := of_decide_eq_true within
  apply decide_eq_true
  rw [String.length_append, String.length_append]
  omega

/-! ## The two decisions compared -/

theorem accepted_bounded {name : ColumnName} {text : String} {max : Nat}
    (within : lengthWithin max text = true) :
    (Slot.mk (.text text) none (.bounded name max)).accepted = true := by
  simp only [Slot.accepted, Column.bounded, Parameter.type, within]
  rfl

/-- For a command that passes the gate, the schema accepts every parameter but
the actor's. -/
theorem slot_accepted_iff {config : CommandConfig} {command : AsyncCommand} {now : UInt64}
    (passes : PassesGate config command now) {format : JsonFormat} {actor : VerifiedActor}
    {reply : OperationReply} (answers : reply.Answers command) {eventId : Uuid} {slot : Slot}
    (member : slot ∈ commandSlots format command actor reply eventId) :
    slot.accepted = true ↔ slot.column.name ≠ .actorSubject := by
  have dedupe := boundedDedupeKey_lengthWithin passes.dedupeKey
  have tenant : lengthWithin 64 command.productTenant = true := by
    rw [passes.operationTenant]
    exact boundedTenant_lengthWithin passes.envelope.productTenant
  have replyKey : lengthWithin 134 (replyDedupeKey command.dedupeKey) = true := by
    have joined := lengthWithin_append "reply:" "" 134 dedupe (by decide)
    rw [String.append_empty] at joined
    exact joined
  have subject : lengthWithin 256 (replySubject command.productTenant) = true :=
    lengthWithin_append "eal.event." ".v1" 256 tenant (by decide)
  have status : (decide (reply.status = "completed") || decide (reply.status = "rejected")) = true := by
    rcases answers.2 with completed | rejected
    · rw [completed.1]
      rfl
    · rw [rejected.1]
      rfl
  simp only [commandSlots, insertInboxSlots, directAlertsSlots, insertOutboxSlots,
    insertStatusSlots, List.cons_append, List.nil_append, List.mem_cons, List.not_mem_nil,
    or_false] at member
  rcases member with rfl | rfl | rfl | rfl | rfl | rfl | rfl | rfl | rfl | rfl | rfl | rfl | rfl |
    rfl | rfl | rfl
  · exact iff_of_true rfl nofun
  · exact iff_of_true rfl nofun
  · exact iff_of_true (accepted_bounded dedupe) nofun
  · exact iff_of_true (accepted_bounded tenant) nofun
  · exact iff_of_false Bool.false_ne_true (fun named => named rfl)
  · exact iff_of_true rfl nofun
  · exact iff_of_true rfl nofun
  · exact iff_of_true rfl nofun
  · exact iff_of_true rfl nofun
  · exact iff_of_true (accepted_bounded replyKey) nofun
  · exact iff_of_true (accepted_bounded subject) nofun
  · exact iff_of_true rfl nofun
  · exact iff_of_true rfl nofun
  · exact iff_of_true (accepted_bounded tenant) nofun
  · exact iff_of_false Bool.false_ne_true (fun named => named rfl)
  · exact iff_of_true status nofun

/-- The actor that `process_command` reads for. -/
def AsyncCommand.ReadsAs (command : AsyncCommand) (actor : VerifiedActor) : Prop :=
  Uuid.parseStr command.operation.actorSubject = some actor.subject ∧
    actor.productTenant = command.productTenant

/-- Every parameter of every statement is accepted, whatever the reply. -/
def SchemaAccepts (format : JsonFormat) (command : AsyncCommand) : Prop :=
  forall (actor : VerifiedActor) (reply : OperationReply) (eventId : Uuid),
    command.ReadsAs actor -> reply.Answers command ->
    forall slot, slot ∈ commandSlots format command actor reply eventId -> slot.accepted = true

theorem schemaAccepts_false {format : JsonFormat} {command : AsyncCommand} {subject : Uuid}
    (parsed : Uuid.parseStr command.operation.actorSubject = some subject) :
    ¬ SchemaAccepts format command := by
  intro accepts
  have accepted := accepts ⟨subject, command.productTenant⟩
    (errorReply command.correlationId "unavailable") command.eventId ⟨parsed, rfl⟩
    (errorReply_answers command _)
    ⟨.text command.operation.actorSubject, none, .plain .actorSubject .uuid⟩
    (by simp [commandSlots, insertInboxSlots])
  cases accepted

/-! ## What a refused actor means for a run -/

/-- No transaction is past its inbox insert. -/
structure Idle (system : System) : Prop where
  sessions : forall session, session ∈ system.sessions ->
    session.stage = .handed ∨ Exists fun now => session.stage = .begun now
  executed : system.executed = []
  acked : system.acked = []

theorem Idle.step {deployment : Deployment} {system next : System} {action : Action}
    (typed : deployment.postgres = .typed) (idle : Idle system)
    (taken : system.step deployment action = some next) : Idle next := by
  have early : forall session, session ∈ system.sessions -> forall stage, session.stage = stage ->
      stage = .handed ∨ Exists fun now => stage = .begun now :=
    fun session member stage same => same ▸ idle.sessions session member
  have unbound : forall command now row,
      bindInbox deployment.postgres command now = some row -> False := by
    intro command now row bound
    rw [typed] at bound
    cases bound
  have acked : next.acked = [] := by
    rcases System.step_acked taken with same | ⟨session, present, committed, _⟩
    · exact same.trans idle.acked
    · rcases early session present _ committed with impossible | ⟨_, impossible⟩
      · cases impossible
      · cases impossible
  rcases System.step_sessions taken with ⟨within, executed⟩ | ⟨_, _, _, started, _, executed⟩ |
    ⟨session, stage, present, move, rfl⟩ | ⟨session, writes, present, committing, _⟩
  · exact ⟨fun other member => idle.sessions other (within.subset member),
      executed.trans idle.executed, acked⟩
  · refine ⟨?_, executed.trans idle.executed, acked⟩
    intro other member
    rw [started] at member
    rcases List.mem_cons.mp member with rfl | earlier
    · exact Or.inl rfl
    · exact idle.sessions other earlier
  · refine ⟨?_, idle.executed, acked⟩
    intro other member
    rcases List.mem_cons.mp member with rfl | later
    · cases move with
      | begin _ => exact Or.inr ⟨_, rfl⟩
      | conflict _ _ bound _ _ => exact (unbound _ _ _ bound).elim
      | inserted _ bound => exact (unbound _ _ _ bound).elim
      | read before _ => rcases early _ present _ before with same | ⟨_, same⟩ <;> cases same
      | enqueued before _ => rcases early _ present _ before with same | ⟨_, same⟩ <;> cases same
      | recorded before => rcases early _ present _ before with same | ⟨_, same⟩ <;> cases same
      | finished before => rcases early _ present _ before with same | ⟨_, same⟩ <;> cases same
    · exact idle.sessions other (System.mem_of_mem_otherSessions later)
  · rcases early session present _ committing with same | ⟨_, same⟩ <;> cases same

/-- Against typed parameters no request is ever executed or acknowledged: every
transaction ends before its inbox row. -/
theorem System.Reachable.idle {deployment : Deployment} {system : System}
    (typed : deployment.postgres = .typed) (reached : System.Reachable deployment system) :
    Idle system := by
  refine Runs.Reachable.invariant ?_ (fun _ _ _ idle _ taken => idle.step typed taken) reached
  rintro _ rfl
  refine ⟨?_, rfl, rfl⟩
  intro session member
  cases member

/-! ## The refusal -/

/-- The schema refuses every command that passes the gate, and for one reason
only: the actor is bound as text and its columns are `uuid`.  The inbox insert
fails on it before anything else is tried, so no run ever executes or
acknowledges a request. -/
theorem gate_accepted_schema_refused {config : CommandConfig} {command : AsyncCommand}
    {now : UInt64} (passes : commandGate config command now = true) (format : JsonFormat) :
    ¬ SchemaAccepts format command ∧
    (forall (actor : VerifiedActor) (reply : OperationReply) (eventId : Uuid),
      reply.Answers command -> forall slot, slot ∈ commandSlots format command actor reply eventId ->
      (slot.accepted = true ↔ slot.column.name ≠ .actorSubject)) ∧
    (forall received, bindInbox .typed command received = none) ∧
    forall (deployment : Deployment) (system : System), deployment.postgres = .typed ->
      System.Reachable deployment system -> system.executed = [] ∧ system.acked = [] := by
  have gate := (commandGate_eq_true_iff _ _ _).mp passes
  rcases gate.envelope.actorSubject with ⟨subject, parsed⟩
  refine ⟨schemaAccepts_false parsed, ?_, fun _ => rfl, fun _ _ typed reached =>
    ⟨(System.Reachable.idle typed reached).executed, (System.Reachable.idle typed reached).acked⟩⟩
  intro actor reply eventId answers slot member
  exact slot_accepted_iff gate answers member

theorem firstCommand_passes :
    commandGate (sampleDeployment .typed).config firstCommand 2000000000000 = true := by
  decide +kernel

theorem firstCommand_schema_refused :
    commandGate (sampleDeployment .typed).config firstCommand 2000000000000 = true ∧
    forall received, bindInbox .typed firstCommand received = none :=
  ⟨firstCommand_passes,
    (gate_accepted_schema_refused firstCommand_passes (sampleDeployment .typed).format).2.2.1⟩

/-- The refused command comes from the signer's own spelling of the actor. -/
theorem hyphenated_actor_refused :
    commandGate (sampleDeployment .typed).config firstCommand 2000000000000 = true ∧
    ¬ SchemaAccepts (sampleDeployment .typed).format firstCommand := by
  refine ⟨firstCommand_passes, ?_⟩
  have parsed : Uuid.parseStr firstCommand.operation.actorSubject = some (sampleId 1) := by
    decide +kernel
  exact schemaAccepts_false parsed

/-- A cast would not be enough for every spelling that the gate admits. -/
example : (Uuid.parseStr "urn:uuid:00000000-0000-4000-8000-000000000001").isSome = true ∧
    uuidIn "urn:uuid:00000000-0000-4000-8000-000000000001" = none := by
  decide +kernel

end EmbeddedAlerts
