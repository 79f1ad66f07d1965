import EmbeddedAlerts.Auth.Specification
import EmbeddedAlerts.Transport.Redelivery
import EmbeddedAlerts.Transport.Tcp

namespace EmbeddedAlerts

/-!
# When the deadline is looked at

An operation carries a deadline, and each transport compares it with the clock
once: over TCP before the token is introspected, in the delivery loop before
the transaction is opened.  The awaits that follow have no deadline of their
own.  So a read that starts was preceded, in the handling of the same frame or
message, by a check that the deadline had not passed; how much later it starts
is the time of the awaits in between.

`execute_tcp_operation` is spread out here over its awaits, with a clock that
may advance at each of them.  The delivery loop already is a sequence of steps
in the interleaved system.
-/

/-! ## One call over TCP -/

/-- What the first part of the call has established, and when. -/
structure CheckedOperation where
  request : AuthenticatedOperation
  token : String
  checkedAt : Nat
deriving DecidableEq

/-- A list query on behalf of an actor, and when it was started. -/
structure StartedRead where
  operation : CheckedOperation
  actor : VerifiedActor
  startedAt : Nat
deriving DecidableEq

/-- Where one call of `execute_tcp_operation` stands.  `introspecting` and
`listing` are its two awaits. -/
inductive TcpStage where
  | received
  | introspecting (operation : CheckedOperation)
  | listing (read : StartedRead)
  | replied (reply : OperationReply) (read : Option StartedRead)

structure TcpCall where
  clock : Nat
  stage : TcpStage

/-- What the environment does: time passes, the first part of the call runs,
the introspection answers, the query on the store as it is then ends. -/
inductive TcpEvent where
  | advance (milliseconds : Nat)
  | check
  | introspected (claims : Except ClientError Introspection)
  | listed (store : AlertStore) (outcome : ReadOutcome)

/-- The call up to its first await. -/
def checkOperation (decode : List UInt8 -> Option AuthenticatedOperation) (frame : List UInt8)
    (clock : Nat) : TcpStage :=
  match decode frame with
  | none => .replied (errorReply Uuid.nil "invalid_request") none
  | some request =>
      match validateOperationEnvelopeAt request.envelope (unixMs clock) with
      | .error _ => .replied (errorReply request.envelope.operationId "invalid_request") none
      | .ok _ =>
          match stripPrefix "Bearer " request.authorization with
          | none => .replied (errorReply request.envelope.operationId "unauthorized") none
          | some token => .introspecting ⟨request, token, clock⟩

/-- From the introspection's answer to the second await: `store.list` is
called in the same breath. -/
def authorizeRead (policy : AuthPolicy) (claims : Except ClientError Introspection)
    (operation : CheckedOperation) (clock : Nat) : TcpStage :=
  match verifyToken policy (fun _ => ⟨claims, some (clock / 1000)⟩) operation.token readScope with
  | .error _ =>
      .replied (errorReply operation.request.envelope.operationId "unauthorized") none
  | .ok actor =>
      if actor.subject.toString = operation.request.envelope.actorSubject ∧
          actor.productTenant = operation.request.envelope.productTenant then
        .listing ⟨operation, actor, clock⟩
      else .replied (errorReply operation.request.envelope.operationId "unauthorized") none

def TcpCall.step (policy : AuthPolicy) (decode : List UInt8 -> Option AuthenticatedOperation)
    (frame : List UInt8) (call : TcpCall) : TcpEvent -> Option TcpCall
  | .advance milliseconds =>
      if call.clock + milliseconds < 2 ^ 64 then
        some { call with clock := call.clock + milliseconds }
      else none
  | .check =>
      match call.stage with
      | .received => some { call with stage := checkOperation decode frame call.clock }
      | _ => none
  | .introspected claims =>
      match call.stage with
      | .introspecting operation =>
          some { call with stage := authorizeRead policy claims operation call.clock }
      | _ => none
  | .listed store outcome =>
      match call.stage with
      | .listing read => some { call with
          stage := .replied (listReply store read.operation.request.envelope.operationId read.actor
            outcome) (some read) }
      | _ => none

/-- Reachable from a frame received at any time. -/
def TcpCall.Reachable (policy : AuthPolicy) (decode : List UInt8 -> Option AuthenticatedOperation)
    (frame : List UInt8) : TcpCall -> Prop :=
  Runs.Reachable (TcpCall.step policy decode frame)
    (fun call => call.clock < 2 ^ 64 ∧ call.stage = .received) Runs.anyStep

/-- The read of a call that has started one. -/
def TcpStage.read : TcpStage -> Option StartedRead
  | .listing read => some read
  | .replied _ read => read
  | _ => none

/-! ## What a call has established -/

/-- The deadline that a check at one time found acceptable. -/
def WithinWindow (checkedAt deadline : Nat) : Prop :=
  checkedAt ≤ deadline ∧ deadline ≤ checkedAt + maxOperationDeadlineMs

/-- The operation is the frame's, and it passed the checks at its time. -/
structure CheckedOperation.Valid (decode : List UInt8 -> Option AuthenticatedOperation)
    (frame : List UInt8) (operation : CheckedOperation) : Prop where
  decoded : decode frame = some operation.request
  envelope : validateOperationEnvelopeAt operation.request.envelope
    (unixMs operation.checkedAt) = .ok ()
  bearer : stripPrefix "Bearer " operation.request.authorization = some operation.token
  bounded : operation.checkedAt < 2 ^ 64

/-- The read was started after the check, for the actor that the untimed
function admits on the clock of the check. -/
structure StartedRead.Valid (policy : AuthPolicy)
    (decode : List UInt8 -> Option AuthenticatedOperation) (frame : List UInt8)
    (read : StartedRead) : Prop where
  operation : read.operation.Valid decode frame
  later : read.operation.checkedAt ≤ read.startedAt
  admitted : Exists fun answer =>
    authorizeOperation policy answer decode frame (some (unixMs read.operation.checkedAt)) =
      .ok (read.operation.request.envelope.operationId, read.actor)

theorem CheckedOperation.Valid.window {decode : List UInt8 -> Option AuthenticatedOperation}
    {frame : List UInt8} {operation : CheckedOperation} (valid : operation.Valid decode frame) :
    WithinWindow operation.checkedAt operation.request.envelope.deadlineUnixMs.toNat := by
  have envelope := (validateOperationEnvelopeAt_eq_ok_iff _ _).mp valid.envelope
  have notExpired := envelope.notExpired
  have near := envelope.near
  rw [unixMs_toNat valid.bounded] at notExpired near
  exact ⟨notExpired, near⟩

/-- The reply is the one of the untimed function, on the clock of the check
and an answer of the introspection; alerts in it come from a started read. -/
structure TcpReplied (policy : AuthPolicy) (decode : List UInt8 -> Option AuthenticatedOperation)
    (frame : List UInt8) (reply : OperationReply) (read : Option StartedRead) : Prop where
  computed : Exists fun store => Exists fun answer => Exists fun checkedAt =>
    Exists fun outcome => reply =
      executeTcpOperation store policy answer decode frame (some (unixMs checkedAt)) outcome
  started : forall found, read = some found -> found.Valid policy decode frame
  refused : read = none -> reply.result = none

/-- What holds at each stage of a call. -/
def TcpStage.Sound (policy : AuthPolicy) (decode : List UInt8 -> Option AuthenticatedOperation)
    (frame : List UInt8) (clock : Nat) : TcpStage -> Prop
  | .received => True
  | .introspecting operation => operation.Valid decode frame ∧ operation.checkedAt ≤ clock
  | .listing read => read.Valid policy decode frame
  | .replied reply read => TcpReplied policy decode frame reply read

section

variable {policy : AuthPolicy} {decode : List UInt8 -> Option AuthenticatedOperation}
  {frame : List UInt8}

/-- A reply that refuses the frame, whatever store and outcome it never met. -/
theorem tcpReplied_of_refusal {answer : String -> AuthAnswer} {clock : Nat}
    {reply : OperationReply}
    (refused : authorizeOperation policy answer decode frame (some (unixMs clock)) =
      .error reply) : TcpReplied policy decode frame reply none where
  computed := by
    refine ⟨.fallback [], answer, clock, .answered, ?_⟩
    rw [executeTcpOperation, refused]
  started := by
    intro found impossible
    cases impossible
  refused := fun _ => authorizeOperation_error refused

/-- Until the first await nothing depends on the introspection's answer. -/
theorem checkOperation_sound {clock : Nat} (bounded : clock < 2 ^ 64) :
    (checkOperation decode frame clock).Sound policy decode frame clock := by
  -- Any answer does: the checks before the introspection do not look at it.
  have refusal : forall reply : OperationReply,
      authorizeOperation policy (fun _ => ⟨.error .other, none⟩) decode frame
        (some (unixMs clock)) = .error reply -> TcpReplied policy decode frame reply none :=
    fun _ refused => tcpReplied_of_refusal refused
  unfold checkOperation
  cases decoded : decode frame with
  | none =>
      apply refusal
      simp only [authorizeOperation, decoded]
  | some request =>
      dsimp only
      cases validated : validateOperationEnvelopeAt request.envelope (unixMs clock) with
      | error problem =>
          apply refusal
          simp only [authorizeOperation, decoded, validated]
      | ok done =>
          dsimp only
          cases stripped : stripPrefix "Bearer " request.authorization with
          | none =>
              apply refusal
              simp only [authorizeOperation, decoded, validated, stripped]
          | some token => exact ⟨⟨decoded, validated, stripped, bounded⟩, Nat.le_refl _⟩

/-- After the checks the token alone decides, as in the untimed function. -/
theorem authorizeOperation_of_unverified {operation : CheckedOperation}
    {answer : String -> AuthAnswer} {problem : AuthError} (valid : operation.Valid decode frame)
    (failed : verifyToken policy answer operation.token readScope = .error problem) :
    authorizeOperation policy answer decode frame (some (unixMs operation.checkedAt)) =
      .error (errorReply operation.request.envelope.operationId "unauthorized") := by
  simp only [authorizeOperation, valid.decoded, valid.envelope, valid.bearer, failed]

theorem authorizeOperation_of_verified {operation : CheckedOperation}
    {answer : String -> AuthAnswer} {actor : VerifiedActor} (valid : operation.Valid decode frame)
    (verified : verifyToken policy answer operation.token readScope = .ok actor) :
    authorizeOperation policy answer decode frame (some (unixMs operation.checkedAt)) =
      if actor.subject.toString = operation.request.envelope.actorSubject ∧
          actor.productTenant = operation.request.envelope.productTenant then
        .ok (operation.request.envelope.operationId, actor)
      else .error (errorReply operation.request.envelope.operationId "unauthorized") := by
  simp only [authorizeOperation, valid.decoded, valid.envelope, valid.bearer, verified]

theorem authorizeRead_sound {claims : Except ClientError Introspection}
    {operation : CheckedOperation} {clock : Nat} (valid : operation.Valid decode frame)
    (later : operation.checkedAt ≤ clock) :
    (authorizeRead policy claims operation clock).Sound policy decode frame clock := by
  generalize chosen : authorizeRead policy claims operation clock = stage
  unfold authorizeRead at chosen
  split at chosen
  · rename_i problem failed
    rw [← chosen]
    exact tcpReplied_of_refusal (authorizeOperation_of_unverified valid failed)
  · rename_i actor verified
    have decides := authorizeOperation_of_verified valid verified
    split at chosen
    · rename_i same
      rw [if_pos same] at decides
      rw [← chosen]
      exact ⟨valid, later, ⟨_, decides⟩⟩
    · rename_i other
      rw [if_neg other] at decides
      rw [← chosen]
      exact tcpReplied_of_refusal decides

theorem listed_sound {read : StartedRead} (valid : read.Valid policy decode frame)
    (store : AlertStore) (outcome : ReadOutcome) :
    TcpReplied policy decode frame (listReply store read.operation.request.envelope.operationId
      read.actor outcome) (some read) where
  computed := by
    rcases valid.admitted with ⟨answer, admitted⟩
    refine ⟨store, answer, read.operation.checkedAt, outcome, ?_⟩
    rw [executeTcpOperation, admitted]
  started := by
    intro found same
    cases same
    exact valid
  refused := by
    intro impossible
    cases impossible

theorem TcpStage.Sound.later {stage : TcpStage} {clock milliseconds : Nat}
    (sound : stage.Sound policy decode frame clock) :
    stage.Sound policy decode frame (clock + milliseconds) := by
  cases stage with
  | introspecting operation => exact ⟨sound.1, Nat.le_trans sound.2 (Nat.le_add_right _ _)⟩
  | received => trivial
  | listing read => exact sound
  | replied reply read => exact sound

/-- The invariant of a call: its clock fits `u64` and its stage is sound. -/
def TcpCall.Sound (policy : AuthPolicy) (decode : List UInt8 -> Option AuthenticatedOperation)
    (frame : List UInt8) (call : TcpCall) : Prop :=
  call.clock < 2 ^ 64 ∧ call.stage.Sound policy decode frame call.clock

theorem TcpCall.Sound.step {call next : TcpCall} {event : TcpEvent}
    (sound : call.Sound policy decode frame)
    (taken : call.step policy decode frame event = some next) :
    next.Sound policy decode frame := by
  rcases sound with ⟨bounded, stage⟩
  cases event with
  | advance milliseconds =>
      simp only [TcpCall.step] at taken
      split at taken
      · rename_i fits
        cases taken
        exact ⟨fits, stage.later⟩
      · cases taken
  | check =>
      simp only [TcpCall.step] at taken
      split at taken
      · cases taken
        exact ⟨bounded, checkOperation_sound bounded⟩
      · cases taken
  | introspected claims =>
      simp only [TcpCall.step] at taken
      split at taken
      · rename_i operation here
        cases taken
        rw [here] at stage
        exact ⟨bounded, authorizeRead_sound stage.1 stage.2⟩
      · cases taken
  | listed store outcome =>
      simp only [TcpCall.step] at taken
      split at taken
      · rename_i read here
        cases taken
        rw [here] at stage
        exact ⟨bounded, listed_sound stage store outcome⟩
      · cases taken

theorem TcpCall.Reachable.sound {call : TcpCall} (reached : call.Reachable policy decode frame) :
    call.Sound policy decode frame := by
  refine Runs.Reachable.invariant ?_ (fun _ _ _ sound _ taken => sound.step taken) reached
  intro start begun
  refine ⟨begun.1, ?_⟩
  rw [begun.2]
  trivial

end

/-! ## The delivery loop -/

/-- The message at the index was delivered at a time at which the gate let the
command through. -/
def System.GatePassed (deployment : Deployment) (system : System) (index : Nat)
    (command : AsyncCommand) (checkedAt : Nat) : Prop :=
  Exists fun message => system.messages[index]? = some message ∧
    checkedAt ∈ message.deliveries ∧ checkedAt ≤ system.clock ∧
    acceptCommand deployment.config message.payload (unixMs checkedAt) = some command

/-- Messages keep their place, their payload and their delivery times. -/
theorem System.messages_kept {deployment : Deployment} {system next : System} {action : Action}
    (taken : system.step deployment action = some next) {index : Nat} {message : Message}
    (found : system.messages[index]? = some message) :
    Exists fun later => next.messages[index]? = some later ∧ later.payload = message.payload ∧
      message.deliveries ⊆ later.deliveries := by
  have unchanged : next.messages = system.messages -> Exists fun later =>
      next.messages[index]? = some later ∧ later.payload = message.payload ∧
        message.deliveries ⊆ later.deliveries := by
    intro same
    exact ⟨message, same ▸ found, rfl, List.Subset.refl _⟩
  rcases System.step_quiet taken with quiet | ⟨_, rfl⟩ | ⟨_, rfl⟩ | ⟨payload, rfl⟩ |
    ⟨consumer, place, termReceived, rfl⟩ | ⟨consumer, received, rfl⟩
  · exact unchanged quiet.messages
  · rcases System.tick_cases taken with ⟨_, rfl⟩
    exact unchanged rfl
  · cases taken
    exact unchanged rfl
  · cases taken
    refine ⟨message, ?_, rfl, List.Subset.refl _⟩
    exact (List.getElem?_append_left (List.getElem?_eq_some_iff.mp found).1).trans found
  · -- A delivery adds its time to one message, whatever the gate decides.
    have added : forall delivered : Message, forall old : Message,
        system.messages[place]? = some old -> delivered.payload = old.payload ->
        delivered.deliveries = system.clock :: old.deliveries ->
        Exists fun later => (system.messages.set place delivered)[index]? = some later ∧
          later.payload = message.payload ∧ message.deliveries ⊆ later.deliveries := by
      intro delivered old present payload deliveries
      rw [List.getElem?_set]
      split
      · rename_i here
        subst here
        rw [found, Option.some.injEq] at present
        subst present
        rw [if_pos (List.getElem?_eq_some_iff.mp found).1]
        refine ⟨delivered, rfl, payload, ?_⟩
        rw [deliveries]
        exact List.subset_cons_self _ _
      · exact ⟨message, found, rfl, List.Subset.refl _⟩
    rcases System.deliver_cases taken with ⟨old, _, present, _, ⟨_, rfl⟩ | ⟨command, _, rfl⟩⟩
    · exact added _ old present rfl rfl
    · exact added _ old present rfl rfl
  · rcases System.ack_cases taken with ⟨session, _, _, rfl⟩
    dsimp only
    rw [List.getElem?_modify, found]
    refine ⟨_, rfl, ?_⟩
    split
    · exact ⟨rfl, List.Subset.refl _⟩
    · exact ⟨rfl, List.Subset.refl _⟩

theorem System.clock_le {deployment : Deployment} {system next : System} {action : Action}
    (taken : system.step deployment action = some next) : system.clock ≤ next.clock := by
  rcases System.step_quiet taken with quiet | ⟨_, rfl⟩ | ⟨_, rfl⟩ | ⟨_, rfl⟩ |
    ⟨_, _, _, rfl⟩ | ⟨_, _, rfl⟩
  · exact Nat.le_of_eq quiet.clock.symm
  · rcases System.tick_cases taken with ⟨_, rfl⟩
    exact Nat.le_add_right _ _
  · cases taken
    exact Nat.le_refl _
  · cases taken
    exact Nat.le_refl _
  · rcases System.deliver_cases taken with ⟨_, _, _, _, ⟨_, rfl⟩ | ⟨_, _, rfl⟩⟩
    · exact Nat.le_refl _
    · exact Nat.le_refl _
  · rcases System.ack_cases taken with ⟨_, _, _, rfl⟩
    exact Nat.le_refl _

theorem System.GatePassed.step {deployment : Deployment} {system next : System} {action : Action}
    {index checkedAt : Nat} {command : AsyncCommand}
    (passed : system.GatePassed deployment index command checkedAt)
    (taken : system.step deployment action = some next) :
    next.GatePassed deployment index command checkedAt := by
  rcases passed with ⟨message, found, delivered, earlier, accepted⟩
  rcases System.messages_kept taken found with ⟨later, present, payload, deliveries⟩
  refine ⟨later, present, deliveries delivered, Nat.le_trans earlier (System.clock_le taken), ?_⟩
  rw [payload]
  exact accepted

/-- Whoever works on a command, or has committed its reply, passed the gate
with it at one of the deliveries of its message. -/
def System.Gated (deployment : Deployment) (system : System) : Prop :=
  (forall session, session ∈ system.sessions -> Exists fun checkedAt =>
    system.GatePassed deployment session.message session.command checkedAt) ∧
  forall writes, writes ∈ system.executed -> Exists fun index => Exists fun checkedAt =>
    system.GatePassed deployment index writes.command checkedAt

/-- Fewer sessions and the same log need no new fact. -/
theorem System.Gated.kept {deployment : Deployment} {system next : System} {action : Action}
    (gated : system.Gated deployment) (taken : system.step deployment action = some next)
    (sessions : next.sessions ⊆ system.sessions) (executed : next.executed = system.executed) :
    next.Gated deployment := by
  constructor
  · intro session member
    rcases gated.1 session (sessions member) with ⟨checkedAt, passed⟩
    exact ⟨checkedAt, passed.step taken⟩
  · intro writes member
    rw [executed] at member
    rcases gated.2 writes member with ⟨index, checkedAt, passed⟩
    exact ⟨index, checkedAt, passed.step taken⟩

/-- A session that moves keeps its message and its command. -/
theorem System.Gated.advance {deployment : Deployment} {system : System} {session : Session}
    (gated : system.Gated deployment) (member : session ∈ system.sessions) (stage : Stage)
    {other : Session} (present : other ∈ (system.advance session stage).sessions) :
    Exists fun checkedAt => system.GatePassed deployment other.message other.command checkedAt := by
  rcases List.mem_cons.mp present with rfl | earlier
  · exact gated.1 session member
  · exact gated.1 other (System.mem_of_mem_otherSessions earlier)

theorem System.Gated.step {deployment : Deployment} {system next : System} {action : Action}
    (gated : system.Gated deployment) (holds : Correspondence deployment.postgres system)
    (taken : system.step deployment action = some next) : next.Gated deployment := by
  rcases System.step_quiet taken with quiet | ⟨_, rfl⟩ | ⟨_, rfl⟩ | ⟨_, rfl⟩ |
    ⟨consumer, index, termReceived, rfl⟩ | ⟨_, _, rfl⟩
  · rcases System.step_sessions taken with ⟨sessions, executed⟩ | ⟨_, _, command, _, handed, _⟩ |
      ⟨session, stage, member, _, rfl⟩ | ⟨session, writes, member, stage, rfl⟩
    · exact gated.kept taken sessions.subset executed
    · rw [quiet.handed] at handed
      exact absurd handed.symm (List.cons_ne_self _ _)
    · refine ⟨?_, fun writes executed => ?_⟩
      · intro other present
        rcases gated.advance member stage present with ⟨checkedAt, passed⟩
        exact ⟨checkedAt, passed.step taken⟩
      · rcases gated.2 writes executed with ⟨index, checkedAt, passed⟩
        exact ⟨index, checkedAt, passed.step taken⟩
    · refine ⟨?_, fun other executed => ?_⟩
      · intro other present
        rcases gated.advance member .committed present with ⟨checkedAt, passed⟩
        exact ⟨checkedAt, passed.step taken⟩
      · rcases List.mem_append.mp executed with earlier | last
        · rcases gated.2 other earlier with ⟨index, checkedAt, passed⟩
          exact ⟨index, checkedAt, passed.step taken⟩
        · have sound := holds.stages session member
          rw [stage] at sound
          rcases gated.1 session member with ⟨checkedAt, passed⟩
          rw [← sound.2] at passed
          rw [List.mem_singleton.mp last]
          exact ⟨session.message, checkedAt, passed.step taken⟩
  · rcases System.tick_cases taken with ⟨_, rfl⟩
    exact gated.kept taken (List.Subset.refl _) rfl
  · cases taken
    exact ⟨gated.1, gated.2⟩
  · have step := taken
    cases taken
    exact gated.kept step (List.Subset.refl _) rfl
  · have step := taken
    rcases System.deliver_cases taken with ⟨message, _, found, _, ⟨_, rfl⟩ | ⟨command, admitted, rfl⟩⟩
    · exact gated.kept step (List.Subset.refl _) rfl
    · refine ⟨?_, fun writes executed => ?_⟩
      · intro session member
        rcases List.mem_cons.mp member with rfl | earlier
        · refine ⟨system.clock, { message.deliveredAt system.clock with accepted := true }, ?_,
            List.mem_cons_self, Nat.le_refl _, admitted⟩
          exact List.getElem?_set_self (List.getElem?_eq_some_iff.mp found).1
        · rcases gated.1 session earlier with ⟨checkedAt, passed⟩
          exact ⟨checkedAt, passed.step step⟩
      · rcases gated.2 writes executed with ⟨place, checkedAt, passed⟩
        exact ⟨place, checkedAt, passed.step step⟩
  · have step := taken
    rcases System.ack_cases taken with ⟨_, _, _, rfl⟩
    exact gated.kept step (fun _ member => System.mem_of_mem_otherSessions member) rfl

theorem System.Reachable.gated {deployment : Deployment} {system : System}
    (reached : System.Reachable deployment system) :
    system.Gated deployment := by
  have both : system.Gated deployment ∧ RedeliverySafe deployment system := by
    induction reached with
    | start begun =>
        cases begun
        refine ⟨⟨?_, ?_⟩, System.Reachable.redeliverySafe (.start rfl)⟩
        · intro session member
          cases member
        · intro writes member
          cases member
    | step _ _ taken ih =>
        rcases ih with ⟨gated, safe⟩
        exact ⟨gated.step safe.corresponds taken, safe.corresponds.step taken,
          safe.windowed.step taken⟩
  exact both.1

theorem System.GatePassed.window {deployment : Deployment} {system : System} {index checkedAt : Nat}
    {command : AsyncCommand} (windowed : system.Windowed deployment)
    (passed : system.GatePassed deployment index command checkedAt) :
    WithinWindow checkedAt command.operation.deadlineUnixMs.toNat := by
  rcases passed with ⟨message, _, _, earlier, accepted⟩
  exact (acceptCommand_window (Nat.lt_of_le_of_lt earlier windowed.1) accepted).2

/-! ## Reads and deadlines -/

/-- On both transports a read follows a check of its deadline in the handling
of the same frame or message: at the time of the check the deadline had not
passed and was at most the maximum away.  A completed reply comes from such a
read. -/
theorem reads_follow_deadline_check :
    (forall (policy : AuthPolicy) (decode : List UInt8 -> Option AuthenticatedOperation)
        (frame : List UInt8) (call : TcpCall), call.Reachable policy decode frame ->
      (forall read, call.stage.read = some read ->
        decode frame = some read.operation.request ∧
        read.operation.checkedAt ≤ read.startedAt ∧
        WithinWindow read.operation.checkedAt
          read.operation.request.envelope.deadlineUnixMs.toNat) ∧
      (forall reply read, call.stage = .replied reply read -> reply.result.isSome = true ->
        read.isSome = true)) ∧
    (forall (deployment : Deployment) (system : System), System.Reachable deployment system ->
      (forall session now row, session ∈ system.sessions -> session.stage = .reading now row ->
        Exists fun checkedAt =>
          system.GatePassed deployment session.message session.command checkedAt ∧
          WithinWindow checkedAt session.command.operation.deadlineUnixMs.toNat) ∧
      (forall writes, writes ∈ system.executed -> Exists fun index => Exists fun checkedAt =>
          system.GatePassed deployment index writes.command checkedAt ∧
          WithinWindow checkedAt writes.command.operation.deadlineUnixMs.toNat)) := by
  constructor
  · intro policy decode frame call reached
    rcases TcpCall.Reachable.sound reached with ⟨_, sound⟩
    constructor
    · intro read found
      have valid : read.Valid policy decode frame := by
        cases stage : call.stage with
        | received =>
            rw [stage] at found
            cases found
        | introspecting operation =>
            rw [stage] at found
            cases found
        | listing started =>
            rw [stage] at found sound
            cases found
            exact sound
        | replied reply started =>
            rw [stage] at found sound
            exact sound.started read found
      exact ⟨valid.operation.decoded, valid.later, valid.operation.window⟩
    · intro reply read stage listed
      rw [stage] at sound
      cases read with
      | some started => rfl
      | none =>
          rw [sound.refused rfl] at listed
          cases listed
  · intro deployment system reached
    have gated := System.Reachable.gated reached
    have safe := System.Reachable.redeliverySafe reached
    constructor
    · intro session now row member _
      rcases gated.1 session member with ⟨checkedAt, passed⟩
      exact ⟨checkedAt, passed, passed.window safe.windowed⟩
    · intro writes member
      rcases gated.2 writes member with ⟨index, checkedAt, passed⟩
      exact ⟨index, checkedAt, passed, passed.window safe.windowed⟩

/-! ## A slow introspection and a slow transaction -/

/-- The reader of the sample configuration asks for its list. -/
def lateOperation : AuthenticatedOperation where
  authorization := "Bearer " ++ "sample-access-token"
  envelope := ⟨1, Uuid.ofNat 9, "list_alerts", (Uuid.ofNat 7).toString, "embedded-alerts",
    2000000015000⟩

/-- The JSON text of the frame. -/
def lateFrame : List UInt8 := Text.asBytes (Json.object [
  ("authorization", .string lateOperation.authorization),
  ("envelope", lateOperation.envelope.toJson)]).compact

def lateDecode (frame : List UInt8) : Option AuthenticatedOperation :=
  if frame = lateFrame then some lateOperation else none

/-- The identity authority takes twenty seconds to answer. -/
def lateCall : Option TcpCall :=
  Runs.execute (TcpCall.step (sampleBoundary "embedded-alerts").policy lateDecode lateFrame)
    Runs.unchecked ⟨2000000000000, .received⟩
    [.check, .advance 20000, .introspected (.ok (readerClaims "embedded-alerts")),
      .listed (.fallback []) .answered]

def lateRead : StartedRead :=
  ⟨⟨lateOperation, "sample-access-token", 2000000000000⟩, ⟨Uuid.ofNat 7, "embedded-alerts"⟩,
    2000000020000⟩

/-- The reply of a call that has ended, and the read behind it. -/
def TcpStage.answered : TcpStage -> Option (OperationReply × StartedRead)
  | .replied reply (some read) => some (reply, read)
  | _ => none

theorem TcpStage.answered_eq_some {stage : TcpStage} {reply : OperationReply} {read : StartedRead}
    (found : stage.answered = some (reply, read)) : stage = .replied reply (some read) := by
  cases stage with
  | replied other started =>
      cases started with
      | none => cases found
      | some behind =>
          cases found
          rfl
  | _ => cases found

theorem lateCall_answered : lateCall.bind (fun call => call.stage.answered) =
    some (completedReply (Uuid.ofNat 9) [], lateRead) := by
  decide +kernel

theorem lateCall_reached {call : TcpCall} (done : lateCall = some call) :
    call.Reachable (sampleBoundary "embedded-alerts").policy lateDecode lateFrame :=
  Runs.Reachable.execute (fun _ _ _ => trivial) (.start ⟨by decide, rfl⟩) done

/-- The pool takes twenty seconds to give the consumer a connection. -/
def lateRun : List Action :=
  [.tick 2000000000000, .publishCommand firstCommand.payload, .deliver 0 0 true, .tick 20000,
    .beginTransaction 0, .insertInbox 0, .readAlerts 0 .answered, .enqueueReply 0 (sampleId 0xc1),
    .insertStatus 0, .commit 0]

theorem lateRun_executed : (sampleRun .cast lateRun).map (fun system =>
    system.executed.map (fun writes =>
      (writes.command, writes.inbox.receivedAt, writes.reply.status))) =
    some [(firstCommand, 2000000020000, "completed")] := by
  decide +kernel

/-- Both transports complete an operation whose deadline is five seconds past
when its read starts: over TCP the list query is called then, in the delivery
loop even the transaction is opened only then. -/
theorem late_reads_complete :
    (Exists fun call : TcpCall =>
      call.Reachable (sampleBoundary "embedded-alerts").policy lateDecode lateFrame ∧
      Exists fun reply => Exists fun read => call.stage = .replied reply (some read) ∧ reply.status = "completed" ∧
      read.operation.request.envelope.deadlineUnixMs.toNat < read.startedAt) ∧
    (Exists fun system => System.Reachable (sampleDeployment .cast) system ∧
      Exists fun writes => writes ∈ system.executed ∧ writes.reply.status = "completed" ∧
      (writes.command.operation.deadlineUnixMs.toNat : Int) < writes.inbox.receivedAt) := by
  constructor
  · rcases Option.bind_eq_some_iff.mp lateCall_answered with ⟨call, done, answered⟩
    exact ⟨call, lateCall_reached done, completedReply (Uuid.ofNat 9) [], lateRead,
      TcpStage.answered_eq_some answered, rfl, by decide⟩
  · rcases Option.map_eq_some_iff.mp lateRun_executed with ⟨system, done, executed⟩
    have listed : (firstCommand, (2000000020000 : Int), "completed") ∈
        system.executed.map (fun writes =>
          (writes.command, writes.inbox.receivedAt, writes.reply.status)) := by
      rw [executed]
      exact List.mem_singleton_self _
    rcases List.mem_map.mp listed with ⟨writes, member, facts⟩
    simp only [Prod.mk.injEq] at facts
    rcases facts with ⟨command, received, status⟩
    refine ⟨system, sampleRun_reached done, writes, member, status, ?_⟩
    rw [command, received]
    decide

/-- The slow call was checked inside the window that it then outlived. -/
theorem lateCall_checked : Exists fun call : TcpCall =>
    call.Reachable (sampleBoundary "embedded-alerts").policy lateDecode lateFrame ∧
    call.stage.read = some lateRead ∧
    WithinWindow lateRead.operation.checkedAt
      lateRead.operation.request.envelope.deadlineUnixMs.toNat := by
  rcases Option.bind_eq_some_iff.mp lateCall_answered with ⟨call, done, answered⟩
  have read : call.stage.read = some lateRead := by
    rw [TcpStage.answered_eq_some answered]
    rfl
  have reached := lateCall_reached done
  exact ⟨call, reached, read,
    ((reads_follow_deadline_check.1 _ _ _ call reached).1 lateRead read).2.2⟩

end EmbeddedAlerts
