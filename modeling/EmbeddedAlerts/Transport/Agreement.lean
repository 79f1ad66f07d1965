import EmbeddedAlerts.Transport.Tcp
import EmbeddedAlerts.Auth.Specification

namespace EmbeddedAlerts

/-!
# Who may read, on each transport

A reader who is accepted over HTTP asks for the same list over TCP and through
the signed command of the paired web server.  The token, the introspection's
answer and the actor are the same on all three ways.  What is not the same is
the test of the tenant: the configuration admits every bounded identifier, the
operation envelope has an alphabet and a length of its own, and the tables
bound the length once more.

The ways agree on a reader exactly when the configured tenant passes the
strictest of the three tests.
-/

/-- The envelope of a list request by this actor. -/
def listEnvelope (actor : VerifiedActor) (operationId : Uuid) (deadline : UInt64) :
    OperationEnvelope where
  version := 1
  operationId := operationId
  operation := "list_alerts"
  actorSubject := actor.subject.toString
  productTenant := actor.productTenant
  deadlineUnixMs := deadline

/-- The signed command for that envelope, before it is signed. -/
def listCommand (actor : VerifiedActor) (eventId operationId : Uuid) (dedupeKey : String)
    (deadline : UInt64) : AsyncCommand where
  eventId := eventId
  correlationId := operationId
  dedupeKey := dedupeKey
  productTenant := actor.productTenant
  operation := listEnvelope actor operationId deadline
  signature := ""

/-- The deadline lies in the window that starts now. -/
def DeadlineWithin (now deadline : UInt64) : Prop :=
  now.toNat ≤ deadline.toNat ∧ deadline.toNat ≤ now.toNat + maxOperationDeadlineMs

/-- The frame is refused neither as malformed nor as unauthorized. -/
def TcpAgrees (policy : AuthPolicy) (answer : String -> AuthAnswer) (token : String)
    (actor : VerifiedActor) (now : UInt64) : Prop :=
  forall (operationId : Uuid) (deadline : UInt64)
    (decode : List UInt8 -> Option AuthenticatedOperation) (frame : List UInt8)
    (store : AlertStore) (outcome : ReadOutcome),
    operationId ≠ Uuid.nil -> DeadlineWithin now deadline ->
    decode frame = some ⟨"Bearer " ++ token, listEnvelope actor operationId deadline⟩ ->
    (executeTcpOperation store policy answer decode frame (some now) outcome).error ≠
        some "invalid_request" ∧
      (executeTcpOperation store policy answer decode frame (some now) outcome).error ≠
        some "unauthorized"

/-- The command passes the gate of the consumer, which is configured with the
boundary's tenant. -/
def CommandAgrees (policy : AuthPolicy) (actor : VerifiedActor) (now : UInt64) : Prop :=
  forall (operationId eventId : Uuid) (dedupeKey : String) (deadline : UInt64)
    (hmac : List UInt8 -> List UInt8 -> List UInt8) (decode : List UInt8 -> Option AsyncCommand)
    (key : List UInt8) (signature : String),
    operationId ≠ Uuid.nil -> DeadlineWithin now deadline -> boundedDedupeKey dedupeKey = true ->
    signCommand hmac (listCommand actor eventId operationId dedupeKey deadline) key =
      .ok signature ->
    commandGate ⟨policy.productTenant, key, hmac, decode⟩
      { listCommand actor eventId operationId dedupeKey deadline with signature := signature }
      now = true

/-- Everything that follows for a reader whom HTTP accepts. -/
def TransportsAgree (policy : AuthPolicy) (answer : String -> AuthAnswer) (token : String)
    (actor : VerifiedActor) (now : UInt64) : Prop :=
  TcpAgrees policy answer token actor now ∧ CommandAgrees policy actor now ∧
    lengthWithin 64 actor.productTenant = true

section

variable {policy : AuthPolicy} {answer : String -> AuthAnswer} {token : String}
  {actor : VerifiedActor} {now : UInt64}

/-- Of the envelope's conditions only the tenant's is open. -/
theorem validEnvelope_listEnvelope_iff {operationId : Uuid} {deadline : UInt64}
    (named : operationId ≠ Uuid.nil) (within : DeadlineWithin now deadline) :
    ValidEnvelope (listEnvelope actor operationId deadline) now ↔
      boundedTenant actor.productTenant = true := by
  constructor
  · intro valid
    exact valid.productTenant
  · intro bounded
    exact ⟨rfl, rfl, named, bounded, ⟨actor.subject, Uuid.parseStr_toString actor.subject⟩,
      within.1, within.2⟩

theorem listReply_error (store : AlertStore) (operationId : Uuid) (actor : VerifiedActor)
    (outcome : ReadOutcome) :
    (listReply store operationId actor outcome).error = none ∨
      (listReply store operationId actor outcome).error = some "unavailable" ∨
      (listReply store operationId actor outcome).error = some "timeout" := by
  cases outcome with
  | answered =>
      rw [listReply]
      cases store.list actor with
      | ok alerts => exact Or.inl rfl
      | error failure => exact Or.inr (Or.inl rfl)
  | failed => exact Or.inr (Or.inl rfl)
  | timedOut => exact Or.inr (Or.inr rfl)

theorem tcpAgrees_of_bounded (verified : verifyToken policy answer token readScope = .ok actor)
    (bounded : boundedTenant actor.productTenant = true) :
    TcpAgrees policy answer token actor now := by
  intro operationId deadline decode frame store outcome named within decoded
  have valid : validateOperationEnvelopeAt (listEnvelope actor operationId deadline) now = .ok () :=
    (validateOperationEnvelopeAt_eq_ok_iff _ _).mpr
      ((validEnvelope_listEnvelope_iff named within).mpr bounded)
  have admitted : authorizeOperation policy answer decode frame (some now) =
      .ok (operationId, actor) := by
    simp only [authorizeOperation, decoded, valid, stripPrefix_append, verified]
    exact if_pos ⟨rfl, rfl⟩
  rw [executeTcpOperation, admitted]
  rcases listReply_error store operationId actor outcome with done | failed | late
  · rw [done]
    exact ⟨nofun, nofun⟩
  · rw [failed]
    exact ⟨by decide, by decide⟩
  · rw [late]
    exact ⟨by decide, by decide⟩

/-- The frame of an actor whose tenant the envelope refuses. -/
theorem bounded_of_tcpAgrees (agrees : TcpAgrees policy answer token actor now) :
    boundedTenant actor.productTenant = true := by
  let request : AuthenticatedOperation :=
    ⟨"Bearer " ++ token, listEnvelope actor (Uuid.ofNat 1) now⟩
  have named : Uuid.ofNat 1 ≠ Uuid.nil := by decide
  have within : DeadlineWithin now now := ⟨Nat.le_refl _, Nat.le_add_right _ _⟩
  have accepted := (agrees (Uuid.ofNat 1) now (fun _ => some request) [] (.fallback []) .answered
    named within rfl).1
  by_contra outside
  have refused : validateOperationEnvelopeAt (listEnvelope actor (Uuid.ofNat 1) now) now ≠
      .ok () := by
    intro passed
    exact outside ((validEnvelope_listEnvelope_iff named within).mp
      ((validateOperationEnvelopeAt_eq_ok_iff _ _).mp passed))
  apply accepted
  rw [executeTcpOperation, authorizeOperation]
  cases outcome : validateOperationEnvelopeAt (listEnvelope actor (Uuid.ofNat 1) now) now with
  | ok value => exact absurd outcome refused
  | error message =>
      simp only [request, outcome]
      rfl

theorem commandAgrees_of_bounded (tenant : actor.productTenant = policy.productTenant)
    (bounded : boundedTenant actor.productTenant = true) : CommandAgrees policy actor now := by
  intro operationId eventId dedupeKey deadline hmac decode key signature named within key' signed
  exact (commandGate_eq_true_iff _ _ _).mpr ⟨tenant, rfl, rfl, key',
    verifyCommandSignature_signCommand signed,
    (validEnvelope_listEnvelope_iff named within).mpr bounded⟩

end

/-- For every accepted configuration, token, introspection and time: where
HTTP accepts a reader, the other transports agree exactly when the configured
tenant, which is a bounded identifier, is also a bounded tenant. -/
theorem transports_agree_iff {var : String -> Option String} {clientAccepts : String -> Bool}
    {boundary : AuthBoundary} (accepted : AuthBoundary.fromEnv var clientAccepts = .ok boundary)
    {token : String}
    (visible : forall character, character ∈ token.toList ->
      32 ≤ character.toNat ∧ character.toNat < 127)
    (claims : Except ClientError Introspection) (now : UInt64) {actor : VerifiedActor}
    (authorized : verifyAuthorization boundary.policy (fun _ => ⟨claims, some (now.toNat / 1000)⟩)
      [Text.asBytes ("Bearer " ++ token)] readScope = .ok actor) :
    boundedIdentifier boundary.policy.productTenant = true ∧
      (TransportsAgree boundary.policy (fun _ => ⟨claims, some (now.toNat / 1000)⟩) token actor now ↔
        boundedTenant boundary.policy.productTenant = true) := by
  have verified := verifyAuthorization_bearer visible authorized
  have tenant := verifyToken_productTenant verified
  refine ⟨AuthBoundary.fromEnv_productTenant accepted, ?_⟩
  rw [← tenant]
  constructor
  · intro agree
    exact bounded_of_tcpAgrees agree.1
  · intro bounded
    exact ⟨tcpAgrees_of_bounded verified bounded, commandAgrees_of_bounded tenant bounded,
      boundedTenant_lengthWithin bounded⟩

/-! ## Two configurations -/

/-- The configuration is accepted and HTTP accepts the reader. -/
def ReaderAccepted (tenant : String) : Prop :=
  AuthBoundary.fromEnv (sampleEnv tenant) (fun _ => true) = .ok (sampleBoundary tenant) ∧
    verifyAuthorization (sampleBoundary tenant).policy
      (fun _ => ⟨.ok (readerClaims tenant), some (UInt64.toNat 2000000000000 / 1000)⟩)
      [Text.asBytes ("Bearer " ++ "sample-access-token")] readScope = .ok ⟨Uuid.ofNat 7, tenant⟩

theorem readerAccepted_plain : ReaderAccepted "embedded-alerts" := ⟨by rfl, by decide +kernel⟩

theorem readerAccepted_dotted : ReaderAccepted "Embedded.Alerts" := ⟨by rfl, by decide +kernel⟩

theorem plain_tenant_agrees :
    ReaderAccepted "embedded-alerts" ∧
    TransportsAgree (sampleBoundary "embedded-alerts").policy
      (fun _ => ⟨.ok (readerClaims "embedded-alerts"), some (UInt64.toNat 2000000000000 / 1000)⟩)
      "sample-access-token" ⟨Uuid.ofNat 7, "embedded-alerts"⟩ 2000000000000 := by
  have visible : "sample-access-token".toList.all
      (fun other => decide (32 ≤ other.toNat ∧ other.toNat < 127)) = true := by decide
  exact ⟨readerAccepted_plain, (transports_agree_iff readerAccepted_plain.1
    (fun character member => of_decide_eq_true (List.all_eq_true.mp visible character member))
    (.ok (readerClaims "embedded-alerts")) 2000000000000 readerAccepted_plain.2).2.mpr (by decide)⟩

/-- A tenant with a capital letter and a dot: the configuration starts, HTTP
lists the reader's alerts, and no frame of the reader is ever accepted. -/
theorem dotted_tenant_disagrees :
    ReaderAccepted "Embedded.Alerts" ∧
    Not (TransportsAgree (sampleBoundary "Embedded.Alerts").policy
      (fun _ => ⟨.ok (readerClaims "Embedded.Alerts"), some (UInt64.toNat 2000000000000 / 1000)⟩)
      "sample-access-token" ⟨Uuid.ofNat 7, "Embedded.Alerts"⟩ 2000000000000) := by
  refine ⟨readerAccepted_dotted, ?_⟩
  intro agree
  exact absurd (bounded_of_tcpAgrees agree.1) (by decide)

end EmbeddedAlerts
