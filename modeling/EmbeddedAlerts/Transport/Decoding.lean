import EmbeddedAlerts.Library.JsonText
import EmbeddedAlerts.Library.Record
import EmbeddedAlerts.Auth.Specification
import EmbeddedAlerts.Transport.Acceptance
import EmbeddedAlerts.Transport.Tcp

namespace EmbeddedAlerts

/-!
# Reading commands and operations from their JSON

The consumer and the TCP server read `AsyncCommand` and
`AuthenticatedOperation` with derived readers that deny unknown fields.  So far
the readers were arguments; here they are the derived ones, and what they
accept is said without them: a record is spelled by the values of its fields,
a field by a JSON string, or by digits that are in the range of its type.

An identifier is accepted in every spelling of a UUID, so that more than one
payload stands for the same command.  What the encoder writes is one of them.
-/

namespace Json

/-- A JSON string. -/
def asString : Json -> Option String
  | .string text => some text
  | _ => none

/-- Digits, as an unsigned integer below a bound is read. -/
def asUnsigned (bound : Nat) : Json -> Option Nat
  | .number text =>
      let value := Nat.ofDigitChars 10 text.toList 0
      if text.toList.all Char.isDigit = true ∧ value < bound then some value else none
  | _ => none

/-- A string in one of the spellings of a UUID. -/
def asUuid (value : Json) : Option Uuid := value.asString.bind Uuid.parseStr

theorem asString_eq_some_iff {value : Json} {text : String} :
    value.asString = some text ↔ value = .string text := by
  cases value with
  | string other => simp [asString]
  | _ => simp [asString]

theorem asUnsigned_repr {bound number : Nat} (small : number < bound) :
    asUnsigned bound (.number (Nat.repr number)) = some number := by
  have digits : (Nat.repr number).toList.all Char.isDigit = true := by
    rw [List.all_eq_true, Nat.toList_repr]
    intro character member
    exact Nat.isDigit_of_mem_toDigits (by decide) (by decide) member
  rw [asUnsigned, Nat.toList_repr, Nat.ofDigitChars_ten_toDigits]
  rw [Nat.toList_repr] at digits
  exact if_pos ⟨digits, small⟩

theorem asUnsigned_lt {bound number : Nat} {value : Json}
    (read : value.asUnsigned bound = some number) : number < bound := by
  cases value with
  | number text =>
      unfold asUnsigned at read
      dsimp only at read
      split at read
      · next inside =>
          cases read
          exact inside.2
      · cases read
  | _ => cases read

theorem asUuid_toString (id : Uuid) : asUuid (.string id.toString) = some id := by
  rw [asUuid, asString, Option.bind_some, Uuid.parseStr_toString]

end Json

/-! ## The records -/

def OperationEnvelope.names : List String :=
  ["version", "operation_id", "operation", "actor_subject", "product_tenant", "deadline_unix_ms"]

def OperationEnvelope.ofJson (json : Json) : Option OperationEnvelope :=
  match json.allFields OperationEnvelope.names with
  | some [version, operationId, operation, actorSubject, productTenant, deadlineUnixMs] => do
      let version <- version.asUnsigned 256
      let operationId <- operationId.asUuid
      let operation <- operation.asString
      let actorSubject <- actorSubject.asString
      let productTenant <- productTenant.asString
      let deadlineUnixMs <- deadlineUnixMs.asUnsigned (2 ^ 64)
      return ⟨UInt8.ofNat version, operationId, operation, actorSubject, productTenant,
        UInt64.ofNat deadlineUnixMs⟩
  | _ => none

def AsyncCommand.names : List String :=
  ["event_id", "correlation_id", "dedupe_key", "product_tenant", "operation", "signature"]

def AsyncCommand.ofJson (json : Json) : Option AsyncCommand :=
  match json.allFields AsyncCommand.names with
  | some [eventId, correlationId, dedupeKey, productTenant, operation, signature] => do
      let eventId <- eventId.asUuid
      let correlationId <- correlationId.asUuid
      let dedupeKey <- dedupeKey.asString
      let productTenant <- productTenant.asString
      let operation <- OperationEnvelope.ofJson operation
      let signature <- signature.asString
      return ⟨eventId, correlationId, dedupeKey, productTenant, operation, signature⟩
  | _ => none

def AuthenticatedOperation.names : List String := ["authorization", "envelope"]

def AuthenticatedOperation.ofJson (json : Json) : Option AuthenticatedOperation :=
  match json.allFields AuthenticatedOperation.names with
  | some [authorization, envelope] => do
      let authorization <- authorization.asString
      let envelope <- OperationEnvelope.ofJson envelope
      return ⟨authorization, envelope⟩
  | _ => none

def AuthenticatedOperation.toJson (request : AuthenticatedOperation) : Json :=
  .object [("authorization", .string request.authorization), ("envelope", request.envelope.toJson)]

/-- The frame that a client sends for a request. -/
def AuthenticatedOperation.frame (request : AuthenticatedOperation) : List UInt8 :=
  Text.asBytes request.toJson.compact

/-- `serde_json::from_slice` at the two types. -/
def AsyncCommand.fromSlice (payload : List UInt8) : Option AsyncCommand :=
  (Json.fromBytes payload).bind AsyncCommand.ofJson

def AuthenticatedOperation.fromSlice (frame : List UInt8) : Option AuthenticatedOperation :=
  (Json.fromBytes frame).bind AuthenticatedOperation.ofJson

/-! ## What is accepted -/

/-- How the JSON of an envelope may look. -/
def OperationEnvelope.SpelledBy (envelope : OperationEnvelope) (json : Json) : Prop :=
  Exists fun version => Exists fun operationId => Exists fun deadlineUnixMs =>
    Json.Carries OperationEnvelope.names
      [version, operationId, .string envelope.operation, .string envelope.actorSubject,
        .string envelope.productTenant, deadlineUnixMs] json ∧
    version.asUnsigned 256 = some envelope.version.toNat ∧
    operationId.asUuid = some envelope.operationId ∧
    deadlineUnixMs.asUnsigned (2 ^ 64) = some envelope.deadlineUnixMs.toNat

def AsyncCommand.SpelledBy (command : AsyncCommand) (json : Json) : Prop :=
  Exists fun eventId => Exists fun correlationId => Exists fun operation =>
    Json.Carries AsyncCommand.names
      [eventId, correlationId, .string command.dedupeKey, .string command.productTenant,
        operation, .string command.signature] json ∧
    eventId.asUuid = some command.eventId ∧
    correlationId.asUuid = some command.correlationId ∧
    command.operation.SpelledBy operation

def AuthenticatedOperation.SpelledBy (request : AuthenticatedOperation) (json : Json) : Prop :=
  Exists fun envelope =>
    Json.Carries AuthenticatedOperation.names [.string request.authorization, envelope] json ∧
    request.envelope.SpelledBy envelope

theorem OperationEnvelope.ofJson_eq_some_iff (json : Json) (envelope : OperationEnvelope) :
    OperationEnvelope.ofJson json = some envelope ↔ envelope.SpelledBy json := by
  have distinct : OperationEnvelope.names.Nodup := by decide
  constructor
  · intro read
    unfold OperationEnvelope.ofJson at read
    split at read
    · next version operationId operation actorSubject productTenant deadlineUnixMs given =>
        have carried := (Json.allFields_eq_some_iff distinct rfl json).mp given
        rcases Option.bind_eq_some_iff.mp read with ⟨_, versionRead, read⟩
        rcases Option.bind_eq_some_iff.mp read with ⟨_, idRead, read⟩
        rcases Option.bind_eq_some_iff.mp read with ⟨_, operationRead, read⟩
        rcases Option.bind_eq_some_iff.mp read with ⟨_, actorRead, read⟩
        rcases Option.bind_eq_some_iff.mp read with ⟨_, tenantRead, read⟩
        rcases Option.bind_eq_some_iff.mp read with ⟨_, deadlineRead, read⟩
        cases read
        rw [Json.asString_eq_some_iff] at operationRead actorRead tenantRead
        subst operationRead actorRead tenantRead
        refine ⟨version, operationId, deadlineUnixMs, carried, ?_, idRead, ?_⟩
        · rw [versionRead, UInt8.toNat_ofNat_of_lt' (Json.asUnsigned_lt versionRead)]
        · rw [deadlineRead, UInt64.toNat_ofNat_of_lt' (Json.asUnsigned_lt deadlineRead)]
    · cases read
  · rintro ⟨version, operationId, deadlineUnixMs, carried, versionRead, idRead, deadlineRead⟩
    rw [OperationEnvelope.ofJson, (Json.allFields_eq_some_iff distinct rfl json).mpr carried]
    simp only [versionRead, idRead, deadlineRead, Json.asString, Option.bind_eq_bind,
      Option.bind_some, UInt8.ofNat_toNat, UInt64.ofNat_toNat]
    rfl

theorem AsyncCommand.ofJson_eq_some_iff (json : Json) (command : AsyncCommand) :
    AsyncCommand.ofJson json = some command ↔ command.SpelledBy json := by
  have distinct : AsyncCommand.names.Nodup := by decide
  constructor
  · intro read
    unfold AsyncCommand.ofJson at read
    split at read
    · next eventId correlationId dedupeKey productTenant operation signature given =>
        have carried := (Json.allFields_eq_some_iff distinct rfl json).mp given
        rcases Option.bind_eq_some_iff.mp read with ⟨_, eventRead, read⟩
        rcases Option.bind_eq_some_iff.mp read with ⟨_, correlationRead, read⟩
        rcases Option.bind_eq_some_iff.mp read with ⟨_, keyRead, read⟩
        rcases Option.bind_eq_some_iff.mp read with ⟨_, tenantRead, read⟩
        rcases Option.bind_eq_some_iff.mp read with ⟨_, operationRead, read⟩
        rcases Option.bind_eq_some_iff.mp read with ⟨_, signatureRead, read⟩
        cases read
        rw [Json.asString_eq_some_iff] at keyRead tenantRead signatureRead
        subst keyRead tenantRead signatureRead
        exact ⟨eventId, correlationId, operation, carried, eventRead, correlationRead,
          (OperationEnvelope.ofJson_eq_some_iff _ _).mp operationRead⟩
    · cases read
  · rintro ⟨eventId, correlationId, operation, carried, eventRead, correlationRead, spelled⟩
    have operationRead := (OperationEnvelope.ofJson_eq_some_iff _ _).mpr spelled
    rw [AsyncCommand.ofJson, (Json.allFields_eq_some_iff distinct rfl json).mpr carried]
    simp only [eventRead, correlationRead, operationRead, Json.asString, Option.bind_eq_bind,
      Option.bind_some]
    rfl

theorem AuthenticatedOperation.ofJson_eq_some_iff (json : Json)
    (request : AuthenticatedOperation) :
    AuthenticatedOperation.ofJson json = some request ↔ request.SpelledBy json := by
  have distinct : AuthenticatedOperation.names.Nodup := by decide
  constructor
  · intro read
    unfold AuthenticatedOperation.ofJson at read
    split at read
    · next authorization envelope given =>
        have carried := (Json.allFields_eq_some_iff distinct rfl json).mp given
        rcases Option.bind_eq_some_iff.mp read with ⟨_, authorizationRead, read⟩
        rcases Option.bind_eq_some_iff.mp read with ⟨_, envelopeRead, read⟩
        cases read
        rw [Json.asString_eq_some_iff] at authorizationRead
        subst authorizationRead
        exact ⟨envelope, carried, (OperationEnvelope.ofJson_eq_some_iff _ _).mp envelopeRead⟩
    · cases read
  · rintro ⟨envelope, carried, spelled⟩
    have envelopeRead := (OperationEnvelope.ofJson_eq_some_iff _ _).mpr spelled
    rw [AuthenticatedOperation.ofJson, (Json.allFields_eq_some_iff distinct rfl json).mpr carried]
    simp only [envelopeRead, Json.asString, Option.bind_eq_bind, Option.bind_some]
    rfl

/-! ## What is written -/

theorem OperationEnvelope.spelledBy_toJson (envelope : OperationEnvelope) :
    envelope.SpelledBy envelope.toJson :=
  ⟨_, _, _, .object (List.Perm.refl _), Json.asUnsigned_repr envelope.version.toNat_lt,
    Json.asUuid_toString envelope.operationId,
    Json.asUnsigned_repr envelope.deadlineUnixMs.toNat_lt⟩

theorem AsyncCommand.spelledBy_toJson (command : AsyncCommand) :
    command.SpelledBy command.toJson :=
  ⟨_, _, _, .object (List.Perm.refl _), Json.asUuid_toString command.eventId,
    Json.asUuid_toString command.correlationId, command.operation.spelledBy_toJson⟩

theorem AuthenticatedOperation.spelledBy_toJson (request : AuthenticatedOperation) :
    request.SpelledBy request.toJson :=
  ⟨_, .object (List.Perm.refl _), request.envelope.spelledBy_toJson⟩

/-- The numbers of an envelope are its version and its deadline. -/
theorem OperationEnvelope.numberText {envelope : OperationEnvelope} {text : String}
    (inside : text ∈ Json.numbers envelope.toJson) : Json.NumberText text := by
  simp only [OperationEnvelope.toJson, Json.numbers, Json.memberNumbers, List.append_nil,
    List.nil_append, List.singleton_append, List.mem_cons, List.not_mem_nil, or_false] at inside
  rcases inside with rfl | rfl
  · exact Json.numberText_repr _
  · exact Json.numberText_repr _

theorem AsyncCommand.numberText {command : AsyncCommand} {text : String}
    (inside : text ∈ Json.numbers command.toJson) : Json.NumberText text := by
  simp only [AsyncCommand.toJson, Json.numbers, Json.memberNumbers, List.append_nil,
    List.nil_append] at inside
  exact OperationEnvelope.numberText inside

theorem AuthenticatedOperation.numberText {request : AuthenticatedOperation} {text : String}
    (inside : text ∈ Json.numbers request.toJson) : Json.NumberText text := by
  simp only [AuthenticatedOperation.toJson, Json.numbers, Json.memberNumbers, List.append_nil,
    List.nil_append] at inside
  exact OperationEnvelope.numberText inside

theorem AsyncCommand.fromSlice_eq_some_iff (payload : List UInt8) (command : AsyncCommand) :
    AsyncCommand.fromSlice payload = some command ↔
      Exists fun json => Json.fromBytes payload = some json ∧ command.SpelledBy json := by
  simp only [AsyncCommand.fromSlice, Option.bind_eq_some_iff, AsyncCommand.ofJson_eq_some_iff]

theorem AsyncCommand.fromSlice_payload (command : AsyncCommand) :
    AsyncCommand.fromSlice command.payload = some command :=
  (AsyncCommand.fromSlice_eq_some_iff _ _).mpr
    ⟨command.toJson, Json.fromBytes_compact (fun _ inside => AsyncCommand.numberText inside),
      command.spelledBy_toJson⟩

theorem AuthenticatedOperation.fromSlice_eq_some_iff (frame : List UInt8)
    (request : AuthenticatedOperation) :
    AuthenticatedOperation.fromSlice frame = some request ↔
      Exists fun json => Json.fromBytes frame = some json ∧ request.SpelledBy json := by
  simp only [AuthenticatedOperation.fromSlice, Option.bind_eq_some_iff,
    AuthenticatedOperation.ofJson_eq_some_iff]

theorem AuthenticatedOperation.fromSlice_frame (request : AuthenticatedOperation) :
    AuthenticatedOperation.fromSlice request.frame = some request :=
  (AuthenticatedOperation.fromSlice_eq_some_iff _ _).mpr
    ⟨request.toJson,
      Json.fromBytes_compact (fun _ inside => AuthenticatedOperation.numberText inside),
      request.spelledBy_toJson⟩

/-! ## The whole way of a payload -/

/-- The consumer hands on a command exactly when its payload is the JSON of
that command, in any order of the fields and with no other field, and the
command passes the gate.  In particular each command is read back from the
payload that the signer publishes for it. -/
theorem payload_accepted_iff_spelled (config : CommandConfig) (now : UInt64) :
    (forall payload command,
      acceptCommand { config with decode := AsyncCommand.fromSlice } payload now = some command ↔
        payload.length ≤ maxNatsPayloadBytes ∧
        (Exists fun text => Exists fun json => payload = Text.asBytes text ∧
          Json.parse text = some json ∧ command.SpelledBy json) ∧
        PassesGate { config with decode := AsyncCommand.fromSlice } command now) ∧
      forall command : AsyncCommand, AsyncCommand.fromSlice command.payload = some command := by
  refine ⟨?_, AsyncCommand.fromSlice_payload⟩
  intro payload command
  rw [acceptCommand_eq_some_iff, AsyncCommand.fromSlice_eq_some_iff]
  simp only [Json.fromBytes, Option.bind_eq_some_iff, Text.ofBytes_eq_some_iff]
  constructor
  · rintro ⟨short, ⟨json, ⟨text, bytes, parsed⟩, spelled⟩, passes⟩
    exact ⟨short, ⟨text, json, bytes, parsed, spelled⟩, passes⟩
  · rintro ⟨short, ⟨text, json, bytes, parsed, spelled⟩, passes⟩
    exact ⟨short, ⟨json, ⟨text, bytes, parsed⟩, spelled⟩, passes⟩

/-! ## The admission of a frame -/

theorem authorizeOperation_eq_ok_iff {policy : AuthPolicy} {answer : String -> AuthAnswer}
    {decode : List UInt8 -> Option AuthenticatedOperation} {frame : List UInt8} {now : UInt64}
    {operationId : Uuid} {actor : VerifiedActor} :
    authorizeOperation policy answer decode frame (some now) = .ok (operationId, actor) ↔
      Exists fun request => Exists fun token => decode frame = some request ∧
        ValidEnvelope request.envelope now ∧ request.authorization = "Bearer " ++ token ∧
        verifyToken policy answer token readScope = .ok actor ∧
        request.envelope.actorSubject = actor.subject.toString ∧
        request.envelope.productTenant = actor.productTenant ∧
        operationId = request.envelope.operationId := by
  unfold authorizeOperation
  constructor
  · intro admitted
    split at admitted
    · cases admitted
    · next request decoded =>
        dsimp only at admitted
        split at admitted
        · cases admitted
        · next valid =>
            split at admitted
            · cases admitted
            · next token stripped =>
                split at admitted
                · cases admitted
                · next verified authorized =>
                    split at admitted
                    · next same =>
                        cases admitted
                        exact ⟨request, token, decoded,
                          (validateOperationEnvelopeAt_eq_ok_iff _ _).mp valid,
                          (stripPrefix_eq_some_iff _ _ _).mp stripped, authorized, same.1.symm,
                          same.2.symm, rfl⟩
                    · cases admitted
  · rintro ⟨request, token, decoded, valid, bearer, verified, subject, tenant, rfl⟩
    have stripped := (stripPrefix_eq_some_iff "Bearer " _ token).mpr bearer
    have passes := (validateOperationEnvelopeAt_eq_ok_iff _ _).mpr valid
    simp only [decoded, passes, stripped, verified, if_pos (And.intro subject.symm tenant.symm)]

theorem strictCredential_of_verifyToken {policy : AuthPolicy} {answer : String -> AuthAnswer}
    {token requiredScope : String} {actor : VerifiedActor}
    (verified : verifyToken policy answer token requiredScope = .ok actor) :
    strictCredential token = true := by
  unfold verifyToken at verified
  split at verified
  · cases verified
  · next passes =>
      rw [Bool.not_eq_true, Bool.or_eq_false_iff, Bool.not_eq_false'] at passes
      exact passes.1

/-- Under a configuration that the boundary accepts, a frame is admitted
exactly when it is the JSON of a request with a valid envelope and a bearer
token, the introspection of that token grants reading, and the envelope names
the subject of its claims, in the spelling in which it is written, and the
configured tenant.  Every request is read back from the frame that is written
for it. -/
theorem frame_admitted_iff {var : String -> Option String} {clientAccepts : String -> Bool}
    {boundary : AuthBoundary} (accepted : AuthBoundary.fromEnv var clientAccepts = .ok boundary)
    (introspect : String -> Except ClientError Introspection) (seconds : Nat) (now : UInt64)
    (frame : List UInt8) (operationId : Uuid) (actor : VerifiedActor) :
    (authorizeOperation boundary.policy (fun token => ⟨introspect token, some seconds⟩)
        AuthenticatedOperation.fromSlice frame (some now) = .ok (operationId, actor) ↔
      Exists fun json => Exists fun request : AuthenticatedOperation => Exists fun token =>
        Exists fun claims => Json.fromBytes frame = some json ∧ request.SpelledBy json ∧
        ValidEnvelope request.envelope now ∧ operationId = request.envelope.operationId ∧
        request.authorization = "Bearer " ++ token ∧ StrictToken token ∧
        introspect token = .ok claims ∧
        Granted boundary.policy readScope seconds claims actor.subject ∧
        actor.productTenant = boundary.policy.productTenant ∧
        request.envelope.actorSubject = actor.subject.toString ∧
        request.envelope.productTenant = boundary.policy.productTenant) ∧
    forall request : AuthenticatedOperation,
      AuthenticatedOperation.fromSlice request.frame = some request := by
  refine ⟨?_, AuthenticatedOperation.fromSlice_frame⟩
  rcases AuthBoundary.fromEnv_identifiers accepted with ⟨_, client, _, tenant⟩
  have scope : boundedIdentifier readScope = true := by decide
  rw [authorizeOperation_eq_ok_iff]
  simp only [AuthenticatedOperation.fromSlice_eq_some_iff]
  constructor
  · rintro ⟨request, token, ⟨json, parsed, spelled⟩, valid, bearer, verified, subject, own, same⟩
    have strict := strictCredential_of_verifyToken verified
    rcases (verifyToken_eq_ok_iff _ introspect seconds strict scope actor).mp verified with
      ⟨claims, answered, authorized⟩
    rcases (authorizeIntrospection_eq_ok_iff client tenant _ _ _ _).mp authorized with
      ⟨granted, configured⟩
    exact ⟨json, request, token, claims, parsed, spelled, valid, same, bearer,
      (strictCredential_iff token).mp strict, answered, granted, configured, subject,
      own.trans configured⟩
  · rintro ⟨json, request, token, claims, parsed, spelled, valid, same, bearer, strict, answered,
      granted, configured, subject, own⟩
    refine ⟨request, token, ⟨json, parsed, spelled⟩, valid, bearer, ?_, subject,
      own.trans configured.symm, same⟩
    apply (verifyToken_eq_ok_iff _ introspect seconds ((strictCredential_iff token).mpr strict)
      scope actor).mpr
    exact ⟨claims, answered,
      (authorizeIntrospection_eq_ok_iff client tenant _ _ _ _).mpr ⟨granted, configured⟩⟩

/-- A request of the sample reader. -/
def readerOperation : AuthenticatedOperation where
  authorization := "Bearer " ++ "sample-access-token"
  envelope := ⟨1, sampleId 0xb1, "list_alerts", (Uuid.ofNat 7).toString, "embedded-alerts",
    2000000015000⟩

theorem readerOperation_admitted :
    AuthBoundary.fromEnv (sampleEnv "embedded-alerts") (fun _ => true) =
        .ok (sampleBoundary "embedded-alerts") ∧
      authorizeOperation (sampleBoundary "embedded-alerts").policy
        (fun _ => ⟨.ok (readerClaims "embedded-alerts"), some 2000000000⟩)
        AuthenticatedOperation.fromSlice readerOperation.frame (some 2000000000000) =
          .ok (sampleId 0xb1, ⟨Uuid.ofNat 7, "embedded-alerts"⟩) := by
  have configured : AuthBoundary.fromEnv (sampleEnv "embedded-alerts") (fun _ => true) =
      .ok (sampleBoundary "embedded-alerts") := by rfl
  have valid : ValidEnvelope readerOperation.envelope 2000000000000 :=
    ⟨rfl, rfl, by decide, by decide, ⟨_, Uuid.parseStr_toString _⟩, by decide, by decide⟩
  refine ⟨configured, (frame_admitted_iff configured
    (fun _ => .ok (readerClaims "embedded-alerts")) 2000000000 2000000000000 _ _ _).1.mpr ?_⟩
  refine ⟨readerOperation.toJson, readerOperation, "sample-access-token",
    readerClaims "embedded-alerts", Json.fromBytes_compact
      (fun _ inside => AuthenticatedOperation.numberText inside),
    readerOperation.spelledBy_toJson, valid, rfl, rfl, (strictCredential_iff _).mp (by decide),
    rfl, ?_, rfl, rfl, rfl⟩
  exact ⟨rfl, rfl, rfl, rfl, rfl, rfl, rfl, rfl, by decide, ⟨1999999700, rfl, by decide⟩,
    ⟨2000000300, rfl, by decide⟩, ⟨_, rfl, Uuid.parseStr_toString _⟩, ⟨_, rfl, by decide⟩⟩

end EmbeddedAlerts
