import Mathlib.Data.Nat.Digits.Defs
import EmbeddedAlerts.Transport.Correspondence

namespace EmbeddedAlerts

/-!
# Commands that are signed and sent are accepted

The gate refuses; this module is about the other direction.  A command that
the web server fills in as it should is signed, encoded and published, and the
consumer accepts it exactly in the window of its deadline.  Key admission
stands before the MAC on the signing side and behind it on the verifying side,
so the two sides have to refuse the same keys.
-/

/-- What the sender fills in.  The signature and the deadline are free. -/
structure Requestable (config : CommandConfig) (command : AsyncCommand) : Prop where
  correlation : command.correlationId = command.operation.operationId
  operationId : command.operation.operationId ≠ Uuid.nil
  version : command.operation.version = 1
  operation : command.operation.operation = "list_alerts"
  operationTenant : command.productTenant = command.operation.productTenant
  boundedTenant : boundedTenant command.productTenant = true
  configuredTenant : command.productTenant = config.productTenant
  dedupeKey : boundedDedupeKey command.dedupeKey = true
  actorSubject : Exists fun subject => Uuid.parseStr command.operation.actorSubject = some subject

/-- The command as it is sent. -/
def AsyncCommand.signedWith (command : AsyncCommand) (signature : String) : AsyncCommand :=
  { command with signature := signature }

/-! ## Keys -/

theorem signCommand_eq_error_iff (hmac : List UInt8 -> List UInt8 -> List UInt8)
    (command : AsyncCommand) (key : List UInt8) :
    (Exists fun problem => signCommand hmac command key = .error problem) ↔
      validCommandKey key = false := by
  unfold signCommand
  cases validCommandKey key with
  | false => exact ⟨fun _ => rfl, fun _ => ⟨_, rfl⟩⟩
  | true =>
      constructor
      · rintro ⟨problem, impossible⟩
        cases impossible
      · intro impossible
        cases impossible

/-- The MAC is compared only under keys that the signer takes as well. -/
theorem verifyCommandSignature_of_invalidKey {key : List UInt8}
    (invalid : validCommandKey key = false) (hmac : List UInt8 -> List UInt8 -> List UInt8)
    (command : AsyncCommand) : verifyCommandSignature hmac command key = false := by
  unfold verifyCommandSignature
  cases Hexadecimal.decode command.signature.toList with
  | none => rfl
  | some signature => simp only [invalid, Bool.false_and]

theorem signCommand_of_validKey {key : List UInt8} (valid : validCommandKey key = true)
    (hmac : List UInt8 -> List UInt8 -> List UInt8) (command : AsyncCommand) :
    signCommand hmac command key =
      .ok (String.ofList (Hexadecimal.encode
        (hmac key (Text.asBytes (commandSigningBytes command))))) := by
  rw [signCommand, valid]
  rfl

/-- Signing fails under the keys under which nothing verifies, and only
there. -/
theorem signCommand_fails_iff (hmac : List UInt8 -> List UInt8 -> List UInt8)
    (command : AsyncCommand) (key : List UInt8) :
    (Exists fun problem => signCommand hmac command key = .error problem) ↔
      forall other, verifyCommandSignature hmac other key = false := by
  rw [signCommand_eq_error_iff]
  constructor
  · intro invalid other
    exact verifyCommandSignature_of_invalidKey invalid hmac other
  · intro rejected
    apply Bool.eq_false_iff.mpr
    intro valid
    have accepted := verifyCommandSignature_signCommand (signCommand_of_validKey valid hmac command)
    rw [rejected] at accepted
    cases accepted

/-! ## The size of a request -/

theorem size_number_repr {number width : Nat} (positive : 0 < width)
    (small : number < 10 ^ width) : Json.size (.number (Nat.repr number)) ≤ width := by
  have ascii : forall character, character ∈ (Nat.repr number).toList -> character.toNat < 128 :=
    fun _ member => (plain_of_mem_repr member).ascii
  rw [Json.size, Json.compact, Text.byteLength_of_ascii ascii]
  exact Nat.repr_length number width positive small

theorem quotedSize_actorSubject {text : String} {subject : Uuid}
    (parsed : Uuid.parseStr text = some subject) : Json.quotedSize text ≤ 47 := by
  rw [Json.quotedSize_of_plain]
  · exact Nat.add_le_add_right (Uuid.length_of_parseStr parsed) 2
  · intro character member
    exact Uuid.plain_of_spelling (Uuid.spelling_of_parseStr parsed member)

theorem quotedSize_signature {bytes : List UInt8} (digest : bytes.length = 32) :
    Json.quotedSize (String.ofList (Hexadecimal.encode bytes)) = 66 := by
  rw [Json.quotedSize_of_plain]
  · rw [String.length_ofList, Hexadecimal.encode_length, digest]
  · intro character member
    rw [String.toList_ofList] at member
    exact plain_of_digitValue (Hexadecimal.digitValue_of_mem_encode member)

/-- The operation of a request, whatever spelling names its actor. -/
theorem size_operation {config : CommandConfig} {command : AsyncCommand}
    (request : Requestable config command) : command.operation.toJson.size ≤ 400 := by
  rcases request.actorSubject with ⟨subject, parsed⟩
  have names : Json.quotedSize "version" = 9 ∧ Json.quotedSize "operation_id" = 14 ∧
      Json.quotedSize "operation" = 11 ∧ Json.quotedSize "actor_subject" = 15 ∧
      Json.quotedSize "product_tenant" = 16 ∧ Json.quotedSize "deadline_unix_ms" = 18 ∧
      Json.quotedSize "list_alerts" = 13 := by
    decide +kernel
  have tenant := quotedSize_tenant (request.operationTenant ▸ request.boundedTenant)
  have short := (of_decide_eq_true (boundedTenant_lengthWithin
    (request.operationTenant ▸ request.boundedTenant))).2
  have actor := quotedSize_actorSubject parsed
  have version := size_number_repr (Nat.succ_pos 2)
    (Nat.lt_trans command.operation.version.toNat_lt (by decide))
  have deadline := size_number_repr (Nat.succ_pos 19)
    (Nat.lt_trans command.operation.deadlineUnixMs.toNat_lt (by decide))
  simp only [OperationEnvelope.toJson, Json.size_object, List.map_cons, List.map_nil,
    List.sum_cons, List.sum_nil, List.length_cons, List.length_nil, Json.memberSize,
    Json.size_string, quotedSize_uuid, request.operation, tenant, names]
  omega

/-- A signed request is far below the payload limit. -/
theorem payload_length_le {config : CommandConfig} {command : AsyncCommand}
    (request : Requestable config command) {bytes : List UInt8} (digest : bytes.length = 32) :
    (command.signedWith (String.ofList (Hexadecimal.encode bytes))).payload.length ≤
      maxNatsPayloadBytes := by
  have names : Json.quotedSize "event_id" = 10 ∧ Json.quotedSize "correlation_id" = 16 ∧
      Json.quotedSize "dedupe_key" = 12 ∧ Json.quotedSize "product_tenant" = 16 ∧
      Json.quotedSize "operation" = 11 ∧ Json.quotedSize "signature" = 11 := by
    decide +kernel
  have tenant := (of_decide_eq_true (boundedTenant_lengthWithin request.boundedTenant)).2
  have key := (of_decide_eq_true (boundedDedupeKey_lengthWithin request.dedupeKey)).2
  have operation := size_operation request
  have sized : (command.signedWith (String.ofList (Hexadecimal.encode bytes))).toJson.size ≤
      maxNatsPayloadBytes := by
    simp only [AsyncCommand.toJson, AsyncCommand.signedWith, Json.size_object, List.map_cons,
      List.map_nil, List.sum_cons, List.sum_nil, List.length_cons, List.length_nil,
      Json.memberSize, Json.size_string, quotedSize_uuid, quotedSize_signature digest,
      quotedSize_tenant request.boundedTenant, quotedSize_dedupeKey request.dedupeKey, names,
      maxNatsPayloadBytes]
    omega
  exact sized

/-! ## Acceptance -/

/-- A signed request passes the gate exactly in the window of its deadline. -/
theorem passesGate_signedWith_iff {config : CommandConfig} {command : AsyncCommand}
    {signature : String} (request : Requestable config command)
    (signed : signCommand config.hmac command config.commandKey = .ok signature) (now : UInt64) :
    PassesGate config (command.signedWith signature) now ↔
      now.toNat ≤ command.operation.deadlineUnixMs.toNat ∧
        command.operation.deadlineUnixMs.toNat - now.toNat ≤ 15000 := by
  constructor
  · intro passes
    have near := passes.envelope.near
    have limit : maxOperationDeadlineMs = 15000 := rfl
    refine ⟨passes.envelope.notExpired, ?_⟩
    change command.operation.deadlineUnixMs.toNat ≤ now.toNat + maxOperationDeadlineMs at near
    omega
  · rintro ⟨notExpired, near⟩
    have limit : maxOperationDeadlineMs = 15000 := rfl
    exact {
      tenant := request.configuredTenant
      operationTenant := request.operationTenant
      operationId := request.correlation.symm
      dedupeKey := request.dedupeKey
      signature := verifyCommandSignature_signCommand signed
      envelope := {
        version := request.version
        operation := request.operation
        operationId := request.operationId
        productTenant := request.operationTenant ▸ request.boundedTenant
        actorSubject := request.actorSubject
        notExpired := notExpired
        near := by
          change command.operation.deadlineUnixMs.toNat ≤ now.toNat + maxOperationDeadlineMs
          omega } }

/-- Under a valid key every request is signed; its payload stays within the
limit, and the consumer accepts it at the times in the window of the deadline
and at no other time.  Signing fails exactly for the keys under which no
command verifies.

The digest has the 32 bytes of SHA-256, and the decoder returns the encoded
command. -/
theorem signed_request_accepted {config : CommandConfig} {command : AsyncCommand}
    (validKey : validCommandKey config.commandKey = true) (request : Requestable config command)
    (digest : (config.hmac config.commandKey
      (Text.asBytes (commandSigningBytes command))).length = 32)
    (roundTrip : forall signature, signCommand config.hmac command config.commandKey =
      .ok signature -> config.decode (command.signedWith signature).payload =
        some (command.signedWith signature)) :
    (Exists fun signature =>
      signCommand config.hmac command config.commandKey = .ok signature ∧
      (command.signedWith signature).payload.length ≤ maxNatsPayloadBytes ∧
      forall now : UInt64, acceptCommand config (command.signedWith signature).payload now =
        if now.toNat ≤ command.operation.deadlineUnixMs.toNat ∧
            command.operation.deadlineUnixMs.toNat - now.toNat ≤ 15000 then
          some (command.signedWith signature)
        else none) ∧
    (forall (other : AsyncCommand) (key : List UInt8),
      (Exists fun problem => signCommand config.hmac other key = .error problem) ↔
        forall presented, verifyCommandSignature config.hmac presented key = false) := by
  refine ⟨?_, fun other key => signCommand_fails_iff config.hmac other key⟩
  have signed := signCommand_of_validKey validKey config.hmac command
  have within := payload_length_le request digest
  have decoded := roundTrip _ signed
  refine ⟨_, signed, within, ?_⟩
  intro now
  have window := passesGate_signedWith_iff request signed now
  split
  · rename_i inside
    exact (acceptCommand_eq_some_iff _ _ _ _).mpr ⟨within, decoded, window.mpr inside⟩
  · rename_i outside
    apply Option.eq_none_iff_forall_ne_some.mpr
    intro found accepted
    rcases (acceptCommand_eq_some_iff _ _ _ _).mp accepted with ⟨_, same, passes⟩
    rw [decoded, Option.some.injEq] at same
    rw [← same] at passes
    exact outside (window.mp passes)

/-- The first sample command, at the ends of its window and one millisecond
outside. -/
theorem firstCommand_accepted :
    Requestable (sampleDeployment .typed).config firstCommand ∧
    acceptCommand (sampleDeployment .typed).config firstCommand.payload 2000000015000 =
      some firstCommand ∧
    acceptCommand (sampleDeployment .typed).config firstCommand.payload 2000000000000 =
      some firstCommand ∧
    acceptCommand (sampleDeployment .typed).config firstCommand.payload 2000000015001 = none ∧
    acceptCommand (sampleDeployment .typed).config firstCommand.payload 1999999999999 = none := by
  have request : Requestable (sampleDeployment .typed).config firstCommand :=
    ⟨rfl, by decide, rfl, rfl, rfl, by decide, rfl, by decide, ⟨_, Uuid.parseStr_toString _⟩⟩
  have key : validCommandKey (sampleDeployment .typed).config.commandKey = true := by
    decide +kernel
  have own : signCommand (sampleDeployment .typed).config.hmac firstCommand
      (sampleDeployment .typed).config.commandKey = .ok firstCommand.signature := by
    decide +kernel
  have decodes : (sampleDeployment .typed).config.decode firstCommand.payload =
      some firstCommand := by
    decide +kernel
  have digest : ((sampleDeployment .typed).config.hmac (sampleDeployment .typed).config.commandKey
      (Text.asBytes (commandSigningBytes firstCommand))).length = 32 := by
    decide +kernel
  rcases (signed_request_accepted key request digest (by
    intro signature signed
    rw [own] at signed
    cases signed
    exact decodes)).1 with ⟨signature, signed, _, accepted⟩
  rw [own] at signed
  cases signed
  refine ⟨request, (accepted _).trans (if_pos ?_), (accepted _).trans (if_pos ?_),
    (accepted _).trans (if_neg ?_), (accepted _).trans (if_neg ?_)⟩ <;> decide

end EmbeddedAlerts
