import EmbeddedAlerts.Library.Text
import EmbeddedAlerts.Library.Fallible
import EmbeddedAlerts.Library.Hexadecimal
import EmbeddedAlerts.Model.Uuid

namespace EmbeddedAlerts

/-!
# Operation envelopes, signed commands and the command gate

A command reaches the JetStream consumer as bytes that anyone may have
published.  It is processed only after the gate: the size limit, the JSON
decoder, the configured tenant, the agreement of the duplicated fields, the
dedupe alphabet, the MAC and the envelope check.

The JSON decoder and HMAC-SHA256 come from other crates.  They are fields of
the configuration, so that every statement holds for whatever they compute.
-/

def maxFrameBytes : Nat := 64 * 1024
def maxOperationDeadlineMs : Nat := 15000
def maxNatsPayloadBytes : Nat := 256 * 1024

structure OperationEnvelope where
  version : UInt8
  operationId : Uuid
  operation : String
  actorSubject : String
  productTenant : String
  deadlineUnixMs : UInt64
deriving DecidableEq

structure AsyncCommand where
  eventId : Uuid
  correlationId : Uuid
  dedupeKey : String
  productTenant : String
  operation : OperationEnvelope
  signature : String
deriving DecidableEq

/-- The nine signed fields, in signing order. -/
def AsyncCommand.signedFields (command : AsyncCommand) : List String :=
  [command.eventId.toString, command.correlationId.toString, command.dedupeKey,
    command.productTenant, Nat.repr command.operation.version.toNat,
    command.operation.operationId.toString, command.operation.operation,
    command.operation.actorSubject, Nat.repr command.operation.deadlineUnixMs.toNat]

def commandSigningBytes (command : AsyncCommand) : String :=
  "\n".intercalate command.signedFields

/-- `u8::is_ascii_control`. -/
def isAsciiControl (byte : UInt8) : Bool := decide (byte.toNat < 32) || byte.toNat == 127

def validCommandKey (key : List UInt8) : Bool :=
  decide (32 ≤ key.length ∧ key.length ≤ 1024) && !key.any isAsciiControl

/-- What the consumer is configured with, and the two functions it calls from
other crates: HMAC-SHA256 by key and message, and the JSON decoder. -/
structure CommandConfig where
  productTenant : String
  commandKey : List UInt8
  hmac : List UInt8 -> List UInt8 -> List UInt8
  decode : List UInt8 -> Option AsyncCommand

def signCommand (hmac : List UInt8 -> List UInt8 -> List UInt8) (command : AsyncCommand)
    (key : List UInt8) : Except String String :=
  if !validCommandKey key then .error "command key is malformed"
  else .ok (String.ofList (Hexadecimal.encode (hmac key (Text.asBytes (commandSigningBytes command)))))

/-- HMAC takes keys of every length, so creating it never fails here. -/
def verifyCommandSignature (hmac : List UInt8 -> List UInt8 -> List UInt8)
    (command : AsyncCommand) (key : List UInt8) : Bool :=
  match Hexadecimal.decode command.signature.toList with
  | none => false
  | some signature =>
      validCommandKey key && decide (hmac key (Text.asBytes (commandSigningBytes command)) = signature)

/-- What `sign_command` writes, `verify_command_signature` accepts. -/
theorem verifyCommandSignature_signCommand {hmac : List UInt8 -> List UInt8 -> List UInt8}
    {command : AsyncCommand} {key : List UInt8} {signature : String}
    (signed : signCommand hmac command key = .ok signature) :
    verifyCommandSignature hmac { command with signature := signature } key = true := by
  unfold signCommand at signed
  split at signed
  · cases signed
  · next valid =>
      cases signed
      rw [Bool.not_eq_true', Bool.not_eq_false] at valid
      simp only [verifyCommandSignature, String.toList_ofList, Hexadecimal.decode_encode, valid,
        Bool.true_and]
      exact decide_eq_true rfl

/-- A byte outside ASCII fails every class, so characters may be tested, and
among ASCII characters the byte index is the character index. -/
def boundedTenant (value : String) : Bool :=
  decide (value ≠ "") && decide (Text.byteLength value ≤ 64) &&
    value.toList.zipIdx.all (fun indexed =>
      indexed.1.isLower || indexed.1.isDigit ||
        (decide (0 < indexed.2) && (indexed.1 == '_' || indexed.1 == '-')))

def boundedDedupeKey (value : String) : Bool :=
  decide (value ≠ "") && decide (Text.byteLength value ≤ 128) &&
    value.toList.all (fun character =>
      character.isAlphanum || character == ':' || character == '_' || character == '-')

/-- The subtraction saturates at zero, as `u64::saturating_sub` does. -/
def validateOperationEnvelopeAt (envelope : OperationEnvelope) (nowMs : UInt64) :
    Except String Unit :=
  Fallible.refuseIf
    (envelope.version != 1
      || envelope.operation != "list_alerts"
      || envelope.operationId.isNil
      || !boundedTenant envelope.productTenant
      || (Uuid.parseStr envelope.actorSubject).isNone
      || decide (envelope.deadlineUnixMs.toNat < nowMs.toNat)
      || decide (maxOperationDeadlineMs < envelope.deadlineUnixMs.toNat - nowMs.toNat))
    "operation envelope is invalid"

/-- The checks of `run_jetstream` on a decoded command. -/
def commandGate (config : CommandConfig) (command : AsyncCommand) (now : UInt64) : Bool :=
  !(command.productTenant != config.productTenant
    || command.productTenant != command.operation.productTenant
    || command.operation.operationId != command.correlationId
    || !boundedDedupeKey command.dedupeKey
    || !verifyCommandSignature config.hmac command config.commandKey
    || !(validateOperationEnvelopeAt command.operation now).toBool)

/-- The whole gate on a delivered payload: the command to process, or nothing
when the message is to be terminated. -/
def acceptCommand (config : CommandConfig) (payload : List UInt8) (now : UInt64) :
    Option AsyncCommand :=
  if maxNatsPayloadBytes < payload.length then none
  else
    match config.decode payload with
    | none => none
    | some command => if commandGate config command now then some command else none

/-! ## What the gate establishes -/

/-- The envelope check, condition by condition. -/
structure ValidEnvelope (envelope : OperationEnvelope) (nowMs : UInt64) : Prop where
  version : envelope.version = 1
  operation : envelope.operation = "list_alerts"
  operationId : envelope.operationId ≠ Uuid.nil
  productTenant : boundedTenant envelope.productTenant = true
  actorSubject : Exists fun subject => Uuid.parseStr envelope.actorSubject = some subject
  notExpired : nowMs.toNat ≤ envelope.deadlineUnixMs.toNat
  near : envelope.deadlineUnixMs.toNat ≤ nowMs.toNat + maxOperationDeadlineMs

theorem validateOperationEnvelopeAt_eq_ok_iff (envelope : OperationEnvelope) (nowMs : UInt64) :
    validateOperationEnvelopeAt envelope nowMs = .ok () ↔ ValidEnvelope envelope nowMs := by
  rw [validateOperationEnvelopeAt, Fallible.refuseIf_eq_ok_iff]
  simp only [Bool.or_eq_false_iff, bne_eq_false_iff_eq, Uuid.isNil, decide_eq_false_iff_not,
    Bool.not_eq_false', Option.isNone_eq_false_iff, Nat.not_lt]
  constructor
  · rintro ⟨⟨⟨⟨⟨⟨version, operation⟩, id⟩, tenant⟩, actor⟩, later⟩, near⟩
    exact ⟨version, operation, id, tenant, Option.isSome_iff_exists.mp actor, later, by omega⟩
  · intro valid
    exact ⟨⟨⟨⟨⟨⟨valid.version, valid.operation⟩, valid.operationId⟩, valid.productTenant⟩,
      Option.isSome_iff_exists.mpr valid.actorSubject⟩, valid.notExpired⟩,
      by have near := valid.near; omega⟩

/-- The command gate, condition by condition. -/
structure PassesGate (config : CommandConfig) (command : AsyncCommand) (now : UInt64) : Prop where
  tenant : command.productTenant = config.productTenant
  operationTenant : command.productTenant = command.operation.productTenant
  operationId : command.operation.operationId = command.correlationId
  dedupeKey : boundedDedupeKey command.dedupeKey = true
  signature : verifyCommandSignature config.hmac command config.commandKey = true
  envelope : ValidEnvelope command.operation now

theorem commandGate_eq_true_iff (config : CommandConfig) (command : AsyncCommand) (now : UInt64) :
    commandGate config command now = true ↔ PassesGate config command now := by
  have envelope : (validateOperationEnvelopeAt command.operation now).toBool = true ↔
      ValidEnvelope command.operation now := by
    rw [← validateOperationEnvelopeAt_eq_ok_iff]
    cases validateOperationEnvelopeAt command.operation now with
    | error message => simp [Except.toBool]
    | ok value => simp [Except.toBool]
  rw [commandGate]
  simp only [Bool.not_eq_true', Bool.or_eq_false_iff, bne_eq_false_iff_eq, Bool.not_eq_false',
    envelope]
  constructor
  · rintro ⟨⟨⟨⟨⟨tenant, operationTenant⟩, operationId⟩, dedupeKey⟩, signature⟩, envelope⟩
    exact ⟨tenant, operationTenant, operationId, dedupeKey, signature, envelope⟩
  · intro passes
    exact ⟨⟨⟨⟨⟨passes.tenant, passes.operationTenant⟩, passes.operationId⟩, passes.dedupeKey⟩,
      passes.signature⟩, passes.envelope⟩

theorem acceptCommand_eq_some_iff (config : CommandConfig) (payload : List UInt8) (now : UInt64)
    (command : AsyncCommand) :
    acceptCommand config payload now = some command ↔
      payload.length ≤ maxNatsPayloadBytes ∧ config.decode payload = some command ∧
        PassesGate config command now := by
  unfold acceptCommand
  by_cases oversized : maxNatsPayloadBytes < payload.length
  · rw [if_pos oversized]
    constructor
    · intro impossible
      cases impossible
    · intro admitted
      exact absurd admitted.1 (Nat.not_le_of_lt oversized)
  · rw [if_neg oversized]
    cases decoded : config.decode payload with
    | none => simp
    | some other =>
        rw [← commandGate_eq_true_iff]
        by_cases passes : commandGate config other now = true
        · simp only [passes, if_true, Option.some.injEq]
          constructor
          · rintro rfl
            exact ⟨Nat.le_of_not_lt oversized, rfl, passes⟩
          · exact fun admitted => admitted.2.1
        · simp only [passes, Option.some.injEq]
          constructor
          · intro impossible
            cases impossible
          · rintro ⟨_, rfl, accepted⟩
            exact absurd accepted passes

/-! ## Alphabets of the bounded texts -/

theorem plain_of_mem_repr {number : Nat} {character : Char}
    (member : character ∈ (Nat.repr number).toList) : Text.Plain character := by
  have digits : (Nat.repr number).toList = Nat.toDigits 10 number := by
    simp [Nat.repr]
  rw [digits] at member
  have digit := Nat.isDigit_of_mem_toDigits (by decide) (by decide) member
  exact Text.plain_of_isAlphanum (Bool.or_eq_true_iff.mpr (Or.inr digit))

theorem boundedDedupeKey_plain {value : String} (bounded : boundedDedupeKey value = true)
    {character : Char} (member : character ∈ value.toList) : Text.Plain character := by
  simp only [boundedDedupeKey, Bool.and_eq_true, List.all_eq_true, Bool.or_eq_true,
    beq_iff_eq] at bounded
  rcases bounded.2 character member with ((plain | rfl) | rfl) | rfl
  · exact Text.plain_of_isAlphanum plain
  · decide
  · decide
  · decide

/-- A tenant has letters, digits, `_` and `-` only. -/
theorem boundedTenant_mem {value : String} (bounded : boundedTenant value = true)
    {character : Char} (member : character ∈ value.toList) :
    character.isAlphanum = true ∨ character = '_' ∨ character = '-' := by
  simp only [boundedTenant, Bool.and_eq_true, List.all_eq_true, Bool.or_eq_true,
    beq_iff_eq] at bounded
  rcases List.mem_iff_getElem.mp member with ⟨index, inside, rfl⟩
  have indexed : (value.toList[index], index) ∈ value.toList.zipIdx := by
    rw [List.mk_mem_zipIdx_iff_getElem?]
    exact List.getElem?_eq_getElem inside
  rcases bounded.2 _ indexed with (lower | digit) | ⟨_, low | dash⟩
  · have alpha : value.toList[index].isAlpha = true :=
      Bool.or_eq_true_iff.mpr (Or.inr lower)
    exact Or.inl (Bool.or_eq_true_iff.mpr (Or.inl alpha))
  · exact Or.inl (Bool.or_eq_true_iff.mpr (Or.inr digit))
  · exact Or.inr (Or.inl low)
  · exact Or.inr (Or.inr dash)

theorem boundedTenant_plain {value : String} (bounded : boundedTenant value = true)
    {character : Char} (member : character ∈ value.toList) : Text.Plain character := by
  rcases boundedTenant_mem bounded member with plain | rfl | rfl
  · exact Text.plain_of_isAlphanum plain
  · decide
  · decide

end EmbeddedAlerts
