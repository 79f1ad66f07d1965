import EmbeddedAlerts.Library.Json
import EmbeddedAlerts.Transport.Database

namespace EmbeddedAlerts

/-!
# The JSON of alerts, replies, event envelopes and commands

The members are those that the derived serializers write.  The alerts of a reply
and the whole envelope of an event go through `serde_json::Value`, which lists
the same members by name; no size depends on that.  The texts of timestamps and
floats come from other crates and are given by a `JsonFormat`.
-/

structure JsonFormat where
  dateTime : DateTime -> String
  float : F64 -> String

/-- A float goes through `serde_json::Value`, which holds it as a double. -/
def AlertRule.toJson (format : JsonFormat) (alert : AlertRule) : Json :=
  .object [
    ("id", .string alert.id.toString),
    ("created_at", .string (format.dateTime alert.createdAt)),
    ("updated_at", .string (format.dateTime alert.updatedAt)),
    ("name", .string alert.name),
    ("query_text", .string alert.queryText),
    ("embedding_model", .string alert.embeddingModel),
    ("similarity_threshold", .number (format.float alert.similarityThreshold.widen)),
    ("source_filters", .array (alert.sourceFilters.map Json.string)),
    ("delivery_channels", .array (alert.deliveryChannels.map Json.string)),
    ("enabled", .bool alert.enabled)]

def alertsJson (format : JsonFormat) (alerts : List AlertRule) : Json :=
  .array (alerts.map (AlertRule.toJson format))

def OperationReply.toJson (format : JsonFormat) (reply : OperationReply) : Json :=
  .object [
    ("operation_id", .string reply.operationId.toString),
    ("status", .string reply.status),
    ("result", match reply.result with
      | some alerts => (alertsJson format alerts).ordered
      | none => .null),
    ("error", match reply.error with
      | some error => .string error
      | none => .null)]

/-- The envelope as it is read back from its `jsonb` column. -/
def EventEnvelope.toJson (format : JsonFormat) (envelope : EventEnvelope) : Json :=
  Json.ordered (.object [
    ("event_id", .string envelope.eventId.toString),
    ("correlation_id", .string envelope.correlationId.toString),
    ("dedupe_key", .string envelope.dedupeKey),
    ("product_tenant", .string envelope.productTenant),
    ("subject", .string envelope.subject),
    ("reply", envelope.reply.toJson format)])

def OperationEnvelope.toJson (envelope : OperationEnvelope) : Json :=
  .object [
    ("version", .number (Nat.repr envelope.version.toNat)),
    ("operation_id", .string envelope.operationId.toString),
    ("operation", .string envelope.operation),
    ("actor_subject", .string envelope.actorSubject),
    ("product_tenant", .string envelope.productTenant),
    ("deadline_unix_ms", .number (Nat.repr envelope.deadlineUnixMs.toNat))]

def AsyncCommand.toJson (command : AsyncCommand) : Json :=
  .object [
    ("event_id", .string command.eventId.toString),
    ("correlation_id", .string command.correlationId.toString),
    ("dedupe_key", .string command.dedupeKey),
    ("product_tenant", .string command.productTenant),
    ("operation", command.operation.toJson),
    ("signature", .string command.signature)]

/-- The payload that the signer publishes for a command. -/
def AsyncCommand.payload (command : AsyncCommand) : List UInt8 :=
  Text.asBytes command.toJson.compact

/-! ## Sizes of identifiers -/

theorem plain_of_digitValue {character : Char}
    (digit : Exists fun small => Hexadecimal.digitValue character = some small) :
    Text.Plain character := by
  rcases digit with ⟨small, read⟩
  have range : (48 ≤ character.toNat ∧ character.toNat ≤ 57) ∨
      (97 ≤ character.toNat ∧ character.toNat ≤ 102) ∨
      (65 ≤ character.toNat ∧ character.toNat ≤ 70) := by
    unfold Hexadecimal.digitValue at read
    split at read
    · next inside => exact Or.inl inside
    · split at read
      · next inside => exact Or.inr (Or.inl inside)
      · split at read
        · next inside => exact Or.inr (Or.inr inside)
        · cases read
  refine ⟨by omega, by omega, ?_, ?_⟩
  · rintro rfl
    revert range
    decide
  · rintro rfl
    revert range
    decide

theorem Uuid.plain_of_spelling {character : Char} (spelling : Uuid.spellingCharacter character) :
    Text.Plain character := by
  rcases spelling with digit | listed
  · exact plain_of_digitValue digit
  · exact Text.plain_of_mem (by decide) listed

@[simp] theorem quotedSize_uuid (id : Uuid) : Json.quotedSize id.toString = 38 := by
  have full : id.toString.length = 36 := by
    rw [Uuid.toString, String.length_ofList]
    exact Uuid.hyphenate_length (Hexadecimal.digits_length _ _)
  rw [Json.quotedSize_of_plain, full]
  intro character member
  exact Uuid.plain_of_spelling (Uuid.spelling_of_mem_toString member)

theorem quotedSize_tenant {tenant : String} (bounded : boundedTenant tenant = true) :
    Json.quotedSize tenant = tenant.length + 2 :=
  Json.quotedSize_of_plain (fun _ member => boundedTenant_plain bounded member)

theorem quotedSize_dedupeKey {key : String} (bounded : boundedDedupeKey key = true) :
    Json.quotedSize key = key.length + 2 :=
  Json.quotedSize_of_plain (fun _ member => boundedDedupeKey_plain bounded member)

end EmbeddedAlerts
