import EmbeddedAlerts.Library.Json
import EmbeddedAlerts.Store.History

namespace EmbeddedAlerts

/-!
# Rules in the request body

A rule is submitted as the JSON body of a request, and the router refuses a
body above its limit before any handler sees it.  The limits of the rule itself
count the bytes of its texts.  The body counts the same bytes once more escaped:
a quote or a backslash takes two, and everything else that a rule admits takes
what it takes in the text.

So the size of a body is the bytes of the texts, one more for each escape, and
a frame that depends on the numbers of entries.  All admitted texts together
leave room for some thousand escapes, but not for one at every character.
-/

def maxJsonBodyBytes : Nat := 32 * 1024

/-- `DefaultBodyLimit::max`: the JSON extractor takes a body up to the limit. -/
def withinBodyLimit (body : List UInt8) : Bool := decide (body.length ≤ maxJsonBodyBytes)

/-- The members that the derived serializer writes.  The digits of the
threshold belong to `serde_json`. -/
def CreateAlertRule.toJson (single : F32 -> String) (input : CreateAlertRule) : Json :=
  .object [
    ("name", .string input.name),
    ("query_text", .string input.queryText),
    ("embedding_model", .string input.embeddingModel),
    ("similarity_threshold", .number (single input.similarityThreshold)),
    ("source_filters", .array (input.sourceFilters.map Json.string)),
    ("delivery_channels", .array (input.deliveryChannels.map Json.string)),
    ("enabled", .bool input.enabled)]

/-- The body of the request that submits the rule. -/
def CreateAlertRule.body (single : F32 -> String) (input : CreateAlertRule) : List UInt8 :=
  Text.asBytes (input.toJson single).compact

/-- All texts of a rule. -/
def CreateAlertRule.texts (input : CreateAlertRule) : List String :=
  input.name :: input.queryText :: input.embeddingModel ::
    (input.sourceFilters ++ input.deliveryChannels)

def CreateAlertRule.textBytes (input : CreateAlertRule) : Nat :=
  (input.texts.map Text.byteLength).sum

def CreateAlertRule.escapes (input : CreateAlertRule) : Nat :=
  (input.texts.map Json.escapes).sum

/-- The brackets, quotes and commas of a list of texts. -/
def listFrame (values : List String) : Nat := 2 + 2 * values.length + (values.length - 1)

/-- Everything in a body that is not a character of a text. -/
def CreateAlertRule.frame (single : F32 -> String) (input : CreateAlertRule) : Nat :=
  122 + Text.byteLength (single input.similarityThreshold) + listFrame input.sourceFilters +
    listFrame input.deliveryChannels + if input.enabled then 4 else 5

/-! ## The size of a body -/

theorem AdmittedText.printable {value : String} {max : Nat} (admitted : AdmittedText value max)
    {character : Char} (member : character ∈ value.toList) : 32 ≤ character.toNat := by
  have plain := admitted.noControl character member
  rw [Text.isControl] at plain
  have above := of_decide_eq_false (Bool.or_eq_false_iff.mp plain).1
  exact Nat.le_of_not_lt above

theorem AdmittedText.quotedSize {value : String} {max : Nat} (admitted : AdmittedText value max) :
    Json.quotedSize value = Text.byteLength value + Json.escapes value + 2 :=
  Json.quotedSize_of_printable (fun _ member => admitted.printable member)

theorem size_textList {values : List String} {max : Nat}
    (admitted : forall value, value ∈ values -> AdmittedText value max) :
    Json.size (.array (values.map Json.string)) =
      (values.map Text.byteLength).sum + (values.map Json.escapes).sum + listFrame values := by
  have quoted : ((values.map Json.string).map Json.size).sum =
      (values.map Text.byteLength).sum + (values.map Json.escapes).sum + 2 * values.length := by
    induction values with
    | nil => rfl
    | cons head tail ih =>
        have first := (admitted head List.mem_cons_self).quotedSize
        have rest := ih (fun value later => admitted value (List.mem_cons_of_mem _ later))
        simp only [List.map_cons, List.sum_cons, List.length_cons, Json.size_string]
        omega
  rw [Json.size_array, quoted, List.length_map, listFrame]
  omega

theorem size_bool (value : Bool) : Json.size (.bool value) = if value then 4 else 5 := by
  cases value <;> rfl

/-- The three parts of a body. -/
theorem body_length {input : CreateAlertRule} (admitted : AdmittedRule input)
    (single : F32 -> String) :
    (input.body single).length = input.textBytes + input.escapes + input.frame single := by
  have names : Json.quotedSize "name" = 6 ∧ Json.quotedSize "query_text" = 12 ∧
      Json.quotedSize "embedding_model" = 17 ∧ Json.quotedSize "similarity_threshold" = 22 ∧
      Json.quotedSize "source_filters" = 16 ∧ Json.quotedSize "delivery_channels" = 19 ∧
      Json.quotedSize "enabled" = 9 := by
    decide +kernel
  have number : Json.size (.number (single input.similarityThreshold)) =
      Text.byteLength (single input.similarityThreshold) := by
    rw [Json.size, Json.compact]
  change (input.toJson single).size = _
  simp only [CreateAlertRule.toJson, Json.size_object, List.map_cons, List.map_nil, List.sum_cons,
    List.sum_nil, List.length_cons, List.length_nil, Json.memberSize, Json.size_string, names,
    admitted.name.quotedSize, admitted.queryText.quotedSize, admitted.embeddingModel.quotedSize,
    number, size_textList admitted.sources, size_textList admitted.channels, size_bool,
    CreateAlertRule.textBytes, CreateAlertRule.escapes, CreateAlertRule.texts,
    CreateAlertRule.frame, List.map_append, List.sum_append]
  omega

theorem sum_byteLength_le {values : List String} {max : Nat}
    (admitted : forall value, value ∈ values -> AdmittedText value max) :
    (values.map Text.byteLength).sum ≤ max * values.length := by
  induction values with
  | nil => exact Nat.zero_le _
  | cons head tail ih =>
      have first := (admitted head List.mem_cons_self).bounded
      have rest := ih (fun value later => admitted value (List.mem_cons_of_mem _ later))
      rw [List.map_cons, List.sum_cons, List.length_cons, Nat.mul_succ]
      omega

/-- What all limits of a rule allow together. -/
theorem textBytes_le {input : CreateAlertRule} (admitted : AdmittedRule input) :
    input.textBytes ≤ 24864 := by
  have name := admitted.name.bounded
  have query := admitted.queryText.bounded
  have model := admitted.embeddingModel.bounded
  have sources := sum_byteLength_le admitted.sources
  have channels := sum_byteLength_le admitted.channels
  have sourceCount := admitted.sourceCount
  have channelCount := admitted.channelCount
  simp only [maxAlertNameBytes, maxQueryBytes, maxModelBytes, maxListItems, maxListItemBytes]
    at name query model sources channels sourceCount channelCount
  simp only [CreateAlertRule.textBytes, CreateAlertRule.texts, List.map_cons, List.map_append,
    List.sum_cons, List.sum_append]
  omega

theorem frame_le {input : CreateAlertRule} (admitted : AdmittedRule input)
    {single : F32 -> String} (digits : Text.byteLength (single input.similarityThreshold) ≤ 16) :
    input.frame single ≤ 337 := by
  have sourceCount := admitted.sourceCount
  have channelCount := admitted.channelCount
  rw [maxListItems] at sourceCount channelCount
  rw [CreateAlertRule.frame, listFrame, listFrame]
  split <;> omega

/-- A valid rule passes the body limit exactly if its text bytes, its escapes
and its frame do.  With the digits of an `f32` that is so for every valid rule
with at most 7567 quotes and backslashes. -/
theorem valid_rule_submittable_iff (single : F32 -> String) {input : CreateAlertRule}
    (valid : input.validate = .ok ()) :
    (withinBodyLimit (input.body single) = true ↔
      input.textBytes + input.escapes + input.frame single ≤ maxJsonBodyBytes) ∧
    (Text.byteLength (single input.similarityThreshold) ≤ 16 -> input.escapes ≤ 7567 ->
      withinBodyLimit (input.body single) = true) := by
  have admitted := (CreateAlertRule.validate_eq_ok_iff input).mp valid
  have sized : withinBodyLimit (input.body single) = true ↔
      input.textBytes + input.escapes + input.frame single ≤ maxJsonBodyBytes := by
    rw [withinBodyLimit, decide_eq_true_eq, body_length admitted]
  refine ⟨sized, ?_⟩
  intro digits few
  have texts := textBytes_le admitted
  have frame := frame_le admitted digits
  rw [sized, maxJsonBodyBytes]
  omega

/-- A short rule is far below the limit. -/
theorem burstInput_submittable :
    burstInput.validate = .ok () ∧
      withinBodyLimit (burstInput.body (fun _ => "0.7")) = true :=
  ⟨burstInput_valid, (valid_rule_submittable_iff (fun _ => "0.7") burstInput_valid).2
    (by decide) (by decide)⟩

/-! ## Quotes everywhere -/

def quotes (count : Nat) : String := String.ofList (List.replicate count '"')

theorem byteLength_quotes (count : Nat) : Text.byteLength (quotes count) = count := by
  have single : Char.utf8Size '"' = 1 := rfl
  rw [quotes, Text.byteLength_ofList, List.map_replicate, List.sum_replicate, single,
    smul_eq_mul, Nat.mul_one]

theorem escapes_quotes (count : Nat) : Json.escapes (quotes count) = count := by
  rw [Json.escapes, quotes, String.toList_ofList, List.countP_replicate]
  rfl

theorem admittedText_quotes {count max : Nat} (positive : 0 < count) (small : count ≤ max) :
    AdmittedText (quotes count) max where
  notBlank := by
    rw [Text.trim_of_solid]
    · intro empty
      have length := byteLength_quotes count
      rw [empty] at length
      change 0 = count at length
      omega
    · intro character member
      rw [quotes, String.toList_ofList] at member
      rw [(List.mem_replicate.mp member).2]
      rfl
  bounded := by
    rw [byteLength_quotes]
    exact small
  noControl := by
    intro character member
    rw [quotes, String.toList_ofList] at member
    rw [(List.mem_replicate.mp member).2]
    rfl

/-- The query and the sources at their limits, every character a quote. -/
def quotedInput : CreateAlertRule :=
  { burstInput with
    queryText := quotes 8192
    sourceFilters := List.replicate 32 (quotes 256) }

theorem quotedInput_valid : quotedInput.validate = .ok () := by
  have plain := (CreateAlertRule.validate_eq_ok_iff burstInput).mp burstInput_valid
  refine (CreateAlertRule.validate_eq_ok_iff quotedInput).mpr ⟨plain.name,
    admittedText_quotes (by decide) (by decide), plain.embeddingModel, plain.finite, plain.unit,
    ?_, ?_, plain.channelCount, plain.channels⟩
  · change (List.replicate 32 (quotes 256)).length ≤ maxListItems
    rw [List.length_replicate, maxListItems]
  · intro value member
    rw [(List.mem_replicate.mp member).2]
    exact admittedText_quotes (by decide) (by decide)

/-- The rule is valid, and its body is refused. -/
theorem quoted_rule_not_submittable :
    quotedInput.validate = .ok () ∧
      withinBodyLimit (quotedInput.body (fun _ => "0.7")) = false := by
  refine ⟨quotedInput_valid, ?_⟩
  have admitted := (CreateAlertRule.validate_eq_ok_iff quotedInput).mp quotedInput_valid
  have bytes : quotedInput.textBytes = 16409 := by
    simp only [CreateAlertRule.textBytes, CreateAlertRule.texts, quotedInput, burstInput,
      List.map_cons, List.map_append, List.map_nil, List.map_replicate, List.sum_cons,
      List.sum_append, List.sum_nil, List.sum_replicate, byteLength_quotes, smul_eq_mul]
    decide
  have doubled : quotedInput.escapes = 16384 := by
    simp only [CreateAlertRule.escapes, CreateAlertRule.texts, quotedInput, burstInput,
      List.map_cons, List.map_append, List.map_nil, List.map_replicate, List.sum_cons,
      List.sum_append, List.sum_nil, List.sum_replicate, escapes_quotes, smul_eq_mul]
    decide
  rw [withinBodyLimit, body_length admitted, bytes, doubled]
  apply decide_eq_false
  rw [maxJsonBodyBytes]
  omega

end EmbeddedAlerts
