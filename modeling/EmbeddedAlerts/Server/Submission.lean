import EmbeddedAlerts.Server.Http
import EmbeddedAlerts.Store.Admission

namespace EmbeddedAlerts

/-!
# Submitting a rule

A create is answered with 201 in one case only, and what it takes can be said
without the reader of the body: the request goes to the right place with the
right content type, its body is within the limit and spells a rule, the rule is
admitted, the token grants the write scope, and the store takes the alert.  In
every other case the store stays as it was.

The two lists of a rule have defaults, so that a body may leave them out.  In
an object it may leave out either of them.  In an array it can leave out
neither, because `enabled` stands behind them.
-/

/-! ## The spellings of a rule -/

theorem decodeStrings_eq_some_iff {value : Json} {texts : List String} :
    decodeStrings value = some texts ↔ value = .array (texts.map Json.string) := by
  constructor
  · intro decoded
    cases value with
    | array items =>
        rw [decodeStrings] at decoded
        congr 1
        induction items generalizing texts with
        | nil =>
            cases decoded
            rfl
        | cons item rest ih =>
            rw [List.mapM_cons] at decoded
            rcases Option.bind_eq_some_iff.mp decoded with ⟨first, text, decoded⟩
            rcases Option.bind_eq_some_iff.mp decoded with ⟨later, others, decoded⟩
            cases decoded
            rw [List.map_cons, ← ih others]
            cases item with
            | string spelled => cases text; rfl
            | _ => cases text
    | _ => cases decoded
  · rintro rfl
    exact decodeStrings_array texts

/-- What may be given for a list of texts: the list, or nothing if it is
empty. -/
def GivesTexts (texts : List String) (given : Option Json) : Prop :=
  given = some (.array (texts.map Json.string)) ∨ given = none ∧ texts = []

theorem stringsOrDefault_eq_some_iff {given : Option Json} {texts : List String} :
    stringsOrDefault given = some texts ↔ GivesTexts texts given := by
  cases given with
  | none => simp [stringsOrDefault, GivesTexts, eq_comm]
  | some value => simp [stringsOrDefault, GivesTexts, decodeStrings_eq_some_iff]

/-- How the JSON of a rule may look. -/
def CreateAlertRule.SpelledBy (readSingle : String -> Option F32) (input : CreateAlertRule)
    (json : Json) : Prop :=
  Exists fun threshold => Exists fun sources => Exists fun channels =>
    Json.Gives CreateAlertRule.names
      [some (.string input.name), some (.string input.queryText),
        some (.string input.embeddingModel), some (.number threshold), sources, channels,
        some (.bool input.enabled)] json ∧
    readSingle threshold = some input.similarityThreshold ∧
    GivesTexts input.sourceFilters sources ∧ GivesTexts input.deliveryChannels channels

theorem Json.asSingle_eq_some_iff {readSingle : String -> Option F32} {value : Json}
    {number : F32} : value.asSingle readSingle = some number ↔
      Exists fun text => value = .number text ∧ readSingle text = some number := by
  cases value with
  | number text => simp [asSingle]
  | _ => simp [asSingle]

theorem Json.asBool_eq_some_iff {value : Json} {flag : Bool} :
    value.asBool = some flag ↔ value = .bool flag := by
  cases value with
  | bool other => simp [asBool]
  | _ => simp [asBool]

theorem CreateAlertRule.ofJson_eq_some_iff (readSingle : String -> Option F32) (json : Json)
    (input : CreateAlertRule) :
    CreateAlertRule.ofJson readSingle json = some input ↔ input.SpelledBy readSingle json := by
  have distinct : CreateAlertRule.names.Nodup := by decide
  constructor
  · intro read
    unfold CreateAlertRule.ofJson at read
    split at read
    · next name queryText embeddingModel threshold sources channels enabled given =>
        have gives := (Json.fields_eq_some_iff distinct rfl json).mp given
        rcases Option.bind_eq_some_iff.mp read with ⟨_, nameRead, read⟩
        rcases Option.bind_eq_some_iff.mp read with ⟨_, queryRead, read⟩
        rcases Option.bind_eq_some_iff.mp read with ⟨_, modelRead, read⟩
        rcases Option.bind_eq_some_iff.mp read with ⟨_, thresholdRead, read⟩
        rcases Option.bind_eq_some_iff.mp read with ⟨_, sourcesRead, read⟩
        rcases Option.bind_eq_some_iff.mp read with ⟨_, channelsRead, read⟩
        rcases Option.bind_eq_some_iff.mp read with ⟨_, enabledRead, read⟩
        cases read
        rw [Json.asString_eq_some_iff] at nameRead queryRead modelRead
        rw [Json.asBool_eq_some_iff] at enabledRead
        rcases Json.asSingle_eq_some_iff.mp thresholdRead with ⟨text, numeric, single⟩
        subst nameRead queryRead modelRead enabledRead numeric
        exact ⟨text, sources, channels, gives, single, stringsOrDefault_eq_some_iff.mp sourcesRead,
          stringsOrDefault_eq_some_iff.mp channelsRead⟩
    · cases read
  · rintro ⟨text, sources, channels, gives, single, sourcesRead, channelsRead⟩
    rw [CreateAlertRule.ofJson, (Json.fields_eq_some_iff distinct rfl json).mpr gives]
    simp only [Json.asString, Json.asSingle, Json.asBool, single,
      stringsOrDefault_eq_some_iff.mpr sourcesRead, stringsOrDefault_eq_some_iff.mpr channelsRead,
      Option.bind_eq_bind, Option.bind_some]
    rfl

theorem CreateAlertRule.fromSlice_eq_some_iff (readSingle : String -> Option F32)
    (body : List UInt8) (input : CreateAlertRule) :
    CreateAlertRule.fromSlice readSingle body = some input ↔
      Exists fun text => Exists fun json => body = Text.asBytes text ∧
        Json.parse text = some json ∧ input.SpelledBy readSingle json := by
  simp only [CreateAlertRule.fromSlice, Json.fromBytes, Option.bind_eq_some_iff,
    Text.ofBytes_eq_some_iff, CreateAlertRule.ofJson_eq_some_iff]
  constructor
  · rintro ⟨json, ⟨text, bytes, parsed⟩, spelled⟩
    exact ⟨text, json, bytes, parsed, spelled⟩
  · rintro ⟨text, json, bytes, parsed, spelled⟩
    exact ⟨json, ⟨text, bytes, parsed⟩, spelled⟩

namespace AlertStore

def insert (store : AlertStore) (actor : VerifiedActor) (alert : AlertRule) : AlertStore :=
  match store with
  | .database rows => .database (rows ++ [alertRow actor alert])
  | .fallback entries =>
      .fallback (insertEntry entries ⟨actor.productTenant, actor.subject, alert.id⟩ alert)

end AlertStore

def Response.created : Response -> Bool
  | .json status _ => decide (status = 201)
  | _ => false

end EmbeddedAlerts
