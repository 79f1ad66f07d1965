import EmbeddedAlerts.Store.History

namespace EmbeddedAlerts

open AlertStore

/-!
# Admitted inputs in the store

`validate` measures the submitted texts in bytes, `into_rule` trims them by
Unicode whitespace, and the schema counts the characters of what is left.  An
admitted text is not blank and trimming only removes characters, so the three
views never disagree: every CHECK on the alert's own columns is met, and the
rule that is stored is a fixed point of the whole admission.

Reading the inserted row back loses one thing only.  The instants are kept in
whole microseconds, whereas the alert that `create` returns still carries the
clock's nanoseconds.
-/

/-- A text as `into_rule` leaves it. -/
structure NormalText (value : String) (max : Nat) : Prop where
  nonempty : value ≠ ""
  noLeading : forall character, value.toList.head? = some character ->
    Text.isWhitespace character = false
  noTrailing : forall character, value.toList.getLast? = some character ->
    Text.isWhitespace character = false
  noControl : forall character, character ∈ value.toList -> Text.isControl character = false
  bounded : Text.byteLength value ≤ max

namespace AdmittedText

variable {value : String} {max : Nat}

theorem trim (admitted : AdmittedText value max) : AdmittedText (Text.trim value) max where
  notBlank := by
    rw [Text.trim_trim]
    exact admitted.notBlank
  bounded := (Text.byteLength_trim_le value).trans admitted.bounded
  noControl := fun character member => admitted.noControl character (Text.mem_of_mem_trim member)

theorem normal (admitted : AdmittedText value max) : NormalText (Text.trim value) max where
  nonempty := admitted.notBlank
  noLeading := by
    intro character begins
    rw [Text.trim_toList] at begins
    exact Text.head_stripped begins
  noTrailing := by
    intro character ends
    rw [Text.trim_toList] at ends
    exact Text.last_stripped ends
  noControl := admitted.trim.noControl
  bounded := admitted.trim.bounded

end AdmittedText

/-- A byte limit on a text that is not empty implies the same limit on its
characters. -/
theorem NormalText.lengthWithin {value : String} {max : Nat} (normal : NormalText value max) :
    lengthWithin max value = true := by
  have positive : value.length ≠ 0 := by
    intro zero
    exact normal.nonempty (String.length_eq_zero_iff.mp zero)
  have bounded := (Text.length_le_byteLength value).trans normal.bounded
  exact decide_eq_true ⟨Nat.pos_of_ne_zero positive, bounded⟩

theorem normalizeList_normal {values : List String}
    (admitted : forall value, value ∈ values -> AdmittedText value maxListItemBytes)
    {value : String} (member : value ∈ normalizeList values) :
    NormalText value maxListItemBytes := by
  rcases List.mem_map.mp member with ⟨original, present, rfl⟩
  exact (admitted original present).normal

theorem normalizeList_admitted {values : List String}
    (admitted : forall value, value ∈ values -> AdmittedText value maxListItemBytes)
    {value : String} (member : value ∈ normalizeList values) :
    AdmittedText value maxListItemBytes := by
  rcases List.mem_map.mp member with ⟨original, present, rfl⟩
  exact (admitted original present).trim

theorem normalizeList_normalizeList (values : List String) :
    normalizeList (normalizeList values) = normalizeList values := by
  simp only [normalizeList, List.map_map]
  apply List.map_congr_left
  intro value _
  exact Text.trim_trim value

/-- The submission that a rule's own fields make up. -/
def AlertRule.toInput (rule : AlertRule) : CreateAlertRule where
  name := rule.name
  queryText := rule.queryText
  embeddingModel := rule.embeddingModel
  similarityThreshold := rule.similarityThreshold
  sourceFilters := rule.sourceFilters
  deliveryChannels := rule.deliveryChannels
  enabled := rule.enabled

namespace AdmittedRule

variable {input : CreateAlertRule}

theorem resubmitted (admitted : AdmittedRule input) (id : Uuid) (now : DateTime) :
    AdmittedRule (input.intoRule id now).toInput where
  name := admitted.name.trim
  queryText := admitted.queryText.trim
  embeddingModel := admitted.embeddingModel.trim
  finite := admitted.finite
  unit := admitted.unit
  sourceCount := by
    change (normalizeList input.sourceFilters).length ≤ maxListItems
    rw [normalizeList, List.length_map]
    exact admitted.sourceCount
  sources := fun _ => normalizeList_admitted admitted.sources
  channelCount := by
    change (normalizeList input.deliveryChannels).length ≤ maxListItems
    rw [normalizeList, List.length_map]
    exact admitted.channelCount
  channels := fun _ => normalizeList_admitted admitted.channels

end AdmittedRule

theorem intoRule_toInput (input : CreateAlertRule) (id : Uuid) (now : DateTime) :
    (input.intoRule id now).toInput.intoRule id now = input.intoRule id now := by
  simp only [CreateAlertRule.intoRule, AlertRule.toInput, Text.trim_trim,
    normalizeList_normalizeList]

/-- The checks of the alert's own text and list columns, its normal form, and
the stability of that form. -/
theorem admitted_rule_normal_and_stable (input : CreateAlertRule)
    (accepted : input.validate = .ok ()) (id : Uuid) (now : DateTime) :
    (forall actor,
      lengthWithin 160 (alertRow actor (input.intoRule id now)).name = true ∧
      lengthWithin 8192 (alertRow actor (input.intoRule id now)).queryText = true ∧
      lengthWithin 128 (alertRow actor (input.intoRule id now)).embeddingModel = true ∧
      (alertRow actor (input.intoRule id now)).sourceFilters.isArray = true ∧
      (alertRow actor (input.intoRule id now)).deliveryChannels.isArray = true) ∧
    (NormalText (input.intoRule id now).name maxAlertNameBytes ∧
      NormalText (input.intoRule id now).queryText maxQueryBytes ∧
      NormalText (input.intoRule id now).embeddingModel maxModelBytes ∧
      (forall value, value ∈ (input.intoRule id now).sourceFilters ->
        NormalText value maxListItemBytes) ∧
      (forall value, value ∈ (input.intoRule id now).deliveryChannels ->
        NormalText value maxListItemBytes)) ∧
    ((input.intoRule id now).sourceFilters.length = input.sourceFilters.length ∧
      (input.intoRule id now).deliveryChannels.length = input.deliveryChannels.length ∧
      forall position : Nat,
        (input.intoRule id now).sourceFilters[position]? =
          (input.sourceFilters[position]?).map Text.trim ∧
        (input.intoRule id now).deliveryChannels[position]? =
          (input.deliveryChannels[position]?).map Text.trim) ∧
    (input.intoRule id now).toInput.validate = .ok () ∧
    (input.intoRule id now).toInput.intoRule id now = input.intoRule id now := by
  have admitted := (CreateAlertRule.validate_eq_ok_iff input).mp accepted
  refine ⟨?_, ?_, ?_, ?_, intoRule_toInput input id now⟩
  · intro actor
    exact ⟨admitted.name.normal.lengthWithin, admitted.queryText.normal.lengthWithin,
      admitted.embeddingModel.normal.lengthWithin, rfl, rfl⟩
  · exact ⟨admitted.name.normal, admitted.queryText.normal, admitted.embeddingModel.normal,
      fun _ => normalizeList_normal admitted.sources,
      fun _ => normalizeList_normal admitted.channels⟩
  · refine ⟨List.length_map _, List.length_map _, ?_⟩
    intro position
    exact ⟨List.getElem?_map, List.getElem?_map⟩
  · exact (CreateAlertRule.validate_eq_ok_iff _).mpr (admitted.resubmitted id now)

/-- A submission whose texts carry blanks at their ends: two Unicode spaces
before the name and a space around a filter. -/
def paddedInput : CreateAlertRule :=
  { burstInput with name := "\u3000\u00a0Überwachung ", sourceFilters := [" docs ", "news"] }

theorem paddedInput_normal_and_stable :
    paddedInput.validate = .ok () ∧
      (paddedInput.intoRule (Uuid.ofNat 1) ⟨0⟩).name = "Überwachung" ∧
      NormalText (paddedInput.intoRule (Uuid.ofNat 1) ⟨0⟩).name maxAlertNameBytes :=
  have accepted : paddedInput.validate = .ok () := by decide
  ⟨accepted, by decide,
    (admitted_rule_normal_and_stable paddedInput accepted (Uuid.ofNat 1) ⟨0⟩).2.1.1⟩

/-! ## The CHECK constraints of an admitted alert -/

theorem widen_inUnitInterval (number : F32) (unit : number.inUnitInterval = true) :
    number.widen.inUnitInterval = true := by
  have exponentBound := number.exponent.isLt
  rw [F32.inUnitInterval, Bool.or_eq_true, decide_eq_true_eq, Bool.and_eq_true,
    decide_eq_true_eq, Bool.not_eq_true'] at unit
  rw [F64.inUnitInterval, Bool.or_eq_true, decide_eq_true_eq, Bool.and_eq_true,
    decide_eq_true_eq, Bool.not_eq_true']
  by_cases subnormal : number.exponent.val = 0
  · by_cases zero : number.fraction.val = 0
    · exact Or.inl (F32.widen_zero number subnormal zero).2
    · rcases F32.widen_subnormal number subnormal zero with ⟨sign, exponent, _⟩
      rcases unit with ⟨_, vanishing⟩ | ⟨positive, _⟩
      · exact absurd vanishing zero
      · have small := F32.log2_fraction_le number zero
        exact Or.inr ⟨sign.trans positive, Or.inl (by omega)⟩
  · have regular : number.exponent.val ≠ 255 := by
      rcases unit with ⟨vanishing, _⟩ | ⟨_, bounded⟩
      · exact absurd vanishing subnormal
      · omega
    rcases F32.widen_normal number regular subnormal with ⟨sign, exponent, fraction⟩
    rcases unit with ⟨vanishing, _⟩ | ⟨positive, below | ⟨one, exact'⟩⟩
    · exact absurd vanishing subnormal
    · exact Or.inr ⟨sign.trans positive, Or.inl (by omega)⟩
    · exact Or.inr ⟨sign.trans positive, Or.inr ⟨by omega, by rw [fraction, exact']; rfl⟩⟩

/-- Of all the CHECK constraints of `eal_alert_rules` only the one on the
tenant can refuse an admitted alert. -/
theorem checks_alertRow {input : CreateAlertRule} (admitted : AdmittedRule input)
    (actor : VerifiedActor) (id : Uuid) (now : DateTime) :
    (alertRow actor (input.intoRule id now)).checks = lengthWithin 64 actor.productTenant := by
  have name := admitted.name.normal.lengthWithin
  have query := admitted.queryText.normal.lengthWithin
  have model := admitted.embeddingModel.normal.lengthWithin
  have unit := widen_inUnitInterval _ admitted.unit
  simp only [maxAlertNameBytes, maxQueryBytes, maxModelBytes] at name query model
  simp only [AlertRow.checks, alertRow, CreateAlertRule.intoRule, name, query, model, unit,
    Json.isArray, Bool.and_true]

/-! ## Reading an inserted row back -/

/-- The driver and the column keep an instant exactly when it is a whole
number of microseconds. -/
theorem ofTimestamptz_toTimestamptz_iff (instant : DateTime) :
    ofTimestamptz (toTimestamptz instant) = instant ↔ (1000 : Int) ∣ instant.nanoseconds := by
  rw [ofTimestamptz, toTimestamptz, DateTime.mk.injEq, postgresEpoch]
  constructor
  · intro kept
    omega
  · intro whole
    rw [Int.tdiv_mul_cancel (by omega)]
    omega

theorem storedForm_eq_iff {input : CreateAlertRule} (admitted : AdmittedRule input) (id : Uuid)
    (now : DateTime) :
    storedForm (input.intoRule id now) = input.intoRule id now ↔
      (1000 : Int) ∣ now.nanoseconds := by
  rw [← ofTimestamptz_toTimestamptz_iff]
  constructor
  · intro same
    exact congrArg AlertRule.createdAt same
  · intro kept
    have threshold : input.similarityThreshold.widen.narrow = input.similarityThreshold :=
      F32.narrow_widen _ admitted.finite
    simp only [storedForm, CreateAlertRule.intoRule, kept, threshold]

/-- The row that a successful `create` inserts decodes to the returned alert
exactly when the clock showed a whole microsecond. -/
theorem created_row_decodes_iff (rows : List AlertRow) (next : AlertStore) (actor : VerifiedActor)
    (input : CreateAlertRule) (id : Uuid) (now : DateTime) (alert : AlertRule)
    (created : (AlertStore.database rows).create actor input id now = .ok (next, alert)) :
    Exists fun row => next = .database (rows ++ [row]) ∧
      (decodeAlert row = .ok alert ↔ (1000 : Int) ∣ now.nanoseconds) := by
  rcases (create_database_eq_ok_iff _ _ _ _ _ _ _).mp created with ⟨valid, rfl, _, _, rfl⟩
  have admitted := (CreateAlertRule.validate_eq_ok_iff input).mp valid
  refine ⟨alertRow actor (input.intoRule id now), rfl, ?_⟩
  rw [decodeAlert_alertRow, Except.ok.injEq]
  exact storedForm_eq_iff admitted id now

/-- The first alert of an empty table, created at the given instant. -/
theorem create_burstInput (now : DateTime) :
    (AlertStore.database []).create burstActor burstInput (Uuid.ofNat 1) now =
      .ok (.database [alertRow burstActor (burstInput.intoRule (Uuid.ofNat 1) now)],
        burstInput.intoRule (Uuid.ofNat 1) now) := by
  have admitted := (CreateAlertRule.validate_eq_ok_iff burstInput).mp burstInput_valid
  refine (create_database_eq_ok_iff _ _ _ _ _ _ _).mpr
    ⟨burstInput_valid, rfl, fun _ absent => absurd absent List.not_mem_nil, ?_, rfl⟩
  rw [checks_alertRow admitted]
  decide

theorem created_row_decodes_whole_microsecond :
    Exists fun row => AlertStore.database
        [alertRow burstActor (burstInput.intoRule (Uuid.ofNat 1) ⟨1786000000123456000⟩)] =
          .database ([] ++ [row]) ∧
      decodeAlert row = .ok (burstInput.intoRule (Uuid.ofNat 1) ⟨1786000000123456000⟩) := by
  rcases created_row_decodes_iff [] _ burstActor burstInput (Uuid.ofNat 1) ⟨1786000000123456000⟩ _
    (create_burstInput _) with ⟨row, inserted, decoded⟩
  exact ⟨row, inserted, decoded.mpr (by decide)⟩

/-- A clock reading with a nanosecond part: the returned alert says 789 ns
more than the row that was inserted for it. -/
theorem created_row_loses_nanoseconds :
    Exists fun alert => Exists fun row =>
      (AlertStore.database []).create burstActor burstInput (Uuid.ofNat 1) ⟨1786000000123456789⟩ =
        .ok (.database [row], alert) ∧
      alert.createdAt = ⟨1786000000123456789⟩ ∧
      (decodeAlert row).map AlertRule.createdAt = .ok ⟨1786000000123456000⟩ ∧
      Not (decodeAlert row = .ok alert) := by
  refine ⟨_, _, create_burstInput _, rfl, ?_, ?_⟩
  · rw [decodeAlert_alertRow]
    rfl
  · rw [decodeAlert_alertRow, Except.ok.injEq, storedForm_eq_iff
      ((CreateAlertRule.validate_eq_ok_iff burstInput).mp burstInput_valid)]
    decide

end EmbeddedAlerts
