import EmbeddedAlerts.Library.Text
import EmbeddedAlerts.Library.BinaryFloat
import EmbeddedAlerts.Library.Fallible
import EmbeddedAlerts.Model.Uuid

namespace EmbeddedAlerts

/-!
# Alert rules and their admission

The limits below are in bytes and are checked before trimming.  `intoRule`
then trims every text.  Nothing else about a submitted rule is changed.
-/

/-- A UTC instant with nanosecond resolution, counted from the Unix epoch. -/
structure DateTime where
  nanoseconds : Int
deriving DecidableEq

def maxAlertNameBytes : Nat := 160
def maxQueryBytes : Nat := 8 * 1024
def maxModelBytes : Nat := 128
def maxListItems : Nat := 32
def maxListItemBytes : Nat := 256

structure AlertRule where
  id : Uuid
  createdAt : DateTime
  updatedAt : DateTime
  name : String
  queryText : String
  embeddingModel : String
  similarityThreshold : F32
  sourceFilters : List String
  deliveryChannels : List String
  enabled : Bool
deriving DecidableEq

structure CreateAlertRule where
  name : String
  queryText : String
  embeddingModel : String
  similarityThreshold : F32
  sourceFilters : List String
  deliveryChannels : List String
  enabled : Bool
deriving DecidableEq

def validateText (value : String) (max : Nat) : Except String Unit :=
  if Text.trim value = "" ∨ max < Text.byteLength value ∨
      value.toList.any Text.isControl = true then
    .error "text field is empty, oversized, or contains controls"
  else .ok ()

/-- The loop over the entries stops at the first refused one. -/
def validateEntries : List String -> Except String Unit
  | [] => .ok ()
  | value :: rest => do
      validateText value maxListItemBytes
      validateEntries rest

def validateList (values : List String) : Except String Unit :=
  if maxListItems < values.length then .error "list field contains too many entries"
  else validateEntries values

def normalizeList (values : List String) : List String :=
  values.map Text.trim

namespace CreateAlertRule

def validate (input : CreateAlertRule) : Except String Unit := do
  validateText input.name maxAlertNameBytes
  validateText input.queryText maxQueryBytes
  validateText input.embeddingModel maxModelBytes
  Fallible.refuseIf
    (!input.similarityThreshold.isFinite || !input.similarityThreshold.inUnitInterval)
    "similarity_threshold must be between zero and one"
  validateList input.sourceFilters
  validateList input.deliveryChannels

def intoRule (input : CreateAlertRule) (id : Uuid) (now : DateTime) : AlertRule where
  id := id
  createdAt := now
  updatedAt := now
  name := Text.trim input.name
  queryText := Text.trim input.queryText
  embeddingModel := Text.trim input.embeddingModel
  similarityThreshold := input.similarityThreshold
  sourceFilters := normalizeList input.sourceFilters
  deliveryChannels := normalizeList input.deliveryChannels
  enabled := input.enabled

end CreateAlertRule

/-! ## What an admitted input satisfies -/

open Fallible

/-- The condition behind `validate_text`. -/
structure AdmittedText (value : String) (max : Nat) : Prop where
  notBlank : Text.trim value ≠ ""
  bounded : Text.byteLength value ≤ max
  noControl : forall character, character ∈ value.toList -> Text.isControl character = false

theorem validateText_eq_ok_iff (value : String) (max : Nat) :
    validateText value max = .ok () ↔ AdmittedText value max := by
  unfold validateText
  constructor
  · intro accepted
    split at accepted
    · cases accepted
    · next refused =>
        rw [not_or, not_or] at refused
        refine ⟨refused.1, Nat.le_of_not_lt refused.2.1, ?_⟩
        intro character member
        cases control : Text.isControl character with
        | false => rfl
        | true => exact absurd (List.any_eq_true.mpr ⟨character, member, control⟩) refused.2.2
  · intro admitted
    rw [if_neg]
    rintro (blank | long | control)
    · exact admitted.notBlank blank
    · exact absurd admitted.bounded (Nat.not_le_of_lt long)
    · rcases List.any_eq_true.mp control with ⟨character, member, found⟩
      rw [admitted.noControl character member] at found
      cases found

theorem validateEntries_eq_ok_iff (values : List String) :
    validateEntries values = .ok () ↔
      forall value, value ∈ values -> AdmittedText value maxListItemBytes := by
  induction values with
  | nil => simp [validateEntries]
  | cons head tail ih =>
      rw [List.forall_mem_cons, ← ih, ← validateText_eq_ok_iff]
      simp only [validateEntries, bind, Except.bind]
      cases validateText head maxListItemBytes with
      | error message => simp
      | ok value => simp

/-- The condition behind `validate`, field by field. -/
structure AdmittedRule (input : CreateAlertRule) : Prop where
  name : AdmittedText input.name maxAlertNameBytes
  queryText : AdmittedText input.queryText maxQueryBytes
  embeddingModel : AdmittedText input.embeddingModel maxModelBytes
  finite : input.similarityThreshold.isFinite = true
  unit : input.similarityThreshold.inUnitInterval = true
  sourceCount : input.sourceFilters.length ≤ maxListItems
  sources : forall value, value ∈ input.sourceFilters -> AdmittedText value maxListItemBytes
  channelCount : input.deliveryChannels.length ≤ maxListItems
  channels : forall value, value ∈ input.deliveryChannels -> AdmittedText value maxListItemBytes

private theorem validateList_eq_ok_iff (values : List String) :
    validateList values = .ok () ↔ values.length ≤ maxListItems ∧
      forall value, value ∈ values -> AdmittedText value maxListItemBytes := by
  unfold validateList
  rw [← validateEntries_eq_ok_iff]
  by_cases many : maxListItems < values.length
  · rw [if_pos many]
    constructor
    · intro accepted
      cases accepted
    · intro both
      exact absurd both.1 (Nat.not_le_of_lt many)
  · rw [if_neg many]
    exact ⟨fun accepted => ⟨Nat.le_of_not_lt many, accepted⟩, And.right⟩

theorem CreateAlertRule.validate_eq_ok_iff (input : CreateAlertRule) :
    input.validate = .ok () ↔ AdmittedRule input := by
  constructor
  · intro accepted
    rcases (bind_eq_ok_iff _ _ _).mp accepted with ⟨_, name, accepted⟩
    rcases (bind_eq_ok_iff _ _ _).mp accepted with ⟨_, query, accepted⟩
    rcases (bind_eq_ok_iff _ _ _).mp accepted with ⟨_, model, accepted⟩
    rcases (bind_eq_ok_iff _ _ _).mp accepted with ⟨_, threshold, accepted⟩
    rcases (bind_eq_ok_iff _ _ _).mp accepted with ⟨_, sources, channels⟩
    have inside := Bool.or_eq_false_iff.mp ((refuseIf_eq_ok_iff _ _).mp threshold)
    have sourceParts := (validateList_eq_ok_iff _).mp sources
    have channelParts := (validateList_eq_ok_iff _).mp channels
    exact ⟨(validateText_eq_ok_iff _ _).mp name, (validateText_eq_ok_iff _ _).mp query,
      (validateText_eq_ok_iff _ _).mp model, by simpa using inside.1, by simpa using inside.2,
      sourceParts.1, sourceParts.2, channelParts.1, channelParts.2⟩
  · intro admitted
    refine (bind_eq_ok_iff _ _ _).mpr ⟨(), (validateText_eq_ok_iff _ _).mpr admitted.name, ?_⟩
    refine (bind_eq_ok_iff _ _ _).mpr ⟨(), (validateText_eq_ok_iff _ _).mpr admitted.queryText, ?_⟩
    refine (bind_eq_ok_iff _ _ _).mpr
      ⟨(), (validateText_eq_ok_iff _ _).mpr admitted.embeddingModel, ?_⟩
    refine (bind_eq_ok_iff _ _ _).mpr ⟨(), by simp [admitted.finite, admitted.unit], ?_⟩
    exact (bind_eq_ok_iff _ _ _).mpr
      ⟨(), (validateList_eq_ok_iff _).mpr ⟨admitted.sourceCount, admitted.sources⟩,
        (validateList_eq_ok_iff _).mpr ⟨admitted.channelCount, admitted.channels⟩⟩

end EmbeddedAlerts
