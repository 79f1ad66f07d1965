import EmbeddedAlerts.Library.Json
import EmbeddedAlerts.Library.Ranking
import EmbeddedAlerts.Model.Alert
import EmbeddedAlerts.Auth.Boundary

namespace EmbeddedAlerts

/-!
# The alert store and its two backends

With a database the store is the table `eal_alert_rules`; without one it is a
map in memory, keyed by tenant, owner and identifier.  The table is a list of
rows in an order that no query sees, and the map is a list of entries in the
order in which it happens to iterate.

`AlertStore.get` differs between the backends: the map is asked for one key,
whereas the table is read through the bounded list query and searched there.
-/

/-- The instant PostgreSQL counts from, 2000-01-01, in Unix nanoseconds. -/
def postgresEpoch : Int := 946684800 * 10 ^ 9

/-- A `timestamptz` keeps whole microseconds; the driver drops the rest. -/
def toTimestamptz (instant : DateTime) : Int :=
  (instant.nanoseconds - postgresEpoch).tdiv 1000

def ofTimestamptz (microseconds : Int) : DateTime :=
  ⟨microseconds * 1000 + postgresEpoch⟩

/-- One row of `eal_alert_rules`. -/
structure AlertRow where
  id : Uuid
  productTenant : String
  ownerSubject : Uuid
  createdAt : Int
  updatedAt : Int
  name : String
  queryText : String
  embeddingModel : String
  similarityThreshold : F64
  sourceFilters : Json
  deliveryChannels : Json
  enabled : Bool

/-- `length(text) BETWEEN 1 AND max`, which counts characters. -/
def lengthWithin (max : Nat) (text : String) : Bool :=
  decide (1 ≤ text.length ∧ text.length ≤ max)

def Json.isArray : Json -> Bool
  | .array _ => true
  | _ => false

/-- `value >= 0 AND value <= 1` on double precision. -/
def F64.inUnitInterval (number : F64) : Bool :=
  decide (number.exponent.val = 0 ∧ number.fraction.val = 0) ||
    (!number.negative && decide (number.exponent.val < 1023 ∨
      number.exponent.val = 1023 ∧ number.fraction.val = 0))

/-- The CHECK constraints of `eal_alert_rules`. -/
def AlertRow.checks (row : AlertRow) : Bool :=
  lengthWithin 64 row.productTenant && lengthWithin 160 row.name &&
    lengthWithin 8192 row.queryText && lengthWithin 128 row.embeddingModel &&
    row.similarityThreshold.inUnitInterval && row.sourceFilters.isArray &&
    row.deliveryChannels.isArray

inductive StoreError where
  | unavailable
  | invalidRecord
deriving DecidableEq

/-! ## Reading -/

/-- `serde_json::from_value::<Vec<String>>`. -/
def decodeStrings : Json -> Option (List String)
  | .array items => items.mapM (fun item =>
      match item with
      | .string text => some text
      | _ => none)
  | _ => none

def decodeAlert (row : AlertRow) : Except StoreError AlertRule :=
  match decodeStrings row.sourceFilters, decodeStrings row.deliveryChannels with
  | some sourceFilters, some deliveryChannels =>
      .ok { id := row.id
            createdAt := ofTimestamptz row.createdAt
            updatedAt := ofTimestamptz row.updatedAt
            name := row.name
            queryText := row.queryText
            embeddingModel := row.embeddingModel
            similarityThreshold := row.similarityThreshold.narrow
            sourceFilters := sourceFilters
            deliveryChannels := deliveryChannels
            enabled := row.enabled }
  | _, _ => .error .invalidRecord

/-- `WHERE product_tenant = $1 AND owner_subject = $2`. -/
def AlertRow.owned (actor : VerifiedActor) (row : AlertRow) : Bool :=
  decide (row.productTenant = actor.productTenant) && decide (row.ownerSubject = actor.subject)

/-- `ORDER BY updated_at DESC, id`. -/
def AlertRow.order (left right : AlertRow) : Prop :=
  right.updatedAt < left.updatedAt ∨ left.updatedAt = right.updatedAt ∧ left.id ≤ right.id

instance : DecidableRel AlertRow.order :=
  fun left right => inferInstanceAs (Decidable
    (right.updatedAt < left.updatedAt ∨ left.updatedAt = right.updatedAt ∧ left.id ≤ right.id))

def directAlertsLimit : Nat := 100

/-- `DIRECT_ALERTS_SQL`. -/
def directAlerts (rows : List AlertRow) (actor : VerifiedActor) : List AlertRow :=
  Ranking.top AlertRow.order directAlertsLimit (rows.filter (AlertRow.owned actor))

def readAlerts (rows : List AlertRow) (actor : VerifiedActor) :
    Except StoreError (List AlertRule) :=
  (directAlerts rows actor).mapM decodeAlert

/-- The key of the in-memory map. -/
structure AlertKey where
  productTenant : String
  owner : Uuid
  id : Uuid
deriving DecidableEq

/-- The table, or the in-memory map by its entries.  A `HashMap` keeps them in an
order of its own, which an insert may change, so the list fixes nothing but the
entries. -/
inductive AlertStore where
  | database (rows : List AlertRow)
  | fallback (entries : List (AlertKey × AlertRule))

inductive Backend where
  | database
  | fallback
deriving DecidableEq

namespace AlertStore

def new : Backend -> AlertStore
  | .database => .database []
  | .fallback => .fallback []

def backend : AlertStore -> Backend
  | .database _ => .database
  | .fallback _ => .fallback

/-- The map filter of the fallback list. -/
def ownedEntry (actor : VerifiedActor) (entry : AlertKey × AlertRule) : Bool :=
  decide (entry.1.productTenant = actor.productTenant) && decide (entry.1.owner = actor.subject)

def list (store : AlertStore) (actor : VerifiedActor) : Except StoreError (List AlertRule) :=
  match store with
  | .database rows => readAlerts rows actor
  | .fallback entries => .ok ((entries.filter (ownedEntry actor)).map Prod.snd)

def get (store : AlertStore) (actor : VerifiedActor) (id : Uuid) :
    Except StoreError (Option AlertRule) :=
  match store with
  | .database rows => do
      let alerts ← list (.database rows) actor
      pure (alerts.find? (fun alert => decide (alert.id = id)))
  | .fallback entries => .ok (entries.lookup ⟨actor.productTenant, actor.subject, id⟩)

/-! ## Writing -/

/-- The parameters of `INSERT_ALERT_SQL`, as the columns hold them. -/
def alertRow (actor : VerifiedActor) (alert : AlertRule) : AlertRow where
  id := alert.id
  productTenant := actor.productTenant
  ownerSubject := actor.subject
  createdAt := toTimestamptz alert.createdAt
  updatedAt := toTimestamptz alert.updatedAt
  name := alert.name
  queryText := alert.queryText
  embeddingModel := alert.embeddingModel
  similarityThreshold := alert.similarityThreshold.widen
  sourceFilters := .array (alert.sourceFilters.map Json.string)
  deliveryChannels := .array (alert.deliveryChannels.map Json.string)
  enabled := alert.enabled

/-- The insert fails on a repeated primary key or a violated CHECK. -/
def insertAlert (rows : List AlertRow) (row : AlertRow) : Except StoreError (List AlertRow) :=
  if rows.any (fun other => decide (other.id = row.id)) || !row.checks then .error .unavailable
  else .ok (rows ++ [row])

/-- The same table, or the same map in another order of its entries. -/
inductive Rearranged : AlertStore -> AlertStore -> Prop
  | database {rows : List AlertRow} : Rearranged (.database rows) (.database rows)
  | fallback {entries others : List (AlertKey × AlertRule)} : entries.Perm others ->
      Rearranged (.fallback entries) (.fallback others)

/-- `HashMap::insert`: an entry under the same key is replaced.  Where the new
one stands is not promised. -/
def insertEntry (entries : List (AlertKey × AlertRule)) (key : AlertKey) (alert : AlertRule) :
    List (AlertKey × AlertRule) :=
  entries.filter (fun entry => decide (entry.1 ≠ key)) ++ [(key, alert)]

/-- `id` and `now` are what `Uuid::new_v4` and `Utc::now` return. -/
def create (store : AlertStore) (actor : VerifiedActor) (input : CreateAlertRule)
    (id : Uuid) (now : DateTime) : Except StoreError (AlertStore × AlertRule) :=
  match input.validate with
  | .error _ => .error .invalidRecord
  | .ok _ =>
      let alert := input.intoRule id now
      match store with
      | .database rows =>
          match insertAlert rows (alertRow actor alert) with
          | .error failure => .error failure
          | .ok stored => .ok (.database stored, alert)
      | .fallback entries =>
          .ok (.fallback (insertEntry entries ⟨actor.productTenant, actor.subject, alert.id⟩ alert),
            alert)

end AlertStore

/-! ## One lemma for each operation -/

open AlertStore

/-- The alert that a row of the table stands for: what is read back. -/
def storedForm (alert : AlertRule) : AlertRule :=
  { alert with
    createdAt := ofTimestamptz (toTimestamptz alert.createdAt)
    updatedAt := ofTimestamptz (toTimestamptz alert.updatedAt)
    similarityThreshold := alert.similarityThreshold.widen.narrow }

@[simp] theorem storedForm_id (alert : AlertRule) : (storedForm alert).id = alert.id := rfl

theorem decodeStrings_array (texts : List String) :
    decodeStrings (.array (texts.map Json.string)) = some texts := by
  simp only [decodeStrings, List.mapM_map]
  induction texts with
  | nil => rfl
  | cons head tail ih =>
      rw [List.mapM_cons, ih]
      rfl

@[simp] theorem decodeAlert_alertRow (actor : VerifiedActor) (alert : AlertRule) :
    decodeAlert (alertRow actor alert) = .ok (storedForm alert) := by
  simp only [decodeAlert, alertRow, decodeStrings_array]
  rfl

instance : Std.Total AlertRow.order :=
  ⟨fun left right => by
    unfold AlertRow.order
    rcases lt_trichotomy left.updatedAt right.updatedAt with earlier | same | later
    · exact Or.inr (Or.inl earlier)
    · rcases le_total left.id right.id with below | above
      · exact Or.inl (Or.inr ⟨same, below⟩)
      · exact Or.inr (Or.inr ⟨same.symm, above⟩)
    · exact Or.inl (Or.inl later)⟩

instance : IsTrans AlertRow AlertRow.order :=
  ⟨fun first second third forward onward => by
    unfold AlertRow.order at *
    rcases forward with newer | ⟨same, below⟩
    · rcases onward with newer' | ⟨same', _⟩
      · exact Or.inl (newer'.trans newer)
      · exact Or.inl (same' ▸ newer)
    · rcases onward with newer' | ⟨same', below'⟩
      · exact Or.inl (same ▸ newer')
      · exact Or.inr ⟨same.trans same', below.trans below'⟩⟩

/-- The primary key makes the query's order total on the stored rows. -/
theorem order_separates {rows : List AlertRow} (unique : (rows.map AlertRow.id).Nodup) :
    Ranking.Separates AlertRow.order rows := by
  intro left leftMember right rightMember forward backward
  apply List.inj_on_of_nodup_map unique leftMember rightMember
  rcases forward with newer | ⟨same, below⟩
  · rcases backward with newer' | ⟨same', _⟩
    · exact absurd newer (not_lt_of_gt newer')
    · exact absurd newer (by rw [same']; exact lt_irrefl _)
  · rcases backward with newer' | ⟨_, above⟩
    · exact absurd newer' (by rw [same]; exact lt_irrefl _)
    · exact le_antisymm below above

theorem owned_of_mem_directAlerts {rows : List AlertRow} {actor : VerifiedActor} {row : AlertRow}
    (member : row ∈ directAlerts rows actor) : row ∈ rows ∧ row.owned actor = true :=
  List.mem_filter.mp (Ranking.mem_of_mem_top AlertRow.order member)

theorem insertAlert_eq_ok_iff (rows next : List AlertRow) (row : AlertRow) :
    insertAlert rows row = .ok next ↔
      (forall other, other ∈ rows -> other.id ≠ row.id) ∧ row.checks = true ∧
        next = rows ++ [row] := by
  have fresh : rows.any (fun other => decide (other.id = row.id)) = false ↔
      forall other, other ∈ rows -> other.id ≠ row.id := by
    simp [List.any_eq_false]
  rw [← fresh]
  unfold insertAlert
  cases rows.any (fun other => decide (other.id = row.id)) <;> cases row.checks <;>
    simp [eq_comm]

theorem create_database_eq_ok_iff (rows : List AlertRow) (next : AlertStore)
    (actor : VerifiedActor) (input : CreateAlertRule) (id : Uuid) (now : DateTime)
    (alert : AlertRule) :
    (AlertStore.database rows).create actor input id now = .ok (next, alert) ↔
      input.validate = .ok () ∧ alert = input.intoRule id now ∧
        (forall row, row ∈ rows -> row.id ≠ id) ∧ (alertRow actor alert).checks = true ∧
        next = .database (rows ++ [alertRow actor alert]) := by
  simp only [AlertStore.create]
  cases input.validate with
  | error message => simp
  | ok value =>
      cases done : insertAlert rows (alertRow actor (input.intoRule id now)) with
      | error failure =>
          constructor
          · intro impossible
            cases impossible
          · rintro ⟨_, rfl, fresh, checked, _⟩
            rw [(insertAlert_eq_ok_iff _ _ _).mpr ⟨fresh, checked, rfl⟩] at done
            cases done
      | ok stored =>
          rcases (insertAlert_eq_ok_iff _ _ _).mp done with ⟨fresh, checked, rfl⟩
          constructor
          · intro finished
            cases finished
            exact ⟨rfl, rfl, fresh, checked, rfl⟩
          · rintro ⟨_, rfl, _, _, rfl⟩
            rfl

theorem create_fallback_eq_ok_iff (entries : List (AlertKey × AlertRule)) (next : AlertStore)
    (actor : VerifiedActor) (input : CreateAlertRule) (id : Uuid) (now : DateTime)
    (alert : AlertRule) :
    (AlertStore.fallback entries).create actor input id now = .ok (next, alert) ↔
      input.validate = .ok () ∧ alert = input.intoRule id now ∧
        next = .fallback (insertEntry entries
          ⟨actor.productTenant, actor.subject, alert.id⟩ alert) := by
  simp only [AlertStore.create]
  cases input.validate with
  | error message => simp
  | ok value =>
      constructor
      · intro finished
        cases finished
        exact ⟨rfl, rfl, rfl⟩
      · rintro ⟨_, rfl, rfl⟩
        rfl

end EmbeddedAlerts
