import EmbeddedAlerts.Library.SqlCondition
import EmbeddedAlerts.Server.Isolation

namespace EmbeddedAlerts

/-!
# Direct reads of the web server

The web server reads `eal_alert_rules` directly, as the role `__eal_web_ro`.
The migration lets this role select and nothing else, and a policy of the table
shows it only the rows of the owner that is named by two settings of its
session.  The policy applies to every query, whatever the query asks for.

The settings may be missing, and the one for the owner may be no identifier.
Then the condition of a row is unknown or its evaluation fails.  PostgreSQL
evaluates the two parts of the condition in an order of its own, and may cast
the setting already while it plans, so a query with a malformed owner fails or
sees nothing.
-/

namespace DirectRead

/-- `current_setting('eal.product_tenant', true)` and
`current_setting('eal.owner_subject', true)`. -/
structure Settings where
  productTenant : Option String
  ownerSubject : Option String

/-- What PostgreSQL decides: how it reads a `uuid`, whether it casts the
setting while it plans, and in which order it evaluates the condition of a
row. -/
structure Evaluation where
  castUuid : String -> Option Uuid
  castsFirst : Bool
  swapped : AlertRow -> Bool

inductive SqlError where
  | invalidText
  | permissionDenied
deriving DecidableEq

inductive Privilege where
  | select
  | insert
  | update
  | delete
  | truncate
  | references
  | trigger
deriving DecidableEq

/-- `REVOKE ALL`, then `GRANT SELECT`. -/
def webPrivileges (before : List Privilege) : List Privilege :=
  before.filter (fun _ => false) ++ [.select]

def castOwner (evaluation : Evaluation) (settings : Settings) :
    Except SqlError (Option Uuid) :=
  match settings.ownerSubject with
  | none => .ok none
  | some text =>
      match evaluation.castUuid text with
      | some subject => .ok (some subject)
      | none => .error .invalidText

/-- The policy `eal_web_owner_read`. -/
def webOwnerRead (evaluation : Evaluation) (settings : Settings) (row : AlertRow) :
    Except SqlError Sql.Truth :=
  Sql.conjunction (evaluation.swapped row)
    (.ok (Sql.equal (some row.productTenant) settings.productTenant))
    ((castOwner evaluation settings).map (Sql.equal (some row.ownerSubject)))

/-- The rows that a query of the role sees. -/
def visibleRows (evaluation : Evaluation) (settings : Settings) (rows : List AlertRow) :
    Except SqlError (List AlertRow) :=
  match evaluation.castsFirst, castOwner evaluation settings with
  | true, .error failure => .error failure
  | _, _ => Sql.select (webOwnerRead evaluation settings) rows

/-- A statement of the role on the table: a query of any kind, or a change of
any kind. -/
inductive Statement (α : Type) where
  | query (ask : List AlertRow -> α)
  | change (privilege : Privilege) (edit : List AlertRow -> List AlertRow)

/-- The answer and the table after the statement.  A change has no answer. -/
def execute {α : Type} (evaluation : Evaluation) (settings : Settings)
    (privileges : List Privilege) (rows : List AlertRow) :
    Statement α -> Except SqlError (Option α) × List AlertRow
  | .query ask =>
      if privileges.contains .select then
        ((visibleRows evaluation settings rows).map (fun visible => some (ask visible)), rows)
      else (.error .permissionDenied, rows)
  | .change privilege edit =>
      if privilege ≠ .select ∧ privileges.contains privilege then (.ok none, edit rows)
      else (.error .permissionDenied, rows)

/-! ## What the policy shows -/

/-- The actor that the settings name. -/
def Settings.actor (settings : Settings) (evaluation : Evaluation) : Option VerifiedActor := do
  let tenant <- settings.productTenant
  let text <- settings.ownerSubject
  let subject <- evaluation.castUuid text
  return ⟨subject, tenant⟩

/-- The rows of the actor that the settings name, and none if they name no
one. -/
def Settings.ownRows (settings : Settings) (evaluation : Evaluation) (rows : List AlertRow) :
    List AlertRow :=
  rows.filter (fun row => (settings.actor evaluation).any (fun actor => row.owned actor))

/-- The owner is not set, or is an identifier. -/
def Settings.WellFormed (settings : Settings) (evaluation : Evaluation) : Prop :=
  forall text, settings.ownerSubject = some text -> (evaluation.castUuid text).isSome = true

section

variable {evaluation : Evaluation} {settings : Settings} {rows : List AlertRow}

theorem webOwnerRead_eq_true_iff (row : AlertRow) :
    webOwnerRead evaluation settings row = .ok (some true) ↔
      (settings.actor evaluation).any (fun actor => row.owned actor) = true := by
  rw [webOwnerRead, Sql.conjunction_eq_true_iff, Except.ok.injEq, Sql.equal_eq_true_iff]
  rcases settings with ⟨tenant, owner⟩
  cases owner with
  | none => cases tenant <;> simp [castOwner, Settings.actor, Except.map, Sql.equal]
  | some text =>
      cases cast : evaluation.castUuid text with
      | none => cases tenant <;> simp [castOwner, Settings.actor, Except.map, cast]
      | some subject =>
          cases tenant with
          | none => simp [Settings.actor]
          | some name =>
              simp [castOwner, Settings.actor, Except.map, cast, Sql.equal, AlertRow.owned]
              exact fun _ => eq_comm

theorem visibleRows_eq_ownRows {visible : List AlertRow}
    (answered : visibleRows evaluation settings rows = .ok visible) :
    visible = settings.ownRows evaluation rows := by
  unfold visibleRows at answered
  split at answered
  · cases answered
  · exact Sql.select_eq_filter webOwnerRead_eq_true_iff answered

/-- With settings that are well formed no query fails. -/
theorem visibleRows_of_wellFormed (wellFormed : settings.WellFormed evaluation) :
    visibleRows evaluation settings rows = .ok (settings.ownRows evaluation rows) := by
  have cast : Exists fun subject => castOwner evaluation settings = .ok subject := by
    unfold castOwner
    cases owner : settings.ownerSubject with
    | none => exact ⟨none, rfl⟩
    | some text =>
        rcases Option.isSome_iff_exists.mp (wellFormed text owner) with ⟨subject, found⟩
        exact ⟨some subject, by simp only [found]⟩
  rcases cast with ⟨subject, cast⟩
  have quiet : forall row, Exists fun truth => webOwnerRead evaluation settings row = .ok truth := by
    intro row
    rw [webOwnerRead, cast]
    exact Sql.conjunction_ok
  rcases Sql.select_ok quiet rows with ⟨visible, selected⟩
  have answered : visibleRows evaluation settings rows = .ok visible := by
    unfold visibleRows
    rw [cast]
    cases evaluation.castsFirst <;> exact selected
  rw [answered, visibleRows_eq_ownRows answered]

theorem ownRows_of_actor {actor : VerifiedActor} (named : settings.actor evaluation = some actor) :
    settings.ownRows evaluation rows = rows.filter (AlertRow.owned actor) := by
  rw [Settings.ownRows, named]
  rfl

theorem wellFormed_of_actor {actor : VerifiedActor}
    (named : settings.actor evaluation = some actor) : settings.WellFormed evaluation := by
  intro text owner
  rcases Option.bind_eq_some_iff.mp named with ⟨tenant, _, named⟩
  rcases Option.bind_eq_some_iff.mp named with ⟨same, given, named⟩
  rcases Option.bind_eq_some_iff.mp named with ⟨subject, cast, _⟩
  cases owner.symm.trans given
  rw [cast]
  rfl

theorem owned_unique {actor other : VerifiedActor} {row : AlertRow}
    (first : row.owned actor = true) (second : row.owned other = true) : actor = other := by
  rcases actor with ⟨subject, tenant⟩
  rcases other with ⟨otherSubject, otherTenant⟩
  simp only [AlertRow.owned, Bool.and_eq_true, decide_eq_true_eq] at first second
  rw [← first.1, ← first.2, ← second.1, ← second.2]

/-- The fixed query of the web server, on the rows that it sees. -/
theorem directAlerts_ownRows (actor : VerifiedActor) :
    directAlerts (settings.ownRows evaluation rows) actor =
      if settings.actor evaluation = some actor then directAlerts rows actor else [] := by
  unfold directAlerts
  by_cases named : settings.actor evaluation = some actor
  · rw [if_pos named, ownRows_of_actor named, List.filter_filter]
    simp only [Bool.and_self]
  · have none : (settings.ownRows evaluation rows).filter (AlertRow.owned actor) = [] := by
      rw [List.filter_eq_nil_iff]
      intro row member owned
      apply named
      have visible := (List.mem_filter.mp member).2
      cases found : settings.actor evaluation with
      | none =>
          rw [found] at visible
          cases visible
      | some other =>
          rw [found] at visible
          exact congrArg some (owned_unique visible owned)
    rw [if_neg named, none]
    rfl

theorem execute_webPrivileges {α : Type} (before : List Privilege) (ask : List AlertRow -> α) :
    execute evaluation settings (webPrivileges before) rows (.query ask) =
      ((visibleRows evaluation settings rows).map (fun visible => some (ask visible)), rows) := by
  apply if_pos
  rw [webPrivileges, List.contains_iff_mem]
  exact List.mem_append_right _ (List.mem_singleton_self _)

theorem execute_kept {α : Type} (before : List Privilege) (statement : Statement α) :
    (execute evaluation settings (webPrivileges before) rows statement).2 = rows := by
  cases statement with
  | query ask => rw [execute_webPrivileges]
  | change privilege edit =>
      have refused : ¬(privilege ≠ .select ∧ (webPrivileges before).contains privilege = true) := by
        rintro ⟨other, granted⟩
        rw [webPrivileges, List.filter_false, List.nil_append, List.contains_iff_mem,
          List.mem_singleton] at granted
        exact other granted
      rw [execute, if_neg refused]

end

/-- In every state of the server, whatever the web server asks and however its
settings are: it changes nothing, it sees nothing but the alerts that were
created by the actor whom its settings name, and its fixed query has the answer
of the API for that actor and is empty for everyone else.  No query fails unless
the owner is set to something that is no identifier. -/
theorem web_role_confined (config : ServiceConfig) (server : Server)
    (reached : Server.Reachable config server) (durable : server.backend = .database)
    (before : List Privilege) (evaluation : Evaluation) (settings : Settings) :
    (forall (α : Type) (statement : Statement α),
      (execute evaluation settings (webPrivileges before) server.transport.database.alerts
        statement).2 = server.transport.database.alerts) ∧
    (forall (α : Type) (ask : List AlertRow -> α) (answer : Option α),
      (execute evaluation settings (webPrivileges before) server.transport.database.alerts
        (.query ask)).1 = .ok answer ->
      Exists fun visible => answer = some (ask visible) ∧
        visible = settings.ownRows evaluation server.transport.database.alerts ∧
        forall row, row ∈ visible -> Exists fun actor => Exists fun alert =>
          settings.actor evaluation = some actor ∧ (actor, alert) ∈ server.created ∧
          row = AlertStore.alertRow actor alert) ∧
    (settings.WellFormed evaluation -> forall actor,
      (execute evaluation settings (webPrivileges before) server.transport.database.alerts
        (.query (fun visible => (directAlerts visible actor).mapM decodeAlert))).1 =
      .ok (some (if settings.actor evaluation = some actor then server.store.list actor
        else .ok []))) := by
  refine ⟨fun α statement => execute_kept before statement, ?_, ?_⟩
  · intro α ask answer answered
    rw [execute_webPrivileges] at answered
    cases seen : visibleRows evaluation settings server.transport.database.alerts with
    | error failure =>
        rw [seen] at answered
        cases answered
    | ok visible =>
        rw [seen] at answered
        cases answered
        refine ⟨visible, rfl, visibleRows_eq_ownRows seen, ?_⟩
        intro row member
        rw [visibleRows_eq_ownRows seen] at member
        rcases List.mem_filter.mp member with ⟨stored, shown⟩
        have logged := reached.isolated.table durable row stored
        rcases List.mem_map.mp logged with ⟨⟨owner, alert⟩, created, rfl⟩
        cases named : settings.actor evaluation with
        | none =>
            rw [named] at shown
            cases shown
        | some actor =>
            rw [named] at shown
            have same : owner = actor := by
              have owned : (loggedRow (owner, alert)).owned actor = true := shown
              rw [owned_loggedRow] at owned
              exact of_decide_eq_true owned
            exact ⟨actor, alert, rfl, same ▸ created, by rw [← same]; rfl⟩
  · intro wellFormed actor
    rw [execute_webPrivileges, visibleRows_of_wellFormed wellFormed, Except.map,
      directAlerts_ownRows]
    by_cases named : settings.actor evaluation = some actor
    · rw [if_pos named, if_pos named, Server.store, durable]
      rfl
    · rw [if_neg named, if_neg named]
      rfl

/-- PostgreSQL reads the text of an identifier as it was written. -/
def sampleEvaluation : Evaluation := ⟨Uuid.parseStr, true, fun _ => false⟩

def sampleSettings : Settings :=
  ⟨some "embedded-alerts", some "00000000-0000-4000-8000-000000000001"⟩

theorem twoOwners_stored : (sampleServer .database).map (fun server =>
      (server.backend, server.transport.database.alerts.map AlertRow.id)) =
    some (.database, [sampleId 0xd1, sampleId 0xd2]) := by
  decide +kernel

theorem twoOwners_read_directly : Exists fun server =>
    Server.Reachable sampleService server ∧
    server.transport.database.alerts.map AlertRow.id = [sampleId 0xd1, sampleId 0xd2] ∧
    (execute sampleEvaluation sampleSettings (webPrivileges [.insert])
      server.transport.database.alerts (.query (fun visible =>
        (directAlerts visible ⟨sampleId 1, "embedded-alerts"⟩).mapM decodeAlert))).1 =
      .ok (some (server.store.list ⟨sampleId 1, "embedded-alerts"⟩)) := by
  rcases Option.map_eq_some_iff.mp twoOwners_stored with ⟨server, done, shown⟩
  rcases Prod.mk.inj shown with ⟨durable, stored⟩
  have reached : Server.Reachable sampleService server :=
    Runs.Reachable.execute (fun _ _ _ => trivial) (.start ⟨.database, rfl⟩) done
  have named : sampleSettings.actor sampleEvaluation = some ⟨sampleId 1, "embedded-alerts"⟩ := by
    decide +kernel
  have confined := web_role_confined sampleService server reached durable [.insert]
    sampleEvaluation sampleSettings
  refine ⟨server, reached, stored, ?_⟩
  rw [confined.2.2 (wellFormed_of_actor named) ⟨sampleId 1, "embedded-alerts"⟩, if_pos named]

end DirectRead

end EmbeddedAlerts
