import EmbeddedAlerts.Library.UniqueKeys
import EmbeddedAlerts.Store.History

namespace EmbeddedAlerts

open AlertStore

/-!
# What a store shows to an owner

Two views of one property.  Seen from a run, every alert that a list or a
fetch returns was created by the actor who asks.  Seen from two states, the
answers to an actor do not depend on anybody else's alerts: the ownership
predicate is applied before the order and the limit, in the query as well as
in the map.
-/

/-! ## Provenance -/

/-- An alert that this actor created, as the call returned it or as the table
gives it back. -/
def CreatedBy (log : List (VerifiedActor × AlertRule)) (actor : VerifiedActor)
    (alert : AlertRule) : Prop :=
  Exists fun created => (actor, created) ∈ log ∧ (alert = created ∨ alert = storedForm created)

theorem CreatedBy.mono {log later : List (VerifiedActor × AlertRule)} {actor : VerifiedActor}
    {alert : AlertRule} (created : CreatedBy log actor alert) (grows : log ⊆ later) :
    CreatedBy later actor alert := by
  rcases created with ⟨original, member, same⟩
  exact ⟨original, grows member, same⟩

/-- The store holds nothing but logged alerts. -/
def AlertStore.Within (log : List (VerifiedActor × AlertRule)) : AlertStore -> Prop
  | .database rows => forall row, row ∈ rows -> row ∈ log.map loggedRow
  | .fallback entries => forall entry, entry ∈ entries -> entry ∈ log.map loggedEntry

namespace AlertStore.Within

variable {log : List (VerifiedActor × AlertRule)} {store next : AlertStore}
  {actor : VerifiedActor}

theorem list (within : store.Within log) {listed : List AlertRule}
    (answer : store.list actor = .ok listed) {alert : AlertRule} (member : alert ∈ listed) :
    CreatedBy log actor alert := by
  cases store with
  | database rows =>
      rcases Fallible.exists_of_mem_mapM answer member with ⟨row, selected, decoded⟩
      rcases owned_of_mem_directAlerts selected with ⟨present, owned⟩
      rcases List.mem_map.mp (within row present) with ⟨entry, logged, rfl⟩
      rw [owned_loggedRow] at owned
      rw [loggedRow, decodeAlert_alertRow] at decoded
      cases decoded
      rw [← of_decide_eq_true owned]
      exact ⟨entry.2, logged, Or.inr rfl⟩
  | fallback entries =>
      cases answer
      rcases List.mem_map.mp member with ⟨stored, selected, rfl⟩
      rcases List.mem_filter.mp selected with ⟨present, owned⟩
      rcases List.mem_map.mp (within stored present) with ⟨entry, logged, rfl⟩
      rw [owned_loggedEntry] at owned
      rw [← of_decide_eq_true owned]
      exact ⟨entry.2, logged, Or.inl rfl⟩

theorem get (within : store.Within log) {id : Uuid} {alert : AlertRule}
    (answer : store.get actor id = .ok (some alert)) : CreatedBy log actor alert := by
  cases store with
  | database rows =>
      rcases (Fallible.bind_eq_ok_iff _ _ _).mp answer with ⟨listed, answered, found⟩
      have member := List.mem_of_find?_eq_some (Except.ok.inj found)
      exact within.list answered member
  | fallback entries =>
      rcases List.lookup_eq_some_iff.mp (Except.ok.inj answer) with ⟨front, back, split, _⟩
      have present : ((⟨actor.productTenant, actor.subject, id⟩ : AlertKey), alert) ∈ entries := by
        rw [split]
        exact List.mem_append_right _ List.mem_cons_self
      rcases List.mem_map.mp (within _ present) with ⟨entry, logged, equal⟩
      rcases Prod.mk.inj equal with ⟨keys, same⟩
      rcases AlertKey.mk.inj keys with ⟨tenant, subject, _⟩
      rcases entry with ⟨⟨_, _⟩, created⟩
      rcases actor with ⟨_, _⟩
      subst tenant subject same
      exact ⟨created, logged, Or.inl rfl⟩

theorem create (within : store.Within log) {input : CreateAlertRule} {id : Uuid}
    {now : DateTime} {alert : AlertRule}
    (done : store.create actor input id now = .ok (next, alert)) :
    next.Within (log ++ [(actor, alert)]) := by
  cases store with
  | database rows =>
      rcases (create_database_eq_ok_iff _ _ _ _ _ _ _).mp done with ⟨_, _, _, _, rfl⟩
      intro row member
      rw [List.map_append]
      rcases List.mem_append.mp member with earlier | last
      · exact List.mem_append_left _ (within row earlier)
      · exact List.mem_append_right _ last
  | fallback entries =>
      rcases (create_fallback_eq_ok_iff _ _ _ _ _ _ _).mp done with ⟨_, _, rfl⟩
      intro entry member
      rw [List.map_append]
      rcases List.mem_append.mp member with kept | last
      · exact List.mem_append_left _ (within entry (List.mem_filter.mp kept).1)
      · exact List.mem_append_right _ last

end AlertStore.Within

/-! ## Independence of other owners -/

/-- Two states of one backend agree on the alerts of an actor.  The table has
its primary key and the map its keys. -/
inductive AlertStore.SameFor (actor : VerifiedActor) : AlertStore -> AlertStore -> Prop
  | database {left right : List AlertRow} :
      (left.map AlertRow.id).Nodup -> (right.map AlertRow.id).Nodup ->
      (left.filter (AlertRow.owned actor)).Perm (right.filter (AlertRow.owned actor)) ->
      SameFor actor (.database left) (.database right)
  | fallback {left right : List (AlertKey × AlertRule)} :
      (left.map Prod.fst).Nodup -> (right.map Prod.fst).Nodup ->
      (left.filter (AlertStore.ownedEntry actor)).Perm
        (right.filter (AlertStore.ownedEntry actor)) ->
      SameFor actor (.fallback left) (.fallback right)

/-- Equal answers for the table, equal up to order for the map. -/
def AlertStore.SameAnswers (store : AlertStore)
    (left right : Except StoreError (List AlertRule)) : Prop :=
  match store.backend, left, right with
  | .fallback, .ok leftAlerts, .ok rightAlerts => leftAlerts.Perm rightAlerts
  | _, _, _ => left = right

theorem directAlerts_sameFor {actor : VerifiedActor} {left right : List AlertRow}
    (unique : (left.map AlertRow.id).Nodup)
    (same : (left.filter (AlertRow.owned actor)).Perm (right.filter (AlertRow.owned actor))) :
    directAlerts left actor = directAlerts right actor := by
  apply Ranking.top_eq_of_perm
  · exact order_separates (unique.sublist (List.filter_sublist.map AlertRow.id))
  · exact same

theorem readAlerts_sameFor {actor : VerifiedActor} {left right : List AlertRow}
    (unique : (left.map AlertRow.id).Nodup)
    (same : (left.filter (AlertRow.owned actor)).Perm (right.filter (AlertRow.owned actor))) :
    readAlerts left actor = readAlerts right actor := by
  rw [readAlerts, directAlerts_sameFor unique same, readAlerts]

namespace AlertStore.SameFor

variable {actor : VerifiedActor} {left right : AlertStore}

theorem list (same : SameFor actor left right) :
    left.SameAnswers (left.list actor) (right.list actor) := by
  cases same with
  | database unique _ owned => exact readAlerts_sameFor unique owned
  | fallback _ _ owned => exact owned.map Prod.snd

private theorem mem_iff_of_owned {key : AlertKey} {alert : AlertRule}
    {entries others : List (AlertKey × AlertRule)}
    (owned : (entries.filter (AlertStore.ownedEntry actor)).Perm
      (others.filter (AlertStore.ownedEntry actor)))
    (own : AlertStore.ownedEntry actor (key, alert) = true) :
    (key, alert) ∈ entries ↔ (key, alert) ∈ others := by
  have filtered := owned.mem_iff (a := (key, alert))
  rw [List.mem_filter, List.mem_filter] at filtered
  constructor
  · exact fun member => (filtered.mp ⟨member, own⟩).1
  · exact fun member => (filtered.mpr ⟨member, own⟩).1

theorem get (same : SameFor actor left right) (id : Uuid) :
    left.get actor id = right.get actor id := by
  cases same with
  | database unique _ owned =>
      simp only [AlertStore.get, AlertStore.list, readAlerts_sameFor unique owned]
  | fallback leftUnique rightUnique owned =>
      simp only [AlertStore.get]
      congr 1
      apply Option.ext
      intro alert
      rw [UniqueKeys.lookup_eq_some_iff leftUnique, UniqueKeys.lookup_eq_some_iff rightUnique]
      exact mem_iff_of_owned owned (by simp [AlertStore.ownedEntry])

end AlertStore.SameFor

end EmbeddedAlerts
