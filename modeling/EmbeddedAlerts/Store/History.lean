import EmbeddedAlerts.Store.Alerts

namespace EmbeddedAlerts

open AlertStore

/-!
# Histories of successful creates

A history starts from an empty store and performs any number of successful
`create` calls by any actors.  The log keeps, for each call, the actor and the
alert that the call returned.  Identifiers are fresh, as `Uuid::new_v4`
provides them.

Each backend is a projection of the log: the table holds one row and the map
one entry for every logged alert.  What a fetch returns is then a statement
about the log alone.
-/

/-- Every store reachable by successful creates, with its log. -/
inductive History : AlertStore -> List (VerifiedActor × AlertRule) -> Prop
  | new (backend : Backend) : History (AlertStore.new backend) []
  | create {store next : AlertStore} {log : List (VerifiedActor × AlertRule)}
      {actor : VerifiedActor} {input : CreateAlertRule} {id : Uuid} {now : DateTime}
      {alert : AlertRule} :
      History store log ->
      (forall entry, entry ∈ log -> entry.2.id ≠ id) ->
      store.create actor input id now = .ok (next, alert) ->
      History next (log ++ [(actor, alert)])

/-- The row of a logged alert. -/
def loggedRow (entry : VerifiedActor × AlertRule) : AlertRow :=
  alertRow entry.1 entry.2

/-- The map entry of a logged alert. -/
def loggedEntry (entry : VerifiedActor × AlertRule) : AlertKey × AlertRule :=
  (⟨entry.1.productTenant, entry.1.subject, entry.2.id⟩, entry.2)

/-- The store that a log describes. -/
def AlertStore.Holds (store : AlertStore) (log : List (VerifiedActor × AlertRule)) : Prop :=
  store = .database (log.map loggedRow) ∨ store = .fallback (log.map loggedEntry)

theorem intoRule_id (input : CreateAlertRule) (id : Uuid) (now : DateTime) :
    (input.intoRule id now).id = id := rfl

namespace History

theorem ids_nodup {store : AlertStore} {log : List (VerifiedActor × AlertRule)}
    (history : History store log) : (log.map (fun entry => entry.2.id)).Nodup := by
  induction history with
  | new backend => simp
  | @create store next log actor input id now alert earlier fresh done ih =>
      have created : alert.id = id := by
        cases store with
        | database rows =>
            rcases (create_database_eq_ok_iff _ _ _ _ _ _ _).mp done with ⟨_, rfl, _⟩
            rfl
        | fallback entries =>
            rcases (create_fallback_eq_ok_iff _ _ _ _ _ _ _).mp done with ⟨_, rfl, _⟩
            rfl
      rw [List.map_append, List.nodup_append]
      refine ⟨ih, by simp, ?_⟩
      intro left leftMember right rightMember
      rcases List.mem_map.mp leftMember with ⟨entry, member, rfl⟩
      simp only [List.map_cons, List.map_nil, List.mem_singleton] at rightMember
      rw [rightMember, created]
      exact fresh entry member

/-- A fresh key replaces nothing. -/
theorem insertEntry_logged {log : List (VerifiedActor × AlertRule)} {actor : VerifiedActor}
    {alert : AlertRule} (fresh : forall entry, entry ∈ log -> entry.2.id ≠ alert.id) :
    insertEntry (log.map loggedEntry) ⟨actor.productTenant, actor.subject, alert.id⟩ alert =
      (log ++ [(actor, alert)]).map loggedEntry := by
  have kept : (log.map loggedEntry).filter (fun entry => decide
      (entry.1 ≠ ⟨actor.productTenant, actor.subject, alert.id⟩)) = log.map loggedEntry := by
    apply List.filter_eq_self.mpr
    intro entry member
    rcases List.mem_map.mp member with ⟨logged, present, rfl⟩
    apply decide_eq_true
    intro same
    exact fresh logged present (congrArg AlertKey.id same)
  rw [insertEntry, kept, List.map_append]
  rfl

theorem holds {store : AlertStore} {log : List (VerifiedActor × AlertRule)}
    (history : History store log) : store.Holds log := by
  induction history with
  | new backend =>
      cases backend with
      | database => exact Or.inl rfl
      | fallback => exact Or.inr rfl
  | @create store next log actor input id now alert earlier fresh done ih =>
      rcases ih with rfl | rfl
      · rcases (create_database_eq_ok_iff _ _ _ _ _ _ _).mp done with ⟨_, _, _, _, rfl⟩
        refine Or.inl ?_
        rw [List.map_append]
        rfl
      · rcases (create_fallback_eq_ok_iff _ _ _ _ _ _ _).mp done with ⟨_, rfl, rfl⟩
        exact Or.inr (congrArg AlertStore.fallback (insertEntry_logged fresh))

end History

/-! ## What the list query returns for a logged store -/

theorem owned_loggedRow (actor : VerifiedActor) (entry : VerifiedActor × AlertRule) :
    (loggedRow entry).owned actor = decide (entry.1 = actor) := by
  rcases entry with ⟨⟨subject, tenant⟩, alert⟩
  rcases actor with ⟨otherSubject, otherTenant⟩
  simp only [loggedRow, AlertRow.owned, alertRow, VerifiedActor.mk.injEq, Bool.decide_and]
  exact Bool.and_comm _ _

theorem owned_loggedEntry (actor : VerifiedActor) (entry : VerifiedActor × AlertRule) :
    ownedEntry actor (loggedEntry entry) = decide (entry.1 = actor) := by
  rcases entry with ⟨⟨subject, tenant⟩, alert⟩
  rcases actor with ⟨otherSubject, otherTenant⟩
  simp only [loggedEntry, ownedEntry, VerifiedActor.mk.injEq, Bool.decide_and]
  exact Bool.and_comm _ _

theorem filter_owned_logged (actor : VerifiedActor) (log : List (VerifiedActor × AlertRule)) :
    (log.map loggedRow).filter (AlertRow.owned actor) =
      (log.filter (fun entry => decide (entry.1 = actor))).map loggedRow := by
  rw [List.filter_map]
  congr 1
  apply List.filter_congr
  intro entry _
  exact owned_loggedRow actor entry

/-- Decoding never fails on rows that `create` wrote. -/
theorem mapM_decodeAlert_logged (entries : List (VerifiedActor × AlertRule)) :
    (entries.map loggedRow).mapM decodeAlert =
      .ok (entries.map (fun entry => storedForm entry.2)) := by
  induction entries with
  | nil => rfl
  | cons head tail ih =>
      rw [List.map_cons, List.mapM_cons, ih]
      simp only [loggedRow, decodeAlert_alertRow]
      rfl

/-- The rows a query returns are themselves logged rows. -/
theorem exists_logged_of_sublist {log : List (VerifiedActor × AlertRule)} {rows : List AlertRow}
    (within : forall row, row ∈ rows -> row ∈ log.map loggedRow) :
    Exists fun entries : List (VerifiedActor × AlertRule) =>
      rows = entries.map loggedRow ∧ forall entry, entry ∈ entries -> entry ∈ log := by
  induction rows with
  | nil => exact ⟨[], rfl, by simp⟩
  | cons head tail ih =>
      rcases List.mem_map.mp (within head (by simp)) with ⟨entry, member, rfl⟩
      rcases ih (fun row later => within row (List.mem_cons_of_mem _ later)) with
        ⟨entries, rfl, inside⟩
      refine ⟨entry :: entries, rfl, ?_⟩
      intro other present
      rcases List.mem_cons.mp present with same | later
      · exact same ▸ member
      · exact inside other later

/-- The list query of the database backend: the returned alerts are the
stored forms of logged entries of that actor, and a logged entry is among
them exactly when its row is among the first hundred. -/
theorem list_logged (log : List (VerifiedActor × AlertRule)) (actor : VerifiedActor) :
    Exists fun entries : List (VerifiedActor × AlertRule) =>
      directAlerts (log.map loggedRow) actor = entries.map loggedRow ∧
      (AlertStore.database (log.map loggedRow)).list actor =
        .ok (entries.map (fun entry => storedForm entry.2)) ∧
      forall entry, entry ∈ entries -> entry ∈ log ∧ entry.1 = actor := by
  have within : forall row, row ∈ directAlerts (log.map loggedRow) actor ->
      row ∈ (log.filter (fun entry => decide (entry.1 = actor))).map loggedRow := by
    intro row member
    rw [← filter_owned_logged]
    exact Ranking.mem_of_mem_top AlertRow.order member
  rcases exists_logged_of_sublist within with ⟨entries, rows, inside⟩
  refine ⟨entries, rows, ?_, ?_⟩
  · rw [AlertStore.list, readAlerts, rows, mapM_decodeAlert_logged]
  · intro entry member
    have selected := List.mem_filter.mp (inside entry member)
    exact ⟨selected.1, of_decide_eq_true selected.2⟩

/-! ## Fetching a created alert -/

/-- `other` is listed before `alert`: a later whole microsecond, or the same
one and a smaller identifier. -/
def listedBefore (alert other : AlertRule) : Bool :=
  decide (toTimestamptz alert.updatedAt < toTimestamptz other.updatedAt ∨
    toTimestamptz alert.updatedAt = toTimestamptz other.updatedAt ∧ other.id < alert.id)

/-- How many of the actor's alerts the list query puts before this one. -/
def newerCount (log : List (VerifiedActor × AlertRule)) (actor : VerifiedActor)
    (alert : AlertRule) : Nat :=
  log.countP (fun entry => decide (entry.1 = actor) && listedBefore alert entry.2)

/-- The owner gets the alert, and nobody else gets one of that identifier. -/
def Fetchable (store : AlertStore) (actor : VerifiedActor) (alert : AlertRule) : Prop :=
  (Exists fun fetched => store.get actor alert.id = .ok (some fetched) ∧ fetched.id = alert.id) ∧
    forall other, other ≠ actor -> store.get other alert.id = .ok none

theorem before_loggedRow (entry other : VerifiedActor × AlertRule) :
    Ranking.before AlertRow.order (loggedRow entry) (loggedRow other) =
      listedBefore entry.2 other.2 := by
  unfold Ranking.before AlertRow.order listedBefore
  simp only [loggedRow, alertRow]
  congr 1
  apply propext
  constructor
  · rintro ⟨newer | ⟨same, below⟩, notBack⟩
    · exact Or.inl newer
    · refine Or.inr ⟨same.symm, lt_of_not_ge ?_⟩
      intro above
      exact notBack (Or.inr ⟨same.symm, above⟩)
  · rintro (newer | ⟨same, below⟩)
    · refine ⟨Or.inl newer, ?_⟩
      rintro (older | ⟨same, _⟩)
      · exact absurd newer (not_lt_of_gt older)
      · rw [same] at newer
        exact absurd newer (lt_irrefl _)
    · refine ⟨Or.inr ⟨same.symm, le_of_lt below⟩, ?_⟩
      rintro (older | ⟨_, above⟩)
      · rw [same] at older
        exact absurd older (lt_irrefl _)
      · exact absurd below (not_lt_of_ge above)

theorem loggedRow_ids (log : List (VerifiedActor × AlertRule)) :
    (log.map loggedRow).map AlertRow.id = log.map (fun entry => entry.2.id) := by
  rw [List.map_map]
  rfl

/-- A logged alert is on its owner's list exactly when fewer than a hundred of
the owner's alerts come before it. -/
theorem mem_directAlerts_iff {log : List (VerifiedActor × AlertRule)}
    (unique : (log.map (fun entry => entry.2.id)).Nodup) {actor : VerifiedActor}
    {alert : AlertRule} (member : (actor, alert) ∈ log) :
    alertRow actor alert ∈ directAlerts (log.map loggedRow) actor ↔
      newerCount log actor alert < directAlertsLimit := by
  let mine := log.filter (fun entry => decide (entry.1 = actor))
  have mineUnique : ((mine.map loggedRow).map AlertRow.id).Nodup := by
    rw [loggedRow_ids]
    exact unique.sublist (List.Sublist.map _ List.filter_sublist)
  have present : (actor, alert) ∈ mine :=
    List.mem_filter.mpr ⟨member, decide_eq_true rfl⟩
  have ranked := Ranking.mem_top_iff AlertRow.order (List.Nodup.of_map _ mineUnique)
    (order_separates mineUnique) (List.mem_map_of_mem present) directAlertsLimit
  have counted : (mine.map loggedRow).countP
      (Ranking.before AlertRow.order (loggedRow (actor, alert))) = newerCount log actor alert := by
    rw [List.countP_map, newerCount, List.countP_filter]
    apply List.countP_congr
    intro entry _
    simp only [Function.comp_apply, before_loggedRow, Bool.and_eq_true, and_comm]
  rw [counted] at ranked
  rw [directAlerts, filter_owned_logged]
  exact ranked

/-- A database fetch searches the bounded list, so it succeeds exactly when
the alert is on it; other actors never see the identifier. -/
theorem fetchable_database_iff {log : List (VerifiedActor × AlertRule)}
    (unique : (log.map (fun entry => entry.2.id)).Nodup) {actor : VerifiedActor}
    {alert : AlertRule} (member : (actor, alert) ∈ log) :
    Fetchable (.database (log.map loggedRow)) actor alert ↔
      newerCount log actor alert < directAlertsLimit := by
  have sameEntry : forall entry, entry ∈ log -> entry.2.id = alert.id -> entry = (actor, alert) :=
    fun entry present same => List.inj_on_of_nodup_map unique present member same
  rw [← mem_directAlerts_iff unique member]
  constructor
  · rintro ⟨⟨fetched, got, same⟩, _⟩
    rcases list_logged log actor with ⟨entries, rows, listed, inside⟩
    simp only [AlertStore.get, listed, bind, Except.bind, pure, Except.pure,
      Except.ok.injEq] at got
    have found := List.mem_of_find?_eq_some got
    rcases List.mem_map.mp found with ⟨entry, present, rfl⟩
    have equal := sameEntry entry (inside entry present).1 same
    rw [rows]
    exact List.mem_map.mpr ⟨entry, present, by rw [equal]; rfl⟩
  · intro listedRow
    constructor
    · rcases list_logged log actor with ⟨entries, rows, listed, inside⟩
      rw [rows] at listedRow
      rcases List.mem_map.mp listedRow with ⟨entry, present, sameRow⟩
      have sameId : entry.2.id = alert.id := congrArg AlertRow.id sameRow
      have some : ((entries.map (fun entry => storedForm entry.2)).find?
          (fun other => decide (other.id = alert.id))).isSome = true := by
        rw [List.find?_isSome]
        exact ⟨storedForm entry.2, List.mem_map_of_mem present, decide_eq_true sameId⟩
      rcases Option.isSome_iff_exists.mp some with ⟨fetched, found⟩
      have matched := List.find?_some found
      refine ⟨fetched, ?_, by simpa using matched⟩
      simp only [AlertStore.get, listed, bind, Except.bind, pure, Except.pure, found]
    · intro other different
      rcases list_logged log other with ⟨entries, rows, listed, inside⟩
      have none : (entries.map (fun entry => storedForm entry.2)).find?
          (fun fetched => decide (fetched.id = alert.id)) = none := by
        apply List.find?_eq_none.mpr
        intro fetched present equal
        rcases List.mem_map.mp present with ⟨entry, entryPresent, rfl⟩
        have entryLogged := inside entry entryPresent
        have equalEntry := sameEntry entry entryLogged.1 (of_decide_eq_true equal)
        rw [equalEntry] at entryLogged
        exact different entryLogged.2.symm
      simp only [AlertStore.get, listed, bind, Except.bind, pure, Except.pure, none]

/-- The map is asked for the one key, so its fetch always succeeds. -/
theorem fetchable_fallback {log : List (VerifiedActor × AlertRule)}
    (unique : (log.map (fun entry => entry.2.id)).Nodup) {actor : VerifiedActor}
    {alert : AlertRule} (member : (actor, alert) ∈ log) :
    Fetchable (.fallback (log.map loggedEntry)) actor alert := by
  have sameEntry : forall entry, entry ∈ log -> entry.2.id = alert.id -> entry = (actor, alert) :=
    fun entry present same => List.inj_on_of_nodup_map unique present member same
  have lookedUp : forall other : VerifiedActor, forall found : AlertRule,
      (log.map loggedEntry).lookup ⟨other.productTenant, other.subject, alert.id⟩ = some found ->
        found = alert ∧ other = actor := by
    intro other found looked
    rcases List.lookup_eq_some_iff.mp looked with ⟨front, back, split, _⟩
    have present : ((⟨other.productTenant, other.subject, alert.id⟩ : AlertKey), found) ∈
        log.map loggedEntry := by
      rw [split]
      simp
    rcases List.mem_map.mp present with ⟨entry, entryPresent, equal⟩
    have keys := congrArg Prod.fst equal
    have equalEntry := sameEntry entry entryPresent (congrArg AlertKey.id keys)
    subst equalEntry
    refine ⟨(congrArg Prod.snd equal).symm, ?_⟩
    have tenants := congrArg AlertKey.productTenant keys
    have owners := congrArg AlertKey.owner keys
    cases other
    cases actor
    simp only [loggedEntry] at tenants owners
    rw [tenants, owners]
  constructor
  · cases looked : (log.map loggedEntry).lookup ⟨actor.productTenant, actor.subject, alert.id⟩ with
    | none =>
        have absent := List.lookup_eq_none_iff.mp looked _ (List.mem_map_of_mem member)
        simp [loggedEntry] at absent
    | some found =>
        exact ⟨found, congrArg Except.ok looked, congrArg AlertRule.id (lookedUp actor found looked).1⟩
  · intro other different
    cases looked : (log.map loggedEntry).lookup ⟨other.productTenant, other.subject, alert.id⟩ with
    | none => exact congrArg Except.ok looked
    | some found => exact absurd (lookedUp other found looked).2 different

/-- A created alert can be fetched by its owner, and by nobody else, exactly
when the store is the in-memory map or fewer than a hundred of the owner's
alerts are listed before it. -/
theorem created_alert_fetchable_iff {store : AlertStore}
    {log : List (VerifiedActor × AlertRule)} (history : History store log)
    {actor : VerifiedActor} {alert : AlertRule} (member : (actor, alert) ∈ log) :
    Fetchable store actor alert ↔
      store.backend = .fallback ∨ newerCount log actor alert < 100 := by
  rcases history.holds with rfl | rfl
  · rw [fetchable_database_iff history.ids_nodup member]
    constructor
    · exact Or.inr
    · rintro (impossible | fewer)
      · cases impossible
      · exact fewer
  · exact ⟨fun _ => Or.inl rfl, fun _ => fetchable_fallback history.ids_nodup member⟩

/-! ## One actor who keeps creating -/

def burstActor : VerifiedActor := ⟨Uuid.ofNat 1, "embedded-alerts"⟩

def burstInput : CreateAlertRule where
  name := "Release monitor"
  queryText := "new Rust releases"
  embeddingModel := "small"
  similarityThreshold := ⟨false, ⟨126, by decide⟩, ⟨0x333333, by decide⟩⟩
  sourceFilters := ["docs"]
  deliveryChannels := ["email"]
  enabled := true

/-- The alert created in the given second of a burst of equal inputs. -/
def burstAlert (input : CreateAlertRule) (second : Nat) : AlertRule :=
  input.intoRule (Uuid.ofNat second) ⟨(1786000000 + (second : Int)) * 10 ^ 9⟩

/-- One create every second. -/
def burst (input : CreateAlertRule) (count : Nat) : List (VerifiedActor × AlertRule) :=
  (List.range count).map (fun second => (burstActor, burstAlert input second))

theorem burst_history {input : CreateAlertRule} (valid : input.validate = .ok ())
    (checked : forall second, (alertRow burstActor (burstAlert input second)).checks = true)
    {count : Nat} (small : count ≤ 1000) :
    History (.database ((burst input count).map loggedRow)) (burst input count) := by
  induction count with
  | zero => exact History.new .database
  | succ count ih =>
      have extended : burst input (count + 1) =
          burst input count ++ [(burstActor, burstAlert input count)] := by
        simp only [burst, List.range_succ, List.map_append, List.map_cons, List.map_nil]
      have fresh : forall entry, entry ∈ burst input count ->
          entry.2.id ≠ Uuid.ofNat count := by
        intro entry member same
        rcases List.mem_map.mp member with ⟨second, earlier, rfl⟩
        have before := List.mem_range.mp earlier
        have values := congrArg (fun id : Uuid => id.value.val) same
        simp only [burstAlert, intoRule_id, Uuid.ofNat_value] at values
        rw [Nat.mod_eq_of_lt (by omega), Nat.mod_eq_of_lt (by omega)] at values
        omega
      rw [extended]
      refine History.create (ih (by omega)) fresh ((create_database_eq_ok_iff _ _ _ _ _ _ _).mpr
        ⟨valid, rfl, ?_, checked count, by rw [List.map_append]; rfl⟩)
      intro row member
      rcases List.mem_map.mp member with ⟨entry, present, rfl⟩
      exact fresh entry present

theorem burstInput_valid : burstInput.validate = .ok () := by decide

theorem burstInput_history {count : Nat} (small : count ≤ 1000) :
    History (.database ((burst burstInput count).map loggedRow)) (burst burstInput count) := by
  refine burst_history burstInput_valid ?_ small
  intro second
  simp only [AlertRow.checks, alertRow, burstAlert, CreateAlertRule.intoRule]
  decide

/-- With one alert more than the list query returns, the newest is fetched. -/
theorem newest_of_burst_fetchable :
    Fetchable (.database ((burst burstInput 101).map loggedRow)) burstActor
      (burstAlert burstInput 100) :=
  (created_alert_fetchable_iff (burstInput_history (by decide))
    (List.mem_map.mpr ⟨100, by decide, rfl⟩)).mpr (Or.inr (by decide +kernel))

/-- The oldest alert of the same store cannot be fetched by its owner. -/
theorem oldest_of_burst_not_fetchable :
    History (.database ((burst burstInput 101).map loggedRow)) (burst burstInput 101) ∧
      (burstActor, burstAlert burstInput 0) ∈ burst burstInput 101 ∧
      Not (Fetchable (.database ((burst burstInput 101).map loggedRow)) burstActor
        (burstAlert burstInput 0)) := by
  have history := burstInput_history (show 101 ≤ 1000 by decide)
  have member : (burstActor, burstAlert burstInput 0) ∈ burst burstInput 101 :=
    List.mem_map.mpr ⟨0, by decide, rfl⟩
  refine ⟨history, member, ?_⟩
  rw [fetchable_database_iff history.ids_nodup member]
  decide +kernel

end EmbeddedAlerts
