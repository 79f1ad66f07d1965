import EmbeddedAlerts.Store.Admission

namespace EmbeddedAlerts

open AlertStore

/-!
# The two backends side by side

The same create calls are performed on a new table and on a new map.  A call
that a backend refuses leaves that backend as it was.  The table keeps the
calls that `validate` accepts and whose tenant its CHECK admits; the map keeps
every call that `validate` accepts.

The list query orders and bounds what it returns, whereas the map is walked in
whatever order it iterates.  Two alerts of one owner are therefore enough to
tell the backends apart.
-/

/-- One call of `create`, with the identifier and the instant it draws. -/
structure CreateCall where
  actor : VerifiedActor
  input : CreateAlertRule
  id : Uuid
  now : DateTime

namespace CreateCall

/-- What the call stores where it succeeds. -/
def logged (call : CreateCall) : VerifiedActor × AlertRule :=
  (call.actor, call.input.intoRule call.id call.now)

def valid (call : CreateCall) : Bool := decide (call.input.validate = .ok ())

/-- Whether the backend stores the call, provided its identifier is fresh. -/
def keptBy : Backend -> CreateCall -> Bool
  | .database, call => call.valid && lengthWithin 64 call.actor.productTenant
  | .fallback, call => call.valid

end CreateCall

namespace AlertStore

/-- A refused call changes nothing. -/
def perform (store : AlertStore) (call : CreateCall) : AlertStore :=
  match store.create call.actor call.input call.id call.now with
  | .ok (next, _) => next
  | .error _ => store

def performAll (store : AlertStore) (calls : List CreateCall) : AlertStore :=
  calls.foldl perform store

/-- The store of the given backend that holds a log. -/
def ofLog : Backend -> List (VerifiedActor × AlertRule) -> AlertStore
  | .database, log => .database (log.map loggedRow)
  | .fallback, log => .fallback (log.map loggedEntry)

end AlertStore

open CreateCall

/-! ## What a run of calls leaves behind -/

theorem perform_ofLog (backend : Backend) {log : List (VerifiedActor × AlertRule)}
    {call : CreateCall} (fresh : forall entry, entry ∈ log -> entry.2.id ≠ call.id) :
    (ofLog backend log).perform call =
      ofLog backend (log ++ if call.keptBy backend then [call.logged] else []) := by
  cases valid : call.valid with
  | false =>
      have refused : call.input.validate ≠ .ok () := of_decide_eq_false valid
      have kept : call.keptBy backend = false := by
        cases backend with
        | database => rw [keptBy, valid, Bool.false_and]
        | fallback => exact valid
      rw [kept, if_neg Bool.false_ne_true, List.append_nil]
      unfold AlertStore.perform AlertStore.create
      cases outcome : call.input.validate with
      | error message => rfl
      | ok value => exact absurd outcome refused
  | true =>
      have accepted : call.input.validate = .ok () := of_decide_eq_true valid
      have admitted := (CreateAlertRule.validate_eq_ok_iff call.input).mp accepted
      cases backend with
      | database =>
          have checked := checks_alertRow admitted call.actor call.id call.now
          have unused : forall row, row ∈ log.map loggedRow -> row.id ≠ call.id := by
            intro row member
            rcases List.mem_map.mp member with ⟨entry, present, rfl⟩
            exact fresh entry present
          rw [keptBy, valid, Bool.true_and]
          cases within : lengthWithin 64 call.actor.productTenant with
          | true =>
              have created := (create_database_eq_ok_iff (log.map loggedRow) _ call.actor
                call.input call.id call.now _).mpr
                ⟨accepted, rfl, unused, checked.trans within, rfl⟩
              simp only [AlertStore.perform, ofLog, created, if_true, List.map_append]
              rfl
          | false =>
              rw [if_neg Bool.false_ne_true, List.append_nil]
              unfold AlertStore.perform
              cases outcome : (ofLog .database log).create call.actor call.input call.id
                  call.now with
              | error failure => rfl
              | ok result =>
                  rcases (create_database_eq_ok_iff _ _ _ _ _ _ _).mp outcome with
                    ⟨_, same, _, passed, _⟩
                  rw [same, checked, within] at passed
                  cases passed
      | fallback =>
          have created := (create_fallback_eq_ok_iff (log.map loggedEntry) _ call.actor
            call.input call.id call.now _).mpr ⟨accepted, rfl, rfl⟩
          rw [keptBy, valid, if_pos rfl]
          simp only [AlertStore.perform, ofLog, created]
          exact congrArg AlertStore.fallback (History.insertEntry_logged fresh)

theorem performAll_ofLog (backend : Backend) (calls : List CreateCall)
    (unique : (calls.map CreateCall.id).Nodup) (log : List (VerifiedActor × AlertRule))
    (fresh : forall entry, entry ∈ log -> forall call, call ∈ calls -> entry.2.id ≠ call.id) :
    (ofLog backend log).performAll calls =
      ofLog backend (log ++ (calls.filter (keptBy backend)).map logged) := by
  induction calls generalizing log with
  | nil =>
      rw [List.filter_nil, List.map_nil, List.append_nil]
      rfl
  | cons call rest ih =>
      rw [List.map_cons, List.nodup_cons] at unique
      have step := perform_ofLog backend
        (fun entry member => fresh entry member call List.mem_cons_self)
      have later : forall entry,
          entry ∈ log ++ (if call.keptBy backend then [call.logged] else []) ->
          forall other, other ∈ rest -> entry.2.id ≠ other.id := by
        intro entry member other present
        rcases List.mem_append.mp member with old | new
        · exact fresh entry old other (List.mem_cons_of_mem _ present)
        · have same : entry = call.logged := by
            split at new
            · exact List.mem_singleton.mp new
            · cases new
          rw [same]
          intro equal
          exact unique.1 (List.mem_map.mpr ⟨other, present, equal.symm⟩)
      change ((ofLog backend log).perform call).performAll rest = _
      rw [step, ih unique.2 _ later, List.append_assoc]
      congr 2
      rw [List.filter_cons]
      split <;> rfl

/-- From an empty store of either backend. -/
theorem performAll_new (backend : Backend) {calls : List CreateCall}
    (unique : (calls.map CreateCall.id).Nodup) :
    (AlertStore.new backend).performAll calls =
      ofLog backend ((calls.filter (keptBy backend)).map logged) := by
  have empty : AlertStore.new backend = ofLog backend [] := by
    cases backend with
    | database => rfl
    | fallback => rfl
  rw [empty, performAll_ofLog backend calls unique [] (fun _ absent => absurd absent List.not_mem_nil),
    List.nil_append]

/-! ## Comparing the lists -/

/-- The calls of one actor that `validate` accepts, in order. -/
def acceptedCalls (calls : List CreateCall) (actor : VerifiedActor) : List CreateCall :=
  calls.filter (fun call => decide (call.actor = actor) && call.valid)

/-- After the same calls the map lists, in whatever order it iterates, what
the database lists. -/
def ListsAlike (calls : List CreateCall) (actor : VerifiedActor) : Prop :=
  forall stored entries, (AlertStore.new .fallback).performAll calls = .fallback stored ->
    entries.Perm stored ->
    (AlertStore.fallback entries).list actor =
      ((AlertStore.new .database).performAll calls).list actor

theorem filter_actor_kept (backend : Backend) (calls : List CreateCall) (actor : VerifiedActor) :
    (calls.filter (keptBy backend)).filter (fun call => decide (call.actor = actor)) =
      calls.filter (fun call => decide (call.actor = actor) && call.keptBy backend) := by
  rw [List.filter_filter]

/-- The entries of one actor in the map. -/
theorem filter_ownedEntry_logged (calls : List CreateCall) (actor : VerifiedActor) :
    (((calls.filter (keptBy .fallback)).map logged).map loggedEntry).filter (ownedEntry actor) =
      ((acceptedCalls calls actor).map logged).map loggedEntry := by
  rw [List.filter_map, List.filter_map]
  congr 2
  refine Eq.trans ?_ (filter_actor_kept .fallback calls actor)
  apply List.filter_congr
  intro call _
  exact owned_loggedEntry actor call.logged

/-- The rows of one actor in the table. -/
theorem filter_owned_logged_kept (calls : List CreateCall) (actor : VerifiedActor) :
    (((calls.filter (keptBy .database)).map logged).map loggedRow).filter (AlertRow.owned actor) =
      if lengthWithin 64 actor.productTenant then
        ((acceptedCalls calls actor).map logged).map loggedRow
      else [] := by
  have mine : (((calls.filter (keptBy .database)).map logged).map loggedRow).filter
      (AlertRow.owned actor) = ((calls.filter (fun call => decide (call.actor = actor) &&
        call.keptBy .database)).map logged).map loggedRow := by
    rw [List.filter_map, List.filter_map, ← filter_actor_kept]
    congr 2
    apply List.filter_congr
    intro call _
    exact owned_loggedRow actor call.logged
  rw [mine]
  cases within : lengthWithin 64 actor.productTenant with
  | true =>
      rw [if_pos rfl, acceptedCalls]
      congr 2
      apply List.filter_congr
      intro call _
      by_cases same : call.actor = actor
      · rw [keptBy, same, within, Bool.and_true]
      · rw [decide_eq_false same, Bool.false_and, Bool.false_and]
  | false =>
      rw [if_neg Bool.false_ne_true, List.filter_eq_nil_iff.mpr]
      · rfl
      · intro call _ kept
        rcases Bool.and_eq_true_iff.mp kept with ⟨same, stored⟩
        rw [keptBy, of_decide_eq_true same, within, Bool.and_false] at stored
        cases stored

/-- The list of the map, walked in a given order. -/
theorem list_fallback_perm {calls : List CreateCall} (actor : VerifiedActor)
    {entries : List (AlertKey × AlertRule)}
    (permuted : entries.Perm (((calls.filter (keptBy .fallback)).map logged).map loggedEntry)) :
    Exists fun alerts => (AlertStore.fallback entries).list actor = .ok alerts ∧
      alerts.Perm ((acceptedCalls calls actor).map (fun call => call.logged.2)) := by
  refine ⟨_, rfl, ?_⟩
  have selected := (permuted.filter (ownedEntry actor)).map Prod.snd
  rw [filter_ownedEntry_logged, List.map_map, List.map_map] at selected
  exact selected

/-- The list of the table, for an owner with no row and with one row. -/
theorem list_database_of_owned {rows : List AlertRow} {actor : VerifiedActor}
    (entries : List (VerifiedActor × AlertRule))
    (owned : rows.filter (AlertRow.owned actor) = entries.map loggedRow)
    (few : entries.length ≤ 1) :
    (AlertStore.database rows).list actor = .ok (entries.map (fun entry => storedForm entry.2)) := by
  rw [AlertStore.list, readAlerts, directAlerts, owned]
  cases entries with
  | nil => rfl
  | cons entry rest =>
      have alone : rest = [] := by
        apply List.eq_nil_of_length_eq_zero
        rw [List.length_cons] at few
        omega
      subst alone
      exact mapM_decodeAlert_logged [entry]

/-- The accepted alerts of one actor are pairwise different. -/
theorem acceptedCalls_nodup {calls : List CreateCall} (unique : (calls.map CreateCall.id).Nodup)
    (actor : VerifiedActor) :
    ((acceptedCalls calls actor).map (fun call => call.logged.2)).Nodup := by
  have ids : (((acceptedCalls calls actor).map (fun call => call.logged.2)).map
      AlertRule.id).Nodup := by
    rw [List.map_map]
    exact unique.sublist (List.filter_sublist.map CreateCall.id)
  exact ids.of_map

/-- A list without repetitions that reads the same backwards has no second
element. -/
private theorem length_le_one_of_reverse {α : Type} {items : List α} (nodup : items.Nodup)
    (palindrome : items.reverse = items) : items.length ≤ 1 := by
  by_contra many
  have first : items.reverse[0]? = items[0]? := by rw [palindrome]
  rw [List.getElem?_reverse (by omega)] at first
  have positions := (List.getElem?_inj (by omega) nodup).mp first
  omega

/-- Walking the map forwards and backwards. -/
private theorem accepted_few_of_alike {calls : List CreateCall}
    (unique : (calls.map CreateCall.id).Nodup) {actor : VerifiedActor}
    (alike : ListsAlike calls actor) : (acceptedCalls calls actor).length ≤ 1 := by
  let stored := ((calls.filter (keptBy .fallback)).map logged).map loggedEntry
  have held : (AlertStore.new .fallback).performAll calls = .fallback stored :=
    performAll_new .fallback unique
  have same := (alike stored stored.reverse held (List.reverse_perm stored)).trans
    (alike stored stored held (List.Perm.refl stored)).symm
  have mine : stored.filter (ownedEntry actor) =
      ((acceptedCalls calls actor).map logged).map loggedEntry :=
    filter_ownedEntry_logged calls actor
  simp only [AlertStore.list, List.filter_reverse, List.map_reverse, Except.ok.injEq, mine,
    List.map_map] at same
  have bound := length_le_one_of_reverse (acceptedCalls_nodup unique actor) same
  rwa [List.length_map] at bound

/-- The backends list alike for an actor exactly when `validate` accepted no
call of that actor, or one call and the tenant fits its column. -/
theorem backends_list_alike_iff (calls : List CreateCall)
    (unique : (calls.map CreateCall.id).Nodup)
    (whole : forall call, call ∈ calls -> (1000 : Int) ∣ call.now.nanoseconds)
    (actor : VerifiedActor) :
    ListsAlike calls actor ↔
      acceptedCalls calls actor = [] ∨
        (acceptedCalls calls actor).length = 1 ∧ lengthWithin 64 actor.productTenant = true := by
  let accepted := acceptedCalls calls actor
  have database := performAll_new .database unique
  have fallback := performAll_new .fallback unique
  have owned := filter_owned_logged_kept calls actor
  constructor
  · intro alike
    have few := accepted_few_of_alike unique alike
    by_cases none : accepted = []
    · exact Or.inl none
    · refine Or.inr ⟨le_antisymm few (List.length_pos_iff.mpr none), ?_⟩
      by_contra outside
      rw [if_neg outside] at owned
      rcases list_fallback_perm actor (List.Perm.refl _) with ⟨alerts, listed, permuted⟩
      have same := alike _ _ fallback (List.Perm.refl _)
      rw [listed, database, ofLog, list_database_of_owned [] owned (by decide),
        Except.ok.injEq] at same
      rw [same] at permuted
      exact none (List.map_eq_nil_iff.mp (List.nil_perm.mp permuted))
  · intro condition stored entries held permuted
    rw [fallback, ofLog, AlertStore.fallback.injEq] at held
    rw [← held] at permuted
    rcases list_fallback_perm actor permuted with ⟨alerts, listed, mine⟩
    rw [listed, database, ofLog]
    rcases condition with none | ⟨one, within⟩
    · rw [none] at owned mine
      rw [List.map_nil, List.map_nil, ite_self] at owned
      rw [list_database_of_owned [] owned (by decide), List.perm_nil.mp mine]
      rfl
    · rcases List.length_eq_one_iff.mp one with ⟨call, alone⟩
      have present : call ∈ acceptedCalls calls actor := by
        rw [alone]
        exact List.mem_singleton_self call
      rcases List.mem_filter.mp present with ⟨member, tested⟩
      have valid : call.input.validate = .ok () :=
        of_decide_eq_true (Bool.and_eq_true_iff.mp tested).2
      have kept : storedForm call.logged.2 = call.logged.2 :=
        (storedForm_eq_iff ((CreateAlertRule.validate_eq_ok_iff _).mp valid) _ _).mpr
          (whole call member)
      rw [if_pos within, alone] at owned
      rw [alone] at mine
      rw [list_database_of_owned [call.logged] owned (by simp),
        List.perm_singleton.mp mine, List.map_singleton, kept]

/-- The create of the given second of a burst. -/
def burstCall (second : Nat) : CreateCall :=
  ⟨burstActor, burstInput, Uuid.ofNat second, ⟨(1786000000 + (second : Int)) * 10 ^ 9⟩⟩

theorem burstCall_whole (second : Nat) : (1000 : Int) ∣ (burstCall second).now.nanoseconds := by
  simp only [burstCall]
  omega

theorem one_alert_listed_alike : ListsAlike [burstCall 1] burstActor :=
  (backends_list_alike_iff [burstCall 1] (by decide)
    (by
      intro call member
      rw [List.mem_singleton.mp member]
      exact burstCall_whole 1) burstActor).mpr (Or.inr ⟨by decide, by decide⟩)

/-- With two alerts of one owner the map has an iteration order that differs
from the list query. -/
theorem two_alerts_listed_differently :
    ([burstCall 1, burstCall 2].map CreateCall.id).Nodup ∧
      (forall call, call ∈ [burstCall 1, burstCall 2] -> (1000 : Int) ∣ call.now.nanoseconds) ∧
      Not (ListsAlike [burstCall 1, burstCall 2] burstActor) := by
  have unique : ([burstCall 1, burstCall 2].map CreateCall.id).Nodup := by decide
  refine ⟨unique, ?_, ?_⟩
  · intro call member
    simp only [List.mem_cons, List.not_mem_nil, or_false] at member
    rcases member with rfl | rfl
    · exact burstCall_whole 1
    · exact burstCall_whole 2
  · intro alike
    exact absurd (accepted_few_of_alike unique alike) (by decide)

end EmbeddedAlerts
