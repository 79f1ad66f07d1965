import EmbeddedAlerts.Library.Noninterference
import EmbeddedAlerts.Server.BodyLimit
import EmbeddedAlerts.Server.Notification
import EmbeddedAlerts.Transport.Decoding

namespace EmbeddedAlerts

/-!
# The HTTP interface

The router picks a handler by path and method.  The extractors run before the
handler: a path without an identifier, a body that is too large or not a rule,
and a request that does not upgrade are refused by the framework before anybody
is asked who the caller is.  After that every handler authorizes, and what goes
wrong from then on is one of five errors, each with a fixed text.

What a caller learns is stated for whole runs.  The answers to the requests of
one actor do not depend on what anyone else does, or on what anyone else has
stored: they are those that the actor would get from a server of its own.
-/

/-! ## Responses -/

namespace ApiError

/-- The text of the error. -/
def text : ApiError -> String
  | .unauthorized => "unauthorized"
  | .degraded => "identity authority unavailable"
  | .invalidRequest => "invalid request"
  | .notFound => "not found"
  | .unavailable => "service unavailable"

def status : ApiError -> Nat
  | .unauthorized => 401
  | .degraded => 503
  | .invalidRequest => 400
  | .notFound => 404
  | .unavailable => 503

end ApiError

/-- What the framework refuses.  The texts of its answers are its own, and so
is the choice between 400 and 422 for a body that is no rule. -/
inductive Rejection where
  | noRoute
  | methodNotAllowed
  | path
  | mediaType
  | tooLarge
  | body
  | upgrade
deriving DecidableEq

/-- The answer to a `HEAD` request has no body. -/
inductive Response where
  | json (status : Nat) (body : Option Json)
  | switchingProtocols
  | refused (rejection : Rejection)

def ApiError.intoResponse (failure : ApiError) : Response :=
  .json failure.status (some (.object [("error", .string failure.text)]))

def Response.withoutBody : Response -> Response
  | .json status _ => .json status none
  | other => other

/-- Equal responses; a list that was read from the map is equal up to order. -/
def Response.SameUnder (backend : Backend) (left right : Response) : Prop :=
  left = right ∨ backend = .fallback ∧ Exists fun status => Exists fun items =>
    Exists fun others => left = .json status (some (.array items)) ∧
      right = .json status (some (.array others)) ∧ items.Perm others

/-! ## Requests -/

inductive Method where
  | get
  | head
  | post
  | other
deriving DecidableEq

/-- A request with what a create would draw for it.  `jsonContent` is whether
its content type is one of JSON, and `upgrades` whether it asks for a WebSocket
as the extractor expects it. -/
structure HttpCall where
  method : Method
  path : String
  jsonContent : Bool
  upgrades : Bool
  body : List UInt8
  request : Request
  id : Uuid
  now : DateTime

inductive Route where
  | health
  | capabilities
  | alerts
  | webAlerts
  | websocket
  | alert (segment : String)
deriving DecidableEq

/-- The routes without a parameter. -/
def fixedRoutes : List (String × Route) :=
  [("/healthz", .health), ("/v1/data-plane/capabilities", .capabilities), ("/readyz", .health),
    ("/v1/alerts", .alerts), ("/v1/web/alerts", .webAlerts), ("/v1/ws", .websocket)]

/-- A parameter is one segment that is not empty. -/
def route (path : String) : Option Route :=
  match fixedRoutes.lookup path with
  | some fixed => some fixed
  | none =>
      match stripPrefix "/v1/alerts/" path with
      | some segment =>
          if segment = "" ∨ segment.toList.contains '/' = true then none
          else some (.alert segment)
      | none => none

/-- The byte that `%` and two hexadecimal digits stand for. -/
def percentByte (mark high low : UInt8) : Option UInt8 :=
  if mark = 37 then
    match Hexadecimal.digitValue (Char.ofNat high.toNat),
        Hexadecimal.digitValue (Char.ofNat low.toNat) with
    | some first, some second => some (UInt8.ofNat (first * 16 + second))
    | _, _ => none
  else none

/-- Everything that is not such an escape stands for itself. -/
def percentDecode : List UInt8 -> List UInt8
  | mark :: high :: low :: rest =>
      match percentByte mark high low with
      | some byte => byte :: percentDecode rest
      | none => mark :: percentDecode (high :: low :: rest)
  | rest => rest

/-- `Path<Uuid>`. -/
def pathUuid (segment : String) : Option Uuid :=
  (Text.ofBytes (percentDecode (Text.asBytes segment))).bind Uuid.parseStr

/-! ## The body of a create -/

def CreateAlertRule.names : List String :=
  ["name", "query_text", "embedding_model", "similarity_threshold", "source_filters",
    "delivery_channels", "enabled"]

/-- A number, as `serde_json` reads an `f32`. -/
def Json.asSingle (readSingle : String -> Option F32) : Json -> Option F32
  | .number text => readSingle text
  | _ => none

def Json.asBool : Json -> Option Bool
  | .bool value => some value
  | _ => none

/-- `#[serde(default)]` on a list of texts. -/
def stringsOrDefault : Option Json -> Option (List String)
  | some value => decodeStrings value
  | none => some []

def CreateAlertRule.ofJson (readSingle : String -> Option F32) (json : Json) :
    Option CreateAlertRule :=
  match json.fields CreateAlertRule.names with
  | some [some name, some queryText, some embeddingModel, some similarityThreshold,
      sourceFilters, deliveryChannels, some enabled] => do
      let name <- name.asString
      let queryText <- queryText.asString
      let embeddingModel <- embeddingModel.asString
      let similarityThreshold <- similarityThreshold.asSingle readSingle
      let sourceFilters <- stringsOrDefault sourceFilters
      let deliveryChannels <- stringsOrDefault deliveryChannels
      let enabled <- enabled.asBool
      return ⟨name, queryText, embeddingModel, similarityThreshold, sourceFilters,
        deliveryChannels, enabled⟩
  | _ => none

def CreateAlertRule.fromSlice (readSingle : String -> Option F32) (body : List UInt8) :
    Option CreateAlertRule :=
  (Json.fromBytes body).bind (CreateAlertRule.ofJson readSingle)

/-- `Json<CreateAlertRule>` under the body limit of the router. -/
def extractRule (readSingle : String -> Option F32) (call : HttpCall) :
    Except Rejection CreateAlertRule :=
  if !call.jsonContent then .error .mediaType
  else if !withinBodyLimit call.body then .error .tooLarge
  else
    match CreateAlertRule.fromSlice readSingle call.body with
    | some input => .ok input
    | none => .error .body

/-! ## The router -/

/-- What the service was started with.  The capabilities are a constant of
another crate. -/
structure HttpConfig where
  policy : AuthPolicy
  dateTime : DateTime -> String
  single : F32 -> String
  readSingle : String -> Option F32
  mtlsConfigured : Bool
  jetstreamConfigured : Bool
  capabilities : Json

def AlertStore.databaseConfigured (store : AlertStore) : Bool :=
  decide (store.backend = .database)

/-- An answered alert is written directly, with the text of its `f32`. -/
def HttpConfig.format (config : HttpConfig) : JsonFormat :=
  ⟨config.dateTime, fun wide => config.single wide.narrow⟩

def health (config : HttpConfig) (store : AlertStore) : Json :=
  .object [
    ("service", .string "eal-api-server"),
    ("status", .string "ok"),
    ("database_configured", .bool store.databaseConfigured),
    ("shared_auth_configured", .bool true),
    ("mtls_configured", .bool config.mtlsConfigured),
    ("jetstream_configured", .bool config.jetstreamConfigured)]

/-- A handler's result as a response. -/
def respondWith {α : Type} (status : Nat) (body : α -> Json) : Except ApiError α -> Response
  | .ok value => .json status (some (body value))
  | .error failure => failure.intoResponse

def respondGet (config : HttpConfig) (store : AlertStore) (call : HttpCall) : Route -> Response
  | .health => .json 200 (some (health config store))
  | .capabilities => .json 200 (some config.capabilities)
  | .alerts => respondWith 200 (alertsJson config.format)
      (listAlerts config.policy store call.request)
  | .webAlerts => respondWith 200 (alertsJson config.format)
      (listAlerts config.policy store call.request)
  | .alert segment =>
      match pathUuid segment with
      | none => .refused .path
      | some id => respondWith 200 (AlertRule.toJson config.format)
          (getAlert config.policy store call.request id)
  | .websocket =>
      if !call.upgrades then .refused .upgrade
      else
        match call.request.actor config.policy readScope with
        | .ok _ => .switchingProtocols
        | .error failure => failure.intoResponse

/-- The response to `POST /v1/alerts` and the store after it. -/
def respondCreate (config : HttpConfig) (store : AlertStore) (call : HttpCall) :
    Response × AlertStore :=
  match extractRule config.readSingle call with
  | .error rejection => (.refused rejection, store)
  | .ok input =>
      match createAlert config.policy store call.request input call.id call.now with
      | .error failure => (failure.intoResponse, store)
      | .ok (next, event) => (.json 201 (some (event.alert.toJson config.format)), next)

def respond (config : HttpConfig) (store : AlertStore) (call : HttpCall) :
    Response × AlertStore :=
  match route call.path with
  | none => (.refused .noRoute, store)
  | some found =>
      match call.method with
      | .get => (respondGet config store call found, store)
      | .head =>
          if found = .websocket then (.refused .upgrade, store)
          else ((respondGet config store call found).withoutBody, store)
      | .post =>
          if found = .alerts then respondCreate config store call
          else (.refused .methodNotAllowed, store)
      | .other => (.refused .methodNotAllowed, store)

/-- One request to the running server.  By then the map may have been brought
into any order. -/
def Responds (config : HttpConfig) (store : AlertStore) (call : HttpCall) (response : Response)
    (next : AlertStore) : Prop :=
  Exists fun arranged => store.Rearranged arranged ∧
    respond config arranged call = (response, next)

/-! ## One caller is one actor -/

/-- Whatever scope is asked for, the actor is the subject of the claims. -/
theorem verifyToken_actor {policy : AuthPolicy} {answer : String -> AuthAnswer}
    {token requiredScope : String} {actor : VerifiedActor}
    (verified : verifyToken policy answer token requiredScope = .ok actor) :
    Exists fun claims => (answer token).claims = .ok claims ∧
      claims.sub.bind Uuid.parseStr = some actor.subject ∧
      actor.productTenant = policy.productTenant := by
  have tenant := verifyToken_productTenant verified
  unfold verifyToken at verified
  split at verified
  · cases verified
  · split at verified
    · cases verified
    · cases verified
    · cases verified
    · next claims answered =>
        split at verified
        · cases verified
        · unfold authorizeIntrospection at verified
          dsimp only at verified
          split at verified
          · cases verified
          · next subject named =>
              split at verified
              · cases verified
              · cases verified
                exact ⟨claims, answered, named, rfl⟩

theorem Request.actor_unique {policy : AuthPolicy} {request : Request} {scope otherScope : String}
    {actor other : VerifiedActor} (granted : request.actor policy scope = .ok actor)
    (grantedOther : request.actor policy otherScope = .ok other) : actor = other := by
  have verified : forall {required : String} {found : VerifiedActor},
      request.actor policy required = .ok found ->
      verifyAuthorization policy request.answer request.authorization required = .ok found := by
    intro required found accepted
    unfold Request.actor at accepted
    split at accepted
    · next same =>
        cases accepted
        exact same
    · cases accepted
  rcases (Fallible.bind_eq_ok_iff _ _ _).mp (verified granted) with ⟨token, bearer, first⟩
  rcases (Fallible.bind_eq_ok_iff _ _ _).mp (verified grantedOther) with ⟨same, bearer', second⟩
  cases bearer.symm.trans bearer'
  rcases verifyToken_actor first with ⟨claims, answered, subject, tenant⟩
  rcases verifyToken_actor second with ⟨claims', answered', subject', tenant'⟩
  cases answered.symm.trans answered'
  rcases actor with ⟨left, leftTenant⟩
  rcases other with ⟨right, rightTenant⟩
  cases subject.symm.trans subject'
  cases tenant
  cases tenant'
  rfl

/-- The request is granted something, as this actor. -/
def HttpCall.isBy (policy : AuthPolicy) (actor : VerifiedActor) (call : HttpCall) : Bool :=
  [readScope, writeScope].any (fun scope =>
    match call.request.actor policy scope with
    | .ok granted => decide (granted = actor)
    | .error _ => false)

theorem HttpCall.isBy_iff (policy : AuthPolicy) (actor : VerifiedActor) (call : HttpCall) :
    call.isBy policy actor = true ↔ call.request.actor policy readScope = .ok actor ∨
      call.request.actor policy writeScope = .ok actor := by
  have each : forall scope, ((match call.request.actor policy scope with
      | .ok granted => decide (granted = actor)
      | .error _ => false) = true ↔ call.request.actor policy scope = .ok actor) := by
    intro scope
    cases call.request.actor policy scope with
    | ok granted => simp
    | error failure => simp
  rw [HttpCall.isBy, List.any_cons, List.any_cons, List.any_nil, Bool.or_false, Bool.or_eq_true,
    each, each]

/-- What a request of the actor is granted, it is granted as this actor. -/
theorem HttpCall.actor_of_isBy {policy : AuthPolicy} {actor granted : VerifiedActor}
    {call : HttpCall} {scope : String} (own : call.isBy policy actor = true)
    (accepted : call.request.actor policy scope = .ok granted) : granted = actor := by
  rcases (HttpCall.isBy_iff _ _ _).mp own with read | write
  · exact Request.actor_unique accepted read
  · exact Request.actor_unique accepted write

/-! ## The store of one actor -/

namespace AlertStore

/-- What the store would be if it held the alerts of one actor only. -/
def visibleTo (actor : VerifiedActor) : AlertStore -> AlertStore
  | .database rows => .database (rows.filter (AlertRow.owned actor))
  | .fallback entries => .fallback (entries.filter (ownedEntry actor))

def ids : AlertStore -> List Uuid
  | .database rows => rows.map AlertRow.id
  | .fallback entries => entries.map (fun entry => entry.1.id)

variable {actor other : VerifiedActor} {store next left right : AlertStore}
  {input : CreateAlertRule} {id : Uuid} {now : DateTime} {alert : AlertRule}

theorem visibleTo_idem (actor : VerifiedActor) (store : AlertStore) :
    (store.visibleTo actor).visibleTo actor = store.visibleTo actor := by
  cases store with
  | database rows => simp only [visibleTo, List.filter_filter, Bool.and_self]
  | fallback entries => simp only [visibleTo, List.filter_filter, Bool.and_self]

theorem ids_visibleTo (actor : VerifiedActor) (store : AlertStore) :
    (store.visibleTo actor).ids.Sublist store.ids := by
  cases store with
  | database rows => exact List.filter_sublist.map _
  | fallback entries => exact List.filter_sublist.map _

theorem backend_visibleTo (actor : VerifiedActor) (store : AlertStore) :
    (store.visibleTo actor).backend = store.backend := by
  cases store with
  | database rows => rfl
  | fallback entries => rfl

theorem list_visibleTo (actor : VerifiedActor) (store : AlertStore) :
    (store.visibleTo actor).list actor = store.list actor := by
  cases store with
  | database rows =>
      simp only [visibleTo, list, readAlerts, directAlerts, List.filter_filter, Bool.and_self]
  | fallback entries => simp only [visibleTo, list, List.filter_filter, Bool.and_self]

theorem lookup_filter {key : AlertKey} {entries : List (AlertKey × AlertRule)}
    (own : forall alert, ownedEntry actor (key, alert) = true) :
    (entries.filter (ownedEntry actor)).lookup key = entries.lookup key := by
  induction entries with
  | nil => rfl
  | cons entry rest ih =>
      rcases entry with ⟨other, alert⟩
      rw [List.filter_cons]
      by_cases same : key = other
      · subst same
        rw [if_pos (own alert), List.lookup_cons_self, List.lookup_cons_self]
      · have apart : (key == other) = false := beq_eq_false_iff_ne.mpr same
        rw [List.lookup_cons, apart]
        split
        · rw [List.lookup_cons, apart]
          exact ih
        · exact ih

theorem get_visibleTo (actor : VerifiedActor) (store : AlertStore) (id : Uuid) :
    (store.visibleTo actor).get actor id = store.get actor id := by
  cases store with
  | database rows =>
      have listed := list_visibleTo actor (.database rows)
      simp only [visibleTo] at listed
      simp only [visibleTo, get, listed]
  | fallback entries =>
      simp only [visibleTo, get]
      rw [lookup_filter]
      intro alert
      simp [ownedEntry]

theorem owned_alertRow (actor owner : VerifiedActor) (alert : AlertRule) :
    (alertRow owner alert).owned actor = decide (owner = actor) :=
  owned_loggedRow actor (owner, alert)

theorem ownedEntry_key (actor owner : VerifiedActor) (id : Uuid) (alert : AlertRule) :
    ownedEntry actor (⟨owner.productTenant, owner.subject, id⟩, alert) =
      decide (owner = actor) := by
  rcases actor with ⟨subject, tenant⟩
  rcases owner with ⟨otherSubject, otherTenant⟩
  simp only [ownedEntry, VerifiedActor.mk.injEq, Bool.decide_and]
  exact Bool.and_comm _ _

/-- A create of somebody else is not seen. -/
theorem create_foreign (created : store.create other input id now = .ok (next, alert))
    (foreign : other ≠ actor) : next.visibleTo actor = store.visibleTo actor := by
  cases store with
  | database rows =>
      rcases (create_database_eq_ok_iff _ _ _ _ _ _ _).mp created with ⟨_, _, _, _, rfl⟩
      rw [visibleTo, visibleTo, List.filter_append, List.filter_cons_of_neg, List.filter_nil,
        List.append_nil]
      rw [owned_alertRow, decide_eq_true_eq]
      exact foreign
  | fallback entries =>
      rcases (create_fallback_eq_ok_iff _ _ _ _ _ _ _).mp created with ⟨_, _, rfl⟩
      rw [visibleTo, visibleTo, insertEntry, List.filter_append, List.filter_cons_of_neg,
        List.filter_nil, List.append_nil, List.filter_filter]
      · congr 1
        apply List.filter_congr
        intro entry _
        cases own : ownedEntry actor entry with
        | false => rfl
        | true =>
            rw [Bool.true_and, decide_eq_true_eq]
            intro same
            rcases entry with ⟨key, stored⟩
            cases same
            rw [ownedEntry_key] at own
            exact foreign (of_decide_eq_true own)
      · rw [ownedEntry_key, decide_eq_true_eq]
        exact foreign

/-- What is seen of the outcome of an own create. -/
def seen (actor : VerifiedActor) (outcome : AlertStore × AlertRule) : AlertStore × AlertRule :=
  (outcome.1.visibleTo actor, outcome.2)

/-- With an identifier that nobody has, an own create has the same outcome as
in the actor's own store. -/
theorem create_visibleTo (actor : VerifiedActor) (input : CreateAlertRule) (now : DateTime)
    (fresh : id ∉ store.ids) :
    ((store.visibleTo actor).create actor input id now).map (seen actor) =
      (store.create actor input id now).map (seen actor) := by
  unfold create
  cases input.validate with
  | error message => rfl
  | ok value =>
      cases store with
      | database rows =>
          have free : forall kept : List AlertRow, kept ⊆ rows ->
              kept.any (fun row => decide (row.id =
                (alertRow actor (input.intoRule id now)).id)) = false := by
            intro kept within
            rw [List.any_eq_false]
            intro row member same
            apply fresh
            exact List.mem_map.mpr ⟨row, within member, of_decide_eq_true same⟩
          simp only [visibleTo, insertAlert, free rows (List.Subset.refl _),
            free (rows.filter (AlertRow.owned actor)) List.filter_sublist.subset, Bool.false_or]
          cases (alertRow actor (input.intoRule id now)).checks with
          | false => rfl
          | true =>
              simp only [Bool.not_true, Bool.false_eq_true, if_false, Except.map, seen, visibleTo,
                List.filter_append, List.filter_filter, Bool.and_self]
      | fallback entries =>
          simp only [visibleTo, Except.map, seen, insertEntry, List.filter_append,
            List.filter_filter, Except.ok.injEq, Prod.mk.injEq, and_true, fallback.injEq]
          congr 1
          apply List.filter_congr
          intro entry _
          cases ownedEntry actor entry <;> simp

theorem create_ids (created : store.create actor input id now = .ok (next, alert)) :
    next.ids.Sublist (store.ids ++ [id]) := by
  cases store with
  | database rows =>
      rcases (create_database_eq_ok_iff _ _ _ _ _ _ _).mp created with ⟨_, rfl, _, _, rfl⟩
      rw [ids, ids, List.map_append]
      exact List.Sublist.refl _
  | fallback entries =>
      rcases (create_fallback_eq_ok_iff _ _ _ _ _ _ _).mp created with ⟨_, rfl, rfl⟩
      rw [ids, ids, insertEntry, List.map_append]
      exact (List.filter_sublist.map _).append_right _

end AlertStore

/-! ## What one actor sees of a step -/

section

variable {config : HttpConfig} {actor : VerifiedActor} {store : AlertStore} {call : HttpCall}

/-- A response, and what the actor sees of the store after it. -/
def viewed (actor : VerifiedActor) (outcome : Response × AlertStore) : Response × AlertStore :=
  (outcome.1, outcome.2.visibleTo actor)

theorem listAlerts_visibleTo (own : call.isBy config.policy actor = true) :
    listAlerts config.policy (store.visibleTo actor) call.request =
      listAlerts config.policy store call.request := by
  unfold listAlerts
  cases granted : call.request.actor config.policy readScope with
  | error failure => rfl
  | ok found =>
      cases HttpCall.actor_of_isBy own granted
      simp only [bind, Except.bind, AlertStore.list_visibleTo]

theorem getAlert_visibleTo (own : call.isBy config.policy actor = true) (id : Uuid) :
    getAlert config.policy (store.visibleTo actor) call.request id =
      getAlert config.policy store call.request id := by
  unfold getAlert
  cases granted : call.request.actor config.policy readScope with
  | error failure => rfl
  | ok found =>
      cases HttpCall.actor_of_isBy own granted
      simp only [bind, Except.bind, AlertStore.get_visibleTo]

theorem respondGet_visibleTo (own : call.isBy config.policy actor = true) (found : Route) :
    respondGet config (store.visibleTo actor) call found = respondGet config store call found := by
  cases found with
  | health =>
      simp only [respondGet, health, AlertStore.databaseConfigured, AlertStore.backend_visibleTo]
  | capabilities => rfl
  | alerts => simp only [respondGet, listAlerts_visibleTo own]
  | webAlerts => simp only [respondGet, listAlerts_visibleTo own]
  | websocket => rfl
  | alert segment => simp only [respondGet, getAlert_visibleTo own]

/-- A create is refused before the store is asked, or it is what the store
makes of it. -/
theorem respondCreate_visibleTo (own : call.isBy config.policy actor = true)
    (fresh : call.id ∉ store.ids) :
    viewed actor (respondCreate config (store.visibleTo actor) call) =
      viewed actor (respondCreate config store call) := by
  have kept := AlertStore.visibleTo_idem actor store
  unfold respondCreate
  cases extractRule config.readSingle call with
  | error rejection => simp only [viewed, kept]
  | ok input =>
      unfold createAlert
      cases granted : call.request.actor config.policy writeScope with
      | error failure => simp only [bind, Except.bind, viewed, kept]
      | ok found =>
          cases HttpCall.actor_of_isBy own granted
          simp only [bind, Except.bind, pure, Except.pure, Request.stored]
          cases valid : input.validate with
          | error message => simp only [viewed, kept]
          | ok value =>
              rcases Fallible.map_eq_map_cases
                (AlertStore.create_visibleTo actor input call.now fresh) with
                ⟨failure, alone, shared⟩ | ⟨results, alone, shared, same⟩
              · rw [alone, shared]
                cases call.request.reachable <;> simp only [viewed, kept]
              · rw [alone, shared]
                rcases Prod.mk.inj same with ⟨stores, alerts⟩
                cases call.request.reachable <;> simp only [viewed, kept, stores, alerts]

theorem respond_visibleTo (config : HttpConfig) (own : call.isBy config.policy actor = true)
    (fresh : call.id ∉ store.ids) :
    viewed actor (respond config (store.visibleTo actor) call) =
      viewed actor (respond config store call) := by
  have kept := AlertStore.visibleTo_idem actor store
  unfold respond
  cases route call.path with
  | none => simp only [viewed, kept]
  | some found =>
      cases call.method with
      | get => simp only [viewed, kept, respondGet_visibleTo own]
      | head =>
          by_cases socket : found = .websocket
          · simp only [if_pos socket, viewed, kept]
          · simp only [if_neg socket, viewed, kept, respondGet_visibleTo own]
      | post =>
          by_cases alerts : found = .alerts
          · simp only [if_pos alerts]
            exact respondCreate_visibleTo own fresh
          · simp only [if_neg alerts, viewed, kept]
      | other => simp only [viewed, kept]

/-- The store changes by a create of the actor that the request was granted
for, or not at all. -/
theorem respond_store (config : HttpConfig) (store : AlertStore) (call : HttpCall) :
    (respond config store call).2 = store ∨
      Exists fun made : VerifiedActor × CreateAlertRule × AlertRule =>
        call.request.actor config.policy writeScope = .ok made.1 ∧
        store.create made.1 made.2.1 call.id call.now =
          .ok ((respond config store call).2, made.2.2) := by
  unfold respond
  cases route call.path with
  | none => exact Or.inl rfl
  | some found =>
      cases call.method with
      | get => exact Or.inl rfl
      | head => exact Or.inl (by dsimp only; split <;> rfl)
      | other => exact Or.inl rfl
      | post =>
          dsimp only
          split
          · unfold respondCreate
            cases extractRule config.readSingle call with
            | error rejection => exact Or.inl rfl
            | ok input =>
                dsimp only
                cases made : createAlert config.policy store call.request input call.id call.now with
                | error failure => exact Or.inl rfl
                | ok outcome =>
                    rcases createAlert_ok made with ⟨actor, granted, _, created⟩
                    exact Or.inr ⟨(actor, input, outcome.2.alert), granted, created⟩
          · exact Or.inl rfl

theorem respond_foreign (foreign : call.isBy config.policy actor = false) :
    (respond config store call).2.visibleTo actor = store.visibleTo actor := by
  rcases respond_store config store call with same | ⟨made, granted, created⟩
  · rw [same]
  · refine AlertStore.create_foreign created (fun same => ?_)
    have own := (HttpCall.isBy_iff config.policy actor call).mpr (Or.inr (same ▸ granted))
    exact Bool.false_ne_true (foreign.symm.trans own)

theorem respond_ids (config : HttpConfig) (store : AlertStore) (call : HttpCall) :
    (respond config store call).2.ids.Sublist (store.ids ++ [call.id]) := by
  rcases respond_store config store call with same | ⟨made, _, created⟩
  · rw [same]
    exact List.sublist_append_left _ _
  · exact AlertStore.create_ids created

theorem backend_respond (config : HttpConfig) (store : AlertStore) (call : HttpCall) :
    (respond config store call).2.backend = store.backend := by
  rcases respond_store config store call with same | ⟨made, _, created⟩
  · rw [same]
  · cases store with
    | database rows =>
        rcases (create_database_eq_ok_iff _ _ _ _ _ _ _).mp created with ⟨_, _, _, _, same⟩
        rw [same]
        rfl
    | fallback entries =>
        rcases (create_fallback_eq_ok_iff _ _ _ _ _ _ _).mp created with ⟨_, _, same⟩
        rw [same]
        rfl

/-! ## The order of the map -/

namespace AlertStore.Rearranged

variable {left middle right : AlertStore}

theorem refl (store : AlertStore) : store.Rearranged store := by
  cases store with
  | database rows => exact .database
  | fallback entries => exact .fallback (List.Perm.refl _)

theorem symm (arranged : left.Rearranged right) : right.Rearranged left := by
  cases arranged with
  | database => exact .database
  | fallback permuted => exact .fallback permuted.symm

theorem trans (first : left.Rearranged middle) (second : middle.Rearranged right) :
    left.Rearranged right := by
  cases first with
  | database => exact second
  | fallback permuted =>
      cases second with
      | fallback onward => exact .fallback (permuted.trans onward)

theorem visibleTo (arranged : left.Rearranged right) (actor : VerifiedActor) :
    (left.visibleTo actor).Rearranged (right.visibleTo actor) := by
  cases arranged with
  | database => exact .database
  | fallback permuted => exact .fallback (permuted.filter _)

theorem ids (arranged : left.Rearranged right) : left.ids.Perm right.ids := by
  cases arranged with
  | database => exact List.Perm.refl _
  | fallback permuted => exact permuted.map _

theorem backend (arranged : left.Rearranged right) : left.backend = right.backend := by
  cases arranged with
  | database => rfl
  | fallback permuted => rfl

/-- With one entry for each key, a lookup does not depend on the order. -/
theorem get (arranged : left.Rearranged right) (unique : left.ids.Nodup) (actor : VerifiedActor)
    (id : Uuid) : left.get actor id = right.get actor id := by
  cases arranged with
  | database => rfl
  | fallback permuted =>
      have keys : forall {entries : List (AlertKey × AlertRule)},
          (AlertStore.fallback entries).ids.Nodup -> (entries.map Prod.fst).Nodup := by
        intro entries distinct
        have projected : (AlertStore.fallback entries).ids =
            (entries.map Prod.fst).map AlertKey.id := by
          rw [List.map_map]
          rfl
        rw [projected] at distinct
        exact distinct.of_map
      exact (SameFor.fallback (keys unique)
        (keys ((Rearranged.fallback permuted).ids.nodup_iff.mp unique))
        (permuted.filter (ownedEntry actor))).get id

theorem create (arranged : left.Rearranged right) (actor : VerifiedActor) (input : CreateAlertRule)
    (id : Uuid) (now : DateTime) :
    left.create actor input id now = right.create actor input id now ∨
      Exists fun next => Exists fun other => Exists fun alert =>
        left.create actor input id now = .ok (next, alert) ∧
        right.create actor input id now = .ok (other, alert) ∧ next.Rearranged other := by
  cases arranged with
  | database => exact Or.inl rfl
  | fallback permuted =>
      unfold AlertStore.create
      cases input.validate with
      | error message => exact Or.inl rfl
      | ok value =>
          exact Or.inr ⟨_, _, _, rfl, rfl, .fallback ((permuted.filter _).append_right _)⟩

end AlertStore.Rearranged

theorem Response.SameUnder.refl (backend : Backend) (response : Response) :
    Response.SameUnder backend response response := Or.inl rfl

theorem listAlerts_rearranged {left right : AlertStore} (arranged : left.Rearranged right)
    (config : HttpConfig) (request : Request) :
    Response.SameUnder left.backend
      (respondWith 200 (alertsJson config.format) (listAlerts config.policy left request))
      (respondWith 200 (alertsJson config.format) (listAlerts config.policy right request)) := by
  cases arranged with
  | database => exact .refl _ _
  | fallback permuted =>
      unfold listAlerts
      cases request.actor config.policy readScope with
      | error failure => exact .refl _ _
      | ok actor =>
          simp only [bind, Except.bind, AlertStore.list, Request.stored]
          cases request.reachable with
          | false => exact .refl _ _
          | true =>
              exact Or.inr ⟨rfl, _, _, _, rfl, rfl,
                ((permuted.filter _).map Prod.snd).map _⟩

theorem respondGet_rearranged {left right : AlertStore} (arranged : left.Rearranged right)
    (unique : left.ids.Nodup) (config : HttpConfig) (call : HttpCall) (found : Route) :
    Response.SameUnder left.backend (respondGet config left call found)
      (respondGet config right call found) := by
  cases found with
  | health =>
      simp only [respondGet, health, AlertStore.databaseConfigured, arranged.backend]
      exact .refl _ _
  | capabilities => exact .refl _ _
  | alerts => exact listAlerts_rearranged arranged config call.request
  | webAlerts => exact listAlerts_rearranged arranged config call.request
  | websocket => exact .refl _ _
  | alert segment =>
      simp only [respondGet, getAlert, arranged.get unique]
      exact .refl _ _

theorem Response.SameUnder.withoutBody {backend : Backend} {left right : Response}
    (same : Response.SameUnder backend left right) : left.withoutBody = right.withoutBody := by
  rcases same with equal | ⟨_, status, items, others, rfl, rfl, _⟩
  · rw [equal]
  · rfl

theorem respondCreate_rearranged {left right : AlertStore} (arranged : left.Rearranged right)
    (config : HttpConfig) (call : HttpCall) :
    (respondCreate config left call).1 = (respondCreate config right call).1 ∧
      (respondCreate config left call).2.Rearranged (respondCreate config right call).2 := by
  unfold respondCreate
  cases extractRule config.readSingle call with
  | error rejection => exact ⟨rfl, arranged⟩
  | ok input =>
      simp only [createAlert, bind, Except.bind, pure, Except.pure, Request.stored]
      cases call.request.actor config.policy writeScope with
      | error failure => exact ⟨rfl, arranged⟩
      | ok actor =>
          cases valid : input.validate with
          | error message => exact ⟨rfl, arranged⟩
          | ok value =>
              dsimp only
              rcases arranged.create actor input call.id call.now with
                same | ⟨next, other, alert, first, second, stores⟩
              · rw [same]
                cases call.request.reachable with
                | false => exact ⟨rfl, arranged⟩
                | true =>
                    cases right.create actor input call.id call.now with
                    | error failure => exact ⟨rfl, arranged⟩
                    | ok made => exact ⟨rfl, .refl _⟩
              · rw [first, second]
                cases call.request.reachable with
                | false => exact ⟨rfl, arranged⟩
                | true => exact ⟨rfl, stores⟩

/-- The order of the map shows in the order of a list and nowhere else. -/
theorem respond_rearranged {left right : AlertStore} (arranged : left.Rearranged right)
    (unique : left.ids.Nodup) (config : HttpConfig) (call : HttpCall) :
    Response.SameUnder left.backend (respond config left call).1 (respond config right call).1 ∧
      (respond config left call).2.Rearranged (respond config right call).2 := by
  unfold respond
  cases route call.path with
  | none => exact ⟨.refl _ _, arranged⟩
  | some found =>
      have got := respondGet_rearranged arranged unique config call found
      cases call.method with
      | get => exact ⟨got, arranged⟩
      | head =>
          by_cases socket : found = .websocket
          · simp only [if_pos socket]
            exact ⟨.refl _ _, arranged⟩
          · simp only [if_neg socket]
            exact ⟨Or.inl got.withoutBody, arranged⟩
      | post =>
          by_cases alerts : found = .alerts
          · simp only [if_pos alerts]
            rcases respondCreate_rearranged arranged config call with ⟨same, stores⟩
            exact ⟨Or.inl same, stores⟩
          · simp only [if_neg alerts]
            exact ⟨.refl _ _, arranged⟩
      | other => exact ⟨.refl _ _, arranged⟩

/-! ## Whole runs -/

/-- No identifier that is still to be drawn is stored or drawn twice. -/
def AlertStore.Fresh (store : AlertStore) (calls : List HttpCall) : Prop :=
  (store.ids ++ calls.map HttpCall.id).Nodup

theorem AlertStore.Fresh.head {rest : List HttpCall} (fresh : store.Fresh (call :: rest)) :
    call.id ∉ store.ids := by
  intro stored
  exact (List.nodup_append.mp fresh).2.2 _ stored _ List.mem_cons_self rfl

theorem AlertStore.Fresh.rearranged {calls : List HttpCall} {arranged : AlertStore}
    (fresh : store.Fresh calls) (same : store.Rearranged arranged) : arranged.Fresh calls :=
  (same.ids.append_right _).nodup_iff.mp fresh

theorem AlertStore.Fresh.respond {rest : List HttpCall} (fresh : store.Fresh (call :: rest)) :
    (respond config store call).2.Fresh rest := by
  have same : store.ids ++ (call :: rest).map HttpCall.id =
      (store.ids ++ [call.id]) ++ rest.map HttpCall.id := by
    rw [List.map_cons, List.append_assoc, List.singleton_append]
  unfold AlertStore.Fresh at fresh
  rw [same] at fresh
  exact fresh.sublist ((respond_ids config store call).append_right _)

theorem respond_unaffected (config : HttpConfig) (actor : VerifiedActor) (backend : Backend) :
    Noninterference.Unaffected (Responds config) (HttpCall.isBy config.policy actor)
      (fun store calls => store.backend = backend ∧ store.Fresh calls)
      (fun left right => (left.visibleTo actor).Rearranged (right.visibleTo actor))
      (Response.SameUnder backend) where
  later := by
    rintro store call rest response next ⟨kind, fresh⟩ ⟨arranged, same, responded⟩
    have after : (respond config arranged call).2 = next := congrArg Prod.snd responded
    rw [← after]
    exact ⟨(backend_respond config arranged call).trans (same.backend.symm.trans kind),
      (fresh.rearranged same).respond⟩
  foreign := by
    rintro store other call rest response next foreign _ alike ⟨arranged, same, responded⟩
    have after : (respond config arranged call).2 = next := congrArg Prod.snd responded
    rw [← after, respond_foreign foreign]
    exact (same.symm.visibleTo actor).trans alike
  answered := by
    rintro store other call rest otherRest response otherResponse next otherNext own ⟨kind, fresh⟩
      ⟨_, otherFresh⟩ alike ⟨arranged, same, responded⟩ ⟨otherArranged, otherSame, otherResponded⟩
    have arrangedFresh := fresh.rearranged same
    have alone := respond_visibleTo config own arrangedFresh.head
    have otherAlone := respond_visibleTo config own (otherFresh.rearranged otherSame).head
    rw [responded] at alone
    rw [otherResponded] at otherAlone
    have unique : (arranged.visibleTo actor).ids.Nodup :=
      (List.nodup_append.mp arrangedFresh).1.sublist (AlertStore.ids_visibleTo actor arranged)
    have views : (arranged.visibleTo actor).Rearranged (otherArranged.visibleTo actor) :=
      (same.symm.visibleTo actor).trans (alike.trans (otherSame.visibleTo actor))
    rcases respond_rearranged views unique config call with ⟨answers, stores⟩
    rcases Prod.mk.inj alone with ⟨answer, after⟩
    rcases Prod.mk.inj otherAlone with ⟨otherAnswer, otherAfter⟩
    rw [answer, otherAnswer, AlertStore.backend_visibleTo, ← same.backend, kind] at answers
    have seen := stores.visibleTo actor
    rw [after, otherAfter] at seen
    exact ⟨answers, seen⟩

/-- Every request is answered, so there are such runs. -/
theorem exists_answered (config : HttpConfig) (own : HttpCall -> Bool) (store : AlertStore)
    (calls : List HttpCall) :
    Exists fun answers => Noninterference.Answered (Responds config) own store calls answers := by
  induction calls generalizing store with
  | nil => exact ⟨[], .done⟩
  | cons call rest ih =>
      rcases ih (respond config store call).2 with ⟨answers, later⟩
      have taken : Responds config store call (respond config store call).1
          (respond config store call).2 := ⟨store, .refl store, rfl⟩
      cases mine : own call with
      | true => exact ⟨_, .own mine taken later⟩
      | false => exact ⟨_, .foreign mine taken later⟩

/-- The requests of one actor are answered as by a server that has never had
anything to do with anybody else; with the map in the place of the database, up
to the order of a list, in whatever orders the two servers keep their maps. -/
theorem http_noninterference (config : HttpConfig) (actor : VerifiedActor) (store : AlertStore)
    (calls : List HttpCall) (fresh : store.Fresh calls) (answers alone : List Response)
    (shared : Noninterference.Answered (Responds config) (HttpCall.isBy config.policy actor)
      store calls answers)
    (own : Noninterference.Answered (Responds config) (HttpCall.isBy config.policy actor)
      (store.visibleTo actor) (calls.filter (HttpCall.isBy config.policy actor)) alone) :
    List.Forall₂ (Response.SameUnder store.backend) answers alone := by
  refine (respond_unaffected config actor store.backend).purge ⟨rfl, fresh⟩
    ⟨AlertStore.backend_visibleTo actor store, ?_⟩ ?_ shared own
  · exact List.Nodup.sublist ((AlertStore.ids_visibleTo actor store).append
      (List.filter_sublist.map _)) fresh
  · rw [AlertStore.visibleTo_idem]
    exact .refl _

end

def sampleHttp : HttpConfig where
  policy := samplePolicy
  dateTime := fun _ => "2033-05-18T03:33:20Z"
  single := fun _ => "0.7"
  readSingle := fun text => if text = "0.7" then some burstInput.similarityThreshold else none
  mtlsConfigured := false
  jetstreamConfigured := false
  capabilities := .object []

def sampleCall (method : Method) (body : List UInt8) (actor id : Nat) : HttpCall where
  method := method
  path := "/v1/alerts"
  jsonContent := true
  upgrades := false
  body := body
  request := sampleRequest actor
  id := sampleId id
  now := ⟨2000000000 * 10 ^ 9⟩

/-- Two actors create an alert each, and the first one lists its own. -/
def twoActorCalls : List HttpCall :=
  [sampleCall .post (burstInput.body sampleHttp.single) 1 0xd1,
    sampleCall .post (burstInput.body sampleHttp.single) 2 0xd2, sampleCall .get [] 1 0xd3]

theorem twoActorCalls_answered_alike : Exists fun answers => Exists fun alone =>
    Noninterference.Answered (Responds sampleHttp) (HttpCall.isBy samplePolicy sampleOwner)
      (AlertStore.new .fallback) twoActorCalls answers ∧
    Noninterference.Answered (Responds sampleHttp) (HttpCall.isBy samplePolicy sampleOwner)
      ((AlertStore.new .fallback).visibleTo sampleOwner)
      (twoActorCalls.filter (HttpCall.isBy samplePolicy sampleOwner)) alone ∧
    (twoActorCalls.filter (HttpCall.isBy samplePolicy sampleOwner)).map HttpCall.id =
      [sampleId 0xd1, sampleId 0xd3] ∧
    List.Forall₂ (Response.SameUnder .fallback) answers alone := by
  have fresh : (AlertStore.new .fallback).Fresh twoActorCalls := by
    unfold AlertStore.Fresh
    decide +kernel
  rcases exists_answered sampleHttp (HttpCall.isBy samplePolicy sampleOwner)
    (AlertStore.new .fallback) twoActorCalls with ⟨answers, shared⟩
  rcases exists_answered sampleHttp (HttpCall.isBy samplePolicy sampleOwner)
    ((AlertStore.new .fallback).visibleTo sampleOwner)
    (twoActorCalls.filter (HttpCall.isBy samplePolicy sampleOwner)) with ⟨alone, own⟩
  exact ⟨answers, alone, shared, own, by decide +kernel, http_noninterference sampleHttp sampleOwner
    (AlertStore.new .fallback) twoActorCalls fresh answers alone shared own⟩

end EmbeddedAlerts
