import EmbeddedAlerts.Transport.Tcp

namespace EmbeddedAlerts

/-!
# The HTTP handlers

Each handler authorizes the request first and uses the actor that this yields
for everything else.  What the environment decides is an argument: the answer
of the introspection, whether the database is reachable, and the identifier
and instant that a create draws.
-/

inductive ApiError where
  | unauthorized
  | degraded
  | invalidRequest
  | notFound
  | unavailable
deriving DecidableEq

def ApiError.ofAuth : AuthError -> ApiError
  | .unauthorized => .unauthorized
  | .degraded => .degraded
  | .configuration => .degraded

/-- A request by its `Authorization` values, with the environment's part. -/
structure Request where
  authorization : List (List UInt8)
  answer : String -> AuthAnswer
  reachable : Bool

/-- `verify_authorization`, with its errors as the handlers return them. -/
def Request.actor (request : Request) (policy : AuthPolicy) (requiredScope : String) :
    Except ApiError VerifiedActor :=
  match verifyAuthorization policy request.answer request.authorization requiredScope with
  | .ok actor => .ok actor
  | .error failure => .error (ApiError.ofAuth failure)

/-- A store call in a handler: whatever goes wrong is `Unavailable`. -/
def Request.stored {α : Type} (request : Request) (result : Except StoreError α) :
    Except ApiError α :=
  match request.reachable, result with
  | true, .ok value => .ok value
  | _, _ => .error .unavailable

def listAlerts (policy : AuthPolicy) (store : AlertStore) (request : Request) :
    Except ApiError (List AlertRule) := do
  let actor <- request.actor policy readScope
  request.stored (store.list actor)

def getAlert (policy : AuthPolicy) (store : AlertStore) (request : Request) (id : Uuid) :
    Except ApiError AlertRule := do
  let actor <- request.actor policy readScope
  let found <- request.stored (store.get actor id)
  match found with
  | some alert => return alert
  | none => .error .notFound

/-- The event that a create broadcasts.  The owner is not serialized. -/
structure ScopedAlertEvent where
  productTenant : String
  ownerSubject : Uuid
  kind : String
  alert : AlertRule
deriving DecidableEq

/-- The store after the create, and the event that the handler sends before it
returns the alert. -/
def createAlert (policy : AuthPolicy) (store : AlertStore) (request : Request)
    (input : CreateAlertRule) (id : Uuid) (now : DateTime) :
    Except ApiError (AlertStore × ScopedAlertEvent) := do
  let actor <- request.actor policy writeScope
  match input.validate with
  | .error _ => .error .invalidRequest
  | .ok _ =>
      let created <- request.stored (store.create actor input id now)
      return (created.1, ⟨actor.productTenant, actor.subject, "created", created.2⟩)

def ScopedAlertEvent.owner (event : ScopedAlertEvent) : VerifiedActor :=
  ⟨event.ownerSubject, event.productTenant⟩

/-- The filter of a WebSocket session. -/
def ScopedAlertEvent.visible (event : ScopedAlertEvent) (actor : VerifiedActor) : Bool :=
  decide (event.productTenant = actor.productTenant) && decide (event.ownerSubject = actor.subject)

theorem ScopedAlertEvent.visible_iff (event : ScopedAlertEvent) (actor : VerifiedActor) :
    event.visible actor = true ↔ event.owner = actor := by
  rcases actor with ⟨subject, tenant⟩
  simp only [visible, owner, Bool.and_eq_true, decide_eq_true_eq, VerifiedActor.mk.injEq]
  exact And.comm

/-! ## What a successful handler has done -/

theorem Request.stored_eq_ok_iff {α : Type} (request : Request) (result : Except StoreError α)
    (value : α) :
    request.stored result = .ok value ↔ request.reachable = true ∧ result = .ok value := by
  unfold Request.stored
  cases request.reachable <;> cases result <;> simp

theorem listAlerts_ok {policy : AuthPolicy} {store : AlertStore} {request : Request}
    {alerts : List AlertRule} (done : listAlerts policy store request = .ok alerts) :
    Exists fun actor => request.actor policy readScope = .ok actor ∧
      store.list actor = .ok alerts := by
  rcases (Fallible.bind_eq_ok_iff _ _ _).mp done with ⟨actor, authorized, listed⟩
  exact ⟨actor, authorized, ((Request.stored_eq_ok_iff _ _ _).mp listed).2⟩

theorem getAlert_ok {policy : AuthPolicy} {store : AlertStore} {request : Request} {id : Uuid}
    {alert : AlertRule} (done : getAlert policy store request id = .ok alert) :
    Exists fun actor => request.actor policy readScope = .ok actor ∧
      store.get actor id = .ok (some alert) := by
  rcases (Fallible.bind_eq_ok_iff _ _ _).mp done with ⟨actor, authorized, done⟩
  rcases (Fallible.bind_eq_ok_iff _ _ _).mp done with ⟨found, fetched, done⟩
  cases found with
  | none => cases done
  | some other =>
      cases done
      exact ⟨actor, authorized, ((Request.stored_eq_ok_iff _ _ _).mp fetched).2⟩

theorem createAlert_ok {policy : AuthPolicy} {store next : AlertStore} {request : Request}
    {input : CreateAlertRule} {id : Uuid} {now : DateTime} {event : ScopedAlertEvent}
    (done : createAlert policy store request input id now = .ok (next, event)) :
    Exists fun actor => request.actor policy writeScope = .ok actor ∧ event.owner = actor ∧
      store.create actor input id now = .ok (next, event.alert) := by
  rcases (Fallible.bind_eq_ok_iff _ _ _).mp done with ⟨actor, authorized, done⟩
  split at done
  · cases done
  · rcases (Fallible.bind_eq_ok_iff _ _ _).mp done with ⟨created, stored, done⟩
    cases done
    exact ⟨actor, authorized, rfl, ((Request.stored_eq_ok_iff _ _ _).mp stored).2⟩

end EmbeddedAlerts
