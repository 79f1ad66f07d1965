import EmbeddedAlerts.Auth.Boundary
import EmbeddedAlerts.Transport.Encoding

namespace EmbeddedAlerts

/-!
# Operations over mutual TLS

One frame carries a bearer token and an operation envelope.  The envelope is
checked, the token is introspected, and the actor that the token yields has to
be the one that the envelope names.  Every refusal is a reply of its own.  A
reply that does not fit into a frame ends the connection instead.
-/

structure AuthenticatedOperation where
  authorization : String
  envelope : OperationEnvelope
deriving DecidableEq

/-- The operation and the actor of an admitted frame, or the reply that
refuses it.  The decoder comes from another crate and is an argument. -/
def authorizeOperation (policy : AuthPolicy) (answer : String -> AuthAnswer)
    (decode : List UInt8 -> Option AuthenticatedOperation) (frame : List UInt8)
    (clock : Option UInt64) : Except OperationReply (Uuid × VerifiedActor) :=
  match decode frame with
  | none => .error (errorReply Uuid.nil "invalid_request")
  | some request =>
      let operationId := request.envelope.operationId
      match clock with
      | none => .error (errorReply operationId "unavailable")
      | some now =>
          match validateOperationEnvelopeAt request.envelope now with
          | .error _ => .error (errorReply operationId "invalid_request")
          | .ok _ =>
              match stripPrefix "Bearer " request.authorization with
              | none => .error (errorReply operationId "unauthorized")
              | some token =>
                  match verifyToken policy answer token readScope with
                  | .error _ => .error (errorReply operationId "unauthorized")
                  | .ok actor =>
                      if actor.subject.toString = request.envelope.actorSubject ∧
                          actor.productTenant = request.envelope.productTenant then
                        .ok (operationId, actor)
                      else .error (errorReply operationId "unauthorized")

/-- The bounded list for an admitted operation. -/
def listReply (store : AlertStore) (operationId : Uuid) (actor : VerifiedActor) :
    ReadOutcome -> OperationReply
  | .answered =>
      match store.list actor with
      | .ok alerts => completedReply operationId alerts
      | .error _ => errorReply operationId "unavailable"
  | .failed => errorReply operationId "unavailable"
  | .timedOut => errorReply operationId "timeout"

def executeTcpOperation (store : AlertStore) (policy : AuthPolicy) (answer : String -> AuthAnswer)
    (decode : List UInt8 -> Option AuthenticatedOperation) (frame : List UInt8)
    (clock : Option UInt64) (outcome : ReadOutcome) : OperationReply :=
  match authorizeOperation policy answer decode frame clock with
  | .error reply => reply
  | .ok (operationId, actor) => listReply store operationId actor outcome

/-- The frame that `run_mtls` sends, unless it breaks the connection. -/
def mtlsFrame (format : JsonFormat) (reply : OperationReply) : Option (List UInt8) :=
  if maxFrameBytes < (reply.toJson format).size then none
  else some (Text.asBytes (reply.toJson format).compact)

theorem mtlsFrame_isSome_iff (format : JsonFormat) (reply : OperationReply) :
    (mtlsFrame format reply).isSome = true ↔ (reply.toJson format).size ≤ maxFrameBytes := by
  unfold mtlsFrame
  split
  · next large =>
      constructor
      · intro impossible
        cases impossible
      · intro fits
        exact absurd large (Nat.not_lt_of_le fits)
  · next fits => exact ⟨fun _ => Nat.le_of_not_lt fits, fun _ => rfl⟩

section

variable {policy : AuthPolicy} {answer : String -> AuthAnswer}
  {decode : List UInt8 -> Option AuthenticatedOperation} {frame : List UInt8}
  {clock : Option UInt64}

/-- The actor of an admitted frame is the one that its token yields. -/
theorem authorizeOperation_ok {operationId : Uuid} {actor : VerifiedActor}
    (admitted : authorizeOperation policy answer decode frame clock = .ok (operationId, actor)) :
    Exists fun request => Exists fun token => decode frame = some request ∧
      stripPrefix "Bearer " request.authorization = some token ∧
      verifyToken policy answer token readScope = .ok actor := by
  unfold authorizeOperation at admitted
  split at admitted
  · cases admitted
  · next request decoded =>
      dsimp only at admitted
      split at admitted
      · cases admitted
      · split at admitted
        · cases admitted
        · split at admitted
          · cases admitted
          · next token stripped =>
              split at admitted
              · cases admitted
              · next verified authorized =>
                  split at admitted
                  · cases admitted
                    exact ⟨request, token, decoded, stripped, authorized⟩
                  · cases admitted

theorem authorizeOperation_error {reply : OperationReply}
    (refused : authorizeOperation policy answer decode frame clock = .error reply) :
    reply.result = none := by
  unfold authorizeOperation at refused
  split at refused
  · cases refused
    rfl
  · dsimp only at refused
    split at refused
    · cases refused
      rfl
    · split at refused
      · cases refused
        rfl
      · split at refused
        · cases refused
          rfl
        · split at refused
          · cases refused
            rfl
          · split at refused
            · cases refused
            · cases refused
              rfl

theorem listReply_result {store : AlertStore} {operationId : Uuid} {actor : VerifiedActor}
    {outcome : ReadOutcome} {alerts : List AlertRule}
    (result : (listReply store operationId actor outcome).result = some alerts) :
    store.list actor = .ok alerts := by
  cases outcome with
  | answered =>
      unfold listReply at result
      cases listed : store.list actor with
      | ok found =>
          rw [listed] at result
          cases result
          rfl
      | error failure =>
          rw [listed] at result
          cases result
  | failed => cases result
  | timedOut => cases result

/-- A reply that carries alerts is the list of an admitted actor. -/
theorem executeTcpOperation_result {store : AlertStore} {outcome : ReadOutcome}
    {alerts : List AlertRule}
    (result : (executeTcpOperation store policy answer decode frame clock outcome).result =
      some alerts) :
    Exists fun operationId => Exists fun actor =>
      authorizeOperation policy answer decode frame clock = .ok (operationId, actor) ∧
      store.list actor = .ok alerts := by
  unfold executeTcpOperation at result
  split at result
  · next reply refused =>
      rw [authorizeOperation_error refused] at result
      cases result
  · next operationId actor admitted =>
      exact ⟨operationId, actor, admitted, listReply_result result⟩

end

end EmbeddedAlerts
