import EmbeddedAlerts.Library.Json
import EmbeddedAlerts.Library.Fallible
import EmbeddedAlerts.Model.Uuid

namespace EmbeddedAlerts

/-!
# The authorization boundary

Every HTTP, WebSocket and TCP request is authorized by introspecting its
bearer token.  The introspection client is not part of this repository: its
answer is an argument here, and the checks on that answer are the repository's
own.  An accepted token yields a `VerifiedActor`, and that pair of subject and
product tenant is the only identity any later query uses.
-/

def readScope : String := "embedded-alerts:alerts:read"
def writeScope : String := "embedded-alerts:alerts:write"
def maxCredentialBytes : Nat := 16 * 1024

structure AuthPolicy where
  issuer : String
  audience : String
  authorizedClient : String
  providerTenant : String
  productTenant : String
deriving DecidableEq

structure VerifiedActor where
  subject : Uuid
  productTenant : String
deriving DecidableEq

inductive AuthError where
  | unauthorized
  | degraded
  | configuration
deriving DecidableEq

/-- What the introspection client may report instead of claims. -/
inductive ClientError where
  | unauthorized
  | invalidInput
  | other
deriving DecidableEq

/-- The claims that the authorization reads.  `rest` is the untyped claims
map; `hasScope` is the client library's own scope lookup. -/
structure Introspection where
  active : Bool
  sub : Option String
  sid : Option String
  iss : Option String
  aud : Option String
  azp : Option String
  providerTenant : Option String
  exp : Option Nat
  nbf : Option Nat
  hasScope : String -> Bool
  rest : List (String × Json)

def strictCredential (value : String) : Bool :=
  decide (16 ≤ Text.byteLength value) && decide (Text.byteLength value ≤ maxCredentialBytes) &&
    decide (Text.trim value = value) && !value.toList.any Text.isWhitespace &&
    !value.toList.any Text.isControl

/-- Bytes outside ASCII fail every class below, so testing characters instead
of bytes refuses the same texts. -/
def boundedIdentifier (value : String) : Bool :=
  decide (value ≠ "") && decide (Text.byteLength value ≤ 128) &&
    value.toList.all (fun character => character.isAlphanum || character == '.' ||
      character == '_' || character == ':' || character == '/' || character == '-')

def claimString (claims : Introspection) (key : String) : Option String :=
  match claims.rest.lookup key with
  | some (.string value) => if boundedIdentifier value then some value else none
  | _ => none

def authorizeIntrospection (claims : Introspection) (policy : AuthPolicy)
    (requiredScope : String) (now : Nat) : Except AuthError VerifiedActor :=
  let tenantId := claimString claims "tenant_id"
  let applicationId := claimString claims "application_id"
  let actorKind := claimString claims "actor_kind"
  let subject := claims.sub.bind Uuid.parseStr
  let sessionPresent := claims.sid.any boundedIdentifier
  match subject with
  | none => .error .unauthorized
  | some subject =>
      if !claims.active
          || claims.iss != some policy.issuer
          || claims.aud != some policy.audience
          || claims.azp != some policy.authorizedClient
          || claims.providerTenant != some policy.providerTenant
          || tenantId != some policy.productTenant
          || applicationId != some policy.authorizedClient
          || actorKind != some "user"
          || !claims.hasScope requiredScope
          || claims.exp.all (fun expiry => decide (expiry ≤ now))
          || claims.nbf.all (fun notBefore => decide (now < notBefore))
          || !sessionPresent then
        .error .unauthorized
      else .ok ⟨subject, policy.productTenant⟩

/-- `HeaderValue::to_str` yields a text for visible ASCII bytes only. -/
def headerText (value : List UInt8) : Option String :=
  if value.all (fun byte => decide (32 ≤ byte.toNat ∧ byte.toNat < 127) || byte.toNat == 9) then
    some (String.ofList (value.map (fun byte => Char.ofNat byte.toNat)))
  else none

def stripPrefix (front text : String) : Option String :=
  if front.toList.isPrefixOf text.toList then
    some (String.ofList (text.toList.drop front.toList.length))
  else none

/-- The header map is given by its `Authorization` values, in order. -/
def bearerFromHeaders (authorization : List (List UInt8)) : Except AuthError String :=
  match authorization with
  | [value] =>
      match headerText value with
      | none => .error .unauthorized
      | some text =>
          match stripPrefix "Bearer " text with
          | none => .error .unauthorized
          | some token => if strictCredential token then .ok token else .error .unauthorized
  | _ => .error .unauthorized

/-- What one call of the introspection client and the system clock answer. -/
structure AuthAnswer where
  claims : Except ClientError Introspection
  now : Option Nat

def verifyToken (policy : AuthPolicy) (answer : String -> AuthAnswer) (token requiredScope : String) :
    Except AuthError VerifiedActor :=
  if !strictCredential token || !boundedIdentifier requiredScope then .error .unauthorized
  else
    match (answer token).claims with
    | .error .unauthorized => .error .unauthorized
    | .error .invalidInput => .error .unauthorized
    | .error .other => .error .degraded
    | .ok claims =>
        match (answer token).now with
        | none => .error .degraded
        | some now => authorizeIntrospection claims policy requiredScope now

def verifyAuthorization (policy : AuthPolicy) (answer : String -> AuthAnswer)
    (authorization : List (List UInt8)) (requiredScope : String) :
    Except AuthError VerifiedActor := do
  let token ← bearerFromHeaders authorization
  verifyToken policy answer token requiredScope

/-! ## Configuration -/

/-- `required_env`: a configured value that is not blank, trimmed. -/
def requiredEnv (var : String -> Option String) (name : String) : Except AuthError String :=
  match var name with
  | none => .error .configuration
  | some value =>
      if Text.trim value = "" then .error .configuration else .ok (Text.trim value)

/-- What the boundary keeps: the client's two settings and the policy. -/
structure AuthBoundary where
  base : String
  serviceCredential : String
  policy : AuthPolicy

/-- `AuthBoundary::from_env` on the resolved configuration.  Which base URLs
the client accepts is decided in its own crate. -/
def AuthBoundary.fromEnv (var : String -> Option String) (clientAccepts : String -> Bool) :
    Except AuthError AuthBoundary := do
  let base ← requiredEnv var "SHARED_AUTH_BASE_URL"
  let serviceCredential ← requiredEnv var "SHARED_AUTH_SERVICE_CREDENTIAL"
  Fallible.refuseIf (!strictCredential serviceCredential) .configuration
  let issuer ← requiredEnv var "SHARED_AUTH_ISSUER"
  let audience ← requiredEnv var "EAL_AUTH_AUDIENCE"
  let authorizedClient ← requiredEnv var "EAL_AUTHORIZED_CLIENT"
  let providerTenant ← requiredEnv var "EAL_PROVIDER_TENANT"
  let productTenant ← requiredEnv var "EAL_PRODUCT_TENANT"
  Fallible.refuseIf
    (!boundedIdentifier audience || !boundedIdentifier authorizedClient
      || !boundedIdentifier providerTenant || !boundedIdentifier productTenant) .configuration
  Fallible.refuseIf (!clientAccepts base) .configuration
  return ⟨base, serviceCredential, issuer, audience, authorizedClient, providerTenant,
    productTenant⟩

/-- The four identifiers of an accepted configuration are bounded; the issuer
is only required to be present. -/
theorem AuthBoundary.fromEnv_identifiers {var : String -> Option String}
    {clientAccepts : String -> Bool} {boundary : AuthBoundary}
    (accepted : AuthBoundary.fromEnv var clientAccepts = .ok boundary) :
    boundedIdentifier boundary.policy.audience = true ∧
      boundedIdentifier boundary.policy.authorizedClient = true ∧
      boundedIdentifier boundary.policy.providerTenant = true ∧
      boundedIdentifier boundary.policy.productTenant = true := by
  rcases (Fallible.bind_eq_ok_iff _ _ _).mp accepted with ⟨_, _, accepted⟩
  rcases (Fallible.bind_eq_ok_iff _ _ _).mp accepted with ⟨_, _, accepted⟩
  rcases (Fallible.bind_eq_ok_iff _ _ _).mp accepted with ⟨_, _, accepted⟩
  rcases (Fallible.bind_eq_ok_iff _ _ _).mp accepted with ⟨_, _, accepted⟩
  rcases (Fallible.bind_eq_ok_iff _ _ _).mp accepted with ⟨_, _, accepted⟩
  rcases (Fallible.bind_eq_ok_iff _ _ _).mp accepted with ⟨_, _, accepted⟩
  rcases (Fallible.bind_eq_ok_iff _ _ _).mp accepted with ⟨_, _, accepted⟩
  rcases (Fallible.bind_eq_ok_iff _ _ _).mp accepted with ⟨_, _, accepted⟩
  rcases (Fallible.bind_eq_ok_iff _ _ _).mp accepted with ⟨_, bounded, accepted⟩
  rcases (Fallible.bind_eq_ok_iff _ _ _).mp accepted with ⟨_, _, accepted⟩
  cases accepted
  have identifiers := (Fallible.refuseIf_eq_ok_iff _ _).mp bounded
  simp only [Bool.or_eq_false_iff, Bool.not_eq_false'] at identifiers
  rcases identifiers with ⟨⟨⟨audience, client⟩, provider⟩, product⟩
  exact ⟨audience, client, provider, product⟩

/-- The tenant of an accepted configuration is a bounded identifier. -/
theorem AuthBoundary.fromEnv_productTenant {var : String -> Option String}
    {clientAccepts : String -> Bool} {boundary : AuthBoundary}
    (accepted : AuthBoundary.fromEnv var clientAccepts = .ok boundary) :
    boundedIdentifier boundary.policy.productTenant = true :=
  (AuthBoundary.fromEnv_identifiers accepted).2.2.2

/-! ## What an accepted token says -/

/-- Whoever is authorized, the product tenant is the configured one. -/
theorem authorizeIntrospection_productTenant {claims : Introspection} {policy : AuthPolicy}
    {requiredScope : String} {now : Nat} {actor : VerifiedActor}
    (authorized : authorizeIntrospection claims policy requiredScope now = .ok actor) :
    actor.productTenant = policy.productTenant := by
  unfold authorizeIntrospection at authorized
  dsimp only at authorized
  split at authorized
  · cases authorized
  · split at authorized
    · cases authorized
    · cases authorized
      rfl

theorem verifyToken_productTenant {policy : AuthPolicy} {answer : String -> AuthAnswer}
    {token requiredScope : String} {actor : VerifiedActor}
    (verified : verifyToken policy answer token requiredScope = .ok actor) :
    actor.productTenant = policy.productTenant := by
  unfold verifyToken at verified
  split at verified
  · cases verified
  · split at verified
    · cases verified
    · cases verified
    · cases verified
    · split at verified
      · cases verified
      · exact authorizeIntrospection_productTenant verified

theorem stripPrefix_append (front text : String) : stripPrefix front (front ++ text) = some text := by
  have leading : front.toList.isPrefixOf (front ++ text).toList = true := by
    rw [String.toList_append]
    exact List.isPrefixOf_iff_prefix.mpr (List.prefix_append _ _)
  rw [stripPrefix, if_pos leading, String.toList_append, List.drop_left, String.ofList_toList]

/-- Visible ASCII text is read back from its header bytes. -/
theorem headerText_asBytes {text : String}
    (visible : forall character, character ∈ text.toList ->
      32 ≤ character.toNat ∧ character.toNat < 127) :
    headerText (Text.asBytes text) = some text := by
  have ascii : forall character, character ∈ text.toList -> character.toNat < 128 :=
    fun character member => Nat.lt_succ_of_lt (visible character member).2
  have code : forall character : Char, character ∈ text.toList ->
      character.val.toUInt8.toNat = character.toNat := by
    intro character member
    have small := ascii character member
    change character.val.toNat < 128 at small
    rw [UInt32.toNat_toUInt8]
    exact Nat.mod_eq_of_lt (by omega)
  rw [Text.asBytes_of_ascii ascii, headerText, if_pos]
  · rw [List.map_map]
    have same : text.toList.map ((fun byte : UInt8 => Char.ofNat byte.toNat) ∘
        fun character => character.val.toUInt8) = text.toList := by
      refine (List.map_congr_left ?_).trans (List.map_id _)
      intro character member
      rw [Function.comp_apply, code character member, Char.ofNat_toNat]
      rfl
    rw [same, String.ofList_toList]
  · apply List.all_eq_true.mpr
    intro byte member
    rcases List.mem_map.mp member with ⟨character, present, rfl⟩
    rw [code character present]
    exact Bool.or_eq_true_iff.mpr (Or.inl (decide_eq_true (visible character present)))

/-- A single bearer header carries its token to the introspection. -/
theorem verifyAuthorization_bearer {policy : AuthPolicy} {answer : String -> AuthAnswer}
    {token requiredScope : String} {actor : VerifiedActor}
    (visible : forall character, character ∈ token.toList ->
      32 ≤ character.toNat ∧ character.toNat < 127)
    (verified : verifyAuthorization policy answer [Text.asBytes ("Bearer " ++ token)]
      requiredScope = .ok actor) :
    verifyToken policy answer token requiredScope = .ok actor := by
  have header : headerText (Text.asBytes ("Bearer " ++ token)) = some ("Bearer " ++ token) := by
    apply headerText_asBytes
    intro character member
    rw [String.toList_append, List.mem_append] at member
    rcases member with fixed | own
    · have tested : "Bearer ".toList.all
          (fun other => decide (32 ≤ other.toNat ∧ other.toNat < 127)) = true := by decide
      exact of_decide_eq_true (List.all_eq_true.mp tested character fixed)
    · exact visible character own
  rcases (Fallible.bind_eq_ok_iff _ _ _).mp verified with ⟨found, bearer, verified⟩
  simp only [bearerFromHeaders, header, stripPrefix_append] at bearer
  split at bearer
  · cases bearer
    exact verified
  · cases bearer

end EmbeddedAlerts
