import EmbeddedAlerts.Auth.Boundary

namespace EmbeddedAlerts

/-!
# What the authorization boundary grants

The boundary is written as a chain of refusals: a header that is missing,
repeated or not of the bearer form, a credential that is not strict, an
introspection that fails and twelve conditions on its claims.  Here the same
decision is stated positively.  `Presented` says which header maps carry which
token, `Granted` says what has to hold of the claims, and each function of the
boundary succeeds exactly on its part of that statement.
-/

/-- `HeaderMap::get_all`: the values kept under one lower-case name, in order. -/
def getAll (headers : List (String × List UInt8)) (name : String) : List (List UInt8) :=
  (headers.filter (fun entry => entry.1 == name)).map Prod.snd

/-- A visible ASCII byte, which excludes the tab. -/
def VisibleByte (byte : UInt8) : Prop := 32 ≤ byte.toNat ∧ byte.toNat < 127

/-- The bytes and characters of an acceptable token. -/
structure StrictToken (token : String) : Prop where
  least : 16 ≤ Text.byteLength token
  greatest : Text.byteLength token ≤ 16384
  solid : forall character, character ∈ token.toList -> Text.isWhitespace character = false
  printable : forall character, character ∈ token.toList -> Text.isControl character = false

/-- The header map carries the token: its one `Authorization` value is visible
ASCII and reads `Bearer`, a space and the token. -/
def Presented (headers : List (String × List UInt8)) (token : String) : Prop :=
  Exists fun value => getAll headers "authorization" = [value] ∧
    (forall byte, byte ∈ value -> VisibleByte byte) ∧
    value = Text.asBytes ("Bearer " ++ token) ∧ StrictToken token

/-- The claims, condition by condition, for the scope at the time. -/
structure Granted (policy : AuthPolicy) (requiredScope : String) (now : Nat)
    (claims : Introspection) (subject : Uuid) : Prop where
  active : claims.active = true
  issuer : claims.iss = some policy.issuer
  audience : claims.aud = some policy.audience
  client : claims.azp = some policy.authorizedClient
  providerTenant : claims.providerTenant = some policy.providerTenant
  productTenant : claims.rest.lookup "tenant_id" = some (.string policy.productTenant)
  application : claims.rest.lookup "application_id" = some (.string policy.authorizedClient)
  actorKind : claims.rest.lookup "actor_kind" = some (.string "user")
  scope : claims.hasScope requiredScope = true
  begun : Exists fun notBefore => claims.nbf = some notBefore ∧ notBefore ≤ now
  unexpired : Exists fun expiry => claims.exp = some expiry ∧ now < expiry
  identity : Exists fun sub => claims.sub = some sub ∧ Uuid.parseStr sub = some subject
  session : Exists fun sid => claims.sid = some sid ∧ boundedIdentifier sid = true

/-! ## The credential -/

/-- A text without whitespace is its own trimming, so the trimming test of
`strict_credential` refuses nothing that the whitespace test accepts. -/
theorem strictCredential_iff (token : String) :
    strictCredential token = true ↔ StrictToken token := by
  have solid_iff : token.toList.any Text.isWhitespace = false ↔
      forall character, character ∈ token.toList -> Text.isWhitespace character = false := by
    simp only [List.any_eq_false, Bool.not_eq_true]
  have printable_iff : token.toList.any Text.isControl = false ↔
      forall character, character ∈ token.toList -> Text.isControl character = false := by
    simp only [List.any_eq_false, Bool.not_eq_true]
  simp only [strictCredential, Bool.and_eq_true, decide_eq_true_eq, Bool.not_eq_true',
    solid_iff, printable_iff]
  constructor
  · rintro ⟨⟨⟨⟨least, greatest⟩, _⟩, solid⟩, printable⟩
    exact ⟨least, greatest, solid, printable⟩
  · intro strict
    exact ⟨⟨⟨⟨strict.least, strict.greatest⟩, Text.trim_of_solid strict.solid⟩, strict.solid⟩,
      strict.printable⟩

/-! ## The header -/

theorem stripPrefix_eq_some_iff (front text rest : String) :
    stripPrefix front text = some rest ↔ text = front ++ rest := by
  constructor
  · intro stripped
    rw [stripPrefix] at stripped
    split at stripped
    · rename_i leading
      rcases List.isPrefixOf_iff_prefix.mp leading with ⟨remaining, joined⟩
      rw [← joined, List.drop_left, Option.some.injEq] at stripped
      apply String.toList_inj.mp
      rw [String.toList_append, ← stripped, String.toList_ofList, joined]
    · cases stripped
  · rintro rfl
    exact stripPrefix_append front rest

/-- The text of a header value that can be read: its bytes, one character
each. -/
theorem asBytes_of_headerText {value : List UInt8} {text : String}
    (read : headerText value = some text) : Text.asBytes text = value := by
  rw [headerText] at read
  split at read
  · rename_i tested
    cases read
    have small : forall byte, byte ∈ value -> byte.toNat < 128 := by
      intro byte member
      have visible := List.all_eq_true.mp tested byte member
      simp only [Bool.or_eq_true, decide_eq_true_eq, beq_iff_eq] at visible
      omega
    have code : forall byte, byte ∈ value -> (Char.ofNat byte.toNat).toNat = byte.toNat := by
      intro byte member
      have valid : byte.toNat.isValidChar := Or.inl (Nat.lt_trans (small byte member) (by decide))
      rw [Char.ofNat, dif_pos valid]
      rfl
    rw [Text.asBytes_of_ascii, String.toList_ofList, List.map_map]
    · refine (List.map_congr_left ?_).trans (List.map_id _)
      intro byte member
      apply UInt8.toNat_inj.mp
      change (Char.ofNat byte.toNat).toNat % 2 ^ 8 = byte.toNat
      rw [code byte member]
      exact Nat.mod_eq_of_lt (Nat.lt_trans (small byte member) (by decide))
    · intro character member
      rw [String.toList_ofList] at member
      rcases List.mem_map.mp member with ⟨byte, present, rfl⟩
      rw [code byte present]
      exact small byte present
  · cases read

/-- Each byte of a readable value is visible or the tab, and stands in the
text as its character. -/
theorem mem_of_headerText {value : List UInt8} {text : String} {byte : UInt8}
    (read : headerText value = some text) (member : byte ∈ value) :
    (VisibleByte byte ∨ byte = 9) ∧ Char.ofNat byte.toNat ∈ text.toList := by
  rw [headerText] at read
  split at read
  · rename_i tested
    cases read
    have visible := List.all_eq_true.mp tested byte member
    simp only [Bool.or_eq_true, decide_eq_true_eq, beq_iff_eq] at visible
    refine ⟨visible.imp id (fun tab => UInt8.toNat_inj.mp tab), ?_⟩
    rw [String.toList_ofList]
    exact List.mem_map.mpr ⟨byte, member, rfl⟩
  · cases read

/-- The bearer form leaves the tab no place: it is neither in the scheme nor,
as a whitespace character, in a strict token. -/
theorem visibleByte_of_bearer {value : List UInt8} {token : String}
    (read : headerText value = some ("Bearer " ++ token)) (strict : StrictToken token)
    {byte : UInt8} (member : byte ∈ value) : VisibleByte byte := by
  rcases mem_of_headerText read member with ⟨visible | rfl, present⟩
  · exact visible
  · rw [String.toList_append, List.mem_append] at present
    rcases present with scheme | own
    · have tested : "Bearer ".toList.all (fun other => decide (other.toNat ≠ 9)) = true := by decide
      exact absurd rfl (of_decide_eq_true (List.all_eq_true.mp tested _ scheme))
    · exact absurd (strict.solid _ own) (by decide)

/-- A text with visible bytes only is read back from them. -/
theorem headerText_of_visibleBytes {text : String}
    (visible : forall byte, byte ∈ Text.asBytes text -> VisibleByte byte) :
    headerText (Text.asBytes text) = some text := by
  have tested : (Text.asBytes text).all
      (fun byte => decide (32 ≤ byte.toNat ∧ byte.toNat < 127) || byte.toNat == 9) = true := by
    apply List.all_eq_true.mpr
    intro byte member
    exact Bool.or_eq_true_iff.mpr (Or.inl (decide_eq_true (visible byte member)))
  have read : Exists fun found => headerText (Text.asBytes text) = some found := by
    rw [headerText, if_pos tested]
    exact ⟨_, rfl⟩
  rcases read with ⟨found, read⟩
  rw [read, Text.asBytes_injective (asBytes_of_headerText read)]

/-- `bearer_from_headers` finds a token exactly where one is presented. -/
theorem bearerFromHeaders_eq_ok_iff (headers : List (String × List UInt8)) (token : String) :
    bearerFromHeaders (getAll headers "authorization") = .ok token ↔ Presented headers token := by
  constructor
  · intro found
    unfold bearerFromHeaders at found
    split at found
    · rename_i value single
      split at found
      · cases found
      · rename_i text read
        split at found
        · cases found
        · rename_i rest stripped
          split at found
          · rename_i strict
            cases found
            have whole := (stripPrefix_eq_some_iff _ _ _).mp stripped
            have bytes := asBytes_of_headerText read
            have credential := (strictCredential_iff token).mp strict
            refine ⟨value, single, ?_, by rw [← whole, bytes], credential⟩
            rw [whole] at read
            intro byte member
            exact visibleByte_of_bearer read credential member
          · cases found
    · cases found
  · rintro ⟨value, single, visible, rfl, strict⟩
    have read := headerText_of_visibleBytes visible
    rw [single, bearerFromHeaders]
    simp only [read, stripPrefix_append, (strictCredential_iff token).mpr strict, if_true]

/-! ## The claims -/

/-- The filter of `claim_string` lets a bounded value through. -/
theorem claimString_of_bounded {claims : Introspection} {key value : String}
    (bounded : boundedIdentifier value = true) :
    claimString claims key = some value ↔ claims.rest.lookup key = some (.string value) := by
  rw [claimString]
  constructor
  · intro found
    split at found
    · rename_i other present
      split at found
      · cases found
        exact present
      · cases found
    · cases found
  · intro present
    rw [present]
    simp only [bounded, if_true]

/-- An option that is absent or fails the test is the negation of a present
value that passes. -/
theorem all_eq_false_iff {α : Type} (value : Option α) (test : α -> Bool) :
    value.all test = false ↔ Exists fun found => value = some found ∧ test found = false := by
  cases value with
  | none => simp
  | some found => simp

/-- The refusals of `authorize_introspection`, none of which fires, together
with the parsed subject are the conditions of `Granted`. -/
theorem granted_iff {policy : AuthPolicy}
    (client : boundedIdentifier policy.authorizedClient = true)
    (tenant : boundedIdentifier policy.productTenant = true)
    (claims : Introspection) (requiredScope : String) (now : Nat) (subject : Uuid) :
    Granted policy requiredScope now claims subject ↔
      (!claims.active
        || claims.iss != some policy.issuer
        || claims.aud != some policy.audience
        || claims.azp != some policy.authorizedClient
        || claims.providerTenant != some policy.providerTenant
        || claimString claims "tenant_id" != some policy.productTenant
        || claimString claims "application_id" != some policy.authorizedClient
        || claimString claims "actor_kind" != some "user"
        || !claims.hasScope requiredScope
        || claims.exp.all (fun expiry => decide (expiry ≤ now))
        || claims.nbf.all (fun notBefore => decide (now < notBefore))
        || !claims.sid.any boundedIdentifier) = false ∧
      claims.sub.bind Uuid.parseStr = some subject := by
  have actorKind : boundedIdentifier "user" = true := by decide
  simp only [Bool.or_eq_false_iff, Bool.not_eq_false', bne_eq_false_iff_eq,
    claimString_of_bounded client, claimString_of_bounded tenant,
    claimString_of_bounded actorKind, all_eq_false_iff, decide_eq_false_iff_not, Nat.not_le,
    Nat.not_lt, Option.any_eq_true, Option.bind_eq_some_iff]
  constructor
  · intro granted
    exact ⟨⟨⟨⟨⟨⟨⟨⟨⟨⟨⟨⟨granted.active, granted.issuer⟩, granted.audience⟩, granted.client⟩,
      granted.providerTenant⟩, granted.productTenant⟩, granted.application⟩, granted.actorKind⟩,
      granted.scope⟩, granted.unexpired⟩, granted.begun⟩, granted.session⟩, granted.identity⟩
  · rintro ⟨⟨⟨⟨⟨⟨⟨⟨⟨⟨⟨⟨active, issuer⟩, audience⟩, client⟩, provider⟩, tenant⟩, application⟩, kind⟩,
      scope⟩, unexpired⟩, begun⟩, session⟩, identity⟩
    exact ⟨active, issuer, audience, client, provider, tenant, application, kind, scope, begun,
      unexpired, identity, session⟩

/-- For a policy with bounded identifiers, `authorize_introspection` decides
`Granted`. -/
theorem authorizeIntrospection_eq_ok_iff {policy : AuthPolicy}
    (client : boundedIdentifier policy.authorizedClient = true)
    (tenant : boundedIdentifier policy.productTenant = true)
    (claims : Introspection) (requiredScope : String) (now : Nat) (actor : VerifiedActor) :
    authorizeIntrospection claims policy requiredScope now = .ok actor ↔
      Granted policy requiredScope now claims actor.subject ∧
        actor.productTenant = policy.productTenant := by
  rw [granted_iff client tenant]
  unfold authorizeIntrospection
  dsimp only
  cases parsed : claims.sub.bind Uuid.parseStr with
  | none =>
      constructor
      · intro refused
        cases refused
      · rintro ⟨⟨_, present⟩, _⟩
        cases present
  | some subject =>
      dsimp only
      split
      · rename_i refused
        constructor
        · intro accepted
          cases accepted
        · rintro ⟨⟨passed, _⟩, _⟩
          rw [passed] at refused
          cases refused
      · rename_i passed
        constructor
        · intro accepted
          cases accepted
          exact ⟨⟨Bool.eq_false_iff.mpr passed, rfl⟩, rfl⟩
        · rintro ⟨⟨_, present⟩, sameTenant⟩
          rw [Option.some.injEq] at present
          rw [present, ← sameTenant]

/-! ## The same claims at a later time -/

theorem bounded_of_claimString {claims : Introspection} {key value : String}
    (found : claimString claims key = some value) : boundedIdentifier value = true := by
  rw [claimString] at found
  split at found
  · split at found
    · rename_i bounded
      cases found
      exact bounded
    · cases found
  · cases found

/-- An authorization itself shows that the two looked-up values are bounded,
whatever the policy. -/
theorem bounded_of_authorized {claims : Introspection} {policy : AuthPolicy}
    {requiredScope : String} {now : Nat} {actor : VerifiedActor}
    (authorized : authorizeIntrospection claims policy requiredScope now = .ok actor) :
    boundedIdentifier policy.authorizedClient = true ∧
      boundedIdentifier policy.productTenant = true := by
  unfold authorizeIntrospection at authorized
  dsimp only at authorized
  split at authorized
  · cases authorized
  · split at authorized
    · cases authorized
    · rename_i passed
      simp only [Bool.or_eq_true, not_or, Bool.not_eq_true, bne_eq_false_iff_eq] at passed
      rcases passed with ⟨⟨⟨⟨⟨⟨⟨_, tenant⟩, application⟩, _⟩, _⟩, _⟩, _⟩, _⟩
      exact ⟨bounded_of_claimString application, bounded_of_claimString tenant⟩

/-- Of everything that is checked only the expiry can fail later. -/
theorem authorizeIntrospection_later {claims : Introspection} {policy : AuthPolicy}
    {requiredScope : String} {now later : Nat} {actor : VerifiedActor}
    (authorized : authorizeIntrospection claims policy requiredScope now = .ok actor)
    (passes : now ≤ later) :
    authorizeIntrospection claims policy requiredScope later = .ok actor ↔
      Exists fun expiry => claims.exp = some expiry ∧ later < expiry := by
  rcases bounded_of_authorized authorized with ⟨client, tenant⟩
  rcases (authorizeIntrospection_eq_ok_iff client tenant _ _ _ _).mp authorized with
    ⟨granted, sameTenant⟩
  rw [authorizeIntrospection_eq_ok_iff client tenant]
  constructor
  · rintro ⟨still, _⟩
    exact still.unexpired
  · intro unexpired
    rcases granted.begun with ⟨notBefore, present, begun⟩
    exact ⟨{ granted with
      begun := ⟨notBefore, present, Nat.le_trans begun passes⟩
      unexpired := unexpired }, sameTenant⟩

/-! ## The whole decision -/

/-- A verified token was introspected, and its claims were authorized at the
time of the clock. -/
theorem claims_of_verifyToken {policy : AuthPolicy}
    {introspect : String -> Except ClientError Introspection} {now : Nat}
    {token requiredScope : String} {actor : VerifiedActor}
    (verified : verifyToken policy (fun presented => ⟨introspect presented, some now⟩) token
      requiredScope = .ok actor) :
    Exists fun claims => introspect token = .ok claims ∧
      authorizeIntrospection claims policy requiredScope now = .ok actor := by
  unfold verifyToken at verified
  split at verified
  · cases verified
  · dsimp only at verified
    split at verified
    · cases verified
    · cases verified
    · cases verified
    · rename_i claims answered
      exact ⟨claims, answered, verified⟩

/-- `verify_token` on an introspection and a clock that answers `now`. -/
theorem verifyToken_eq_ok_iff (policy : AuthPolicy)
    (introspect : String -> Except ClientError Introspection) (now : Nat)
    {token requiredScope : String} (strict : strictCredential token = true)
    (scope : boundedIdentifier requiredScope = true) (actor : VerifiedActor) :
    verifyToken policy (fun presented => ⟨introspect presented, some now⟩) token requiredScope =
        .ok actor ↔
      Exists fun claims => introspect token = .ok claims ∧
        authorizeIntrospection claims policy requiredScope now = .ok actor := by
  constructor
  · exact claims_of_verifyToken
  · rintro ⟨claims, answered, authorized⟩
    unfold verifyToken
    rw [strict, scope]
    dsimp only
    rw [answered]
    exact authorized

/-- Under a configuration that the boundary accepts, a request is authorized
exactly when its header map presents a token whose introspection succeeds with
claims that grant the scope; the actor is then the subject of those claims and
the configured tenant.  The filter on looked-up claims never refuses a value
that the policy compares against. -/
theorem verifyAuthorization_eq_ok_iff {var : String -> Option String}
    {clientAccepts : String -> Bool} {boundary : AuthBoundary}
    (accepted : AuthBoundary.fromEnv var clientAccepts = .ok boundary)
    (introspect : String -> Except ClientError Introspection) (now : Nat)
    (headers : List (String × List UInt8)) {requiredScope : String}
    (scope : boundedIdentifier requiredScope = true) :
    (forall actor : VerifiedActor,
      verifyAuthorization boundary.policy (fun token => ⟨introspect token, some now⟩)
          (getAll headers "authorization") requiredScope = .ok actor ↔
        Exists fun token => Exists fun claims =>
          Presented headers token ∧ introspect token = .ok claims ∧
            Granted boundary.policy requiredScope now claims actor.subject ∧
            actor.productTenant = boundary.policy.productTenant) ∧
      (forall (claims : Introspection) (key value : String),
        value ∈ [boundary.policy.audience, boundary.policy.authorizedClient,
          boundary.policy.providerTenant, boundary.policy.productTenant, "user"] ->
        claims.rest.lookup key = some (.string value) ->
        claimString claims key = some value) := by
  rcases AuthBoundary.fromEnv_identifiers accepted with ⟨audience, client, provider, tenant⟩
  constructor
  · intro actor
    constructor
    · intro verified
      rcases (Fallible.bind_eq_ok_iff _ _ _).mp verified with ⟨token, found, verified⟩
      have presented := (bearerFromHeaders_eq_ok_iff headers token).mp found
      rcases id presented with ⟨_, _, _, _, credential⟩
      have strict := (strictCredential_iff token).mpr credential
      rcases (verifyToken_eq_ok_iff _ introspect now strict scope actor).mp verified with
        ⟨claims, answered, authorized⟩
      exact ⟨token, claims, presented, answered,
        (authorizeIntrospection_eq_ok_iff client tenant claims _ now actor).mp authorized⟩
    · rintro ⟨token, claims, presented, answered, granted⟩
      rcases id presented with ⟨_, _, _, _, credential⟩
      have strict := (strictCredential_iff token).mpr credential
      apply (Fallible.bind_eq_ok_iff _ _ _).mpr
      refine ⟨token, (bearerFromHeaders_eq_ok_iff headers token).mpr presented, ?_⟩
      apply (verifyToken_eq_ok_iff _ introspect now strict scope actor).mpr
      exact ⟨claims, answered,
        (authorizeIntrospection_eq_ok_iff client tenant claims _ now actor).mpr granted⟩
  · intro claims key value listed
    have bounded : boundedIdentifier value = true := by
      simp only [List.mem_cons, List.not_mem_nil, or_false] at listed
      rcases listed with rfl | rfl | rfl | rfl | rfl
      · exact audience
      · exact client
      · exact provider
      · exact tenant
      · decide
    exact (claimString_of_bounded bounded).mpr

/-! ## A reader -/

/-- A complete configuration for the given product tenant. -/
def sampleEnv (tenant : String) : String -> Option String
  | "SHARED_AUTH_BASE_URL" => some "https://identity.example"
  | "SHARED_AUTH_SERVICE_CREDENTIAL" => some "service-credential-0123456789"
  | "SHARED_AUTH_ISSUER" => some "https://identity.example"
  | "EAL_AUTH_AUDIENCE" => some "embedded-alerts"
  | "EAL_AUTHORIZED_CLIENT" => some "embedded-alerts-web"
  | "EAL_PROVIDER_TENANT" => some "provider-1"
  | "EAL_PRODUCT_TENANT" => some tenant
  | _ => none

def sampleBoundary (tenant : String) : AuthBoundary where
  base := "https://identity.example"
  serviceCredential := "service-credential-0123456789"
  policy := ⟨"https://identity.example", "embedded-alerts", "embedded-alerts-web", "provider-1",
    tenant⟩

/-- The introspection of an active user of that tenant. -/
def readerClaims (tenant : String) : Introspection where
  active := true
  sub := some (Uuid.ofNat 7).toString
  sid := some "session-1"
  iss := some "https://identity.example"
  aud := some "embedded-alerts"
  azp := some "embedded-alerts-web"
  providerTenant := some "provider-1"
  exp := some 2000000300
  nbf := some 1999999700
  hasScope := fun scope => decide (scope = readScope)
  rest := [("tenant_id", .string tenant), ("application_id", .string "embedded-alerts-web"),
    ("actor_kind", .string "user")]

/-- The reader's one bearer header, among others, is authorized inside the
lifetime of its token. -/
theorem reader_authorized :
    AuthBoundary.fromEnv (sampleEnv "embedded-alerts") (fun _ => true) =
        .ok (sampleBoundary "embedded-alerts") ∧
      boundedIdentifier readScope = true ∧
      verifyAuthorization (sampleBoundary "embedded-alerts").policy
        (fun _ => ⟨.ok (readerClaims "embedded-alerts"), some 2000000000⟩)
        (getAll [("accept", Text.asBytes "*/*"),
          ("authorization", Text.asBytes ("Bearer " ++ "sample-access-token"))] "authorization")
        readScope = .ok ⟨Uuid.ofNat 7, "embedded-alerts"⟩ := by
  have configured : AuthBoundary.fromEnv (sampleEnv "embedded-alerts") (fun _ => true) =
      .ok (sampleBoundary "embedded-alerts") := by rfl
  have scope : boundedIdentifier readScope = true := by decide
  have visible : (Text.asBytes ("Bearer " ++ "sample-access-token")).all
      (fun byte => decide (32 ≤ byte.toNat ∧ byte.toNat < 127)) = true := by decide +kernel
  refine ⟨configured, scope, ?_⟩
  apply ((verifyAuthorization_eq_ok_iff configured (fun _ => .ok (readerClaims "embedded-alerts"))
    2000000000 _ scope).1 _).mpr
  refine ⟨"sample-access-token", readerClaims "embedded-alerts", ?_, rfl, ?_, rfl⟩
  · refine ⟨_, rfl, ?_, rfl, (strictCredential_iff _).mp (by decide)⟩
    intro byte member
    have inside := of_decide_eq_true (List.all_eq_true.mp visible byte member)
    exact inside
  · exact ⟨rfl, rfl, rfl, rfl, rfl, rfl, rfl, rfl, by decide, ⟨1999999700, rfl, by decide⟩,
      ⟨2000000300, rfl, by decide⟩, ⟨_, rfl, Uuid.parseStr_toString _⟩, ⟨_, rfl, by decide⟩⟩

end EmbeddedAlerts
