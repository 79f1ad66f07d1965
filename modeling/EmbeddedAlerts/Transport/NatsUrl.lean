import EmbeddedAlerts.Library.Url
import EmbeddedAlerts.Transport.Envelope

namespace EmbeddedAlerts

/-!
# The URL of the JetStream connection

The consumer connects to one configured URL.  `validate_nats_url` looks at its
first characters and for an `@` anywhere, while the connection goes to the host
that the URL grammar finds.  Over that grammar the check means what it is for: no
credentials, and plain NATS on the loopback interface only.
-/

def startsWith (value front : String) : Bool := front.toList.isPrefixOf value.toList

def validateNatsUrl (value : String) : Except String Unit :=
  let secure := startsWith value "tls://" &&
    decide (Text.byteLength "tls://" < Text.byteLength value)
  let loopback := startsWith value "nats://127.0.0.1:" || startsWith value "nats://localhost:" ||
    startsWith value "nats://[::1]:"
  if (secure || loopback) && !value.toList.contains '@' then .ok ()
  else .error "remote NATS requires a credential-free tls:// URL"

namespace JetStream

def optionalEnv (var : String -> Option String) (name : String) : Option String :=
  ((var name).map Text.trim).filter (fun value => decide (value ≠ ""))

def requiredEnv (var : String -> Option String) (name : String) : Except String String :=
  match optionalEnv var name with
  | some value => .ok value
  | none => .error (name ++ " is required")

/-- What the consumer is started with, next to the database and the tenant. -/
structure Settings where
  url : String
  commandKey : List UInt8

/-- `spawn_jetstream_from_env` up to the start of the task. -/
def spawnFromEnv (var : String -> Option String) (database : Bool) :
    Except String (Option Settings) :=
  match optionalEnv var "NATS_URL" with
  | none => .ok none
  | some url => do
      validateNatsUrl url
      let key ← requiredEnv var "EAL_NATS_COMMAND_HMAC_KEY"
      let commandKey := Text.asBytes key
      Fallible.refuseIf (!validCommandKey commandKey) "EAL_NATS_COMMAND_HMAC_KEY is malformed"
      Fallible.refuseIf (!database)
        "JetStream requires DATABASE_URL for durable inbox/outbox state"
      pure (some ⟨url, commandKey⟩)

end JetStream

def loopbackHosts : List (List Char) :=
  ["127.0.0.1".toList, "localhost".toList, "[::1]".toList]

/-- TLS, or plain NATS to the machine itself. -/
def Url.Parts.Private (parts : Url.Parts) : Prop :=
  parts.scheme = "tls".toList ∨ parts.scheme = "nats".toList ∧ parts.host ∈ loopbackHosts

/-! ## What the check accepts -/

theorem startsWith_iff {value front : String} :
    startsWith value front = true ↔ front.toList <+: value.toList :=
  List.isPrefixOf_iff_prefix

theorem startsWith_and_longer_iff {value front : String} :
    (startsWith value front && decide (Text.byteLength front < Text.byteLength value)) = true ↔
      Exists fun rest => value.toList = front.toList ++ rest ∧ rest ≠ [] := by
  rw [Bool.and_eq_true, startsWith_iff, decide_eq_true_eq]
  constructor
  · rintro ⟨⟨rest, split⟩, longer⟩
    exact ⟨rest, split.symm, (Text.byteLength_lt_iff split.symm).mp longer⟩
  · rintro ⟨rest, split, nonempty⟩
    exact ⟨⟨rest, split.symm⟩, (Text.byteLength_lt_iff split).mpr nonempty⟩

theorem validateNatsUrl_eq_ok_iff (value : String) :
    validateNatsUrl value = .ok () ↔
      ((Exists fun rest => value.toList = "tls://".toList ++ rest ∧ rest ≠ []) ∨
        Exists fun host => host ∈ loopbackHosts ∧
          "nats://".toList ++ (host ++ [':']) <+: value.toList) ∧ '@' ∉ value.toList := by
  have accepted : validateNatsUrl value = .ok () ↔
      ((startsWith value "tls://" &&
          decide (Text.byteLength "tls://" < Text.byteLength value)) = true ∨
        (startsWith value "nats://127.0.0.1:" = true ∨ startsWith value "nats://localhost:" = true) ∨
          startsWith value "nats://[::1]:" = true) ∧ '@' ∉ value.toList := by
    simp only [validateNatsUrl]
    split
    · next passed =>
        rw [Bool.and_eq_true, Bool.or_eq_true, Bool.or_eq_true, Bool.or_eq_true,
          Bool.not_eq_true', Bool.eq_false_iff, Ne, List.contains_iff_mem] at passed
        exact iff_of_true rfl passed
    · next refused =>
        rw [Bool.and_eq_true, Bool.or_eq_true, Bool.or_eq_true, Bool.or_eq_true,
          Bool.not_eq_true', Bool.eq_false_iff, Ne, List.contains_iff_mem] at refused
        exact iff_of_false (fun same => by cases same) refused
  have hosts : ((startsWith value "nats://127.0.0.1:" = true ∨
      startsWith value "nats://localhost:" = true) ∨ startsWith value "nats://[::1]:" = true) ↔
        Exists fun host => host ∈ loopbackHosts ∧
          "nats://".toList ++ (host ++ [':']) <+: value.toList := by
    simp only [startsWith_iff, loopbackHosts, List.mem_cons, List.not_mem_nil, or_false,
      exists_eq_or_imp, exists_eq_left, or_assoc]
    exact Iff.rfl
  rw [accepted, startsWith_and_longer_iff, hosts]

theorem hostShape_of_loopback {host : List Char} (listed : host ∈ loopbackHosts) :
    Url.HostShape host := by
  simp only [loopbackHosts, List.mem_cons, List.not_mem_nil, or_false] at listed
  rcases listed with rfl | rfl | rfl
  · exact Or.inl ⟨by decide, by decide⟩
  · exact Or.inl ⟨by decide, by decide⟩
  · exact Or.inr ⟨"::1".toList, rfl, by decide⟩

theorem solid_of_loopback : loopbackHosts.all (fun host =>
    host.all (fun character => !Url.isDelimiter character)) = true := by
  decide

variable {value : String} {parts : Url.Parts}

/-- A plain URL that is accepted has parts, among them the host that the check
looks for. -/
theorem exists_parts_of_loopback {host : List Char} (listed : host ∈ loopbackHosts)
    (begins : "nats://".toList ++ (host ++ [':']) <+: value.toList) (clear : '@' ∉ value.toList) :
    Exists fun parts : Url.Parts => parts.WellFormed ∧ parts.scheme = "nats".toList ∧
      parts.host = host ∧ parts.text = value.toList := by
  rcases begins with ⟨rest, split⟩
  have whole : value.toList = "nats".toList ++ ':' :: '/' :: '/' :: (host ++ ':' :: rest) := by
    rw [← split]
    simp
  rw [whole] at clear ⊢
  refine Url.exists_wellFormed (by decide) (hostShape_of_loopback listed) ?_ ?_
  · intro character member
    have tested := List.all_eq_true.mp (List.all_eq_true.mp solid_of_loopback host listed)
      character member
    simpa using tested
  · intro member
    exact clear (List.mem_append_right _ (List.mem_cons_of_mem _ (List.mem_cons_of_mem _
      (List.mem_cons_of_mem _ member))))

/-- The parts of an accepted URL: the prefixes that the check looks for are the
scheme and the host. -/
theorem private_of_accepted (accepted : validateNatsUrl value = .ok ())
    (wellFormed : parts.WellFormed) (spelled : parts.text = value.toList) :
    parts.userinfo = none ∧ parts.Private := by
  rcases (validateNatsUrl_eq_ok_iff value).mp accepted with ⟨shape, clear⟩
  constructor
  · cases given : parts.userinfo with
    | none => rfl
    | some userinfo => exact absurd (spelled ▸ Url.mem_text_of_userinfo given) clear
  · rcases shape with ⟨rest, secure, _⟩ | ⟨host, listed, loopback⟩
    · have split : parts.text = "tls".toList ++ ':' :: '/' :: '/' :: rest := spelled.trans secure
      exact Or.inl (wellFormed.scheme_eq (by decide) split)
    · rcases exists_parts_of_loopback listed loopback clear with
        ⟨other, otherFormed, scheme, same, otherSpelled⟩
      rw [wellFormed.eq_of_text otherFormed (spelled.trans otherSpelled.symm)]
      exact Or.inr ⟨scheme, same ▸ listed⟩

/-- A URL of that shape has the prefixes. -/
theorem accepted_of_private (spelled : parts.text = value.toList) (shape : parts.Private)
    (nonempty : parts.host ≠ []) (ported : parts.scheme = "nats".toList -> parts.port ≠ none)
    (clear : '@' ∉ value.toList) : validateNatsUrl value = .ok () := by
  rw [validateNatsUrl_eq_ok_iff]
  refine ⟨?_, clear⟩
  have absent : parts.userinfo = none := by
    cases given : parts.userinfo with
    | none => rfl
    | some userinfo => exact absurd (spelled ▸ Url.mem_text_of_userinfo given) clear
  rw [Url.Parts.text, Url.Parts.authority, Url.Parts.location, absent] at spelled
  rcases shape with secure | ⟨plain, listed⟩
  · refine Or.inl ⟨parts.host ++ Url.portText parts.port ++ parts.tail, ?_, ?_⟩
    · rw [← spelled, secure]
      rfl
    · simp [nonempty]
  · cases given : parts.port with
    | none => exact absurd given (ported plain)
    | some port =>
        refine Or.inr ⟨parts.host, listed, port ++ parts.tail, ?_⟩
        rw [← spelled, plain, given]
        simp [Url.userinfoText, Url.portText]

/-- The consumer connects to a URL that was accepted. -/
theorem JetStream.accepted_of_spawned {var : String -> Option String} {database : Bool}
    {settings : JetStream.Settings}
    (spawned : JetStream.spawnFromEnv var database = .ok (some settings)) :
    validateNatsUrl settings.url = .ok () := by
  unfold JetStream.spawnFromEnv at spawned
  split at spawned
  · cases spawned
  · next url _ =>
      rcases (Fallible.bind_eq_ok_iff _ _ _).mp spawned with ⟨_, accepted, spawned⟩
      rcases (Fallible.bind_eq_ok_iff _ _ _).mp spawned with ⟨key, _, spawned⟩
      rcases (Fallible.bind_eq_ok_iff _ _ _).mp spawned with ⟨_, _, spawned⟩
      rcases (Fallible.bind_eq_ok_iff _ _ _).mp spawned with ⟨_, _, spawned⟩
      cases spawned
      exact accepted

/-- For every text and every way to read it as a URL: what is accepted carries
no credentials and leaves the machine over TLS only; a plain one can be read; and
every such URL is accepted that has a host, a port if it is plain, and no `@`.
Whatever the environment is, the consumer connects to an accepted one only. -/
theorem accepted_nats_url_private (value : String) :
    (validateNatsUrl value = .ok () ->
      (forall parts : Url.Parts, parts.WellFormed -> parts.text = value.toList ->
        parts.userinfo = none ∧ parts.Private) ∧
      (startsWith value "tls://" = true ∨
        Exists fun parts : Url.Parts => parts.WellFormed ∧ parts.text = value.toList)) ∧
    (forall parts : Url.Parts, parts.WellFormed -> parts.text = value.toList -> parts.Private ->
      parts.host ≠ [] -> (parts.scheme = "nats".toList -> parts.port ≠ none) ->
        '@' ∉ value.toList -> validateNatsUrl value = .ok ()) ∧
    (forall var database settings, JetStream.spawnFromEnv var database = .ok (some settings) ->
      validateNatsUrl settings.url = .ok ()) := by
  refine ⟨?_, ?_, fun _ _ _ spawned => JetStream.accepted_of_spawned spawned⟩
  · intro accepted
    refine ⟨fun parts wellFormed spelled => private_of_accepted accepted wellFormed spelled, ?_⟩
    rcases (validateNatsUrl_eq_ok_iff value).mp accepted with
      ⟨⟨rest, secure, _⟩ | ⟨host, listed, loopback⟩, clear⟩
    · exact Or.inl (startsWith_iff.mpr ⟨rest, secure.symm⟩)
    · rcases exists_parts_of_loopback listed loopback clear with
        ⟨parts, wellFormed, _, _, spelled⟩
      exact Or.inr ⟨parts, wellFormed, spelled⟩
  · intro parts _ spelled shape nonempty ported clear
    exact accepted_of_private spelled shape nonempty ported clear

/-- `nats://localhost:4222/v1?a`, with a path and a query. -/
def localParts : Url.Parts :=
  ⟨"nats".toList, none, "localhost".toList, some "4222".toList, "/v1?a".toList⟩

theorem localParts_accepted : validateNatsUrl "nats://localhost:4222/v1?a" = .ok () ∧
    localParts.userinfo = none ∧ localParts.Private := by
  have parsed : Url.parse "nats://localhost:4222/v1?a".toList = some localParts := by
    decide +kernel
  rcases Url.parse_eq_some_iff.mp parsed with ⟨wellFormed, spelled⟩
  have shape : localParts.Private := Or.inr ⟨rfl, by decide⟩
  have spec := accepted_nats_url_private "nats://localhost:4222/v1?a"
  have accepted := spec.2.1 localParts wellFormed spelled shape (by decide) (fun _ => by decide)
    (by decide)
  exact ⟨accepted, (spec.1 accepted).1 localParts wellFormed spelled⟩

end EmbeddedAlerts
