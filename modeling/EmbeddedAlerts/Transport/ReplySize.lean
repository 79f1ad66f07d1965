import EmbeddedAlerts.Store.History
import EmbeddedAlerts.Transport.Tcp

namespace EmbeddedAlerts

open AlertStore

/-!
# Whether replies fit their transports

The limits of an alert's fields, the limit of the list query and the limits of
the two transports are set in different places.  The size of a reply is the
size of its list and a fixed frame, so it fits exactly when the encoded alerts
that the actor's list returns fit into what the frame leaves.

The admitted inputs do not guarantee that.  A query text alone may take 8192
bytes, so eight alerts exceed the TCP frame and 33 the NATS payload.
-/

/-- The bytes that the listed alerts take in a JSON list, each with its
separator. -/
def listedBytes (format : JsonFormat) (alerts : List AlertRule) : Nat :=
  (alerts.map (fun alert => (alert.toJson format).size + 1)).sum

/-- The created alerts that an actor's list returns: the hundred most recent
of the table, as the table gives them back, or all of the map. -/
def recentAlerts (backend : Backend) (log : List (VerifiedActor × AlertRule))
    (actor : VerifiedActor) : List AlertRule :=
  match backend with
  | .database => (log.filter (fun entry => decide (entry.1 = actor) &&
      decide (newerCount log actor entry.2 < 100))).map (fun entry => storedForm entry.2)
  | .fallback => (log.filter (fun entry => decide (entry.1 = actor))).map Prod.snd

/-! ## Sizes of the texts in a frame -/

/-- The texts of an envelope that depend on the command. -/
theorem quotedSize_replyDedupeKey {key : String} (bounded : boundedDedupeKey key = true) :
    Json.quotedSize (replyDedupeKey key) = key.length + 8 := by
  rw [Json.quotedSize_of_plain]
  · have front : "reply:".length = 6 := by decide
    rw [replyDedupeKey, String.length_append, front]
    omega
  · intro character member
    rw [replyDedupeKey, String.toList_append, List.mem_append] at member
    rcases member with front | rest
    · exact Text.plain_of_mem (by decide) front
    · exact boundedDedupeKey_plain bounded rest

theorem quotedSize_replySubject {tenant : String} (bounded : boundedTenant tenant = true) :
    Json.quotedSize (replySubject tenant) = tenant.length + 15 := by
  rw [Json.quotedSize_of_plain]
  · have lengths : "eal.event.".length = 10 ∧ ".v1".length = 3 := by decide
    rw [replySubject, String.length_append, String.length_append, lengths.1, lengths.2]
    omega
  · intro character member
    rw [replySubject, String.toList_append, String.toList_append, List.mem_append,
      List.mem_append] at member
    rcases member with (front | middle) | back
    · exact Text.plain_of_mem (by decide) front
    · exact boundedTenant_plain bounded middle
    · exact Text.plain_of_mem (by decide) back

/-! ## Sizes of lists, replies and envelopes -/

theorem size_alertsJson (format : JsonFormat) (alerts : List AlertRule) :
    (alertsJson format alerts).size = if alerts = [] then 2 else 1 + listedBytes format alerts := by
  rw [alertsJson, Json.size_array, listedBytes, List.map_map, List.length_map, List.sum_map_add]
  simp only [Function.comp_def, List.map_const', List.sum_replicate, smul_eq_mul, mul_one]
  cases alerts with
  | nil => rfl
  | cons head tail =>
      simp only [List.length_cons, if_neg (List.cons_ne_nil head tail)]
      omega

/-- A completed reply frames its list with 99 bytes. -/
theorem size_completedReply (format : JsonFormat) (operationId : Uuid) (alerts : List AlertRule) :
    ((completedReply operationId alerts).toJson format).size =
      99 + (alertsJson format alerts).size := by
  have names : Json.quotedSize "operation_id" = 14 ∧ Json.quotedSize "status" = 8 ∧
      Json.quotedSize "completed" = 11 ∧ Json.quotedSize "result" = 8 ∧
      Json.quotedSize "error" = 7 := by
    decide +kernel
  simp only [completedReply, OperationReply.toJson, Json.size_object, List.map_cons, List.map_nil,
    List.sum_cons, List.sum_nil, List.length_cons, List.length_nil, Json.memberSize,
    Json.size_string, Json.size_null, Json.size_ordered, quotedSize_uuid, names]
  omega

/-- The envelope adds its identifiers, the dedupe key and the tenant twice. -/
theorem size_replyEnvelope (format : JsonFormat) {command : AsyncCommand}
    (dedupe : boundedDedupeKey command.dedupeKey = true)
    (tenant : boundedTenant command.productTenant = true) (reply : OperationReply)
    (eventId : Uuid) :
    ((replyEnvelope command reply eventId).toJson format).size =
      184 + command.dedupeKey.length + 2 * command.productTenant.length +
        (reply.toJson format).size := by
  have names : Json.quotedSize "event_id" = 10 ∧ Json.quotedSize "correlation_id" = 16 ∧
      Json.quotedSize "dedupe_key" = 12 ∧ Json.quotedSize "product_tenant" = 16 ∧
      Json.quotedSize "subject" = 9 ∧ Json.quotedSize "reply" = 7 := by
    decide +kernel
  simp only [replyEnvelope, EventEnvelope.toJson, Json.size_ordered, Json.size_object,
    List.map_cons, List.map_nil, List.sum_cons, List.sum_nil, List.length_cons, List.length_nil, Json.memberSize,
    Json.size_string, quotedSize_uuid, quotedSize_replyDedupeKey dedupe, quotedSize_tenant tenant,
    quotedSize_replySubject tenant, names]
  omega

/-! ## Fitting -/

/-- The TCP reply fits into a frame and is sent, whatever the operation id. -/
def TcpRepliesFit (format : JsonFormat) (listed : List AlertRule) : Prop :=
  forall operationId,
    ((completedReply operationId listed).toJson format).size ≤ maxFrameBytes ∧
      (mtlsFrame format (completedReply operationId listed)).isSome = true

/-- The event is publishable, for every command of this tenant that the gate's
alphabets admit. -/
def EventsFit (format : JsonFormat) (productTenant : String) (listed : List AlertRule) : Prop :=
  forall (command : AsyncCommand) (eventId : Uuid), command.productTenant = productTenant ->
    boundedTenant command.productTenant = true -> boundedDedupeKey command.dedupeKey = true ->
    ((replyEnvelope command (completedReply command.correlationId listed) eventId).toJson
      format).size ≤ maxNatsPayloadBytes

theorem tcpRepliesFit_iff (format : JsonFormat) (listed : List AlertRule) :
    TcpRepliesFit format listed ↔ listedBytes format listed ≤ 65436 := by
  have sized : forall operationId, ((completedReply operationId listed).toJson format).size ≤
      maxFrameBytes ↔ listedBytes format listed ≤ 65436 := by
    intro operationId
    rw [size_completedReply, size_alertsJson, maxFrameBytes]
    cases listed with
    | nil => simp [listedBytes]
    | cons head tail =>
        rw [if_neg (List.cons_ne_nil head tail)]
        omega
  constructor
  · intro fits
    exact (sized Uuid.nil).mp (fits Uuid.nil).1
  · intro small operationId
    have fits := (sized operationId).mpr small
    exact ⟨fits, (mtlsFrame_isSome_iff format _).mpr fits⟩

/-- The longest dedupe key that the gate admits. -/
def longestKey : String := String.ofList (List.replicate 128 'k')

theorem longestKey_spec : boundedDedupeKey longestKey = true ∧ longestKey.length = 128 := by
  decide +kernel

theorem eventsFit_iff (format : JsonFormat) {productTenant : String}
    (tenant : boundedTenant productTenant = true) (listed : List AlertRule) :
    EventsFit format productTenant listed ↔
      listedBytes format listed + 2 * productTenant.length ≤ 261732 := by
  have short := (of_decide_eq_true (boundedTenant_lengthWithin tenant)).2
  have sized : forall command : AsyncCommand, forall eventId,
      command.productTenant = productTenant -> boundedDedupeKey command.dedupeKey = true ->
      (((replyEnvelope command (completedReply command.correlationId listed) eventId).toJson
        format).size ≤ maxNatsPayloadBytes ↔
          listedBytes format listed + 2 * productTenant.length + command.dedupeKey.length ≤ 261860) := by
    intro command eventId same dedupe
    have key := (of_decide_eq_true (boundedDedupeKey_lengthWithin dedupe)).2
    rw [size_replyEnvelope format dedupe (same ▸ tenant), same, size_completedReply,
      size_alertsJson, maxNatsPayloadBytes]
    cases listed with
    | nil =>
        simp only [listedBytes, if_true, List.map_nil, List.sum_nil]
        omega
    | cons head tail =>
        rw [if_neg (List.cons_ne_nil head tail)]
        omega
  constructor
  · intro fits
    let command : AsyncCommand := ⟨Uuid.nil, Uuid.nil, longestKey, productTenant,
      ⟨1, Uuid.nil, "list_alerts", Uuid.nil.toString, productTenant, 0⟩, ""⟩
    have bound := (sized command Uuid.nil rfl longestKey_spec.1).mp
      (fits command Uuid.nil rfl tenant longestKey_spec.1)
    have length : command.dedupeKey.length = 128 := longestKey_spec.2
    omega
  · intro small command eventId same _ dedupe
    have key := (of_decide_eq_true (boundedDedupeKey_lengthWithin dedupe)).2
    exact (sized command eventId same dedupe).mpr (by omega)

/-! ## The listed alerts of a history -/

theorem mem_entries_iff {log entries : List (VerifiedActor × AlertRule)} {actor : VerifiedActor}
    (unique : (log.map (fun entry => entry.2.id)).Nodup)
    (rows : directAlerts (log.map loggedRow) actor = entries.map loggedRow)
    (inside : forall entry, entry ∈ entries -> entry ∈ log ∧ entry.1 = actor)
    (entry : VerifiedActor × AlertRule) :
    entry ∈ entries ↔
      entry ∈ log ∧ entry.1 = actor ∧ newerCount log actor entry.2 < 100 := by
  have listed : forall other, other ∈ log -> other.1 = actor ->
      (loggedRow other ∈ entries.map loggedRow ↔ newerCount log actor other.2 < 100) := by
    intro other present owner
    rw [← rows]
    subst owner
    exact mem_directAlerts_iff unique present
  constructor
  · intro member
    rcases inside entry member with ⟨present, owner⟩
    exact ⟨present, owner, (listed entry present owner).mp (List.mem_map_of_mem member)⟩
  · rintro ⟨present, owner, recent⟩
    rcases List.mem_map.mp ((listed entry present owner).mpr recent) with ⟨other, member, same⟩
    have equal : other = entry := List.inj_on_of_nodup_map unique (inside other member).1 present
      (congrArg AlertRow.id same)
    exact equal ▸ member

theorem History.list_perm {store : AlertStore} {log : List (VerifiedActor × AlertRule)}
    (history : History store log) (actor : VerifiedActor) :
    Exists fun listed => store.list actor = .ok listed ∧
      listed.Perm (recentAlerts store.backend log actor) := by
  have unique := history.ids_nodup
  rcases history.holds with rfl | rfl
  · rcases list_logged log actor with ⟨entries, rows, answer, inside⟩
    refine ⟨_, answer, List.Perm.map _ ?_⟩
    have distinct : (entries.map loggedRow).Nodup := by
      have mine : (((log.map loggedRow).filter (AlertRow.owned actor)).map AlertRow.id).Nodup :=
        (loggedRow_ids log ▸ unique).sublist (List.Sublist.map _ List.filter_sublist)
      rw [← rows]
      exact Ranking.nodup_top _ (List.Nodup.of_map _ mine) _
    have logged : log.Nodup := List.Nodup.of_map _ unique
    rw [List.perm_ext_iff_of_nodup (List.Nodup.of_map _ distinct) (logged.filter _)]
    intro entry
    rw [mem_entries_iff unique rows inside, List.mem_filter, Bool.and_eq_true, decide_eq_true_iff,
      decide_eq_true_iff]
  · refine ⟨_, rfl, List.Perm.of_eq ?_⟩
    rw [List.filter_map, List.map_map]
    congr 1
    apply List.filter_congr
    intro entry _
    exact owned_loggedEntry actor entry

theorem listedBytes_perm (format : JsonFormat) {left right : List AlertRule}
    (same : left.Perm right) : listedBytes format left = listedBytes format right :=
  (same.map _).sum_eq

/-- For every store that creates have built, the replies for an actor fit both
transports exactly when the actor's recent alerts take at most 65436 bytes.
The events alone have room for 261732 less the tenant twice. -/
theorem replies_fit_iff {store : AlertStore} {log : List (VerifiedActor × AlertRule)}
    (history : History store log) (format : JsonFormat) (actor : VerifiedActor) :
    Exists fun listed => store.list actor = .ok listed ∧
      ((TcpRepliesFit format listed ∧ EventsFit format actor.productTenant listed) ↔
        listedBytes format (recentAlerts store.backend log actor) ≤ 65436) ∧
      (boundedTenant actor.productTenant = true ->
        (EventsFit format actor.productTenant listed ↔
          listedBytes format (recentAlerts store.backend log actor) +
            2 * actor.productTenant.length ≤ 261732)) := by
  rcases history.list_perm actor with ⟨listed, answer, recent⟩
  rw [← listedBytes_perm format recent]
  refine ⟨listed, answer, ?_, fun tenant => eventsFit_iff format tenant listed⟩
  constructor
  · intro both
    exact (tcpRepliesFit_iff format listed).mp both.1
  · intro small
    refine ⟨(tcpRepliesFit_iff format listed).mpr small, ?_⟩
    by_cases tenant : boundedTenant actor.productTenant = true
    · have short := (of_decide_eq_true (boundedTenant_lengthWithin tenant)).2
      exact (eventsFit_iff format tenant listed).mpr (by omega)
    · intro command eventId same bounded
      rw [same] at bounded
      exact absurd bounded tenant

def plainFormat : JsonFormat := ⟨fun _ => "2026-08-06T07:06:40Z", fun _ => "0.5"⟩

theorem single_alert_fits : Exists fun listed =>
    (AlertStore.database ((burst burstInput 1).map loggedRow)).list burstActor = .ok listed ∧
      listed = [storedForm (burstAlert burstInput 0)] ∧ TcpRepliesFit plainFormat listed ∧
      EventsFit plainFormat burstActor.productTenant listed := by
  have history := burstInput_history (show 1 ≤ 1000 by decide)
  rcases replies_fit_iff history plainFormat burstActor with ⟨listed, answer, fits, _⟩
  have known : (AlertStore.database ((burst burstInput 1).map loggedRow)).list burstActor =
      .ok [storedForm (burstAlert burstInput 0)] := rfl
  refine ⟨listed, answer, Except.ok.inj (answer.symm.trans known), fits.mpr ?_⟩
  decide +kernel

/-! ## Long query texts -/

/-- An admitted input whose query text has the largest admitted size. -/
def wideInput : CreateAlertRule :=
  { burstInput with queryText := String.ofList (List.replicate 8192 'q') }

theorem wideInput_characters {character : Char} (member : character ∈ wideInput.queryText.toList) :
    character = 'q' := by
  rw [wideInput, String.toList_ofList] at member
  exact (List.mem_replicate.mp member).2

theorem wideInput_length : wideInput.queryText.length = 8192 := by
  rw [wideInput, String.length_ofList, List.length_replicate]

theorem trim_wideInput : Text.trim wideInput.queryText = wideInput.queryText := by
  apply Text.trim_of_solid
  intro character member
  rw [wideInput_characters member]
  decide

theorem wideInput_valid : wideInput.validate = .ok () := by
  have plain := (CreateAlertRule.validate_eq_ok_iff burstInput).mp burstInput_valid
  have ascii : forall character, character ∈ wideInput.queryText.toList ->
      character.toNat < 128 := by
    intro character member
    rw [wideInput_characters member]
    decide
  refine (CreateAlertRule.validate_eq_ok_iff wideInput).mpr ⟨plain.name, ⟨?_, ?_, ?_⟩,
    plain.embeddingModel, plain.finite, plain.unit, plain.sourceCount, plain.sources,
    plain.channelCount, plain.channels⟩
  · rw [trim_wideInput]
    intro empty
    have length := wideInput_length
    rw [empty] at length
    cases length
  · rw [Text.byteLength_of_ascii ascii, wideInput_length]
    decide
  · intro character member
    rw [wideInput_characters member]
    decide

theorem wideInput_history {count : Nat} (small : count ≤ 1000) :
    History (.database ((burst wideInput count).map loggedRow)) (burst wideInput count) := by
  refine burst_history wideInput_valid ?_ small
  intro second
  have query : lengthWithin 8192 (Text.trim wideInput.queryText) = true := by
    rw [trim_wideInput]
    exact decide_eq_true (by rw [wideInput_length]; decide)
  simp only [AlertRow.checks, alertRow, burstAlert, CreateAlertRule.intoRule, query]
  decide

/-- An alert takes at least its quoted query text. -/
theorem quotedSize_le_size (format : JsonFormat) (alert : AlertRule) :
    Json.quotedSize alert.queryText ≤ (alert.toJson format).size := by
  simp only [AlertRule.toJson, Json.size_object, List.map_cons, List.sum_cons, Json.memberSize,
    Json.size_string]
  omega

/-- Every list of such alerts takes at least 8192 bytes for each of them. -/
theorem listedBytes_wide (format : JsonFormat) {listed : List AlertRule}
    (wide : forall alert, alert ∈ listed -> alert.queryText = wideInput.queryText) :
    8192 * listed.length ≤ listedBytes format listed := by
  have quoted : Json.quotedSize wideInput.queryText = 8194 := by
    rw [Json.quotedSize_of_plain, wideInput_length]
    intro character member
    rw [wideInput_characters member]
    decide
  induction listed with
  | nil => exact Nat.le_refl _
  | cons head tail ih =>
      have first := quotedSize_le_size format head
      rw [wide head List.mem_cons_self, quoted] at first
      have rest := ih (fun alert later => wide alert (List.mem_cons_of_mem _ later))
      simp only [listedBytes, List.map_cons, List.sum_cons, List.length_cons] at rest ⊢
      omega

/-- With 33 of them, neither the TCP reply nor the event fits. -/
theorem wide_alerts_do_not_fit :
    History (.database ((burst wideInput 33).map loggedRow)) (burst wideInput 33) ∧
    Exists fun listed =>
      (AlertStore.database ((burst wideInput 33).map loggedRow)).list burstActor = .ok listed ∧
      ¬ TcpRepliesFit plainFormat listed ∧
      ¬ EventsFit plainFormat burstActor.productTenant listed := by
  have history := wideInput_history (show 33 ≤ 1000 by decide)
  rcases list_logged (burst wideInput 33) burstActor with ⟨entries, rows, answer, inside⟩
  have owned : (((burst wideInput 33).map loggedRow).filter (AlertRow.owned burstActor)).length =
      33 := by
    rw [filter_owned_logged, List.length_map, List.filter_eq_self.mpr]
    · rw [burst, List.length_map, List.length_range]
    · intro entry member
      rcases List.mem_map.mp member with ⟨second, _, rfl⟩
      exact decide_eq_true rfl
  have count : entries.length = 33 := by
    have all := (Ranking.top_perm_of_length_le AlertRow.order
      (show _ ≤ directAlertsLimit by rw [owned]; decide)).length_eq
    rw [owned] at all
    rw [← List.length_map loggedRow, ← rows]
    exact all
  have wide : forall alert, alert ∈ entries.map (fun entry => storedForm entry.2) ->
      alert.queryText = wideInput.queryText := by
    intro alert member
    rcases List.mem_map.mp member with ⟨entry, present, rfl⟩
    rcases List.mem_map.mp (inside entry present).1 with ⟨second, _, rfl⟩
    exact trim_wideInput
  have bytes := listedBytes_wide plainFormat wide
  rw [List.length_map, count] at bytes
  refine ⟨history, _, answer, ?_, ?_⟩
  · rw [tcpRepliesFit_iff]
    omega
  · rw [eventsFit_iff _ (by decide)]
    omega

end EmbeddedAlerts
