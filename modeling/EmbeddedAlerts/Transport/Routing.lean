import EmbeddedAlerts.Library.Subject
import EmbeddedAlerts.Transport.Deadline
import EmbeddedAlerts.Transport.Publishing

namespace EmbeddedAlerts

/-!
# Where a reply goes

The tenant and the dedupe key of a command are texts from outside.  The reply
carries the first one as a token of its subject and the second one in a header
line.  The gate leaves them no character that means anything there: the tenant
stays one token of its own, the event stream takes the subject, and the header
line is not broken.
-/

def commandSubjectWildcard : String := "eal.command.*.v1"
def eventSubjectWildcard : String := "eal.event.*.v1"

structure StreamConfig where
  name : String
  subjects : List String

/-- The two streams that `run_jetstream` creates before it publishes. -/
def jetstreamStreams : List StreamConfig :=
  [⟨"EAL_COMMANDS_V1", [commandSubjectWildcard]⟩, ⟨"EAL_EVENTS_V1", [eventSubjectWildcard]⟩]

/-- The streams that store what is published under a subject. -/
def storingStreams (streams : List StreamConfig) (subject : String) : List String :=
  (streams.filter (fun stream => stream.subjects.any (fun pattern =>
    Subject.captures pattern subject))).map StreamConfig.name

/-- A turn in which only the streams can fail: without one for the subject, the
acknowledgement does not come. -/
def streamFailure (streams : List StreamConfig) (row : PendingOutbox) : Option RowFailure :=
  if (storingStreams streams row.subject).isEmpty then some (.unacknowledged false) else none

/-- `publish_pending` against the given streams. -/
def publishPendingTo (streams : List StreamConfig) (format : JsonFormat) (markedAt : Uuid -> Int)
    (outbox : List OutboxRow) : Except String Unit × PublishState :=
  publishPending format ⟨false, (selectOutbox outbox).map (streamFailure streams), markedAt⟩ outbox

/-- The subject and the key under which the reply to a command goes out. -/
structure RoutedReply (command : AsyncCommand) : Prop where
  tokens : Subject.tokens (replySubject command.productTenant) =
    ["eal".toList, "event".toList, command.productTenant.toList, "v1".toList]
  filled : forall token, token ∈ Subject.tokens (replySubject command.productTenant) -> token ≠ []
  literal : forall character, character ∈ (replySubject command.productTenant).toList ->
    character ≠ '*' ∧ character ≠ '>' ∧ Text.isWhitespace character = false ∧
      Text.isControl character = false
  matched : Subject.captures eventSubjectWildcard (replySubject command.productTenant) = true
  keyNonempty : replyDedupeKey command.dedupeKey ≠ ""
  keyBounded : Text.byteLength (replyDedupeKey command.dedupeKey) ≤ 134
  keyPlain : forall character, character ∈ (replyDedupeKey command.dedupeKey).toList ->
    Text.Plain character
  header : headerValue (replyDedupeKey command.dedupeKey) = true

/-! ## The subject -/

theorem replySubject_injective : Function.Injective replySubject := by
  intro left right same
  have characters := congrArg String.toList same
  simp only [replySubject, String.toList_append] at characters
  exact String.toList_inj.mp (List.append_cancel_left (List.append_cancel_right characters))

/-- None of these characters separates tokens or stands for one. -/
theorem tenant_characters_tested : (List.range 128).all (fun value =>
    let character := Char.ofNat value
    !(character.isAlphanum || character == '_' || character == '-') ||
      (character != '.' && character != '*' && character != '>' &&
        !Text.isWhitespace character && !Text.isControl character)) = true := by
  decide +kernel

structure Literal (character : Char) : Prop where
  dot : character ≠ '.'
  star : character ≠ '*'
  rest : character ≠ '>'
  solid : Text.isWhitespace character = false
  visible : Text.isControl character = false

theorem literal_of_boundedTenant {value : String} (bounded : boundedTenant value = true)
    {character : Char} (member : character ∈ value.toList) : Literal character := by
  have small := (boundedTenant_plain bounded member).ascii
  have tested := List.all_eq_true.mp tenant_characters_tested character.toNat
    (List.mem_range.mpr small)
  have kind : (character.isAlphanum || character == '_' || character == '-') = true := by
    rcases boundedTenant_mem bounded member with plain | rfl | rfl
    · rw [plain]
      rfl
    · decide
    · decide
  simp only [Char.ofNat_toNat, kind, Bool.not_true, Bool.false_or, Bool.and_eq_true, bne_iff_ne,
    Bool.not_eq_true'] at tested
  rcases tested with ⟨⟨⟨⟨dot, star⟩, rest⟩, solid⟩, visible⟩
  exact ⟨dot, star, rest, solid, visible⟩

theorem subject_joined (tenant : String) : (replySubject tenant).toList =
    ['.'].intercalate ["eal".toList, "event".toList, tenant.toList, "v1".toList] := by
  rw [replySubject, String.toList_append, String.toList_append]
  simp [List.intercalate]

section

variable {tenant : String} (bounded : boundedTenant tenant = true)

include bounded

theorem tokens_replySubject : Subject.tokens (replySubject tenant) =
    ["eal".toList, "event".toList, tenant.toList, "v1".toList] := by
  refine Subject.tokens_of_joined (List.cons_ne_nil _ _) ?_ (subject_joined tenant)
  intro part member
  simp only [List.mem_cons, List.not_mem_nil, or_false] at member
  rcases member with rfl | rfl | rfl | rfl
  · decide
  · decide
  · exact fun dot => (literal_of_boundedTenant bounded dot).dot rfl
  · decide

theorem captures_replySubject :
    Subject.captures eventSubjectWildcard (replySubject tenant) = true := by
  have pattern : Subject.tokens eventSubjectWildcard =
      ["eal".toList, "event".toList] ++ ['*'] :: ["v1".toList] := by
    decide +kernel
  rw [Subject.captures, pattern, tokens_replySubject bounded]
  exact Subject.matchTokens_star ["eal".toList, "event".toList] ["v1".toList] tenant.toList

/-- The event stream takes the subject, and no other one does. -/
theorem storingStreams_replySubject :
    storingStreams jetstreamStreams (replySubject tenant) = ["EAL_EVENTS_V1"] := by
  have command : Subject.captures commandSubjectWildcard (replySubject tenant) = false := by
    have pattern : Subject.tokens commandSubjectWildcard =
        ["eal".toList, "command".toList, ['*'], "v1".toList] := by
      decide +kernel
    rw [Subject.captures, pattern, tokens_replySubject bounded]
    rfl
  simp only [storingStreams, jetstreamStreams, List.filter_cons, List.any_cons, List.any_nil,
    Bool.or_false, command, captures_replySubject bounded]
  rfl

theorem literal_replySubject {character : Char}
    (member : character ∈ (replySubject tenant).toList) :
    character ≠ '*' ∧ character ≠ '>' ∧ Text.isWhitespace character = false ∧
      Text.isControl character = false := by
  have fixed : ("eal.event.".toList ++ ".v1".toList).all (fun character =>
      character != '*' && character != '>' && !Text.isWhitespace character &&
        !Text.isControl character) = true := by
    decide
  rw [replySubject, String.toList_append, String.toList_append, List.mem_append,
    List.mem_append] at member
  have outer : character ∈ "eal.event.".toList ++ ".v1".toList -> _ :=
    fun listed => List.all_eq_true.mp fixed character listed
  simp only [Bool.and_eq_true, bne_iff_ne, Bool.not_eq_true', and_assoc] at outer
  rcases member with (front | inside) | back
  · exact outer (List.mem_append_left _ front)
  · have literal := literal_of_boundedTenant bounded inside
    exact ⟨literal.star, literal.rest, literal.solid, literal.visible⟩
  · exact outer (List.mem_append_right _ back)

end

/-! ## The key -/

section

variable {key : String} (bounded : boundedDedupeKey key = true)

include bounded

theorem plain_replyDedupeKey {character : Char}
    (member : character ∈ (replyDedupeKey key).toList) : Text.Plain character := by
  rw [replyDedupeKey, String.toList_append, List.mem_append] at member
  rcases member with front | inside
  · exact Text.plain_of_mem (by decide) front
  · exact boundedDedupeKey_plain bounded inside

theorem byteLength_replyDedupeKey : Text.byteLength (replyDedupeKey key) ≤ 134 := by
  simp only [boundedDedupeKey, Bool.and_eq_true, decide_eq_true_eq] at bounded
  have front : "reply:".utf8ByteSize = 6 := by decide
  have short : key.utf8ByteSize ≤ 128 := bounded.1.2
  rw [replyDedupeKey, Text.byteLength, String.utf8ByteSize_append]
  omega

theorem headerValue_replyDedupeKey : headerValue (replyDedupeKey key) = true := by
  rw [headerValue, Bool.not_eq_true', List.any_eq_false]
  intro character member
  have plain := plain_replyDedupeKey bounded member
  rw [Bool.or_eq_true, beq_iff_eq, beq_iff_eq]
  rintro (rfl | rfl)
  · exact absurd plain (by decide)
  · exact absurd plain (by decide)

end

theorem replyDedupeKey_ne_empty (key : String) : replyDedupeKey key ≠ "" := by
  intro empty
  have characters := congrArg String.toList empty
  rw [replyDedupeKey, String.toList_append] at characters
  cases characters

/-- What the gate lets through is routed. -/
theorem PassesGate.routed {config : CommandConfig} {command : AsyncCommand} {now : UInt64}
    (passes : PassesGate config command now) : RoutedReply command := by
  have tenant : boundedTenant command.productTenant = true := by
    rw [passes.operationTenant]
    exact passes.envelope.productTenant
  refine ⟨tokens_replySubject tenant, ?_, fun _ => literal_replySubject tenant,
    captures_replySubject tenant, replyDedupeKey_ne_empty _,
    byteLength_replyDedupeKey passes.dedupeKey, fun _ => plain_replyDedupeKey passes.dedupeKey,
    headerValue_replyDedupeKey passes.dedupeKey⟩
  intro token member
  rw [tokens_replySubject tenant] at member
  simp only [List.mem_cons, List.not_mem_nil, or_false] at member
  rcases member with rfl | rfl | rfl | rfl
  · decide
  · decide
  · simp only [boundedTenant, Bool.and_eq_true, decide_eq_true_eq] at tenant
    exact fun empty => tenant.1.1 (String.toList_eq_nil_iff.mp empty)
  · decide

/-! ## The committed rows -/

/-- A committed row is the routed reply to a command that passed the gate. -/
theorem System.Reachable.routed {deployment : Deployment} {system : System}
    (reached : System.Reachable deployment system) {row : OutboxRow}
    (member : row ∈ system.database.outbox) :
    Exists fun command => RoutedReply command ∧ boundedTenant command.productTenant = true ∧
      row.subject = replySubject command.productTenant ∧
      row.dedupeKey = replyDedupeKey command.dedupeKey := by
  rcases reached.correspondence.outbox_built member with ⟨writes, eventId, now, executed, unmarked⟩
  rcases reached.gated.2 writes executed with ⟨index, checkedAt, message, _, _, _, accepted⟩
  have passes := ((acceptCommand_eq_some_iff _ _ _ _).mp accepted).2.2
  refine ⟨writes.command, passes.routed, ?_, congrArg OutboxRow.subject unmarked,
    congrArg OutboxRow.dedupeKey unmarked⟩
  rw [passes.operationTenant]
  exact passes.envelope.productTenant

theorem System.Reachable.publishes_to_events {deployment : Deployment} {system : System}
    (reached : System.Reachable deployment system) {row : OutboxRow}
    (member : row ∈ system.database.outbox) :
    headerValue row.dedupeKey = true ∧
      storingStreams jetstreamStreams row.subject = ["EAL_EVENTS_V1"] := by
  rcases reached.routed member with ⟨command, routed, tenant, subject, key⟩
  rw [subject, key]
  exact ⟨routed.header, storingStreams_replySubject tenant⟩

/-- When no call fails and the headers are legal, a pass fails at an oversized
row only. -/
theorem publishRows_error {format : JsonFormat} {markedAt : Uuid -> Int}
    {failures : List (Option RowFailure)} {rows : List PendingOutbox} {message : String}
    (sound : forall failure, failure ∈ failures -> failure = none)
    (headers : forall row, row ∈ rows -> headerValue row.dedupeKey = true) {state : PublishState}
    (failed : (publishRows format markedAt failures state rows).1 = .error message) :
    message = "JetStream outbox payload is oversized" ∧
      Exists fun row => row ∈ rows ∧ row.fits format = false := by
  induction rows generalizing failures state with
  | nil => cases failed
  | cons row rest ih =>
      rw [publishRows, headD_sound sound] at failed
      cases fits : row.fits format with
      | false =>
          have refused : publishRow format markedAt none state row =
              (.error "JetStream outbox payload is oversized", state) := by
            simp only [publishRow, fits, Bool.not_false, if_true]
          rw [refused] at failed
          cases failed
          exact ⟨rfl, row, List.mem_cons_self, fits⟩
      | true =>
          have accepted : row.publishable format = true := by
            rw [PendingOutbox.publishable, fits, headers row List.mem_cons_self]
            rfl
          rw [publishRow_publishable accepted] at failed
          rcases ih (fun failure later => sound failure (List.mem_of_mem_tail later))
            (fun other later => headers other (List.mem_cons_of_mem _ later)) failed with
            ⟨same, other, member, oversized⟩
          exact ⟨same, other, List.mem_cons_of_mem _ member, oversized⟩

theorem System.Reachable.publishPendingTo_error {deployment : Deployment} {system : System}
    (reached : System.Reachable deployment system) {markedAt : Uuid -> Int} {message : String}
    (failed : (publishPendingTo jetstreamStreams deployment.format markedAt
      system.database.outbox).1 = .error message) :
    message = "JetStream outbox payload is oversized" := by
  have rows : forall row, row ∈ selectOutbox system.database.outbox ->
      headerValue row.dedupeKey = true ∧
        storingStreams jetstreamStreams row.subject = ["EAL_EVENTS_V1"] := by
    intro row member
    rcases exists_of_mem_selectOutbox member with ⟨held, present, _, rfl⟩
    exact reached.publishes_to_events present
  refine (publishRows_error ?_ (fun row member => (rows row member).1) failed).1
  intro failure listed
  rcases List.mem_map.mp listed with ⟨row, member, rfl⟩
  rw [streamFailure, (rows row member).2]
  rfl

/-- Every command that passes the gate of any configuration has a reply that is
well routed; different tenants and different keys stay different; and in every
reachable state the committed rows carry the subject and the key of such a
reply, with a legal header and a subject that the event stream takes, so a pass
of the publisher fails for the size of a payload only. -/
theorem replies_routed :
    (forall config payload now command, acceptCommand config payload now = some command ->
      RoutedReply command) ∧
    (forall left right, left ≠ right -> replySubject left ≠ replySubject right) ∧
    (forall left right, left ≠ right -> replyDedupeKey left ≠ replyDedupeKey right) ∧
    (forall deployment system, System.Reachable deployment system ->
      (forall row, row ∈ system.database.outbox ->
        (Exists fun command => RoutedReply command ∧
          row.subject = replySubject command.productTenant ∧
          row.dedupeKey = replyDedupeKey command.dedupeKey) ∧
        headerValue row.dedupeKey = true ∧
        storingStreams jetstreamStreams row.subject = ["EAL_EVENTS_V1"]) ∧
      forall markedAt message,
        (publishPendingTo jetstreamStreams deployment.format markedAt
          system.database.outbox).1 = .error message ->
        message = "JetStream outbox payload is oversized") := by
  refine ⟨?_, fun _ _ => replySubject_injective.ne, fun _ _ => replyDedupeKey_injective.ne, ?_⟩
  · intro config payload now command accepted
    exact ((acceptCommand_eq_some_iff _ _ _ _).mp accepted).2.2.routed
  · intro deployment system reached
    refine ⟨?_, fun markedAt message failed => reached.publishPendingTo_error failed⟩
    intro row member
    rcases reached.routed member with ⟨command, routed, _, subject, key⟩
    exact ⟨⟨command, routed, subject, key⟩, reached.publishes_to_events member⟩

theorem firstRun_routed : RoutedReply firstCommand ∧
    Exists fun system => sampleRun .cast firstRun = some system ∧
      system.database.outbox.length = 1 ∧
      forall row, row ∈ system.database.outbox ->
        storingStreams jetstreamStreams row.subject = ["EAL_EVENTS_V1"] := by
  have accepted : acceptCommand (sampleDeployment .cast).config firstCommand.payload
      2000000000000 = some firstCommand := by
    decide +kernel
  have recorded : (sampleRun .cast firstRun).map (fun system =>
      system.database.outbox.length) = some 1 := by
    decide +kernel
  rcases Option.map_eq_some_iff.mp recorded with ⟨system, done, length⟩
  refine ⟨replies_routed.1 _ _ _ _ accepted, system, done, length, ?_⟩
  intro row member
  exact ((replies_routed.2.2.2 _ system (sampleRun_reached done)).1 row member).2.2

end EmbeddedAlerts
