import Mathlib
import EmbeddedAlerts.Transport.Correspondence

namespace EmbeddedAlerts

/-!
# Commands are authentic

The signed string joins nine free-form fields by line breaks.  A signer may
have signed anything, so the other side of an equality of signed strings is
arbitrary.  The fields of a command that passes the gate contain no line
break, each for its own reason: the dedupe and tenant alphabets, the fixed
operation, the spellings of a UUID and decimal digits.  Counting line breaks
then leaves only one way to split the string.

The ideal MAC is a condition on the steps of a run: of the pairs of bytes and a
tag that are presented to HMAC, only those agree whose bytes have been passed to
`sign_command` before.
-/

/-- Two commands agree on all nine signed fields. -/
structure AsyncCommand.SignedAlike (left right : AsyncCommand) : Prop where
  eventId : left.eventId = right.eventId
  correlationId : left.correlationId = right.correlationId
  dedupeKey : left.dedupeKey = right.dedupeKey
  productTenant : left.productTenant = right.productTenant
  version : left.operation.version = right.operation.version
  operationId : left.operation.operationId = right.operation.operationId
  operation : left.operation.operation = right.operation.operation
  actorSubject : left.operation.actorSubject = right.operation.actorSubject
  deadlineUnixMs : left.operation.deadlineUnixMs = right.operation.deadlineUnixMs

/-! ## One way to split the signed string -/

theorem length_signedFields (command : AsyncCommand) : command.signedFields.length = 9 := rfl

theorem newline_not_mem_repr (number : Nat) : '\n' ∉ (Nat.repr number).toList := by
  intro member
  exact (plain_of_mem_repr member).ne_newline rfl

theorem newline_not_mem_signedFields {config : CommandConfig} {command : AsyncCommand}
    {now : UInt64} (passes : PassesGate config command now) {field : String}
    (member : field ∈ command.signedFields) : '\n' ∉ field.toList := by
  have tenant : '\n' ∉ command.productTenant.toList := by
    rw [passes.operationTenant]
    exact fun present => (boundedTenant_plain passes.envelope.productTenant present).ne_newline rfl
  have dedupe : '\n' ∉ command.dedupeKey.toList :=
    fun present => (boundedDedupeKey_plain passes.dedupeKey present).ne_newline rfl
  have operation : '\n' ∉ command.operation.operation.toList := by
    rw [passes.envelope.operation]
    decide
  rcases passes.envelope.actorSubject with ⟨subject, parsed⟩
  have actor := Uuid.newline_not_mem_of_parseStr parsed
  simp only [AsyncCommand.signedFields, List.mem_cons, List.not_mem_nil, or_false] at member
  rcases member with rfl | rfl | rfl | rfl | rfl | rfl | rfl | rfl | rfl
  · exact Uuid.newline_not_mem_toString _
  · exact Uuid.newline_not_mem_toString _
  · exact dedupe
  · exact tenant
  · exact newline_not_mem_repr _
  · exact Uuid.newline_not_mem_toString _
  · exact operation
  · exact actor
  · exact newline_not_mem_repr _

theorem signedAlike_of_signedFields {left right : AsyncCommand}
    (same : left.signedFields = right.signedFields) : left.SignedAlike right := by
  simp only [AsyncCommand.signedFields, List.cons.injEq, and_true] at same
  rcases same with ⟨eventId, correlationId, dedupeKey, productTenant, version, operationId,
    operation, actorSubject, deadline⟩
  exact {
    eventId := Uuid.toString_injective eventId
    correlationId := Uuid.toString_injective correlationId
    dedupeKey := dedupeKey
    productTenant := productTenant
    version := UInt8.toNat_inj.mp (Nat.repr_inj.mp version)
    operationId := Uuid.toString_injective operationId
    operation := operation
    actorSubject := actorSubject
    deadlineUnixMs := UInt64.toNat_inj.mp (Nat.repr_inj.mp deadline) }

/-- A command that passes the gate shares its signed string only with
commands that agree on every signed field. -/
theorem signedAlike_of_commandSigningBytes {config : CommandConfig} {command other : AsyncCommand}
    {now : UInt64} (passes : PassesGate config command now)
    (same : commandSigningBytes command = commandSigningBytes other) :
    command.SignedAlike other := by
  have lengths : (command.signedFields.map String.toList).length =
      (other.signedFields.map String.toList).length := by
    rw [List.length_map, List.length_map, length_signedFields, length_signedFields]
  have nonempty : command.signedFields.map String.toList ≠ [] := by
    simp [AsyncCommand.signedFields]
  have free : forall field, field ∈ command.signedFields.map String.toList -> '\n' ∉ field := by
    intro field member
    rcases List.mem_map.mp member with ⟨text, present, rfl⟩
    exact newline_not_mem_signedFields passes present
  have joined : ['\n'].intercalate (command.signedFields.map String.toList) =
      ['\n'].intercalate (other.signedFields.map String.toList) := by
    have characters := congrArg String.toList same
    rw [commandSigningBytes, commandSigningBytes, String.toList_intercalate,
      String.toList_intercalate] at characters
    exact characters
  have fields := Text.joined_fields_unique lengths nonempty free joined
  exact signedAlike_of_signedFields
    (List.map_injective_iff.mpr (fun _ _ => String.toList_inj.mp) fields)

/-! ## Runs over an untrusted stream -/

/-- The ideal MAC, under a key that only the signer and the API hold: bytes that
have the tag presented with them were passed to `sign_command`. -/
def IdealMac (config : CommandConfig) (signed : List AsyncCommand) (bytes tag : List UInt8) :
    Prop :=
  validCommandKey config.commandKey = true -> config.hmac config.commandKey bytes = tag ->
    Exists fun command => command ∈ signed ∧ bytes = Text.asBytes (commandSigningBytes command)

/-- A delivered command presents its signed string, with the tag that it
carries. -/
def Unforged (deployment : Deployment) (system : System) : Action -> Prop
  | .deliver _ index _ =>
      forall message command tag, system.messages[index]? = some message ->
        deployment.config.decode message.payload = some command ->
        Hexadecimal.decode command.signature.toList = some tag ->
        IdealMac deployment.config system.signed (Text.asBytes (commandSigningBytes command)) tag
  | _ => True

/-- What verifies under the ideal MAC was signed. -/
theorem signed_of_verified {config : CommandConfig} {signed : List AsyncCommand}
    {command : AsyncCommand}
    (ideal : forall tag, Hexadecimal.decode command.signature.toList = some tag ->
      IdealMac config signed (Text.asBytes (commandSigningBytes command)) tag)
    (verified : verifyCommandSignature config.hmac command config.commandKey = true) :
    Exists fun other => other ∈ signed ∧ commandSigningBytes command = commandSigningBytes other := by
  unfold verifyCommandSignature at verified
  split at verified
  · cases verified
  · next tag decoded =>
      rcases Bool.and_eq_true_iff.mp verified with ⟨valid, same⟩
      rcases ideal tag decoded valid (of_decide_eq_true same) with ⟨other, present, bytes⟩
      exact ⟨other, present, Text.asBytes_injective bytes⟩

/-- Every command that was handed to `process_command` passed the gate, and
its signed string was signed. -/
def System.Authentic (deployment : Deployment) (system : System) : Prop :=
  forall command, command ∈ system.handed ->
    (Exists fun now => PassesGate deployment.config command now) ∧
      Exists fun signed => signed ∈ system.signed ∧
        commandSigningBytes command = commandSigningBytes signed

theorem System.Authentic.step {deployment : Deployment} {system next : System} {action : Action}
    (holds : system.Authentic deployment) (unforged : Unforged deployment system action)
    (taken : system.step deployment action = some next) : next.Authentic deployment := by
  have kept : next.handed = system.handed -> next.signed = system.signed ->
      next.Authentic deployment := by
    intro handed signed command member
    rw [handed] at member
    rw [signed]
    exact holds command member
  rcases System.step_quiet taken with quiet | ⟨_, rfl⟩ | ⟨signed, rfl⟩ | ⟨_, rfl⟩ |
    ⟨consumer, index, termReceived, rfl⟩ | ⟨_, _, rfl⟩
  · exact kept quiet.handed quiet.signed
  · rcases System.tick_cases taken with ⟨_, rfl⟩
    exact holds
  · cases taken
    intro command member
    rcases holds command member with ⟨passes, earlier, present, same⟩
    exact ⟨passes, earlier, List.mem_cons_of_mem _ present, same⟩
  · cases taken
    exact holds
  · rcases System.deliver_cases taken with
      ⟨message, _, found, _, ⟨_, rfl⟩ | ⟨admitted, accepted, rfl⟩⟩
    · exact holds
    · intro command member
      rcases List.mem_cons.mp member with rfl | earlier
      · rcases (acceptCommand_eq_some_iff _ _ _ _).mp accepted with ⟨_, decoded, passes⟩
        exact ⟨⟨_, passes⟩,
          signed_of_verified (fun tag => unforged message command tag found decoded)
            passes.signature⟩
      · exact holds command earlier
  · rcases System.ack_cases taken with ⟨_, _, _, rfl⟩
    exact holds

theorem System.ReachableUnder.authentic {deployment : Deployment} {system : System}
    (reached : System.ReachableUnder deployment (Unforged deployment) system) :
    system.Authentic deployment := by
  refine Runs.Reachable.invariant ?_ (fun _ _ _ holds unforged taken => holds.step unforged taken)
    reached
  rintro _ rfl command member
  cases member

/-- Whoever publishes whatever, a command that reaches `process_command`
agrees on all signed fields with one that was signed, and its one unsigned
field repeats the signed tenant.  The signed string alone decides this: no
other command shares it with one that passes the gate. -/
theorem handed_commands_authentic (deployment : Deployment) :
    (forall system, System.ReachableUnder deployment (Unforged deployment) system ->
      forall command, command ∈ system.handed ->
        Exists fun signed => signed ∈ system.signed ∧ command.SignedAlike signed ∧
          command.operation.productTenant = signed.productTenant) ∧
    (forall (command other : AsyncCommand) (now : UInt64),
      commandGate deployment.config command now = true ->
      commandSigningBytes command = commandSigningBytes other -> command.SignedAlike other) := by
  constructor
  · intro system reached command member
    rcases System.ReachableUnder.authentic reached command member with
      ⟨⟨now, passes⟩, signed, present, same⟩
    have alike := signedAlike_of_commandSigningBytes passes same
    refine ⟨signed, present, alike, ?_⟩
    rw [← passes.operationTenant]
    exact alike.productTenant
  · intro command other now passes same
    exact signedAlike_of_commandSigningBytes ((commandGate_eq_true_iff _ _ _).mp passes) same

/-- Only commands that were signed are delivered. -/
def deliversSigned (deployment : Deployment) (system : System) : Action -> Bool
  | .deliver _ index _ => system.messages[index]?.all (fun message =>
      (deployment.config.decode message.payload).all (fun command =>
        system.signed.contains command))
  | _ => true

theorem unforged_of_deliversSigned {deployment : Deployment} (system : System) (action : Action)
    (passes : deliversSigned deployment system action = true) :
    Unforged deployment system action := by
  cases action with
  | deliver consumer index termReceived =>
      intro message command tag found decoded _ _ _
      rw [deliversSigned, found, Option.all_some, decoded, Option.all_some] at passes
      exact ⟨command, List.contains_iff_mem.mp passes, rfl⟩
  | _ => trivial

/-- Both commands are signed and the first is published and delivered. -/
theorem offering_handed :
    (Runs.execute (System.step (sampleDeployment .cast)) (deliversSigned (sampleDeployment .cast))
      System.initial [.sign firstCommand, .sign secondCommand, .tick 2000000000000,
        .publishCommand firstCommand.payload, .deliver 0 0 true]).map System.handed =
      some [firstCommand] := by
  decide +kernel

theorem offered_command_authentic : Exists fun system =>
    System.ReachableUnder (sampleDeployment .cast) (Unforged (sampleDeployment .cast)) system ∧
    system.handed = [firstCommand] ∧
    Exists fun signed => signed ∈ system.signed ∧ firstCommand.SignedAlike signed ∧
      firstCommand.operation.productTenant = signed.productTenant := by
  rcases Option.map_eq_some_iff.mp offering_handed with ⟨system, done, handed⟩
  have reached : System.ReachableUnder (sampleDeployment .cast)
      (Unforged (sampleDeployment .cast)) system :=
    Runs.Reachable.execute unforged_of_deliversSigned (.start rfl) done
  exact ⟨system, reached, handed, (handed_commands_authentic (sampleDeployment .cast)).1
    system reached firstCommand (by rw [handed]; exact List.mem_singleton_self _)⟩

end EmbeddedAlerts
