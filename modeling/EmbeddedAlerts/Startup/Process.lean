import EmbeddedAlerts.Library.Traced
import EmbeddedAlerts.Server.Http
import EmbeddedAlerts.Startup.Flags
import EmbeddedAlerts.Transport.NatsUrl

namespace EmbeddedAlerts
namespace Startup

/-!
# Starting the process

The process resolves its configuration, prints and ends if it is asked for help
or for its version, and otherwise starts in a fixed order: logging, the
boundary to the identity authority, the database, the mTLS listener, the
JetStream consumer, and at last the HTTP listener.  Each of the transports is
configured by a group of variables, and a group that is not configured is left
out.

Whatever is wrong ends the process with an error.  But the order means that
some things have been done by then: the mTLS listener answers while the
JetStream variables are still to be checked.  So a start is described by what
it has done and by its result, and what is guaranteed for each thing that was
done is what had been checked before it.
-/

/-! ## What the process depends on -/

/-- `tokio::time::timeout` around `Database::connect`. -/
inductive Connection where
  | connected
  | failed
  | timedOut
deriving DecidableEq

/-- Everything outside of the program.  A PEM file has its items, or cannot be
opened, and an item is a certificate or is not readable. -/
structure World where
  contract : Flags.ContractFile
  parser : Flags.Parser
  argv : List String
  environment : List (String × String)
  helpTable : Except String String
  filter : String -> Except String Unit
  clientAccepts : String -> Bool
  connect : String -> Connection
  certificates : String -> Option (List (Option (List UInt8)))
  privateKey : String -> Option (List UInt8)
  isRoot : List UInt8 -> Bool
  verifies : List (List UInt8) -> Bool
  certifies : List (List UInt8) -> List UInt8 -> Bool
  /-- Whether an address can be bound while the process listens on these. -/
  binds : List String -> String -> Bool

inductive Effect where
  | print (text : String)
  | startTelemetry
  | connectDatabase (url : String)
  | listenMtls (address : String)
  | serveMtls
  | consumeJetStream (settings : JetStream.Settings) (productTenant : String)
  | listenApi (address : String)
  | serveApi

abbrev Start := Traced String Effect

/-- What serves after a start. -/
structure Started where
  auth : AuthBoundary
  database : Option String
  mtls : Option String
  jetstream : Option JetStream.Settings
  address : String

/-! ## The steps -/

def processControl (world : World) (values : String -> Option String) :
    Except String (Option String) :=
  if values "CLI_HELP_REQUESTED" = some "true" then world.helpTable.map some
  else if values "CLI_VERSION_REQUESTED" = some "true" then .ok (some "eal-api-server 0.1.0\n")
  else .ok none

def initTelemetry (world : World) (values : String -> Option String) : Start Unit := do
  Traced.lift (world.filter ((values "RUST_LOG").getD "info,tower_http=info,hyper=warn"))
  Traced.perform .startTelemetry

/-- `AuthBoundary::from_env`, whose errors are shown with their context. -/
def loadAuth (world : World) (values : String -> Option String) : Start AuthBoundary :=
  match AuthBoundary.fromEnv values world.clientAccepts with
  | .ok auth => Traced.lift (.ok auth)
  | .error _ => Traced.lift (.error "load Shared Auth boundary")

/-- The URL of the database, unless it is blank. -/
def databaseUrl (values : String -> Option String) : Option String :=
  (values "DATABASE_URL").filter (fun url => decide (Text.trim url ≠ ""))

def connectDatabase (world : World) (values : String -> Option String) : Start (Option String) :=
  match databaseUrl values with
  | none => pure none
  | some url => do
      Traced.perform (.connectDatabase url)
      match world.connect url with
      | .connected => pure (some url)
      | .failed => Traced.lift (.error "connect database")
      | .timedOut => Traced.lift (.error "database connection timed out")

def readCertificates (world : World) (path : String) : Except String (List (List UInt8)) :=
  match world.certificates path with
  | none => .error "TLS certificate file cannot be opened"
  | some items =>
      match items.mapM id with
      | none => .error "TLS certificate file is invalid"
      | some certificates => .ok certificates

def readPrivateKey (world : World) (path : String) : Except String (List UInt8) :=
  match world.privateKey path with
  | none => .error "TLS private key file is missing or invalid"
  | some key => .ok key

def mtlsNames : List String :=
  ["EAL_API_MTLS_BIND", "EAL_API_TLS_CERT_FILE", "EAL_API_TLS_KEY_FILE", "EAL_WEB_CLIENT_CA_FILE"]

/-- The address to bind, once everything about TLS is valid. -/
def mtlsFromEnv (world : World) (values : String -> Option String) :
    Except String (Option String) :=
  match mtlsNames.map (JetStream.optionalEnv values) with
  | [none, none, none, none] => .ok none
  | [some bind, some certificateFile, some privateKeyFile, some clientCaFile] => do
      let certificates <- readCertificates world certificateFile
      let privateKey <- readPrivateKey world privateKeyFile
      let roots <- readCertificates world clientCaFile
      Fallible.refuseIf (!roots.all world.isRoot) "web client CA certificate is invalid"
      Fallible.refuseIf roots.isEmpty "web client CA file is empty"
      Fallible.refuseIf (!world.verifies roots) "web client verifier configuration is invalid"
      Fallible.refuseIf (!world.certifies certificates privateKey)
        "API server certificate or key is invalid"
      return some bind
  | _ => .error "all API mTLS variables must be configured together"

def listen (world : World) (held : List String) (effect : Effect) (address message : String) :
    Start Unit := do
  Traced.lift (Fallible.refuseIf (!world.binds held address) message)
  Traced.perform effect

def spawnMtlsFromEnv (world : World) (values : String -> Option String) :
    Start (Option String) := do
  let config <- Traced.lift (mtlsFromEnv world values)
  match config with
  | none => pure none
  | some address => do
      listen world [] (.listenMtls address) address "mTLS/TCP bind failed"
      Traced.perform .serveMtls
      return some address

def spawnJetStreamFromEnv (values : String -> Option String) (database : Option String)
    (productTenant : String) : Start (Option JetStream.Settings) := do
  let config <- Traced.lift (JetStream.spawnFromEnv values database.isSome)
  match config with
  | none => pure none
  | some settings => do
      Traced.perform (.consumeJetStream settings productTenant)
      return some settings

def apiAddress (values : String -> Option String) : String :=
  (values "HOST").getD "0.0.0.0" ++ ":" ++ (values "PORT").getD "8080"

def run (world : World) (values : String -> Option String) : Start Started := do
  initTelemetry world values
  let auth <- loadAuth world values
  let database <- connectDatabase world values
  let mtls <- spawnMtlsFromEnv world values
  let jetstream <- spawnJetStreamFromEnv values database auth.policy.productTenant
  listen world mtls.toList (.listenApi (apiAddress values)) (apiAddress values)
    "bind API listener"
  Traced.perform .serveApi
  return ⟨auth, database, mtls, jetstream, apiAddress values⟩

def World.resolve (world : World) : Except String (String -> Option String) :=
  Flags.resolveFrom world.contract world.parser world.argv world.environment

/-- Nothing is returned by a process that has only printed. -/
def main (world : World) : Start (Option Started) := do
  let values <- Traced.lift world.resolve
  let output <- Traced.lift (processControl world values)
  match output with
  | some text => do
      Traced.perform (.print text)
      return none
  | none => do
      let started <- run world values
      return some started

/-! ## What each step takes -/

section

variable {world : World} {values : String -> Option String}

/-- The database that is used: none if no URL is set. -/
def DatabaseStarts (world : World) (values : String -> Option String) (database : Option String) :
    Prop :=
  (databaseUrl values = none ∧ database = none) ∨
    Exists fun url => databaseUrl values = some url ∧ world.connect url = .connected ∧
      database = some url

/-- The files that the mTLS listener is configured by are all good. -/
def ValidTls (world : World) (certificateFile privateKeyFile clientCaFile : String) : Prop :=
  Exists fun certificates => Exists fun privateKey => Exists fun roots =>
    world.certificates certificateFile = some (certificates.map some) ∧
    world.privateKey privateKeyFile = some privateKey ∧
    world.certificates clientCaFile = some (roots.map some) ∧
    (forall root, root ∈ roots -> world.isRoot root = true) ∧ roots ≠ [] ∧
    world.verifies roots = true ∧ world.certifies certificates privateKey = true

/-- The address of the mTLS listener: none if no variable of the group is
set, and otherwise all of them are. -/
def MtlsConfigured (world : World) (values : String -> Option String) (mtls : Option String) :
    Prop :=
  ((forall name, name ∈ mtlsNames -> JetStream.optionalEnv values name = none) ∧ mtls = none) ∨
    Exists fun address => Exists fun certificateFile => Exists fun privateKeyFile =>
    Exists fun clientCaFile =>
      mtlsNames.map (JetStream.optionalEnv values) =
        [some address, some certificateFile, some privateKeyFile, some clientCaFile] ∧
      ValidTls world certificateFile privateKeyFile clientCaFile ∧ mtls = some address

/-- The consumer's settings: none if no URL is set, and otherwise there is a
key, and a database. -/
def JetStreamConfigured (values : String -> Option String) (database : Option String)
    (jetstream : Option JetStream.Settings) : Prop :=
  (JetStream.optionalEnv values "NATS_URL" = none ∧ jetstream = none) ∨
    Exists fun url => Exists fun key =>
      JetStream.optionalEnv values "NATS_URL" = some url ∧ validateNatsUrl url = .ok () ∧
      JetStream.optionalEnv values "EAL_NATS_COMMAND_HMAC_KEY" = some key ∧
      validCommandKey (Text.asBytes key) = true ∧ database.isSome = true ∧
      jetstream = some ⟨url, Text.asBytes key⟩

theorem result_initTelemetry : (initTelemetry world values).result = .ok () ↔
    world.filter ((values "RUST_LOG").getD "info,tower_http=info,hyper=warn") = .ok () := by
  rw [initTelemetry, Traced.result_check_eq_ok_iff]
  simp

theorem result_loadAuth {auth : AuthBoundary} : (loadAuth world values).result = .ok auth ↔
    AuthBoundary.fromEnv values world.clientAccepts = .ok auth := by
  unfold loadAuth
  cases AuthBoundary.fromEnv values world.clientAccepts <;> simp

theorem effects_loadAuth : (loadAuth world values).effects = [] := by
  unfold loadAuth
  cases AuthBoundary.fromEnv values world.clientAccepts <;> rfl

theorem result_connectDatabase {database : Option String} :
    (connectDatabase world values).result = .ok database ↔ DatabaseStarts world values database := by
  unfold connectDatabase DatabaseStarts
  cases databaseUrl values with
  | none => simp [eq_comm (a := none)]
  | some url =>
      dsimp only
      rw [Traced.result_check_eq_ok_iff]
      cases reached : world.connect url <;> simp [reached, eq_comm (a := some url)]

theorem mem_effects_connectDatabase {effect : Effect} :
    effect ∈ (connectDatabase world values).effects ↔
      Exists fun url => databaseUrl values = some url ∧ effect = .connectDatabase url := by
  unfold connectDatabase
  cases databaseUrl values with
  | none => simp
  | some url =>
      dsimp only
      rw [Traced.mem_effects_check_iff]
      cases world.connect url <;> simp

theorem readCertificates_eq_ok_iff {path : String} {certificates : List (List UInt8)} :
    readCertificates world path = .ok certificates ↔
      world.certificates path = some (certificates.map some) := by
  unfold readCertificates
  cases world.certificates path with
  | none => simp
  | some items =>
      dsimp only
      rw [Option.some.injEq, ← Json.mapM_id_eq_some_iff]
      cases items.mapM id <;> simp

theorem readPrivateKey_eq_ok_iff {path : String} {key : List UInt8} :
    readPrivateKey world path = .ok key ↔ world.privateKey path = some key := by
  unfold readPrivateKey
  cases world.privateKey path <;> simp

theorem mtlsFromEnv_eq_ok_iff {mtls : Option String} :
    mtlsFromEnv world values = .ok mtls ↔ MtlsConfigured world values mtls := by
  constructor
  · intro configured
    unfold mtlsFromEnv at configured
    split at configured
    · next absent =>
        cases configured
        refine Or.inl ⟨?_, rfl⟩
        intro name member
        have found := List.mem_map_of_mem (f := JetStream.optionalEnv values) member
        rw [absent] at found
        simpa using found
    · next address certificateFile privateKeyFile clientCaFile present =>
        rcases (Fallible.bind_eq_ok_iff _ _ _).mp configured with
          ⟨certificates, certificatesRead, configured⟩
        rcases (Fallible.bind_eq_ok_iff _ _ _).mp configured with ⟨key, keyRead, configured⟩
        rcases (Fallible.bind_eq_ok_iff _ _ _).mp configured with ⟨roots, rootsRead, configured⟩
        rcases (Fallible.check_eq_ok_iff _ _ _).mp configured with ⟨valid, configured⟩
        rcases (Fallible.check_eq_ok_iff _ _ _).mp configured with ⟨nonempty, configured⟩
        rcases (Fallible.check_eq_ok_iff _ _ _).mp configured with ⟨verifies, configured⟩
        rcases (Fallible.check_eq_ok_iff _ _ _).mp configured with ⟨certifies, configured⟩
        cases configured
        simp only [Fallible.refuseIf_eq_ok_iff, Bool.not_eq_false', List.all_eq_true] at valid nonempty verifies certifies
        exact Or.inr ⟨address, certificateFile, privateKeyFile, clientCaFile, present,
          ⟨certificates, key, roots, readCertificates_eq_ok_iff.mp certificatesRead,
            readPrivateKey_eq_ok_iff.mp keyRead, readCertificates_eq_ok_iff.mp rootsRead, valid,
            List.isEmpty_eq_false_iff.mp nonempty, verifies, certifies⟩, rfl⟩
    · cases configured
  · rintro (⟨absent, rfl⟩ | ⟨address, certificateFile, privateKeyFile, clientCaFile, present,
      ⟨certificates, key, roots, certificatesRead, keyRead, rootsRead, valid, nonempty, verifies,
        certifies⟩, rfl⟩)
    · have none : mtlsNames.map (JetStream.optionalEnv values) = [none, none, none, none] :=
        List.map_congr_left absent
      rw [mtlsFromEnv, none]
    · rw [mtlsFromEnv, present]
      simp only [readCertificates_eq_ok_iff.mpr certificatesRead,
        readPrivateKey_eq_ok_iff.mpr keyRead, readCertificates_eq_ok_iff.mpr rootsRead, bind,
        Except.bind, List.all_eq_true.mpr valid, List.isEmpty_eq_false_iff.mpr nonempty, verifies,
        certifies, Fallible.refuseIf, Bool.not_true, Bool.false_eq_true, if_false, pure,
        Except.pure]

theorem spawnFromEnv_eq_ok_iff {database : Option String} {jetstream : Option JetStream.Settings} :
    JetStream.spawnFromEnv values database.isSome = .ok jetstream ↔
      JetStreamConfigured values database jetstream := by
  have required : forall name value, JetStream.requiredEnv values name = .ok value ↔
      JetStream.optionalEnv values name = some value := by
    intro name value
    unfold JetStream.requiredEnv
    cases JetStream.optionalEnv values name <;> simp
  constructor
  · intro spawned
    unfold JetStream.spawnFromEnv at spawned
    split at spawned
    · next absent =>
        cases spawned
        exact Or.inl ⟨absent, rfl⟩
    · next url present =>
        rcases (Fallible.check_eq_ok_iff _ _ _).mp spawned with ⟨valid, spawned⟩
        rcases (Fallible.bind_eq_ok_iff _ _ _).mp spawned with ⟨key, keyed, spawned⟩
        rcases (Fallible.check_eq_ok_iff _ _ _).mp spawned with ⟨wellFormed, spawned⟩
        rcases (Fallible.check_eq_ok_iff _ _ _).mp spawned with ⟨durable, spawned⟩
        cases spawned
        rw [Fallible.refuseIf_eq_ok_iff, Bool.not_eq_false'] at wellFormed durable
        exact Or.inr ⟨url, key, present, valid, (required _ _).mp keyed, wellFormed, durable, rfl⟩
  · rintro (⟨absent, rfl⟩ | ⟨url, key, present, valid, keyed, wellFormed, durable, rfl⟩)
    · rw [JetStream.spawnFromEnv, absent]
    · rw [JetStream.spawnFromEnv, present]
      simp only [valid, (required _ _).mpr keyed, wellFormed, durable, Fallible.refuseIf, bind,
        Except.bind, Bool.not_true, Bool.false_eq_true, if_false, pure, Except.pure]

theorem result_listen {held : List String} {effect : Effect} {address message : String} :
    (listen world held effect address message).result = .ok () ↔
      world.binds held address = true := by
  rw [listen, Traced.result_check_eq_ok_iff]
  simp

theorem mem_effects_listen {held : List String} {effect done : Effect}
    {address message : String} : done ∈ (listen world held effect address message).effects ↔
      world.binds held address = true ∧ done = effect := by
  rw [listen, Traced.mem_effects_check_iff]
  simp

/-- The mTLS listener runs: it is configured, and its address was free. -/
def MtlsStarts (world : World) (values : String -> Option String) (mtls : Option String) : Prop :=
  MtlsConfigured world values mtls ∧
    forall address, mtls = some address -> world.binds [] address = true

theorem result_spawnMtlsFromEnv {mtls : Option String} :
    (spawnMtlsFromEnv world values).result = .ok mtls ↔ MtlsStarts world values mtls := by
  simp only [spawnMtlsFromEnv, Traced.result_bind_eq_ok_iff, Traced.result_lift,
    mtlsFromEnv_eq_ok_iff]
  constructor
  · rintro ⟨config, configured, started⟩
    cases config with
    | none =>
        cases started
        exact ⟨configured, fun address impossible => nomatch impossible⟩
    | some address =>
        rcases Traced.result_check_eq_ok_iff.mp started with ⟨bound, started⟩
        rcases Traced.result_check_eq_ok_iff.mp started with ⟨_, started⟩
        cases started
        refine ⟨configured, fun other same => ?_⟩
        cases same
        exact result_listen.mp bound
  · rintro ⟨configured, bound⟩
    refine ⟨mtls, configured, ?_⟩
    cases mtls with
    | none => rfl
    | some address =>
        exact Traced.result_check_eq_ok_iff.mpr ⟨result_listen.mpr (bound address rfl),
          Traced.result_check_eq_ok_iff.mpr ⟨rfl, rfl⟩⟩

theorem of_mem_effects_spawnMtlsFromEnv {effect : Effect}
    (done : effect ∈ (spawnMtlsFromEnv world values).effects) :
    Exists fun address => MtlsStarts world values (some address) ∧
      (effect = .listenMtls address ∨ effect = .serveMtls) := by
  rcases Traced.mem_effects_bind_iff.mp done with none | ⟨config, configured, done⟩
  · cases none
  · have valid := mtlsFromEnv_eq_ok_iff.mp configured
    cases config with
    | none => cases done
    | some address =>
        have started : world.binds [] address = true -> MtlsStarts world values (some address) :=
          fun bound => ⟨valid, fun other same => Option.some.inj same ▸ bound⟩
        rcases Traced.mem_effects_check_iff.mp done with listening | ⟨bound, done⟩
        · rcases mem_effects_listen.mp listening with ⟨bound, rfl⟩
          exact ⟨address, started bound, Or.inl rfl⟩
        · rcases Traced.mem_effects_check_iff.mp done with serving | ⟨_, none⟩
          · exact ⟨address, started (result_listen.mp bound), Or.inr (List.mem_singleton.mp serving)⟩
          · cases none

theorem result_spawnJetStreamFromEnv {database : Option String} {tenant : String}
    {jetstream : Option JetStream.Settings} :
    (spawnJetStreamFromEnv values database tenant).result = .ok jetstream ↔
      JetStreamConfigured values database jetstream := by
  simp only [spawnJetStreamFromEnv, Traced.result_bind_eq_ok_iff, Traced.result_lift,
    spawnFromEnv_eq_ok_iff]
  constructor
  · rintro ⟨config, configured, started⟩
    cases config with
    | none =>
        cases started
        exact configured
    | some settings =>
        rcases Traced.result_check_eq_ok_iff.mp started with ⟨_, started⟩
        cases started
        exact configured
  · intro configured
    refine ⟨jetstream, configured, ?_⟩
    cases jetstream with
    | none => rfl
    | some settings => exact Traced.result_check_eq_ok_iff.mpr ⟨rfl, rfl⟩

theorem of_mem_effects_spawnJetStreamFromEnv {effect : Effect} {database : Option String}
    {tenant : String} (done : effect ∈ (spawnJetStreamFromEnv values database tenant).effects) :
    Exists fun settings => JetStreamConfigured values database (some settings) ∧
      effect = .consumeJetStream settings tenant := by
  rcases Traced.mem_effects_bind_iff.mp done with none | ⟨config, configured, done⟩
  · cases none
  · have valid := spawnFromEnv_eq_ok_iff.mp configured
    cases config with
    | none => cases done
    | some settings =>
        rcases Traced.mem_effects_check_iff.mp done with consuming | ⟨_, none⟩
        · exact ⟨settings, valid, List.mem_singleton.mp consuming⟩
        · cases none

/-! ## What a start takes -/

/-- The configuration was resolved, and neither help nor the version was
asked for. -/
def Accepted (world : World) (values : String -> Option String) : Prop :=
  world.resolve = .ok values ∧ values "CLI_HELP_REQUESTED" ≠ some "true" ∧
    values "CLI_VERSION_REQUESTED" ≠ some "true"

theorem processControl_eq_none_iff : processControl world values = .ok none ↔
    values "CLI_HELP_REQUESTED" ≠ some "true" ∧ values "CLI_VERSION_REQUESTED" ≠ some "true" := by
  unfold processControl
  by_cases help : values "CLI_HELP_REQUESTED" = some "true"
  · cases world.helpTable <;> simp [help, Except.map]
  · by_cases version : values "CLI_VERSION_REQUESTED" = some "true"
    · simp [help, version]
    · simp [help, version]

/-- What has been checked when the process serves. -/
structure Starts (world : World) (values : String -> Option String) (started : Started) :
    Prop where
  filter : world.filter ((values "RUST_LOG").getD "info,tower_http=info,hyper=warn") = .ok ()
  auth : AuthBoundary.fromEnv values world.clientAccepts = .ok started.auth
  database : DatabaseStarts world values started.database
  mtls : MtlsStarts world values started.mtls
  jetstream : JetStreamConfigured values started.database started.jetstream
  address : started.address = apiAddress values
  binds : world.binds started.mtls.toList started.address = true

theorem result_run {started : Started} :
    (run world values).result = .ok started ↔ Starts world values started := by
  constructor
  · intro ended
    rcases Traced.result_check_eq_ok_iff.mp ended with ⟨filter, ended⟩
    rcases Traced.result_bind_eq_ok_iff.mp ended with ⟨auth, loaded, ended⟩
    rcases Traced.result_bind_eq_ok_iff.mp ended with ⟨database, connected, ended⟩
    rcases Traced.result_bind_eq_ok_iff.mp ended with ⟨mtls, listening, ended⟩
    rcases Traced.result_bind_eq_ok_iff.mp ended with ⟨jetstream, consuming, ended⟩
    rcases Traced.result_check_eq_ok_iff.mp ended with ⟨bound, ended⟩
    rcases Traced.result_check_eq_ok_iff.mp ended with ⟨_, ended⟩
    cases ended
    exact ⟨result_initTelemetry.mp filter, result_loadAuth.mp loaded,
      result_connectDatabase.mp connected, result_spawnMtlsFromEnv.mp listening,
      result_spawnJetStreamFromEnv.mp consuming, rfl, result_listen.mp bound⟩
  · rintro ⟨filter, loaded, connected, listening, consuming, address, bound⟩
    rcases started with ⟨auth, database, mtls, jetstream, served⟩
    cases address
    refine Traced.result_check_eq_ok_iff.mpr ⟨result_initTelemetry.mpr filter, ?_⟩
    refine Traced.result_bind_eq_ok_iff.mpr ⟨auth, result_loadAuth.mpr loaded, ?_⟩
    refine Traced.result_bind_eq_ok_iff.mpr ⟨database, result_connectDatabase.mpr connected, ?_⟩
    refine Traced.result_bind_eq_ok_iff.mpr ⟨mtls, result_spawnMtlsFromEnv.mpr listening, ?_⟩
    refine Traced.result_bind_eq_ok_iff.mpr
      ⟨jetstream, result_spawnJetStreamFromEnv.mpr consuming, ?_⟩
    refine Traced.result_check_eq_ok_iff.mpr ⟨result_listen.mpr bound, ?_⟩
    exact Traced.result_check_eq_ok_iff.mpr ⟨rfl, rfl⟩

theorem result_main_eq_some_iff {started : Started} :
    (main world).result = .ok (some started) ↔
      Exists fun values => Accepted world values ∧ Starts world values started := by
  constructor
  · intro ended
    rcases Traced.result_bind_eq_ok_iff.mp ended with ⟨values, resolved, ended⟩
    rcases Traced.result_bind_eq_ok_iff.mp ended with ⟨output, asked, ended⟩
    cases output with
    | some text =>
        rcases Traced.result_check_eq_ok_iff.mp ended with ⟨_, impossible⟩
        cases impossible
    | none =>
        rcases Traced.result_bind_eq_ok_iff.mp ended with ⟨served, ran, ended⟩
        cases ended
        exact ⟨values, ⟨resolved, processControl_eq_none_iff.mp asked⟩, result_run.mp ran⟩
  · rintro ⟨values, ⟨resolved, unasked⟩, starts⟩
    refine Traced.result_bind_eq_ok_iff.mpr ⟨values, resolved, ?_⟩
    refine Traced.result_bind_eq_ok_iff.mpr ⟨none, processControl_eq_none_iff.mpr unasked, ?_⟩
    exact Traced.result_bind_eq_ok_iff.mpr ⟨started, result_run.mpr starts, rfl⟩

/-! ## What has been checked before each thing that is done -/

/-- The configuration, the logging and the boundary to the identity
authority. -/
def Opened (world : World) (values : String -> Option String) (auth : AuthBoundary) : Prop :=
  Accepted world values ∧
    world.filter ((values "RUST_LOG").getD "info,tower_http=info,hyper=warn") = .ok () ∧
    AuthBoundary.fromEnv values world.clientAccepts = .ok auth

/-- Printing is all that a process does that prints. -/
def Checked (world : World) : Effect -> Prop
  | .print text => (main world).effects = [.print text] ∧ (main world).result = .ok none
  | .startTelemetry => Exists fun values => Accepted world values
  | .connectDatabase url => Exists fun values => Exists fun auth =>
      Opened world values auth ∧ databaseUrl values = some url
  | .listenMtls address => Exists fun values => Exists fun auth => Exists fun database =>
      Opened world values auth ∧ DatabaseStarts world values database ∧
      MtlsStarts world values (some address)
  | .serveMtls => Exists fun values => Exists fun auth => Exists fun database =>
      Exists fun address => Opened world values auth ∧ DatabaseStarts world values database ∧
      MtlsStarts world values (some address)
  | .consumeJetStream settings tenant => Exists fun values => Exists fun auth =>
      Exists fun database => Exists fun mtls =>
      Opened world values auth ∧ DatabaseStarts world values database ∧
      MtlsStarts world values mtls ∧ JetStreamConfigured values database (some settings) ∧
      tenant = auth.policy.productTenant
  | .listenApi address => Exists fun started => (main world).result = .ok (some started) ∧
      address = started.address
  | .serveApi => Exists fun started => (main world).result = .ok (some started)

theorem checked_run (accepted : Accepted world values) {effect : Effect}
    (done : effect ∈ (run world values).effects) : Checked world effect := by
  rcases Traced.mem_effects_check_iff.mp done with logging | ⟨logged, done⟩
  · rcases Traced.mem_effects_check_iff.mp logging with none | ⟨_, logging⟩
    · cases none
    · rw [List.mem_singleton.mp logging]
      exact ⟨values, accepted⟩
  have filter := result_initTelemetry.mp logged
  rcases Traced.mem_effects_bind_iff.mp done with none | ⟨auth, loaded, done⟩
  · rw [effects_loadAuth] at none
    cases none
  have opened : Opened world values auth := ⟨accepted, filter, result_loadAuth.mp loaded⟩
  rcases Traced.mem_effects_bind_iff.mp done with connecting | ⟨database, connected, done⟩
  · rcases mem_effects_connectDatabase.mp connecting with ⟨url, given, rfl⟩
    exact ⟨values, auth, opened, given⟩
  have stored := result_connectDatabase.mp connected
  rcases Traced.mem_effects_bind_iff.mp done with listening | ⟨mtls, listened, done⟩
  · rcases of_mem_effects_spawnMtlsFromEnv listening with ⟨address, starts, rfl | rfl⟩
    · exact ⟨values, auth, database, opened, stored, starts⟩
    · exact ⟨values, auth, database, address, opened, stored, starts⟩
  have secured := result_spawnMtlsFromEnv.mp listened
  rcases Traced.mem_effects_bind_iff.mp done with consuming | ⟨jetstream, consumed, done⟩
  · rcases of_mem_effects_spawnJetStreamFromEnv consuming with ⟨settings, configured, rfl⟩
    exact ⟨values, auth, database, mtls, opened, stored, secured, configured, rfl⟩
  have configured := result_spawnJetStreamFromEnv.mp consumed
  -- From here on the start succeeds as soon as the address is free.
  have served : world.binds mtls.toList (apiAddress values) = true ->
      (main world).result = .ok (some ⟨auth, database, mtls, jetstream, apiAddress values⟩) :=
    fun bound => result_main_eq_some_iff.mpr ⟨values, accepted, filter, opened.2.2, stored, secured,
      configured, rfl, bound⟩
  rcases Traced.mem_effects_check_iff.mp done with binding | ⟨bound, done⟩
  · rcases mem_effects_listen.mp binding with ⟨bound, rfl⟩
    exact ⟨_, served bound, rfl⟩
  rcases Traced.mem_effects_check_iff.mp done with serving | ⟨_, none⟩
  · rw [List.mem_singleton.mp serving]
    exact ⟨_, served (result_listen.mp bound)⟩
  · cases none

theorem checked_main {effect : Effect} (done : effect ∈ (main world).effects) :
    Checked world effect := by
  rcases Traced.mem_effects_bind_iff.mp done with none | ⟨values, resolved, later⟩
  · cases none
  rcases Traced.mem_effects_bind_iff.mp later with none | ⟨output, asked, later⟩
  · cases none
  cases output with
  | some text =>
      have printed : main world = ⟨[.print text], .ok none⟩ := by
        have same : world.resolve = .ok values := resolved
        have control : processControl world values = .ok (some text) := asked
        simp only [main, same, Traced.lift, bind, Traced.andThen, control, Traced.perform, pure,
          List.nil_append, List.append_nil]
      rw [printed] at done
      rw [List.mem_singleton.mp done, Checked, printed]
      exact ⟨rfl, rfl⟩
  | none =>
      rcases Traced.mem_effects_bind_iff.mp later with running | ⟨_, _, none⟩
      · exact checked_run ⟨resolved, processControl_eq_none_iff.mp asked⟩ running
      · cases none

/-- The process serves exactly when everything that is configured is valid
and everything that is needed is configured.  Until then nothing is done before
what it depends on has been checked: nothing at all unless the arguments were
accepted, and the HTTP listener is bound only by a start that succeeds. -/
theorem startup_fails_closed (world : World) :
    (forall started, (main world).result = .ok (some started) ↔
      Exists fun values => Accepted world values ∧ Starts world values started) ∧
    forall effect, effect ∈ (main world).effects -> Checked world effect :=
  ⟨fun _ => result_main_eq_some_iff, fun _ done => checked_main done⟩

/-! ## What the health check reports -/

/-- The state that the handlers share, next to what other crates write. -/
def Started.http (started : Started) (base : HttpConfig) : HttpConfig :=
  { base with
    policy := started.auth.policy
    mtlsConfigured := started.mtls.isSome
    jetstreamConfigured := started.jetstream.isSome }

/-- The store at the start: the table as it is found, or an empty map. -/
def Started.store (started : Started) (rows : List AlertRow) : AlertStore :=
  if started.database.isSome then .database rows else .fallback []

theorem databaseConfigured_respond (config : HttpConfig) (store : AlertStore) (call : HttpCall) :
    (respond config store call).2.databaseConfigured = store.databaseConfigured := by
  rw [AlertStore.databaseConfigured, backend_respond, AlertStore.databaseConfigured]

/-- The store after some calls. -/
def served (config : HttpConfig) (store : AlertStore) (calls : List HttpCall) : AlertStore :=
  calls.foldl (fun state call => (respond config state call).2) store

theorem databaseConfigured_served (config : HttpConfig) (store : AlertStore)
    (calls : List HttpCall) :
    (served config store calls).databaseConfigured = store.databaseConfigured := by
  induction calls generalizing store with
  | nil => rfl
  | cons call rest ih => exact (ih _).trans (databaseConfigured_respond config store call)

theorem Starts.database_isSome {started : Started} (starts : Starts world values started) :
    started.database.isSome = (databaseUrl values).isSome := by
  rcases starts.database with ⟨absent, same⟩ | ⟨url, given, _, same⟩
  · rw [absent, same]
  · rw [given, same]

theorem Starts.mtls_isSome {started : Started} (starts : Starts world values started)
    {name : String} (member : name ∈ mtlsNames) :
    started.mtls.isSome = (JetStream.optionalEnv values name).isSome := by
  rcases starts.mtls.1 with ⟨absent, same⟩ | ⟨address, _, _, _, present, _, same⟩
  · rw [absent name member, same]
  · have found := List.mem_map_of_mem (f := JetStream.optionalEnv values) member
    rw [present] at found
    simp only [List.mem_cons, List.not_mem_nil, or_false] at found
    rcases found with some | some | some | some <;> rw [some, same] <;> rfl

theorem Starts.jetstream_isSome {started : Started} (starts : Starts world values started) :
    started.jetstream.isSome = (JetStream.optionalEnv values "NATS_URL").isSome := by
  rcases starts.jetstream with ⟨absent, same⟩ | ⟨url, key, given, _, _, _, _, same⟩
  · rw [absent, same]
    rfl
  · rw [given, same]
    rfl

/-- Whatever has been asked of a server that was started, its health check
tells which transports the resolved configuration sets up: the database and the
consumer by their URL, and the mTLS listener by any variable of its group. -/
theorem health_reports_configuration (world : World) (started : Started)
    (values : String -> Option String) (serves : (main world).result = .ok (some started))
    (resolved : world.resolve = .ok values) (base : HttpConfig) (rows : List AlertRow)
    (calls : List HttpCall) (call : HttpCall) (asked : call.method = .get)
    (path : call.path = "/healthz" ∨ call.path = "/readyz") :
    forall name, name ∈ mtlsNames ->
      (respond (started.http base) (served (started.http base) (started.store rows) calls) call).1 =
        .json 200 (some (.object [
          ("service", .string "eal-api-server"),
          ("status", .string "ok"),
          ("database_configured", .bool (databaseUrl values).isSome),
          ("shared_auth_configured", .bool true),
          ("mtls_configured", .bool (JetStream.optionalEnv values name).isSome),
          ("jetstream_configured", .bool (JetStream.optionalEnv values "NATS_URL").isSome)])) := by
  intro name member
  rcases result_main_eq_some_iff.mp serves with ⟨found, ⟨same, _⟩, starts⟩
  cases resolved.symm.trans same
  have routed : route call.path = some .health := by
    rcases path with same | same <;> rw [same] <;> rfl
  have stored : (started.store rows).databaseConfigured = started.database.isSome := by
    unfold Started.store
    cases started.database <;> rfl
  have flags := databaseConfigured_served (started.http base) (started.store rows) calls
  rw [stored, starts.database_isSome] at flags
  simp only [respond, routed, asked, respondGet, health, flags]
  simp only [Started.http, starts.mtls_isSome member, starts.jetstream_isSome]

/-- The defaults of the contract, and no option on the command line. -/
def sampleParser : Flags.Parser where
  auditConfig := .ok ()
  parseStructured := fun _ => .ok ⟨[], [], [], [], [], []⟩
  coerce := fun _ => .ok [("CLI_HELP_REQUESTED", .bool false), ("CLI_VERSION_REQUESTED", .bool false),
    ("HOST", .string "0.0.0.0"), ("PORT", .number "8080")]

/-- A service with a database and without the other two transports. -/
def sampleWorld : World where
  contract := .ready
  parser := sampleParser
  argv := ["eal-api-server"]
  environment := [("SHARED_AUTH_BASE_URL", "https://identity.example"),
    ("SHARED_AUTH_SERVICE_CREDENTIAL", "service-credential-0123456789"),
    ("SHARED_AUTH_ISSUER", "https://identity.example"), ("EAL_AUTH_AUDIENCE", "embedded-alerts"),
    ("EAL_AUTHORIZED_CLIENT", "embedded-alerts-web"), ("EAL_PROVIDER_TENANT", "provider-1"),
    ("EAL_PRODUCT_TENANT", "embedded-alerts"), ("DATABASE_URL", "postgres://localhost/eal")]
  helpTable := .error ""
  filter := fun _ => .ok ()
  clientAccepts := fun _ => true
  connect := fun _ => .connected
  certificates := fun _ => none
  privateKey := fun _ => none
  isRoot := fun _ => false
  verifies := fun _ => false
  certifies := fun _ _ => false
  binds := fun held address => !held.contains address

def sampleStarted : Started where
  auth := sampleBoundary "embedded-alerts"
  database := some "postgres://localhost/eal"
  mtls := none
  jetstream := none
  address := "0.0.0.0:8080"

theorem sampleWorld_result : (main sampleWorld).result = .ok (some sampleStarted) := by
  rfl

theorem sampleWorld_fails_closed :
    (Exists fun values => Accepted sampleWorld values ∧
      Starts sampleWorld values sampleStarted) ∧
    Effect.serveApi ∈ (main sampleWorld).effects ∧ Checked sampleWorld .serveApi := by
  have effects : (main sampleWorld).effects = [.startTelemetry,
      .connectDatabase "postgres://localhost/eal", .listenApi "0.0.0.0:8080", .serveApi] := by
    rfl
  have serving : Effect.serveApi ∈ (main sampleWorld).effects := by
    rw [effects]
    exact List.mem_append_right [_, _, _] (List.mem_singleton_self _)
  have checked := startup_fails_closed sampleWorld
  exact ⟨(checked.1 sampleStarted).mp sampleWorld_result, serving, checked.2 _ serving⟩

def sampleValues : String -> Option String :=
  Flags.extend (Flags.extend (fun _ => none) sampleWorld.environment)
    [("CLI_HELP_REQUESTED", "false"), ("CLI_VERSION_REQUESTED", "false"), ("HOST", "0.0.0.0"),
      ("PORT", "8080")]

def healthCall : HttpCall := { sampleCall .get [] 1 0xd4 with path := "/readyz" }

theorem sampleWorld_health :
    (respond (sampleStarted.http sampleHttp) (served (sampleStarted.http sampleHttp)
      (sampleStarted.store []) twoActorCalls) healthCall).1 = .json 200 (some (.object [
        ("service", .string "eal-api-server"), ("status", .string "ok"),
        ("database_configured", .bool true), ("shared_auth_configured", .bool true),
        ("mtls_configured", .bool false), ("jetstream_configured", .bool false)])) :=
  health_reports_configuration sampleWorld sampleStarted sampleValues sampleWorld_result rfl
    sampleHttp [] twoActorCalls healthCall rfl (Or.inr rfl) "EAL_API_MTLS_BIND" (by decide)

end

end Startup
end EmbeddedAlerts
