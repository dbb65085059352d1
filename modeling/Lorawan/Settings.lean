import Lorawan.Crypto.Kek
import Lorawan.Json.Basic
import Lorawan.Text.Blank
import Lorawan.Text.Lowercase
import Lorawan.Text.Split

/-!
# Settings

The settings of the server come from environment variables.  A variable belongs to a setting if it is the
setting's name after `LORA_AS_`, in letters of either case; other variables are passed over, and a setting
without a variable has its standard value.  Settings that can be read may still break a rule, which
`validate` finds.
-/

namespace Lorawan

/-- Where notifications are to go. -/
inductive Backend where
  | nats
  | disabled
  deriving DecidableEq, Repr

namespace Backend

/-- All backends. -/
def all : List Backend := [.nats, .disabled]

/-- The name of a backend. -/
def label : Backend → String
  | nats => "nats"
  | disabled => "disabled"

/-- The name of a backend in descriptions. -/
def describe : Backend → String
  | nats => "Nats"
  | disabled => "Disabled"

end Backend

/-- The settings of the server. -/
structure Settings where
  logLevel : String
  otelEnabled : Bool
  otelEndpoint : String
  otelServiceName : String
  natsUrl : String
  natsIngressStream : String
  natsConsumerName : String
  natsBatchSize : UInt64
  natsBatchWaitSecs : UInt64
  natsMaxDeliver : Int64
  natsNakDelaySecs : UInt64
  startupTimeoutSecs : UInt64
  integrationBackend : Backend
  integrationSubjectRoot : String
  eventLogStream : String
  kekSet : String
  postgresHost : String
  postgresPort : UInt16
  postgresDatabase : String
  postgresUsername : String
  postgresPassword : String
  postgresMaxPoolSize : UInt64
  postgresMigrationsDir : String
  migrationProgram : String
  deriving DecidableEq

namespace Settings

/-- The settings where no variable is set. -/
def standard : Settings where
  logLevel := "info"
  otelEnabled := false
  otelEndpoint := "http://localhost:4317"
  otelServiceName := "lora-app-server"
  natsUrl := "nats://localhost:4222"
  natsIngressStream := "lora_ns"
  natsConsumerName := "lora-app-server"
  natsBatchSize := 32
  natsBatchWaitSecs := 5
  natsMaxDeliver := 10
  natsNakDelaySecs := 5
  startupTimeoutSecs := 10
  integrationBackend := .nats
  integrationSubjectRoot := "lora_as"
  eventLogStream := "lora_as_events"
  kekSet := ""
  postgresHost := "localhost"
  postgresPort := 5432
  postgresDatabase := "lora_as"
  postgresUsername := "lora_as"
  postgresPassword := "lora_as"
  postgresMaxPoolSize := 10
  postgresMigrationsDir := "/app/migrations/postgres"
  migrationProgram := "goose"

end Settings

/-! ## Reading -/

/-- Why the variables make no settings. -/
inductive SettingsError where
  | notInteger (name value : String)
  | notBoolean (name value : String)
  /-- The number needs more than sixteen bits. -/
  | tooLarge (name : String) (n : Nat)
  | unknownBackend (value : String)
  deriving DecidableEq, Repr

namespace SettingsError

/-- The wording for a text that is not of the expected kind. -/
def invalidText (name value expected : String) : String :=
  "invalid type: string " ++ Text.quoted value ++ ", expected " ++ expected ++ " for key `" ++ name
    ++ "` in the environment"

/-- The wording of a settings error. -/
def message : SettingsError → String
  | notInteger name value => invalidText name value "an integer"
  | notBoolean name value => invalidText name value "a boolean"
  | tooLarge name n =>
    "invalid type: 64-bit unsigned integer `" ++ toString n
      ++ "`, expected an unsigned 16 bit integer for key `" ++ name ++ "`"
  | unknownBackend value =>
    "enum IntegrationBackend does not have variant constructor " ++ value

end SettingsError

/-- The variables that are meant for the server, by the names of their settings. -/
structure Variables where
  values : List (String × String)

namespace Variables

/-- How the names of the variables begin. -/
def nameStart : String := "lora_as_"

/-- The name of the setting that a variable is meant for. -/
def settingName? (name : String) : Option String :=
  let cs := (Text.lower name).toList
  if nameStart.toList.isPrefixOf cs then some (String.ofList (cs.drop nameStart.length)) else none

/-- The variables among those of an environment that are meant for the server. -/
def ofEnvironment (env : List (String × String)) : Variables :=
  ⟨env.filterMap fun (name, value) => (settingName? name).map (·, value)⟩

/-- The value for a setting; of several variables the last one counts. -/
def get? (v : Variables) (name : String) : Option String := v.values.reverse.lookup name

/-- Words that stand for truth values. -/
def truthOf? (word : String) : Option Bool :=
  if ["true", "on", "yes"].contains word then some true
  else if ["false", "off", "no"].contains word then some false
  else none

/-- A text setting. -/
def text (v : Variables) (name : String) (standard : String) : String := (v.get? name).getD standard

/-- The digits of a decimal numeral, which has at least one. -/
def magnitude? (cs : List Char) : Option Nat := do
  guard !cs.isEmpty
  guard (cs.all Char.isDigit)
  return cs.foldl (fun n c => n * 10 + (c.toNat - 48)) 0

/-- Reads a decimal numeral with a sign or without one. -/
def numeral? (cs : List Char) : Option Int :=
  match cs with
  | '-' :: rest => (magnitude? rest).map fun n => -(n : Int)
  | '+' :: rest => (magnitude? rest).map Int.ofNat
  | _ => (magnitude? cs).map Int.ofNat

/-- Reads an integer with a sign; the words for truth values are one and zero. -/
def parseSigned? (s : String) : Option Int64 :=
  match truthOf? (Text.lower s) with
  | some b => some (if b then 1 else 0)
  | none => do
    let n ← numeral? s.toList
    guard (Int64.minValue.toInt ≤ n ∧ n ≤ Int64.maxValue.toInt)
    return Int64.ofInt n

/-- Reads an integer without a minus sign; the words for truth values are one and zero. -/
def parseUnsigned? (s : String) : Option UInt64 :=
  match truthOf? (Text.lower s) with
  | some b => some (if b then 1 else 0)
  | none => do
    guard (s.toList.head? ≠ some '-')
    let n ← numeral? s.toList
    guard (n < UInt64.size)
    return UInt64.ofNat n.toNat

/-- A setting that is read from its variable, if it has one. -/
def read (v : Variables) (name : String) (standard : α) (parse : String → Except SettingsError α) :
    Except SettingsError α :=
  match v.get? name with
  | none => .ok standard
  | some s => parse s

/-- A truth value. -/
def bool (v : Variables) (name : String) (standard : Bool) : Except SettingsError Bool :=
  v.read name standard fun s =>
    let word := Text.lower s
    match truthOf? word with
    | some b => .ok b
    | none =>
      if word = "1" then .ok true
      else if word = "0" then .ok false
      else .error (.notBoolean name word)

/-- An integer with a sign. -/
def signed (v : Variables) (name : String) (standard : Int64) : Except SettingsError Int64 :=
  v.read name standard fun s => (parseSigned? s).elim (.error (.notInteger name s)) .ok

/-- An integer without a sign. -/
def unsigned (v : Variables) (name : String) (standard : UInt64) : Except SettingsError UInt64 :=
  v.read name standard fun s => (parseUnsigned? s).elim (.error (.notInteger name s)) .ok

/-- A port. -/
def port (v : Variables) (name : String) (standard : UInt16) : Except SettingsError UInt16 :=
  v.read name standard fun s => do
    let n ← (parseUnsigned? s).elim (.error (.notInteger name s)) .ok
    if n.toNat < UInt16.size then return n.toUInt16 else throw (.tooLarge name n.toNat)

/-- A backend, in letters of either case. -/
def backend (v : Variables) (name : String) (standard : Backend) : Except SettingsError Backend :=
  v.read name standard fun s =>
    (Backend.all.find? (·.label = Text.lower s)).elim (.error (.unknownBackend s)) .ok

end Variables

namespace Settings

/-- The settings that some variables make. -/
def ofVariables (v : Variables) : Except SettingsError Settings := do
  let d := standard
  return {
    logLevel := v.text "log_level" d.logLevel
    otelEnabled := ← v.bool "otel_enabled" d.otelEnabled
    otelEndpoint := v.text "otel_endpoint" d.otelEndpoint
    otelServiceName := v.text "otel_service_name" d.otelServiceName
    natsUrl := v.text "nats_url" d.natsUrl
    natsIngressStream := v.text "nats_ingress_stream" d.natsIngressStream
    natsConsumerName := v.text "nats_consumer_name" d.natsConsumerName
    natsBatchSize := ← v.unsigned "nats_batch_size" d.natsBatchSize
    natsBatchWaitSecs := ← v.unsigned "nats_batch_wait_secs" d.natsBatchWaitSecs
    natsMaxDeliver := ← v.signed "nats_max_deliver" d.natsMaxDeliver
    natsNakDelaySecs := ← v.unsigned "nats_nak_delay_secs" d.natsNakDelaySecs
    startupTimeoutSecs := ← v.unsigned "startup_timeout_secs" d.startupTimeoutSecs
    integrationBackend := ← v.backend "integration_backend" d.integrationBackend
    integrationSubjectRoot := v.text "integration_subject_prefix" d.integrationSubjectRoot
    eventLogStream := v.text "event_log_stream" d.eventLogStream
    kekSet := v.text "kek_set" d.kekSet
    postgresHost := v.text "postgres_host" d.postgresHost
    postgresPort := ← v.port "postgres_port" d.postgresPort
    postgresDatabase := v.text "postgres_database" d.postgresDatabase
    postgresUsername := v.text "postgres_username" d.postgresUsername
    postgresPassword := v.text "postgres_password" d.postgresPassword
    postgresMaxPoolSize := ← v.unsigned "postgres_max_pool_size" d.postgresMaxPoolSize
    postgresMigrationsDir := v.text "postgres_migrations_dir" d.postgresMigrationsDir
    migrationProgram := v.text "postgres_goose_binary_path" d.migrationProgram }

/-- The settings of an environment. -/
def ofEnvironment (env : List (String × String)) : Except SettingsError Settings :=
  ofVariables (.ofEnvironment env)

/-! ## Rules -/

/-- The fault of a text that must not be empty. -/
def emptyFault (field value : String) : List FieldFault :=
  if value.isEmpty then [⟨field, "length is lower than 1"⟩] else []

/-- The fault of a number that must be at least one. -/
def lowFault (field : String) (value : Int) : List FieldFault :=
  if value < 1 then [⟨field, "lower than 1"⟩] else []

/-- What breaks the rules. -/
def faults (s : Settings) : List FieldFault :=
  emptyFault "nats_ingress_stream" s.natsIngressStream
  ++ emptyFault "nats_consumer_name" s.natsConsumerName
  ++ lowFault "nats_batch_size" s.natsBatchSize.toNat
  ++ lowFault "nats_max_deliver" s.natsMaxDeliver.toInt
  ++ emptyFault "integration_subject_prefix" s.integrationSubjectRoot
  ++ emptyFault "event_log_stream" s.eventLogStream
  ++ lowFault "postgres_max_pool_size" s.postgresMaxPoolSize.toNat

/-- Whether the settings keep the rules. -/
def validate (s : Settings) : Except ServiceError Unit :=
  match s.faults with
  | [] => .ok ()
  | faults => .error (.validation (FaultReport.ofFaults faults).text)

/-! ## Key-encryption keys -/

/-- Reads one entry of the list of keys, if it has an equals sign. -/
def readKek? (cs : List Char) : Option KekEntry :=
  (Text.splitFirst? '=' cs).map fun (label, kek) =>
    ⟨String.ofList (Text.trim label), String.ofList (Text.trim kek)⟩

/-- Reads a list of keys: entries `label=key` with commas between them and blanks around anything.  Blank
entries are passed over. -/
def readKeks? (s : String) : Option (List KekEntry) :=
  (((Text.split ',' s.toList).map Text.trim).filter fun cs => !cs.isEmpty).mapM readKek?

/-- The wording for a list of keys that cannot be read. -/
def kekSyntaxMessage : String := "kek_set entries must be label=hexkey"

/-- The entries of the set of keys, not yet validated. -/
def keks? (s : Settings) : Option (List KekEntry) := readKeks? s.kekSet

/-! ## Showing -/

/-- All settings as JSON. -/
def toJson (s : Settings) : Json :=
  .object [
    ("log_level", .text s.logLevel),
    ("otel_enabled", .bool s.otelEnabled),
    ("otel_endpoint", .text s.otelEndpoint),
    ("otel_service_name", .text s.otelServiceName),
    ("nats_url", .text s.natsUrl),
    ("nats_ingress_stream", .text s.natsIngressStream),
    ("nats_consumer_name", .text s.natsConsumerName),
    ("nats_batch_size", .int s.natsBatchSize.toNat),
    ("nats_batch_wait_secs", .int s.natsBatchWaitSecs.toNat),
    ("nats_max_deliver", .ofInt64 s.natsMaxDeliver),
    ("nats_nak_delay_secs", .int s.natsNakDelaySecs.toNat),
    ("startup_timeout_secs", .int s.startupTimeoutSecs.toNat),
    ("integration_backend", .text s.integrationBackend.label),
    ("integration_subject_prefix", .text s.integrationSubjectRoot),
    ("event_log_stream", .text s.eventLogStream),
    ("kek_set", .text s.kekSet),
    ("postgres_host", .text s.postgresHost),
    ("postgres_port", .int s.postgresPort.toNat),
    ("postgres_database", .text s.postgresDatabase),
    ("postgres_username", .text s.postgresUsername),
    ("postgres_password", .text s.postgresPassword),
    ("postgres_max_pool_size", .int s.postgresMaxPoolSize.toNat),
    ("postgres_migrations_dir", .text s.postgresMigrationsDir),
    ("postgres_goose_binary_path", .text s.migrationProgram)]

/-- A description for people, without anything secret. -/
def describe (s : Settings) : String :=
  let field (name value : String) : String := name ++ ": " ++ value
  "ServiceConfig \x7b " ++ ", ".intercalate [
    field "log_level" (Text.quoted s.logLevel),
    field "otel_enabled" (if s.otelEnabled then "true" else "false"),
    field "nats_url" (Text.quoted s.natsUrl),
    field "nats_ingress_stream" (Text.quoted s.natsIngressStream),
    field "nats_consumer_name" (Text.quoted s.natsConsumerName),
    field "integration_backend" s.integrationBackend.describe,
    field "integration_subject_prefix" (Text.quoted s.integrationSubjectRoot),
    field "event_log_stream" (Text.quoted s.eventLogStream),
    field "nats_max_deliver" (toString s.natsMaxDeliver.toInt),
    field "postgres_host" (Text.quoted s.postgresHost),
    field "postgres_port" (toString s.postgresPort.toNat),
    field "postgres_database" (Text.quoted s.postgresDatabase),
    ".. \x7d"]

end Settings

/-! ## Telemetry -/

/-- How the server reports on itself. -/
structure Telemetry where
  serviceName : String
  endpoint : String
  enabled : Bool
  logLevel : String
  deriving DecidableEq, Repr

/-- Reports are off where nothing else is said. -/
def Telemetry.standard : Telemetry :=
  ⟨"lora-app-server", "http://localhost:4317", false, "info"⟩

end Lorawan
