import SearchRequest.Settings.Basic
import SearchRequest.Settings.Library

/-!
How settings are made of what the sources set. The arguments count before the variables, these
before the file, and a field that none of them sets has its default. Only the value that stands is
checked, and every field that is refused is reported.
-/

namespace SearchRequest

namespace Settings

def config : SettingsConfig := ⟨fields, "elastic_devtools_", false⟩

def sources (handed : Handed) (file : Object) : List Source :=
  [handed.given, handed.env, handed.dotenv, .ok file, handed.secrets]

end Settings

/-- What settings are made of: the values that stand, and the variables that tell an environment
that no source sets. -/
structure Sources where
  library : SettingsLibrary
  env : Variables
  values : Object

namespace Sources

def read {α : Type} (s : Sources) (field : String) (convert : Json → Except SettingFault α)
    (fallback : α) : Except SettingFault α :=
  match s.values.get? field with
  | some value => convert value
  | none => .ok fallback

/-- The environment that the variables name, development when they name none that is known. -/
def detected (v : Variables) : Environment :=
  match (v.get? "ELASTIC_DEVTOOLS_ENV").or (v.get? "ENVIRONMENT") with
  | some name => (Environment.named? name).getD .development
  | none => .development

def hosts (library : SettingsLibrary) (value : Json) : Except SettingFault String := do
  let listed ← library.text value
  if (Settings.hostsOf listed).isEmpty then .error .hosts else .ok listed

def wholeFrom (least : Nat) (library : SettingsLibrary) (value : Json) :
    Except SettingFault Nat := do
  let n ← library.whole value
  if (least : Int) ≤ n then .ok n.toNat else .error .tooSmall

def naming {α : Type} (named? : String → Option α) (fault : SettingFault)
    (read : Except SettingFault String) : Except SettingFault α := do
  let name ← read
  match named? name with
  | some a => .ok a
  | none => .error fault

def environment (library : SettingsLibrary) (value : Json) : Except SettingFault Environment :=
  naming Environment.named? .member (library.member (Environment.all.map Environment.name) value)

def logLevel (library : SettingsLibrary) (value : Json) : Except SettingFault LogLevel :=
  naming LogLevel.named? .literal (library.literal (LogLevel.all.map LogLevel.name) value)

def logFormat (library : SettingsLibrary) (value : Json) : Except SettingFault LogFormat :=
  naming LogFormat.named? .literal (library.literal (LogFormat.all.map LogFormat.name) value)

structure Readings where
  apiKey : Except SettingFault (Option String)
  defaultPageSize : Except SettingFault Nat
  environment : Except SettingFault Environment
  hosts : Except SettingFault String
  indexPrefix : Except SettingFault String
  logFormat : Except SettingFault LogFormat
  logLevel : Except SettingFault LogLevel
  maxRetries : Except SettingFault Nat
  password : Except SettingFault (Option String)
  requestTimeout : Except SettingFault Decimal
  retryOnTimeout : Except SettingFault Bool
  username : Except SettingFault (Option String)
  verifyCerts : Except SettingFault Bool

def readings (s : Sources) : Readings where
  apiKey := s.read "api_key" s.library.optionalText none
  defaultPageSize := s.read "default_page_size" (wholeFrom 1 s.library) 25
  environment := s.read "environment" (environment s.library) (detected s.env)
  hosts := s.read "hosts" (hosts s.library) "http://localhost:9200"
  indexPrefix := s.read "index_prefix" s.library.text ""
  logFormat := s.read "log_format" (logFormat s.library) .console
  logLevel := s.read "log_level" (logLevel s.library) .info
  maxRetries := s.read "max_retries" (wholeFrom 0 s.library) 3
  password := s.read "password" s.library.optionalText none
  requestTimeout := s.read "request_timeout" s.library.number (.finite false 3 1)
  retryOnTimeout := s.read "retry_on_timeout" s.library.flag false
  username := s.read "username" s.library.optionalText none
  verifyCerts := s.read "verify_certs" s.library.flag true

def fault? {α : Type} (field : String) : Except SettingFault α → Option (String × SettingFault)
  | .ok _ => none
  | .error fault => some (field, fault)

namespace Readings

def faults (r : Readings) : List (String × SettingFault) :=
  [fault? "api_key" r.apiKey, fault? "default_page_size" r.defaultPageSize,
   fault? "environment" r.environment, fault? "hosts" r.hosts,
   fault? "index_prefix" r.indexPrefix, fault? "log_format" r.logFormat,
   fault? "log_level" r.logLevel, fault? "max_retries" r.maxRetries,
   fault? "password" r.password, fault? "request_timeout" r.requestTimeout,
   fault? "retry_on_timeout" r.retryOnTimeout, fault? "username" r.username,
   fault? "verify_certs" r.verifyCerts].filterMap id

def settings (r : Readings) : Except SettingFault Settings := do
  let environment ← r.environment
  let logLevel ← r.logLevel
  let logFormat ← r.logFormat
  let hosts ← r.hosts
  let username ← r.username
  let password ← r.password
  let apiKey ← r.apiKey
  let verifyCerts ← r.verifyCerts
  let requestTimeout ← r.requestTimeout
  let maxRetries ← r.maxRetries
  let retryOnTimeout ← r.retryOnTimeout
  let indexPrefix ← r.indexPrefix
  let defaultPageSize ← r.defaultPageSize
  .ok ⟨environment, logLevel, logFormat, hosts, .ofText? username, .ofText? password,
    .ofText? apiKey, verifyCerts, requestTimeout, maxRetries, retryOnTimeout, .str indexPrefix,
    defaultPageSize⟩

end Readings

def load (s : Sources) : Except Failure Settings :=
  let r := s.readings
  match r.settings with
  | .ok settings => .ok settings.settled
  -- Every field that is refused is reported, and not the first one alone.
  | .error _ => .error (.settings r.faults)

end Sources

end SearchRequest
