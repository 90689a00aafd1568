import SearchRequest.Json.Basic
import SearchRequest.Text.Blank
import SearchRequest.Trace.Level

/-!
The settings of a connection, of its log and of its pages.
-/

namespace SearchRequest

inductive Environment
  | development
  | staging
  | production
  | test
deriving DecidableEq, Repr

namespace Environment

def name : Environment → String
  | .development => "development"
  | .staging => "staging"
  | .production => "production"
  | .test => "test"

def all : List Environment := [.development, .staging, .production, .test]

def named? (text : String) : Option Environment := all.find? (·.name == text)

/-- The name in capitals, by which an environment is known as a constant. -/
def constant (e : Environment) : String := String.ofList (e.name.toList.map Char.toUpper)

def constant? (text : String) : Option Environment := all.find? (·.constant == text)

end Environment

inductive LogLevel
  | debug
  | info
  | warning
  | error
deriving DecidableEq, Repr

namespace LogLevel

def level : LogLevel → Level
  | .debug => .debug
  | .info => .info
  | .warning => .warning
  | .error => .error

def name : LogLevel → String
  | .debug => "DEBUG"
  | .info => "INFO"
  | .warning => "WARNING"
  | .error => "ERROR"

def all : List LogLevel := [.debug, .info, .warning, .error]

def named? (text : String) : Option LogLevel := all.find? (·.name == text)

end LogLevel

inductive LogFormat
  | json
  | console
deriving DecidableEq, Repr

namespace LogFormat

def name : LogFormat → String
  | .json => "json"
  | .console => "console"

def all : List LogFormat := [.json, .console]

def named? (text : String) : Option LogFormat := all.find? (·.name == text)

end LogFormat

/-- The sources set credentials to texts or null and the index prefix to a text; a session may
have any other value in their place. -/
structure Settings where
  environment : Environment
  logLevel : LogLevel
  logFormat : LogFormat
  hosts : String
  username : Json
  password : Json
  apiKey : Json
  verifyCerts : Bool
  requestTimeout : Decimal
  maxRetries : Nat
  retryOnTimeout : Bool
  indexPrefix : Json
  defaultPageSize : Nat
deriving DecidableEq, Repr

namespace Settings

def fields : List String :=
  ["environment", "log_level", "log_format", "hosts", "username", "password", "api_key",
   "verify_certs", "request_timeout", "max_retries", "retry_on_timeout", "index_prefix",
   "default_page_size"]

/-- The hosts that a text lists: the pieces between commas that are not blank, trimmed. -/
def hostsOf (value : String) : List String :=
  (((Text.pieces ',' value.toList).map String.ofList).filter (!Text.isBlank ·)).map Text.trim

def hostList (s : Settings) : List String := hostsOf s.hosts

def threshold (s : Settings) : Threshold := .atLeast s.logLevel.level

def settled (s : Settings) : Settings :=
  if s.environment = .production then { s with logFormat := .json } else s

def entries (s : Settings) : Object :=
  [("environment", .str s.environment.name),
   ("log_level", .str s.logLevel.name),
   ("log_format", .str s.logFormat.name),
   ("hosts", .str s.hosts),
   ("username", s.username),
   ("password", s.password),
   ("api_key", s.apiKey),
   ("verify_certs", .bool s.verifyCerts),
   ("request_timeout", .float s.requestTimeout),
   ("max_retries", .int s.maxRetries),
   ("retry_on_timeout", .bool s.retryOnTimeout),
   ("index_prefix", s.indexPrefix),
   ("default_page_size", .int s.defaultPageSize),
   ("host_list", .strings s.hostList),
   ("is_development", .bool (s.environment == .development)),
   ("is_production", .bool (s.environment == .production)),
   ("is_test", .bool (s.environment == .test))]

end Settings

end SearchRequest
