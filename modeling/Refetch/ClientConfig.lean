/-
# Settings of the client

All settings are required but the key of the API. The base of all URLs has to say how to reach the
server, no time may be zero, and no text may be blank.
-/

import Refetch.CacheConfig
import Refetch.Text.Blank

namespace Refetch

/-- How log lines are written. -/
inductive LogFormat where
  | json
  | pretty
  deriving DecidableEq, Repr

namespace LogFormat

/-- The formats by name. -/
def choices : List (String × LogFormat) := [("json", .json), ("pretty", .pretty)]

def name : LogFormat → String
  | .json => "json"
  | .pretty => "pretty"

end LogFormat

/-- What is logged, and how. -/
structure LogConfig where
  format : LogFormat
  /-- Which messages are written, part by part of the program. -/
  filter : String
  deriving DecidableEq, Repr

/-- Settings of the client. Times are in milliseconds. -/
structure ClientConfig where
  apiBaseUrl : String
  requestTimeout : UInt64
  dedupeInterval : UInt64
  pollingInterval : UInt64
  logsPollingInterval : UInt64
  /-- What the server knows the client by. -/
  apiKey : Option String
  log : LogConfig
  deriving DecidableEq, Repr

namespace ClientConfig

/-- Why a document gives no settings. -/
inductive Misfit where
  /-- It is no TOML. -/
  | malformed
  /-- A value is of another kind than expected, or out of range. -/
  | wrongValue (expected : String)
  | missingField (name : String)
  | unknownField (name : String) (known : List String)
  | unknownVariant (name : String) (known : List String)
  deriving DecidableEq, Repr

/-- What a misfit says about names. -/
def Misfit.explanation : Misfit → Option String
  | .missingField name => some (DecodeError.missingField name).message
  | .unknownField name known => some (DecodeError.unknownField name known).message
  | .unknownVariant name known => some (DecodeError.unknownVariant name known).message
  | .malformed | .wrongValue _ => none

/-- Why a file could not be read. -/
inductive Unreadable where
  | notFound
  /-- Its bytes are no UTF-8. -/
  | notText
  deriving DecidableEq, Repr

/-- Why there are no settings. -/
inductive Error where
  | missingPath
  | unreadable (cause : Unreadable)
  | misfit (cause : Misfit)
  | invalid (field reason : String)
  deriving DecidableEq, Repr

/-- The wording of a failure, as far as it is fixed. -/
def Error.message : Error → String
  | .missingPath => "Missing configuration file path (use --config or STALEWISE_CONFIG)"
  | .unreadable .notFound => "Failed to read config file: not found"
  | .unreadable .notText => "Failed to read config file: not UTF-8"
  | .misfit cause => "Failed to parse config TOML: " ++ cause.explanation.getD "unexpected content"
  | .invalid field reason => s!"Invalid config value for {field}: {reason}"

/-- The text that a URL begins with if it says how to reach a server. -/
def isHttp (url : String) : Bool :=
  "http://".toList.isPrefixOf url.toList || "https://".toList.isPrefixOf url.toList

/-- What is wrong with settings, if anything: the setting and what it would have to be. -/
def fault (c : ClientConfig) : Option (String × String) :=
  if Text.allBlank c.apiBaseUrl then some ("api_base_url", "must not be empty")
  else if ¬ isHttp c.apiBaseUrl then
    some ("api_base_url", "must start with http:// or https://")
  else if c.requestTimeout = 0 then some ("request_timeout_ms", "must be > 0")
  else if c.dedupeInterval = 0 then some ("dedupe_interval_ms", "must be > 0")
  else if c.pollingInterval = 0 then some ("polling_interval_ms", "must be > 0")
  else if c.logsPollingInterval = 0 then some ("logs_polling_interval_ms", "must be > 0")
  else if c.apiKey.any Text.allBlank then some ("auth.api_key", "must not be empty when set")
  else if Text.allBlank c.log.filter then some ("log.filter", "must not be empty")
  else none

/-- Refuses settings with something wrong about them. -/
def validate (c : ClientConfig) : Except Error Unit :=
  match c.fault with
  | some (field, reason) => .error (.invalid field reason)
  | none => .ok ()

def cacheConfig (c : ClientConfig) : CacheConfig :=
  { dedupeInterval := .ofMillis c.dedupeInterval }

end ClientConfig

end Refetch
