/-
# Reading the settings of the client from a TOML document

A document that is no TOML is refused before any setting is looked at. The members of a table are
then read in the order in which they stand, the first one that does not fit is reported, and only
after them a missing one, in the order of declaration. Settings that could be read are checked last.
-/

import Refetch.ClientConfig
import Refetch.Toml.Parser

namespace Refetch.ClientConfig

open Toml (Members)

/-- The name of the one member that a date or time has when it is taken for a table. -/
def momentName : String := "$__toml_private_datetime"

/-- The members of a value that is a table, or can be taken for one. -/
def members? : Toml → Option Members
  | .table _ members => some members
  | .moment => some [(momentName, .moment)]
  | _ => none

/-- The items of a value that is an array. -/
def items? : Toml → Option (List Toml)
  | .array items => some items
  | .tables items => some (items.map (.table .heading))
  | _ => none

def readText : Toml → Except Misfit String
  | .str s => .ok s
  | _ => .error (.wrongValue "a text")

/-- An integer that is not negative. -/
def readMillis : Toml → Except Misfit UInt64
  | .integer n => if 0 ≤ n then .ok (.ofNat n.toNat) else .error (.wrongValue "milliseconds")
  | _ => .error (.wrongValue "milliseconds")

/-- Does a value hold nothing. -/
def isEmpty : Toml → Bool
  | .array items => items.isEmpty
  | .table _ members => members.isEmpty
  | _ => false

/-- The format a name stands for. -/
def formatNamed (name : String) : Except Misfit LogFormat :=
  match LogFormat.choices.lookup name with
  | some format => .ok format
  | none => .error (.unknownVariant name (LogFormat.choices.map (·.1)))

/-- A format: its name, or a table that gives the name nothing. -/
def readFormat : Toml → Except Misfit LogFormat
  | .str name => formatNamed name
  | .table _ [(name, content)] => do
    let format ← formatNamed name
    if isEmpty content then return format else throw (.wrongValue "an empty table")
  | _ => .error (.wrongValue "a name")

/-- The value of a setting that must be there. -/
def need {α : Type} (name : String) (value : Option α) : Except Misfit α :=
  match value with
  | some x => .ok x
  | none => .error (.missingField name)

/-- Reads the members of a table one after the other, from what is known before the first. -/
def readMembers {σ : Type} (known : List String)
    (read : σ → String → Toml → Option (Except Misfit σ)) (start : σ) (members : Members) :
    Except Misfit σ :=
  members.foldlM (fun s (member : String × Toml) => match read s member.1 member.2 with
    | some r => r
    | none => .error (.unknownField member.1 known)) start

def authNames : List String := ["api_key"]

def takeAuth (_key : Option String) (name : String) (v : Toml) :
    Option (Except Misfit (Option String)) :=
  match name with
  | "api_key" => some ((readText v).map some)
  | _ => none

/-- The key of the API, from a table or an array. -/
def readAuth (v : Toml) : Except Misfit (Option String) :=
  match members? v, items? v with
  | some members, _ => readMembers authNames takeAuth none members
  | none, some (key :: _) => (readText key).map some
  | none, _ => .error (.wrongValue "settings for authentication")

/-- Settings of the log as far as they are known. -/
structure LogDraft where
  format : Option LogFormat := none
  filter : Option String := none

def logNames : List String := ["format", "filter"]

def LogDraft.take (d : LogDraft) (name : String) (v : Toml) : Option (Except Misfit LogDraft) :=
  match name with
  | "format" => some ((readFormat v).map fun x => { d with format := some x })
  | "filter" => some ((readText v).map fun x => { d with filter := some x })
  | _ => none

/-- The settings of the log, if none is missing. -/
def LogDraft.finish (d : LogDraft) : Except Misfit LogConfig := do
  return { format := ← need "format" d.format, filter := ← need "filter" d.filter }

/-- The settings of the log, from a table or an array. -/
def readLog (v : Toml) : Except Misfit LogConfig :=
  match members? v, items? v with
  | some members, _ => (readMembers logNames LogDraft.take {} members).bind LogDraft.finish
  | none, some (format :: rest) => do
    let format ← readFormat format
    match rest with
    | filter :: _ => return { format, filter := ← readText filter }
    | [] => throw (.wrongValue "a format and a filter")
  | none, _ => .error (.wrongValue "settings of the log")

/-- Settings as far as they are known. -/
structure Draft where
  apiBaseUrl : Option String := none
  requestTimeout : Option UInt64 := none
  dedupeInterval : Option UInt64 := none
  pollingInterval : Option UInt64 := none
  logsPollingInterval : Option UInt64 := none
  auth : Option (Option String) := none
  log : Option LogConfig := none

def names : List String :=
  ["api_base_url", "request_timeout_ms", "dedupe_interval_ms", "polling_interval_ms",
    "logs_polling_interval_ms", "auth", "log"]

def Draft.take (d : Draft) (name : String) (v : Toml) : Option (Except Misfit Draft) :=
  match name with
  | "api_base_url" => some ((readText v).map fun x => { d with apiBaseUrl := some x })
  | "request_timeout_ms" => some ((readMillis v).map fun x => { d with requestTimeout := some x })
  | "dedupe_interval_ms" => some ((readMillis v).map fun x => { d with dedupeInterval := some x })
  | "polling_interval_ms" => some ((readMillis v).map fun x => { d with pollingInterval := some x })
  | "logs_polling_interval_ms" =>
    some ((readMillis v).map fun x => { d with logsPollingInterval := some x })
  | "auth" => some ((readAuth v).map fun x => { d with auth := some x })
  | "log" => some ((readLog v).map fun x => { d with log := some x })
  | _ => none

/-- The settings, if none is missing. -/
def Draft.finish (d : Draft) : Except Misfit ClientConfig := do
  return {
    apiBaseUrl := ← need "api_base_url" d.apiBaseUrl
    requestTimeout := ← need "request_timeout_ms" d.requestTimeout
    dedupeInterval := ← need "dedupe_interval_ms" d.dedupeInterval
    pollingInterval := ← need "polling_interval_ms" d.pollingInterval
    logsPollingInterval := ← need "logs_polling_interval_ms" d.logsPollingInterval
    apiKey := ← need "auth" d.auth
    log := ← need "log" d.log }

/-- The settings that the members of a document give. -/
def ofMembers (members : Members) : Except Misfit ClientConfig :=
  (readMembers names Draft.take {} members).bind Draft.finish

/-- The settings that a text gives. -/
def ofText (text : String) : Except Error ClientConfig := do
  let config ← match Toml.parse? text with
    | none => throw (.misfit .malformed)
    | some members => match ofMembers members with
      | .ok config => pure config
      | .error cause => throw (.misfit cause)
  config.validate
  return config

/-- The settings that the bytes of a file give. -/
def ofBytes (bytes : ByteArray) : Except Error ClientConfig :=
  match String.fromUTF8? bytes with
  | some text => ofText text
  | none => .error (.unreadable .notText)

end Refetch.ClientConfig
