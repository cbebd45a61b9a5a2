/-
# Things in words

What is shown of a thing in logs and to people is the name of the thing and its parts.
-/

import Refetch.Cache
import Refetch.Operation
import Refetch.Poller
import Refetch.Text.Quoted

namespace Refetch.Describe

def record (name : String) (parts : List (String × String)) : String :=
  let inner := ", ".intercalate (parts.map fun (part, value) => part ++ ": " ++ value)
  name ++ " \x7b " ++ inner ++ " \x7d"

def list (items : List String) : String := "[" ++ ", ".intercalate items ++ "]"

def dict (entries : List (String × String)) : String :=
  let inner := ", ".intercalate (entries.map fun (name, value) => Text.quoted name ++ ": " ++ value)
  "\x7b" ++ inner ++ "\x7d"

/-- A thing that may not be there. -/
def option : Option String → String
  | none => "None"
  | some s => "Some(" ++ s ++ ")"

/-- A truth value. -/
def bool (b : Bool) : String := if b then "true" else "false"

mutual

def json : Json → String
  | .null => "Null"
  | .bool b => "Bool(" ++ bool b ++ ")"
  | .num n => "Number(" ++ n.text ++ ")"
  | .str s => "String(" ++ Text.quoted s ++ ")"
  | .arr items => "Array " ++ list (jsonItems items)
  | .obj members => "Object " ++ dict (jsonMembers members)

def jsonItems : List Json → List String
  | [] => []
  | v :: rest => json v :: jsonItems rest

def jsonMembers : List (String × Json) → List (String × String)
  | [] => []
  | (name, v) :: rest => (name, json v) :: jsonMembers rest

end

def fetchError : FetchError → String
  | .http e =>
    let inner := record "HttpError"
      [("status", toString e.status), ("payload", option (e.payload.map json))]
    "Http(" ++ inner ++ ")"
  | .transport reason => record "Transport" [("reason", Text.quoted reason)]
  | .decode key reason =>
    record "Decode" [("key", Text.quoted key), ("reason", Text.quoted reason)]
  | .encode url reason =>
    record "Encode" [("url", Text.quoted url), ("reason", Text.quoted reason)]
  | .cancelled key => record "Cancelled" [("key", Text.quoted key)]

/-- A cached answer. -/
def entry (e : Entry) : String :=
  record "CacheEntry" [("key", Text.quoted e.key), ("base_key", Text.quoted e.baseKey),
    ("has_data", bool e.data.isSome), ("error", option (e.error.map fetchError)),
    ("loading", bool e.loading),
    ("last_revalidated_at", option (e.revalidatedAt.map Instant.text))]

/-- The entries of a cache. -/
def store (s : Store) : String :=
  record "CacheStore" [("entries", toString s.size), ("base_keys", toString s.baseCount)]

def config (c : CacheConfig) : String :=
  record "CacheConfig" [("dedupe_interval", c.dedupeInterval.text),
    ("min_refresh_interval", c.minRefreshInterval.text)]

def cache (c : Cache) : String :=
  record "FetchCoordinator" [("store", store c.store), ("config", config c.config)]

def params (p : Params) : String :=
  record "QueryParams" [("pairs", dict (p.values.entries.map fun (name, values) =>
    (name, list (values.toList.map Text.quoted))))]

def mode : CacheMode → String
  | .default => "Default"
  | .noStore => "NoStore"
  | .noCache => "NoCache"
  | .reload => "Reload"

def fetchOptions (o : FetchOptions) : String :=
  record "FetchOptions" [("params", option (o.params.map params)), ("cache", mode o.cache),
    ("depends", bool o.depends)]

def poller (p : Poller) : String :=
  record "SharedPoller" [("subscribers", toString p.subscribers), ("running", bool p.running)]

/-- A live query: the entry it shows and its poller. -/
def query (e : Entry) (p : Option Poller) : String :=
  record "QueryResult" [("entry", entry e), ("poller", option (p.map poller))]

def subscription (active : Bool) : String := record "Subscription" [("active", bool active)]

/-- The right to settle a fetch of a key. -/
def leader (key : String) (settled : Bool) : String :=
  record "InFlight" [("key", Text.quoted key), ("settled", bool settled)]

end Refetch.Describe
