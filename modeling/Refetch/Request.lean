/-
# Requests to the server
-/

import Refetch.Json

namespace Refetch

/-- The HTTP verbs in use. -/
inductive Method where
  | get
  | post
  | put
  | patch
  | delete
  deriving DecidableEq, Repr, Inhabited

namespace Method

/-- The verb as it is sent. -/
def text : Method → String
  | .get => "GET"
  | .post => "POST"
  | .put => "PUT"
  | .patch => "PATCH"
  | .delete => "DELETE"

/-- The verb that is sent as the given text. -/
def ofText? (s : String) : Option Method := [get, post, put, patch, delete].find? (·.text = s)

/-- Does the verb change the state of the server. -/
def isMutation (m : Method) : Bool := m ≠ .get

end Method

/-- How a single call asks for its answer. `noStore` also ignores how fresh the cache is; the others
differ only in the header that is sent. -/
inductive CacheMode where
  | default
  | noStore
  | noCache
  | reload
  deriving DecidableEq, Repr, Inhabited

namespace CacheMode

def name : CacheMode → String
  | .default => "default"
  | .noStore => "no_store"
  | .noCache => "no_cache"
  | .reload => "reload"

def named? (s : String) : Option CacheMode := [noStore, noCache, reload, default].find? (·.name = s)

/-- The `Cache-Control` header of a mode. -/
def cacheControl : CacheMode → Option String
  | .default => none
  | .noStore => some "no-store"
  | .noCache | .reload => some "no-cache"

end CacheMode

/-- One part of a multipart form. -/
inductive FormPart where
  | text (name value : String)
  | file (name fileName : String) (bytes : List UInt8)
  deriving DecidableEq, Repr

/-- What a request carries. -/
inductive Body where
  | json (value : Json)
  | multipart (parts : List FormPart)
  deriving DecidableEq, Repr

/-- A request. Its URL is relative to the base of the API. -/
structure Request where
  method : Method
  url : String
  body : Option Body := none
  cache : CacheMode := .default
  deriving DecidableEq, Repr

def Request.read (url : String) (cache : CacheMode) : Request := { method := .get, url, cache }

/-- A request that changes something. -/
def Request.mutation (method : Method) (url : String) (body : Option Body) : Request :=
  { method, url, body }

end Refetch
