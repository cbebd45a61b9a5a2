/-
# Reads, live queries and writes, as data

An operation says which key or URL it is about, with which options, and how its answer is decoded;
how it is carried out is another matter. A write names the base keys that become stale when it
succeeds: its own URL, unless that is skipped, and any others.
-/

import Refetch.Codec
import Refetch.Params
import Refetch.Request
import Refetch.Time

namespace Refetch

structure FetchOptions where
  /-- Parameters added to the key. -/
  params : Option Params := none
  cache : CacheMode := .default
  /-- Does the caller want to be told the computed key. -/
  depends : Bool := false
  deriving DecidableEq, Repr, Inhabited

structure QueryOptions where
  fetch : FetchOptions := {}
  /-- The interval of polling while the query has subscribers. -/
  refreshInterval : Option Duration := none
  deriving DecidableEq, Repr, Inhabited

structure MutateOptions where
  /-- More base keys that become stale. -/
  invalidate : List String := []
  /-- Does the URL itself not become stale. -/
  skipUrl : Bool := false
  deriving DecidableEq, Repr, Inhabited

/-- The base keys that a successful write of a URL makes stale. -/
def MutateOptions.bases (o : MutateOptions) (url : String) : List String :=
  (if o.skipUrl then [] else [url]) ++ o.invalidate

theorem MutateOptions.mem_bases_iff (o : MutateOptions) (url base : String) :
    base ∈ o.bases url ↔ (o.skipUrl = false ∧ base = url) ∨ base ∈ o.invalidate := by
  unfold bases
  cases o.skipUrl <;> simp

/-- A read of a key whose answer has a type. -/
structure Read (α : Type) where
  key : String
  options : FetchOptions := {}
  decode : Json → Except DecodeError α

/-- A live query of a key whose answers have a type. -/
structure Query (α : Type) where
  key : String
  options : QueryOptions := {}
  decode : Json → Except DecodeError α

/-- A write of a URL whose answer has a type. -/
structure Write (α : Type) where
  method : Method
  url : String
  body : Except EncodeError (Option Body) := .ok none
  options : MutateOptions := {}
  decode : Json → Except DecodeError α
  /-- Is the whole cache dropped once the answer has been decoded. -/
  resets : Bool := false

/-- The decoder of values in the place where they stand. -/
def Codec.read {α : Type} (c : Codec α) : Json → Except DecodeError α := c.decode .inPlace

/-- The decoder of answers that are not looked at. -/
def ignoreAnswer (_ : Json) : Except DecodeError Unit := .ok ()

/-- Decodes something else than was decoded. -/
def mapDecode {α β : Type} (f : α → β) (decode : Json → Except DecodeError α) (v : Json) :
    Except DecodeError β := (decode v).map f

/-- The same read with its answer made into something else. -/
def Read.map {α β : Type} (f : α → β) (r : Read α) : Read β :=
  { r with decode := mapDecode f r.decode }

/-- The same query with its answers made into something else. -/
def Query.map {α β : Type} (f : α → β) (q : Query α) : Query β :=
  { q with decode := mapDecode f q.decode }

/-- The same write with its answer made into something else. -/
def Write.map {α β : Type} (f : α → β) (w : Write α) : Write β :=
  { w with decode := mapDecode f w.decode }

end Refetch
