/-
# Typed views of entries

A view shows the data of a snapshot as values of a type. Data that cannot be decoded are shown as an
error, unless the entry has an error of its own.
-/

import Refetch.Codec
import Refetch.Entry

namespace Refetch

/-- What can be seen of an entry whose data have a type. -/
structure View (α : Type) where
  data : Option α
  error : Option FetchError
  loading : Bool
  deriving DecidableEq, Repr

/-- Decodes a value; the failure names the key or URL that it came from. -/
def decodeFrom {α : Type} (decode : Json → Except DecodeError α) (key : String) (value : Json) :
    FetchResult α :=
  match decode value with
  | .ok x => .ok x
  | .error e => .error (.decode key e.message)

namespace View

variable {α β : Type}

def ofSnapshot (decode : Json → Except DecodeError α) (key : String) (s : Snapshot) : View α :=
  match s.data.map (decodeFrom decode key) with
  | none => { data := none, error := s.error, loading := s.loading }
  | some (.ok x) => { data := some x, error := s.error, loading := s.loading }
  | some (.error e) => { data := none, error := s.error.or (some e), loading := s.loading }

/-- The same view with its data made into something else. -/
def map (f : α → β) (v : View α) : View β := { v with data := v.data.map f }

end View

end Refetch
