/-
# How a write is carried out, step by step

A write sends its request unless its body has no JSON form. If the request succeeds, the write
invalidates what it touched, announces the keys if there are any, and decodes the answer; some
writes then drop the whole cache. A write that fails changes nothing.
-/

import Refetch.Cache
import Refetch.Operation
import Refetch.View

namespace Refetch

/-- Where a write stands. -/
inductive Writing where
  | send (write : Write Json)
  | await (write : Write Json)
  /-- Invalidates what the write touched. -/
  | stale (write : Write Json) (value : Json)
  /-- Announces the keys that became stale. -/
  | tell (write : Write Json) (value : Json) (keys : List String)
  | decode (write : Write Json) (value : Json)
  /-- Drops the whole cache. -/
  | clear (result : FetchResult Json)
  /-- Announces that all is stale. -/
  | tellAll (result : FetchResult Json)
  /-- Is over. -/
  | done (result : FetchResult Json)

namespace Writing

/-- The next step of a write; `none` if it waits or is over. -/
def step (c : Cache) : Writing → Option (Cache × Writing × List Effect)
  | .send w => match w.body with
    | .error e => some (c, .done (.error (.encode w.url e.message)), [])
    | .ok body => some (c, .await w, [.request (.mutation w.method w.url body)])
  | .await _ => none
  | .stale w value =>
    let (store, keys) := c.store.invalidate (w.options.bases w.url)
    some ({ c with store }, .tell w value keys, [])
  | .tell w value keys =>
    some (c, .decode w value, if keys.isEmpty then [] else [.announce (.keys keys)])
  | .decode w value =>
    let result := decodeFrom w.decode w.url value
    some (c, if w.resets ∧ result.toBool then .clear result else .done result, [])
  | .clear result => some ({ c with store := c.store.clear }, .tellAll result, [])
  | .tellAll result => some (c, .done result, [.announce .all])
  | .done _ => none

/-- The answer arrives for which a write waits. -/
def answered (result : FetchResult Json) : Writing → Writing
  | .await w => match result with
    | .ok value => .stale w value
    | .error e => .done (.error e)
  | w => w

/-- An upper bound on the number of steps to the next wait or the end. -/
def rank : Writing → Nat
  | .send _ => 6
  | .stale .. => 5
  | .tell .. => 4
  | .decode .. => 3
  | .clear _ => 2
  | .tellAll _ => 1
  | .await _ | .done _ => 0

end Writing

end Refetch
