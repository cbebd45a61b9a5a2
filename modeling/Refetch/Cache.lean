/-
# What readers and writers share, and what they do to the world

A `Cache` is the store, its settings and the outcomes that are on their way to callers queued
behind a fetch. Activities change it in steps, each as large as a critical section, and every step
may have effects: requests that go out, listeners that are shown a snapshot, callers that are
answered.
-/

import Refetch.CacheConfig
import Refetch.Notice
import Refetch.Request
import Refetch.Store

namespace Refetch

/-- What readers and writers share. -/
structure Cache where
  config : CacheConfig := {}
  store : Store := {}
  /-- Outcomes that callers queued behind a fetch have not taken yet. -/
  mail : List ((EntryId × WaiterId) × FetchResult Json) := []

/-- What a step does beside changing the cache. -/
inductive Effect where
  /-- A reader is told the computed key that it depends on. -/
  | depends (key : String)
  /-- A request goes out. -/
  | request (request : Request)
  /-- A listener of an entry is shown a snapshot. -/
  | show (entry : EntryId) (listener : ListenerId) (snapshot : Snapshot)
  /-- The outcome of a fetch is sent to a caller queued behind it. -/
  | answer (entry : EntryId) (waiter : WaiterId)
  /-- What became stale is announced. -/
  | announce (notice : Notice)

namespace Cache

def entry (c : Cache) (id : EntryId) : Entry := c.store.entry id

/-- Replaces the entry with a number by what it has become. -/
def put (c : Cache) (id : EntryId) (e : Entry) : Cache := { c with store := c.store.put id e }

/-- The window within which an entry is fresh for a read; none for reads that always fetch. -/
def window (c : Cache) (mode : CacheMode) : Option Int :=
  if mode = .noStore then none else some c.config.window

/-- Shows the snapshot of an entry to all its listeners. -/
def dispatch (c : Cache) (id : EntryId) : List Effect :=
  (c.entry id).dispatch.map fun (listener, snapshot) => .show id listener snapshot

/-- Sends an outcome to callers queued behind a fetch. -/
def send (c : Cache) (id : EntryId) (owed : List WaiterId) (result : FetchResult Json) :
    Cache × List Effect :=
  ({ c with mail := c.mail ++ owed.map fun waiter => ((id, waiter), result) },
    owed.map fun waiter => .answer id waiter)

/-- Takes the outcome that was sent to a caller, if it has been sent. -/
def receive (c : Cache) (id : EntryId) (waiter : WaiterId) :
    Option (Cache × FetchResult Json) :=
  (c.mail.lookup (id, waiter)).map fun result =>
    ({ c with mail := c.mail.filter (·.1 ≠ (id, waiter)) }, result)

/-- Stores a value in an entry and shows it to the listeners. -/
def set (c : Cache) (id : EntryId) (value : Json) (now : Instant) : Cache × List Effect :=
  let c := c.put id ((c.entry id).set value now)
  (c, c.dispatch id)

/-- Puts a value under a key with parameters without fetching it. -/
def seed (c : Cache) (key : String) (params : Option Params) (value : Json) (now : Instant) :
    Cache × EntryId × List Effect :=
  let (store, id) := c.store.getOrCreate key params
  let (c, effects) := { c with store }.set id value now
  (c, id, effects)

/-- Invalidates all that derives from the given base keys and announces the keys, if there are
any. -/
def invalidate (c : Cache) (bases : List String) : Cache × List String × List Effect :=
  let (store, stale) := c.store.invalidate bases
  ({ c with store }, stale, if stale.isEmpty then [] else [.announce (.keys stale)])

/-- Drops every entry and announces that all is stale. -/
def reset (c : Cache) : Cache × List Effect :=
  ({ c with store := c.store.clear }, [.announce .all])

end Cache

end Refetch
