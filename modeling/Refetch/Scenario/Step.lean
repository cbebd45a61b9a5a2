/-
# The steps of scripted scenarios

A scenario is a list of steps. A step asks something of the cache, of the scripted server or of the
clock, and is given a reply. What a step makes can be held under a name; making something under a
name that is taken drops what was there.
-/

import Refetch.Api.Paths
import Refetch.Scenario.World

namespace Refetch.Scenario

/-- What a subscription is about. -/
inductive Topic where
  /-- A query, which is polled meanwhile. -/
  | query (name : String)
  /-- The entry that a query shows. -/
  | queryEntry (name : String)
  /-- The entry of a key. -/
  | key (key : String)

/-- Something to be described. -/
inductive Subject where
  | store
  | cache
  | entry (key : String)
  | query (name : String)
  | subscription (name : String)
  | options (options : FetchOptions)
  | ticket (name : String)

inductive Step where
  | route (url : String) (answer : FetchResult Json)
  | enqueue (url : String) (answer : FetchResult Json)
  | fallback (answer : FetchResult Json)
  | hold
  /-- Lets the given number of requests through, or opens the gate for all. -/
  | release (count : Option Nat)
  | advance (micros : Int)
  | setClock (micros : Int)
  | sleep (millis : Nat)
  | read (name : String) (read : Read Json)
  | write (name : String) (write : Write Json)
  | join (name : String)
  | abort (name : String)
  | query (name : String) (query : Query Json)
  | cloneQuery (name of : String)
  | view (name : String)
  | dropQuery (name : String)
  | subscribe (name : String) (topic : Topic) (notified : Bool)
  | unsubscribe (name : String)
  | invalidate (bases : List String)
  | reset
  | seed (key : String) (params : Option Params) (value : Json)
  | size
  | keysForBase (baseKey : String)
  | getOrCreate (key : String) (params : Option Params)
  | storeInvalidate (bases : List String)
  | storeClear
  | insert (key : String) (baseKey : Option String) (value : Option Json) (micros : Option Int)
  | entryOf (key : String)
  | entryOfQuery (name : String)
  | mustRevalidate (key : String) (dedupe : Option Duration) (micros : Option Int)
  | setEntry (key : String) (value : Json) (micros : Option Int)
  | invalidateEntry (key : String)
  | beginUpdate (name key : String) (micros : Option Int)
  | beginRevalidation (name key : String) (dedupe : Option Duration) (micros : Option Int)
  /-- A leader settles with the answer, at once or when the producer is opened. -/
  | runTicket (name : String) (answer : FetchResult Json) (producer : Option String)
  | dropTicket (name : String)
  | openProducer (name : String)
  | update (name key : String) (answer : FetchResult Json) (producer : Option String)
      (micros : Option Int)
  | wait (name key : String)
  | listen (name : String)
  | receive (name : String)
  | describe (subject : Subject)
  | logsInterval
  | refuse (error : ParamsError)

/-- What is told of an entry. -/
structure EntryReport where
  entry : Entry
  /-- Microseconds from the start to the last revalidation. -/
  revalidatedMicros : Option Int
  stale : Bool

inductive Reply where
  | nothing
  | flag (b : Bool)
  | number (n : Int)
  | text (s : String)
  | texts (l : List String)
  | size (n : Nat) (isEmpty : Bool)
  | result (r : FetchResult Json)
  | noData
  | pending
  | aborted
  | unknown
  | noEntry
  | view (key : String) (view : View Json) (polling : Bool)
  | snapshot (s : Snapshot)
  | entry (report : EntryReport)
  | leader (key : String)
  | follower
  | fresh
  | received (r : Channel.Received)
  | duration (d : Duration)
  | refused (error : ParamsError)

/-- How a scenario begins. -/
structure Setup where
  config : CacheConfig := {}
  intervals : PollingIntervals := ⟨.ofMillis 5000, .ofMillis 2000⟩
  linked : Bool := false
  background : Bool := true
  fallback : FetchResult Json := .ok .null
  /-- Entries that are there from the start. -/
  entries : List Entry := []

/-- The clock at the start, the first of January 2024. -/
def start : Instant := .ofSeconds 1704067200

/-- The microseconds from the start to a point in time. -/
def microsOf (i : Instant) : Int := (i.since start).tdiv 1000

/-- The world in which a scenario begins. -/
def Setup.world (s : Setup) : World where
  cache := { config := s.config, store := .ofEntries s.entries }
  clock := start
  linked := s.linked
  background := s.background
  gate := { server := { fallback := s.fallback } }
  channel := { capacity := 16 }

/-- An entry as `insert` makes it: under the given base key or else its own, with a value or
without. -/
def makeEntry (key : String) (baseKey : Option String) (value : Option Json) (at_ : Instant) :
    Entry :=
  let e := match baseKey with
    | some baseKey => { key, baseKey }
    | none => .ofKey key
  match value with
  | some value => e.set value at_
  | none => e

end Refetch.Scenario
