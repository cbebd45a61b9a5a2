/-
# Any number of activities at one cache

Reads, poll ticks, writes, seeds, invalidations and resets are carried out by actors. Any actor that
can go on may take the next step, so that every order of critical sections is possible. A request
that an actor has sent is outstanding until its answer arrives or the actor goes away; which answer
arrives, and when, is open. Entries may also be touched by somebody who holds on to them.
-/

import Refetch.Reading
import Refetch.Upkeep
import Refetch.Writing

namespace Refetch

/-- Tells actors apart. -/
abbrev ActorId := Nat

inductive Actor where
  /-- Reads a key; the third part is the entry that it found. -/
  | read (key : String) (options : FetchOptions) (found : Option EntryId) (reading : Reading)
  | write (writing : Writing)
  | tend (upkeep : Upkeep)
  /-- Went away with nothing left to do. -/
  | gone

/-- What somebody who holds on to an entry may do to it. -/
inductive Touch where
  | set (value : Json) (now : Instant)
  | invalidate
  | wait
  | subscribe
  | unsubscribe (listener : ListenerId)

def Touch.apply (e : Entry) : Touch → Entry
  | .set value now => e.set value now
  | .invalidate => e.invalidate
  | .wait => e.wait.1
  | .subscribe => e.subscribe.1
  | .unsubscribe listener => e.unsubscribe listener

/-- What an actor is to do. -/
inductive Errand where
  | get (key : String) (options : FetchOptions) (now : Instant)
  | query (key : String) (options : FetchOptions) (now : Instant)
  /-- A poll loop ticks on the entry that an actor found. -/
  | tick (of : ActorId) (now : Instant)
  | write (write : Write Json)
  | seed (key : String) (params : Option Params) (value : Json) (now : Instant)
  | invalidate (bases : List String)
  | reset

/-- What happens next. -/
inductive Event where
  | start (actor : ActorId) (errand : Errand)
  | step (actor : ActorId)
  /-- The answer to the request of an actor arrives. -/
  | answer (actor : ActorId) (result : FetchResult Json)
  | drop (actor : ActorId)
  | touch (entry : EntryId) (touch : Touch)
  /-- An entry that was made elsewhere is added to the store. -/
  | insert (entry : Entry)

namespace Reading

/-- The entry that a read is about, once it has found it. -/
def entry? : Reading → Option EntryId
  | .begin _ _ _ id | .tellLoading _ id | .ask _ id | .await id | .settle id _
  | .tellSettled id _ _ | .abandon id | .tellAbandoned id | .follow id _ | .peek id => some id
  | .locate .. | .create .. | .done _ => none

/-- The entry whose fetch a read leads: it began the fetch and has neither settled it nor taken it
back. -/
def leads : Reading → Option EntryId
  | .tellLoading _ id | .ask _ id | .await id | .settle id _ | .abandon id => some id
  | _ => none

end Reading

namespace Actor

/-- The entry whose fetch an actor leads. -/
def leads : Actor → Option EntryId
  | .read _ _ _ reading => reading.leads
  | _ => none

/-- The next step of an actor; `none` if it waits or is over. -/
def step (c : Cache) : Actor → Option (Cache × Actor × List Effect)
  | .read key options found reading => (reading.step c).map fun (c, reading, effects) =>
    (c, .read key options (reading.entry?.or found) reading, effects)
  | .write writing => (writing.step c).map fun (c, writing, effects) =>
    (c, .write writing, effects)
  | .tend upkeep => (upkeep.step c).map fun (c, upkeep, effects) => (c, .tend upkeep, effects)
  | .gone => none

/-- The answer arrives for which an actor waits. -/
def answered (result : FetchResult Json) : Actor → Actor
  | .read key options found reading => .read key options found (reading.supplied result)
  | .write writing => .write (writing.answered result)
  | a => a

/-- What becomes of an actor that is dropped; `none` where it cannot be. -/
def dropped : Actor → Option Actor
  | .read key options found reading =>
    if reading.suspended then some (.read key options found reading.dropped) else none
  | .write (.send _) | .write (.await _) | .write (.tell ..) | .write (.tellAll _)
  | .tend (.tellStale _) | .tend .tellAll => some .gone
  | _ => none

end Actor

/-- The requests among the effects of a step. -/
def requestsOf (effects : List Effect) : List Request :=
  effects.filterMap fun
    | .request r => some r
    | _ => none

/-- A cache and all who act on it. -/
structure Crowd where
  cache : Cache
  actors : ActorId → Option Actor := fun _ => none
  /-- The requests that are outstanding, with the actors that wait for their answers. -/
  calls : List (ActorId × Request) := []
  /-- All requests that were sent. -/
  sent : List (ActorId × Request) := []

namespace Crowd

/-- Nobody has begun anything yet; the given entries are there from the start. -/
def start (config : CacheConfig) (entries : List Entry) : Crowd :=
  { cache := { config, store := .ofEntries entries } }

def become (s : Crowd) (t : ActorId) (a : Actor) : Crowd :=
  { s with actors := fun other => if other = t then some a else s.actors other }

/-- Nobody waits any more for the answers to the requests of an actor. -/
def hangUp (s : Crowd) (t : ActorId) : Crowd := { s with calls := s.calls.filter (·.1 ≠ t) }

/-- Takes up what a step of an actor made of the cache and of the actor. -/
def after (s : Crowd) (t : ActorId) (cache : Cache) (a : Actor) (effects : List Effect) : Crowd :=
  let requests := (requestsOf effects).map (t, ·)
  ({ s with cache, calls := s.calls ++ requests, sent := s.sent ++ requests }).become t a

/-- An actor that sets out; `none` if there is nothing to tick on. -/
def setOut (s : Crowd) : Errand → Option Actor
  | .get key options now => some (.read key options none (.locate .value key options now))
  | .query key options now => some (.read key options none (.locate .background key options now))
  | .tick of now => match s.actors of with
    | some (.read key options (some id) _) =>
      some (.read key options (some id) (.begin .tick options.cache now id))
    | _ => none
  | .write w => some (.write (.send w))
  | .seed key params value now => some (.tend (.locate key params value now))
  | .invalidate bases => some (.tend (.stale bases))
  | .reset => some (.tend .clear)

/-- What comes of an event; `none` if it cannot happen. -/
def next (s : Crowd) : Event → Option Crowd
  | .start t errand => match s.actors t with
    | some _ => none
    | none => (s.setOut errand).map (s.become t)
  | .step t => ((s.actors t).bind (Actor.step s.cache)).map fun (cache, a, effects) =>
    s.after t cache a effects
  | .answer t result =>
    if s.calls.any (·.1 = t) then
      (s.actors t).map fun a => (s.hangUp t).become t (a.answered result)
    else none
  | .drop t => ((s.actors t).bind Actor.dropped).map fun a => (s.hangUp t).become t a
  | .touch id touch => some { s with cache := s.cache.put id (touch.apply (s.cache.entry id)) }
  | .insert e => match e.waiters with
    | some _ => none
    | none => some { s with cache := { s.cache with store := (s.cache.store.insert e).1 } }

/-- The states that are reached from one by events of which each is allowed where it happens. -/
inductive Reaches (allowed : Crowd → Event → Prop) (s : Crowd) : Crowd → Prop
  | refl : Reaches allowed s s
  | next {s' s'' : Crowd} (event : Event) (before : Reaches allowed s s') (ok : allowed s' event)
      (happened : s'.next event = some s'') : Reaches allowed s s''

end Crowd

end Refetch
