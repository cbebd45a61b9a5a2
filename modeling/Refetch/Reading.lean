/-
# How a read is carried out, step by step

A read finds or makes the entry of its key and asks to begin a fetch. If it is to lead, it tells the
listeners, sends the request, waits, settles the entry and tells listeners and followers. If a fetch
is in flight it follows that one; if the entry is fresh it takes what is there. Each step is one
critical section, so any other activity may run between two steps. A background query ends where a
caller that wants the value would follow or take what is there; a poll tick follows, but takes
nothing.
-/

import Refetch.Cache
import Refetch.Operation
import Refetch.View

namespace Refetch

/-- What a read is for. -/
inductive Purpose where
  /-- A caller wants the value. -/
  | value
  /-- A query revalidates in the background. -/
  | background
  /-- A poll loop ticks. -/
  | tick
  deriving DecidableEq, Repr

/-- Where the leader of a fetch gets its result. -/
inductive Supply where
  /-- From the server, asked in the given mode. -/
  | server (mode : CacheMode)
  /-- From the caller that leads. -/
  | caller
  deriving DecidableEq, Repr

/-- Where a read stands. -/
inductive Reading where
  /-- Looks for the entry of the key. -/
  | locate (purpose : Purpose) (key : String) (options : FetchOptions) (now : Instant)
  /-- Makes the entry, unless another activity made it meanwhile. -/
  | create (purpose : Purpose) (key : String) (options : FetchOptions) (now : Instant)
  /-- Asks to begin a fetch, as of the time at which the read began. -/
  | begin (purpose : Purpose) (mode : CacheMode) (now : Instant) (entry : EntryId)
  /-- Leads: tells the listeners that the entry is loading. -/
  | tellLoading (supply : Supply) (entry : EntryId)
  /-- Leads: sends the request. -/
  | ask (mode : CacheMode) (entry : EntryId)
  /-- Leads: waits for the result. -/
  | await (entry : EntryId)
  /-- Leads: gives the entry the result. -/
  | settle (entry : EntryId) (result : FetchResult Json)
  /-- Leads: tells the listeners and the callers behind it. -/
  | tellSettled (entry : EntryId) (result : FetchResult Json) (owed : List WaiterId)
  /-- Led, and was dropped: takes the fetch back. -/
  | abandon (entry : EntryId)
  /-- Led, and was dropped: tells the listeners. -/
  | tellAbandoned (entry : EntryId)
  /-- Waits for the outcome of the fetch in flight. -/
  | follow (entry : EntryId) (waiter : WaiterId)
  /-- Takes what is cached. -/
  | peek (entry : EntryId)
  /-- Is over, with a result if it came to one. -/
  | done (result : Option (FetchResult Json))

namespace Reading

/-- The step after the entry was found. -/
def found (c : Cache) (purpose : Purpose) (options : FetchOptions) (now : Instant)
    (id : EntryId) : Cache × Reading × List Effect :=
  (c, .begin purpose options.cache now id,
    if options.depends then [.depends (c.entry id).key] else [])

/-- What a read does with its ticket. -/
def afterTicket (purpose : Purpose) (mode : CacheMode) (id : EntryId) : Ticket → Reading
  | .leader => .tellLoading (.server mode) id
  | .follower waiter => if purpose = .background then .done none else .follow id waiter
  | .fresh => if purpose = .value then .peek id else .done none

/-- The next step of a read; `none` if it waits or is over. -/
def step (c : Cache) : Reading → Option (Cache × Reading × List Effect)
  | .locate purpose key options now =>
    match c.store.find? (computeKey key options.params) with
    | some id => some (found c purpose options now id)
    | none => some (c, .create purpose key options now, [])
  | .create purpose key options now =>
    let (store, id) := c.store.getOrCreate key options.params
    some (found { c with store } purpose options now id)
  | .begin purpose mode now id =>
    let (e, ticket) := (c.entry id).begin (c.window mode) now
    some (c.put id e, afterTicket purpose mode id ticket, [])
  | .tellLoading supply id =>
    some (c, match supply with | .server mode => .ask mode id | .caller => .await id, c.dispatch id)
  | .ask mode id => some (c, .await id, [.request (.read (c.entry id).key mode)])
  | .await _ => none
  | .settle id result =>
    let (e, owed) := (c.entry id).settle result
    some (c.put id e, .tellSettled id result owed, [])
  | .tellSettled id result owed =>
    let (sent, answers) := c.send id owed result
    some (sent, .done (some result), c.dispatch id ++ answers)
  | .abandon id =>
    let (e, owed) := (c.entry id).abandon
    let (sent, answers) := (c.put id e).send id owed (.error (.cancelled e.key))
    some (sent, .tellAbandoned id, answers)
  | .tellAbandoned id => some (c, .done none, c.dispatch id)
  | .follow id waiter => (c.receive id waiter).map fun (c, result) => (c, .done (some result), [])
  | .peek id => some (c, .done (some (c.entry id).snapshot.result), [])
  | .done _ => none

/-- The result arrives for which a leader waits. -/
def supplied (result : FetchResult Json) : Reading → Reading
  | .await id => .settle id result
  | r => r

/-- Can the caller of the read go away: before the first step, before the request of a fetch in the
background is sent, and while the read waits. -/
def suspended : Reading → Bool
  | .locate .. | .ask .. | .await _ | .follow .. => true
  | _ => false

/-- The caller of the read goes away. A leader takes its fetch back; anyone else just leaves. -/
def dropped : Reading → Reading
  | .ask _ id | .await id => .abandon id
  | _ => .done none

/-- An upper bound on the number of steps to the next wait or the end. -/
def rank : Reading → Nat
  | .locate .. => 8
  | .create .. => 7
  | .begin .. => 6
  | .tellLoading .. => 5
  | .ask .. => 4
  | .settle .. | .abandon .. => 3
  | .tellSettled .. | .tellAbandoned .. => 2
  | .follow .. | .peek .. => 1
  | .await .. | .done .. => 0

end Reading

/-- What the caller of a typed read gets. -/
def Read.conclude {α : Type} (r : Read α) (result : FetchResult Json) : FetchResult α :=
  result.bind (decodeFrom r.decode r.key)

end Refetch
