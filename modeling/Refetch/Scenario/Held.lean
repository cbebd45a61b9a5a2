/-
# What a world holds under names

Tasks, tickets, queries, subscriptions and producers are held. A producer is an answer that a leader
of a fetch gets when its name is called.
-/

import Refetch.Describe
import Refetch.Scenario.Step

namespace Refetch.Scenario

namespace World

/-- The point in time that a step names, or else that of the clock. -/
def instant (w : World) : Option Int → Instant
  | some micros => start.addMicros micros
  | none => w.now

/-- The window within which an entry is fresh. -/
def windowOf (w : World) : Option Duration → Nat
  | some d => { w.cache.config with dedupeInterval := d }.window
  | none => w.cache.config.window

def viewOf (w : World) (q : LiveQuery) : Reply :=
  let e := w.cache.entry q.entry
  let polling := q.poller.any fun id => w.pollers[id]?.any (·.poller.running)
  .view e.key (.ofSnapshot q.decode e.key e.snapshot) polling

/-- What is told of an entry. -/
def reportOf (w : World) (id : EntryId) : Reply :=
  let e := w.cache.entry id
  .entry { entry := e, revalidatedMicros := e.revalidatedAt.map microsOf,
           stale := e.mustRevalidate w.cache.config.window w.now }

/-- Runs a task that nobody holds. -/
def runLoose (w : World) (activity : Activity) : World := (w.spawn activity none).1.settle

/-- Holds a task under a name, instead of one that is given up. -/
def holdTask (w : World) (name : String) (id : TaskId) : World :=
  let old := w.names.get? name
  let w := { w with names := w.names.insert name id }
  match old with
  | some old => (w.abort old).settle
  | none => w

/-- Runs a task and gives its result. A task that waits is held. -/
def runNamed (w : World) (name : String) (activity : Activity)
    (atHand : Option (FetchResult Json)) : World × Reply :=
  let (w, id) := w.spawn activity atHand
  let w := w.settle
  match (w.task? id).bind Task.result with
  | some result => (w, .result result)
  | none => (w.holdTask name id, .pending)

/-- Drops a ticket. The fetch of a leader is taken back. -/
def dropTicket (w : World) : Option HeldTicket → World
  | some (.leader id) => w.runLoose (.read (.abandon id) fun result => result)
  | _ => w

/-- Holds a ticket under a name, instead of one that is dropped. -/
def holdTicket (w : World) (name : String) (ticket : HeldTicket) : World :=
  let old := w.tickets.get? name
  { w with tickets := w.tickets.insert name ticket }.dropTicket old

/-- Begins a fetch of the entry of a key and holds the ticket. -/
def beginTicket (w : World) (name key : String) (window : Option Int) (now : Instant) :
    World × Reply :=
  match w.cache.store.find? key with
  | none => (w, .noEntry)
  | some id =>
    let (e, ticket) := (w.cache.entry id).begin window now
    let w := { w with cache := w.cache.put id e }
    match ticket with
    | .leader =>
      ((w.performAll (w.cache.dispatch id)).holdTicket name (.leader id), .leader key)
    | .follower waiter => (w.holdTicket name (.follower id waiter), .follower)
    | .fresh => (w.holdTicket name .fresh, .fresh)

/-- Leads or follows a fetch: a leader settles with the answer, at once or when the producer is
opened. -/
def runProducer (w : World) (name : String) (reading : Reading) (answer : FetchResult Json)
    (producer : Option String) : World × Reply :=
  match producer with
  | none => w.runNamed name (.read reading fun result => result) (some answer)
  | some producer =>
    let id := w.spawned
    let w := { w with producers := w.producers.insert producer (id, answer) }
    w.runNamed name (.read reading fun result => result) none

/-- Runs the ticket that is held under a name. -/
def runTicket (w : World) (name : String) (answer : FetchResult Json)
    (producer : Option String) : World × Reply :=
  let ticket := w.tickets.get? name
  let w := { w with tickets := w.tickets.erase name }
  match ticket with
  | none => (w, .unknown)
  | some .fresh => (w, .fresh)
  | some (.leader id) => w.runProducer name (.await id) answer producer
  | some (.follower id waiter) => w.runProducer name (.follow id waiter) answer none

/-- Fetches the entry of a key through the caller, or follows the fetch in flight. -/
def update (w : World) (name key : String) (answer : FetchResult Json) (producer : Option String)
    (now : Instant) : World × Reply :=
  match w.cache.store.find? key with
  | none => (w, .noEntry)
  | some id =>
    let (e, ticket) := (w.cache.entry id).begin none now
    let w := { w with cache := w.cache.put id e }
    match ticket with
    | .leader => w.runProducer name (.tellLoading .caller id) answer producer
    | .follower waiter => w.runProducer name (.follow id waiter) answer none
    | .fresh => w.runProducer name (.peek id) answer none

/-- Takes the data of the entry of a key, or waits for the fetch in flight. -/
def wait (w : World) (name key : String) : World × Reply :=
  match w.cache.store.find? key with
  | none => (w, .noEntry)
  | some id =>
    let (e, waiting) := (w.cache.entry id).wait
    let w := { w with cache := w.cache.put id e }
    match waiting with
    | .ready none => (w, .noData)
    | .ready (some value) => (w, .result (.ok value))
    | .queued waiter => w.runNamed name (.read (.follow id waiter) fun result => result) none

/-- Lets a producer finish, and tells whether somebody was waiting for it. -/
def openProducer (w : World) (name : String) : World × Reply :=
  match w.producers.get? name with
  | none => (w, .flag false)
  | some (id, answer) =>
    let waiting := (w.task? id).any fun t => !t.isOver && !t.aborted
    let w := { w with producers := w.producers.erase name }
    if waiting then ((w.supply id answer).settle, .flag true) else (w, .flag false)

/-- Runs the part of a query that its caller carries out: up to where the request would be sent. -/
def runCaller : Nat → World → Reading → World × Reading
  | 0, w, r => (w, r)
  | fuel + 1, w, r => match r with
    | .ask _ _ => (w, r)
    | _ => match r.step w.cache with
      | some (cache, r, effects) => runCaller fuel ({ w with cache }.performAll effects) r
      | none => (w, r)

/-- Makes the entry of a query, and begins a fetch in the background if it is stale. -/
def startQuery (w : World) (q : Query Json) : World :=
  if w.background then
    let first := Reading.locate .background q.key q.options.fetch w.now
    match w.runCaller longRun first with
    | (w, .ask mode id) => (w.spawn (.read (.ask mode id) fun result => result) none).1
    | (w, _) => w
  else
    let (store, id) := w.cache.store.getOrCreate q.key q.options.fetch.params
    let w := { w with cache := { w.cache with store } }
    if q.options.fetch.depends then w.performAll [.depends (w.cache.entry id).key] else w

/-- Adds the poller of a query, if it is to be polled. -/
def addPoller (w : World) (q : Query Json) (entry : EntryId) : World × Option PollerId :=
  match q.options.refreshInterval with
  | none => (w, none)
  | some interval =>
    let poll : SharedPoll :=
      { poller := {}, entry, mode := q.options.fetch.cache,
        interval := w.cache.config.refreshInterval interval }
    ({ w with pollers := w.pollers.push poll }, some w.pollers.size)

/-- Makes a live query and gives its view before anything runs in the background. -/
def query (w : World) (name : String) (q : Query Json) : World × Reply :=
  let w := w.startQuery q
  match w.cache.store.find? (computeKey q.key q.options.fetch.params) with
  | none => (w, .nothing)
  | some entry =>
    let (w, poller) := w.addPoller q entry
    let live := { entry, decode := q.decode, poller : LiveQuery }
    let reply := w.viewOf live
    ({ w with queries := w.queries.insert name live }.settle, reply)

/-- Registers a subscription and shows it the current snapshot. -/
def register (w : World) (name : String) (entry : EntryId)
    (decode : Json → Except DecodeError Json) (poller : Option PollerId) (notified : Bool) :
    World :=
  let (e, listener, snapshot) := (w.cache.entry entry).subscribe
  let s : Subscription := { entry, listener, decode, poller, notified }
  let w := { w with cache := w.cache.put entry e }
  let w := w.logEvent entry name (w.sightOf s snapshot)
  let w := if notified then w.logEvent entry name .started else w
  let w := match poller with
    | some id => w.acquirePoller id
    | none => w
  let old := w.subscriptions.get? name
  let w := { w with subscriptions := w.subscriptions.insert name s }
  match old with
  | some old => w.unsubscribe name old
  | none => w

def subscribe (w : World) (name : String) (topic : Topic) (notified : Bool) : World × Reply :=
  match topic with
  | .query query => match w.queries.get? query with
    | some q => ((w.register name q.entry q.decode q.poller false).settle, .nothing)
    | none => (w, .unknown)
  | .queryEntry query => match w.queries.get? query with
    | some q => ((w.register name q.entry .ok none notified).settle, .nothing)
    | none => (w, .unknown)
  | .key key => match w.cache.store.find? key with
    | some id => ((w.register name id .ok none notified).settle, .nothing)
    | none => (w, .noEntry)

/-- Answers the requests that wait, oldest first, each time until every task waits again; at most
`limit` of them. -/
def answerWaiting : Nat → World → Nat → World × Nat
  | 0, w, count => (w, count)
  | limit + 1, w, count => match w.gate.answerOldest with
    | some (gate, id, answer) =>
      answerWaiting limit ({ w with gate }.supply id answer).settle (count + 1)
    | none => (w, count)

/-- Lets requests through. Without a count the gate is opened. -/
def letThrough (w : World) (count : Option Nat) : World × Reply :=
  let (w, answered) := match count with
    | some n => answerWaiting n w 0
    | none =>
      let w := { w with gate := { w.gate with holding := false } }
      answerWaiting w.gate.waiting.length w 0
  (w, .number answered)

/-- Joins the task that is held under a name. -/
def join (w : World) (name : String) : World × Reply :=
  match (w.names.get? name).bind w.task? with
  | none => (w, .unknown)
  | some t =>
    if t.aborted then ({ w with names := w.names.erase name }, .aborted)
    else match t.result with
      | some result => ({ w with names := w.names.erase name }, .result result)
      | none => (w, .pending)

def describe (w : World) : Subject → Reply
  | .store => .text (Describe.store w.cache.store)
  | .cache => .text (Describe.cache w.cache)
  | .entry key => match w.cache.store.find? key with
    | some id => .text (Describe.entry (w.cache.entry id))
    | none => .nothing
  | .query name => match w.queries.get? name with
    | some q =>
      let poller := q.poller.bind fun id => (w.pollers[id]?).map (·.poller)
      .text (Describe.query (w.cache.entry q.entry) poller)
    | none => .nothing
  | .subscription name =>
    if w.subscriptions.contains name then .text (Describe.subscription true) else .nothing
  | .options options => .text (Describe.fetchOptions options)
  | .ticket name => match w.tickets.get? name with
    | some (.leader id) => .text (Describe.leader (w.cache.entry id).key false)
    | _ => .nothing

end World

end Refetch.Scenario
