/-
# Carrying out scenarios

The steps are carried out in a world, one after the other. After each step every task runs until it
waits. A step gives a reply, and the log tells what happened meanwhile.
-/

import Refetch.Scenario.Held

namespace Refetch.Scenario

namespace World

/-- Stores a value in the entry of a key. -/
def setEntry (w : World) (key : String) (value : Json) (now : Instant) : World × Reply :=
  match w.cache.store.find? key with
  | some id =>
    let (cache, effects) := w.cache.set id value now
    ({ w with cache }.performAll effects, .nothing)
  | none => (w, .noEntry)

def perform? (w : World) (intervals : PollingIntervals) : Step → World × Reply
  | .route url answer => ({ w with gate := w.gate.script (·.route url answer) }, .nothing)
  | .enqueue url answer => ({ w with gate := w.gate.script (·.enqueue url answer) }, .nothing)
  | .fallback answer => ({ w with gate := w.gate.script (·.setFallback answer) }, .nothing)
  | .hold => ({ w with gate := { w.gate with holding := true } }, .nothing)
  | .release count => w.letThrough count
  | .advance micros =>
    let w := { w with clock := w.clock.addMicros micros }
    (w, .number (microsOf w.now))
  | .setClock micros =>
    let w := { w with clock := start.addMicros micros }
    (w, .number (microsOf w.now))
  | .sleep millis =>
    let target := w.time + millis
    (sleepUntil (millis + 1) target w, .number target)
  | .read name r =>
    w.runNamed name (.read (.locate .value r.key r.options w.now) r.conclude) none
  | .write name x => w.runNamed name (.write (.send x)) none
  | .join name => w.join name
  | .abort name =>
    match w.names.get? name with
    | some id => ((w.abort id).settle, .nothing)
    | none => (w, .nothing)
  | .query name q => w.query name q
  | .cloneQuery name source => match w.queries.get? source with
    | some q => ({ w with queries := w.queries.insert name q }, w.viewOf q)
    | none => (w, .unknown)
  | .view name => match w.queries.get? name with
    | some q => (w, w.viewOf q)
    | none => (w, .unknown)
  | .dropQuery name =>
    ({ w with queries := w.queries.erase name }, .flag (w.queries.contains name))
  | .subscribe name topic notified => w.subscribe name topic notified
  | .unsubscribe name => match w.subscriptions.get? name with
    | some s =>
      let w := { w with subscriptions := w.subscriptions.erase name }
      ((w.unsubscribe name s).settle, .flag true)
    | none => (w, .flag false)
  | .invalidate bases =>
    let (cache, keys, effects) := w.cache.invalidate bases
    ({ w with cache }.performAll effects, .texts keys)
  | .reset =>
    let (cache, effects) := w.cache.reset
    ({ w with cache }.performAll effects, .nothing)
  | .seed key params value =>
    let (cache, id, effects) := w.cache.seed key params value w.now
    ({ w with cache }.performAll effects, .text (cache.entry id).key)
  | .size => (w, .size w.cache.store.size (w.cache.store.size = 0))
  | .keysForBase baseKey => (w, .texts (w.cache.store.keysForBase baseKey))
  | .getOrCreate key params =>
    let (store, id) := w.cache.store.getOrCreate key params
    let w := { w with cache := { w.cache with store } }
    (w, .texts [(w.cache.entry id).key, (w.cache.entry id).baseKey])
  | .storeInvalidate bases =>
    let (store, keys) := w.cache.store.invalidate bases
    ({ w with cache := { w.cache with store } }, .texts keys)
  | .storeClear =>
    ({ w with cache := { w.cache with store := w.cache.store.clear } }, .nothing)
  | .insert key baseKey value micros =>
    let (store, previous) := w.cache.store.insert (makeEntry key baseKey value (w.instant micros))
    ({ w with cache := { w.cache with store } }, match previous with
      | some id => .snapshot (store.entry id).snapshot
      | none => .nothing)
  | .entryOf key => (w, match w.cache.store.find? key with
    | some id => w.reportOf id
    | none => .nothing)
  | .entryOfQuery name => (w, match w.queries.get? name with
    | some q => w.reportOf q.entry
    | none => .nothing)
  | .mustRevalidate key dedupe micros => (w, match w.cache.store.find? key with
    | some id => .flag ((w.cache.entry id).mustRevalidate (w.windowOf dedupe) (w.instant micros))
    | none => .noEntry)
  | .setEntry key value micros => w.setEntry key value (w.instant micros)
  | .invalidateEntry key => match w.cache.store.find? key with
    | some _ =>
      ({ w with cache := { w.cache with store := w.cache.store.invalidateKey key } }, .nothing)
    | none => (w, .noEntry)
  | .beginUpdate name key micros => w.beginTicket name key none (w.instant micros)
  | .beginRevalidation name key dedupe micros =>
    w.beginTicket name key (some (w.windowOf dedupe)) (w.instant micros)
  | .runTicket name answer producer => w.runTicket name answer producer
  | .dropTicket name =>
    let w' := { w with tickets := w.tickets.erase name }
    (w'.dropTicket (w.tickets.get? name), .flag (w.tickets.contains name))
  | .openProducer name => w.openProducer name
  | .update name key answer producer micros => w.update name key answer producer (w.instant micros)
  | .wait name key => w.wait name key
  | .listen name => ({ w with channel := w.channel.subscribe name }, .nothing)
  | .receive name => match w.channel.receive name with
    | some (channel, received) => ({ w with channel }, .received received)
    | none => (w, .unknown)
  | .describe subject => (w, w.describe subject)
  | .logsInterval => (w, .duration intervals.logs)
  | .refuse error => (w, .refused error)

end World

/-- Does a step let time pass. What several timers did at once has no order among itself. -/
def Step.sleeps : Step → Bool
  | .sleep _ => true
  | _ => false

/-- The order of requests: by time, then by URL. -/
def callBefore (a b : Nat × Request) : Bool := a.1 < b.1 || (a.1 = b.1 && a.2.url ≤ b.2.url)

/-- The order of events: by time, then by the key of the entry. -/
def eventBefore (a b : Event) : Bool := a.time < b.time || (a.time = b.time && a.key ≤ b.key)

/-- The log with requests and events in order. -/
def Log.sorted (l : Log) : Log :=
  { l with calls := l.calls.mergeSort callBefore, events := l.events.mergeSort eventBefore }

/-- Carries out a step and gives its reply and what happened meanwhile. -/
def World.next (w : World) (intervals : PollingIntervals) (step : Step) : World × Reply × Log :=
  let (w, reply) := { w with log := {} }.perform? intervals step
  let w := w.settle.forgetOver
  (w, reply, if step.sleeps then w.log.sorted else w.log)

/-- Carries out steps one after the other. -/
def World.runSteps (intervals : PollingIntervals) : World → List Step → List (Reply × Log)
  | _, [] => []
  | w, step :: rest =>
    let (w, reply, log) := w.next intervals step
    (reply, log) :: World.runSteps intervals w rest

/-- Carries out a scenario. -/
def run (setup : Setup) (steps : List Step) : List (Reply × Log) :=
  setup.world.runSteps setup.intervals steps

end Refetch.Scenario
