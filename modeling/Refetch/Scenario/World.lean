/-
# A world on one thread

Tasks read, write and poll against one cache, one scripted server and one clock. A task that can
go on stands in the ready queue; it runs until it waits or is over, and the queue is served first
come, first served. Time of timers moves only when the world sleeps; a timer fires on a whole
millisecond. What happens is logged.
-/

import Refetch.Scenario.Task
import Refetch.ScriptedServer

namespace Refetch.Scenario

structure LiveQuery where
  entry : EntryId
  decode : Json → Except DecodeError Json
  poller : Option PollerId

structure SharedPoll where
  poller : Poller
  entry : EntryId
  mode : CacheMode
  interval : Duration

structure Subscription where
  entry : EntryId
  listener : ListenerId
  /-- How the subscriber decodes the data. -/
  decode : Json → Except DecodeError Json
  /-- The poller that is kept running. -/
  poller : Option PollerId
  /-- Does the subscriber hear of the start and the end. -/
  notified : Bool

inductive HeldTicket where
  | leader (entry : EntryId)
  | follower (entry : EntryId) (waiter : WaiterId)
  | fresh
  deriving DecidableEq, Repr

/-- What a subscriber sees. -/
inductive Sight where
  | view (view : View Json)
  | started
  | stopped

/-- Something that a subscriber saw. -/
structure Event where
  time : Nat
  key : String
  subscription : String
  sight : Sight

/-- What happened. -/
structure Log where
  /-- Requests and when they were sent. -/
  calls : List (Nat × Request) := []
  events : List Event := []
  /-- Keys that readers were told they depend on. -/
  depends : List String := []
  notes : List Notice := []

structure World where
  cache : Cache := {}
  clock : Instant
  /-- Does the clock go on while the world sleeps. -/
  linked : Bool := false
  /-- Can anything run in the background. -/
  background : Bool := true
  /-- Milliseconds slept so far. -/
  time : Nat := 0
  gate : Gate TaskId := {}
  tasks : List Task := []
  spawned : TaskId := 0
  ready : List TaskId := []
  /-- Deadlines, in the order in which they were set. -/
  timers : List (Nat × TaskId) := []
  pollers : Array SharedPoll := #[]
  /-- Tasks that are held, by name, and so on. -/
  names : Dict TaskId := .empty
  queries : Dict LiveQuery := .empty
  subscriptions : Dict Subscription := .empty
  tickets : Dict HeldTicket := .empty
  /-- Results that are handed out when their name is called, and to which task. -/
  producers : Dict (TaskId × FetchResult Json) := .empty
  channel : Channel
  log : Log := {}

namespace World

def now (w : World) : Instant := if w.linked then w.clock.addMicros (w.time * 1000) else w.clock

def task? (w : World) (id : TaskId) : Option Task := w.tasks.find? (·.id = id)

/-- Replaces a task by what it has become. -/
def setTask (w : World) (t : Task) : World :=
  { w with tasks := w.tasks.map fun other => if other.id = t.id then t else other }

/-- Puts a task into the ready queue, unless it stands there. -/
def wake (w : World) (id : TaskId) : World :=
  if id ∈ w.ready then w else { w with ready := w.ready ++ [id] }

/-- Starts a task. -/
def spawn (w : World) (activity : Activity) (atHand : Option (FetchResult Json)) :
    World × TaskId :=
  let id := w.spawned
  ({ w with spawned := id + 1, tasks := w.tasks ++ [{ id, activity, atHand }],
            ready := w.ready ++ [id] }, id)

/-- Gives a task the result for which it waits. -/
def supply (w : World) (id : TaskId) (result : FetchResult Json) : World :=
  match w.task? id with
  | some t => (w.setTask (t.supplied result)).wake id
  | none => w

def logEvent (w : World) (entry : EntryId) (subscription : String) (sight : Sight) : World :=
  let event := { time := w.time, key := (w.cache.entry entry).key, subscription, sight }
  { w with log := { w.log with events := w.log.events ++ [event] } }

def sightOf (w : World) (s : Subscription) (snapshot : Snapshot) : Sight :=
  .view (.ofSnapshot s.decode (w.cache.entry s.entry).key snapshot)

/-- Shows a snapshot to the subscriber behind a listener. -/
def showTo (w : World) (entry : EntryId) (listener : ListenerId) (snapshot : Snapshot) : World :=
  match w.subscriptions.entries.find? fun (_, s) => s.entry = entry && s.listener = listener with
  | some (name, s) => w.logEvent entry name (w.sightOf s snapshot)
  | none => w

/-- Announces what became stale. -/
def announce (w : World) (notice : Notice) : World :=
  { w with log := { w.log with notes := w.log.notes ++ [notice] },
           channel := w.channel.publish notice }

def send (w : World) (id : TaskId) (r : Request) : World :=
  let (gate, answer) := w.gate.send id r
  let w := { w with gate, log := { w.log with calls := w.log.calls ++ [(w.time, r)] } }
  match answer, w.task? id with
  | some result, some t => w.setTask (t.supplied result)
  | _, _ => w

def perform (id : TaskId) (w : World) : Effect → World
  | .depends key => { w with log := { w.log with depends := w.log.depends ++ [key] } }
  | .request r => w.send id r
  | .show entry listener snapshot => w.showTo entry listener snapshot
  | .answer entry waiter => match w.tasks.find? (·.follows entry waiter) with
    | some t => w.wake t.id
    | none => w
  | .announce notice => w.announce notice

/-- Carries out effects that no task has. -/
def performAll (w : World) (effects : List Effect) : World := effects.foldl (perform w.spawned) w

/-- Sets a timer that passes after an interval. -/
def arm (w : World) (id : TaskId) (interval : Duration) : World :=
  { w with timers := w.timers ++ [(w.time + interval.ceilMillis, id)] }

/-- Takes the timers of a task away. -/
def disarm (w : World) (id : TaskId) : World :=
  { w with timers := w.timers.filter (·.2 ≠ id) }

def armed (w : World) (id : TaskId) : Bool := w.timers.any (·.2 = id)

/-- Takes up what a step made of the cache and the task, and carries out its effects. -/
def after (w : World) (t : Task) (cache : Cache) (activity : Activity) (effects : List Effect) :
    World :=
  effects.foldl (perform t.id) ({ w with cache }.setTask { t with activity })

/-- One step of a task; `none` if the task waits or is over. -/
def stepTask (w : World) (t : Task) : Option World :=
  match t.activity with
  | .read r conclude => match r.step w.cache with
    | some (cache, r, effects) => some (w.after t cache (.read r conclude) effects)
    | none => match r, t.atHand with
      | .await _, some result => some (w.setTask { t.supplied result with atHand := none })
      | _, _ => none
  | .write x => (x.step w.cache).map fun (cache, x, effects) => w.after t cache (.write x) effects
  | .poll loop mode entry tick => match loop.phase with
    | .waiting =>
      if loop.signal.ready then
        some ((w.disarm t.id).setTask { t with activity := .poll loop.notice mode entry none })
      else if w.armed t.id then none
      else some (w.arm t.id loop.interval)
    | .ticking => match tick with
      | none =>
        let tick := some (.begin .tick mode w.now entry)
        some (w.setTask { t with activity := .poll loop mode entry tick })
      | some (.done _) =>
        some (w.setTask { t with activity := .poll loop.tickSettled mode entry none })
      | some r => (r.step w.cache).map fun (cache, r, effects) =>
        w.after t cache (.poll loop mode entry (some r)) effects
    | .ended => none

/-- Runs a task until it waits or is over. -/
def runTask : Nat → TaskId → World → World
  | 0, _, w => w
  | fuel + 1, id, w => match (w.task? id).bind w.stepTask with
    | some w => runTask fuel id w
    | none => w

/-- More steps than a task takes before it waits. -/
def longRun : Nat := 64

/-- Runs the tasks of the ready queue until it is empty. -/
def runReady : Nat → World → World
  | 0, w => w
  | fuel + 1, w => match w.ready with
    | [] => w
    | id :: rest => runReady fuel (runTask longRun id { w with ready := rest })

/-- Forgets tasks that are over and that nobody holds. -/
def forgetOver (w : World) : World :=
  let held := w.names.entries.map (·.2)
  { w with tasks := w.tasks.filter fun t => !t.isOver || t.id ∈ held }

/-- Runs every task until it waits. Without timers passing no task runs more than a few times. -/
def settle (w : World) : World := runReady (16 * (w.tasks.length + w.ready.length + 1)) w

/-- The timer of a task passes. -/
def fire (w : World) (id : TaskId) : World :=
  match w.task? id with
  | some t => match t.activity with
    | .poll loop mode entry tick =>
      ((w.disarm id).setTask { t with activity := .poll loop.expire mode entry tick }).wake id
    | _ => w.disarm id
  | none => w.disarm id

def nextDeadline (w : World) : Option Nat := (w.timers.map (·.1)).min?

/-- Sleeps until a time, timers passing on the way. -/
def sleepUntil : Nat → Nat → World → World
  | 0, target, w => { w with time := target }
  | fuel + 1, target, w => match w.nextDeadline with
    | some deadline =>
      if deadline ≤ target then
        let w := { w with time := max w.time deadline }
        let due := (w.timers.filter (·.1 ≤ w.time)).map (·.2)
        sleepUntil fuel target (due.foldl fire w).settle
      else { w with time := target }
    | none => { w with time := target }

def abort (w : World) (id : TaskId) : World :=
  match w.task? id with
  | some t =>
    if t.isOver then w
    else ({ w with gate := w.gate.forget id }.setTask t.abort).wake id
  | none => w

def startLoop (w : World) (p : SharedPoll) : World :=
  if w.background then
    (w.spawn (.poll { interval := p.interval } p.mode p.entry none) none).1
  else { w with spawned := w.spawned + 1 }

/-- Adds a subscriber to a poller. -/
def acquirePoller (w : World) (id : PollerId) : World :=
  match w.pollers[id]? with
  | some p =>
    let (poller, started) := p.poller.acquire w.spawned
    let w := { w with pollers := w.pollers.setIfInBounds id { p with poller } }
    if started then w.startLoop p else w
  | none => w

/-- Tells the loop of a poller to stop. -/
def stopLoop (w : World) (job : JobId) : World :=
  match w.task? job with
  | some t => match t.activity with
    | .poll loop mode entry tick =>
      (w.setTask { t with activity := .poll loop.stop mode entry tick }).wake job
    | _ => w
  | none => w

/-- Takes a subscriber away from a poller. -/
def releasePoller (w : World) (id : PollerId) : World :=
  match w.pollers[id]? with
  | some p =>
    let (poller, job) := p.poller.release
    let w := { w with pollers := w.pollers.setIfInBounds id { p with poller } }
    match job with
    | some job => w.stopLoop job
    | none => w
  | none => w

def unsubscribe (w : World) (name : String) (s : Subscription) : World :=
  let w := { w with cache := w.cache.put s.entry ((w.cache.entry s.entry).unsubscribe s.listener) }
  let w := if s.notified then w.logEvent s.entry name .stopped else w
  match s.poller with
  | some id => w.releasePoller id
  | none => w

end World

end Refetch.Scenario
