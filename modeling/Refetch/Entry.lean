/-
# One cached answer and the life of its fetches

An entry holds the last answer, the error of the last fetch if that failed, the time of its last
revalidation, and, exactly while a fetch is in flight, the queue of callers that joined it. The
caller that begins a fetch leads it: it settles the fetch or, if it is dropped, abandons it. Every
change of state that observers are to see is followed by a dispatch of the snapshot to all
listeners.
-/

import Refetch.FetchError
import Refetch.Key
import Refetch.Time

namespace Refetch

/-- What can be seen of an entry. -/
structure Snapshot where
  data : Option Json := none
  error : Option FetchError := none
  loading : Bool := false
  deriving DecidableEq, Repr, Inhabited

/-- Tells the callers apart that joined a fetch of one entry. -/
abbrev WaiterId := Nat

/-- Tells the listeners of one entry apart; later ones have larger numbers. -/
abbrev ListenerId := Nat

/-- What a caller that asks to begin a fetch is told. -/
inductive Ticket where
  /-- No fetch was in flight: the caller must settle or abandon the one it began. -/
  | leader
  /-- A fetch was in flight: the caller gets its outcome. -/
  | follower (waiter : WaiterId)
  /-- What is cached is fresh: no fetch is needed. -/
  | fresh
  deriving DecidableEq, Repr

/-- A cached answer. -/
structure Entry where
  key : String
  baseKey : String
  data : Option Json := none
  error : Option FetchError := none
  /-- When the last fetch began or a value was stored, unless that was taken back since. -/
  revalidatedAt : Option Instant := none
  /-- The callers behind the fetch in flight, in the order in which they joined. -/
  waiters : Option (List WaiterId) := none
  /-- How many callers joined so far. -/
  joined : Nat := 0
  listeners : List ListenerId := []
  /-- How many listeners there were so far. -/
  registered : Nat := 0
  deriving DecidableEq, Repr, Inhabited

namespace Entry

/-- The entry of a computed key, with the part before the first question mark as its base key. -/
def ofKey (key : String) : Entry := { key, baseKey := baseKeyOf key }

/-- Is a fetch in flight. -/
def loading (e : Entry) : Bool := e.waiters.isSome

/-- What can be seen of the entry. -/
def snapshot (e : Entry) : Snapshot := { data := e.data, error := e.error, loading := e.loading }

/-- Must the entry be fetched again: it never was, or that was taken back, or longer than the window
ago. -/
def mustRevalidate (e : Entry) (window : Int) (now : Instant) : Bool :=
  match e.revalidatedAt with
  | none => true
  | some last => window < now.since last

/-- Is there a revalidation no longer than the window ago. -/
def freshWithin (e : Entry) (window : Int) (now : Instant) : Bool :=
  match e.revalidatedAt with
  | none => false
  | some last => now.since last ≤ window

/-- Stores a value as if it had just been fetched. -/
def set (e : Entry) (value : Json) (now : Instant) : Entry :=
  { e with data := some value, error := none, revalidatedAt := some now }

/-- Forgets the last revalidation; data and error stay readable. -/
def invalidate (e : Entry) : Entry := { e with revalidatedAt := none }

/-- Queues one more caller behind the fetch in flight. -/
def join (e : Entry) (queue : List WaiterId) : Entry × WaiterId :=
  ({ e with waiters := some (queue ++ [e.joined]), joined := e.joined + 1 }, e.joined)

/-- Begins a fetch or joins the one in flight. With a window, an entry that is fresh within it needs
no fetch; deciding that and beginning the fetch are one step. The time of revalidation is that of
the beginning. -/
def begin (e : Entry) (window : Option Int) (now : Instant) : Entry × Ticket :=
  match e.waiters with
  | some queue =>
    let (e, waiter) := e.join queue
    (e, .follower waiter)
  | none =>
    if window.any (e.freshWithin · now) then (e, .fresh)
    else ({ e with revalidatedAt := some now, waiters := some [] }, .leader)

/-- What a caller gets that takes the current data or waits for the fetch in flight. -/
inductive Waiting where
  | ready (data : Option Json)
  | queued (waiter : WaiterId)
  deriving DecidableEq, Repr

/-- Takes the current data, or joins the fetch in flight. -/
def wait (e : Entry) : Entry × Waiting :=
  match e.waiters with
  | none => (e, .ready e.data)
  | some queue =>
    let (e, waiter) := e.join queue
    (e, .queued waiter)

/-- Ends the fetch in flight with its result and gives the callers that are owed it. A failure
leaves the data as they are. -/
def settle (e : Entry) (result : FetchResult Json) : Entry × List WaiterId :=
  let ended := { e with waiters := none }
  let owed := e.waiters.getD []
  match result with
  | .ok value => ({ ended with data := some value, error := none }, owed)
  | .error error => ({ ended with error := some error }, owed)

/-- Ends the fetch in flight without a result and gives the callers to be told so. The entry is
as if it had never been revalidated. -/
def abandon (e : Entry) : Entry × List WaiterId :=
  ({ e with revalidatedAt := none, waiters := none }, e.waiters.getD [])

/-- Registers a listener and gives its number and what it is shown at once. -/
def subscribe (e : Entry) : Entry × ListenerId × Snapshot :=
  ({ e with listeners := e.listeners ++ [e.registered], registered := e.registered + 1 },
    e.registered, e.snapshot)

/-- Takes a listener off the register. -/
def unsubscribe (e : Entry) (listener : ListenerId) : Entry :=
  { e with listeners := e.listeners.filter (· ≠ listener) }

/-- What the listeners are shown, in the order in which they registered. -/
def dispatch (e : Entry) : List (ListenerId × Snapshot) := e.listeners.map (·, e.snapshot)

variable {e : Entry} {window : Option Int} {now : Instant}

/-- Whoever asks while a fetch is in flight joins it, whatever the window. -/
theorem begin_of_waiters {queue : List WaiterId} (h : e.waiters = some queue) :
    e.begin window now = ((e.join queue).1, .follower e.joined) := by
  simp [begin, h, join]

theorem begin_of_fresh (h : e.waiters = none) (fresh : window.any (e.freshWithin · now) = true) :
    e.begin window now = (e, .fresh) := by
  simp [begin, h, fresh]

theorem stamped_of_fresh (fresh : window.any (e.freshWithin · now) = true) :
    e.revalidatedAt ≠ none := by
  intro absent
  cases window <;> simp [freshWithin, absent] at fresh

theorem begin_of_stale (h : e.waiters = none) (stale : window.any (e.freshWithin · now) = false) :
    e.begin window now = ({ e with revalidatedAt := some now, waiters := some [] }, .leader) := by
  simp [begin, h, stale]

theorem wait_of_waiters {queue : List WaiterId} (h : e.waiters = some queue) :
    e.wait = ((e.join queue).1, .queued e.joined) := by
  simp [wait, h, join]

theorem wait_of_no_waiters (h : e.waiters = none) : e.wait = (e, .ready e.data) := by
  simp [wait, h]

@[simp]
theorem settle_snd (result : FetchResult Json) : (e.settle result).2 = e.waiters.getD [] := by
  cases result <;> rfl

@[simp]
theorem waiters_settle (result : FetchResult Json) : (e.settle result).1.waiters = none := by
  cases result <;> rfl

@[simp]
theorem joined_settle (result : FetchResult Json) : (e.settle result).1.joined = e.joined := by
  cases result <;> rfl

@[simp]
theorem key_settle (result : FetchResult Json) : (e.settle result).1.key = e.key := by
  cases result <;> rfl

end Entry

/-- The answer to a read that found fresh data: the data, or else the error of the last fetch. -/
def Snapshot.result (s : Snapshot) : FetchResult Json :=
  match s.data, s.error with
  | some value, _ => .ok value
  | none, some error => .error error
  | none, none => .ok .null

end Refetch
