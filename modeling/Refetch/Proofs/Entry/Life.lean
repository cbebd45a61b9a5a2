/-
# The life of an entry

An entry lives through the acts of its callers, in whichever order they come: callers begin
fetches, join them, store values and invalidate, and a leader settles its fetch or is dropped. A
`Life` is an entry together with what cannot be read off it: which fetches are led, and which
outcomes its callers were sent. The fetches of one entry are numbered as they begin, so that the
outcome of one cannot be taken for that of another.

Settling or dropping a leader is one act here. `settle_mails` and `abandon_mails` say that the steps
of a leader come to the same.
-/

import Refetch.Reading

namespace Refetch

namespace Entry

/-- Tells the fetches of one entry apart; later ones have larger numbers. -/
abbrev FetchId := Nat

/-- What is done to an entry. -/
inductive Act where
  /-- A caller asks to begin a fetch; with a window, only if the entry is not fresh within it. -/
  | begin (window : Option Int) (now : Instant)
  /-- A caller takes the data or waits for the fetch in flight. -/
  | wait
  | set (value : Json) (now : Instant)
  | invalidate
  | subscribe
  | unsubscribe (listener : ListenerId)
  /-- The leader of a fetch settles it. -/
  | settle (fetch : FetchId) (result : FetchResult Json)
  /-- The leader of a fetch is dropped before it has settled. -/
  | drop (fetch : FetchId)

/-- What the caller behind an act is told. -/
inductive Told where
  | nothing
  | ticket (ticket : Ticket)
  | waiting (waiting : Waiting)

/-- The number under which the caller has joined a fetch. -/
def Told.joined : Told → Option WaiterId
  | .ticket (.follower waiter) | .waiting (.queued waiter) => some waiter
  | _ => none

/-- How a fetch ends. -/
inductive Ending where
  | settled (result : FetchResult Json)
  | dropped

/-- The outcome of a fetch for those who joined it. -/
def Ending.outcome (key : String) : Ending → FetchResult Json
  | .settled result => result
  | .dropped => .error (.cancelled key)

/-- The fetch that an act ends, and how. -/
def Act.ending : Act → Option (FetchId × Ending)
  | .settle fetch result => some (fetch, .settled result)
  | .drop fetch => some (fetch, .dropped)
  | _ => none

/-- An entry in the course of its life. -/
structure Life where
  entry : Entry
  /-- How many fetches began so far. -/
  begun : FetchId := 0
  /-- The fetches whose leaders have neither settled nor been dropped. -/
  led : List FetchId := []
  /-- The outcomes that callers were sent. -/
  sent : List (WaiterId × FetchResult Json) := []

namespace Life

/-- The life of a new entry. -/
def born (key baseKey : String) : Life := { entry := { key, baseKey } }

/-- The callers that wait. -/
def queue (s : Life) : List WaiterId := s.entry.waiters.getD []

/-- A fetch has ended: its leader is free, and the callers behind it are sent the outcome. -/
def finish (s : Life) (fetch : FetchId) (after : Entry × List WaiterId)
    (outcome : FetchResult Json) : Life :=
  { s with entry := after.1, led := s.led.erase fetch,
           sent := s.sent ++ after.2.map (·, outcome) }

/-- One act, and what its caller is told; `none` if the act is not possible, since only the leader
of a fetch can end it. -/
def step (s : Life) : Act → Option (Life × Told)
  | .begin window now =>
    let (e, ticket) := s.entry.begin window now
    let s := match ticket with
      | .leader => { s with entry := e, begun := s.begun + 1, led := s.led ++ [s.begun] }
      | _ => { s with entry := e }
    some (s, .ticket ticket)
  | .wait =>
    let (e, waiting) := s.entry.wait
    some ({ s with entry := e }, .waiting waiting)
  | .set value now => some ({ s with entry := s.entry.set value now }, .nothing)
  | .invalidate => some ({ s with entry := s.entry.invalidate }, .nothing)
  | .subscribe => some ({ s with entry := s.entry.subscribe.1 }, .nothing)
  | .unsubscribe listener => some ({ s with entry := s.entry.unsubscribe listener }, .nothing)
  | .settle fetch result =>
    if fetch ∈ s.led then some (s.finish fetch (s.entry.settle result) result, .nothing) else none
  | .drop fetch =>
    if fetch ∈ s.led then
      some (s.finish fetch s.entry.abandon (.error (.cancelled s.entry.key)), .nothing)
    else none

/-- A run of acts, and what their callers are told. -/
def run : Life → List Act → Option (Life × List Told)
  | s, [] => some (s, [])
  | s, act :: acts =>
    (s.step act).bind fun (s, told) =>
      (s.run acts).map fun (s, rest) => (s, told :: rest)

theorem run_cons {s after : Life} {act : Act} {acts : List Act} {told : List Told}
    (h : s.run (act :: acts) = some (after, told)) :
    ∃ s' first rest, s.step act = some (s', first) ∧ s'.run acts = some (after, rest) ∧
      told = first :: rest := by
  obtain ⟨⟨s', first⟩, stepped, rested⟩ := Option.bind_eq_some_iff.mp h
  obtain ⟨⟨last, rest⟩, ran, same⟩ := Option.map_eq_some_iff.mp rested
  cases same
  exact ⟨s', first, rest, stepped, ran, rfl⟩

theorem run_cons_of_step {s s' : Life} {act : Act} {told : Told}
    (stepped : s.step act = some (s', told)) (acts : List Act) :
    s.run (act :: acts) = (s'.run acts).map fun (after, rest) => (after, told :: rest) := by
  rw [run, stepped]
  rfl

/-- What an act can do to the callers and the leaders of an entry. The last two parts are the
caller that joins and the fetch that ends, if there is one. -/
inductive Change (s s' : Life) : Option WaiterId → Option (FetchId × Ending) → Prop
  /-- Nothing happens to the flight. -/
  | keeps (waiters : s'.entry.waiters = s.entry.waiters)
      (joined : s'.entry.joined = s.entry.joined) (begun : s'.begun = s.begun)
      (led : s'.led = s.led) (sent : s'.sent = s.sent) : Change s s' none none
  /-- A fetch begins, with nobody behind it. -/
  | leads (idle : s.entry.waiters = none) (waiters : s'.entry.waiters = some [])
      (joined : s'.entry.joined = s.entry.joined) (begun : s'.begun = s.begun + 1)
      (led : s'.led = s.led ++ [s.begun]) (sent : s'.sent = s.sent) : Change s s' none none
  /-- A caller joins the fetch in flight. -/
  | joins (queue : List WaiterId) (flying : s.entry.waiters = some queue)
      (waiters : s'.entry.waiters = some (queue ++ [s.entry.joined]))
      (joined : s'.entry.joined = s.entry.joined + 1) (begun : s'.begun = s.begun)
      (led : s'.led = s.led) (sent : s'.sent = s.sent) : Change s s' (some s.entry.joined) none
  /-- A fetch ends, and everybody in the queue is sent its outcome. -/
  | ends (fetch : FetchId) (ending : Ending) (leading : fetch ∈ s.led)
      (waiters : s'.entry.waiters = none) (joined : s'.entry.joined = s.entry.joined)
      (begun : s'.begun = s.begun) (led : s'.led = s.led.erase fetch)
      (sent : s'.sent = s.sent ++ s.queue.map (·, ending.outcome s.entry.key)) :
      Change s s' none (some (fetch, ending))

/-- Every act changes the flight in one of these ways, and none changes the key. -/
theorem change_of_step {s s' : Life} {act : Act} {told : Told} (h : s.step act = some (s', told)) :
    Change s s' told.joined act.ending ∧ s'.entry.key = s.entry.key := by
  cases act with
  | begin window now =>
      cases flying : s.entry.waiters with
      | some queue =>
          simp only [step, begin_of_waiters flying] at h
          cases h
          exact ⟨.joins queue flying rfl rfl rfl rfl rfl, rfl⟩
      | none =>
          cases fresh : window.any (s.entry.freshWithin · now) with
          | true =>
              simp only [step, begin_of_fresh flying fresh] at h
              cases h
              exact ⟨.keeps rfl rfl rfl rfl rfl, rfl⟩
          | false =>
              simp only [step, begin_of_stale flying fresh] at h
              cases h
              exact ⟨.leads flying rfl rfl rfl rfl rfl, rfl⟩
  | wait =>
      cases flying : s.entry.waiters with
      | some queue =>
          simp only [step, wait_of_waiters flying] at h
          cases h
          exact ⟨.joins queue flying rfl rfl rfl rfl rfl, rfl⟩
      | none =>
          simp only [step, wait_of_no_waiters flying] at h
          cases h
          exact ⟨.keeps rfl rfl rfl rfl rfl, rfl⟩
  | set _ _ | invalidate | subscribe | unsubscribe _ =>
      cases h
      exact ⟨.keeps rfl rfl rfl rfl rfl, rfl⟩
  | settle fetch result =>
      simp only [step] at h
      split at h
      next leading =>
        cases h
        refine ⟨.ends fetch (.settled result) leading ?_ ?_ rfl rfl ?_, ?_⟩ <;>
          simp [finish, queue, Ending.outcome]
      next => cases h
  | drop fetch =>
      simp only [step] at h
      split at h
      next leading =>
        cases h
        exact ⟨.ends fetch .dropped leading rfl rfl rfl rfl rfl, rfl⟩
      next => cases h

end Life

end Entry

end Refetch
