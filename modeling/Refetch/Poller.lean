/-
# Polling that is shared by subscribers, and the loop that does it

`Poller` counts the subscribers of one background job: the first one starts it, the last one to
leave takes its teardown. `PollLoop` is the job: it waits for an interval, ticks, and begins anew,
until it is told to stop.
-/

import Refetch.Time

namespace Refetch

/-- Tells background jobs apart. -/
abbrev JobId := Nat

/-- A background job shared by subscribers. -/
structure Poller where
  subscribers : Nat := 0
  /-- The job that is running, to be torn down by the last subscriber. -/
  job : Option JobId := none
  deriving DecidableEq, Repr, Inhabited

namespace Poller

def running (p : Poller) : Bool := p.job.isSome

/-- Adds a subscriber. The first one starts a job, which gets the given number; the second part
says whether that happened. -/
def acquire (p : Poller) (fresh : JobId) : Poller × Bool :=
  if p.subscribers = 0 then ({ subscribers := 1, job := some fresh }, true)
  else ({ p with subscribers := p.subscribers + 1 }, false)

/-- Takes a subscriber away. The last one takes the job that is to be torn down. -/
def release (p : Poller) : Poller × Option JobId :=
  let left := p.subscribers - 1
  if left = 0 then ({ subscribers := left, job := none }, p.job)
  else ({ p with subscribers := left }, none)

end Poller

/-- What whoever may stop a loop has sent it. The signal is down at first; the receiver has
something to look at once a value was sent that it has not seen, and for good once the sender is
gone. -/
structure StopSignal where
  /-- The value that was sent last. -/
  raised : Bool := false
  /-- Has the receiver not seen that value yet. -/
  news : Bool := false
  /-- Is the sender gone. -/
  closed : Bool := false
  deriving DecidableEq, Repr, Inhabited

/-- Is there something for the receiver to look at. -/
def StopSignal.ready (s : StopSignal) : Bool := s.news || s.closed

/-- Where a poll loop stands. -/
inductive PollPhase where
  /-- Between ticks: the interval passes, or the loop is told to stop. -/
  | waiting
  | ticking
  | ended
  deriving DecidableEq, Repr, Inhabited

/-- A loop that ticks again and again, an interval after it started or the last tick settled. -/
structure PollLoop where
  interval : Duration
  signal : StopSignal := {}
  phase : PollPhase := .waiting
  deriving DecidableEq, Repr

namespace PollLoop

/-- Tells the loop to stop, which can be done once. A tick that is running is not interrupted. -/
def stop (l : PollLoop) : PollLoop := { l with signal := ⟨true, true, true⟩ }

/-- Whoever could tell the loop to stop goes away without doing so. -/
def forsake (l : PollLoop) : PollLoop := { l with signal := { l.signal with closed := true } }

/-- The loop looks at its signal while it waits. It ends if the signal is raised, or if nobody is
left to raise it. -/
def notice (l : PollLoop) : PollLoop :=
  if l.phase = .waiting ∧ l.signal.ready then
    { l with signal := { l.signal with news := false },
             phase := if l.signal.raised ∨ ¬ l.signal.news then .ended else .waiting }
  else l

/-- The interval has passed: the loop ticks, unless it was told to stop. -/
def expire (l : PollLoop) : PollLoop :=
  if l.phase = .waiting then { l with phase := if l.signal.raised then .ended else .ticking } else l

/-- The tick has settled: the loop waits again, unless it was told to stop. -/
def tickSettled (l : PollLoop) : PollLoop :=
  if l.phase = .ticking then { l with phase := if l.signal.raised then .ended else .waiting } else l

end PollLoop

end Refetch
