/-
# Tasks of a world

A task reads, writes or polls. It is a step machine of the library together with what becomes of its
result; it is over when the machine is done, and may be given up before that.
-/

import Refetch.Poller
import Refetch.Reading
import Refetch.Writing

namespace Refetch.Scenario

/-- Tells tasks apart. -/
abbrev TaskId := Nat

/-- Tells shared pollers apart. -/
abbrev PollerId := Nat

/-- What a task does. -/
inductive Activity where
  /-- Reads; what the reader makes of the result comes last. -/
  | read (reading : Reading) (conclude : FetchResult Json → FetchResult Json)
  | write (writing : Writing)
  /-- Polls an entry; the last part is the tick that is running. -/
  | poll (loop : PollLoop) (mode : CacheMode) (entry : EntryId) (tick : Option Reading)

structure Task where
  id : TaskId
  activity : Activity
  /-- The result a leader has at hand, if it gets it from nowhere else. -/
  atHand : Option (FetchResult Json) := none
  /-- Was the task given up before it was over. -/
  aborted : Bool := false

namespace Task

/-- The result of a task that is over. -/
def result (t : Task) : Option (FetchResult Json) :=
  match t.activity with
  | .read (.done result) conclude => result.map conclude
  | .write (.done result) => some result
  | _ => none

def isOver (t : Task) : Bool :=
  match t.activity with
  | .read (.done _) _ | .write (.done _) => true
  | .poll loop _ _ _ => loop.phase = .ended
  | _ => false

/-- Does the task wait for the outcome of a fetch as a certain caller. -/
def follows (t : Task) (entry : EntryId) (waiter : WaiterId) : Bool :=
  match t.activity with
  | .read (.follow e w) _ | .poll _ _ _ (some (.follow e w)) => e = entry && w = waiter
  | _ => false

/-- The result arrives for which the task waits. -/
def supplied (t : Task) (result : FetchResult Json) : Task :=
  match t.activity with
  | .read r conclude => { t with activity := .read (r.supplied result) conclude }
  | .write w => { t with activity := .write (w.answered result) }
  | .poll loop mode entry tick =>
    { t with activity := .poll loop mode entry (tick.map (·.supplied result)) }

def abort (t : Task) : Task :=
  match t.activity with
  | .read r _ => { t with activity := .read r.dropped fun result => result, aborted := true }
  | .write _ => { t with activity := .write (.done (.ok .null)), aborted := true }
  | .poll .. => t

end Task

end Refetch.Scenario
