/-
# Named leases on a shared poller

Who subscribes gets a lease, and gives it back to unsubscribe. A lease that is forgotten is never
given back, so the poller goes on counting its subscriber.
-/

import Refetch.Poller

namespace Refetch

/-- A poller, the names of the leases that are held, and how often its job began and was torn
down. -/
structure Leases where
  poller : Poller := {}
  held : List String := []
  started : Nat := 0
  stopped : Nat := 0

namespace Leases

def holds (l : Leases) (name : String) : Bool := l.held.contains name

def forget (l : Leases) (name : String) : Leases := { l with held := l.held.filter (· ≠ name) }

/-- Takes a lease. One of the same name is forgotten. -/
def acquire (l : Leases) (name : String) : Leases :=
  let (poller, started) := l.poller.acquire l.started
  { l with poller, started := l.started + started.toNat, held := name :: (l.forget name).held }

/-- Gives a lease back, if it is held. -/
def release (l : Leases) (name : String) : Leases :=
  if l.holds name then
    let (poller, job) := l.poller.release
    { l.forget name with poller, stopped := l.stopped + job.isSome.toNat }
  else l

end Leases

end Refetch
