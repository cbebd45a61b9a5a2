/-
# Announcements of invalidations

A notice names the keys that became stale, or says that all did. A `Channel` hands every notice to
every receiver that was there when it was published. It keeps the last notices only: a receiver that
falls further behind is told how many it lost and goes on with the oldest one kept.
-/

import Refetch.Dict

namespace Refetch

/-- What became stale. -/
inductive Notice where
  | keys (stale : List String)
  | all
  deriving DecidableEq, Repr

/-- Does the notice say that a key became stale. -/
def Notice.affects (key : String) : Notice → Bool
  | .keys stale => stale.contains key
  | .all => true

/-- A channel to any number of receivers, each known by a name. -/
structure Channel where
  /-- How many notices are kept. -/
  capacity : Nat
  /-- How many notices have been published to receivers. -/
  published : Nat := 0
  /-- The last notices, oldest first. -/
  kept : List Notice := []
  /-- The number of the next notice for each receiver. -/
  receivers : Dict Nat := .empty
  deriving Repr

namespace Channel

/-- The smallest power of two that is not below a number. -/
def roundUp (n : Nat) : Nat := if n ≤ 1 then 1 else Nat.pow 2 (Nat.log2 (n - 1) + 1)

/-- A channel that keeps at least the given number of notices, rounded up to a power of two. No
channel keeps none. -/
def make? (capacity : Nat) : Option Channel :=
  if capacity = 0 then none else some { capacity := roundUp capacity }

/-- The number of notices kept unless another is asked for. -/
def defaultCapacity : Nat := 256

/-- Adds a receiver of all later notices. -/
def subscribe (c : Channel) (name : String) : Channel :=
  { c with receivers := c.receivers.insert name c.published }

/-- Takes a receiver away. -/
def drop (c : Channel) (name : String) : Channel :=
  { c with receivers := c.receivers.erase name }

/-- Publishes a notice. Without receivers it is lost. -/
def publish (c : Channel) (notice : Notice) : Channel :=
  if c.receivers.isEmpty then c
  else
    let kept := c.kept ++ [notice]
    { c with published := c.published + 1, kept := kept.drop (kept.length - c.capacity) }

/-- What a receiver gets that does not wait. -/
inductive Received where
  | notice (notice : Notice)
  | empty
  /-- That many notices were lost. -/
  | lagged (missed : Nat)
  deriving DecidableEq, Repr

/-- The next notice for a receiver; `none` if there is no such receiver. -/
def receive (c : Channel) (name : String) : Option (Channel × Received) :=
  (c.receivers.get? name).map fun next =>
    let oldest := c.published - c.capacity
    if next < oldest then
      ({ c with receivers := c.receivers.insert name oldest }, .lagged (oldest - next))
    else match c.kept[next - (c.published - c.kept.length)]? with
      | some notice => ({ c with receivers := c.receivers.insert name (next + 1) }, .notice notice)
      | none => (c, .empty)

end Channel

end Refetch
