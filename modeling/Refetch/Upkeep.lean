/-
# How seeds, invalidations and resets are carried out, step by step

Undisturbed they come to `Cache.seed`, `Cache.invalidate` and `Cache.reset`. Each step is one
critical section, so any other activity may run between two steps.
-/

import Refetch.Cache

namespace Refetch

/-- Where a seed, an invalidation or a reset stands. -/
inductive Upkeep where
  /-- Seeds: looks for the entry of the key. -/
  | locate (key : String) (params : Option Params) (value : Json) (now : Instant)
  /-- Seeds: makes the entry, unless another activity made it meanwhile. -/
  | create (key : String) (params : Option Params) (value : Json) (now : Instant)
  /-- Seeds: stores the value. -/
  | put (value : Json) (now : Instant) (entry : EntryId)
  /-- Seeds: tells the listeners. -/
  | tell (entry : EntryId)
  /-- Invalidates all that derives from base keys. -/
  | stale (bases : List String)
  /-- Announces the keys that became stale. -/
  | tellStale (keys : List String)
  /-- Drops the whole cache. -/
  | clear
  /-- Announces that all is stale. -/
  | tellAll
  /-- Is over, with the keys that became stale. -/
  | done (keys : List String)

namespace Upkeep

/-- The next step; `none` if it is over. -/
def step (c : Cache) : Upkeep → Option (Cache × Upkeep × List Effect)
  | .locate key params value now =>
    match c.store.find? (computeKey key params) with
    | some id => some (c, .put value now id, [])
    | none => some (c, .create key params value now, [])
  | .create key params value now =>
    let (store, id) := c.store.getOrCreate key params
    some ({ c with store }, .put value now id, [])
  | .put value now id => some (c.put id ((c.entry id).set value now), .tell id, [])
  | .tell id => some (c, .done [], c.dispatch id)
  | .stale bases =>
    let (store, keys) := c.store.invalidate bases
    some ({ c with store }, .tellStale keys, [])
  | .tellStale keys =>
    some (c, .done keys, if keys.isEmpty then [] else [.announce (.keys keys)])
  | .clear => some ({ c with store := c.store.clear }, .tellAll, [])
  | .tellAll => some (c, .done [], [.announce .all])
  | .done _ => none

/-- Running undisturbed to the end, with the effects on the way. -/
inductive Completes : Cache → Upkeep → Cache → List String → List Effect → Prop
  | done (c : Cache) (keys : List String) : Completes c (.done keys) c keys []
  | step {c c' after : Cache} {u u' : Upkeep} {keys : List String} {first rest : List Effect}
      (stepped : u.step c = some (c', u', first)) (completes : Completes c' u' after keys rest) :
      Completes c u after keys (first ++ rest)

theorem Completes.quietly {c c' after : Cache} {u u' : Upkeep} {keys : List String}
    {effects : List Effect} (stepped : u.step c = some (c', u', []))
    (completes : Completes c' u' after keys effects) : Completes c u after keys effects :=
  .step stepped completes

theorem Completes.last {c c' : Cache} {u : Upkeep} {keys : List String} {effects : List Effect}
    (stepped : u.step c = some (c', .done keys, effects)) : Completes c u c' keys effects := by
  simpa using Completes.step stepped (.done c' keys)

theorem completes_seed (c : Cache) (key : String) (params : Option Params) (value : Json)
    (now : Instant) :
    Completes c (.locate key params value now) (c.seed key params value now).1 []
      (c.seed key params value now).2.2 := by
  have stored : ∀ (c : Cache) (id : EntryId),
      Completes c (.put value now id) (c.set id value now).1 [] (c.set id value now).2 :=
    fun c id => .quietly rfl (.last rfl)
  cases found : c.store.find? (computeKey key params) with
  | some id =>
      have seeded : c.seed key params value now =
          ((c.set id value now).1, id, (c.set id value now).2) := by
        simp [Cache.seed, Store.getOrCreate, Store.create, found]
      have located : (Upkeep.locate key params value now).step c =
          some (c, .put value now id, []) := by
        simp [step, found]
      rw [seeded]
      exact .quietly located (stored c id)
  | none =>
      have missed : (Upkeep.locate key params value now).step c =
          some (c, .create key params value now, []) := by
        simp [step, found]
      exact .quietly missed (.quietly rfl (stored _ _))

theorem completes_invalidate (c : Cache) (bases : List String) :
    Completes c (.stale bases) (c.invalidate bases).1 (c.invalidate bases).2.1
      (c.invalidate bases).2.2 :=
  .quietly rfl (.last rfl)

theorem completes_reset (c : Cache) : Completes c .clear c.reset.1 [] c.reset.2 :=
  .quietly rfl (.last rfl)

end Upkeep

end Refetch
