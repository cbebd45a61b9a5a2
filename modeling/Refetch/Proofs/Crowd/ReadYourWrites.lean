/-
# What a read may return after an invalidation

Once the entry of a key has been made stale, a get of the key that begins afterwards does not simply
return what was there: what it returns was asked for since, or stored since. There are two
exceptions. Whoever asks to begin a fetch while one is in flight joins that one, also if it began
before the invalidation, so its answer can still be returned. And a fetch that fails leaves the data
as they are and the entry fresh as of its beginning, so that the data of before the invalidation can
be returned once a fetch that was asked for since has failed.
-/

import Refetch.Proofs.Crowd.Origin
import Refetch.Proofs.Store.Staling

namespace Refetch

namespace Crowd

/-- An event makes the entry of a key stale: the key is among those that a write or an invalidation
of base keys reaches, or somebody who holds on to the entry invalidates it. -/
inductive Invalidates (s : Crowd) (key : String) : Event → Prop
  | write {t : ActorId} {w : Write Json} {value : Json}
      (there : s.actors t = some (.write (.stale w value)))
      (named : key ∈ (s.cache.store.invalidate (w.options.bases w.url)).2) :
      Invalidates s key (.step t)
  | bases {t : ActorId} {bases : List String} (there : s.actors t = some (.tend (.stale bases)))
      (named : key ∈ (s.cache.store.invalidate bases).2) : Invalidates s key (.step t)
  | entry {id : EntryId} (current : s.cache.store.find? key = some id) :
      Invalidates s key (.touch id .invalidate)

variable {s m later : Crowd} {key : String} {event : Event} {log : List Deed}

/-- What is derived from invalidated base keys has lost its revalidation time. -/
theorem stale_of_named {store : Store} (built : store.Built) {bases : List String}
    (named : key ∈ (store.invalidate bases).2) {id : EntryId}
    (found : (store.invalidate bases).1.find? key = some id) :
    ((store.invalidate bases).1.entry id).revalidatedAt = none := by
  have stales := built.wellFormed.stales_invalidate bases
  obtain ⟨other, current, derived⟩ := (stales.mem_iff key).mp named
  have same : (store.invalidate bases).1.find? key = store.find? key := by
    rw [Store.find?, stales.current, Store.find?]
  rw [same, current] at found
  cases found
  rw [stales.stale id derived]

/-- After an event that makes the entry of a key stale, the entry is stale. -/
theorem Invalidates.stale (h : s.Invalidates key event) (sound : s.Sound)
    (happened : s.next event = some m) {id : EntryId}
    (found : m.cache.store.find? key = some id) : (m.cache.entry id).revalidatedAt = none := by
  cases h with
  | write there named | bases there named =>
      obtain ⟨_, _, _, stepped, rfl⟩ := step_of_next there happened
      cases stepped
      exact stale_of_named sound.built named found
  | entry current =>
      cases happened
      have same : s.cache.store.find? key = some id := found
      rw [current] at same
      cases same
      have inside := (sound.built.wellFormed.found key id current).1
      rw [Cache.entry, Cache.put, Store.entry_put_same _ _ inside]
      rfl

end Crowd

end Refetch
