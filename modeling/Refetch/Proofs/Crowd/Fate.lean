/-
# What an event does to the cache

What one event does to the cache is said here once: what a step makes of it (`Change`), what any
event makes of it (`Alters`), and from these what becomes of an entry (`Fate`), where the outcomes
come from that are on their way (`Mailed`), and which entry a key has. What holds of every run
follows from this without another look at the steps of readers and writers.
-/

import Refetch.Proofs.Crowd.Record
import Refetch.Proofs.Entry.Quiet

namespace Refetch

open Store

namespace Entry

/-- An entry that is made where there was none is like the one that is read there. -/
theorem Quiet.made (key baseKey : String) : Quiet default { key, baseKey } :=
  .of_same_flight rfl rfl rfl rfl (Or.inl rfl)

/-- What is done to an entry from outside is quiet unless it stores a value. -/
theorem quiet_touch (e : Entry) (touch : Touch) :
    Quiet e (touch.apply e) ∨ ∃ value now, touch = .set value now := by
  cases touch with
  | set value now => exact Or.inr ⟨value, now, rfl⟩
  | invalidate => exact Or.inl (.of_same_flight rfl rfl rfl rfl (Or.inr rfl))
  | wait => exact Or.inl (.wait e)
  | subscribe | unsubscribe _ => exact Or.inl (.of_same_flight rfl rfl rfl rfl (Or.inl rfl))

end Entry

namespace Store

variable {s : Store}

theorem quiet_put {id : EntryId} {e : Entry} (h : (s.entry id).Quiet e) (other : EntryId) :
    (s.entry other).Quiet ((s.put id e).entry other) := by
  rw [entry_put]
  split
  next both =>
    rw [both.1]
    exact h
  next => exact .refl _

theorem quiet_getOrCreate (s : Store) (key : String) (params : Option Params) (id : EntryId) :
    (s.entry id).Quiet ((s.getOrCreate key params).1.entry id) := by
  cases found : s.find? (computeKey key params) with
  | some _ =>
      rw [getOrCreate_of_find found]
      exact .refl _
  | none =>
      rw [getOrCreate_of_missing found, entry_push]
      split
      next new =>
        rw [entry_of_size_le s id (Nat.le_of_eq new.symm)]
        exact .made _ _
      next => exact .refl _

theorem entry_getOrCreate_of_lt {id : EntryId} {key : String} {params : Option Params}
    (inside : id < s.arena.size) : (s.getOrCreate key params).1.entry id = s.entry id := by
  cases found : s.find? (computeKey key params) with
  | some _ => rw [getOrCreate_of_find found]
  | none => rw [getOrCreate_of_missing found, entry_push, if_neg (Nat.ne_of_lt inside)]

theorem quiet_invalidate (h : s.Built) (bases : List String) (id : EntryId) :
    (s.entry id).Quiet ((s.invalidate bases).1.entry id) := by
  rw [h.wellFormed.invalidate_fst, entry_staled]
  split
  · exact .of_same_flight rfl rfl rfl rfl (Or.inr rfl)
  · exact .refl _

/-- A key has no other entry after an entry was made than before, or else the new one. -/
theorem find?_of_getOrCreate {key : String} {params : Option Params} {other : String}
    {id : EntryId} (found : (s.getOrCreate key params).1.find? other = some id) :
    s.find? other = some id ∨ s.arena.size ≤ id := by
  cases present : s.find? (computeKey key params) with
  | some _ =>
      rw [getOrCreate_of_find present] at found
      exact Or.inl found
  | none =>
      rw [getOrCreate_of_missing present, find?, Dict.get?_insert] at found
      split at found
      next =>
        cases found
        exact Or.inr (Nat.le_refl _)
      next => exact Or.inl found

theorem find?_of_insert {e : Entry} {other : String} {id : EntryId}
    (found : (s.insert e).1.find? other = some id) :
    s.find? other = some id ∨ s.arena.size ≤ id := by
  rw [insert, find?, Dict.get?_insert] at found
  split at found
  next =>
    cases found
    exact Or.inr (Nat.le_refl _)
  next => exact Or.inl found

end Store

/-- What a step of an actor makes of the cache. -/
inductive Change (a : Actor) (c : Cache) : Cache → Prop
  | still : Change a c c
  | made (key : String) (params : Option Params) :
      Change a c { c with store := (c.store.getOrCreate key params).1 }
  | begun (id : EntryId) (window : Option Int) (now : Instant) :
      Change a c (c.put id ((c.entry id).begin window now).1)
  | settled {key : String} {options : FetchOptions} {found : Option EntryId} {id : EntryId}
      {result : FetchResult Json} (acts : a = .read key options found (.settle id result)) :
      Change a c (c.put id ((c.entry id).settle result).1)
  | told {key : String} {options : FetchOptions} {found : Option EntryId} {id : EntryId}
      {result : FetchResult Json} {owed : List WaiterId}
      (acts : a = .read key options found (.tellSettled id result owed)) :
      Change a c (c.send id owed result).1
  | abandoned (id : EntryId) :
      Change a c ((c.put id (c.entry id).abandon.1).send id ((c.entry id).waiters.getD [])
        (.error (.cancelled (c.entry id).key))).1
  | taken {mail : List ((EntryId × WaiterId) × FetchResult Json)} (old : ∀ p ∈ mail, p ∈ c.mail) :
      Change a c { c with mail }
  | stored {value : Json} {now : Instant} {id : EntryId} (acts : a = .tend (.put value now id)) :
      Change a c (c.put id ((c.entry id).set value now))
  | staled (bases : List String) : Change a c { c with store := (c.store.invalidate bases).1 }
  | cleared : Change a c { c with store := c.store.clear }

namespace Actor

variable {c c' : Cache} {a' : Actor} {effects : List Effect}

/-- A reader that takes a step reads on, from the entry that it found if it found one. -/
theorem step_read {key : String} {options : FetchOptions} {found : Option EntryId} {r : Reading}
    (stepped : (read key options found r).step c = some (c', a', effects)) :
    ∃ r', r.step c = some (c', r', effects) ∧ a' = .read key options (r'.entry?.or found) r' := by
  simp only [step, Option.map_eq_some_iff] at stepped
  obtain ⟨⟨_, r', _⟩, stepped, same⟩ := stepped
  cases same
  exact ⟨r', stepped, rfl⟩

theorem step_write {w : Writing} (stepped : (write w).step c = some (c', a', effects)) :
    ∃ w', w.step c = some (c', w', effects) ∧ a' = .write w' := by
  simp only [step, Option.map_eq_some_iff] at stepped
  obtain ⟨⟨_, w', _⟩, stepped, same⟩ := stepped
  cases same
  exact ⟨w', stepped, rfl⟩

theorem step_tend {u : Upkeep} (stepped : (tend u).step c = some (c', a', effects)) :
    ∃ u', u.step c = some (c', u', effects) ∧ a' = .tend u' := by
  simp only [step, Option.map_eq_some_iff] at stepped
  obtain ⟨⟨_, u', _⟩, stepped, same⟩ := stepped
  cases same
  exact ⟨u', stepped, rfl⟩

end Actor

theorem change_of_reading {c c' : Cache} {key : String} {options : FetchOptions}
    {found : Option EntryId} {r r' : Reading} {effects : List Effect}
    (stepped : r.step c = some (c', r', effects)) :
    Change (.read key options found r) c c' := by
  cases r with
  | locate purpose k o now =>
      simp only [Reading.step] at stepped
      split at stepped <;> cases stepped <;> exact .still
  | create purpose k o now =>
      cases stepped
      exact .made k o.params
  | begin purpose mode now id =>
      cases stepped
      exact .begun id _ now
  | settle id result =>
      cases stepped
      exact .settled rfl
  | tellSettled id result owed =>
      cases stepped
      exact .told rfl
  | abandon id =>
      cases stepped
      exact .abandoned id
  | follow id waiter =>
      simp only [Reading.step, Cache.receive, Option.map_map, Option.map_eq_some_iff] at stepped
      obtain ⟨result, -, same⟩ := stepped
      cases same
      exact .taken fun p member => List.mem_of_mem_filter member
  | tellLoading _ _ | ask _ _ | tellAbandoned _ | peek _ =>
      cases stepped
      exact .still
  | await _ | done _ => cases stepped

theorem change_of_writing {c c' : Cache} {w w' : Writing} {effects : List Effect}
    (stepped : w.step c = some (c', w', effects)) : Change (.write w) c c' := by
  cases w with
  | send w =>
      simp only [Writing.step] at stepped
      split at stepped <;> cases stepped <;> exact .still
  | stale w value =>
      cases stepped
      exact .staled _
  | clear result =>
      cases stepped
      exact .cleared
  | tell _ _ _ | decode _ _ | tellAll _ =>
      cases stepped
      exact .still
  | await _ | done _ => cases stepped

theorem change_of_upkeep {c c' : Cache} {u u' : Upkeep} {effects : List Effect}
    (stepped : u.step c = some (c', u', effects)) : Change (.tend u) c c' := by
  cases u with
  | locate key params value now =>
      simp only [Upkeep.step] at stepped
      split at stepped <;> cases stepped <;> exact .still
  | create key params value now =>
      cases stepped
      exact .made key params
  | put value now id =>
      cases stepped
      exact .stored rfl
  | stale bases =>
      cases stepped
      exact .staled bases
  | clear =>
      cases stepped
      exact .cleared
  | tell _ | tellStale _ | tellAll =>
      cases stepped
      exact .still
  | done _ => cases stepped

theorem change_of_step {c c' : Cache} {a a' : Actor} {effects : List Effect}
    (stepped : a.step c = some (c', a', effects)) : Change a c c' := by
  cases a with
  | read key options found r =>
      obtain ⟨_, stepped, -⟩ := Actor.step_read stepped
      exact change_of_reading stepped
  | write w =>
      obtain ⟨_, stepped, -⟩ := Actor.step_write stepped
      exact change_of_writing stepped
  | tend u =>
      obtain ⟨_, stepped, -⟩ := Actor.step_tend stepped
      exact change_of_upkeep stepped
  | gone => cases stepped

namespace Crowd

variable {s s' : Crowd} {event : Event}

/-- What an event makes of the cache. -/
inductive Alters (s : Crowd) : Event → Cache → Prop
  | kept {event : Event} : Alters s event s.cache
  | acted {t : ActorId} {a : Actor} {cache : Cache} (there : s.actors t = some a)
      (change : Change a s.cache cache) : Alters s (.step t) cache
  | touched (id : EntryId) (touch : Touch) :
      Alters s (.touch id touch) (s.cache.put id (touch.apply (s.cache.entry id)))
  | inserted {e : Entry} (idle : e.waiters = none) :
      Alters s (.insert e) { s.cache with store := (s.cache.store.insert e).1 }

/-- Whoever steps takes the step that it can take. -/
theorem step_of_next {t : ActorId} {a : Actor} (there : s.actors t = some a)
    (happened : s.next (.step t) = some s') :
    ∃ cache a' effects, a.step s.cache = some (cache, a', effects) ∧
      s' = s.after t cache a' effects := by
  cases outcome_of_next happened with
  | step was stepped =>
      rw [there] at was
      cases was
      exact ⟨_, _, _, stepped, rfl⟩

theorem alters_of_next (happened : s.next event = some s') : Alters s event s'.cache := by
  cases outcome_of_next happened with
  | start _ _ | answer _ | drop _ _ => exact .kept
  | step there stepped => exact .acted there (change_of_step stepped)
  | touch id touch => exact .touched id touch
  | insert idle => exact .inserted idle

/-- Entries stay where they are. -/
theorem Alters.size {cache : Cache} (altered : Alters s event cache) :
    s.cache.store.arena.size ≤ cache.store.arena.size := by
  cases altered with
  | kept => exact Nat.le_refl _
  | touched _ _ => exact Nat.le_of_eq (Store.size_arena_put ..).symm
  | inserted _ => simp [Store.insert]
  | acted _ change =>
      cases change with
      | still | told _ | taken _ | cleared => exact Nat.le_refl _
      | begun _ _ _ | settled _ | stored _ | abandoned _ =>
          exact Nat.le_of_eq (Store.size_arena_put ..).symm
      | staled bases => exact Nat.le_of_eq (Store.size_foldl_invalidateKey _ _).symm
      | made key params =>
          cases found : s.cache.store.find? (computeKey key params) with
          | some _ => simp [Store.getOrCreate_of_find found]
          | none => simp [Store.getOrCreate_of_missing found]

/-- What becomes of an entry. -/
inductive Fate (s : Crowd) (event : Event) (id : EntryId) (e' : Entry) : Prop
  | quiet (still : (s.cache.entry id).Quiet e')
  /-- The leader of its fetch settles it. -/
  | settled {t : ActorId} {key : String} {options : FetchOptions} {found : Option EntryId}
      {result : FetchResult Json} (acts : event = .step t)
      (there : s.actors t = some (.read key options found (.settle id result)))
      (became : e' = ((s.cache.entry id).settle result).1)
  | stored {value : Json} {now : Instant} (done : .stored id value ∈ s.deeds event)
      (became : e' = (s.cache.entry id).set value now)
  | inserted (done : .inserted id e' ∈ s.deeds event) (unmade : s.cache.entry id = default)
      (idle : e'.waiters = none)

theorem Alters.fate {cache : Cache} (altered : Alters s event cache) (h : s.Sound) (id : EntryId) :
    Fate s event id (cache.entry id) := by
  cases altered with
  | kept => exact .quiet (.refl _)
  | @acted t a _ there change =>
      cases change with
      | still | told _ | taken _ | cleared => exact .quiet (.refl _)
      | made key params => exact .quiet (Store.quiet_getOrCreate _ key params id)
      | begun at' window now => exact .quiet (Store.quiet_put (.begin _ window now) id)
      | abandoned at' => exact .quiet (Store.quiet_put (.abandon _) id)
      | staled bases => exact .quiet (Store.quiet_invalidate h.built bases id)
      | @settled key options found at' result acts =>
          subst acts
          rw [Cache.entry, Cache.put, Store.entry_put]
          split
          next both =>
            obtain ⟨rfl, -⟩ := both
            exact .settled rfl there rfl
          next => exact .quiet (.refl _)
      | @stored value now at' acts =>
          subst acts
          rw [Cache.entry, Cache.put, Store.entry_put]
          split
          next both =>
            obtain ⟨rfl, inside⟩ := both
            exact .stored (by simp [deeds, there, inside]) rfl
          next => exact .quiet (.refl _)
  | touched at' touch =>
      rcases (s.cache.entry at').quiet_touch touch with still | ⟨value, now, rfl⟩
      · exact .quiet (Store.quiet_put still id)
      · rw [Cache.entry, Cache.put, Store.entry_put]
        split
        next both =>
          obtain ⟨rfl, inside⟩ := both
          exact .stored (by simp [deeds, inside]) rfl
        next => exact .quiet (.refl _)
  | @inserted e idle =>
      rw [Cache.entry, Store.insert, Store.entry_push]
      split
      next new =>
        subst new
        exact .inserted (by simp [deeds]) (Store.entry_of_size_le _ _ (Nat.le_refl _)) idle
      next => exact .quiet (.refl _)

theorem fate_of_next (h : s.Sound) (happened : s.next event = some s') (id : EntryId) :
    Fate s event id (s'.cache.entry id) :=
  (alters_of_next happened).fate h id

/-- An entry counts the callers that joined, and does not count back. -/
theorem Fate.joined {id : EntryId} {e' : Entry} (fate : Fate s event id e') :
    (s.cache.entry id).joined ≤ e'.joined := by
  cases fate with
  | quiet still => exact still.joined
  | settled _ _ became => exact Nat.le_of_eq (by rw [became, Entry.joined_settle])
  | stored _ became => exact Nat.le_of_eq (congrArg Entry.joined became).symm
  | inserted _ unmade _ =>
      rw [unmade]
      exact Nat.zero_le _

/-- The numbers of the callers in the queue were given out before. -/
theorem Fate.queued {id : EntryId} {e' : Entry} (fate : Fate s event id e')
    (before : ∀ w ∈ (s.cache.entry id).waiters.getD [], w < (s.cache.entry id).joined) :
    ∀ w ∈ e'.waiters.getD [], w < e'.joined := by
  cases fate with
  | quiet still => exact still.queued before
  | settled _ _ became =>
      rw [became, Entry.waiters_settle]
      exact fun _ member => absurd member List.not_mem_nil
  | stored _ became =>
      rw [became]
      exact before
  | inserted _ _ idle =>
      rw [idle]
      exact fun _ member => absurd member List.not_mem_nil

/-- Where an outcome comes from that is on its way to a caller. -/
inductive Mailed (s : Crowd) (event : Event) (id : EntryId) (w : WaiterId) (r : FetchResult Json) :
    Prop
  | before (there : ((id, w), r) ∈ s.cache.mail)
  | told {t : ActorId} {key : String} {options : FetchOptions} {found : Option EntryId}
      {owed : List WaiterId} (acts : event = .step t)
      (there : s.actors t = some (.read key options found (.tellSettled id r owed)))
      (owes : w ∈ owed)
  | cancelled {key : String} (result : r = .error (.cancelled key))
      (queued : w ∈ (s.cache.entry id).waiters.getD [])

theorem Alters.mailed {cache : Cache} (altered : Alters s event cache) {id : EntryId}
    {w : WaiterId} {r : FetchResult Json} (there : ((id, w), r) ∈ cache.mail) :
    Mailed s event id w r := by
  cases altered with
  | kept | touched _ _ | inserted _ => exact .before there
  | acted was change =>
      cases change with
      | still | made _ _ | begun _ _ _ | settled _ | stored _ | staled _ | cleared =>
          exact .before there
      | taken old => exact .before (old _ there)
      | told acts =>
          subst acts
          rcases List.mem_append.mp there with old | new
          · exact .before old
          · obtain ⟨waiter, owes, same⟩ := List.mem_map.mp new
            cases same
            exact .told rfl was owes
      | abandoned at' =>
          rcases List.mem_append.mp there with old | new
          · exact .before old
          · obtain ⟨waiter, queued, same⟩ := List.mem_map.mp new
            cases same
            exact .cancelled rfl queued

/-- A key has the entry that it had, or one that is new. -/
theorem Alters.find {cache : Cache} (altered : Alters s event cache) (h : s.Sound) {key : String}
    {id : EntryId} (found : cache.store.find? key = some id) :
    s.cache.store.find? key = some id ∨ s.cache.store.arena.size ≤ id := by
  cases altered with
  | kept | touched _ _ => exact Or.inl found
  | inserted _ => exact Store.find?_of_insert found
  | acted was change =>
      cases change with
      | still | begun _ _ _ | settled _ | told _ | abandoned _ | taken _ | stored _ =>
          exact Or.inl found
      | made _ _ => exact Store.find?_of_getOrCreate found
      | staled bases =>
          simp only [h.built.wellFormed.invalidate_fst] at found
          exact Or.inl found
      | cleared => cases found

end Crowd

end Refetch
