/-
# What an event does to a reader

Where a step of a reader leads to is said here once (`Reading.Goes`), and how a reader came to where
it is after an event (`Turn`). A reader goes on reading its key, keeps the entry that it has found,
and comes to lead a fetch in one way only. In the end this says of a whole passage which entries
those can have found who set out meanwhile (`Since`).
-/

import Refetch.Proofs.Crowd.Fate

namespace Refetch

/-- Where a step of a reader leads to. -/
inductive Reading.Goes (c : Cache) : Reading → Reading → Prop
  | found {purpose : Purpose} {key : String} {options : FetchOptions} {now : Instant}
      {id : EntryId} (current : c.store.find? (computeKey key options.params) = some id) :
      Goes c (.locate purpose key options now) (.begin purpose options.cache now id)
  | missed (purpose : Purpose) (key : String) (options : FetchOptions) (now : Instant) :
      Goes c (.locate purpose key options now) (.create purpose key options now)
  | made {purpose : Purpose} {key : String} {options : FetchOptions} {now : Instant}
      {id : EntryId} (current : c.store.find? (computeKey key options.params) = some id ∨
        c.store.arena.size ≤ id) :
      Goes c (.create purpose key options now) (.begin purpose options.cache now id)
  | leads {purpose : Purpose} {mode : CacheMode} {now : Instant} {id : EntryId}
      (idle : (c.entry id).waiters = none) :
      Goes c (.begin purpose mode now id) (.tellLoading (.server mode) id)
  | follows (purpose : Purpose) (mode : CacheMode) (now : Instant) (id : EntryId) :
      Goes c (.begin purpose mode now id) (.follow id (c.entry id).joined)
  | leaves (purpose : Purpose) (mode : CacheMode) (now : Instant) (id : EntryId) :
      Goes c (.begin purpose mode now id) (.done none)
  | spared {purpose : Purpose} {mode : CacheMode} {now : Instant} {id : EntryId}
      (idle : (c.entry id).waiters = none) (stamped : (c.entry id).revalidatedAt ≠ none) :
      Goes c (.begin purpose mode now id) (.peek id)
  | asks (mode : CacheMode) (id : EntryId) :
      Goes c (.tellLoading (.server mode) id) (.ask mode id)
  | awaits (id : EntryId) : Goes c (.tellLoading .caller id) (.await id)
  | asked (mode : CacheMode) (id : EntryId) : Goes c (.ask mode id) (.await id)
  | settled (id : EntryId) (r : FetchResult Json) :
      Goes c (.settle id r) (.tellSettled id r ((c.entry id).waiters.getD []))
  | told (id : EntryId) (r : FetchResult Json) (owed : List WaiterId) :
      Goes c (.tellSettled id r owed) (.done (some r))
  | abandoned (id : EntryId) : Goes c (.abandon id) (.tellAbandoned id)
  | ended (id : EntryId) : Goes c (.tellAbandoned id) (.done none)
  | received {id : EntryId} {w : WaiterId} {r : FetchResult Json} (there : ((id, w), r) ∈ c.mail) :
      Goes c (.follow id w) (.done (some r))
  | peeked (id : EntryId) : Goes c (.peek id) (.done (some (c.entry id).snapshot.result))

theorem Reading.goes_of_begin {c : Cache} (purpose : Purpose) (mode : CacheMode) (now : Instant)
    (id : EntryId) :
    Goes c (.begin purpose mode now id)
      (afterTicket purpose mode id ((c.entry id).begin (c.window mode) now).2) := by
  cases flying : (c.entry id).waiters with
  | some queue =>
      rw [Entry.begin_of_waiters flying, afterTicket]
      split
      · exact .leaves purpose mode now id
      · exact .follows purpose mode now id
  | none =>
      cases fresh : (c.window mode).any ((c.entry id).freshWithin · now) with
      | true =>
          rw [Entry.begin_of_fresh flying fresh, afterTicket]
          split
          · exact .spared flying (Entry.stamped_of_fresh fresh)
          · exact .leaves purpose mode now id
      | false =>
          rw [Entry.begin_of_stale flying fresh]
          exact .leads flying

theorem Reading.goes_of_step {c c' : Cache} {r r' : Reading} {effects : List Effect}
    (stepped : r.step c = some (c', r', effects)) : r.Goes c r' := by
  cases r with
  | locate purpose key options now =>
      simp only [step] at stepped
      split at stepped
      next id current =>
        cases stepped
        exact .found current
      next =>
        cases stepped
        exact .missed purpose key options now
  | create purpose key options now =>
      cases stepped
      exact .made (Store.find?_of_getOrCreate (Store.find?_getOrCreate _ key options.params))
  | begin purpose mode now id =>
      cases stepped
      exact goes_of_begin purpose mode now id
  | tellLoading supply id =>
      cases stepped
      cases supply with
      | server mode => exact .asks mode id
      | caller => exact .awaits id
  | ask mode id =>
      cases stepped
      exact .asked mode id
  | settle id result =>
      rw [step_settle, Entry.settle_snd] at stepped
      cases stepped
      exact .settled id result
  | tellSettled id result owed =>
      cases stepped
      exact .told id result owed
  | abandon id =>
      cases stepped
      exact .abandoned id
  | tellAbandoned id =>
      cases stepped
      exact .ended id
  | follow id w =>
      simp only [step, Cache.receive, Option.map_map, Option.map_eq_some_iff] at stepped
      obtain ⟨result, taken, same⟩ := stepped
      cases same
      obtain ⟨_, _, split, -⟩ := List.lookup_eq_some_iff.mp taken
      exact .received (by simp [split])
  | peek id =>
      cases stepped
      exact .peeked id
  | await _ | done _ => cases stepped

/-- A reader keeps to the entry that it has found. What it finds is the entry of its key, or one
that it makes. -/
theorem Reading.Goes.entry {c : Cache} {key : String} {options : FetchOptions}
    {found : Option EntryId} {r r' : Reading} (goes : r.Goes c r')
    (fits : r.Fits key options found) :
    r'.entry?.or found = found ∨ ∃ id, r'.entry?.or found = some id ∧
      (c.store.find? (computeKey key options.params) = some id ∨ c.store.arena.size ≤ id) := by
  cases goes with
  | found current =>
      obtain ⟨rfl, rfl⟩ := fits
      exact Or.inr ⟨_, rfl, Or.inl current⟩
  | made current =>
      obtain ⟨rfl, rfl⟩ := fits
      exact Or.inr ⟨_, rfl, current⟩
  | leads _ | follows _ _ _ _ | spared _ _ | asks _ _ | asked _ _ =>
      left
      rw [fits.2]
      rfl
  | awaits _ => cases fits.1
  | settled _ _ | abandoned _ =>
      left
      rw [show found = some _ from fits]
      rfl
  | missed _ _ _ _ | leaves _ _ _ _ | told _ _ _ | ended _ | received _ | peeked _ =>
      exact Or.inl rfl

namespace Crowd

variable {s s' : Crowd} {event : Event}

/-- How a reader came to where it is after an event. -/
inductive Turn (s : Crowd) (event : Event) (t : ActorId) (key : String) (options : FetchOptions)
    (found : Option EntryId) (r' : Reading) : Prop
  | kept (was : s.actors t = some (.read key options found r'))
  | began {errand : Errand} (acts : event = .start t errand) (absent : s.actors t = none)
      (outset : (∃ purpose now, r' = .locate purpose key options now) ∨
        ∃ now id, r' = .begin .tick options.cache now id)
  | stepped {before : Option EntryId} {r : Reading} (acts : event = .step t)
      (was : s.actors t = some (.read key options before r)) (goes : r.Goes s.cache r')
      (finds : found = r'.entry?.or before)
  | answered {id : EntryId} {result : FetchResult Json} (acts : event = .answer t result)
      (was : s.actors t = some (.read key options found (.await id)))
      (became : r' = .settle id result)
  | dropped {r : Reading} (acts : event = .drop t)
      (was : s.actors t = some (.read key options found r))
      (became : r' = .done none ∨ ∃ id, r' = .abandon id ∧ r.leads = some id)

theorem turn_of_next (happened : s.next event = some s') {t : ActorId} {key : String}
    {options : FetchOptions} {found : Option EntryId} {r' : Reading}
    (there : s'.actors t = some (.read key options found r')) :
    Turn s event t key options found r' := by
  have turned : ∀ {u : ActorId} {a : Actor},
      (if t = u then some a else s.actors t) = some (.read key options found r') →
        (t = u ∧ a = .read key options found r') ∨
          s.actors t = some (.read key options found r') := by
    intro u a now
    split at now
    next same => exact Or.inl ⟨same, Option.some.inj now⟩
    next => exact Or.inr now
  cases outcome_of_next happened with
  | @start _ errand _ absent sets_out =>
      rcases turned there with ⟨rfl, rfl⟩ | was
      · refine .began rfl absent ?_
        cases errand with
        | get _ _ _ | query _ _ _ =>
            cases sets_out
            exact Or.inl ⟨_, _, rfl⟩
        | tick of now =>
            simp only [setOut] at sets_out
            split at sets_out
            next =>
              cases sets_out
              exact Or.inr ⟨_, _, rfl⟩
            next => cases sets_out
        | write _ | seed _ _ _ _ | invalidate _ | reset => cases sets_out
      · exact .kept was
  | @step _ a _ _ _ was stepped =>
      rcases turned there with ⟨rfl, rfl⟩ | was
      · cases a with
        | read k o before r =>
            obtain ⟨_, goes, same⟩ := Actor.step_read stepped
            cases same
            exact .stepped rfl was (Reading.goes_of_step goes) rfl
        | write _ =>
            obtain ⟨_, -, same⟩ := Actor.step_write stepped
            cases same
        | tend _ =>
            obtain ⟨_, -, same⟩ := Actor.step_tend stepped
            cases same
        | gone => cases stepped
      · exact .kept was
  | @answer _ a result was =>
      rcases turned there with ⟨rfl, same⟩ | now
      · cases a with
        | read _ _ _ r =>
            cases same
            cases r with
            | await id => exact .answered rfl was rfl
            | _ => exact .kept was
        | write _ | tend _ | gone => cases same
      · exact .kept now
  | @drop _ a _ was dropped =>
      rcases turned there with ⟨rfl, rfl⟩ | now
      · cases a with
        | read _ _ _ r =>
            simp only [Actor.dropped] at dropped
            split at dropped
            next =>
              cases dropped
              refine .dropped rfl was ?_
              cases r with
              | ask _ id | await id => exact Or.inr ⟨id, rfl, rfl⟩
              | _ => exact Or.inl rfl
            next => cases dropped
        | write writing => cases writing <;> cases dropped
        | tend upkeep => cases upkeep <;> cases dropped
        | gone => cases dropped
      · exact .kept now
  | touch _ _ | insert _ => exact .kept there

/-- Who leads a fetch after an event has led it before, or was about to begin it. -/
theorem Turn.leads {t : ActorId} {key : String} {options : FetchOptions}
    {found : Option EntryId} {r' : Reading} (turn : Turn s event t key options found r')
    {id : EntryId} (leading : r'.leads = some id) :
    s.leads t = some id ∨ (s.cache.entry id).waiters = none ∧ ∃ found purpose mode now,
      s.actors t = some (.read key options found (.begin purpose mode now id)) := by
  have led : ∀ {before : Option EntryId} {r : Reading},
      s.actors t = some (.read key options before r) → r.leads = some id → s.leads t = some id := by
    intro before r was leading
    rw [Crowd.leads, was]
    exact leading
  cases turn with
  | kept was => exact Or.inl (led was leading)
  | began _ _ outset => rcases outset with ⟨_, _, rfl⟩ | ⟨_, _, rfl⟩ <;> cases leading
  | stepped _ was goes _ =>
      cases goes with
      | leads idle =>
          cases leading
          exact Or.inr ⟨idle, _, _, _, _, was⟩
      | asks _ _ | awaits _ | asked _ _ => exact Or.inl (led was leading)
      | _ => cases leading
  | answered _ was became =>
      subst became
      exact Or.inl (led was leading)
  | dropped _ was became =>
      rcases became with rfl | ⟨other, rfl, before⟩
      · cases leading
      · exact Or.inl (led was (before.trans leading))

/-- A reader goes on reading the same key with the same options. -/
theorem reads_on (happened : s.next event = some s') {t : ActorId} {key : String}
    {options : FetchOptions} {found : Option EntryId} {r : Reading}
    (there : s.actors t = some (.read key options found r)) :
    ∃ found' r', s'.actors t = some (.read key options found' r') := by
  have turned : ∀ {u : ActorId} {a a' : Actor}, s.actors u = some a →
      (∀ found r, a = .read key options found r →
        ∃ found' r', a' = .read key options found' r') →
      ∃ found' r', (if t = u then some a' else s.actors t) =
        some (.read key options found' r') := by
    intro u a a' was goes_on
    by_cases self : t = u
    · rw [← self, there] at was
      obtain ⟨found', r', same⟩ := goes_on found r (Option.some.inj was).symm
      exact ⟨found', r', by rw [if_pos self, same]⟩
    · exact ⟨found, r, by rw [if_neg self, there]⟩
  cases outcome_of_next happened with
  | start absent _ =>
      refine ⟨found, r, ?_⟩
      rw [actors_become, if_neg ?_, there]
      rintro rfl
      rw [absent] at there
      cases there
  | step was stepped =>
      refine turned was ?_
      rintro found r rfl
      obtain ⟨_, -, same⟩ := Actor.step_read stepped
      exact ⟨_, _, same⟩
  | answer was =>
      refine turned was ?_
      rintro found r rfl
      exact ⟨_, _, rfl⟩
  | drop was dropped =>
      refine turned was ?_
      rintro found r rfl
      simp only [Actor.dropped] at dropped
      split at dropped
      next =>
        cases dropped
        exact ⟨_, _, rfl⟩
      next => cases dropped
  | touch _ _ | insert _ => exact ⟨found, r, there⟩

/-- A request that was sent stays sent. -/
theorem sent_of_next (happened : s.next event = some s') {c : ActorId × Request}
    (sent : c ∈ s.sent) : c ∈ s'.sent := by
  cases outcome_of_next happened with
  | step _ _ => exact List.mem_append_left _ sent
  | start _ _ | answer _ | drop _ _ | touch _ _ | insert _ => exact sent

/-- Who has come stays. -/
theorem present_of_next (happened : s.next event = some s') {t : ActorId}
    (present : s.actors t ≠ none) : s'.actors t ≠ none := by
  have turned : ∀ {u : ActorId} {a : Actor}, (if t = u then some a else s.actors t) ≠ none := by
    intro u a
    split
    · exact Option.some_ne_none _
    · exact present
  cases outcome_of_next happened with
  | start _ _ | step _ _ | answer _ | drop _ _ => exact turned
  | touch _ _ | insert _ => exact present

variable {m : Crowd} {log : List Deed}

theorem Passage.size (passed : Passage m log s) (sound : m.Sound) :
    m.cache.store.arena.size ≤ s.cache.store.arena.size := by
  induction passed with
  | here => exact Nat.le_refl _
  | next _ before happened ih =>
      obtain ⟨-, _, _, advance⟩ := (before.sound sound).next happened
      exact Nat.le_trans ih advance.size

/-- Whatever entry a key has, it had it before, or the entry is new. -/
theorem Passage.find (passed : Passage m log s) (sound : m.Sound) {key : String} {id : EntryId}
    (found : s.cache.store.find? key = some id) :
    m.cache.store.find? key = some id ∨ m.cache.store.arena.size ≤ id := by
  induction passed with
  | here => exact Or.inl found
  | next _ before happened ih =>
      rcases (alters_of_next happened).find (before.sound sound) found with old | new
      · exact ih old
      · exact Or.inr (Nat.le_trans (before.size sound) new)

theorem Passage.present (passed : Passage m log s) {t : ActorId} (present : m.actors t ≠ none) :
    s.actors t ≠ none := by
  induction passed with
  | here => exact present
  | next _ _ happened ih => exact present_of_next happened ih

/-- An actor has set out to read a key since a mark, and what it has found, if anything, is the
entry that the key had at the mark, or a new one. -/
def Since (m s : Crowd) (t : ActorId) (key : String) (options : FetchOptions) : Prop :=
  m.actors t = none ∧ ∃ found reading, s.actors t = some (.read key options found reading) ∧
    ∀ id, found = some id → m.cache.store.find? (computeKey key options.params) = some id ∨
      m.cache.store.arena.size ≤ id

theorem Since.next (passed : Passage m log s) (sound : m.Sound)
    (happened : s.next event = some s') {t : ActorId} {key : String} {options : FetchOptions}
    (h : Since m s t key options) : Since m s' t key options := by
  obtain ⟨absent, found, r, was, finds⟩ := h
  obtain ⟨found', r', there⟩ := reads_on happened was
  refine ⟨absent, found', r', there, ?_⟩
  cases turn_of_next happened there with
  | kept now | answered _ now _ | dropped _ now _ =>
      rw [was] at now
      cases now
      exact finds
  | began _ missing _ =>
      rw [was] at missing
      cases missing
  | stepped _ now goes same =>
      rw [was] at now
      cases now
      intro id here
      rw [same] at here
      rcases goes.entry ((passed.sound sound).fits t _ was).2 with kept | ⟨other, now, current⟩
      · exact finds id (kept.symm.trans here)
      · rw [here] at now
        cases now
        rcases current with current | new
        · exact passed.find sound current
        · exact Or.inr (Nat.le_trans (passed.size sound) new)

/-- Who is remembered to have set out to read reads. -/
theorem Passage.since (passed : Passage m log s) (sound : m.Sound) {t : ActorId} {key : String}
    {options : FetchOptions} {now : Instant} {errand : Errand}
    (reads : errand = .get key options now ∨ errand = .query key options now)
    (began : .began t errand ∈ log) : Since m s t key options := by
  induction passed with
  | here => cases began
  | next event before happened ih =>
      rcases List.mem_append.mp began with earlier | just_now
      · exact (ih earlier).next before sound happened
      · cases remembered_of_mem just_now
        cases outcome_of_next happened with
        | start missing sets_out =>
            have absent : m.actors t = none := by
              by_cases present : m.actors t = none
              · exact present
              · exact absurd missing (before.present present)
            rcases reads with rfl | rfl <;> cases sets_out
            · exact ⟨absent, none, _, if_pos rfl, fun _ nothing => by cases nothing⟩
            · exact ⟨absent, none, _, if_pos rfl, fun _ nothing => by cases nothing⟩

end Crowd

end Refetch
