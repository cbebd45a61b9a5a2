/-
# What a reset keeps apart

When the whole cache is dropped, the entries that it had live on with those who hold on to them:
leaders of fetches in flight, callers behind them, views, poll loops. Who begins to read afterwards
finds none of these entries, since no key has one of them any more, so that it gets and shows what
came since. And a fetch that was in flight keeps to its entry, whether it is settled or taken back.
-/

import Refetch.Proofs.Crowd.Origin

namespace Refetch

/-- Everything that is to be seen in a snapshot is new. -/
structure OnlyNew (log : List Deed) (id : EntryId) (snapshot : Snapshot) : Prop where
  data : ∀ v, snapshot.data = some v → Crowd.New log id (.ok v)
  error : ∀ x, snapshot.error = some x → Crowd.New log id (.error x)

/-- Data that a typed view shows are decoded from what is in the snapshot; an error is that of the
snapshot, or says that these data cannot be decoded. -/
theorem View.of_ofSnapshot {α : Type} (decode : Json → Except DecodeError α) (key : String)
    (s : Snapshot) :
    (∀ x, (View.ofSnapshot decode key s).data = some x →
      ∃ v, s.data = some v ∧ decodeFrom decode key v = .ok x) ∧
    ∀ e, (View.ofSnapshot decode key s).error = some e →
      s.error = some e ∨ ∃ v, s.data = some v ∧ decodeFrom decode key v = .error e := by
  unfold View.ofSnapshot
  cases data : s.data with
  | none => exact ⟨fun _ shown => (by cases shown), fun _ shown => Or.inl shown⟩
  | some v =>
      cases decoded : decodeFrom decode key v with
      | ok x =>
          simp only [Option.map_some, decoded]
          refine ⟨fun _ shown => ?_, fun _ shown => Or.inl shown⟩
          cases shown
          exact ⟨v, rfl, decoded⟩
      | error e =>
          simp only [Option.map_some, decoded]
          refine ⟨fun _ shown => (by cases shown), fun other shown => ?_⟩
          cases error : s.error with
          | none =>
              rw [error] at shown
              cases shown
              exact Or.inr ⟨v, rfl, decoded⟩
          | some _ =>
              rw [error] at shown
              exact Or.inl shown

theorem Cache.snapshot_of_dispatched {c : Cache} {at' id : EntryId} {listener : ListenerId}
    {snapshot : Snapshot} (shown : .show id listener snapshot ∈ c.dispatch at') :
    snapshot = (c.entry id).snapshot := by
  obtain ⟨_, member, same⟩ := List.mem_map.mp shown
  obtain ⟨_, -, rfl⟩ := List.mem_map.mp member
  cases same
  rfl

theorem Reading.snapshot_of_shown {c c' : Cache} {r r' : Reading} {effects : List Effect}
    (stepped : r.step c = some (c', r', effects)) {id : EntryId} {listener : ListenerId}
    {snapshot : Snapshot} (shown : .show id listener snapshot ∈ effects) :
    snapshot = (c.entry id).snapshot := by
  cases r with
  | locate purpose key options now =>
      simp only [step] at stepped
      split at stepped
      next =>
        cases stepped
        split at shown <;> simp at shown
      next =>
        cases stepped
        cases shown
  | create purpose key options now =>
      cases stepped
      split at shown <;> simp at shown
  | tellLoading _ at' | tellAbandoned at' =>
      cases stepped
      exact Cache.snapshot_of_dispatched shown
  | ask mode at' =>
      cases stepped
      simp at shown
  | tellSettled at' result owed =>
      rw [step_tellSettled] at stepped
      cases stepped
      rcases List.mem_append.mp shown with told | answered
      · exact Cache.snapshot_of_dispatched told
      · simp [Cache.send] at answered
  | abandon at' =>
      rw [step_abandon] at stepped
      cases stepped
      simp [Cache.send] at shown
  | follow at' w =>
      simp only [step, Option.map_eq_some_iff] at stepped
      obtain ⟨_, -, same⟩ := stepped
      cases same
      cases shown
  | begin _ _ _ _ | settle _ _ | peek _ =>
      cases stepped
      cases shown
  | await _ | done _ => cases stepped

theorem Writing.shows_nothing {c c' : Cache} {w w' : Writing} {effects : List Effect}
    (stepped : w.step c = some (c', w', effects)) {id : EntryId} {listener : ListenerId}
    {snapshot : Snapshot} : .show id listener snapshot ∉ effects := by
  intro shown
  cases w with
  | send write =>
      simp only [step] at stepped
      split at stepped <;> cases stepped <;> simp at shown
  | tell write value keys =>
      cases stepped
      split at shown <;> simp at shown
  | stale _ _ | decode _ _ | clear _ | tellAll _ =>
      cases stepped
      simp at shown
  | await _ | done _ => cases stepped

theorem Upkeep.snapshot_of_shown {c c' : Cache} {u u' : Upkeep} {effects : List Effect}
    (stepped : u.step c = some (c', u', effects)) {id : EntryId} {listener : ListenerId}
    {snapshot : Snapshot} (shown : .show id listener snapshot ∈ effects) :
    snapshot = (c.entry id).snapshot := by
  cases u with
  | locate key params value now =>
      simp only [step] at stepped
      split at stepped <;> cases stepped <;> cases shown
  | tell at' =>
      cases stepped
      exact Cache.snapshot_of_dispatched shown
  | tellStale keys =>
      cases stepped
      split at shown <;> simp at shown
  | create _ _ _ _ | put _ _ _ | stale _ | clear | tellAll =>
      cases stepped
      simp at shown
  | done _ => cases stepped

/-- What the listeners of an entry are shown in a step is what can be seen of the entry. -/
theorem Actor.snapshot_of_shown {c c' : Cache} {a a' : Actor} {effects : List Effect}
    (stepped : a.step c = some (c', a', effects)) {id : EntryId} {listener : ListenerId}
    {snapshot : Snapshot} (shown : .show id listener snapshot ∈ effects) :
    snapshot = (c.entry id).snapshot := by
  cases a with
  | read key options found r =>
      obtain ⟨_, stepped, -⟩ := step_read stepped
      exact Reading.snapshot_of_shown stepped shown
  | write w =>
      obtain ⟨_, stepped, -⟩ := step_write stepped
      exact absurd shown (Writing.shows_nothing stepped)
  | tend u =>
      obtain ⟨_, stepped, -⟩ := step_tend stepped
      exact Upkeep.snapshot_of_shown stepped shown
  | gone => cases stepped

/-- Everything that an entry shows to anybody is new. -/
structure ShowsOnlyNew (log : List Deed) (id : EntryId) (c : Cache) : Prop where
  seen : OnlyNew log id (c.entry id).snapshot
  /-- In a typed view, data are decoded from new data, and an error is new, or says that new data
  cannot be decoded. -/
  viewed : ∀ (α : Type) (decode : Json → Except DecodeError α) (key : String),
    (∀ x, (View.ofSnapshot decode key (c.entry id).snapshot).data = some x →
      ∃ v, Crowd.New log id (.ok v) ∧ decodeFrom decode key v = .ok x) ∧
    ∀ e, (View.ofSnapshot decode key (c.entry id).snapshot).error = some e →
      Crowd.New log id (.error e) ∨
        ∃ v, Crowd.New log id (.ok v) ∧ decodeFrom decode key v = .error e
  /-- Listeners are shown only new snapshots, whoever takes the next step. -/
  told : ∀ (a a' : Actor) (c' : Cache) (effects : List Effect) (listener : ListenerId)
    (snapshot : Snapshot), a.step c = some (c', a', effects) →
      .show id listener snapshot ∈ effects → OnlyNew log id snapshot

theorem OnlyNew.shows {log : List Deed} {id : EntryId} {c : Cache}
    (h : OnlyNew log id (c.entry id).snapshot) : ShowsOnlyNew log id c where
  seen := h
  viewed := by
    intro α decode key
    obtain ⟨data, error⟩ := View.of_ofSnapshot decode key (c.entry id).snapshot
    constructor
    · intro x shown
      obtain ⟨v, held, decoded⟩ := data x shown
      exact ⟨v, h.data v held, decoded⟩
    · intro e shown
      rcases error e shown with held | ⟨v, held, undecoded⟩
      · exact Or.inl (h.error e held)
      · exact Or.inr ⟨v, h.data v held, undecoded⟩
  told := by
    intro a a' c' effects listener snapshot stepped shown
    rw [Actor.snapshot_of_shown stepped shown]
    exact h

/-- Of the cache, nothing is changed but an entry, and no outcome is sent or taken but to callers of
that entry. -/
structure Touches (id : EntryId) (c c' : Cache) : Prop where
  others : ∀ other, other ≠ id → c'.entry other = c.entry other
  size : c'.store.arena.size = c.store.arena.size
  current : c'.store.current = c.store.current
  byBase : c'.store.byBase = c.store.byBase
  mail : ∀ other w r, other ≠ id → (((other, w), r) ∈ c'.mail ↔ ((other, w), r) ∈ c.mail)

theorem Touches.refl (id : EntryId) (c : Cache) : Touches id c c where
  others := fun _ _ => rfl
  size := rfl
  current := rfl
  byBase := rfl
  mail := fun _ _ _ _ => Iff.rfl

theorem Touches.put (id : EntryId) (c : Cache) (e : Entry) : Touches id c (c.put id e) where
  others := fun _ apart => Store.entry_put_of_ne c.store e apart
  size := Store.size_arena_put _ _ _
  current := rfl
  byBase := rfl
  mail := fun _ _ _ _ => Iff.rfl

theorem Touches.send {id : EntryId} {c c' : Cache} (h : Touches id c c') (owed : List WaiterId)
    (result : FetchResult Json) : Touches id c (c'.send id owed result).1 where
  others := h.others
  size := h.size
  current := h.current
  byBase := h.byBase
  mail := by
    intro other w r apart
    rw [← h.mail other w r apart, Cache.send, List.mem_append]
    refine ⟨fun there => there.resolve_right fun new => ?_, Or.inl⟩
    obtain ⟨_, -, same⟩ := List.mem_map.mp new
    cases same
    exact apart rfl

namespace Reading

/-- A read has come to lead a fetch of an entry, and has not forgotten it or is over. -/
def Bound (id : EntryId) : Reading → Prop
  | .tellLoading _ at' | .ask _ at' | .await at' | .settle at' _ | .tellSettled at' _ _
  | .abandon at' | .tellAbandoned at' => at' = id
  | .done _ => True
  | .locate .. | .create .. | .begin .. | .follow .. | .peek _ => False

theorem bound_of_leads {id : EntryId} {r : Reading} (leading : r.leads = some id) : r.Bound id := by
  cases r with
  | tellLoading _ _ | ask _ _ | await _ | settle _ _ | abandon _ => exact Option.some.inj leading
  | _ => cases leading

theorem Bound.eq_of_leads {id other : EntryId} {r : Reading} (h : r.Bound id)
    (leading : r.leads = some other) : other = id := by
  cases r with
  | tellLoading _ _ | ask _ _ | await _ | settle _ _ | abandon _ =>
      cases leading
      exact h
  | _ => cases leading

theorem Goes.bound {c : Cache} {id : EntryId} {r r' : Reading} (goes : r.Goes c r')
    (h : r.Bound id) : r'.Bound id := by
  cases goes with
  | asks _ _ | awaits _ | asked _ _ | settled _ _ | abandoned _ => exact h
  | told _ _ _ | ended _ => trivial
  | _ => exact h.elim

/-- A read that is bound to an entry changes nothing else. -/
theorem Bound.touches {c c' : Cache} {id : EntryId} {r r' : Reading} {effects : List Effect}
    (h : r.Bound id) (stepped : r.step c = some (c', r', effects)) : Touches id c c' := by
  cases r with
  | settle at' result =>
      cases h
      cases stepped
      exact .put _ c _
  | tellSettled at' result owed =>
      cases h
      cases stepped
      exact (Touches.refl _ c).send owed result
  | abandon at' =>
      cases h
      cases stepped
      exact (Touches.put _ c _).send _ _
  | tellLoading _ _ | ask _ _ | tellAbandoned _ =>
      cases stepped
      exact .refl id c
  | await _ | done _ => cases stepped
  | locate _ _ _ _ | create _ _ _ _ | begin _ _ _ _ | follow _ _ | peek _ => exact h.elim

end Reading

namespace Crowd

variable {s m later after : Crowd} {log : List Deed}

/-- Who led a fetch at a mark stays bound to its entry. -/
theorem Passage.bound (passed : Passage m log later) {t : ActorId} {id : EntryId}
    (led : m.leads t = some id) :
    ∃ key options found reading,
      later.actors t = some (.read key options found reading) ∧ reading.Bound id := by
  induction passed with
  | here =>
      rw [leads, Option.bind_eq_some_iff] at led
      obtain ⟨a, there, leading⟩ := led
      cases a with
      | read key options found reading =>
          exact ⟨key, options, found, reading, there, Reading.bound_of_leads leading⟩
      | write _ | tend _ | gone => cases leading
  | next event before happened ih =>
      obtain ⟨key, options, found, reading, was, bound⟩ := ih
      obtain ⟨found', reading', there⟩ := reads_on happened was
      refine ⟨key, options, found', reading', there, ?_⟩
      cases turn_of_next happened there with
      | kept now =>
          rw [was] at now
          cases now
          exact bound
      | began _ absent _ =>
          rw [was] at absent
          cases absent
      | stepped _ now goes _ =>
          rw [was] at now
          cases now
          exact goes.bound bound
      | answered _ now became =>
          rw [was] at now
          cases now
          rw [became]
          exact bound
      | dropped _ now became =>
          rw [was] at now
          cases now
          rcases became with rfl | ⟨other, rfl, leading⟩
          · trivial
          · exact bound.eq_of_leads leading

/-- Whatever a leader does, or is done to it, touches nothing but its entry. -/
theorem touches_of_next {t : ActorId} {key : String} {options : FetchOptions}
    {found : Option EntryId} {reading : Reading} {id : EntryId}
    (there : s.actors t = some (.read key options found reading)) (bound : reading.Bound id)
    {event : Event} (acts : event = .step t ∨ event = .drop t ∨ ∃ r, event = .answer t r)
    (happened : s.next event = some after) : Touches id s.cache after.cache := by
  rcases acts with rfl | rfl | ⟨r, rfl⟩
  · obtain ⟨_, _, _, stepped, rfl⟩ := step_of_next there happened
    obtain ⟨_, stepped, -⟩ := Actor.step_read stepped
    exact bound.touches stepped
  · cases outcome_of_next happened with
    | drop _ _ => exact .refl id s.cache
  · cases outcome_of_next happened with
    | answer _ => exact .refl id s.cache

/-- After the step that drops the whole cache, no key has an entry. -/
theorem find?_of_clears {u : ActorId} {a : Actor} (there : s.actors u = some a)
    (clears : a.clears = true) (happened : s.next (.step u) = some m) (key : String) :
    m.cache.store.find? key = none := by
  obtain ⟨_, _, _, stepped, rfl⟩ := step_of_next there happened
  cases a with
  | write w =>
      cases w with
      | clear _ =>
          cases stepped
          rfl
      | _ => cases clears
  | tend u =>
      cases u with
      | clear =>
          cases stepped
          rfl
      | _ => cases clears
  | read _ _ _ _ | gone => cases clears

/-- What an entry shows that was made since is new. -/
theorem Traced.onlyNew (traced : Traced m log later) (sound : m.Sound) {id : EntryId}
    (new : m.cache.store.arena.size ≤ id) : OnlyNew log id (later.cache.entry id).snapshot := by
  have made : m.cache.entry id = default := Store.entry_of_size_le _ _ new
  have came : ∀ {r}, Came m log id r → New log id r :=
    fun came => came.resolve_right fun late => absurd (late.inside sound) (Nat.not_lt_of_le new)
  constructor
  · intro v held
    rcases traced.data id v held with now | old
    · exact came now
    · rw [made] at old
      cases old
  · intro x held
    rcases traced.error id x held with now | old
    · exact came now
    · rw [made] at old
      cases old

/-- In every run of reads, fetches in flight, queries, seeds and writes around a step that drops the
whole cache:

* a get or a query that begins afterwards and returns has found an entry, and returns the answer to
  a request that was sent since, or what was stored since or added with an entry, or is told that
  the fetch was cancelled;
* what the entry that it found shows is of the same kind at any time: to whoever looks at it, in a
  typed view, and to its listeners; and every request for the entry was sent since, and asks for the
  key of the read;
* a fetch that was in flight keeps to its entry, which is no longer that of any key: whenever its
  leader takes a step, gets its answer or is dropped, all other entries, the store and its index are
  left as they are. -/
theorem reset_isolates {config : CacheConfig} {entries : List Entry}
    (idle : ∀ e ∈ entries, e.waiters = none)
    (reached : Reaches (fun _ _ => True) (start config entries) s) {u : ActorId} {a : Actor}
    (there : s.actors u = some a) (clears : a.clears = true)
    (happened : s.next (.step u) = some m) (passed : Passage m log later) :
    (∀ t key options now errand found reading,
      (errand = .get key options now ∨ errand = .query key options now) →
      .began t errand ∈ log → later.actors t = some (.read key options found reading) →
      (∀ r, reading = .done (some r) → ∃ id, found = some id ∧
        (New log id r ∨ ∃ cancelled, r = .error (.cancelled cancelled))) ∧
      ∀ id, found = some id → ShowsOnlyNew log id later.cache ∧
        ∀ v request, .asked v id request ∈ log → SentSince m later v request ∧
          ∃ mode, request = .read (computeKey key options.params) mode) ∧
    ∀ t id, m.leads t = some id → (∀ key, later.cache.store.find? key ≠ some id) ∧
      ∀ event after, (event = .step t ∨ event = .drop t ∨ ∃ r, event = .answer t r) →
        later.next event = some after → Touches id later.cache after.cache := by
  have begun := sound_start config idle
  have before := begun.reaches reached
  have sound := (before.next happened).1
  have numbered := ((numbered_start config idle).reaches begun reached).next before happened
  have traced := passed.traced sound numbered
  have empty := find?_of_clears there clears happened
  have made : ∀ {key id}, m.cache.store.find? key = some id ∨ m.cache.store.arena.size ≤ id →
      m.cache.store.arena.size ≤ id := by
    intro key id known
    refine known.resolve_left fun current => ?_
    rw [empty key] at current
    cases current
  constructor
  · intro t key options now errand found reading reads began reading_there
    obtain ⟨absent, _, _, same, finds⟩ := passed.since sound reads began
    rw [reading_there] at same
    cases same
    constructor
    · rintro r rfl
      obtain ⟨id, rfl, fair⟩ := traced.readers t key options _ _ reading_there absent
      have new := made (finds id rfl)
      have default_there : m.cache.entry id = default := Store.entry_of_size_le _ _ new
      refine ⟨id, rfl, ?_⟩
      cases (fair (by rw [default_there]; rfl)).1 with
      | came came =>
          exact Or.inl (came.resolve_right fun late =>
            absurd (late.inside sound) (Nat.not_lt_of_le new))
      | cancelled other => exact Or.inr ⟨other, rfl⟩
      | kept held _ | error held =>
          rw [default_there] at held
          cases held
    · intro id here
      refine ⟨(traced.onlyNew sound (made (finds id here))).shows, ?_⟩
      intro v request asked
      obtain ⟨sent, -, mode, read⟩ := traced.asked v id request asked
      have located := ((passed.sound sound).fits t _ reading_there).1 id here
      exact ⟨sent, mode, by rw [read, Cache.entry, located.2]⟩
  · intro t id leading
    obtain ⟨key, options, found, reading, bound_there, bound⟩ := passed.bound leading
    constructor
    · intro other current
      have new := made (passed.find sound current)
      have loading := (sound.led.loading_iff id).mpr ⟨t, leading⟩
      rw [Store.entry_of_size_le _ _ new] at loading
      cases loading
    · intro event after acts happened
      exact touches_of_next bound_there bound acts happened

/-- A reader waits for the apps when the cache is reset. The next reader makes an entry of its own
and returns what it is answered, and when the first one is answered after all and settles, the entry
of the next one is as it was. -/
theorem old_fetch_settles_apart_from_new :
    let log : List Deed := [.began 2 (.get "/apps" {} ⟨0⟩), .asked 2 1 (.read "/apps" .default),
      .answered 2 1 (.ok (.str "new")), .answered 0 0 (.ok (.str "old"))]
    ∃ s m later after, Reaches (fun _ _ => True) (start {} []) s ∧
      s.actors 1 = some (.tend .clear) ∧ s.next (.step 1) = some m ∧ Passage m log later ∧
      later.actors 2 = some (.read "/apps" {} (some 1) (.done (some (.ok (.str "new"))))) ∧
      m.leads 0 = some 0 ∧ later.next (.step 0) = some after ∧
      New log 1 (.ok (.str "new")) ∧ after.cache.entry 1 = later.cache.entry 1 := by
  intro log
  have before := passage_of_run (m := start {} [])
    (.start 0 (.get "/apps" {} ⟨0⟩) :: List.replicate 5 (.step 0) ++ [.start 1 .reset]) rfl
  obtain ⟨s, m, later, after, reached, there, happened, passed, returned, leading, settles⟩ :
      ∃ s m later after, Reaches (fun _ _ => True) (start {} []) s ∧
        s.actors 1 = some (.tend .clear) ∧ s.next (.step 1) = some m ∧ Passage m log later ∧
        later.actors 2 = some (.read "/apps" {} (some 1) (.done (some (.ok (.str "new"))))) ∧
        m.leads 0 = some 0 ∧ later.next (.step 0) = some after :=
    ⟨_, _, _, _, before.reaches, rfl, rfl,
      passage_of_run (.start 2 (.get "/apps" {} ⟨0⟩) :: List.replicate 5 (.step 2) ++
        [.answer 2 (.ok (.str "new")), .step 2, .step 2, .answer 0 (.ok (.str "old"))]) rfl,
      rfl, rfl, rfl⟩
  refine ⟨s, m, later, after, reached, there, happened, passed, returned, leading, settles, ?_⟩
  obtain ⟨reads, leads⟩ := reset_isolates (by simp) reached there rfl happened passed
  have began : .began 2 (.get "/apps" {} ⟨0⟩) ∈ log := by simp [log]
  obtain ⟨id, here, new | ⟨_, cancelled⟩⟩ :=
    (reads 2 _ _ ⟨0⟩ _ _ _ (Or.inl rfl) began returned).1 _ rfl
  · cases here
    exact ⟨new, ((leads 0 0 leading).2 _ _ (Or.inl rfl) settles).others 1 (by simp)⟩
  · cases cancelled

end Crowd

end Refetch
