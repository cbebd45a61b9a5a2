/-
# Single flight

However the steps of any number of actors are interleaved, no two read requests for one computed key
are outstanding at the same time. Actors that look for the entry of a key find the same one, also
when they race to make it, because the entry is looked for once more when it is made: the key is
`Seated`. An entry is loading while its fetch has a leader, so whoever asks to begin a fetch
meanwhile joins that one. And only leaders send requests.

This holds as long as the store is not cleared and no other entry is put in the place of the one of
the key; a fetch of an entry that was lost in this way goes on beside that of the new one.
-/

import Mathlib.Logic.ExistsUnique
import Refetch.Proofs.Crowd.Leaders

namespace Refetch

namespace Crowd

variable {s s' : Crowd}

/-- Does an actor read the answer of a computed key. -/
def reads (s : Crowd) (key : String) (t : ActorId) : Bool :=
  match s.actors t with
  | some (.read k options _ _) => computeKey k options.params = key
  | _ => false

/-- The read requests for a computed key that are outstanding. -/
def readCalls (s : Crowd) (key : String) : List (ActorId × Request) :=
  s.calls.filter fun c => s.reads key c.1

/-- Everyone who has found an entry of the key has found the current one. -/
def Seated (s : Crowd) (key : String) : Prop :=
  ∀ t k options id reading, s.actors t = some (.read k options (some id) reading) →
    computeKey k options.params = key → s.cache.store.find? key = some id

theorem seated_start (config : CacheConfig) (entries : List Entry) (key : String) :
    (start config entries).Seated key := by
  intro t k options id reading there
  rw [actors_start] at there
  cases there

/-- An entry that somebody has found was known before, or is the current one of its key. -/
theorem finds_of_next {event : Event} (h : s.Sound) (happened : s.next event = some s')
    {t : ActorId} {k : String} {options : FetchOptions} {id : EntryId} {reading : Reading}
    (there : s'.actors t = some (.read k options (some id) reading)) :
    (∃ u before, s.actors u = some (.read k options (some id) before)) ∨
      s'.cache.store.find? (computeKey k options.params) = some id := by
  have turned : ∀ {u : ActorId} {a : Actor},
      (if t = u then some a else s.actors t) = some (.read k options (some id) reading) →
        a = .read k options (some id) reading ∨
          ∃ u before, s.actors u = some (.read k options (some id) before) := by
    intro u a now
    split at now
    next => exact Or.inl (Option.some.inj now)
    next => exact Or.inr ⟨t, reading, now⟩
  cases outcome_of_next happened with
  | @start _ errand _ absent sets_out =>
      rcases turned there with rfl | known
      · cases errand with
        | tick of now =>
            simp only [setOut] at sets_out
            split at sets_out
            next found =>
              cases sets_out
              exact Or.inl ⟨_, _, found⟩
            next => cases sets_out
        | _ => cases sets_out
      · exact Or.inl known
  | step was stepped =>
      rcases turned there with rfl | known
      · have course := Actor.course_of_step stepped h.built (h.fits _ _ was)
        rcases course.finds k options id reading rfl with ⟨before, rfl⟩ | now
        · exact Or.inl ⟨_, before, was⟩
        · exact Or.inr now
      · exact Or.inl known
  | @answer _ a result was =>
      rcases turned there with same | known
      · cases a with
        | read _ _ _ before =>
            cases same
            exact Or.inl ⟨_, before, was⟩
        | write _ | tend _ | gone => cases same
      · exact Or.inl known
  | @drop _ a _ was dropped =>
      rcases turned there with rfl | known
      · cases a with
        | read _ _ _ before =>
            simp only [Actor.dropped] at dropped
            split at dropped
            next =>
              cases dropped
              exact Or.inl ⟨_, before, was⟩
            next => cases dropped
        | write writing => cases writing <;> cases dropped
        | tend upkeep => cases upkeep <;> cases dropped
        | gone => cases dropped
      · exact Or.inl known
  | touch id touch => exact Or.inl ⟨t, reading, there⟩
  | insert idle => exact Or.inl ⟨t, reading, there⟩

theorem Seated.next {key : String} {event : Event} (h : s.Seated key) (sound : s.Sound)
    (happened : s.next event = some s') (kept : s.unseats event key = false) : s'.Seated key := by
  intro t k options id reading there same
  obtain ⟨-, _, _, advance⟩ := sound.next happened
  rcases finds_of_next sound happened there with ⟨u, before, known⟩ | now
  · exact advance.find key id (by simp [kept]) (h u k options id before known same)
  · rw [← same, now]

/-- The key stays seated in a run in which nothing unseats it. -/
theorem Seated.reaches {key : String} (h : s.Seated key) (sound : s.Sound)
    (reached : Reaches (fun s event => s.unseats event key = false) s s') : s'.Seated key := by
  induction reached with
  | refl => exact h
  | next event before kept happened ih => exact ih.next (sound.reaches before) happened kept

/-- The sender of an outstanding read request leads the fetch of the current entry. -/
theorem Seated.leads_of_mem {key : String} (h : s.Seated key) (sound : s.Sound)
    {c : ActorId × Request} (member : c ∈ s.readCalls key) :
    ∃ id, s.cache.store.find? key = some id ∧ s.leads c.1 = some id := by
  obtain ⟨calling, reading⟩ := List.mem_filter.mp member
  obtain ⟨a, there, waits⟩ := sound.waits c calling
  rw [reads, there] at reading
  cases a with
  | read k options found r =>
      cases r with
      | await id =>
          obtain rfl : found = some id := (sound.fits _ _ there).2
          refine ⟨id, h c.1 k options id _ there (by simpa using reading), ?_⟩
          rw [leads, there]
          rfl
      | _ => cases waits
  | write _ | tend _ | gone => cases reading

theorem length_le_one {calls : List (ActorId × Request)} (single : (calls.map (·.1)).Nodup)
    (same : ∀ c ∈ calls, ∀ d ∈ calls, c.1 = d.1) : calls.length ≤ 1 := by
  match calls with
  | [] => exact Nat.zero_le _
  | [_] => exact Nat.le_refl _
  | c :: d :: rest =>
      have equal : c.1 = d.1 := same c (by simp) d (by simp)
      simp [equal] at single

theorem Seated.readCalls_le_one {key : String} (h : s.Seated key) (sound : s.Sound) :
    (s.readCalls key).length ≤ 1 := by
  refine length_le_one (sound.single.sublist (List.filter_sublist.map _)) ?_
  intro c first d second
  obtain ⟨id, current, leading⟩ := h.leads_of_mem sound first
  obtain ⟨other, too, leadingToo⟩ := h.leads_of_mem sound second
  rw [current] at too
  cases too
  exact sound.led.unique c.1 d.1 id leading leadingToo

/-- The actor has sent nothing and can no longer lead a fetch. -/
structure Spared (s : Crowd) (t : ActorId) : Prop where
  follows : ∃ a, s.actors t = some a ∧ a.follows = true
  unsent : ∀ c ∈ s.sent, c.1 ≠ t

theorem Spared.next {t : ActorId} {event : Event} (h : s.Spared t) (sound : s.Sound)
    (happened : s.next event = some s') : s'.Spared t := by
  obtain ⟨⟨a, there, follows⟩, unsent⟩ := h
  -- what becomes of the actor if another one acts, or if it acts itself
  have turned : ∀ {u : ActorId} {b b' : Actor}, s.actors u = some b →
      (b.follows = false ∨ b'.follows = true) →
      ∃ a', (if t = u then some b' else s.actors t) = some a' ∧ a'.follows = true := by
    intro u b b' was still
    by_cases self : t = u
    · rw [← self, there] at was
      cases was
      exact ⟨b', if_pos self, still.resolve_left (by simp [follows])⟩
    · exact ⟨a, by rw [if_neg self, there], follows⟩
  cases outcome_of_next happened with
  | start absent sets_out =>
      refine ⟨⟨a, ?_, follows⟩, unsent⟩
      rw [actors_become, if_neg ?_, there]
      rintro rfl
      rw [absent] at there
      cases there
  | @step u b b' cache effects was stepped =>
      have course := Actor.course_of_step stepped sound.built (sound.fits u b was)
      refine ⟨turned was (course.follows.imp_right And.left), ?_⟩
      intro c member
      rcases List.mem_append.mp member with old | new
      · exact unsent c old
      · obtain ⟨request, asked, rfl⟩ := List.mem_map.mp new
        rintro rfl
        rw [was] at there
        cases there
        rw [(course.follows.resolve_left (by simp [follows])).2] at asked
        cases asked
  | @answer _ b result was =>
      have keeps : Actor.Keeps s.cache.store b _ := b.keeps_answered result
      exact ⟨turned was keeps.follows, unsent⟩
  | @drop _ b b' was dropped =>
      have keeps : Actor.Keeps s.cache.store b b' := Actor.keeps_dropped dropped
      exact ⟨turned was keeps.follows, unsent⟩
  | touch id touch => exact ⟨⟨a, there, follows⟩, unsent⟩
  | insert idle => exact ⟨⟨a, there, follows⟩, unsent⟩

theorem Spared.reaches {t : ActorId} {allowed : Crowd → Event → Prop} (h : s.Spared t)
    (sound : s.Sound) (reached : Reaches allowed s s') : s'.Spared t := by
  induction reached with
  | refl => exact h
  | next event before _ happened ih => exact ih.next (sound.reaches before) happened

/-- A reader that asks to begin a fetch while a read request for its key is outstanding is spared
its own. -/
theorem Seated.spared_of_begin {key : String} (h : s.Seated key) (sound : s.Sound)
    (outstanding : s.readCalls key ≠ []) {t : ActorId} {k : String} {options : FetchOptions}
    {found : Option EntryId} {purpose : Purpose} {mode : CacheMode} {now : Instant} {id : EntryId}
    (there : s.actors t = some (.read k options found (.begin purpose mode now id)))
    (same : computeKey k options.params = key) (happened : s.next (.step t) = some s') :
    s'.Spared t := by
  obtain ⟨c, member⟩ := List.exists_mem_of_ne_nil _ outstanding
  obtain ⟨current, is_current, leading⟩ := h.leads_of_mem sound member
  have fits := sound.fits t _ there
  obtain rfl : found = some id := fits.2.2
  have mine := h t k options id _ there same
  obtain rfl : current = id := Option.some.inj (is_current.symm.trans mine)
  have loading := (sound.led.loading_iff current).mpr ⟨c.1, leading⟩
  cases outcome_of_next happened with
  | @step _ b b' cache effects was stepped =>
      rw [there] at was
      cases was
      simp only [Actor.step, Option.map_eq_some_iff] at stepped
      obtain ⟨⟨cache', reading', effects'⟩, stepped, same⟩ := stepped
      cases same
      obtain ⟨course, joins⟩ := Reading.course_of_begin stepped sound.built fits.1 fits.2
      have follows := joins loading
      refine ⟨⟨_, if_pos rfl, follows⟩, ?_⟩
      intro c member
      rcases List.mem_append.mp member with old | new
      · rintro rfl
        obtain ⟨_, was, sent⟩ := sound.sent c old
        rw [there] at was
        cases was
        exact absurd sent.1 Bool.false_ne_true
      · obtain ⟨request, asked, -⟩ := List.mem_map.mp new
        rcases course.requests with nothing | ⟨-, _, waiting⟩
        · rw [nothing] at asked
          cases asked
        · rw [waiting] at follows
          cases follows

/-- In every run of reads, poll ticks, writes, seeds, invalidations, answers and cancellations in
which the store is not cleared and no entry is put in the place of the one of a key:

* at most one read request for the key is outstanding;
* whoever reads sends no request but the one for the computed key, in the mode of the read, and this
  is the request that is outstanding;
* a read that asks to begin a fetch while a read request for its key is outstanding never sends one
  afterwards;
* an entry is loading exactly while one actor, and no other, leads a fetch of it that it has neither
  settled nor taken back. -/
theorem single_flight {config : CacheConfig} {entries : List Entry} {key : String} {s : Crowd}
    (idle : ∀ e ∈ entries, e.waiters = none)
    (reached : Reaches (fun s event => s.unseats event key = false) (start config entries) s) :
    (s.readCalls key).length ≤ 1 ∧
      (∀ c ∈ s.calls, c ∈ s.sent) ∧
      (∀ t request k options found reading, (t, request) ∈ s.sent →
        s.actors t = some (.read k options found reading) →
        request = .read (computeKey k options.params) options.cache) ∧
      (∀ t k options found purpose mode now id after later allowed,
        s.actors t = some (.read k options found (.begin purpose mode now id)) →
        computeKey k options.params = key → s.readCalls key ≠ [] →
        s.next (.step t) = some after → Reaches allowed after later →
        ∀ request, (t, request) ∉ later.sent) ∧
      ∀ id, (s.cache.entry id).loading = true ↔ ∃! t, s.leads t = some id := by
  have begun := sound_start config idle
  have sound := begun.reaches reached
  have seated := (seated_start config entries key).reaches begun reached
  refine ⟨seated.readCalls_le_one sound, sound.calls_sent, ?_, ?_, ?_⟩
  · intro t request k options found reading sent there
    obtain ⟨_, same, sent⟩ := sound.sent _ sent
    rw [there] at same
    cases same
    exact sent.2
  · intro t k options found purpose mode now id after later allowed there same outstanding
      stepped reached request sent
    have spared := seated.spared_of_begin sound outstanding there same stepped
    exact (spared.reaches (sound.next stepped).1 reached).unsent _ sent rfl
  · intro id
    rw [Cache.entry, sound.led.loading_iff]
    constructor
    · rintro ⟨t, leading⟩
      exact ⟨t, leading, fun u too => sound.led.unique u t id too leading⟩
    · rintro ⟨t, leading, -⟩
      exact ⟨t, leading⟩

/-- Two readers of `/apps` that both found it missing, and both go to make it: one asks the server,
the other never will. -/
theorem racing_readers_send_one_request :
    ∃ s after, Reaches (fun s event => s.unseats event "/apps" = false) (start {} []) s ∧
      s.calls = [(0, .read "/apps" .default)] ∧ s.next (.step 1) = some after ∧
      (∀ later, Reaches (fun _ _ => True) after later → ∀ request, (1, request) ∉ later.sent) ∧
      ∃! t, s.leads t = some 0 := by
  have begun : Reaches (fun s event => s.unseats event "/apps" = false) (start {} []) _ := .refl
  have both := (begun.next (.start 0 (.get "/apps" {} ⟨0⟩)) rfl rfl).next
    (.start 1 (.get "/apps" {} ⟨0⟩)) rfl rfl
  have missing := (both.next (.step 0) rfl rfl).next (.step 1) rfl rfl
  have made := (missing.next (.step 0) rfl rfl).next (.step 1) rfl rfl
  have asked := ((made.next (.step 0) rfl rfl).next (.step 0) rfl rfl).next (.step 0) rfl rfl
  obtain ⟨-, -, -, spared, loading⟩ := single_flight (by simp) asked
  refine ⟨_, _, asked, rfl, rfl, ?_, (loading 0).mp rfl⟩
  intro later
  exact spared 1 "/apps" {} (some 0) .value .default ⟨0⟩ 0 _ later _ rfl rfl
    (List.cons_ne_nil _ _) rfl

end Crowd

end Refetch
