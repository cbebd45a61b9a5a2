/-
# What a new session sees of the old one

What is cached belongs to a session. A login therefore drops the whole cache, but only once its
answer has been decoded, and a logout drops nothing. So the old session is over for all who read
afterwards exactly if the new one begins with a login whose answer is a profile; after any other
login, and after every logout, what was fresh before is served on.
-/

import Refetch.Api.Sessions
import Refetch.Proofs.Crowd.ResetIsolation

namespace Refetch

theorem OnlyNew.mono {log log' : List Deed} {id : EntryId} {snapshot : Snapshot} (more : log ⊆ log')
    (h : OnlyNew log id snapshot) : OnlyNew log' id snapshot where
  data := fun v held => (h.data v held).mono more
  error := fun x held => (h.error x held).mono more

namespace Crowd

variable {s s' m later : Crowd} {log log' : List Deed} {event : Event} {u : ActorId}
  {w : Write Json} {value : Json}

/-- A passage may be followed by another one. -/
theorem Passage.append (first : Passage m log s) (rest : Passage s log' later) :
    Passage m (log ++ log') later := by
  induction rest with
  | here => simpa using first
  | next event _ happened ih =>
      rw [← List.append_assoc]
      exact ih.next event happened

/-- What an actor has become after an event. -/
inductive Moved (s : Crowd) (event : Event) (u : ActorId) (a : Actor) : Actor → Prop
  | kept : Moved s event u a a
  | stepped {cache : Cache} {a' : Actor} {effects : List Effect} (acts : event = .step u)
      (stepped : a.step s.cache = some (cache, a', effects)) : Moved s event u a a'
  | answered {result : FetchResult Json} (acts : event = .answer u result) :
      Moved s event u a (a.answered result)
  | left {a' : Actor} (acts : event = .drop u) (dropped : a.dropped = some a') :
      Moved s event u a a'

theorem moved_of_next (happened : s.next event = some s') {a : Actor}
    (there : s.actors u = some a) : ∃ a', s'.actors u = some a' ∧ Moved s event u a a' := by
  have moved {t : ActorId} {b b' : Actor} (was : s.actors t = some b)
      (moves : t = u → b = a → Moved s event u a b') :
      ∃ a', (if u = t then some b' else s.actors u) = some a' ∧ Moved s event u a a' := by
    by_cases self : u = t
    · subst self
      rw [there] at was
      exact ⟨b', if_pos rfl, moves rfl (Option.some.inj was).symm⟩
    · exact ⟨a, by rw [if_neg self, there], .kept⟩
  cases outcome_of_next happened with
  | @start t _ _ absent _ =>
      refine ⟨a, ?_, .kept⟩
      rw [actors_become, if_neg ?_, there]
      rintro rfl
      rw [absent] at there
      cases there
  | step was stepped =>
      refine moved was ?_
      rintro rfl rfl
      exact .stepped rfl stepped
  | answer was =>
      refine moved was ?_
      rintro rfl rfl
      exact .answered rfl
  | drop was dropped =>
      refine moved was ?_
      rintro rfl rfl
      exact .left rfl dropped
  | touch _ _ | insert _ => exact ⟨a, there, .kept⟩

/-- Who has gone away stays away. -/
theorem gone_of_next (happened : s.next event = some s') (there : s.actors u = some .gone) :
    s'.actors u = some .gone := by
  obtain ⟨a, after, moved⟩ := moved_of_next happened there
  cases moved with
  | kept | answered _ => exact after
  | stepped _ stepped => cases stepped
  | left _ dropped => cases dropped

/-- A write whose request has succeeded is on its way to drop the cache. -/
inductive Ending (w : Write Json) (value : Json) : Writing → Prop
  | stale : Ending w value (.stale w value)
  | tell (keys : List String) : Ending w value (.tell w value keys)
  | decode : Ending w value (.decode w value)
  | clear (result : FetchResult Json) : Ending w value (.clear result)

/-- The write takes no other way if its answer can be decoded. -/
theorem Ending.step {c c' : Cache} {writing writing' : Writing} {effects : List Effect}
    (h : Ending w value writing) (resets : w.resets = true)
    (decodes : (decodeFrom w.decode w.url value).toBool = true)
    (stepped : writing.step c = some (c', writing', effects)) :
    Ending w value writing' ∨ ∃ result, writing = .clear result := by
  cases h with
  | stale =>
      cases stepped
      exact Or.inl (.tell _)
  | tell keys =>
      cases stepped
      exact Or.inl .decode
  | decode =>
      simp only [Writing.step, resets, decodes, and_self, if_true] at stepped
      cases stepped
      exact Or.inl (.clear _)
  | clear result => exact Or.inr ⟨result, rfl⟩

/-- In a passage somebody has dropped the whole cache. -/
def Cleared (m : Crowd) (u : ActorId) (log : List Deed) (s : Crowd) : Prop :=
  ∃ found left before after result,
    Passage m before found ∧ found.actors u = some (.write (.clear result)) ∧
      found.next (.step u) = some left ∧ Passage left after s ∧ after ⊆ log

theorem Cleared.next (h : Cleared m u log s) (happened : s.next event = some s') :
    Cleared m u (log ++ s.deeds event) s' := by
  obtain ⟨found, left, before, after, result, first, there, cleared, rest, fewer⟩ := h
  refine ⟨found, left, before, _, result, first, there, cleared, rest.next event happened, ?_⟩
  exact List.append_subset.mpr
    ⟨List.subset_append_of_subset_left _ fewer, List.subset_append_right _ _⟩

/-- From its answer on such a write is still on its way, or has gone away, or has dropped the
cache. -/
theorem Passage.ending (passed : Passage m log s)
    (there : m.actors u = some (.write (.stale w value)))
    (resets : w.resets = true) (decodes : (decodeFrom w.decode w.url value).toBool = true) :
    (∃ writing, s.actors u = some (.write writing) ∧ Ending w value writing) ∨
      s.actors u = some .gone ∨ Cleared m u log s := by
  induction passed with
  | here => exact Or.inl ⟨_, there, .stale⟩
  | @next log s s' event before happened ih =>
      rcases ih with ⟨writing, now, ending⟩ | gone | cleared
      · obtain ⟨a, after, moved⟩ := moved_of_next happened now
        cases moved with
        | kept => exact Or.inl ⟨writing, after, ending⟩
        | stepped acts stepped =>
            obtain ⟨writing', moved, rfl⟩ := Actor.step_write stepped
            rcases ending.step resets decodes moved with ending | ⟨result, rfl⟩
            · exact Or.inl ⟨_, after, ending⟩
            · subst acts
              exact Or.inr (Or.inr ⟨s, s', log, [], result, before, now, happened, .here, by simp⟩)
        | answered _ =>
            refine Or.inl ⟨_, after, ?_⟩
            cases ending <;> constructor
        | left _ dropped =>
            have left : a = .gone := by
              cases ending <;> cases dropped
              rfl
            exact Or.inr (Or.inl (left ▸ after))
      · exact Or.inr (Or.inl (gone_of_next happened gone))
      · exact Or.inr (Or.inr (cleared.next happened))

/-- With a write that is answered so, a session is over: in every run, who begins to read once the
write has returned finds an entry that shows nothing but the answers to requests that were sent
since the write was answered, and what was stored since or came with an entry; and returns the same,
or is told that the fetch was cancelled. -/
def EndsSession (w : Write Json) (value : Json) : Prop :=
  ∀ (config : CacheConfig) (entries : List Entry) (s m returned later : Crowd) (u : ActorId)
    (outcome : FetchResult Json) (meanwhile since : List Deed),
    (∀ e ∈ entries, e.waiters = none) → Reaches (fun _ _ => True) (start config entries) s →
    s.actors u = some (.write (.await w)) → s.next (.answer u (.ok value)) = some m →
    Passage m meanwhile returned → returned.actors u = some (.write (.done outcome)) →
    Passage returned since later →
    ∀ t errand key options now found reading,
      (errand = .get key options now ∨ errand = .query key options now) → .began t errand ∈ since →
      later.actors t = some (.read key options found reading) →
      (∀ r, reading = .done (some r) → ∃ id, found = some id ∧
        (New (meanwhile ++ since) id r ∨ ∃ cancelled, r = .error (.cancelled cancelled))) ∧
      ∀ id, found = some id → OnlyNew (meanwhile ++ since) id (later.cache.entry id).snapshot

/-- What a reader returns that began after the cache was dropped, and what it has found. -/
theorem Passage.read_after_clear {result : FetchResult Json} (sound : s.Sound)
    (numbered : s.Numbered)
    (there : s.actors u = some (.write (.clear result))) (cleared : s.next (.step u) = some m)
    (passed : Passage m log later) {t : ActorId} {errand : Errand} {key : String}
    {options : FetchOptions} {now : Instant} {found : Option EntryId} {reading : Reading}
    (reads : errand = .get key options now ∨ errand = .query key options now)
    (began : .began t errand ∈ log)
    (reading_there : later.actors t = some (.read key options found reading)) :
    (∀ r, reading = .done (some r) → ∃ id, found = some id ∧
      (New log id r ∨ ∃ cancelled, r = .error (.cancelled cancelled))) ∧
    ∀ id, found = some id → OnlyNew log id (later.cache.entry id).snapshot := by
  have sound_after := (sound.next cleared).1
  have traced := passed.traced sound_after (numbered.next sound cleared)
  obtain ⟨absent, _, _, same, finds⟩ := passed.since sound_after reads began
  rw [reading_there] at same
  cases same
  have made : ∀ id, found = some id → m.cache.store.arena.size ≤ id := by
    intro id here
    refine (finds id here).resolve_left fun current => ?_
    rw [find?_of_clears there rfl cleared] at current
    cases current
  constructor
  · rintro r rfl
    obtain ⟨id, rfl, fair⟩ := traced.readers t key options _ _ reading_there absent
    have new := made id rfl
    have unmade : m.cache.entry id = default := Store.entry_of_size_le _ _ new
    refine ⟨id, rfl, ?_⟩
    cases (fair (by rw [unmade]; rfl)).1 with
    | came came =>
        exact Or.inl (came.resolve_right fun late =>
          absurd (late.inside sound_after) (Nat.not_lt_of_le new))
    | cancelled other => exact Or.inr ⟨other, rfl⟩
    | kept held _ | error held =>
        rw [unmade] at held
        cases held
  · exact fun id here => traced.onlyNew sound_after (made id here)

/-- A write that drops the cache, and does so because its answer can be decoded, ends a session. -/
theorem endsSession_of_resets (resets : w.resets = true)
    (decodes : (decodeFrom w.decode w.url value).toBool = true) : EndsSession w value := by
  intro config entries s m returned later u outcome meanwhile since idle reached waits answered
    first ended rest t errand key options now found reading reads began there
  have begun := sound_start config idle
  have sound := (begun.reaches reached).next answered |>.1
  have numbered := ((numbered_start config idle).reaches begun reached).next
    (begun.reaches reached) answered
  have stale : m.actors u = some (.write (.stale w value)) := by
    cases outcome_of_next answered with
    | answer was =>
        rw [waits] at was
        cases was
        exact if_pos rfl
  rcases first.ending stale resets decodes with ⟨_, now, ending⟩ | gone | cleared
  · rw [ended] at now
    cases now
    cases ending
  · rw [ended] at gone
    cases gone
  · obtain ⟨s₁, m₁, before, after, result, first, there₁, cleared, second, fewer⟩ := cleared
    have more : after ++ since ⊆ meanwhile ++ since := List.append_subset.mpr
      ⟨List.subset_append_of_subset_left _ fewer, List.subset_append_right _ _⟩
    obtain ⟨returns, shows⟩ := (second.append rest).read_after_clear (first.sound sound)
      (numbered.reaches sound first.reaches) there₁ cleared reads
      (List.mem_append_right _ began) there
    refine ⟨fun r same => ?_, fun id here => (shows id here).mono more⟩
    obtain ⟨id, here, new⟩ := returns r same
    exact ⟨id, here, new.imp_left (.mono more)⟩

/-- A write that does not drop the cache is over once its answer has been looked at. -/
theorem next_of_decode (there : s.actors u = some (.write (.decode w value)))
    (keeps : ¬ (w.resets = true ∧ (decodeFrom w.decode w.url value).toBool = true)) :
    s.next (.step u) =
      some (s.after u s.cache (.write (.done (decodeFrom w.decode w.url value))) []) := by
  simp only [next, there, Option.bind_some, Actor.step, Writing.step, keeps, if_false,
    Option.map_some]

/-- A write that names nothing that became stale, and does not drop the cache, leaves what was fresh
to be served: a reader has got the apps before it, and the one who begins after it returns the same
without asking. -/
theorem not_endsSession {body : Option Body} (sendable : w.body = .ok body)
    (silent : w.options = { skipUrl := true })
    (keeps : ¬ (w.resets = true ∧ (decodeFrom w.decode w.url value).toBool = true)) :
    ¬ EndsSession w value := by
  intro ends
  obtain ⟨method, url, _, _, decode, resets⟩ := w
  obtain rfl := sendable
  obtain rfl := silent
  let w : Write Json := ⟨method, url, .ok body, { skipUrl := true }, decode, resets⟩
  have before := passage_of_run (m := start {} [])
    (.start 0 (.get "/apps" {} ⟨0⟩) :: List.replicate 5 (.step 0) ++
      [.answer 0 (.ok (.str "old")), .step 0, .step 0, .start 1 (.write w), .step 1]) rfl
  obtain ⟨s, m, deciding, reached, waits, answered, first, decides, rest⟩ :
      ∃ s m deciding, Reaches (fun _ _ => True) (start {} []) s ∧
        s.actors 1 = some (.write (.await w)) ∧ s.next (.answer 1 (.ok value)) = some m ∧
        Passage m [] deciding ∧ deciding.actors 1 = some (.write (.decode w value)) ∧
        ∀ outcome, ∃ later,
          Passage (deciding.after 1 deciding.cache (.write (.done outcome)) [])
            [.began 2 (.get "/apps" {} ⟨0⟩)] later ∧
          later.actors 2 = some (.read "/apps" {} (some 0) (.done (some (.ok (.str "old"))))) :=
    ⟨_, _, _, before.reaches, rfl, rfl, passage_of_run [.step 1, .step 1] rfl, rfl,
      fun _ => ⟨_, passage_of_run [.start 2 (.get "/apps" {} ⟨0⟩), .step 2, .step 2, .step 2] rfl,
        rfl⟩⟩
  obtain ⟨later, since, returned⟩ := rest (decodeFrom decode url value)
  have ended := first.next (.step 1) (next_of_decode decides keeps)
  have there : (deciding.after 1 deciding.cache
      (.write (.done (decodeFrom decode url value))) []).actors 1 =
        some (.write (.done (decodeFrom decode url value))) := rfl
  obtain ⟨id, -, new | ⟨_, cancelled⟩⟩ := (ends {} [] s m _ later 1 _ _ _ (by simp) reached waits
    answered ended there since 2 _ _ _ _ _ _ (Or.inl rfl) (List.mem_singleton_self _)
    returned).1 _ rfl
  · rcases new with ⟨_, asked, -⟩ | stored | ⟨inserted, -⟩
    · simp [deeds, decides] at asked
    · simp [deeds, decides] at stored
    · simp [deeds, decides] at inserted
  · cases cancelled

/-- A session is over for all who begin to read after the next one began with a login, if the answer
to this is a profile. It is not after a login whose answer is none, nor after a logout, whatever the
answer. -/
theorem endsSession_iff (email password : String) (shown : Profile → Json) (left : Unit → Json)
    (value : Json) :
    (EndsSession ((Sessions.login email password).map shown) value ↔
      ∃ profile, Profile.codec.read value = .ok profile) ∧
      ¬ EndsSession (Sessions.logout.map left) value := by
  have decoded : (decodeFrom ((Sessions.login email password).map shown).decode
      ((Sessions.login email password).map shown).url value).toBool = true ↔
        ∃ profile, Profile.codec.read value = .ok profile := by
    simp only [decodeFrom, Write.map, mapDecode, Sessions.login]
    cases Profile.codec.read value <;> simp [Except.map, Except.toBool]
  constructor
  · constructor
    · intro ends
      by_contra undecoded
      exact not_endsSession rfl rfl (fun both => undecoded (decoded.mp both.2)) ends
    · exact fun profile => endsSession_of_resets rfl (decoded.mpr profile)
  · exact not_endsSession rfl rfl fun both => Bool.false_ne_true both.1

/-- The server answers a logout with `204`, and a login with a body that is no profile. Neither ends
the session before. -/
theorem old_session_served_on :
    ¬ EndsSession (Sessions.logout.map fun _ => .null) .null ∧
      ¬ EndsSession ((Sessions.login "a@b.c" "secret").map fun _ => .null) .null :=
  ⟨not_endsSession rfl rfl (by decide), not_endsSession rfl rfl (by decide)⟩

end Crowd

end Refetch
