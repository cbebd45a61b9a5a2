/-
# Every fetch in flight has one leader

Whatever a crowd does, an entry is loading exactly while one actor leads a fetch of it, and a
request is outstanding only for an actor that waits for the answer. `Sound` is this and what it
takes to prove it of every event.
-/

import Refetch.Proofs.Crowd.Course

namespace Refetch

open Store

/-- An entry is loading exactly while somebody leads a fetch of it, and nobody else does. -/
structure Led (s : Store) (leads : ActorId → Option EntryId) : Prop where
  loading_iff : ∀ id, (s.entry id).loading = true ↔ ∃ t, leads t = some id
  unique : ∀ t u id, leads t = some id → leads u = some id → t = u

theorem turned_iff {leads : ActorId → Option EntryId} {led : Option EntryId} {t u : ActorId}
    {id : EntryId} : (if u = t then led else leads u) = some id ↔
      (u = t ∧ led = some id) ∨ (u ≠ t ∧ leads u = some id) := by
  by_cases self : u = t <;> simp [self]

/-- Flights and leads stay in step if they shift together. -/
theorem Led.shift {s s' : Store} {leads : ActorId → Option EntryId} (h : Led s leads)
    (t : ActorId) {led' : Option EntryId} (shift : Shift s s' (leads t) led') :
    Led s' fun u => if u = t then led' else leads u := by
  generalize before : leads t = led at shift
  cases shift with
  | same _ loading =>
      have kept : (fun u => if u = t then led' else leads u) = leads := by
        funext u
        by_cases self : u = t
        · rw [if_pos self, self, before]
        · rw [if_neg self]
      rw [kept]
      exact ⟨fun id => by rw [loading, h.loading_iff], h.unique⟩
  | begins id idle flying others =>
      -- nobody led a fetch of this entry, as it was not loading
      have free : ∀ u, leads u ≠ some id := by
        intro u leading
        have := (h.loading_iff id).mpr ⟨u, leading⟩
        rw [idle] at this
        cases this
      constructor
      · intro other
        simp only [turned_iff]
        by_cases same : other = id
        · subst same
          exact ⟨fun _ => ⟨t, Or.inl ⟨rfl, rfl⟩⟩, fun _ => flying⟩
        · rw [others other same, h.loading_iff]
          constructor
          · rintro ⟨u, leading⟩
            refine ⟨u, Or.inr ⟨?_, leading⟩⟩
            rintro rfl
            rw [before] at leading
            cases leading
          · rintro ⟨u, ⟨-, now⟩ | ⟨-, leading⟩⟩
            · exact absurd (Option.some.inj now).symm same
            · exact ⟨u, leading⟩
      · intro u v other first second
        rcases turned_iff.mp first with ⟨rfl, now⟩ | ⟨-, was⟩
        · rcases turned_iff.mp second with ⟨rfl, -⟩ | ⟨-, was⟩
          · rfl
          · cases now
            exact absurd was (free v)
        · rcases turned_iff.mp second with ⟨rfl, now⟩ | ⟨-, too⟩
          · cases now
            exact absurd was (free u)
          · exact h.unique u v other was too
  | ends id idle others =>
      constructor
      · intro other
        simp only [turned_iff]
        by_cases same : other = id
        · subst same
          rw [idle]
          refine ⟨fun loading => absurd loading Bool.false_ne_true, ?_⟩
          rintro ⟨u, ⟨-, now⟩ | ⟨apart, leading⟩⟩
          · cases now
          · exact absurd (h.unique u t other leading before) apart
        · rw [others other same, h.loading_iff]
          constructor
          · rintro ⟨u, leading⟩
            refine ⟨u, Or.inr ⟨?_, leading⟩⟩
            rintro rfl
            rw [before, Option.some.injEq] at leading
            exact same leading.symm
          · rintro ⟨u, ⟨-, now⟩ | ⟨-, leading⟩⟩
            · cases now
            · exact ⟨u, leading⟩
      · intro u v other first second
        rcases turned_iff.mp first with ⟨-, now⟩ | ⟨-, was⟩
        · cases now
        · rcases turned_iff.mp second with ⟨-, now⟩ | ⟨-, too⟩
          · cases now
          · exact h.unique u v other was too

namespace Actor

variable {s : Store} {a a' : Actor}

/-- What an actor keeps that gets an answer or is dropped. -/
structure Keeps (s : Store) (a a' : Actor) : Prop where
  leads : a'.leads = a.leads
  fits : a.Fits s → a'.Fits s
  sent : ∀ request, a.Sent request → a'.Sent request
  follows : a.follows = false ∨ a'.follows = true

theorem keeps_answered (a : Actor) (result : FetchResult Json) : Keeps s a (a.answered result) := by
  cases a with
  | read key options found reading =>
      cases reading with
      | follow _ _ | done _ => exact ⟨rfl, fun h => h, fun _ h => h, Or.inr rfl⟩
      | _ => exact ⟨rfl, fun h => h, fun _ h => h, Or.inl rfl⟩
  | write _ | tend _ | gone => exact ⟨rfl, fun h => h, fun _ h => h, Or.inl rfl⟩

/-- Whoever is dropped keeps the lead until the fetch is taken back. -/
theorem keeps_dropped (h : a.dropped = some a') : Keeps s a a' := by
  cases a with
  | read key options found reading =>
      simp only [dropped] at h
      split at h
      next suspended =>
        cases h
        have sent : ∀ (reading' : Reading) request, reading'.asked = true →
            (Actor.read key options found reading).Sent request →
            (Actor.read key options found reading').Sent request :=
          fun _ _ asked was => ⟨asked, was.2⟩
        cases reading with
        | locate _ _ _ _ =>
            exact ⟨rfl, fun h => ⟨h.1, trivial⟩, fun _ => sent _ _ rfl, Or.inl rfl⟩
        | ask _ _ => exact ⟨rfl, fun h => ⟨h.1, h.2.2⟩, fun _ => sent _ _ rfl, Or.inl rfl⟩
        | await _ => exact ⟨rfl, fun h => h, fun _ => sent _ _ rfl, Or.inl rfl⟩
        | follow _ _ =>
            exact ⟨rfl, fun h => ⟨h.1, trivial⟩, fun _ => sent _ _ rfl, Or.inr rfl⟩
        | _ => cases suspended
      next => cases h
  | write writing =>
      have left : a' = .gone := by
        cases writing <;> simp [dropped] at h <;> exact h.symm
      subst left
      exact ⟨rfl, fun _ => trivial, fun _ _ => trivial, Or.inl rfl⟩
  | tend upkeep =>
      have left : a' = .gone := by
        cases upkeep <;> simp [dropped] at h <;> exact h.symm
      subst left
      exact ⟨rfl, fun _ => trivial, fun _ sent => sent.elim, Or.inl rfl⟩
  | gone => cases h

end Actor

/-- Touching an entry neither begins nor ends a fetch. -/
theorem Touch.keeps (touch : Touch) (e : Entry) :
    (touch.apply e).key = e.key ∧ (touch.apply e).baseKey = e.baseKey ∧
      (touch.apply e).loading = e.loading := by
  cases touch with
  | wait =>
      cases flying : e.waiters with
      | some queue => simp [apply, Entry.wait_of_waiters flying, Entry.join, Entry.loading, flying]
      | none => simp [apply, Entry.wait_of_no_waiters flying]
  | set _ _ | invalidate | subscribe | unsubscribe _ => exact ⟨rfl, rfl, rfl⟩

namespace Crowd

/-- The entry whose fetch an actor leads. -/
def leads (s : Crowd) (t : ActorId) : Option EntryId := (s.actors t).bind Actor.leads

/-- What holds of a crowd whatever has happened. -/
structure Sound (s : Crowd) : Prop where
  built : s.cache.store.Built
  fits : ∀ t a, s.actors t = some a → a.Fits s.cache.store
  led : Led s.cache.store s.leads
  /-- Who has sent a request waits for the answer as long as it is outstanding. -/
  waits : ∀ c ∈ s.calls, ∃ a, s.actors c.1 = some a ∧ a.waits = true
  /-- Nobody has two requests outstanding. -/
  single : (s.calls.map (·.1)).Nodup
  sent : ∀ c ∈ s.sent, ∃ a, s.actors c.1 = some a ∧ a.Sent c.2
  calls_sent : ∀ c ∈ s.calls, c ∈ s.sent

theorem store_start (config : CacheConfig) (entries : List Entry) :
    (start config entries).cache.store = .ofEntries entries := rfl

theorem actors_start (config : CacheConfig) (entries : List Entry) (t : ActorId) :
    (start config entries).actors t = none := rfl

/-- In the beginning no fetch is in flight. -/
theorem sound_start (config : CacheConfig) {entries : List Entry}
    (idle : ∀ e ∈ entries, e.waiters = none) : (start config entries).Sound := by
  have nobody : ∀ t id, (start config entries).leads t ≠ some id := by
    intro t id leading
    rw [leads, actors_start] at leading
    cases leading
  refine ⟨?_, ?_, ⟨?_, ?_⟩, ?_, List.nodup_nil, ?_, ?_⟩
  · rw [store_start]
    exact .ofEntries entries
  · intro t a there
    rw [actors_start] at there
    cases there
  · intro id
    rw [store_start, loading_ofEntries idle]
    refine ⟨fun loading => absurd loading Bool.false_ne_true, ?_⟩
    rintro ⟨t, leading⟩
    exact absurd leading (nobody t id)
  · exact fun t _ id leading _ => absurd leading (nobody t id)
  · exact fun c member => absurd member List.not_mem_nil
  · exact fun c member => absurd member List.not_mem_nil
  · exact fun c member => absurd member List.not_mem_nil

variable {s s' : Crowd}

theorem actors_become (s : Crowd) (t u : ActorId) (a : Actor) :
    (s.become t a).actors u = if u = t then some a else s.actors u := rfl

theorem Sound.fits_advance (h : s.Sound) {lost : String → Prop} {led led' : Option EntryId}
    (advance : Advance s.cache.store s'.cache.store lost led led') {t : ActorId} {a : Actor}
    (there : s.actors t = some a) : a.Fits s'.cache.store := by
  have fits := h.fits t a there
  cases a with
  | read key options found reading => exact ⟨fits.1.advance advance, fits.2⟩
  | write _ | tend _ | gone => trivial

/-- One actor may become another while the store advances in step with its lead. -/
theorem Sound.become (h : s.Sound) {t : ActorId} {a' : Actor} {lost : String → Prop}
    (advance : Advance s.cache.store s'.cache.store lost (s.leads t) a'.leads)
    (actors : ∀ u, s'.actors u = if u = t then some a' else s.actors u)
    (fits : a'.Fits s'.cache.store)
    (calls : ∀ c ∈ s'.calls, (c ∈ s.calls ∧ c.1 ≠ t) ∨ (c.1 = t ∧ a'.waits = true))
    (single : (s'.calls.map (·.1)).Nodup)
    (sent : ∀ c ∈ s'.sent, c ∈ s.sent ∨ (c.1 = t ∧ a'.Sent c.2))
    (still : ∀ a, s.actors t = some a → ∀ request, a.Sent request → a'.Sent request)
    (calls_sent : ∀ c ∈ s'.calls, c ∈ s'.sent) : s'.Sound := by
  refine ⟨advance.built, ?_, ?_, ?_, single, ?_, calls_sent⟩
  · intro u a there
    rw [actors] at there
    split at there
    next =>
      cases there
      exact fits
    next => exact h.fits_advance advance there
  · have leads : s'.leads = fun u => if u = t then a'.leads else s.leads u := by
      funext u
      rw [Crowd.leads, actors]
      by_cases self : u = t
      · rw [if_pos self, if_pos self]
        rfl
      · rw [if_neg self, if_neg self]
        rfl
    rw [leads]
    exact h.led.shift t advance.shift
  · intro c member
    rw [actors]
    rcases calls c member with ⟨old, other⟩ | ⟨self, waiting⟩
    · rw [if_neg other]
      exact h.waits c old
    · rw [if_pos self]
      exact ⟨a', rfl, waiting⟩
  · intro c member
    rw [actors]
    rcases sent c member with old | ⟨self, now⟩
    · obtain ⟨a, there, was⟩ := h.sent c old
      by_cases self : c.1 = t
      · rw [if_pos self]
        rw [self] at there
        exact ⟨a', rfl, still a there c.2 was⟩
      · rw [if_neg self]
        exact ⟨a, there, was⟩
    · rw [if_pos self]
      exact ⟨a', rfl, now⟩

/-- The store may advance while nobody does anything. -/
theorem Sound.unattended (h : s.Sound) {lost : String → Prop}
    (advance : Advance s.cache.store s'.cache.store lost none none)
    (actors : s'.actors = s.actors) (calls : s'.calls = s.calls) (sent : s'.sent = s.sent) :
    s'.Sound := by
  have leads : s'.leads = s.leads := by
    funext t
    rw [Crowd.leads, actors]
    rfl
  refine ⟨advance.built, ?_, ?_, ?_, ?_, ?_, ?_⟩
  · intro t a there
    rw [actors] at there
    exact h.fits_advance advance there
  · rw [leads]
    cases advance.shift with
    | same _ loading => exact ⟨fun id => by rw [loading, h.led.loading_iff], h.led.unique⟩
  · rw [calls, actors]
    exact h.waits
  · rw [calls]
    exact h.single
  · rw [sent, actors]
    exact h.sent
  · rw [calls, sent]
    exact h.calls_sent

/-- An actor may become another that leads the same, once nobody answers it any more. -/
theorem Sound.hungUp (h : s.Sound) {t : ActorId} {a a' : Actor} (there : s.actors t = some a)
    (keeps : Actor.Keeps s.cache.store a a') : ((s.hangUp t).become t a').Sound := by
  have same : s.leads t = a'.leads := by rw [Crowd.leads, there, keeps.leads]; rfl
  have advance : Advance s.cache.store s.cache.store (fun _ => False) (s.leads t) a'.leads := by
    rw [same]
    exact .refl h.built
  have fewer : ∀ c ∈ (s.hangUp t).calls, c ∈ s.calls ∧ c.1 ≠ t := by simp [hangUp]
  refine h.become advance (fun _ => rfl) (keeps.fits (h.fits t a there)) ?_ ?_
    (fun c member => Or.inl member) ?_ fun c member => h.calls_sent c (fewer c member).1
  · exact fun c member => Or.inl (fewer c member)
  · exact h.single.sublist (List.filter_sublist.map _)
  · intro _ was
    rw [there] at was
    cases was
    exact keeps.sent

/-- The keys that may lose their entries to an event: all, if the store is cleared, or the key of an
entry that is put in the place of another. -/
def unseats (s : Crowd) : Event → String → Bool
  | .step t, _ => (s.actors t).any Actor.clears
  | .insert e, key => key = e.key && (s.cache.store.find? key).isSome
  | _, _ => false

/-- An actor that sets out is where it can be, leads nothing and has sent nothing. -/
theorem Sound.fits_setOut (h : s.Sound) {errand : Errand} {a : Actor}
    (sets_out : s.setOut errand = some a) : a.Fits s.cache.store ∧ a.leads = none := by
  cases errand with
  | get key options now | query key options now =>
      cases sets_out
      refine ⟨⟨?_, rfl, rfl⟩, rfl⟩
      intro _ found
      cases found
  | tick of now =>
      simp only [setOut] at sets_out
      split at sets_out
      next key options id reading there =>
        cases sets_out
        exact ⟨⟨(h.fits of _ there).1, rfl, rfl⟩, rfl⟩
      next => cases sets_out
  | write _ | seed _ _ _ _ | invalidate _ | reset =>
      cases sets_out
      exact ⟨trivial, rfl⟩

/-- What comes of an event, with the conditions under which it can happen. -/
inductive Outcome (s : Crowd) : Event → Crowd → Prop
  | start {t : ActorId} {errand : Errand} {a : Actor} (absent : s.actors t = none)
      (sets_out : s.setOut errand = some a) : Outcome s (.start t errand) (s.become t a)
  | step {t : ActorId} {a a' : Actor} {cache : Cache} {effects : List Effect}
      (there : s.actors t = some a) (stepped : a.step s.cache = some (cache, a', effects)) :
      Outcome s (.step t) (s.after t cache a' effects)
  | answer {t : ActorId} {a : Actor} {result : FetchResult Json} (there : s.actors t = some a) :
      Outcome s (.answer t result) ((s.hangUp t).become t (a.answered result))
  | drop {t : ActorId} {a a' : Actor} (there : s.actors t = some a)
      (dropped : a.dropped = some a') : Outcome s (.drop t) ((s.hangUp t).become t a')
  | touch (id : EntryId) (touch : Touch) :
      Outcome s (.touch id touch)
        { s with cache := s.cache.put id (touch.apply (s.cache.entry id)) }
  | insert {e : Entry} (idle : e.waiters = none) :
      Outcome s (.insert e)
        { s with cache := { s.cache with store := (s.cache.store.insert e).1 } }

theorem outcome_of_next {event : Event} (h : s.next event = some s') : Outcome s event s' := by
  cases event with
  | start t errand =>
      simp only [Crowd.next] at h
      split at h
      next => cases h
      next absent =>
        obtain ⟨a, sets_out, rfl⟩ := Option.map_eq_some_iff.mp h
        exact .start absent sets_out
  | step t =>
      obtain ⟨⟨cache, a', effects⟩, taken, rfl⟩ := Option.map_eq_some_iff.mp h
      obtain ⟨a, there, stepped⟩ := Option.bind_eq_some_iff.mp taken
      exact .step there stepped
  | answer t result =>
      simp only [Crowd.next] at h
      split at h
      next =>
        obtain ⟨a, there, rfl⟩ := Option.map_eq_some_iff.mp h
        exact .answer there
      next => cases h
  | drop t =>
      obtain ⟨a', taken, rfl⟩ := Option.map_eq_some_iff.mp h
      obtain ⟨a, there, dropped⟩ := Option.bind_eq_some_iff.mp taken
      exact .drop there dropped
  | touch id touch =>
      cases h
      exact .touch id touch
  | insert e =>
      simp only [Crowd.next] at h
      split at h
      next => cases h
      next idle =>
        cases h
        exact .insert idle

/-- Who can take a step has no request outstanding. -/
theorem Sound.no_call_of (h : s.Sound) {t : ActorId} {a : Actor} (there : s.actors t = some a)
    (able : a.step s.cache ≠ none) : ∀ c ∈ s.calls, c.1 ≠ t := by
  rintro c member rfl
  obtain ⟨_, same, waits⟩ := h.waits c member
  rw [there] at same
  cases same
  exact able (Actor.step_of_waits waits)

/-- An actor takes a step. -/
theorem Sound.after (h : s.Sound) {t : ActorId} {a a' : Actor} {cache : Cache}
    {effects : List Effect} (there : s.actors t = some a)
    (stepped : a.step s.cache = some (cache, a', effects)) {lost : String → Prop}
    (course : Actor.Course s.cache cache a a' effects)
    (advance : Advance s.cache.store cache.store lost a.leads a'.leads) :
    (s.after t cache a' effects).Sound := by
  have leads : s.leads t = a.leads := by rw [Crowd.leads, there]; rfl
  have free := h.no_call_of there (by simp [stepped])
  refine h.become (leads ▸ advance) (fun _ => rfl) course.fits ?_ ?_ ?_ ?_ ?_
  · intro c member
    rcases List.mem_append.mp member with old | new
    · exact Or.inl ⟨old, free c old⟩
    · obtain ⟨request, asked, rfl⟩ := List.mem_map.mp new
      rcases course.requests with nothing | ⟨_, -, waiting, -⟩
      · rw [nothing] at asked
        cases asked
      · exact Or.inr ⟨rfl, waiting⟩
  · show ((s.calls ++ (requestsOf effects).map (t, ·)).map (·.1)).Nodup
    rcases course.requests with nothing | ⟨request, one, -⟩
    · rw [nothing, List.map_nil, List.append_nil]
      exact h.single
    · rw [one, List.map_append, List.nodup_append]
      refine ⟨h.single, by simp, ?_⟩
      intro u calling v new
      obtain ⟨c, member, rfl⟩ := List.mem_map.mp calling
      obtain rfl : v = t := by simpa using new
      exact free c member
  · intro c member
    rcases List.mem_append.mp member with old | new
    · exact Or.inl old
    · obtain ⟨request, asked, rfl⟩ := List.mem_map.mp new
      rcases course.requests with nothing | ⟨only, one, -, sent⟩
      · rw [nothing] at asked
        cases asked
      · rw [one, List.mem_singleton] at asked
        rw [asked]
        exact Or.inr ⟨rfl, sent⟩
  · intro _ same
    rw [there] at same
    cases same
    exact course.sent
  · intro c member
    rcases List.mem_append.mp member with old | new
    · exact List.mem_append_left _ (h.calls_sent c old)
    · exact List.mem_append_right _ new

/-- An actor sets out. -/
theorem Sound.set_out (h : s.Sound) {t : ActorId} {errand : Errand} {a : Actor}
    (absent : s.actors t = none) (sets_out : s.setOut errand = some a) : (s.become t a).Sound := by
  obtain ⟨fits, leads⟩ := h.fits_setOut sets_out
  have idle : s.leads t = a.leads := by rw [leads, Crowd.leads, absent]; rfl
  have advance : Advance s.cache.store s.cache.store (fun _ => False) (s.leads t) a.leads :=
    idle ▸ .refl h.built
  refine h.become advance (fun _ => rfl) fits ?_ h.single (fun c member => Or.inl member) ?_
    h.calls_sent
  · intro c member
    refine Or.inl ⟨member, ?_⟩
    rintro rfl
    obtain ⟨_, there, -⟩ := h.waits c member
    rw [absent] at there
    cases there
  · intro _ there
    rw [absent] at there
    cases there

/-- Every event keeps a crowd sound, and advances its store without losing a key that it does not
unseat. -/
theorem Sound.next (h : s.Sound) {event : Event} (happened : s.next event = some s') :
    s'.Sound ∧ ∃ led led',
      Advance s.cache.store s'.cache.store (s.unseats event · = true) led led' := by
  have still : ∀ lost, Advance s.cache.store s.cache.store lost none none := fun _ => .refl h.built
  cases outcome_of_next happened with
  | start absent sets_out => exact ⟨h.set_out absent sets_out, none, none, still _⟩
  | @step t a a' cache effects there stepped =>
      have course := Actor.course_of_step stepped h.built (h.fits t a there)
      have advance := course.advance (s.unseats (.step t) · = true) fun clears _ => by
        simp [unseats, there, clears]
      exact ⟨h.after there stepped course advance, _, _, advance⟩
  | @answer _ a result there =>
      exact ⟨h.hungUp there (a.keeps_answered result), none, none, still _⟩
  | drop there dropped =>
      exact ⟨h.hungUp there (Actor.keeps_dropped dropped), none, none, still _⟩
  | touch id touch =>
      obtain ⟨key, baseKey, loading⟩ := touch.keeps (s.cache.entry id)
      have advance : ∀ lost, Advance s.cache.store (s.cache.store.put id _) lost none none :=
        fun _ => .put h.built key baseKey (.put_same loading)
      exact ⟨h.unattended (advance fun _ => False) rfl rfl rfl, _, _, advance _⟩
  | @insert e idle =>
      have advance : Advance s.cache.store (s.cache.store.insert e).1
          (s.unseats (.insert e) · = true) none none := by
        simpa [unseats] using Advance.insert h.built idle
      exact ⟨h.unattended advance rfl rfl rfl, _, _, advance⟩

/-- Every crowd that is reached is sound. -/
theorem Sound.reaches {allowed : Crowd → Event → Prop} (h : s.Sound)
    (reached : Reaches allowed s s') : s'.Sound := by
  induction reached with
  | refl => exact h
  | next event _ _ happened ih => exact (ih.next happened).1

end Crowd

end Refetch
