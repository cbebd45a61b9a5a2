/-
# The course of an actor

A reader that has found the entry of its key keeps to that entry and to the options it was given:
that it `Fits`. From this follows what each of its steps does to the store, what becomes of the
lead, and which request goes out.
-/

import Refetch.Crowd
import Refetch.Proofs.Store.Advance

namespace Refetch

open Store

namespace Reading

/-- A read is about a key with the given options, and about no other entry than the one found. -/
def Fits (key : String) (options : FetchOptions) (found : Option EntryId) : Reading → Prop
  | .locate _ k o _ | .create _ k o _ => k = key ∧ o = options
  | .begin _ mode _ id | .ask mode id => mode = options.cache ∧ found = some id
  | .tellLoading supply id => supply = .server options.cache ∧ found = some id
  | .await id | .settle id _ | .tellSettled id _ _ | .abandon id | .tellAbandoned id
  | .follow id _ | .peek id => found = some id
  | .done _ => True

/-- May a read have sent its request. -/
def asked : Reading → Bool
  | .await _ | .settle .. | .tellSettled .. | .abandon _ | .tellAbandoned _ | .done _ => true
  | _ => false

/-- Is a read past the point at which it could have led a fetch. -/
def follows : Reading → Bool
  | .follow .. | .done _ => true
  | _ => false

end Reading

/-- What was found is the entry of the computed key. -/
def Located (s : Store) (key : String) (options : FetchOptions) (found : Option EntryId) : Prop :=
  ∀ id, found = some id →
    id < s.arena.size ∧ (s.entry id).key = computeKey key options.params

/-- A reader is where it can be. -/
def Actor.Fits (s : Store) : Actor → Prop
  | .read key options found reading => Located s key options found ∧ reading.Fits key options found
  | _ => True

theorem Located.advance {s s' : Store} {key : String} {options : FetchOptions}
    {found : Option EntryId} {lost : String → Prop} {led led' : Option EntryId}
    (h : Located s key options found) (advance : Advance s s' lost led led') :
    Located s' key options found := by
  intro id here
  obtain ⟨inside, hkey⟩ := h id here
  exact ⟨Nat.lt_of_lt_of_le inside advance.size, (advance.key id inside).trans hkey⟩

theorem Located.of_find {s : Store} {key : String} {options : FetchOptions} {id : EntryId}
    (h : s.Built) (found : s.find? (computeKey key options.params) = some id) :
    Located s key options (some id) := by
  intro other same
  cases same
  exact h.wellFormed.found _ id found

namespace Entry

variable (e : Entry) (window : Option Int) (now : Instant)

/-- Who asks to begin a fetch joins the one in flight, or needs none, or leads a new one. -/
theorem begin_cases :
    (e.loading = true ∧ (e.begin window now).1.loading = true ∧
        ∃ waiter, (e.begin window now).2 = .follower waiter) ∨
      (e.loading = false ∧ (e.begin window now).1.loading = false ∧
        (e.begin window now).2 = .fresh) ∨
      (e.loading = false ∧ (e.begin window now).1.loading = true ∧
        (e.begin window now).2 = .leader) := by
  cases flying : e.waiters with
  | some queue =>
      rw [begin_of_waiters flying]
      exact Or.inl ⟨by simp [loading, flying], rfl, _, rfl⟩
  | none =>
      have idle : e.loading = false := by simp [loading, flying]
      cases fresh : window.any (e.freshWithin · now) with
      | true =>
          rw [begin_of_fresh flying fresh]
          exact Or.inr (Or.inl ⟨idle, idle, rfl⟩)
      | false =>
          rw [begin_of_stale flying fresh]
          exact Or.inr (Or.inr ⟨idle, rfl, rfl⟩)

theorem begin_keys :
    (e.begin window now).1.key = e.key ∧ (e.begin window now).1.baseKey = e.baseKey := by
  unfold begin
  cases e.waiters with
  | some queue => exact ⟨rfl, rfl⟩
  | none => by_cases fresh : window.any (e.freshWithin · now) = true <;> simp [fresh]

end Entry

@[simp]
theorem requestsOf_nil : requestsOf [] = [] := rfl

@[simp]
theorem requestsOf_append (first second : List Effect) :
    requestsOf (first ++ second) = requestsOf first ++ requestsOf second := by
  simp [requestsOf]

@[simp]
theorem requestsOf_dispatch (c : Cache) (id : EntryId) : requestsOf (c.dispatch id) = [] := by
  simp [requestsOf, Cache.dispatch]

@[simp]
theorem requestsOf_send (c : Cache) (id : EntryId) (owed : List WaiterId)
    (result : FetchResult Json) : requestsOf (c.send id owed result).2 = [] := by
  simp [requestsOf, Cache.send]

namespace Reading

/-- What a step of a read comes to. -/
structure Course (c c' : Cache) (key : String) (options : FetchOptions) (found : Option EntryId)
    (r r' : Reading) (effects : List Effect) : Prop where
  advance : ∀ lost, Advance c.store c'.store lost r.leads r'.leads
  located : Located c'.store key options (r'.entry?.or found)
  /-- An entry that was not known before is the current one of the key. -/
  finds : ∀ id, r'.entry?.or found = some id →
    found = some id ∨ c'.store.find? (computeKey key options.params) = some id
  fits : r'.Fits key options (r'.entry?.or found)
  /-- The only request that goes out is the one for the computed key in the mode of the read. -/
  requests : requestsOf effects = [] ∨
    requestsOf effects = [.read (computeKey key options.params) options.cache] ∧
      ∃ id, r' = .await id
  asked : r.asked = false ∨ r'.asked = true
  follows : r.follows = false ∨ r'.follows = true ∧ requestsOf effects = []

variable {c c' : Cache} {key : String} {options : FetchOptions} {found : Option EntryId}
  {r r' : Reading} {effects : List Effect}

/-- A step of a read that finds no entry, or had found it. -/
theorem Course.kept (advance : ∀ lost, Advance c.store c'.store lost r.leads r'.leads)
    (located : Located c.store key options found)
    (entry : r'.entry? = none ∨ r'.entry? = found) (fits : r'.Fits key options found)
    (requests : requestsOf effects = []) (asked : r.asked = false ∨ r'.asked = true)
    (follows : r.follows = false ∨ r'.follows = true) :
    Course c c' key options found r r' effects := by
  have same : r'.entry?.or found = found := by
    rcases entry with nowhere | here
    · rw [nowhere]
      rfl
    · rw [here]
      exact Option.or_self
  refine ⟨advance, ?_, ?_, ?_, Or.inl requests, asked,
    follows.imp_right fun still => ⟨still, requests⟩⟩
  · rw [same]
    exact located.advance (advance fun _ => False)
  · rw [same]
    exact fun _ there => Or.inl there
  · rw [same]
    exact fits

theorem step_begin (c : Cache) (purpose : Purpose) (mode : CacheMode) (now : Instant)
    (id : EntryId) :
    (Reading.begin purpose mode now id).step c =
      some (c.put id ((c.entry id).begin (c.window mode) now).1,
        afterTicket purpose mode id ((c.entry id).begin (c.window mode) now).2, []) := rfl

theorem step_settle (c : Cache) (id : EntryId) (result : FetchResult Json) :
    (Reading.settle id result).step c =
      some (c.put id ((c.entry id).settle result).1,
        .tellSettled id result ((c.entry id).settle result).2, []) := rfl

theorem step_tellSettled (c : Cache) (id : EntryId) (result : FetchResult Json)
    (owed : List WaiterId) :
    (Reading.tellSettled id result owed).step c =
      some ((c.send id owed result).1, .done (some result),
        c.dispatch id ++ (c.send id owed result).2) := rfl

theorem step_abandon (c : Cache) (id : EntryId) :
    (Reading.abandon id).step c =
      (let (e, owed) := (c.entry id).abandon
      let sent := (c.put id e).send id owed (.error (.cancelled e.key))
      some (sent.1, .tellAbandoned id, sent.2)) := rfl

/-- Asking to begin a fetch leads, follows or is spared one. -/
theorem course_of_begin {purpose : Purpose} {mode : CacheMode} {now : Instant} {id : EntryId}
    (stepped : (Reading.begin purpose mode now id).step c = some (c', r', effects))
    (built : c.store.Built) (located : Located c.store key options found)
    (fits : mode = options.cache ∧ found = some id) :
    Course c c' key options found (.begin purpose mode now id) r' effects ∧
      ((c.entry id).loading = true → r'.follows = true) := by
  obtain ⟨rfl, rfl⟩ := fits
  have inside := (located id rfl).1
  obtain ⟨sameKey, sameBase⟩ := (c.entry id).begin_keys (c.window options.cache) now
  rw [step_begin] at stepped
  cases stepped
  have advance : ∀ led', Shift c.store (c.put id ((c.entry id).begin _ now).1).store none led' →
      ∀ lost, Advance c.store (c.put id ((c.entry id).begin _ now).1).store lost none led' :=
    fun _ shift lost => .put built sameKey sameBase shift
  obtain ⟨flying, still, waiter, ticket⟩ | ⟨idle, still, ticket⟩ | ⟨idle, flies, ticket⟩ :=
    (c.entry id).begin_cases (c.window options.cache) now
  · have same : Shift c.store _ none none := .put_same (still.trans flying.symm)
    simp only [ticket, afterTicket]
    split
    · exact ⟨.kept (advance _ same) located (Or.inl rfl) trivial rfl (Or.inl rfl) (Or.inl rfl),
        fun _ => rfl⟩
    · exact ⟨.kept (advance _ same) located (Or.inr rfl) rfl rfl (Or.inl rfl) (Or.inl rfl),
        fun _ => rfl⟩
  · have same : Shift c.store _ none none := .put_same (still.trans idle.symm)
    refine ⟨?_, fun flying => absurd flying (by simp [idle])⟩
    simp only [ticket, afterTicket]
    split
    · exact .kept (advance _ same) located (Or.inr rfl) rfl rfl (Or.inl rfl) (Or.inl rfl)
    · exact .kept (advance _ same) located (Or.inl rfl) trivial rfl (Or.inl rfl) (Or.inl rfl)
  · refine ⟨?_, fun flying => absurd flying (by simp [idle])⟩
    simp only [ticket, afterTicket]
    exact .kept (advance _ (.put_begins inside idle flies)) located (Or.inr rfl) ⟨rfl, rfl⟩ rfl
      (Or.inl rfl) (Or.inl rfl)

theorem course_of_step (stepped : r.step c = some (c', r', effects)) (built : c.store.Built)
    (located : Located c.store key options found) (fits : r.Fits key options found) :
    Course c c' key options found r r' effects := by
  have still : ∀ led lost, Advance c.store c.store lost led led := fun _ _ => .refl built
  cases r with
  | locate purpose k o now =>
      obtain ⟨rfl, rfl⟩ := fits
      simp only [step] at stepped
      split at stepped
      next id there =>
        cases stepped
        refine ⟨still none, .of_find built there, ?_, ⟨rfl, rfl⟩, Or.inl ?_, Or.inl rfl,
          Or.inl rfl⟩
        · rintro _ ⟨⟩
          exact Or.inr there
        · split <;> rfl
      next =>
        cases stepped
        exact .kept (still none) located (Or.inl rfl) ⟨rfl, rfl⟩ rfl (Or.inl rfl) (Or.inl rfl)
  | create purpose k o now =>
      obtain ⟨rfl, rfl⟩ := fits
      cases stepped
      have there := find?_getOrCreate c.store k o.params
      refine ⟨fun lost => .getOrCreate built k o.params,
        .of_find (built.getOrCreate k o.params) there, ?_, ⟨rfl, rfl⟩, Or.inl ?_, Or.inl rfl,
        Or.inl rfl⟩
      · rintro _ ⟨⟩
        exact Or.inr there
      · split <;> rfl
  | begin purpose mode now id => exact (course_of_begin stepped built located fits).1
  | tellLoading supply id =>
      obtain ⟨rfl, rfl⟩ := fits
      cases stepped
      exact .kept (still (some id)) located (Or.inr rfl) ⟨rfl, rfl⟩ (by simp) (Or.inl rfl)
        (Or.inl rfl)
  | ask mode id =>
      obtain ⟨rfl, rfl⟩ := fits
      cases stepped
      refine ⟨still (some id), located, fun _ same => Or.inl same, rfl, Or.inr ⟨?_, id, rfl⟩,
        Or.inl rfl, Or.inl rfl⟩
      rw [← (located id rfl).2]
      rfl
  | await id => cases stepped
  | settle id result =>
      rw [step_settle] at stepped
      cases stepped
      cases fits
      refine .kept (fun lost => .put built (Entry.key_settle result) ?_ (.put_ends ?_)) located
        (Or.inr rfl) rfl rfl (Or.inr rfl) (Or.inl rfl)
      · cases result <;> rfl
      · simp [Entry.loading]
  | tellSettled id result owed =>
      rw [step_tellSettled] at stepped
      cases stepped
      exact .kept (still none) located (Or.inl rfl) trivial (by simp) (Or.inr rfl) (Or.inl rfl)
  | abandon id =>
      rw [step_abandon] at stepped
      cases stepped
      cases fits
      exact .kept (fun lost => .put built rfl rfl (.put_ends rfl)) located (Or.inr rfl) rfl
        (by simp) (Or.inr rfl) (Or.inl rfl)
  | tellAbandoned id =>
      cases stepped
      exact .kept (still none) located (Or.inl rfl) trivial (by simp) (Or.inr rfl) (Or.inl rfl)
  | follow id waiter =>
      simp only [step, Option.map_eq_some_iff] at stepped
      obtain ⟨⟨after, result⟩, taken, same⟩ := stepped
      cases same
      have store : after.store = c.store := by
        simp only [Cache.receive, Option.map_eq_some_iff] at taken
        obtain ⟨_, -, same⟩ := taken
        cases same
        rfl
      refine .kept ?_ located (Or.inl rfl) trivial rfl (Or.inr rfl) (Or.inr rfl)
      rw [store]
      exact still none
  | peek id =>
      cases stepped
      exact .kept (still none) located (Or.inl rfl) trivial rfl (Or.inr rfl) (Or.inl rfl)
  | done result => cases stepped

end Reading

namespace Actor

/-- Is a request of the actor outstanding. -/
def waits : Actor → Bool
  | .read _ _ _ (.await _) | .write (.await _) => true
  | _ => false

/-- Is the next step of the actor to drop the whole cache. -/
def clears : Actor → Bool
  | .write (.clear _) | .tend .clear => true
  | _ => false

/-- Is the actor a reader that can no longer lead a fetch. -/
def follows : Actor → Bool
  | .read _ _ _ reading => reading.follows
  | _ => false

/-- May an actor have sent a request. -/
def Sent (request : Request) : Actor → Prop
  | .read key options _ reading =>
    reading.asked = true ∧ request = .read (computeKey key options.params) options.cache
  | .write _ | .gone => True
  | .tend _ => False

/-- What a step of an actor comes to. -/
structure Course (c c' : Cache) (a a' : Actor) (effects : List Effect) : Prop where
  advance : ∀ lost : String → Prop, (a.clears = true → ∀ key, lost key) →
    Advance c.store c'.store lost a.leads a'.leads
  fits : a'.Fits c'.store
  requests : requestsOf effects = [] ∨
    ∃ request, requestsOf effects = [request] ∧ a'.waits = true ∧ a'.Sent request
  sent : ∀ request, a.Sent request → a'.Sent request
  finds : ∀ key options id reading, a' = .read key options (some id) reading →
    (∃ before, a = .read key options (some id) before) ∨
      c'.store.find? (computeKey key options.params) = some id
  follows : a.follows = false ∨ a'.follows = true ∧ requestsOf effects = []

variable {c c' : Cache} {effects : List Effect}

theorem advance_clear {s : Store} (h : s.Built) {lost : String → Prop} (all : ∀ key, lost key) :
    Advance s s.clear lost none none :=
  { Advance.clear h with find := fun key _ kept _ => absurd (all key) kept }

theorem course_of_writing {w w' : Writing} (stepped : w.step c = some (c', w', effects))
    (built : c.store.Built) : Course c c' (.write w) (.write w') effects := by
  have course : (∀ lost : String → Prop, ((Actor.write w).clears = true → ∀ key, lost key) →
        Advance c.store c'.store lost none none) →
      (requestsOf effects = [] ∨
        ∃ request, requestsOf effects = [request] ∧ (Actor.write w').waits = true) →
      Course c c' (.write w) (.write w') effects := by
    intro advance requests
    refine ⟨advance, trivial, ?_, fun _ _ => trivial, ?_, Or.inl rfl⟩
    · rcases requests with nothing | ⟨request, one, waiting⟩
      · exact Or.inl nothing
      · exact Or.inr ⟨request, one, waiting, trivial⟩
    · intro _ _ _ _ same
      cases same
  cases w with
  | send write =>
      cases body : write.body with
      | error e =>
          simp only [Writing.step, body] at stepped
          cases stepped
          exact course (fun _ _ => .refl built) (Or.inl rfl)
      | ok content =>
          simp only [Writing.step, body] at stepped
          cases stepped
          exact course (fun _ _ => .refl built) (Or.inr ⟨_, rfl, rfl⟩)
  | await _ => cases stepped
  | stale write value =>
      cases stepped
      exact course (fun _ _ => .invalidate built _) (Or.inl rfl)
  | tell write value keys =>
      cases stepped
      refine course (fun _ _ => .refl built) (Or.inl ?_)
      split <;> rfl
  | decode write value =>
      cases stepped
      exact course (fun _ _ => .refl built) (Or.inl rfl)
  | clear result =>
      cases stepped
      exact course (fun _ all => advance_clear built (all rfl)) (Or.inl rfl)
  | tellAll result =>
      cases stepped
      exact course (fun _ _ => .refl built) (Or.inl rfl)
  | done _ => cases stepped

theorem course_of_upkeep {u u' : Upkeep} (stepped : u.step c = some (c', u', effects))
    (built : c.store.Built) : Course c c' (.tend u) (.tend u') effects := by
  have course : (∀ lost : String → Prop, ((Actor.tend u).clears = true → ∀ key, lost key) →
        Advance c.store c'.store lost none none) → requestsOf effects = [] →
      Course c c' (.tend u) (.tend u') effects := by
    intro advance requests
    refine ⟨advance, trivial, Or.inl requests, fun _ sent => sent, ?_, Or.inl rfl⟩
    intro _ _ _ _ same
    cases same
  cases u with
  | locate key params value now =>
      simp only [Upkeep.step] at stepped
      split at stepped <;> cases stepped <;> exact course (fun _ _ => .refl built) rfl
  | create key params value now =>
      cases stepped
      exact course (fun _ _ => .getOrCreate built key params) rfl
  | put value now id =>
      cases stepped
      exact course (fun _ _ => .put built rfl rfl (.put_same rfl)) rfl
  | tell id =>
      cases stepped
      exact course (fun _ _ => .refl built) (requestsOf_dispatch _ _)
  | stale bases =>
      cases stepped
      exact course (fun _ _ => .invalidate built bases) rfl
  | tellStale keys =>
      cases stepped
      refine course (fun _ _ => .refl built) ?_
      split <;> rfl
  | clear =>
      cases stepped
      exact course (fun _ all => advance_clear built (all rfl)) rfl
  | tellAll =>
      cases stepped
      exact course (fun _ _ => .refl built) rfl
  | done _ => cases stepped

theorem course_of_step {a a' : Actor} (stepped : a.step c = some (c', a', effects))
    (built : c.store.Built) (fits : a.Fits c.store) : Course c c' a a' effects := by
  cases a with
  | read key options found reading =>
      simp only [step, Option.map_eq_some_iff] at stepped
      obtain ⟨⟨_, reading', _⟩, stepped, same⟩ := stepped
      cases same
      have course := Reading.course_of_step stepped built fits.1 fits.2
      refine ⟨fun lost _ => course.advance lost, ⟨course.located, course.fits⟩, ?_, ?_, ?_,
        course.follows⟩
      · rcases course.requests with nothing | ⟨one, id, waiting⟩
        · exact Or.inl nothing
        · subst waiting
          exact Or.inr ⟨_, one, rfl, rfl, rfl⟩
      · exact fun request sent => ⟨course.asked.resolve_left (by simp [sent.1]), sent.2⟩
      · intro _ _ id _ same
        injection same with sameKey sameOptions sameFound
        subst sameKey sameOptions
        rcases course.finds id sameFound with before | now
        · exact Or.inl ⟨reading, by rw [before]⟩
        · exact Or.inr now
  | write writing =>
      simp only [step, Option.map_eq_some_iff] at stepped
      obtain ⟨⟨_, writing', _⟩, stepped, same⟩ := stepped
      cases same
      exact course_of_writing stepped built
  | tend upkeep =>
      simp only [step, Option.map_eq_some_iff] at stepped
      obtain ⟨⟨_, upkeep', _⟩, stepped, same⟩ := stepped
      cases same
      exact course_of_upkeep stepped built
  | gone => cases stepped

/-- Nobody whose request is outstanding takes a step. -/
theorem step_of_waits {a : Actor} (h : a.waits = true) : a.step c = none := by
  cases a with
  | read key options found reading =>
      cases reading with
      | await id => rfl
      | _ => cases h
  | write writing =>
      cases writing with
      | await w => rfl
      | _ => cases h
  | tend _ | gone => cases h

end Actor

end Refetch
