/-
# What the listeners of an entry are shown

A change of an entry and the showing of it are two critical sections, so the changes of several
actors may be shown in another order than they were made in. It does no harm: what is shown is read
when it is shown, and whoever changes what can be seen of an entry shows it afterwards. Hence the
listeners never see an older state after a newer one, and have seen the last one as soon as nobody
is about to show anything. Who subscribes is registered and shown the state in one section, and who
has left the register is shown nothing any more.

Who the actors are and where they stand is left open: the listeners need no one to keep to any
rules.
-/

import Refetch.Proofs.Crowd.Fate

namespace Refetch

/-- The entry whose listeners a read tells in its next step. -/
def Reading.tells : Reading → Option EntryId
  | .tellLoading _ id | .tellSettled id _ _ | .tellAbandoned id => some id
  | _ => none

/-- The entry whose listeners a seed tells in its next step. -/
def Upkeep.tells : Upkeep → Option EntryId
  | .tell id => some id
  | _ => none

/-- The entry whose listeners an actor tells in its next step. -/
def Actor.tells : Actor → Option EntryId
  | .read _ _ _ reading => reading.tells
  | .tend upkeep => upkeep.tells
  | .write _ | .gone => none

/-- What the listeners of an entry are shown among the effects of a step. -/
def showsOf (id : EntryId) (effects : List Effect) : List (ListenerId × Snapshot) :=
  effects.filterMap fun
    | .show entry listener snapshot => if entry = id then some (listener, snapshot) else none
    | _ => none

@[simp]
theorem showsOf_nil (id : EntryId) : showsOf id [] = [] := rfl

@[simp]
theorem showsOf_append (id : EntryId) (first second : List Effect) :
    showsOf id (first ++ second) = showsOf id first ++ showsOf id second :=
  List.filterMap_append

theorem showsOf_dispatch (c : Cache) (id : EntryId) :
    showsOf id (c.dispatch id) = (c.entry id).dispatch := by
  simp [showsOf, Cache.dispatch, List.filterMap_map]

theorem showsOf_dispatch_of_ne {c : Cache} {id other : EntryId} (h : other ≠ id) :
    showsOf id (c.dispatch other) = [] := by
  simp [showsOf, Cache.dispatch, List.filterMap_map, h]

@[simp]
theorem showsOf_send (c : Cache) (at' id : EntryId) (owed : List WaiterId)
    (result : FetchResult Json) : showsOf id (c.send at' owed result).2 = [] := by
  simp [showsOf, Cache.send]

/-- An entry keeps its register of listeners. -/
structure Entry.SameRegister (e e' : Entry) : Prop where
  listeners : e'.listeners = e.listeners
  registered : e'.registered = e.registered

theorem Entry.SameRegister.refl (e : Entry) : e.SameRegister e := ⟨rfl, rfl⟩

/-- Those who watch an entry see no difference. -/
structure Entry.Unseen (e e' : Entry) : Prop extends e.SameRegister e' where
  snapshot : e'.snapshot = e.snapshot

theorem Entry.Unseen.refl (e : Entry) : e.Unseen e := ⟨⟨rfl, rfl⟩, rfl⟩

theorem Entry.Unseen.trans {e₁ e₂ e₃ : Entry} (first : e₁.Unseen e₂) (second : e₂.Unseen e₃) :
    e₁.Unseen e₃ where
  listeners := second.listeners.trans first.listeners
  registered := second.registered.trans first.registered
  snapshot := second.snapshot.trans first.snapshot

theorem Entry.sameRegister_settle (e : Entry) (result : FetchResult Json) :
    e.SameRegister (e.settle result).1 := by
  cases result <;> exact ⟨rfl, rfl⟩

theorem Entry.sameRegister_begin (e : Entry) (window : Option Int) (now : Instant) :
    e.SameRegister (e.begin window now).1 ∧
      ((e.begin window now).1.snapshot = e.snapshot ∨ (e.begin window now).2 = .leader) := by
  cases flying : e.waiters with
  | some queue =>
      rw [begin_of_waiters flying]
      exact ⟨⟨rfl, rfl⟩, Or.inl (by simp [snapshot, loading, join, flying])⟩
  | none =>
      cases fresh : window.any (e.freshWithin · now) with
      | true =>
          rw [begin_of_fresh flying fresh]
          exact ⟨.refl e, Or.inl rfl⟩
      | false =>
          rw [begin_of_stale flying fresh]
          exact ⟨⟨rfl, rfl⟩, Or.inr rfl⟩

theorem Entry.unseen_wait (e : Entry) : e.Unseen e.wait.1 := by
  cases flying : e.waiters with
  | some queue =>
      rw [wait_of_waiters flying]
      exact ⟨⟨rfl, rfl⟩, by simp [snapshot, loading, join, flying]⟩
  | none =>
      rw [wait_of_no_waiters flying]
      exact .refl e

@[simp]
theorem Entry.snapshot_subscribe (e : Entry) : e.subscribe.1.snapshot = e.snapshot := rfl

@[simp]
theorem Entry.snapshot_unsubscribe (e : Entry) (listener : ListenerId) :
    (e.unsubscribe listener).snapshot = e.snapshot := rfl

/-- Nobody is on the register twice, and whoever is has been given a number. -/
structure Entry.Enrolled (e : Entry) : Prop where
  nodup : e.listeners.Nodup
  given : ∀ l ∈ e.listeners, l < e.registered

theorem Entry.mem_subscribe {e : Entry} {l : ListenerId} :
    l ∈ e.subscribe.1.listeners ↔ l ∈ e.listeners ∨ l = e.registered := by
  simp [subscribe]

theorem Entry.Enrolled.subscribe {e : Entry} (h : e.Enrolled) : e.subscribe.1.Enrolled where
  nodup := by
    refine List.nodup_append.mpr ⟨h.nodup, by simp, fun l member other new => ?_⟩
    rw [List.mem_singleton.mp new]
    exact Nat.ne_of_lt (h.given l member)
  given := by
    intro l member
    rcases mem_subscribe.mp member with old | rfl
    · exact Nat.lt_succ_of_lt (h.given l old)
    · exact Nat.lt_succ_self _

theorem Entry.Enrolled.unsubscribe {e : Entry} (h : e.Enrolled) (listener : ListenerId) :
    (e.unsubscribe listener).Enrolled where
  nodup := h.nodup.filter _
  given := fun l member => h.given l (List.mem_of_mem_filter member)

theorem Entry.Enrolled.of_same {e e' : Entry} (h : e.Enrolled) (same : e.SameRegister e') :
    e'.Enrolled where
  nodup := same.listeners ▸ h.nodup
  given := by
    rw [same.listeners, same.registered]
    exact h.given

/-- What a step does for those who watch an entry, given which entry's listeners its actor was about
to tell, and which it is about to tell now. -/
inductive Watched (id : EntryId) (c c' : Cache) (tells tells' : Option EntryId)
    (effects : List Effect) : Prop
  /-- It shows the entry as it is. -/
  | shown (owed : tells = some id) (same : c'.entry id = c.entry id)
      (shows : showsOf id effects = (c.entry id).dispatch)
  /-- It shows nothing, but if it changes what can be seen, that is about to be told. -/
  | silent (owed : tells ≠ some id) (shows : showsOf id effects = [])
      (register : (c.entry id).SameRegister (c'.entry id))
      (told : (c'.entry id).snapshot = (c.entry id).snapshot ∨ tells' = some id)

section

variable {id : EntryId} {c c' : Cache} {tells tells' : Option EntryId} {effects : List Effect}

theorem Watched.unseen (owed : tells ≠ some id) (shows : showsOf id effects = [])
    (unseen : (c.entry id).Unseen (c'.entry id)) : Watched id c c' tells tells' effects :=
  .silent owed shows unseen.toSameRegister (Or.inl unseen.snapshot)

theorem Watched.same (owed : tells = none) (shows : showsOf id effects = [])
    (same : c'.entry id = c.entry id) : Watched id c c' tells tells' effects :=
  .unseen (owed ▸ (Option.some_ne_none id).symm) shows (same ▸ .refl _)

theorem Watched.dispatch {at' : EntryId} {more : List Effect} (silent : showsOf id more = [])
    (same : c'.entry id = c.entry id) :
    Watched id c c' (some at') tells' (c.dispatch at' ++ more) := by
  by_cases here : at' = id
  · subst here
    exact .shown rfl same (by rw [showsOf_append, silent, showsOf_dispatch, List.append_nil])
  · refine .unseen (fun same => here (Option.some.inj same)) ?_ (same ▸ .refl _)
    rw [showsOf_append, silent, showsOf_dispatch_of_ne here, List.append_nil]

theorem Watched.put {at' : EntryId} {e : Entry} (same : c'.entry id = (c.put at' e).entry id)
    (owed : tells = none) (shows : showsOf id effects = [])
    (register : (c.entry at').SameRegister e)
    (told : e.snapshot = (c.entry at').snapshot ∨ tells' = some at') :
    Watched id c c' tells tells' effects := by
  have became : c'.entry id = if id = at' ∧ at' < c.store.arena.size then e else c.entry id :=
    same.trans (Store.entry_put ..)
  refine .silent (owed ▸ (Option.some_ne_none id).symm) shows ?_ ?_ <;> rw [became] <;> split
  next both => exact both.1 ▸ register
  next => exact .refl _
  next both => exact both.1 ▸ told
  next => exact Or.inl rfl

/-- Nobody who watches can tell that an entry was invalidated. -/
theorem Store.unseen_invalidate (s : Store) (bases : List String) :
    (s.entry id).Unseen ((s.invalidate bases).1.entry id) := by
  have one (s : Store) (key : String) : (s.entry id).Unseen ((s.invalidateKey key).entry id) := by
    unfold invalidateKey
    cases s.find? key with
    | none => exact .refl _
    | some other =>
        simp only [entry_put]
        split
        next both => exact both.1 ▸ ⟨⟨rfl, rfl⟩, rfl⟩
        next => exact .refl _
  have all (keys : List String) :
      ∀ s : Store, (s.entry id).Unseen ((keys.foldl invalidateKey s).entry id) := by
    induction keys with
    | nil => exact fun s => .refl _
    | cons key rest ih => exact fun s => (one s key).trans (ih (s.invalidateKey key))
  exact all _ s

theorem Reading.watched {r r' : Reading} (stepped : r.step c = some (c', r', effects))
    (inside : id < c.store.arena.size) : Watched id c c' r.tells r'.tells effects := by
  cases r with
  | locate purpose key options now =>
      simp only [step] at stepped
      split at stepped <;> cases stepped
      · exact .same rfl (by split <;> rfl) rfl
      · exact .same rfl rfl rfl
  | create purpose key options now =>
      cases stepped
      exact .same rfl (by split <;> rfl) (Store.entry_getOrCreate_of_lt inside)
  | begin purpose mode now at' =>
      obtain ⟨register, told⟩ := (c.entry at').sameRegister_begin (c.window mode) now
      rw [step_begin] at stepped
      cases stepped
      refine .put rfl rfl rfl register (told.imp_right fun leader => ?_)
      rw [leader]
      rfl
  | tellLoading _ at' | tellAbandoned at' =>
      cases stepped
      rw [← List.append_nil (c.dispatch at')]
      exact .dispatch rfl rfl
  | tellSettled at' result owed =>
      rw [step_tellSettled] at stepped
      cases stepped
      exact .dispatch (showsOf_send c at' id owed result) rfl
  | settle at' result =>
      rw [step_settle] at stepped
      cases stepped
      exact .put rfl rfl rfl (Entry.sameRegister_settle _ result) (Or.inr rfl)
  | abandon at' =>
      rw [step_abandon] at stepped
      cases stepped
      exact .put rfl rfl (showsOf_send ..) ⟨rfl, rfl⟩ (Or.inr rfl)
  | follow at' w =>
      simp only [step, Cache.receive, Option.map_map, Option.map_eq_some_iff] at stepped
      obtain ⟨_, -, same⟩ := stepped
      cases same
      exact .same rfl rfl rfl
  | ask _ _ | peek _ =>
      cases stepped
      exact .same rfl rfl rfl
  | await _ | done _ => cases stepped

theorem Writing.watched {w w' : Writing} (stepped : w.step c = some (c', w', effects)) :
    Watched id c c' none none effects := by
  cases w with
  | send w =>
      simp only [step] at stepped
      split at stepped <;> cases stepped <;> exact .same rfl rfl rfl
  | stale w value =>
      cases stepped
      exact .unseen (Option.some_ne_none id).symm rfl (c.store.unseen_invalidate _)
  | tell _ _ keys =>
      cases stepped
      exact .same rfl (by split <;> rfl) rfl
  | decode _ _ | clear _ | tellAll _ =>
      cases stepped
      exact .same rfl rfl rfl
  | await _ | done _ => cases stepped

theorem Upkeep.watched {u u' : Upkeep} (stepped : u.step c = some (c', u', effects))
    (inside : id < c.store.arena.size) : Watched id c c' u.tells u'.tells effects := by
  cases u with
  | locate key params value now =>
      simp only [step] at stepped
      split at stepped <;> cases stepped <;> exact .same rfl rfl rfl
  | create key params value now =>
      cases stepped
      exact .same rfl rfl (Store.entry_getOrCreate_of_lt inside)
  | put value now at' =>
      cases stepped
      exact .put rfl rfl rfl ⟨rfl, rfl⟩ (Or.inr rfl)
  | tell at' =>
      cases stepped
      rw [← List.append_nil (c.dispatch at')]
      exact .dispatch rfl rfl
  | stale bases =>
      cases stepped
      exact .unseen (Option.some_ne_none id).symm rfl (c.store.unseen_invalidate bases)
  | tellStale keys =>
      cases stepped
      exact .same rfl (by split <;> rfl) rfl
  | clear | tellAll =>
      cases stepped
      exact .same rfl rfl rfl
  | done _ => cases stepped

theorem Actor.watched {a a' : Actor} (stepped : a.step c = some (c', a', effects))
    (inside : id < c.store.arena.size) : Watched id c c' a.tells a'.tells effects := by
  cases a with
  | read key options found r =>
      obtain ⟨_, moved, rfl⟩ := step_read stepped
      exact Reading.watched moved inside
  | write w =>
      obtain ⟨_, moved, rfl⟩ := step_write stepped
      exact Writing.watched moved
  | tend u =>
      obtain ⟨_, moved, rfl⟩ := step_tend stepped
      exact Upkeep.watched moved inside
  | gone => cases stepped

end

theorem Actor.tells_answered (a : Actor) (result : FetchResult Json) :
    (a.answered result).tells = a.tells := by
  cases a with
  | read key options found r => cases r <;> rfl
  | write _ | tend _ | gone => rfl

theorem Actor.tells_of_dropped {a a' : Actor} (dropped : a.dropped = some a') :
    a.tells = none := by
  cases a with
  | read key options found r => cases r <;> first | rfl | cases dropped
  | tend u => cases u <;> first | rfl | cases dropped
  | write _ | gone => rfl

/-- Stores a value in an entry and leaves it at that. -/
def Event.bare (id : EntryId) : Event → Bool
  | .touch entry (.set _ _) => entry = id
  | _ => false

namespace Crowd

variable {m s s' later : Crowd} {event : Event} {id : EntryId}

/-- Somebody is about to tell the listeners of an entry. -/
def Telling (s : Crowd) (id : EntryId) : Prop := ∃ t a, s.actors t = some a ∧ a.tells = some id

/-- What the listeners of an entry are shown in an event. -/
def shows (s : Crowd) (id : EntryId) : Event → List (ListenerId × Snapshot)
  | .step t => match (s.actors t).bind (Actor.step s.cache) with
    | some (_, _, effects) => showsOf id effects
    | none => []
  | .touch entry .subscribe => if entry = id then [(s.cache.entry id).subscribe.2] else []
  | _ => []

/-- What an event does for those who watch an entry. -/
inductive Seen (s s' : Crowd) (id : EntryId) : List (ListenerId × Snapshot) → Prop
  | shown (same : s'.cache.entry id = s.cache.entry id) :
      Seen s s' id (s.cache.entry id).dispatch
  | silent (register : (s.cache.entry id).SameRegister (s'.cache.entry id))
      (told : ((s'.cache.entry id).snapshot = (s.cache.entry id).snapshot ∧
        (s.Telling id → s'.Telling id)) ∨ s'.Telling id) : Seen s s' id []
  | subscribed (became : s'.cache.entry id = (s.cache.entry id).subscribe.1)
      (telling : s.Telling id → s'.Telling id) : Seen s s' id [(s.cache.entry id).subscribe.2]
  | unsubscribed (listener : ListenerId)
      (became : s'.cache.entry id = (s.cache.entry id).unsubscribe listener)
      (telling : s.Telling id → s'.Telling id) : Seen s s' id []

/-- Whoever is about to tell the listeners of an entry still is if another actor moves. -/
theorem Telling.become {t : ActorId} {a' : Actor} (actors : s'.actors = (s.become t a').actors)
    (keeps : ∀ a, s.actors t = some a → a.tells = some id → a'.tells = some id)
    (h : s.Telling id) : s'.Telling id := by
  obtain ⟨u, a, there, tells⟩ := h
  by_cases self : u = t
  · subst self
    exact ⟨u, a', by rw [actors]; exact if_pos rfl, keeps a there tells⟩
  · exact ⟨u, a, by rw [actors, actors_become, if_neg self, there], tells⟩

theorem Seen.unseen (unseen : (s.cache.entry id).Unseen (s'.cache.entry id))
    (telling : s.Telling id → s'.Telling id) : Seen s s' id [] :=
  .silent unseen.toSameRegister (Or.inl ⟨unseen.snapshot, telling⟩)

theorem seen_of_step {t : ActorId} {a a' : Actor} {cache : Cache} {effects : List Effect}
    (there : s.actors t = some a) (stepped : a.step s.cache = some (cache, a', effects))
    (inside : id < s.cache.store.arena.size) :
    Seen s (s.after t cache a' effects) id (showsOf id effects) := by
  have now : (s.after t cache a' effects).actors t = some a' := if_pos rfl
  cases Actor.watched stepped inside with
  | shown owed same shows =>
      rw [shows]
      exact .shown same
  | silent owed shows register told =>
      rw [shows]
      refine .silent register ?_
      rcases told with same | tells
      · refine Or.inl ⟨same, Telling.become rfl fun b was tells => ?_⟩
        rw [there] at was
        exact absurd (Option.some.inj was ▸ tells) owed
      · exact Or.inr ⟨t, a', now, tells⟩

/-- Every event is of one of these kinds for those who watch an entry, unless it stores a value
there and leaves it at that. -/
theorem seen_of_next (happened : s.next event = some s') (inside : id < s.cache.store.arena.size)
    (tells : (!event.bare id) = true) :
    Seen s s' id (s.shows id event) := by
  cases outcome_of_next happened with
  | start absent _ =>
      refine .unseen (.refl _) (.become rfl fun a was _ => ?_)
      rw [absent] at was
      cases was
  | step there stepped =>
      rw [shows, there, Option.bind_some, stepped]
      exact seen_of_step there stepped inside
  | answer there =>
      refine .unseen (.refl _) (.become rfl fun a was tells => ?_)
      rw [there] at was
      cases was
      rwa [Actor.tells_answered]
  | drop there dropped =>
      refine .unseen (.refl _) (.become rfl fun a was tells => ?_)
      rw [there] at was
      cases was
      rw [Actor.tells_of_dropped dropped] at tells
      cases tells
  | touch at' touch =>
      by_cases here : at' = id
      · subst here
        have became : (s.cache.put at' (touch.apply (s.cache.entry at'))).entry at' =
            touch.apply (s.cache.entry at') := Store.entry_put_same _ _ inside
        have untold : (s.cache.entry at').Unseen (touch.apply (s.cache.entry at')) →
            Seen s { s with cache := s.cache.put at' (touch.apply (s.cache.entry at')) } at' [] :=
          fun unseen => .unseen (became.symm ▸ unseen) fun h => h
        cases touch with
        | set value now => simp [Event.bare] at tells
        | invalidate => exact untold ⟨⟨rfl, rfl⟩, rfl⟩
        | wait => exact untold (s.cache.entry at').unseen_wait
        | subscribe =>
            rw [shows, if_pos rfl]
            exact .subscribed became fun h => h
        | unsubscribe listener => exact .unsubscribed listener became fun h => h
      · have silent : s.shows id (.touch at' touch) = [] := by
          cases touch <;> simp [shows, here]
        have same : (s.cache.put at' (touch.apply (s.cache.entry at'))).entry id =
            s.cache.entry id :=
          Store.entry_put_of_ne _ _ fun same => here same.symm
        rw [silent]
        exact .unseen (same.symm ▸ .refl _) fun h => h
  | @insert e _ =>
      have same : (s.cache.store.insert e).1.entry id = s.cache.entry id := by
        rw [Store.insert, Store.entry_push, if_neg (Nat.ne_of_lt inside)]
        rfl
      exact .unseen (same.symm ▸ .refl _) fun h => h

/-! ## What is seen of an entry in a run -/

/-- What can be seen of an entry after an event, and what its listeners were shown in it. -/
structure Scene where
  now : Snapshot
  shown : List (ListenerId × Snapshot)

/-- What a listener was shown. -/
def Scene.to (scene : Scene) (listener : ListenerId) : List Snapshot :=
  (scene.shown.filter (·.1 = listener)).map (·.2)

/-- What a listener was shown, in order. -/
def received (scenes : List Scene) (listener : ListenerId) : List Snapshot :=
  scenes.flatMap (·.to listener)

/-- A crowd comes after another one, with a scene of the entry for each event in between. Whoever
stores a value there is an actor, and so tells the listeners afterwards. -/
abbrev Watch (id : EntryId) : Crowd → List Scene → Crowd → Prop :=
  Recorded (fun _ event => !event.bare id) fun s event s' =>
    [⟨(s'.cache.entry id).snapshot, s.shows id event⟩]

variable {scenes : List Scene}

theorem received_append (scenes : List Scene) (scene : Scene) (listener : ListenerId) :
    received (scenes ++ [scene]) listener = received scenes listener ++ scene.to listener := by
  simp [received]

/-- Who is on the register is shown the snapshot once, and nobody else is shown anything. -/
theorem to_dispatch {e : Entry} (nodup : e.listeners.Nodup) (now : Snapshot)
    (listener : ListenerId) :
    (⟨now, e.dispatch⟩ : Scene).to listener =
      if listener ∈ e.listeners then [e.snapshot] else [] := by
  have shown : (⟨now, e.dispatch⟩ : Scene).to listener =
      List.replicate (e.listeners.count listener) e.snapshot := by
    simp [Scene.to, Entry.dispatch, List.filter_map, Function.comp_def, List.filter_beq,
      ← beq_iff_eq, Bool.decide_eq_true]
  rw [shown, nodup.count]
  split <;> rfl

/-- What holds of an entry and its listeners whatever happens. -/
structure Attended (id : EntryId) (scenes : List Scene) (s : Crowd) : Prop where
  inside : id < s.cache.store.arena.size
  enrolled : (s.cache.entry id).Enrolled
  current : ∀ scene ∈ scenes, ∀ l, (scene.to l).Sublist [scene.now]
  latest : s.Telling id ∨ ∀ l ∈ (s.cache.entry id).listeners,
    (received scenes l).getLast? = some (s.cache.entry id).snapshot

theorem attended_of_unobserved (inside : id < m.cache.store.arena.size)
    (unobserved : (m.cache.entry id).listeners = []) : Attended id [] m where
  inside := inside
  enrolled := ⟨by simp [unobserved], by simp [unobserved]⟩
  current := by simp
  latest := Or.inr (by simp [unobserved])

/-- What a new listener is shown at once is shown to nobody else. -/
theorem to_subscribe (e : Entry) (now : Snapshot) (listener : ListenerId) :
    (⟨now, [e.subscribe.2]⟩ : Scene).to listener =
      if e.registered = listener then [e.snapshot] else [] := by
  by_cases same : e.registered = listener <;> simp [Scene.to, Entry.subscribe, same]

/-- Nobody is shown anything in a scene in which nothing is shown. -/
theorem received_silent (scenes : List Scene) (now : Snapshot) (listener : ListenerId) :
    received (scenes ++ [⟨now, []⟩]) listener = received scenes listener := by
  rw [received_append]
  exact List.append_nil _

/-- Whether an event shows the entry, changes it, or concerns the register: the listeners keep up.
-/
theorem Attended.seen {shown : List (ListenerId × Snapshot)} (h : Attended id scenes s)
    (inside : id < s'.cache.store.arena.size) (seen : Seen s s' id shown) :
    Attended id (scenes ++ [⟨(s'.cache.entry id).snapshot, shown⟩]) s' := by
  have current {last : Scene} (once : ∀ l, (last.to l).Sublist [last.now]) :
      ∀ scene ∈ scenes ++ [last], ∀ l, (scene.to l).Sublist [scene.now] := by
    rintro scene member
    rcases List.mem_append.mp member with old | new
    · exact h.current scene old
    · exact List.mem_singleton.mp new ▸ once
  cases seen with
  | shown same =>
      have once := to_dispatch h.enrolled.nodup (s'.cache.entry id).snapshot
      refine ⟨inside, same ▸ h.enrolled, current fun l => ?_, Or.inr fun l member => ?_⟩
      · rw [once, same]
        split
        next => exact .refl _
        next => exact List.nil_sublist _
      · rw [same] at member
        rw [received_append, once, if_pos member, List.getLast?_concat, same]
  | silent register told =>
      refine ⟨inside, h.enrolled.of_same register, current fun _ => List.nil_sublist _, ?_⟩
      rcases told with ⟨same, telling⟩ | telling
      · refine h.latest.imp telling fun latest => ?_
        rw [register.listeners, same]
        simpa only [received_silent] using latest
      · exact Or.inl telling
  | subscribed became telling =>
      have once := to_subscribe (s.cache.entry id) (s'.cache.entry id).snapshot
      have same : (s'.cache.entry id).snapshot = (s.cache.entry id).snapshot := by
        rw [became, Entry.snapshot_subscribe]
      refine ⟨inside, became ▸ h.enrolled.subscribe, current fun l => ?_,
        h.latest.imp telling fun latest l member => ?_⟩
      · rw [once, same]
        split
        next => exact .refl _
        next => exact List.nil_sublist _
      · rw [became, Entry.mem_subscribe] at member
        rw [received_append, once, same]
        rcases member with old | rfl
        · rw [if_neg (Nat.ne_of_gt (h.enrolled.given l old)), List.append_nil]
          exact latest l old
        · rw [if_pos rfl, List.getLast?_concat]
  | unsubscribed listener became telling =>
      have same : (s'.cache.entry id).snapshot = (s.cache.entry id).snapshot := by
        rw [became, Entry.snapshot_unsubscribe]
      refine ⟨inside, became ▸ h.enrolled.unsubscribe listener,
        current fun _ => List.nil_sublist _, h.latest.imp telling fun latest l member => ?_⟩
      rw [became] at member
      rw [received_silent, same]
      exact latest l (List.mem_of_mem_filter member)

theorem Watch.attended (watched : Watch id m scenes s) (inside : id < m.cache.store.arena.size)
    (unobserved : (m.cache.entry id).listeners = []) : Attended id scenes s := by
  induction watched with
  | here => exact attended_of_unobserved inside unobserved
  | next event _ tells happened ih =>
      exact ih.seen (Nat.lt_of_lt_of_le ih.inside (alters_of_next happened).size)
        (seen_of_next happened ih.inside tells)

/-- Who is shown at most once in each event what there is to be seen is shown it in order. -/
theorem received_sublist {l : ListenerId}
    (current : ∀ scene ∈ scenes, ∀ l, (scene.to l).Sublist [scene.now]) :
    (received scenes l).Sublist (scenes.map (·.now)) := by
  induction scenes with
  | nil => exact .slnil
  | cons scene rest ih =>
      obtain ⟨first, others⟩ := List.forall_mem_cons.mp current
      exact (first l).append (ih others)

/-- A listener was registered once and is no more. -/
structure Gone (id : EntryId) (l : ListenerId) (s : Crowd) : Prop where
  inside : id < s.cache.store.arena.size
  numbered : l < (s.cache.entry id).registered
  gone : l ∉ (s.cache.entry id).listeners

theorem Gone.seen {shown : List (ListenerId × Snapshot)} {l : ListenerId} (h : Gone id l s)
    (inside : id < s'.cache.store.arena.size) (seen : Seen s s' id shown) :
    Gone id l s' ∧ ∀ now, (⟨now, shown⟩ : Scene).to l = [] := by
  cases seen with
  | shown same =>
      refine ⟨⟨inside, same ▸ h.numbered, same ▸ h.gone⟩, fun now => ?_⟩
      have other : ∀ k ∈ (s.cache.entry id).listeners, k ≠ l := by
        rintro k member rfl
        exact h.gone member
      simpa [Scene.to, Entry.dispatch] using other
  | silent register told =>
      exact ⟨⟨inside, register.registered ▸ h.numbered, register.listeners ▸ h.gone⟩,
        fun _ => rfl⟩
  | subscribed became telling =>
      refine ⟨⟨inside, ?_, ?_⟩, fun now => ?_⟩
      · rw [became]
        exact Nat.lt_succ_of_lt h.numbered
      · rw [became]
        exact fun member => (Entry.mem_subscribe.mp member).elim h.gone (Nat.ne_of_lt h.numbered)
      · rw [to_subscribe, if_neg (Nat.ne_of_gt h.numbered)]
  | unsubscribed listener became telling =>
      refine ⟨⟨inside, ?_, ?_⟩, fun _ => rfl⟩
      · rw [became]
        exact h.numbered
      · rw [became]
        exact fun member => h.gone (List.mem_of_mem_filter member)

theorem Watch.shows_nothing {l : ListenerId} (watched : Watch id m scenes s) (h : Gone id l m) :
    Gone id l s ∧ received scenes l = [] := by
  induction watched with
  | here => exact ⟨h, rfl⟩
  | next event _ tells happened ih =>
      obtain ⟨gone, nothing⟩ := ih
      have inside := Nat.lt_of_lt_of_le gone.inside (alters_of_next happened).size
      obtain ⟨still, silent⟩ := gone.seen inside (seen_of_next happened gone.inside tells)
      refine ⟨still, ?_⟩
      rw [received_append, nothing, silent]
      rfl

theorem gone_of_unsubscribe {l : ListenerId} (inside : id < s.cache.store.arena.size)
    (numbered : l < (s.cache.entry id).registered)
    (happened : s.next (.touch id (.unsubscribe l)) = some s') : Gone id l s' := by
  cases happened
  have became : (s.cache.put id ((s.cache.entry id).unsubscribe l)).entry id =
      (s.cache.entry id).unsubscribe l := Store.entry_put_same _ _ inside
  refine ⟨?_, ?_, ?_⟩
  · exact (Store.size_arena_put ..).symm ▸ inside
  · exact became.symm ▸ numbered
  · exact became.symm ▸ fun member => by simp [Entry.unsubscribe] at member

/-- Whoever is there and wherever they stand, in every run that begins when an entry has no listener
yet: a listener is shown at most once in an event, and then what there is to be seen after it, so
that it is shown the states of the entry in their order; as soon as nobody is about to tell the
listeners, everyone on the register has been shown last what is to be seen now; and whose
subscription has ended is shown nothing any more. -/
theorem observers_follow (watched : Watch id m scenes s) (inside : id < m.cache.store.arena.size)
    (unobserved : (m.cache.entry id).listeners = []) :
    (∀ scene ∈ scenes, ∀ l, (scene.to l).Sublist [scene.now]) ∧
      (∀ l, (received scenes l).Sublist (scenes.map (·.now))) ∧
      (¬ s.Telling id → ∀ l ∈ (s.cache.entry id).listeners,
        (received scenes l).getLast? = some (s.cache.entry id).snapshot) ∧
      ∀ l s' rest later, l < (s.cache.entry id).registered →
        s.next (.touch id (.unsubscribe l)) = some s' → Watch id s' rest later →
        received rest l = [] := by
  have attended := watched.attended inside unobserved
  refine ⟨attended.current, fun l => received_sublist attended.current,
    attended.latest.resolve_left, ?_⟩
  intro l s' rest later numbered ended after
  exact (after.shows_nothing (gone_of_unsubscribe attended.inside numbered ended)).2

/-- Two actors have stored values in the same entry one after the other. The later one tells first,
and the earlier one then tells the later value once more. A third actor stores a value after the
first listener has left. -/
theorem late_teller_shows_latest :
    ∃ m scenes s s' rest later, Watch 0 m scenes s ∧
      scenes.map (·.now.data) = [none, some (.str "a"), some (.str "b"), some (.str "b"),
        some (.str "b"), some (.str "b"), some (.str "b")] ∧
      received scenes 0 = [{}, { data := some (.str "b") }, { data := some (.str "b") }] ∧
      (received scenes 0).Sublist (scenes.map (·.now)) ∧
      (received scenes 1).getLast? = some (s.cache.entry 0).snapshot ∧
      s.next (.touch 0 (.unsubscribe 0)) = some s' ∧ Watch 0 s' rest later ∧
      received rest 1 = [{ data := some (.str "c") }] ∧ received rest 0 = [] := by
  let m : Crowd := {
    cache := { store := .ofEntries [.ofKey "/apps"] }
    actors := fun t => [.tend (.put (.str "a") ⟨0⟩ 0), .tend (.put (.str "b") ⟨1⟩ 0),
      .tend (.put (.str "c") ⟨2⟩ 0)][t]? }
  obtain ⟨scenes, s, watched, idle, states, first, both, two, s', rest, later, ended, after,
      told⟩ : ∃ scenes s, Watch 0 m scenes s ∧ ¬ s.Telling 0 ∧
        scenes.map (·.now.data) = [none, some (.str "a"), some (.str "b"), some (.str "b"),
          some (.str "b"), some (.str "b"), some (.str "b")] ∧
        received scenes 0 = [{}, { data := some (.str "b") }, { data := some (.str "b") }] ∧
        (s.cache.entry 0).listeners = [0, 1] ∧ (s.cache.entry 0).registered = 2 ∧
        ∃ s' rest later, s.next (.touch 0 (.unsubscribe 0)) = some s' ∧ Watch 0 s' rest later ∧
          received rest 1 = [{ data := some (.str "c") }] := by
    refine ⟨_, _, recorded_of_recording [.touch 0 .subscribe, .step 0, .step 1, .step 1, .step 0,
      .touch 0 .subscribe, .touch 0 .invalidate] rfl, ?_, by decide +kernel,
      by decide +kernel, by decide +kernel, by decide +kernel, _, _, _, rfl,
      recorded_of_recording [.step 2, .step 2] rfl, by decide +kernel⟩
    rintro ⟨t, a, there, tells⟩
    rcases t with _ | _ | _ | t <;> cases there <;> cases tells
  obtain ⟨-, ordered, latest, silent⟩ := observers_follow watched (by decide) rfl
  exact ⟨m, scenes, s, s', rest, later, watched, states, first, ordered 0,
    latest idle 1 (by simp [both]), ended, after, told,
    silent 0 s' rest later (by simp [two]) ended after⟩

end Crowd

end Refetch
