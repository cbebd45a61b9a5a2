/-
# Where results come from

A result that a reader gets was the answer to some request, or was stored, or came with an entry
that was added. Relative to a mark in a run it is `New` if that happened since, request and all, and
`Late` if it is the result of a fetch that was in flight at the mark. `Traced` says of every place
where a crowd keeps a result what it may be there: in entries, in the hands of leaders, on its way
to those who follow them, and with those who have returned.

The number that a caller gets when it joins a fetch is what tells who joined before the mark from
who joined since, so the numbers have to be in order: that they are is `Numbered`.
-/

import Refetch.Proofs.Crowd.Turn

namespace Refetch

/-- What can be seen of an entry: its data, its error, or that it has neither. -/
inductive Entry.Shows (e : Entry) : FetchResult Json → Prop
  | data {v : Json} (held : e.data = some v) : Shows e (.ok v)
  | error {x : FetchError} (held : e.error = some x) : Shows e (.error x)
  | nothing (data : e.data = none) (error : e.error = none) : Shows e (.ok .null)

namespace Crowd

/-- Every number that a caller of an entry bears was given out by the entry. -/
structure Numbered (s : Crowd) : Prop where
  queued : ∀ id, ∀ w ∈ (s.cache.entry id).waiters.getD [], w < (s.cache.entry id).joined
  mailed : ∀ id w r, ((id, w), r) ∈ s.cache.mail → w < (s.cache.entry id).joined
  owed : ∀ t key options found id r owed,
    s.actors t = some (.read key options found (.tellSettled id r owed)) →
      ∀ w ∈ owed, w < (s.cache.entry id).joined

variable {m s s' : Crowd} {log log' : List Deed} {event : Event}

theorem numbered_start (config : CacheConfig) {entries : List Entry}
    (idle : ∀ e ∈ entries, e.waiters = none) : (start config entries).Numbered where
  queued := by
    intro id w member
    have loading := Store.loading_ofEntries idle id
    rw [Entry.loading, Option.isSome_eq_false_iff, Option.isNone_iff_eq_none] at loading
    rw [Cache.entry, store_start, loading] at member
    cases member
  mailed := fun _ _ _ there => by cases there
  owed := fun _ _ _ _ _ _ _ there => by cases there

theorem Numbered.next (h : s.Numbered) (sound : s.Sound) (happened : s.next event = some s') :
    s'.Numbered where
  queued := fun id => (fate_of_next sound happened id).queued (h.queued id)
  mailed := by
    intro id w r there
    refine Nat.lt_of_lt_of_le ?_ (fate_of_next sound happened id).joined
    cases (alters_of_next happened).mailed there with
    | before there => exact h.mailed id w r there
    | told _ there owes => exact h.owed _ _ _ _ id r _ there w owes
    | cancelled _ queued => exact h.queued id w queued
  owed := by
    intro t key options found id r owed there w owes
    refine Nat.lt_of_lt_of_le ?_ (fate_of_next sound happened id).joined
    cases turn_of_next happened there with
    | kept was => exact h.owed t key options found id r owed was w owes
    | began _ _ outset => rcases outset with ⟨_, _, same⟩ | ⟨_, _, same⟩ <;> cases same
    | stepped _ _ goes _ =>
        cases goes
        exact h.queued id w owes
    | answered _ _ became => cases became
    | dropped _ _ became => rcases became with same | ⟨_, same, -⟩ <;> cases same

theorem Numbered.reaches {allowed : Crowd → Event → Prop} (h : s.Numbered) (sound : s.Sound)
    (reached : Reaches allowed s s') : s'.Numbered := by
  induction reached with
  | refl => exact h
  | next event before _ happened ih => exact ih.next (sound.reaches before) happened

/-- An actor has sent a request for an entry, and this is the answer. -/
def Answered (log : List Deed) (t : ActorId) (id : EntryId) (r : FetchResult Json) : Prop :=
  ∃ request, .asked t id request ∈ log ∧ .answered t id r ∈ log

/-- A result for an entry that was not there before: the answer to a request that was sent since, a
value that was stored since, or what an entry shows that was added since. -/
inductive New (log : List Deed) (id : EntryId) : FetchResult Json → Prop
  | fetched {t : ActorId} {r : FetchResult Json} (answered : Answered log t id r) : New log id r
  | stored {v : Json} (stored : .stored id v ∈ log) : New log id (.ok v)
  | added {e : Entry} {r : FetchResult Json} (inserted : .inserted id e ∈ log) (shows : e.Shows r) :
      New log id r

/-- A request for an entry was sent, and the answer to it was an error. -/
def Failed (log : List Deed) (id : EntryId) : Prop := ∃ t x, Answered log t id (.error x)

/-- The result of a fetch of an entry that an actor led at a mark: its request was outstanding, or
the answer had arrived but was not yet given to the entry. -/
inductive LateBy (m : Crowd) (log : List Deed) (t : ActorId) (id : EntryId) (r : FetchResult Json) :
    Prop
  | awaited {key : String} {options : FetchOptions} {found : Option EntryId}
      (was : m.actors t = some (.read key options found (.await id)))
      (answered : .answered t id r ∈ log)
  | settling {key : String} {options : FetchOptions} {found : Option EntryId}
      (was : m.actors t = some (.read key options found (.settle id r)))

/-- The result of the fetch of an entry that was in flight at a mark. -/
def Late (m : Crowd) (log : List Deed) (id : EntryId) (r : FetchResult Json) : Prop :=
  ∃ t, LateBy m log t id r

/-- A result for an entry that was not given to it before a mark. -/
def Came (m : Crowd) (log : List Deed) (id : EntryId) (r : FetchResult Json) : Prop :=
  New log id r ∨ Late m log id r

/-- An actor has come by the result of the fetch that it leads. -/
def Brings (m : Crowd) (log : List Deed) (t : ActorId) (id : EntryId) (r : FetchResult Json) :
    Prop :=
  Answered log t id r ∨ LateBy m log t id r

variable {t : ActorId} {id : EntryId} {r : FetchResult Json}

theorem Answered.mono (more : log ⊆ log') (h : Answered log t id r) : Answered log' t id r := by
  obtain ⟨request, asked, answered⟩ := h
  exact ⟨request, more asked, more answered⟩

theorem Answered.arrived (h : Answered log t id r) : .answered t id r ∈ log := by
  obtain ⟨_, -, answered⟩ := h
  exact answered

theorem New.mono (more : log ⊆ log') (h : New log id r) : New log' id r := by
  cases h with
  | fetched answered => exact .fetched (answered.mono more)
  | stored stored => exact .stored (more stored)
  | added inserted shows => exact .added (more inserted) shows

theorem Failed.mono (more : log ⊆ log') (h : Failed log id) : Failed log' id := by
  obtain ⟨t, x, answered⟩ := h
  exact ⟨t, x, answered.mono more⟩

theorem LateBy.mono (more : log ⊆ log') (h : LateBy m log t id r) : LateBy m log' t id r := by
  cases h with
  | awaited was answered => exact .awaited was (more answered)
  | settling was => exact .settling was

theorem Came.mono (more : log ⊆ log') (h : Came m log id r) : Came m log' id r := by
  rcases h with new | ⟨t, late⟩
  · exact Or.inl (new.mono more)
  · exact Or.inr ⟨t, late.mono more⟩

theorem Brings.mono (more : log ⊆ log') (h : Brings m log t id r) : Brings m log' t id r :=
  h.imp (.mono more) (.mono more)

theorem Brings.came (h : Brings m log t id r) : Came m log id r :=
  h.imp .fetched fun late => ⟨t, late⟩

theorem LateBy.leads (h : LateBy m log t id r) : m.leads t = some id := by
  cases h with
  | awaited was _ | settling was => exact congrArg (Option.bind · Actor.leads) was

/-- Who did not lead the fetch at the mark brings the answer to a request of its own. -/
theorem Brings.own (h : Brings m log t id r) (apart : m.leads t ≠ some id) :
    Answered log t id r :=
  h.resolve_right fun late => apart late.leads

/-- Only what was there at the mark has a fetch in flight then. -/
theorem Late.inside (h : Late m log id r) (sound : m.Sound) : id < m.cache.store.arena.size := by
  obtain ⟨t, late⟩ := h
  cases late with
  | awaited was _ | settling was =>
      obtain ⟨located, here⟩ := sound.fits t _ was
      exact (located id here).1

/-- What an entry shows was not all there at the mark: its data came since, or a fetch has failed
since. -/
structure Renewed (m : Crowd) (log : List Deed) (id : EntryId) (e : Entry) : Prop where
  data : (∀ v, e.data = some v → Came m log id (.ok v)) ∨ Failed log id
  nothing : e.data = none → e.error = none → Came m log id (.ok .null)

/-- Whoever holds data that came since is renewed. -/
theorem renewed_of_data {e : Entry} {v : Json} (held : e.data = some v)
    (came : Came m log id (.ok v)) : Renewed m log id e where
  data := by
    refine Or.inl fun other there => ?_
    rw [held] at there
    cases there
    exact came
  nothing := fun absent => by rw [held] at absent; cases absent

theorem renewed_of_settle {e : Entry} (came : Came m log id r)
    (failed : ∀ x, r = .error x → Renewed m log id e ∨ Failed log id) :
    Renewed m log id (e.settle r).1 := by
  cases r with
  | ok v => exact renewed_of_data rfl came
  | error x =>
      refine ⟨?_, fun _ absent => by cases absent⟩
      rcases failed x rfl with before | failed
      · exact before.data
      · exact Or.inr failed

/-- An entry that was added since is renewed. -/
theorem renewed_of_added {e : Entry} (added : .inserted id e ∈ log) : Renewed m log id e where
  data := Or.inl fun _ there => Or.inl (.added added (.data there))
  nothing := fun data error => Or.inl (.added added (.nothing data error))

/-- What an entry has been renewed by is not taken from it again. -/
theorem Renewed.next (h : Renewed m log id (s.cache.entry id)) {e' : Entry}
    (fate : Fate s event id e') (more : log ⊆ log')
    (settles : ∀ t key options found r, event = .step t →
      s.actors t = some (.read key options found (.settle id r)) → Came m log' id r)
    (remembers : s.deeds event ⊆ log') : Renewed m log' id e' := by
  have still : Renewed m log' id (s.cache.entry id) :=
    ⟨h.data.imp (fun came v there => (came v there).mono more) (.mono more),
      fun data error => (h.nothing data error).mono more⟩
  cases fate with
  | quiet same =>
      refine ⟨?_, ?_⟩
      · rw [same.data]
        exact still.data
      · rw [same.data, same.error]
        exact still.nothing
  | settled acts there became =>
      rw [became]
      exact renewed_of_settle (settles _ _ _ _ _ acts there) fun _ _ => Or.inl still
  | stored done became =>
      rw [became]
      exact renewed_of_data rfl (Or.inl (.stored (remembers done)))
  | inserted done _ _ => exact renewed_of_added (remembers done)

/-- What a reader may return that began since a mark: what came since, news that the fetch was
cancelled, data that were there already if a fetch has failed since, or an error that was there. -/
inductive Fair (m : Crowd) (log : List Deed) (id : EntryId) : FetchResult Json → Prop
  | came {r : FetchResult Json} (came : Came m log id r) : Fair m log id r
  | cancelled (key : String) : Fair m log id (.error (.cancelled key))
  | kept {v : Json} (held : (m.cache.entry id).data = some v) (failed : Failed log id) :
      Fair m log id (.ok v)
  | error {x : FetchError} (held : (m.cache.entry id).error = some x) : Fair m log id (.error x)

theorem Fair.mono (more : log ⊆ log') (h : Fair m log id r) : Fair m log' id r := by
  cases h with
  | came came => exact .came (came.mono more)
  | cancelled key => exact .cancelled key
  | kept held failed => exact .kept held (failed.mono more)
  | error held => exact .error held

/-- What may be in the hands of a reader, given what it has found. Of readers that began before the
mark this says only what others may get from them. -/
def Origin (m : Crowd) (log : List Deed) (c : Cache) (t : ActorId) (found : Option EntryId) :
    Reading → Prop
  | .locate .. | .create .. | .begin .. => m.leads t = none
  | .tellLoading .. | .ask .. | .abandon _ | .tellAbandoned _ | .done none => True
  | .await id => (∃ request, .asked t id request ∈ log) ∨
      ∃ key options found, m.actors t = some (.read key options found (.await id))
  | .settle id r => Brings m log t id r
  | .tellSettled id r owed => Brings m log t id r ∨
      (m.actors t ≠ none ∧ ∀ w ∈ owed, w < (m.cache.entry id).joined)
  | .follow id w => m.actors t = none → (m.cache.entry id).joined ≤ w
  | .peek id => (m.actors t = none → (m.cache.entry id).revalidatedAt = none →
      Renewed m log id (c.entry id))
  | .done (some r) => m.actors t = none → ∃ id, found = some id ∧
      ((m.cache.entry id).revalidatedAt = none →
        Fair m log id r ∧ ∀ request, .asked t id request ∈ log → .answered t id r ∈ log)

/-- An actor has sent a request, and not before a mark. -/
def SentSince (m s : Crowd) (t : ActorId) (request : Request) : Prop :=
  (t, request) ∈ s.sent ∧ (t, request) ∉ m.sent

/-- Since a mark, everything in a crowd comes from where it may. -/
structure Traced (m : Crowd) (log : List Deed) (s : Crowd) : Prop where
  data : ∀ id v, (s.cache.entry id).data = some v →
    Came m log id (.ok v) ∨ (m.cache.entry id).data = some v
  error : ∀ id x, (s.cache.entry id).error = some x →
    Came m log id (.error x) ∨ (m.cache.entry id).error = some x
  joined : ∀ id, (m.cache.entry id).joined ≤ (s.cache.entry id).joined
  /-- An entry that was stale at the mark and is fresh has been renewed, or is being fetched by
  somebody who began since. -/
  stamped : ∀ id, (m.cache.entry id).revalidatedAt = none →
    (s.cache.entry id).revalidatedAt ≠ none →
    ((s.cache.entry id).waiters = none ∨ ∃ t, m.leads t = some id ∧ s.leads t = some id) →
    Renewed m log id (s.cache.entry id)
  mailed : ∀ id w r, ((id, w), r) ∈ s.cache.mail →
    w < (m.cache.entry id).joined ∨ Came m log id r ∨ ∃ key, r = .error (.cancelled key)
  present : ∀ t, m.actors t ≠ none → s.actors t ≠ none
  sent : ∀ c ∈ m.sent, c ∈ s.sent
  asked : ∀ t id request, .asked t id request ∈ log →
    SentSince m s t request ∧ id < s.cache.store.arena.size ∧
      ∃ mode, request = .read (s.cache.entry id).key mode
  readers : ∀ t key options found r, s.actors t = some (.read key options found r) →
    Origin m log s.cache t found r

theorem traced_here (numbered : m.Numbered) : Traced m [] m where
  data := fun _ _ there => Or.inr there
  error := fun _ _ there => Or.inr there
  joined := fun _ => Nat.le_refl _
  stamped := fun _ absent stamped => absurd absent stamped
  mailed := fun id w r there => Or.inl (numbered.mailed id w r there)
  present := fun _ present => present
  sent := fun _ member => member
  asked := fun _ _ _ member => by cases member
  readers := by
    intro t key options found r there
    have present : m.actors t ≠ none := by rw [there]; exact Option.some_ne_none _
    cases r with
    | locate _ _ _ _ | create _ _ _ _ | begin _ _ _ _ => exact congrArg (Option.bind · _) there
    | tellLoading _ _ | ask _ _ | abandon _ | tellAbandoned _ => trivial
    | await id => exact Or.inr ⟨key, options, found, there⟩
    | settle id r => exact Or.inr (.settling there)
    | tellSettled id r owed =>
        exact Or.inr ⟨present, numbered.owed t key options found id r owed there⟩
    | follow _ _ | peek _ => exact fun absent => absurd absent present
    | done r =>
        cases r with
        | none => trivial
        | some r => exact fun absent => absurd absent present

section
variable (h : Traced m log s)
include h

theorem Traced.settles {key : String} {options : FetchOptions} {found : Option EntryId}
    (there : s.actors t = some (.read key options found (.settle id r))) :
    Came m (log ++ s.deeds event) id r :=
  (h.readers t key options found _ there).came.mono (List.subset_append_left _ _)

/-- Who led a fetch at the mark and leads it still has led it all the time. -/
theorem Traced.leads_before (happened : s.next event = some s') (led : m.leads t = some id)
    (leading : s'.leads t = some id) : s.leads t = some id := by
  rw [leads, Option.bind_eq_some_iff] at leading
  obtain ⟨a, there, leading⟩ := leading
  cases a with
  | read key options found r' =>
      rcases (turn_of_next happened there).leads leading with before | ⟨-, _, _, _, _, was⟩
      · exact before
      · have idle : m.leads t = none := h.readers t _ _ _ _ was
        rw [led] at idle
        cases idle
  | write _ | tend _ | gone => cases leading

theorem Traced.renewed (sound : s.Sound) (happened : s.next event = some s')
    (renewed : Renewed m log id (s.cache.entry id)) :
    Renewed m (log ++ s.deeds event) id (s'.cache.entry id) :=
  renewed.next (fate_of_next sound happened id) (List.subset_append_left _ _)
    (fun _ _ _ _ _ _ there => h.settles there) (List.subset_append_right _ _)

theorem Traced.data_next (sound : s.Sound) (happened : s.next event = some s') {v : Json}
    (held : (s'.cache.entry id).data = some v) :
    Came m (log ++ s.deeds event) id (.ok v) ∨ (m.cache.entry id).data = some v := by
  have old : (s.cache.entry id).data = some v →
      Came m (log ++ s.deeds event) id (.ok v) ∨ (m.cache.entry id).data = some v :=
    fun there => (h.data id v there).imp_left (.mono (List.subset_append_left _ _))
  cases fate_of_next sound happened id with
  | quiet still => exact old (still.data.symm.trans held)
  | @settled _ _ _ _ result _ there became =>
      rw [became] at held
      cases result with
      | ok value =>
          cases held
          exact Or.inl (h.settles there)
      | error _ => exact old held
  | stored done became =>
      rw [became] at held
      cases held
      exact Or.inl (Or.inl (.stored (List.mem_append_right _ done)))
  | inserted done _ _ =>
      exact Or.inl (Or.inl (.added (List.mem_append_right _ done) (.data held)))

theorem Traced.error_next (sound : s.Sound) (happened : s.next event = some s') {x : FetchError}
    (held : (s'.cache.entry id).error = some x) :
    Came m (log ++ s.deeds event) id (.error x) ∨ (m.cache.entry id).error = some x := by
  have old : (s.cache.entry id).error = some x →
      Came m (log ++ s.deeds event) id (.error x) ∨ (m.cache.entry id).error = some x :=
    fun there => (h.error id x there).imp_left (.mono (List.subset_append_left _ _))
  cases fate_of_next sound happened id with
  | quiet still => exact old (still.error.symm.trans held)
  | @settled _ _ _ _ result _ there became =>
      rw [became] at held
      cases result with
      | ok _ => cases held
      | error _ =>
          cases held
          exact Or.inl (h.settles there)
  | stored _ became =>
      rw [became] at held
      cases held
  | inserted done _ _ =>
      exact Or.inl (Or.inl (.added (List.mem_append_right _ done) (.error held)))

theorem Traced.stamped_next (sound : s.Sound) (happened : s.next event = some s')
    (stale : (m.cache.entry id).revalidatedAt = none)
    (stamped : (s'.cache.entry id).revalidatedAt ≠ none)
    (settled : (s'.cache.entry id).waiters = none ∨
      ∃ t, m.leads t = some id ∧ s'.leads t = some id) :
    Renewed m (log ++ s.deeds event) id (s'.cache.entry id) := by
  have led : ∀ t, m.leads t = some id → s'.leads t = some id → s.leads t = some id :=
    fun _ => h.leads_before happened
  cases fate_of_next sound happened id with
  | quiet still =>
      rcases still.stamped stamped with ⟨before, idle⟩ | ⟨idle, flies⟩
      · refine h.renewed sound happened (h.stamped id stale before ?_)
        exact settled.imp idle fun ⟨t, was, leading⟩ => ⟨t, was, led t was leading⟩
      · -- a fetch began just now, and its leader did not lead at the mark
        obtain ⟨t, was, leading⟩ := settled.resolve_left flies
        have loading := (sound.led.loading_iff id).mpr ⟨t, led t was leading⟩
        rw [Entry.loading, show (s.cache.store.entry id).waiters = none from idle] at loading
        cases loading
  | @settled t _ _ _ result acts there became =>
      have leading : s.leads t = some id := by rw [leads, there]; rfl
      rw [became]
      refine renewed_of_settle (h.settles there) ?_
      intro x same
      by_cases was : m.leads t = some id
      · left
        have before : (s.cache.entry id).revalidatedAt ≠ none := by
          rw [became, same] at stamped
          exact stamped
        have renewed := h.stamped id stale before (Or.inr ⟨t, was, leading⟩)
        exact renewed.next (.quiet (.refl _)) (List.subset_append_left _ _)
          (fun _ _ _ _ _ _ there => h.settles there) (List.subset_append_right _ _)
      · right
        have answered : Answered log t id result := (h.readers t _ _ _ _ there).own was
        rw [same] at answered
        exact ⟨t, x, answered.mono (List.subset_append_left _ _)⟩
  | stored done became =>
      rw [became]
      exact renewed_of_data rfl (Or.inl (.stored (List.mem_append_right _ done)))
  | inserted done _ _ => exact renewed_of_added (List.mem_append_right _ done)

theorem Traced.mailed_next (happened : s.next event = some s') {w : WaiterId}
    (there : ((id, w), r) ∈ s'.cache.mail) :
    w < (m.cache.entry id).joined ∨ Came m (log ++ s.deeds event) id r ∨
      ∃ key, r = .error (.cancelled key) := by
  have more : ∀ {r}, Came m log id r → Came m (log ++ s.deeds event) id r :=
    .mono (List.subset_append_left _ _)
  cases (alters_of_next happened).mailed there with
  | before there => exact (h.mailed id w r there).imp_right (.imp_left more)
  | told _ there owes =>
      rcases h.readers _ _ _ _ _ there with brings | ⟨-, old⟩
      · exact Or.inr (Or.inl (more brings.came))
      · exact Or.inl (old w owes)
  | cancelled result _ => exact Or.inr (Or.inr ⟨_, result⟩)

theorem Traced.asked_next (sound : s.Sound) (happened : s.next event = some s') {request : Request}
    (asked : .asked t id request ∈ log ++ s.deeds event) :
    SentSince m s' t request ∧ id < s'.cache.store.arena.size ∧
      ∃ mode, request = .read (s'.cache.entry id).key mode := by
  obtain ⟨-, _, _, advance⟩ := sound.next happened
  have kept : id < s.cache.store.arena.size → ∀ mode, request = .read (s.cache.entry id).key mode →
      id < s'.cache.store.arena.size ∧ ∃ mode, request = .read (s'.cache.entry id).key mode := by
    intro inside mode same
    refine ⟨Nat.lt_of_lt_of_le inside advance.size, mode, ?_⟩
    rw [same, Cache.entry, Cache.entry, advance.key id inside]
  rcases List.mem_append.mp asked with before | now
  · obtain ⟨⟨sent, since⟩, inside, mode, same⟩ := h.asked t id request before
    exact ⟨⟨sent_of_next happened sent, since⟩, kept inside mode same⟩
  · cases remembered_of_mem now with
    | @asked _ _ _ _ mode _ there =>
        obtain ⟨located, -, here⟩ := sound.fits t _ there
        -- who is about to ask has sent nothing yet, at the mark least of all
        have since : ∀ request, (t, request) ∉ m.sent := by
          intro request early
          obtain ⟨_, was, sent⟩ := sound.sent _ (h.sent _ early)
          rw [there] at was
          cases was
          cases sent.1
        obtain ⟨_, _, _, stepped, rfl⟩ := step_of_next there happened
        refine ⟨⟨?_, since _⟩, kept (located id here).1 mode rfl⟩
        cases stepped
        exact List.mem_append_right _ (by simp [requestsOf])

/-- What a reader has in its hands that an event does nothing to. -/
theorem Traced.kept (sound : s.Sound) (happened : s.next event = some s') {key : String}
    {options : FetchOptions} {found : Option EntryId} {r : Reading}
    (was : s.actors t = some (.read key options found r)) :
    Origin m (log ++ s.deeds event) s'.cache t found r := by
  have more : log ⊆ log ++ s.deeds event := List.subset_append_left _ _
  have origin := h.readers t key options found r was
  cases r with
  | locate _ _ _ _ | create _ _ _ _ | begin _ _ _ _ | tellLoading _ _ | ask _ _ | abandon _
  | tellAbandoned _ | follow _ _ => exact origin
  | await id =>
      refine origin.imp_left ?_
      rintro ⟨request, asked⟩
      exact ⟨request, more asked⟩
  | settle id r => exact origin.mono more
  | tellSettled id r owed => exact origin.imp_left (.mono more)
  | peek id => exact fun absent stale => h.renewed sound happened (origin absent stale)
  | done r =>
      cases r with
      | none => trivial
      | some r =>
          intro absent
          obtain ⟨id, here, returned⟩ := origin absent
          refine ⟨id, here, fun stale => ?_⟩
          obtain ⟨fair, answered⟩ := returned stale
          refine ⟨fair.mono more, fun request asked => ?_⟩
          rcases List.mem_append.mp asked with before | now
          · exact more (answered request before)
          · cases remembered_of_mem now with
            | asked there =>
                rw [was] at there
                cases there

/-- A reader that has not come to ask has sent no request. -/
theorem Traced.never_asked (sound : s.Sound) {key : String} {options : FetchOptions}
    {found : Option EntryId} {r : Reading}
    (was : s.actors t = some (.read key options found r)) (unasked : r.asked = false)
    (not_now : ∀ mode id, r ≠ .ask mode id) (request : Request) :
    .asked t id request ∉ log ++ s.deeds event := by
  intro asked
  rcases List.mem_append.mp asked with before | now
  · obtain ⟨_, there, sent⟩ := sound.sent _ (h.asked t id request before).1.1
    rw [was] at there
    cases there
    exact absurd sent.1 (by simp [unasked])
  · cases remembered_of_mem now with
    | @asked _ _ _ _ mode _ there =>
        rw [was] at there
        cases there
        exact not_now mode id rfl

/-- Who takes what is cached, after having been told that it is fresh, returns what it may. -/
theorem Traced.fair_of_snapshot (renewed : Renewed m log id (s.cache.entry id)) :
    Fair m log id (s.cache.entry id).snapshot.result := by
  cases data : (s.cache.entry id).data with
  | some v =>
      have shown : (s.cache.entry id).snapshot.result = .ok v := by
        simp [Entry.snapshot, Snapshot.result, data]
      rw [shown]
      rcases h.data id v data with came | held
      · exact .came came
      · rcases renewed.data with came | failed
        · exact .came (came v data)
        · exact .kept held failed
  | none =>
      cases error : (s.cache.entry id).error with
      | some x =>
          have shown : (s.cache.entry id).snapshot.result = .error x := by
            simp [Entry.snapshot, Snapshot.result, data, error]
          rw [shown]
          rcases h.error id x error with came | held
          · exact .came came
          · exact .error held
      | none =>
          have shown : (s.cache.entry id).snapshot.result = .ok .null := by
            simp [Entry.snapshot, Snapshot.result, data, error]
          rw [shown]
          exact .came (renewed.nothing data error)

theorem Traced.stepped (sound : s.Sound) {key : String} {options : FetchOptions}
    {before : Option EntryId} {r r' : Reading} (happened : s.next (.step t) = some s')
    (was : s.actors t = some (.read key options before r)) (goes : r.Goes s.cache r') :
    Origin m (log ++ s.deeds (.step t)) s'.cache t (r'.entry?.or before) r' := by
  have more : log ⊆ log ++ s.deeds (.step t) := List.subset_append_left _ _
  have origin := h.readers t key options before r was
  have fits := (sound.fits t _ was).2
  cases goes with
  | found _ | missed _ _ _ _ | made _ => exact origin
  | leads _ | leaves _ _ _ _ | asks _ _ | abandoned _ | ended _ => trivial
  | follows _ _ _ id => exact fun _ => h.joined id
  | @spared _ _ _ id idle stamped =>
      exact fun _ stale => h.renewed sound happened (h.stamped id stale stamped (Or.inl idle))
  | awaits _ => cases fits.1
  | asked mode id =>
      have now : .asked t id (.read (s.cache.entry id).key mode) ∈ s.deeds (.step t) := by
        simp [deeds, was]
      exact Or.inl ⟨_, List.mem_append_right _ now⟩
  | settled id r => exact Or.inl (origin.mono more)
  | told id r owed =>
      intro absent
      have brings := origin.resolve_right fun old => old.1 absent
      have own := (brings.own (by simp [Crowd.leads, absent])).mono more
      exact ⟨id, fits, fun _ => ⟨.came (Or.inl (.fetched own)), fun _ _ => own.arrived⟩⟩
  | @received id w r there =>
      intro absent
      refine ⟨id, fits, fun _ => ⟨?_, fun request asked => ?_⟩⟩
      · rcases h.mailed id w r there with old | came | ⟨key, rfl⟩
        · exact absurd (origin absent) (Nat.not_le_of_lt old)
        · exact .came (came.mono more)
        · exact .cancelled key
      · exact absurd asked (h.never_asked sound was rfl (by simp) request)
  | peeked id =>
      intro absent
      refine ⟨id, fits, fun stale => ⟨?_, fun request asked => ?_⟩⟩
      · exact (h.fair_of_snapshot (origin absent stale)).mono more
      · exact absurd asked (h.never_asked sound was rfl (by simp) request)

theorem Traced.readers_next (sound : s.Sound) (happened : s.next event = some s') {key : String}
    {options : FetchOptions} {found : Option EntryId} {r' : Reading}
    (there : s'.actors t = some (.read key options found r')) :
    Origin m (log ++ s.deeds event) s'.cache t found r' := by
  cases turn_of_next happened there with
  | kept was => exact h.kept sound happened was
  | began _ absent outset =>
      have idle : m.leads t = none := by
        by_cases present : m.actors t = none
        · rw [leads, present]
          rfl
        · exact absurd absent (h.present t present)
      rcases outset with ⟨_, _, rfl⟩ | ⟨_, _, rfl⟩ <;> exact idle
  | stepped acts was goes finds =>
      subst acts
      subst finds
      exact h.stepped sound happened was goes
  | @answered id result acts was became =>
      subst acts
      subst became
      have answered : .answered t id result ∈ log ++ s.deeds (.answer t result) :=
        List.mem_append_right _ (by simp [deeds, was])
      rcases h.readers t _ _ _ _ was with ⟨request, asked⟩ | ⟨_, _, _, before⟩
      · exact Or.inl ⟨request, List.mem_append_left _ asked, answered⟩
      · exact Or.inr (.awaited before answered)
  | dropped _ _ became => rcases became with rfl | ⟨_, rfl, -⟩ <;> trivial

theorem Traced.next (sound : s.Sound) (happened : s.next event = some s') :
    Traced m (log ++ s.deeds event) s' where
  data := fun _ _ held => h.data_next sound happened held
  error := fun _ _ held => h.error_next sound happened held
  joined := fun id => Nat.le_trans (h.joined id) (fate_of_next sound happened id).joined
  stamped := fun _ stale stamped settled => h.stamped_next sound happened stale stamped settled
  mailed := fun _ _ _ there => h.mailed_next happened there
  present := fun t present => present_of_next happened (h.present t present)
  sent := fun c member => sent_of_next happened (h.sent c member)
  asked := fun _ _ _ asked => h.asked_next sound happened asked
  readers := fun _ _ _ _ _ there => h.readers_next sound happened there

end

/-- In all that comes after a mark, everything comes from where it may. -/
theorem Passage.traced (passed : Passage m log s) (sound : m.Sound) (numbered : m.Numbered) :
    Traced m log s := by
  induction passed with
  | here => exact traced_here numbered
  | next _ before happened ih => exact ih.next (before.sound sound) happened

end Crowd

end Refetch
