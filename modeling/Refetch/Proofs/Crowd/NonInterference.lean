/-
# Keys do not interfere

What is done for other keys can be left out of a run: with the reads and seeds of other keys go the
answers to them and their cancellations, while writes, invalidations and resets stay, since they are
about all keys. Nothing changes for the key that is left. The two runs are followed side by side:
whoever is left out of the second acts in the first alone, on entries of other keys, and whoever is
left does the same in both.
-/

import Refetch.Proofs.Crowd.Lockstep

namespace Refetch

open Store

/-- An errand is about a key, or about all keys, given who else is. -/
def Errand.concerns (key : String) (kept : List ActorId) : Errand → Bool
  | .get k options _ | .query k options _ => computeKey k options.params = key
  | .seed k params _ _ => computeKey k params = key
  | .tick of _ => of ∈ kept
  | .write _ | .invalidate _ | .reset => true

namespace Event

/-- An event is about a key, or about all keys, given which of the actors are. -/
def concerns (key : String) (kept : List ActorId) : Event → Bool
  | .start _ errand => errand.concerns key kept
  | .step t | .answer t _ | .drop t => t ∈ kept
  | .touch _ _ | .insert _ => true

/-- The event is one in the course of an operation, and nobody reaches past the cache. -/
def operates : Event → Bool
  | .touch _ _ | .insert _ => false
  | _ => true

/-- Who is kept once an event was. -/
def keeps (kept : List ActorId) : Event → List ActorId
  | .start t _ => t :: kept
  | _ => kept

/-- A run without all that is only about other keys than the given one. -/
def prune (key : String) (kept : List ActorId) : List Event → List Event
  | [] => []
  | event :: rest =>
    if event.concerns key kept then event :: prune key (event.keeps kept) rest
    else prune key kept rest

end Event

namespace Crowd

variable {key : String} {R : EntryId → EntryId → Prop} {kept : List ActorId}
  {s s' p : Crowd} {event : Event}

/-- The second crowd is the first without those who have only to do with other keys. -/
structure Pruned (key : String) (R : EntryId → EntryId → Prop) (kept : List ActorId)
    (s p : Crowd) : Prop where
  sound : s.Sound
  numbered : s.Numbered
  sound' : p.Sound
  numbered' : p.Numbered
  agree : s.cache.Agree key R p.cache
  alike : ∀ t ∈ kept, ∃ a b, s.actors t = some a ∧ p.actors t = some b ∧ a.Alike key R b
  absent : ∀ t ∉ kept, p.actors t = none
  apart : ∀ t ∉ kept, ∀ a, s.actors t = some a → a.Apart key s.cache.store
  calls : p.calls = s.calls.filter (·.1 ∈ kept)
  sent : p.sent = s.sent.filter (·.1 ∈ kept)

theorem Numbered.tidy (numbered : s.Numbered) (sound : s.Sound) : s.cache.Tidy where
  built := sound.built
  posted := by
    rintro ⟨⟨i, w⟩, r⟩ member
    by_contra outside
    have given := numbered.mailed i w r member
    rw [Cache.entry, entry_of_size_le _ _ (Nat.le_of_not_lt outside)] at given
    exact Nat.not_lt_zero w given

/-- Who has not set out yet in the first crowd has not in the second. -/
theorem Pruned.away (h : Pruned key R kept s p) {t : ActorId} (absent : s.actors t = none) :
    t ∉ kept := by
  intro member
  obtain ⟨a, _, there, -⟩ := h.alike t member
  rw [absent] at there
  cases there

/-- Who is kept does the same in the second crowd. -/
theorem Pruned.twin (h : Pruned key R kept s p) {t : ActorId} {a : Actor} (member : t ∈ kept)
    (there : s.actors t = some a) : ∃ b, p.actors t = some b ∧ a.Alike key R b := by
  obtain ⟨_, b, was, there', alike⟩ := h.alike t member
  rw [there] at was
  cases was
  exact ⟨b, there', alike⟩

/-- One who has to do with another key only becomes another such. -/
theorem Pruned.left (h : Pruned key R kept s p) (happened : s.next event = some s') {t : ActorId}
    {a' : Actor} (out : t ∉ kept) (agree : s'.cache.Agree key R p.cache)
    (apart : a'.Apart key s'.cache.store)
    (actors : ∀ u, s'.actors u = if u = t then some a' else s.actors u)
    (calls : s'.calls.filter (·.1 ∈ kept) = s.calls.filter (·.1 ∈ kept))
    (sent : s'.sent.filter (·.1 ∈ kept) = s.sent.filter (·.1 ∈ kept)) :
    Pruned key R kept s' p := by
  obtain ⟨sound, _, _, advance⟩ := h.sound.next happened
  refine ⟨sound, h.numbered.next h.sound happened, h.sound', h.numbered', agree, ?_, h.absent, ?_,
    h.calls.trans calls.symm, h.sent.trans sent.symm⟩
  · intro u member
    have other : u ≠ t := fun same => out (same ▸ member)
    rw [actors, if_neg other]
    exact h.alike u member
  · intro u away b there
    rw [actors] at there
    split at there
    next =>
      cases there
      exact apart
    next => exact (h.apart u away b there).advance advance

theorem filter_hangUp {calls : List (ActorId × Request)} {t : ActorId} (out : t ∉ kept) :
    (calls.filter (·.1 ≠ t)).filter (·.1 ∈ kept) = calls.filter (·.1 ∈ kept) := by
  rw [List.filter_filter]
  refine List.filter_congr fun c _ => ?_
  by_cases member : c.1 ∈ kept
  · have other : c.1 ≠ t := fun same => out (same ▸ member)
    simp [member, other]
  · simp [member]

theorem filter_sent {calls : List (ActorId × Request)} {t : ActorId} (out : t ∉ kept)
    (requests : List Request) :
    (calls ++ requests.map (t, ·)).filter (·.1 ∈ kept) = calls.filter (·.1 ∈ kept) := by
  simp [List.filter_append, List.filter_map, Function.comp_def, out]

/-- What is only about other keys leaves no trace. -/
theorem Pruned.next_left (h : Pruned key R kept s p) (happened : s.next event = some s')
    (out : event.concerns key kept = false) : Pruned key R kept s' p := by
  cases outcome_of_next happened with
  | touch _ _ | insert _ => cases out
  | @start t errand a absent sets_out =>
      refine h.left happened (h.away absent) h.agree ?_ (fun _ => rfl) rfl rfl
      cases errand with
      | get k options now | query k options now =>
          cases sets_out
          exact of_decide_eq_false out
      | seed k params value now =>
          cases sets_out
          exact of_decide_eq_false out
      | tick of now =>
          simp only [setOut] at sets_out
          split at sets_out
          next there =>
            cases sets_out
            have apart := h.apart of (of_decide_eq_false out) _ there
            exact apart
          next => cases sets_out
      | write _ | invalidate _ | reset => cases out
  | @step t a a' cache effects there stepped =>
      have away : t ∉ kept := of_decide_eq_false out
      obtain ⟨agree, apart⟩ :=
        (h.apart t away a there).step h.agree h.sound.built (h.sound.fits t a there) stepped
      exact h.left happened away agree apart (fun _ => rfl) (filter_sent away _)
        (filter_sent away _)
  | @answer t a result there =>
      have away : t ∉ kept := of_decide_eq_false out
      exact h.left happened away h.agree ((h.apart t away a there).answered result) (fun _ => rfl)
        (filter_hangUp away) rfl
  | @drop t a a' there dropped =>
      have away : t ∉ kept := of_decide_eq_false out
      exact h.left happened away h.agree ((h.apart t away a there).dropped dropped) (fun _ => rfl)
        (filter_hangUp away) rfl

/-- Two that have to do with the key become two others that do the same. -/
theorem Pruned.both {p' : Crowd} {R' : EntryId → EntryId → Prop} {kept' : List ActorId}
    (h : Pruned key R kept s p) (happened : s.next event = some s')
    (happened' : p.next event = some p') {t : ActorId} {a' b' : Actor}
    (more : ∀ i j, R i j → R' i j) (agree : s'.cache.Agree key R' p'.cache)
    (alike : a'.Alike key R' b')
    (actors : ∀ u, s'.actors u = if u = t then some a' else s.actors u)
    (actors' : ∀ u, p'.actors u = if u = t then some b' else p.actors u)
    (keeps : ∀ u, u ∈ kept' ↔ u = t ∨ u ∈ kept)
    (calls : p'.calls = s'.calls.filter (·.1 ∈ kept'))
    (sent : p'.sent = s'.sent.filter (·.1 ∈ kept')) : Pruned key R' kept' s' p' := by
  obtain ⟨sound, _, _, advance⟩ := h.sound.next happened
  refine ⟨sound, h.numbered.next h.sound happened, (h.sound'.next happened').1,
    h.numbered'.next h.sound' happened', agree, ?_, ?_, ?_, calls, sent⟩
  · intro u member
    rw [actors, actors']
    by_cases self : u = t
    · exact ⟨a', b', if_pos self, if_pos self, alike⟩
    · obtain ⟨a, b, there, there', same⟩ := h.alike u (((keeps u).mp member).resolve_left self)
      exact ⟨a, b, by rw [if_neg self, there], by rw [if_neg self, there'], same.mono more⟩
  · intro u away
    obtain ⟨self, out⟩ := not_or.mp (mt (keeps u).mpr away)
    rw [actors', if_neg self]
    exact h.absent u out
  · intro u away a there
    obtain ⟨self, out⟩ := not_or.mp (mt (keeps u).mpr away)
    rw [actors, if_neg self] at there
    exact (h.apart u out a there).advance advance

/-- Who sets out for the key, or for all keys, sets out to do the same. -/
theorem Pruned.setOut (h : Pruned key R kept s p) {errand : Errand} {a : Actor}
    (concerns : errand.concerns key kept = true) (sets_out : s.setOut errand = some a) :
    ∃ b, p.setOut errand = some b ∧ a.Alike key R b := by
  cases errand with
  | get k options now =>
      cases sets_out
      have computed : computeKey k options.params = key := of_decide_eq_true concerns
      exact ⟨_, rfl, .read computed .none (.locate .value now computed)⟩
  | query k options now =>
      cases sets_out
      have computed : computeKey k options.params = key := of_decide_eq_true concerns
      exact ⟨_, rfl, .read computed .none (.locate .background now computed)⟩
  | seed k params value now =>
      cases sets_out
      exact ⟨_, rfl, .tend (.locate value now (of_decide_eq_true concerns))⟩
  | write w =>
      cases sets_out
      exact ⟨_, rfl, .write (.same _)⟩
  | invalidate bases =>
      cases sets_out
      exact ⟨_, rfl, .tend (.stale bases)⟩
  | reset =>
      cases sets_out
      exact ⟨_, rfl, .tend .clear⟩
  | tick of now =>
      obtain ⟨first, second, there, there', alike⟩ := h.alike of (of_decide_eq_true concerns)
      simp only [Crowd.setOut, there] at sets_out
      split at sets_out
      next same =>
        cases sets_out
        cases same
        cases alike with
        | read computed finds alike =>
            cases finds with
            | some r =>
                exact ⟨.read _ _ (some _) (.begin .tick _ now _),
                  by simp only [Crowd.setOut, there'],
                  .read computed (.some r) (.begin .tick _ now r)⟩
      next => cases sets_out

theorem filter_keeps {calls : List (ActorId × Request)} {t : ActorId}
    (none : ∀ c ∈ calls, c.1 ≠ t) :
    calls.filter (·.1 ∈ t :: kept) = calls.filter (·.1 ∈ kept) :=
  List.filter_congr fun c member => by simp [none c member]

theorem filter_kept {calls : List (ActorId × Request)} {t : ActorId} (member : t ∈ kept)
    (requests : List Request) :
    calls.filter (·.1 ∈ kept) ++ requests.map (t, ·) =
      (calls ++ requests.map (t, ·)).filter (·.1 ∈ kept) := by
  simp [List.filter_append, List.filter_map, Function.comp_def, member]

theorem Pruned.calls_hangUp (h : Pruned key R kept s p) (t : ActorId) :
    (p.hangUp t).calls = (s.hangUp t).calls.filter (·.1 ∈ kept) := by
  simp only [hangUp, h.calls, List.filter_filter]
  exact List.filter_congr fun c _ => Bool.and_comm _ _

/-- Who is kept waits for an answer in the second crowd as well. -/
theorem Pruned.waits (h : Pruned key R kept s p) {t : ActorId} (member : t ∈ kept)
    (outstanding : s.calls.any (·.1 = t) = true) : p.calls.any (·.1 = t) = true := by
  obtain ⟨c, calling, same⟩ := List.any_eq_true.mp outstanding
  rw [h.calls]
  refine List.any_eq_true.mpr ⟨c, List.mem_filter.mpr ⟨calling, decide_eq_true ?_⟩, same⟩
  rw [of_decide_eq_true same]
  exact member

/-- What is about the key, or about all keys, happens in both crowds. -/
theorem Pruned.next_both (h : Pruned key R kept s p) (happened : s.next event = some s')
    (operates : event.operates = true) (concerns : event.concerns key kept = true) :
    ∃ R' p', p.next event = some p' ∧ Pruned key R' (event.keeps kept) s' p' := by
  have stays {t : ActorId} (member : t ∈ kept) (u : ActorId) : u ∈ kept ↔ u = t ∨ u ∈ kept :=
    ⟨Or.inr, fun here => here.elim (fun same => same ▸ member) id⟩
  cases outcome_of_next happened with
  | touch _ _ | insert _ => cases operates
  | @start t errand a absent sets_out =>
      obtain ⟨b, sets_out', alike⟩ := h.setOut concerns sets_out
      have nothing {a : Actor} (there : s.actors t = some a) : False := by
        rw [absent] at there
        cases there
      have happened' : p.next (.start t errand) = some (p.become t b) := by
        simp only [next, h.absent t (h.away absent), sets_out', Option.map_some]
      refine ⟨R, _, happened', h.both happened happened' (fun _ _ r => r) h.agree alike
        (fun _ => rfl) (fun _ => rfl) (fun _ => List.mem_cons) ?_ ?_⟩
      · refine h.calls.trans (filter_keeps ?_).symm
        rintro c member rfl
        obtain ⟨_, there, -⟩ := h.sound.waits c member
        exact nothing there
      · refine h.sent.trans (filter_keeps ?_).symm
        rintro c member rfl
        obtain ⟨_, there, -⟩ := h.sound.sent c member
        exact nothing there
  | @step t a a' cache effects there stepped =>
      have member : t ∈ kept := of_decide_eq_true concerns
      obtain ⟨b, there', alike⟩ := h.twin member there
      obtain ⟨R', d, b', effects', more, stepped', agree, alike', requests⟩ :=
        alike.answers h.agree (h.numbered.tidy h.sound) (h.numbered'.tidy h.sound') stepped
      have happened' : p.next (.step t) = some (p.after t d b' effects') := by
        simp only [next, there', Option.bind_some, stepped', Option.map_some]
      refine ⟨R', _, happened', h.both happened happened' more agree alike' (fun _ => rfl)
        (fun _ => rfl) (stays member) ?_ ?_⟩
      · show p.calls ++ (requestsOf effects').map (t, ·) = _
        rw [h.calls, requests]
        exact filter_kept member _
      · show p.sent ++ (requestsOf effects').map (t, ·) = _
        rw [h.sent, requests]
        exact filter_kept member _
  | @answer t a result there =>
      have member : t ∈ kept := of_decide_eq_true concerns
      obtain ⟨b, there', alike⟩ := h.twin member there
      have outstanding : s.calls.any (·.1 = t) = true := by
        by_contra none
        simp [next, none] at happened
      have waits := h.waits member outstanding
      have happened' : p.next (.answer t result) =
          some ((p.hangUp t).become t (b.answered result)) := by
        simp only [next, waits, if_true, there', Option.map_some]
      exact ⟨R, _, happened', h.both happened happened' (fun _ _ r => r) h.agree
        (alike.answered result) (fun _ => rfl) (fun _ => rfl) (stays member) (h.calls_hangUp t)
        h.sent⟩
  | @drop t a a' there dropped =>
      have member : t ∈ kept := of_decide_eq_true concerns
      obtain ⟨b, there', alike⟩ := h.twin member there
      obtain ⟨b', dropped', alike'⟩ := alike.dropped dropped
      have happened' : p.next (.drop t) = some ((p.hangUp t).become t b') := by
        simp only [next, there', Option.bind_some, dropped', Option.map_some]
      exact ⟨R, _, happened', h.both happened happened' (fun _ _ r => r) h.agree alike'
        (fun _ => rfl) (fun _ => rfl) (stays member) (h.calls_hangUp t)
        h.sent⟩

/-- What a key comes to in a crowd. -/
@[ext]
structure Aspect where
  /-- The outcomes of the reads of the key that are over. -/
  outcomes : ActorId → Option (Option (FetchResult Json))
  /-- The read requests that were sent for the key. -/
  requests : List (ActorId × Request)
  /-- Whether an invalidation, or a write, has reported the key. -/
  reports : ActorId → Bool
  /-- The entry of the key. -/
  entry : Option Entry

def aspect (s : Crowd) (key : String) : Aspect where
  outcomes t := match s.actors t with
    | some (.read k options _ (.done result)) =>
      if computeKey k options.params = key then some result else none
    | _ => none
  requests := s.sent.filter fun c => c.2.method = .get ∧ c.2.url = key
  reports t := match s.actors t with
    | some (.tend (.tellStale keys)) | some (.tend (.done keys)) | some (.write (.tell _ _ keys)) =>
      key ∈ keys
    | _ => false
  entry := (s.cache.store.find? key).map s.cache.entry

theorem Pruned.outcomes (h : Pruned key R kept s p) :
    (p.aspect key).outcomes = (s.aspect key).outcomes := by
  funext t
  by_cases member : t ∈ kept
  · obtain ⟨a, b, there, there', alike⟩ := h.alike t member
    simp only [aspect, there, there']
    cases alike with
    | read computed finds alike => cases alike <;> rfl
    | write _ | tend _ | gone => rfl
  · simp only [aspect, h.absent t member]
    cases there : s.actors t with
    | none => rfl
    | some a =>
        have apart := h.apart t member a there
        cases a with
        | read k options found r =>
            cases r with
            | done result => exact (if_neg apart).symm
            | _ => rfl
        | write _ | tend _ | gone => rfl

theorem Pruned.requests (h : Pruned key R kept s p) :
    (p.aspect key).requests = (s.aspect key).requests := by
  simp only [aspect, h.sent, List.filter_filter]
  refine List.filter_congr fun c member => ?_
  by_cases asked : c.2.method = .get ∧ c.2.url = key
  · have here : c.1 ∈ kept := by
      by_contra away
      obtain ⟨a, there, sent⟩ := h.sound.sent c member
      have apart := h.apart c.1 away a there
      cases a with
      | read k options found r =>
          refine apart ?_
          rw [← asked.2, sent.2]
          rfl
      | tend _ => exact sent
      | write _ | gone => exact apart
    simp [asked, here]
  · simp [asked]

theorem Pruned.reports (h : Pruned key R kept s p) :
    (p.aspect key).reports = (s.aspect key).reports := by
  funext t
  by_cases member : t ∈ kept
  · obtain ⟨a, b, there, there', alike⟩ := h.alike t member
    simp only [aspect, there, there']
    cases alike with
    | read _ _ _ | gone => rfl
    | write alike =>
        cases alike with
        | tell _ _ reported => simp only [reported]
        | same => rfl
    | tend alike =>
        cases alike with
        | tellStale reported | done reported => simp only [reported]
        | _ => rfl
  · simp only [aspect, h.absent t member]
    cases there : s.actors t with
    | none => rfl
    | some a =>
        have apart := h.apart t member a there
        cases a with
        | tend u =>
            cases u with
            | done keys => exact (decide_eq_false apart).symm
            | tellStale _ => exact apart.elim
            | _ => rfl
        | write _ => exact apart.elim
        | read _ _ _ _ | gone => rfl

theorem Pruned.entry (h : Pruned key R kept s p) :
    (p.aspect key).entry = (s.aspect key).entry := by
  obtain ⟨found, found'⟩ | ⟨i, j, found, found', r⟩ := h.agree.find_cases
  · simp only [aspect, found, found', Option.map_none]
  · simp only [aspect, found, found', Option.map_some, h.agree.same r]

theorem Pruned.aspect (h : Pruned key R kept s p) : p.aspect key = s.aspect key :=
  Aspect.ext h.outcomes h.requests h.reports h.entry

theorem Pruned.run {events : List Event} {log : List Deed} (h : Pruned key R kept s p)
    (operates : ∀ event ∈ events, event.operates = true) (ran : s.run events = some (log, s')) :
    ∃ R' kept' log' p', p.run (Event.prune key kept events) = some (log', p') ∧
      Pruned key R' kept' s' p' := by
  induction events generalizing s p R kept log with
  | nil =>
      cases ran
      exact ⟨R, kept, [], p, rfl, h⟩
  | cons event rest ih =>
      obtain ⟨first, others⟩ := List.forall_mem_cons.mp operates
      obtain ⟨m, happened, ran⟩ := Option.bind_eq_some_iff.mp ran
      obtain ⟨⟨log', _⟩, ran, same⟩ := Option.map_eq_some_iff.mp ran
      cases same
      rw [Event.prune]
      cases concerns : event.concerns key kept with
      | true =>
          obtain ⟨R', q, happened', pruned⟩ := h.next_both happened first concerns
          obtain ⟨R'', kept', log'', p', ran', pruned'⟩ := ih pruned others ran
          refine ⟨R'', kept', p.deeds event ++ log'', p', ?_, pruned'⟩
          rw [if_pos rfl, Crowd.run, happened', Option.bind_some, ran']
          rfl
      | false =>
          rw [if_neg Bool.false_ne_true]
          exact ih (h.next_left happened concerns) others ran

/-- At the start nobody is there who could be left out. -/
theorem pruned_start (config : CacheConfig) {entries : List Entry}
    (idle : ∀ e ∈ entries, e.waiters = none) (key : String) :
    ∃ R, Pruned key R [] (start config entries) (start config entries) := by
  have sound := sound_start config idle
  have numbered := numbered_start config idle
  let s := start config entries
  have find : Option.Rel (fun i j => i = j ∧ i < s.cache.store.arena.size ∧
      (s.cache.entry i).key = key) (s.cache.store.find? key) (s.cache.store.find? key) := by
    cases found : s.cache.store.find? key with
    | none => exact .none
    | some id => exact .some ⟨rfl, sound.built.wellFormed.found key id found⟩
  refine ⟨_, sound, numbered, sound, numbered, ⟨rfl, ?_, ?_, ?_, ?_, ?_, find, ?_⟩, ?_, ?_, ?_, rfl,
    rfl⟩
  · rintro i _ ⟨rfl, inside, -⟩
    exact ⟨inside, inside⟩
  · rintro i _ ⟨rfl, -⟩
    rfl
  · rintro i _ ⟨rfl, -, same⟩
    exact same
  · rintro i _ _ ⟨rfl, -⟩ ⟨rfl, -⟩
    rfl
  · rintro i _ _ ⟨rfl, -⟩ ⟨rfl, -⟩
    rfl
  · rintro i _ ⟨rfl, -⟩ w
    rfl
  · exact fun t member => absurd member List.not_mem_nil
  · exact fun _ _ => rfl
  · intro t _ a there
    cases there

theorem run_of_append {first second : List Event} {log : List Deed}
    (ran : s.run (first ++ second) = some (log, s')) : ∃ log' m, s.run first = some (log', m) := by
  induction first generalizing s log with
  | nil => exact ⟨[], s, rfl⟩
  | cons event rest ih =>
      obtain ⟨m, happened, ran⟩ := Option.bind_eq_some_iff.mp ran
      obtain ⟨_, further, same⟩ := Option.map_eq_some_iff.mp ran
      cases same
      obtain ⟨log', q, ran⟩ := ih further
      exact ⟨_, q, by rw [run, happened, Option.bind_some, ran]; rfl⟩

theorem prune_append (key : String) (kept : List ActorId) (first second : List Event) :
    ∃ rest, Event.prune key kept (first ++ second) = Event.prune key kept first ++ rest := by
  induction first generalizing kept with
  | nil => exact ⟨_, rfl⟩
  | cons event others ih =>
      rw [List.cons_append, Event.prune, Event.prune]
      split
      · obtain ⟨rest, same⟩ := ih (event.keeps kept)
        exact ⟨rest, congrArg (event :: ·) same⟩
      · exact ih kept

/-- All that is done for other keys may be left out of a run: the reads and seeds of these, the
answers to them and their cancellations. The rest can still happen, and the key comes to the same:
the outcomes of its reads, the requests sent for it, whether it was reported, and its entry. This is
so at the end of the run and at every point on the way to it, so that the requests also go out when
they did. -/
theorem keys_do_not_interfere {config : CacheConfig} {entries : List Entry} (key : String)
    {events : List Event} {log : List Deed} (idle : ∀ e ∈ entries, e.waiters = none)
    (operates : ∀ event ∈ events, event.operates = true)
    (ran : (start config entries).run events = some (log, s)) :
    (∃ log' p, (start config entries).run (Event.prune key [] events) = some (log', p) ∧
      p.aspect key = s.aspect key) ∧
    ∀ before after, events = before ++ after → ∃ log₁ m log₂ p rest,
      (start config entries).run before = some (log₁, m) ∧
      (start config entries).run (Event.prune key [] before) = some (log₂, p) ∧
      Event.prune key [] events = Event.prune key [] before ++ rest ∧
      p.aspect key = m.aspect key := by
  obtain ⟨R, pruned⟩ := pruned_start config idle key
  constructor
  · obtain ⟨_, _, log', p, ran', pruned'⟩ := pruned.run operates ran
    exact ⟨log', p, ran', pruned'.aspect⟩
  · rintro before after rfl
    obtain ⟨log₁, m, ran₁⟩ := run_of_append ran
    obtain ⟨rest, same⟩ := prune_append key [] before after
    obtain ⟨_, _, log₂, p, ran₂, pruned'⟩ :=
      pruned.run (fun event member => operates event (List.mem_append_left _ member)) ran₁
    exact ⟨log₁, m, log₂, p, rest, ran₁, ran₂, same, pruned'.aspect⟩

/-- While somebody reads `/a`, somebody else reads `/b`, whose entry is made first; one invalidation
then reaches both. Without the reader of `/b` the entry of `/a` has another number, and that is all.
-/
theorem reader_of_other_key_left_out :
    ∃ events log s log' p, (start {} []).run events = some (log, s) ∧
      (start {} []).run (Event.prune "/a" [] events) = some (log', p) ∧
      events.length = 21 ∧ (Event.prune "/a" [] events).length = 12 ∧
      s.cache.store.find? "/a" = some 1 ∧ p.cache.store.find? "/a" = some 0 ∧
      (s.aspect "/a").outcomes 1 = some (some (.ok (.str "a"))) ∧
      (s.aspect "/a").requests = [(1, .read "/a" .default)] ∧ (s.aspect "/a").reports 2 = true ∧
      p.aspect "/a" = s.aspect "/a" := by
  let events : List Event := [.start 0 (.get "/b" {} ⟨0⟩), .start 1 (.get "/a" {} ⟨0⟩), .step 0,
    .step 0, .step 1, .step 1, .step 1, .step 0, .step 1, .step 1, .step 0, .step 0,
    .answer 0 (.error (.cancelled "no")), .answer 1 (.ok (.str "a")), .step 1, .step 0, .step 1,
    .start 2 (.invalidate ["/a", "/b"]), .step 2, .step 0, .step 2]
  obtain ⟨log, s, ran, number, outcome, requests, reported⟩ :
      ∃ log s, (start {} []).run events = some (log, s) ∧ s.cache.store.find? "/a" = some 1 ∧
        (s.aspect "/a").outcomes 1 = some (some (.ok (.str "a"))) ∧
        (s.aspect "/a").requests = [(1, .read "/a" .default)] ∧ (s.aspect "/a").reports 2 = true :=
    ⟨_, _, rfl, by decide +kernel, by decide +kernel, by decide +kernel, by decide +kernel⟩
  obtain ⟨log', p, pruned, number'⟩ : ∃ log' p,
      (start {} []).run (Event.prune "/a" [] events) = some (log', p) ∧
        p.cache.store.find? "/a" = some 0 :=
    ⟨_, _, rfl, by decide +kernel⟩
  obtain ⟨⟨_, _, ran', same⟩, -⟩ := keys_do_not_interfere "/a" (by simp) (by decide) ran
  cases pruned.symm.trans ran'
  exact ⟨events, log, s, log', p, ran, ran', rfl, by decide, number, number', outcome, requests,
    reported, same⟩

end Crowd

end Refetch
