/-
# Fetches of a key keep their distance

Whoever begins a fetch leaves its own time in the entry, and nothing else moves that time unless the
entry is disturbed: invalidated, given a value, or left by the leader of its fetch. So of two
fetches of which one is the very next after the other, the second begins more than a window later by
its own clock, unless it is one that fetches in any case; whichever readers and poll loops begin
them, in whichever order they read the clock, and whatever the answers were.

A key keeps its entry until this is lost in a reset or replaced, so the same holds of the fetches of
the entry that the store has for the key, as long as neither happens. A poll loop outlives a reset
with the entry that it holds. The fetches of that one keep their distance among themselves, and say
nothing about those of the new entry.
-/

import Mathlib.Data.List.Chain
import Refetch.Proofs.Crowd.Fate
import Refetch.Proofs.Entry.Staleness
import Refetch.Proofs.Store.Staling

namespace Refetch

open Store

namespace Entry

/-- Who leads leaves its time, and nobody else who asks moves the one that is there. -/
theorem revalidatedAt_begin (e : Entry) (window : Option Int) (now : Instant) :
    (e.begin window now).1.revalidatedAt =
      if (e.begin window now).2 = .leader then some now else e.revalidatedAt := by
  cases flying : e.waiters with
  | some queue =>
      rw [begin_of_waiters flying]
      rfl
  | none =>
      cases fresh : window.any (e.freshWithin · now) with
      | true =>
          rw [begin_of_fresh flying fresh]
          rfl
      | false =>
          rw [begin_of_stale flying fresh]
          rfl

/-- Who asks with a window leads only if the last revalidation is longer than that ago. -/
theorem lt_since_of_leads {e : Entry} {window : Int} {now last : Instant}
    (leads : (e.begin (some window) now).2 = .leader) (stamp : e.revalidatedAt = some last) :
    window < now.since last := by
  have stale : e.freshWithin window now ≠ true := by
    intro fresh
    rw [begin_snd] at leads
    simp only [Option.any_some, fresh] at leads
    split at leads <;> cases leads
  rw [Ne, freshWithin_iff] at stale
  by_contra near
  exact stale ⟨last, stamp, Int.not_lt.mp near⟩

theorem revalidatedAt_wait (e : Entry) : e.wait.1.revalidatedAt = e.revalidatedAt := by
  cases flying : e.waiters with
  | some queue => rw [wait_of_waiters flying, join]
  | none => rw [wait_of_no_waiters flying]

end Entry

section

variable {c c' : Cache} {id : EntryId} {effects : List Effect}

theorem Cache.entry_put_of_ne {at' : EntryId} {e : Entry} (other : at' ≠ id) :
    (c.put at' e).entry id = c.entry id :=
  Store.entry_put_of_ne c.store e other.symm

/-- A step that changes one entry in something other than its revalidation time leaves all of these
as they are. -/
theorem Cache.revalidatedAt_put {at' : EntryId} {e : Entry}
    (same : e.revalidatedAt = (c.entry at').revalidatedAt) :
    ((c.put at' e).entry id).revalidatedAt = (c.entry id).revalidatedAt :=
  Store.common_put Entry.revalidatedAt same id

theorem Reading.stamp_of_step {r r' : Reading} (stepped : r.step c = some (c', r', effects))
    (inside : id < c.store.arena.size) (kept : r ≠ .abandon id)
    (follows : ∀ purpose mode now, r = .begin purpose mode now id →
      ((c.entry id).begin (c.window mode) now).2 ≠ .leader) :
    (c'.entry id).revalidatedAt = (c.entry id).revalidatedAt := by
  cases r with
  | locate purpose key options now =>
      simp only [step] at stepped
      split at stepped <;> cases stepped <;> rfl
  | create purpose key options now =>
      cases stepped
      exact congrArg Entry.revalidatedAt (entry_getOrCreate_of_lt inside)
  | begin purpose mode now at' =>
      rw [step_begin] at stepped
      cases stepped
      by_cases here : at' = id
      · subst here
        refine Cache.revalidatedAt_put ?_
        rw [Entry.revalidatedAt_begin, if_neg (follows purpose mode now rfl)]
      · rw [Cache.entry_put_of_ne here]
  | settle at' result =>
      rw [step_settle] at stepped
      cases stepped
      exact Cache.revalidatedAt_put (Entry.Life.revalidatedAt_settle _ result)
  | abandon at' =>
      rw [step_abandon] at stepped
      cases stepped
      refine congrArg Entry.revalidatedAt (Cache.entry_put_of_ne (c := c) ?_)
      rintro rfl
      exact kept rfl
  | follow at' w =>
      simp only [step, Cache.receive, Option.map_map, Option.map_eq_some_iff] at stepped
      obtain ⟨_, -, same⟩ := stepped
      cases same
      rfl
  | tellLoading _ _ | ask _ _ | tellSettled _ _ _ | tellAbandoned _ | peek _ =>
      cases stepped
      rfl
  | await _ | done _ => cases stepped

theorem Writing.stamp_of_step {w w' : Writing} (stepped : w.step c = some (c', w', effects))
    (kept : ∀ write value, w = .stale write value →
      (((c.store.invalidate (write.options.bases write.url)).1.entry id)) = c.entry id) :
    (c'.entry id).revalidatedAt = (c.entry id).revalidatedAt := by
  cases w with
  | send w =>
      simp only [step] at stepped
      split at stepped <;> cases stepped <;> rfl
  | stale write value =>
      cases stepped
      exact congrArg Entry.revalidatedAt (kept write value rfl)
  | tell _ _ _ | decode _ _ | clear _ | tellAll _ =>
      cases stepped
      rfl
  | await _ | done _ => cases stepped

theorem Upkeep.stamp_of_step {u u' : Upkeep} (stepped : u.step c = some (c', u', effects))
    (inside : id < c.store.arena.size) (kept : ∀ bases, u = .stale bases →
      (c.store.invalidate bases).1.entry id = c.entry id)
    (other : ∀ value now, u ≠ .put value now id) :
    (c'.entry id).revalidatedAt = (c.entry id).revalidatedAt := by
  cases u with
  | locate key params value now =>
      simp only [step] at stepped
      split at stepped <;> cases stepped <;> rfl
  | create key params value now =>
      cases stepped
      exact congrArg Entry.revalidatedAt (entry_getOrCreate_of_lt inside)
  | put value now at' =>
      cases stepped
      rw [Cache.entry_put_of_ne]
      rintro rfl
      exact other value now rfl
  | stale bases =>
      cases stepped
      exact congrArg Entry.revalidatedAt (kept bases rfl)
  | tell _ | tellStale _ | clear | tellAll =>
      cases stepped
      rfl
  | done _ => cases stepped

end

/-- A fetch that begins: who begins it, of which entry, by which clock and in which mode. -/
structure Start where
  actor : ActorId
  entry : EntryId
  now : Instant
  mode : CacheMode

/-- The second fetch begins more than a window after the first. -/
def Start.Apart (window : Nat) (first second : Start) : Prop :=
  (window : Int) < second.now.since first.now

instance (window : Nat) (first second : Start) : Decidable (first.Apart window second) :=
  inferInstanceAs (Decidable (_ < _))

namespace Crowd

variable {m s s' : Crowd} {event : Event} {key : String} {id : EntryId}

/-- The fetch that begins with an event, if one does. -/
def begins (s : Crowd) : Event → Option Start
  | .step t => match s.actors t with
    | some (.read _ _ _ (.begin _ mode now id)) =>
      if ((s.cache.entry id).begin (s.cache.window mode) now).2 = .leader
        then some ⟨t, id, now, mode⟩ else none
    | _ => none
  | _ => none

/-- The entry is the one that the store has for a key. -/
def has (key : String) (s : Crowd) (id : EntryId) : Bool := s.cache.store.find? key = some id

/-- The entry is one of a key, whether the store still has it or not. -/
def keyed (key : String) (s : Crowd) (id : EntryId) : Bool := (s.cache.entry id).key = key

/-- The entry is this one, whether the store still has it or not. -/
def isEntry (id : EntryId) (_ : Crowd) (other : EntryId) : Bool := other = id

/-- An event disturbs an entry: it is invalidated or given a value, or its fetch is taken back since
the leader was dropped. -/
def disturbsEntry (s : Crowd) (id : EntryId) : Event → Bool
  | .step t => match s.actors t with
    | some (.write (.stale write _)) => s.cache.store.reaches (write.options.bases write.url) id
    | some (.tend (.stale bases)) => s.cache.store.reaches bases id
    | some (.tend (.put _ _ other)) | some (.read _ _ _ (.abandon other)) => other = id
    | _ => false
  | .touch other (.set _ _) | .touch other .invalidate => other = id
  | _ => false

/-- An event disturbs a key: its entry is lost in a reset or replaced, or it is invalidated or given
a value, or its fetch is taken back since the leader was dropped. -/
def disturbs (s : Crowd) (key : String) (event : Event) : Bool :=
  s.unseats event key || match event with
    | .step t => match s.actors t with
      | some (.write (.stale write _)) =>
        key ∈ (s.cache.store.invalidate (write.options.bases write.url)).2
      | some (.tend (.stale bases)) => key ∈ (s.cache.store.invalidate bases).2
      | some (.tend (.put _ _ id)) | some (.read _ _ _ (.abandon id)) => has key s id
      | _ => false
    | .touch id (.set _ _) | .touch id .invalidate => has key s id
    | _ => false

/-- An invalidation that does not reach an entry leaves it as it is. -/
theorem entry_of_not_reached (sound : s.Sound) {bases : List String}
    (apart : s.cache.store.reaches bases id ≠ true) :
    (s.cache.store.invalidate bases).1.entry id = s.cache.entry id := by
  rw [sound.built.wellFormed.invalidate_fst, entry_staled, if_neg apart]
  rfl

/-- An invalidation that reaches the entry of a key gives the key. -/
theorem mem_invalidate_of_reached (sound : s.Sound) (found : s.cache.store.find? key = some id)
    {bases : List String} (reached : s.cache.store.reaches bases id = true) :
    key ∈ (s.cache.store.invalidate bases).2 := by
  have exactIndex := sound.built.wellFormed
  obtain ⟨other, member, held⟩ := (exactIndex.reaches_iff bases id).mp reached
  have same : other = key :=
    (exactIndex.found other id held).2.symm.trans (exactIndex.found key id found).2
  rw [exactIndex.invalidate_snd, ← same]
  exact member

/-- What does not disturb a key does not disturb the entry that the store has for it. -/
theorem disturbsEntry_of_calm (sound : s.Sound) (found : s.cache.store.find? key = some id)
    (calm : s.disturbs key event = false) : s.disturbsEntry id event = false := by
  have unreached {bases : List String} (fresh : key ∉ (s.cache.store.invalidate bases).2) :
      s.cache.store.reaches bases id = false :=
    Bool.eq_false_iff.mpr fun reached => fresh (mem_invalidate_of_reached sound found reached)
  have apart {other : EntryId} (elsewhere : has key s other = false) :
      decide (other = id) = false := by
    rw [decide_eq_false_iff_not]
    rintro rfl
    exact of_decide_eq_false elsewhere found
  have rest := (Bool.or_eq_false_iff.mp calm).2
  cases event with
  | step t =>
      simp only [disturbsEntry]
      split
      next there => exact unreached (by simpa [there] using rest)
      next there => exact unreached (by simpa [there] using rest)
      next there => exact apart (by simpa [there] using rest)
      next there => exact apart (by simpa [there] using rest)
      next => rfl
  | touch other touch =>
      cases touch with
      | set _ _ | invalidate => exact apart rest
      | wait | subscribe | unsubscribe _ => rfl
  | start _ _ | answer _ _ | drop _ | insert _ => rfl

theorem begins_eq_some {a : Start} (starts : s.begins event = some a) :
    event = .step a.actor ∧ ∃ k options found purpose,
      s.actors a.actor = some (.read k options found (.begin purpose a.mode a.now a.entry)) ∧
        ((s.cache.entry a.entry).begin (s.cache.window a.mode) a.now).2 = .leader := by
  cases event with
  | step t =>
      simp only [begins] at starts
      split at starts
      next k options found purpose mode now id there =>
        split at starts
        next leads =>
          cases starts
          exact ⟨rfl, k, options, found, purpose, there, leads⟩
        next => cases starts
      next => cases starts
  | start _ _ | answer _ _ | drop _ | touch _ _ | insert _ => cases starts

/-- Who begins a fetch has found its entry. -/
theorem inside_of_begins (sound : s.Sound) {a : Start} (starts : s.begins event = some a) :
    a.entry < s.cache.store.arena.size := by
  obtain ⟨-, _, _, _, _, there, -⟩ := begins_eq_some starts
  obtain ⟨located, fits⟩ := sound.fits _ _ there
  exact (located a.entry fits.2).1

/-- A fetch that begins leaves its time. -/
theorem stamp_of_begins (sound : s.Sound) {a : Start} (happened : s.next event = some s')
    (starts : s.begins event = some a) :
    (s'.cache.entry a.entry).revalidatedAt = some a.now := by
  have inside := inside_of_begins sound starts
  obtain ⟨rfl, k, options, found, purpose, there, leads⟩ := begins_eq_some starts
  obtain ⟨cache, _, _, stepped, rfl⟩ := step_of_next there happened
  obtain ⟨_, moved, -⟩ := Actor.step_read stepped
  rw [Reading.step_begin] at moved
  cases moved
  show ((s.cache.store.put a.entry _).entry a.entry).revalidatedAt = _
  rw [entry_put_same _ _ inside, Entry.revalidatedAt_begin, if_pos leads]

/-- An event that does not disturb an entry, and begins no fetch of it, leaves the time there. -/
theorem stamp_of_calm (sound : s.Sound) (happened : s.next event = some s')
    (calm : s.disturbsEntry id event = false) (inside : id < s.cache.store.arena.size)
    (none : ∀ a, s.begins event = some a → a.entry ≠ id) :
    (s'.cache.entry id).revalidatedAt = (s.cache.entry id).revalidatedAt := by
  cases outcome_of_next happened with
  | start _ _ | answer _ | drop _ _ => rfl
  | @insert e _ =>
      show ((s.cache.store.insert e).1.entry id).revalidatedAt = _
      rw [Store.insert, entry_push, if_neg (Nat.ne_of_lt inside)]
      rfl
  | touch at' touch =>
      show ((s.cache.put at' (touch.apply (s.cache.entry at'))).entry id).revalidatedAt = _
      by_cases here : at' = id
      · subst here
        cases touch with
        | set _ _ | invalidate => simp [disturbsEntry] at calm
        | wait => exact Cache.revalidatedAt_put (Entry.revalidatedAt_wait _)
        | subscribe | unsubscribe _ => exact Cache.revalidatedAt_put rfl
      · rw [Cache.entry_put_of_ne here]
  | @step t a _ cache _ there stepped =>
      cases a with
      | gone => cases stepped
      | write w =>
          obtain ⟨_, moved, -⟩ := Actor.step_write stepped
          refine Writing.stamp_of_step moved ?_
          rintro write value rfl
          exact entry_of_not_reached sound (by simpa [disturbsEntry, there] using calm)
      | tend u =>
          obtain ⟨_, moved, -⟩ := Actor.step_tend stepped
          refine Upkeep.stamp_of_step moved inside ?_ ?_
          · rintro bases rfl
            exact entry_of_not_reached sound (by simpa [disturbsEntry, there] using calm)
          · rintro value now rfl
            simp [disturbsEntry, there] at calm
      | read k options known r =>
          obtain ⟨_, moved, -⟩ := Actor.step_read stepped
          refine Reading.stamp_of_step moved inside ?_ ?_
          · rintro rfl
            simp [disturbsEntry, there] at calm
          · rintro purpose mode now rfl leads
            exact none ⟨t, id, now, mode⟩ (by simp [begins, there, leads]) rfl

/-- The settings stay as they are. -/
theorem Alters.config {cache : Cache} (altered : Alters s event cache) :
    cache.config = s.cache.config := by
  cases altered with
  | kept | touched _ _ | inserted _ => rfl
  | acted _ change => cases change <;> rfl

/-- A crowd comes after another one by events that disturb nothing, with a record of the fetches
that began meanwhile of the entries that count. -/
abbrev Stretch (disturbed : Crowd → Event → Bool) (counts : Crowd → EntryId → Bool) :
    Crowd → List Start → Crowd → Prop :=
  Recorded (fun s event => !disturbed s event) fun s event _ =>
    (s.begins event).toList.filter (counts s ·.entry)

/-- No more than one entry counts, it counts as long as nothing is disturbed, and it is not
disturbed then. -/
structure Steady (disturbed : Crowd → Event → Bool) (counts : Crowd → EntryId → Bool) : Prop where
  one : ∀ s id other, counts s id = true → counts s other = true → id = other
  stays : ∀ s event s', s.Sound → s.next event = some s' → disturbed s event = false →
    ∀ id, counts s id = true → counts s' id = true
  calm : ∀ s event, s.Sound → disturbed s event = false →
    ∀ id, counts s id = true → s.disturbsEntry id event = false

/-- The entry that the store has for a key. -/
theorem steady_key (key : String) : Steady (·.disturbs key ·) (has key) where
  one := by
    intro s id other here there
    exact Option.some.inj ((of_decide_eq_true here).symm.trans (of_decide_eq_true there))
  stays := by
    intro s event s' sound happened calm id here
    obtain ⟨-, _, _, advance⟩ := sound.next happened
    have kept := (Bool.or_eq_false_iff.mp calm).1
    exact decide_eq_true (advance.find key id (by simp [kept]) (of_decide_eq_true here))
  calm := fun _ _ sound calm _ here => disturbsEntry_of_calm sound (of_decide_eq_true here) calm

/-- An entry that is held by whoever holds it. -/
theorem steady_entry (id : EntryId) : Steady (·.disturbsEntry id ·) (isEntry id) where
  one := fun _ _ _ here there => (of_decide_eq_true here).trans (of_decide_eq_true there).symm
  stays := fun _ _ _ _ _ _ _ here => here
  calm := by
    intro s event _ calm other here
    rw [of_decide_eq_true here]
    exact calm

variable {disturbed : Crowd → Event → Bool} {counts : Crowd → EntryId → Bool} {log : List Start}

/-- Of two fetches of which the second is the very next after the first, this begins more than a
window later, unless it is made in any case. -/
def Spaced (window : Nat) (log : List Start) : Prop :=
  log.IsChain fun first second => second.mode ≠ .noStore → first.Apart window second

/-- The time of the last fetch that began is still there in the entry that counts. -/
structure Marked (config : CacheConfig) (counts : Crowd → EntryId → Bool) (log : List Start)
    (s : Crowd) : Prop where
  sound : s.Sound
  settings : s.cache.config = config
  spaced : Spaced config.window log
  last : ∀ a, log.getLast? = some a → a.entry < s.cache.store.arena.size ∧
    counts s a.entry = true ∧ (s.cache.entry a.entry).revalidatedAt = some a.now

variable {config : CacheConfig}

/-- A fetch begins long enough after the last one. -/
theorem Marked.spaced_concat (steady : Steady disturbed counts) (h : Marked config counts log s)
    {a : Start} (starts : s.begins event = some a) (counted : counts s a.entry = true) :
    Spaced config.window (log ++ [a]) := by
  obtain ⟨-, _, _, _, _, -, leads⟩ := begins_eq_some starts
  refine List.isChain_append.mpr ⟨h.spaced, .singleton a, fun first before second here => ?_⟩
  cases Option.mem_some_iff.mp here
  intro dedupes
  obtain ⟨-, current, stamp⟩ := h.last first before
  rw [Cache.window, if_neg dedupes, h.settings] at leads
  exact Entry.lt_since_of_leads leads (steady.one s _ _ current counted ▸ stamp)

theorem Marked.next (steady : Steady disturbed counts) (h : Marked config counts log s)
    (calm : disturbed s event = false) (happened : s.next event = some s') :
    Marked config counts (log ++ (s.begins event).toList.filter (counts s ·.entry)) s' := by
  obtain ⟨sound, _, _, advance⟩ := h.sound.next happened
  have settings := (alters_of_next happened).config.trans h.settings
  have stays := steady.stays s event s' h.sound happened calm
  by_cases begun : ∃ a, s.begins event = some a ∧ counts s a.entry = true
  · obtain ⟨a, starts, counted⟩ := begun
    have one : (s.begins event).toList.filter (counts s ·.entry) = [a] := by
      simp [starts, counted]
    rw [one]
    refine ⟨sound, settings, h.spaced_concat steady starts counted, fun last same => ?_⟩
    rw [List.getLast?_concat] at same
    cases same
    exact ⟨Nat.lt_of_lt_of_le (inside_of_begins h.sound starts) advance.size, stays _ counted,
      stamp_of_begins h.sound happened starts⟩
  · have nothing : (s.begins event).toList.filter (counts s ·.entry) = [] := by
      rw [List.filter_eq_nil_iff]
      intro a member holds
      exact begun ⟨a, Option.mem_toList.mp member, holds⟩
    rw [nothing, List.append_nil]
    refine ⟨sound, settings, h.spaced, fun last same => ?_⟩
    obtain ⟨inside, counted, stamp⟩ := h.last last same
    have undisturbed := steady.calm s event h.sound calm _ counted
    refine ⟨Nat.lt_of_lt_of_le inside advance.size, stays _ counted,
      (stamp_of_calm h.sound happened undisturbed inside ?_).trans stamp⟩
    rintro a starts same
    exact begun ⟨a, starts, same ▸ counted⟩

theorem Stretch.marked (steady : Steady disturbed counts) (h : Stretch disturbed counts m log s)
    (sound : m.Sound) : Marked m.cache.config counts log s := by
  induction h with
  | here => exact ⟨sound, rfl, .nil, fun a same => by cases same⟩
  | next event _ calm happened ih => exact ih.next steady (by simpa using calm) happened

instance (window : Nat) :
    Trans (Start.Apart window) (Start.Apart window) (Start.Apart window) where
  trans := by
    simp only [Start.Apart, Instant.since]
    omega

/-- If none of the fetches is made in any case, every two of them are more than a window apart. -/
theorem Spaced.pairwise {window : Nat} (h : Spaced window log)
    (dedupes : ∀ a ∈ log, a.mode ≠ .noStore) : log.Pairwise (·.Apart window ·) :=
  (h.imp_of_mem_imp fun _ second _ member apart => apart (dedupes second member)).pairwise

theorem config_of_reaches {allowed : Crowd → Event → Prop} (reached : Reaches allowed m s) :
    s.cache.config = m.cache.config := by
  induction reached with
  | refl => rfl
  | next event _ _ happened ih => exact (alters_of_next happened).config.trans ih

/-- However gets, queries and poll ticks are mixed, and however their clocks run: of two fetches of
the entry that the store has for a key, of which the second is the very next after the first with
nothing in between that disturbs the key, the second begins more than a window later by its reader's
clock, unless it is made in any case. So if none is made in any case, any two of them are more than
a window apart. The same holds of the fetches of any one entry with nothing in between that disturbs
this entry, also if it is lost in a reset or replaced meanwhile, or was before. -/
theorem fetches_keep_distance {entries : List Entry} (idle : ∀ e ∈ entries, e.waiters = none)
    (reached : Reaches (fun _ _ => True) (start config entries) m) :
    (∀ key log s, Stretch (·.disturbs key ·) (has key) m log s →
      Spaced config.window log ∧
        ((∀ a ∈ log, a.mode ≠ .noStore) → log.Pairwise (·.Apart config.window ·))) ∧
    ∀ id log s, Stretch (·.disturbsEntry id ·) (isEntry id) m log s →
      Spaced config.window log ∧
        ((∀ a ∈ log, a.mode ≠ .noStore) → log.Pairwise (·.Apart config.window ·)) := by
  have sound := (sound_start config idle).reaches reached
  have spaced {disturbed counts log s} (steady : Steady disturbed counts)
      (stretch : Stretch disturbed counts m log s) : Spaced config.window log := by
    have marked := stretch.marked steady sound
    rw [config_of_reaches reached] at marked
    exact marked.spaced
  constructor
  · intro key log s stretch
    have apart := spaced (steady_key key) stretch
    exact ⟨apart, apart.pairwise⟩
  · intro id log s stretch
    have apart := spaced (steady_entry id) stretch
    exact ⟨apart, apart.pairwise⟩

/-- A fetch of `/apps` fails. Who reads a second later is told of the failure and fetches nothing,
and who reads three seconds later fetches again. In another run a poll loop holds the entry of `/k`
beyond a reset, and ticks three, four and six seconds after it has fetched it. The second of these
ticks fetches nothing, although a reader fetches the new entry of the key just then. -/
theorem failed_fetch_counts :
    ∃ log s lost t, Stretch (·.disturbs "/apps" ·) (has "/apps") (start {} []) log s ∧
      log = [⟨0, 0, ⟨0⟩, .default⟩, ⟨2, 0, ⟨3000000000⟩, .default⟩] ∧
      s.actors 1 = some (.read "/apps" {} (some 0) (.done (some (.error (.cancelled "no"))))) ∧
      Spaced 2000000000 log ∧ log.Pairwise (·.Apart 2000000000 ·) ∧
      Stretch (·.disturbsEntry 0 ·) (isEntry 0) (start {} []) lost t ∧
      lost = [⟨0, 0, ⟨0⟩, .default⟩, ⟨2, 0, ⟨3000000000⟩, .default⟩,
        ⟨5, 0, ⟨6000000000⟩, .default⟩] ∧
      t.cache.store.find? "/k" = some 1 ∧
      Spaced 2000000000 lost ∧ lost.Pairwise (·.Apart 2000000000 ·) := by
  obtain ⟨log, s, stretch, same, told⟩ : ∃ log s,
      Stretch (·.disturbs "/apps" ·) (has "/apps") (start {} []) log s ∧
        log = [⟨0, 0, ⟨0⟩, .default⟩, ⟨2, 0, ⟨3000000000⟩, .default⟩] ∧
        s.actors 1 = some (.read "/apps" {} (some 0) (.done (some (.error (.cancelled "no"))))) :=
    ⟨_, _, recorded_of_recording (.start 0 (.get "/apps" {} ⟨0⟩) :: List.replicate 5 (.step 0) ++
      [.answer 0 (.error (.cancelled "no")), .step 0, .step 0,
        .start 1 (.get "/apps" {} ⟨1000000000⟩), .step 1, .step 1, .step 1,
        .start 2 (.get "/apps" {} ⟨3000000000⟩), .step 2, .step 2]) rfl, rfl, rfl⟩
  obtain ⟨lost, t, held, same', current⟩ : ∃ lost t,
      Stretch (·.disturbsEntry 0 ·) (isEntry 0) (start {} []) lost t ∧
        lost = [⟨0, 0, ⟨0⟩, .default⟩, ⟨2, 0, ⟨3000000000⟩, .default⟩,
          ⟨5, 0, ⟨6000000000⟩, .default⟩] ∧
        t.cache.store.find? "/k" = some 1 :=
    ⟨_, _, recorded_of_recording (.start 0 (.query "/k" {} ⟨0⟩) :: List.replicate 5 (.step 0) ++
      [.answer 0 (.ok (.str "v")), .step 0, .step 0, .start 1 .reset, .step 1, .step 1,
        .start 2 (.tick 0 ⟨3000000000⟩), .step 2, .step 2, .step 2,
        .answer 2 (.ok (.str "v")), .step 2, .step 2,
        .start 3 (.get "/k" {} ⟨4000000000⟩), .step 3, .step 3, .step 3,
        .start 4 (.tick 0 ⟨4000000000⟩), .step 4,
        .start 5 (.tick 0 ⟨6000000000⟩), .step 5]) rfl, rfl, rfl⟩
  obtain ⟨ofKey, ofEntry⟩ := fetches_keep_distance (by simp) (.refl (s := start {} []))
  obtain ⟨spaced, apart⟩ := ofKey _ _ _ stretch
  obtain ⟨spaced', apart'⟩ := ofEntry _ _ _ held
  exact ⟨log, s, lost, t, stretch, same, told, spaced, apart (by simp [same]), held, same', current,
    spaced', apart' (by simp [same'])⟩

/-- Not of all entries that a key ever had: a poll loop still holds the entry that was lost in a
reset, and fetches it three seconds later; somebody else reads the key at the same time, and so
fetches the new one. -/
theorem not_spaced_over_lost_entries :
    ¬ ∀ (config : CacheConfig) (entries : List Entry) (key : String) (m s : Crowd)
      (log : List Start), (∀ e ∈ entries, e.waiters = none) →
      Reaches (fun _ _ => True) (start config entries) m →
      Stretch (·.disturbs key ·) (keyed key) m log s → Spaced config.window log := by
  intro spaced
  have reset := passage_of_run (m := start {} []) (.start 0 (.query "/k" {} ⟨0⟩) ::
    List.replicate 5 (.step 0) ++ [.answer 0 (.ok (.str "v")), .step 0, .step 0,
      .start 1 .reset, .step 1, .step 1]) rfl
  obtain ⟨m, reached, log, s, stretch, same⟩ : ∃ m, Reaches (fun _ _ => True) (start {} []) m ∧
      ∃ log s, Stretch (·.disturbs "/k" ·) (keyed "/k") m log s ∧
        log = [⟨2, 0, ⟨3000000000⟩, .default⟩, ⟨3, 1, ⟨3000000000⟩, .default⟩] :=
    ⟨_, reset.reaches, _, _, recorded_of_recording [.start 2 (.tick 0 ⟨3000000000⟩), .step 2,
      .step 2, .step 2, .answer 2 (.ok (.str "v")), .step 2, .step 2,
      .start 3 (.get "/k" {} ⟨3000000000⟩), .step 3, .step 3, .step 3] rfl, rfl⟩
  have apart := spaced {} [] "/k" m s log (by simp) reached stretch
  rw [same] at apart
  cases apart with
  | cons_cons first _ => exact absurd (first (by decide)) (by decide)

end Crowd

end Refetch
