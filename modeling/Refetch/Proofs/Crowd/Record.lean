/-
# What is remembered of a run

Some questions about a crowd are about what happened on the way to it: was the answer that a reader
got asked for before or after a certain moment? A `Passage` leads from that moment to a later one
and keeps a record of the deeds in between.
-/

import Refetch.Proofs.Crowd.Leaders

namespace Refetch

open Store

/-- What is remembered of an event. -/
inductive Deed where
  | began (actor : ActorId) (errand : Errand)
  /-- The leader of a fetch of an entry sent its request. -/
  | asked (actor : ActorId) (entry : EntryId) (request : Request)
  /-- The answer to it arrived. -/
  | answered (actor : ActorId) (entry : EntryId) (result : FetchResult Json)
  /-- A value was stored in an entry without a fetch. -/
  | stored (entry : EntryId) (value : Json)
  /-- An entry that was made elsewhere was added. -/
  | inserted (entry : EntryId) (made : Entry)

namespace Crowd

/-- What is remembered of an event that happens. -/
def deeds (s : Crowd) : Event → List Deed
  | .start t errand => [.began t errand]
  | .step t => match s.actors t with
    | some (.read _ _ _ (.ask mode id)) => [.asked t id (.read (s.cache.entry id).key mode)]
    | some (.tend (.put value _ id)) =>
      if id < s.cache.store.arena.size then [.stored id value] else []
    | _ => []
  | .answer t result => match s.actors t with
    | some (.read _ _ _ (.await id)) => [.answered t id result]
    | _ => []
  | .touch id (.set value _) =>
    if id < s.cache.store.arena.size then [.stored id value] else []
  | .insert e => [.inserted s.cache.store.arena.size e]
  | _ => []

/-- A crowd comes after another one, with a record of what happened in between. -/
inductive Passage (m : Crowd) : List Deed → Crowd → Prop
  | here : Passage m [] m
  | next {log : List Deed} {s s' : Crowd} (event : Event) (before : Passage m log s)
      (happened : s.next event = some s') : Passage m (log ++ s.deeds event) s'

/-- Lets events happen one after the other and records the deeds; `none` if one cannot happen. -/
def run (s : Crowd) : List Event → Option (List Deed × Crowd)
  | [] => some ([], s)
  | event :: rest => (s.next event).bind fun s' =>
    (s'.run rest).map fun (log, later) => (s.deeds event ++ log, later)

variable {m s s' : Crowd} {log : List Deed} {event : Event}

/-- A passage may begin one event earlier. -/
theorem Passage.earlier {m' : Crowd} (happened : m.next event = some m') (h : Passage m' log s) :
    Passage m (m.deeds event ++ log) s := by
  induction h with
  | here => simpa using Passage.next event .here happened
  | next later _ too ih =>
      rw [← List.append_assoc]
      exact ih.next later too

theorem passage_of_run {m later : Crowd} (events : List Event) {log : List Deed}
    (ran : m.run events = some (log, later)) : Passage m log later := by
  induction events generalizing m log with
  | nil =>
      cases ran
      exact .here
  | cons event rest ih =>
      obtain ⟨s', happened, ran⟩ := Option.bind_eq_some_iff.mp ran
      obtain ⟨⟨log', _⟩, ran, same⟩ := Option.map_eq_some_iff.mp ran
      cases same
      exact (ih ran).earlier happened

/-- What is remembered of an event, case by case. -/
inductive Remembered (s : Crowd) : Event → Deed → Prop
  | began (t : ActorId) (errand : Errand) : Remembered s (.start t errand) (.began t errand)
  | asked {t : ActorId} {key : String} {options : FetchOptions} {found : Option EntryId}
      {mode : CacheMode} {id : EntryId}
      (there : s.actors t = some (.read key options found (.ask mode id))) :
      Remembered s (.step t) (.asked t id (.read (s.cache.entry id).key mode))
  | put {t : ActorId} {value : Json} {now : Instant} {id : EntryId}
      (there : s.actors t = some (.tend (.put value now id)))
      (inside : id < s.cache.store.arena.size) : Remembered s (.step t) (.stored id value)
  | answered {t : ActorId} {key : String} {options : FetchOptions} {found : Option EntryId}
      {id : EntryId} (result : FetchResult Json)
      (there : s.actors t = some (.read key options found (.await id))) :
      Remembered s (.answer t result) (.answered t id result)
  | set {id : EntryId} (value : Json) (now : Instant) (inside : id < s.cache.store.arena.size) :
      Remembered s (.touch id (.set value now)) (.stored id value)
  | inserted (e : Entry) : Remembered s (.insert e) (.inserted s.cache.store.arena.size e)

theorem remembered_of_mem {d : Deed} (done : d ∈ s.deeds event) : Remembered s event d := by
  cases event with
  | start t errand =>
      cases List.mem_singleton.mp done
      exact .began t errand
  | step t =>
      simp only [deeds] at done
      split at done
      next there =>
        cases List.mem_singleton.mp done
        exact .asked there
      next there =>
        split at done
        next inside =>
          cases List.mem_singleton.mp done
          exact .put there inside
        next => cases done
      next => cases done
  | answer t result =>
      simp only [deeds] at done
      split at done
      next there =>
        cases List.mem_singleton.mp done
        exact .answered result there
      next => cases done
  | drop _ => cases done
  | touch id touch =>
      cases touch with
      | set value now =>
          simp only [deeds] at done
          split at done
          next inside =>
            cases List.mem_singleton.mp done
            exact .set value now inside
          next => cases done
      | invalidate | wait | subscribe | unsubscribe _ => cases done
  | insert e =>
      cases List.mem_singleton.mp done
      exact .inserted e

theorem Passage.reaches (h : Passage m log s) : Reaches (fun _ _ => True) m s := by
  induction h with
  | here => exact .refl
  | next event _ happened ih => exact ih.next event trivial happened

theorem Passage.sound (h : Passage m log s) (sound : m.Sound) : s.Sound := sound.reaches h.reaches

section

variable {α : Type} {allowed : Crowd → Event → Bool} {note : Crowd → Event → Crowd → List α}
  {notes : List α}

/-- A crowd comes after another one by events of which each is allowed where it happens, with a
record of what is noted of each event and of the crowds before and after it. -/
inductive Recorded (allowed : Crowd → Event → Bool) (note : Crowd → Event → Crowd → List α)
    (m : Crowd) : List α → Crowd → Prop
  | here : Recorded allowed note m [] m
  | next {notes : List α} {s s' : Crowd} (event : Event) (before : Recorded allowed note m notes s)
      (ok : allowed s event = true) (happened : s.next event = some s') :
      Recorded allowed note m (notes ++ note s event s') s'

/-- Lets events happen one after the other and takes notes; `none` if one cannot happen or is not
allowed. -/
def recording (allowed : Crowd → Event → Bool) (note : Crowd → Event → Crowd → List α)
    (s : Crowd) : List Event → Option (List α × Crowd)
  | [] => some ([], s)
  | event :: rest =>
    if allowed s event then (s.next event).bind fun s' =>
      (s'.recording allowed note rest).map fun (notes, later) => (note s event s' ++ notes, later)
    else none

/-- A record may begin one event earlier. -/
theorem Recorded.earlier (ok : allowed m event = true) (happened : m.next event = some s')
    (h : Recorded allowed note s' notes s) :
    Recorded allowed note m (note m event s' ++ notes) s := by
  induction h with
  | here =>
      have first : Recorded allowed note m ([] ++ note m event s') s' :=
        .next event .here ok happened
      simpa using first
  | next later _ fine too ih =>
      rw [← List.append_assoc]
      exact ih.next later fine too

theorem recorded_of_recording {later : Crowd} (events : List Event)
    (ran : m.recording allowed note events = some (notes, later)) :
    Recorded allowed note m notes later := by
  induction events generalizing m notes with
  | nil =>
      cases ran
      exact .here
  | cons event rest ih =>
      rw [recording] at ran
      split at ran
      next ok =>
        obtain ⟨s', happened, ran⟩ := Option.bind_eq_some_iff.mp ran
        obtain ⟨⟨notes', _⟩, ran, same⟩ := Option.map_eq_some_iff.mp ran
        cases same
        exact (ih ran).earlier ok happened
      next => cases ran

theorem Recorded.reaches (h : Recorded allowed note m notes s) :
    Reaches (fun _ _ => True) m s := by
  induction h with
  | here => exact .refl
  | next event _ _ happened ih => exact ih.next event trivial happened

end

end Crowd

end Refetch
