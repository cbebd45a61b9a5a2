/-
# An entry holds its last value and its last error

Stored values and settled fetches are the results that an entry is given in its life. Nothing else
touches its data or its error: the data are the last value among the results, and the error is that
of the last result, if that failed. A revalidation time without a fetch in flight is the mark of
such a result, since a leader that is dropped takes it away. So whoever is told that an entry is
fresh finds something there, at that moment and at any later one, and never has to make up a value.
-/

import Refetch.Proofs.Entry.Quiet
import Refetch.Proofs.Entry.Staleness

namespace Refetch

namespace Entry

/-- The result that an act gives to the entry. -/
def Act.result : Act → Option (FetchResult Json)
  | .set value _ => some (.ok value)
  | .settle _ result => some result
  | _ => none

/-- The results that acts give to the entry, in their order. -/
def results (acts : List Act) : List (FetchResult Json) := acts.filterMap Act.result

/-- The last of the results that is a value. -/
def lastValue (given : List (FetchResult Json)) : Option Json :=
  (given.filterMap Except.toOption).getLast?

def errorOf : FetchResult Json → Option FetchError
  | .ok _ => none
  | .error e => some e

/-- The error of the last result, if that failed. -/
def lastError (given : List (FetchResult Json)) : Option FetchError := given.getLast?.bind errorOf

@[simp]
theorem lastValue_concat (given : List (FetchResult Json)) (result : FetchResult Json) :
    lastValue (given ++ [result]) = result.toOption.or (lastValue given) := by
  cases result <;> simp [lastValue, Except.toOption]

@[simp]
theorem lastError_concat (given : List (FetchResult Json)) (result : FetchResult Json) :
    lastError (given ++ [result]) = errorOf result := by
  simp [lastError]

/-- If no result was a value, the last one has an error. -/
theorem lastError_of_lastValue_eq_none {given : List (FetchResult Json)} (some_result : given ≠ [])
    (no_value : lastValue given = none) : ∃ error, lastError given = some error := by
  obtain ⟨before, last, rfl⟩ := (List.eq_nil_or_concat given).resolve_left some_result
  cases last with
  | ok value => simp [Except.toOption] at no_value
  | error e => exact ⟨e, by simp [errorOf]⟩

/-- What holds of an entry that was given these results. -/
structure Holds (given : List (FetchResult Json)) (e : Entry) : Prop where
  data : e.data = lastValue given
  error : e.error = lastError given
  /-- A revalidation time without a fetch in flight comes from a result. -/
  marked : e.revalidatedAt ≠ none → e.waiters = none → given ≠ []

theorem holds_new (key baseKey : String) : Holds [] { key, baseKey } where
  data := rfl
  error := rfl
  marked := fun stamped => absurd rfl stamped

theorem Holds.quiet {given : List (FetchResult Json)} {e e' : Entry} (h : Holds given e)
    (quiet : Quiet e e') : Holds given e' where
  data := quiet.data.trans h.data
  error := quiet.error.trans h.error
  marked := by
    intro stamped idle
    rcases quiet.stamped stamped with ⟨before, still⟩ | ⟨-, flying⟩
    · exact h.marked before (still idle)
    · exact absurd idle flying

theorem Holds.set {given : List (FetchResult Json)} {e : Entry} (value : Json) (now : Instant) :
    Holds (given ++ [.ok value]) (e.set value now) where
  data := by simp [Entry.set, Except.toOption]
  error := by simp [Entry.set, errorOf]
  marked := by simp

theorem Holds.settle {given : List (FetchResult Json)} {e : Entry} (h : Holds given e)
    (result : FetchResult Json) : Holds (given ++ [result]) (e.settle result).1 := by
  cases result with
  | ok value => exact ⟨by simp [Entry.settle, Except.toOption], by simp [Entry.settle, errorOf],
      by simp⟩
  | error error => exact ⟨by simp [Entry.settle, Except.toOption, h.data],
      by simp [Entry.settle, errorOf], by simp⟩

theorem Holds.present {given : List (FetchResult Json)} {e : Entry} (h : Holds given e)
    (some_result : given ≠ []) : e.data ≠ none ∨ e.error ≠ none := by
  rw [h.data, h.error]
  by_cases no_value : lastValue given = none
  · obtain ⟨error, last⟩ := lastError_of_lastValue_eq_none some_result no_value
    exact Or.inr (by simp [last])
  · exact Or.inl no_value

/-- An entry that holds a result gives the last value to whoever takes what is there, or else the
last error. -/
theorem Holds.result {given : List (FetchResult Json)} {e : Entry} (h : Holds given e)
    (some_result : given ≠ []) :
    (∀ value, lastValue given = some value → e.snapshot.result = .ok value) ∧
      (lastValue given = none →
        ∃ error, lastError given = some error ∧ e.snapshot.result = .error error) := by
  constructor
  · intro value last
    simp [Snapshot.result, snapshot, h.data, last]
  · intro no_value
    obtain ⟨error, last⟩ := lastError_of_lastValue_eq_none some_result no_value
    exact ⟨error, last, by simp [Snapshot.result, snapshot, h.data, h.error, no_value, last]⟩

namespace Life

variable {s s' after : Life} {given : List (FetchResult Json)}

theorem entry_of_begin {window : Option Int} {now : Instant} {told : Told}
    (stepped : s.step (.begin window now) = some (s', told)) :
    s'.entry = (s.entry.begin window now).1 := by
  cases stepped
  split <;> rfl

/-- An act gives the entry one more result, or leaves it with what it holds. -/
theorem holds_of_step {act : Act} {told : Told} (h : Holds given s.entry)
    (stepped : s.step act = some (s', told)) : Holds (given ++ act.result.toList) s'.entry := by
  have unresulting : act.result = none → Quiet s.entry s'.entry →
      Holds (given ++ act.result.toList) s'.entry := by
    intro none quiet
    simpa [none] using h.quiet quiet
  cases act with
  | begin window now =>
      apply unresulting rfl
      rw [entry_of_begin stepped]
      exact .begin s.entry window now
  | wait =>
      cases stepped
      exact unresulting rfl (.wait s.entry)
  | set value now =>
      cases stepped
      exact .set value now
  | invalidate =>
      cases stepped
      exact unresulting rfl (.of_same_flight rfl rfl rfl rfl (Or.inr rfl))
  | subscribe | unsubscribe _ =>
      cases stepped
      exact unresulting rfl (.of_same_flight rfl rfl rfl rfl (Or.inl rfl))
  | settle fetch result =>
      simp only [step] at stepped
      split at stepped
      next =>
        cases stepped
        exact h.settle result
      next => cases stepped
  | drop fetch =>
      simp only [step] at stepped
      split at stepped
      next =>
        cases stepped
        exact unresulting rfl (.abandon s.entry)
      next => cases stepped

theorem results_cons (act : Act) (acts : List Act) :
    results (act :: acts) = act.result.toList ++ results acts := by
  cases gives : act.result <;> simp [results, gives]

theorem results_append (acts later : List Act) :
    results (acts ++ later) = results acts ++ results later := List.filterMap_append

/-- Over a run the entry is given the results of its acts. -/
theorem holds_of_run {acts : List Act} {told : List Told} (h : Holds given s.entry)
    (ran : s.run acts = some (after, told)) : Holds (given ++ results acts) after.entry := by
  induction acts generalizing s given told with
  | nil =>
      cases ran
      simpa [results] using h
  | cons act acts ih =>
      obtain ⟨s', first, rest, stepped, rested, rfl⟩ := run_cons ran
      rw [results_cons, ← List.append_assoc]
      exact ih (holds_of_step h stepped) rested

/-- A reader takes what is there only if it was told that the entry is fresh. -/
theorem ticket_of_peek {c c' : Cache} {mode : CacheMode} {now : Instant} {id : EntryId}
    {effects : List Effect}
    (spared : (Reading.begin .value mode now id).step c = some (c', .peek id, effects)) :
    ((c.entry id).begin (c.window mode) now).2 = .fresh := by
  simp only [Reading.step, Option.some.injEq, Prod.mk.injEq] at spared
  cases ticket : ((c.entry id).begin (c.window mode) now).2 with
  | fresh => rfl
  | leader | follower _ => simp [ticket, Reading.afterTicket] at spared

/-- After every run of acts:

* the data are the last value among the results that were given to the entry, and there is an error
  exactly if the last result was one, which is then the error;
* no act but a stored value and a fetch that settles with one changes the data;
* an entry with a revalidation time and no fetch in flight has data or an error;
* a reader that is told here that the entry is fresh, and takes what is there after any further acts
  of others, gets the last value that was given until then, or, if there was none, the error of the
  last result; and data and error are not both absent;
* a caller that asks to fetch in any case is never told that the entry is fresh. -/
theorem hit_gives_last_result {key baseKey : String} {acts : List Act} {s : Life}
    {told : List Told} (ran : (born key baseKey).run acts = some (s, told)) :
    s.entry.data = lastValue (results acts) ∧ s.entry.error = lastError (results acts) ∧
      (∀ act s' answer, s.step act = some (s', answer) →
        (∀ value, act.result ≠ some (.ok value)) → s'.entry.data = s.entry.data) ∧
      (s.entry.revalidatedAt ≠ none → s.entry.loading = false →
        s.entry.data ≠ none ∨ s.entry.error ≠ none) ∧
      (∀ (c c' : Cache) (id : EntryId) (mode : CacheMode) (now : Instant) (effects : List Effect),
        c.entry id = s.entry →
        (Reading.begin .value mode now id).step c = some (c', .peek id, effects) →
        ∀ later after toldLater, s.run later = some (after, toldLater) →
        ∀ d : Cache, d.entry id = after.entry →
          ¬ (after.entry.data = none ∧ after.entry.error = none) ∧
          ∃ result, (Reading.peek id).step d = some (d, .done (some result), []) ∧
            (∀ value, lastValue (results (acts ++ later)) = some value → result = .ok value) ∧
            (lastValue (results (acts ++ later)) = none →
              ∃ error, lastError (results (acts ++ later)) = some error ∧
                result = .error error)) ∧
      ∀ now s' ticket, s.step (.begin none now) = some (s', .ticket ticket) → ticket ≠ .fresh := by
  have holds : Holds (results acts) s.entry := by
    simpa using holds_of_run (holds_new key baseKey) ran
  refine ⟨holds.data, holds.error, ?_, ?_, ?_, ?_⟩
  · intro act s' answer stepped valueless
    rw [(holds_of_step holds stepped).data, holds.data]
    cases gives : act.result with
    | none => simp
    | some result =>
        cases result with
        | ok value => exact absurd gives (valueless value)
        | error error => simp [Except.toOption]
  · intro stamped idle
    have some_result := holds.marked stamped (by simpa [Entry.loading] using idle)
    exact holds.present some_result
  · intro c c' id mode now effects here spared later after toldLater rested d there
    have fresh := ticket_of_peek spared
    rw [here] at fresh
    obtain ⟨idle, within⟩ := begin_eq_fresh_iff.mp fresh
    have then_holds : Holds (results (acts ++ later)) after.entry := by
      rw [results_append]
      exact holds_of_run holds rested
    have some_result : results (acts ++ later) ≠ [] := by
      rw [results_append]
      exact List.append_ne_nil_of_left_ne_nil (holds.marked (stamped_of_fresh within) idle) _
    refine ⟨?_, after.entry.snapshot.result, ?_, then_holds.result some_result⟩
    · rintro ⟨no_data, no_error⟩
      exact (then_holds.present some_result).elim (absurd no_data) (absurd no_error)
    · rw [← there]
      rfl
  · rintro now s' ticket stepped rfl
    simp only [step, Option.some.injEq, Prod.mk.injEq, Told.ticket.injEq] at stepped
    obtain ⟨-, within⟩ := begin_eq_fresh_iff.mp stepped.2
    cases within

/-- The only fetch so far has failed, and a reader is told that the entry is fresh. Before it looks,
another caller begins a fetch and is dropped, so that the entry is stale by then. The reader gets
the error. -/
theorem hit_after_failed_fetch :
    let error : FetchError := .cancelled "/targets"
    let acts : List Act := [.begin none ⟨0⟩, .settle 0 (.error error)]
    let later : List Act := [.begin none ⟨2⟩, .wait, .drop 1]
    let failed : Entry :=
      { key := "/apps", baseKey := "/apps", error := some error, revalidatedAt := some ⟨0⟩ }
    let s : Life := { entry := failed, begun := 1 }
    let holding (e : Entry) : Cache := { store := { arena := #[e] } }
    ∃ told after toldLater,
      (born "/apps" "/apps").run acts = some (s, told) ∧
      (Reading.begin .value .default ⟨1⟩ 0).step (holding failed) =
        some (holding failed, .peek 0, []) ∧
      s.run later = some (after, toldLater) ∧ after.entry.revalidatedAt = none ∧
      (Reading.peek 0).step (holding after.entry) =
        some (holding after.entry, .done (some (.error error)), []) := by
  intro error acts later failed s holding
  obtain ⟨told, ran⟩ : ∃ told, (born "/apps" "/apps").run acts = some (s, told) := ⟨_, rfl⟩
  have spared : (Reading.begin .value .default ⟨1⟩ 0).step (holding failed) =
    some (holding failed, .peek 0, []) := rfl
  obtain ⟨after, toldLater, rested, stale⟩ : ∃ after toldLater,
    s.run later = some (after, toldLater) ∧ after.entry.revalidatedAt = none := ⟨_, _, rfl, rfl⟩
  obtain ⟨-, -, -, -, hit, -⟩ := hit_gives_last_result ran
  obtain ⟨-, result, taken, -, last⟩ :=
    hit _ _ _ _ _ _ rfl spared later after toldLater rested (holding after.entry) rfl
  obtain ⟨found, held, rfl⟩ := last rfl
  cases held
  exact ⟨told, after, toldLater, ran, spared, rested, stale, taken⟩

end Life

end Entry

end Refetch
