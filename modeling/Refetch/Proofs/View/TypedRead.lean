/-
# Typed reads and typed views agree

A read decodes the value that it comes to. A view decodes the data of an entry by itself, and has an
order of its own between the error of the entry and that of the decoding. Where the entry is fresh
both look at the same state, and they differ in nothing but the error that they show for data that
cannot be decoded: the read tells of the decoding, the view prefers the error of the entry. This
rests on the fact that a fresh entry has data or an error.
-/

import Refetch.Crowd
import Refetch.Proofs.Entry.Results
import Refetch.Proofs.Store.Index

namespace Refetch

/-- Nothing changes if an entry is replaced by itself. -/
theorem Store.put_entry (s : Store) (id : EntryId) : s.put id (s.entry id) = s := by
  apply Store.ext_entry
  · rfl
  · rfl
  · exact size_arena_put s id _
  · exact common_put (fun e => e) rfl

theorem Cache.put_entry (c : Cache) (id : EntryId) : c.put id (c.entry id) = c := by
  rw [put, entry, Store.put_entry]

namespace Reading

/-- Running undisturbed to the end, with the effects on the way. -/
inductive Completes : Cache → Reading → Cache → Option (FetchResult Json) → List Effect → Prop
  | done (c : Cache) (result : Option (FetchResult Json)) : Completes c (.done result) c result []
  | step {c c' after : Cache} {r r' : Reading} {result : Option (FetchResult Json)}
      {first rest : List Effect} (stepped : r.step c = some (c', r', first))
      (completes : Completes c' r' after result rest) :
      Completes c r after result (first ++ rest)

/-- What a read comes to that is told that the entry is fresh. -/
def hit (e : Entry) (purpose : Purpose) : Option (FetchResult Json) :=
  if purpose = .value then some e.snapshot.result else none

variable {c : Cache} {options : FetchOptions} {now : Instant} {id : EntryId} (purpose : Purpose)

theorem completes_begin_of_fresh
    (fresh : ((c.entry id).begin (c.window options.cache) now).2 = .fresh) :
    Completes c (.begin purpose options.cache now id) c (hit (c.entry id) purpose) [] := by
  obtain ⟨idle, within⟩ := Entry.begin_eq_fresh_iff.mp fresh
  have asked : (Reading.begin purpose options.cache now id).step c =
      some (c, afterTicket purpose options.cache id .fresh, []) := by
    simp only [step, Entry.begin_of_fresh idle within, Cache.put_entry]
  refine .step asked ?_
  by_cases takes : purpose = .value
  · have taken : (Reading.peek id).step c =
      some (c, .done (some (c.entry id).snapshot.result), []) := rfl
    rw [afterTicket, hit, if_pos takes, if_pos takes]
    exact .step taken (.done c _)
  · rw [afterTicket, hit, if_neg takes, if_neg takes]
    exact .done c none

/-- A read of a key whose entry is fresh sends no request and leaves the cache as it is. -/
theorem completes_of_fresh {key : String}
    (found : c.store.find? (computeKey key options.params) = some id)
    (fresh : ((c.entry id).begin (c.window options.cache) now).2 = .fresh) :
    ∃ effects, Completes c (.locate purpose key options now) c (hit (c.entry id) purpose) effects ∧
      requestsOf effects = [] := by
  have located : (Reading.locate purpose key options now).step c =
      some (c, .begin purpose options.cache now id,
        if options.depends then [.depends (c.entry id).key] else []) := by
    simp only [step, found]
    rfl
  refine ⟨_, .step located (completes_begin_of_fresh purpose fresh), ?_⟩
  rw [List.append_nil]
  split <;> rfl

end Reading

variable {α : Type}

/-- What a caller of a typed read gets is that the data decode, or the failure to decode them, or
the error if there are no data. -/
theorem Read.conclude_result (r : Read α) (s : Snapshot) :
    r.conclude s.result = match s.data, s.error with
      | some value, _ => decodeFrom r.decode r.key value
      | none, some error => .error error
      | none, none => decodeFrom r.decode r.key .null := by
  unfold Snapshot.result
  cases s.data with
  | some value => rfl
  | none => cases s.error <;> rfl

/-- Where there are data or an error, a typed read and a typed view show the same data, both or
neither of them, and the same error if there are no data. -/
theorem Read.agrees_with_view (r : Read α) (shownKey : String) {s : Snapshot}
    (present : s.data ≠ none ∨ s.error ≠ none) :
    (∀ x, r.conclude s.result = .ok x ↔ (View.ofSnapshot r.decode shownKey s).data = some x) ∧
      (∀ e, r.conclude s.result = .error e →
        (View.ofSnapshot r.decode shownKey s).data = none ∧
          (View.ofSnapshot r.decode shownKey s).error ≠ none) ∧
      (s.data = none → ∃ e, r.conclude s.result = .error e ∧
        (View.ofSnapshot r.decode shownKey s).error = some e) := by
  rw [r.conclude_result s]
  obtain ⟨data, error, loading⟩ := s
  cases data with
  | none =>
      cases error with
      | none => simp at present
      | some error => simp [View.ofSnapshot]
  | some value =>
      cases decoded : r.decode value with
      | ok x => simp [View.ofSnapshot, decodeFrom, decoded]
      | error e => cases error <;> simp [View.ofSnapshot, decodeFrom, decoded]

/-- Take an entry at any point of its life at which it is fresh and no fetch of it is in flight. A
typed read of its key and a typed query of it, both in the default mode, leave the cache as it is
and send nothing. As to what the caller of the read gets and what the view of the query shows:

* the caller gets `x` if and only if the view shows the data `x`;
* if the caller gets an error, the view shows no data and some error;
* if the entry has no data, both have the same error. -/
theorem typed_read_agrees_with_typed_view {r : Read α} {q : Query α} {key baseKey : String}
    {acts : List Entry.Act} {s : Entry.Life} {told : List Entry.Told}
    (ran : (Entry.Life.born key baseKey).run acts = some (s, told))
    {c : Cache} {id : EntryId} (there : c.entry id = s.entry)
    (found : c.store.find? (computeKey r.key r.options.params) = some id)
    (same_key : computeKey q.key q.options.fetch.params = computeKey r.key r.options.params)
    (same_decode : q.decode = r.decode)
    (read_mode : r.options.cache = .default) (query_mode : q.options.fetch.cache = .default)
    {now : Instant} (idle : s.entry.loading = false)
    (fresh : s.entry.freshWithin c.config.window now = true) :
    ∃ result effects effects',
      Reading.Completes c (.locate .value r.key r.options now) c (some result) effects ∧
      Reading.Completes c (.locate .background q.key q.options.fetch now) c none effects' ∧
      requestsOf effects = [] ∧ requestsOf effects' = [] ∧
      let view := View.ofSnapshot q.decode (c.entry id).key (c.entry id).snapshot
      (∀ x, r.conclude result = .ok x ↔ view.data = some x) ∧
      (∀ e, r.conclude result = .error e → view.data = none ∧ view.error ≠ none) ∧
      (s.entry.data = none → ∃ e, r.conclude result = .error e ∧ view.error = some e) := by
  have waits : s.entry.waiters = none := by simpa [Entry.loading] using idle
  have ticket : ∀ mode, mode = .default → ((c.entry id).begin (c.window mode) now).2 = .fresh := by
    intro mode default
    rw [there, Entry.begin_eq_fresh_iff, default]
    exact ⟨waits, fresh⟩
  obtain ⟨effects, read, quiet⟩ := Reading.completes_of_fresh .value found
    (ticket _ read_mode)
  obtain ⟨effects', query, quiet'⟩ := Reading.completes_of_fresh .background
    (same_key ▸ found) (ticket _ query_mode)
  have holds := Entry.Life.holds_of_run (Entry.holds_new key baseKey) ran
  have stamped : s.entry.revalidatedAt ≠ none := by
    intro absent
    simp [Entry.freshWithin, absent] at fresh
  have present : (c.entry id).snapshot.data ≠ none ∨ (c.entry id).snapshot.error ≠ none := by
    rw [there]
    exact holds.present (holds.marked stamped waits)
  refine ⟨_, effects, effects', read, query, quiet, quiet', ?_⟩
  rw [same_decode, ← there]
  exact r.agrees_with_view (c.entry id).key present

/-- A text was cached where a number is expected, and the last fetch has failed. The caller of a
typed read gets a failure, and the view shows no data, and the error of the fetch. -/
theorem undecodable_data_read_and_viewed :
    let error : FetchError := .cancelled "/other"
    let r : Read UInt64 := { key := "/count", decode := Codec.u64.read }
    let q : Query UInt64 := { key := "/count", decode := Codec.u64.read }
    let e : Entry :=
      { key := "/count", baseKey := "/count", data := some (.str "x"), error := some error,
        revalidatedAt := some ⟨1⟩ }
    let c : Cache := { store := .ofEntries [e] }
    ∃ told result effects failure,
      (Entry.Life.born "/count" "/count").run
          [.set (.str "x") ⟨0⟩, .begin none ⟨1⟩, .settle 0 (.error error)] =
        some ({ entry := e, begun := 1 }, told) ∧
      Reading.Completes c (.locate .value r.key r.options ⟨2⟩) c (some result) effects ∧
      r.conclude result = .error failure ∧
      (View.ofSnapshot q.decode (c.entry 0).key (c.entry 0).snapshot).data = none ∧
      (View.ofSnapshot q.decode (c.entry 0).key (c.entry 0).snapshot).error = some error := by
  intro error r q e c
  obtain ⟨told, ran⟩ : ∃ told, (Entry.Life.born "/count" "/count").run
      [.set (.str "x") ⟨0⟩, .begin none ⟨1⟩, .settle 0 (.error error)] =
    some ({ entry := e, begun := 1 }, told) := ⟨_, rfl⟩
  have there : c.entry 0 = e := rfl
  obtain ⟨result, effects, -, read, -, -, -, values, failures, -⟩ :=
    typed_read_agrees_with_typed_view (r := r) (q := q) ran there rfl rfl rfl rfl rfl rfl
      (show e.freshWithin c.config.window ⟨2⟩ = true from rfl)
  cases got : r.conclude result with
  | ok x => cases (values x).mp got
  | error failure =>
      exact ⟨told, result, effects, failure, ran, read, got, (failures failure got).1, rfl⟩

end Refetch
