/-
# What one step may do to a store

A step of an activity makes entries, replaces one entry by what it has become, or does something to
the store as a whole. `Advance` is what all of these have in common: entries keep their numbers and
keys, a key keeps its entry unless it is lost, and a fetch begins or ends only together with the
lead of it. The two numbers of an `Advance` are the entry whose fetch the activity leads before the
step, and the one whose fetch it leads after it.
-/

import Refetch.Proofs.Store.Index

namespace Refetch

namespace Store

/-- Which fetches are in flight, in step with what an activity leads. -/
inductive Shift (s s' : Store) : Option EntryId → Option EntryId → Prop
  | same (led : Option EntryId)
      (loading : ∀ id, (s'.entry id).loading = (s.entry id).loading) : Shift s s' led led
  | begins (id : EntryId) (idle : (s.entry id).loading = false)
      (flying : (s'.entry id).loading = true)
      (others : ∀ other, other ≠ id → (s'.entry other).loading = (s.entry other).loading) :
      Shift s s' none (some id)
  | ends (id : EntryId) (idle : (s'.entry id).loading = false)
      (others : ∀ other, other ≠ id → (s'.entry other).loading = (s.entry other).loading) :
      Shift s s' (some id) none

/-- What a step may do, given the keys whose entries it may lose. -/
structure Advance (s s' : Store) (lost : String → Prop) (led led' : Option EntryId) : Prop where
  built : s'.Built
  size : s.arena.size ≤ s'.arena.size
  key : ∀ id, id < s.arena.size → (s'.entry id).key = (s.entry id).key
  find : ∀ key id, ¬ lost key → s.find? key = some id → s'.find? key = some id
  shift : Shift s s' led led'

variable {s : Store} {lost : String → Prop} {led : Option EntryId}

theorem Advance.refl (h : s.Built) : Advance s s lost led led where
  built := h
  size := Nat.le_refl _
  key := fun _ _ => rfl
  find := fun _ _ _ found => found
  shift := .same led fun _ => rfl

variable {id : EntryId} {e : Entry}

theorem loading_put_of_ne {other : EntryId} (h : other ≠ id) :
    ((s.put id e).entry other).loading = (s.entry other).loading := by
  rw [entry_put_of_ne s e h]

/-- An entry that keeps its key may be replaced if that is in step with the lead. -/
theorem Advance.put {led' : Option EntryId} (h : s.Built) (key : e.key = (s.entry id).key)
    (baseKey : e.baseKey = (s.entry id).baseKey) (shift : Shift s (s.put id e) led led') :
    Advance s (s.put id e) lost led led' where
  built := h.put id e key baseKey
  size := Nat.le_of_eq (size_arena_put s id e).symm
  key := fun other _ => common_put Entry.key key other
  find := fun _ _ _ found => found
  shift := shift

theorem Shift.put_same (h : e.loading = (s.entry id).loading) : Shift s (s.put id e) led led :=
  .same led (common_put Entry.loading h)

theorem Shift.put_begins (inside : id < s.arena.size) (idle : (s.entry id).loading = false)
    (flying : e.loading = true) : Shift s (s.put id e) none (some id) := by
  refine .begins id idle ?_ fun other different => loading_put_of_ne different
  rw [entry_put_same s e inside, flying]

theorem Shift.put_ends (idle : e.loading = false) : Shift s (s.put id e) (some id) none := by
  refine .ends id ?_ fun other different => loading_put_of_ne different
  rw [entry_put]
  by_cases inside : id < s.arena.size
  · rw [if_pos ⟨rfl, inside⟩, idle]
  · rw [if_neg fun both => inside both.2, entry_of_size_le s id (Nat.le_of_not_lt inside)]
    rfl

/-- An entry may be added if no fetch of it is in flight. -/
theorem Advance.push {current : Dict EntryId} {byBase : Dict (Dict Unit)}
    (idle : e.waiters = none)
    (h : Built { arena := s.arena.push e, current, byBase })
    (find : ∀ key id, ¬ lost key → s.find? key = some id → current.get? key = some id) :
    Advance s { arena := s.arena.push e, current, byBase } lost led led where
  built := h
  size := by simp
  key := by
    intro id inside
    rw [entry_push, if_neg (Nat.ne_of_lt inside)]
  find := find
  shift := by
    refine .same led fun id => ?_
    rw [entry_push]
    split
    next new =>
      rw [entry_of_size_le s id (Nat.le_of_eq new.symm)]
      simp [Entry.loading, idle]
      rfl
    next => rfl

theorem find?_getOrCreate (s : Store) (key : String) (params : Option Params) :
    (s.getOrCreate key params).1.find? (computeKey key params) =
      some (s.getOrCreate key params).2 := by
  cases found : s.find? (computeKey key params) with
  | some id => rw [getOrCreate_of_find found, found]
  | none => simp [getOrCreate_of_missing found, find?, Dict.get?_insert]

theorem Advance.getOrCreate (h : s.Built) (key : String) (params : Option Params) :
    Advance s (s.getOrCreate key params).1 lost led led := by
  have built := h.getOrCreate key params
  cases absent : s.find? (computeKey key params) with
  | some id =>
      rw [getOrCreate_of_find absent]
      exact .refl h
  | none =>
      rw [getOrCreate_of_missing absent] at built ⊢
      refine .push rfl built fun other id _ found => ?_
      rw [Dict.get?_insert]
      split
      next same =>
        rw [same, absent] at found
        cases found
      next => exact found

/-- Adding an entry made elsewhere can lose the entry that has the same key. -/
theorem Advance.insert (h : s.Built) (idle : e.waiters = none) :
    Advance s (s.insert e).1 (fun key => key = e.key ∧ (s.find? key).isSome = true) led led := by
  refine .push idle (h.insert e) fun key id kept found => ?_
  rw [Dict.get?_insert]
  split
  next same => exact absurd ⟨same, by rw [found]; rfl⟩ kept
  next => exact found

/-- No fetch is in flight in a store of entries of which none is being fetched. -/
theorem loading_ofEntries {entries : List Entry} (idle : ∀ e ∈ entries, e.waiters = none)
    (id : EntryId) : ((ofEntries entries).entry id).loading = false := by
  have fold : ∀ s : Store, s.Built → (s.entry id).loading = false →
      ((entries.foldl (fun store e => (store.insert e).1) s).entry id).loading = false := by
    induction entries with
    | nil => exact fun s _ still => still
    | cons e rest ih =>
        obtain ⟨first, others⟩ := List.forall_mem_cons.mp idle
        intro s built still
        refine ih others _ (built.insert e) ?_
        have advance : Advance s (s.insert e).1 _ none none := .insert built first
        cases advance.shift with
        | same _ loading => rw [loading, still]
  exact fold empty (.ofEntries []) rfl

theorem Advance.invalidate (h : s.Built) (bases : List String) :
    Advance s (s.invalidate bases).1 lost led led := by
  have built := h.invalidate bases
  rw [h.wellFormed.invalidate_fst bases] at built ⊢
  refine ⟨built, by simp [staled], ?_, fun _ _ _ found => found, .same led ?_⟩
  · intro id _
    rw [entry_staled]
    split <;> rfl
  · intro id
    rw [entry_staled]
    split <;> rfl

/-- Clearing loses every key, but no entry that somebody holds on to. -/
theorem Advance.clear (h : s.Built) : Advance s s.clear (fun _ => True) led led where
  built := h.clear
  size := Nat.le_refl _
  key := fun _ _ => rfl
  find := fun _ _ kept _ => absurd trivial kept
  shift := .same led fun _ => rfl

end Store

end Refetch
