/-
# Entries that are filed under their own base keys

Only an entry that was made elsewhere can be inserted under any base key. All others are made by
whoever reads a key for the first time, and are filed under the base key of the key that was read;
parameters do not count, so this is the base key of the computed key as well. In a store without
entries of the first sort, a path reaches every entry whose key is that path with any parameters and
any query string.
-/

import Refetch.Proofs.Key.Base
import Refetch.Proofs.Store.Index

namespace Refetch

namespace Store

/-- Is every entry filed under the base key of its own key. -/
def Filed (s : Store) : Prop :=
  ∀ key id, s.find? key = some id → (s.entry id).baseKey = baseKeyOf key

/-- How a store comes about if no entry is inserted under another base key than its own. -/
inductive Plain : Store → Prop
  | empty : Plain .empty
  | getOrCreate {s : Store} (before : Plain s) (key : String) (params : Option Params) :
      Plain (s.getOrCreate key params).1
  | insert {s : Store} (before : Plain s) (e : Entry) (own : e.baseKey = baseKeyOf e.key) :
      Plain (s.insert e).1
  | invalidate {s : Store} (before : Plain s) (bases : List String) :
      Plain (s.invalidate bases).1
  | clear {s : Store} (before : Plain s) : Plain s.clear
  | put {s : Store} (before : Plain s) (id : EntryId) (e : Entry)
      (key : e.key = (s.entry id).key) (baseKey : e.baseKey = (s.entry id).baseKey) :
      Plain (s.put id e)

variable {s : Store}

theorem Plain.built (h : s.Plain) : s.Built := by
  induction h with
  | empty => exact .ofEntries []
  | getOrCreate _ key params ih => exact ih.getOrCreate key params
  | insert _ e _ ih => exact ih.insert e
  | invalidate _ bases ih => exact ih.invalidate bases
  | clear _ ih => exact ih.clear
  | put _ id e key baseKey ih => exact ih.put id e key baseKey

/-- A new entry is filed as it says, and takes no number that an entry has already. -/
theorem Filed.add (h : s.Filed) (wellFormed : s.WellFormed) {e : Entry}
    (own : e.baseKey = baseKeyOf e.key) (byBase : Dict (Dict Unit)) :
    Filed { arena := s.arena.push e, current := s.current.insert e.key s.arena.size, byBase } := by
  intro key id found
  rw [find?, Dict.get?_insert] at found
  rw [entry_push]
  split at found
  next same =>
    cases found
    rw [if_pos rfl, own, same]
  next =>
    have inside := (wellFormed.found key id found).1
    rw [if_neg (Nat.ne_of_lt inside)]
    exact h key id found

theorem Plain.filed (h : s.Plain) : s.Filed := by
  induction h with
  | empty => exact fun _ _ found => nomatch found
  | @getOrCreate s before key params ih =>
      cases found : s.find? (computeKey key params) with
      | some id =>
          rw [getOrCreate_of_find found]
          exact ih
      | none =>
          rw [getOrCreate_of_missing found]
          exact ih.add before.built.wellFormed (baseKeyOf_computeKey key params).symm _
  | insert before e own ih => exact ih.add before.built.wellFormed own _
  | invalidate before bases ih =>
      rw [before.built.wellFormed.invalidate_fst bases]
      intro key id found
      have same := ih key id found
      rw [entry_staled]
      split <;> exact same
  | clear => exact fun _ _ found => nomatch found
  | put _ id e _ baseKey ih =>
      intro key other found
      rw [common_put Entry.baseKey baseKey]
      exact ih key other found

end Store

end Refetch
