/-
# The entries of a cache, by key and by base key

Every entry that was ever made keeps its place, and its number, for as long as the cache lives,
since readers may hold on to one that the store has dropped. `current` gives the entry of each
key, `byBase` the keys that derive from each base key, so that invalidating a base key reaches all
and only the entries derived from it.
-/

import Refetch.Entry

namespace Refetch

/-- The number of an entry. -/
abbrev EntryId := Nat

/-- The entries of a cache. -/
structure Store where
  /-- Every entry made so far. -/
  arena : Array Entry := #[]
  /-- The entry of each key. -/
  current : Dict EntryId := .empty
  /-- The keys derived from each base key. -/
  byBase : Dict (Dict Unit) := .empty
  deriving DecidableEq, Repr, Inhabited

namespace Store

/-- The store without entries. -/
def empty : Store := {}

def find? (s : Store) (key : String) : Option EntryId := s.current.get? key

def entry (s : Store) (id : EntryId) : Entry := s.arena.getD id default

/-- Replaces the entry with a number by what it has become. -/
def put (s : Store) (id : EntryId) (e : Entry) : Store :=
  { s with arena := s.arena.setIfInBounds id e }

/-- Adds a key to those derived from a base key. -/
def index (byBase : Dict (Dict Unit)) (baseKey key : String) : Dict (Dict Unit) :=
  byBase.insert baseKey (((byBase.get? baseKey).getD .empty).insert key ())

/-- Takes a key away from those derived from a base key; a base key without keys goes too. -/
def unindex (byBase : Dict (Dict Unit)) (baseKey key : String) : Dict (Dict Unit) :=
  match byBase.get? baseKey with
  | none => byBase
  | some keys =>
    let rest := keys.erase key
    if rest.isEmpty then byBase.erase baseKey else byBase.insert baseKey rest

/-- Makes the entry of a computed key under a base key, unless it has been made meanwhile. -/
def create (s : Store) (computed baseKey : String) : Store × EntryId :=
  match s.find? computed with
  | some id => (s, id)
  | none =>
    let id := s.arena.size
    ({ arena := s.arena.push { key := computed, baseKey },
       current := s.current.insert computed id,
       byBase := index s.byBase baseKey computed }, id)

/-- The entry of a key with parameters, made if it is not there. -/
def getOrCreate (s : Store) (key : String) (params : Option Params) : Store × EntryId :=
  s.create (computeKey key params) (baseKeyOf key)

/-- Adds an entry in place of the one that had its key, and gives that one. -/
def insert (s : Store) (e : Entry) : Store × Option EntryId :=
  let previous := s.find? e.key
  let byBase := match previous with
    | some id => unindex s.byBase (s.entry id).baseKey (s.entry id).key
    | none => s.byBase
  let id := s.arena.size
  ({ arena := s.arena.push e,
     current := s.current.insert e.key id,
     byBase := index byBase e.baseKey e.key }, previous)

/-- The store of the given entries; of several with one key the last one counts. -/
def ofEntries (entries : List Entry) : Store :=
  entries.foldl (fun store e => (store.insert e).1) .empty

def keysForBase (s : Store) (baseKey : String) : List String :=
  ((s.byBase.get? baseKey).map Dict.keys).getD []

/-- The keys that the given base keys or URLs reach: in the order of these, then in their own order,
each once. -/
def reach (s : Store) (bases : List String) : List String :=
  (bases.flatMap fun base => s.keysForBase (baseKeyOf base)).foldl
    (fun seen key => if key ∈ seen then seen else seen ++ [key]) []

/-- Invalidates the entry of a key. -/
def invalidateKey (s : Store) (key : String) : Store :=
  match s.find? key with
  | none => s
  | some id => s.put id (s.entry id).invalidate

/-- Invalidates every entry derived from the given base keys, a query string in these being ignored,
and gives the keys of these entries. -/
def invalidate (s : Store) (bases : List String) : Store × List String :=
  let keys := (s.reach bases).filter fun key => s.current.contains key
  (keys.foldl invalidateKey s, keys)

/-- Drops every entry. -/
def clear (s : Store) : Store := { s with current := .empty, byBase := .empty }

/-- The number of entries. -/
def size (s : Store) : Nat := s.current.size

/-- The number of base keys from which an entry derives. -/
def baseCount (s : Store) : Nat := s.byBase.size

variable (s : Store) (id other : EntryId) (e : Entry)

@[simp]
theorem size_arena_put : (s.put id e).arena.size = s.arena.size := by simp [put]

/-- Replacing an entry leaves the others as they are. -/
theorem entry_put :
    (s.put id e).entry other = if other = id ∧ id < s.arena.size then e else s.entry other := by
  unfold put entry
  by_cases h : other = id
  · subst h
    by_cases inside : other < s.arena.size <;> simp [Array.getD_eq_getD_getElem?, inside]
  · simp [Array.getD_eq_getD_getElem?, h, Ne.symm h]

variable {id other} in
theorem entry_put_of_ne (h : other ≠ id) : (s.put id e).entry other = s.entry other := by
  rw [entry_put, if_neg fun both => h both.1]

variable {s id e} in
/-- What an entry has in common with the one that it replaces stays as it was. -/
theorem common_put {β : Type} (f : Entry → β) (same : f e = f (s.entry id)) (other : EntryId) :
    f ((s.put id e).entry other) = f (s.entry other) := by
  rw [entry_put]
  split
  next both => rw [same, both.1]
  next => rfl

variable {id} in
theorem entry_put_same (h : id < s.arena.size) : (s.put id e).entry id = e := by
  simp [entry_put, h]

/-- There is nothing to be seen where no entry was made. -/
theorem entry_of_size_le (h : s.arena.size ≤ id) : s.entry id = default := by
  simp [entry, Array.getD_eq_getD_getElem?, h]

theorem entry_push (current : Dict EntryId) (byBase : Dict (Dict Unit)) :
    ({ arena := s.arena.push e, current, byBase } : Store).entry other =
      if other = s.arena.size then e else s.entry other := by
  simp only [entry, Array.getD_eq_getD_getElem?, Array.getElem?_push]
  split <;> rfl

variable {s} {key : String} {params : Option Params}

theorem getOrCreate_of_find {id : EntryId} (found : s.find? (computeKey key params) = some id) :
    s.getOrCreate key params = (s, id) := by
  rw [getOrCreate, create, found]

theorem getOrCreate_of_missing (missing : s.find? (computeKey key params) = none) :
    s.getOrCreate key params =
      ({ arena := s.arena.push { key := computeKey key params, baseKey := baseKeyOf key },
         current := s.current.insert (computeKey key params) s.arena.size,
         byBase := index s.byBase (baseKeyOf key) (computeKey key params) }, s.arena.size) := by
  rw [getOrCreate, create, missing]

end Store

end Refetch
