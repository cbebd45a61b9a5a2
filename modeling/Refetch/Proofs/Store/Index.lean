/-
# The index of base keys is exact

The store keeps its entries by key and, beside that, the keys that derive from each base key. The
second dictionary says nothing that the first does not: `WellFormed` states that a key stands in the
index under the base key of its own entry and nowhere else, and that no part of the index is idle.
Every store that can be built has this form, also after an entry was replaced by one with another
base key.

Invalidating base keys through the index therefore reaches what a scan of all entries would reach.
-/

import Mathlib.Data.List.Basic
import Refetch.Proofs.Text.ByteOrder
import Refetch.Store

namespace Refetch

namespace Store

/-- Does the index have a key under a base key. -/
def Indexed (byBase : Dict (Dict Unit)) (baseKey key : String) : Prop :=
  ∃ keys, byBase.get? baseKey = some keys ∧ keys.contains key = true

/-- Has every base key of the index a key. -/
def Filled (byBase : Dict (Dict Unit)) : Prop :=
  ∀ baseKey keys, byBase.get? baseKey = some keys → keys.isEmpty = false

/-- The base key of the entry of a key. -/
def baseOf? (s : Store) (key : String) : Option String :=
  (s.find? key).map fun id => (s.entry id).baseKey

/-- The index is exact. -/
structure WellFormed (s : Store) : Prop where
  /-- The entry of a key has that key. -/
  found : ∀ key id, s.find? key = some id → id < s.arena.size ∧ (s.entry id).key = key
  /-- The index has a key under the base key of its entry, and has nothing else. -/
  indexed_iff : ∀ baseKey key, Indexed s.byBase baseKey key ↔ s.baseOf? key = some baseKey
  /-- No base key of the index is without keys. -/
  filled : Filled s.byBase

theorem indexed_index (byBase : Dict (Dict Unit)) (baseKey key b k : String) :
    Indexed (index byBase baseKey key) b k ↔
      (b = baseKey ∧ k = key) ∨ Indexed byBase b k := by
  unfold Indexed index
  simp only [Dict.get?_insert]
  by_cases same : b = baseKey
  · subst same
    cases old : byBase.get? b with
    | none => simp [Dict.contains_insert]
    | some keys => simp [Dict.contains_insert]
  · simp [same]

theorem filled_index {byBase : Dict (Dict Unit)} (h : Filled byBase)
    (baseKey key : String) : Filled (index byBase baseKey key) := by
  intro b keys found
  rw [index, Dict.get?_insert] at found
  by_cases same : b = baseKey
  · rw [if_pos same] at found
    cases found
    exact Dict.isEmpty_eq_false_iff.mpr ⟨key, (Dict.contains_insert ..).mpr (Or.inl rfl)⟩
  · rw [if_neg same] at found
    exact h b keys found

/-- Taking a key away takes it from under one base key. Whether that base key stays makes no
difference to what is indexed. -/
theorem indexed_unindex (byBase : Dict (Dict Unit)) (baseKey key b k : String) :
    Indexed (unindex byBase baseKey key) b k ↔
      Indexed byBase b k ∧ ¬ (b = baseKey ∧ k = key) := by
  unfold unindex
  cases old : byBase.get? baseKey with
  | none =>
      constructor
      · intro h
        refine ⟨h, ?_⟩
        rintro ⟨rfl, -⟩
        obtain ⟨keys, found, -⟩ := h
        rw [old] at found
        cases found
      · exact fun h => h.1
  | some keys =>
      by_cases same : b = baseKey
      · subst same
        have remaining : Indexed byBase b k ∧ ¬ (b = b ∧ k = key) ↔
            (keys.erase key).contains k = true := by
          simp [Indexed, old, Dict.contains_erase, and_comm]
        rw [remaining]
        cases left : (keys.erase key).isEmpty with
        | true =>
            have none_left : ¬ (keys.erase key).contains k = true := fun h => by
              simp [Dict.isEmpty_eq_false_iff.mpr ⟨k, h⟩] at left
            simp [Indexed, left, Dict.get?_erase, none_left]
        | false => simp [Indexed, left, Dict.get?_insert]
      · cases left : (keys.erase key).isEmpty <;>
          simp [Indexed, Dict.get?_erase, Dict.get?_insert, left, same]

theorem filled_unindex {byBase : Dict (Dict Unit)} (h : Filled byBase)
    (baseKey key : String) : Filled (unindex byBase baseKey key) := by
  intro b keys found
  unfold unindex at found
  cases old : byBase.get? baseKey with
  | none =>
      rw [old] at found
      exact h b keys found
  | some before =>
      simp only [old] at found
      split at found
      next =>
        rw [Dict.get?_erase] at found
        split at found
        · cases found
        · exact h b keys found
      next left =>
        rw [Dict.get?_insert] at found
        split at found
        · cases found
          simpa using left
        · exact h b keys found

/-- How a store comes about. Entries may change at any time, but keep their keys. -/
inductive Built : Store → Prop
  | ofEntries (entries : List Entry) : Built (ofEntries entries)
  | getOrCreate {s : Store} (before : Built s) (key : String) (params : Option Params) :
      Built (s.getOrCreate key params).1
  | insert {s : Store} (before : Built s) (e : Entry) : Built (s.insert e).1
  | invalidate {s : Store} (before : Built s) (bases : List String) :
      Built (s.invalidate bases).1
  | clear {s : Store} (before : Built s) : Built s.clear
  | put {s : Store} (before : Built s) (id : EntryId) (e : Entry)
      (key : e.key = (s.entry id).key) (baseKey : e.baseKey = (s.entry id).baseKey) :
      Built (s.put id e)

/-- Without entries the index is exact if it is empty. -/
theorem wellFormed_of_empty (arena : Array Entry) :
    WellFormed { arena, current := .empty, byBase := .empty } where
  found := fun key id h => by cases h
  indexed_iff := fun baseKey key => by
    constructor
    · rintro ⟨keys, h, -⟩
      cases h
    · intro h
      cases h
  filled := fun baseKey keys h => by cases h

/-- What the dictionaries say decides whether a store is well-formed, and beside them only the keys
of the entries. -/
theorem WellFormed.of_same_keys {s t : Store} (h : s.WellFormed) (current : t.current = s.current)
    (byBase : t.byBase = s.byBase) (size : t.arena.size = s.arena.size)
    (key : ∀ id, (t.entry id).key = (s.entry id).key)
    (baseKey : ∀ id, (t.entry id).baseKey = (s.entry id).baseKey) : t.WellFormed := by
  have finds : ∀ k, t.find? k = s.find? k := fun k => by rw [find?, find?, current]
  constructor
  · intro k id found
    rw [finds] at found
    rw [size, key]
    exact h.found k id found
  · intro b k
    rw [byBase, baseOf?, finds]
    simp only [baseKey]
    exact h.indexed_iff b k
  · rw [byBase]
    exact h.filled

theorem WellFormed.put {s : Store} (h : s.WellFormed) {id : EntryId} {e : Entry}
    (key : e.key = (s.entry id).key) (baseKey : e.baseKey = (s.entry id).baseKey) :
    (s.put id e).WellFormed := by
  refine h.of_same_keys rfl rfl (size_arena_put s id e) ?_ ?_
  · exact common_put Entry.key key
  · exact common_put Entry.baseKey baseKey

/-- A well-formed store stays so when an entry is added under its key, provided that the index has
the key nowhere else by then. -/
theorem WellFormed.add {s : Store} (h : s.WellFormed) (e : Entry) {byBase : Dict (Dict Unit)}
    (filled : Filled byBase)
    (others : ∀ b k, Indexed byBase b k ↔ k ≠ e.key ∧ Indexed s.byBase b k) :
    WellFormed { arena := s.arena.push e, current := s.current.insert e.key s.arena.size,
                 byBase := index byBase e.baseKey e.key } := by
  constructor
  · intro key id found
    rw [find?, Dict.get?_insert] at found
    rw [Array.size_push, entry_push]
    split at found
    next same =>
      cases found
      simp [same]
    next =>
      obtain ⟨inside, hkey⟩ := h.found key id found
      simp [Nat.ne_of_lt inside, hkey, Nat.lt_succ_of_lt inside]
  · intro b k
    rw [indexed_index, others, h.indexed_iff]
    simp only [baseOf?, find?, Dict.get?_insert]
    by_cases same : k = e.key
    · simp [same, entry_push, eq_comm]
    · simp only [same, and_false, false_or, ne_eq, not_false_eq_true, true_and, if_false]
      cases hk : s.current.get? k with
      | none => simp
      | some id =>
          have inside := (h.found k id hk).1
          simp [entry_push, Nat.ne_of_lt inside]
  · exact filled_index filled _ _

theorem WellFormed.create {s : Store} (h : s.WellFormed) (computed baseKey : String) :
    (s.create computed baseKey).1.WellFormed := by
  unfold Store.create
  cases absent : s.find? computed with
  | some id => exact h
  | none =>
      refine h.add { key := computed, baseKey } h.filled ?_
      intro b k
      constructor
      · intro hk
        refine ⟨?_, hk⟩
        rintro rfl
        rw [h.indexed_iff, baseOf?, absent] at hk
        cases hk
      · exact fun hk => hk.2

theorem WellFormed.insert {s : Store} (h : s.WellFormed) (e : Entry) :
    (s.insert e).1.WellFormed := by
  unfold Store.insert
  cases present : s.find? e.key with
  | none =>
      refine h.add e h.filled ?_
      intro b k
      constructor
      · intro hk
        refine ⟨?_, hk⟩
        rintro rfl
        rw [h.indexed_iff, baseOf?, present] at hk
        cases hk
      · exact fun hk => hk.2
  | some id =>
      -- the key of the entry that is replaced, so it stood under that one's base key only
      have key := (h.found e.key id present).2
      refine h.add e (filled_unindex h.filled _ _) ?_
      intro b k
      rw [indexed_unindex, key]
      constructor
      · rintro ⟨hk, other⟩
        refine ⟨?_, hk⟩
        rintro rfl
        rw [h.indexed_iff, baseOf?, present, Option.map_some, Option.some.injEq] at hk
        exact other ⟨hk.symm, rfl⟩
      · rintro ⟨other, hk⟩
        exact ⟨hk, fun both => other both.2⟩

theorem wellFormed_ofEntries (entries : List Entry) : (ofEntries entries).WellFormed := by
  have fold : ∀ s : Store, s.WellFormed →
      (entries.foldl (fun store e => (store.insert e).1) s).WellFormed := by
    induction entries with
    | nil => exact fun s h => h
    | cons e rest ih => exact fun s h => ih _ (h.insert e)
  exact fold empty (wellFormed_of_empty _)

/-- Invalidating an entry changes its revalidation time and no key. -/
theorem WellFormed.invalidateKey {s : Store} (h : s.WellFormed) (key : String) :
    (s.invalidateKey key).WellFormed := by
  unfold Store.invalidateKey
  cases s.find? key with
  | none => exact h
  | some id => exact h.put rfl rfl

theorem WellFormed.foldl_invalidateKey (keys : List String) :
    ∀ {s : Store}, s.WellFormed → (keys.foldl Store.invalidateKey s).WellFormed := by
  induction keys with
  | nil => exact fun h => h
  | cons key rest ih => exact fun h => ih (h.invalidateKey key)

/-- Whatever is done to a store, its index stays exact. -/
theorem Built.wellFormed {s : Store} (h : s.Built) : s.WellFormed := by
  induction h with
  | ofEntries entries => exact wellFormed_ofEntries entries
  | getOrCreate _ key params ih => exact ih.create _ _
  | insert _ e ih => exact ih.insert e
  | invalidate _ bases ih => exact ih.foldl_invalidateKey _
  | clear _ _ => exact wellFormed_of_empty _
  | put _ id e key baseKey ih => exact ih.put key baseKey

/-! ## What invalidation reaches -/

/-- Does a base key or URL name the base key of the entry of a key. -/
def names (s : Store) (key : String) (base : String) : Bool := s.baseOf? key = some (baseKeyOf base)

/-- Is a key reached before another: by an earlier base key, or by the same one and its own bytes
come first. -/
def Before (s : Store) (bases : List String) (key other : String) : Prop :=
  bases.findIdx (s.names key) < bases.findIdx (s.names other) ∨
    bases.findIdx (s.names key) = bases.findIdx (s.names other) ∧
      Text.utf8Bytes key < Text.utf8Bytes other

/-- Is an entry the one of its key, with a base key that is named. -/
def reaches (s : Store) (bases : List String) (id : EntryId) : Bool :=
  s.find? (s.entry id).key = some id && bases.any (s.names (s.entry id).key)

/-- Adds the keys of a block that were not seen before. -/
def collect (seen block : List String) : List String :=
  block.foldl (fun seen key => if key ∈ seen then seen else seen ++ [key]) seen

theorem collect_cons (seen rest : List String) (key : String) :
    collect seen (key :: rest) = collect (if key ∈ seen then seen else seen ++ [key]) rest := rfl

theorem reach_eq_foldl_collect (s : Store) (bases : List String) :
    s.reach bases =
      bases.foldl (fun seen base => collect seen (s.keysForBase (baseKeyOf base))) [] := by
  rw [reach, List.foldl_flatMap]
  rfl

/-- A block that was seen adds nothing. -/
theorem collect_of_seen {seen block : List String} (h : ∀ key ∈ block, key ∈ seen) :
    collect seen block = seen := by
  induction block with
  | nil => rfl
  | cons key rest ih =>
      rw [collect_cons, if_pos (h key List.mem_cons_self)]
      exact ih fun other mem => h other (List.mem_cons_of_mem _ mem)

/-- A block of which nothing was seen is added as it is. -/
theorem collect_of_unseen {block : List String} (nodup : block.Nodup) :
    ∀ {seen : List String}, (∀ key ∈ block, key ∉ seen) → collect seen block = seen ++ block := by
  induction block with
  | nil => simp [collect]
  | cons key rest ih =>
      intro seen h
      obtain ⟨absent, nodup'⟩ := List.nodup_cons.mp nodup
      rw [collect_cons, if_neg (h key List.mem_cons_self)]
      have others : ∀ other ∈ rest, other ∉ seen ++ [key] := by
        intro other mem
        rw [List.mem_append, List.mem_singleton]
        rintro (old | rfl)
        · exact h other (List.mem_cons_of_mem _ mem) old
        · exact absent mem
      rw [ih nodup' others, List.append_assoc, List.singleton_append]

theorem WellFormed.mem_keysForBase {s : Store} (h : s.WellFormed) (base key : String) :
    key ∈ s.keysForBase (baseKeyOf base) ↔ s.names key base = true := by
  rw [names, decide_eq_true_iff, ← h.indexed_iff]
  unfold keysForBase Indexed
  cases s.byBase.get? (baseKeyOf base) with
  | none => simp
  | some keys => simp [Dict.mem_keys_iff]

theorem pairwise_keysForBase (s : Store) (baseKey : String) :
    (s.keysForBase baseKey).Pairwise (· < ·) := by
  unfold keysForBase
  cases s.byBase.get? baseKey with
  | none => exact List.Pairwise.nil
  | some keys => exact keys.pairwise_keys

/-- What has been collected when some of the bases are done: all they name, in the right order. -/
structure Collected (s : Store) (bases done seen : List String) : Prop where
  mem_iff : ∀ key, key ∈ seen ↔ ∃ base ∈ done, s.names key base = true
  pairwise : seen.Pairwise (s.Before bases)

/-- A base after `done` that is the first to name a key gives the key its place. -/
theorem findIdx_names {s : Store} {done rest : List String} {base key : String}
    (named : s.names key base = true) (first : ¬ ∃ b ∈ done, s.names key b = true) :
    (done ++ base :: rest).findIdx (s.names key) = done.length := by
  rw [List.findIdx_append, if_neg (by rwa [List.findIdx_lt_length]), List.findIdx_cons, named]
  simp

theorem findIdx_names_lt {s : Store} {done rest : List String} {key : String}
    (named : ∃ b ∈ done, s.names key b = true) :
    (done ++ rest).findIdx (s.names key) < done.length := by
  have place := List.findIdx_lt_length.mpr named
  rwa [List.findIdx_append, if_pos place]

/-- One more base adds the keys that it names, unless an earlier one has the same base key. -/
theorem Collected.step {s : Store} (h : s.WellFormed) {done rest seen : List String}
    {base : String} (before : Collected s (done ++ base :: rest) done seen) :
    Collected s (done ++ base :: rest) (done ++ [base])
      (collect seen (s.keysForBase (baseKeyOf base))) := by
  by_cases again : ∃ b ∈ done, baseKeyOf b = baseKeyOf base
  · obtain ⟨b, mem, same⟩ := again
    have alike : ∀ key, s.names key b = s.names key base := fun key => by
      rw [names, names, same]
    have seen_before : ∀ key ∈ s.keysForBase (baseKeyOf base), key ∈ seen := by
      intro key hkey
      refine (before.mem_iff key).mpr ⟨b, mem, ?_⟩
      rw [alike]
      exact (h.mem_keysForBase base key).mp hkey
    rw [collect_of_seen seen_before]
    refine ⟨?_, before.pairwise⟩
    intro key
    rw [before.mem_iff]
    constructor
    · rintro ⟨c, hc, named⟩
      exact ⟨c, List.mem_append_left _ hc, named⟩
    · rintro ⟨c, hc, named⟩
      rcases List.mem_append.mp hc with hc | hc
      · exact ⟨c, hc, named⟩
      · rw [List.mem_singleton.mp hc, ← alike] at named
        exact ⟨b, mem, named⟩
  · have first : ∀ key ∈ s.keysForBase (baseKeyOf base), ¬ ∃ b ∈ done, s.names key b = true := by
      rintro key hkey ⟨b, mem, named⟩
      have here := (h.mem_keysForBase base key).mp hkey
      rw [names, decide_eq_true_iff] at named here
      exact again ⟨b, mem, Option.some.inj (named.symm.trans here)⟩
    have sorted := s.pairwise_keysForBase (baseKeyOf base)
    have nodup : (s.keysForBase (baseKeyOf base)).Nodup := by
      refine sorted.imp ?_
      rintro key _ lt rfl
      exact String.lt_irrefl _ lt
    have place : ∀ key ∈ s.keysForBase (baseKeyOf base),
        (done ++ base :: rest).findIdx (s.names key) = done.length := fun key hkey =>
      findIdx_names ((h.mem_keysForBase base key).mp hkey) (first key hkey)
    rw [collect_of_unseen nodup fun key hkey mem => first key hkey ((before.mem_iff key).mp mem)]
    constructor
    · intro key
      simp only [List.mem_append, before.mem_iff, h.mem_keysForBase, List.mem_singleton]
      constructor
      · rintro (⟨b, mem, named⟩ | named)
        · exact ⟨b, Or.inl mem, named⟩
        · exact ⟨base, Or.inr rfl, named⟩
      · rintro ⟨b, mem | rfl, named⟩
        · exact Or.inl ⟨b, mem, named⟩
        · exact Or.inr named
    · refine List.pairwise_append.mpr ⟨before.pairwise, ?_, ?_⟩
      · refine sorted.imp_of_mem fun hkey hother lt => Or.inr ⟨?_, Text.utf8Bytes_lt_iff.mpr lt⟩
        rw [place _ hkey, place _ hother]
      · intro key hkey other hother
        left
        rw [place other hother]
        exact findIdx_names_lt ((before.mem_iff key).mp hkey)

theorem Collected.foldl {s : Store} (h : s.WellFormed) {bases : List String} (rest : List String) :
    ∀ {done seen : List String}, done ++ rest = bases → Collected s bases done seen →
      Collected s bases bases
        (rest.foldl (fun seen base => collect seen (s.keysForBase (baseKeyOf base))) seen) := by
  induction rest with
  | nil =>
      rintro done seen rfl before
      rw [List.append_nil] at before ⊢
      exact before
  | cons base rest ih =>
      rintro done seen rfl before
      exact ih (by simp) (before.step h)

/-- The keys that are reached are those that are named, each at its place. -/
theorem WellFormed.collected_reach {s : Store} (h : s.WellFormed) (bases : List String) :
    Collected s bases bases (s.reach bases) := by
  rw [reach_eq_foldl_collect]
  refine Collected.foldl h bases (List.nil_append bases) ⟨?_, List.Pairwise.nil⟩
  simp

theorem WellFormed.invalidate_snd {s : Store} (h : s.WellFormed) (bases : List String) :
    (s.invalidate bases).2 = s.reach bases := by
  refine List.filter_eq_self.mpr fun key mem => ?_
  obtain ⟨base, -, named⟩ := ((h.collected_reach bases).mem_iff key).mp mem
  rw [names, decide_eq_true_iff, baseOf?, Option.map_eq_some_iff] at named
  obtain ⟨id, found, -⟩ := named
  exact Option.isSome_iff_exists.mpr ⟨id, found⟩

theorem before_irrefl (s : Store) (bases : List String) (key : String) :
    ¬ s.Before bases key key := by
  rintro (lt | ⟨-, lt⟩)
  · exact Nat.lt_irrefl _ lt
  · exact List.lt_irrefl _ lt

@[simp]
theorem find?_invalidateKey (s : Store) (key other : String) :
    (s.invalidateKey key).find? other = s.find? other := by
  unfold invalidateKey
  cases s.find? key <;> rfl

/-- Invalidating the entry of a key takes its revalidation time and leaves all other entries as they
are. -/
theorem WellFormed.entry_invalidateKey {s : Store} (h : s.WellFormed) (key : String)
    (id : EntryId) : (s.invalidateKey key).entry id =
      if s.find? key = some id then { s.entry id with revalidatedAt := none } else s.entry id := by
  unfold Store.invalidateKey
  cases found : s.find? key with
  | none => simp
  | some other =>
      have inside := (h.found key other found).1
      by_cases same : id = other
      · subst same
        simp [entry_put, inside, Entry.invalidate]
      · simp [entry_put, same, Ne.symm same]

theorem WellFormed.entry_foldl_invalidateKey (keys : List String) (id : EntryId) :
    ∀ {s : Store}, s.WellFormed → (keys.foldl Store.invalidateKey s).entry id =
      if ∃ key ∈ keys, s.find? key = some id then { s.entry id with revalidatedAt := none }
      else s.entry id := by
  induction keys with
  | nil => simp
  | cons key rest ih =>
      intro s h
      rw [List.foldl_cons, ih (h.invalidateKey key), h.entry_invalidateKey]
      simp only [find?_invalidateKey, List.mem_cons, exists_eq_or_imp]
      by_cases here : s.find? key = some id <;>
        by_cases later : ∃ key ∈ rest, s.find? key = some id <;>
          simp [here, later]

/-- Two stores with the same dictionaries and the same entries are the same. -/
theorem ext_entry {s t : Store} (current : s.current = t.current) (byBase : s.byBase = t.byBase)
    (size : s.arena.size = t.arena.size) (entries : ∀ id, s.entry id = t.entry id) : s = t := by
  have arenas : s.arena = t.arena := by
    refine Array.ext size fun id hs ht => ?_
    have same := entries id
    simpa [entry, Array.getD_eq_getD_getElem?, hs, ht] using same
  cases s
  cases t
  simp_all

@[simp]
theorem current_foldl_invalidateKey (keys : List String) :
    ∀ s : Store, (keys.foldl invalidateKey s).current = s.current := by
  induction keys with
  | nil => exact fun s => rfl
  | cons key rest ih =>
      intro s
      rw [List.foldl_cons, ih, invalidateKey]
      cases s.find? key <;> rfl

@[simp]
theorem byBase_foldl_invalidateKey (keys : List String) :
    ∀ s : Store, (keys.foldl invalidateKey s).byBase = s.byBase := by
  induction keys with
  | nil => exact fun s => rfl
  | cons key rest ih =>
      intro s
      rw [List.foldl_cons, ih, invalidateKey]
      cases s.find? key <;> rfl

@[simp]
theorem size_foldl_invalidateKey (keys : List String) :
    ∀ s : Store, (keys.foldl invalidateKey s).arena.size = s.arena.size := by
  induction keys with
  | nil => exact fun s => rfl
  | cons key rest ih =>
      intro s
      rw [List.foldl_cons, ih, invalidateKey]
      cases s.find? key <;> simp

/-- The store in which every entry that the bases reach is without its revalidation time. -/
def staled (s : Store) (bases : List String) : Store :=
  { s with
    arena := s.arena.mapIdx fun id e =>
      if s.reaches bases id then { e with revalidatedAt := none } else e }

theorem entry_staled (s : Store) (bases : List String) (id : EntryId) :
    (s.staled bases).entry id =
      if s.reaches bases id then { s.entry id with revalidatedAt := none } else s.entry id := by
  by_cases inside : id < s.arena.size
  · simp [entry, staled, Array.getD_eq_getD_getElem?, inside]
  · have outside := Nat.le_of_not_lt inside
    rw [entry_of_size_le s id outside,
      entry_of_size_le (s.staled bases) id (by simpa [staled] using outside)]
    split <;> rfl

/-- An entry is reached if its key is. -/
theorem WellFormed.reaches_iff {s : Store} (h : s.WellFormed) (bases : List String)
    (id : EntryId) : s.reaches bases id = true ↔ ∃ key ∈ s.reach bases, s.find? key = some id := by
  simp only [reaches, Bool.and_eq_true, decide_eq_true_iff, List.any_eq_true,
    (h.collected_reach bases).mem_iff]
  constructor
  · rintro ⟨current, named⟩
    exact ⟨_, named, current⟩
  · rintro ⟨key, named, current⟩
    rw [(h.found key id current).2]
    exact ⟨current, named⟩

/-- Invalidation takes the revalidation times of the entries whose keys it gives, and no others. -/
theorem WellFormed.entry_invalidate {s : Store} (h : s.WellFormed) (bases : List String)
    (id : EntryId) : (s.invalidate bases).1.entry id =
      if ∃ key ∈ (s.invalidate bases).2, s.find? key = some id then
        { s.entry id with revalidatedAt := none }
      else s.entry id :=
  h.entry_foldl_invalidateKey (s.invalidate bases).2 id

theorem WellFormed.invalidate_fst {s : Store} (h : s.WellFormed) (bases : List String) :
    (s.invalidate bases).1 = s.staled bases := by
  apply ext_entry
  · exact current_foldl_invalidateKey _ s
  · exact byBase_foldl_invalidateKey _ s
  · rw [staled, Array.size_mapIdx]
    exact size_foldl_invalidateKey _ s
  · intro id
    rw [h.entry_invalidate, h.invalidate_snd, entry_staled]
    simp only [h.reaches_iff]

theorem reaches_staled (s : Store) (bases : List String) (id : EntryId) :
    (s.staled bases).reaches bases id = s.reaches bases id := by
  have key : ∀ other, ((s.staled bases).entry other).key = (s.entry other).key := by
    intro other
    rw [entry_staled]
    split <;> rfl
  have baseKey : ∀ other, ((s.staled bases).entry other).baseKey = (s.entry other).baseKey := by
    intro other
    rw [entry_staled]
    split <;> rfl
  have base : ∀ k, (s.staled bases).baseOf? k = s.baseOf? k := by
    intro k
    show (s.find? k).map _ = (s.find? k).map _
    simp only [baseKey]
  have named : ∀ k, (s.staled bases).names k = s.names k := by
    intro k
    funext b
    rw [names, names, base]
  unfold reaches
  rw [key, named]
  rfl

/-- Invalidating again changes nothing. -/
theorem staled_staled (s : Store) (bases : List String) :
    (s.staled bases).staled bases = s.staled bases := by
  apply ext_entry
  · rfl
  · rfl
  · simp [staled]
  · intro id
    rw [entry_staled, reaches_staled, entry_staled]
    split <;> rfl

/-- In every store that can be built the index is exact, and invalidation reaches what a scan
would: the keys are those whose entry has a base key that is named, each once, in the order of the
first base that names it and then in their own; the entries of these keys lose their revalidation
time, which leaves the store in which the entries that a scan reaches are without theirs and nothing
else is changed; and invalidating once more gives the same keys and changes nothing. -/
theorem invalidate_eq_scan {s : Store} (h : s.Built) (bases : List String) :
    s.WellFormed ∧
      (s.invalidate bases).2.Nodup ∧
      (∀ key, key ∈ (s.invalidate bases).2 ↔
        ∃ base ∈ bases, s.baseOf? key = some (baseKeyOf base)) ∧
      (s.invalidate bases).2.Pairwise (s.Before bases) ∧
      (∀ id, (s.invalidate bases).1.entry id =
        if ∃ key ∈ (s.invalidate bases).2, s.find? key = some id then
          { s.entry id with revalidatedAt := none }
        else s.entry id) ∧
      (s.invalidate bases).1 = s.staled bases ∧
      (s.invalidate bases).1.invalidate bases = s.invalidate bases := by
  have exactIndex := h.wellFormed
  have collected := exactIndex.collected_reach bases
  have first := exactIndex.invalidate_fst bases
  have keys := exactIndex.invalidate_snd bases
  have exactAfter : (s.staled bases).WellFormed := first ▸ (h.invalidate bases).wellFormed
  refine ⟨exactIndex, ?_, ?_, ?_, exactIndex.entry_invalidate bases, first, ?_⟩
  · rw [keys]
    refine collected.pairwise.imp ?_
    rintro key _ before rfl
    exact s.before_irrefl bases key before
  · intro key
    rw [keys, collected.mem_iff]
    simp only [names, decide_eq_true_iff]
  · rw [keys]
    exact collected.pairwise
  · have reaches : (s.staled bases).reach bases = s.reach bases := rfl
    rw [first]
    apply Prod.ext
    · rw [exactAfter.invalidate_fst, staled_staled, first]
    · rw [exactAfter.invalidate_snd, keys, reaches]

/-- An entry that replaced one with another base key is reached under its own base key, and loses
its revalidation time and nothing else. The entry that it replaced keeps its own, and so does one
that no base names. -/
theorem invalidate_replacement :
    let old : Entry := { key := "/apps?page=2", baseKey := "/old", revalidatedAt := some ⟨1⟩ }
    let job : Entry := { Entry.ofKey "/jobs" with revalidatedAt := some ⟨2⟩ }
    let new : Entry :=
      { Entry.ofKey "/apps?page=2" with data := some (.str "v"), revalidatedAt := some ⟨3⟩ }
    let s := ((ofEntries [old, job]).insert new).1
    let bases := ["/old", "/apps?x", "/apps"]
    s.Built ∧ s.entry 0 = old ∧ s.entry 1 = job ∧ s.entry 2 = new ∧
      (s.invalidate bases).2 = ["/apps?page=2"] ∧
      (s.invalidate bases).1.entry 0 = old ∧ (s.invalidate bases).1.entry 1 = job ∧
      (s.invalidate bases).1.entry 2 =
        { key := "/apps?page=2", baseKey := "/apps", data := some (.str "v"),
          revalidatedAt := none } ∧
      (s.invalidate bases).1 = s.staled bases := by
  intro old job new s bases
  have built : s.Built := (Built.ofEntries [old, job]).insert new
  obtain ⟨-, -, -, -, entries, scanned, -⟩ := invalidate_eq_scan built bases
  have keys : (s.invalidate bases).2 = ["/apps?page=2"] := by decide +kernel
  have current : s.find? "/apps?page=2" = some 2 := by decide +kernel
  have held : s.entry 0 = old ∧ s.entry 1 = job ∧ s.entry 2 = new := by decide +kernel
  have fate : ∀ id, (s.invalidate bases).1.entry id =
      if id = 2 then { s.entry id with revalidatedAt := none } else s.entry id := by
    intro id
    simp [entries id, keys, current, eq_comm]
  refine ⟨built, held.1, held.2.1, held.2.2, keys, ?_, ?_, ?_, scanned⟩
  · rw [fate, if_neg (by decide), held.1]
  · rw [fate, if_neg (by decide), held.2.1]
  · rw [fate, if_pos rfl, held.2.2]
    decide +kernel

end Store

end Refetch
