/-
# What becomes stale

Invalidating base keys or URLs takes the revalidation time from the entries that are derived from
them and changes nothing else. `Stales` says so of the entries themselves, without the index through
which they are found, and says which keys are given: those of these entries.
-/

import Refetch.Proofs.Store.Index

namespace Refetch

namespace Store

/-- Is an entry the one of its key, and its base key that of one of the given base keys or URLs. -/
def Derived (s : Store) (bases : List String) (id : EntryId) : Prop :=
  s.find? (s.entry id).key = some id ∧ (s.entry id).baseKey ∈ bases.map baseKeyOf

/-- One store comes from another by invalidating all that is derived from the given base keys or
URLs; the keys are those of the entries that became stale. -/
structure Stales (s : Store) (bases : List String) (s' : Store) (keys : List String) : Prop where
  /-- No key is given twice. -/
  once : keys.Nodup
  mem_iff : ∀ key, key ∈ keys ↔ ∃ id, s.find? key = some id ∧ s.Derived bases id
  current : s'.current = s.current
  byBase : s'.byBase = s.byBase
  size : s'.arena.size = s.arena.size
  /-- An entry that is derived from the base keys loses its revalidation time and keeps the rest. -/
  stale : ∀ id, s.Derived bases id → s'.entry id = { s.entry id with revalidatedAt := none }
  others : ∀ id, ¬ s.Derived bases id → s'.entry id = s.entry id

variable {s : Store}

/-- A base key is named if and only if it is among those that are meant. -/
theorem any_names_iff {key : String} {id : EntryId} (found : s.find? key = some id)
    (bases : List String) :
    (∃ base ∈ bases, s.names key base = true) ↔ (s.entry id).baseKey ∈ bases.map baseKeyOf := by
  have named : ∀ base, s.names key base = true ↔ baseKeyOf base = (s.entry id).baseKey := by
    intro base
    simp [names, baseOf?, found, eq_comm]
  simp only [named, List.mem_map]

theorem reaches_iff_derived (s : Store) (bases : List String) (id : EntryId) :
    s.reaches bases id = true ↔ s.Derived bases id := by
  simp only [reaches, Derived, Bool.and_eq_true, decide_eq_true_iff, List.any_eq_true]
  constructor
  · rintro ⟨current, named⟩
    exact ⟨current, (any_names_iff current bases).mp named⟩
  · rintro ⟨current, derived⟩
    exact ⟨current, (any_names_iff current bases).mpr derived⟩

/-- The keys that are reached are those of the entries derived from the base keys. -/
theorem WellFormed.mem_reach_iff (h : s.WellFormed) (bases : List String) (key : String) :
    key ∈ s.reach bases ↔ ∃ id, s.find? key = some id ∧ s.Derived bases id := by
  rw [(h.collected_reach bases).mem_iff]
  constructor
  · rintro ⟨base, member, named⟩
    have based : s.baseOf? key = some (baseKeyOf base) := by simpa [names] using named
    obtain ⟨id, found, -⟩ := Option.map_eq_some_iff.mp based
    refine ⟨id, found, ?_, (any_names_iff found bases).mp ⟨base, member, named⟩⟩
    rw [(h.found key id found).2, found]
  · rintro ⟨id, found, -, derived⟩
    exact (any_names_iff found bases).mpr derived

theorem WellFormed.nodup_reach (h : s.WellFormed) (bases : List String) :
    (s.reach bases).Nodup := by
  refine (h.collected_reach bases).pairwise.imp ?_
  rintro key _ before rfl
  exact s.before_irrefl bases key before

/-- Invalidation stales what is derived from the base keys. -/
theorem WellFormed.stales_invalidate (h : s.WellFormed) (bases : List String) :
    Stales s bases (s.invalidate bases).1 (s.invalidate bases).2 := by
  rw [h.invalidate_fst, h.invalidate_snd]
  constructor
  · exact h.nodup_reach bases
  · exact h.mem_reach_iff bases
  · rfl
  · rfl
  · simp [staled]
  · intro id derived
    rw [entry_staled, if_pos ((s.reaches_iff_derived bases id).mpr derived)]
  · intro id other
    rw [entry_staled, if_neg fun reached => other ((s.reaches_iff_derived bases id).mp reached)]

variable {s' t : Store} {bases bases' keys keys' : List String}

/-- Neither the order of the base keys counts, nor how often one of them is given. -/
theorem derived_congr (same : ∀ base, base ∈ bases ↔ base ∈ bases') (id : EntryId) :
    s.Derived bases id ↔ s.Derived bases' id := by
  simp only [Derived, List.mem_map, same]

theorem Stales.congr (h : Stales s bases s' keys) (same : ∀ base, base ∈ bases ↔ base ∈ bases') :
    Stales s bases' s' keys where
  once := h.once
  mem_iff := by simpa only [derived_congr same] using h.mem_iff
  current := h.current
  byBase := h.byBase
  size := h.size
  stale := fun id derived => h.stale id ((derived_congr same id).mpr derived)
  others := fun id other => h.others id fun derived => other ((derived_congr same id).mp derived)

/-- The keys are those of the entries that became stale, in some order. -/
theorem Stales.unique (h : Stales s bases s' keys) (other : Stales s bases t keys') :
    s' = t ∧ keys.Perm keys' := by
  constructor
  · apply ext_entry (h.current.trans other.current.symm) (h.byBase.trans other.byBase.symm)
      (h.size.trans other.size.symm)
    intro id
    by_cases derived : s.Derived bases id
    · rw [h.stale id derived, other.stale id derived]
    · rw [h.others id derived, other.others id derived]
  · rw [List.perm_ext_iff_of_nodup h.once other.once]
    intro key
    rw [h.mem_iff, other.mem_iff]

end Store

end Refetch
