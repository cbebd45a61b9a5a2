/-
# Caches that agree about a key

The entries of all keys are numbered together, so what is done for one key moves the numbers of the
entries of another. Two caches are compared up to these numbers: they agree about a key if the
entries that the key has, or had, in the one correspond to those in the other, with the same in them
and the same outcomes under way from them. What is done for the key in both keeps them in agreement,
and so does what is done for another key in one of them. An invalidation reaches the key in both or
in neither.
-/

import Refetch.Proofs.Crowd.Origin
import Refetch.Proofs.Store.Staling

namespace Refetch

open Store

/-- Two caches are the same to those who have to do with one key only. The relation says which entry
of the first is which of the second. -/
structure Cache.Agree (key : String) (R : EntryId → EntryId → Prop) (c d : Cache) : Prop where
  config : d.config = c.config
  inside : ∀ {i j}, R i j → i < c.store.arena.size ∧ j < d.store.arena.size
  same : ∀ {i j}, R i j → d.entry j = c.entry i
  keyed : ∀ {i j}, R i j → (c.entry i).key = key
  left : ∀ {i j j'}, R i j → R i j' → j = j'
  right : ∀ {i i' j}, R i j → R i' j → i = i'
  find : Option.Rel R (c.store.find? key) (d.store.find? key)
  mail : ∀ {i j}, R i j → ∀ w, d.mail.lookup (j, w) = c.mail.lookup (i, w)

section

abbrev Mail := List ((EntryId × WaiterId) × FetchResult Json)

variable {mail : Mail} {i i' : EntryId} {w w' : WaiterId}

theorem lookup_mail_cons (whom : EntryId × WaiterId)
    (first : (EntryId × WaiterId) × FetchResult Json) :
    List.lookup whom (first :: mail) =
      if whom = first.1 then some first.2 else mail.lookup whom := by
  rw [List.lookup_cons]
  by_cases here : whom = first.1
  · simp [here]
  · simp [here, beq_eq_false_iff_ne.mpr here]

theorem lookup_sent (owed : List WaiterId) (result : FetchResult Json) :
    (owed.map fun waiter => ((i, waiter), result)).lookup (i', w) =
      if i' = i ∧ w ∈ owed then some result else none := by
  induction owed with
  | nil => simp
  | cons first rest ih =>
      rw [List.map_cons, lookup_mail_cons, ih]
      by_cases entry : i' = i <;> by_cases here : w = first <;> simp [entry, here]

theorem lookup_taken : (mail.filter (·.1 ≠ (i, w))).lookup (i', w') =
    if (i', w') = (i, w) then none else mail.lookup (i', w') := by
  induction mail with
  | nil => simp
  | cons first rest ih =>
      rw [List.filter_cons]
      by_cases taken : first.1 = (i, w)
      · rw [if_neg (by simp [taken]), ih, lookup_mail_cons, taken]
        split <;> rfl
      · rw [if_pos (by simp [taken]), lookup_mail_cons, lookup_mail_cons, ih]
        by_cases this : (i', w') = first.1
        · rw [if_pos this, if_pos this, if_neg (this ▸ taken)]
        · rw [if_neg this, if_neg this]

end

namespace Cache.Agree

variable {key : String} {R : EntryId → EntryId → Prop} {c d : Cache} {i j : EntryId}

/-- An entry of another key corresponds to none. -/
theorem apart (h : Agree key R c d) (other : (c.entry i).key ≠ key) : ¬ R i j :=
  fun r => other (h.keyed r)

theorem same_iff (h : Agree key R c d) (r : R i j) {i' j' : EntryId} (r' : R i' j') :
    j' = j ↔ i' = i :=
  ⟨fun same => h.right r' (same ▸ r), fun same => h.left r' (same ▸ r)⟩

/-- The key has an entry in both caches, the same, or in neither. -/
theorem find_cases (h : Agree key R c d) :
    (c.store.find? key = none ∧ d.store.find? key = none) ∨
      ∃ i j, c.store.find? key = some i ∧ d.store.find? key = some j ∧ R i j := by
  have find := h.find
  cases found : c.store.find? key <;> cases found' : d.store.find? key <;>
    rw [found, found'] at find <;> cases find
  · exact Or.inl ⟨rfl, rfl⟩
  · next r => exact Or.inr ⟨_, _, rfl, rfl, r⟩

/-- An entry is the one of the key in both caches or in neither. -/
theorem find_iff (h : Agree key R c d) (r : R i j) :
    d.store.find? key = some j ↔ c.store.find? key = some i := by
  obtain ⟨found, found'⟩ | ⟨i', j', found, found', r'⟩ := h.find_cases
  · simp [found, found']
  · simp only [found, found', Option.some.injEq, h.same_iff r r']

theorem put (h : Agree key R c d) (r : R i j) {e : Entry} (keeps : e.key = (c.entry i).key) :
    Agree key R (c.put i e) (d.put j e) where
  config := h.config
  inside r' := by simpa [Cache.put] using h.inside r'
  same {i' j'} r' := by
    have twin := h.same_iff r r'
    obtain ⟨here, there⟩ := h.inside r
    simp only [Cache.entry, Cache.put, entry_put, here, there, and_true, twin]
    split
    next => rfl
    next => exact h.same r'
  keyed {i' j'} r' := by
    simp only [Cache.entry, Cache.put, entry_put]
    split
    next => exact keeps.trans (h.keyed r)
    next => exact h.keyed r'
  left := h.left
  right := h.right
  find := h.find
  mail := h.mail

/-- What becomes of an entry of another key is nothing to those of this key. -/
theorem put_apart (h : Agree key R c d) (other : (c.entry i).key ≠ key) (e : Entry) :
    Agree key R (c.put i e) d where
  config := h.config
  inside r' := by simpa [Cache.put] using h.inside r'
  same {i' j'} r' := by
    have different : i' ≠ i := fun same => h.apart other (same ▸ r')
    simp only [Cache.entry, Cache.put, entry_put, different, false_and, if_false]
    exact h.same r'
  keyed {i' j'} r' := by
    have different : i' ≠ i := fun same => h.apart other (same ▸ r')
    simp only [Cache.entry, Cache.put, entry_put, different, false_and, if_false]
    exact h.keyed r'
  left := h.left
  right := h.right
  find := h.find
  mail := h.mail

theorem send (h : Agree key R c d) (r : R i j) (owed : List WaiterId) (result : FetchResult Json) :
    Agree key R (c.send i owed result).1 (d.send j owed result).1 :=
  { h with
    mail := by
      intro i' j' r' w
      have twin := h.same_iff r r'
      simp only [Cache.send, List.lookup_append, lookup_sent, h.mail r', twin] }

theorem send_apart (h : Agree key R c d) (other : (c.entry i).key ≠ key) (owed : List WaiterId)
    (result : FetchResult Json) : Agree key R (c.send i owed result).1 d :=
  { h with
    mail := by
      intro i' j' r' w
      have different : i' ≠ i := fun same => h.apart other (same ▸ r')
      simp only [Cache.send, List.lookup_append, lookup_sent, h.mail r', different, false_and,
        if_false, Option.or_none] }

theorem receive (h : Agree key R c d) (r : R i j) {w : WaiterId} {c' : Cache}
    {result : FetchResult Json} (taken : c.receive i w = some (c', result)) :
    ∃ d', d.receive j w = some (d', result) ∧ Agree key R c' d' := by
  obtain ⟨_, there, same⟩ := Option.map_eq_some_iff.mp taken
  cases same
  refine ⟨_, Option.map_eq_some_iff.mpr ⟨result, (h.mail r w).trans there, rfl⟩,
    { h with mail := ?_ }⟩
  intro i' j' r' w'
  have twin := h.same_iff r r'
  simp only [lookup_taken, Prod.mk.injEq, twin, h.mail r']

theorem receive_apart (h : Agree key R c d) (other : (c.entry i).key ≠ key) {w : WaiterId}
    {c' : Cache} {result : FetchResult Json} (taken : c.receive i w = some (c', result)) :
    Agree key R c' d := by
  obtain ⟨_, -, same⟩ := Option.map_eq_some_iff.mp taken
  cases same
  refine { h with mail := ?_ }
  intro i' j' r' w'
  have different : i' ≠ i := fun same => h.apart other (same ▸ r')
  simp only [lookup_taken, Prod.mk.injEq, different, false_and, if_false, h.mail r']

theorem clear (h : Agree key R c d) :
    Agree key R { c with store := c.store.clear } { d with store := d.store.clear } :=
  { h with find := .none }

/-- An invalidation reaches the key in both caches or in neither. -/
theorem invalidate (h : Agree key R c d) (built : c.store.Built) (built' : d.store.Built)
    (bases : List String) :
    Agree key R { c with store := (c.store.invalidate bases).1 }
        { d with store := (d.store.invalidate bases).1 } ∧
      (key ∈ (d.store.invalidate bases).2 ↔ key ∈ (c.store.invalidate bases).2) := by
  have stales := built.wellFormed.stales_invalidate bases
  have stales' := built'.wellFormed.stales_invalidate bases
  have derived {i j : EntryId} (r : R i j) :
      d.store.Derived bases j ↔ c.store.Derived bases i := by
    have here : (c.store.entry i).key = key := h.keyed r
    have same : d.store.entry j = c.store.entry i := h.same r
    simp only [Derived, same, here, h.find_iff r]
  constructor
  · refine { h with inside := ?_, same := ?_, keyed := ?_, find := ?_ }
    · intro i j r
      rw [stales.size, stales'.size]
      exact h.inside r
    · intro i j r
      have same : d.store.entry j = c.store.entry i := h.same r
      show (d.store.invalidate bases).1.entry j = (c.store.invalidate bases).1.entry i
      by_cases reached : c.store.Derived bases i
      · rw [stales.stale i reached, stales'.stale j ((derived r).mpr reached), same]
      · rw [stales.others i reached, stales'.others j (mt (derived r).mp reached), same]
    · intro i j r
      show ((c.store.invalidate bases).1.entry i).key = key
      by_cases reached : c.store.Derived bases i
      · rw [stales.stale i reached]
        exact h.keyed r
      · rw [stales.others i reached]
        exact h.keyed r
    · rw [find?, find?, stales.current, stales'.current]
      exact h.find
  · rw [stales.mem_iff, stales'.mem_iff]
    obtain ⟨found, found'⟩ | ⟨i, j, found, found', r⟩ := h.find_cases
    · simp [found, found']
    · simp [found, found', derived r]

variable {k : String} {params : Option Params}

/-- An entry is looked up, or made, for another key. -/
theorem getOrCreate_apart (h : Agree key R c d) (other : computeKey k params ≠ key) :
    Agree key R { c with store := (c.store.getOrCreate k params).1 } d := by
  cases found : c.store.find? (computeKey k params) with
  | some id =>
      rw [getOrCreate_of_find found]
      exact h
  | none =>
      have kept {i j : EntryId} (r : R i j) :
          (c.store.getOrCreate k params).1.entry i = c.store.entry i :=
        entry_getOrCreate_of_lt (h.inside r).1
      rw [getOrCreate_of_missing found] at kept ⊢
      refine { h with inside := ?_, same := ?_, keyed := ?_, find := ?_ }
      · intro i j r
        rw [Array.size_push]
        exact ⟨Nat.lt_succ_of_lt (h.inside r).1, (h.inside r).2⟩
      · exact fun r => (h.same r).trans (kept r).symm
      · exact fun r => (congrArg Entry.key (kept r)).trans (h.keyed r)
      · rw [find?, Dict.get?_insert, if_neg (Ne.symm other)]
        exact h.find

/-- The entry of the key is made in both caches. -/
theorem made (h : Agree key R c d) (computed : computeKey k params = key)
    (found : c.store.find? (computeKey k params) = none)
    (found' : d.store.find? (computeKey k params) = none)
    (posted : ∀ p ∈ c.mail, p.1.1 < c.store.arena.size)
    (posted' : ∀ p ∈ d.mail, p.1.1 < d.store.arena.size) :
    Agree key (fun i j => R i j ∨ i = c.store.arena.size ∧ j = d.store.arena.size)
      { c with store := (c.store.getOrCreate k params).1 }
      { d with store := (d.store.getOrCreate k params).1 } := by
  have kept {i j : EntryId} (r : R i j) :
      (c.store.getOrCreate k params).1.entry i = c.store.entry i ∧
        (d.store.getOrCreate k params).1.entry j = d.store.entry j :=
    ⟨entry_getOrCreate_of_lt (h.inside r).1, entry_getOrCreate_of_lt (h.inside r).2⟩
  rw [getOrCreate_of_missing found, getOrCreate_of_missing found'] at kept ⊢
  have unsent {e : Cache} (posted : ∀ p ∈ e.mail, p.1.1 < e.store.arena.size) (w : WaiterId) :
      e.mail.lookup (e.store.arena.size, w) = none := by
    rw [List.lookup_eq_none_iff]
    intro p member
    rw [bne_iff_ne]
    rintro same
    exact Nat.lt_irrefl _ (congrArg Prod.fst same ▸ posted p member)
  refine ⟨h.config, ?_, ?_, ?_, ?_, ?_, ?_, ?_⟩
  · rintro i j (r | ⟨rfl, rfl⟩)
    · simp only [Array.size_push]
      exact (h.inside r).imp Nat.lt_succ_of_lt Nat.lt_succ_of_lt
    · simp
  · rintro i j (r | ⟨rfl, rfl⟩)
    · exact (kept r).2.trans ((h.same r).trans (kept r).1.symm)
    · simp only [Cache.entry, entry_push, if_true]
  · rintro i j (r | ⟨rfl, rfl⟩)
    · exact (congrArg Entry.key (kept r).1).trans (h.keyed r)
    · simp only [Cache.entry, entry_push, if_true, computed]
  · rintro i j j' (r | ⟨rfl, rfl⟩) (r' | ⟨same, rfl⟩)
    · exact h.left r r'
    · exact absurd (same ▸ (h.inside r).1) (Nat.lt_irrefl _)
    · exact absurd (h.inside r').1 (Nat.lt_irrefl _)
    · rfl
  · rintro i i' j (r | ⟨rfl, rfl⟩) (r' | ⟨rfl, same⟩)
    · exact h.right r r'
    · exact absurd (same ▸ (h.inside r).2) (Nat.lt_irrefl _)
    · exact absurd (h.inside r').2 (Nat.lt_irrefl _)
    · rfl
  · simp only [find?, Dict.get?_insert, computed, if_true]
    exact .some (Or.inr ⟨rfl, rfl⟩)
  · rintro i j (r | ⟨rfl, rfl⟩) w
    · exact h.mail r w
    · exact (unsent posted' w).trans (unsent posted w).symm

/-- The entry of the key is looked up, or made, in both caches. -/
theorem getOrCreate (h : Agree key R c d) (computed : computeKey k params = key)
    (posted : ∀ p ∈ c.mail, p.1.1 < c.store.arena.size)
    (posted' : ∀ p ∈ d.mail, p.1.1 < d.store.arena.size) :
    ∃ R' : EntryId → EntryId → Prop, (∀ i j, R i j → R' i j) ∧
      Agree key R' { c with store := (c.store.getOrCreate k params).1 }
        { d with store := (d.store.getOrCreate k params).1 } ∧
      R' (c.store.getOrCreate k params).2 (d.store.getOrCreate k params).2 := by
  have find := h.find_cases
  rw [← computed] at find
  obtain ⟨found, found'⟩ | ⟨i, j, found, found', r⟩ := find
  · refine ⟨_, fun _ _ => Or.inl, h.made computed found found' posted posted', Or.inr ?_⟩
    rw [getOrCreate_of_missing found, getOrCreate_of_missing found']
    exact ⟨rfl, rfl⟩
  · refine ⟨R, fun _ _ r => r, ?_, ?_⟩ <;>
      rw [getOrCreate_of_find found, getOrCreate_of_find found']
    · exact h
    · exact r

end Cache.Agree

end Refetch
