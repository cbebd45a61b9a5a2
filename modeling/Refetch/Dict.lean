/-
# Dictionaries

A dictionary gives values by name, in the order of the names. The entries are kept sorted by name
without repetition, and the type carries that fact, so two dictionaries with the same content are
equal. `get?_insert` gives the law of insertion, and `ext_get?` says that a dictionary is determined
by its look-ups.
-/

namespace Refetch

/-- Puts an entry at its place among entries sorted by name, replacing one of the same name. -/
def insertSorted {α : Type} (name : String) (value : α) :
    List (String × α) → List (String × α)
  | [] => [(name, value)]
  | (other, old) :: rest =>
    if name < other then (name, value) :: (other, old) :: rest
    else if other < name then (other, old) :: insertSorted name value rest
    else (name, value) :: rest

theorem mem_insertSorted {α : Type} {name : String} {value : α} {x : String × α} :
    ∀ {entries : List (String × α)}, x ∈ insertSorted name value entries →
      x = (name, value) ∨ x ∈ entries
  | [], h => by simpa [insertSorted] using h
  | (other, old) :: rest, h => by
    rw [insertSorted] at h
    split at h
    · simpa using h
    · split at h
      · rcases List.mem_cons.mp h with rfl | h
        · simp
        · rcases mem_insertSorted h with rfl | h <;> simp [*]
      · rcases List.mem_cons.mp h with rfl | h <;> simp [*]

theorem pairwise_insertSorted {α : Type} {name : String} {value : α} :
    ∀ {entries : List (String × α)}, entries.Pairwise (·.1 < ·.1) →
      (insertSorted name value entries).Pairwise (·.1 < ·.1)
  | [], _ => by simp [insertSorted]
  | (other, old) :: rest, h => by
    have later := List.pairwise_cons.mp h
    rw [insertSorted]
    split
    next before =>
      refine List.pairwise_cons.mpr ⟨fun x hx => ?_, h⟩
      rcases List.mem_cons.mp hx with rfl | hx
      · exact before
      · exact String.lt_trans before (later.1 x hx)
    next notBefore =>
      split
      next after =>
        refine List.pairwise_cons.mpr ⟨fun x hx => ?_, pairwise_insertSorted later.2⟩
        rcases mem_insertSorted hx with rfl | hx
        · exact after
        · exact later.1 x hx
      next notAfter =>
        have same : name = other :=
          String.le_antisymm (String.not_lt.mp notAfter) (String.not_lt.mp notBefore)
        subst same
        exact List.pairwise_cons.mpr later

/-- Values by name. -/
structure Dict (α : Type) where
  entries : List (String × α)
  sorted : entries.Pairwise (·.1 < ·.1)
  deriving DecidableEq

namespace Dict

variable {α : Type}

instance [Repr α] : Repr (Dict α) := ⟨fun d n => reprPrec d.entries n⟩

/-- The dictionary without entries. -/
def empty : Dict α := ⟨[], List.Pairwise.nil⟩

instance : Inhabited (Dict α) := ⟨empty⟩

def get? (d : Dict α) (name : String) : Option α := d.entries.lookup name

/-- Gives a name a value, instead of the one it may have had. -/
def insert (d : Dict α) (name : String) (value : α) : Dict α :=
  ⟨insertSorted name value d.entries, pairwise_insertSorted d.sorted⟩

/-- Has the dictionary no entries. -/
def isEmpty (d : Dict α) : Bool := d.entries.isEmpty

/-- Takes a name and its value away. -/
def erase (d : Dict α) (name : String) : Dict α :=
  ⟨d.entries.filter (·.1 != name), d.sorted.filter _⟩

/-- The names, in their order. -/
def keys (d : Dict α) : List String := d.entries.map (·.1)

def size (d : Dict α) : Nat := d.entries.length

def contains (d : Dict α) (name : String) : Bool := (d.get? name).isSome

/-- The dictionary of the given entries; of several with one name the last one counts. -/
def ofList (entries : List (String × α)) : Dict α :=
  entries.foldl (fun d (name, value) => d.insert name value) empty

theorem lookup_cons (name first : String) (value : α) (rest : List (String × α)) :
    ((first, value) :: rest).lookup name =
      if name = first then some value else rest.lookup name := by
  show (match name == first with | true => some value | false => rest.lookup name) = _
  by_cases h : name = first
  · simp [h]
  · simp [beq_eq_false_iff_ne.mpr h, h]

theorem lookup_insertSorted (name other : String) (value : α) :
    ∀ entries : List (String × α), (insertSorted name value entries).lookup other =
      if other = name then some value else entries.lookup other
  | [] => by simp [insertSorted, lookup_cons]
  | (first, old) :: rest => by
    have ih := lookup_insertSorted name other value rest
    rw [insertSorted]
    split
    next before =>
      simp only [lookup_cons]
    next notBefore =>
      split
      next after =>
        have ne : first ≠ name := fun h => String.lt_irrefl _ (h ▸ after)
        by_cases h : other = first
        · subst h
          simp [ne]
        · simp [lookup_cons, h, ih]
      next notAfter =>
        have same : name = first :=
          String.le_antisymm (String.not_lt.mp notAfter) (String.not_lt.mp notBefore)
        subst same
        by_cases h : other = name <;> simp [lookup_cons, h]

/-- Insertion changes the look-up of one name. -/
theorem get?_insert (d : Dict α) (name other : String) (value : α) :
    (d.insert name value).get? other = if other = name then some value else d.get? other :=
  lookup_insertSorted name other value d.entries

theorem lookup_filter_ne (name other : String) :
    ∀ entries : List (String × α), (entries.filter (·.1 != name)).lookup other =
      if other = name then none else entries.lookup other
  | [] => by simp
  | (first, value) :: rest => by
    have ih := lookup_filter_ne name other rest
    by_cases h : first = name
    · subst h
      rw [List.filter_cons_of_neg (by simp), ih, lookup_cons]
      split <;> rfl
    · rw [List.filter_cons_of_pos (by simpa using h), lookup_cons, lookup_cons, ih]
      by_cases e : other = first
      · subst e
        simp [h]
      · simp [e]

/-- Erasure changes the look-up of one name. -/
theorem get?_erase (d : Dict α) (name other : String) :
    (d.erase name).get? other = if other = name then none else d.get? other :=
  lookup_filter_ne name other d.entries

@[simp]
theorem get?_empty (name : String) : (empty : Dict α).get? name = none := rfl

theorem lookup_eq_some_iff_mem {name : String} {value : α} :
    ∀ {entries : List (String × α)}, entries.Pairwise (·.1 < ·.1) →
      (entries.lookup name = some value ↔ (name, value) ∈ entries)
  | [], _ => by simp
  | (first, old) :: rest, h => by
    have later := List.pairwise_cons.mp h
    rw [lookup_cons, List.mem_cons]
    by_cases same : name = first
    · subst same
      have absent : (name, value) ∉ rest := fun mem =>
        String.lt_irrefl _ (later.1 (name, value) mem)
      simp [absent, eq_comm]
    · simp [same, lookup_eq_some_iff_mem later.2]

/-- A look-up finds the entries and nothing else. -/
theorem get?_eq_some_iff_mem {d : Dict α} {name : String} {value : α} :
    d.get? name = some value ↔ (name, value) ∈ d.entries := lookup_eq_some_iff_mem d.sorted

/-- The names are those that have a value. -/
theorem mem_keys_iff {d : Dict α} {name : String} : name ∈ d.keys ↔ d.contains name = true := by
  rw [keys, List.mem_map, contains, Option.isSome_iff_exists]
  constructor
  · rintro ⟨⟨_, value⟩, mem, rfl⟩
    exact ⟨value, get?_eq_some_iff_mem.mpr mem⟩
  · rintro ⟨value, found⟩
    exact ⟨(name, value), get?_eq_some_iff_mem.mp found, rfl⟩

theorem pairwise_keys (d : Dict α) : d.keys.Pairwise (· < ·) := List.pairwise_map.mpr d.sorted

theorem contains_insert (d : Dict α) (name other : String) (value : α) :
    (d.insert name value).contains other = true ↔ other = name ∨ d.contains other = true := by
  rw [contains, get?_insert]
  by_cases h : other = name <;> simp [h, contains]

theorem contains_erase (d : Dict α) (name other : String) :
    (d.erase name).contains other = true ↔ other ≠ name ∧ d.contains other = true := by
  rw [contains, get?_erase]
  by_cases h : other = name <;> simp [h, contains]

@[simp]
theorem contains_empty (name : String) : (empty : Dict α).contains name = false := rfl

/-- A dictionary without entries has no names. -/
theorem isEmpty_eq_false_iff {d : Dict α} :
    d.isEmpty = false ↔ ∃ name, d.contains name = true := by
  simp only [← mem_keys_iff]
  obtain ⟨entries, sorted⟩ := d
  cases entries with
  | nil => simp [isEmpty, keys]
  | cons entry rest => simp [isEmpty, keys]

theorem lookup_eq_none_of_lt {name : String} :
    ∀ {entries : List (String × α)}, (∀ x ∈ entries, name < x.1) → entries.lookup name = none
  | [], _ => rfl
  | (first, _) :: rest, h => by
    have lt := h (first, _) List.mem_cons_self
    have ne : ¬ name = first := fun e => String.lt_irrefl _ (e ▸ lt)
    rw [lookup_cons, if_neg ne]
    exact lookup_eq_none_of_lt fun x hx => h x (List.mem_cons_of_mem _ hx)

theorem entries_eq_of_lookup :
    ∀ {a b : List (String × α)}, a.Pairwise (·.1 < ·.1) → b.Pairwise (·.1 < ·.1) →
      (∀ name, a.lookup name = b.lookup name) → a = b
  | [], [], _, _, _ => rfl
  | [], (n, v) :: rest, _, _, h => by simpa [lookup_cons] using h n
  | (n, v) :: rest, [], _, _, h => by simpa [lookup_cons] using h n
  | (n, v) :: as, (m, w) :: bs, ha, hb, h => by
    have later := List.pairwise_cons.mp ha
    have later' := List.pairwise_cons.mp hb
    have same : n = m := by
      refine String.le_antisymm (String.not_lt.mp fun lt => ?_) (String.not_lt.mp fun lt => ?_)
      · have := h m
        rw [@lookup_eq_none_of_lt _ m ((n, v) :: as) (by
          intro x hx
          rcases List.mem_cons.mp hx with rfl | hx
          · exact lt
          · exact String.lt_trans lt (later.1 x hx))] at this
        simp at this
      · have := h n
        rw [@lookup_eq_none_of_lt _ n ((m, w) :: bs) (by
          intro x hx
          rcases List.mem_cons.mp hx with rfl | hx
          · exact lt
          · exact String.lt_trans lt (later'.1 x hx))] at this
        simp at this
    subst same
    have value : v = w := by simpa [lookup_cons] using h n
    subst value
    have tail : as = bs := by
      refine entries_eq_of_lookup later.2 later'.2 fun name => ?_
      by_cases e : name = n
      · subst e
        rw [lookup_eq_none_of_lt later.1, lookup_eq_none_of_lt later'.1]
      · simpa [lookup_cons, e] using h name
    rw [tail]

/-- A dictionary is determined by its look-ups. -/
theorem ext_get? {a b : Dict α} (h : ∀ name, a.get? name = b.get? name) : a = b := by
  cases a
  cases b
  congr
  exact entries_eq_of_lookup ‹_› ‹_› h

/-- Of two values given to one name the last one counts. -/
theorem insert_insert (d : Dict α) (name : String) (first last : α) :
    (d.insert name first).insert name last = d.insert name last := by
  apply ext_get?
  intro other
  simp only [get?_insert]
  split <;> rfl

end Dict

end Refetch
