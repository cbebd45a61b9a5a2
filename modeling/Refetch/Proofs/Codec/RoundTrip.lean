/-
# Codecs that read back what they write

A codec is faithful if it reads back what it writes, whether in place or held back, and writes no
value as null. The second part is what makes a value and its absence differ: a value that may be
absent is written as null if it is. Codecs made of faithful ones are faithful again, or at least
read back what they write.

For a record this comes down to its fields. `Fields.Gives` says that the members of an object make
up a certain value, and it is shown field by field in the order of declaration, whatever the order
of the members and whatever others stand among them.
-/

import Refetch.Codec.Record
import Refetch.Resource.Page

namespace Refetch

namespace Dict

variable {α : Type}

/-- An entry with a later name than all others goes to the end. -/
theorem insertSorted_of_last {name : String} {value : α} {entries : List (String × α)}
    (last : ∀ entry ∈ entries, entry.1 < name) :
    insertSorted name value entries = entries ++ [(name, value)] := by
  induction entries with
  | nil => rfl
  | cons entry rest ih =>
      have before := last entry List.mem_cons_self
      rw [insertSorted, if_neg (String.lt_asymm before), if_pos before,
        ih fun other member => last other (List.mem_cons_of_mem _ member), List.cons_append]

theorem entries_foldl_insert (rest : List (String × α)) :
    ∀ d : Dict α, (d.entries ++ rest).Pairwise (·.1 < ·.1) →
      (rest.foldl (fun d (name, value) => d.insert name value) d).entries = d.entries ++ rest := by
  induction rest with
  | nil => simp
  | cons entry rest ih =>
      intro d sorted
      have last : ∀ other ∈ d.entries, other.1 < entry.1 := fun other member =>
        (List.pairwise_append.mp sorted).2.2 other member entry List.mem_cons_self
      have inserted : (d.insert entry.1 entry.2).entries = d.entries ++ [entry] :=
        insertSorted_of_last last
      rw [List.foldl_cons, ih, inserted, List.append_assoc, List.singleton_append]
      rw [inserted, List.append_assoc, List.singleton_append]
      exact sorted

theorem lookup_append (name : String) (first rest : List (String × α)) :
    (first ++ rest).lookup name = (first.lookup name).or (rest.lookup name) := by
  induction first with
  | nil => rfl
  | cons entry first ih =>
      rw [List.cons_append, lookup_cons, lookup_cons, ih]
      split <;> rfl

/-- A dictionary is that of its own entries. -/
theorem ofList_entries (d : Dict α) : ofList d.entries = d := by
  have same := entries_foldl_insert d.entries empty d.sorted
  cases d
  exact Dict.mk.injEq .. ▸ same

end Dict

namespace Codec

variable {α β : Type} {c : Codec α}

/-- Reads back what it writes, and writes no value as null. -/
structure Faithful (c : Codec α) : Prop where
  back : c.RoundTrips
  visible : ∀ x, c.encode x ≠ .null

theorem faithful_text : text.Faithful where
  back _ _ := rfl
  visible _ := nofun

theorem faithful_bool : bool.Faithful where
  back _ _ := rfl
  visible _ := nofun

/-- Every number within the bound is read. -/
theorem decodeNat_nat {bound n : Nat} (below : n < bound) (expected : String) (t : Timing) :
    decodeNat bound expected t (.nat n) = .ok n := by
  simp [Json.nat, decodeNat, below]

theorem faithful_u8 : u8.Faithful where
  back t n := by simp [u8, decodeNat_nat n.toNat_lt, Except.map]
  visible _ := nofun

theorem faithful_u16 : u16.Faithful where
  back t n := by simp [u16, decodeNat_nat n.toNat_lt, Except.map]
  visible _ := nofun

theorem faithful_u32 : u32.Faithful where
  back t n := by simp [u32, decodeNat_nat n.toNat_lt, Except.map]
  visible _ := nofun

theorem faithful_u64 : u64.Faithful where
  back t n := by simp [u64, decodeNat_nat n.toNat_lt, Except.map]
  visible _ := nofun

/-- Values that are written through others come back if these do. -/
theorem Faithful.refine {read : α → Except DecodeError β} {write : β → α} (h : c.Faithful)
    (inverse : ∀ x, read (write x) = .ok x) : (c.refine read write).Faithful where
  back t x := by
    have back := h.back t (write x)
    simp [Codec.refine, back, Except.bind, inverse]
  visible x := h.visible (write x)

/-- Values come back by their names if every name stands for its value. -/
theorem faithful_byName {choices : List (String × α)} {nameOf : α → String}
    (chosen : ∀ x, choices.lookup (nameOf x) = some x) : (byName choices nameOf).Faithful where
  back t x := by simp [byName, decodeName, named, chosen]
  visible _ := nofun

/-- An absent value is told from all others, as none of these is written as null. -/
theorem Faithful.option (h : c.Faithful) : c.option.RoundTrips := by
  intro t x
  cases x with
  | none => rfl
  | some x =>
      have present : c.option.decode t (c.encode x) = (c.decode t (c.encode x)).map some := by
        cases written : c.encode x with
        | null => exact absurd written (h.visible x)
        | _ => rfl
      rw [h.back] at present
      exact present

/-- Each of the values written is read back, and so are all of them. -/
theorem mapM_map_eq_ok {γ : Type} {read : β → Except DecodeError γ} {write : γ → β}
    (back : ∀ x, read (write x) = .ok x) (xs : List γ) : (xs.map write).mapM read = .ok xs := by
  induction xs with
  | nil => rfl
  | cons x xs ih =>
      rw [List.map_cons, List.mapM_cons, back, ih]
      rfl

theorem RoundTrips.list (h : c.RoundTrips) : c.list.Faithful where
  back t xs := mapM_map_eq_ok (h t) xs
  visible _ := nofun

theorem RoundTrips.dict (h : c.RoundTrips) : c.dict.Faithful where
  back t d := by
    have entries : (d.entries.map fun entry => (entry.1, c.encode entry.2)).mapM
        (fun m => (c.decode t m.2).map (m.1, ·)) = .ok d.entries := by
      apply mapM_map_eq_ok
      intro entry
      rw [h t entry.2]
      rfl
    simp only [Codec.dict, entries]
    rw [Except.map, Dict.ofList_entries]
  visible _ := nofun

end Codec

namespace Fields

variable {α β : Type} {c : Codec α} {t : Timing} {members : List (String × Json)} {name : String}

/-- What stands at the names of the fields makes up a value, wherever the fields stand among others
and however their lack would be told. -/
def Gives (f : Fields α) (t : Timing) (members : List (String × Json)) (x : α) : Prop :=
  ∀ absent position rest,
    f.build t absent position (f.names.map (members.lookup ·) ++ rest) = .ok x

/-- A member that is there gives its value. -/
theorem gives_required {x : α} (back : c.RoundTrips)
    (found : members.lookup name = some (c.encode x)) : (required name c).Gives t members x := by
  intro absent position rest
  simp only [required, List.map_cons, List.cons_append, found]
  exact back t x

theorem gives_defaulted {x default : α} (back : c.RoundTrips)
    (found : members.lookup name = some (c.encode x)) :
    (defaulted name default c).Gives t members x := by
  intro absent position rest
  simp only [defaulted, List.map_cons, List.cons_append, found]
  exact back t x

/-- A member that may be null gives its value or the lack of one. -/
theorem gives_optional {x : Option α} (faithful : c.Faithful)
    (found : members.lookup name = some (c.option.encode x)) :
    (optional name c).Gives t members x :=
  gives_defaulted faithful.option found

/-- So does a member that is left out rather than null. -/
theorem gives_optional_of_left_out {x : Option α} (faithful : c.Faithful)
    (found : members.lookup name = x.map c.encode) : (optional name c).Gives t members x := by
  cases x with
  | none =>
      intro absent position rest
      simp only [optional, defaulted, List.map_cons, List.cons_append, found, Option.map_none]
  | some x => exact gives_defaulted faithful.option found

theorem Gives.map {f : Fields α} {x : α} (h : f.Gives t members x) (g : α → β) :
    (g <$> f).Gives t members (g x) := by
  intro absent position rest
  have given := h absent position rest
  simp only [Functor.map, Fields.map] at given ⊢
  rw [given]
  rfl

/-- Fields that give a function, and fields after them that give its argument, give its value. -/
theorem Gives.seq {f : Fields (α → β)} {x : Fields α} {g : α → β} {a : α}
    (function : f.Gives t members g) (argument : x.Gives t members a) :
    (f <*> x).Gives t members (g a) := by
  intro absent position rest
  have first := function absent position (x.names.map (members.lookup ·) ++ rest)
  have second := argument absent (position + f.names.length) rest
  have length : (f.names.map (members.lookup ·)).length = f.names.length := List.length_map _
  simp only [Seq.seq, Fields.seq, List.map_append, List.append_assoc, first]
  rw [← length, List.drop_left, length]
  simp only [bind, Except.bind, second]
  rfl

/-- Members without a field do not matter. -/
theorem Gives.congr {f : Fields α} {x : α} {others : List (String × Json)}
    (h : f.Gives t members x)
    (same : ∀ name ∈ f.names, others.lookup name = members.lookup name) :
    f.Gives t others x := by
  intro absent position rest
  rw [List.map_congr_left same]
  exact h absent position rest

theorem Gives.ofMembers {f : Fields α} {x : α} (h : f.Gives t members x) :
    f.ofMembers t members = .ok x := by
  have given := h (fun _ name => .missingField name) 0 []
  rw [List.append_nil] at given
  rw [Fields.ofMembers, given]

/-- A record is faithful if the members that it is written as give it back. -/
theorem faithful_record {f : Fields α} {encode : α → Json} {members : α → List (String × Json)}
    (written : ∀ x, encode x = .obj (members x)) (gives : ∀ t x, f.Gives t (members x) x) :
    Codec.Faithful ⟨f.record name, encode⟩ where
  back t x := by
    simp only [written, record]
    exact (gives t x).ofMembers
  visible x := by simp [written]

end Fields

/-- The member of a value that may be left out is found by its name alone. -/
@[simp]
theorem lookup_memberIf {α : Type} (name other : String) (encode : α → Json) (x : Option α) :
    (memberIf name encode x).lookup other = if other = name then x.map encode else none := by
  cases x with
  | none => simp [memberIf]
  | some x => simp [memberIf, Dict.lookup_cons]

end Refetch
