/-
# Computed keys are canonical and free of collisions

A parameter set is the ordered list of values of each name, however it was built: `values_of_given`
says so of every way of building one. The query string lists the names in their order and can be
read back, because neither the separators nor the equals sign survive percent-encoding. Together:
two parameter sets have the same computed key exactly when every name was given the same values in
the same order.

The base key is arbitrary. It may carry a query string of its own, in which case the parameters are
appended to that.
-/

import Refetch.Key
import Refetch.Proofs.Key.Encoding

namespace Refetch

open Text

namespace Params

/-- The values of a name, none if the set does not have it. -/
def valuesOf (p : Params) (name : String) : List String := (p.get? name).getD []

/-- The values that a list of names and values gives to one name, in their order. -/
def valuesFor (name : String) (given : List (String × String)) : List String :=
  (given.filter (·.1 = name)).map (·.2)

@[simp]
theorem valuesFor_nil (name : String) : valuesFor name [] = [] := rfl

@[simp]
theorem valuesFor_append (name : String) (first second : List (String × String)) :
    valuesFor name (first ++ second) = valuesFor name first ++ valuesFor name second := by
  simp [valuesFor]

theorem valuesFor_cons (name : String) (pair : String × String) (rest : List (String × String)) :
    valuesFor name (pair :: rest) =
      if pair.1 = name then pair.2 :: valuesFor name rest else valuesFor name rest := by
  by_cases h : pair.1 = name <;> simp [valuesFor, h]

/-- A name gets all of the values that are given to it at once, and no other name does. -/
theorem valuesFor_map (name other : String) (values : List String) :
    valuesFor name (values.map (other, ·)) = if other = name then values else [] := by
  by_cases h : other = name <;> simp [valuesFor, List.filter_map, Function.comp_def, h]

@[simp]
theorem valuesOf_empty (name : String) : empty.valuesOf name = [] := rfl

/-- Giving a name one more value changes the values of that name only. -/
theorem valuesOf_add (p : Params) (name value other : String) :
    (p.add name value).valuesOf other =
      if name = other then p.valuesOf other ++ [value] else p.valuesOf other := by
  unfold valuesOf get? add
  cases hold : p.values.get? name with
  | none =>
      by_cases h : name = other
      · subst h
        simp [Dict.get?_insert, hold, Values.toList]
      · simp [Dict.get?_insert, h, Ne.symm h]
  | some old =>
      by_cases h : name = other
      · subst h
        simp [Dict.get?_insert, hold, Values.toList]
      · simp [Dict.get?_insert, h, Ne.symm h]

/-- Giving several values to several names, one after the other. -/
theorem valuesOf_foldl_add (name : String) (given : List (String × String)) :
    ∀ p : Params, (given.foldl (fun p pair => p.add pair.1 pair.2) p).valuesOf name =
      p.valuesOf name ++ valuesFor name given := by
  induction given with
  | nil => intro p; simp
  | cons pair rest ih =>
      intro p
      rw [List.foldl_cons, ih, valuesOf_add, valuesFor_cons]
      by_cases h : pair.1 = name <;> simp [h]

/-- The names and values that a JSON value gives, in the order of its members and items. -/
def givenBy : Json → List (String × String)
  | .obj members => members.flatMap fun (name, v) => (memberTexts v).map (name, ·)
  | _ => []

/-- Giving the first of several values alone and the others after it is giving them all at once. -/
theorem extend_add (p : Params) (name first : String) (more : List String) :
    (p.add name first).extend name more = p.extend name (first :: more) := by
  cases more with
  | nil =>
      unfold add extend
      cases p.values.get? name <;> rfl
  | cons second more =>
      unfold add extend
      cases p.values.get? name <;> simp [Dict.get?_insert, Dict.insert_insert]

theorem extend_eq_foldl_add (name : String) (values : List String) :
    ∀ p : Params, p.extend name values = values.foldl (fun p value => p.add name value) p := by
  induction values with
  | nil => exact fun _ => rfl
  | cons first more ih =>
      intro p
      rw [← extend_add, ih, List.foldl_cons]

/-- What a member adds, it adds one by one, whether at once or not. -/
theorem addMember_eq_foldl_add (p : Params) (name : String) (v : Json) :
    p.addMember name v = (memberTexts v).foldl (fun p value => p.add name value) p := by
  cases v with
  | arr items => exact extend_eq_foldl_add name (items.filterMap memberText?) p
  | _ => rfl

/-- The parameters of the members of a map are what the members give, added one by one. -/
theorem ofMembers_eq_foldl_add (members : List (String × Json)) :
    ofMembers members =
      (givenBy (.obj members)).foldl (fun p pair => p.add pair.1 pair.2) empty := by
  simp only [ofMembers, addMember_eq_foldl_add, givenBy, List.foldl_flatMap, List.foldl_map]

/-- How the parameters of a key come about, with the names and values given on the way: there may
be none at all, and a set begins empty or from a JSON value and is given one value at a time. -/
inductive Given : List (String × String) → Option Params → Prop
  | absent : Given [] none
  | new : Given [] (some empty)
  | json {v : Json} {p : Params} (made : ofJson v = .ok p) : Given (givenBy v) (some p)
  | add {given : List (String × String)} {p : Params} (name value : String)
      (before : Given given (some p)) : Given (given ++ [(name, value)]) (some (p.add name value))
  | addIf {given : List (String × String)} {p : Params} (name : String) (value : Option String)
      (before : Given given (some p)) :
      Given (given ++ value.toList.map (name, ·)) (some (p.addIf name value))

theorem valuesOf_of_ofJson {v : Json} {p : Params} (h : ofJson v = .ok p) (name : String) :
    p.valuesOf name = valuesFor name (givenBy v) := by
  cases v with
  | null =>
      cases h
      rfl
  | obj members =>
      cases h
      rw [ofMembers_eq_foldl_add, valuesOf_foldl_add]
      simp
  | bool _ | num _ | str _ | arr _ => cases h

/-- Whichever way a set was built, each name holds the values it was given, in that order. -/
theorem values_of_given {given : List (String × String)} {p : Option Params} (h : Given given p)
    (name : String) : (p.getD empty).valuesOf name = valuesFor name given := by
  induction h with
  | absent => rfl
  | new => rfl
  | json made => exact valuesOf_of_ofJson made name
  | @add given p key value _ ih =>
      rw [Option.getD_some] at ih ⊢
      rw [valuesOf_add, ih, valuesFor_append, valuesFor_cons]
      by_cases h : key = name <;> simp [h]
  | @addIf given p key value _ ih =>
      rw [Option.getD_some] at ih ⊢
      cases value with
      | none => simpa [addIf] using ih
      | some value =>
          rw [addIf, valuesOf_add, ih, valuesFor_append, valuesFor_map]
          by_cases h : key = name <;> simp [h]

/-- A set is determined by the values of its names: no name is without values. -/
theorem ext_valuesOf {p q : Params} (h : ∀ name, p.valuesOf name = q.valuesOf name) : p = q := by
  have lookups : ∀ name, p.values.get? name = q.values.get? name := by
    intro name
    have values := h name
    unfold valuesOf get? at values
    cases hp : p.values.get? name with
    | none =>
        cases hq : q.values.get? name with
        | none => rfl
        | some v => simp [hp, hq, Values.toList] at values
    | some v =>
        cases hq : q.values.get? name with
        | none => simp [hp, hq, Values.toList] at values
        | some w =>
            obtain ⟨first, more⟩ := v
            obtain ⟨first', more'⟩ := w
            simpa [hp, hq, Values.toList] using values
  cases p
  cases q
  congr
  exact Dict.ext_get? lookups

/-- Listing names with their values loses nothing: sorted names keep the values of each together. -/
theorem valuesFor_flatMap (name : String) :
    ∀ {entries : List (String × Values)}, entries.Pairwise (·.1 < ·.1) →
      valuesFor name (entries.flatMap fun (key, values) => values.toList.map (key, ·)) =
        ((entries.lookup name).map Values.toList).getD []
  | [], _ => rfl
  | (key, values) :: rest, h => by
    have later := List.pairwise_cons.mp h
    rw [List.flatMap_cons, valuesFor_append, valuesFor_map, valuesFor_flatMap name later.2,
      Dict.lookup_cons]
    by_cases same : key = name
    · subst same
      simp [Dict.lookup_eq_none_of_lt later.1]
    · simp [same, Ne.symm same]

theorem valuesFor_pairs (p : Params) (name : String) : valuesFor name p.pairs = p.valuesOf name :=
  valuesFor_flatMap name p.values.sorted

theorem pairs_injective : Function.Injective pairs := by
  intro p q h
  apply ext_valuesOf
  intro name
  rw [← valuesFor_pairs, ← valuesFor_pairs, h]

theorem pairs_ne_nil {p : Params} (h : p.isEmpty = false) : p.pairs ≠ [] := by
  obtain ⟨⟨entries, sorted⟩⟩ := p
  cases entries with
  | nil => simp [isEmpty, Dict.isEmpty] at h
  | cons entry rest => simp [pairs, Values.toList]

theorem toList_encodePair (name value : String) :
    (encodePair name value).toList =
      (percentEncode name).toList ++ '=' :: (percentEncode value).toList := by
  simp [encodePair]

/-- One parameter can be read back: the equals sign stands between name and value only. -/
theorem encodePair_inj {name value name' value' : String}
    (h : encodePair name value = encodePair name' value') : name = name' ∧ value = value' := by
  have characters := congrArg String.toList h
  rw [toList_encodePair, toList_encodePair] at characters
  have outside : ∀ s, '=' ∉ (percentEncode s).toList := fun s mem =>
    absurd (isEncoded_of_mem_percentEncode mem) (by decide)
  obtain ⟨names, -, values⟩ :=
    (List.append_cons_inj_of_notMem (outside name) (outside value)).mp characters
  exact ⟨percentEncode_injective (String.toList_inj.mp names),
    percentEncode_injective (String.toList_inj.mp values)⟩

/-- No parameter contains the sign that separates parameters. -/
theorem ampersand_notMem_encodePair (name value : String) :
    '&' ∉ (encodePair name value).toList := by
  rw [toList_encodePair, List.mem_append, List.mem_cons]
  rintro (mem | mem | mem)
  · exact absurd (isEncoded_of_mem_percentEncode mem) (by decide)
  · exact absurd mem (by decide)
  · exact absurd (isEncoded_of_mem_percentEncode mem) (by decide)

theorem encode_inj {p q : Params} (hp : p.isEmpty = false) (hq : q.isEmpty = false)
    (h : p.encode = q.encode) : p = q := by
  apply pairs_injective
  have characters := congrArg String.toList h
  unfold encode at characters
  rw [String.toList_intercalate, String.toList_intercalate] at characters
  have split : ∀ r : Params, r.isEmpty = false →
      (['&'].intercalate ((r.pairs.map fun p => encodePair p.1 p.2).map String.toList)).splitOn
        '&' = (r.pairs.map fun p => encodePair p.1 p.2).map String.toList := by
    intro r hr
    apply List.splitOn_intercalate
    · intro word hword
      obtain ⟨text, htext, rfl⟩ := List.mem_map.mp hword
      obtain ⟨⟨name, value⟩, -, rfl⟩ := List.mem_map.mp htext
      exact ampersand_notMem_encodePair name value
    · simpa using pairs_ne_nil hr
  have words := congrArg (List.splitOn '&') characters
  change (['&'].intercalate _).splitOn '&' = (['&'].intercalate _).splitOn '&' at words
  rw [split p hp, split q hq] at words
  have texts := List.map_injective_iff.mpr (fun _ _ => String.toList_inj.mp) words
  refine List.map_injective_iff.mpr ?_ texts
  rintro ⟨name, value⟩ ⟨name', value'⟩ same
  obtain ⟨rfl, rfl⟩ := encodePair_inj same
  rfl

end Params

open Params

/-- No parameters and an empty set count as the same. -/
theorem computeKey_getD (base : String) (p : Option Params) :
    computeKey base p = computeKey base (some (p.getD .empty)) := by
  cases p <;> rfl

theorem computeKey_of_isEmpty {base : String} {p : Params} (h : p.isEmpty = true) :
    computeKey base (some p) = base := by
  simp [computeKey, h]

theorem computeKey_of_not_isEmpty {base : String} {p : Params} (h : p.isEmpty = false) :
    computeKey base (some p) = base ++ (if hasInlineQuery base then "&" else "?") ++ p.encode := by
  simp [computeKey, h]

theorem eq_empty_of_isEmpty {p : Params} (h : p.isEmpty = true) : p = .empty := by
  obtain ⟨⟨entries, sorted⟩⟩ := p
  cases entries with
  | nil => rfl
  | cons entry rest => simp [Params.isEmpty, Dict.isEmpty] at h

/-- Parameters lengthen a key. -/
theorem computeKey_ne_base {base : String} {p : Params} (h : p.isEmpty = false) :
    computeKey base (some p) ≠ base := by
  intro same
  rw [computeKey_of_not_isEmpty h] at same
  have lengths := congrArg String.length same
  simp only [String.length_append] at lengths
  split at lengths
  · have : "&".length = 1 := rfl
    omega
  · have : "?".length = 1 := rfl
    omega

/-- Two sets that give the same key are the same set. -/
theorem computeKey_some_inj {base : String} {p q : Params}
    (h : computeKey base (some p) = computeKey base (some q)) : p = q := by
  cases hp : p.isEmpty with
  | true =>
      cases hq : q.isEmpty with
      | true => rw [eq_empty_of_isEmpty hp, eq_empty_of_isEmpty hq]
      | false =>
          rw [computeKey_of_isEmpty hp] at h
          exact absurd h.symm (computeKey_ne_base hq)
  | false =>
      cases hq : q.isEmpty with
      | true =>
          rw [computeKey_of_isEmpty hq] at h
          exact absurd h (computeKey_ne_base hp)
      | false =>
          rw [computeKey_of_not_isEmpty hp, computeKey_of_not_isEmpty hq] at h
          exact encode_inj hp hq (String.append_right_inj _ |>.mp h)

/-- A key is its base key only if there are no parameters. -/
theorem computeKey_eq_base_iff {base : String} {p : Params} :
    computeKey base (some p) = base ↔ p = .empty := by
  constructor
  · intro h
    cases hp : p.isEmpty with
    | true => exact eq_empty_of_isEmpty hp
    | false => exact absurd h (computeKey_ne_base hp)
  · rintro rfl
    rfl

/-- Only the empty list gives no name a value. -/
theorem valuesFor_eq_nil_iff {given : List (String × String)} :
    (∀ name, valuesFor name given = []) ↔ given = [] := by
  constructor
  · intro h
    cases given with
    | nil => rfl
    | cons pair rest => simpa [valuesFor_cons] using h pair.1
  · rintro rfl name
    rfl

/-- Neighbours with different names can change places: each name still gets its values in order. -/
theorem valuesFor_swap {a b : String × String} (different : a.1 ≠ b.1)
    (before after : List (String × String)) (name : String) :
    valuesFor name (before ++ a :: b :: after) = valuesFor name (before ++ b :: a :: after) := by
  simp only [valuesFor_append, valuesFor_cons]
  by_cases ha : a.1 = name
  · have hb : b.1 ≠ name := fun hb => different (ha.trans hb.symm)
    simp [ha, hb]
  · simp [ha]

/-- Two computed keys over one base key are equal exactly when each name was given the same values
in the same order. In particular the order of insertions for different names does not matter, and
the key is the base key only if nothing was given. -/
theorem computeKey_eq_iff_same_values (base : String) {first second : List (String × String)}
    {p q : Option Params} (hp : Given first p) (hq : Given second q) :
    (computeKey base p = computeKey base q ↔
        ∀ name, valuesFor name first = valuesFor name second) ∧
      (∀ before after a b, a.1 ≠ b.1 → first = before ++ a :: b :: after →
        second = before ++ b :: a :: after → computeKey base p = computeKey base q) ∧
      (computeKey base p = base ↔ first = []) := by
  have same : computeKey base p = computeKey base q ↔
      ∀ name, valuesFor name first = valuesFor name second := by
    rw [computeKey_getD base p, computeKey_getD base q]
    constructor
    · intro h name
      rw [← values_of_given hp, ← values_of_given hq, computeKey_some_inj h]
    · intro h
      have sets : p.getD .empty = q.getD .empty := by
        apply ext_valuesOf
        intro name
        rw [values_of_given hp, values_of_given hq, h]
      rw [sets]
  refine ⟨same, ?_, ?_⟩
  · rintro before after a b different rfl rfl
    exact same.mpr (valuesFor_swap different before after)
  · rw [computeKey_getD, computeKey_eq_base_iff, ← valuesFor_eq_nil_iff]
    constructor
    · intro h name
      rw [← values_of_given hp, h, valuesOf_empty]
    · intro h
      apply ext_valuesOf
      intro name
      rw [values_of_given hp, h, valuesOf_empty]

/-- A map with an array gives the same key as single values in another order, with names and values
that hold separators and letters beyond ASCII. -/
theorem computeKey_array_eq_single_values :
    let members : List (String × Json) :=
      [("a&", .arr [.str "", .null, .str "é="]), ("b", .null), ("ü", .str "?#")]
    let single := ((Params.empty.addIf "ü" (some "?#")).add "a&" "").add "a&" "é="
    Given (givenBy (.obj members)) (some (ofMembers members)) ∧
      Given [("ü", "?#"), ("a&", ""), ("a&", "é=")] (some single) ∧
      computeKey "/apps?x" (some (ofMembers members)) = computeKey "/apps?x" (some single) := by
  intro members single
  have hp : Given (givenBy (.obj members)) (some (ofMembers members)) := .json rfl
  have hq : Given [("ü", "?#"), ("a&", ""), ("a&", "é=")] (some single) :=
    ((Given.new.addIf "ü" (some "?#")).add "a&" "").add "a&" "é="
  refine ⟨hp, hq, (computeKey_eq_iff_same_values "/apps?x" hp hq).1.mpr ?_⟩
  intro name
  have given : givenBy (.obj members) = [("a&", ""), ("a&", "é="), ("ü", "?#")] := rfl
  rw [given]
  calc
    valuesFor name [("a&", ""), ("a&", "é="), ("ü", "?#")] =
      valuesFor name [("a&", ""), ("ü", "?#"), ("a&", "é=")] :=
        valuesFor_swap (by decide) [("a&", "")] [] name
    _ = valuesFor name [("ü", "?#"), ("a&", ""), ("a&", "é=")] :=
        valuesFor_swap (by decide) [] [("a&", "é=")] name

end Refetch
