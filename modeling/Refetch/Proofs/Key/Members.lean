/-
# Parameters from a map are parameters given one by one

A map gives its parameters at once, and the items of an array in it all together; the other way of
building a set is to give it one value after another. `Params.calls` says which values the members
of a map are when they are given one by one, without saying how a map is read, and the two ways make
the same set. So a map may be tidied up without a change: `Tidier` drops a null, in a member or in
the items of one, or takes an item out of an array in which it stands alone. The one thing that may
not be taken out is an array in an array, whose text is that of the whole array.
-/

import Mathlib.Logic.Relation
import Refetch.Proofs.Key.Canonical

namespace Refetch.Params

/-- The text of a value: a string is its own, and of anything else it is the JSON text. -/
def textOf : Json → String
  | .str s => s
  | v => v.compact

/-- The values that a member is, one for each item of an array. Null is none. -/
def singles : Json → List Json
  | .null => []
  | .arr items => items.filter (· ≠ .null)
  | v => [v]

/-- Which values to give to which names, member by member. -/
def calls (members : List (String × Json)) : List (String × String) :=
  members.flatMap fun (name, v) => (singles v).map fun single => (name, textOf single)

/-- The set of parameters that are given one by one. -/
def given (pairs : List (String × String)) : Params :=
  pairs.foldl (fun p (name, value) => p.add name value) empty

theorem memberText?_of_ne_null {v : Json} (present : v ≠ .null) :
    memberText? v = some (textOf v) := by
  cases v with
  | null => exact absurd rfl present
  | _ => rfl

theorem filterMap_memberText? (items : List Json) :
    items.filterMap memberText? = (items.filter (· ≠ .null)).map textOf := by
  induction items with
  | nil => rfl
  | cons v items ih =>
      by_cases absent : v = .null
      · subst absent
        rw [List.filterMap_cons_none rfl, ih]
        rfl
      · simp [memberText?_of_ne_null absent, absent, ih]

theorem memberTexts_eq (v : Json) : memberTexts v = (singles v).map textOf := by
  cases v with
  | arr items => exact filterMap_memberText? items
  | _ => rfl

theorem ofMembers_eq_given (members : List (String × Json)) :
    ofMembers members = given (calls members) := by
  rw [ofMembers_eq_foldl_add, givenBy, calls, given]
  simp only [memberTexts_eq, List.map_map, Function.comp_def]

/-- Tidying up a map in one place. -/
inductive Tidier : List (String × Json) → List (String × Json) → Prop
  | dropMember (before after : List (String × Json)) (name : String) :
      Tidier (before ++ (name, .null) :: after) (before ++ after)
  | dropItem (before after : List (String × Json)) (name : String) (first last : List Json) :
      Tidier (before ++ (name, .arr (first ++ .null :: last)) :: after)
        (before ++ (name, .arr (first ++ last)) :: after)
  | takeOut (before after : List (String × Json)) (name : String) {item : Json}
      (noArray : ∀ items, item ≠ .arr items) :
      Tidier (before ++ (name, .arr [item]) :: after) (before ++ (name, item) :: after)

/-- An item is the same on its own as alone in an array, if it is no array itself. -/
theorem singles_arr_singleton {item : Json} (noArray : ∀ items, item ≠ .arr items) :
    singles (.arr [item]) = singles item := by
  cases item with
  | arr items => exact absurd rfl (noArray items)
  | null => rfl
  | _ => simp [singles]

theorem Tidier.calls_eq {members others : List (String × Json)} (h : Tidier members others) :
    calls members = calls others := by
  cases h with
  | dropMember before after name => simp [calls, singles]
  | dropItem before after name first last => simp [calls, singles]
  | takeOut before after name noArray => simp [calls, singles_arr_singleton noArray]

theorem calls_eq_of_eqvGen {members others : List (String × Json)}
    (h : Relation.EqvGen Tidier members others) : calls members = calls others := by
  induction h with
  | rel _ _ tidier => exact tidier.calls_eq
  | refl _ => rfl
  | symm _ _ _ ih => exact ih.symm
  | trans _ _ _ _ _ first second => exact first.trans second

/-- The parameters of a map are those given one by one: each value of each member in the order of
the members, and within a member in the order of its items, with its text. Maps that differ only in
how tidy they are give the same parameters and the same keys. Null gives no parameters, and anything
else is refused and its kind told. -/
theorem ofJson_eq_given :
    (∀ members, ofJson (.obj members) = .ok (given (calls members))) ∧
      (∀ members others, Relation.EqvGen Tidier members others →
        ofJson (.obj members) = ofJson (.obj others) ∧
          ∀ key p q, ofJson (.obj members) = .ok p → ofJson (.obj others) = .ok q →
            computeKey key (some p) = computeKey key (some q)) ∧
      ofJson .null = .ok empty ∧
      ∀ v, v ≠ .null → (∀ members, v ≠ .obj members) → ofJson v = .error (.notAMap v.kind) := by
  have oneByOne : ∀ members, ofJson (.obj members) = .ok (given (calls members)) := by
    intro members
    rw [ofJson, ofMembers_eq_given]
  refine ⟨oneByOne, ?_, rfl, ?_⟩
  · intro members others tidied
    have same : ofJson (.obj members) = ofJson (.obj others) := by
      rw [oneByOne, oneByOne, calls_eq_of_eqvGen tidied]
    refine ⟨same, ?_⟩
    intro key p q first second
    rw [same, second] at first
    rw [Except.ok.inj first]
  · intro v present noMap
    cases v with
    | null => exact absurd rfl present
    | obj members => exact absurd rfl (noMap members)
    | _ => rfl

/-- Two nulls and a needless array go, and the array in an array stays and is given as one text. -/
theorem tidied_map_gives_same_key :
    let nested : String × Json := ("c", .arr [.arr [.nat 1, .null]])
    let members : List (String × Json) := [("a", .arr [.null, .str "x"]), ("b", .null), nested]
    let tidied : List (String × Json) := [("a", .str "x"), nested]
    Relation.EqvGen Tidier members tidied ∧
      ofJson (.obj members) = .ok (given [("a", "x"), ("c", "[1,null]")]) ∧
      ofJson (.obj members) = ofJson (.obj tidied) ∧
      ofJson (.arr [.null]) = .error (.notAMap "array") := by
  intro nested members tidied
  have steps : Relation.EqvGen Tidier members tidied :=
    .trans _ _ _ (.rel _ _ (.dropItem [] [("b", .null), nested] "a" [] [.str "x"]))
      (.trans _ _ _ (.rel _ _ (.takeOut [] [("b", .null), nested] "a" nofun))
        (.rel _ _ (.dropMember [("a", .str "x")] [nested] "b")))
  obtain ⟨oneByOne, tidy, -, refused⟩ := ofJson_eq_given
  exact ⟨steps, oneByOne members, (tidy members tidied steps).1, refused _ nofun nofun⟩

end Refetch.Params
