/-
# Records in JSON

`Fields` describes how the members of an object make up a value, one field after another in the
order of declaration; `Fields.record` decodes with it. An object is read member by member in the
order of their names and the first member that cannot be decoded is reported; only then a missing
one, in the order of declaration. An array gives the fields by position.
-/

import Refetch.Codec

namespace Refetch

/-- How the fields of a record make up a value. -/
structure Fields (α : Type) where
  /-- The names in the order of declaration. -/
  names : List String
  /-- What is wrong with a member, looked at on its own. -/
  fault : Timing → String → Json → Option DecodeError
  /-- The value made from what stands at each field. `absent` words the lack of a field, given its
  position and name; the number is the position of the first field. -/
  build : Timing → (absent : Nat → String → DecodeError) → Nat → List (Option Json) →
    Except DecodeError α

namespace Fields

variable {α β : Type}

/-- What is wrong with a value, if anything. -/
def faultOf (r : Except DecodeError α) : Option DecodeError :=
  match r with
  | .ok _ => none
  | .error e => some e

/-- A field that must be there. -/
def required (name : String) (c : Codec α) : Fields α where
  names := [name]
  fault t other v := if other = name then faultOf (c.decode t v) else none
  build
    | t, _, _, some v :: _ => c.decode t v
    | _, absent, position, _ => .error (absent position name)

/-- A field that has a default. -/
def defaulted (name : String) (default : α) (c : Codec α) : Fields α where
  names := [name]
  fault t other v := if other = name then faultOf (c.decode t v) else none
  build
    | t, _, _, some v :: _ => c.decode t v
    | _, _, _, _ => .ok default

/-- A field that may be left out or null. -/
def optional (name : String) (c : Codec α) : Fields (Option α) := defaulted name none c.option

/-- The same fields, made into another value. -/
protected def map (f : α → β) (x : Fields α) : Fields β where
  names := x.names
  fault := x.fault
  build t absent position slots := (x.build t absent position slots).map f

/-- The same fields, made into another value where that can be done. -/
protected def attempt (x : Fields α) (f : α → Except DecodeError β) : Fields β where
  names := x.names
  fault := x.fault
  build t absent position slots := (x.build t absent position slots).bind f

/-- More fields after those there are. -/
protected def seq (f : Fields (α → β)) (x : Unit → Fields α) : Fields β where
  names := f.names ++ (x ()).names
  fault t name v := f.fault t name v <|> (x ()).fault t name v
  build t absent position slots := do
    let g ← f.build t absent position slots
    let a ← (x ()).build t absent (position + f.names.length) (slots.drop f.names.length)
    return g a

instance : Functor Fields := { map := Fields.map }

instance : Seq Fields := ⟨Fields.seq⟩

def elements (n : Nat) : String := if n = 1 then "1 element" else s!"{n} elements"

/-- The value made from the members of an object. -/
def ofMembers (f : Fields α) (t : Timing) (members : List (String × Json)) :
    Except DecodeError α :=
  match f.build t (fun _ name => .missingField name) 0 (f.names.map (members.lookup ·)) with
  | .ok x => .ok x
  | .error missing => .error ((members.findSome? fun (name, v) => f.fault t name v).getD missing)

/-- The value made from the members of an object that may have no others. -/
def ofClosedMembers (f : Fields α) (t : Timing) (members : List (String × Json)) :
    Except DecodeError α :=
  let fault := members.findSome? fun (name, v) =>
    if name ∈ f.names then f.fault t name v else some (.unknownField name f.names)
  match fault with
  | some e => .error e
  | none => f.ofMembers t members

/-- The value made from the items of an array. -/
def ofItems (f : Fields α) (expected : String) (t : Timing) (items : List Json) :
    Except DecodeError α := do
  let count := f.names.length
  let x ← f.build t (fun position _ => .wrongLength position expected) 0 (items.map some)
  if items.length ≤ count then return x
  else match t with
    | .inPlace => throw (.wrongLength items.length "fewer elements in array")
    | .heldBack => throw (.wrongLength items.length s!"{elements count} in sequence")

/-- Reads a record of the given name. -/
def record (f : Fields α) (name : String) : Decoder α
  | t, .obj members => f.ofMembers t members
  | t, .arr items => f.ofItems s!"struct {name} with {elements f.names.length}" t items
  | _, v => .error (.wrongType v.found s!"struct {name}")

end Fields

end Refetch
