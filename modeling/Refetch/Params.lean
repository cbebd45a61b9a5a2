/-
# Query parameters

A parameter set gives each of its names one or more values, in the order in which they were given;
the type leaves no room for a name without values. The canonical query string lists the names in
their order and repeats a name for each of its values, everything percent-encoded, so it does not
depend on the order in which different names were added.
-/

import Refetch.Double.Shortest
import Refetch.Json.Printer
import Refetch.Text.Percent

namespace Refetch

/-- The values of one parameter name, at least one. -/
structure Values where
  first : String
  more : List String
  deriving DecidableEq, Repr, Inhabited

/-- All values in their order. -/
def Values.toList (v : Values) : List String := v.first :: v.more

/-- Query parameters: the values of each name. -/
structure Params where
  values : Dict Values
  deriving DecidableEq, Repr, Inhabited

/-- Why something has no JSON form. -/
inductive EncodeError where
  /-- A map has a name that is not a text. -/
  | nameNotText
  deriving DecidableEq, Repr

def EncodeError.message : EncodeError → String
  | .nameNotText => "key must be a string"

/-- Why no parameter set could be made. -/
inductive ParamsError where
  | notAMap (found : String)
  | serialize (reason : String)
  deriving DecidableEq, Repr

def ParamsError.message : ParamsError → String
  | .notAMap found => s!"Query parameters must serialize to a map, got {found}"
  | .serialize reason => s!"Failed to serialize query parameters: {reason}"

/-- The JSON object of a map with names of any kind; a name that is an array or an object has no
text. -/
def Json.ofEntries (entries : List (Json × Json)) : Except EncodeError Json := do
  let named ← entries.mapM fun (name, value) => match name with
    | .str s => .ok (s, value)
    | .bool _ | .num _ => .ok (name.compact, value)
    | _ => .error .nameNotText
  return .object named

namespace Params

/-- The set without parameters. -/
def empty : Params := ⟨.empty⟩

def isEmpty (p : Params) : Bool := p.values.isEmpty

def get? (p : Params) (name : String) : Option (List String) := (p.values.get? name).map (·.toList)

/-- Gives a name one more value. -/
def add (p : Params) (name value : String) : Params :=
  match p.values.get? name with
  | none => ⟨p.values.insert name ⟨value, []⟩⟩
  | some old => ⟨p.values.insert name ⟨old.first, old.more ++ [value]⟩⟩

/-- Gives a name one more value, if there is one. -/
def addIf (p : Params) (name : String) : Option String → Params
  | none => p
  | some value => p.add name value

/-- Gives a name more values at once. If there are none, the set stays as it is. -/
def extend (p : Params) (name : String) : List String → Params
  | [] => p
  | first :: more => match p.values.get? name with
    | none => ⟨p.values.insert name ⟨first, more⟩⟩
    | some old => ⟨p.values.insert name ⟨old.first, old.more ++ first :: more⟩⟩

/-- The text of a member of a map: a string stands for itself, null has none, and anything else
is its compact JSON text. -/
def memberText? : Json → Option String
  | .null => none
  | .str s => some s
  | v => some v.compact

/-- The text of a value given on its own. It differs from the text of a member in that a floating
point number is written positionally, without an exponent or a superfluous point. -/
def valueText? : Json → Option String
  | .num (.float x) => some (x.text .plain)
  | v => memberText? v

/-- The texts that a member of a map adds: one for each item of an array, else at most one. -/
def memberTexts : Json → List String
  | .arr items => items.filterMap memberText?
  | v => (memberText? v).toList

/-- Adds what a member of a map stands for: the items of an array all at once, and anything else on
its own. Nulls add nothing. -/
def addMember (p : Params) (name : String) : Json → Params
  | .null => p
  | .arr items => p.extend name (items.filterMap memberText?)
  | v => p.addIf name (memberText? v)

/-- The parameters that the members of a map stand for. -/
def ofMembers (members : List (String × Json)) : Params :=
  members.foldl (fun p (name, v) => p.addMember name v) empty

/-- The parameters of a JSON value: those of an object's members, none for null. -/
def ofJson : Json → Except ParamsError Params
  | .null => .ok empty
  | .obj members => .ok (ofMembers members)
  | v => .error (.notAMap v.kind)

/-- The parameters of something that may have no JSON form. -/
def ofEncoded : Except EncodeError Json → Except ParamsError Params
  | .ok v => ofJson v
  | .error e => .error (.serialize e.message)

/-- Every name with every one of its values, in the canonical order. -/
def pairs (p : Params) : List (String × String) :=
  p.values.entries.flatMap fun (name, values) => values.toList.map (name, ·)

/-- One parameter of the query string. -/
def encodePair (name value : String) : String :=
  Text.percentEncode name ++ "=" ++ Text.percentEncode value

/-- The canonical query string, without a question mark. -/
def encode (p : Params) : String :=
  "&".intercalate (p.pairs.map fun (name, value) => encodePair name value)

end Params

end Refetch
