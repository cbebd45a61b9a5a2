/-
# Typed values in JSON

A `Codec` writes the values of a type as JSON and reads them back. Reading is strict about kinds and
ranges, and what is wrong with a value is told as a `DecodeError`. A value may be decoded in place,
or it may have been held back until the members around it were known; the two differ in the wording
of one error and in one leniency.
-/

import Refetch.Json.Printer
import Refetch.Text.Quoted

namespace Refetch

/-- What a decoder came upon. -/
inductive Found where
  | null
  | boolean (value : Bool)
  | integer (value : Int)
  | float (value : Double)
  | text (value : String)
  | sequence
  | map
  deriving DecidableEq, Repr

/-- What a value looks like to a decoder. -/
def Json.found : Json → Found
  | .null => .null
  | .bool b => .boolean b
  | .num (.int n) => .integer n
  | .num (.float x) => .float x
  | .str s => .text s
  | .arr _ => .sequence
  | .obj _ => .map

/-- The name of what was found; a number has its text in JSON. -/
def Found.name : Found → String
  | .null => "null"
  | .boolean b => s!"boolean `{b}`"
  | .integer n => s!"integer `{n}`"
  | .float x => s!"floating point `{(Number.float x).text}`"
  | .text s => s!"string {Text.quoted s}"
  | .sequence => "sequence"
  | .map => "map"

/-- Why a value could not be decoded. -/
inductive DecodeError where
  | wrongType (found : Found) (expected : String)
  | wrongValue (found : Found) (expected : String)
  | wrongLength (length : Nat) (expected : String)
  | missingField (name : String)
  | unknownField (name : String) (known : List String)
  | unknownVariant (name : String) (known : List String)
  /-- A number that stands for no status of the thing named. -/
  | unknownStatus (thing : String) (number : Nat)
  /-- A duration beyond the longest there is. -/
  | durationOverflow
  deriving DecidableEq, Repr

/-- The choice among names, as messages word it. -/
def choiceOf (names : List String) : String :=
  match names with
  | [a] => s!"expected `{a}`"
  | [a, b] => s!"expected `{a}` or `{b}`"
  | _ => "expected one of " ++ ", ".intercalate (names.map fun name => s!"`{name}`")

def DecodeError.message : DecodeError → String
  | .wrongType found expected => s!"invalid type: {found.name}, expected {expected}"
  | .wrongValue found expected => s!"invalid value: {found.name}, expected {expected}"
  | .wrongLength length expected => s!"invalid length {length}, expected {expected}"
  | .missingField name => s!"missing field `{name}`"
  | .unknownField name known => s!"unknown field `{name}`, {choiceOf known}"
  | .unknownVariant name known => s!"unknown variant `{name}`, {choiceOf known}"
  | .unknownStatus thing number => s!"unknown {thing} status {number}"
  | .durationOverflow => "overflow deserializing Duration"

/-- When a value is decoded: where it stands, or after it was held back. -/
inductive Timing where
  | inPlace
  | heldBack
  deriving DecidableEq, Repr

abbrev Decoder (α : Type) := Timing → Json → Except DecodeError α

/-- Writes the values of a type as JSON and reads them back. -/
structure Codec (α : Type) where
  decode : Decoder α
  encode : α → Json

namespace Codec

variable {α β : Type}

/-- Reads back what it writes, whenever it is decoded. -/
def RoundTrips (c : Codec α) : Prop := ∀ t x, c.decode t (c.encode x) = .ok x

/-- Any JSON value. -/
def json : Codec Json := ⟨fun _ v => .ok v, id⟩

def text : Codec String where
  decode
    | _, .str s => .ok s
    | _, v => .error (.wrongType v.found "a string")
  encode := .str

/-- Truth values. -/
def bool : Codec Bool where
  decode
    | _, .bool b => .ok b
    | _, v => .error (.wrongType v.found "a boolean")
  encode := .bool

/-- Reads an integer from `0` to below `bound`. -/
def decodeNat (bound : Nat) (expected : String) : Decoder Nat
  | _, .num (.int n) =>
    if 0 ≤ n ∧ n.toNat < bound then .ok n.toNat else .error (.wrongValue (.integer n) expected)
  | _, v => .error (.wrongType v.found expected)

/-- Integers of 8 bits. -/
def u8 : Codec UInt8 :=
  ⟨fun t v => (decodeNat UInt8.size "u8" t v).map UInt8.ofNat, fun n => .nat n.toNat⟩

/-- Integers of 16 bits. -/
def u16 : Codec UInt16 :=
  ⟨fun t v => (decodeNat UInt16.size "u16" t v).map UInt16.ofNat, fun n => .nat n.toNat⟩

/-- Integers of 32 bits. -/
def u32 : Codec UInt32 :=
  ⟨fun t v => (decodeNat UInt32.size "u32" t v).map UInt32.ofNat, fun n => .nat n.toNat⟩

/-- Integers of 64 bits. -/
def u64 : Codec UInt64 :=
  ⟨fun t v => (decodeNat UInt64.size "u64" t v).map UInt64.ofNat, fun n => .nat n.toNat⟩

/-- The one value that holds no information, written as null. An empty map that was held back
counts as well. -/
def unit : Codec Unit where
  decode
    | _, .null => .ok ()
    | .heldBack, .obj [] => .ok ()
    | _, v => .error (.wrongType v.found "unit")
  encode _ := .null

/-- A value or null. -/
def option (c : Codec α) : Codec (Option α) where
  decode
    | _, .null => .ok none
    | t, v => (c.decode t v).map some
  encode
    | none => .null
    | some x => c.encode x

def list (c : Codec α) : Codec (List α) where
  decode
    | t, .arr items => items.mapM (c.decode t)
    | _, v => .error (.wrongType v.found "a sequence")
  encode xs := .arr (xs.map c.encode)

def dict (c : Codec α) : Codec (Dict α) where
  decode
    | t, .obj members =>
      (members.mapM fun m => (c.decode t m.2).map (m.1, ·)).map Dict.ofList
    | _, v => .error (.wrongType v.found "a map")
  encode d := .obj (d.entries.map fun entry => (entry.1, c.encode entry.2))

/-- Values that stand for others, some of which may stand for none. -/
def refine (c : Codec α) (read : α → Except DecodeError β) (write : β → α) : Codec β where
  decode t v := (c.decode t v).bind read
  encode x := c.encode (write x)

/-- The value that a name stands for. -/
def named (choices : List (String × α)) (name : String) : Except DecodeError α :=
  match choices.lookup name with
  | some x => .ok x
  | none => .error (.unknownVariant name (choices.map (·.1)))

/-- Reads a value by its name: a text, or a map that gives the name nothing. -/
def decodeName (choices : List (String × α)) : Decoder α
  | _, .str name => named choices name
  | t, .obj [(name, content)] => do
    let x ← named choices name
    unit.decode t content
    return x
  | _, .obj _ => .error (.wrongValue .map "map with a single key")
  | _, v => .error (.wrongType v.found "string or map")

/-- Reads a value by its name alone. -/
def decodeBareName (choices : List (String × α)) : Decoder α
  | _, .str name => named choices name
  | _, v => .error (.wrongType v.found "variant identifier")

/-- Values with names. -/
def byName (choices : List (String × α)) (nameOf : α → String) : Codec α :=
  ⟨decodeName choices, fun x => .str (nameOf x)⟩

end Codec

end Refetch
