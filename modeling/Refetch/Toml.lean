/-
# TOML values, and the tree that the lines of a document build up

The members of a table stand in the order in which they were added. A table remembers how it came
about, for that decides what may still be added to it: one written between braces is complete, one
that a dotted name went through takes only dotted names, one that a longer heading went through may
still get a heading of its own, and a heading may be given once.
-/

import Refetch.Double

namespace Refetch

/-- How a table came about. -/
inductive Toml.Origin where
  /-- It has a heading of its own. -/
  | heading
  /-- A longer heading goes through it. -/
  | passed
  /-- A dotted name goes through it. -/
  | dotted
  /-- It stands between braces. -/
  | braces
  deriving DecidableEq, Repr

inductive Toml where
  | str (value : String)
  | integer (value : Int)
  /-- A floating point number; `none` if it is infinite or not a number. -/
  | float (value : Option Double)
  | boolean (value : Bool)
  /-- A date, a time of day or both. -/
  | moment
  | array (items : List Toml)
  | table (origin : Toml.Origin) (members : List (String × Toml))
  /-- An array of tables that headings add to. -/
  | tables (items : List (List (String × Toml)))
  deriving Repr

namespace Toml

/-- The members of a table in the order in which they were added. -/
abbrev Members := List (String × Toml)

/-- What leads through tables: a heading or a dotted name. -/
inductive Way where
  | heading
  | dotted
  deriving DecidableEq, Repr

/-- The origin of a table that came about because a path went through it. -/
def Way.origin : Way → Origin
  | .heading => .passed
  | .dotted => .dotted

/-- May a path lead into a table of that origin; `last` if it ends there. -/
def Way.enters (way : Way) (last : Bool) : Origin → Bool
  | .heading => way = .heading
  | .passed => way = .heading || !last
  | .dotted => true
  | .braces => false

/-- The members with another value for a name that there is. -/
def replace (name : String) (value : Toml) : Members → Members
  | [] => []
  | (other, v) :: rest =>
    if other = name then (name, value) :: rest else (other, v) :: replace name value rest

/-- The members without a name. -/
def remove (name : String) (members : Members) : Members := members.filter (·.1 ≠ name)

/-- Changes the table that a path leads to. Tables that are missing on the way come about by it,
and an array of tables is entered at its last one. -/
def alter (way : Way) (change : Members → Option Members) :
    List String → Members → Option Members
  | [], members => change members
  | name :: path, members =>
    match members.lookup name with
    | none => (alter way change path []).map fun inner =>
        members ++ [(name, .table way.origin inner)]
    | some (.table origin inner) =>
      if way.enters path.isEmpty origin then
        (alter way change path inner).map fun inner =>
          replace name (.table origin inner) members
      else none
    | some (.tables items) =>
      if way = .heading || !path.isEmpty then
        (alter way change path (items.getLast?.getD [])).map fun inner =>
          replace name (.tables (items.dropLast ++ [inner])) members
      else none
    | some _ => none

/-- Adds a member under a name that is not taken. -/
def define (name : String) (value : Toml) (members : Members) : Option Members :=
  if (members.lookup name).isNone then some (members ++ [(name, value)]) else none

/-- Gives a table a heading. Having been passed through by longer headings does not keep it from
getting one; it then counts as added with its heading. -/
def openTable (name : String) (members : Members) : Option Members :=
  match members.lookup name with
  | none => some (members ++ [(name, .table .heading [])])
  | some (.table .passed inner) => some (remove name members ++ [(name, .table .heading inner)])
  | some _ => none

/-- Adds a table to an array of tables. -/
def openItem (name : String) (members : Members) : Option Members :=
  match members.lookup name with
  | none => some (members ++ [(name, .tables [[]])])
  | some (.tables items) => some (replace name (.tables (items ++ [[]])) members)
  | some _ => none

/-- A dotted name: the names that lead to the last one, and the last one. -/
structure Path where
  parents : List String
  last : String
  deriving DecidableEq, Repr

def Path.names (p : Path) : List String := p.parents ++ [p.last]

/-- Adds a member under a dotted name. -/
def Path.define (p : Path) (value : Toml) (members : Members) : Option Members :=
  alter .dotted (Toml.define p.last value) p.parents members

/-- The table that pairs between braces make up. -/
def ofPairs? (pairs : List (Path × Toml)) : Option Toml :=
  let add (members : Members) (pair : Path × Toml) := pair.1.define pair.2 members
  (pairs.foldlM add []).map (.table .braces)

/-- What a line of a document says. -/
inductive Line where
  /-- The heading of a table. -/
  | table (path : Path)
  /-- The heading of another table in an array. -/
  | item (path : Path)
  /-- A member of the table whose heading came last. -/
  | pair (path : Path) (value : Toml)
  deriving Repr

/-- A document as far as it has been read: its members, and the path to the table whose heading
came last. -/
structure Draft where
  members : Members := []
  current : List String := []

/-- Adds what a line says. -/
def Draft.add (d : Draft) : Line → Option Draft
  | .table path => (alter .heading (openTable path.last) path.parents d.members).map fun members =>
      { members, current := path.names }
  | .item path => (alter .heading (openItem path.last) path.parents d.members).map fun members =>
      { members, current := path.names }
  | .pair path value => (alter .heading (path.define value) d.current d.members).map fun members =>
      { d with members }

/-- The members of the document with the given lines; `none` if a name is taken twice. -/
def ofLines? (lines : List Line) : Option Members := (lines.foldlM Draft.add {}).map (·.members)

end Toml

end Refetch
