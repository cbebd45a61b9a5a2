/-
# The compact text of JSON values

Nothing is written between tokens. In strings only the quote, the backslash and control characters
are escaped; every other character stands for itself. A floating point number is its shortest
decimal, positional from `1e-5` up to `1e16` and with an exponent elsewhere.
-/

import Refetch.Double.Shortest
import Refetch.Json

namespace Refetch

/-- Numbers keep a point, and are positional with a leading digit at `10 ^ -5` to `10 ^ 15`; a tie
goes to the even digit. -/
def Double.Layout.json : Double.Layout where
  positional leading := -5 ≤ leading && leading ≤ 15
  keepPoint := true
  tie := .toEven

def Number.text : Number → String
  | .int n => toString n
  | .float x => x.text .json

namespace Json

/-- The hexadecimal digit of a number below 16, in lower case. -/
def hexDigit (n : Nat) : Char := if n < 10 then Char.ofNat (48 + n) else Char.ofNat (87 + n)

/-- A character as it stands inside a quoted string. -/
def escapeChar (c : Char) : List Char :=
  if c = '"' then ['\\', '"']
  else if c = '\\' then ['\\', '\\']
  else if c = '\x08' then ['\\', 'b']
  else if c = '\t' then ['\\', 't']
  else if c = '\n' then ['\\', 'n']
  else if c = '\x0c' then ['\\', 'f']
  else if c = '\r' then ['\\', 'r']
  else if c.toNat < 32 then
    ['\\', 'u', '0', '0', hexDigit (c.toNat / 16), hexDigit (c.toNat % 16)]
  else [c]

def quote (s : String) : List Char := '"' :: (s.toList.flatMap escapeChar ++ ['"'])

mutual

/-- The characters of a value. -/
def chars : Json → List Char
  | .null => ['n', 'u', 'l', 'l']
  | .bool true => ['t', 'r', 'u', 'e']
  | .bool false => ['f', 'a', 'l', 's', 'e']
  | .num n => n.text.toList
  | .str s => quote s
  | .arr items => '[' :: itemChars items
  | .obj members => '{' :: memberChars members

/-- The characters of the items of an array, up to its end. -/
def itemChars : List Json → List Char
  | [] => [']']
  | [v] => chars v ++ [']']
  | v :: rest => chars v ++ ',' :: itemChars rest

/-- The characters of the members of an object, up to its end. -/
def memberChars : List (String × Json) → List Char
  | [] => ['}']
  | [(name, v)] => quote name ++ ':' :: (chars v ++ ['}'])
  | (name, v) :: rest => quote name ++ ':' :: (chars v ++ ',' :: memberChars rest)

end

def compact (v : Json) : String := String.ofList v.chars

end Json

end Refetch
