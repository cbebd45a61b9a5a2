/-
# Strict reading of JSON text

Blanks are space, tab, line feed and carriage return only; strings hold no raw control characters
and no lone surrogates; numbers too large to be finite are refused; values nest at most 127
levels deep; nothing but blanks may follow the value. An integer outside `-2 ^ 63 … 2 ^ 64 - 1`, and
`-0`, is floating point. The reader only says whether a text is JSON, not why it is not.
-/

import Refetch.Json

namespace Refetch.Json.Reader

def skipBlank : List Char → List Char
  | c :: rest => if c = ' ' ∨ c = '\t' ∨ c = '\n' ∨ c = '\r' then skipBlank rest else c :: rest
  | [] => []

/-- The value of a decimal digit. -/
def digit? (c : Char) : Option Nat :=
  if '0' ≤ c ∧ c ≤ '9' then some (c.toNat - 48) else none

/-- The value of a hexadecimal digit of either case. -/
def hex? (c : Char) : Option Nat :=
  if '0' ≤ c ∧ c ≤ '9' then some (c.toNat - 48)
  else if 'a' ≤ c ∧ c ≤ 'f' then some (c.toNat - 87)
  else if 'A' ≤ c ∧ c ≤ 'F' then some (c.toNat - 55)
  else none

/-- The leading decimal digits and what follows them. -/
def spanDigits : List Char → List Nat × List Char
  | [] => ([], [])
  | c :: rest => match digit? c with
    | some d => let (ds, tail) := spanDigits rest; (d :: ds, tail)
    | none => ([], c :: rest)

/-- Four hexadecimal digits. -/
def hex4? : List Char → Option (Nat × List Char)
  | a :: b :: c :: d :: rest => do
    let a ← hex? a
    let b ← hex? b
    let c ← hex? c
    let d ← hex? d
    return (((a * 16 + b) * 16 + c) * 16 + d, rest)
  | _ => none

/-- The character after `\u`: four digits, or two surrogates written one after the other. -/
def unicode? (text : List Char) : Option (Char × List Char) := do
  let (high, rest) ← hex4? text
  if 0xDC00 ≤ high ∧ high ≤ 0xDFFF then none
  else if 0xD800 ≤ high ∧ high ≤ 0xDBFF then
    match rest with
    | '\\' :: 'u' :: rest =>
      let (low, rest) ← hex4? rest
      if 0xDC00 ≤ low ∧ low ≤ 0xDFFF then
        return (Char.ofNat (0x10000 + (high - 0xD800) * 0x400 + (low - 0xDC00)), rest)
      else none
    | _ => none
  else return (Char.ofNat high, rest)

/-- The character after a backslash. -/
def escape? : List Char → Option (Char × List Char)
  | '"' :: rest => some ('"', rest)
  | '\\' :: rest => some ('\\', rest)
  | '/' :: rest => some ('/', rest)
  | 'b' :: rest => some ('\x08', rest)
  | 'f' :: rest => some ('\x0c', rest)
  | 'n' :: rest => some ('\n', rest)
  | 'r' :: rest => some ('\r', rest)
  | 't' :: rest => some ('\t', rest)
  | 'u' :: rest => unicode? rest
  | _ => none

/-- The rest of a string after its opening quote, the characters read so far held in reverse. -/
def stringTail? : Nat → List Char → List Char → Option (String × List Char)
  | 0, _, _ => none
  | fuel + 1, done, text => match text with
    | [] => none
    | '"' :: rest => some (String.ofList done.reverse, rest)
    | '\\' :: rest => (escape? rest).bind fun (c, rest) => stringTail? fuel (c :: done) rest
    | c :: rest => if c.toNat < 32 then none else stringTail? fuel (c :: done) rest

/-- Digits as a 64 bit significand: once the next digit would overflow it and all later ones are
left out. The second part counts the digits left out. -/
def significand (start : Nat) (digits : List Nat) : Nat × Nat :=
  digits.foldl (fun (value, dropped) d =>
    if dropped = 0 ∧ value * 10 + d < UInt64.size then (value * 10 + d, 0)
    else (value, dropped + 1)) (start, 0)

/-- An exponent after its `e`: a sign and at least one digit. Exponents beyond 31 bits are cut
off, which no finite result depends on. -/
def exponent? (text : List Char) : Option (Int × List Char) :=
  let (negative, text) := match text with
    | '-' :: rest => (true, rest)
    | '+' :: rest => (false, rest)
    | _ => (false, text)
  match spanDigits text with
  | ([], _) => none
  | (digits, rest) =>
    let value : Nat := digits.foldl (fun v d => min (v * 10 + d) 2147483648) 0
    some (if negative then -(value : Int) else (value : Int), rest)

/-- A number, from its first digit or minus sign on. -/
def number? (text : List Char) : Option (Number × List Char) := do
  let (negative, text) := match text with
    | '-' :: rest => (true, rest)
    | _ => (false, text)
  let (whole, rest) := spanDigits text
  match whole with
  | [] => none
  | 0 :: _ :: _ => none
  | _ =>
    let (value, dropped) := significand 0 whole
    match rest with
    | '.' :: rest =>
      let (fraction, rest) := spanDigits rest
      if fraction.isEmpty then none else
      let (value, skipped) := significand value fraction
      let power : Int := (dropped : Int) - ((fraction.length - skipped : Nat) : Int)
      match rest with
      | 'e' :: rest | 'E' :: rest =>
        let (e, rest) ← exponent? rest
        return (.float (← Double.ofScaled negative value (power + e)), rest)
      | _ => return (.float (← Double.ofScaled negative value power), rest)
    | 'e' :: rest | 'E' :: rest =>
      let (e, rest) ← exponent? rest
      return (.float (← Double.ofScaled negative value ((dropped : Int) + e)), rest)
    | _ =>
      if dropped ≠ 0 then return (.float (← Double.ofScaled negative value dropped), rest)
      else if negative ∧ (value = 0 ∨ 9223372036854775808 < value) then
        return (.float (← Double.ofScaled true value 0), rest)
      else return (.int (if negative then -(value : Int) else value), rest)

mutual

/-- A value; `depth` containers may still be opened. -/
def value? : Nat → Nat → List Char → Option (Json × List Char)
  | 0, _, _ => none
  | fuel + 1, depth, text => match skipBlank text with
    | 'n' :: 'u' :: 'l' :: 'l' :: rest => some (.null, rest)
    | 't' :: 'r' :: 'u' :: 'e' :: rest => some (.bool true, rest)
    | 'f' :: 'a' :: 'l' :: 's' :: 'e' :: rest => some (.bool false, rest)
    | '"' :: rest => (stringTail? (rest.length + 1) [] rest).map fun (s, rest) => (.str s, rest)
    | '[' :: rest =>
      if depth = 0 then none else
      match skipBlank rest with
      | ']' :: rest => some (.arr [], rest)
      | rest => (items? fuel (depth - 1) rest).map fun (vs, rest) => (.arr vs, rest)
    | '{' :: rest =>
      if depth = 0 then none else
      match skipBlank rest with
      | '}' :: rest => some (.obj [], rest)
      | rest => (members? fuel (depth - 1) rest).map fun (ms, rest) => (.object ms, rest)
    | text => (number? text).map fun (n, rest) => (.num n, rest)

/-- The items of an array, through its closing bracket. -/
def items? : Nat → Nat → List Char → Option (List Json × List Char)
  | 0, _, _ => none
  | fuel + 1, depth, text => do
    let (v, rest) ← value? fuel depth text
    match skipBlank rest with
    | ',' :: rest =>
      let (vs, rest) ← items? fuel depth rest
      return (v :: vs, rest)
    | ']' :: rest => return ([v], rest)
    | _ => none

/-- The members of an object, through its closing brace. -/
def members? : Nat → Nat → List Char → Option (List (String × Json) × List Char)
  | 0, _, _ => none
  | fuel + 1, depth, text => do
    match skipBlank text with
    | '"' :: rest =>
      let (name, rest) ← stringTail? (rest.length + 1) [] rest
      match skipBlank rest with
      | ':' :: rest =>
        let (v, rest) ← value? fuel depth rest
        match skipBlank rest with
        | ',' :: rest =>
          let (ms, rest) ← members? fuel depth rest
          return ((name, v) :: ms, rest)
        | '}' :: rest => return ([(name, v)], rest)
        | _ => none
      | _ => none
    | _ => none

end

end Refetch.Json.Reader

namespace Refetch.Json

/-- The deepest nesting of containers that is read. -/
def maxDepth : Nat := 127

/-- The value a text holds, if the whole text is JSON. Every recursive step consumes a character,
so twice the length of the text is more than enough steps. -/
def parse? (text : String) : Option Json :=
  let chars := text.toList
  match Reader.value? (2 * chars.length + 2) maxDepth chars with
  | some (v, rest) => if (Reader.skipBlank rest).isEmpty then some v else none
  | none => none

end Refetch.Json
