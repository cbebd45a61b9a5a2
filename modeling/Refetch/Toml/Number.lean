/-
# Numbers and points in time in TOML documents

Underscores may separate digits. Integers have 64 bits and may be hexadecimal, octal or binary;
dates follow the calendar.
-/

import Refetch.Double.Reader
import Refetch.Toml
import Refetch.Toml.Text

namespace Refetch.Toml.Reader

/-- Digits after the first one, single underscores between them left out. -/
def moreDigits (isDigit : Char → Bool) : List Char → List Char × List Char
  | [] => ([], [])
  | '_' :: c :: rest =>
    if isDigit c then
      let (digits, tail) := moreDigits isDigit rest
      (c :: digits, tail)
    else ([], '_' :: c :: rest)
  | c :: rest =>
    if isDigit c then
      let (digits, tail) := moreDigits isDigit rest
      (c :: digits, tail)
    else ([], c :: rest)

/-- Digits, at least one, with single underscores between them. -/
def digits? (isDigit : Char → Bool) : List Char → Option (List Char × List Char)
  | [] => none
  | c :: rest =>
    if isDigit c then
      let (digits, tail) := moreDigits isDigit rest
      some (c :: digits, tail)
    else none

/-- The digits of a decimal integer. None follow a leading zero. -/
def whole? : List Char → Option (List Char × List Char)
  | '0' :: rest => some (['0'], rest)
  | text => digits? Char.isDigit text

/-- A sign, if there is one. -/
def sign : List Char → List Char × List Char
  | '+' :: rest => (['+'], rest)
  | '-' :: rest => (['-'], rest)
  | text => ([], text)

/-- The natural that digits of a base write. -/
def naturalOf (base : Nat) (digits : List Char) : Nat :=
  digits.foldl (fun n c => n * base + (hex? c).getD 0) 0

/-- An integer of 64 bits with a sign. -/
def bounded? (n : Int) : Option Toml :=
  if -9223372036854775808 ≤ n ∧ n < 9223372036854775808 then some (.integer n) else none

/-- An integer in the given base, after the letters that announce it. -/
def based? (base : Nat) (text : List Char) : Option (Toml × List Char) := do
  let (digits, rest) ← digits? (fun c => (hex? c).any (· < base)) text
  return (← bounded? (naturalOf base digits), rest)

def integer? : List Char → Option (Toml × List Char)
  | '0' :: 'x' :: rest => based? 16 rest
  | '0' :: 'o' :: rest => based? 8 rest
  | '0' :: 'b' :: rest => based? 2 rest
  | text => do
    let (sign, rest) := sign text
    let (digits, rest) ← whole? rest
    let n : Int := naturalOf 10 digits
    return (← bounded? (if sign = ['-'] then -n else n), rest)

/-- The exponent of a floating point number, if there is one. -/
def exponent? : List Char → Option (List Char × List Char)
  | c :: rest =>
    if c = 'e' ∨ c = 'E' then do
      let (sign, rest) := sign rest
      let (digits, rest) ← digits? Char.isDigit rest
      return ('e' :: sign ++ digits, rest)
    else some ([], c :: rest)
  | [] => some ([], [])

/-- The fraction of a floating point number, if there is one. -/
def fraction? : List Char → Option (List Char × List Char)
  | '.' :: rest => do
    let (digits, rest) ← digits? Char.isDigit rest
    return ('.' :: digits, rest)
  | text => some ([], text)

/-- A floating point number with a fraction, an exponent or both. Above the largest finite one
only negative ones are read. -/
def decimal? (text : List Char) : Option (Toml × List Char) := do
  let (sign, rest) := sign text
  let (whole, rest) ← whole? rest
  let (fraction, rest) ← fraction? rest
  let (exponent, rest) ← exponent? rest
  if fraction.isEmpty && exponent.isEmpty then none
  match Double.ofText? (String.ofList (sign ++ whole ++ fraction ++ exponent)) with
  | some x => return (.float (some x), rest)
  | none => if sign = ['-'] then return (.float none, rest) else none

/-- Infinity or not a number. -/
def special? (text : List Char) : Option (Toml × List Char) :=
  match (sign text).2 with
  | 'i' :: 'n' :: 'f' :: rest => some (.float none, rest)
  | 'n' :: 'a' :: 'n' :: rest => some (.float none, rest)
  | _ => none

/-- A natural below the bound, written with so many digits. -/
def fixed? (count bound : Nat) (text : List Char) : Option (Nat × List Char) :=
  let digits := text.take count
  if digits.length = count && digits.all Char.isDigit && naturalOf 10 digits < bound then
    some (naturalOf 10 digits, text.drop count)
  else none

/-- The text after a character that must come next. -/
def expect? (c : Char) : List Char → Option (List Char)
  | d :: rest => if d = c then some rest else none
  | [] => none

def daysIn (year month : Nat) : Nat :=
  if month = 2 then
    if year % 4 = 0 ∧ (year % 100 ≠ 0 ∨ year % 400 = 0) then 29 else 28
  else if month ∈ [4, 6, 9, 11] then 30 else 31

def date? (text : List Char) : Option (List Char) := do
  let (year, rest) ← fixed? 4 10000 text
  let rest ← expect? '-' rest
  let (month, rest) ← fixed? 2 13 rest
  let rest ← expect? '-' rest
  let (day, rest) ← fixed? 2 32 rest
  if 1 ≤ month ∧ 1 ≤ day ∧ day ≤ daysIn year month then some rest else none

/-- The fraction of a second, if there is one. -/
def secondFraction? : List Char → Option (List Char)
  | '.' :: c :: rest => if c.isDigit then some (rest.dropWhile Char.isDigit) else none
  | '.' :: [] => none
  | text => some text

/-- A time of day. -/
def time? (text : List Char) : Option (List Char) := do
  let (_, rest) ← fixed? 2 24 text
  let rest ← expect? ':' rest
  let (_, rest) ← fixed? 2 60 rest
  let rest ← expect? ':' rest
  let (_, rest) ← fixed? 2 61 rest
  secondFraction? rest

/-- The distance from universal time, if there is one. -/
def offset? : List Char → Option (List Char)
  | [] => some []
  | c :: rest =>
    if c = 'Z' ∨ c = 'z' then some rest
    else if c = '+' ∨ c = '-' then do
      let (_, rest) ← fixed? 2 24 rest
      let rest ← expect? ':' rest
      let (_, rest) ← fixed? 2 60 rest
      return rest
    else some (c :: rest)

/-- A date, a time of day or both. A time after a date begins after a `T` or one space. -/
def moment? (text : List Char) : Option (Toml × List Char) :=
  match date? text with
  | some rest => match rest with
    | c :: after =>
      if c = 'T' ∨ c = 't' ∨ c = ' ' then match time? after with
        | some after => (offset? after).map (.moment, ·)
        | none => some (.moment, rest)
      else some (.moment, rest)
    | [] => some (.moment, [])
  | none => (time? text).map (.moment, ·)

end Refetch.Toml.Reader
