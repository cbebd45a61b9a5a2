/-
# Reading a finite binary64 number from decimal text

The text is an optional sign, digits with an optional point among them, and an optional exponent;
the result is the number nearest to that decimal.
-/

import Refetch.Double

namespace Refetch.Double

/-- The leading decimal digits and what follows them. -/
def takeDigits : List Char → List Nat × List Char
  | [] => ([], [])
  | c :: rest =>
    if c.isDigit then
      let (ds, tail) := takeDigits rest
      ((c.toNat - 48) :: ds, tail)
    else ([], c :: rest)

/-- The natural written by the digits. -/
def naturalOf (digits : List Nat) : Nat := digits.foldl (fun n d => n * 10 + d) 0

/-- A sign in front of a text: is it a minus, and the text after it. -/
def takeSign : List Char → Bool × List Char
  | '-' :: rest => (true, rest)
  | '+' :: rest => (false, rest)
  | text => (false, text)

/-- The exponent after the digits of a decimal; nothing at all is the exponent zero. -/
def exponentOf? : List Char → Option Int
  | [] => some 0
  | c :: rest =>
    if c = 'e' ∨ c = 'E' then
      let (negative, text) := takeSign rest
      match takeDigits text with
      | (d :: ds, []) =>
        let n := naturalOf (d :: ds)
        some (if negative then -(n : Int) else n)
      | _ => none
    else none

/-- The number nearest to the decimal a text holds; `none` if it holds none, or a number too large
to be finite. -/
def ofText? (text : String) : Option Double :=
  let (negative, rest) := takeSign text.toList
  let (whole, rest) := takeDigits rest
  let (fraction, rest) := match rest with
    | '.' :: rest => takeDigits rest
    | _ => ([], rest)
  if whole.isEmpty && fraction.isEmpty then none
  else (exponentOf? rest).bind fun e =>
    ofDecimal negative (naturalOf (whole ++ fraction)) (e - fraction.length)

end Refetch.Double
