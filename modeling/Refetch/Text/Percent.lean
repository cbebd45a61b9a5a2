/-
# Percent-encoding

A text is encoded byte by byte. ASCII letters, digits and `-`, `_`, `.`, `~` stand for themselves;
every other byte of the UTF-8 form is written as a percent sign and two upper case hexadecimal
digits.
-/

namespace Refetch.Text

/-- Does the byte stand for itself. -/
def isUnreserved (b : UInt8) : Bool :=
  (48 ≤ b && b ≤ 57) || (65 ≤ b && b ≤ 90) || (97 ≤ b && b ≤ 122)
    || b == 45 || b == 95 || b == 46 || b == 126

/-- The hexadecimal digit of a number below 16, in upper case. -/
def upperHexDigit (n : Nat) : Char :=
  if n < 10 then Char.ofNat (48 + n) else Char.ofNat (55 + n)

/-- A byte as a percent sign and two hexadecimal digits. -/
def percentByte (b : UInt8) : List Char :=
  ['%', upperHexDigit (b.toNat / 16), upperHexDigit (b.toNat % 16)]

/-- The encoded form of a byte. -/
def encodeByte (b : UInt8) : List Char :=
  if isUnreserved b then [Char.ofNat b.toNat] else percentByte b

def utf8Bytes (s : String) : List UInt8 := s.toUTF8.data.toList

def percentEncode (s : String) : String := String.ofList ((utf8Bytes s).flatMap encodeByte)

end Refetch.Text
