/-
# Reading bytes as UTF-8 when some of them may be wrong

Where the bytes are no UTF-8, the longest run that begins a character, or else a single byte, is
read as one replacement character.
-/

namespace Refetch.Text

/-- What stands for bytes that are no UTF-8. -/
def replacement : Char := '\ufffd'

/-- A character of which some bytes are missing. -/
structure Unfinished where
  /-- How many bytes are missing. -/
  missing : Nat
  /-- The range of the next byte. -/
  low : Nat
  high : Nat
  /-- The number that the bytes so far make up. -/
  value : Nat
  deriving DecidableEq, Repr

/-- A byte that begins a character: what it stands for at once, and what it leaves unfinished. -/
def firstByte (b : Nat) : List Char × Option Unfinished :=
  if b < 0x80 then ([Char.ofNat b], none)
  else if 0xC2 ≤ b ∧ b ≤ 0xDF then ([], some ⟨1, 0x80, 0xBF, b % 0x20⟩)
  else if b = 0xE0 then ([], some ⟨2, 0xA0, 0xBF, b % 0x10⟩)
  else if b = 0xED then ([], some ⟨2, 0x80, 0x9F, b % 0x10⟩)
  else if 0xE1 ≤ b ∧ b ≤ 0xEF then ([], some ⟨2, 0x80, 0xBF, b % 0x10⟩)
  else if b = 0xF0 then ([], some ⟨3, 0x90, 0xBF, b % 0x08⟩)
  else if b = 0xF4 then ([], some ⟨3, 0x80, 0x8F, b % 0x08⟩)
  else if 0xF1 ≤ b ∧ b ≤ 0xF3 then ([], some ⟨3, 0x80, 0xBF, b % 0x08⟩)
  else ([replacement], none)

/-- A byte after an unfinished character: what it stands for, and what is left unfinished. -/
def nextByte (u : Unfinished) (b : Nat) : List Char × Option Unfinished :=
  if u.low ≤ b ∧ b ≤ u.high then
    let value := u.value * 0x40 + b % 0x40
    if u.missing ≤ 1 then ([Char.ofNat value], none)
    else ([], some ⟨u.missing - 1, 0x80, 0xBF, value⟩)
  else
    let (chars, unfinished) := firstByte b
    (replacement :: chars, unfinished)

/-- The characters of bytes that follow an unfinished one. -/
def decodeBytes : Option Unfinished → List UInt8 → List Char
  | none, [] => []
  | some _, [] => [replacement]
  | unfinished, b :: rest =>
    let (chars, unfinished) := match unfinished with
      | none => firstByte b.toNat
      | some u => nextByte u b.toNat
    chars ++ decodeBytes unfinished rest

/-- The text of bytes, with replacement characters where they are no UTF-8. -/
def ofBytesLossy (bytes : List UInt8) : String := String.ofList (decodeBytes none bytes)

end Refetch.Text
