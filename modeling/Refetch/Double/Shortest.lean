/-
# The shortest decimal text of a finite binary64 number

Among the decimals that read back as the same number, the one with the fewest digits is chosen,
and of several such the nearest; a `Tie` decides between two that are equally near. `shortest` finds
the digits in exact arithmetic; a `Layout` says how they are written down.
-/

import Refetch.Double

namespace Refetch.Double

/-- Which of two decimals is taken if a number is halfway between them. -/
inductive Tie where
  /-- The one whose last digit is even. -/
  | toEven
  /-- The one that is larger in magnitude. -/
  | away
  deriving DecidableEq, Repr

/-- Does a number halfway above these digits keep them. -/
def Tie.keeps : Tie → Nat → Bool
  | .toEven, digits => digits % 2 == 0
  | .away, _ => false

/-- A positive decimal `digits * 10 ^ power`. -/
structure Decimal where
  digits : Nat
  power : Int
  deriving DecidableEq, Repr

/-- The decimal digits of a natural, most significant first. -/
def digitChars (n : Nat) : List Char := Nat.toDigits 10 n

/-- The power of ten of the leading digit of a number other than zero. -/
def leadingPower (x : Double) : Int :=
  let (num, den) := x.ratio
  ((digitChars (num * Nat.pow 10 350 / den)).length : Int) - 351

/-- The ends of the interval of reals that round to `x`, and `x` itself, in quarters of its unit
in the last place. -/
def interval (x : Double) : Nat × Nat × Nat :=
  let v := 4 * x.significand
  let below := if x.significand = Nat.pow 2 52 ∧ minExponent < x.exponent then v - 1 else v - 2
  (below, v, v + 2)

/-- Compares `a * 2 ^ (e - 2)` with `d * 10 ^ p`. -/
def compareDecimal (a : Nat) (e : Int) (d : Nat) (p : Int) : Ordering :=
  let (num, den) := scale a 1 (-(e - 2))
  if 0 ≤ p then compare num (d * Nat.pow 10 p.toNat * den)
  else compare (num * Nat.pow 10 (-p).toNat) (d * den)

/-- Does the decimal round to `x`: it lies inside the interval, or on an end of it and the
significand is even. -/
def readsBack (x : Double) (c : Decimal) : Bool :=
  let (low, _, high) := x.interval
  let even := x.significand % 2 == 0
  let above := match compareDecimal low x.exponent c.digits c.power with
    | .lt => true | .eq => even | .gt => false
  let under := match compareDecimal high x.exponent c.digits c.power with
    | .gt => true | .eq => even | .lt => false
  above && under

/-- The two neighbours of `x` on the grid of multiples of `10 ^ p`, the nearer one first. -/
def neighbours (tie : Tie) (x : Double) (p : Int) : List Decimal :=
  let (num, den) := x.ratio
  let (n, d) :=
    if 0 ≤ p then (num, den * Nat.pow 10 p.toNat) else (num * Nat.pow 10 (-p).toNat, den)
  let down : Decimal := ⟨n / d, p⟩
  let up : Decimal := ⟨n / d + 1, p⟩
  let rest := 2 * (n % d)
  if rest < d ∨ (rest = d ∧ tie.keeps down.digits) then [down, up] else [up, down]

/-- The first decimal that reads back, on grids of one digit, two digits and so on. -/
def search (tie : Tie) (x : Double) (top : Int) : Nat → Nat → Decimal
  | 0, n => (x.neighbours tie (top - n)).headD ⟨0, 0⟩
  | left + 1, n =>
    match (x.neighbours tie (top - n)).find? (x.readsBack ·) with
    | some c => c
    | none => search tie x top left (n + 1)

/-- Drops trailing zeros of the digits. -/
def Decimal.strip : Nat → Decimal → Decimal
  | 0, c => c
  | fuel + 1, c =>
    if c.digits % 10 = 0 ∧ 0 < c.digits then strip fuel ⟨c.digits / 10, c.power + 1⟩ else c

/-- The shortest decimal that reads back as the magnitude of a number other than zero. -/
def shortest (tie : Tie) (x : Double) : Decimal := (search tie x x.leadingPower 16 0).strip 20

/-- How a number is written down: which leading powers of ten are written positionally, whether a
positional number without a fraction keeps a `.0`, and which digits a tie gives. -/
structure Layout where
  positional : Int → Bool
  keepPoint : Bool
  tie : Tie

/-- Digits written positionally, `power` being that of the last digit. -/
def positionalText (keepPoint : Bool) (digits : List Char) (power : Int) : List Char :=
  let point := if keepPoint then ['.', '0'] else []
  if 0 ≤ power then digits ++ List.replicate power.toNat '0' ++ point
  else
    let places := (-power).toNat
    if places < digits.length then
      digits.take (digits.length - places) ++ '.' :: digits.drop (digits.length - places)
    else '0' :: '.' :: (List.replicate (places - digits.length) '0' ++ digits)

/-- Digits written with one digit before the point and the power of ten of that digit. -/
def exponentText (digits : List Char) (leading : Int) : List Char :=
  let head := match digits with
    | [] => []
    | [d] => [d]
    | d :: rest => d :: '.' :: rest
  let sign := if leading < 0 then '-' else '+'
  head ++ 'e' :: sign :: digitChars leading.natAbs

def text (layout : Layout) (x : Double) : String :=
  let sign := if x.negative then ['-'] else []
  if x.isZero then
    String.ofList (sign ++ '0' :: if layout.keepPoint then ['.', '0'] else [])
  else
    let c := x.shortest layout.tie
    let digits := digitChars c.digits
    let leading := c.power + digits.length - 1
    String.ofList <| sign ++
      if layout.positional leading then positionalText layout.keepPoint digits c.power
      else exponentText digits leading

/-- Every number positionally, without a superfluous point; a tie goes away from zero. -/
def Layout.plain : Layout := ⟨fun _ => true, false, .away⟩

end Refetch.Double
