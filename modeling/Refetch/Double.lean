/-
# Finite binary64 numbers

A number is a sign, a significand below `2 ^ 53` and a power of two. Every operation is exact
arithmetic on naturals followed by one rounding to the nearest number, ties to the even
significand, so results do not depend on the machine. Numbers beyond the largest finite one are
reported as `none`.
-/

namespace Refetch

/-- The finite binary64 number `(-1) ^ negative * significand * 2 ^ exponent`. -/
structure Double where
  negative : Bool
  significand : Nat
  exponent : Int
  deriving DecidableEq, Repr, Inhabited

namespace Double

/-- The exponent of the subnormal numbers, the smallest there is. -/
def minExponent : Int := -1074

/-- The exponent of the largest finite numbers. -/
def maxExponent : Int := 971

/-- Zero of either sign. -/
def zero (negative : Bool) : Double := ⟨negative, 0, minExponent⟩

/-- Is the number zero, of either sign. -/
def isZero (x : Double) : Bool := x.significand == 0

/-- The number with the other sign. -/
def neg (x : Double) : Double := { x with negative := !x.negative }

/-- The fraction `num / den * 2 ^ (-e)` as a pair of naturals. -/
def scale (num den : Nat) (e : Int) : Nat × Nat :=
  if 0 ≤ e then (num, den * Nat.pow 2 e.toNat) else (num * Nat.pow 2 (-e).toNat, den)

/-- The quotient rounded to the nearest natural, ties to the even one. -/
def roundHalfEven (num den : Nat) : Nat :=
  let quotient := num / den
  let rest := num % den
  if 2 * rest < den then quotient
  else if den < 2 * rest then quotient + 1
  else quotient + quotient % 2

/-- The power of two at which `num / den` has a significand of 53 binary digits, or the exponent
of the subnormal numbers if that is larger. -/
def exponentOf (num den : Nat) : Int :=
  let guess : Int := (num.log2 : Int) - (den.log2 : Int) - 52
  let (n, d) := scale num den guess
  let exact := if n / d < Nat.pow 2 52 then guess - 1 else guess
  max exact minExponent

/-- The number nearest to `± num / den`; `none` if it is too large to be finite. -/
def ofRatio (negative : Bool) (num den : Nat) : Option Double :=
  if num = 0 ∨ den = 0 then some (zero negative) else
  let e := exponentOf num den
  let (n, d) := scale num den e
  let m := roundHalfEven n d
  let (m, e) := if m = Nat.pow 2 53 then (Nat.pow 2 52, e + 1) else (m, e)
  if maxExponent < e then none else some ⟨negative, m, e⟩

/-- The magnitude as a fraction of naturals. -/
def ratio (x : Double) : Nat × Nat :=
  if 0 ≤ x.exponent then (x.significand * Nat.pow 2 x.exponent.toNat, 1)
  else (x.significand, Nat.pow 2 (-x.exponent).toNat)

/-- The number nearest to a natural. -/
def ofNat? (n : Nat) : Option Double := ofRatio false n 1

/-- The rounded product. -/
def mul (x y : Double) : Option Double :=
  let (a, b) := x.ratio
  let (c, d) := y.ratio
  ofRatio (x.negative != y.negative) (a * c) (b * d)

/-- The rounded quotient by a number other than zero. -/
def div (x y : Double) : Option Double :=
  let (a, b) := x.ratio
  let (c, d) := y.ratio
  ofRatio (x.negative != y.negative) (a * d) (b * c)

/-- The number nearest to `10 ^ k`, for `k` up to 308. -/
def powerOfTen (k : Nat) : Double := (ofNat? (Nat.pow 10 k)).getD (zero false)

/-- The number nearest to `± digits * 10 ^ k`, rounded once. -/
def ofDecimal (negative : Bool) (digits : Nat) (k : Int) : Option Double :=
  if digits = 0 then some (zero negative)
  else if 400 < k then none
  else if k < -1200 - (digits.log2 : Int) then some (zero negative)
  else if 0 ≤ k then ofRatio negative (digits * Nat.pow 10 k.toNat) 1
  else ofRatio negative digits (Nat.pow 10 (-k).toNat)

/-- Divides by `10 ^ 308` while the power of ten left is below `-308`, then by the rest. Each
division rounds, and a number that has become zero stays zero. -/
def divPowers : Nat → Double → Nat → Option Double
  | 0, x, _ => some x
  | fuel + 1, x, k =>
    if k ≤ 308 then x.div (powerOfTen k)
    else if x.isZero then some x
    else (x.div (powerOfTen 308)).bind fun y => divPowers fuel y (k - 308)

/-- The number written `± digits * 10 ^ k`, computed by one multiplication or by divisions in
binary64 arithmetic. Faster than `ofDecimal` and at times one unit off in the last place.
Refused if it is too large to be finite. -/
def ofScaled (negative : Bool) (digits : Nat) (k : Int) : Option Double :=
  (ofNat? digits).bind fun x =>
    let magnitude :=
      if 0 ≤ k then
        if x.isZero then some x
        else if k ≤ 308 then x.mul (powerOfTen k.toNat) else none
      else divPowers 8 x (-k).toNat
    magnitude.map fun y => { y with negative := negative }

end Double

end Refetch
