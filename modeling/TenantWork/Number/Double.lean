import TenantWork.Number.Power
/-!
Finite binary64 numbers as exact values: a sign, a significand below 2^53 and a power of two that
is never below 2^-1074. Every operation computes the exact ratio and rounds it once, to the nearest
number and on a tie to the even significand. Results beyond the largest number are refused.
-/
namespace TenantWork.Number

/-- The number `significand * 2 ^ exponent`, with a sign that zero carries too. -/
structure Double where
  negative : Bool
  significand : Nat
  exponent : Int
deriving DecidableEq, Repr

namespace Double

def leastExponent : Int := -1074

def greatestExponent : Int := 971

/-- The least significand above the least exponent, `2 ^ 52`. -/
def leastNormal : Nat := 0x10000000000000

def zero (negative : Bool) : Double := ⟨negative, 0, leastExponent⟩

/-- Equal as numbers: the sign of zero does not count. -/
def same (a b : Double) : Bool :=
  a == b || (a.significand == 0 && b.significand == 0)

/-- `n / d` rounded to the nearest natural number, a tie to the even one. -/
def roundQuotient (n d : Nat) : Nat :=
  let quotient := n / d
  let twice := 2 * (n % d)
  if twice < d then quotient
  else if d < twice then quotient + 1
  else quotient + quotient % 2

/-- The two sides of `n / (d * 2 ^ exponent)` as natural numbers. -/
def scaled (n d : Nat) (exponent : Int) : Nat × Nat :=
  match exponent with
  | .ofNat up => (n, d * pow2 up)
  | .negSucc down => (n * pow2 (down + 1), d)

/-- The power of two on which `n / d` has a significand of 53 bits, or the least power. -/
def gridExponent (n d : Nat) : Int :=
  let guess : Int := (Nat.log2 n : Int) - (Nat.log2 d : Int) - 52
  let (top, bottom) := scaled n d guess
  max leastExponent (if top / bottom < leastNormal then guess - 1 else guess)

/-- The nearest number to `n / d`, or none when that lies beyond the largest one. -/
def ofRatio (negative : Bool) (n d : Nat) : Option Double :=
  if n = 0 then some (zero negative)
  else
    let exponent := gridExponent n d
    let (top, bottom) := scaled n d exponent
    let rounded := roundQuotient top bottom
    let (significand, exponent) :=
      if rounded = 2 * leastNormal then (leastNormal, exponent + 1) else (rounded, exponent)
    if exponent ≤ greatestExponent then
      some (if significand = 0 then zero negative else ⟨negative, significand, exponent⟩)
    else none

/-- The magnitude as a ratio of natural numbers. -/
def ratio (a : Double) : Nat × Nat :=
  match a.exponent with
  | .ofNat up => (a.significand * pow2 up, 1)
  | .negSucc down => (a.significand, pow2 (down + 1))

/-- The product of two magnitudes. -/
def times (a b : Double) : Option Double :=
  ofRatio false (a.ratio.1 * b.ratio.1) (a.ratio.2 * b.ratio.2)

/-- The quotient of two magnitudes. -/
def dividedBy (a b : Double) : Option Double :=
  ofRatio false (a.ratio.1 * b.ratio.2) (a.ratio.2 * b.ratio.1)

/-- The number nearest to a power of ten. -/
def tenTo (power : Nat) : Option Double := ofRatio false (pow10 power) 1

/-- A magnitude divided by a power of ten, both already rounded. -/
def overTenTo (a : Double) (power : Nat) : Option Double := do a.dividedBy (← tenTo power)

/-- Reads `significand * 10 ^ power`. The significand, the power of ten and their product or
quotient are each rounded, and a power below `10 ^ -308` is taken off in steps of 308 places; so
the result may lie next to the nearest number. None means a number too large. -/
def ofDecimal (negative : Bool) (significand : Nat) (power : Int) : Option Double := do
  let whole ← ofRatio false significand 1
  let magnitude ←
    match power with
    | .ofNat up =>
      if up ≤ 308 then do whole.times (← tenTo up)
      else if whole.significand = 0 then some whole
      else none
    | .negSucc down =>
      if down + 1 ≤ 308 then whole.overTenTo (down + 1)
      else if down + 1 ≤ 616 then do (← whole.overTenTo 308).overTenTo (down + 1 - 308)
      else some (zero false)
  return { magnitude with negative := negative }

end Double

end TenantWork.Number
