import TenantWork.Number.Double
/-!
The shortest decimal that reads back as a given double. Grids of 1, 2, … 17 digits are tried in
turn, and on each the two neighbours of the value; the first grid with a neighbour between the
halfway points to the next doubles wins. Of two such neighbours the nearer is taken, on a tie the
even one.
-/
namespace TenantWork.Number

/-- The value `digits * 10 ^ exponent`. -/
structure Decimal where
  digits : Nat
  exponent : Int
deriving DecidableEq, Repr

namespace Double

/-- `x * 2 ^ two / 10 ^ ten` as a ratio of natural numbers. -/
def onGrid (two ten : Int) (x : Nat) : Nat × Nat :=
  let (top, bottom) : Nat × Nat := match two with
    | .ofNat up => (x * pow2 up, 1)
    | .negSucc down => (x, pow2 (down + 1))
  match ten with
  | .ofNat up => (top, bottom * pow10 up)
  | .negSucc down => (top * pow10 (down + 1), bottom)

/-- The neighbour on the grid `10 ^ ten` that reads back, if there is one. -/
def neighbourOn (a : Double) (ten : Int) : Option Decimal :=
  let value := 4 * a.significand
  let narrow : Bool := a.significand == leastNormal && decide (leastExponent < a.exponent)
  let fine := onGrid (a.exponent - 2) ten
  let (middle, unit) := fine value
  let (low, _) := fine (value - if narrow then 1 else 2)
  let (high, _) := fine (value + 2)
  let closed := a.significand % 2 == 0
  let within (candidate : Nat) : Bool :=
    let point := candidate * unit
    if closed then decide (low ≤ point) && decide (point ≤ high)
    else decide (low < point) && decide (point < high)
  let below := middle / unit
  let above := below + 1
  match within below, within above with
  | true, false => some ⟨below, ten⟩
  | false, true => some ⟨above, ten⟩
  | true, true =>
    let down := middle - below * unit
    let up := above * unit - middle
    some ⟨if down < up then below else if up < down then above
      else if below % 2 = 0 then below else above, ten⟩
  | false, false => none

/-- The place of the leading decimal digit of `n / d`: the power of ten at or below it. -/
def leadingPlace (n d : Nat) : Int :=
  if d ≤ n then (Nat.toDigits 10 (n / d)).length - 1
  else -((Nat.toDigits 10 ((d - 1) / n)).length : Int)

/-- A neighbour above the grid's greatest point is the next power of ten, written as one. -/
def withoutLastZero (value : Decimal) : Decimal :=
  if value.digits % 10 = 0 then ⟨value.digits / 10, value.exponent + 1⟩ else value

def shortest (a : Double) : Decimal :=
  if a.significand = 0 then ⟨0, 0⟩
  else
    let place := leadingPlace a.ratio.1 a.ratio.2
    withoutLastZero <|
      ((List.range 17).findSome? fun (n : Nat) => a.neighbourOn (place - n)).getD ⟨0, 0⟩

def zeros (n : Nat) : List Char := List.replicate n '0'

def exponentText : Int → List Char
  | .ofNat up => '+' :: Nat.toDigits 10 up
  | .negSucc down => '-' :: Nat.toDigits 10 (down + 1)

/-- Positional text from `10 ^ -5` up to below `10 ^ 16`, with at least one place after the point;
otherwise a leading digit, the others after a point, and a signed power of ten. -/
def magnitudeText (value : Decimal) : List Char :=
  let digits := Nat.toDigits 10 value.digits
  let leading : Int := digits.length + value.exponent - 1
  if value.digits = 0 then ['0', '.', '0']
  else if -5 ≤ leading ∧ leading < 16 then
    match value.exponent with
    | .ofNat up => digits ++ zeros up ++ ['.', '0']
    | .negSucc down =>
      let places := down + 1
      if places < digits.length then
        digits.take (digits.length - places) ++ '.' :: digits.drop (digits.length - places)
      else '0' :: '.' :: zeros (places - digits.length) ++ digits
  else
    match digits with
    | [only] => only :: 'e' :: exponentText leading
    | first :: rest => first :: '.' :: rest ++ 'e' :: exponentText leading
    | [] => []

/-- The text of a double: a minus sign if it is negative, then its shortest decimal. -/
def text (a : Double) : List Char :=
  (if a.negative then ['-'] else []) ++ magnitudeText a.shortest

end Double

end TenantWork.Number
