import TenantWork.Number.Shortest
import TenantWork.Number.Whole
/-!
Values in a table of the database. A column of texts turns the numbers it is given into texts, and
a column of whole numbers turns texts and doubles into whole numbers where nothing is lost.
-/
namespace TenantWork.Store

open Number (Double)

inductive Cell where
  | null
  | integer (value : Int)
  | real (value : Double)
  /-- A number beyond the greatest double. -/
  | infinite (negative : Bool)
  | text (value : String)
  | blob (bytes : List UInt8)
deriving DecidableEq, Repr

namespace Cell

def ofText? : Option String → Cell
  | some value => .text value
  | none => .null

def typeName : Cell → String
  | .null => "Null"
  | .integer _ => "Integer"
  | .real _ | .infinite _ => "Real"
  | .text _ => "Text"
  | .blob _ => "Blob"

/-! ## Doubles as texts -/

/-- The magnitude rounded to so many significant digits, a half going up. -/
def significant (places : Nat) (a : Double) : Number.Decimal :=
  let (n, d) := a.ratio
  if n = 0 then ⟨0, 0⟩
  else
    let unit : Int := Double.leadingPlace n d + 1 - places
    let (n, d) := match unit with
      | .ofNat up => (n, d * Number.pow10 up)
      | .negSucc down => (n * Number.pow10 (down + 1), d)
    ⟨(2 * n + d) / (2 * d), unit⟩

def dropZeros (digits : List Char) : List Char :=
  (digits.reverse.dropWhile (· == '0')).reverse

/-- A leading part, a point, and at least one place after it. -/
def pointed (whole places : List Char) : List Char :=
  whole ++ '.' :: (if (dropZeros places).isEmpty then ['0'] else dropZeros places)

def exponentText (n : Int) : List Char :=
  let digits := Nat.toDigits 10 n.natAbs
  'e' :: (if n < 0 then '-' else '+') :: (List.replicate (2 - digits.length) '0' ++ digits)

/-- At most fifteen digits: positional from `10 ^ -4` up to below `10 ^ 15`, otherwise with a power
of ten of at least two digits. -/
def realText (a : Double) : String :=
  let value := significant 15 a
  let digits := Nat.toDigits 10 value.digits
  let leading : Int := digits.length + value.exponent - 1
  let body :=
    if value.digits = 0 then ['0', '.', '0']
    else if leading < -4 ∨ 15 ≤ leading then
      pointed (digits.take 1) (digits.drop 1) ++ exponentText leading
    else if leading < 0 then
      pointed ['0'] (List.replicate (leading.natAbs - 1) '0' ++ digits)
    else
      let places := leading.toNat + 1
      pointed (digits.take places ++ List.replicate (places - digits.length) '0')
        (digits.drop places)
  String.ofList (if a.negative then '-' :: body else body)

/-! ## Numbers in texts -/

def isSpace (c : Char) : Bool := c == ' ' || (9 ≤ c.toNat && c.toNat ≤ 13)

/-- The magnitude of digits, a point with digits, and a power of ten. -/
def magnitude? (text : List Char) : Option (Nat × Int) :=
  let whole := text.takeWhile Char.isDigit
  let rest := text.dropWhile Char.isDigit
  let (places, rest) := match rest with
    | '.' :: after => (after.takeWhile Char.isDigit, after.dropWhile Char.isDigit)
    | _ => ([], rest)
  let digits := whole ++ places
  if digits.isEmpty then none
  else
    let n := Number.digitsValue digits
    match rest with
    | [] => some (n, -(places.length : Int))
    | c :: power =>
      if c == 'e' || c == 'E' then
        (Number.integer? (String.ofList power)).map fun p => (n, p - places.length)
      else none

/-- The whole number a double stands for, if it fits a word. -/
def whole? (a : Double) : Option Int :=
  let (n, d) := a.ratio
  let value : Int := if a.negative then -((n / d : Nat) : Int) else (n / d : Nat)
  if n % d = 0 ∧ value.natAbs < 0x7FFFFFFFFFFFFFFF then some value else none

def ofReal (a : Double) : Cell :=
  match whole? a with
  | some n => .integer n
  | none => .real a

/-- The number `n * 10 ^ power`. A power of ten beyond 400 places decides alone, since no double
reaches that far. -/
def ofDecimal (negative : Bool) (n : Nat) (power : Int) : Cell :=
  if n = 0 ∨ power + (Nat.toDigits 10 n).length < -400 then .integer 0
  else if 400 < power then .infinite negative
  else
    let ratio := match power with
      | .ofNat up => (n * Number.pow10 up, 1)
      | .negSucc down => (n, Number.pow10 (down + 1))
    match Double.ofRatio negative ratio.1 ratio.2 with
    | some a => ofReal a
    | none => .infinite negative

/-- The number a text is, with blanks around it allowed. -/
def ofNumericText? (text : String) : Option Cell :=
  let bare := ((text.toList.dropWhile isSpace).reverse.dropWhile isSpace).reverse
  match (Number.integer? (String.ofList bare)).filter Number.fitsWord with
  | some n => some (.integer n)
  | none =>
    let (negative, unsigned) := match bare with
      | '-' :: rest => (true, rest)
      | '+' :: rest => (false, rest)
      | rest => (false, rest)
    (magnitude? unsigned).map fun (n, power) => ofDecimal negative n power

/-! ## Columns -/

/-- The value that a column of texts keeps. -/
def asText : Cell → Cell
  | .integer n => .text (toString n)
  | .real a => .text (realText a)
  | .infinite negative => .text (if negative then "-Inf" else "Inf")
  | other => other

/-- The value that a column of whole numbers keeps. -/
def asInteger : Cell → Cell
  | .text value => (ofNumericText? value).getD (.text value)
  | .real a => ofReal a
  | other => other

/-- The order of texts, absent ones first and bytes last. Numbers do not occur in such columns. -/
def before : Cell → Cell → Bool
  | .null, other => other != .null
  | .text a, .text b => decide (a < b)
  | .text _, .blob _ => true
  | .blob a, .blob b => decide (a < b)
  | _, _ => false

end Cell

end TenantWork.Store
