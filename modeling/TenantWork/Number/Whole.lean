/-!
Whole numbers in decimal digits. A sign may stand in front, a minus only where negative numbers
are meant; blanks, separators and digits of other scripts are refused.
-/
namespace TenantWork.Number

def digitsValue (digits : List Char) : Nat :=
  digits.foldl (fun total c => total * 10 + (c.toNat - '0'.toNat)) 0

/-- The value of one or more decimal digits. -/
def ofDigits? (digits : List Char) : Option Nat :=
  if !digits.isEmpty && digits.all Char.isDigit then some (digitsValue digits) else none

/-- A number without a minus sign. -/
def natural? (text : String) : Option Nat :=
  match text.toList with
  | '+' :: digits => ofDigits? digits
  | digits => ofDigits? digits

/-- A number with or without a sign. -/
def integer? (text : String) : Option Int :=
  match text.toList with
  | '-' :: digits => (ofDigits? digits).map fun n => -(n : Int)
  | '+' :: digits => (ofDigits? digits).map fun n => (n : Int)
  | digits => (ofDigits? digits).map fun n => (n : Int)

/-- The numbers that fit a signed word of 64 bits. -/
def fitsWord (n : Int) : Bool := decide (-0x8000000000000000 ≤ n) && decide (n < 0x8000000000000000)

end TenantWork.Number
