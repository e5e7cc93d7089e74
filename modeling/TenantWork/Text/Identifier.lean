import TenantWork.Number.Power
/-!
Identifiers of 128 bits as 32 hexadecimal digits in five groups. Six of the bits are fixed: they
say that the others are random.
-/
namespace TenantWork.Text

open Number (pow2)

/-- The lowest digits of a number in base 16, the highest first. -/
def hexPlaces : Nat → Nat → List Char
  | 0, _ => []
  | places + 1, n => hexPlaces places (n / 16) ++ [Nat.digitChar (n % 16)]

def identifier (bits : Nat) : String :=
  let last := bits % pow2 48
  let fourth := 0x8000 + bits / pow2 48 % pow2 14
  let third := 0x4000 + bits / pow2 62 % pow2 12
  let second := bits / pow2 74 % pow2 16
  let first := bits / pow2 90 % pow2 32
  String.ofList (hexPlaces 8 first ++ '-' :: hexPlaces 4 second ++ '-' :: hexPlaces 4 third ++
    '-' :: hexPlaces 4 fourth ++ '-' :: hexPlaces 12 last)

end TenantWork.Text
