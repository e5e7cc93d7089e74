/-!
Powers of the two bases of numbers: two for doubles and words, ten for decimals.
-/
namespace TenantWork.Number

def pow2 (n : Nat) : Nat := Nat.pow 2 n

def pow10 (n : Nat) : Nat := Nat.pow 10 n

end TenantWork.Number
