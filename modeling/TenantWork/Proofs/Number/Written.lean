import TenantWork.Number.Shortest
import TenantWork.Proofs.Number.Rounding
/-!
The decimal that a double is written with. It lies no further up than halfway to the next double,
has at most seventeen digits, and can be read: for the two greatest doubles by computing it, for all
others because the errors of reading do not make up for the distance to the limit.
-/
namespace TenantWork.Number

/-- The number that is meant. -/
def Decimal.value (v : Decimal) : ℚ := v.digits * 10 ^ v.exponent

/-- What reading asks of a decimal. The power of ten of a zero is not written. -/
structure Decimal.Readable (v : Decimal) : Prop where
  digits : v.digits ≤ 10 ^ 17
  least : v.digits ≠ 0 → -1090 ≤ v.exponent
  greatest : v.digits ≠ 0 → v.exponent ≤ 308
  read : v.digits ≠ 0 → ∀ negative, ∃ a, Double.ofDecimal negative v.digits v.exponent = some a

namespace Double

/-! ## Grids -/

theorem onGrid_spec (two ten : Int) (x : Nat) :
    0 < (onGrid two ten x).2 ∧
      ((onGrid two ten x).1 : ℚ) / (onGrid two ten x).2 = x * 2 ^ two / 10 ^ ten := by
  cases two <;> cases ten <;>
    simp only [onGrid, pow2, pow10, Nat.pow_eq, Nat.cast_mul, Nat.cast_pow, Nat.cast_ofNat,
      Nat.cast_one, Int.ofNat_eq_natCast, zpow_natCast, zpow_negSucc] <;>
    exact ⟨by positivity, by field_simp⟩

/-- The unit of a grid is the same for all numbers on it. -/
theorem onGrid_unit (two ten : Int) (x y : Nat) :
    (onGrid two ten x).2 = (onGrid two ten y).2 := by
  cases two <;> cases ten <;> rfl

variable {a : Double} {v : Decimal}

/-- A neighbour that reads back does not pass halfway to the next double. -/
theorem neighbourOn_eq_some {ten : Int} (found : a.neighbourOn ten = some v) :
    v.exponent = ten ∧
      v.digits * (onGrid (a.exponent - 2) ten (4 * a.significand)).2 ≤
        (onGrid (a.exponent - 2) ten (4 * a.significand + 2)).1 ∧
      v.digits ≤ (onGrid (a.exponent - 2) ten (4 * a.significand)).1 /
        (onGrid (a.exponent - 2) ten (4 * a.significand)).2 + 1 := by
  unfold neighbourOn at found
  dsimp only at found
  generalize (onGrid (a.exponent - 2) ten (4 * a.significand)).1 = middle at *
  generalize (onGrid (a.exponent - 2) ten (4 * a.significand)).2 = unit at *
  generalize (onGrid (a.exponent - 2) ten (4 * a.significand + 2)).1 = high at *
  generalize (onGrid (a.exponent - 2) ten (4 * a.significand - _)).1 = low at *
  have reaches (candidate : Nat) (within : (if (a.significand % 2 == 0) = true then
      decide (low ≤ candidate * unit) && decide (candidate * unit ≤ high)
      else decide (low < candidate * unit) && decide (candidate * unit < high)) = true) :
      candidate * unit ≤ high := by
    split at within
    · exact of_decide_eq_true (Bool.and_eq_true_iff.1 within).2
    · exact (of_decide_eq_true (Bool.and_eq_true_iff.1 within).2).le
  split at found
  next below _ =>
    obtain rfl := Option.some.inj found
    exact ⟨rfl, reaches _ below, Nat.le_succ _⟩
  next _ above =>
    obtain rfl := Option.some.inj found
    exact ⟨rfl, reaches _ above, le_rfl⟩
  next below above =>
    obtain rfl := Option.some.inj found
    refine ⟨rfl, ?_⟩
    dsimp only
    split
    · exact ⟨reaches _ below, Nat.le_succ _⟩
    · split
      · exact ⟨reaches _ above, le_rfl⟩
      · split
        · exact ⟨reaches _ below, Nat.le_succ _⟩
        · exact ⟨reaches _ above, le_rfl⟩
  next => cases found

/-! ## The leading place -/

theorem length_toDigits_le {m k : Nat} (least : 0 < k) :
    (Nat.toDigits 10 m).length ≤ k ↔ m < 10 ^ k :=
  Nat.length_toDigits_le_iff (by decide) least

theorem toDigits_bounds (m : Nat) :
    m < 10 ^ (Nat.toDigits 10 m).length ∧ (0 < m → 10 ^ ((Nat.toDigits 10 m).length - 1) ≤ m) := by
  have some : 0 < (Nat.toDigits 10 m).length := Nat.length_toDigits_pos
  refine ⟨(length_toDigits_le some).1 le_rfl, fun positive => ?_⟩
  by_contra above
  obtain single | more := Nat.eq_zero_or_pos ((Nat.toDigits 10 m).length - 1)
  · rw [single] at above
    exact above positive
  · have shorter := (length_toDigits_le more).2 (Nat.not_le.1 above)
    omega

theorem leadingPlace_spec {n d : Nat} (numerator : 0 < n) (positive : 0 < d) :
    (n : ℚ) / d < 10 ^ (leadingPlace n d + 1) := by
  have side : (0 : ℚ) < d := Nat.cast_pos.2 positive
  unfold leadingPlace
  split
  next large =>
    have natural : n < 10 ^ (Nat.toDigits 10 (n / d)).length * d := by
      refine (Nat.lt_mul_div_succ n positive).trans_le ?_
      rw [mul_comm]
      exact Nat.mul_le_mul_right d (toDigits_bounds (n / d)).1
    rw [sub_add_cancel, zpow_natCast, div_lt_iff₀ side]
    exact_mod_cast natural
  next small =>
    set m := (d - 1) / n with inverse
    have part : 0 < m := Nat.div_pos (by omega) numerator
    have natural : n * 10 ^ ((Nat.toDigits 10 m).length - 1) < d := by
      have below := Nat.mul_div_le (d - 1) n
      have digits := Nat.mul_le_mul_left n ((toDigits_bounds m).2 part)
      rw [← inverse] at below
      omega
    have place : -((Nat.toDigits 10 m).length : ℤ) + 1 =
        -((Nat.toDigits 10 m).length - 1 : ℕ) := by
      have some : 0 < (Nat.toDigits 10 m).length := Nat.length_toDigits_pos
      omega
    rw [place, zpow_neg, zpow_natCast, div_lt_iff₀ side, inv_mul_eq_div, lt_div_iff₀ (by positivity)]
    exact_mod_cast natural

/-- No double has its leading place further down than its finest grid has bits. -/
theorem leadingPlace_least (fits : a.Fits) : -1074 ≤ leadingPlace a.ratio.1 a.ratio.2 := by
  have bottom : a.ratio.2 ≤ 10 ^ 1074 := by
    have least := fits.least
    unfold ratio
    split
    next => exact Nat.succ_le_of_lt (by positivity)
    next down exponent =>
      have short : down + 1 ≤ 1074 := by
        rw [exponent, leastExponent] at least
        omega
      have wider (k : Nat) : 2 ^ k ≤ 10 ^ k := Nat.pow_le_pow_left (by decide) k
      exact (wider (down + 1)).trans (pow_le_pow_right₀ (by decide) short)
  unfold leadingPlace
  split
  · omega
  · have positive := (ratio_spec a).1
    have inverse : (a.ratio.2 - 1) / a.ratio.1 < 10 ^ 1074 :=
      (Nat.div_le_self _ _).trans_lt ((Nat.sub_lt positive Nat.one_pos).trans_le bottom)
    have short := (length_toDigits_le (by decide)).2 inverse
    omega

/-! ## The decimal -/

theorem value_withoutLastZero (v : Decimal) : (withoutLastZero v).value = v.value := by
  unfold withoutLastZero
  split
  next even =>
    have whole : v.digits = 10 * (v.digits / 10) := by omega
    have cast : (v.digits : ℚ) = 10 * (v.digits / 10 : ℕ) := by exact_mod_cast whole
    rw [Decimal.value, Decimal.value, cast, zpow_add_one₀ (by norm_num)]
    ring
  next => rfl

theorem neighbourOn_spec {ten : Int} (found : a.neighbourOn ten = some v) :
    v.value ≤ (a.significand + 1 / 2) * 2 ^ a.exponent ∧
      ∀ n : ℕ, a.magnitude < 10 ^ (ten + n) → v.digits ≤ 10 ^ n := by
  obtain ⟨rfl, high, near⟩ := neighbourOn_eq_some found
  obtain ⟨unit, middle⟩ := onGrid_spec (a.exponent - 2) v.exponent (4 * a.significand)
  obtain ⟨_, top⟩ := onGrid_spec (a.exponent - 2) v.exponent (4 * a.significand + 2)
  rw [onGrid_unit _ _ _ (4 * a.significand)] at top
  have grid : (0 : ℚ) < 10 ^ v.exponent := by positivity
  have side : (0 : ℚ) < (onGrid (a.exponent - 2) v.exponent (4 * a.significand)).2 :=
    Nat.cast_pos.2 unit
  have quarter : (2 : ℚ) ^ (a.exponent - 2) = 2 ^ a.exponent / 4 := by
    rw [zpow_sub₀ two_ne_zero]
    norm_num
  constructor
  · have cast : (v.digits : ℚ) * (onGrid (a.exponent - 2) v.exponent (4 * a.significand)).2 ≤
        (onGrid (a.exponent - 2) v.exponent (4 * a.significand + 2)).1 := by exact_mod_cast high
    rw [← le_div_iff₀ side, top, le_div_iff₀ grid] at cast
    rw [Decimal.value]
    refine cast.trans_eq ?_
    rw [quarter]
    push_cast
    ring
  · intro n below
    have cast : ((onGrid (a.exponent - 2) v.exponent (4 * a.significand)).1 : ℚ) /
        (onGrid (a.exponent - 2) v.exponent (4 * a.significand)).2 < 10 ^ n := by
      rw [middle, div_lt_iff₀ grid, quarter]
      rw [magnitude, zpow_add₀ (by norm_num), zpow_natCast] at below
      push_cast
      linarith
    rw [div_lt_iff₀ side] at cast
    have natural : (onGrid (a.exponent - 2) v.exponent (4 * a.significand)).1 <
        10 ^ n * (onGrid (a.exponent - 2) v.exponent (4 * a.significand)).2 := by
      exact_mod_cast cast
    exact near.trans ((Nat.div_lt_iff_lt_mul unit).2 natural)

theorem shortest_spec (fits : a.Fits) (nonzero : a.significand ≠ 0) :
    a.shortest.digits ≤ 10 ^ 17 ∧ -1090 ≤ a.shortest.exponent ∧
      a.shortest.value ≤ (a.significand + 1 / 2) * 2 ^ a.exponent := by
  obtain ⟨bottom, ratio⟩ := ratio_spec a
  have top : 0 < a.ratio.1 := by
    refine Nat.pos_of_ne_zero fun none => nonzero ?_
    rw [none, Nat.cast_zero, zero_div, magnitude, zero_eq_mul] at ratio
    exact_mod_cast ratio.resolve_right (by positivity)
  have below := leadingPlace_spec top bottom
  have least := leadingPlace_least fits
  rw [ratio] at below
  rw [shortest, if_neg nonzero]
  dsimp only
  rw [value_withoutLastZero]
  have kept (v : Decimal) : (withoutLastZero v).digits ≤ v.digits ∧
      v.exponent ≤ (withoutLastZero v).exponent := by
    unfold withoutLastZero
    split
    · exact ⟨Nat.div_le_self _ _, Int.le_add_one le_rfl⟩
    · exact ⟨le_rfl, le_rfl⟩
  cases found : (List.range 17).findSome? fun (n : Nat) =>
      a.neighbourOn (leadingPlace a.ratio.1 a.ratio.2 - n) with
  | none =>
    rw [Option.getD_none]
    refine ⟨by decide, by decide, ?_⟩
    rw [Decimal.value, Nat.cast_zero, zero_mul]
    positivity
  | some v =>
    rw [Option.getD_some]
    obtain ⟨n, inside, near⟩ := List.exists_of_findSome?_eq_some found
    have few := List.mem_range.1 inside
    obtain ⟨place, _, _⟩ := neighbourOn_eq_some near
    obtain ⟨high, digits⟩ := neighbourOn_spec near
    refine ⟨?_, ?_, high⟩
    · refine (kept v).1.trans ((digits (n + 1) ?_).trans (Nat.pow_le_pow_right (by decide) few))
      convert below using 2
      push_cast
      ring
    · have up := (kept v).2
      omega

/-- The two greatest doubles are read back from what is written for them. -/
theorem greatest_readable (negative sign : Bool) (bits : Nat)
    (top : bits = 2 ^ 53 - 1 ∨ bits = 2 ^ 53 - 2) :
    ∃ b, ofDecimal negative (shortest ⟨sign, bits, 971⟩).digits
      (shortest ⟨sign, bits, 971⟩).exponent = some b := by
  have read : ∀ negative sign, ∀ bits ∈ [2 ^ 53 - 1, 2 ^ 53 - 2],
      (ofDecimal negative (shortest ⟨sign, bits, 971⟩).digits
        (shortest ⟨sign, bits, 971⟩).exponent).isSome = true := by decide +kernel
  refine Option.isSome_iff_exists.1 (read negative sign bits ?_)
  obtain rfl | rfl := top
  · exact List.mem_cons_self
  · exact List.mem_cons_of_mem _ List.mem_cons_self

/-- Half a place above a double that is not one of the two greatest. -/
theorem Fits.halfway_le (fits : a.Fits)
    (lower : ¬(a.exponent = 971 ∧ (a.significand = 2 ^ 53 - 1 ∨ a.significand = 2 ^ 53 - 2))) :
    (a.significand + 1 / 2 : ℚ) * 2 ^ a.exponent ≤ (2 ^ 53 - 5 / 2) * 2 ^ (971 : ℤ) := by
  have bits := fits.significand
  have greatest := fits.greatest
  rw [greatestExponent] at greatest
  obtain below | top := lt_or_eq_of_le greatest
  · have cast : (a.significand : ℚ) ≤ 2 ^ 53 - 1 := by
      have natural : a.significand + 1 ≤ 2 ^ 53 := bits
      have cast : (a.significand : ℚ) + 1 ≤ 2 ^ 53 := by exact_mod_cast natural
      linarith
    calc (a.significand + 1 / 2 : ℚ) * 2 ^ a.exponent
        ≤ (2 ^ 53 - 1 / 2) * 2 ^ ((971 : ℤ) - 1) := by
          gcongr
          · linarith
          · exact one_le_two
          · omega
      _ = (2 ^ 53 - 1 / 2) / 2 * 2 ^ (971 : ℤ) := by
          rw [zpow_sub_one₀ two_ne_zero]
          ring
      _ ≤ (2 ^ 53 - 5 / 2) * 2 ^ (971 : ℤ) := by
          gcongr
          norm_num
  · have natural : a.significand + 3 ≤ 2 ^ 53 := by omega
    have cast : (a.significand : ℚ) + 3 ≤ 2 ^ 53 := by exact_mod_cast natural
    rw [top]
    gcongr
    linarith

/-- What is written for a double can be read. -/
theorem shortest_readable (fits : a.Fits) : a.shortest.Readable := by
  by_cases nothing : a.significand = 0
  · rw [shortest, if_pos nothing]
    exact ⟨Nat.zero_le _, fun some => absurd rfl some, fun some => absurd rfl some,
      fun some => absurd rfl some⟩
  obtain ⟨digits, least, high⟩ := shortest_spec fits nothing
  have greatest (some : a.shortest.digits ≠ 0) : a.shortest.exponent ≤ 308 := by
    have one : (1 : ℚ) ≤ a.shortest.digits := by exact_mod_cast Nat.pos_of_ne_zero some
    have bound : (10 : ℚ) ^ a.shortest.exponent < 10 ^ (309 : ℤ) := by
      calc (10 : ℚ) ^ a.shortest.exponent ≤ a.shortest.value :=
            le_mul_of_one_le_left (by positivity) one
        _ ≤ (a.significand + 1 / 2) * 2 ^ a.exponent := high
        _ ≤ 2 ^ 53 * 2 ^ (971 : ℤ) := by
          have bits : (a.significand : ℚ) + 1 ≤ 2 ^ 53 := by exact_mod_cast fits.significand
          gcongr
          · linarith
          · exact one_le_two
          · exact fits.greatest
        _ < 10 ^ (309 : ℤ) := by
          have natural : 2 ^ 53 * 2 ^ 971 < 10 ^ 309 := by decide +kernel
          have cast : ((2 ^ 53 * 2 ^ 971 : ℕ) : ℚ) < (10 ^ 309 : ℕ) := Nat.cast_lt.2 natural
          rwa [Nat.cast_mul, Nat.cast_pow, Nat.cast_pow, Nat.cast_pow, Nat.cast_ofNat,
            Nat.cast_ofNat] at cast
    have := (zpow_lt_zpow_iff_right₀ (by norm_num : (1 : ℚ) < 10)).1 bound
    omega
  refine ⟨digits, fun _ => least, greatest, fun some negative => ?_⟩
  have word : a.shortest.digits < 2 ^ 64 := digits.trans_lt (by decide)
  by_cases top : a.exponent = 971 ∧ (a.significand = 2 ^ 53 - 1 ∨ a.significand = 2 ^ 53 - 2)
  · obtain ⟨sign, bits, exponent⟩ := a
    obtain ⟨rfl, top⟩ := top
    exact greatest_readable negative sign bits top
  have halfway := high.trans (fits.halfway_le top)
  have small := greatest some
  rw [Decimal.value] at halfway
  cases power : a.shortest.exponent with
  | negSucc down => exact ofDecimal_down negative word down
  | ofNat up =>
    rw [power] at halfway small
    refine ofDecimal_up negative (Int.ofNat_le.1 small) word ?_
    rw [Int.ofNat_eq_natCast, zpow_natCast] at halfway
    calc (a.shortest.digits : ℚ) * 10 ^ up * (1 + 1 / 2 ^ 53) ^ 2
        ≤ (2 ^ 53 - 5 / 2) * 2 ^ (971 : ℤ) * (1 + 1 / 2 ^ 53) ^ 2 := by gcongr
      _ = (2 ^ 53 - 5 / 2) * (1 + 1 / 2 ^ 53) ^ 2 * 2 ^ (971 : ℤ) := by ring
      _ < limit := by
        rw [limit]
        gcongr
        norm_num

end Double

end TenantWork.Number
