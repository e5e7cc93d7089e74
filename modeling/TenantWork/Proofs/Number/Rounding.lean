import Mathlib.Algebra.Order.Field.Power
import Mathlib.Algebra.Order.Field.Rat
import Mathlib.Tactic.FieldSimp
import Mathlib.Tactic.Linarith
import Mathlib.Tactic.NormNum
import Mathlib.Tactic.Positivity
import Mathlib.Tactic.Ring
import TenantWork.Number.Double
/-!
Rounding to doubles, in rational numbers. A ratio is rounded to within half of the last place, and
every ratio below the halfway point above the greatest double is rounded to one. From this follows
which decimals are read: all that stay so far below that point that the three roundings of a
reading cannot reach it.
-/
namespace TenantWork.Number.Double

/-- The absolute value. -/
def magnitude (a : Double) : ℚ := a.significand * 2 ^ a.exponent

/-- What every double holds that comes from a rounding. -/
structure Fits (a : Double) : Prop where
  significand : a.significand < 2 ^ 53
  least : leastExponent ≤ a.exponent
  greatest : a.exponent ≤ greatestExponent

theorem fits_zero (negative : Bool) : (zero negative).Fits :=
  ⟨Nat.two_pow_pos 53, le_rfl, show leastExponent ≤ greatestExponent by decide⟩

/-- Halfway from the greatest double to the next power of two. -/
def limit : ℚ := (2 ^ 53 - 1 / 2) * 2 ^ (971 : ℤ)

section Grid

variable {n d : Nat}

theorem roundQuotient_bounds (n : Nat) {d : Nat} (positive : 0 < d) :
    2 * n ≤ 2 * (roundQuotient n d * d) + d ∧ 2 * (roundQuotient n d * d) ≤ 2 * n + d := by
  have split := Nat.div_add_mod n d
  have small := Nat.mod_lt n positive
  have step : (n / d + 1) * d = d * (n / d) + d := by ring
  have comm : n / d * d = d * (n / d) := Nat.mul_comm _ _
  simp only [roundQuotient]
  split
  · omega
  split
  · omega
  · obtain even | odd := Nat.mod_two_eq_zero_or_one (n / d)
    · rw [even, Nat.add_zero]
      omega
    · rw [odd]
      omega

theorem scaled_spec (n : Nat) {d : Nat} (positive : 0 < d) (exponent : ℤ) :
    0 < (scaled n d exponent).2 ∧
      ((scaled n d exponent).1 : ℚ) / (scaled n d exponent).2 = n / d / 2 ^ exponent := by
  cases exponent with
  | ofNat up =>
    refine ⟨Nat.mul_pos positive (Nat.pow_pos (by omega)), ?_⟩
    simp only [scaled, pow2, Nat.pow_eq, Nat.cast_mul, Nat.cast_pow, Nat.cast_ofNat, Int.ofNat_eq_natCast,
      zpow_natCast, div_div]
  | negSucc down =>
    refine ⟨positive, ?_⟩
    simp only [scaled, pow2, Nat.pow_eq, Nat.cast_mul, Nat.cast_pow, Nat.cast_ofNat, zpow_negSucc]
    field_simp

/-- A quotient lies between the powers of two that the lengths of its sides tell. -/
theorem log2_bounds (numerator : n ≠ 0) (positive : 0 < d) :
    2 ^ ((Nat.log2 n : ℤ) - Nat.log2 d - 1) ≤ (n : ℚ) / d ∧
      (n : ℚ) / d < 2 ^ ((Nat.log2 n : ℤ) - Nat.log2 d + 1) := by
  have below (m : Nat) (nonzero : m ≠ 0) : (2 : ℚ) ^ (Nat.log2 m : ℤ) ≤ m := by
    rw [zpow_natCast]
    exact_mod_cast Nat.log2_self_le nonzero
  have above (m : Nat) : (m : ℚ) < 2 ^ ((Nat.log2 m : ℤ) + 1) := by
    have bound : m < 2 ^ (Nat.log2 m + 1) := Nat.lt_log2_self
    exact_mod_cast bound
  have side : (0 : ℚ) < d := Nat.cast_pos.2 positive
  constructor
  · rw [le_div_iff₀ side]
    calc (2 : ℚ) ^ ((Nat.log2 n : ℤ) - Nat.log2 d - 1) * d
        ≤ 2 ^ ((Nat.log2 n : ℤ) - Nat.log2 d - 1) * 2 ^ ((Nat.log2 d : ℤ) + 1) := by
          gcongr
          exact (above d).le
      _ = 2 ^ (Nat.log2 n : ℤ) := by
          rw [← zpow_add₀ two_ne_zero]
          congr 1
          omega
      _ ≤ n := below n numerator
  · rw [div_lt_iff₀ side]
    calc (n : ℚ) < 2 ^ ((Nat.log2 n : ℤ) + 1) := above n
      _ = 2 ^ ((Nat.log2 n : ℤ) - Nat.log2 d + 1) * 2 ^ (Nat.log2 d : ℤ) := by
          rw [← zpow_add₀ two_ne_zero]
          congr 1
          omega
      _ ≤ 2 ^ ((Nat.log2 n : ℤ) - Nat.log2 d + 1) * d := by
          gcongr
          exact below d positive.ne'

/-- The quotient has 53 bits on its grid, or fewer on the finest one. -/
theorem gridExponent_spec (numerator : n ≠ 0) (positive : 0 < d) :
    leastExponent ≤ gridExponent n d ∧
      (n : ℚ) / d < 2 ^ 53 * 2 ^ gridExponent n d ∧
      (gridExponent n d = leastExponent ∨ 2 ^ 52 * 2 ^ gridExponent n d ≤ (n : ℚ) / d) := by
  obtain ⟨low, high⟩ := log2_bounds numerator positive
  set guess : ℤ := (Nat.log2 n : ℤ) - Nat.log2 d - 52 with guessed
  obtain ⟨bottom, quotient⟩ := scaled_spec n positive guess
  have unit : (0 : ℚ) < 2 ^ guess := by positivity
  have shift (k : Nat) (e : ℤ) : (2 : ℚ) ^ k * 2 ^ e = 2 ^ (k + e) := by
    rw [zpow_add₀ two_ne_zero, zpow_natCast]
  -- The guess is right or one too high.
  obtain ⟨e, grid, above, below⟩ : ∃ e, gridExponent n d = max leastExponent e ∧
      (n : ℚ) / d < 2 ^ 53 * 2 ^ e ∧ 2 ^ 52 * 2 ^ e ≤ (n : ℚ) / d := by
    by_cases few : (scaled n d guess).1 / (scaled n d guess).2 < leastNormal
    · refine ⟨guess - 1, congrArg (max leastExponent) (if_pos few), ?_, ?_⟩
      · have fewer : (n : ℚ) / d < 2 ^ 52 * 2 ^ guess := by
          have natural := (Nat.div_lt_iff_lt_mul bottom).1 few
          rw [← div_lt_iff₀ unit, ← quotient, div_lt_iff₀ (Nat.cast_pos.2 bottom)]
          exact_mod_cast natural
        refine fewer.trans_eq ?_
        rw [shift, shift]
        congr 1
        omega
      · rw [shift]
        convert low using 2
        omega
    · refine ⟨guess, congrArg (max leastExponent) (if_neg few), ?_, ?_⟩
      · rw [shift]
        convert high using 2
        omega
      · have natural := (Nat.le_div_iff_mul_le bottom).1 (Nat.not_lt.1 few)
        rw [← le_div_iff₀ unit, ← quotient, le_div_iff₀ (Nat.cast_pos.2 bottom)]
        exact_mod_cast natural
  rw [grid]
  refine ⟨le_max_left _ _, ?_, ?_⟩
  · refine above.trans_le ?_
    gcongr
    · norm_num
    · exact le_max_right _ _
  · obtain finest | usual := max_choice leastExponent e
    · exact .inl finest
    · rw [usual]
      exact .inr below

/-- The quotient in units of its grid. -/
def rounded (n d : Nat) : Nat :=
  roundQuotient (scaled n d (gridExponent n d)).1 (scaled n d (gridExponent n d)).2

theorem ofRatio_of_carry (negative : Bool) (numerator : n ≠ 0) (carry : rounded n d = 2 ^ 53) :
    ofRatio negative n d =
      if gridExponent n d + 1 ≤ greatestExponent then
        some ⟨negative, leastNormal, gridExponent n d + 1⟩
      else none := by
  have full : roundQuotient (scaled n d (gridExponent n d)).1 (scaled n d (gridExponent n d)).2 =
      2 * leastNormal := carry
  have nonzero : leastNormal ≠ 0 := by decide
  simp only [ofRatio, if_neg numerator, if_pos full, if_neg nonzero]

theorem ofRatio_of_few (negative : Bool) (numerator : n ≠ 0) (few : rounded n d ≠ 2 ^ 53) :
    ofRatio negative n d =
      if gridExponent n d ≤ greatestExponent then
        some (if rounded n d = 0 then zero negative
          else ⟨negative, rounded n d, gridExponent n d⟩)
      else none := by
  have less : ¬roundQuotient (scaled n d (gridExponent n d)).1 (scaled n d (gridExponent n d)).2 =
      2 * leastNormal := few
  simp only [ofRatio, if_neg numerator, if_neg less]
  rfl

/-- On its grid a quotient is rounded to within a half, and to 53 bits or the next power of two. -/
theorem rounded_spec (numerator : n ≠ 0) (positive : 0 < d) :
    |(rounded n d : ℚ) * 2 ^ gridExponent n d - n / d| ≤ 2 ^ gridExponent n d / 2 ∧
      rounded n d ≤ 2 ^ 53 := by
  obtain ⟨_, above, _⟩ := gridExponent_spec numerator positive
  obtain ⟨bottom, quotient⟩ := scaled_spec n positive (gridExponent n d)
  obtain ⟨low, high⟩ := roundQuotient_bounds (scaled n d (gridExponent n d)).1 bottom
  rw [rounded]
  generalize gridExponent n d = e at *
  generalize roundQuotient _ _ = units at *
  have unit : (0 : ℚ) < 2 ^ e := by positivity
  have side : (0 : ℚ) < (scaled n d e).2 := Nat.cast_pos.2 bottom
  have near : |(units : ℚ) - (scaled n d e).1 / (scaled n d e).2| ≤ 1 / 2 := by
    have lowCast : (2 * (scaled n d e).1 : ℚ) ≤ 2 * (units * (scaled n d e).2) + (scaled n d e).2 := by
      exact_mod_cast low
    have highCast : (2 * (units * (scaled n d e).2) : ℚ) ≤ 2 * (scaled n d e).1 + (scaled n d e).2 := by
      exact_mod_cast high
    rw [abs_sub_le_iff, sub_le_iff_le_add, sub_le_iff_le_add, div_add_div _ _ two_ne_zero side.ne',
      div_le_iff₀ side, le_div_iff₀ (by positivity)]
    constructor <;> linarith
  constructor
  · have same : (units : ℚ) * 2 ^ e - n / d =
        (units - (scaled n d e).1 / (scaled n d e).2) * 2 ^ e := by
      rw [quotient, sub_mul, div_mul_cancel₀ _ unit.ne']
    rw [same, abs_mul, abs_of_pos unit]
    linarith [mul_le_mul_of_nonneg_right near unit.le]
  · have fewer : ((scaled n d e).1 : ℚ) / (scaled n d e).2 < 2 ^ 53 := by
      rwa [quotient, div_lt_iff₀ unit]
    have bound : (units : ℚ) < 2 ^ 53 + 1 := by
      linarith [(abs_sub_le_iff.1 near).1]
    have natural : units < 2 ^ 53 + 1 := by exact_mod_cast bound
    omega

/-- What comes of rounding a ratio. -/
theorem ofRatio_eq_some {negative : Bool} {a : Double} (numerator : n ≠ 0) (positive : 0 < d)
    (made : ofRatio negative n d = some a) :
    a.Fits ∧ |a.magnitude - n / d| ≤ 2 ^ gridExponent n d / 2 := by
  obtain ⟨least, _, _⟩ := gridExponent_spec numerator positive
  obtain ⟨near, few⟩ := rounded_spec numerator positive
  by_cases carry : rounded n d = 2 ^ 53
  · rw [ofRatio_of_carry negative numerator carry] at made
    split at made
    next fits =>
      obtain rfl := Option.some.inj made
      have same : magnitude ⟨negative, leastNormal, gridExponent n d + 1⟩ =
          (rounded n d : ℚ) * 2 ^ gridExponent n d := by
        rw [magnitude, zpow_add₀ two_ne_zero, carry, leastNormal]
        norm_num
        ring
      have bits : leastNormal < 2 ^ 53 := by decide
      exact ⟨⟨bits, least.trans (Int.le_add_one le_rfl), fits⟩, by rwa [same]⟩
    next => cases made
  · rw [ofRatio_of_few negative numerator carry] at made
    split at made
    next fits =>
      obtain rfl := Option.some.inj made
      split
      next none =>
        have same : (zero negative).magnitude = (rounded n d : ℚ) * 2 ^ gridExponent n d := by
          rw [magnitude, zero, none, Nat.cast_zero, zero_mul, zero_mul]
        exact ⟨fits_zero negative, by rwa [same]⟩
      next some => exact ⟨⟨lt_of_le_of_ne few carry, least, fits⟩, near⟩
    next => cases made

/-- Every ratio below the limit is rounded to a double. -/
theorem ofRatio_isSome (negative : Bool) (positive : 0 < d) (below : (n : ℚ) / d < limit) :
    ∃ a, ofRatio negative n d = some a := by
  by_cases numerator : n = 0
  · exact ⟨zero negative, if_pos numerator⟩
  obtain ⟨least, _, grid⟩ := gridExponent_spec numerator positive
  obtain ⟨near, _⟩ := rounded_spec numerator positive
  have small : gridExponent n d ≤ greatestExponent ∧
      (rounded n d = 2 ^ 53 → gridExponent n d + 1 ≤ greatestExponent) := by
    obtain finest | usual := grid
    · rw [finest]
      exact ⟨by decide, fun _ => by decide⟩
    have halfway : limit < 2 ^ (53 : ℤ) * 2 ^ (971 : ℤ) := by
      rw [limit]
      gcongr
      norm_num
    have bound : (2 : ℚ) ^ (52 + gridExponent n d) < 2 ^ ((53 : ℤ) + 971) := by
      rw [zpow_add₀ two_ne_zero, zpow_add₀ two_ne_zero]
      exact usual.trans_lt (below.trans halfway)
    have fits : gridExponent n d ≤ 971 := by
      have := (zpow_lt_zpow_iff_right₀ (one_lt_two : (1 : ℚ) < 2)).1 bound
      omega
    refine ⟨fits, fun carry => ?_⟩
    by_contra beyond
    have top : gridExponent n d = 971 := by
      rw [greatestExponent] at beyond
      omega
    rw [carry, top] at near
    have reached := (abs_sub_le_iff.1 near).1
    rw [limit] at below
    rw [Nat.cast_pow, Nat.cast_ofNat] at reached
    generalize (2 : ℚ) ^ (971 : ℤ) = unit at *
    linarith
  by_cases carry : rounded n d = 2 ^ 53
  · rw [ofRatio_of_carry negative numerator carry]
    exact ⟨_, if_pos (small.2 carry)⟩
  · rw [ofRatio_of_few negative numerator carry]
    exact ⟨_, if_pos small.1⟩

/-- From one on, rounding changes the quotient by a 2^53rd of it at most. -/
theorem ofRatio_near {negative : Bool} {a : Double} (positive : 0 < d) (large : 1 ≤ (n : ℚ) / d)
    (made : ofRatio negative n d = some a) : |a.magnitude - n / d| ≤ n / d / 2 ^ 53 := by
  have numerator : n ≠ 0 := by
    rintro rfl
    rw [Nat.cast_zero, zero_div] at large
    exact absurd large (by norm_num)
  obtain ⟨_, near⟩ := ofRatio_eq_some numerator positive made
  obtain ⟨_, above, finest | usual⟩ := gridExponent_spec numerator positive
  · have tiny : (2 : ℚ) ^ (53 : ℤ) * 2 ^ leastExponent < 1 := by
      rw [← zpow_add₀ two_ne_zero]
      exact zpow_lt_one_of_neg₀ one_lt_two (by decide)
    rw [finest] at above
    exact absurd large (not_le.2 (above.trans tiny))
  · refine near.trans ?_
    rw [div_le_div_iff₀ two_pos (by positivity)]
    linarith

end Grid

/-! ## Decimals -/

section Decimals

variable {a : Double} {negative : Bool} {significand : Nat}

theorem fits_ofRatio {n d : Nat} (positive : 0 < d) (made : ofRatio negative n d = some a) :
    a.Fits := by
  by_cases numerator : n = 0
  · rw [ofRatio, if_pos numerator] at made
    obtain rfl := Option.some.inj made
    exact fits_zero negative
  · exact (ofRatio_eq_some numerator positive made).1

theorem magnitude_nonneg (a : Double) : 0 ≤ a.magnitude := by
  rw [magnitude]
  positivity

theorem Fits.below_limit (fits : a.Fits) : a.magnitude < limit := by
  have bits : (a.significand : ℚ) ≤ 2 ^ 53 - 1 := by
    have natural : a.significand + 1 ≤ 2 ^ 53 := fits.significand
    have cast : (a.significand : ℚ) + 1 ≤ 2 ^ 53 := by exact_mod_cast natural
    linarith
  rw [magnitude, limit]
  calc (a.significand : ℚ) * 2 ^ a.exponent ≤ (2 ^ 53 - 1) * 2 ^ (971 : ℤ) := by
        gcongr
        · norm_num
        · exact fits.greatest
    _ < (2 ^ 53 - 1 / 2) * 2 ^ (971 : ℤ) := by
        gcongr
        norm_num

theorem ratio_spec (a : Double) :
    0 < a.ratio.2 ∧ (a.ratio.1 : ℚ) / a.ratio.2 = a.magnitude := by
  obtain ⟨sign, bits, exponent⟩ := a
  cases exponent with
  | ofNat up =>
    refine ⟨Nat.one_pos, ?_⟩
    simp only [ratio, magnitude, pow2, Nat.pow_eq, Nat.cast_mul, Nat.cast_pow, Nat.cast_ofNat,
      Nat.cast_one, div_one, Int.ofNat_eq_natCast, zpow_natCast]
  | negSucc down =>
    refine ⟨Nat.pow_pos two_pos, ?_⟩
    simp only [ratio, magnitude, pow2, Nat.pow_eq, Nat.cast_pow, Nat.cast_ofNat, zpow_negSucc,
      div_eq_mul_inv]

/-- The powers of ten that are read at once. -/
theorem tenTo_spec {power : Nat} (small : power ≤ 308) :
    ∃ ten, tenTo power = some ten ∧ |ten.magnitude - 10 ^ power| ≤ 10 ^ power / 2 ^ 53 := by
  have cast : (pow10 power : ℚ) / (1 : ℕ) = 10 ^ power := by
    rw [pow10, Nat.pow_eq, Nat.cast_one, div_one, Nat.cast_pow, Nat.cast_ofNat]
  have greatest : (10 : ℚ) ^ 308 < limit := by
    have natural : 10 ^ 308 < (2 ^ 53 - 1) * 2 ^ 971 := by decide +kernel
    have cast : ((10 ^ 308 : ℕ) : ℚ) < ((2 ^ 53 - 1) * 2 ^ 971 : ℕ) := Nat.cast_lt.2 natural
    rw [Nat.cast_mul, Nat.cast_pow, Nat.cast_pow, Nat.cast_ofNat, Nat.cast_ofNat] at cast
    refine cast.trans ?_
    rw [limit, zpow_ofNat]
    gcongr
    norm_num
  have below : (pow10 power : ℚ) / (1 : ℕ) < limit := by
    rw [cast]
    exact (pow_le_pow_right₀ (by norm_num) small).trans_lt greatest
  obtain ⟨ten, made⟩ := ofRatio_isSome false Nat.one_pos below
  refine ⟨ten, made, ?_⟩
  have near := ofRatio_near Nat.one_pos ?_ made
  · rwa [cast] at near
  · rw [cast]
    exact one_le_pow₀ (by norm_num)

/-- Dividing by a power of ten never goes beyond the greatest double. -/
theorem overTenTo_isSome {power : Nat} (fits : a.Fits) (least : 0 < power) (small : power ≤ 308) :
    ∃ b, a.overTenTo power = some b ∧ b.Fits := by
  obtain ⟨ten, made, near⟩ := tenTo_spec small
  have large : 1 ≤ ten.magnitude := by
    have ten : (10 : ℚ) ≤ 10 ^ power := by
      calc (10 : ℚ) = 10 ^ 1 := (pow_one _).symm
        _ ≤ 10 ^ power := pow_le_pow_right₀ (by norm_num) least
    have below := (abs_sub_le_iff.1 near).2
    linarith
  obtain ⟨bottomA, valueA⟩ := ratio_spec a
  obtain ⟨bottomTen, valueTen⟩ := ratio_spec ten
  have topTen : 0 < ten.ratio.1 := by
    refine Nat.pos_of_ne_zero fun zero => ?_
    rw [← valueTen, zero, Nat.cast_zero, zero_div] at large
    exact absurd large (by norm_num)
  have quotient : ((a.ratio.1 * ten.ratio.2 : ℕ) : ℚ) / (a.ratio.2 * ten.ratio.1 : ℕ) =
      a.magnitude / ten.magnitude := by
    rw [← valueA, ← valueTen, Nat.cast_mul, Nat.cast_mul, div_div_div_eq]
  have below : ((a.ratio.1 * ten.ratio.2 : ℕ) : ℚ) / (a.ratio.2 * ten.ratio.1 : ℕ) < limit := by
    rw [quotient]
    exact (div_le_self a.magnitude_nonneg large).trans_lt fits.below_limit
  obtain ⟨b, divided⟩ := ofRatio_isSome false (Nat.mul_pos bottomA topTen) below
  refine ⟨b, ?_, fits_ofRatio (Nat.mul_pos bottomA topTen) divided⟩
  rw [overTenTo, made]
  exact divided

theorem times_spec (a b : Double) (below : a.magnitude * b.magnitude < limit) :
    ∃ product, a.times b = some product := by
  obtain ⟨bottomA, valueA⟩ := ratio_spec a
  obtain ⟨bottomB, valueB⟩ := ratio_spec b
  refine ofRatio_isSome false (Nat.mul_pos bottomA bottomB) ?_
  rwa [Nat.cast_mul, Nat.cast_mul, mul_div_mul_comm, valueA, valueB]

theorem Fits.signed (fits : a.Fits) (negative : Bool) :
    Fits { a with negative := negative } := ⟨fits.significand, fits.least, fits.greatest⟩

/-- A number with its decimal point moved, up for a positive power of ten. -/
def shifted (a : Double) : Int → Option Double
  | .ofNat up =>
    if up ≤ 308 then (tenTo up).bind a.times else if a.significand = 0 then some a else none
  | .negSucc down =>
    if down + 1 ≤ 308 then a.overTenTo (down + 1)
    else if down + 1 ≤ 616 then (a.overTenTo 308).bind fun b => b.overTenTo (down + 1 - 308)
    else some (zero false)

/-- Reading a decimal is rounding its digits and moving the point. -/
theorem ofDecimal_eq (negative : Bool) (significand : Nat) (power : Int) :
    ofDecimal negative significand power =
      ((ofRatio false significand 1).bind fun whole => whole.shifted power).map fun a =>
        { a with negative := negative } := by
  have joined (o : Option Double) : (o.bind fun a => some { a with negative := negative }) =
      o.map fun a => { a with negative := negative } := Option.map_eq_bind.symm
  unfold ofDecimal
  rw [Option.map_bind]
  refine congrArg (Option.bind _) (funext fun whole => ?_)
  unfold shifted
  cases power with
  | ofNat up =>
    dsimp only [Function.comp]
    split
    · cases tenTo up with
      | none => rfl
      | some ten => exact joined _
    · split <;> rfl
  | negSucc down =>
    dsimp only [Function.comp]
    split
    · exact joined _
    · generalize down + 1 - 308 = rest
      split
      · cases whole.overTenTo 308 with
        | none => rfl
        | some part => exact joined (part.overTenTo rest)
      · rfl

/-- Moving the point down always gives a number. -/
theorem shifted_down (fits : a.Fits) (down : Nat) :
    ∃ b, a.shifted (.negSucc down) = some b ∧ b.Fits := by
  unfold shifted
  dsimp only
  split
  next near => exact overTenTo_isSome fits (Nat.succ_pos down) near
  next far =>
    split
    next reached =>
      have whole : 0 < 308 := by decide
      obtain ⟨b, first, between⟩ := overTenTo_isSome fits whole le_rfl
      have least : 0 < down + 1 - 308 := Nat.sub_pos_of_lt (Nat.not_le.1 far)
      have small : down + 1 - 308 ≤ 308 := Nat.sub_le_iff_le_add.2 reached
      rw [first, Option.bind_some]
      exact overTenTo_isSome between least small
    next beyond => exact ⟨_, rfl, fits_zero false⟩

theorem fits_shifted {b : Double} {power : Int} (fits : a.Fits) (made : a.shifted power = some b) :
    b.Fits := by
  cases power with
  | ofNat up =>
    unfold shifted at made
    dsimp only at made
    split at made
    · obtain ⟨ten, _, made⟩ := Option.bind_eq_some_iff.1 made
      exact fits_ofRatio (Nat.mul_pos (ratio_spec a).1 (ratio_spec ten).1) made
    · split at made
      · obtain rfl := Option.some.inj made
        exact fits
      · cases made
  | negSucc down =>
    obtain ⟨other, same, fits⟩ := shifted_down fits down
    obtain rfl := Option.some.inj (made.symm.trans same)
    exact fits

/-- Whatever decimal is read, what comes of it is a rounded number. -/
theorem fits_ofDecimal {power : Int} (made : ofDecimal negative significand power = some a) :
    a.Fits := by
  rw [ofDecimal_eq] at made
  obtain ⟨value, found, rfl⟩ := Option.map_eq_some_iff.1 made
  obtain ⟨whole, read, moved⟩ := Option.bind_eq_some_iff.1 found
  exact (fits_shifted (fits_ofRatio Nat.one_pos read) moved).signed negative

/-- The digits that are taken when a number is read. -/
theorem ofWord_isSome (word : significand < 2 ^ 64) :
    ∃ whole, ofRatio false significand 1 = some whole := by
  refine ofRatio_isSome false Nat.one_pos ?_
  have bound : (significand : ℚ) < 2 ^ 64 := by exact_mod_cast word
  rw [Nat.cast_one, div_one]
  refine bound.trans ?_
  rw [limit]
  calc (2 : ℚ) ^ 64 ≤ 2 ^ (971 : ℤ) := zpow_le_zpow_right₀ one_le_two (by decide : (64 : ℤ) ≤ 971)
    _ < (2 ^ 53 - 1 / 2) * 2 ^ (971 : ℤ) := lt_mul_of_one_lt_left (by positivity) (by norm_num)

theorem ofDecimal_down (negative : Bool) (word : significand < 2 ^ 64) (down : Nat) :
    ∃ a, ofDecimal negative significand (.negSucc down) = some a := by
  obtain ⟨whole, read⟩ := ofWord_isSome word
  obtain ⟨b, moved, _⟩ := shifted_down (fits_ofRatio Nat.one_pos read) down
  rw [ofDecimal_eq, read, Option.bind_some, moved]
  exact ⟨_, rfl⟩

/-- A decimal is read if the errors of two roundings do not take it to the limit. -/
theorem ofDecimal_up (negative : Bool) {up : Nat} (small : up ≤ 308) (word : significand < 2 ^ 64)
    (below : significand * 10 ^ up * (1 + 1 / 2 ^ 53) ^ 2 < limit) :
    ∃ a, ofDecimal negative significand (.ofNat up) = some a := by
  obtain ⟨whole, read⟩ := ofWord_isSome word
  obtain ⟨ten, made, near⟩ := tenTo_spec small
  have wholeBound : whole.magnitude ≤ significand * (1 + 1 / 2 ^ 53) := by
    by_cases nothing : significand = 0
    · rw [nothing, ofRatio, if_pos rfl] at read
      obtain rfl := Option.some.inj read
      rw [magnitude, zero, nothing, Nat.cast_zero, zero_mul, zero_mul]
    · have one : 1 ≤ (significand : ℚ) / (1 : ℕ) := by
        rw [Nat.cast_one, div_one]
        exact_mod_cast Nat.pos_of_ne_zero nothing
      have close := (abs_sub_le_iff.1 (ofRatio_near Nat.one_pos one read)).1
      rw [Nat.cast_one, div_one] at close
      linarith
  have tenBound : ten.magnitude ≤ 10 ^ up * (1 + 1 / 2 ^ 53) := by
    linarith [(abs_sub_le_iff.1 near).1]
  have product : whole.magnitude * ten.magnitude < limit := by
    refine lt_of_le_of_lt ?_ below
    calc whole.magnitude * ten.magnitude
        ≤ (significand * (1 + 1 / 2 ^ 53)) * (10 ^ up * (1 + 1 / 2 ^ 53)) :=
          mul_le_mul wholeBound tenBound ten.magnitude_nonneg (by positivity)
      _ = significand * 10 ^ up * (1 + 1 / 2 ^ 53) ^ 2 := by ring
  obtain ⟨b, multiplied⟩ := times_spec whole ten product
  rw [ofDecimal_eq, read, Option.bind_some, shifted, if_pos small, made, Option.bind_some, multiplied]
  exact ⟨_, rfl⟩

end Decimals

end TenantWork.Number.Double
