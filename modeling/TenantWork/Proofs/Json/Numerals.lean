import Mathlib.Tactic.Ring
import TenantWork.Proofs.Json.Reading
import TenantWork.Proofs.Number.Written
/-!
Numbers read from their texts. Digits up to the next other character make one number below 2^64;
a point moves the power of ten by the digits after it, an exponent by its own value. What stands for
a whole number of a word is read back as it was, and what stands for a double as some double.
-/
namespace TenantWork.Json.Reader

open Number (Decimal Double)

/-! ## Digits -/

/-- A text that ends a number which stands before it. -/
def EndsNumber (text : List Char) : Prop :=
  ∀ c, text.head? = some c → c.isDigit = false ∧ c ≠ '.' ∧ isExponentLetter c = false

/-- A text that ends digits which stand before it. -/
def EndsDigits (text : List Char) : Prop := ∀ c, text.head? = some c → c.isDigit = false

theorem EndsNumber.digits {text : List Char} (ends : EndsNumber text) : EndsDigits text :=
  fun c first => (ends c first).1

theorem endsDigits_cons {c : Char} {text : List Char} (other : c.isDigit = false) :
    EndsDigits (c :: text) := by
  intro first same
  obtain rfl := Option.some.inj same
  exact other

section Digits

variable {digits after : List Char}

theorem reads_digits (all : ∀ c ∈ digits, c.isDigit = true) (ends : EndsDigits after) :
    Reads (takeWhile Char.isDigit) (digits ++ after) after digits := by
  have stops : after.takeWhile Char.isDigit = [] ∧ after.dropWhile Char.isDigit = after := by
    cases after with
    | nil => exact ⟨rfl, rfl⟩
    | cons c rest =>
      have other : ¬c.isDigit = true := by
        rw [ends c rfl]
        exact Bool.false_ne_true
      exact ⟨List.takeWhile_cons_of_neg other, List.dropWhile_cons_of_neg other⟩
  have taken := reads_takeWhile Char.isDigit (digits ++ after)
  rwa [List.takeWhile_append_of_pos all, List.dropWhile_append_of_pos all, stops.1, stops.2,
    List.append_nil] at taken

theorem le_ofDigitChars (digits : List Char) (n : Nat) : n ≤ Nat.ofDigitChars 10 digits n := by
  induction digits generalizing n with
  | nil => exact le_rfl
  | cons c rest ih =>
    rw [Nat.ofDigitChars_cons]
    have next := ih (10 * n + (c.toNat - '0'.toNat))
    omega

/-- Digits that stay below 2^64 are all taken. -/
theorem gather_all {n : Nat} (word : Nat.ofDigitChars 10 digits n < 2 ^ 64) :
    gather n digits = (Nat.ofDigitChars 10 digits n, []) := by
  induction digits generalizing n with
  | nil => rfl
  | cons c rest ih =>
    have next : n * 10 + digitValue c = 10 * n + (c.toNat - '0'.toNat) := by
      rw [digitValue, mul_comm]
      rfl
    rw [Nat.ofDigitChars_cons, ← next] at word ⊢
    have fits : n * 10 + digitValue c < 0x10000000000000000 := (le_ofDigitChars _ _).trans_lt word
    rw [gather, if_pos fits, ih word]

/-- The digits of an exponent below 2^31 are all taken, if there are rounds for them. -/
theorem reads_exponentDigits {zero up : Bool} {rounds n : Nat}
    (all : ∀ c ∈ digits, c.isDigit = true) (ends : EndsDigits after)
    (enough : digits.length ≤ rounds) (small : Nat.ofDigitChars 10 digits n < 2 ^ 31) :
    Reads (exponentDigits zero up rounds n) (digits ++ after) after
      (some (Nat.ofDigitChars 10 digits n)) := by
  induction digits generalizing rounds n with
  | nil =>
    cases rounds with
    | zero => exact reads_pure _ _
    | succ rounds =>
      refine (reads_peek _).bind ?_
      cases after with
      | nil => exact reads_pure _ _
      | cons c rest =>
        have other : ¬c.isDigit = true := by
          rw [ends c rfl]
          exact Bool.false_ne_true
        simp only [List.nil_append, List.head?_cons, if_neg other]
        exact reads_pure _ _
  | cons c rest ih =>
    cases rounds with
    | zero => exact absurd enough (Nat.not_succ_le_zero _)
    | succ rounds =>
      have next : n * 10 + digitValue c = 10 * n + (c.toNat - '0'.toNat) := by
        rw [digitValue, mul_comm]
        rfl
      rw [Nat.ofDigitChars_cons, ← next] at small ⊢
      have fits : n * 10 + digitValue c < 0x80000000 := (le_ofDigitChars _ _).trans_lt small
      refine (reads_peek _).bind ?_
      simp only [List.cons_append, List.head?_cons, if_pos (all c List.mem_cons_self), if_pos fits]
      exact (reads_advance c _).bind (ih (fun d inside => all d (List.mem_cons_of_mem c inside))
        (Nat.le_of_succ_le_succ enough) small)

/-- Digits are worth less than the power of ten of their number. -/
theorem ofDigitChars_lt (all : ∀ c ∈ digits, c.isDigit = true) (n : Nat) :
    Nat.ofDigitChars 10 digits n < (n + 1) * 10 ^ digits.length := by
  induction digits generalizing n with
  | nil => exact (Nat.lt_succ_self n).trans_eq (Nat.mul_one _).symm
  | cons c rest ih =>
    have digit : c.toNat - '0'.toNat < 10 := by
      have bound := (Char.isDigit_iff_toNat.1 (all c List.mem_cons_self)).2
      have zero : '0'.toNat = 48 := rfl
      have nine : '9'.toNat = 57 := rfl
      omega
    rw [Nat.ofDigitChars_cons]
    refine (ih (fun d inside => all d (List.mem_cons_of_mem c inside)) _).trans_le ?_
    rw [List.length_cons, pow_succ', ← mul_assoc]
    exact Nat.mul_le_mul_right _ (by omega)

theorem ofDigitChars_zeros (count : Nat) (digits : List Char) :
    Nat.ofDigitChars 10 (Double.zeros count ++ digits) 0 = Nat.ofDigitChars 10 digits 0 := by
  rw [Nat.ofDigitChars_append]
  congr 1
  induction count with
  | zero => rfl
  | succ count ih => exact ih

theorem zeros_isDigit (count : Nat) : ∀ c ∈ Double.zeros count, c.isDigit = true := by
  intro c inside
  obtain rfl := List.eq_of_mem_replicate inside
  rfl

theorem toDigits_isDigit (n : Nat) : ∀ c ∈ Nat.toDigits 10 n, c.isDigit = true :=
  fun _ inside => Nat.isDigit_of_mem_toDigits (by decide) (by decide) inside

theorem ofDigitChars_toDigits (n : Nat) : Nat.ofDigitChars 10 (Nat.toDigits 10 n) 0 = n :=
  Nat.ofDigitChars_toDigits (by decide) (by decide)

/-- Only zero begins with the digit zero. -/
theorem toDigits_head (n : Nat) :
    ∃ c rest, Nat.toDigits 10 n = c :: rest ∧ (c = '0' → n = 0) := by
  induction n using Nat.strongRecOn with
  | _ n ih =>
    rw [Nat.toDigits_eq_if (by decide)]
    split
    next single =>
      refine ⟨_, [], rfl, ?_⟩
      have named : ∀ m < 10, Nat.digitChar m = '0' → m = 0 := by decide
      exact named n single
    next more =>
      obtain ⟨c, rest, same, first⟩ := ih (n / 10) (by omega)
      rw [same]
      exact ⟨c, rest ++ [(n % 10).digitChar], rfl, fun zero => by have := first zero; omega⟩

end Digits

/-! ## What follows the digits before the point -/

/-- What is read behind the digits before the point, of which this is the first. -/
def numberTail (negative : Bool) (c : Char) (digits : List Char) : Reader Json := do
  let (significand, dropped) := gather 0 digits
  match ← peek with
  | some '.' => fractionPart negative significand dropped.length
  | some next =>
    if isExponentLetter next then exponentPart negative significand dropped.length
    else if c = '0' ∧ next.isDigit then failAhead .invalidNumber
    else if dropped.isEmpty then wholeNumber negative significand
    else doubleOf negative significand dropped.length
  | none =>
    if dropped.isEmpty then wholeNumber negative significand
    else doubleOf negative significand dropped.length

theorem reads_number {negative : Bool} {c : Char} {digits between after : List Char} {value : Json}
    (all : ∀ d ∈ c :: digits, d.isDigit = true) (first : c = '0' → digits = [])
    (ends : EndsDigits between) (rest : Reads (numberTail negative c (c :: digits)) between after value) :
    Reads (number negative) (c :: digits ++ between) after value := by
  refine (reads_peek _).bind ?_
  have digit : ¬(!c.isDigit) = true := by
    rw [all c List.mem_cons_self]
    exact Bool.false_ne_true
  simp only [List.cons_append, List.head?_cons, if_neg digit]
  by_cases zero : c = '0'
  · rw [if_pos zero]
    obtain rfl := first zero
    exact (reads_advance c _).bind rest
  · rw [if_neg zero]
    exact (reads_digits all ends).bind rest

/-- What is read behind the sign of an exponent. -/
def exponentTail (negative up : Bool) (significand : Nat) (power : Int) : Reader Json := do
  match ← peek with
  | none => failHere .endOfValue
  | some c =>
    if !c.isDigit then failAhead .invalidNumber
    else
      match ← exponentDigits (significand == 0) up (← budget) 0 with
      | some exponent =>
        doubleOf negative significand (if up then power + exponent else power - exponent)
      | none => pure (.double (Double.zero negative))

section Tails

variable {negative : Bool} {significand : Nat} {power : Int} {after : List Char} {a : Double}

theorem reads_doubleOf (made : Double.ofDecimal negative significand power = some a)
    (text : List Char) : Reads (doubleOf negative significand power) text text (.double a) := by
  rw [doubleOf, made]
  exact reads_pure _ _

theorem reads_exponentTail {up : Bool} {n : Nat} (small : n < 2 ^ 31) (ends : EndsDigits after)
    (made : Double.ofDecimal negative significand (if up then power + n else power - n) = some a) :
    Reads (exponentTail negative up significand power) (Nat.toDigits 10 n ++ after) after
      (.double a) := by
  obtain ⟨c, rest, same, _⟩ := toDigits_head n
  have all := toDigits_isDigit n
  have value := ofDigitChars_toDigits n
  rw [same] at all value ⊢
  have digit : ¬(!c.isDigit) = true := by
    rw [all c List.mem_cons_self]
    exact Bool.false_ne_true
  have enough : (c :: rest).length ≤ 2 * (c :: rest ++ after).length + 2 := by
    rw [List.length_append]
    omega
  refine (reads_peek _).bind ?_
  simp only [List.cons_append, List.head?_cons, if_neg digit]
  refine (reads_budget _).bind ((reads_exponentDigits all ends enough ?_).bind ?_)
  · rwa [value]
  · rw [value]
    exact reads_doubleOf made _

theorem reads_exponentPart {leading : Int} (small : leading.natAbs < 2 ^ 31) (e : Char)
    (ends : EndsDigits after)
    (made : Double.ofDecimal negative significand (power + leading) = some a) :
    Reads (exponentPart negative significand power)
      (e :: Double.exponentText leading ++ after) after (.double a) := by
  refine (reads_advance e _).bind ?_
  cases leading with
  | ofNat n =>
    have up : Reads (exponentTail negative true significand power) (Nat.toDigits 10 n ++ after) after
        (.double a) := reads_exponentTail small ends made
    exact (reads_peek _).bind ((reads_advance '+' _).bind up)
  | negSucc n =>
    have down : Reads (exponentTail negative false significand power)
        (Nat.toDigits 10 (n + 1) ++ after) after (.double a) := reads_exponentTail small ends made
    exact (reads_peek _).bind ((reads_advance '-' _).bind down)

section Fractions

variable {digits rest : List Char} (filled : digits ≠ []) (all : ∀ c ∈ digits, c.isDigit = true)
  (word : Nat.ofDigitChars 10 digits significand < 2 ^ 64)

include filled all word

theorem reads_fractionPart (ends : EndsNumber after)
    (made : Double.ofDecimal negative (Nat.ofDigitChars 10 digits significand)
      (power - digits.length) = some a) :
    Reads (fractionPart negative significand power) ('.' :: digits ++ after) after (.double a) := by
  have nonempty : ¬digits.isEmpty = true := by
    rwa [List.isEmpty_iff]
  refine (reads_advance '.' _).bind ((reads_digits all ends.digits).bind ?_)
  rw [if_neg nonempty, gather_all word]
  refine (reads_peek _).bind ?_
  cases after with
  | nil => exact reads_doubleOf made _
  | cons c more =>
    have other : ¬isExponentLetter c = true := by
      rw [(ends c rfl).2.2]
      exact Bool.false_ne_true
    simp only [List.head?_cons, if_neg other]
    exact reads_doubleOf made _

theorem reads_fractionPart_exponent {value : Json}
    (reads : Reads (exponentPart negative (Nat.ofDigitChars 10 digits significand)
      (power - digits.length)) ('e' :: rest) after value) :
    Reads (fractionPart negative significand power) ('.' :: digits ++ 'e' :: rest) after value := by
  have nonempty : ¬digits.isEmpty = true := by
    rwa [List.isEmpty_iff]
  refine (reads_advance '.' _).bind ((reads_digits all (endsDigits_cons rfl)).bind ?_)
  rw [if_neg nonempty, gather_all word]
  exact (reads_peek _).bind reads

end Fractions

/-! ## Numbers as they are written -/

theorem reads_wholeNumber {n : Nat} {value : Json} (word : n < 2 ^ 64) (ends : EndsNumber after)
    (reads : Reads (wholeNumber negative n) after after value) :
    Reads (number negative) (Nat.toDigits 10 n ++ after) after value := by
  obtain ⟨c, rest, same, first⟩ := toDigits_head n
  have all := toDigits_isDigit n
  have meant := ofDigitChars_toDigits n
  have alone (zero : c = '0') : rest = [] := by
    have none := first zero
    rw [none] at same
    exact (List.cons.inj same).2.symm
  rw [same] at all meant ⊢
  rw [← meant] at word
  refine reads_number all alone ends.digits ?_
  unfold numberTail
  rw [gather_all word, meant]
  refine (reads_peek _).bind ?_
  cases after with
  | nil => exact reads
  | cons d more =>
    obtain ⟨digit, point, letter⟩ := ends d rfl
    have noLetter : ¬isExponentLetter d = true := by
      rw [letter]
      exact Bool.false_ne_true
    have noDigit : ¬(c = '0' ∧ d.isDigit = true) := by
      rintro ⟨_, both⟩
      rw [digit] at both
      cases both
    simp only [List.head?_cons]
    rw [if_neg noLetter, if_neg noDigit]
    exact reads

/-- Digits, a point and digits. -/
theorem reads_pointed {whole places : List Char} {c : Char}
    (all : ∀ d ∈ c :: whole ++ places, d.isDigit = true) (first : c = '0' → whole = [])
    (filled : places ≠ []) (word : Nat.ofDigitChars 10 (c :: whole ++ places) 0 < 2 ^ 64) :
    ∃ a, a.Fits ∧ ∀ after, EndsNumber after →
      Reads (number negative) (c :: whole ++ '.' :: places ++ after) after (.double a) := by
  rw [Nat.ofDigitChars_append] at word
  obtain ⟨a, made⟩ := Double.ofDecimal_down negative word (places.length - 1)
  have down : Int.negSucc (places.length - 1) = 0 - (places.length : Int) := by
    have some := List.length_pos_of_ne_nil filled
    omega
  rw [down] at made
  have short : Nat.ofDigitChars 10 (c :: whole) 0 < 2 ^ 64 := (le_ofDigitChars _ _).trans_lt word
  have front : ∀ d ∈ c :: whole, d.isDigit = true :=
    fun d inside => all d (List.mem_append_left _ inside)
  have back : ∀ d ∈ places, d.isDigit = true :=
    fun d inside => all d (List.mem_append_right _ inside)
  refine ⟨a, Double.fits_ofDecimal made, fun after ends => ?_⟩
  rw [List.append_assoc]
  refine reads_number front first (endsDigits_cons rfl) ?_
  unfold numberTail
  rw [gather_all short]
  exact (reads_peek _).bind (reads_fractionPart filled back word ends made)

/-- One digit, more behind a point if there are any, and a power of ten. -/
theorem reads_scientific {c : Char} {places : List Char} {leading : Int}
    (all : ∀ d ∈ c :: places, d.isDigit = true)
    (word : Nat.ofDigitChars 10 (c :: places) 0 < 2 ^ 64) (small : leading.natAbs < 2 ^ 31)
    (ends : EndsDigits after)
    (made : Double.ofDecimal negative (Nat.ofDigitChars 10 (c :: places) 0)
      (leading - places.length) = some a) :
    Reads (number negative)
      ((match places with
        | [] => c :: 'e' :: Double.exponentText leading
        | first :: rest => c :: '.' :: first :: rest ++ 'e' :: Double.exponentText leading) ++ after)
      after (.double a) := by
  have digit : ∀ d ∈ [c], d.isDigit = true :=
    fun d inside => all d (List.mem_cons.2 (.inl (List.mem_singleton.1 inside)))
  cases places with
  | nil =>
    have start : Reads (number negative) ([c] ++ ('e' :: Double.exponentText leading ++ after)) after
        (.double a) := by
      refine reads_number digit (fun _ => rfl) (endsDigits_cons rfl) ?_
      unfold numberTail
      rw [gather_all word]
      refine (reads_peek _).bind (reads_exponentPart small 'e' ends ?_)
      rwa [List.length_nil, Nat.cast_zero, sub_zero, ← zero_add leading] at made
    exact start
  | cons first rest =>
    have more : Nat.ofDigitChars 10 (first :: rest) (Nat.ofDigitChars 10 [c] 0) =
        Nat.ofDigitChars 10 (c :: first :: rest) 0 := rfl
    rw [← more] at word made
    have short : Nat.ofDigitChars 10 [c] 0 < 2 ^ 64 := (le_ofDigitChars _ _).trans_lt word
    have start : Reads (number negative)
        ([c] ++ ('.' :: (first :: rest) ++ 'e' :: (Double.exponentText leading ++ after))) after
        (.double a) := by
      refine reads_number digit (fun _ => rfl) (endsDigits_cons rfl) ?_
      unfold numberTail
      rw [gather_all short]
      refine (reads_peek _).bind (reads_fractionPart_exponent (List.cons_ne_nil _ _)
        (fun d inside => all d (List.mem_cons_of_mem c inside)) word
        (reads_exponentPart small 'e' ends ?_))
      rwa [List.length_nil, Nat.cast_zero, zero_sub, neg_add_eq_sub]
    simpa only [List.append_assoc, List.cons_append, List.nil_append] using start

/-- The text of a decimal is read as a number with the same digits and power of ten, or with one
more digit, a zero. -/
theorem reads_magnitudeText (negative : Bool) {v : Decimal} (readable : v.Readable) :
    ∃ a, a.Fits ∧ ∀ after, EndsNumber after →
      Reads (number negative) (Double.magnitudeText v ++ after) after (.double a) := by
  have all := toDigits_isDigit v.digits
  have meant := ofDigitChars_toDigits v.digits
  have word : v.digits < 2 ^ 64 := readable.digits.trans_lt (by decide)
  have few : (Nat.toDigits 10 v.digits).length ≤ 18 :=
    (Double.length_toDigits_le (by decide)).2 (readable.digits.trans_lt (by decide))
  obtain ⟨c, rest, same, first⟩ := toDigits_head v.digits
  unfold Double.magnitudeText
  rw [same] at all meant few ⊢
  dsimp only
  split
  next none =>
    exact reads_pointed (zeros_isDigit 2) (fun _ => rfl) (List.cons_ne_nil '0' []) (by decide)
  next some =>
    have front (zero : c = '0') : False := some (first zero)
    split
    next near =>
      split
      next up power =>
        have digits : ∀ d ∈ c :: (rest ++ Double.zeros up) ++ ['0'], d.isDigit = true := by
          rw [← List.cons_append]
          exact List.forall_mem_append.2
            ⟨List.forall_mem_append.2 ⟨all, zeros_isDigit up⟩, zeros_isDigit 1⟩
        have short : (c :: (rest ++ Double.zeros up) ++ ['0']).length ≤ 17 := by
          simp only [List.length_cons, List.length_append, Double.zeros, List.length_replicate,
            List.length_nil] at near ⊢
          rw [power, Int.ofNat_eq_natCast] at near
          omega
        have fits : Nat.ofDigitChars 10 (c :: (rest ++ Double.zeros up) ++ ['0']) 0 < 2 ^ 64 := by
          refine (ofDigitChars_lt digits 0).trans_le ?_
          rw [Nat.zero_add, Nat.one_mul]
          exact (Nat.pow_le_pow_right (by decide) short).trans (by decide)
        obtain ⟨a, rounded, reads⟩ := reads_pointed digits (fun zero => (front zero).elim)
          (List.cons_ne_nil '0' []) fits
        refine ⟨a, rounded, fun after ends => ?_⟩
        simpa only [List.append_assoc, List.cons_append, List.nil_append] using reads after ends
      next down power =>
        split
        next inside =>
          obtain ⟨k, before⟩ : ∃ k, (c :: rest).length - (down + 1) = k + 1 :=
            ⟨(c :: rest).length - (down + 1) - 1, by omega⟩
          have joined : c :: rest.take k ++ rest.drop k = c :: rest := by
            rw [List.cons_append, List.take_append_drop]
          have filled : rest.drop k ≠ [] := by
            refine List.ne_nil_of_length_pos ?_
            rw [List.length_drop]
            rw [List.length_cons] at before
            omega
          rw [before, List.take_succ_cons, List.drop_succ_cons]
          refine reads_pointed ?_ (fun zero => (front zero).elim) filled ?_
          · rwa [joined]
          · rwa [joined, meant]
        next =>
          set nothing := Double.zeros (down + 1 - (c :: rest).length) with zeros
          have digits : ∀ d ∈ '0' :: [] ++ (nothing ++ c :: rest), d.isDigit = true :=
            List.forall_mem_append.2 ⟨zeros_isDigit 1, List.forall_mem_append.2 ⟨zeros_isDigit _, all⟩⟩
          have value : Nat.ofDigitChars 10 ('0' :: [] ++ (nothing ++ c :: rest)) 0 = v.digits := by
            rw [← meant]
            exact ofDigitChars_zeros (down + 1 - (c :: rest).length + 1) (c :: rest)
          have filled : nothing ++ c :: rest ≠ [] :=
            List.append_ne_nil_of_right_ne_nil _ (List.cons_ne_nil c rest)
          exact reads_pointed digits (fun _ => rfl) filled (by rwa [value])
    next far =>
      obtain ⟨a, made⟩ := readable.read some negative
      have power : v.exponent = ((c :: rest).length + v.exponent - 1) - rest.length := by
        rw [List.length_cons]
        omega
      have least := readable.least some
      have greatest := readable.greatest some
      rw [power, ← meant] at made
      refine ⟨a, Double.fits_ofDecimal made, fun after ends => ?_⟩
      have reads := reads_scientific all (by rwa [meant]) (by omega) ends.digits made
      cases rest with
      | nil => exact reads
      | cons d more => exact reads

end Tails

end TenantWork.Json.Reader
