import Mathlib.Algebra.Group.Nat.Defs
import TenantWork.Time.Rfc3339
/-!
Times of fixed width. A number in a fixed number of digits is read back, and such texts compare as
the numbers do. So a point of universal time in a year with four digits is read back from its text
of nine places, and two such texts stand in the order of the instants, leap seconds included. A leap
second that universal time does not have is written as the next second, and read back as that.
-/
namespace TenantWork.Time.Rfc3339

/-! ## Digits -/

theorem padded_length {width n : Nat} (wide : 0 < width) (fits : n < 10 ^ width) :
    (padded width n).length = width := by
  have short := (Nat.length_toDigits_le_iff (b := 10) (by decide) wide).2 fits
  simp only [padded, List.length_append, List.length_replicate]
  omega

theorem padded_succ {width n : Nat} (wide : 0 < width) :
    padded (width + 1) n = padded width (n / 10) ++ [(n % 10).digitChar] := by
  unfold padded
  by_cases small : n < 10
  · have zero : n / 10 = 0 := by omega
    have same : n % 10 = n := by omega
    rw [zero, same, Nat.toDigits_of_lt_base small, Nat.toDigits_zero]
    obtain ⟨rest, rfl⟩ : ∃ rest, width = rest + 1 := ⟨width - 1, by omega⟩
    simp [List.replicate_succ', List.append_assoc]
  · rw [Nat.toDigits_of_base_le (by decide) (by omega)]
    simp only [List.length_append, List.length_singleton, Nat.add_sub_add_right, List.append_assoc]

theorem padded_one {n : Nat} (fits : n < 10) : padded 1 n = [n.digitChar] := by
  simp [padded, Nat.toDigits_of_lt_base fits]

/-- Induction on the digits of a number, from the first one on. -/
theorem padded_induction {motive : Nat → Nat → Prop} (one : ∀ n, n < 10 → motive 1 n)
    (more : ∀ width n, 0 < width → n / 10 < 10 ^ width → motive width (n / 10) →
      motive (width + 1) n) {width n : Nat} (wide : 0 < width) (fits : n < 10 ^ width) :
    motive width n := by
  induction width generalizing n with
  | zero => cases wide
  | succ width ih =>
    cases width with
    | zero => exact one n (by simpa using fits)
    | succ width =>
      have shorter : n / 10 < 10 ^ (width + 1) := by
        rw [Nat.pow_succ] at fits
        omega
      exact more _ n (Nat.succ_pos _) shorter (ih (Nat.succ_pos _) shorter)

theorem digit_value {d : Nat} (small : d < 10) :
    d.digitChar.isDigit = true ∧ d.digitChar.toNat - 0x30 = d := by
  rw [Nat.isDigit_digitChar, Nat.toNat_digitChar_of_lt_ten small]
  exact ⟨decide_eq_true small, by omega⟩

theorem digit_lt {a b : Nat} (smallA : a < 10) (smallB : b < 10) :
    a.digitChar < b.digitChar ↔ a < b := by
  show a.digitChar.toNat < b.digitChar.toNat ↔ a < b
  rw [Nat.toNat_digitChar_of_lt_ten smallA, Nat.toNat_digitChar_of_lt_ten smallB]
  omega

theorem digit_eq {a b : Nat} (smallA : a < 10) (smallB : b < 10) :
    a.digitChar = b.digitChar ↔ a = b := by
  constructor
  · intro same
    have values := congrArg Char.toNat same
    rw [Nat.toNat_digitChar_of_lt_ten smallA, Nat.toNat_digitChar_of_lt_ten smallB] at values
    omega
  · rintro rfl
    rfl

theorem padded_lt {width a b : Nat} (wide : 0 < width) (fitsA : a < 10 ^ width)
    (fitsB : b < 10 ^ width) (x y : List Char) :
    padded width a ++ x < padded width b ++ y ↔ a < b ∨ a = b ∧ x < y := by
  refine padded_induction (motive := fun width a => ∀ b, b < 10 ^ width → ∀ x y : List Char,
    (padded width a ++ x < padded width b ++ y ↔ a < b ∨ a = b ∧ x < y)) ?_ ?_ wide fitsA b fitsB x y
  · intro a small b fits x y
    have smallB : b < 10 := by simpa using fits
    rw [padded_one small, padded_one smallB, List.singleton_append, List.singleton_append,
      List.cons_lt_cons_iff, digit_lt small smallB, digit_eq small smallB]
  · intro width a wide _ ih b fits x y
    have shorter : b / 10 < 10 ^ width := by
      rw [Nat.pow_succ] at fits
      omega
    have smallA : a % 10 < 10 := Nat.mod_lt _ (by decide)
    have smallB : b % 10 < 10 := Nat.mod_lt _ (by decide)
    rw [padded_succ wide, padded_succ wide, List.append_assoc, List.append_assoc, ih _ shorter,
      List.singleton_append, List.singleton_append, List.cons_lt_cons_iff, digit_lt smallA smallB,
      digit_eq smallA smallB]
    constructor
    · rintro (less | ⟨same, less | ⟨last, less⟩⟩)
      · exact .inl (by omega)
      · exact .inl (by omega)
      · exact .inr ⟨by omega, less⟩
    · rintro (less | ⟨rfl, less⟩)
      · by_cases same : a / 10 = b / 10
        · exact .inr ⟨same, .inl (by omega)⟩
        · exact .inl (by omega)
      · exact .inr ⟨rfl, .inr ⟨rfl, less⟩⟩

theorem digitsFrom_padded {width n : Nat} (wide : 0 < width) (fits : n < 10 ^ width)
    (most value : Nat) (rest : List Char) :
    digitsFrom (width + most) value (padded width n ++ rest) =
      digitsFrom most (value * 10 ^ width + n) rest := by
  refine padded_induction (motive := fun width n => ∀ most value rest,
    digitsFrom (width + most) value (padded width n ++ rest) =
      digitsFrom most (value * 10 ^ width + n) rest) ?_ ?_ wide fits most value rest
  · intro n small most value rest
    obtain ⟨isDigit, worth⟩ := digit_value small
    rw [padded_one small, List.singleton_append, Nat.add_comm, digitsFrom, if_pos isDigit, worth,
      Nat.pow_one]
  · intro width n wide _ ih most value rest
    obtain ⟨isDigit, worth⟩ := digit_value (Nat.mod_lt n (by decide : 0 < 10))
    have total : (value * 10 ^ width + n / 10) * 10 + n % 10 = value * 10 ^ (width + 1) + n := by
      rw [Nat.pow_succ, ← Nat.mul_assoc]
      omega
    rw [padded_succ wide, List.append_assoc, Nat.add_assoc, Nat.add_comm 1 most, ih,
      List.singleton_append, digitsFrom, if_pos isDigit, worth, total]

theorem takeWhile_padded {width n : Nat} (wide : 0 < width) (fits : n < 10 ^ width)
    (rest : List Char) :
    (padded width n ++ rest).takeWhile Char.isDigit =
        padded width n ++ rest.takeWhile Char.isDigit ∧
      (padded width n ++ rest).dropWhile Char.isDigit = rest.dropWhile Char.isDigit := by
  have digits : ∀ c ∈ padded width n, c.isDigit = true := by
    refine padded_induction (motive := fun width n => ∀ c ∈ padded width n, c.isDigit = true)
      ?_ ?_ wide fits
    · intro n small c inside
      rw [padded_one small, List.mem_singleton] at inside
      rw [inside]
      exact (digit_value small).1
    · intro width n wide _ ih c inside
      rw [padded_succ wide, List.mem_append, List.mem_singleton] at inside
      obtain before | rfl := inside
      · exact ih c before
      · exact (digit_value (Nat.mod_lt n (by decide))).1
  constructor
  · exact List.takeWhile_append_of_pos digits
  · exact List.dropWhile_append_of_pos digits

theorem byteLength_ge (text : List Char) : text.length ≤ byteLength text := by
  have grows (total : Nat) : total + text.length ≤
      text.foldl (fun total c => total + c.utf8Size) total := by
    induction text generalizing total with
    | nil => exact Nat.le_refl _
    | cons c rest ih =>
      have size := c.utf8Size_pos
      have more := ih (total + c.utf8Size)
      rw [List.length_cons, List.foldl_cons]
      omega
  have all := grows 0
  rwa [Nat.zero_add] at all

/-- A number of fixed width is read back where no more digits may be taken, or none follow. -/
theorem number_padded_upTo {least width most n : Nat} (wide : 0 < width) (fits : n < 10 ^ width)
    (enough : least ≤ width) (rest : List Char)
    (stops : digitsFrom most n rest = (n, rest)) :
    number least (width + most) (padded width n ++ rest) = .ok (n, rest) := by
  have length := padded_length wide fits
  have bytes := byteLength_ge (padded width n ++ rest)
  have digits := (takeWhile_padded wide fits rest).1
  unfold number
  rw [if_neg, if_neg]
  · have read := digitsFrom_padded wide fits most 0 rest
    rw [Nat.zero_mul, Nat.zero_add, stops] at read
    rw [read]
  · rw [digits, List.length_append]
    omega
  · rw [List.length_append] at bytes
    omega

/-- Of as many digits as may be taken, a number is read back, whatever follows it. -/
theorem number_padded {least width n : Nat} (wide : 0 < width) (fits : n < 10 ^ width)
    (enough : least ≤ width) (rest : List Char) :
    number least width (padded width n ++ rest) = .ok (n, rest) := by
  have stops : digitsFrom 0 n rest = (n, rest) := by rw [digitsFrom]
  exact number_padded_upTo wide fits enough rest stops

/-! ## Instants -/

/-- The years written in four digits. -/
def InYears (t : Instant) : Prop := 0 ≤ t.date.year ∧ t.date.year ≤ 9999

/-- Universal time prolongs no second of a minute but the last. -/
def Universal (t : Instant) : Prop := nanosPerSecond ≤ t.nano → t.second % 60 = 59

instance (t : Instant) : Decidable (InYears t) := inferInstanceAs (Decidable (_ ∧ _))

instance (t : Instant) : Decidable (Universal t) := inferInstanceAs (Decidable (_ → _))

/-- The points of universal time in the years written in four digits. -/
structure InRange (t : Instant) : Prop where
  years : InYears t
  universal : Universal t

theorem inRange_epoch : InRange .epoch := by
  constructor <;> decide

/-- The second as it is written: a leap second at the end of a minute is second 60. -/
def writtenSecond (t : Instant) : Nat :=
  t.second % 60 + (if nanosPerSecond ≤ t.nano then 1 else 0)

theorem wholeText_append {t : Instant} (years : InYears t) (rest : List Char) :
    wholeText t ++ rest =
      padded 4 t.date.year.toNat ++ '-' :: (padded 2 t.date.month ++ '-' :: (padded 2 t.date.day ++
        'T' :: (padded 2 (t.second / 3600) ++ ':' :: (padded 2 (t.second / 60 % 60) ++
          ':' :: (padded 2 (writtenSecond t) ++ rest))))) := by
  obtain ⟨low, high⟩ := years
  obtain ⟨year, same⟩ := Int.eq_ofNat_of_zero_le low
  have short : year ≤ 9999 := by omega
  have text : yearText t.date.year = padded 4 t.date.year.toNat := by
    rw [same]
    simp only [yearText, Int.toNat_natCast, if_pos short]
  rw [wholeText, text]
  simp only [List.append_assoc, List.cons_append, writtenSecond]

theorem writeNanos_toList {t : Instant} (years : InYears t) :
    (writeNanos t).toList =
      padded 4 t.date.year.toNat ++ '-' :: (padded 2 t.date.month ++ '-' :: (padded 2 t.date.day ++
        'T' :: (padded 2 (t.second / 3600) ++ ':' :: (padded 2 (t.second / 60 % 60) ++
          ':' :: (padded 2 (writtenSecond t) ++
            '.' :: (padded 9 (t.nano % nanosPerSecond) ++ ['Z'])))))) := by
  rw [writeNanos, String.toList_ofList, List.append_assoc, wholeText_append years,
    List.cons_append]

theorem month_fits (date : Date) : date.month < 10 ^ 2 := by
  have last := date.month_exists.2
  omega

theorem day_fits (date : Date) : date.day < 10 ^ 2 ∧ date.day ≤ 31 := by
  have last := date.day_exists.2
  have long : monthLength date.year date.month ≤ 31 := by
    unfold monthLength
    split
    · split <;> decide
    all_goals decide
  omega

theorem writtenSecond_fits (t : Instant) : writtenSecond t < 10 ^ 2 ∧ writtenSecond t ≤ 60 := by
  unfold writtenSecond
  split <;> omega

theorem mark_same (c : Char) (rest : List Char) : mark c (c :: rest) = .ok rest := if_pos rfl

theorem separator_same (rest : List Char) : separator ('T' :: rest) = .ok rest := by
  rw [separator, if_pos (.inr (.inl rfl))]

theorem inRange_eq {low high n : Nat} (above : low ≤ n) (below : n ≤ high) :
    inRange low high n = .ok () := if_pos ⟨above, below⟩

theorem fraction_padded {places n : Nat} (wide : 0 < places) (short : places ≤ 9)
    (fits : n < 10 ^ places) :
    fraction ('.' :: (padded places n ++ ['Z'])) = .ok (n * 10 ^ (9 - places), ['Z']) := by
  obtain ⟨taken, dropped⟩ := takeWhile_padded wide fits ['Z']
  have length := padded_length wide fits
  have none : ['Z'].takeWhile Char.isDigit = [] ∧ ['Z'].dropWhile Char.isDigit = ['Z'] := by decide
  have stops : digitsFrom (9 - places) n ['Z'] = (n, ['Z']) := by
    cases 9 - places <;> rfl
  have read := number_padded_upTo wide fits wide ['Z'] stops
  rw [Nat.add_sub_cancel' short] at read
  rw [none.1, List.append_nil] at taken
  rw [none.2] at dropped
  simp only [fraction, read, taken, dropped, length]
  rfl

/-- A leap second comes after the second that it prolongs. -/
theorem written_parts {t : Instant} (universal : Universal t) :
    (writtenSecond t = t.second % 60 ∧ t.nano % nanosPerSecond = t.nano ∧
        t.nano < nanosPerSecond) ∨
      (t.second % 60 = 59 ∧ writtenSecond t = 60 ∧
        t.nano = t.nano % nanosPerSecond + nanosPerSecond) := by
  have bound := t.nano_exists
  unfold writtenSecond
  by_cases leaps : nanosPerSecond ≤ t.nano
  · right
    have last := universal leaps
    rw [if_pos leaps, last]
    refine ⟨rfl, rfl, ?_⟩
    simp only [nanosPerSecond] at bound leaps ⊢
    omega
  · left
    have short := Nat.lt_of_not_le leaps
    rw [if_neg leaps, Nat.add_zero]
    exact ⟨rfl, Nat.mod_eq_of_lt short, short⟩

theorem unwritten_parts {t : Instant} (universal : Universal t) :
    (if writtenSecond t = 60 then (59, t.nano % nanosPerSecond + nanosPerSecond)
      else (writtenSecond t, t.nano % nanosPerSecond)) = (t.second % 60, t.nano) := by
  obtain ⟨second, nano, _⟩ | ⟨last, second, nano⟩ := written_parts universal
  · rw [if_neg (by omega), second, nano]
  · rw [if_pos second, last, ← nano]

theorem assemble_eq {t : Instant} {hour minute second nano last : Nat} {shift : Int}
    (known : isYear t.date.year = true) (utc : shift = 0)
    (parts : (if second = 60 then (59, nano + nanosPerSecond) else (second, nano)) = (last, t.nano))
    (total : (hour * 3600 + minute * 60 + last : Int) - shift = t.second) :
    assemble t.date.year t.date.month t.date.day hour minute second nano shift = .ok t := by
  have day : (t.second : Int) / secondsPerDay = 0 :=
    Int.ediv_eq_zero_of_lt (Int.natCast_nonneg _) (Int.ofNat_lt.2 t.second_exists)
  have whole : ((t.second : Int) - 0 * secondsPerDay).toNat = t.second := by
    rw [Int.zero_mul, Int.sub_zero, Int.toNat_natCast]
  have same : t.date.addDays 0 = t.date := if_pos rfl
  rw [assemble, if_neg (by rw [known]; exact Bool.false_ne_true), Date.ofParts?_self]
  dsimp only
  rw [if_neg (by omega), parts]
  dsimp only
  rw [total, day, whole, same, Instant.ofParts?_self]
  dsimp only
  rw [if_pos known]

theorem assemble_parts {t : Instant} (inRange : InRange t) :
    assemble t.date.year.toNat t.date.month t.date.day (t.second / 3600) (t.second / 60 % 60)
      (writtenSecond t) (t.nano % nanosPerSecond) 0 = .ok t := by
  obtain ⟨⟨low, high⟩, universal⟩ := inRange
  have known : isYear t.date.year = true := by
    simp only [isYear, Bool.and_eq_true, decide_eq_true_eq]
    omega
  rw [Int.toNat_of_nonneg low]
  refine assemble_eq known rfl (unwritten_parts universal) ?_
  omega

/-- An instant is read back from its text of fixed width. -/
theorem read_writeNanos {t : Instant} (inRange : InRange t) : read (writeNanos t) = .ok t := by
  have text := writeNanos_toList inRange.years
  have assembled := assemble_parts inRange
  obtain ⟨low, high⟩ := inRange.years
  have second := t.second_exists
  obtain ⟨firstMonth, lastMonth⟩ := t.date.month_exists
  obtain ⟨firstDay, _⟩ := t.date.day_exists
  obtain ⟨dayFits, lastDay⟩ := day_fits t.date
  obtain ⟨secondFits, lastSecond⟩ := writtenSecond_fits t
  have nano : t.nano % nanosPerSecond < 10 ^ 9 := Nat.mod_lt _ (by decide)
  have hours : t.second / 3600 ≤ 23 := by
    simp only [secondsPerDay] at second
    omega
  have minutes : t.second / 60 % 60 ≤ 59 := by omega
  have fraction := fraction_padded (by decide) (Nat.le_refl _) nano
  rw [Nat.sub_self, Nat.pow_zero, Nat.mul_one] at fraction
  have zone : offset (mark ':') ['Z'] = .ok (0, []) := rfl
  unfold read
  simp only [text, bind, Except.bind, mark_same, separator_same,
    number_padded (by decide : 0 < 4) (by omega : t.date.year.toNat < 10 ^ 4) (Nat.le_refl _),
    number_padded (by decide : 0 < 2) (month_fits t.date) (Nat.le_refl _), inRange_eq firstMonth lastMonth,
    number_padded (by decide : 0 < 2) dayFits (Nat.le_refl _), inRange_eq firstDay lastDay,
    number_padded (by decide : 0 < 2) (by omega : t.second / 3600 < 10 ^ 2) (Nat.le_refl _),
    inRange_eq (Nat.zero_le _) hours,
    number_padded (by decide : 0 < 2) (by omega : t.second / 60 % 60 < 10 ^ 2) (Nat.le_refl _),
    inRange_eq (Nat.zero_le _) minutes, number_padded (by decide : 0 < 2) secondFits (Nat.le_refl _),
    inRange_eq (Nat.zero_le _) lastSecond, fraction, zone, assembled]
  rfl

theorem writeNanos_inj {a b : Instant} (inRangeA : InRange a) (inRangeB : InRange b) :
    writeNanos a = writeNanos b ↔ a = b := by
  constructor
  · intro texts
    have done := read_writeNanos inRangeA
    rw [texts, read_writeNanos inRangeB] at done
    exact (Except.ok.inj done).symm
  · intro times
    rw [times]

/-- A year beyond four digits is written with a sign, and such a text is not read. -/
theorem inYears_of_read {t s : Instant} (done : read (writeNanos t) = .ok s) : InYears t := by
  have unread (sign : Char) (rest : List Char) (mark : sign.isDigit = false)
      (text : (writeNanos t).toList = sign :: rest) : InYears t := by
    have short : (List.takeWhile Char.isDigit (sign :: rest)).length < 4 := by
      rw [List.takeWhile_cons_of_neg (by rw [mark]; exact Bool.false_ne_true)]
      decide
    rw [read, text, number] at done
    split at done
    · cases done
    · cases done
  obtain ⟨rest, text⟩ : ∃ rest, (writeNanos t).toList = yearText t.date.year ++ rest := by
    rw [writeNanos, String.toList_ofList, wholeText]
    simp only [List.append_assoc, List.cons_append]
    exact ⟨_, rfl⟩
  cases year : t.date.year with
  | ofNat n =>
    by_cases small : n ≤ 9999
    · rw [InYears, year]
      exact ⟨Int.natCast_nonneg n, Int.ofNat_le.2 small⟩
    · refine unread '+' (padded 4 n ++ rest) rfl ?_
      rw [text, year, yearText, if_neg small, List.cons_append]
  | negSucc n =>
    refine unread '-' (padded 4 (n + 1) ++ rest) rfl ?_
    rw [text, year, yearText, List.cons_append]

/-! ## Leap seconds within a minute -/

theorem next_second_exists {t : Instant} (strange : ¬Universal t) :
    t.second + 1 < secondsPerDay := by
  have bound := t.second_exists
  unfold Universal at strange
  simp only [secondsPerDay] at *
  omega

/-- The point of universal time that the texts of an instant name: a leap second that universal time
does not have is written as the next second. -/
def asWritten (t : Instant) : Instant :=
  if strange : ¬Universal t then
    { t with
      second := t.second + 1, nano := t.nano - nanosPerSecond
      second_exists := next_second_exists strange
      nano_exists := Nat.lt_of_le_of_lt (Nat.sub_le _ _) t.nano_exists }
  else t

section AsWritten

variable {t s : Instant}

theorem asWritten_of_universal (universal : Universal t) : asWritten t = t :=
  dif_neg (not_not_intro universal)

theorem universal_asWritten (t : Instant) : Universal (asWritten t) := by
  unfold asWritten
  split
  next strange =>
    intro leaps
    have bound := t.nano_exists
    simp only [nanosPerSecond] at bound leaps
    omega
  next usual => exact Decidable.not_not.1 usual

theorem asWritten_eq_iff : asWritten t = t ↔ Universal t :=
  ⟨fun same => same ▸ universal_asWritten t, asWritten_of_universal⟩

theorem inYears_asWritten : InYears (asWritten t) ↔ InYears t := by
  unfold asWritten
  split <;> rfl

theorem inRange_asWritten (years : InYears t) : InRange (asWritten t) :=
  ⟨inYears_asWritten.2 years, universal_asWritten t⟩

/-- The next second is in the same minute, and its text is the same. -/
theorem asWritten_parts (t : Instant) :
    wholeText (asWritten t) = wholeText t ∧
      (asWritten t).nano % nanosPerSecond = t.nano % nanosPerSecond := by
  unfold asWritten
  split
  next strange =>
    obtain ⟨leaps, within⟩ := Classical.not_imp.1 strange
    have bound := t.nano_exists
    have short : ¬nanosPerSecond ≤ t.nano - nanosPerSecond := by
      simp only [nanosPerSecond] at bound ⊢
      omega
    have hour : (t.second + 1) / 3600 = t.second / 3600 := by omega
    have minute : (t.second + 1) / 60 % 60 = t.second / 60 % 60 := by omega
    have second : (t.second + 1) % 60 = t.second % 60 + 1 := by omega
    refine ⟨?_, (Nat.mod_eq_sub_mod leaps).symm⟩
    simp only [wholeText, hour, minute, second, if_pos leaps, if_neg short, Nat.add_zero]
  next => exact ⟨rfl, rfl⟩

theorem writeNanos_asWritten (t : Instant) : writeNanos (asWritten t) = writeNanos t := by
  obtain ⟨whole, places⟩ := asWritten_parts t
  rw [writeNanos, whole, places, writeNanos]

/-- The text of fixed width is read exactly in the years of four digits, and as what it names. -/
theorem read_eq_ok_iff : read (writeNanos t) = .ok s ↔ InYears t ∧ asWritten t = s := by
  have reads (years : InYears t) : read (writeNanos t) = .ok (asWritten t) := by
    rw [← writeNanos_asWritten]
    exact read_writeNanos (inRange_asWritten years)
  constructor
  · intro done
    have years := inYears_of_read done
    exact ⟨years, Except.ok.inj ((reads years).symm.trans done)⟩
  · rintro ⟨years, rfl⟩
    exact reads years

/-- What is read back as itself lies in universal time. -/
theorem inRange_of_read (done : read (writeNanos t) = .ok t) : InRange t := by
  obtain ⟨years, same⟩ := read_eq_ok_iff.1 done
  exact ⟨years, asWritten_eq_iff.1 same⟩

end AsWritten

/-! ## Order -/

/-- Two texts that go on after the same mark. -/
theorem marked_lt {width a b : Nat} (wide : 0 < width) (fitsA : a < 10 ^ width)
    (fitsB : b < 10 ^ width) (c : Char) (x y : List Char) :
    padded width a ++ c :: x < padded width b ++ c :: y ↔ a < b ∨ a = b ∧ x < y := by
  have same : c :: x < c :: y ↔ x < y := List.cons_lt_cons_self
  rw [padded_lt wide fitsA fitsB, same]

/-- Within a day instants compare by hour, minute, second as it is written, and fraction. -/
theorem time_lt_iff {a b : Instant} (universalA : Universal a) (universalB : Universal b) :
    (a.second < b.second ∨ a.second = b.second ∧ a.nano < b.nano) ↔
      (a.second / 3600 < b.second / 3600 ∨ a.second / 3600 = b.second / 3600 ∧
      (a.second / 60 % 60 < b.second / 60 % 60 ∨ a.second / 60 % 60 = b.second / 60 % 60 ∧
      (writtenSecond a < writtenSecond b ∨ writtenSecond a = writtenSecond b ∧
        a.nano % nanosPerSecond < b.nano % nanosPerSecond))) := by
  have partsA := written_parts universalA
  have partsB := written_parts universalB
  have fractionA : a.nano % nanosPerSecond < nanosPerSecond := Nat.mod_lt _ (by decide)
  have fractionB : b.nano % nanosPerSecond < nanosPerSecond := Nat.mod_lt _ (by decide)
  generalize a.nano % nanosPerSecond = fa at *
  generalize b.nano % nanosPerSecond = fb at *
  omega

theorem place_lt {base x y : Int} {i j : Nat} (smallI : i < base) (smallJ : j < base) :
    x * base + i < y * base + j ↔ x < y ∨ x = y ∧ i < j := by
  constructor
  · intro less
    by_cases lower : x < y
    · exact .inl lower
    · by_cases same : x = y
      · rw [same] at less
        exact .inr ⟨same, by omega⟩
      · have above : (y + 1) * base ≤ x * base :=
          Int.mul_le_mul_of_nonneg_right (by omega) (by omega)
        rw [Int.add_mul, Int.one_mul] at above
        omega
  · rintro (lower | ⟨rfl, less⟩)
    · have above : (x + 1) * base ≤ y * base :=
        Int.mul_le_mul_of_nonneg_right (by omega) (by omega)
      rw [Int.add_mul, Int.one_mul] at above
      omega
    · omega

theorem place_lt_and {base x y : Int} {i j : Nat} {rest : Prop} (smallI : i < base)
    (smallJ : j < base) :
    (x * base + i < y * base + j ∨ x * base + i = y * base + j ∧ rest) ↔
      (x < y ∨ x = y ∧ (i < j ∨ i = j ∧ rest)) := by
  have less : x * base + i < y * base + j ↔ x < y ∨ x = y ∧ i < j := place_lt smallI smallJ
  have more : y * base + j < x * base + i ↔ y < x ∨ y = x ∧ j < i := place_lt smallJ smallI
  by_cases holds : rest
  · simp only [holds, and_true]
    omega
  · simp only [holds, and_false, or_false]
    exact less

/-- Instants compare by date, second and nanosecond. -/
theorem lt_iff_places (a b : Instant) :
    a < b ↔ a.date.year < b.date.year ∨ a.date.year = b.date.year ∧
      (a.date.month < b.date.month ∨ a.date.month = b.date.month ∧
      (a.date.day < b.date.day ∨ a.date.day = b.date.day ∧
      (a.second < b.second ∨ a.second = b.second ∧ a.nano < b.nano))) := by
  have monthA := a.date.month_exists.2
  have monthB := b.date.month_exists.2
  have dayA := (day_fits a.date).2
  have dayB := (day_fits b.date).2
  have secondA := a.second_exists
  have secondB := b.second_exists
  have nanoA := a.nano_exists
  have nanoB := b.nano_exists
  rw [Instant.lt_def, Instant.rank, Instant.rank, place_lt (by omega) (by omega),
    place_lt_and (by omega) (by omega), place_lt_and (by omega) (by omega),
    place_lt_and (by omega) (by omega)]

theorem eq_of_not_lt {a b : Instant} (notBefore : ¬a < b) (notAfter : ¬b < a) : a = b := by
  rw [lt_iff_places] at notBefore notAfter
  have year : a.date.year = b.date.year := by omega
  have month : a.date.month = b.date.month := by omega
  have day : a.date.day = b.date.day := by omega
  have second : a.second = b.second := by omega
  have nano : a.nano = b.nano := by omega
  obtain ⟨⟨_, _, _, _, _⟩, _, _, _, _⟩ := a
  obtain ⟨⟨_, _, _, _, _⟩, _, _, _, _⟩ := b
  cases year; cases month; cases day; cases second; cases nano
  rfl

/-- Texts of fixed width stand in the order of the instants. -/
theorem writeNanos_lt {a b : Instant} (inRangeA : InRange a) (inRangeB : InRange b) :
    writeNanos a < writeNanos b ↔ a < b := by
  have textA := writeNanos_toList inRangeA.years
  have textB := writeNanos_toList inRangeB.years
  obtain ⟨⟨lowA, highA⟩, universalA⟩ := inRangeA
  obtain ⟨⟨lowB, highB⟩, universalB⟩ := inRangeB
  have secondA := a.second_exists
  have secondB := b.second_exists
  simp only [secondsPerDay] at secondA secondB
  have nano (t : Instant) : t.nano % nanosPerSecond < 10 ^ 9 := Nat.mod_lt _ (by decide)
  have years : (a.date.year.toNat < b.date.year.toNat ↔ a.date.year < b.date.year) ∧
      (a.date.year.toNat = b.date.year.toNat ↔ a.date.year = b.date.year) := by omega
  rw [String.lt_iff, textA, textB, lt_iff_places, time_lt_iff universalA universalB,
    marked_lt (by decide) (by omega) (by omega), marked_lt (by decide) (month_fits _) (month_fits _),
    marked_lt (by decide) (day_fits _).1 (day_fits _).1, marked_lt (by decide) (by omega) (by omega),
    marked_lt (by decide) (by omega) (by omega),
    marked_lt (by decide) (writtenSecond_fits _).1 (writtenSecond_fits _).1,
    marked_lt (by decide) (nano a) (nano b), years.1, years.2]
  simp

end TenantWork.Time.Rfc3339
