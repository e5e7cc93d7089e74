import TenantWork.Proofs.Time.FixedText
/-!
Times in the fewest places. An instant of a year with four digits is read back from its shortest
text by the reader of the loose form: no part of that text has blanks before it, so nothing that the
loose form allows besides comes into play.
-/
namespace TenantWork.Time.Rfc3339

/-! ## Parts without blanks before them -/

theorem skipBlank_cons {c : Char} (solid : Text.isBlankChar c = false) (rest : List Char) :
    skipBlank (c :: rest) = c :: rest := by
  refine List.dropWhile_cons_of_neg ?_
  rw [solid]
  exact Bool.false_ne_true

theorem padded_head {width n : Nat} (wide : 0 < width) (fits : n < 10 ^ width) :
    ∃ c rest, padded width n = c :: rest ∧ c.isDigit = true := by
  refine padded_induction (motive := fun width n => ∃ c rest, padded width n = c :: rest ∧
    c.isDigit = true) ?_ ?_ wide fits
  · intro n small
    exact ⟨_, [], padded_one small, (digit_value small).1⟩
  · rintro width n wide _ ⟨c, rest, same, digit⟩
    exact ⟨c, _, by rw [padded_succ wide, same, List.cons_append], digit⟩

theorem skipBlank_padded {width n : Nat} (wide : 0 < width) (fits : n < 10 ^ width)
    (rest : List Char) : skipBlank (padded width n ++ rest) = padded width n ++ rest := by
  obtain ⟨c, more, same, digit⟩ := padded_head wide fits
  rw [same, List.cons_append, skipBlank_cons (Text.isBlankChar_of_isDigit digit)]

theorem looseYear_padded {n : Nat} (fits : n < 10 ^ 4) (rest : List Char) :
    looseYear (padded 4 n ++ rest) = .ok ((n : Int), rest) := by
  obtain ⟨c, more, same, digit⟩ := padded_head (by decide : 0 < 4) fits
  have read := number_padded (by decide : 0 < 4) fits (by decide : 1 ≤ 4) rest
  have small : ¬((n : Int) < -0x80000000 ∨ 0x80000000 ≤ (n : Int)) := by omega
  rw [looseYear, skipBlank_padded (by decide) fits]
  rw [same, List.cons_append] at read ⊢
  split
  next below =>
    obtain ⟨rfl, _⟩ := List.cons.inj below
    exact absurd digit (by decide)
  next above =>
    obtain ⟨rfl, _⟩ := List.cons.inj above
    exact absurd digit (by decide)
  next =>
    simp only [read, bind, Except.bind, pure, Except.pure, if_neg small]

theorem looseNumber_padded {low high n : Nat} (fits : n < 10 ^ 2) (above : low ≤ n)
    (below : n ≤ high) (rest : List Char) :
    looseNumber low high (padded 2 n ++ rest) = .ok (n, rest) := by
  have read := number_padded (by decide : 0 < 2) fits (by decide : 1 ≤ 2) rest
  rw [looseNumber, skipBlank_padded (by decide) fits]
  simp only [read, bind, Except.bind, inRange_eq above below, pure, Except.pure]

theorem looseMark_same {c : Char} (solid : Text.isBlankChar c = false) (rest : List Char) :
    looseMark c (c :: rest) = .ok rest := by
  rw [looseMark, skipBlank_cons solid, mark_same]

/-! ## The fewest places -/

theorem fraction_fractionText {nano : Nat} (small : nano < nanosPerSecond) :
    fraction (fractionText nano ++ ['Z']) = .ok (nano, ['Z']) := by
  unfold nanosPerSecond at small
  unfold fractionText
  split
  next none =>
    rw [none]
    rfl
  next =>
    split
    next thousandths =>
      have fits : nano / 1000000 < 10 ^ 3 := by omega
      have whole : nano / 1000000 * 10 ^ (9 - 3) = nano := by omega
      rw [List.cons_append, fraction_padded (by decide) (by decide) fits, whole]
    next =>
      split
      next millionths =>
        have fits : nano / 1000 < 10 ^ 6 := by omega
        have whole : nano / 1000 * 10 ^ (9 - 6) = nano := by omega
        rw [List.cons_append, fraction_padded (by decide) (by decide) fits, whole]
      next =>
        have fits : nano < 10 ^ 9 := by omega
        have whole : nano * 10 ^ (9 - 9) = nano := by omega
        rw [List.cons_append, fraction_padded (by decide) (by decide) fits, whole]

/-- An instant is read back from its shortest text. -/
theorem readLoose_write {t : Instant} (inRange : InRange t) : readLoose (write t) = .ok t := by
  have text := wholeText_append inRange.years (fractionText (t.nano % nanosPerSecond) ++ ['Z'])
  have assembled := assemble_parts inRange
  obtain ⟨low, high⟩ := inRange.years
  have second := t.second_exists
  obtain ⟨firstMonth, lastMonth⟩ := t.date.month_exists
  obtain ⟨firstDay, _⟩ := t.date.day_exists
  obtain ⟨dayFits, lastDay⟩ := day_fits t.date
  obtain ⟨secondFits, lastSecond⟩ := writtenSecond_fits t
  have hours : t.second / 3600 ≤ 23 := by
    simp only [secondsPerDay] at second
    omega
  have minutes : t.second / 60 % 60 ≤ 59 := by omega
  -- Nothing stands between the parts, so blanks are skipped nowhere.
  have places := fraction_fractionText (Nat.mod_lt t.nano (by decide : 0 < nanosPerSecond))
  have zone : looseOffset (skipBlank ['Z']) = .ok (0, []) := rfl
  have dash : Text.isBlankChar '-' = false := by decide
  have colon : Text.isBlankChar ':' = false := by decide
  unfold readLoose write
  rw [String.toList_ofList, List.append_assoc, text]
  simp only [bind, Except.bind, looseMark_same dash, looseMark_same colon, separator_same,
    looseYear_padded (by omega : t.date.year.toNat < 10 ^ 4),
    looseNumber_padded (month_fits t.date) firstMonth lastMonth,
    looseNumber_padded dayFits firstDay lastDay,
    looseNumber_padded (by omega : t.second / 3600 < 10 ^ 2) (Nat.zero_le _) hours,
    looseNumber_padded (by omega : t.second / 60 % 60 < 10 ^ 2) (Nat.zero_le _) minutes,
    looseNumber_padded secondFits (Nat.zero_le _) lastSecond, places, zone, assembled]
  rfl

/-- The shortest text, too, is read as the point of universal time that it names. -/
theorem readLoose_asWritten {t : Instant} (years : InYears t) :
    readLoose (write t) = .ok (asWritten t) := by
  obtain ⟨whole, places⟩ := asWritten_parts t
  have text : write (asWritten t) = write t := by rw [write, whole, places, write]
  rw [← text]
  exact readLoose_write (inRange_asWritten years)

end TenantWork.Time.Rfc3339
