import TenantWork.Proofs.Json.Reading
import TenantWork.Proofs.Time.FixedText
import TenantWork.Time.Clock
/-!
Universal time is never left. A clock that shows a point of universal time goes on to show such, in
whatever steps it moves, and both readers of texts give nothing else: second 60 is read as a leap
second of second 59, the places of a fraction stay below a second, and offsets are whole minutes.
-/
namespace TenantWork.Time.Rfc3339

variable {t : Instant} {text rest : List Char}

/-! ## Clocks -/

theorem universal_of_parts {date : Date} {second nano : Nat}
    (made : Instant.ofParts? date second nano = some t)
    (leap : nanosPerSecond ≤ nano → second % 60 = 59) : Universal t := by
  unfold Instant.ofParts? at made
  split at made
  · split at made
    · obtain rfl := Option.some.inj made
      exact leap
    · cases made
  · cases made

theorem universal_getD {date : Date} {second nano : Nat} (universal : Universal t)
    (leap : nanosPerSecond ≤ nano → second % 60 = 59) :
    Universal ((Instant.ofParts? date second nano).getD t) := by
  cases made : Instant.ofParts? date second nano with
  | none => exact universal
  | some s => exact universal_of_parts made leap

theorem universal_add (universal : Universal t) (nanos : Int) : Universal (t.add nanos) := by
  unfold Instant.add
  dsimp only
  split
  next within =>
    -- The count goes on in the same leap second.
    simp only [Bool.and_eq_true, decide_eq_true_eq] at within
    exact universal_getD universal fun _ => universal within.1.1
  next =>
    refine universal_getD universal fun leaps => ?_
    simp only [nanosPerSecond] at leaps
    omega

/-- A clock in universal time shows universal time and stays in it, however it is moved. -/
theorem universal_clock {clock : Clock} (universal : Universal clock.now) :
    Universal clock.read.1 ∧ Universal clock.read.2.now ∧
      ∀ nanos, Universal (clock.advance nanos).now :=
  ⟨universal, universal_add universal clock.step, universal_add universal⟩

/-! ## Texts -/

theorem digitsFrom_lt (most value : Nat) (text : List Char) :
    (digitsFrom most value text).1 <
      (value + 1) * 10 ^ min most (text.takeWhile Char.isDigit).length := by
  induction most generalizing value text with
  | zero => simp [digitsFrom]
  | succ most ih =>
    cases text with
    | nil => simp [digitsFrom]
    | cons c rest =>
      rw [digitsFrom]
      split
      next digit =>
        have small : c.toNat - 0x30 < 10 := by
          have last : c.toNat ≤ '9'.toNat := (Char.isDigit_iff_toNat.1 digit).2
          have nine : '9'.toNat = 0x39 := rfl
          omega
        rw [List.takeWhile_cons_of_pos digit, List.length_cons, Nat.add_min_add_right, Nat.pow_succ',
          ← Nat.mul_assoc]
        exact Nat.lt_of_lt_of_le (ih _ rest) (Nat.mul_le_mul_right _ (by omega))
      next other => simp [List.takeWhile_cons_of_neg other]

theorem fraction_lt {nano : Nat} (done : fraction text = .ok (nano, rest)) :
    nano < nanosPerSecond := by
  unfold fraction at done
  split at done
  next places =>
    split at done
    · cases done
    next n _ read =>
      unfold number at read
      split at read
      · cases read
      · split at read
        · cases read
        · have below := digitsFrom_lt 9 0 places
          rw [Except.ok.inj read, Nat.zero_add, Nat.one_mul] at below
          have all : 10 ^ min 9 (places.takeWhile Char.isDigit).length *
              10 ^ (9 - (places.takeWhile Char.isDigit).length) = nanosPerSecond := by
            rw [← Nat.pow_add, (by omega : ∀ k, min 9 k + (9 - k) = 9)]
            rfl
          obtain rfl := congrArg Prod.fst (Except.ok.inj done)
          rw [← all]
          exact Nat.mul_lt_mul_of_pos_right below (Nat.pow_pos (by decide))
  next =>
    obtain rfl := congrArg Prod.fst (Except.ok.inj done)
    exact (by decide : 0 < nanosPerSecond)

theorem offset_minutes {between : List Char → Except TimeFault (List Char)} {shift : Int}
    (done : offset between text = .ok (shift, rest)) : shift % 60 = 0 := by
  unfold offset at done
  split at done
  · cases done
  · split at done
    · obtain rfl := congrArg Prod.fst (Except.ok.inj done)
      rfl
    · split at done
      · split at done
        · cases done
        split at done
        · cases done
        split at done
        · cases done
        obtain rfl := congrArg Prod.fst (Except.ok.inj done)
        dsimp only
        split <;> omega
      · cases done

theorem universal_placed {date : Date} {total : Int} {nano : Nat}
    (made : Instant.ofParts? (date.addDays (total / secondsPerDay))
      (total - total / secondsPerDay * secondsPerDay).toNat nano = some t)
    (leap : nanosPerSecond ≤ nano → total % 60 = 59) : Universal t := by
  refine universal_of_parts made fun leaps => ?_
  have last := leap leaps
  simp only [secondsPerDay]
  omega

/-- What is put together at an offset of whole minutes lies in universal time. -/
theorem universal_assemble {year shift : Int} {month day hour minute second nano : Nat}
    (short : nano < nanosPerSecond) (whole : shift % 60 = 0)
    (done : assemble year month day hour minute second nano shift = .ok t) : Universal t := by
  unfold assemble at done
  split at done
  · cases done
  split at done
  · cases done
  split at done
  · cases done
  dsimp only at done
  split at done
  next made =>
    split at done
    · obtain rfl := Except.ok.inj done
      refine universal_placed made fun leaps => ?_
      by_cases leap : second = 60
      · rw [if_pos leap]
        omega
      · rw [if_neg leap] at leaps
        exact absurd leaps (Nat.not_le.2 short)
    · cases done
  next => cases done

theorem looseOffset_minutes {shift : Int} (done : looseOffset text = .ok (shift, rest)) :
    shift % 60 = 0 := by
  unfold looseOffset at done
  dsimp only at done
  split at done
  · split at done
    · obtain rfl := congrArg Prod.fst (Except.ok.inj done)
      rfl
    · exact offset_minutes done
  · exact offset_minutes done

theorem universal_of_read {text : String} (done : read text = .ok t) : Universal t := by
  unfold read at done
  obtain ⟨⟨_, _⟩, _, done⟩ := bind_eq_ok done
  obtain ⟨_, _, done⟩ := bind_eq_ok done
  obtain ⟨⟨_, _⟩, _, done⟩ := bind_eq_ok done
  obtain ⟨_, _, done⟩ := bind_eq_ok done
  obtain ⟨_, _, done⟩ := bind_eq_ok done
  obtain ⟨⟨_, _⟩, _, done⟩ := bind_eq_ok done
  obtain ⟨_, _, done⟩ := bind_eq_ok done
  obtain ⟨_, _, done⟩ := bind_eq_ok done
  obtain ⟨⟨_, _⟩, _, done⟩ := bind_eq_ok done
  obtain ⟨_, _, done⟩ := bind_eq_ok done
  obtain ⟨_, _, done⟩ := bind_eq_ok done
  obtain ⟨⟨_, _⟩, _, done⟩ := bind_eq_ok done
  obtain ⟨_, _, done⟩ := bind_eq_ok done
  obtain ⟨_, _, done⟩ := bind_eq_ok done
  obtain ⟨⟨_, _⟩, _, done⟩ := bind_eq_ok done
  obtain ⟨_, _, done⟩ := bind_eq_ok done
  obtain ⟨⟨_, _⟩, short, done⟩ := bind_eq_ok done
  obtain ⟨⟨_, _⟩, whole, done⟩ := bind_eq_ok done
  dsimp only at done
  split at done
  · cases done
  · split at done
    · exact universal_assemble (fraction_lt short) (offset_minutes whole) done
    · cases done

theorem universal_of_readLoose {text : String} (done : readLoose text = .ok t) : Universal t := by
  unfold readLoose at done
  obtain ⟨⟨_, _⟩, _, done⟩ := bind_eq_ok done
  obtain ⟨_, _, done⟩ := bind_eq_ok done
  obtain ⟨⟨_, _⟩, _, done⟩ := bind_eq_ok done
  obtain ⟨_, _, done⟩ := bind_eq_ok done
  obtain ⟨⟨_, _⟩, _, done⟩ := bind_eq_ok done
  obtain ⟨_, _, done⟩ := bind_eq_ok done
  obtain ⟨⟨_, _⟩, _, done⟩ := bind_eq_ok done
  obtain ⟨_, _, done⟩ := bind_eq_ok done
  obtain ⟨⟨_, _⟩, _, done⟩ := bind_eq_ok done
  obtain ⟨_, _, done⟩ := bind_eq_ok done
  obtain ⟨⟨_, _⟩, _, done⟩ := bind_eq_ok done
  obtain ⟨⟨_, _⟩, short, done⟩ := bind_eq_ok done
  obtain ⟨⟨_, _⟩, whole, done⟩ := bind_eq_ok done
  dsimp only at done
  split at done
  · exact universal_assemble (fraction_lt short) (looseOffset_minutes whole) done
  · cases done

end TenantWork.Time.Rfc3339
