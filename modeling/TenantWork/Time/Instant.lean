import TenantWork.Time.Date
/-!
Points in time, exact to the nanosecond. A second with a billion nanoseconds or more stands for the
leap second after it; any second may have one, though universal time prolongs only the last second
of a minute. Instants are ordered by `rank`, a number with one place for each part, so the order is
total and decidable.
-/
namespace TenantWork.Time

def nanosPerSecond : Nat := 1000000000

def secondsPerDay : Nat := 86400

structure Instant where
  date : Date
  /-- The second of the day. -/
  second : Nat
  nano : Nat
  second_exists : second < secondsPerDay
  nano_exists : nano < 2 * nanosPerSecond
deriving DecidableEq, Repr

namespace Instant

def ofParts? (date : Date) (second nano : Nat) : Option Instant :=
  if s : second < secondsPerDay then
    if n : nano < 2 * nanosPerSecond then some ⟨date, second, nano, s, n⟩ else none
  else none

theorem ofParts?_self (t : Instant) : ofParts? t.date t.second t.nano = some t := by
  rw [ofParts?, dif_pos t.second_exists, dif_pos t.nano_exists]

/-- One number for all parts, each in a place of its own. -/
def rank (t : Instant) : Int :=
  (((t.date.year * 16 + t.date.month) * 32 + t.date.day) * secondsPerDay + t.second) *
    (2 * nanosPerSecond : Nat) + t.nano

instance : LE Instant := ⟨fun a b => a.rank ≤ b.rank⟩

instance : LT Instant := ⟨fun a b => a.rank < b.rank⟩

instance (a b : Instant) : Decidable (a ≤ b) := inferInstanceAs (Decidable (a.rank ≤ b.rank))

instance (a b : Instant) : Decidable (a < b) := inferInstanceAs (Decidable (a.rank < b.rank))

theorem le_def {a b : Instant} : a ≤ b ↔ a.rank ≤ b.rank := Iff.rfl

theorem lt_def {a b : Instant} : a < b ↔ a.rank < b.rank := Iff.rfl

/-- The later of two instants. -/
def latest (a b : Instant) : Instant := if a ≤ b then b else a

/-- The instant some nanoseconds later. Within a leap second the count goes on; a step out of it
counts the leap second as the second after it when going forward and before it when going back. -/
def add (t : Instant) (nanos : Int) : Instant :=
  let seconds := nanos.tdiv nanosPerSecond
  let fraction := nanos.tmod nanosPerSecond
  let leap : Bool := decide (nanosPerSecond ≤ t.nano)
  if leap && seconds == 0 && decide (t.nano + fraction < 2 * nanosPerSecond) then
    (ofParts? t.date t.second (t.nano + fraction).toNat).getD t
  else
    let base : Int := if leap && decide (seconds < 0) then t.second + 1 else t.second
    let nano : Int := (if leap then t.nano - nanosPerSecond else t.nano) + fraction
    let total := base + seconds + nano / nanosPerSecond
    let days := total / secondsPerDay
    (ofParts? (t.date.addDays days) (total - days * secondsPerDay).toNat
      (nano % nanosPerSecond).toNat).getD t

/-- The beginning of 1970. -/
def epoch : Instant where
  date := ⟨1970, 1, 1, by decide, by decide⟩
  second := 0
  nano := 0
  second_exists := by decide
  nano_exists := by decide

end Instant

end TenantWork.Time
