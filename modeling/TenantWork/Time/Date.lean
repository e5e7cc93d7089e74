/-!
Dates of the Gregorian calendar, extended to all years. A date that does not exist cannot be
built. Day numbers count from 1970-01-01 and serve to move a date by whole days.
-/
namespace TenantWork.Time

def isLeapYear (year : Int) : Bool :=
  year % 4 == 0 && (year % 100 != 0 || year % 400 == 0)

def monthLength (year : Int) (month : Nat) : Nat :=
  match month with
  | 2 => if isLeapYear year then 29 else 28
  | 4 | 6 | 9 | 11 => 30
  | _ => 31

structure Date where
  year : Int
  month : Nat
  day : Nat
  month_exists : 1 ≤ month ∧ month ≤ 12
  day_exists : 1 ≤ day ∧ day ≤ monthLength year month
deriving DecidableEq, Repr

namespace Date

/-- The date with these parts, if there is one. -/
def ofParts? (year : Int) (month day : Nat) : Option Date :=
  if m : 1 ≤ month ∧ month ≤ 12 then
    if d : 1 ≤ day ∧ day ≤ monthLength year month then some ⟨year, month, day, m, d⟩ else none
  else none

theorem ofParts?_self (date : Date) : ofParts? date.year date.month date.day = some date := by
  simp [ofParts?, date.month_exists, date.day_exists]

/-- Days since 1970-01-01; years are counted from March, so a leap day ends its year. -/
def dayNumber (date : Date) : Int :=
  let year : Int := if date.month ≤ 2 then date.year - 1 else date.year
  let era := year / 400
  let yearOfEra := year - era * 400
  let monthFromMarch : Int := (date.month + 9) % 12
  let dayOfYear : Int := (153 * monthFromMarch + 2) / 5 + date.day - 1
  let dayOfEra := yearOfEra * 365 + yearOfEra / 4 - yearOfEra / 100 + dayOfYear
  era * 146097 + dayOfEra - 719468

def ofDayNumber? (number : Int) : Option Date :=
  let shifted := number + 719468
  let era := shifted / 146097
  let dayOfEra := shifted - era * 146097
  let yearOfEra := (dayOfEra - dayOfEra / 1460 + dayOfEra / 36524 - dayOfEra / 146096) / 365
  let dayOfYear := dayOfEra - (365 * yearOfEra + yearOfEra / 4 - yearOfEra / 100)
  let monthFromMarch := (5 * dayOfYear + 2) / 153
  let day := dayOfYear - (153 * monthFromMarch + 2) / 5 + 1
  let month := if monthFromMarch < 10 then monthFromMarch + 3 else monthFromMarch - 9
  let year := yearOfEra + era * 400 + (if month ≤ 2 then 1 else 0)
  ofParts? year month.toNat day.toNat

/-- The date some days later, or earlier for a negative count. -/
def addDays (date : Date) (days : Int) : Date :=
  if days = 0 then date else (ofDayNumber? (date.dayNumber + days)).getD date

end Date

end TenantWork.Time
