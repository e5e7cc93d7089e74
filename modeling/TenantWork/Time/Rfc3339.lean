import TenantWork.Number.Power
import TenantWork.Time.Instant
import TenantWork.Text.Blank
/-!
Instants as RFC 3339 text. Writing is in universal time with a `Z`; years outside 0 to 9999 get a
sign. Two forms are read. The exact form is the one of the standard, with a space allowed between
date and time. The loose form also takes blanks between the parts, shorter numbers, years with a
sign, an offset without a colon and the word `UTC`.
-/
namespace TenantWork.Time

inductive TimeFault where
  | tooShort
  | invalid
  | outOfRange
  | impossible
  | tooLong
deriving DecidableEq, Repr

def TimeFault.message : TimeFault → String
  | .tooShort => "premature end of input"
  | .invalid => "input contains invalid characters"
  | .outOfRange => "input is out of range"
  | .impossible => "no possible date and time matching input"
  | .tooLong => "trailing input"

namespace Rfc3339

/-! ## Writing -/

/-- A number in at least `width` digits. -/
def padded (width n : Nat) : List Char :=
  let digits := Nat.toDigits 10 n
  List.replicate (width - digits.length) '0' ++ digits

def yearText (year : Int) : List Char :=
  match year with
  | .ofNat n => if n ≤ 9999 then padded 4 n else '+' :: padded 4 n
  | .negSucc n => '-' :: padded 4 (n + 1)

/-- Date and time up to the whole second; a leap second is written as the second after the one that it
prolongs, at the end of a minute as second 60. -/
def wholeText (t : Instant) : List Char :=
  let second := t.second % 60 + (if nanosPerSecond ≤ t.nano then 1 else 0)
  yearText t.date.year ++ '-' :: padded 2 t.date.month ++ '-' :: padded 2 t.date.day ++
    'T' :: padded 2 (t.second / 3600) ++ ':' :: padded 2 (t.second / 60 % 60) ++
    ':' :: padded 2 second

/-- The fewest of 0, 3, 6 or 9 places that lose nothing. -/
def fractionText (nano : Nat) : List Char :=
  if nano = 0 then []
  else if nano % 1000000 = 0 then '.' :: padded 3 (nano / 1000000)
  else if nano % 1000 = 0 then '.' :: padded 6 (nano / 1000)
  else '.' :: padded 9 nano

def write (t : Instant) : String :=
  String.ofList (wholeText t ++ fractionText (t.nano % nanosPerSecond) ++ ['Z'])

/-- The form of fixed width: always nine places. -/
def writeNanos (t : Instant) : String :=
  String.ofList (wholeText t ++ '.' :: padded 9 (t.nano % nanosPerSecond) ++ ['Z'])

/-! ## Reading -/

abbrev Step (α : Type) := Except TimeFault (α × List Char)

def byteLength (text : List Char) : Nat := text.foldl (fun total c => total + c.utf8Size) 0

/-- Up to `most` digits: their number and the rest. -/
def digitsFrom : Nat → Nat → List Char → Nat × List Char
  | 0, n, rest => (n, rest)
  | _ + 1, n, [] => (n, [])
  | most + 1, n, c :: rest =>
    if c.isDigit then digitsFrom most (n * 10 + (c.toNat - 0x30)) rest else (n, c :: rest)

/-- A number of at least `least` and at most `most` digits. -/
def number (least most : Nat) (text : List Char) : Step Nat :=
  if byteLength text < least then .error .tooShort
  else if (text.takeWhile Char.isDigit).length < least then .error .invalid
  else .ok (digitsFrom most 0 text)

def mark (expected : Char) : List Char → Except TimeFault (List Char)
  | [] => .error .tooShort
  | c :: rest => if c = expected then .ok rest else .error .invalid

def inRange (low high : Nat) (n : Nat) : Except TimeFault Unit :=
  if low ≤ n ∧ n ≤ high then .ok () else .error .outOfRange

/-- The separator between date and time. -/
def separator : List Char → Except TimeFault (List Char)
  | [] => .error .tooShort
  | c :: rest => if c = 't' ∨ c = 'T' ∨ c = ' ' then .ok rest else .error .invalid

/-- Places of a second after a point: the first nine count. -/
def fraction (text : List Char) : Step Nat :=
  match text with
  | '.' :: rest =>
    match number 1 9 rest with
    | .error fault => .error fault
    | .ok (n, _) =>
      let places := (rest.takeWhile Char.isDigit).length
      .ok (n * Number.pow10 (9 - places), rest.dropWhile Char.isDigit)
  | _ => .ok (0, text)

/-- The minutes of an offset, with what follows them. -/
def offsetMinutes : List Char → Step Nat
  | m :: n :: rest =>
    if !m.isDigit || !n.isDigit then .error .invalid
    else if m.toNat < 0x36 then .ok ((m.toNat - 0x30) * 10 + (n.toNat - 0x30), rest)
    else .error .outOfRange
  | [c] => if c.utf8Size = 1 then .error .tooShort else .error .invalid
  | [] => .error .tooShort

/-- An offset from universal time in seconds; `between` passes over what may stand between its
hours and minutes. -/
def offset (between : List Char → Except TimeFault (List Char)) (text : List Char) : Step Int :=
  match text with
  | [] => .error .tooShort
  | c :: rest =>
    if c = 'Z' ∨ c = 'z' then .ok (0, rest)
    else if c = '+' ∨ c = '-' ∨ c = '\u2212' then
      match number 2 2 rest with
      | .error fault => .error fault
      | .ok (hours, rest) =>
        match between rest with
        | .error fault => .error fault
        | .ok rest =>
          match offsetMinutes rest with
          | .error fault => .error fault
          | .ok (minutes, rest) =>
            let seconds : Int := hours * 3600 + minutes * 60
            .ok (if c = '+' then seconds else -seconds, rest)
    else .error .invalid

/-- The years that instants may lie in, in local and in universal time. -/
def isYear (year : Int) : Bool := decide (-262143 ≤ year) && decide (year ≤ 262142)

/-- The instant with these local parts at an offset. -/
def assemble (year : Int) (month day hour minute second nano : Nat) (offset : Int) :
    Except TimeFault Instant :=
  if !isYear year then .error .outOfRange
  else match Date.ofParts? year month day with
    | none => .error .outOfRange
    | some date =>
      if offset ≤ -86400 ∨ 86400 ≤ offset then .error .outOfRange
      else
        let (second, nano) := if second = 60 then (59, nano + nanosPerSecond) else (second, nano)
        let total : Int := hour * 3600 + minute * 60 + second - offset
        let days := total / secondsPerDay
        match Instant.ofParts? (date.addDays days) (total - days * secondsPerDay).toNat nano with
        | some t => if isYear t.date.year then .ok t else .error .impossible
        | none => .error .outOfRange

/-- Reads the exact form. -/
def read (text : String) : Except TimeFault Instant := do
  let (year, rest) ← number 4 4 text.toList
  let rest ← mark '-' rest
  let (month, rest) ← number 2 2 rest
  inRange 1 12 month
  let rest ← mark '-' rest
  let (day, rest) ← number 2 2 rest
  inRange 1 31 day
  let rest ← separator rest
  let (hour, rest) ← number 2 2 rest
  inRange 0 23 hour
  let rest ← mark ':' rest
  let (minute, rest) ← number 2 2 rest
  inRange 0 59 minute
  let rest ← mark ':' rest
  let (second, rest) ← number 2 2 rest
  inRange 0 60 second
  let (nano, rest) ← fraction rest
  let (shift, rest) ← offset (mark ':') rest
  if shift < -86340 ∨ 86340 < shift then .error .outOfRange
  else if rest.isEmpty then assemble year month day hour minute second nano shift
  else .error .tooLong

def skipBlank (text : List Char) : List Char := text.dropWhile Text.isBlankChar

/-- A year of up to four digits, or of any number of them after a sign. -/
def looseYear (text : List Char) : Except TimeFault (Int × List Char) := do
  let (year, rest) : Int × List Char ← match skipBlank text with
    | '-' :: rest => do
      let (n, rest) ← number 1 rest.length rest
      pure (-(n : Int), rest)
    | '+' :: rest => do
      let (n, rest) ← number 1 rest.length rest
      pure ((n : Int), rest)
    | rest => do
      let (n, rest) ← number 1 4 rest
      pure ((n : Int), rest)
  if year < -0x80000000 ∨ 0x80000000 ≤ year then .error .outOfRange else .ok (year, rest)

def looseNumber (low high : Nat) (text : List Char) : Except TimeFault (Nat × List Char) := do
  let (n, rest) ← number 1 2 (skipBlank text)
  inRange low high n
  return (n, rest)

def looseMark (expected : Char) (text : List Char) : Except TimeFault (List Char) :=
  mark expected (skipBlank text)

def isUtcWord (a b c : Char) : Bool := a.toLower == 'u' && b.toLower == 't' && c.toLower == 'c'

def looseOffset (text : List Char) : Step Int :=
  let between (rest : List Char) : Except TimeFault (List Char) :=
    .ok (rest.dropWhile fun c => c == ':' || Text.isBlankChar c)
  match text with
  | a :: b :: c :: rest =>
    if isUtcWord a b c then .ok (0, rest) else offset between text
  | _ => offset between text

/-- Reads the loose form. -/
def readLoose (text : String) : Except TimeFault Instant := do
  let (year, rest) ← looseYear text.toList
  let rest ← looseMark '-' rest
  let (month, rest) ← looseNumber 1 12 rest
  let rest ← looseMark '-' rest
  let (day, rest) ← looseNumber 1 31 rest
  let rest ← separator rest
  let (hour, rest) ← looseNumber 0 23 rest
  let rest ← looseMark ':' rest
  let (minute, rest) ← looseNumber 0 59 rest
  let rest ← looseMark ':' rest
  let (second, rest) ← looseNumber 0 60 rest
  let (nano, rest) ← fraction rest
  let (shift, rest) ← looseOffset (skipBlank rest)
  if (skipBlank rest).isEmpty then assemble year month day hour minute second nano shift
  else .error .tooLong

end Rfc3339

end TenantWork.Time
