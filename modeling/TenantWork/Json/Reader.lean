import TenantWork.Json.Fault
/-!
Reading JSON texts. A reader works on a cursor, the characters still to come and the place they
start at, and either moves the cursor or reports the first fault. Values may nest 127 levels deep.
Every loop is bounded by the number of characters left, each round of it taking at least one.
-/
namespace TenantWork.Json

structure Cursor where
  rest : List Char
  place : Position

abbrev Reader := StateT Cursor (Except Fault)

def Cursor.ofText (text : String) : Cursor := ⟨text.toList, .start⟩

/-- The place behind the byte that was looked at, or the end of the text. -/
def Cursor.ahead (cursor : Cursor) : Position :=
  match cursor.rest with
  | [] => cursor.place
  | c :: _ => cursor.place.pastByte c

namespace Reader

def fail {α : Type} (cause : Cause) (place : Position) : Reader α :=
  fun _ => .error ⟨cause, some place⟩

/-- A grammar fault at the cursor. -/
def failHere {α : Type} (fault : Grammar) : Reader α :=
  fun cursor => .error ⟨.grammar fault, some cursor.place⟩

/-- A grammar fault in the character that is next. -/
def failAhead {α : Type} (fault : Grammar) : Reader α :=
  fun cursor => .error ⟨.grammar fault, some cursor.ahead⟩

def peek : Reader (Option Char) := fun cursor => .ok (cursor.rest.head?, cursor)

/-- Passes over one character. -/
def advance : Reader Unit := fun cursor =>
  match cursor.rest with
  | [] => .ok ((), cursor)
  | c :: rest => .ok ((), ⟨rest, cursor.place.past c⟩)

def isSpace (c : Char) : Bool := c == ' ' || c == '\n' || c == '\t' || c == '\r'

/-- The leading characters of one class, and the cursor behind them. -/
def spanFrom (belongs : Char → Bool) : List Char → Position → List Char × Cursor
  | [], place => ([], ⟨[], place⟩)
  | c :: rest, place =>
    if belongs c then
      let (taken, cursor) := spanFrom belongs rest (place.past c)
      (c :: taken, cursor)
    else ([], ⟨c :: rest, place⟩)

def takeWhile (belongs : Char → Bool) : Reader (List Char) := fun cursor =>
  .ok (spanFrom belongs cursor.rest cursor.place)

/-- The next character that is no blank; the cursor stops before it. -/
def peekToken : Reader (Option Char) := do
  let _ ← takeWhile isSpace
  peek

/-- The characters left bound the rounds of any loop. -/
def budget : Reader Nat := fun cursor => .ok (2 * cursor.rest.length + 2, cursor)

/-- The remaining letters of a word whose first one has been passed. -/
def word : List Char → Reader Unit
  | [] => pure ()
  | expected :: more => do
    match ← peek with
    | none => failHere .endOfValue
    | some c =>
      if c = expected then
        advance
        word more
      else failAhead .expectedWord

/-! ## Strings -/

def hexValue? (c : Char) : Option Nat :=
  if '0' ≤ c ∧ c ≤ '9' then some (c.toNat - 0x30)
  else if 'a' ≤ c ∧ c ≤ 'f' then some (c.toNat - 0x61 + 10)
  else if 'A' ≤ c ∧ c ≤ 'F' then some (c.toNat - 0x41 + 10)
  else none

def fourHex? (a b c d : Char) : Option Nat := do
  return ((← hexValue? a) * 16 + (← hexValue? b)) * 256 + (← hexValue? c) * 16 + (← hexValue? d)

/-- The place some bytes further on, or none if the text ends before. -/
def placeAfter : Nat → List Char → Position → Option Position
  | 0, _, place => some place
  | _ + 1, [], _ => none
  | bytes + 1, c :: rest, place =>
    if c.utf8Size ≤ bytes + 1 then placeAfter (bytes + 1 - c.utf8Size) rest (place.past c)
    else some ⟨place.line, place.column + (bytes + 1)⟩
termination_by _ text => text.length

def endPlace : List Char → Position → Position
  | [], place => place
  | c :: rest, place => endPlace rest (place.past c)

/-- Why no four hexadecimal digits stand here: the text ends, or another byte is among them. -/
def hexFault (text : List Char) (place : Position) : Fault :=
  match placeAfter 4 text place with
  | some after => ⟨.grammar .invalidEscape, some after⟩
  | none => ⟨.grammar .endOfString, some (endPlace text place)⟩

def shortEscape? : Char → Option Char
  | '"' => some '"'
  | '\\' => some '\\'
  | '/' => some '/'
  | 'b' => some '\x08'
  | 'f' => some '\x0c'
  | 'n' => some '\n'
  | 'r' => some '\r'
  | 't' => some '\t'
  | _ => none

/-- The characters up to the closing quote. With `paired`, escaped surrogates must come in pairs;
without it they are passed over, which is all that a skipped string needs. -/
def stringFrom (paired : Bool) :
    List Char → Position → List Char → Except Fault (List Char × Cursor)
  | [], place, _ => .error ⟨.grammar .endOfString, some place⟩
  | '"' :: rest, place, taken => .ok (taken.reverse, ⟨rest, place.right 1⟩)
  | '\\' :: rest, place, taken =>
    match rest with
    | [] => .error ⟨.grammar .endOfString, some (place.right 1)⟩
    | 'u' :: a :: b :: c :: d :: rest =>
      match fourHex? a b c d with
      | none => .error (hexFault (a :: b :: c :: d :: rest) (place.right 2))
      | some unit =>
        let place := place.right 6
        if !paired then stringFrom paired rest place taken
        else if 0xDC00 ≤ unit ∧ unit ≤ 0xDFFF then .error ⟨.grammar .loneSurrogate, some place⟩
        else if unit < 0xD800 ∨ 0xDBFF < unit then
          stringFrom paired rest place (Char.ofNat unit :: taken)
        else match rest with
          | [] => .error ⟨.grammar .endOfString, some place⟩
          | ['\\'] => .error ⟨.grammar .endOfString, some (place.right 1)⟩
          | '\\' :: 'u' :: e :: f :: g :: h :: rest =>
            match fourHex? e f g h with
            | none => .error (hexFault (e :: f :: g :: h :: rest) (place.right 2))
            | some second =>
              let place := place.right 6
              if 0xDC00 ≤ second ∧ second ≤ 0xDFFF then
                stringFrom paired rest place
                  (Char.ofNat ((unit - 0xD800) * 0x400 + (second - 0xDC00) + 0x10000) :: taken)
              else .error ⟨.grammar .loneSurrogate, some place⟩
          | '\\' :: 'u' :: rest => .error (hexFault rest (place.right 2))
          | '\\' :: other :: _ =>
            .error ⟨.grammar .halfSurrogatePair, some ((place.right 1).pastByte other)⟩
          | other :: _ => .error ⟨.grammar .halfSurrogatePair, some (place.pastByte other)⟩
    | 'u' :: rest => .error (hexFault rest (place.right 2))
    | c :: rest =>
      match shortEscape? c with
      | some meant => stringFrom paired rest (place.right 2) (meant :: taken)
      | none => .error ⟨.grammar .invalidEscape, some ((place.right 1).pastByte c)⟩
  | c :: rest, place, taken =>
    if c.toNat < 0x20 then .error ⟨.grammar .controlCharacter, some (place.pastByte c)⟩
    else stringFrom paired rest (place.past c) (c :: taken)

/-- A string whose opening quote has been passed. -/
def stringTail : Reader String := fun cursor =>
  match stringFrom true cursor.rest cursor.place [] with
  | .ok (taken, cursor) => .ok (String.ofList taken, cursor)
  | .error fault => .error fault

def skipStringTail : Reader Unit := fun cursor =>
  match stringFrom false cursor.rest cursor.place [] with
  | .ok (_, cursor) => .ok ((), cursor)
  | .error fault => .error fault

/-! ## Numbers -/

def digitValue (c : Char) : Nat := c.toNat - 0x30

/-- Appends digits while the number stays below 2^64; gives it and the digits not taken. -/
def gather (significand : Nat) : List Char → Nat × List Char
  | [] => (significand, [])
  | c :: rest =>
    let next := significand * 10 + digitValue c
    if next < 0x10000000000000000 then gather next rest else (significand, c :: rest)

def doubleOf (negative : Bool) (significand : Nat) (power : Int) : Reader Json :=
  match Number.Double.ofDecimal negative significand power with
  | some value => pure (.double value)
  | none => failHere .numberTooLarge

/-- The digits of an exponent, read while the exponent stays below 2^31. -/
def exponentDigits (zero up : Bool) : Nat → Nat → Reader (Option Nat)
  | 0, exponent => pure (some exponent)
  | rounds + 1, exponent => do
    match ← peek with
    | some c =>
      if c.isDigit then
        advance
        let next := exponent * 10 + digitValue c
        if next < 0x80000000 then exponentDigits zero up rounds next
        else if !zero && up then failHere .numberTooLarge
        else
          let _ ← takeWhile Char.isDigit
          pure none
      else pure (some exponent)
    | none => pure (some exponent)

/-- The part from the letter of the exponent on. An exponent beyond reach makes zero, unless it
is one that makes the number too large. -/
def exponentPart (negative : Bool) (significand : Nat) (power : Int) : Reader Json := do
  advance
  let up ← match ← peek with
    | some '+' => do advance; pure true
    | some '-' => do advance; pure false
    | _ => pure true
  match ← peek with
  | none => failHere .endOfValue
  | some c =>
    if !c.isDigit then failAhead .invalidNumber
    else
      match ← exponentDigits (significand == 0) up (← budget) 0 with
      | some exponent =>
        doubleOf negative significand (if up then power + exponent else power - exponent)
      | none => pure (.double (Number.Double.zero negative))

def isExponentLetter (c : Char) : Bool := c == 'e' || c == 'E'

/-- The part from the decimal point on. Digits beyond 2^64 are passed over. -/
def fractionPart (negative : Bool) (significand : Nat) (power : Int) : Reader Json := do
  advance
  let digits ← takeWhile Char.isDigit
  if digits.isEmpty then
    match ← peek with
    | some _ => failAhead .invalidNumber
    | none => failHere .endOfValue
  else
    let (significand, dropped) := gather significand digits
    let power := power - (digits.length - dropped.length : Nat)
    match ← peek with
    | some c => if isExponentLetter c then exponentPart negative significand power
                else doubleOf negative significand power
    | none => doubleOf negative significand power

/-- A whole number stays one if it fits 64 bits, signed or not; minus zero is a double. -/
def wholeNumber (negative : Bool) (significand : Nat) : Reader Json :=
  if !negative then pure (.integer significand)
  else if 0 < significand ∧ significand ≤ 0x8000000000000000 then pure (.integer (-(significand : Int)))
  else doubleOf true significand 0

/-- A number whose sign has been passed. -/
def number (negative : Bool) : Reader Json := do
  match ← peek with
  | none => failHere .endOfValue
  | some c =>
    if !c.isDigit then failAhead .invalidNumber
    else
      let digits ← if c = '0' then do advance; pure [c] else takeWhile Char.isDigit
      let (significand, dropped) := gather 0 digits
      match ← peek with
      | some '.' => fractionPart negative significand dropped.length
      | some next =>
        if isExponentLetter next then exponentPart negative significand dropped.length
        else if c = '0' ∧ next.isDigit then failAhead .invalidNumber
        else if dropped.isEmpty then wholeNumber negative significand
        else doubleOf negative significand dropped.length
      | none =>
        if dropped.isEmpty then wholeNumber negative significand
        else doubleOf negative significand dropped.length

/-! ## Lists and objects -/

/-- Whether another item follows in a list; a comma before it is passed. -/
def moreItems (first : Bool) : Reader Bool := do
  match ← peekToken with
  | none => failAhead .endOfList
  | some ']' => pure false
  | some c =>
    if first then pure true
    else if c = ',' then
      advance
      match ← peekToken with
      | some ']' => failAhead .trailingComma
      | some _ => pure true
      | none => failAhead .endOfValue
    else failAhead .expectedCommaOrBracket

/-- Whether another name follows in an object; a comma before it is passed. -/
def moreNames (first : Bool) : Reader Bool := do
  match ← peekToken with
  | none => failAhead .endOfObject
  | some '\x7d' => pure false
  | some c =>
    if first then
      if c = '"' then pure true else failAhead .nameNotString
    else if c = ',' then
      advance
      match ← peekToken with
      | some '"' => pure true
      | some '\x7d' => failAhead .trailingComma
      | some _ => failAhead .nameNotString
      | none => failAhead .endOfValue
    else failAhead .expectedCommaOrBrace

def colon : Reader Unit := do
  match ← peekToken with
  | some ':' => advance
  | some _ => failAhead .expectedColon
  | none => failAhead .endOfObject

/-- The items up to the closing bracket, which is passed. -/
def items (item : Reader Json) : Nat → Bool → List Json → Reader (List Json)
  | 0, _, _ => failHere .endOfList
  | rounds + 1, first, taken => do
    if ← moreItems first then
      let value ← item
      items item rounds false (value :: taken)
    else
      advance
      pure taken.reverse

/-- The fields up to the closing brace, which is passed; a repeated name keeps its last value. -/
def fields (value : Reader Json) :
    Nat → Bool → List (String × Json) → Reader (List (String × Json))
  | 0, _, _ => failHere .endOfObject
  | rounds + 1, first, taken => do
    if ← moreNames first then
      advance
      let name ← stringTail
      colon
      let found ← value
      fields value rounds false (insertField name found taken)
    else
      advance
      pure taken

/-- A value that may open as many levels as `depth` says. -/
def value (depth : Nat) : Reader Json := do
  match ← peekToken with
  | none => failAhead .endOfValue
  | some 'n' => do advance; word ['u', 'l', 'l']; pure .null
  | some 't' => do advance; word ['r', 'u', 'e']; pure (.bool true)
  | some 'f' => do advance; word ['a', 'l', 's', 'e']; pure (.bool false)
  | some '-' => do advance; number true
  | some '"' => do advance; return .string (← stringTail)
  | some '[' =>
    match depth with
    | 0 => failAhead .tooDeep
    | inner + 1 => do
      advance
      return .array (← items (value inner) (← budget) true [])
  | some '\x7b' =>
    match depth with
    | 0 => failAhead .tooDeep
    | inner + 1 => do
      advance
      return .object (← fields (value inner) (← budget) true [])
  | some c => if c.isDigit then number false else failAhead .expectedValue

/-- How deep values may nest. -/
def depthLimit : Nat := 127

/-- Nothing but blanks may follow the value of a text. -/
def finished : Reader Unit := do
  match ← peekToken with
  | none => pure ()
  | some _ => failAhead .trailingCharacters

end Reader

/-- The value that a text denotes. -/
def parse (text : String) : Except Fault Json :=
  let reader : Reader Json := do
    let value ← Reader.value Reader.depthLimit
    Reader.finished
    return value
  (reader (Cursor.ofText text)).map (·.1)

end TenantWork.Json
