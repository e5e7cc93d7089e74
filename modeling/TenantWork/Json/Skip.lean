import TenantWork.Json.Reader
/-!
Passing over a value whose content does not matter. The brackets must match and the parts must
stand in order, but values may nest to any depth, numbers may have any size, and escaped
surrogates need no partner.
-/
namespace TenantWork.Json.Reader

/-- An opened list or object. -/
inductive Opened where
  | list
  | object
deriving DecidableEq, Repr

def skipExponent : Reader Unit := do
  advance
  match ← peek with
  | some '+' | some '-' => advance
  | _ => pure ()
  match ← peek with
  | none => failHere .invalidNumber
  | some c =>
    if c.isDigit then
      let _ ← takeWhile Char.isDigit
    else failAhead .invalidNumber

def skipExponentIfAny : Reader Unit := do
  match ← peek with
  | some c => if isExponentLetter c then skipExponent else pure ()
  | none => pure ()

def skipNumber : Reader Unit := do
  match ← peek with
  | none => failHere .invalidNumber
  | some c =>
    if !c.isDigit then failAhead .invalidNumber
    else
      if c = '0' then
        advance
        match ← peek with
        | some next => if next.isDigit then failAhead .invalidNumber else pure ()
        | none => pure ()
      else
        let _ ← takeWhile Char.isDigit
      match ← peek with
      | some '.' =>
        advance
        if (← takeWhile Char.isDigit).isEmpty then failAhead .invalidNumber
        else skipExponentIfAny
      | _ => skipExponentIfAny

/-- The name and colon of a field. -/
def skipName : Reader Unit := do
  match ← peekToken with
  | some '"' =>
    advance
    skipStringTail
    match ← peekToken with
    | some ':' => advance
    | some _ => failAhead .expectedColon
    | none => failAhead .endOfObject
  | some _ => failAhead .nameNotString
  | none => failAhead .endOfObject

/-- What the skipping reader looks for next, inside the lists and objects opened so far. -/
inductive Awaited where
  | value
  | first
  | next
deriving DecidableEq, Repr

def endOf : Opened → Grammar
  | .list => .endOfList
  | .object => .endOfObject

def expectedAfter : Opened → Grammar
  | .list => .expectedCommaOrBracket
  | .object => .expectedCommaOrBrace

def closing : Opened → Char
  | .list => ']'
  | .object => '\x7d'

def skipFrom : Nat → List Opened → Awaited → Reader Unit
  | 0, _, _ => failHere .endOfValue
  | rounds + 1, opened, .value => do
    match ← peekToken with
    | none => failAhead .endOfValue
    | some 'n' => advance; word ['u', 'l', 'l']; skipFrom rounds opened .next
    | some 't' => advance; word ['r', 'u', 'e']; skipFrom rounds opened .next
    | some 'f' => advance; word ['a', 'l', 's', 'e']; skipFrom rounds opened .next
    | some '-' => advance; skipNumber; skipFrom rounds opened .next
    | some '"' => advance; skipStringTail; skipFrom rounds opened .next
    | some '[' => advance; skipFrom rounds (.list :: opened) .first
    | some '\x7b' => advance; skipFrom rounds (.object :: opened) .first
    | some c =>
      if c.isDigit then
        skipNumber
        skipFrom rounds opened .next
      else failAhead .expectedValue
  | _ + 1, [], _ => pure ()
  | rounds + 1, innermost :: opened, awaited => do
    let enter : Reader Unit := match innermost with
      | .list => pure ()
      | .object => skipName
    match ← peekToken with
    | none => failAhead (endOf innermost)
    | some c =>
      if c = closing innermost then
        advance
        skipFrom rounds opened .next
      else if awaited = .next then
        if c = ',' then
          advance
          enter
          skipFrom rounds (innermost :: opened) .value
        else failAhead (expectedAfter innermost)
      else
        enter
        skipFrom rounds (innermost :: opened) .value

/-- Passes over one value. -/
def skip : Reader Unit := do skipFrom (← budget) [] .value

end TenantWork.Json.Reader
