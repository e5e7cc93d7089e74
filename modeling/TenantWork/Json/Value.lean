import TenantWork.Number.Double
/-!
JSON values. Whole numbers and doubles are kept apart, so `1` and `1.0` are different values.
An object holds its fields in increasing order of their names, each name once; `insertField` keeps
that order and lets the last value win. `same` is equality of values as numbers, under which the
two zeros of a double are equal; it differs from `=` in nothing else.
-/
namespace TenantWork

open TenantWork.Number (Double)

inductive Json where
  | null
  | bool (value : Bool)
  | integer (value : Int)
  | double (value : Double)
  | string (value : String)
  | array (items : List Json)
  | object (fields : List (String × Json))

namespace Json

instance : Inhabited Json := ⟨.null⟩

mutual

def decEq : (a b : Json) → Decidable (a = b)
  | .null, b => match b with
    | .null => .isTrue rfl
    | .bool _ | .integer _ | .double _ | .string _ | .array _ | .object _ =>
      .isFalse (fun h => by cases h)
  | .bool x, b => match b with
    | .bool y => if h : x = y then .isTrue (h ▸ rfl) else .isFalse (fun e => by cases e; exact h rfl)
    | .null | .integer _ | .double _ | .string _ | .array _ | .object _ =>
      .isFalse (fun h => by cases h)
  | .integer x, b => match b with
    | .integer y =>
      if h : x = y then .isTrue (h ▸ rfl) else .isFalse (fun e => by cases e; exact h rfl)
    | .null | .bool _ | .double _ | .string _ | .array _ | .object _ =>
      .isFalse (fun h => by cases h)
  | .double x, b => match b with
    | .double y =>
      if h : x = y then .isTrue (h ▸ rfl) else .isFalse (fun e => by cases e; exact h rfl)
    | .null | .bool _ | .integer _ | .string _ | .array _ | .object _ =>
      .isFalse (fun h => by cases h)
  | .string x, b => match b with
    | .string y =>
      if h : x = y then .isTrue (h ▸ rfl) else .isFalse (fun e => by cases e; exact h rfl)
    | .null | .bool _ | .integer _ | .double _ | .array _ | .object _ =>
      .isFalse (fun h => by cases h)
  | .array x, b => match b with
    | .array y => match decEqItems x y with
      | .isTrue h => .isTrue (h ▸ rfl)
      | .isFalse h => .isFalse (fun e => by cases e; exact h rfl)
    | .null | .bool _ | .integer _ | .double _ | .string _ | .object _ =>
      .isFalse (fun h => by cases h)
  | .object x, b => match b with
    | .object y => match decEqFields x y with
      | .isTrue h => .isTrue (h ▸ rfl)
      | .isFalse h => .isFalse (fun e => by cases e; exact h rfl)
    | .null | .bool _ | .integer _ | .double _ | .string _ | .array _ =>
      .isFalse (fun h => by cases h)

def decEqItems : (a b : List Json) → Decidable (a = b)
  | [], [] => .isTrue rfl
  | [], _ :: _ => .isFalse (fun h => by cases h)
  | _ :: _, [] => .isFalse (fun h => by cases h)
  | x :: xs, y :: ys =>
    match decEq x y with
    | .isFalse h => .isFalse (fun e => by cases e; exact h rfl)
    | .isTrue h => match decEqItems xs ys with
      | .isFalse t => .isFalse (fun e => by cases e; exact t rfl)
      | .isTrue t => .isTrue (h ▸ t ▸ rfl)

def decEqFields : (a b : List (String × Json)) → Decidable (a = b)
  | [], [] => .isTrue rfl
  | [], _ :: _ => .isFalse (fun h => by cases h)
  | _ :: _, [] => .isFalse (fun h => by cases h)
  | (k, x) :: xs, (l, y) :: ys =>
    if n : k = l then
      match decEq x y with
      | .isFalse h => .isFalse (fun e => by cases e; exact h rfl)
      | .isTrue h => match decEqFields xs ys with
        | .isFalse t => .isFalse (fun e => by cases e; exact t rfl)
        | .isTrue t => .isTrue (n ▸ h ▸ t ▸ rfl)
    else .isFalse (fun e => by cases e; exact n rfl)

end

instance : DecidableEq Json := decEq

mutual

/-- Equal values; the sign of a zero does not count. -/
def same : Json → Json → Bool
  | .null, .null => true
  | .bool x, .bool y => x == y
  | .integer x, .integer y => x == y
  | .double x, .double y => x.same y
  | .string x, .string y => x == y
  | .array x, .array y => sameItems x y
  | .object x, .object y => sameFields x y
  | _, _ => false

def sameItems : List Json → List Json → Bool
  | [], [] => true
  | x :: xs, y :: ys => same x y && sameItems xs ys
  | _, _ => false

def sameFields : List (String × Json) → List (String × Json) → Bool
  | [], [] => true
  | (k, x) :: xs, (l, y) :: ys => k == l && same x y && sameFields xs ys
  | _, _ => false

end

/-- Sets a field, keeping the names in order. -/
def insertField (name : String) (value : Json) : List (String × Json) → List (String × Json)
  | [] => [(name, value)]
  | (other, kept) :: rest =>
    if name = other then (name, value) :: rest
    else if name < other then (name, value) :: (other, kept) :: rest
    else (other, kept) :: insertField name value rest

/-- The object with these fields; of two with one name the later one counts. -/
def ofFields (fields : List (String × Json)) : Json :=
  .object (fields.foldl (fun sorted field => insertField field.1 field.2 sorted) [])

/-- The value of a field of an object. -/
def field? (name : String) : Json → Option Json
  | .object fields => (fields.find? fun field => field.1 == name).map (·.2)
  | _ => none

/-- A text, or null for an absent one. -/
def ofText? : Option String → Json
  | some text => .string text
  | none => .null

end Json

end TenantWork
