import TenantWork.Json.Printer
/-!
The text of a JSON value for people: one item or field a line, two blanks deeper for each level. An
array or object without content stays on its line.
-/
namespace TenantWork.Json

def lineAt (depth : Nat) : List Char := '\n' :: List.replicate (2 * depth) ' '

mutual

def layoutAt (depth : Nat) : Json → List Char
  | .array (item :: rest) =>
    '[' :: lineAt (depth + 1) ++ layoutAt (depth + 1) item ++ layoutItems (depth + 1) rest ++
      lineAt depth ++ [']']
  | .object ((name, value) :: rest) =>
    '\x7b' :: lineAt (depth + 1) ++ stringText name ++ ':' :: ' ' :: layoutAt (depth + 1) value ++
      layoutFields (depth + 1) rest ++ lineAt depth ++ ['\x7d']
  | value => value.textChars

def layoutItems (depth : Nat) : List Json → List Char
  | [] => []
  | item :: rest => ',' :: lineAt depth ++ layoutAt depth item ++ layoutItems depth rest

def layoutFields (depth : Nat) : List (String × Json) → List Char
  | [] => []
  | (name, value) :: rest =>
    ',' :: lineAt depth ++ stringText name ++ ':' :: ' ' :: layoutAt depth value ++
      layoutFields depth rest

end

def layout (value : Json) : String := String.ofList (value.layoutAt 0)

end TenantWork.Json
