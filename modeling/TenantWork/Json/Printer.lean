import TenantWork.Json.Value
import TenantWork.Number.Shortest
/-!
The compact text of a JSON value: no blanks, fields in the order of the object, doubles by their
shortest decimal and always with a point or an exponent. In strings only the quote, the backslash
and the controls below the space are escaped.
-/
namespace TenantWork.Json

private def hexDigit (n : Nat) : Char := (Nat.digitChar (n % 16))

def escapeChar (c : Char) : List Char :=
  if c = '"' then ['\\', '"']
  else if c = '\\' then ['\\', '\\']
  else if c = '\n' then ['\\', 'n']
  else if c = '\r' then ['\\', 'r']
  else if c = '\t' then ['\\', 't']
  else if c.toNat = 0x08 then ['\\', 'b']
  else if c.toNat = 0x0C then ['\\', 'f']
  else if c.toNat < 0x20 then ['\\', 'u', '0', '0', hexDigit (c.toNat / 16), hexDigit c.toNat]
  else [c]

def stringText (text : String) : List Char :=
  '"' :: text.toList.flatMap escapeChar ++ ['"']

mutual

def textChars : Json → List Char
  | .null => "null".toList
  | .bool true => "true".toList
  | .bool false => "false".toList
  | .integer value => (toString value).toList
  | .double value => value.text
  | .string value => stringText value
  | .array items => '[' :: itemsText items ++ [']']
  | .object fields => '\x7b' :: fieldsText fields ++ ['\x7d']

def itemsText : List Json → List Char
  | [] => []
  | [item] => textChars item
  | item :: rest => textChars item ++ ',' :: itemsText rest

def fieldsText : List (String × Json) → List Char
  | [] => []
  | [(name, value)] => stringText name ++ ':' :: textChars value
  | (name, value) :: rest => stringText name ++ ':' :: textChars value ++ ',' :: fieldsText rest

end

def compact (value : Json) : String := String.ofList value.textChars

end TenantWork.Json
