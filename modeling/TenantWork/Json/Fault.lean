import TenantWork.Json.Value
import TenantWork.Number.Shortest
import TenantWork.Text.Quoted
/-!
What can be wrong with a JSON text or with the shape of a value, and how it is reported. A fault
found in a text carries its place: the line, counted from one, and the column in bytes. A fault
found in a value that was read before has no place.
-/
namespace TenantWork.Json

/-- A place in a text; the column counts the bytes of the line before it. -/
structure Position where
  line : Nat
  column : Nat
deriving DecidableEq, Repr

namespace Position

def start : Position := ⟨1, 0⟩

/-- The place behind a character. -/
def past (place : Position) (c : Char) : Position :=
  if c = '\n' then ⟨place.line + 1, 0⟩ else ⟨place.line, place.column + c.utf8Size⟩

/-- The place behind the first byte of a character. -/
def pastByte (place : Position) (c : Char) : Position :=
  if c = '\n' then ⟨place.line + 1, 0⟩ else ⟨place.line, place.column + 1⟩

/-- The place some bytes further on in the same line. -/
def right (place : Position) (bytes : Nat) : Position := ⟨place.line, place.column + bytes⟩

end Position

/-- How a text breaks the grammar. -/
inductive Grammar where
  | endOfValue
  | endOfList
  | endOfObject
  | endOfString
  | expectedColon
  | expectedCommaOrBracket
  | expectedCommaOrBrace
  | expectedWord
  | expectedValue
  | invalidEscape
  | invalidNumber
  | numberTooLarge
  | loneSurrogate
  | halfSurrogatePair
  | controlCharacter
  | nameNotString
  | trailingComma
  | trailingCharacters
  | tooDeep
deriving DecidableEq, Repr

def Grammar.message : Grammar → String
  | .endOfValue => "EOF while parsing a value"
  | .endOfList => "EOF while parsing a list"
  | .endOfObject => "EOF while parsing an object"
  | .endOfString => "EOF while parsing a string"
  | .expectedColon => "expected `:`"
  | .expectedCommaOrBracket => "expected `,` or `]`"
  | .expectedCommaOrBrace => "expected `,` or `\x7d`"
  | .expectedWord => "expected ident"
  | .expectedValue => "expected value"
  | .invalidEscape => "invalid escape"
  | .invalidNumber => "invalid number"
  | .numberTooLarge => "number out of range"
  | .loneSurrogate => "lone leading surrogate in hex escape"
  | .halfSurrogatePair => "unexpected end of hex escape"
  | .controlCharacter => "control character (\\u0000-\\u001F) found while parsing a string"
  | .nameNotString => "key must be a string"
  | .trailingComma => "trailing comma"
  | .trailingCharacters => "trailing characters"
  | .tooDeep => "recursion limit exceeded"

/-- A value of the wrong sort, as far as a report names it. -/
inductive Seen where
  | null
  | bool (value : Bool)
  | integer (value : Int)
  | double (value : Number.Double)
  | string (value : String)
  | list
  | object
deriving DecidableEq, Repr

def Seen.ofJson : Json → Seen
  | .null => .null
  | .bool value => .bool value
  | .integer value => .integer value
  | .double value => .double value
  | .string value => .string value
  | .array _ => .list
  | .object _ => .object

def Seen.describe : Seen → String
  | .null => "null"
  | .bool value => "boolean `" ++ (if value then "true" else "false") ++ "`"
  | .integer value => "integer `" ++ toString value ++ "`"
  | .double value => "floating point `" ++ String.ofList value.text ++ "`"
  | .string value => "string " ++ Text.quote value
  | .list => "sequence"
  | .object => "map"

inductive Cause where
  | grammar (fault : Grammar)
  | wrongType (seen : Seen) (expected : String)
  | wrongValue (seen : Seen) (expected : String)
  | wrongLength (length : Nat) (expected : String)
  | unknownVariant (name : String) (known : List String)
  | missingField (name : String)
  | duplicateField (name : String)
  | rejected (reason : String)
deriving DecidableEq, Repr

def Cause.message : Cause → String
  | .grammar fault => fault.message
  | .wrongType seen expected => "invalid type: " ++ seen.describe ++ ", expected " ++ expected
  | .wrongValue seen expected => "invalid value: " ++ seen.describe ++ ", expected " ++ expected
  | .wrongLength length expected =>
    "invalid length " ++ toString length ++ ", expected " ++ expected
  | .unknownVariant name known =>
    "unknown variant `" ++ name ++ "`, expected one of " ++
      String.intercalate ", " (known.map fun option => "`" ++ option ++ "`")
  | .missingField name => "missing field `" ++ name ++ "`"
  | .duplicateField name => "duplicate field `" ++ name ++ "`"
  | .rejected reason => reason

structure Fault where
  cause : Cause
  place : Option Position
deriving DecidableEq, Repr

def Fault.message (fault : Fault) : String :=
  match fault.place with
  | none => fault.cause.message
  | some place =>
    fault.cause.message ++ " at line " ++ toString place.line ++ " column " ++
      toString place.column

end TenantWork.Json
