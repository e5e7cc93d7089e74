import TenantWork.Text.Blank
import TenantWork.Text.Lowercase
/-!
Settings files. A line opens a part, sets a key of that part, or names a key without a value. A
semicolon or a number sign starts a comment wherever it stands. Names of parts and keys are kept
in small letters, and keys before the first part belong to the part `default`.
-/
namespace TenantWork.Config

structure Item where
  part : String
  key : String
  /-- Absent for a key that is only named. -/
  value : Option String
deriving DecidableEq, Repr

namespace Ini

inductive Fault where
  | unclosedPart (line : Nat)
  | emptyKey (line : Nat)
deriving DecidableEq, Repr

/-- A line is trimmed first, so its key can only be empty when the delimiter is in column 0. -/
def Fault.message : Fault → String
  | .unclosedPart line =>
    "line " ++ toString line ++ ": Found opening bracket for section name but no closing bracket"
  | .emptyKey line => "line " ++ toString line ++ ":0: Key cannot be empty"

/-- What one line says. -/
inductive Line where
  | nothing
  | part (name : String)
  | item (key : String) (value : Option String)
deriving DecidableEq, Repr

def startsComment (c : Char) : Bool := c == ';' || c == '#'

def isDelimiter (c : Char) : Bool := c == '=' || c == ':'

/-- A line without its comment and the blanks around it. -/
def bare (line : String) : List Char :=
  Text.trimChars (line.toList.takeWhile fun c => !startsComment c)

/-- The text before the last closing bracket. -/
def beforeBracket? (text : List Char) : Option (List Char) :=
  match text.reverse.dropWhile fun c => c != ']' with
  | [] => none
  | _ :: before => some before.reverse

def nameOf (text : List Char) : String := Text.lowercase (String.ofList (Text.trimChars text))

def readLine (number : Nat) (line : String) : Except Fault Line :=
  match bare line with
  | [] => .ok .nothing
  | '[' :: rest =>
    match beforeBracket? rest with
    | some name => .ok (.part (nameOf name))
    | none => .error (.unclosedPart number)
  | shown =>
    match shown.dropWhile fun c => !isDelimiter c with
    | [] => .ok (.item (nameOf shown) none)
    | _ :: value =>
      let key := nameOf (shown.takeWhile fun c => !isDelimiter c)
      if key.isEmpty then .error (.emptyKey number)
      else .ok (.item key (some (String.ofList (Text.trimChars value))))

/-- The items of the lines from a given number on, the first ones in the given part. -/
def readLines (part : String) (number : Nat) : List String → Except Fault (List Item)
  | [] => .ok []
  | line :: rest =>
    match readLine number line with
    | .error fault => .error fault
    | .ok .nothing => readLines part (number + 1) rest
    | .ok (.part name) => readLines name (number + 1) rest
    | .ok (.item key value) => (readLines part (number + 1) rest).map (⟨part, key, value⟩ :: ·)

def read (text : String) : Except Fault (List Item) := readLines "default" 1 (text.splitOn "\n")

end Ini

end TenantWork.Config
