import TenantWork.Config.Ini
import TenantWork.Number.Whole
import TenantWork.Error
/-!
Where settings are read from: a file, whose names are looked up in any letter case, or entries
that are served exactly as given. Of several items under one name the last one counts. Settings are
taken from either of them through a port.
-/
namespace TenantWork.Config

/-- What settings are taken through. The keys of a part may come in any order, and repeatedly, and
a key need not have a text. -/
structure Port where
  text? : String → String → Option String
  keys : String → List String

/-- The whole number under a name, or the default where there is none that fits a word. -/
def Port.integer (port : Port) (part key : String) (default : Int) : Int :=
  ((port.text? part key).bind fun text =>
    (Number.integer? text).filter Number.fitsWord).getD default

inductive Source where
  | file (items : List Item)
  | given (entries : List Item)
deriving DecidableEq, Repr

/-- The last item under a name. -/
def find? (items : List Item) (part key : String) : Option Item :=
  items.reverse.find? fun item => item.part == part && item.key == key

/-- Puts a name into an increasing list that does not hold it yet. -/
def insertName (name : String) : List String → List String
  | [] => [name]
  | other :: rest =>
    if name = other then other :: rest
    else if name < other then name :: other :: rest
    else other :: insertName name rest

/-- The keys of a part, each once, in increasing order. -/
def keysOf (items : List Item) (part : String) : List String :=
  ((items.filter fun item => item.part == part).map Item.key).foldr insertName []

/-- The truth that a word of a settings file stands for. -/
def wordTruth? (word : String) : Option Bool :=
  match Text.lowercase word with
  | "true" | "yes" | "1" => some true
  | "false" | "no" | "0" => some false
  | _ => none

namespace Source

def ofText (text : String) : Except Error Source :=
  match Ini.read text with
  | .ok items => .ok (.file items)
  | .error fault => .error (.configParse "input" fault.message)

/-- The text under a name; none for a key that is only named. -/
def text? (source : Source) (part key : String) : Option String :=
  match source with
  | .file items => (find? items (Text.lowercase part) (Text.lowercase key)).bind Item.value
  | .given entries => (find? entries part key).bind Item.value

def keys (source : Source) (part : String) : List String :=
  match source with
  | .file items => keysOf items (Text.lowercase part)
  | .given entries => keysOf entries part

def port (source : Source) : Port := ⟨source.text?, source.keys⟩

/-- The truth under a name. A file knows more words for it than the exact word `true`. -/
def flag (source : Source) (part key : String) (default : Bool) : Bool :=
  match source with
  | .file _ => ((source.text? part key).bind wordTruth?).getD default
  | .given _ => ((source.text? part key).map fun text => text == "true").getD default

end Source

end TenantWork.Config
