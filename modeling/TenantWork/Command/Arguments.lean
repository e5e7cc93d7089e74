import TenantWork.Number.Whole
/-!
Arguments of a command: options with long and short names, values attached or in the argument that
follows, and at most one free argument. Arguments are taken from left to right. The value of an
option that follows it is only looked at when the next argument calls for it, so a name that is
not known is reported before a bad value in front of it.
-/
namespace TenantWork.Command

inductive UsageFault where
  /-- Help was asked for. -/
  | help
  /-- Help is given because nothing was asked for. -/
  | nothingAsked
  | unknownCommand
  | unknownArgument
  /-- A value is missing, or is none of the few that are allowed. -/
  | invalidValue
  /-- A value cannot be read. -/
  | unreadableValue
  | repeatedArgument
  | missingArgument
  /-- A value is given to an option that takes none. -/
  | surplusValue
deriving DecidableEq, Repr

def UsageFault.exitStatus : UsageFault → UInt8
  | .help => 0
  | _ => 2

/-- What an option takes. -/
inductive Takes where
  | help
  | nothing
  | text
  | path
  | integer
  | truth
deriving DecidableEq, Repr

structure Argument where
  name : String
  short : Option Char
  takes : Takes
  required : Bool
deriving DecidableEq, Repr

def Argument.hasValue (argument : Argument) : Bool :=
  match argument.takes with
  | .help | .nothing => false
  | _ => true

structure Signature where
  options : List Argument
  /-- The name of the free argument, which must be there. -/
  free : Option String
deriving DecidableEq, Repr

def helpOption : Argument := ⟨"help", some 'h', .help, false⟩

def Signature.all (signature : Signature) : List Argument := signature.options ++ [helpOption]

/-- Arguments taken so far, with the option that was named last while its value is still open. -/
structure Intake where
  given : List (String × String)
  pending : Option (Argument × Option String)
  /-- Nothing is an option any more. -/
  freeOnly : Bool
deriving DecidableEq, Repr

namespace Intake

def empty : Intake := ⟨[], none, false⟩

def value? (intake : Intake) (name : String) : Option String := intake.given.lookup name

def checkValue (takes : Takes) (value : String) : Except UsageFault Unit :=
  match takes with
  | .help | .nothing | .text => .ok ()
  | .path => if value.isEmpty then .error .invalidValue else .ok ()
  | .integer =>
    if ((Number.integer? value).filter Number.fitsWord).isSome then .ok ()
    else .error .unreadableValue
  | .truth => if value == "true" || value == "false" then .ok () else .error .invalidValue

/-- Takes an option with its value. -/
def accept (intake : Intake) (argument : Argument) (value : String) : Except UsageFault Intake :=
  if (intake.value? argument.name).isSome then .error .repeatedArgument
  else (checkValue argument.takes value).map fun _ =>
    { intake with given := intake.given ++ [(argument.name, value)] }

/-- Closes the option that is still open. -/
def resolve (intake : Intake) : Except UsageFault Intake :=
  match intake.pending with
  | none => .ok intake
  | some (_, none) => .error .invalidValue
  | some (argument, some value) => { intake with pending := none }.accept argument value

/-- Takes the mention of an option, with the value attached to it. -/
def mention (intake : Intake) (argument : Argument) (attached : Option String) :
    Except UsageFault Intake := do
  let intake ← intake.resolve
  match argument.takes, attached with
  | .help, _ => .error .help
  | .nothing, _ => intake.accept argument "true"
  | _, some value => intake.accept argument value
  | _, none => return { intake with pending := some (argument, none) }

def takeFree (signature : Signature) (intake : Intake) (value : String) :
    Except UsageFault Intake := do
  match signature.free with
  | none => .error .unknownArgument
  | some name =>
    if (intake.value? name).isSome then .error .unknownArgument
    else
      let intake ← intake.resolve
      return { intake with given := intake.given ++ [(name, value)] }

def isMark (c : Char) : Bool := c == '='

/-- An argument after two hyphens: a name, and perhaps a value after an equals sign. -/
def takeLong (signature : Signature) (intake : Intake) (text : List Char) :
    Except UsageFault Intake :=
  let name := String.ofList (text.takeWhile fun c => !isMark c)
  let attached := match text.dropWhile fun c => !isMark c with
    | [] => none
    | _ :: value => some (String.ofList value)
  match signature.all.find? fun argument => argument.name == name with
  | none => .error .unknownArgument
  | some argument =>
    if attached.isSome && !argument.hasValue then .error .surplusValue
    else intake.mention argument attached

/-- An argument after one hyphen: a letter, and perhaps a value right after it. -/
def takeShort (signature : Signature) (intake : Intake) (letter : Char) (rest : List Char) :
    Except UsageFault Intake :=
  let attached := match rest with
    | [] => none
    | '=' :: value => some (String.ofList value)
    | value => some (String.ofList value)
  match signature.all.find? fun argument => argument.short == some letter with
  | none => .error .unknownArgument
  | some argument => intake.mention argument attached

def take (signature : Signature) (intake : Intake) (text : String) : Except UsageFault Intake :=
  if intake.freeOnly then takeFree signature intake text
  else
    match text.toList with
    | ['-', '-'] => .ok { intake with freeOnly := true }
    | '-' :: '-' :: rest => takeLong signature intake rest
    | '-' :: letter :: rest => takeShort signature intake letter rest
    | _ =>
      match intake.pending with
      | some (argument, none) => .ok { intake with pending := some (argument, some text) }
      | _ => takeFree signature intake text

def isComplete (signature : Signature) (intake : Intake) : Bool :=
  (signature.options.all fun argument =>
      !argument.required || (intake.value? argument.name).isSome) &&
    signature.free.all fun name => (intake.value? name).isSome

end Intake

/-- Reads the arguments of a command with a given signature. -/
def Signature.read (signature : Signature) (arguments : List String) :
    Except UsageFault Intake := do
  let intake ← (← arguments.foldlM (Intake.take signature) .empty).resolve
  if intake.isComplete signature then return intake else .error .missingArgument

end TenantWork.Command
