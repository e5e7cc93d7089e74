import TenantWork.Access.Admin
import TenantWork.Command.Arguments
import TenantWork.Work.Entity
/-!
The commands of the program and how they are written. All of them but the check of an actor work
on the store that a settings file names, for one owner.
-/
namespace TenantWork.Command

/-- What a command does with the store. -/
inductive Action where
  | submit (kind payload : String) (key : Option String) (dispatch : Bool)
  | get (id : EntityId)
  | list (kind status : Option String)
  | transition (id : EntityId) (target : String) (result errorCode errorMessage : Option String)
  | cancel (id : EntityId)
  | retry (id : EntityId)
  | dispatch (id : EntityId)
  | delete (id : EntityId)
deriving DecidableEq, Repr

inductive Task where
  | act (settingsFile owner : String) (action : Action)
  | adminCheck (actor : Access.Capabilities)
deriving DecidableEq, Repr

namespace Task

def scope : List Argument := [⟨"config", some 'c', .path, true⟩, ⟨"owner", some 'o', .text, true⟩]

def required (name : String) : Argument := ⟨name, none, .text, true⟩

def optional (name : String) (takes : Takes) : Argument := ⟨name, none, takes, false⟩

def signature? : String → Option Signature
  | "submit" => some ⟨scope ++ [required "kind", optional "payload" .text, optional "key" .text,
      optional "dispatch" .nothing], none⟩
  | "list" => some ⟨scope ++ [optional "kind" .text, optional "status" .text], none⟩
  | "transition" => some ⟨scope ++ [required "to", optional "result" .text,
      optional "error-code" .text, optional "error-message" .text], some "id"⟩
  | "get" | "cancel" | "retry" | "dispatch" | "delete" => some ⟨scope, some "id"⟩
  | "admin-check" => some ⟨[required "actor", optional "role" .text, optional "level" .integer,
      optional "legacy-admin" .truth], none⟩
  | _ => none

def isKnown (name : String) : Bool := (signature? name).isSome || name == "help"

/-- The action that complete arguments of a command describe. -/
def actionOf (name : String) (intake : Intake) : Action :=
  let id : EntityId := ⟨(intake.value? "id").getD ""⟩
  match name with
  | "submit" => .submit ((intake.value? "kind").getD "") ((intake.value? "payload").getD "\x7b\x7d")
      (intake.value? "key") (intake.value? "dispatch").isSome
  | "list" => .list (intake.value? "kind") (intake.value? "status")
  | "transition" => .transition id ((intake.value? "to").getD "") (intake.value? "result")
      (intake.value? "error-code") (intake.value? "error-message")
  | "cancel" => .cancel id
  | "retry" => .retry id
  | "dispatch" => .dispatch id
  | "delete" => .delete id
  | _ => .get id

def actorOf (intake : Intake) : Access.Capabilities where
  actor := (intake.value? "actor").getD ""
  role := intake.value? "role"
  level := (intake.value? "level").bind Number.integer?
  legacyFlag := (intake.value? "legacy-admin").map (· == "true")

/-- Asking for help on a command, by the words after `help`. -/
def readHelp : List String → UsageFault
  | [] => .help
  | [name] => if isKnown name then .help else .unknownCommand
  | _ => .unknownCommand

/-- An argument in front of any command. -/
def leadingFault (text : String) : UsageFault :=
  match text.toList with
  | '-' :: '-' :: rest =>
    if rest = "help".toList then .help
    else if rest.takeWhile (!Intake.isMark ·) = "help".toList then .surplusValue
    else .unknownArgument
  | '-' :: letter :: _ => if letter = 'h' then .help else .unknownArgument
  | _ => .unknownCommand

def read : List String → Except UsageFault Task
  | [] | ["--"] => .error .nothingAsked
  | "--" :: name :: _ => .error (if isKnown name then .unknownArgument else .unknownCommand)
  | "help" :: words => .error (readHelp words)
  | name :: arguments =>
    match signature? name with
    | none => .error (leadingFault name)
    | some signature => do
      let intake ← signature.read arguments
      if name = "admin-check" then return .adminCheck (actorOf intake)
      else
        return .act ((intake.value? "config").getD "") ((intake.value? "owner").getD "")
          (actionOf name intake)

end Task

end TenantWork.Command
