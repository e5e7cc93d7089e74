import TenantWork.Command.Task
import TenantWork.Config.Validation
import TenantWork.Json.Reader
import TenantWork.Service.World
import TenantWork.Work.EntityJson
/-!
Carrying a command out and reporting on it. The settings are read and checked first, then the
store is opened and the service set up, then the owner is looked at, and the command's own
arguments last; the first fault ends the command. Dispatched work is done by an executor that gives
the payload back as the result.
-/
namespace TenantWork.Command

structure Report where
  exitStatus : UInt8
  output : Option Json
  complaint : Option String
deriving DecidableEq

namespace Report

def success (output : Json) : Report := ⟨0, some output, none⟩

def failure (fault : Error) : Report :=
  ⟨fault.code.exitStatus, none, some ("error [" ++ fault.code.text ++ "]: " ++ fault.message)⟩

def ofResult : Except Error Json → Report
  | .ok output => success output
  | .error fault => failure fault

/-- The report on a settings file that gives no settings. -/
def badSource (fault : Error) : Report :=
  ⟨fault.code.exitStatus, none, some ("error: " ++ fault.message)⟩

end Report

/-- The settings in a file, given its text or the reason why there is none. -/
def readSource (path : String) (content : Except String String) : Except Error Config.Source :=
  let refuse (reason : String) : Error :=
    .configParse path ("couldn't read " ++ path ++ ": " ++ reason)
  match content with
  | .error reason => .error (refuse reason)
  | .ok text =>
    match Config.Ini.read text with
    | .ok items => .ok (.file items)
    | .error fault => .error (refuse fault.message)

def echoWorker : Service.Local := ⟨"local", .inline, fun _ => some Service.Local.echo⟩

/-- All that is needed before the store is opened. -/
structure Prepared where
  /-- Absent for a store in memory. -/
  database : Option Config.DatabaseOptions
  service : Service

def prepare (source : Config.Source) : Except Error Prepared := do
  let settings ← Config.Settings.ofPort source.port
  let database ← match settings.backend with
    | .memory => pure none
    | .database => (Config.DatabaseOptions.ofPort source.port).map some
  let service ← Service.setUp settings.service [echoWorker.name]
  return ⟨database, service⟩

def shown {α : Type} (call : Service.Call α) (encode : α → Json) : Service.Call Json :=
  call.andThen fun value => .succeed (encode value)

def parseJson (text : String) : Except Error Json := (Json.parse text).mapError Error.json

/-- The failure that the options name; one of them is enough. -/
def failureOf : Option String → Option String → Option Failure
  | none, none => none
  | code, message => some ⟨code.getD "", message.getD ""⟩

/-- The call that a command stands for. -/
def Action.call (service : Service) (owner : Owner) : Action → Except Error (Service.Call Json)
  | .submit kind payload key dispatched => do
    let kind ← Kind.parse kind
    let payload ← parseJson payload
    return shown (if dispatched then service.submitAndDispatch owner kind payload key
      else service.submit owner kind payload key) Entity.toJson
  | .get id => .ok (shown (Service.load owner id) Entity.toJson)
  | .list kind status => do
    let kind ← kind.mapM Kind.parse
    let status ← status.mapM Status.parse
    return shown (Service.list owner ⟨kind, status⟩) fun found => .array (found.map Entity.toJson)
  | .transition id target result errorCode errorMessage => do
    let target ← Status.parse target
    let result ← result.mapM parseJson
    let request : Transition := ⟨target, result, failureOf errorCode errorMessage, none⟩
    return shown (Service.transition owner id request) Entity.toJson
  | .cancel id => .ok (shown (Service.cancel owner id) Entity.toJson)
  | .retry id => .ok (shown (Service.retry owner id) Entity.toJson)
  | .dispatch id => .ok (shown (service.dispatch owner id) Entity.toJson)
  | .delete id => .ok (shown (Service.delete owner id) fun _ =>
      Json.ofFields [("deleted", .string id.text)])

/-- Carries a command out in a world that holds the opened store. -/
def Action.run {Tables : Type} [Store.Storage Tables] (action : Action) (service : Service)
    (owner : String) (world : Service.World Tables) : Report × Service.World Tables :=
  match (do action.call service (← Owner.ofName owner)) with
  | .error fault => (.failure fault, world)
  | .ok call =>
    let (result, world) := call.run world
    (.ofResult result, world)

/-- The decision on an actor, which is printed whatever it is. -/
def adminReport (actor : Access.Capabilities) : Report :=
  let decision := Access.decideAdmin actor
  let output := Json.ofFields [("actor_id", .string actor.actor),
    ("is_admin", .bool decision.isAdmin), ("source", .string decision.source.name)]
  ⟨if decision.isAdmin then 0 else ErrorCode.accessDenied.exitStatus, some output, none⟩

end TenantWork.Command
