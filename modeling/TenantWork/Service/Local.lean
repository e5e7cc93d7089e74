import TenantWork.Service.Executor
/-!
Executors within the process: one handler for each kind, run while the entity is handed over or
apart from it, on a thread that the system may refuse. A handler that breaks off ends in a failure
of its own code. A report that only the lifecycle refuses is dropped; one that the store refuses is
passed on to the caller.
-/
namespace TenantWork.Service

/-- How a handler ends. -/
inductive Handled where
  | value (result : Json)
  | failed (failure : Failure)
  /-- The handler broke off, with a message if it left one. -/
  | panicked (message : Option String)
deriving DecidableEq

abbrev Handler := Owner → Entity → Handled

/-- What comes of a thread that the system is asked for by name: it is started, or refused with a
reason. -/
abbrev Threads := String → Except String Unit

inductive Mode where
  | inline
  | thread (threads : Threads)

structure Local where
  name : String
  mode : Mode
  handler : Kind → Option Handler

def Handled.outcome : Handled → Outcome
  | .value result => .succeeded result
  | .failed failure => .failed failure
  | .panicked message =>
    .failed ⟨ErrorCode.executorDispatchFailed.text,
      "handler panicked: " ++ message.getD "unknown panic"⟩

namespace Local

def echo : Handler := fun _ e => .value (.ofFields [("echo", e.payload)])

def missing (worker : Local) (kind : Kind) : Error :=
  .executorDispatchFailed worker.name ("no handler registered for " ++ kind.name)

/-- The answer to the caller once the outcome has been reported. -/
def afterReport : Except Error Entity → Except Error Unit
  | .ok _ => .ok ()
  | .error fault => if fault.isPersistence then .error fault else .ok ()

def threadName (worker : Local) (dispatch : String) : String := worker.name ++ "-" ++ dispatch

/-- Whether a thread can have this name: a zero in it would end it early. -/
def isThreadName (name : String) : Bool := !name.toList.contains '\x00'

/-- A thread of its own reports the outcome. A refusal by the system is an error of the executor, but
a name that no thread can have breaks the caller off. -/
def spawn (worker : Local) (threads : Threads) (dispatch : String) (outcome : Outcome) : Start :=
  if isThreadName (worker.threadName dispatch) then
    match threads (worker.threadName dispatch) with
    | .ok () => .deferred outcome
    | .error reason => .answered (.error (.executorDispatchFailed worker.name reason))
  else .brokeOff

def start (worker : Local) (e : Entity) (dispatch : String) : Start :=
  match worker.handler e.kind with
  | none => .answered (.error (worker.missing e.kind))
  | some handler =>
    let outcome := (handler e.owner e).outcome
    match worker.mode with
    | .inline => .reported outcome afterReport
    | .thread threads => worker.spawn threads dispatch outcome

/-- The executor, with an endless supply of dispatch ids. Each call moves on in the supply, so no
id is given twice. -/
def executor (worker : Local) (ids : Nat → String) : Executor where
  name := worker.name
  reserve calls e :=
    if (worker.handler e.kind).isSome then .ok (ids calls.length)
    else .error (worker.missing e.kind)
  start _ e dispatch := worker.start e dispatch

end Local

end TenantWork.Service
