import TenantWork.Work.Entity
/-!
Moving a unit of work to another status. The effects hang on the status entered: the initial
status wipes the attempt before it, the running status stamps the start and takes note of the
dispatch, the success and failure statuses set the outcome, and every finished status stamps the
end. Time never runs backwards on an entity.
-/
namespace TenantWork

structure Failure where
  code : String
  message : String
deriving DecidableEq, Repr

/-- Which executor has taken an entity, and under which id. -/
structure Dispatch where
  executor : String
  id : Option String
deriving DecidableEq, Repr

/-- The status to enter, with what that status may need. -/
structure Transition where
  target : Status
  result : Option Json
  failure : Option Failure
  dispatch : Option Dispatch
deriving DecidableEq

namespace Transition

def into (target : Status) : Transition := ⟨target, none, none, none⟩

def withResult (request : Transition) (result : Json) : Transition :=
  { request with result := some result }

def withFailure (request : Transition) (code message : String) : Transition :=
  { request with failure := some ⟨code, message⟩ }

def withDispatch (request : Transition) (executor : String) (id : Option String) : Transition :=
  { request with dispatch := some ⟨executor, id⟩ }

end Transition

/-- The failure recorded when a caller gives none. -/
def Failure.unspecified : Failure := ⟨"FAILED", "unspecified failure"⟩

namespace Entity

def checkStep (kind : Kind) (source target : Status) : Except Error Unit :=
  if kind.lifecycle.allows source target then .ok ()
  else .error (.invalidTransition source target)

/-- Nothing is left of an earlier attempt. -/
def withoutAttempt (e : Entity) : Entity :=
  { e with
    result := none, errorCode := none, errorMessage := none, executor := none, dispatch := none,
    startedAt := none, finishedAt := none }

def started (e : Entity) (stamp : Time.Instant) (dispatch : Option Dispatch) : Entity :=
  let e := { e with startedAt := e.startedAt <|> some stamp }
  match dispatch with
  | some given => { e with executor := some given.executor, dispatch := given.id }
  | none => e

def succeeded (e : Entity) (result : Option Json) : Entity :=
  { e with result := some (result.getD .null), errorCode := none, errorMessage := none }

def failed (e : Entity) (failure : Option Failure) : Entity :=
  let failure := failure.getD .unspecified
  { e with
    result := none, errorCode := some failure.code, errorMessage := some failure.message }

def finished (e : Entity) (stamp : Time.Instant) : Entity :=
  { e with finishedAt := e.finishedAt <|> some stamp }

/-- The effects of entering the target of a request, without asking whether it may be entered. -/
def entering (e : Entity) (request : Transition) (stamp : Time.Instant) : Entity :=
  let cycle := e.kind.lifecycle
  let target := request.target
  let e := if target = cycle.initial then e.withoutAttempt else e
  let e := if target = cycle.running then e.started stamp request.dispatch else e
  let e :=
    if target = cycle.success then e.succeeded request.result
    else if target = cycle.failure then e.failed request.failure
    else e
  let e := if cycle.isFinished target then e.finished stamp else e
  { e with status := target, updatedAt := stamp }

/-- The entity after a transition at the given time. -/
def apply (e : Entity) (request : Transition) (now : Time.Instant) : Except Error Entity :=
  match checkStep e.kind e.status request.target with
  | .error fault => .error fault
  | .ok () => .ok (e.entering request (Time.Instant.latest now e.updatedAt))

end Entity

end TenantWork
