import TenantWork.Work.Transition
/-!
Executors. An executor first reserves a dispatch id for an entity, and is handed the entity once
that id is durable on it. The work ends in one outcome, reported to the address of the dispatch,
either before the executor answers or at any later time, or never.
-/
namespace TenantWork.Service

/-- Where an outcome must land. -/
structure Address where
  owner : Owner
  entity : EntityId
  dispatch : String
deriving DecidableEq

inductive Outcome where
  | succeeded (result : Json)
  | failed (failure : Failure)
deriving DecidableEq

/-- The transition that an outcome asks for. -/
def Outcome.request (outcome : Outcome) (kind : Kind) : Transition :=
  match outcome with
  | .succeeded result => (Transition.into kind.lifecycle.success).withResult result
  | .failed failure =>
    (Transition.into kind.lifecycle.failure).withFailure failure.code failure.message

/-- What an executor does with an entity handed to it. -/
inductive Start where
  /-- The outcome is reported by someone else, or never. -/
  | answered (answer : Except Error Unit)
  /-- The work runs apart and its outcome is reported later. -/
  | deferred (outcome : Outcome)
  /-- The outcome is reported first; the answer may depend on what came of the report. -/
  | reported (outcome : Outcome) (answer : Except Error Entity → Except Error Unit)
  /-- The executor breaks off and takes its caller with it. -/
  | brokeOff

inductive ExecutorCall where
  | reserve (executor : String) (e : Entity)
  | start (executor : String) (e : Entity) (dispatch : String)
deriving DecidableEq

/-- An executor may look at all calls made before, the latest first. -/
structure Executor where
  name : String
  reserve : List ExecutorCall → Entity → Except Error String
  start : List ExecutorCall → Entity → String → Start

end TenantWork.Service
