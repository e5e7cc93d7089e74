import TenantWork.Work.Owner
import TenantWork.Work.Lifecycle
/-!
Units of work. An entity is one snapshot of a unit: what was asked for, how far it has come and
what came of it. The revision counts the updates made durable since it was created.
-/
namespace TenantWork

structure EntityId where
  text : String
deriving DecidableEq, Repr

structure Entity where
  id : EntityId
  owner : Owner
  kind : Kind
  payload : Json
  key : Option String
  status : Status
  result : Option Json
  errorCode : Option String
  errorMessage : Option String
  executor : Option String
  dispatch : Option String
  createdAt : Time.Instant
  updatedAt : Time.Instant
  startedAt : Option Time.Instant
  finishedAt : Option Time.Instant
  revision : Nat
deriving DecidableEq

namespace Entity

/-- A new unit of work, in the initial status of its kind. -/
def create (id : EntityId) (owner : Owner) (kind : Kind) (payload : Json) (key : Option String)
    (now : Time.Instant) : Entity where
  id := id
  owner := owner
  kind := kind
  payload := payload
  key := key
  status := kind.lifecycle.initial
  result := none
  errorCode := none
  errorMessage := none
  executor := none
  dispatch := none
  createdAt := now
  updatedAt := now
  startedAt := none
  finishedAt := none
  revision := 0

def isFinished (e : Entity) : Bool := e.kind.lifecycle.isFinished e.status

/-- The snapshot that a durable update leaves behind. -/
def bumped (e : Entity) : Entity := { e with revision := e.revision + 1 }

/-- The entity as its owner sees it. A missing entity and one of another owner look the same. -/
def forOwner (owner : Owner) (id : EntityId) (found : Option Entity) : Except Error Entity :=
  match found with
  | some e => if e.owner = owner then .ok e else .error (.accessDenied id.text)
  | none => .error (.accessDenied id.text)

end Entity

end TenantWork
