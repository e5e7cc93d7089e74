import TenantWork.Service.Executor
import TenantWork.Store.Storage
/-!
Service calls as programs. A program asks its surroundings one request at a time and goes on with
the reply. Each request to the store is one uninterrupted step, so all that other callers may do
happens between two requests. Programs are finite: every call ends, whatever the replies.
-/
namespace TenantWork.Service

open Store (Insertion)

inductive Request where
  | readClock
  | newId
  | find (owner : Owner) (key : String)
  | load (id : EntityId)
  | list (owner : Option Owner) (filter : Filter)
  | insert (e : Entity)
  | save (e : Entity)
  | delete (id : EntityId)
  /-- Tells the observers of a durable update. -/
  | observe (before after : Entity)
  | reserve (executor : String) (e : Entity)
  | start (executor : String) (e : Entity) (dispatch : String)

abbrev Request.Reply : Request → Type
  | .readClock => Time.Instant
  | .newId => EntityId
  | .find _ _ => Except Error (Option Entity)
  | .load _ => Except Error (Option Entity)
  | .list _ _ => Except Error (List Entity)
  | .insert _ => Except Error Insertion
  | .save _ => Except Error Entity
  | .delete _ => Except Error Bool
  | .observe _ _ => Unit
  | .reserve _ _ => Except Error String
  | .start _ _ _ => Start

inductive Program (α : Type) where
  | done (value : α)
  | ask (request : Request) (next : request.Reply → Program α)

namespace Program

/-- One program after another. -/
def bind {α β : Type} : Program α → (α → Program β) → Program β
  | .done value, after => after value
  | .ask request next, after => .ask request fun reply => (next reply).bind after

end Program

/-- A program that may fail. -/
abbrev Call (α : Type) := Program (Except Error α)

namespace Program

def succeed {α : Type} (value : α) : Call α := .done (.ok value)

def fail {α : Type} (fault : Error) : Call α := .done (.error fault)

/-- Goes on only after a success. -/
def andThen {α β : Type} (call : Call α) (after : α → Call β) : Call β :=
  call.bind fun
    | .ok value => after value
    | .error fault => .done (.error fault)

end Program

end TenantWork.Service
