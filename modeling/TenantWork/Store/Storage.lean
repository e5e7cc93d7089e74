import TenantWork.Store.Gate
/-!
What every kind of store offers. A call that writes is staged first: it is refused, answered
without a write, or ready with the tables it would leave. Only then is the gate asked, and the new
tables count only if it lets them pass, so a call either has its whole effect or none.
-/
namespace TenantWork

/-- What an entity must be to be listed. -/
structure Filter where
  kind : Option Kind
  status : Option Status
deriving DecidableEq, Repr

namespace Filter

def all : Filter := ⟨none, none⟩

def accepts (filter : Filter) (e : Entity) : Bool :=
  filter.kind.all (e.kind == ·) && filter.status.all (e.status == ·)

end Filter

/-- The order of listings: by creation, then by id. -/
def Entity.listedBefore (a b : Entity) : Bool :=
  decide (a.createdAt < b.createdAt) ||
    (a.createdAt == b.createdAt && !decide (b.id.text < a.id.text))

namespace Store

/-- What came of an insertion. -/
inductive Insertion where
  | inserted (e : Entity)
  /-- The owner's key was taken; nothing was written. -/
  | existing (e : Entity)
deriving DecidableEq

inductive Staged (Tables α : Type) where
  | refused (fault : Error)
  | answered (answer : α)
  | ready (call : WriteCall) (tables : Tables) (answer : α)

/-- The tables of one kind of store. -/
class Storage (Tables : Type) where
  empty : Tables
  /-- Inserts a snapshot with its key, unless the key is taken. -/
  stageInsert : Tables → Entity → Staged Tables Insertion
  /-- Replaces a snapshot of the same revision and raises the revision by one. -/
  stageSave : Tables → Entity → Staged Tables Entity
  /-- Removes an entity with its key. -/
  stageDelete : Tables → EntityId → Staged Tables Bool
  get : Tables → EntityId → Except Error (Option Entity)
  find : Tables → Owner → String → Except Error (Option Entity)
  list : Tables → Option Owner → Filter → Except Error (List Entity)

end Store

open Store in
/-- Tables with the gate before them. -/
structure Store (Tables : Type) where
  tables : Tables
  gate : Gate

namespace Store

variable {Tables : Type}

def commit {α : Type} (store : Store Tables) : Staged Tables α → Except Error α × Store Tables
  | .refused fault => (.error fault, store)
  | .answered answer => (.ok answer, store)
  | .ready call tables answer =>
    match store.gate.ask call with
    | (.ok _, gate) => (.ok answer, ⟨tables, gate⟩)
    | (.error fault, gate) => (.error fault, ⟨store.tables, gate⟩)

variable [Storage Tables]

def new (gate : Gate) : Store Tables := ⟨Storage.empty, gate⟩

def insert (store : Store Tables) (e : Entity) : Except Error Insertion × Store Tables :=
  store.commit (Storage.stageInsert store.tables e)

def save (store : Store Tables) (e : Entity) : Except Error Entity × Store Tables :=
  store.commit (Storage.stageSave store.tables e)

def delete (store : Store Tables) (id : EntityId) : Except Error Bool × Store Tables :=
  store.commit (Storage.stageDelete store.tables id)

def get (store : Store Tables) (id : EntityId) : Except Error (Option Entity) :=
  Storage.get store.tables id

def find (store : Store Tables) (owner : Owner) (key : String) : Except Error (Option Entity) :=
  Storage.find store.tables owner key

def list (store : Store Tables) (owner : Option Owner) (filter : Filter) :
    Except Error (List Entity) :=
  Storage.list store.tables owner filter

end Store

end TenantWork
