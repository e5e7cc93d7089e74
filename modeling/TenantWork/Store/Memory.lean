import TenantWork.Store.Storage
import TenantWork.Store.Table
/-!
The store in memory: the entities under their ids, and the ids under owner and key.
-/
namespace TenantWork.Store

structure Memory where
  entities : Table EntityId Entity
  keys : Table (Owner × String) EntityId

namespace Memory

def empty : Memory := ⟨.empty, .empty⟩

def get (memory : Memory) (id : EntityId) : Option Entity := memory.entities.find? id

def find (memory : Memory) (owner : Owner) (key : String) : Option Entity :=
  (memory.keys.find? (owner, key)).bind memory.get

/-- The entity that holds the key of a snapshot. -/
def holder (memory : Memory) (e : Entity) : Option Entity := e.key.bind (memory.find e.owner)

def put (memory : Memory) (e : Entity) : Memory :=
  { memory with entities := memory.entities.insert e.id e }

/-- Enters the key of a snapshot, if it has one. -/
def claim (memory : Memory) (e : Entity) : Memory :=
  match e.key with
  | some key => { memory with keys := memory.keys.insert (e.owner, key) e.id }
  | none => memory

/-- Gives up the key of a snapshot, if it has one. -/
def release (memory : Memory) (e : Entity) : Memory :=
  match e.key with
  | some key => { memory with keys := memory.keys.erase (e.owner, key) }
  | none => memory

def remove (memory : Memory) (id : EntityId) : Memory :=
  { memory with entities := memory.entities.erase id }

def stageInsert (memory : Memory) (e : Entity) : Staged Memory Insertion :=
  match memory.holder e with
  | some existing => .answered (.existing existing)
  | none =>
    if (memory.get e.id).isSome then .refused (.databaseQuery (.duplicateId e.id.text))
    else .ready ⟨.insert, e⟩ ((memory.put e).claim e) (.inserted e)

def stageSave (memory : Memory) (e : Entity) : Staged Memory Entity :=
  match memory.get e.id with
  | none => .refused (.notFound e.id.text)
  | some stored =>
    if stored.owner ≠ e.owner then .refused (.notFound e.id.text)
    else if stored.revision ≠ e.revision then .refused (.invalidTransition stored.status e.status)
    else .ready ⟨.update, e.bumped⟩ (memory.put e.bumped) e.bumped

def stageDelete (memory : Memory) (id : EntityId) : Staged Memory Bool :=
  match memory.get id with
  | none => .answered false
  | some e => .ready ⟨.delete, e⟩ ((memory.remove id).release e) true

def list (memory : Memory) (owner : Option Owner) (filter : Filter) : List Entity :=
  (memory.entities.values.filter fun e => owner.all (e.owner == ·) && filter.accepts e).mergeSort
    Entity.listedBefore

instance : Storage Memory where
  empty := empty
  stageInsert := stageInsert
  stageSave := stageSave
  stageDelete := stageDelete
  get memory id := .ok (memory.get id)
  find memory owner key := .ok (memory.find owner key)
  list memory owner filter := .ok (memory.list owner filter)

end Memory

end TenantWork.Store
