import TenantWork.Store.Row
import TenantWork.Store.Storage
/-!
The store in a relational database: one table of entities and one of keys. Rows may also come from
other programs, so every answer goes through the reading of rows, while filters and the order of
listings look at the texts in the columns. An update leaves owner, kind, key and creation alone.
-/
namespace TenantWork.Store

/-- The id that an owner's key stands for. -/
structure KeyRow where
  owner : Cell
  key : Cell
  entity : Cell
deriving DecidableEq, Repr

/-- The greatest number of a column. -/
def columnLimit : Nat := 0x7FFFFFFFFFFFFFFF

structure Database where
  rows : List Row
  keys : List KeyRow
  ids_distinct : rows.Pairwise fun a b => a .id = b .id → a .id = .null
  keys_distinct : keys.Pairwise fun a b =>
    ¬(a.owner = b.owner ∧ a.key = b.key) ∧ a.entity ≠ b.entity

namespace Database

def empty : Database := ⟨[], [], .nil, .nil⟩

/-! ## Statements -/

def row? (database : Database) (id : Cell) : Option Row :=
  if id = .null then none else database.rows.find? fun row => row .id == id

def keyRow? (database : Database) (owner key : Cell) : Option KeyRow :=
  database.keys.find? fun entry => entry.owner == owner && entry.key == key

def insertRow (database : Database) (row : Row) : Except QueryFault Database :=
  match Column.all.find? fun column => column.isRequired && row column == .null with
  | some column => .error (.missing ("entities." ++ column.name))
  | none =>
    if free : ∀ other ∈ database.rows, other .id = row .id → other .id = .null then
      .ok { database with
        rows := database.rows ++ [row]
        ids_distinct := List.pairwise_append.2
          ⟨database.ids_distinct, List.pairwise_singleton _ _, by simpa using free⟩ }
    else .error (.notUnique "entities.id")

def insertKey (database : Database) (entry : KeyRow) : Except QueryFault Database :=
  if free : ∀ other ∈ database.keys,
      ¬(other.owner = entry.owner ∧ other.key = entry.key) ∧ other.entity ≠ entry.entity then
    .ok { database with
      keys := database.keys ++ [entry]
      keys_distinct := List.pairwise_append.2
        ⟨database.keys_distinct, List.pairwise_singleton _ _, by simpa using free⟩ }
  else if (database.keyRow? entry.owner entry.key).isSome then
    .error (.notUnique "idempotency_keys.owner_id, idempotency_keys.key")
  else .error (.notUnique "idempotency_keys.entity_id")

def updateRow (database : Database) (id : EntityId) (changed : Row) : Database :=
  { database with
    rows := database.rows.map fun row => if row .id = .text id.text then row.updated changed else row
    ids_distinct := by
      have kept (row : Row) :
          (if row .id = .text id.text then row.updated changed else row) .id = row .id := by
        split <;> rfl
      simpa [List.pairwise_map, kept] using database.ids_distinct }

def deleteRow (database : Database) (id : EntityId) : Database :=
  { database with
    rows := database.rows.filter fun row => row .id != .text id.text
    ids_distinct := database.ids_distinct.sublist List.filter_sublist }

def deleteKeys (database : Database) (id : EntityId) : Database :=
  { database with
    keys := database.keys.filter fun entry => entry.entity != .text id.text
    keys_distinct := database.keys_distinct.sublist List.filter_sublist }

/-- Adds a row of another program, with a row for its key if asked for. -/
def importRow (database : Database) (row : Row) (indexed : Bool) : Except QueryFault Database := do
  let database ← database.insertRow fun column => column.keep (row column)
  if indexed then
    database.insertKey ⟨(row .owner).asText, (row .key).asText, (row .id).asText⟩
  else return database

/-! ## The store -/

/-- The entity of a row that may be there. -/
def read (row : Option Row) : Except Error (Option Entity) :=
  match row with
  | none => .ok none
  | some row =>
    match row.toEntity with
    | .ok e => .ok (some e)
    | .error fault => .error (.databaseQuery fault)

def get (database : Database) (id : EntityId) : Except Error (Option Entity) :=
  read (database.row? (.text id.text))

def find (database : Database) (owner : Owner) (key : String) : Except Error (Option Entity) :=
  match database.keyRow? (.text owner.name) (.text key) with
  | some entry => read (database.row? entry.entity)
  | none => .ok none

/-- The entity that holds the key of a snapshot. -/
def holder (database : Database) (e : Entity) : Except Error (Option Entity) :=
  match e.key with
  | none => .ok none
  | some key =>
    match database.keyRow? (.text e.owner.name) (.text key) with
    | none => .ok none
    | some entry =>
      match entry.entity.readText 0 "entity_id" with
      | .ok id => database.get ⟨id⟩
      | .error fault => .error (.databaseQuery fault)

/-- The row of a snapshot and the row of its key, if it has one. -/
def insertEntity (database : Database) (e : Entity) : Except QueryFault Database := do
  if columnLimit < e.revision then throw .tooLarge
  let database ← database.insertRow (.ofEntity e)
  match e.key with
  | some key => database.insertKey ⟨.text e.owner.name, .text key, .text e.id.text⟩
  | none => return database

def stageInsert (database : Database) (e : Entity) : Staged Database Insertion :=
  match database.holder e with
  | .error fault => .refused fault
  | .ok (some existing) => .answered (.existing existing)
  | .ok none =>
    match database.insertEntity e with
    | .error fault => .refused (.databaseQuery fault)
    | .ok after => .ready ⟨.insert, e⟩ after (.inserted e)

/-- Owner and status of a row, as texts. -/
def ownerAndStatus (row : Row) : Except QueryFault (String × String) := do
  return (← (row .owner).readText 0 Column.owner.name,
    ← (row .status).readText 1 Column.status.name)

def stageSave (database : Database) (e : Entity) : Staged Database Entity :=
  match database.row? (.text e.id.text) with
  | none => .refused (.notFound e.id.text)
  | some row =>
    match ownerAndStatus row with
    | .error fault => .refused (.databaseQuery fault)
    | .ok (owner, status) =>
      if owner ≠ e.owner.name then .refused (.notFound e.id.text)
      else if columnLimit < e.revision + 1 then .refused (.databaseQuery .tooLarge)
      else if row .revision ≠ .integer e.revision then
        match Status.parse status with
        | .ok status => .refused (.invalidTransition status e.status)
        | .error fault => .refused fault
      else .ready ⟨.update, e.bumped⟩ (database.updateRow e.id (.ofEntity e.bumped)) e.bumped

def stageDelete (database : Database) (id : EntityId) : Staged Database Bool :=
  match database.get id with
  | .error fault => .refused fault
  | .ok none => .answered false
  | .ok (some e) => .ready ⟨.delete, e⟩ ((database.deleteKeys id).deleteRow id) true

/-- Whether a column holds exactly this text; true when none is asked for. -/
def matchesText (row : Row) (column : Column) (wanted : Option String) : Bool :=
  wanted.all fun text => row column == .text text

def listedBefore (a b : Row) : Bool :=
  Cell.before (a .createdAt) (b .createdAt) ||
    (a .createdAt == b .createdAt && !Cell.before (b .id) (a .id))

def list (database : Database) (owner : Option Owner) (filter : Filter) :
    Except Error (List Entity) :=
  let chosen := database.rows.filter fun row =>
    matchesText row .owner (owner.map Owner.name) &&
      matchesText row .kind (filter.kind.map Kind.name) &&
      matchesText row .status (filter.status.map Status.name)
  match (chosen.mergeSort listedBefore).mapM Row.toEntity with
  | .ok entities => .ok entities
  | .error fault => .error (.databaseQuery fault)

instance : Storage Database where
  empty := empty
  stageInsert := stageInsert
  stageSave := stageSave
  stageDelete := stageDelete
  get := get
  find := find
  list := list

end Database

end TenantWork.Store
