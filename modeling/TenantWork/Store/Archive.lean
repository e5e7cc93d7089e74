import TenantWork.Store.Database
/-!
A database as the text of a file: a JSON object with the rows of both tables, each row a list of
its cells. Of an infinite number only the sign is written, as a truth. Reading enters the rows one
by one, so a file that breaks a constraint is refused.
-/
namespace TenantWork.Store

namespace Cell

def toJson : Cell → Json
  | .null => .null
  | .integer value => .integer value
  | .real value => .double value
  | .infinite negative => .bool negative
  | .text value => .string value
  | .blob bytes => .array (bytes.map fun byte => .integer byte.toNat)

def ofByte? : Json → Option UInt8
  | .integer (.ofNat n) => if n < 256 then some (UInt8.ofNat n) else none
  | _ => none

def ofJson? : Json → Option Cell
  | .null => some .null
  | .integer value => some (.integer value)
  | .double value => some (.real value)
  | .bool negative => some (.infinite negative)
  | .string value => some (.text value)
  | .array bytes => (bytes.mapM ofByte?).map .blob
  | _ => none

end Cell

namespace Database

def cells (row : Row) : Json := .array (Column.all.map fun column => (row column).toJson)

/-- The row with these cells, in the order of the columns. -/
def rowOf (cells : List Cell) : Row := fun column => cells.getD column.index .null

def toText (database : Database) : String :=
  (Json.ofFields [
    ("rows", .array (database.rows.map cells)),
    ("keys", .array (database.keys.map fun entry =>
      .array [entry.owner.toJson, entry.key.toJson, entry.entity.toJson]))]).compact

def cells? : Json → Option (List Cell)
  | .array items => items.mapM Cell.ofJson?
  | _ => none

def enterRow (database : Database) (item : Json) : Option Database := do
  (database.insertRow (rowOf (← cells? item))).toOption

def enterKey (database : Database) (item : Json) : Option Database :=
  match cells? item with
  | some [owner, key, entity] => (database.insertKey ⟨owner, key, entity⟩).toOption
  | _ => none

def ofText? (text : String) : Option Database := do
  let value ← (Json.parse text).toOption
  match value.field? "rows", value.field? "keys" with
  | some (.array rows), some (.array keys) => keys.foldlM enterKey (← rows.foldlM enterRow empty)
  | _, _ => none

end Database

end TenantWork.Store
