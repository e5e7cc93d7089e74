import TenantWork.Store.Cell
import TenantWork.Json.Printer
import TenantWork.Json.Reader
import TenantWork.Work.Entity
/-!
Entities as rows. Writing gives exact names, compact JSON and times of fixed width in universal
time. Reading also takes kinds and statuses in loose spelling, other layouts of JSON, and times
with an offset. The texts of the row are taken out first, then kind and status are read, then the
other values in the order of the columns.
-/
namespace TenantWork.Store

inductive Column where
  | id
  | owner
  | kind
  | payload
  | key
  | status
  | result
  | errorCode
  | errorMessage
  | executor
  | dispatch
  | createdAt
  | updatedAt
  | startedAt
  | finishedAt
  | revision
deriving DecidableEq, Repr

namespace Column

def all : List Column :=
  [.id, .owner, .kind, .payload, .key, .status, .result, .errorCode, .errorMessage, .executor,
    .dispatch, .createdAt, .updatedAt, .startedAt, .finishedAt, .revision]

def name : Column → String
  | .id => "id"
  | .owner => "owner_id"
  | .kind => "kind"
  | .payload => "payload"
  | .key => "idempotency_key"
  | .status => "status"
  | .result => "result"
  | .errorCode => "error_code"
  | .errorMessage => "error_message"
  | .executor => "executor_name"
  | .dispatch => "dispatch_id"
  | .createdAt => "created_at"
  | .updatedAt => "updated_at"
  | .startedAt => "started_at"
  | .finishedAt => "finished_at"
  | .revision => "revision"

/-- The place of a column in the table. -/
def index : Column → Nat
  | .id => 0
  | .owner => 1
  | .kind => 2
  | .payload => 3
  | .key => 4
  | .status => 5
  | .result => 6
  | .errorCode => 7
  | .errorMessage => 8
  | .executor => 9
  | .dispatch => 10
  | .createdAt => 11
  | .updatedAt => 12
  | .startedAt => 13
  | .finishedAt => 14
  | .revision => 15

/-- The columns that always hold a value. -/
def isRequired : Column → Bool
  | .owner | .kind | .payload | .status | .createdAt | .updatedAt | .revision => true
  | _ => false

/-- The columns that an update writes. -/
def isUpdated : Column → Bool
  | .id | .owner | .kind | .key | .createdAt => false
  | _ => true

/-- The value that a column keeps of one it is given. -/
def keep : Column → Cell → Cell
  | .revision, cell => cell.asInteger
  | _, cell => cell.asText

end Column

abbrev Row := Column → Cell

namespace Cell

/-- The text in a cell; the place and the name are those of the column in the query. -/
def readText (cell : Cell) (index : Nat) (name : String) : Except QueryFault String :=
  match cell with
  | .text value => .ok value
  | other => .error (.wrongType other.typeName index name)

def readText? (cell : Cell) (index : Nat) (name : String) : Except QueryFault (Option String) :=
  match cell with
  | .null => .ok none
  | .text value => .ok (some value)
  | other => .error (.wrongType other.typeName index name)

/-- A number of updates. -/
def readCount (cell : Cell) (index : Nat) (name : String) : Except QueryFault Nat :=
  match cell with
  | .integer (.ofNat n) => .ok n
  | .integer n => .error (.outOfRange n index)
  | other => .error (.wrongType other.typeName index name)

end Cell

namespace Row

def timeCell? : Option Time.Instant → Cell
  | some t => .text (Time.Rfc3339.writeNanos t)
  | none => .null

def ofEntity (e : Entity) : Row
  | .id => .text e.id.text
  | .owner => .text e.owner.name
  | .kind => .text e.kind.name
  | .payload => .text e.payload.compact
  | .key => .ofText? e.key
  | .status => .text e.status.name
  | .result => .ofText? (e.result.map Json.compact)
  | .errorCode => .ofText? e.errorCode
  | .errorMessage => .ofText? e.errorMessage
  | .executor => .ofText? e.executor
  | .dispatch => .ofText? e.dispatch
  | .createdAt => .text (Time.Rfc3339.writeNanos e.createdAt)
  | .updatedAt => .text (Time.Rfc3339.writeNanos e.updatedAt)
  | .startedAt => timeCell? e.startedAt
  | .finishedAt => timeCell? e.finishedAt
  | .revision => .integer e.revision

/-- The row after an update to the columns of another. -/
def updated (row changed : Row) : Row := fun column =>
  if column.isUpdated then changed column else row column

def text (row : Row) (column : Column) : Except QueryFault String :=
  (row column).readText column.index column.name

def text? (row : Row) (column : Column) : Except QueryFault (Option String) :=
  (row column).readText? column.index column.name

def readKind (text : String) : Except QueryFault Kind :=
  match Kind.ofText? text with
  | some kind => .ok kind
  | none => .error (.conversion Column.kind.index (.input (.unknownKind text)))

/-- A status that the kind declares. -/
def readStatus (kind : Kind) (text : String) : Except QueryFault Status :=
  match Status.ofText? text with
  | some status =>
    if kind.lifecycle.declares status then .ok status
    else .error (.conversion Column.status.index (.input (.undeclaredStatus kind status)))
  | none => .error (.conversion Column.status.index (.input (.unknownStatus text)))

def readOwner (name : String) : Except QueryFault Owner :=
  if named : Text.isBlank name = false then .ok ⟨name, named⟩
  else .error (.conversion Column.owner.index (.input .blankOwner))

def readJson (column : Column) (text : String) : Except QueryFault Json :=
  match Json.parse text with
  | .ok value => .ok value
  | .error fault => .error (.conversion column.index (.json fault))

def readTime (column : Column) (text : String) : Except QueryFault Time.Instant :=
  match Time.Rfc3339.read text with
  | .ok t => .ok t
  | .error fault => .error (.conversion column.index (.time fault))

/-- Reads the text of an optional column. -/
def readOptional {α : Type} (read : String → Except QueryFault α) :
    Option String → Except QueryFault (Option α)
  | some text => (read text).map some
  | none => .ok none

def toEntity (row : Row) : Except QueryFault Entity := do
  let ownerText ← row.text .owner
  let kindText ← row.text .kind
  let payloadText ← row.text .payload
  let statusText ← row.text .status
  let resultText ← row.text? .result
  let createdText ← row.text .createdAt
  let updatedText ← row.text .updatedAt
  let startedText ← row.text? .startedAt
  let finishedText ← row.text? .finishedAt
  let kind ← readKind kindText
  let status ← readStatus kind statusText
  let id ← row.text .id
  let owner ← readOwner ownerText
  let payload ← readJson .payload payloadText
  let key ← row.text? .key
  let result ← readOptional (readJson .result) resultText
  let errorCode ← row.text? .errorCode
  let errorMessage ← row.text? .errorMessage
  let executor ← row.text? .executor
  let dispatch ← row.text? .dispatch
  let createdAt ← readTime .createdAt createdText
  let updatedAt ← readTime .updatedAt updatedText
  let startedAt ← readOptional (readTime .startedAt) startedText
  let finishedAt ← readOptional (readTime .finishedAt) finishedText
  let revision ← (row .revision).readCount Column.revision.index Column.revision.name
  return {
    id := ⟨id⟩
    owner, kind, payload, key, status, result, errorCode, errorMessage, executor, dispatch,
    createdAt, updatedAt, startedAt, finishedAt, revision }

end Row

end TenantWork.Store
