import TenantWork.Work.Entity
import TenantWork.Json.Fault
/-!
Entities as JSON objects. Writing gives every field, null for an absent one. Reading takes the
fields in the order of the object, ignores unknown ones, and then looks for the required ones;
an optional field that is null is absent. A list of the fields in their own order is read too.
-/
namespace TenantWork

namespace EntityJson

/-- The fields in their own order. -/
def names : List String :=
  ["id", "owner_id", "kind", "payload", "idempotency_key", "status", "result", "error_code",
    "error_message", "executor_name", "dispatch_id", "created_at", "updated_at", "started_at",
    "finished_at", "revision"]

def timeJson (t : Time.Instant) : Json := .string (Time.Rfc3339.write t)

def timeJson? : Option Time.Instant → Json
  | some t => timeJson t
  | none => .null

end EntityJson

open EntityJson in
def Entity.toJson (e : Entity) : Json :=
  .ofFields [
    ("id", .string e.id.text),
    ("owner_id", .string e.owner.name),
    ("kind", .string e.kind.name),
    ("payload", e.payload),
    ("idempotency_key", .ofText? e.key),
    ("status", .string e.status.name),
    ("result", e.result.getD .null),
    ("error_code", .ofText? e.errorCode),
    ("error_message", .ofText? e.errorMessage),
    ("executor_name", .ofText? e.executor),
    ("dispatch_id", .ofText? e.dispatch),
    ("created_at", timeJson e.createdAt),
    ("updated_at", timeJson e.updatedAt),
    ("started_at", timeJson? e.startedAt),
    ("finished_at", timeJson? e.finishedAt),
    ("revision", .integer e.revision)]

namespace EntityJson

/-- The fields read so far; `none` for one not met yet. -/
structure Draft where
  id : Option EntityId
  owner : Option Owner
  kind : Option Kind
  payload : Option Json
  key : Option (Option String)
  status : Option Status
  result : Option (Option Json)
  errorCode : Option (Option String)
  errorMessage : Option (Option String)
  executor : Option (Option String)
  dispatch : Option (Option String)
  createdAt : Option Time.Instant
  updatedAt : Option Time.Instant
  startedAt : Option (Option Time.Instant)
  finishedAt : Option (Option Time.Instant)
  revision : Option Nat

def Draft.empty : Draft :=
  ⟨none, none, none, none, none, none, none, none, none, none, none, none, none, none, none, none⟩

/-- The entity, or the first required field that is missing. -/
def Draft.complete (draft : Draft) : Except Json.Cause Entity := do
  let id ← draft.id.getDM (.error (.missingField "id"))
  let owner ← draft.owner.getDM (.error (.missingField "owner_id"))
  let kind ← draft.kind.getDM (.error (.missingField "kind"))
  let payload ← draft.payload.getDM (.error (.missingField "payload"))
  let status ← draft.status.getDM (.error (.missingField "status"))
  let createdAt ← draft.createdAt.getDM (.error (.missingField "created_at"))
  let updatedAt ← draft.updatedAt.getDM (.error (.missingField "updated_at"))
  return {
    id, owner, kind, payload, status, createdAt, updatedAt
    key := draft.key.getD none
    result := draft.result.getD none
    errorCode := draft.errorCode.getD none
    errorMessage := draft.errorMessage.getD none
    executor := draft.executor.getD none
    dispatch := draft.dispatch.getD none
    startedAt := draft.startedAt.getD none
    finishedAt := draft.finishedAt.getD none
    revision := draft.revision.getD 0 }

/-! ## Values of fields -/

def readText : Json → Except Json.Cause String
  | .string text => .ok text
  | other => .error (.wrongType (.ofJson other) "a string")

def ownerOf (name : String) : Except Json.Cause Owner :=
  match Owner.ofName name with
  | .ok owner => .ok owner
  | .error fault => .error (.rejected fault.message)

def readOwner (value : Json) : Except Json.Cause Owner := do ownerOf (← readText value)

/-- One of a list of named alternatives: its name, or an object with its name and null. -/
def readVariant {α : Type} (known : List String) (ofName? : String → Option α) :
    Json → Except Json.Cause α
  | .string name =>
    match ofName? name with
    | some found => .ok found
    | none => .error (.unknownVariant name known)
  | .object [(name, inner)] =>
    match ofName? name with
    | none => .error (.unknownVariant name known)
    | some found =>
      match inner with
      | .null => .ok found
      | other => .error (.wrongType (.ofJson other) "unit")
  | .object _ => .error (.wrongValue .object "map with a single key")
  | other => .error (.wrongType (.ofJson other) "string or map")

def kindNames : List String := Kind.all.map Kind.name

def statusNames : List String := Status.all.map Status.name

def timeExpectation : String := "an RFC 3339 formatted date and time string"

def timeOf (text : String) : Except Json.Cause Time.Instant :=
  match Time.Rfc3339.readLoose text with
  | .ok t => .ok t
  | .error fault => .error (.rejected fault.message)

def readTime : Json → Except Json.Cause Time.Instant
  | .string text => timeOf text
  | other => .error (.wrongType (.ofJson other) timeExpectation)

def readNatural : Json → Except Json.Cause Nat
  | .integer n =>
    if 0 ≤ n then .ok n.toNat else .error (.wrongValue (.integer n) "u64")
  | other => .error (.wrongType (.ofJson other) "u64")

def readOptional {α : Type} (read : Json → Except Json.Cause α) :
    Json → Except Json.Cause (Option α)
  | .null => .ok none
  | value => (read value).map some

/-- Reads one field into a draft; an unknown name changes nothing. -/
def Draft.read (draft : Draft) (name : String) (value : Json) : Except Json.Cause Draft :=
  match name with
  | "id" => do return { draft with id := some ⟨← readText value⟩ }
  | "owner_id" => do return { draft with owner := some (← readOwner value) }
  | "kind" => do return { draft with kind := some (← readVariant kindNames Kind.ofName? value) }
  | "payload" => .ok { draft with payload := some value }
  | "idempotency_key" => do return { draft with key := some (← readOptional readText value) }
  | "status" => do
    return { draft with status := some (← readVariant statusNames Status.ofName? value) }
  | "result" => do return { draft with result := some (← readOptional .ok value) }
  | "error_code" => do return { draft with errorCode := some (← readOptional readText value) }
  | "error_message" => do return { draft with errorMessage := some (← readOptional readText value) }
  | "executor_name" => do return { draft with executor := some (← readOptional readText value) }
  | "dispatch_id" => do return { draft with dispatch := some (← readOptional readText value) }
  | "created_at" => do return { draft with createdAt := some (← readTime value) }
  | "updated_at" => do return { draft with updatedAt := some (← readTime value) }
  | "started_at" => do return { draft with startedAt := some (← readOptional readTime value) }
  | "finished_at" => do return { draft with finishedAt := some (← readOptional readTime value) }
  | "revision" => do return { draft with revision := some (← readNatural value) }
  | _ => .ok draft

def Draft.readFields (draft : Draft) : List (String × Json) → Except Json.Cause Draft
  | [] => .ok draft
  | (name, value) :: rest => do (← draft.read name value).readFields rest

/-- What a list should have been. -/
def expectedLength : String := "struct Entity with 16 elements"

/-- Reads a list field by field; only the last field may be missing. -/
def Draft.readItems (draft : Draft) (taken : Nat) :
    List String → List Json → Except Json.Cause Draft
  | [], [] => .ok draft
  | [], _ :: rest =>
    .error (.wrongLength (taken + 1 + rest.length) "fewer elements in array")
  | name :: _, [] =>
    if name = "revision" then .ok draft else .error (.wrongLength taken expectedLength)
  | name :: names, value :: rest => do
    (← draft.read name value).readItems (taken + 1) names rest

def ofJson : Json → Except Json.Cause Entity
  | .object fields => do (← Draft.empty.readFields fields).complete
  | .array items => do (← Draft.empty.readItems 0 names items).complete
  | other => .error (.wrongType (.ofJson other) "struct Entity")

end EntityJson

/-- The entity that a JSON value describes. -/
def Entity.ofJson (value : Json) : Except Error Entity :=
  match EntityJson.ofJson value with
  | .ok e => .ok e
  | .error cause => .error (.json ⟨cause, none⟩)

end TenantWork
