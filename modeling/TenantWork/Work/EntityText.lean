import TenantWork.Work.EntityJson
import TenantWork.Json.Skip
/-!
Entities read straight from text. The fields are read in the order of the text, each by the type
it must have, and a complaint about a value is placed behind it. A complaint that concerns the
entity as a whole, or a name of an owner, is placed behind the closing bracket if that is next.
-/
namespace TenantWork

namespace EntityText

open Json (Reader Cause Grammar)
open Json.Reader
open EntityJson

/-- A complaint placed at the cursor. -/
def complain {α : Type} (cause : Cause) : Reader α :=
  fun cursor => .error ⟨cause, some cursor.place⟩

/-- A complaint inside an object, placed behind its end if that is next. -/
def complainInObject {α : Type} (cause : Cause) : Reader α := do
  match ← peekToken with
  | some '\x7d' => advance; complain cause
  | _ => complain cause

/-- A complaint inside a list, placed behind its end or behind the next comma and its blanks. -/
def complainInList {α : Type} (cause : Cause) : Reader α := do
  match ← peekToken with
  | some ']' => advance; complain cause
  | some ',' =>
    advance
    let _ ← peekToken
    complain cause
  | _ => complain cause

/-- The complaint about a value of another type than expected. -/
def complainOfType {α : Type} (expected : String) : Reader α := do
  match ← peek with
  | some 'n' => advance; word ['u', 'l', 'l']; complain (.wrongType .null expected)
  | some 't' => advance; word ['r', 'u', 'e']; complain (.wrongType (.bool true) expected)
  | some 'f' => advance; word ['a', 'l', 's', 'e']; complain (.wrongType (.bool false) expected)
  | some '-' =>
    advance
    let found ← number true
    complain (.wrongType (.ofJson found) expected)
  | some '"' =>
    advance
    let found ← stringTail
    complain (.wrongType (.string found) expected)
  | some '[' => complain (.wrongType .list expected)
  | some '\x7b' => complain (.wrongType .object expected)
  | some c =>
    if c.isDigit then
      let found ← number false
      complain (.wrongType (.ofJson found) expected)
    else failAhead .expectedValue
  | none => failAhead .expectedValue

def stringValue (expected : String) : Reader String := do
  match ← peekToken with
  | none => failAhead .endOfValue
  | some '"' => advance; stringTail
  | some _ => complainOfType expected

def nullValue : Reader Unit := do
  match ← peekToken with
  | none => failAhead .endOfValue
  | some 'n' => advance; word ['u', 'l', 'l']
  | some _ => complainOfType "unit"

def variantNamed {α : Type} (known : List String) (ofName? : String → Option α)
    (name : String) : Reader α :=
  match ofName? name with
  | some found => pure found
  | none => complain (.unknownVariant name known)

def variantValue {α : Type} (known : List String) (ofName? : String → Option α) : Reader α := do
  match ← peekToken with
  | none => failAhead .endOfValue
  | some '"' =>
    advance
    variantNamed known ofName? (← stringTail)
  | some '\x7b' =>
    advance
    let found ← variantNamed known ofName? (← stringValue "variant identifier")
    colon
    nullValue
    match ← peekToken with
    | some '\x7d' => advance; pure found
    | some _ => failHere .expectedValue
    | none => failHere .endOfObject
  | some _ => failAhead .expectedValue

def orComplain {α : Type} : Except Cause α → Reader α
  | .ok found => pure found
  | .error cause => complain cause

def timeValue : Reader Time.Instant := do
  orComplain (timeOf (← stringValue timeExpectation))

def naturalValue : Reader Nat := do
  match ← peekToken with
  | none => failAhead .endOfValue
  | some '-' =>
    advance
    orComplain (readNatural (← number true))
  | some c =>
    if c.isDigit then orComplain (readNatural (← number false)) else complainOfType "u64"

def optionalValue {α : Type} (read : Reader α) : Reader (Option α) := do
  match ← peekToken with
  | some 'n' => advance; word ['u', 'l', 'l']; pure none
  | _ => return some (← read)

def anyValue : Reader Json := value (depthLimit - 1)

def textValue : Reader String := stringValue "a string"

/-- Whether a field has been read before. -/
def met (draft : Draft) : String → Bool
  | "id" => draft.id.isSome
  | "owner_id" => draft.owner.isSome
  | "kind" => draft.kind.isSome
  | "payload" => draft.payload.isSome
  | "idempotency_key" => draft.key.isSome
  | "status" => draft.status.isSome
  | "result" => draft.result.isSome
  | "error_code" => draft.errorCode.isSome
  | "error_message" => draft.errorMessage.isSome
  | "executor_name" => draft.executor.isSome
  | "dispatch_id" => draft.dispatch.isSome
  | "created_at" => draft.createdAt.isSome
  | "updated_at" => draft.updatedAt.isSome
  | "started_at" => draft.startedAt.isSome
  | "finished_at" => draft.finishedAt.isSome
  | "revision" => draft.revision.isSome
  | _ => false

/-- Reads the value of a field into a draft; the value of an unknown name is skipped. -/
def fieldValue (complainInside : Cause → Reader Owner) (draft : Draft) (name : String) :
    Reader Draft :=
  match name with
  | "id" => do return { draft with id := some ⟨← textValue⟩ }
  | "owner_id" => do
    match ownerOf (← textValue) with
    | .ok owner => return { draft with owner := some owner }
    | .error cause => return { draft with owner := some (← complainInside cause) }
  | "kind" => do return { draft with kind := some (← variantValue kindNames Kind.ofName?) }
  | "payload" => do return { draft with payload := some (← anyValue) }
  | "idempotency_key" => do return { draft with key := some (← optionalValue textValue) }
  | "status" => do
    return { draft with status := some (← variantValue statusNames Status.ofName?) }
  | "result" => do return { draft with result := some (← optionalValue anyValue) }
  | "error_code" => do return { draft with errorCode := some (← optionalValue textValue) }
  | "error_message" => do return { draft with errorMessage := some (← optionalValue textValue) }
  | "executor_name" => do return { draft with executor := some (← optionalValue textValue) }
  | "dispatch_id" => do return { draft with dispatch := some (← optionalValue textValue) }
  | "created_at" => do return { draft with createdAt := some (← timeValue) }
  | "updated_at" => do return { draft with updatedAt := some (← timeValue) }
  | "started_at" => do return { draft with startedAt := some (← optionalValue timeValue) }
  | "finished_at" => do return { draft with finishedAt := some (← optionalValue timeValue) }
  | "revision" => do return { draft with revision := some (← naturalValue) }
  | _ => do
    skip
    return draft

/-- The fields of an object up to its closing brace, which is not passed. -/
def fieldsOf : Nat → Bool → Draft → Reader Draft
  | 0, _, _ => failHere .endOfObject
  | rounds + 1, first, draft => do
    if ← moreNames first then
      advance
      let name ← stringTail
      if met draft name then complainInObject (.duplicateField name)
      else
        colon
        fieldsOf rounds false (← fieldValue complainInObject draft name)
    else pure draft

/-- The fields of a list; its end is not passed. -/
def itemsOf (taken : Nat) : List String → Draft → Reader Draft
  | [], draft => pure draft
  | name :: names, draft => do
    if ← moreItems (taken == 0) then
      itemsOf (taken + 1) names (← fieldValue complainInList draft name)
    else if name = "revision" then pure draft
    else complainInList (.wrongLength taken expectedLength)

def endOfItems : Reader Unit := do
  match ← peekToken with
  | some ']' => advance
  | some ',' =>
    advance
    match ← peekToken with
    | some ']' => failAhead .trailingComma
    | _ => failAhead .trailingCharacters
  | some _ => failAhead .trailingCharacters
  | none => failAhead .endOfList

def entityValue : Reader Entity := do
  match ← peekToken with
  | none => failAhead .endOfValue
  | some '\x7b' =>
    advance
    let draft ← fieldsOf (← budget) true .empty
    match draft.complete with
    | .ok e => advance; pure e
    | .error cause => complainInObject cause
  | some '[' =>
    advance
    let draft ← itemsOf 0 names .empty
    match draft.complete with
    | .ok e => endOfItems; pure e
    | .error cause => complainInList cause
  | some _ => complainOfType "struct Entity"

end EntityText

/-- The entity that a text describes. -/
def Entity.ofText (text : String) : Except Error Entity :=
  let reader : Json.Reader Entity := do
    let e ← EntityText.entityValue
    Json.Reader.finished
    return e
  match reader (Json.Cursor.ofText text) with
  | .ok (e, _) => .ok e
  | .error fault => .error (.json fault)

end TenantWork
