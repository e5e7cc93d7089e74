import TenantWork.Json.Fault
import TenantWork.Time.Rfc3339
import TenantWork.Work.Kind
import TenantWork.Work.Status
/-!
Everything that can go wrong, as causes. Each error has a message for people, one of eight codes
for programs, and the code decides the exit status of a command. An error that some other program
part reports in words of its own is carried as stated.
-/
namespace TenantWork

/-- Why an argument is refused. -/
inductive InputFault where
  | unknownKind (text : String)
  | unknownStatus (text : String)
  | unknownPolicy (text : String)
  | unknownBackend (text : String)
  | blankOwner
  | blankKey
  | executorTwice (name : String)
  | undeclaredStatus (kind : Kind) (status : Status)
  | stated (reason : String)
deriving DecidableEq, Repr

def InputFault.message : InputFault → String
  | .unknownKind text => "unknown kind " ++ Text.quote text
  | .unknownStatus text => "unknown status " ++ Text.quote text
  | .unknownPolicy text =>
    "unknown replay policy " ++ Text.quote text ++ ", expected replay or reject"
  | .unknownBackend text => "unknown store backend " ++ Text.quote text
  | .blankOwner => "owner_id must not be empty"
  | .blankKey => "idempotency key must not be blank"
  | .executorTwice name => "executor " ++ name ++ " registered twice"
  | .undeclaredStatus kind status => kind.name ++ " does not declare status " ++ status.name
  | .stated reason => reason

def InputFault.report (fault : InputFault) : String := "invalid input: " ++ fault.message

/-- Why the text of a column does not denote a value of its field. -/
inductive CellFault where
  | input (fault : InputFault)
  | json (fault : Json.Fault)
  | time (fault : Time.TimeFault)
deriving DecidableEq, Repr

def CellFault.message : CellFault → String
  | .input fault => fault.report
  | .json fault => fault.message
  | .time fault => fault.message

/-- Why a statement on the tables fails. -/
inductive QueryFault where
  | duplicateId (id : String)
  | notUnique (columns : String)
  | missing (column : String)
  | conversion (column : Nat) (fault : CellFault)
  | wrongType (found : String) (column : Nat) (name : String)
  | outOfRange (value : Int) (column : Nat)
  | tooLarge
  | stated (reason : String)
deriving DecidableEq, Repr

def QueryFault.message : QueryFault → String
  | .duplicateId id => "duplicate entity id " ++ id
  | .notUnique columns => "UNIQUE constraint failed: " ++ columns
  | .missing column => "NOT NULL constraint failed: " ++ column
  | .conversion column fault =>
    "Conversion error from type Text at index: " ++ toString column ++ ", " ++ fault.message
  | .wrongType found column name =>
    "Invalid column type " ++ found ++ " at index: " ++ toString column ++ ", name: " ++ name
  | .outOfRange value column =>
    "Integer " ++ toString value ++ " out of range at index " ++ toString column
  | .tooLarge => "number too large to fit in target type"
  | .stated reason => reason

inductive WriteKind where
  | insert
  | update
  | delete
deriving DecidableEq, Repr

def WriteKind.name : WriteKind → String
  | .insert => "Insert"
  | .update => "Update"
  | .delete => "Delete"

/-- Why a write that was ready to be made durable was not. -/
inductive RefusedWrite where
  | injected (number : Nat) (kind : WriteKind) (id : String)
  | stated (reason : String)
deriving DecidableEq, Repr

def RefusedWrite.message : RefusedWrite → String
  | .injected number kind id =>
    "injected failure on write " ++ toString number ++ " (" ++ kind.name ++ " " ++ id ++ ")"
  | .stated reason => reason

inductive ErrorCode where
  | accessDenied
  | notFound
  | idempotencyConflict
  | invalidTransition
  | executorDispatchFailed
  | persistenceFailed
  | invalidInput
  | configError
deriving DecidableEq, Repr

namespace ErrorCode

def text : ErrorCode → String
  | .accessDenied => "ACCESS_DENIED"
  | .notFound => "NOT_FOUND"
  | .idempotencyConflict => "IDEMPOTENCY_CONFLICT"
  | .invalidTransition => "INVALID_TRANSITION"
  | .executorDispatchFailed => "EXECUTOR_DISPATCH_FAILED"
  | .persistenceFailed => "PERSISTENCE_FAILED"
  | .invalidInput => "INVALID_INPUT"
  | .configError => "CONFIG_ERROR"

def exitStatus : ErrorCode → UInt8
  | .persistenceFailed => 1
  | .configError => 2
  | .invalidInput => 3
  | .accessDenied | .notFound => 4
  | .idempotencyConflict => 5
  | .invalidTransition => 6
  | .executorDispatchFailed => 7

end ErrorCode

inductive Error where
  /-- The same for an entity that is missing and for one of another owner. -/
  | accessDenied (id : String)
  | notFound (id : String)
  | idempotencyConflict (owner key : String)
  | invalidTransition (source target : Status)
  | staleDispatch (id dispatch : String)
  | notDeletable (id : String) (status : Status)
  | executorDispatchFailed (executor reason : String)
  | commitRejected (refusal : RefusedWrite)
  | database (reason : String)
  | databaseQuery (fault : QueryFault)
  | invalidInput (fault : InputFault)
  | configParse (file reason : String)
  | configMissing (part key : String)
  | configInvalid (part key reason : String)
  | json (fault : Json.Fault)
  | io (reason : String)
deriving DecidableEq, Repr

namespace Error

def message : Error → String
  | .accessDenied id => "entity " ++ id ++ " not found or not accessible"
  | .notFound id => "entity " ++ id ++ " not found"
  | .idempotencyConflict owner key =>
    "idempotency key " ++ Text.quote key ++ " already used by owner " ++ owner
  | .invalidTransition source target =>
    "invalid transition from " ++ source.name ++ " to " ++ target.name
  | .staleDispatch id dispatch =>
    "dispatch " ++ dispatch ++ " is not the active dispatch of entity " ++ id
  | .notDeletable id status => "entity " ++ id ++ " cannot be deleted while " ++ status.name
  | .executorDispatchFailed executor reason =>
    "executor " ++ executor ++ " failed to dispatch: " ++ reason
  | .commitRejected refusal => "commit rejected, nothing was written: " ++ refusal.message
  | .database reason => "database error: " ++ reason
  | .databaseQuery fault => "database query error: " ++ fault.message
  | .invalidInput fault => fault.report
  | .configParse file reason => "config parse error in " ++ file ++ ": " ++ reason
  | .configMissing part key => "missing config key [" ++ part ++ "] " ++ key
  | .configInvalid part key reason =>
    "invalid config value [" ++ part ++ "] " ++ key ++ ": " ++ reason
  | .json fault => fault.message
  | .io reason => reason

def code : Error → ErrorCode
  | .accessDenied _ => .accessDenied
  | .notFound _ => .notFound
  | .idempotencyConflict _ _ => .idempotencyConflict
  | .invalidTransition _ _ | .staleDispatch _ _ | .notDeletable _ _ => .invalidTransition
  | .executorDispatchFailed _ _ => .executorDispatchFailed
  | .commitRejected _ | .database _ | .databaseQuery _ | .io _ => .persistenceFailed
  | .invalidInput _ | .json _ => .invalidInput
  | .configParse _ _ | .configMissing _ _ | .configInvalid _ _ _ => .configError

/-- An error of the store, as opposed to one that the store's content explains. -/
def isPersistence (error : Error) : Bool := error.code == .persistenceFailed

end Error

end TenantWork
