import TenantWork.Service.Dispatch
/-!
Submitting work. Under a key that its owner has used before, the policy of the kind decides: the
existing entity is the answer if kind and payload are the same, or the key is in conflict. A
caller that saw the key free and lost it before the insertion gets a conflict under any policy.
-/
namespace TenantWork.Service

inductive Submission where
  | created (e : Entity)
  | replayed (e : Entity)
deriving DecidableEq

def Submission.entity : Submission → Entity
  | .created e => e
  | .replayed e => e

/-- The answer to a submission under a key in use. -/
def replay (service : Service) (existing : Entity) (kind : Kind) (payload : Json) (key : String) :
    Except Error Submission :=
  if service.settings.policy kind = .replay ∧ existing.kind = kind ∧
      existing.payload.same payload = true then
    .ok (.replayed existing)
  else .error (.idempotencyConflict existing.owner.name key)

/-- Creates the entity and hands it to the store. -/
def insertNew (owner : Owner) (kind : Kind) (payload : Json) (key : Option String) :
    Call Submission :=
  .ask .readClock fun now =>
  .ask .newId fun id =>
  .ask (.insert (Entity.create id owner kind payload key now)) fun
    | .ok (.inserted e) => .succeed (.created e)
    | .ok (.existing _) => .fail (.idempotencyConflict owner.name (key.getD ""))
    | .error fault => .fail fault

def place (service : Service) (owner : Owner) (kind : Kind) (payload : Json)
    (key : Option String) : Call Submission :=
  match key with
  | none => insertNew owner kind payload none
  | some text =>
    if Text.isBlank text then .fail (.invalidInput .blankKey)
    else
      .ask (.find owner text) fun
        | .ok (some existing) => .done (service.replay existing kind payload text)
        | .ok none => insertNew owner kind payload (some text)
        | .error fault => .fail fault

def submit (service : Service) (owner : Owner) (kind : Kind) (payload : Json)
    (key : Option String) : Call Entity :=
  (service.place owner kind payload key).andThen fun placed => .succeed placed.entity

/-- Submits, and dispatches what is new. -/
def submitAndDispatch (service : Service) (owner : Owner) (kind : Kind) (payload : Json)
    (key : Option String) : Call Entity :=
  (service.place owner kind payload key).andThen fun
    | .created e => service.handOver e
    | .replayed e => .succeed e

end TenantWork.Service
