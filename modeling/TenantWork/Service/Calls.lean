import TenantWork.Access.Admin
import TenantWork.Service.Program
/-!
The calls on one entity, and listings. A call that changes an entity loads a snapshot, changes a
copy and saves it; the store takes the copy only while the snapshot is still the stored one. Of
another owner's entity a caller learns no more than of a missing one.
-/
namespace TenantWork.Service

/-- The entity as its owner sees it. -/
def load (owner : Owner) (id : EntityId) : Call Entity :=
  .ask (.load id) fun
    | .ok found => .done (Entity.forOwner owner id found)
    | .error fault => .fail fault

/-- Carries a transition out on a snapshot. -/
def commit (current : Entity) (request : Transition) : Call Entity :=
  .ask .readClock fun now =>
    match current.apply request now with
    | .error fault => .fail fault
    | .ok next =>
      .ask (.save next) fun
        | .ok committed => .ask (.observe current committed) fun _ => .succeed committed
        | .error (.notFound id) => .fail (.accessDenied id)
        | .error fault => .fail fault

def transition (owner : Owner) (id : EntityId) (request : Transition) : Call Entity :=
  (load owner id).andThen fun current => commit current request

def transitionTo (owner : Owner) (id : EntityId) (target : Status) : Call Entity :=
  transition owner id (.into target)

/-- Work in progress is not interrupted; its late outcome is refused. -/
def cancel (owner : Owner) (id : EntityId) : Call Entity :=
  (load owner id).andThen fun current => commit current (.into current.kind.lifecycle.cancel)

def retry (owner : Owner) (id : EntityId) : Call Entity :=
  (load owner id).andThen fun current => commit current (.into current.kind.lifecycle.initial)

def list (owner : Owner) (filter : Filter) : Call (List Entity) :=
  .ask (.list (some owner) filter) .done

/-- Removes an entity and reports a missing one as the given error. -/
def remove (id : EntityId) (missing : Error) : Call Unit :=
  .ask (.delete id) fun
    | .ok true => .succeed ()
    | .ok false => .fail missing
    | .error fault => .fail fault

/-- Only finished work can be deleted. -/
def delete (owner : Owner) (id : EntityId) : Call Unit :=
  (load owner id).andThen fun current =>
    if current.isFinished then remove id (.accessDenied id.text)
    else .fail (.notDeletable id.text current.status)

def adminGet (_ : Access.Grant) (id : EntityId) : Call Entity :=
  .ask (.load id) fun
    | .ok (some e) => .succeed e
    | .ok none => .fail (.notFound id.text)
    | .error fault => .fail fault

def adminList (_ : Access.Grant) (owner : Option Owner) (filter : Filter) : Call (List Entity) :=
  .ask (.list owner filter) .done

/-- Removes an entity of any owner in any status. -/
def adminDelete (_ : Access.Grant) (id : EntityId) : Call Unit := remove id (.notFound id.text)

end TenantWork.Service
