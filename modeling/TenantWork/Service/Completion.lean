import TenantWork.Service.Calls
/-!
Reports of outcomes. A report counts only while the entity still carries the dispatch it is
addressed with. If the entity moves on between the read and the write, it is read again to tell a
stale report from one that the lifecycle refuses.
-/
namespace TenantWork.Service

def checkDispatch (e : Entity) (address : Address) : Except Error Unit :=
  if e.dispatch = some address.dispatch then .ok ()
  else .error (.staleDispatch e.id.text address.dispatch)

/-- Refuses a report on an entity as its reporter finds it. -/
def checkReport (e : Entity) (address : Address) (outcome : Outcome) : Except Error Unit := do
  Entity.checkStep e.kind e.status (outcome.request e.kind).target
  checkDispatch e address

def complete (address : Address) (outcome : Outcome) : Call Entity :=
  (load address.owner address.entity).andThen fun current =>
    match checkReport current address outcome with
    | .error fault => .fail fault
    | .ok () =>
      (commit current (outcome.request current.kind)).bind fun
        | .error (.invalidTransition source target) =>
          (load address.owner address.entity).andThen fun latest =>
            match checkDispatch latest address with
            | .error fault => .fail fault
            | .ok () => .fail (.invalidTransition source target)
        | answer => .done answer

end TenantWork.Service
