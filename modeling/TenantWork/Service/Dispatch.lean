import TenantWork.Service.Completion
import TenantWork.Service.Setup
/-!
Handing an entity to the chosen executor. The dispatch id is made durable before the executor gets
the entity, so whoever loses the race for the running status never starts it. What goes wrong on
the executor's side ends in the failure status of the entity; only errors of the store reach the
caller.
-/
namespace TenantWork.Service

/-- Records a failure of the executor. The entity passes through the running status, so that the
failure is a declared step; whoever was faster with an outcome or a cancel is left in place. -/
def failDispatch (e : Entity) (dispatch : Option Dispatch) (reason : String) : Call Entity :=
  let cycle := e.kind.lifecycle
  let running : Call Entity :=
    if e.status = cycle.initial then commit e { Transition.into cycle.running with dispatch }
    else .succeed e
  running.andThen fun current =>
    let failure :=
      (Transition.into cycle.failure).withFailure ErrorCode.executorDispatchFailed.text reason
    (commit current failure).bind fun
      | .error (.invalidTransition _ _) => load current.owner current.id
      | answer => .done answer

/-- Goes on after the executor has answered. -/
def afterStart (running : Entity) (dispatch : Dispatch) : Except Error Unit → Call Entity
  | .ok () => load running.owner running.id
  | .error fault =>
    if fault.isPersistence then .fail fault
    else failDispatch running (some dispatch) fault.message

/-- Hands over an entity whose dispatch is durable. A caller that the executor breaks off asks for
nothing more, and nobody hears its answer. -/
def start (running : Entity) (executor dispatch : String) : Call Entity :=
  .ask (.start executor running dispatch) fun
    | .answered answer => afterStart running ⟨executor, some dispatch⟩ answer
    | .deferred _ => afterStart running ⟨executor, some dispatch⟩ (.ok ())
    | .reported outcome answer =>
      (complete ⟨running.owner, running.id, dispatch⟩ outcome).bind fun report =>
        afterStart running ⟨executor, some dispatch⟩ (answer report)
    | .brokeOff => .succeed running

/-- Dispatches a snapshot in its initial status. -/
def handOver (service : Service) (e : Entity) : Call Entity :=
  match service.chosen with
  | none => failDispatch e none "no executor registered"
  | some executor =>
    .ask (.reserve executor e) fun
      | .error fault => failDispatch e (some ⟨executor, none⟩) fault.message
      | .ok dispatch =>
        let request := (Transition.into e.kind.lifecycle.running).withDispatch executor (some dispatch)
        (commit e request).andThen fun running => start running executor dispatch

def dispatch (service : Service) (owner : Owner) (id : EntityId) : Call Entity :=
  (load owner id).andThen fun current =>
    let cycle := current.kind.lifecycle
    if current.status = cycle.initial then service.handOver current
    else .fail (.invalidTransition current.status cycle.running)

end TenantWork.Service
