import TenantWork.Service.Submission
/-!
What clients may ask of a service, as data. Each operation has its call, the program that carries
it out. A script is a call in which every request also names the part of the service that makes it,
so that a write can be told to be the caller's own, a report's or the record of a failed dispatch.
Forgetting the parts gives the call back.
-/
namespace TenantWork.Service

inductive Operation where
  | submit (owner : Owner) (kind : Kind) (payload : Json) (key : Option String)
  | submitAndDispatch (owner : Owner) (kind : Kind) (payload : Json) (key : Option String)
  | get (owner : Owner) (id : EntityId)
  | list (owner : Owner) (filter : Filter)
  | transition (owner : Owner) (id : EntityId) (request : Transition)
  | cancel (owner : Owner) (id : EntityId)
  | retry (owner : Owner) (id : EntityId)
  | dispatch (owner : Owner) (id : EntityId)
  | delete (owner : Owner) (id : EntityId)
  | adminGet (grant : Access.Grant) (id : EntityId)
  | adminList (grant : Access.Grant) (owner : Option Owner) (filter : Filter)
  | adminDelete (grant : Access.Grant) (id : EntityId)
  | complete (address : Address) (outcome : Outcome)

inductive Answer where
  | entity (e : Entity)
  | entities (found : List Entity)
  | nothing
deriving DecidableEq

def Program.mapOk {α β : Type} (f : α → β) (call : Call α) : Call β :=
  call.bind fun answer => .done (answer.map f)

/-- The program of an operation. -/
def Operation.call (service : Service) : Operation → Call Answer
  | .submit owner kind payload key => (service.submit owner kind payload key).mapOk .entity
  | .submitAndDispatch owner kind payload key =>
    (service.submitAndDispatch owner kind payload key).mapOk .entity
  | .get owner id => (load owner id).mapOk .entity
  | .list owner filter => (Service.list owner filter).mapOk .entities
  | .transition owner id request => (Service.transition owner id request).mapOk .entity
  | .cancel owner id => (Service.cancel owner id).mapOk .entity
  | .retry owner id => (Service.retry owner id).mapOk .entity
  | .dispatch owner id => (service.dispatch owner id).mapOk .entity
  | .delete owner id => (Service.delete owner id).mapOk fun _ => .nothing
  | .adminGet grant id => (Service.adminGet grant id).mapOk .entity
  | .adminList grant owner filter => (Service.adminList grant owner filter).mapOk .entities
  | .adminDelete grant id => (Service.adminDelete grant id).mapOk fun _ => .nothing
  | .complete address outcome => (Service.complete address outcome).mapOk .entity

/-! ## Scripts -/

/-- The part of the service that makes a request. -/
inductive Stage where
  /-- The operation itself. -/
  | calling
  /-- A report of an outcome. -/
  | reporting (address : Address)
  /-- The record of a dispatch that failed, begun on a snapshot. -/
  | recording (e : Entity)
deriving DecidableEq

inductive Script (α : Type) where
  | done (value : α)
  | ask (stage : Stage) (request : Request) (next : request.Reply → Script α)

namespace Script

variable {α β : Type}

def plain : Script α → Program α
  | .done value => .done value
  | .ask _ request next => .ask request fun reply => (next reply).plain

def bind : Script α → (α → Script β) → Script β
  | .done value, after => after value
  | .ask stage request next, after => .ask stage request fun reply => (next reply).bind after

/-- Goes on only after a success. -/
def andThen (script : Script (Except Error α)) (after : α → Script (Except Error β)) :
    Script (Except Error β) :=
  script.bind fun
    | .ok value => after value
    | .error fault => .done (.error fault)

def mapOk (f : α → β) (script : Script (Except Error α)) : Script (Except Error β) :=
  script.bind fun answer => .done (answer.map f)

theorem plain_bind (script : Script α) (after : α → Script β) :
    (script.bind after).plain = script.plain.bind fun value => (after value).plain := by
  induction script with
  | done value => rfl
  | ask stage request next ih => simp [bind, plain, Program.bind, ih]

theorem plain_andThen (script : Script (Except Error α)) (after : α → Script (Except Error β)) :
    (script.andThen after).plain = script.plain.andThen fun value => (after value).plain := by
  rw [andThen, plain_bind, Program.andThen]
  congr 1
  funext answer
  cases answer <;> rfl

theorem plain_mapOk (f : α → β) (script : Script (Except Error α)) :
    (script.mapOk f).plain = script.plain.mapOk f := by
  rw [mapOk, plain_bind, Program.mapOk]
  rfl

end Script

def Program.within {α : Type} (stage : Stage) : Program α → Script α
  | .done value => .done value
  | .ask request next => .ask stage request fun reply => (next reply).within stage

theorem Program.plain_within {α : Type} (stage : Stage) (program : Program α) :
    (program.within stage).plain = program := by
  induction program with
  | done value => rfl
  | ask request next ih => simp [within, Script.plain, ih]

/-! ## The script of an operation -/

namespace Script

def recordFailure (e : Entity) (dispatch : Option Dispatch) (reason : String) :
    Script (Except Error Entity) :=
  (failDispatch e dispatch reason).within (.recording e)

def afterStart (running : Entity) (dispatch : Dispatch) :
    Except Error Unit → Script (Except Error Entity)
  | .ok () => (load running.owner running.id).within .calling
  | .error fault =>
    if fault.isPersistence then .done (.error fault)
    else recordFailure running (some dispatch) fault.message

def start (running : Entity) (executor dispatch : String) : Script (Except Error Entity) :=
  .ask .calling (.start executor running dispatch) fun
    | .answered answer => afterStart running ⟨executor, some dispatch⟩ answer
    | .deferred _ => afterStart running ⟨executor, some dispatch⟩ (.ok ())
    | .reported outcome answer =>
      let address : Address := ⟨running.owner, running.id, dispatch⟩
      ((complete address outcome).within (.reporting address)).bind fun report =>
        afterStart running ⟨executor, some dispatch⟩ (answer report)
    | .brokeOff => .done (.ok running)

def handOver (service : Service) (e : Entity) : Script (Except Error Entity) :=
  match service.chosen with
  | none => recordFailure e none "no executor registered"
  | some executor =>
    .ask .calling (.reserve executor e) fun
      | .error fault => recordFailure e (some ⟨executor, none⟩) fault.message
      | .ok dispatch =>
        let request := (Transition.into e.kind.lifecycle.running).withDispatch executor (some dispatch)
        ((commit e request).within .calling).andThen fun running => start running executor dispatch

end Script

def Operation.script (service : Service) : Operation → Script (Except Error Answer)
  | .submitAndDispatch owner kind payload key =>
    (((service.place owner kind payload key).within .calling).andThen fun
      | .created e => Script.handOver service e
      | .replayed e => .done (.ok e)).mapOk .entity
  | .dispatch owner id =>
    (((load owner id).within .calling).andThen fun current =>
      if current.status = current.kind.lifecycle.initial then Script.handOver service current
      else .done (.error (.invalidTransition current.status current.kind.lifecycle.running))).mapOk
        .entity
  | .complete address outcome =>
    ((Operation.complete address outcome).call service).within (.reporting address)
  | other => (other.call service).within .calling

namespace Script

theorem plain_afterStart (running : Entity) (dispatch : Dispatch) (answer : Except Error Unit) :
    (afterStart running dispatch answer).plain = Service.afterStart running dispatch answer := by
  cases answer with
  | ok value => exact Program.plain_within _ _
  | error fault =>
    simp only [afterStart, Service.afterStart]
    split
    · rfl
    · exact Program.plain_within _ _

theorem plain_start (running : Entity) (executor dispatch : String) :
    (start running executor dispatch).plain = Service.start running executor dispatch := by
  simp only [start, Service.start, plain]
  congr 1
  funext reply
  cases reply with
  | answered answer => exact plain_afterStart _ _ _
  | deferred outcome => exact plain_afterStart _ _ _
  | reported outcome answer => simp only [plain_bind, Program.plain_within, plain_afterStart]
  | brokeOff => rfl

theorem plain_handOver (service : Service) (e : Entity) :
    (handOver service e).plain = service.handOver e := by
  unfold handOver Service.handOver
  cases service.chosen with
  | none => exact Program.plain_within _ _
  | some executor =>
    simp only [plain]
    congr 1
    funext reply
    cases reply with
    | error fault => exact Program.plain_within _ _
    | ok dispatch => simp only [plain_andThen, Program.plain_within, plain_start]

end Script

/-- The script of an operation is its call with the stages written in. -/
theorem Operation.plain_script (service : Service) (operation : Operation) :
    (operation.script service).plain = operation.call service := by
  cases operation with
  | submitAndDispatch owner kind payload key =>
    simp only [script, call, Script.plain_mapOk, Script.plain_andThen, Program.plain_within]
    congr 2
    funext placed
    cases placed with
    | created e => exact Script.plain_handOver service e
    | replayed e => rfl
  | dispatch owner id =>
    simp only [script, call, Script.plain_mapOk, Script.plain_andThen, Program.plain_within]
    congr 2
    funext current
    by_cases initial : current.status = current.kind.lifecycle.initial
    · simp only [initial, if_true, Script.plain_handOver]
    · simp only [initial, if_false, Script.plain, Program.fail]
  | _ => exact Program.plain_within _ _

end TenantWork.Service
