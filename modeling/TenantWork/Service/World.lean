import TenantWork.Service.Local
import TenantWork.Service.Submission
import TenantWork.Time.Clock
/-!
The surroundings of a service: store, clock, supply of ids, executors, outcomes still to be
reported, and the ledger of updates that the observers have been told of. `answer` replies to one
request, and `run` carries a whole program out without interruption.
-/
namespace TenantWork.Service

open Store (Storage)

structure World (Tables : Type) where
  store : Store Tables
  clock : Time.Clock
  entityIds : Nat → EntityId
  /-- How many ids have been given out. -/
  created : Nat
  executors : List Executor
  /-- The calls to the executors, the latest first. -/
  calls : List ExecutorCall
  /-- Outcomes to be reported, in order. -/
  waiting : List (Address × Outcome)
  /-- Durable updates as before and after, the latest first. -/
  ledger : List (Entity × Entity)

namespace World

variable {Tables : Type}

def executor? (world : World Tables) (name : String) : Option Executor :=
  world.executors.find? fun executor => executor.name == name

def reserve (world : World Tables) (name : String) (e : Entity) :
    Except Error String × World Tables :=
  let reply := match world.executor? name with
    | some executor => executor.reserve world.calls e
    | none => .error (.executorDispatchFailed name "no executor registered")
  (reply, { world with calls := .reserve name e :: world.calls })

def start (world : World Tables) (name : String) (e : Entity) (dispatch : String) :
    Start × World Tables :=
  let reply := match world.executor? name with
    | some executor => executor.start world.calls e dispatch
    | none => .answered (.error (.executorDispatchFailed name "no executor registered"))
  let world := { world with calls := .start name e dispatch :: world.calls }
  match reply with
  | .deferred outcome =>
    (reply, { world with waiting := world.waiting ++ [(⟨e.owner, e.id, dispatch⟩, outcome)] })
  | _ => (reply, world)

variable [Storage Tables]

def answer (world : World Tables) : (request : Request) → request.Reply × World Tables
  | .readClock =>
    let (now, clock) := world.clock.read
    (now, { world with clock })
  | .newId => (world.entityIds world.created, { world with created := world.created + 1 })
  | .find owner key => (world.store.find owner key, world)
  | .load id => (world.store.get id, world)
  | .list owner filter => (world.store.list owner filter, world)
  | .insert e =>
    let (reply, store) := world.store.insert e
    (reply, { world with store })
  | .save e =>
    let (reply, store) := world.store.save e
    (reply, { world with store })
  | .delete id =>
    let (reply, store) := world.store.delete id
    (reply, { world with store })
  | .observe before after => ((), { world with ledger := (before, after) :: world.ledger })
  | .reserve name e => world.reserve name e
  | .start name e dispatch => world.start name e dispatch

end World

variable {Tables : Type} [Storage Tables]

/-- Carries a program out with nobody else acting. -/
def Program.run {α : Type} (world : World Tables) : Program α → α × World Tables
  | .done value => (value, world)
  | .ask request next =>
    let (reply, world) := world.answer request
    (next reply).run world

/-- Whether the caller is still there after a reply. -/
def Request.goesOn : (request : Request) → request.Reply → Bool
  | .start _ _ _, .brokeOff => false
  | _, _ => true

/-- The value of a program that is carried out so, as its caller hears it: none if an executor has
broken the caller off. -/
def Program.heard {α : Type} (world : World Tables) : Program α → Option α
  | .done value => some value
  | .ask request next =>
    let (reply, world) := world.answer request
    if request.goesOn reply then (next reply).heard world else none

/-- Reports all outcomes that wait, in order; what comes of them is of no interest to anyone. -/
def World.settle (world : World Tables) : World Tables :=
  world.waiting.foldl (fun world report => ((complete report.1 report.2).run world).2)
    { world with waiting := [] }

end TenantWork.Service
