import TenantWork.Proofs.Schedule.Operation
import TenantWork.Service.World
/-!
Clients that act at the same time. A system is a world with any number of clients, each somewhere
in its script; one step serves one request of one client, so everything that other clients do falls
between two requests. A schedule says who is served when. Each client has an id of its own for the
entity it may create and a clock of its own, which may show any instant at any request.
-/
namespace TenantWork.Service

open Store (Storage)

/-- A request with the reply to it. -/
structure Exchange where
  request : Request
  reply : request.Reply

namespace Exchange

/-- The snapshots that a reply shows to the caller. -/
def shown : Exchange → List Entity
  | ⟨.find _ _, .ok (some e)⟩ => [e]
  | ⟨.load _, .ok (some e)⟩ => [e]
  | ⟨.insert _, .ok (.inserted e)⟩ => [e]
  | ⟨.insert _, .ok (.existing e)⟩ => [e]
  | ⟨.save _, .ok e⟩ => [e]
  | _ => []

/-- The snapshot that became the stored one. -/
def stored? : Exchange → Option Entity
  | ⟨.insert _, .ok (.inserted e)⟩ => some e
  | ⟨.save _, .ok e⟩ => some e
  | _ => none

/-- The snapshot that a new entity begins with. -/
def created? : Exchange → Option Entity
  | ⟨.insert _, .ok (.inserted e)⟩ => some e
  | _ => none

/-- The snapshot that an update leaves behind. -/
def updated? : Exchange → Option Entity
  | ⟨.save _, .ok e⟩ => some e
  | _ => none

def removed? : Exchange → Option EntityId
  | ⟨.delete id, .ok true⟩ => some id
  | _ => none

def isInsert : Exchange → Bool
  | ⟨.insert _, _⟩ => true
  | _ => false

end Exchange

structure Client where
  operation : Operation
  /-- The id of an entity that this client creates. -/
  id : EntityId
  /-- What the clock shows at each of the client's requests. -/
  times : Nat → Time.Instant

/-- The world as a client finds it at the request with the given number. -/
def World.seenBy {Tables : Type} (world : World Tables) (client : Client) (n : Nat) :
    World Tables :=
  { world with clock := ⟨client.times n, 0⟩, entityIds := fun _ => client.id }

/-- A world in which nothing has happened yet. Clients bring their own clocks and ids. -/
def World.new {Tables : Type} (store : Store Tables) (executors : List Executor) : World Tables where
  store := store
  clock := ⟨.epoch, 0⟩
  entityIds := fun n => ⟨toString n⟩
  created := 0
  executors := executors
  calls := []
  waiting := []
  ledger := []

/-- A client on its way. -/
structure Thread where
  client : Client
  /-- What the client has exchanged so far, the latest first. -/
  past : List Exchange
  /-- What is left to do. -/
  script : Script (Except Error Answer)

/-- One served request, with the number of its client. -/
structure Step where
  client : Nat
  stage : Stage
  exchange : Exchange

structure System (Tables : Type) where
  world : World Tables
  threads : List Thread
  /-- All that was served, the latest first. -/
  trace : List Step

/-- What a client has been answered in the end. -/
def Thread.answer? (thread : Thread) : Option (Except Error Answer) :=
  match thread.script with
  | .done answer => some answer
  | .ask _ _ _ => none

namespace System

variable {Tables : Type}

def start (service : Service) (clients : List Client) (world : World Tables) : System Tables where
  world := world
  threads := clients.map fun client => ⟨client, [], client.operation.script service⟩
  trace := []

theorem clients_of_start (service : Service) (clients : List Client) (world : World Tables) :
    (start service clients world).threads.map Thread.client = clients := by
  rw [start, List.map_map]
  exact List.map_id clients

theorem thread_of_start {service : Service} {clients : List Client} {world : World Tables}
    {i : Nat} {thread : Thread} (found : (start service clients world).threads[i]? = some thread) :
    clients[i]? = some thread.client ∧
      thread = ⟨thread.client, [], thread.client.operation.script service⟩ := by
  simp only [start, List.getElem?_map, Option.map_eq_some_iff] at found
  obtain ⟨client, here, rfl⟩ := found
  exact ⟨here, rfl⟩

def answer? (system : System Tables) (i : Nat) : Option (Except Error Answer) :=
  system.threads[i]?.bind Thread.answer?

variable [Storage Tables]

/-- The reply to a request of a client, with the world after it. -/
def reply (system : System Tables) (client : Client) (past : List Exchange) (request : Request) :
    request.Reply × World Tables :=
  (system.world.seenBy client past.length).answer request

/-- Serves a request of the client with the given number. -/
def serve (system : System Tables) (i : Nat) (client : Client) (past : List Exchange)
    (stage : Stage) (request : Request)
    (next : request.Reply → Script (Except Error Answer)) : System Tables :=
  let reply := (system.reply client past request).1
  { world := (system.reply client past request).2
    threads := system.threads.set i ⟨client, ⟨request, reply⟩ :: past, next reply⟩
    trace := ⟨i, stage, ⟨request, reply⟩⟩ :: system.trace }

/-- The client with the given number goes one step, if it has not ended. -/
def step (system : System Tables) (i : Nat) : System Tables :=
  match system.threads[i]? with
  | some ⟨client, past, .ask stage request next⟩ => system.serve i client past stage request next
  | _ => system

def run (system : System Tables) (schedule : List Nat) : System Tables :=
  schedule.foldl step system

theorem run_cons (system : System Tables) (i : Nat) (rest : List Nat) :
    system.run (i :: rest) = (system.step i).run rest := rfl

theorem run_append (system : System Tables) (first second : List Nat) :
    system.run (first ++ second) = (system.run first).run second := List.foldl_append

theorem run_concat (system : System Tables) (schedule : List Nat) (i : Nat) :
    system.run (schedule ++ [i]) = (system.run schedule).step i := by
  rw [run_append]
  rfl

/-- All that a step can do: nothing, or serve the next request of its client. -/
theorem step_cases (system : System Tables) (i : Nat) :
    system.step i = system ∨
    ∃ client past stage request next,
      system.threads[i]? = some ⟨client, past, .ask stage request next⟩ ∧
      system.step i = system.serve i client past stage request next := by
  unfold step
  split
  next client past stage request next found =>
    right
    exact ⟨client, past, stage, request, next, found, rfl⟩
  next =>
    left
    rfl

/-- What every served request keeps holds after every schedule. -/
theorem run_induction (holds : System Tables → Prop)
    (kept : ∀ system i client past stage request next,
      system.threads[i]? = some ⟨client, past, .ask stage request next⟩ →
      holds system → holds (system.serve i client past stage request next))
    (system : System Tables) (initially : holds system) (schedule : List Nat) :
    holds (system.run schedule) := by
  induction schedule generalizing system with
  | nil => exact initially
  | cons i rest ih =>
    rw [run_cons]
    apply ih
    obtain same | ⟨client, past, stage, request, next, found, served⟩ := step_cases system i
    · rwa [same]
    · rw [served]
      exact kept _ _ _ _ _ _ _ found initially

theorem serve_world (system : System Tables) (i : Nat) (client : Client) (past : List Exchange)
    (stage : Stage) (request : Request)
    (next : request.Reply → Script (Except Error Answer)) :
    (system.serve i client past stage request next).world =
      (system.reply client past request).2 := rfl

theorem serve_trace (system : System Tables) (i : Nat) (client : Client) (past : List Exchange)
    (stage : Stage) (request : Request)
    (next : request.Reply → Script (Except Error Answer)) :
    (system.serve i client past stage request next).trace =
      ⟨i, stage, ⟨request, (system.reply client past request).1⟩⟩ :: system.trace := rfl

theorem thread_of_serve {system : System Tables} {i : Nat} {client : Client}
    {past : List Exchange} {stage : Stage} {request : Request}
    {next : request.Reply → Script (Except Error Answer)} {j : Nat} {thread : Thread}
    (found : (system.serve i client past stage request next).threads[j]? = some thread) :
    (j = i ∧ thread = ⟨client, ⟨request, (system.reply client past request).1⟩ :: past,
      next (system.reply client past request).1⟩) ∨
    (j ≠ i ∧ system.threads[j]? = some thread) := by
  simp only [serve, List.getElem?_set] at found
  split at found
  next same =>
    left
    split at found
    · exact ⟨same.symm, (Option.some.inj found).symm⟩
    · cases found
  next different =>
    right
    exact ⟨fun same => different same.symm, found⟩

theorem clients_of_serve {system : System Tables} {i : Nat} {client : Client}
    {past : List Exchange} {stage : Stage} {request : Request}
    {next : request.Reply → Script (Except Error Answer)}
    (found : system.threads[i]? = some ⟨client, past, .ask stage request next⟩) :
    (system.serve i client past stage request next).threads.map Thread.client =
      system.threads.map Thread.client := by
  apply List.ext_getElem?
  intro j
  simp only [serve, List.map_set, List.getElem?_set, List.getElem?_map, List.length_map]
  split
  next here =>
    subst here
    obtain ⟨inside, _⟩ := List.getElem?_eq_some_iff.1 found
    rw [if_pos inside, found]
    rfl
  next => rfl

theorem clients_of_run (service : Service) (clients : List Client) (world : World Tables)
    (schedule : List Nat) :
    ((start service clients world).run schedule).threads.map Thread.client = clients :=
  run_induction (fun system => system.threads.map Thread.client = clients)
    (fun _ _ _ _ _ _ _ found same => (clients_of_serve found).trans same) _
    (clients_of_start service clients world) schedule

end System

/-! ## Calls without interruption -/

variable {Tables : Type} [Storage Tables]

/-- Carries a program out for a client with nobody else acting. -/
def Program.attend {α : Type} (client : Client) : Nat → World Tables → Program α → α × World Tables
  | _, world, .done value => (value, world)
  | n, world, .ask request next =>
    let (reply, world) := (world.seenBy client n).answer request
    (next reply).attend client (n + 1) world

/-- A whole operation of one client. -/
def Client.serve (service : Service) (client : Client) (world : World Tables) :
    Except Error Answer × World Tables :=
  (client.operation.call service).attend client 0 world

/-- One client after another. -/
def serveAll (service : Service) : List Client → World Tables →
    List (Except Error Answer) × World Tables
  | [], world => ([], world)
  | client :: rest, world =>
    let (answer, world) := client.serve service world
    let (answers, world) := serveAll service rest world
    (answer :: answers, world)

theorem serveAll_concat (service : Service) (clients : List Client) (client : Client)
    (world : World Tables) :
    serveAll service (clients ++ [client]) world =
      ((serveAll service clients world).1 ++ [(client.serve service (serveAll service clients world).2).1],
        (client.serve service (serveAll service clients world).2).2) := by
  induction clients generalizing world with
  | nil => rfl
  | cons first rest ih => simp only [List.cons_append, serveAll, ih]

end TenantWork.Service
