import TenantWork.Proofs.Schedule.System
import TenantWork.Proofs.Store.MemoryCalls
import TenantWork.Proofs.Tenancy.Separation
/-!
Calls that nobody else interrupts. Where a program leaves its world can be followed along the
program: a request is answered by the world as it is then, and what comes after begins in the world
after it. Clock and ids are the client's own and change nothing else.
-/
namespace TenantWork

/-! ## The store -/

namespace Store

/-- All that a call that writes can do. -/
theorem commit_cases {Tables α : Type} (store : Store Tables) (staged : Staged Tables α) :
    (∃ fault, (store.commit staged).1 = .error fault ∧
      (store.commit staged).2.tables = store.tables) ∨
    (∃ answer, staged = .answered answer ∧ store.commit staged = (.ok answer, store)) ∨
    ∃ call tables answer, staged = .ready call tables answer ∧
      (store.commit staged).1 = .ok answer ∧ (store.commit staged).2.tables = tables := by
  cases staged with
  | refused fault => exact .inl ⟨fault, rfl, rfl⟩
  | answered answer => exact .inr (.inl ⟨answer, rfl, rfl⟩)
  | ready call tables answer =>
    obtain ⟨_, passed⟩ | ⟨fault, _, refused⟩ := store.commit_ready call tables answer
    · right; right
      exact ⟨call, tables, answer, rfl, by rw [passed], by rw [passed]⟩
    · left
      exact ⟨fault, by rw [refused], by rw [refused]⟩

end Store

namespace Service

open Store (Storage)

variable {Tables : Type} [Storage Tables] {α β : Type}

/-! ## Where a program leads -/

namespace Program

/-- Carried out for a client with nobody else acting, the program ends as asked for. -/
def Leaves (client : Client) (ends : α → World Tables → Prop) :
    Nat → World Tables → Program α → Prop
  | _, world, .done value => ends value world
  | n, world, .ask request next =>
    (next ((world.seenBy client n).answer request).1).Leaves client ends (n + 1)
      ((world.seenBy client n).answer request).2

variable {client : Client} {n : Nat} {world : World Tables} {ends : α → World Tables → Prop}

theorem Leaves.attend {program : Program α} (leaves : program.Leaves client ends n world) :
    ends (program.attend client n world).1 (program.attend client n world).2 := by
  induction program generalizing n world with
  | done value => exact leaves
  | ask request next ih => exact ih _ leaves

theorem Leaves.weaken {ends' : α → World Tables → Prop} {program : Program α}
    (leaves : program.Leaves client ends n world)
    (weaker : ∀ value world, ends value world → ends' value world) :
    program.Leaves client ends' n world := by
  induction program generalizing n world with
  | done value => exact weaker value world leaves
  | ask request next ih => exact ih _ leaves

theorem Leaves.bind {between : α → World Tables → Prop} {ends : β → World Tables → Prop}
    {program : Program α} {after : α → Program β} (first : program.Leaves client between n world)
    (rest : ∀ value m world, between value world → (after value).Leaves client ends m world) :
    (program.bind after).Leaves client ends n world := by
  induction program generalizing n world with
  | done value => exact rest value n world first
  | ask request next ih => exact ih _ first

/-- Goes on only after a success. -/
theorem Leaves.andThen {between : Except Error α → World Tables → Prop}
    {ends : Except Error β → World Tables → Prop} {call : Call α} {after : α → Call β}
    (first : call.Leaves client between n world)
    (failed : ∀ fault world, between (.error fault) world → ends (.error fault) world)
    (rest : ∀ value m world, between (.ok value) world → (after value).Leaves client ends m world) :
    (call.andThen after).Leaves client ends n world := by
  refine first.bind fun answer m world met => ?_
  cases answer with
  | ok value => exact rest value m world met
  | error fault => exact failed fault world met

theorem Leaves.mapOk {between : Except Error α → World Tables → Prop}
    {ends : Except Error β → World Tables → Prop} {call : Call α} {f : α → β}
    (first : call.Leaves client between n world)
    (met : ∀ answer world, between answer world → ends (answer.map f) world) :
    (call.mapOk f).Leaves client ends n world :=
  first.bind fun answer _ world => met answer world

end Program

/-! ## What a call finds and leaves -/

/-- What the tables hold and what observers have been told. -/
structure World.Holds {Tables : Type} (world : World Tables) (tables : Tables)
    (ledger : List (Entity × Entity)) : Prop where
  tables : world.store.tables = tables
  ledger : world.ledger = ledger

section Requests

variable {client : Client} {n : Nat} {world : World Tables} {tables : Tables}
  {ledger : List (Entity × Entity)} {ends : α → World Tables → Prop}

/-- A request that writes nothing and tells nobody. -/
theorem Program.Leaves.ask {request : Request} {next : request.Reply → Program α}
    (holds : world.Holds tables ledger)
    (idle : ∀ world : World Tables, (world.answer request).2.store.tables = world.store.tables ∧
      (world.answer request).2.ledger = world.ledger)
    (rest : ∀ world', world'.Holds tables ledger →
      (next ((world.seenBy client n).answer request).1).Leaves client ends (n + 1) world') :
    (Program.ask request next).Leaves client ends n world := by
  obtain ⟨sameTables, sameLedger⟩ := idle (world.seenBy client n)
  exact rest _ ⟨sameTables.trans holds.tables, sameLedger.trans holds.ledger⟩

theorem Program.Leaves.readClock {next : Time.Instant → Program α}
    (holds : world.Holds tables ledger)
    (rest : ∀ world', world'.Holds tables ledger →
      (next (client.times n)).Leaves client ends (n + 1) world') :
    (Program.ask .readClock next).Leaves client ends n world :=
  .ask holds (fun _ => ⟨rfl, rfl⟩) rest

theorem Program.Leaves.newId {next : EntityId → Program α} (holds : world.Holds tables ledger)
    (rest : ∀ world', world'.Holds tables ledger →
      (next client.id).Leaves client ends (n + 1) world') :
    (Program.ask .newId next).Leaves client ends n world :=
  .ask holds (fun _ => ⟨rfl, rfl⟩) rest

theorem Program.Leaves.find {owner : Owner} {key : String}
    {next : Except Error (Option Entity) → Program α} (holds : world.Holds tables ledger)
    (rest : ∀ world', world'.Holds tables ledger →
      (next (Storage.find tables owner key)).Leaves client ends (n + 1) world') :
    (Program.ask (.find owner key) next).Leaves client ends n world := by
  refine .ask holds (fun _ => ⟨rfl, rfl⟩) fun world' after => ?_
  have reply : ((world.seenBy client n).answer (.find owner key)).1 =
      Storage.find tables owner key := congrArg (Storage.find · owner key) holds.tables
  rw [reply]
  exact rest world' after

theorem Program.Leaves.load {id : EntityId} {next : Except Error (Option Entity) → Program α}
    (holds : world.Holds tables ledger)
    (rest : ∀ world', world'.Holds tables ledger →
      (next (Storage.get tables id)).Leaves client ends (n + 1) world') :
    (Program.ask (.load id) next).Leaves client ends n world := by
  refine .ask holds (fun _ => ⟨rfl, rfl⟩) fun world' after => ?_
  have reply : ((world.seenBy client n).answer (.load id)).1 = Storage.get tables id :=
    congrArg (Storage.get · id) holds.tables
  rw [reply]
  exact rest world' after

theorem load_leaves (holds : world.Holds tables ledger) (owner : Owner) (id : EntityId) :
    (Service.load owner id).Leaves client (fun answer after => after.Holds tables ledger ∧
      ∀ e, answer = .ok e → Storage.get tables id = .ok (some e) ∧ e.owner = owner) n world := by
  refine .load holds fun after same => ?_
  cases got : Storage.get tables id with
  | error fault => exact ⟨same, fun _ done => by cases done⟩
  | ok found =>
    refine ⟨same, fun e done => ?_⟩
    obtain ⟨rfl, own⟩ := Entity.forOwner_eq_ok_iff.1 done
    exact ⟨rfl, own⟩

end Requests

end Service

end TenantWork
