import TenantWork.Proofs.Schedule.Snapshots
/-!
Two systems side by side. Systems that differ only in their stores stay alike under every schedule,
as long as their stores answer every request in the same way.
-/
namespace TenantWork.Service

open Store (Storage)

/-- Worlds that differ at most in their stores. -/
structure World.Alike {α β : Type} (a : World α) (b : World β) : Prop where
  clock : a.clock = b.clock
  entityIds : a.entityIds = b.entityIds
  created : a.created = b.created
  executors : a.executors = b.executors
  calls : a.calls = b.calls
  waiting : a.waiting = b.waiting
  ledger : a.ledger = b.ledger

/-- The reply of a store, if the request is for it. -/
def Request.storeReply? {Tables : Type} [Storage Tables] (store : Store Tables) :
    (request : Request) → Option request.Reply
  | .find owner key => some (store.find owner key)
  | .load id => some (store.get id)
  | .list owner filter => some (store.list owner filter)
  | .insert e => some (store.insert e).1
  | .save e => some (store.save e).1
  | .delete id => some (store.delete id).1
  | _ => none

namespace World.Alike

variable {α β γ : Type} {a : World α} {b : World β} {c : World γ}

theorem trans (first : a.Alike b) (second : b.Alike c) : a.Alike c :=
  ⟨first.clock.trans second.clock, first.entityIds.trans second.entityIds,
    first.created.trans second.created, first.executors.trans second.executors,
    first.calls.trans second.calls, first.waiting.trans second.waiting,
    first.ledger.trans second.ledger⟩

theorem seenBy (alike : a.Alike b) (client : Client) (n : Nat) :
    (a.seenBy client n).Alike (b.seenBy client n) :=
  ⟨rfl, rfl, alike.created, alike.executors, alike.calls, alike.waiting, alike.ledger⟩

theorem reserve (alike : a.Alike b) (name : String) (e : Entity) :
    (a.reserve name e).1 = (b.reserve name e).1 ∧
      (a.reserve name e).2.Alike (b.reserve name e).2 := by
  obtain ⟨storeA, _, _, _, _, _, _, _⟩ := a
  obtain ⟨storeB, _, _, _, _, _, _, _⟩ := b
  obtain ⟨rfl, rfl, rfl, rfl, rfl, rfl, rfl⟩ := alike
  exact ⟨rfl, rfl, rfl, rfl, rfl, rfl, rfl, rfl⟩

theorem start (alike : a.Alike b) (name : String) (e : Entity) (dispatch : String) :
    (a.start name e dispatch).1 = (b.start name e dispatch).1 ∧
      (a.start name e dispatch).2.Alike (b.start name e dispatch).2 := by
  obtain ⟨storeA, _, _, _, _, _, _, _⟩ := a
  obtain ⟨storeB, _, _, _, _, _, _, _⟩ := b
  obtain ⟨rfl, rfl, rfl, rfl, rfl, rfl, rfl⟩ := alike
  simp only [World.start, World.executor?]
  split
  · exact ⟨rfl, rfl, rfl, rfl, rfl, rfl, rfl, rfl⟩
  · exact ⟨rfl, rfl, rfl, rfl, rfl, rfl, rfl, rfl⟩

variable [Storage α] [Storage β]

theorem answer (alike : a.Alike b) (request : Request)
    (same : request.storeReply? a.store = request.storeReply? b.store) :
    (a.answer request).1 = (b.answer request).1 ∧
      (a.answer request).2.Alike (b.answer request).2 := by
  cases request with
  | reserve name e => exact alike.reserve name e
  | start name e dispatch => exact alike.start name e dispatch
  | readClock | newId | observe =>
    obtain ⟨storeA, _, _, _, _, _, _, _⟩ := a
    obtain ⟨storeB, _, _, _, _, _, _, _⟩ := b
    obtain ⟨rfl, rfl, rfl, rfl, rfl, rfl, rfl⟩ := alike
    exact ⟨rfl, rfl, rfl, rfl, rfl, rfl, rfl, rfl⟩
  | _ =>
    exact ⟨Option.some.inj same, alike.clock, alike.entityIds, alike.created, alike.executors,
      alike.calls, alike.waiting, alike.ledger⟩

end World.Alike

namespace System

/-- Systems that differ at most in their stores. -/
structure Alike {α β : Type} (a : System α) (b : System β) : Prop where
  world : a.world.Alike b.world
  threads : a.threads = b.threads
  trace : a.trace = b.trace

variable {α β γ : Type}

theorem Alike.trans {a : System α} {b : System β} {c : System γ} (first : a.Alike b)
    (second : b.Alike c) : a.Alike c :=
  ⟨first.world.trans second.world, first.threads.trans second.threads,
    first.trace.trans second.trace⟩

theorem alike_start (service : Service) (clients : List Client) {a : World α} {b : World β}
    (alike : a.Alike b) : (start service clients a).Alike (start service clients b) :=
  ⟨alike, rfl, rfl⟩

variable [Storage α] [Storage β] {a : System α} {b : System β}

theorem Alike.serve (alike : a.Alike b) (i : Nat) (client : Client) (past : List Exchange)
    (stage : Stage) (request : Request)
    (next : request.Reply → Script (Except Error Answer))
    (same : request.storeReply? a.world.store = request.storeReply? b.world.store) :
    (a.serve i client past stage request next).Alike (b.serve i client past stage request next) := by
  obtain ⟨replies, worlds⟩ := (alike.world.seenBy client past.length).answer request same
  have replied : (a.reply client past request).1 = (b.reply client past request).1 := replies
  refine ⟨worlds, ?_, ?_⟩
  · simp only [System.serve, replied, alike.threads]
  · simp only [System.serve, replied, alike.trace]

/-- Systems stay alike while a relation of their stores makes these answer in the same way and
holds again afterwards. -/
theorem Alike.run (related : Store α → Store β → Prop) (schedule : List Nat) {a : System α}
    {b : System β} (alike : a.Alike b) (begun : related a.world.store b.world.store)
    (kept : ∀ earlier i later client past stage request next, schedule = earlier ++ i :: later →
      (a.run earlier).Alike (b.run earlier) →
      related (a.run earlier).world.store (b.run earlier).world.store →
      (b.run earlier).threads[i]? = some ⟨client, past, .ask stage request next⟩ →
        request.storeReply? (a.run earlier).world.store =
          request.storeReply? (b.run earlier).world.store ∧
        related (request.storeAfter (a.run earlier).world.store)
          (request.storeAfter (b.run earlier).world.store)) :
    (a.run schedule).Alike (b.run schedule) ∧
      related (a.run schedule).world.store (b.run schedule).world.store := by
  induction schedule generalizing a b with
  | nil => exact ⟨alike, begun⟩
  | cons i rest ih =>
    have stepped : (a.step i).Alike (b.step i) ∧
        related (a.step i).world.store (b.step i).world.store := by
      rw [step, step, alike.threads]
      split
      next client past stage request next found =>
        obtain ⟨same, after⟩ := kept [] i rest client past stage request next rfl alike begun found
        refine ⟨alike.serve i client past stage request next same, ?_⟩
        rw [serve_world, serve_world, reply_store, reply_store]
        exact after
      next => exact ⟨alike, begun⟩
    refine ih stepped.1 stepped.2 ?_
    intro earlier j later client past stage request next split
    exact kept (i :: earlier) j later client past stage request next (by rw [split]; rfl)

end System

end TenantWork.Service
