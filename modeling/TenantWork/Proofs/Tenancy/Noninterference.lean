import TenantWork.Proofs.Tenancy.Calls
import TenantWork.Proofs.Tenancy.DatabaseParts
import TenantWork.Proofs.Tenancy.MemoryParts
/-!
Tenants do not interfere. Whatever others have in a store, the calls of a tenant go the same way
and do the same to what the tenant has; and whatever the tenant calls, others keep what they have.
-/
namespace TenantWork.Service

open Store (Storage Memory Database Parts)

/-- Two runs of the same calls that show no difference, and that leave alone what is kept. -/
structure Undisturbed {Tables : Type} [Storage Tables] (same kept : Tables → Tables → Prop)
    (service : Service) (clients : List Client) (a b : World Tables) : Prop where
  answers : (serveAll service clients a).1 = (serveAll service clients b).1
  gateCalls : (serveAll service clients a).2.store.gate.calls =
    (serveAll service clients b).2.store.gate.calls
  ledger : (serveAll service clients a).2.ledger = (serveAll service clients b).2.ledger
  executorCalls : (serveAll service clients a).2.calls = (serveAll service clients b).2.calls
  waiting : (serveAll service clients a).2.waiting = (serveAll service clients b).2.waiting
  same : same (serveAll service clients a).2.store.tables (serveAll service clients b).2.store.tables
  left : kept a.store.tables (serveAll service clients a).2.store.tables
  right : kept b.store.tables (serveAll service clients b).2.store.tables

theorem Undisturbed.of_separate {Tables : Type} [Storage Tables] {parts : Parts Tables}
    {tenant : Owner} (separate : parts.Separate tenant) (service : Service)
    {clients : List Client} (own : ∀ client ∈ clients, client.operation.tenant? = some tenant)
    (distinct : (clients.map Client.id).Nodup) {a b : World Tables} (alike : a.Alike b)
    (gates : a.store.gate = b.store.gate) (agree : parts.Agree a.store.tables b.store.tables)
    (unused : ∀ client ∈ clients, parts.Unused a.store.tables client.id ∧
      parts.Unused b.store.tables client.id) :
    Undisturbed parts.Agree parts.Keeps service clients a b := by
  have beside : a.Beside parts (a.store.tables, b.store.tables) (clients.map Client.id) b := by
    refine ⟨alike, gates, agree, separate.refl _, separate.refl _, fun id inside => ?_⟩
    obtain ⟨client, there, rfl⟩ := List.mem_map.1 inside
    exact unused client there
  obtain ⟨answers, after⟩ := serveAll_beside separate service clients own distinct beside
  exact ⟨answers, congrArg Store.Gate.calls after.store.gate, after.alike.ledger,
    after.alike.calls, after.alike.waiting, after.store.agree, after.store.left, after.store.right⟩

/-- Tenants do not interfere. Let two stores of one kind hold the same of a tenant and anything of
others, and let the clients be any sequence of the tenant's calls, whatever ids they name. All
answers are the same on both sides, and so are all that the gate, the observers and the executors
hear of and what the tenant has in the end; of what others have, nothing is changed, removed or
added. -/
theorem tenants_do_not_interfere (service : Service) (tenant : Owner) (clients : List Client)
    (own : ∀ client ∈ clients, client.operation.tenant? = some tenant)
    (distinct : (clients.map Client.id).Nodup) :
    (∀ a b : World Memory, a.Alike b → a.store.gate = b.store.gate →
      a.store.tables.Indexed → b.store.tables.Indexed →
      a.store.tables.SameOf (· = tenant) b.store.tables →
      (∀ client ∈ clients, a.store.tables.get client.id = none ∧
        b.store.tables.get client.id = none) →
      Undisturbed (Memory.SameOf (· = tenant)) (Memory.SameOf (· ≠ tenant)) service clients a b) ∧
    ∀ a b : World Database, a.Alike b → a.store.gate = b.store.gate →
      a.store.tables.Legible → b.store.tables.Legible →
      a.store.tables.Indexed → b.store.tables.Indexed →
      a.store.tables.SameOf (· = .text tenant.name) b.store.tables →
      (∀ client ∈ clients, a.store.tables.Unused client.id ∧ b.store.tables.Unused client.id) →
      Undisturbed (Database.SameOf (· = .text tenant.name)) (Database.SameOf (· ≠ .text tenant.name))
        service clients a b := by
  constructor
  · intro a b alike gates indexedA indexedB same unused
    have runs := Undisturbed.of_separate (Memory.separate tenant) service own distinct alike gates
      ⟨same, indexedA.tidy, indexedB.tidy⟩ unused
    exact { runs with same := runs.same.1 }
  · intro a b alike gates legibleA legibleB indexedA indexedB same unused
    have runs := Undisturbed.of_separate (Database.separate tenant) service own distinct alike gates
      ⟨same, legibleA.tidy indexedA, legibleB.tidy indexedB⟩ unused
    exact { runs with same := runs.same.1 }

/-- The rival holds an entity and a key in one store only; a tenant names both. -/
theorem tenants_do_not_interfere_over_foreign_id :
    let acme : Owner := ⟨"acme", by decide⟩
    let rival : Owner := ⟨"rival", by decide⟩
    let service : Service := ⟨.default, [], List.nodup_nil, nofun⟩
    let mine := Entity.create ⟨"m"⟩ acme .job .null (some "nightly") .epoch
    let foreign := Entity.create ⟨"x"⟩ rival .job .null (some "weekly") .epoch
    let clients : List Client := [
      ⟨.cancel acme ⟨"x"⟩, ⟨"a"⟩, fun _ => .epoch⟩,
      ⟨.delete acme ⟨"x"⟩, ⟨"b"⟩, fun _ => .epoch⟩,
      ⟨.submit acme .job .null (some "weekly"), ⟨"c"⟩, fun _ => .epoch⟩,
      ⟨.cancel acme ⟨"m"⟩, ⟨"d"⟩, fun _ => .epoch⟩,
      ⟨.list acme .all, ⟨"e"⟩, fun _ => .epoch⟩]
    let memory := (Memory.empty.put mine).claim mine
    let a : World Memory := .new ⟨memory, .always⟩ []
    let b : World Memory := .new ⟨(memory.put foreign).claim foreign, .always⟩ []
    let x : World Database := .new ⟨⟨[.ofEntity mine], [.of acme "nightly" ⟨"m"⟩],
      List.pairwise_singleton _ _, List.pairwise_singleton _ _⟩, .always⟩ []
    let y : World Database := .new ⟨⟨[.ofEntity mine, .ofEntity foreign],
      [.of acme "nightly" ⟨"m"⟩, .of rival "weekly" ⟨"x"⟩], by decide, by decide⟩, .always⟩ []
    (serveAll service clients b).1.map Except.isOk = [false, false, true, true, true] ∧
      Undisturbed (Memory.SameOf (· = acme)) (Memory.SameOf (· ≠ acme)) service clients a b ∧
      Undisturbed (Database.SameOf (· = .text acme.name)) (Database.SameOf (· ≠ .text acme.name))
        service clients x y := by
  intro acme rival service mine foreign clients memory a b x y
  have own : ∀ client ∈ clients, client.operation.tenant? = some acme := by
    simp [clients, Operation.tenant?]
  have distinct : (clients.map Client.id).Nodup := by decide
  have apart : rival ≠ acme := by decide
  have storable {id : EntityId} {owner : Owner} {key : Option String} :
      (Entity.create id owner .job .null key .epoch).Storable :=
    ⟨Entity.create_regular _ _ _ _ _ Time.Rfc3339.inRange_epoch, Entity.readable_of_null rfl rfl⟩
  refine ⟨by decide +kernel, ?_, ?_⟩
  · have indexed : memory.Indexed := Memory.indexed_empty.grown rfl rfl
    have unused : memory.get foreign.id = none := by decide
    have both : ((memory.put foreign).claim foreign).Indexed := indexed.grown (by decide) unused
    have same : memory.SameOf (· = acme) ((memory.put foreign).claim foreign) := by
      refine (Memory.SameOf.of_put apart fun old found => ?_).trans (.of_claim apart)
      rw [unused] at found
      cases found
    exact (tenants_do_not_interfere service acme clients own distinct).1 a b
      ⟨rfl, rfl, rfl, rfl, rfl, rfl, rfl⟩ rfl indexed both same (by decide)
  · have first : Database.Grown mine .empty x.store.tables := ⟨rfl, rfl⟩
    have second : Database.Grown foreign x.store.tables y.store.tables := ⟨rfl, rfl⟩
    have legible := first.legible Database.legible_empty storable
    have indexed := first.indexed Database.indexed_empty storable
    have same : x.store.tables.SameOf (· = .text acme.name) y.store.tables :=
      .of_grown (fun names => apart (Store.Cell.text_owner.1 names)) second
    exact (tenants_do_not_interfere service acme clients own distinct).2 x y
      ⟨rfl, rfl, rfl, rfl, rfl, rfl, rfl⟩ rfl legible (second.legible legible storable) indexed
      (second.indexed indexed storable) same (by decide)

end TenantWork.Service
