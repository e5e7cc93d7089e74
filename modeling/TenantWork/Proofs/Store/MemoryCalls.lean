import TenantWork.Store.Memory
/-!
What each call on a store in memory can do, said once. A call that writes either leaves both tables
alone or changes them in the one way stated here, and an update goes through only on the snapshot
it was made from: same id, same owner, same revision.
-/
namespace TenantWork

namespace Store

/-! ## The gate -/

/-- A gate that lets every write pass. -/
def Gate.Open (gate : Gate) : Prop := ∀ calls call, gate.rule calls call = .ok ()

theorem commit_ready {Tables α : Type} (store : Store Tables) (call : WriteCall) (tables : Tables)
    (answer : α) :
    (store.gate.rule store.gate.calls call = .ok () ∧
      store.commit (.ready call tables answer) =
        (.ok answer, ⟨tables, { store.gate with calls := call :: store.gate.calls }⟩)) ∨
    ∃ fault, store.gate.rule store.gate.calls call = .error fault ∧
      store.commit (.ready call tables answer) =
        (.error fault, ⟨store.tables, { store.gate with calls := call :: store.gate.calls }⟩) := by
  cases verdict : store.gate.rule store.gate.calls call with
  | ok passed =>
    left
    exact ⟨rfl, by simp only [commit, Gate.ask, verdict]⟩
  | error fault =>
    right
    exact ⟨fault, rfl, by simp only [commit, Gate.ask, verdict]⟩

theorem commit_rule {Tables α : Type} (store : Store Tables) (staged : Staged Tables α) :
    (store.commit staged).2.gate.rule = store.gate.rule := by
  cases staged with
  | refused fault => rfl
  | answered answer => rfl
  | ready call tables answer =>
    obtain ⟨_, passed⟩ | ⟨fault, _, refused⟩ := store.commit_ready call tables answer
    · rw [passed]
    · rw [refused]

theorem commit_calls {Tables α : Type} (store : Store Tables) (staged : Staged Tables α) :
    store.gate.calls <:+ (store.commit staged).2.gate.calls := by
  cases staged with
  | refused fault => exact List.suffix_rfl
  | answered answer => exact List.suffix_rfl
  | ready call tables answer =>
    obtain ⟨_, passed⟩ | ⟨fault, _, refused⟩ := store.commit_ready call tables answer
    · rw [passed]
      exact List.suffix_cons _ _
    · rw [refused]
      exact List.suffix_cons _ _

/-- Behind open gates only the tables count. -/
theorem commit_open {Tables α : Type} {a b : Store Tables} (openA : a.gate.Open)
    (openB : b.gate.Open) (same : a.tables = b.tables) (staged : Staged Tables α) :
    (a.commit staged).1 = (b.commit staged).1 ∧
      (a.commit staged).2.tables = (b.commit staged).2.tables := by
  cases staged with
  | refused fault => exact ⟨rfl, same⟩
  | answered answer => exact ⟨rfl, same⟩
  | ready call tables answer => simp only [commit, Gate.ask, openA _ call, openB _ call, and_self]

/-- The stores that calls lead to from an empty one. -/
inductive Reached {Tables : Type} [Storage Tables] : Store Tables → Prop where
  | new (gate : Gate) : Reached (Store.new gate)
  | insert {store : Store Tables} (before : Reached store) (e : Entity) : Reached (store.insert e).2
  | save {store : Store Tables} (before : Reached store) (e : Entity) : Reached (store.save e).2
  | delete {store : Store Tables} (before : Reached store) (id : EntityId) :
    Reached (store.delete id).2

end Store

namespace Store.Memory

/-! ## The tables -/

@[simp] theorem get_put (memory : Memory) (e : Entity) (id : EntityId) :
    (memory.put e).get id = if id = e.id then some e else memory.get id :=
  Table.find?_insert _ _ _ _

@[simp] theorem get_claim (memory : Memory) (e : Entity) (id : EntityId) :
    (memory.claim e).get id = memory.get id := by
  unfold claim
  split <;> rfl

@[simp] theorem get_release (memory : Memory) (e : Entity) (id : EntityId) :
    (memory.release e).get id = memory.get id := by
  unfold release
  split <;> rfl

@[simp] theorem get_remove (memory : Memory) (id other : EntityId) :
    (memory.remove id).get other = if other = id then none else memory.get other :=
  Table.find?_erase _ _ _

@[simp] theorem keys_put (memory : Memory) (e : Entity) : (memory.put e).keys = memory.keys := rfl

@[simp] theorem keys_remove (memory : Memory) (id : EntityId) :
    (memory.remove id).keys = memory.keys := rfl

theorem find_keys_claim (memory : Memory) (e : Entity) (owner : Owner) (key : String) :
    (memory.claim e).keys.find? (owner, key) =
      if owner = e.owner ∧ e.key = some key then some e.id
      else memory.keys.find? (owner, key) := by
  unfold claim
  cases held : e.key with
  | none => simp
  | some own => simp only [Table.find?_insert, Prod.mk.injEq, Option.some.injEq, eq_comm]

theorem find_keys_release (memory : Memory) (e : Entity) (owner : Owner) (key : String) :
    (memory.release e).keys.find? (owner, key) =
      if owner = e.owner ∧ e.key = some key then none
      else memory.keys.find? (owner, key) := by
  unfold release
  cases held : e.key with
  | none => simp
  | some own => simp only [Table.find?_erase, Prod.mk.injEq, Option.some.injEq, eq_comm]

/-! ## The calls -/

theorem insert_cases (store : Store Memory) (e : Entity) :
    (∃ fault, (store.insert e).1 = .error fault ∧ (store.insert e).2.tables = store.tables) ∨
    (∃ held, store.tables.holder e = some held ∧
      store.insert e = (.ok (.existing held), store)) ∨
    (store.tables.holder e = none ∧ store.tables.get e.id = none ∧
      (store.insert e).1 = .ok (.inserted e) ∧
      (store.insert e).2.tables = (store.tables.put e).claim e) := by
  cases held : store.tables.holder e with
  | some existing =>
    right; left
    exact ⟨existing, rfl, by simp only [Store.insert, Storage.stageInsert, stageInsert, held, commit]⟩
  | none =>
    cases taken : store.tables.get e.id with
    | some other =>
      left
      refine ⟨.databaseQuery (.duplicateId e.id.text), ?_, ?_⟩ <;>
        simp [Store.insert, Storage.stageInsert, stageInsert, held, taken, commit]
    | none =>
      have staged : Storage.stageInsert store.tables e =
          .ready ⟨.insert, e⟩ ((store.tables.put e).claim e) (.inserted e) := by
        simp [Storage.stageInsert, stageInsert, held, taken]
      rw [Store.insert, staged]
      obtain ⟨_, passed⟩ | ⟨fault, _, refused⟩ :=
        store.commit_ready ⟨.insert, e⟩ ((store.tables.put e).claim e) (Insertion.inserted e)
      · right; right
        exact ⟨rfl, rfl, by rw [passed], by rw [passed]⟩
      · left
        exact ⟨fault, by rw [refused], by rw [refused]⟩

theorem save_cases (store : Store Memory) (e : Entity) :
    (∃ fault, (store.save e).1 = .error fault ∧ (store.save e).2.tables = store.tables) ∨
    ∃ stored, store.tables.get e.id = some stored ∧ stored.owner = e.owner ∧
      stored.revision = e.revision ∧ (store.save e).1 = .ok e.bumped ∧
      (store.save e).2.tables = store.tables.put e.bumped := by
  cases found : store.tables.get e.id with
  | none =>
    left
    refine ⟨.notFound e.id.text, ?_, ?_⟩ <;>
      simp [Store.save, Storage.stageSave, stageSave, found, commit]
  | some stored =>
    by_cases owned : stored.owner = e.owner
    · by_cases current : stored.revision = e.revision
      · have staged : Storage.stageSave store.tables e =
            .ready ⟨.update, e.bumped⟩ (store.tables.put e.bumped) e.bumped := by
          simp [Storage.stageSave, stageSave, found, owned, current]
        rw [Store.save, staged]
        obtain ⟨_, passed⟩ | ⟨fault, _, refused⟩ :=
          store.commit_ready ⟨.update, e.bumped⟩ (store.tables.put e.bumped) e.bumped
        · right
          exact ⟨stored, rfl, owned, current, by rw [passed], by rw [passed]⟩
        · left
          exact ⟨fault, by rw [refused], by rw [refused]⟩
      · left
        refine ⟨.invalidTransition stored.status e.status, ?_, ?_⟩ <;>
          simp [Store.save, Storage.stageSave, stageSave, found, owned, current, commit]
    · left
      refine ⟨.notFound e.id.text, ?_, ?_⟩ <;>
        simp [Store.save, Storage.stageSave, stageSave, found, owned, commit]

theorem delete_cases (store : Store Memory) (id : EntityId) :
    (∃ fault, (store.delete id).1 = .error fault ∧ (store.delete id).2.tables = store.tables) ∨
    (store.tables.get id = none ∧ store.delete id = (.ok false, store)) ∨
    ∃ e, store.tables.get id = some e ∧ (store.delete id).1 = .ok true ∧
      (store.delete id).2.tables = (store.tables.remove id).release e := by
  cases found : store.tables.get id with
  | none =>
    right; left
    exact ⟨rfl, by simp only [Store.delete, Storage.stageDelete, stageDelete, found, commit]⟩
  | some e =>
    have staged : Storage.stageDelete store.tables id =
        .ready ⟨.delete, e⟩ ((store.tables.remove id).release e) true := by
      simp only [Storage.stageDelete, stageDelete, found]
    rw [Store.delete, staged]
    obtain ⟨_, passed⟩ | ⟨fault, _, refused⟩ :=
      store.commit_ready ⟨.delete, e⟩ ((store.tables.remove id).release e) true
    · right; right
      exact ⟨e, rfl, by rw [passed], by rw [passed]⟩
    · left
      exact ⟨fault, by rw [refused], by rw [refused]⟩

/-! ## Entities under their own ids -/

/-- Every entity is stored under its own id. -/
def Filed (memory : Memory) : Prop := ∀ id e, memory.get id = some e → e.id = id

theorem filed_empty : Filed empty := by
  intro id e found
  cases found

theorem Filed.put {memory : Memory} (filed : memory.Filed) (e : Entity) : (memory.put e).Filed := by
  intro id stored found
  rw [get_put] at found
  split at found
  next own => rw [← Option.some.inj found, own]
  next => exact filed id stored found

theorem Filed.remove {memory : Memory} (filed : memory.Filed) (id : EntityId) :
    (memory.remove id).Filed := by
  intro other stored found
  rw [get_remove] at found
  split at found
  · cases found
  · exact filed other stored found

theorem Filed.insert {store : Store Memory} (filed : store.tables.Filed) (e : Entity) :
    (store.insert e).2.tables.Filed := by
  obtain ⟨_, _, same⟩ | ⟨_, _, same⟩ | ⟨_, _, _, changed⟩ := insert_cases store e
  · rwa [same]
  · rwa [same]
  · rw [changed]
    intro id stored found
    rw [get_claim] at found
    exact filed.put e id stored found

theorem Filed.save {store : Store Memory} (filed : store.tables.Filed) (e : Entity) :
    (store.save e).2.tables.Filed := by
  obtain ⟨_, _, same⟩ | ⟨_, _, _, _, _, changed⟩ := save_cases store e
  · rwa [same]
  · rw [changed]
    exact filed.put e.bumped

theorem Filed.delete {store : Store Memory} (filed : store.tables.Filed) (id : EntityId) :
    (store.delete id).2.tables.Filed := by
  obtain ⟨_, _, same⟩ | ⟨_, same⟩ | ⟨e, _, _, changed⟩ := delete_cases store id
  · rwa [same]
  · rwa [same]
  · rw [changed]
    intro other stored found
    rw [get_release] at found
    exact filed.remove id other stored found

theorem filed_of_reached {store : Store Memory} (reached : store.Reached) :
    store.tables.Filed := by
  induction reached with
  | new gate => exact filed_empty
  | insert before e ih => exact ih.insert e
  | save before e ih => exact ih.save e
  | delete before id ih => exact ih.delete id

end Store.Memory

end TenantWork
