import TenantWork.Proofs.Store.MemoryCalls
/-!
The keys of the store in memory. The table of keys says of an owner's key which entity carries it,
and nothing else; every call keeps it so, as long as an update leaves the key of its entity alone.
-/
namespace TenantWork.Store.Memory

/-- The keys lead to exactly the entities that carry them. -/
structure Indexed (memory : Memory) : Prop where
  filed : memory.Filed
  index : ∀ owner key id, memory.keys.find? (owner, key) = some id ↔
    ∃ e, memory.get id = some e ∧ e.owner = owner ∧ e.key = some key

theorem indexed_empty : Indexed empty := by
  refine ⟨filed_empty, fun owner key id => ?_⟩
  constructor
  · intro found
    cases found
  · rintro ⟨e, found, _⟩
    cases found

theorem Indexed.find_iff {memory : Memory} (indexed : memory.Indexed) {owner : Owner}
    {key : String} {e : Entity} :
    memory.find owner key = some e ↔
      memory.get e.id = some e ∧ e.owner = owner ∧ e.key = some key := by
  unfold find
  constructor
  · intro found
    obtain ⟨id, listed, stored⟩ := Option.bind_eq_some_iff.1 found
    obtain ⟨held, there, owned, carries⟩ := (indexed.index owner key id).1 listed
    obtain rfl : held = e := Option.some.inj (there.symm.trans stored)
    rw [indexed.filed id held stored]
    exact ⟨stored, owned, carries⟩
  · rintro ⟨stored, owned, carries⟩
    have listed := (indexed.index owner key e.id).2 ⟨e, stored, owned, carries⟩
    rw [listed]
    exact stored

theorem Indexed.holder_iff {memory : Memory} (indexed : memory.Indexed) {e held : Entity} :
    memory.holder e = some held ↔
      ∃ key, e.key = some key ∧ memory.get held.id = some held ∧ held.owner = e.owner ∧
        held.key = some key := by
  unfold holder
  constructor
  · intro found
    obtain ⟨key, carries, found⟩ := Option.bind_eq_some_iff.1 found
    exact ⟨key, carries, indexed.find_iff.1 found⟩
  · rintro ⟨key, carries, found⟩
    rw [carries]
    exact indexed.find_iff.2 found

theorem Indexed.unlisted {memory : Memory} (indexed : memory.Indexed) {owner : Owner}
    {key : String} (missing : memory.find owner key = none) :
    memory.keys.find? (owner, key) = none := by
  cases listed : memory.keys.find? (owner, key) with
  | none => rfl
  | some id =>
    obtain ⟨e, stored, _⟩ := (indexed.index owner key id).1 listed
    rw [find, listed, Option.bind_some, stored] at missing
    cases missing

/-- One key never stands for two entities. -/
theorem Indexed.single {memory : Memory} (indexed : memory.Indexed) {a b : Entity} {key : String}
    (storedA : memory.get a.id = some a) (storedB : memory.get b.id = some b)
    (owners : a.owner = b.owner) (keyA : a.key = some key) (keyB : b.key = some key) : a = b := by
  have foundA := indexed.find_iff.2 ⟨storedA, owners, keyA⟩
  have foundB := indexed.find_iff.2 ⟨storedB, rfl, keyB⟩
  exact Option.some.inj (foundA.symm.trans foundB)

theorem Indexed.insert {store : Store Memory} (indexed : store.tables.Indexed) (e : Entity) :
    (store.insert e).2.tables.Indexed := by
  refine ⟨indexed.filed.insert e, fun owner key id => ?_⟩
  obtain ⟨_, _, same⟩ | ⟨_, _, same⟩ | ⟨free, fresh, _, changed⟩ := insert_cases store e
  · rw [same]
    exact indexed.index owner key id
  · rw [same]
    exact indexed.index owner key id
  rw [changed, find_keys_claim, get_claim, get_put, keys_put]
  by_cases here : id = e.id
  · rw [here, if_pos rfl]
    constructor
    · intro found
      split at found
      next own => exact ⟨e, rfl, own.1.symm, own.2⟩
      next =>
        obtain ⟨other, stored, _⟩ := (indexed.index owner key e.id).1 found
        rw [fresh] at stored
        cases stored
    · rintro ⟨other, same, owned, carries⟩
      obtain rfl := Option.some.inj same
      rw [if_pos ⟨owned.symm, carries⟩]
  · rw [if_neg here, ← indexed.index owner key id]
    by_cases own : owner = e.owner ∧ e.key = some key
    · rw [if_pos own]
      have unused : store.tables.keys.find? (owner, key) ≠ some id := by
        intro listed
        obtain ⟨held, stored, owned, carries⟩ := (indexed.index owner key id).1 listed
        have filed := indexed.filed id held stored
        have holds : store.tables.holder e = some held :=
          indexed.holder_iff.2 ⟨key, own.2, by rwa [filed], owned.trans own.1, carries⟩
        rw [free] at holds
        cases holds
      constructor
      · intro same
        exact absurd (Option.some.inj same).symm here
      · intro listed
        exact absurd listed unused
    · rw [if_neg own]

theorem Indexed.save {store : Store Memory} (indexed : store.tables.Indexed) {e : Entity}
    (kept : ∀ stored, store.tables.get e.id = some stored → stored.revision = e.revision →
      stored.key = e.key) :
    (store.save e).2.tables.Indexed := by
  refine ⟨indexed.filed.save e, fun owner key id => ?_⟩
  obtain ⟨_, _, same⟩ | ⟨stored, there, owned, current, _, changed⟩ := save_cases store e
  · rw [same]
    exact indexed.index owner key id
  rw [changed, get_put, keys_put, indexed.index owner key id]
  by_cases here : id = e.bumped.id
  · rw [if_pos here, here]
    have same : stored.key = e.key := kept stored there current
    constructor
    · rintro ⟨found, same', owner', key'⟩
      obtain rfl : stored = found := Option.some.inj (there.symm.trans same')
      exact ⟨e.bumped, rfl, owned.symm.trans owner', same.symm.trans key'⟩
    · rintro ⟨found, same', owner', key'⟩
      obtain rfl := Option.some.inj same'
      exact ⟨stored, there, owned.trans owner', same.trans key'⟩
  · rw [if_neg here]

theorem Indexed.delete {store : Store Memory} (indexed : store.tables.Indexed) (gone : EntityId) :
    (store.delete gone).2.tables.Indexed := by
  refine ⟨indexed.filed.delete gone, fun owner key id => ?_⟩
  obtain ⟨_, _, same⟩ | ⟨_, same⟩ | ⟨e, there, _, changed⟩ := delete_cases store gone
  · rw [same]
    exact indexed.index owner key id
  · rw [same]
    exact indexed.index owner key id
  rw [changed, find_keys_release, get_release, get_remove, keys_remove]
  have filed := indexed.filed gone e there
  by_cases own : owner = e.owner ∧ e.key = some key
  · rw [if_pos own]
    constructor
    · intro found
      cases found
    · rintro ⟨other, stored, owned, carries⟩
      split at stored
      next => cases stored
      next elsewhere =>
        have place := indexed.filed id other stored
        obtain rfl : other = e := by
          refine indexed.single ?_ ?_ (owned.trans own.1) carries own.2
          · rwa [place]
          · rwa [filed]
        exact absurd (place.symm.trans filed) elsewhere
  · rw [if_neg own, indexed.index owner key id]
    by_cases here : id = gone
    · rw [if_pos here, here]
      constructor
      · rintro ⟨other, stored, owned, carries⟩
        obtain rfl : e = other := Option.some.inj (there.symm.trans stored)
        exact absurd ⟨owned.symm, carries⟩ own
      · rintro ⟨other, stored, _⟩
        cases stored
    · rw [if_neg here]

end TenantWork.Store.Memory
