import Mathlib.Data.Set.Function
import TenantWork.Proofs.Tenancy.Separation
/-!
Places of a store in memory: an id is the place of an entity, an owner's key the place of an id. A
call reads and writes only places that it is about. In two memories that hold the same there it
gives the same reply and leaves the same there; elsewhere it leaves both as they were.
-/
namespace TenantWork

namespace Store

/-- Where a store in memory may hold something. -/
inductive Place where
  | entity (id : EntityId)
  | key (owner : Owner) (key : String)

end Store

open Store (Place)

/-- The place of the key of a snapshot, if it has one. -/
def Entity.keyPlaces (e : Entity) : Set Place :=
  {place | ∃ key, e.key = some key ∧ place = .key e.owner key}

namespace Store.Memory

/-- What lies at a place. -/
def held (memory : Memory) : Place → Option (Entity ⊕ EntityId)
  | .entity id => (memory.get id).map .inl
  | .key owner key => (memory.keys.find? (owner, key)).map .inr

section Held

variable {a b : Memory} {e : Entity} {id : EntityId} {owner : Owner} {key : String}

theorem held_entity_iff : a.held (.entity id) = b.held (.entity id) ↔ a.get id = b.get id :=
  (Option.map_injective Sum.inl_injective).eq_iff

theorem held_key_iff : a.held (.key owner key) = b.held (.key owner key) ↔
    a.keys.find? (owner, key) = b.keys.find? (owner, key) :=
  (Option.map_injective Sum.inr_injective).eq_iff

theorem key_mem_keyPlaces : .key owner key ∈ e.keyPlaces ↔ owner = e.owner ∧ e.key = some key := by
  constructor
  · rintro ⟨own, carries, same⟩
    cases same
    exact ⟨rfl, carries⟩
  · rintro ⟨rfl, carries⟩
    exact ⟨key, carries, rfl⟩

end Held

/-! ## Writes at some places -/

/-- A write that sets what lies at some places, whatever lay there, and touches nothing else. -/
structure WritesAt (places : Set Place) (write : Memory → Memory) : Prop where
  sets : ∀ a b, Set.EqOn (write a).held (write b).held places
  keeps : ∀ a, Set.EqOn (write a).held a.held placesᶜ

theorem writesAt_put (e : Entity) : WritesAt {.entity e.id} (·.put e) where
  sets a b := by
    rintro place rfl
    rw [held_entity_iff, get_put, get_put, if_pos rfl, if_pos rfl]
  keeps a := by
    intro place elsewhere
    cases place with
    | entity id =>
      rw [held_entity_iff, get_put, if_neg]
      rintro rfl
      exact elsewhere rfl
    | key owner key => rfl

theorem writesAt_remove (id : EntityId) : WritesAt {.entity id} (·.remove id) where
  sets a b := by
    rintro place rfl
    rw [held_entity_iff, get_remove, get_remove, if_pos rfl, if_pos rfl]
  keeps a := by
    intro place elsewhere
    cases place with
    | entity other =>
      rw [held_entity_iff, get_remove, if_neg]
      rintro rfl
      exact elsewhere rfl
    | key owner key => rfl

theorem writesAt_claim (e : Entity) : WritesAt e.keyPlaces (·.claim e) where
  sets a b := by
    rintro place ⟨key, carries, rfl⟩
    rw [held_key_iff, find_keys_claim, find_keys_claim, if_pos ⟨rfl, carries⟩,
      if_pos ⟨rfl, carries⟩]
  keeps a := by
    intro place elsewhere
    cases place with
    | entity id => rw [held_entity_iff, get_claim]
    | key owner key =>
      rw [held_key_iff, find_keys_claim, if_neg fun own => elsewhere (key_mem_keyPlaces.2 own)]

theorem writesAt_release (e : Entity) : WritesAt e.keyPlaces (·.release e) where
  sets a b := by
    rintro place ⟨key, carries, rfl⟩
    rw [held_key_iff, find_keys_release, find_keys_release, if_pos ⟨rfl, carries⟩,
      if_pos ⟨rfl, carries⟩]
  keeps a := by
    intro place elsewhere
    cases place with
    | entity id => rw [held_entity_iff, get_release]
    | key owner key =>
      rw [held_key_iff, find_keys_release, if_neg fun own => elsewhere (key_mem_keyPlaces.2 own)]

/-! ## Two memories changed alike in a region -/

/-- Two memories have come from two others by changes in a region, and hold the same there. -/
structure Confined (region : Set Place) (left right a b : Memory) : Prop where
  alike : Set.EqOn a.held b.held region
  left : Set.EqOn a.held left.held regionᶜ
  right : Set.EqOn b.held right.held regionᶜ

section Confined

variable {region places : Set Place} {left right a b : Memory} {e : Entity} {id : EntityId}

theorem Confined.refl (alike : Set.EqOn a.held b.held region) : Confined region a b a b :=
  ⟨alike, fun _ _ => rfl, fun _ _ => rfl⟩

theorem Confined.get (confined : Confined region left right a b) (inside : .entity id ∈ region) :
    a.get id = b.get id := held_entity_iff.1 (confined.alike inside)

theorem Confined.write {write : Memory → Memory} (confined : Confined region left right a b)
    (writes : WritesAt places write) (inside : places ⊆ region) :
    Confined region left right (write a) (write b) where
  alike place member := by
    by_cases written : place ∈ places
    · exact writes.sets a b written
    · rw [writes.keeps a written, writes.keeps b written]
      exact confined.alike member
  left place outside :=
    (writes.keeps a fun written => outside (inside written)).trans (confined.left outside)
  right place outside :=
    (writes.keeps b fun written => outside (inside written)).trans (confined.right outside)

/-- The places at which a key is looked up: its own, and that of the entity it stands for. -/
def lookedUp (memory : Memory) (owner : Owner) (key : String) : Set Place :=
  {place | place = .key owner key ∨
    ∃ id, memory.keys.find? (owner, key) = some id ∧ place = .entity id}

theorem Confined.find {owner : Owner} {key : String} (confined : Confined region left right a b)
    (inside : a.lookedUp owner key ⊆ region) : a.find owner key = b.find owner key := by
  have listed := held_key_iff.1 (confined.alike (inside (.inl rfl)))
  rw [Memory.find, Memory.find, ← listed]
  cases bound : a.keys.find? (owner, key) with
  | none => rfl
  | some id => exact confined.get (inside (.inr ⟨id, bound, rfl⟩))

theorem Confined.holder (confined : Confined region left right a b)
    (inside : ∀ key, e.key = some key → a.lookedUp e.owner key ⊆ region) :
    a.holder e = b.holder e := by
  unfold Memory.holder
  cases carries : e.key with
  | none => rfl
  | some key => exact confined.find (inside key carries)

/-! ## Calls -/

theorem Confined.stageInsert (confined : Confined region left right a b)
    (inside : .entity e.id ∈ region)
    (keyed : ∀ key, e.key = some key → a.lookedUp e.owner key ⊆ region) :
    Staged.Beside (Confined region left right) (fun _ => True) (a.stageInsert e)
      (b.stageInsert e) := by
  unfold Memory.stageInsert
  rw [← confined.holder keyed, ← confined.get inside]
  cases a.holder e with
  | some existing => exact .answered _ trivial
  | none =>
    dsimp only
    split
    · exact .refused _
    · refine .ready _ _ trivial ((confined.write (writesAt_put e) ?_).write (writesAt_claim e) ?_)
      · exact Set.singleton_subset_iff.2 inside
      · rintro _ ⟨key, carries, rfl⟩
        exact keyed key carries (.inl rfl)

theorem Confined.stageSave (confined : Confined region left right a b)
    (inside : .entity e.id ∈ region) :
    Staged.Beside (Confined region left right) (fun _ => True) (a.stageSave e) (b.stageSave e) := by
  unfold Memory.stageSave
  rw [← confined.get inside]
  cases a.get e.id with
  | none => exact .refused _
  | some stored =>
    dsimp only
    split
    · exact .refused _
    · split
      · exact .refused _
      · exact .ready _ _ trivial
          (confined.write (writesAt_put e.bumped) (Set.singleton_subset_iff.2 inside))

theorem Confined.stageDelete (confined : Confined region left right a b)
    (inside : .entity id ∈ region)
    (keyed : ∀ e, a.get id = some e → e.keyPlaces ⊆ region) :
    Staged.Beside (Confined region left right) (fun _ => True) (a.stageDelete id)
      (b.stageDelete id) := by
  unfold Memory.stageDelete
  rw [← confined.get inside]
  cases there : a.get id with
  | none => exact .answered _ trivial
  | some e =>
    exact .ready _ _ trivial ((confined.write (writesAt_remove id)
      (Set.singleton_subset_iff.2 inside)).write (writesAt_release e) (keyed e there))

end Confined

end Memory

theorem Gate.Open.commit {Tables α : Type} {store : Store Tables} (hookless : store.gate.Open)
    (staged : Staged Tables α) : (store.commit staged).2.gate.Open := by
  intro calls call
  rw [store.commit_rule]
  exact hookless calls call

/-- Behind open gates calls staged side by side end side by side. -/
theorem Staged.Beside.commit {Tables α : Type} {related : Tables → Tables → Prop}
    {a b : Store Tables} {stagedA stagedB : Staged Tables α} (openA : a.gate.Open)
    (openB : b.gate.Open) (beside : Staged.Beside related (fun _ => True) stagedA stagedB)
    (before : related a.tables b.tables) :
    (a.commit stagedA).1 = (b.commit stagedB).1 ∧
      related (a.commit stagedA).2.tables (b.commit stagedB).2.tables := by
  cases beside with
  | refused fault => exact ⟨rfl, before⟩
  | answered answer => exact ⟨rfl, before⟩
  | ready call answer _ after =>
    simp only [Store.commit, Gate.ask, openA _ call, openB _ call]
    exact ⟨trivial, after⟩

end Store

end TenantWork
