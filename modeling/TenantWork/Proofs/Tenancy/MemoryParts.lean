import TenantWork.Proofs.Store.Mirror
import TenantWork.Proofs.Tenancy.Separation
/-!
Tenants of a store in memory. Every call changes what the entity's owner has and nothing else, and
it changes that in the same way wherever it is the same.
-/
namespace TenantWork.Store.Memory

/-- Both tables hold the same entities and keys of the owners singled out. -/
structure SameOf (whose : Owner → Prop) (a b : Memory) : Prop where
  entities : ∀ id e, whose e.owner → (a.get id = some e ↔ b.get id = some e)
  keys : ∀ owner key, whose owner → a.keyId? owner key = b.keyId? owner key

/-- Entities stand under their own ids, and the tenant's keys lead to nobody else's entities. -/
structure Tidy (tenant : Owner) (memory : Memory) : Prop where
  filed : memory.Filed
  keys : ∀ key id e, memory.keyId? tenant key = some id → memory.get id = some e → e.owner = tenant

@[simp] theorem keyId?_claim (memory : Memory) (e : Entity) (owner : Owner) (key : String) :
    (memory.claim e).keyId? owner key =
      if owner = e.owner ∧ e.key = some key then some e.id else memory.keyId? owner key :=
  memory.find_keys_claim e owner key

@[simp] theorem keyId?_release (memory : Memory) (e : Entity) (owner : Owner) (key : String) :
    (memory.release e).keyId? owner key =
      if owner = e.owner ∧ e.key = some key then none else memory.keyId? owner key :=
  memory.find_keys_release e owner key

namespace SameOf

variable {whose : Owner → Prop} {a b c : Memory}

theorem refl (a : Memory) : a.SameOf whose a := ⟨fun _ _ _ => Iff.rfl, fun _ _ _ => rfl⟩

theorem trans (first : a.SameOf whose b) (second : b.SameOf whose c) : a.SameOf whose c :=
  ⟨fun id e owned => (first.entities id e owned).trans (second.entities id e owned),
    fun owner key owned => (first.keys owner key owned).trans (second.keys owner key owned)⟩

/-! ## The same write on both sides -/

theorem put (same : a.SameOf whose b) (e : Entity) : (a.put e).SameOf whose (b.put e) := by
  refine ⟨fun id other owned => ?_, same.keys⟩
  rw [get_put, get_put]
  split
  · exact Iff.rfl
  · exact same.entities id other owned

theorem claim (same : a.SameOf whose b) (e : Entity) : (a.claim e).SameOf whose (b.claim e) := by
  refine ⟨fun id other owned => ?_, fun owner key owned => ?_⟩
  · rw [get_claim, get_claim]
    exact same.entities id other owned
  · rw [keyId?_claim, keyId?_claim, same.keys owner key owned]

theorem release (same : a.SameOf whose b) (e : Entity) :
    (a.release e).SameOf whose (b.release e) := by
  refine ⟨fun id other owned => ?_, fun owner key owned => ?_⟩
  · rw [get_release, get_release]
    exact same.entities id other owned
  · rw [keyId?_release, keyId?_release, same.keys owner key owned]

theorem remove (same : a.SameOf whose b) (id : EntityId) :
    (a.remove id).SameOf whose (b.remove id) := by
  refine ⟨fun other e owned => ?_, same.keys⟩
  rw [get_remove, get_remove]
  split
  · exact Iff.rfl
  · exact same.entities other e owned

/-! ## A write for somebody else -/

theorem of_put {e : Entity} (foreign : ¬whose e.owner)
    (replaced : ∀ old, a.get e.id = some old → ¬whose old.owner) : a.SameOf whose (a.put e) := by
  refine ⟨fun id other owned => ?_, fun _ _ _ => rfl⟩
  rw [get_put]
  split
  next here =>
    rw [here]
    refine ⟨fun found => absurd owned (replaced other found), fun put => ?_⟩
    obtain rfl := Option.some.inj put
    exact absurd owned foreign
  next => exact Iff.rfl

theorem of_claim {e : Entity} (foreign : ¬whose e.owner) : a.SameOf whose (a.claim e) := by
  refine ⟨fun id other _ => ?_, fun owner key owned => ?_⟩
  · rw [get_claim]
  · rw [keyId?_claim, if_neg]
    rintro ⟨rfl, _⟩
    exact foreign owned

theorem of_release {e : Entity} (foreign : ¬whose e.owner) : a.SameOf whose (a.release e) := by
  refine ⟨fun id other _ => ?_, fun owner key owned => ?_⟩
  · rw [get_release]
  · rw [keyId?_release, if_neg]
    rintro ⟨rfl, _⟩
    exact foreign owned

theorem of_remove {id : EntityId} (removed : ∀ old, a.get id = some old → ¬whose old.owner) :
    a.SameOf whose (a.remove id) := by
  refine ⟨fun other e owned => ?_, fun _ _ _ => rfl⟩
  rw [get_remove]
  split
  next here =>
    rw [here]
    exact ⟨fun found => absurd owned (removed e found), fun impossible => (nomatch impossible)⟩
  next => exact Iff.rfl

end SameOf

section Tidy

variable {tenant : Owner} {memory a b : Memory}

/-- An entity under a new id goes in with its key, if that is free. -/
theorem Indexed.grown (indexed : memory.Indexed) {e : Entity} (free : memory.holder e = none)
    (unused : memory.get e.id = none) : ((memory.put e).claim e).Indexed := by
  let store : Store Memory := ⟨memory, .always⟩
  have stored : (store.insert e).2.tables = (memory.put e).claim e := by
    simp [store, Store.insert, Storage.stageInsert, stageInsert, free, unused, commit, Gate.ask,
      Gate.always]
  have kept : store.tables.Indexed := indexed
  rw [← stored]
  exact kept.insert e

theorem Indexed.tidy (indexed : memory.Indexed) : memory.Tidy tenant := by
  refine ⟨indexed.filed, fun key id e listed stored => ?_⟩
  obtain ⟨held, there, owned, _⟩ := (indexed.index tenant key id).1 listed
  obtain rfl := Option.some.inj (there.symm.trans stored)
  exact owned

theorem Tidy.put (tidy : memory.Tidy tenant) {e : Entity} (own : e.owner = tenant) :
    (memory.put e).Tidy tenant := by
  refine ⟨tidy.filed.put e, fun key id other listed stored => ?_⟩
  rw [get_put] at stored
  split at stored
  · rwa [← Option.some.inj stored]
  · exact tidy.keys key id other listed stored

/-- A key may be claimed for an entity that is there. -/
theorem Tidy.claim (tidy : memory.Tidy tenant) {e : Entity} (own : e.owner = tenant)
    (there : memory.get e.id = some e) : (memory.claim e).Tidy tenant := by
  refine ⟨fun id other stored => ?_, fun key id other listed stored => ?_⟩
  · rw [get_claim] at stored
    exact tidy.filed id other stored
  · rw [get_claim] at stored
    rw [keyId?_claim] at listed
    split at listed
    · obtain rfl := Option.some.inj listed
      obtain rfl := Option.some.inj (there.symm.trans stored)
      exact own
    · exact tidy.keys key id other listed stored

theorem Tidy.release (tidy : memory.Tidy tenant) (e : Entity) :
    (memory.release e).Tidy tenant := by
  refine ⟨fun id other stored => ?_, fun key id other listed stored => ?_⟩
  · rw [get_release] at stored
    exact tidy.filed id other stored
  · rw [get_release] at stored
    rw [keyId?_release] at listed
    split at listed
    · cases listed
    · exact tidy.keys key id other listed stored

theorem Tidy.remove (tidy : memory.Tidy tenant) (id : EntityId) :
    (memory.remove id).Tidy tenant := by
  refine ⟨tidy.filed.remove id, fun key other e listed stored => ?_⟩
  rw [get_remove] at stored
  split at stored
  · cases stored
  · exact tidy.keys key other e listed stored

/-- What of a memory belongs to a tenant, and what to others. -/
def parts (tenant : Owner) : Parts Memory where
  Agree a b := a.SameOf (· = tenant) b ∧ a.Tidy tenant ∧ b.Tidy tenant
  Keeps a b := a.SameOf (· ≠ tenant) b
  Unused memory id := memory.get id = none

/-! ## Reading -/

theorem find_same (same : a.SameOf (· = tenant) b) (tidyA : a.Tidy tenant) (tidyB : b.Tidy tenant)
    (key : String) : a.find tenant key = b.find tenant key := by
  have keys := same.keys tenant key rfl
  unfold find
  rw [← keyId?, ← keyId?, ← keys]
  cases listed : a.keyId? tenant key with
  | none => rfl
  | some id =>
    refine Option.ext fun e => ?_
    constructor
    · intro found
      exact (same.entities id e (tidyA.keys key id e listed found)).1 found
    · intro found
      exact (same.entities id e (tidyB.keys key id e (keys.symm.trans listed) found)).2 found

theorem holder_same (same : a.SameOf (· = tenant) b) (tidyA : a.Tidy tenant)
    (tidyB : b.Tidy tenant) {e : Entity} (own : e.owner = tenant) : a.holder e = b.holder e := by
  unfold holder
  cases e.key with
  | none => rfl
  | some key =>
    rw [own]
    exact find_same same tidyA tidyB key

theorem list_same (same : a.SameOf (· = tenant) b) (tidyA : a.Tidy tenant) (tidyB : b.Tidy tenant)
    (filter : Filter) : a.list (some tenant) filter = b.list (some tenant) filter := by
  have ordered := list_ordered tidyA.filed (some tenant) filter
  refine eq_list tidyB.filed (fun e => ?_) (ordered.imp Entity.Precedes.ne)
    (ordered.imp Entity.Precedes.listedBefore)
  rw [mem_list tidyA.filed, Option.all_some, beq_iff_eq]
  constructor
  · rintro ⟨found, own, accepted⟩
    exact ⟨(same.entities e.id e own).1 found, own, accepted⟩
  · rintro ⟨found, own, accepted⟩
    exact ⟨(same.entities e.id e own).2 found, own, accepted⟩

/-! ## Writing -/

theorem moved_insert (agree : (parts tenant).Agree a b) {e : Entity} (own : e.owner = tenant)
    (unusedA : a.get e.id = none) (unusedB : b.get e.id = none) :
    (parts tenant).Moved (some e.id) a b ((a.put e).claim e) ((b.put e).claim e) := by
  obtain ⟨same, tidyA, tidyB⟩ := agree
  have there (memory : Memory) : (memory.put e).get e.id = some e := by rw [get_put, if_pos rfl]
  have kept {memory : Memory} (unused : memory.get e.id = none) :
      memory.SameOf (· ≠ tenant) ((memory.put e).claim e) := by
    refine (SameOf.of_put (not_not_intro own) fun old found => ?_).trans
      (SameOf.of_claim (not_not_intro own))
    rw [unused] at found
    cases found
  have elsewhere (memory : Memory) {id : EntityId} (other : some e.id ≠ some id)
      (unused : memory.get id = none) : ((memory.put e).claim e).get id = none := by
    rwa [get_claim, get_put, if_neg fun here => other (congrArg some here.symm)]
  exact ⟨⟨(same.put e).claim e, (tidyA.put own).claim own (there a),
    (tidyB.put own).claim own (there b)⟩, kept unusedA, kept unusedB,
    fun _ other => ⟨elsewhere a other, elsewhere b other⟩⟩

theorem moved_put (agree : (parts tenant).Agree a b) {e storedA storedB : Entity}
    (own : e.owner = tenant) (thereA : a.get e.id = some storedA) (ownA : storedA.owner = tenant)
    (thereB : b.get e.id = some storedB) (ownB : storedB.owner = tenant) :
    (parts tenant).Moved none a b (a.put e) (b.put e) := by
  obtain ⟨same, tidyA, tidyB⟩ := agree
  have kept {memory : Memory} {stored : Entity} (there : memory.get e.id = some stored)
      (owned : stored.owner = tenant) : memory.SameOf (· ≠ tenant) (memory.put e) := by
    refine SameOf.of_put (not_not_intro own) fun old found => ?_
    obtain rfl := Option.some.inj (there.symm.trans found)
    exact not_not_intro owned
  have elsewhere {memory : Memory} {stored : Entity} (there : memory.get e.id = some stored)
      {id : EntityId} (unused : memory.get id = none) : (memory.put e).get id = none := by
    rw [get_put]
    split
    next here =>
      rw [here, there] at unused
      cases unused
    next => exact unused
  exact ⟨⟨same.put e, tidyA.put own, tidyB.put own⟩, kept thereA ownA, kept thereB ownB,
    fun _ _ => ⟨elsewhere thereA, elsewhere thereB⟩⟩

theorem moved_remove (agree : (parts tenant).Agree a b) {id : EntityId} {e : Entity}
    (own : e.owner = tenant) (thereA : a.get id = some e) (thereB : b.get id = some e) :
    (parts tenant).Moved none a b ((a.remove id).release e) ((b.remove id).release e) := by
  obtain ⟨same, tidyA, tidyB⟩ := agree
  have kept {memory : Memory} (there : memory.get id = some e) :
      memory.SameOf (· ≠ tenant) ((memory.remove id).release e) := by
    refine (SameOf.of_remove fun old found => ?_).trans (SameOf.of_release (not_not_intro own))
    obtain rfl := Option.some.inj (there.symm.trans found)
    exact not_not_intro own
  have elsewhere {memory : Memory} {other : EntityId} (unused : memory.get other = none) :
      ((memory.remove id).release e).get other = none := by
    rw [get_release, get_remove, unused, ite_self]
  exact ⟨⟨(same.remove id).release e, (tidyA.remove id).release e, (tidyB.remove id).release e⟩,
    kept thereA, kept thereB, fun _ _ => ⟨elsewhere, elsewhere⟩⟩

theorem stageSave_beside (agree : (parts tenant).Agree a b) {e : Entity} (own : e.owner = tenant) :
    Staged.Beside ((parts tenant).Moved none a b) (fun answer => answer = e.bumped)
      (a.stageSave e) (b.stageSave e) := by
  have same := agree.1
  have foreign {memory : Memory} (other : ∀ old, memory.get e.id = some old → old.owner ≠ tenant) :
      memory.stageSave e = .refused (.notFound e.id.text) := by
    unfold stageSave
    cases found : memory.get e.id with
    | none => rfl
    | some old => exact if_pos fun owned => other old found (owned.trans own)
  by_cases mine : ∃ old, old.owner = tenant ∧ a.get e.id = some old
  · obtain ⟨stored, owned, thereA⟩ := mine
    have thereB := (same.entities e.id stored owned).1 thereA
    have owners : ¬stored.owner ≠ e.owner := not_not_intro (owned.trans own.symm)
    simp only [stageSave, thereA, thereB, if_neg owners]
    split
    · exact .refused _
    · exact .ready _ _ rfl (moved_put agree own thereA owned thereB owned)
  · rw [foreign fun old found owned => mine ⟨old, owned, found⟩,
      foreign fun old found owned => mine ⟨old, owned, (same.entities e.id old owned).2 found⟩]
    exact .refused _

theorem stageInsert_beside (agree : (parts tenant).Agree a b) {e : Entity} (own : e.owner = tenant)
    (unusedA : a.get e.id = none) (unusedB : b.get e.id = none) :
    Staged.Beside ((parts tenant).Moved (some e.id) a b)
      (fun answer => ∀ new, answer = .inserted new → new = e)
      (a.stageInsert e) (b.stageInsert e) := by
  simp only [stageInsert, ← holder_same agree.1 agree.2.1 agree.2.2 own, unusedA, unusedB]
  cases a.holder e with
  | some existing => exact .answered _ fun new impossible => by cases impossible
  | none =>
    exact .ready _ _ (fun new done => (Insertion.inserted.inj done).symm)
      (moved_insert agree own unusedA unusedB)

theorem stageDelete_beside (agree : (parts tenant).Agree a b) {id : EntityId} {e : Entity}
    (seen : Parts.sight tenant a id = .ok e) :
    Staged.Beside ((parts tenant).Moved none a b) (fun _ => True)
      (a.stageDelete id) (b.stageDelete id) := by
  obtain ⟨found, own⟩ := Parts.sight_eq_ok_iff.1 seen
  have thereA : a.get id = some e := Except.ok.inj found
  have thereB := (agree.1.entities id e own).1 thereA
  rw [stageDelete, stageDelete, thereA, thereB]
  exact .ready _ _ trivial (moved_remove agree own thereA thereB)

theorem separate (tenant : Owner) : (parts tenant).Separate tenant where
  refl := SameOf.refl
  trans _ _ _ := SameOf.trans
  load _ _ id agree := Entity.forOwner_congr id fun e own => agree.1.entities id e own
  find _ _ key agree := congrArg Except.ok (find_same agree.1 agree.2.1 agree.2.2 key)
  list _ _ filter agree := congrArg Except.ok (list_same agree.1 agree.2.1 agree.2.2 filter)
  insert _ _ _ agree own unusedA unusedB := stageInsert_beside agree own unusedA unusedB
  save _ _ _ agree own := stageSave_beside agree own
  delete _ _ _ _ agree seen := stageDelete_beside agree seen

end Tidy

end TenantWork.Store.Memory
