import TenantWork.Proofs.Store.MemoryCalls
import TenantWork.Proofs.Time.FixedText
/-!
Listings of a store in memory. A listing is the only sequence of the stored entities asked for that
is in order, so it says nothing of the order in which the entities lie in their table, nor of the
order in which they came there.
-/
namespace TenantWork

namespace Entity

/-! ## The order of listings -/

theorem listedBefore_iff {a b : Entity} : a.listedBefore b = true ↔
    a.createdAt < b.createdAt ∨ a.createdAt = b.createdAt ∧ ¬b.id.text < a.id.text := by
  simp only [listedBefore, Bool.or_eq_true, Bool.and_eq_true, decide_eq_true_eq, beq_iff_eq,
    Bool.not_eq_true', decide_eq_false_iff_not]

theorem listedBefore_trans (a b c : Entity) (first : a.listedBefore b = true)
    (second : b.listedBefore c = true) : a.listedBefore c = true := by
  rw [listedBefore_iff] at *
  obtain first | ⟨sameFirst, first⟩ := first
  · obtain second | ⟨sameSecond, _⟩ := second
    · exact .inl (Int.lt_trans first second)
    · exact .inl (sameSecond ▸ first)
  · obtain second | ⟨sameSecond, second⟩ := second
    · exact .inl (sameFirst ▸ second)
    · exact .inr ⟨sameFirst.trans sameSecond, String.le_trans first second⟩

theorem listedBefore_total (a b : Entity) : (a.listedBefore b || b.listedBefore a) = true := by
  rw [Bool.or_eq_true, listedBefore_iff, listedBefore_iff]
  by_cases before : a.createdAt < b.createdAt
  · exact .inl (.inl before)
  by_cases after : b.createdAt < a.createdAt
  · exact .inr (.inl after)
  have same := Time.Rfc3339.eq_of_not_lt before after
  obtain lower | higher := String.le_total a.id.text b.id.text
  · exact .inl (.inr ⟨same, lower⟩)
  · exact .inr (.inr ⟨same.symm, higher⟩)

theorem listedBefore_antisymm {a b : Entity} (first : a.listedBefore b = true)
    (second : b.listedBefore a = true) : a.id = b.id := by
  rw [listedBefore_iff] at *
  have texts : a.id.text = b.id.text := by
    obtain before | ⟨sameFirst, lower⟩ := first
    · obtain after | ⟨same, _⟩ := second
      · exact absurd (Int.lt_trans before after) (Int.lt_irrefl _)
      · exact absurd (same ▸ before) (Int.lt_irrefl _)
    · obtain after | ⟨_, higher⟩ := second
      · exact absurd (sameFirst ▸ after) (Int.lt_irrefl _)
      · exact String.le_antisymm lower higher
  exact congrArg EntityId.mk texts

/-- Created earlier, or at the same instant with the lesser id. -/
def Precedes (a b : Entity) : Prop :=
  a.createdAt < b.createdAt ∨ a.createdAt = b.createdAt ∧ a.id.text < b.id.text

theorem Precedes.listedBefore {a b : Entity} (precedes : a.Precedes b) :
    a.listedBefore b = true := by
  rw [listedBefore_iff]
  exact precedes.imp_right fun ⟨same, lesser⟩ => ⟨same, String.lt_asymm lesser⟩

theorem precedes_of_listedBefore {a b : Entity} (before : a.listedBefore b = true)
    (apart : a.id ≠ b.id) : a.Precedes b := by
  obtain earlier | ⟨same, notAfter⟩ := listedBefore_iff.1 before
  · exact .inl earlier
  · refine .inr ⟨same, String.not_le.1 fun notBefore => apart ?_⟩
    exact congrArg EntityId.mk (String.le_antisymm notAfter notBefore)

theorem Precedes.ne {a b : Entity} (precedes : a.Precedes b) : a ≠ b := by
  rintro rfl
  obtain earlier | ⟨_, lesser⟩ := precedes
  · exact Int.lt_irrefl _ earlier
  · exact String.lt_irrefl _ lesser

end Entity

namespace Store

namespace Memory

/-! ## The entities of a table -/

variable {memory other : Memory} {owner : Option Owner} {filter : Filter} {found : List Entity}

theorem mem_values (filed : memory.Filed) {e : Entity} :
    e ∈ memory.entities.values ↔ memory.get e.id = some e := by
  constructor
  · intro inside
    obtain ⟨⟨id, stored⟩, listed, rfl⟩ := List.mem_map.1 inside
    have found := (memory.entities.mem_entries_iff id stored).1 listed
    rw [← Memory.get] at found
    rwa [filed id stored found]
  · intro found
    exact List.mem_map.2 ⟨(e.id, e), (memory.entities.mem_entries_iff e.id e).2 found, rfl⟩

theorem ids_nodup (filed : memory.Filed) :
    (memory.entities.values.map Entity.id).Nodup := by
  have ids : memory.entities.entries.map Prod.fst = memory.entities.values.map Entity.id := by
    rw [Table.values, List.map_map]
    refine List.map_congr_left fun entry inside => ?_
    exact (filed entry.1 entry.2 ((memory.entities.mem_entries_iff _ _).1 inside)).symm
  rw [← ids]
  exact memory.entities.distinct

theorem values_nodup (filed : memory.Filed) : memory.entities.values.Nodup :=
  (List.pairwise_map.1 (ids_nodup filed)).imp fun apart same => apart (congrArg Entity.id same)

/-! ## Listings -/

theorem list_nodup (filed : memory.Filed) (owner : Option Owner) (filter : Filter) :
    ((memory.list owner filter).map Entity.id).Nodup := by
  rw [list, ((List.mergeSort_perm _ _).map Entity.id).nodup_iff]
  exact (ids_nodup filed).sublist (List.filter_sublist.map Entity.id)

theorem mem_list (filed : memory.Filed) {e : Entity} : e ∈ memory.list owner filter ↔
    memory.get e.id = some e ∧ owner.all (e.owner == ·) = true ∧ filter.accepts e = true := by
  rw [list, List.mem_mergeSort, List.mem_filter, mem_values filed, Bool.and_eq_true]

theorem list_ordered (filed : memory.Filed) (owner : Option Owner) (filter : Filter) :
    (memory.list owner filter).Pairwise Entity.Precedes := by
  have sorted : (memory.list owner filter).Pairwise fun a b => a.listedBefore b = true :=
    List.pairwise_mergeSort Entity.listedBefore_trans Entity.listedBefore_total _
  have apart := List.pairwise_map.1 (list_nodup filed owner filter)
  exact (sorted.and apart).imp fun both => Entity.precedes_of_listedBefore both.1 both.2

/-- In order there is only one way to list the entities asked for. -/
theorem eq_list (filed : memory.Filed)
    (exact : ∀ e, e ∈ found ↔ memory.get e.id = some e ∧ owner.all (e.owner == ·) = true ∧
      filter.accepts e = true)
    (nodup : found.Nodup) (ordered : found.Pairwise fun a b => a.listedBefore b = true) :
    found = memory.list owner filter := by
  have sorted := list_ordered filed owner filter
  refine List.Perm.eq_of_pairwise (fun a b insideA insideB before after => ?_) ordered
    (sorted.imp Entity.Precedes.listedBefore) ?_
  · have same := Entity.listedBefore_antisymm before after
    have storedA := ((exact a).1 insideA).1
    have storedB := ((mem_list filed).1 insideB).1
    rw [same, storedB] at storedA
    exact (Option.some.inj storedA).symm
  · refine (List.perm_ext_iff_of_nodup nodup (sorted.imp Entity.Precedes.ne)).2 fun e => ?_
    rw [exact, mem_list filed]

theorem list_of_same (filed : memory.Filed) (filedOther : other.Filed)
    (same : ∀ id, other.get id = memory.get id) (owner : Option Owner) (filter : Filter) :
    other.list owner filter = memory.list owner filter := by
  have ordered := list_ordered filedOther owner filter
  refine eq_list filed (fun e => ?_) (ordered.imp Entity.Precedes.ne)
    (ordered.imp Entity.Precedes.listedBefore)
  rw [mem_list filedOther, same]

/-- The entries of a table may lie in any order. -/
theorem get_of_perm {entities : Table EntityId Entity}
    (perm : entities.entries.Perm memory.entities.entries) (id : EntityId) :
    get { memory with entities } id = memory.get id := by
  refine Option.ext fun e => ?_
  show entities.find? id = some e ↔ memory.entities.find? id = some e
  rw [← Table.mem_entries_iff, ← Table.mem_entries_iff, perm.mem_iff]

theorem filter_list (filed : memory.Filed) (tenant : Owner) (filter : Filter) :
    (memory.list none filter).filter (fun e => e.owner = tenant) =
      memory.list (some tenant) filter := by
  have ordered := (list_ordered filed none filter).filter fun e => e.owner = tenant
  refine eq_list filed (fun e => ?_) (ordered.imp Entity.Precedes.ne)
    (ordered.imp Entity.Precedes.listedBefore)
  rw [List.mem_filter, mem_list filed, Option.all_some, decide_eq_true_eq, beq_iff_eq]
  simp only [Option.all_none, true_and, and_assoc, and_comm]

end Memory

/-! ## Insertions in any order -/

/-- Makes insertions one after another, and gives the entities that came to be stored. -/
def insertAll {Tables : Type} [Storage Tables] (store : Store Tables) :
    List Entity → List Entity × Store Tables
  | [] => ([], store)
  | e :: rest =>
    let (answer, after) := store.insert e
    let (inserted, last) := after.insertAll rest
    match answer with
    | .ok (.inserted new) => (new :: inserted, last)
    | _ => (inserted, last)

theorem Memory.Filed.insertAll {store : Store Memory} (filed : store.tables.Filed)
    (entities : List Entity) : (store.insertAll entities).2.tables.Filed := by
  induction entities generalizing store with
  | nil => exact filed
  | cons e rest ih =>
    have after := ih (filed.insert e)
    rw [Store.insertAll]
    dsimp only
    split <;> exact after

theorem get_insertAll (store : Store Memory) (entities : List Entity) (id : EntityId)
    (stored : Entity) : (store.insertAll entities).2.tables.get id = some stored ↔
      store.tables.get id = some stored ∨
        stored ∈ (store.insertAll entities).1 ∧ stored.id = id := by
  induction entities generalizing store with
  | nil => simp [insertAll]
  | cons e rest ih =>
    have after := ih (store.insert e).2
    rw [insertAll]
    dsimp only
    obtain ⟨fault, answer, same⟩ | ⟨held, _, kept⟩ | ⟨_, unused, answer, changed⟩ :=
      Memory.insert_cases store e
    · rw [answer]
      rwa [same] at after
    · rw [kept]
      rwa [kept] at after
    · rw [answer]
      rw [changed, Memory.get_claim, Memory.get_put] at after
      refine after.trans ?_
      by_cases here : id = e.id
      · subst here
        rw [if_pos rfl, unused, Option.some.injEq, List.mem_cons]
        constructor
        · rintro (rfl | ⟨later, own⟩)
          · exact .inr ⟨.inl rfl, rfl⟩
          · exact .inr ⟨.inr later, own⟩
        · rintro (impossible | ⟨rfl | later, own⟩)
          · cases impossible
          · exact .inl rfl
          · exact .inr ⟨later, own⟩
      · rw [if_neg here, List.mem_cons]
        constructor
        · exact fun either => either.imp_right fun ⟨later, own⟩ => ⟨.inr later, own⟩
        · refine fun either => either.imp_right ?_
          rintro ⟨rfl | later, own⟩
          · exact absurd own.symm here
          · exact ⟨later, own⟩

/-- A listing of a store in memory, whatever calls led to it, holds the stored entities of the owner
that the filter accepts and nothing else, in strictly increasing order, so each once. It is the same
for every order in which the entities may lie in the table, for every other store that holds the
same entities, and after the same entities have been inserted in any order. The listing for one
owner is that owner's part of the listing for all. -/
theorem listing_exact {store : Store Memory} (reached : store.Reached) (owner : Option Owner)
    (filter : Filter) :
    ∃ found, store.list owner filter = .ok found ∧
      (∀ e, e ∈ found ↔ store.tables.get e.id = some e ∧ owner.all (e.owner == ·) = true ∧
        filter.accepts e = true) ∧
      found.Pairwise Entity.Precedes ∧
      (∀ entities : Table EntityId Entity,
        entities.entries.Perm store.tables.entities.entries →
          Memory.list { store.tables with entities } owner filter = found) ∧
      (∀ other : Store Memory, other.Reached →
        (∀ id, other.tables.get id = store.tables.get id) →
          other.list owner filter = .ok found) ∧
      (∀ gate first second, (store.insertAll first).1.Perm
          ((Store.mk store.tables gate).insertAll second).1 →
        (store.insertAll first).2.list owner filter =
          ((Store.mk store.tables gate).insertAll second).2.list owner filter) ∧
      ∀ tenant, owner = some tenant →
        ∃ all, store.list none filter = .ok all ∧ found = all.filter fun e => e.owner = tenant := by
  have filed := Memory.filed_of_reached reached
  refine ⟨store.tables.list owner filter, rfl, fun e => Memory.mem_list filed,
    Memory.list_ordered filed owner filter, fun entities perm => ?_, fun other reachedOther same => ?_,
    fun gate first second perm => ?_, ?_⟩
  · have same := Memory.get_of_perm perm
    refine Memory.list_of_same filed (fun id e stored => ?_) same owner filter
    rw [same] at stored
    exact filed id e stored
  · exact congrArg Except.ok
      (Memory.list_of_same filed (Memory.filed_of_reached reachedOther) same owner filter)
  · have filedSecond : (Store.mk store.tables gate).tables.Filed := filed
    refine congrArg Except.ok (Memory.list_of_same (filedSecond.insertAll second)
      (filed.insertAll first) (fun id => Option.ext fun e => ?_) owner filter)
    rw [get_insertAll, get_insertAll, perm.mem_iff]
  · rintro tenant rfl
    exact ⟨_, rfl, (Memory.filter_list filed tenant filter).symm⟩

/-- Two jobs of one instant, inserted in either order: the one with the lesser id comes first. -/
theorem jobs_of_one_instant_listed :
    let owner : Owner := ⟨"u", by decide⟩
    let a := Entity.create ⟨"a"⟩ owner .job .null none .epoch
    let b := Entity.create ⟨"b"⟩ owner .job .null none .epoch
    let empty : Store Memory := .new .always
    let one := (empty.insertAll [a, b]).2
    let other := (empty.insertAll [b, a]).2
    one.tables.entities.entries ≠ other.tables.entities.entries ∧
      one.list none Filter.all = .ok [a, b] ∧ other.list none Filter.all = .ok [a, b] := by
  intro owner a b empty one other
  have behind : b.listedBefore a = false := by decide
  have sorted : [b, a].mergeSort Entity.listedBefore = [a, b] := by
    simp [List.mergeSort, List.MergeSort.Internal.splitInTwo, behind]
  have listed : one.list none Filter.all = .ok [a, b] := congrArg Except.ok sorted
  have swapped : (empty.insertAll [b, a]).1.Perm (empty.insertAll [a, b]).1 := List.Perm.swap a b []
  obtain ⟨_, _, _, _, _, _, insertions, _⟩ :=
    listing_exact (.new Gate.always : empty.Reached) none Filter.all
  exact ⟨by decide, listed, (insertions Gate.always [b, a] [a, b] swapped).trans listed⟩

end Store

end TenantWork
