import TenantWork.Proofs.Store.KeyIndex
import TenantWork.Proofs.Store.MemoryListing
import TenantWork.Proofs.Store.RowCodec
import TenantWork.Proofs.Store.Rows
/-!
A database next to a memory. The rows of the database are the entities of the memory and the rows
of its keys are those of the memory, no matter in which order. As long as every entity can be read
back from its row, each call gives the same answer on both sides and leaves them side by side.
-/
namespace TenantWork

namespace Store

theorem Cell.text_id {a b : EntityId} : Cell.text a.text = Cell.text b.text ↔ a = b := by
  cases a; cases b; simp

theorem Cell.text_owner {a b : Owner} : Cell.text a.name = Cell.text b.name ↔ a = b := by
  cases a; cases b; simp

def KeyRow.of (owner : Owner) (key : String) (id : EntityId) : KeyRow :=
  ⟨.text owner.name, .text key, .text id.text⟩

/-- Every entity can be read back from its row. -/
def Memory.Storable (memory : Memory) : Prop :=
  ∀ id e, memory.get id = some e → e.Storable

namespace Memory

def keyId? (memory : Memory) (owner : Owner) (key : String) : Option EntityId :=
  memory.keys.find? (owner, key)

end Memory

namespace Database

def keyId? (database : Database) (owner : Owner) (key : String) : Option EntityId :=
  (database.keyRow? (.text owner.name) (.text key)).bind fun entry =>
    match entry.entity with
    | .text id => some ⟨id⟩
    | _ => none

/-- The rows of a database are those of a memory, and no number is too large for its column. -/
structure Mirrors (database : Database) (memory : Memory) : Prop where
  rows : ∀ row, row ∈ database.rows ↔ ∃ e, memory.get e.id = some e ∧ row = Row.ofEntity e
  keys : ∀ entry, entry ∈ database.keys ↔
    ∃ owner key id, memory.keys.find? (owner, key) = some id ∧ entry = KeyRow.of owner key id
  bounded : ∀ id e, memory.get id = some e → e.revision ≤ columnLimit

theorem mirrors_empty : Mirrors empty Memory.empty := by
  refine ⟨fun row => ⟨?_, ?_⟩, fun entry => ⟨?_, ?_⟩, ?_⟩
  · intro inside
    cases inside
  · rintro ⟨e, found, _⟩
    cases found
  · intro inside
    cases inside
  · rintro ⟨owner, key, id, found, _⟩
    cases found
  · intro id e found
    cases found

variable {database : Database} {memory : Memory}

/-! ## Reading -/

theorem Mirrors.row? (mirrors : database.Mirrors memory) (filed : memory.Filed) (id : EntityId) :
    database.row? (.text id.text) = (memory.get id).map Row.ofEntity := by
  refine Option.ext fun row => ?_
  rw [Database.row?_eq_some_iff, mirrors.rows, Option.map_eq_some_iff]
  constructor
  · rintro ⟨⟨e, stored, rfl⟩, named⟩
    obtain rfl : e.id = id := Cell.text_id.1 named
    exact ⟨e, stored, rfl⟩
  · rintro ⟨e, found, rfl⟩
    have own := filed id e found
    exact ⟨⟨e, by rwa [own], rfl⟩, Cell.text_id.2 own⟩

theorem Mirrors.keyRow? (mirrors : database.Mirrors memory) (owner : Owner) (key : String) :
    database.keyRow? (.text owner.name) (.text key) =
      (memory.keys.find? (owner, key)).map (KeyRow.of owner key) := by
  refine Option.ext fun entry => ?_
  rw [Database.keyRow?_eq_some_iff, mirrors.keys, Option.map_eq_some_iff]
  constructor
  · rintro ⟨⟨other, used, id, found, rfl⟩, owners, keys⟩
    obtain rfl := Cell.text_owner.1 owners
    obtain rfl := Cell.text.inj keys
    exact ⟨id, found, rfl⟩
  · rintro ⟨id, found, rfl⟩
    exact ⟨⟨owner, key, id, found, rfl⟩, rfl, rfl⟩

theorem Mirrors.keyId? (mirrors : database.Mirrors memory) (owner : Owner) (key : String) :
    database.keyId? owner key = memory.keyId? owner key := by
  rw [Database.keyId?, mirrors.keyRow?, Memory.keyId?]
  cases memory.keys.find? (owner, key) with
  | none => rfl
  | some id => rfl

theorem Mirrors.read (storable : memory.Storable) (id : EntityId) :
    Database.read ((memory.get id).map Row.ofEntity) = .ok (memory.get id) := by
  cases found : memory.get id with
  | none => rfl
  | some e => simp only [Database.read, Option.map_some, Row.toEntity_ofEntity (storable id e found)]

theorem Mirrors.get (mirrors : database.Mirrors memory) (filed : memory.Filed)
    (storable : memory.Storable) (id : EntityId) : database.get id = .ok (memory.get id) := by
  rw [Database.get, mirrors.row? filed, Mirrors.read storable]

theorem Mirrors.find (mirrors : database.Mirrors memory) (filed : memory.Filed)
    (storable : memory.Storable) (owner : Owner) (key : String) :
    database.find owner key = .ok (memory.find owner key) := by
  rw [Database.find, mirrors.keyRow?, Memory.find]
  cases memory.keys.find? (owner, key) with
  | none => rfl
  | some id =>
    show Database.read (database.row? (.text id.text)) = .ok (memory.get id)
    rw [mirrors.row? filed, Mirrors.read storable]

theorem Mirrors.holder (mirrors : database.Mirrors memory) (filed : memory.Filed)
    (storable : memory.Storable) (e : Entity) : database.holder e = .ok (memory.holder e) := by
  rw [Database.holder, Memory.holder]
  cases e.key with
  | none => rfl
  | some key =>
    simp only [mirrors.keyRow?, Option.bind_some, Memory.find]
    cases memory.keys.find? (e.owner, key) with
    | none => rfl
    | some id => exact mirrors.get filed storable id

/-! ## Listing -/

/-- The rows are those of a list of entities, in some order. -/
theorem Mirrors.entities (mirrors : database.Mirrors memory) (filed : memory.Filed) :
    ∃ entities : List Entity, database.rows = entities.map Row.ofEntity ∧
      entities.Perm memory.entities.values := by
  have gathered (rows : List Row) (all : ∀ row ∈ rows, row ∈ database.rows) :
      ∃ entities : List Entity, (∀ e ∈ entities, memory.get e.id = some e) ∧
        rows = entities.map Row.ofEntity := by
    induction rows with
    | nil => exact ⟨[], by simp, rfl⟩
    | cons row rest ih =>
      obtain ⟨e, stored, rfl⟩ := (mirrors.rows row).1 (all row List.mem_cons_self)
      obtain ⟨others, known, rfl⟩ := ih fun row inside => all row (List.mem_cons_of_mem _ inside)
      exact ⟨e :: others, List.forall_mem_cons.2 ⟨stored, known⟩, rfl⟩
  obtain ⟨entities, known, same⟩ := gathered database.rows fun _ inside => inside
  refine ⟨entities, same, (List.perm_ext_iff_of_nodup ?_ (Memory.values_nodup filed)).2 fun e => ?_⟩
  · have apart := database.ids_distinct
    rw [same, List.pairwise_map] at apart
    refine apart.imp fun distinct equal => ?_
    cases distinct (congrArg (fun e => Row.ofEntity e .id) equal)
  · rw [Memory.mem_values filed]
    constructor
    · exact known e
    · intro stored
      have inside : Row.ofEntity e ∈ database.rows := (mirrors.rows _).2 ⟨e, stored, rfl⟩
      rw [same] at inside
      obtain ⟨other, listed, equal⟩ := List.mem_map.1 inside
      have ids : other.id = e.id := Cell.text_id.1 (congrFun equal .id)
      have found := known other listed
      rw [ids, stored] at found
      rwa [Option.some.inj found]

theorem chosen_ofEntity (owner : Option Owner) (filter : Filter) (e : Entity) :
    (matchesText (Row.ofEntity e) .owner (owner.map Owner.name) &&
      matchesText (Row.ofEntity e) .kind (filter.kind.map Kind.name) &&
      matchesText (Row.ofEntity e) .status (filter.status.map Status.name)) =
      (owner.all (e.owner == ·) && filter.accepts e) := by
  have owners (other : Owner) : (Row.ofEntity e .owner == .text other.name) = (e.owner == other) :=
    Bool.eq_iff_iff.2 (by rw [beq_iff_eq, beq_iff_eq]; exact Cell.text_owner)
  have kinds (kind : Kind) : (Row.ofEntity e .kind == .text kind.name) = (e.kind == kind) := by
    refine Bool.eq_iff_iff.2 ?_
    simp only [Row.ofEntity, beq_iff_eq, Cell.text.injEq]
    exact ⟨Kind.name_inj, congrArg Kind.name⟩
  have statuses (status : Status) :
      (Row.ofEntity e .status == .text status.name) = (e.status == status) := by
    refine Bool.eq_iff_iff.2 ?_
    simp only [Row.ofEntity, beq_iff_eq, Cell.text.injEq]
    exact ⟨Status.name_inj, congrArg Status.name⟩
  simp only [matchesText, Option.all_map, owners, kinds, statuses,
    Filter.accepts, Bool.and_assoc]

theorem listedBefore_ofEntity {a b : Entity} (datedA : a.Dated) (datedB : b.Dated) :
    listedBefore (Row.ofEntity a) (Row.ofEntity b) = a.listedBefore b := by
  have less := Time.Rfc3339.writeNanos_lt datedA.created datedB.created
  have same := Time.Rfc3339.writeNanos_inj datedA.created datedB.created
  refine Bool.eq_iff_iff.2 ?_
  simp only [listedBefore, Entity.listedBefore, Row.ofEntity, Cell.before, Bool.or_eq_true,
    Bool.and_eq_true, decide_eq_true_eq, beq_iff_eq, Cell.text.injEq, less, same]

theorem mapM_toEntity {entities : List Entity} (storable : ∀ e ∈ entities, e.Storable) :
    (entities.map Row.ofEntity).mapM Row.toEntity = .ok entities := by
  induction entities with
  | nil => rfl
  | cons e rest ih =>
    obtain ⟨first, others⟩ := List.forall_mem_cons.1 storable
    rw [List.map_cons, List.mapM_cons, Row.toEntity_ofEntity first, ih others]
    rfl

theorem Mirrors.list (mirrors : database.Mirrors memory) (filed : memory.Filed)
    (storable : memory.Storable) (owner : Option Owner) (filter : Filter) :
    database.list owner filter = .ok (memory.list owner filter) := by
  obtain ⟨entities, rows, perm⟩ := mirrors.entities filed
  let chosen (e : Entity) : Bool := owner.all (e.owner == ·) && filter.accepts e
  have stored {e : Entity} (inside : e ∈ entities.filter chosen) : memory.get e.id = some e :=
    (Memory.mem_values filed).1 (perm.mem_iff.1 (List.mem_filter.1 inside).1)
  have sorted : (entities.filter chosen).mergeSort Entity.listedBefore = memory.list owner filter := by
    refine Memory.eq_list filed (fun e => ?_)
      ((List.mergeSort_perm _ _).nodup_iff.2 ((perm.nodup_iff.2 (Memory.values_nodup filed)).filter _))
      (List.pairwise_mergeSort Entity.listedBefore_trans Entity.listedBefore_total _)
    rw [List.mem_mergeSort, List.mem_filter, perm.mem_iff, Memory.mem_values filed, Bool.and_eq_true]
  have ordered : ((entities.filter chosen).map Row.ofEntity).mergeSort listedBefore =
      (memory.list owner filter).map Row.ofEntity := by
    rw [← sorted, List.map_mergeSort]
    intro a insideA b insideB
    exact (listedBefore_ofEntity (storable a.id a (stored insideA)).regular.dated
      (storable b.id b (stored insideB)).regular.dated).symm
  have filtered : (database.rows.filter fun row => matchesText row .owner (owner.map Owner.name) &&
      matchesText row .kind (filter.kind.map Kind.name) &&
      matchesText row .status (filter.status.map Status.name)) =
      (entities.filter chosen).map Row.ofEntity := by
    rw [rows, List.filter_map]
    congr 2
    funext e
    exact chosen_ofEntity owner filter e
  have read : ((memory.list owner filter).map Row.ofEntity).mapM Row.toEntity =
      .ok (memory.list owner filter) := by
    refine mapM_toEntity fun e inside => ?_
    rw [← sorted, List.mem_mergeSort] at inside
    exact storable e.id e (stored inside)
  simp only [Database.list, filtered, ordered, read]

end Database

end Store

end TenantWork
