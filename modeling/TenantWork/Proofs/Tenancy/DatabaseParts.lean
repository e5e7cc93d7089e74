import TenantWork.Proofs.Store.MirrorCalls
import TenantWork.Proofs.Tenancy.Separation
/-!
Tenants of a store in a relational database. A foreign row counts for nothing in a tenant's calls as
long as it decodes, and every statement of a call finds only the rows of its tenant. Two databases
are compared by rows, since listings look at the texts in them.
-/
namespace TenantWork.Store.Database

/-- Both databases hold the same rows and the same rows of keys of the owners singled out. -/
structure SameOf (whose : Cell → Prop) (a b : Database) : Prop where
  rows : ∀ row : Row, whose (row .owner) → (row ∈ a.rows ↔ row ∈ b.rows)
  keys : ∀ entry : KeyRow, whose entry.owner → (entry ∈ a.keys ↔ entry ∈ b.keys)

def Legible (database : Database) : Prop := ∀ row ∈ database.rows, ∃ e, row.toEntity = .ok e

/-- The keys lead to exactly the entities that carry them. -/
def Indexed (database : Database) : Prop := ∀ entry, entry ∈ database.keys ↔
  ∃ row ∈ database.rows, ∃ e key, row.toEntity = .ok e ∧ e.key = some key ∧
    entry = KeyRow.of e.owner key e.id

def Unused (database : Database) (id : EntityId) : Prop :=
  ∀ row ∈ database.rows, row .id ≠ .text id.text

instance (database : Database) (id : EntityId) : Decidable (database.Unused id) :=
  inferInstanceAs (Decidable (∀ row ∈ database.rows, row .id ≠ .text id.text))

/-- Rows have their place in listings, foreign rows decode, and keys lead to rows of their owner. -/
structure Tidy (tenant : Owner) (database : Database) : Prop where
  placed : ∀ row ∈ database.rows, row.Placed
  foreign : ∀ row ∈ database.rows, row .owner ≠ .text tenant.name → ∃ e, row.toEntity = .ok e
  keys : ∀ entry ∈ database.keys, ∃ row ∈ database.rows,
    row .owner = entry.owner ∧ row .id = entry.entity

/-- A database with one more entity and its key. -/
structure Grown (e : Entity) (before after : Database) : Prop where
  rows : after.rows = before.rows ++ [Row.ofEntity e]
  keys : after.keys = before.keys ++ (e.key.map fun key => KeyRow.of e.owner key e.id).toList

/-- What of a database belongs to a tenant, and what to others. -/
def parts (tenant : Owner) : Parts Database where
  Agree a b := a.SameOf (· = .text tenant.name) b ∧ a.Tidy tenant ∧ b.Tidy tenant
  Keeps a b := a.SameOf (· ≠ .text tenant.name) b
  Unused := Unused

theorem mem_updateRow {database : Database} {id : EntityId} {changed row : Row} :
    row ∈ (database.updateRow id changed).rows ↔ ∃ old ∈ database.rows,
      (if old .id = .text id.text then old.updated changed else old) = row := List.mem_map

theorem mem_deleteRow {database : Database} {id : EntityId} {row : Row} :
    row ∈ (database.deleteRow id).rows ↔ row ∈ database.rows ∧ row .id ≠ .text id.text := by
  rw [deleteRow, List.mem_filter, bne_iff_ne]

theorem mem_deleteKeys {database : Database} {id : EntityId} {entry : KeyRow} :
    entry ∈ (database.deleteKeys id).keys ↔
      entry ∈ database.keys ∧ entry.entity ≠ .text id.text := by
  rw [deleteKeys, List.mem_filter, bne_iff_ne]

theorem mem_keyOf {e : Entity} {entry : KeyRow} :
    entry ∈ (e.key.map fun key => KeyRow.of e.owner key e.id).toList ↔
      ∃ key, e.key = some key ∧ KeyRow.of e.owner key e.id = entry := by
  rw [Option.mem_toList, Option.map_eq_some_iff]

namespace SameOf

variable {whose : Cell → Prop} {a b c x y : Database}

theorem refl (a : Database) : a.SameOf whose a := ⟨fun _ _ => Iff.rfl, fun _ _ => Iff.rfl⟩

theorem trans (first : a.SameOf whose b) (second : b.SameOf whose c) : a.SameOf whose c :=
  ⟨fun row owned => (first.rows row owned).trans (second.rows row owned),
    fun entry owned => (first.keys entry owned).trans (second.keys entry owned)⟩

/-! ## The same write on both sides -/

theorem grown (same : a.SameOf whose b) {e : Entity} (left : Grown e a x) (right : Grown e b y) :
    x.SameOf whose y := by
  refine ⟨fun row owned => ?_, fun entry owned => ?_⟩
  · rw [left.rows, right.rows, List.mem_append, List.mem_append, same.rows row owned]
  · rw [left.keys, right.keys, List.mem_append, List.mem_append, same.keys entry owned]

theorem updateRow (same : a.SameOf whose b) (id : EntityId) (changed : Row) :
    (a.updateRow id changed).SameOf whose (b.updateRow id changed) := by
  refine ⟨fun row owned => ?_, same.keys⟩
  rw [mem_updateRow, mem_updateRow]
  refine exists_congr fun old => and_congr_left fun changes => same.rows old ?_
  rw [← changes] at owned
  split at owned
  · exact owned
  · exact owned

theorem delete (same : a.SameOf whose b) (id : EntityId) :
    ((a.deleteKeys id).deleteRow id).SameOf whose ((b.deleteKeys id).deleteRow id) := by
  refine ⟨fun row owned => ?_, fun entry owned => ?_⟩
  · rw [mem_deleteRow, mem_deleteRow]
    exact and_congr_left fun _ => same.rows row owned
  · show entry ∈ (a.deleteKeys id).keys ↔ entry ∈ (b.deleteKeys id).keys
    rw [mem_deleteKeys, mem_deleteKeys, same.keys entry owned]

/-! ## A write for somebody else -/

theorem of_grown {e : Entity} (foreign : ¬whose (.text e.owner.name)) (grown : Grown e a x) :
    a.SameOf whose x := by
  refine ⟨fun row owned => ?_, fun entry owned => ?_⟩
  · rw [grown.rows, List.mem_append, List.mem_singleton]
    refine (or_iff_left ?_).symm
    rintro rfl
    exact foreign owned
  · rw [grown.keys, List.mem_append, mem_keyOf]
    refine (or_iff_left ?_).symm
    rintro ⟨key, _, rfl⟩
    exact foreign owned

theorem of_updateRow {id : EntityId} (changed : Row)
    (foreign : ∀ row ∈ a.rows, row .id = .text id.text → ¬whose (row .owner)) :
    a.SameOf whose (a.updateRow id changed) := by
  refine ⟨fun row owned => ?_, fun _ _ => Iff.rfl⟩
  rw [mem_updateRow]
  constructor
  · intro inside
    exact ⟨row, inside, if_neg fun named => foreign row inside named owned⟩
  · rintro ⟨old, inside, changes⟩
    split at changes
    next named =>
      rw [← changes] at owned
      exact absurd owned (foreign old inside named)
    next => rwa [← changes]

theorem of_delete {id : EntityId}
    (foreign : ∀ row ∈ a.rows, row .id = .text id.text → ¬whose (row .owner))
    (unlisted : ∀ entry ∈ a.keys, entry.entity = .text id.text → ¬whose entry.owner) :
    a.SameOf whose ((a.deleteKeys id).deleteRow id) := by
  refine ⟨fun row owned => ?_, fun entry owned => ?_⟩
  · rw [mem_deleteRow]
    exact ⟨fun inside => ⟨inside, fun named => foreign row inside named owned⟩, And.left⟩
  · show entry ∈ a.keys ↔ entry ∈ (a.deleteKeys id).keys
    rw [mem_deleteKeys]
    exact ⟨fun inside => ⟨inside, fun leads => unlisted entry inside leads owned⟩, And.left⟩

end SameOf

/-! ## Rows that stores write -/

theorem legible_empty : Legible empty := fun _ inside => (nomatch inside)

theorem indexed_empty : Indexed empty := by
  intro entry
  constructor
  · intro inside
    cases inside
  · rintro ⟨row, inside, _⟩
    cases inside

theorem Grown.legible {e : Entity} {before after : Database} (grown : Grown e before after)
    (legible : before.Legible) (storable : e.Storable) : after.Legible := by
  intro row inside
  rw [grown.rows, List.mem_append, List.mem_singleton] at inside
  obtain there | rfl := inside
  · exact legible row there
  · exact ⟨e, Row.toEntity_ofEntity storable⟩

theorem Grown.indexed {e : Entity} {before after : Database} (grown : Grown e before after)
    (indexed : before.Indexed) (storable : e.Storable) : after.Indexed := by
  intro entry
  rw [grown.keys, List.mem_append, mem_keyOf, indexed entry]
  simp only [grown.rows, List.mem_append, List.mem_singleton, or_and_right, exists_or,
    exists_eq_left, Row.toEntity_ofEntity storable, Except.ok.injEq]
  refine or_congr_right ⟨?_, ?_⟩
  · rintro ⟨key, carries, same⟩
    exact ⟨e, key, rfl, carries, same.symm⟩
  · rintro ⟨_, key, rfl, carries, same⟩
    exact ⟨key, carries, same.symm⟩

section Tidy

variable {tenant : Owner} {database a b x y : Database}

theorem Legible.tidy (legible : database.Legible) (indexed : database.Indexed) :
    database.Tidy tenant := by
  refine ⟨fun row inside => ?_, fun row inside _ => legible row inside, fun entry inside => ?_⟩
  · obtain ⟨e, read⟩ := legible row inside
    exact (Row.holds_of_toEntity read).placed
  · obtain ⟨row, there, e, key, read, _, rfl⟩ := (indexed entry).1 inside
    have holds := Row.holds_of_toEntity read
    exact ⟨row, there, holds.owner, holds.id⟩

theorem Tidy.nodup (tidy : database.Tidy tenant) : database.rows.Nodup := by
  refine database.ids_distinct.imp_of_mem fun {x y} inside _ distinct same => ?_
  obtain ⟨id, named⟩ := (tidy.placed x inside).id
  have absent := distinct (congrFun same .id)
  rw [named] at absent
  cases absent

theorem Tidy.grown (tidy : database.Tidy tenant) {e : Entity} (own : e.owner = tenant)
    (grown : Grown e database x) : x.Tidy tenant := by
  have kept {row : Row} (inside : row ∈ database.rows) : row ∈ x.rows := by
    rw [grown.rows]
    exact List.mem_append_left _ inside
  have entered {row : Row} (inside : row ∈ x.rows) : row ∈ database.rows ∨ row = Row.ofEntity e := by
    rwa [grown.rows, List.mem_append, List.mem_singleton] at inside
  refine ⟨fun row inside => ?_, fun row inside foreign => ?_, fun entry inside => ?_⟩
  · obtain before | rfl := entered inside
    · exact tidy.placed row before
    · exact Row.placed_ofEntity e
  · obtain before | rfl := entered inside
    · exact tidy.foreign row before foreign
    · exact absurd (Cell.text_owner.2 own) foreign
  · rw [grown.keys, List.mem_append, mem_keyOf] at inside
    obtain before | ⟨key, _, rfl⟩ := inside
    · obtain ⟨row, there, leads⟩ := tidy.keys entry before
      exact ⟨row, kept there, leads⟩
    · refine ⟨Row.ofEntity e, ?_, rfl, rfl⟩
      rw [grown.rows]
      exact List.mem_append_right _ (List.mem_singleton_self _)

/-- An update of one of the tenant's rows. -/
theorem Tidy.updateRow (tidy : database.Tidy tenant) {id : EntityId} (changed : Row)
    (own : ∀ row ∈ database.rows, row .id = .text id.text → row .owner = .text tenant.name) :
    (database.updateRow id changed).Tidy tenant := by
  refine ⟨fun row inside => ?_, fun row inside foreign => ?_, fun entry inside => ?_⟩
  · obtain ⟨old, before, rfl⟩ := mem_updateRow.1 inside
    obtain ⟨named, created⟩ := tidy.placed old before
    split
    · exact ⟨named, created⟩
    · exact ⟨named, created⟩
  · obtain ⟨old, before, rfl⟩ := mem_updateRow.1 inside
    split at foreign
    next named => exact absurd (own old before named) foreign
    next other =>
      rw [if_neg other]
      exact tidy.foreign old before foreign
  · obtain ⟨row, there, leads⟩ := tidy.keys entry inside
    refine ⟨_, mem_updateRow.2 ⟨row, there, rfl⟩, ?_⟩
    split
    · exact leads
    · exact leads

theorem Tidy.delete (tidy : database.Tidy tenant) (id : EntityId) :
    ((database.deleteKeys id).deleteRow id).Tidy tenant := by
  refine ⟨fun row inside => ?_, fun row inside => ?_, fun entry inside => ?_⟩
  · exact tidy.placed row (mem_deleteRow.1 inside).1
  · exact tidy.foreign row (mem_deleteRow.1 inside).1
  · obtain ⟨before, elsewhere⟩ := mem_deleteKeys.1 inside
    obtain ⟨row, there, owned, leads⟩ := tidy.keys entry before
    exact ⟨row, mem_deleteRow.2 ⟨there, leads ▸ elsewhere⟩, owned, leads⟩

/-! ## Reading -/

theorem row?_same (same : a.SameOf (· = .text tenant.name) b) {id : String} {row : Row}
    (inside : row ∈ a.rows) (own : row .owner = .text tenant.name) (named : row .id = .text id) :
    a.row? (.text id) = some row ∧ b.row? (.text id) = some row :=
  ⟨row?_eq_some_iff.2 ⟨inside, named⟩, row?_eq_some_iff.2 ⟨(same.rows row own).1 inside, named⟩⟩

/-- Where the tenant has no row, it sees nothing. -/
theorem sight_foreign (tidy : database.Tidy tenant) {id : EntityId}
    (none : ∀ row ∈ database.rows, row .id = .text id.text → row .owner ≠ .text tenant.name) :
    Parts.sight tenant database id = .error (.accessDenied id.text) := by
  show (Database.read (database.row? (.text id.text))).bind (Entity.forOwner tenant id) = _
  cases found : database.row? (.text id.text) with
  | none => rfl
  | some row =>
    obtain ⟨inside, named⟩ := row?_eq_some_iff.1 found
    have foreign := none row inside named
    obtain ⟨e, read⟩ := tidy.foreign row inside foreign
    have other : e.owner ≠ tenant := by
      rintro rfl
      exact foreign (Row.holds_of_toEntity read).owner
    simp only [Database.read, read]
    exact if_neg other

theorem sight_same (agree : (parts tenant).Agree a b) (id : EntityId) :
    Parts.sight tenant a id = Parts.sight tenant b id := by
  obtain ⟨same, tidyA, tidyB⟩ := agree
  by_cases mine : ∃ row ∈ a.rows, row .id = .text id.text ∧ row .owner = .text tenant.name
  · obtain ⟨row, inside, named, own⟩ := mine
    obtain ⟨foundA, foundB⟩ := row?_same same inside own named
    show (Database.read (a.row? _)).bind _ = (Database.read (b.row? _)).bind _
    rw [foundA, foundB]
  · rw [sight_foreign tidyA fun row inside named own => mine ⟨row, inside, named, own⟩,
      sight_foreign tidyB fun row inside named own =>
        mine ⟨row, (same.rows row own).2 inside, named, own⟩]

theorem keyRow?_same (same : a.SameOf (· = .text tenant.name) b) (key : String) :
    a.keyRow? (.text tenant.name) (.text key) = b.keyRow? (.text tenant.name) (.text key) := by
  refine Option.ext fun entry => ?_
  rw [keyRow?_eq_some_iff, keyRow?_eq_some_iff]
  exact and_congr_left fun fits => same.keys entry fits.1

/-- A key of the tenant leads to a row of the tenant. -/
theorem row_of_key (same : a.SameOf (· = .text tenant.name) b) (tidy : a.Tidy tenant)
    {key : String} {entry : KeyRow}
    (listed : a.keyRow? (.text tenant.name) (.text key) = some entry) :
    ∃ (id : EntityId) (row : Row), entry.entity = .text id.text ∧
      a.row? (.text id.text) = some row ∧ b.row? (.text id.text) = some row := by
  obtain ⟨inside, owned, _⟩ := keyRow?_eq_some_iff.1 listed
  obtain ⟨row, there, own, leads⟩ := tidy.keys entry inside
  obtain ⟨id, named⟩ := (tidy.placed row there).id
  exact ⟨id, row, leads.symm.trans named, row?_same same there (own.trans owned) named⟩

theorem find_same (agree : (parts tenant).Agree a b) (key : String) :
    a.find tenant key = b.find tenant key := by
  obtain ⟨same, tidyA, _⟩ := agree
  unfold Database.find
  rw [← keyRow?_same same key]
  cases listed : a.keyRow? (.text tenant.name) (.text key) with
  | none => rfl
  | some entry =>
    obtain ⟨id, row, leads, foundA, foundB⟩ := row_of_key same tidyA listed
    simp only [leads, foundA, foundB]

theorem holder_same (agree : (parts tenant).Agree a b) {e : Entity} (own : e.owner = tenant) :
    a.holder e = b.holder e := by
  obtain ⟨same, tidyA, _⟩ := agree
  unfold Database.holder
  cases e.key with
  | none => rfl
  | some key =>
    dsimp only
    rw [own, ← keyRow?_same same key]
    cases listed : a.keyRow? (.text tenant.name) (.text key) with
    | none => rfl
    | some entry =>
      obtain ⟨id, row, leads, foundA, foundB⟩ := row_of_key same tidyA listed
      simp only [leads, Cell.readText, Database.get, foundA, foundB]

/-- A key without a holder is free. -/
theorem keyRow?_free (tidy : a.Tidy tenant) {e : Entity} (own : e.owner = tenant) {key : String}
    (carries : e.key = some key) (free : a.holder e = .ok none) :
    a.keyRow? (.text tenant.name) (.text key) = none := by
  cases listed : a.keyRow? (.text tenant.name) (.text key) with
  | none => rfl
  | some entry =>
    obtain ⟨id, row, leads, found, _⟩ := row_of_key (SameOf.refl a) tidy listed
    simp only [Database.holder, carries, own, listed, leads, Cell.readText, Database.get, found,
      Database.read] at free
    split at free
    · cases free
    · cases free

theorem list_same (agree : (parts tenant).Agree a b) (filter : Filter) :
    a.list (some tenant) filter = b.list (some tenant) filter := by
  obtain ⟨same, tidyA, tidyB⟩ := agree
  unfold Database.list
  dsimp only
  set chosen : Row → Bool := fun row => matchesText row .owner ((some tenant).map Owner.name) &&
    matchesText row .kind (filter.kind.map Kind.name) &&
    matchesText row .status (filter.status.map Status.name)
  have owned {row : Row} (fits : chosen row = true) : row .owner = .text tenant.name := by
    have matched := (Bool.and_eq_true_iff.1 (Bool.and_eq_true_iff.1 fits).1).1
    rwa [matchesText, Option.map_some, Option.all_some, beq_iff_eq] at matched
  have perm : (a.rows.filter chosen).Perm (b.rows.filter chosen) := by
    refine (List.perm_ext_iff_of_nodup (tidyA.nodup.filter _) (tidyB.nodup.filter _)).2
      fun row => ?_
    rw [List.mem_filter, List.mem_filter]
    exact and_congr_left fun fits => same.rows row (owned fits)
  have sorted : (a.rows.filter chosen).mergeSort listedBefore =
      (b.rows.filter chosen).mergeSort listedBefore := by
    refine Row.mergeSort_of_perm perm (fun row inside => ?_) fun x insideX y insideY ids => ?_
    · exact tidyA.placed row (List.mem_filter.1 inside).1
    · have thereX := (List.mem_filter.1 insideX).1
      obtain ⟨id, named⟩ := (tidyA.placed x thereX).id
      exact row_unique thereX (List.mem_filter.1 insideY).1 named (ids.symm.trans named)
  rw [sorted]

/-! ## Writing -/

theorem moved_grown (agree : (parts tenant).Agree a b) {e : Entity} (own : e.owner = tenant)
    (left : Grown e a x) (right : Grown e b y) :
    (parts tenant).Moved (some e.id) a b x y := by
  obtain ⟨same, tidyA, tidyB⟩ := agree
  have owned : ¬Cell.text e.owner.name ≠ .text tenant.name := not_not_intro (Cell.text_owner.2 own)
  have elsewhere {before after : Database} (grown : Grown e before after) {id : EntityId}
      (other : some e.id ≠ some id) (unused : before.Unused id) : after.Unused id := by
    intro row inside named
    rw [grown.rows, List.mem_append, List.mem_singleton] at inside
    obtain before | rfl := inside
    · exact unused row before named
    · exact other (congrArg some (Cell.text_id.1 named))
  exact ⟨⟨same.grown left right, tidyA.grown own left, tidyB.grown own right⟩,
    .of_grown owned left, .of_grown owned right,
    fun _ other => ⟨elsewhere left other, elsewhere right other⟩⟩

/-- All rows under the id of a tenant's row are the tenant's. -/
theorem owned_of_row {id : String} {row : Row} (inside : row ∈ a.rows)
    (own : row .owner = .text tenant.name) (named : row .id = .text id) (other : Row)
    (there : other ∈ a.rows) (same : other .id = .text id) : other .owner = .text tenant.name := by
  rwa [row_unique there inside same named]

theorem moved_updateRow (agree : (parts tenant).Agree a b) {id : EntityId} {row : Row}
    (inside : row ∈ a.rows) (own : row .owner = .text tenant.name) (named : row .id = .text id.text)
    (changed : Row) :
    (parts tenant).Moved none a b (a.updateRow id changed) (b.updateRow id changed) := by
  obtain ⟨same, tidyA, tidyB⟩ := agree
  have ownA := owned_of_row inside own named
  have ownB := owned_of_row ((same.rows row own).1 inside) own named
  have elsewhere {database : Database} {other : EntityId} (unused : database.Unused other) :
      (database.updateRow id changed).Unused other := by
    intro row inside here
    obtain ⟨old, before, rfl⟩ := mem_updateRow.1 inside
    refine unused old before ?_
    split at here
    · exact here
    · exact here
  exact ⟨⟨same.updateRow id changed, tidyA.updateRow changed ownA, tidyB.updateRow changed ownB⟩,
    .of_updateRow changed fun row inside named => not_not_intro (ownA row inside named),
    .of_updateRow changed fun row inside named => not_not_intro (ownB row inside named),
    fun _ _ => ⟨elsewhere, elsewhere⟩⟩

theorem moved_delete (agree : (parts tenant).Agree a b) {id : EntityId} {row : Row}
    (inside : row ∈ a.rows) (own : row .owner = .text tenant.name)
    (named : row .id = .text id.text) :
    (parts tenant).Moved none a b ((a.deleteKeys id).deleteRow id)
      ((b.deleteKeys id).deleteRow id) := by
  obtain ⟨same, tidyA, tidyB⟩ := agree
  -- An entry leads to a row of its owner, so those that go with the row are the tenant's too.
  have kept {database : Database} (tidy : database.Tidy tenant) (there : row ∈ database.rows) :
      database.SameOf (· ≠ .text tenant.name) ((database.deleteKeys id).deleteRow id) := by
    have owned := owned_of_row there own named
    refine .of_delete (fun row inside named => not_not_intro (owned row inside named)) ?_
    intro entry listed leads
    obtain ⟨held, stands, same, entity⟩ := tidy.keys entry listed
    rw [← same]
    exact not_not_intro (owned held stands (entity.trans leads))
  have elsewhere {database : Database} {other : EntityId} (unused : database.Unused other) :
      ((database.deleteKeys id).deleteRow id).Unused other :=
    fun row inside => unused row (mem_deleteRow.1 inside).1
  exact ⟨⟨same.delete id, tidyA.delete id, tidyB.delete id⟩, kept tidyA inside,
    kept tidyB ((same.rows row own).1 inside), fun _ _ => ⟨elsewhere, elsewhere⟩⟩

theorem insertEntity_grown (tidy : database.Tidy tenant) {e : Entity} (own : e.owner = tenant)
    (free : database.holder e = .ok none) (unused : database.Unused e.id)
    (fits : e.revision ≤ columnLimit) :
    ∃ after, database.insertEntity e = .ok after ∧ Grown e database after := by
  have unlisted : ∀ key, e.key = some key → ∀ other ∈ database.keys,
      ¬(other.owner = .text e.owner.name ∧ other.key = .text key) ∧
        other.entity ≠ .text e.id.text := by
    intro key carries other inside
    constructor
    · rintro ⟨owned, same⟩
      have none := keyRow?_free tidy own carries free
      rw [own] at owned
      rw [keyRow?_eq_some_iff.2 ⟨inside, owned, same⟩] at none
      cases none
    · intro leads
      obtain ⟨row, there, _, entity⟩ := tidy.keys other inside
      exact unused row there (entity.trans leads)
  obtain ⟨after, entered, rows, keys⟩ := database.insertEntity_free fits unused unlisted
  exact ⟨after, entered, rows, keys⟩

theorem stageInsert_beside (agree : (parts tenant).Agree a b) {e : Entity} (own : e.owner = tenant)
    (unusedA : a.Unused e.id) (unusedB : b.Unused e.id) :
    Staged.Beside ((parts tenant).Moved (some e.id) a b)
      (fun answer => ∀ new, answer = .inserted new → new = e)
      (a.stageInsert e) (b.stageInsert e) := by
  have held := holder_same agree own
  unfold Database.stageInsert
  rw [← held]
  match free : a.holder e with
  | .error fault => exact .refused fault
  | .ok (some existing) => exact .answered _ fun new impossible => (nomatch impossible)
  | .ok none =>
    by_cases fits : e.revision ≤ columnLimit
    · obtain ⟨afterA, enteredA, left⟩ := insertEntity_grown agree.2.1 own free unusedA fits
      obtain ⟨afterB, enteredB, right⟩ :=
        insertEntity_grown agree.2.2 own (held.symm.trans free) unusedB fits
      rw [enteredA, enteredB]
      exact .ready _ _ (fun new done => (Insertion.inserted.inj done).symm)
        (moved_grown agree own left right)
    · have large (database : Database) : database.insertEntity e = .error .tooLarge := by
        rw [insertEntity, if_pos (Nat.lt_of_not_le fits)]
        rfl
      rw [large, large]
      exact .refused _

theorem stageSave_beside (agree : (parts tenant).Agree a b) {e : Entity} (own : e.owner = tenant) :
    Staged.Beside ((parts tenant).Moved none a b) (fun answer => answer = e.bumped)
      (a.stageSave e) (b.stageSave e) := by
  have same := agree.1
  -- A foreign row decodes, so that the comparison of owners is reached and turns it away.
  have foreign {database : Database} (tidy : database.Tidy tenant)
      (none : ∀ row ∈ database.rows, row .id = .text e.id.text → row .owner ≠ .text tenant.name) :
      database.stageSave e = .refused (.notFound e.id.text) := by
    unfold Database.stageSave
    cases found : database.row? (.text e.id.text) with
    | none => rfl
    | some row =>
      obtain ⟨inside, named⟩ := row?_eq_some_iff.1 found
      have other := none row inside named
      obtain ⟨stored, read⟩ := tidy.foreign row inside other
      obtain ⟨_, owner, ⟨status, statusCell⟩, _⟩ := Row.holds_of_toEntity read
      have texts : ownerAndStatus row = .ok (stored.owner.name, status) := by
        rw [ownerAndStatus, owner, statusCell]
        rfl
      have apart : stored.owner.name ≠ e.owner.name := by
        intro names
        rw [owner, names, own] at other
        exact other rfl
      simp only [texts, if_pos apart]
  by_cases mine : ∃ row ∈ a.rows, row .id = .text e.id.text ∧ row .owner = .text tenant.name
  · obtain ⟨row, inside, named, owned⟩ := mine
    obtain ⟨foundA, foundB⟩ := row?_same same inside owned named
    simp only [Database.stageSave, foundA, foundB]
    cases ownerAndStatus row with
    | error fault => exact .refused _
    | ok texts =>
      obtain ⟨owner, status⟩ := texts
      dsimp only
      split
      · exact .refused _
      split
      · exact .refused _
      split
      · cases Status.parse status with
        | ok status => exact .refused _
        | error fault => exact .refused _
      · exact .ready _ _ rfl (moved_updateRow agree inside owned named _)
  · rw [foreign agree.2.1 fun row inside named owned => mine ⟨row, inside, named, owned⟩,
      foreign agree.2.2 fun row inside named owned =>
        mine ⟨row, (same.rows row owned).2 inside, named, owned⟩]
    exact .refused _

theorem stageDelete_beside (agree : (parts tenant).Agree a b) {id : EntityId} {e : Entity}
    (seen : Parts.sight tenant a id = .ok e) :
    Staged.Beside ((parts tenant).Moved none a b) (fun _ => True)
      (a.stageDelete id) (b.stageDelete id) := by
  obtain ⟨gotA, own⟩ := Parts.sight_eq_ok_iff.1 seen
  have gotB := (Parts.sight_eq_ok_iff.1 ((sight_same agree id).symm.trans seen)).1
  have foundA : a.get id = .ok (some e) := gotA
  have foundB : b.get id = .ok (some e) := gotB
  simp only [Database.stageDelete, foundA, foundB]
  obtain ⟨row, inside, named, owned⟩ : ∃ row ∈ a.rows, row .id = .text id.text ∧
      row .owner = .text tenant.name := by
    rw [Database.get] at foundA
    cases found : a.row? (.text id.text) with
    | none =>
      rw [found] at foundA
      cases foundA
    | some row =>
      obtain ⟨inside, named⟩ := row?_eq_some_iff.1 found
      rw [found, Database.read] at foundA
      split at foundA
      next stored read =>
        obtain rfl := Option.some.inj (Except.ok.inj foundA)
        exact ⟨row, inside, named, by rw [(Row.holds_of_toEntity read).owner, own]⟩
      next => cases foundA
  exact .ready _ _ trivial (moved_delete agree inside owned named)

theorem separate (tenant : Owner) : (parts tenant).Separate tenant where
  refl := SameOf.refl
  trans _ _ _ := SameOf.trans
  load _ _ id agree := sight_same agree id
  find _ _ key agree := find_same agree key
  list _ _ filter agree := list_same agree filter
  insert _ _ _ agree own unusedA unusedB := stageInsert_beside agree own unusedA unusedB
  save _ _ _ agree own := stageSave_beside agree own
  delete _ _ _ _ agree seen := stageDelete_beside agree seen

end Tidy

end TenantWork.Store.Database
