import TenantWork.Proofs.Store.Mirror
/-!
Writes on a database next to a memory. A call staged on both sides is refused with the same error,
gives the same answer or is ready to leave both sides alike. The one difference is a number too
large for a column, which only the database refuses; a gate on the memory can stand in for that.
-/
namespace TenantWork.Store

/-- Whether the snapshot's number of updates fits its column. -/
def WriteCall.fits (call : WriteCall) : Bool := decide (call.entity.revision ≤ columnLimit)

/-- A rule that also shuts out numbers too large for a column, before the rule itself hears of
them. -/
def Gate.limited (rule : List WriteCall → WriteCall → Except Error Unit) (calls : List WriteCall)
    (call : WriteCall) : Except Error Unit :=
  if call.fits then rule (calls.filter WriteCall.fits) call
  else .error (.databaseQuery .tooLarge)

/-- A call staged on both sides. -/
inductive Staged.Mirrors {α : Type} : Staged Database α → Staged Memory α → Prop where
  | refused (fault : Error) : Mirrors (.refused fault) (.refused fault)
  | answered (answer : α) : Mirrors (.answered answer) (.answered answer)
  | ready {database : Database} {memory : Memory} (call : WriteCall) (answer : α)
    (within : call.fits = true) (after : database.Mirrors memory) :
    Mirrors (.ready call database answer) (.ready call memory answer)
  | tooLarge (call : WriteCall) (memory : Memory) (answer : α) (large : call.fits = false) :
    Mirrors (.refused (.databaseQuery .tooLarge)) (.ready call memory answer)

namespace Database

variable {database : Database} {memory : Memory}

/-! ## Insertion -/

/-- An entity under a new id goes in with its key, if that is free. -/
theorem insertEntity_free (database : Database) {e : Entity} (fits : e.revision ≤ columnLimit)
    (unused : ∀ row ∈ database.rows, row .id ≠ .text e.id.text)
    (free : ∀ key, e.key = some key → ∀ other ∈ database.keys,
      ¬(other.owner = .text e.owner.name ∧ other.key = .text key) ∧
        other.entity ≠ .text e.id.text) :
    ∃ after, database.insertEntity e = .ok after ∧
      after.rows = database.rows ++ [Row.ofEntity e] ∧
      after.keys = database.keys ++ (e.key.map fun key => KeyRow.of e.owner key e.id).toList := by
  obtain ⟨between, entered, sameKeys, rows⟩ := database.insertRow_ofEntity unused
  have small : ¬columnLimit < e.revision := Nat.not_lt.2 fits
  cases carries : e.key with
  | none =>
    refine ⟨between, ?_, rows, ?_⟩
    · simp only [Database.insertEntity, if_neg small, bind, Except.bind, pure, Except.pure, entered,
        carries]
    · rw [sameKeys, Option.map_none, Option.toList_none, List.append_nil]
  | some key =>
    have freeKey := free key carries
    rw [← sameKeys] at freeKey
    obtain ⟨after, listed, sameRows, keys⟩ :=
      between.insertKey_free (KeyRow.of e.owner key e.id) freeKey
    refine ⟨after, ?_, sameRows.trans rows, ?_⟩
    · simp only [Database.insertEntity, if_neg small, bind, Except.bind, entered, carries]
      exact listed
    · rw [keys, sameKeys, Option.map_some, Option.toList_some]

theorem Mirrors.rows_inserted (mirrors : database.Mirrors memory) {e : Entity}
    (fresh : memory.get e.id = none) {rows : List Row}
    (inserted : rows = database.rows ++ [Row.ofEntity e]) (row : Row) :
    row ∈ rows ↔ ∃ a, ((memory.put e).claim e).get a.id = some a ∧ row = Row.ofEntity a := by
  rw [inserted, List.mem_append, List.mem_singleton, mirrors.rows]
  simp only [Memory.get_claim, Memory.get_put]
  constructor
  · rintro (⟨a, stored, rfl⟩ | rfl)
    · refine ⟨a, ?_, rfl⟩
      rw [if_neg]
      · exact stored
      · intro same
        rw [same, fresh] at stored
        cases stored
    · exact ⟨e, if_pos rfl, rfl⟩
  · rintro ⟨a, stored, rfl⟩
    split at stored
    · exact .inr (by rw [Option.some.inj stored])
    · exact .inl ⟨a, stored, rfl⟩

theorem Mirrors.keys_inserted (mirrors : database.Mirrors memory) {e : Entity} {key : String}
    (carries : e.key = some key) (unused : memory.keys.find? (e.owner, key) = none)
    {keys : List KeyRow} (inserted : keys = database.keys ++ [KeyRow.of e.owner key e.id])
    (entry : KeyRow) :
    entry ∈ keys ↔ ∃ owner used id,
      ((memory.put e).claim e).keys.find? (owner, used) = some id ∧
        entry = KeyRow.of owner used id := by
  rw [inserted, List.mem_append, List.mem_singleton, mirrors.keys]
  simp only [Memory.find_keys_claim, carries, Memory.keys_put, Option.some.injEq]
  constructor
  · rintro (⟨owner, used, id, found, rfl⟩ | rfl)
    · refine ⟨owner, used, id, ?_, rfl⟩
      rw [if_neg]
      · exact found
      · rintro ⟨rfl, rfl⟩
        rw [unused] at found
        cases found
    · exact ⟨e.owner, key, e.id, if_pos ⟨rfl, rfl⟩, rfl⟩
  · rintro ⟨owner, used, id, found, rfl⟩
    split at found
    next own =>
      right
      rw [own.1, own.2, Option.some.inj found]
    next =>
      left
      exact ⟨owner, used, id, found, rfl⟩

theorem Mirrors.insertEntity (mirrors : database.Mirrors memory) (indexed : memory.Indexed)
    {e : Entity} (free : memory.holder e = none) (fresh : memory.get e.id = none)
    (fits : e.revision ≤ columnLimit) :
    ∃ after, database.insertEntity e = .ok after ∧ after.Mirrors ((memory.put e).claim e) := by
  have unlisted (key : String) (carries : e.key = some key) :
      memory.keys.find? (e.owner, key) = none := by
    refine indexed.unlisted ?_
    rwa [Memory.holder, carries] at free
  have unusedRow : ∀ row ∈ database.rows, row .id ≠ .text e.id.text := by
    intro row inside same
    obtain ⟨stored, found, rfl⟩ := (mirrors.rows row).1 inside
    rw [Cell.text_id.1 same, fresh] at found
    cases found
  have freeKey : ∀ key, e.key = some key → ∀ other ∈ database.keys,
      ¬(other.owner = .text e.owner.name ∧ other.key = .text key) ∧
        other.entity ≠ .text e.id.text := by
    intro key carries other inside
    obtain ⟨holder, used, held, found, rfl⟩ := (mirrors.keys other).1 inside
    constructor
    · rintro ⟨owners, keys⟩
      rw [Cell.text_owner.1 owners, Cell.text.inj keys, unlisted key carries] at found
      cases found
    · intro ids
      obtain ⟨a, stored, _⟩ := (indexed.index holder used held).1 found
      rw [Cell.text_id.1 ids, fresh] at stored
      cases stored
  have bounded (id : EntityId) (a : Entity)
      (stored : ((memory.put e).claim e).get id = some a) : a.revision ≤ columnLimit := by
    rw [Memory.get_claim, Memory.get_put] at stored
    split at stored
    · rwa [← Option.some.inj stored]
    · exact mirrors.bounded id a stored
  obtain ⟨after, entered, rows, keys⟩ := database.insertEntity_free fits unusedRow freeKey
  refine ⟨after, entered, mirrors.rows_inserted fresh rows, fun entry => ?_, bounded⟩
  cases carries : e.key with
  | none =>
    rw [carries, Option.map_none, Option.toList_none, List.append_nil] at keys
    simp only [keys, mirrors.keys, Memory.find_keys_claim, carries, Memory.keys_put, reduceCtorEq,
      and_false, if_false]
  | some key =>
    rw [carries, Option.map_some, Option.toList_some] at keys
    exact mirrors.keys_inserted carries (unlisted key carries) keys entry

theorem Mirrors.stageInsert (mirrors : database.Mirrors memory) (indexed : memory.Indexed)
    (storable : memory.Storable) {e : Entity} (fresh : memory.get e.id = none)
    (fits : e.revision ≤ columnLimit) :
    Staged.Mirrors (database.stageInsert e) (memory.stageInsert e) := by
  rw [Database.stageInsert, Memory.stageInsert, mirrors.holder indexed.filed storable]
  cases free : memory.holder e with
  | some existing => exact .answered _
  | none =>
    obtain ⟨after, entered, same⟩ := mirrors.insertEntity indexed free fresh fits
    rw [entered, fresh]
    exact .ready ⟨.insert, e⟩ _ (decide_eq_true fits) same

/-! ## Updates -/

/-- An update writes all columns in which snapshots of the same work can differ. -/
theorem updated_bumped {stored e : Entity} (same : stored.SameWork e) :
    (Row.ofEntity stored).updated (Row.ofEntity e.bumped) = Row.ofEntity e.bumped := by
  funext column
  cases column <;> simp only [Row.updated, Column.isUpdated, Row.ofEntity, Entity.bumped, same.id,
    same.owner, same.kind, same.key, same.createdAt, Bool.false_eq_true, if_true, if_false]

theorem Mirrors.updateRow (mirrors : database.Mirrors memory) {stored e : Entity}
    (found : memory.get e.id = some stored) (same : stored.SameWork e)
    (fits : e.bumped.revision ≤ columnLimit) :
    (database.updateRow e.id (Row.ofEntity e.bumped)).Mirrors (memory.put e.bumped) := by
  refine ⟨fun row => ?_, fun entry => mirrors.keys entry, fun id a there => ?_⟩
  · rw [Database.updateRow, List.mem_map]
    simp only [Memory.get_put]
    constructor
    · rintro ⟨old, inside, rfl⟩
      obtain ⟨a, there, rfl⟩ := (mirrors.rows old).1 inside
      by_cases own : a.id = e.id
      · rw [own, found] at there
        obtain rfl := Option.some.inj there
        exact ⟨e.bumped, if_pos rfl, (if_pos (Cell.text_id.2 own)).trans (updated_bumped same)⟩
      · refine ⟨a, ?_, if_neg fun texts => own (Cell.text_id.1 texts)⟩
        exact (if_neg own).trans there
    · rintro ⟨a, there, rfl⟩
      split at there
      next =>
        obtain rfl := Option.some.inj there
        have own : stored.id = e.id := same.id.symm
        refine ⟨Row.ofEntity stored, (mirrors.rows _).2 ⟨stored, by rwa [own], rfl⟩, ?_⟩
        exact (if_pos (Cell.text_id.2 own)).trans (updated_bumped same)
      next other =>
        refine ⟨Row.ofEntity a, (mirrors.rows _).2 ⟨a, there, rfl⟩, ?_⟩
        exact if_neg fun texts => other (Cell.text_id.1 texts)
  · rw [Memory.get_put] at there
    split at there
    · rwa [← Option.some.inj there]
    · exact mirrors.bounded id a there

theorem ownerAndStatus_ofEntity (e : Entity) :
    ownerAndStatus (Row.ofEntity e) = .ok (e.owner.name, e.status.name) := rfl

/-- An update goes the same way on both sides, if the copy it brings was made from the stored
snapshot or from one of a lower revision. -/
theorem Mirrors.stageSave (mirrors : database.Mirrors memory) (filed : memory.Filed) {e : Entity}
    (same : ∀ stored, memory.get e.id = some stored → stored.revision = e.revision →
      stored.SameWork e)
    (older : ∀ stored, memory.get e.id = some stored → stored.revision ≠ e.revision →
      e.revision < stored.revision) :
    Staged.Mirrors (database.stageSave e) (memory.stageSave e) := by
  rw [Database.stageSave, Memory.stageSave, mirrors.row? filed]
  cases found : memory.get e.id with
  | none => exact .refused _
  | some stored =>
    have bounded := mirrors.bounded e.id stored found
    have owners : stored.owner.name ≠ e.owner.name ↔ stored.owner ≠ e.owner := by
      rw [Ne, Ne, ← Cell.text_owner, Cell.text.injEq]
    have revisions : Row.ofEntity stored .revision ≠ .integer e.revision ↔
        stored.revision ≠ e.revision := by
      rw [Ne, Ne, Row.ofEntity, Cell.integer.injEq, Int.ofNat_inj]
    simp only [Option.map_some, ownerAndStatus_ofEntity, owners, revisions]
    by_cases foreign : stored.owner ≠ e.owner
    · rw [if_pos foreign, if_pos foreign]
      exact .refused _
    rw [if_neg foreign, if_neg foreign]
    by_cases stale : stored.revision ≠ e.revision
    · have lower := older stored found stale
      rw [if_neg (by omega), if_pos stale, if_pos stale, Status.parse, Status.ofText?_name]
      exact .refused _
    rw [if_neg stale, if_neg stale]
    by_cases large : columnLimit < e.revision + 1
    · rw [if_pos large]
      exact .tooLarge _ _ _ (decide_eq_false (Nat.not_le.2 large))
    · rw [if_neg large]
      have fits : e.bumped.revision ≤ columnLimit := Nat.not_lt.1 large
      have current := Classical.not_not.1 stale
      exact .ready ⟨.update, e.bumped⟩ _ (decide_eq_true fits)
        (mirrors.updateRow found (same stored found current) fits)

/-! ## Removal -/

theorem Mirrors.deleteEntity (mirrors : database.Mirrors memory) (indexed : memory.Indexed)
    {id : EntityId} {e : Entity} (found : memory.get id = some e) :
    ((database.deleteKeys id).deleteRow id).Mirrors ((memory.remove id).release e) := by
  have own := indexed.filed id e found
  refine ⟨fun row => ?_, fun entry => ?_, fun other a there => ?_⟩
  · show row ∈ database.rows.filter _ ↔ _
    rw [List.mem_filter, mirrors.rows]
    simp only [Memory.get_release, Memory.get_remove]
    constructor
    · rintro ⟨⟨a, there, rfl⟩, apart⟩
      refine ⟨a, ?_, rfl⟩
      rw [if_neg fun same => ?_]
      · exact there
      · exact bne_iff_ne.1 apart (Cell.text_id.2 same)
    · rintro ⟨a, there, rfl⟩
      split at there
      · cases there
      next other =>
        exact ⟨⟨a, there, rfl⟩, bne_iff_ne.2 fun texts => other (Cell.text_id.1 texts)⟩
  · show entry ∈ database.keys.filter _ ↔ _
    rw [List.mem_filter, mirrors.keys]
    simp only [Memory.find_keys_release, Memory.keys_remove]
    constructor
    · rintro ⟨⟨owner, key, held, listed, rfl⟩, apart⟩
      refine ⟨owner, key, held, ?_, rfl⟩
      rw [if_neg]
      · exact listed
      · rintro ⟨rfl, carries⟩
        have carried := (indexed.index e.owner key id).2 ⟨e, found, rfl, carries⟩
        rw [listed] at carried
        exact bne_iff_ne.1 apart (Cell.text_id.2 (Option.some.inj carried))
    · rintro ⟨owner, key, held, listed, rfl⟩
      split at listed
      · cases listed
      next other =>
        refine ⟨⟨owner, key, held, listed, rfl⟩, bne_iff_ne.2 fun texts => other ?_⟩
        obtain ⟨a, there, owned, carries⟩ := (indexed.index owner key held).1 listed
        rw [Cell.text_id.1 texts, found] at there
        obtain rfl := Option.some.inj there
        exact ⟨owned.symm, carries⟩
  · rw [Memory.get_release, Memory.get_remove] at there
    split at there
    · cases there
    · exact mirrors.bounded other a there

theorem Mirrors.stageDelete (mirrors : database.Mirrors memory) (indexed : memory.Indexed)
    (storable : memory.Storable) (id : EntityId) :
    Staged.Mirrors (database.stageDelete id) (memory.stageDelete id) := by
  rw [Database.stageDelete, Memory.stageDelete, mirrors.get indexed.filed storable]
  cases found : memory.get id with
  | none => exact .answered _
  | some e =>
    exact .ready ⟨.delete, e⟩ _ (decide_eq_true (mirrors.bounded id e found))
      (mirrors.deleteEntity indexed found)

end Database

/-! ## Stores -/

/-- A store in a database next to a store in memory whose gate also shuts out large numbers. -/
structure Mirrors (database : Store Database) (memory : Store Memory) : Prop where
  tables : database.tables.Mirrors memory.tables
  rule : memory.gate.rule = Gate.limited database.gate.rule
  calls : database.gate.calls = memory.gate.calls.filter WriteCall.fits

theorem Mirrors.commit {α : Type} {database : Store Database} {memory : Store Memory}
    (mirrors : Mirrors database memory) {left : Staged Database α} {right : Staged Memory α}
    (staged : Staged.Mirrors left right) :
    (database.commit left).1 = (memory.commit right).1 ∧
      Mirrors (database.commit left).2 (memory.commit right).2 := by
  cases staged with
  | refused fault => exact ⟨rfl, mirrors⟩
  | answered answer => exact ⟨rfl, mirrors⟩
  | @ready after copy call answer fits same =>
    have asked : memory.gate.rule memory.gate.calls call =
        database.gate.rule database.gate.calls call := by
      rw [mirrors.rule, Gate.limited, if_pos fits, mirrors.calls]
    have counted : call :: database.gate.calls =
        (call :: memory.gate.calls).filter WriteCall.fits := by
      rw [List.filter_cons, if_pos fits, mirrors.calls]
    obtain ⟨verdict, passed⟩ | ⟨fault, verdict, refused⟩ := memory.commit_ready call copy answer
    · rw [asked] at verdict
      rw [passed, Store.commit, Gate.ask, verdict]
      exact ⟨rfl, same, mirrors.rule, counted⟩
    · rw [asked] at verdict
      rw [refused, Store.commit, Gate.ask, verdict]
      exact ⟨rfl, mirrors.tables, mirrors.rule, counted⟩
  | tooLarge call copy answer large =>
    have verdict : memory.gate.rule memory.gate.calls call =
        .error (.databaseQuery .tooLarge) := by
      rw [mirrors.rule, Gate.limited, if_neg (by rw [large]; decide)]
    have unheard : database.gate.calls = (call :: memory.gate.calls).filter WriteCall.fits := by
      rw [List.filter_cons, if_neg (by rw [large]; decide), mirrors.calls]
    rw [Store.commit, Store.commit, Gate.ask, verdict]
    exact ⟨rfl, mirrors.tables, mirrors.rule, unheard⟩

end TenantWork.Store
