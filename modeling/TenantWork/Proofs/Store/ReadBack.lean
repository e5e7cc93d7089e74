import TenantWork.Proofs.Calls.KeyEntries
import TenantWork.Proofs.Store.Listing
import TenantWork.Proofs.Store.Lossless
/-!
Updates read back. The store in memory takes a snapshot as it is given, and reads and listings give
it back. A database keeps the kind, the key and the creation of what was inserted: it answers with
the snapshot it was given, and gives it back if the snapshot has those three, a status that its kind
declares and times that their texts name, and otherwise something else.
-/
namespace TenantWork

namespace Entity

/-- What an update with a snapshot leaves of a stored one. -/
def overwritten (stored e : Entity) : Entity :=
  { e with
    id := stored.id, owner := stored.owner, kind := stored.kind, key := stored.key
    createdAt := stored.createdAt }

/-- The snapshot has what no update writes, a status that its kind declares, and times of universal
time in years of four digits. -/
structure Continues (stored e : Entity) : Prop where
  kind : stored.kind = e.kind
  key : stored.key = e.key
  createdAt : Time.Rfc3339.asWritten stored.createdAt = e.createdAt
  declared : e.kind.lifecycle.declares e.status = true
  dated : e.Dated

theorem Readable.bumped {e : Entity} (readable : e.Readable) : e.bumped.Readable :=
  ⟨readable.payload, readable.result⟩

theorem filter_id {found : List Entity} {e : Entity} (distinct : (found.map Entity.id).Nodup) :
    (found.filter fun a => a.id = e.id) = [e] ↔ e ∈ found := by
  constructor
  · intro only
    have inside : e ∈ found.filter fun a => a.id = e.id := by
      rw [only]
      exact List.mem_singleton_self e
    exact (List.mem_filter.1 inside).1
  · induction found with
    | nil => exact fun impossible => (nomatch impossible)
    | cons a rest ih =>
      intro inside
      obtain ⟨apart, others⟩ := List.nodup_cons.1 distinct
      obtain rfl | later := List.mem_cons.1 inside
      · have none : rest.filter (fun a => a.id = e.id) = [] :=
          List.filter_eq_nil_iff.2 fun b there same =>
            apart (List.mem_map.2 ⟨b, there, of_decide_eq_true same⟩)
        rw [List.filter_cons, if_pos (decide_eq_true rfl), none]
      · have differ : a.id ≠ e.id := fun same =>
          apart (same ▸ List.mem_map_of_mem later)
        rw [List.filter_cons, if_neg fun same => differ (of_decide_eq_true same), ih others later]

end Entity

namespace Store

namespace Row

theorem updated_ofEntity (stored e : Entity) :
    (ofEntity stored).updated (ofEntity e) = ofEntity (stored.overwritten e) := by
  funext column
  cases column <;> rfl

theorem identifies_ofEntity {stored e : Entity} (id : stored.id = e.id)
    (owner : stored.owner = e.owner) :
    (ofEntity stored).Identifies e ↔ stored.kind = e.kind ∧ stored.key = e.key ∧
      Time.Rfc3339.asWritten stored.createdAt = e.createdAt ∧
        Time.Rfc3339.InRange e.createdAt := by
  constructor
  · intro same
    obtain ⟨kind, kindCell, kindRead⟩ := same.kind
    obtain ⟨text, createdCell, createdRead⟩ := same.createdAt
    obtain rfl := Cell.text.inj kindCell
    obtain rfl := Cell.text.inj createdCell
    rw [readKind, Kind.ofText?_name] at kindRead
    obtain ⟨years, createdAt⟩ := Time.Rfc3339.read_eq_ok_iff.1 (readTime_eq_ok createdRead)
    exact ⟨Except.ok.inj kindRead, ofText?_inj.1 same.key, createdAt,
      createdAt ▸ Time.Rfc3339.inRange_asWritten years⟩
  · rintro ⟨kind, key, createdAt, created⟩
    have years : Time.Rfc3339.InYears stored.createdAt :=
      Time.Rfc3339.inYears_asWritten.1 (createdAt ▸ created.years)
    refine ⟨Cell.text_id.2 id, Cell.text_owner.2 owner, ⟨_, rfl, ?_⟩, ofText?_inj.2 key,
      ⟨_, rfl, ?_⟩⟩
    · rw [readKind, Kind.ofText?_name, kind]
    · rw [readTime, Time.Rfc3339.read_eq_ok_iff.2 ⟨years, createdAt⟩]

end Row

/-! ## In a database -/

namespace Database

/-- Every row is that of a snapshot. -/
def Authored (database : Database) : Prop := ∀ row ∈ database.rows, ∃ e, row = Row.ofEntity e

variable {database after : Database} {e : Entity}

theorem Authored.grown (authored : database.Authored) (grown : Grown e database after) :
    after.Authored := by
  intro row inside
  rw [grown.rows, List.mem_append, List.mem_singleton] at inside
  obtain before | rfl := inside
  · exact authored row before
  · exact ⟨e, rfl⟩

theorem Authored.updateRow (authored : database.Authored) (id : EntityId) (e : Entity) :
    (database.updateRow id (.ofEntity e)).Authored := by
  intro row inside
  obtain ⟨old, before, rfl⟩ := mem_updateRow.1 inside
  obtain ⟨stored, rfl⟩ := authored old before
  split
  · exact ⟨_, Row.updated_ofEntity stored e⟩
  · exact ⟨stored, rfl⟩

theorem authored_of_reached {store : Store Database} (reached : store.Reached) :
    store.tables.Authored := by
  have commits {α : Type} {before : Store Database} (ih : before.tables.Authored)
      (staged : Staged Database α)
      (ready : ∀ call tables answer, staged = .ready call tables answer → tables.Authored) :
      (before.commit staged).2.tables.Authored := by
    obtain ⟨_, _, same⟩ | ⟨_, _, same⟩ | ⟨call, tables, answer, staged, _, same⟩ :=
      before.commit_cases staged
    · rwa [same]
    · rwa [same]
    · rw [same]
      exact ready call tables answer staged
  induction reached with
  | new gate => exact fun _ inside => nomatch inside
  | insert before e ih =>
    refine commits ih _ fun call tables answer ready => ?_
    obtain ⟨_, entered⟩ := stageInsert_eq_ready ready
    exact ih.grown (insertEntity_eq_ok entered).1
  | save before e ih =>
    refine commits ih _ fun call tables answer ready => ?_
    obtain ⟨_, rfl, _⟩ := stageSave_eq_ready ready
    exact ih.updateRow e.id e.bumped
  | delete before id ih =>
    refine commits ih _ fun call tables answer ready => ?_
    obtain ⟨_, rfl, _⟩ := stageDelete_eq_ready ready
    exact fun row inside => ih row (mem_deleteRow.1 inside).1

theorem get_iff_of_row {row : Row} (there : database.row? (.text e.id.text) = some row) :
    database.get e.id = .ok (some e) ↔ row.toEntity = .ok e := by
  rw [Database.get, there, Database.read]
  cases row.toEntity <;> simp

/-- An update that goes through finds a snapshot of the same owner and overwrites it. -/
theorem Authored.saved {store : Store Database} (authored : store.tables.Authored) {saved : Entity}
    (done : (store.save e).1 = .ok saved) :
    saved = e.bumped ∧
      (∃ stored, store.tables.row? (.text e.id.text) = some (Row.ofEntity stored)) ∧
      ∀ stored, store.tables.row? (.text e.id.text) = some (Row.ofEntity stored) →
        stored.id = e.id ∧ stored.owner = e.owner ∧
          (store.save e).2.tables.row? (.text e.id.text) =
            some (Row.ofEntity (stored.overwritten saved)) := by
  obtain ⟨rfl, after, row, there, owned, _⟩ := save_eq_ok done
  obtain ⟨inside, named⟩ := row?_eq_some_iff.1 there
  obtain ⟨first, same⟩ := authored row inside
  refine ⟨rfl, ⟨first, same ▸ there⟩, fun stored found => ?_⟩
  obtain rfl : row = Row.ofEntity stored := Option.some.inj (there.symm.trans found)
  refine ⟨Cell.text_id.1 named, Cell.text_owner.1 owned, ?_⟩
  rw [after, ← Row.updated_ofEntity]
  exact row?_updateRow (e := e.bumped) there

end Database

/-! ## Both -/

/-- A snapshot is what is read under its id and what a listing has for it. -/
def Shows {Tables : Type} [Storage Tables] (store : Store Tables) (e : Entity) : Prop :=
  store.get e.id = .ok (some e) ∧
    ∃ found, store.list (some e.owner) ⟨some e.kind, some e.status⟩ = .ok found ∧
      (found.filter fun a => a.id = e.id) = [e]

theorem shows_saved_in_memory {store : Store Memory} (filed : store.tables.Filed) {e saved : Entity}
    (done : (store.save e).1 = .ok saved) : saved = e.bumped ∧ (store.save e).2.Shows saved := by
  obtain ⟨fault, refused, _⟩ | ⟨_, _, _, _, passed, after⟩ := Memory.save_cases store e
  · cases refused.symm.trans done
  obtain rfl := Except.ok.inj (passed.symm.trans done)
  have filedAfter := filed.save e
  have got : (store.save e).2.tables.get e.bumped.id = some e.bumped := by
    rw [after, Memory.get_put, if_pos rfl]
  refine ⟨rfl, congrArg Except.ok got, _, rfl, ?_⟩
  rw [Entity.filter_id (Memory.list_nodup filedAfter _ _), Memory.mem_list filedAfter]
  exact ⟨got, by simp, by simp [Filter.accepts]⟩

theorem shows_saved_in_database {store : Store Database} (authored : store.tables.Authored)
    {e saved stored : Entity} (readable : e.Readable)
    (done : (store.save e).1 = .ok saved)
    (there : store.tables.row? (.text e.id.text) = some (Row.ofEntity stored)) :
    ((store.save e).2.get e.id = .ok (some saved) ↔ stored.Continues e) ∧
      ((store.save e).2.Shows saved ↔ stored.Continues e ∧
        ∀ row ∈ (store.save e).2.tables.rows, row .owner = .text e.owner.name →
          row .kind = .text e.kind.name → row .status = .text e.status.name →
            ∃ a, row.toEntity = .ok a) := by
  obtain ⟨rfl, _, overwrites⟩ := authored.saved done
  obtain ⟨id, owner, after⟩ := overwrites stored there
  have got : (store.save e).2.get e.id = .ok (some e.bumped) ↔ stored.Continues e := by
    refine (Database.get_iff_of_row (e := e.bumped) after).trans ?_
    rw [← Row.updated_ofEntity, Row.toEntity_updated readable.bumped,
      Row.identifies_ofEntity (e := e.bumped) id owner]
    constructor
    · rintro ⟨⟨kind, key, createdAt, created⟩, declared, updated, started, finished⟩
      exact ⟨kind, key, createdAt, declared, created, updated, started, finished⟩
    · rintro ⟨kind, key, createdAt, declared, dated⟩
      exact ⟨⟨kind, key, createdAt, dated.created⟩, declared,
        dated.updated, dated.started, dated.finished⟩
  have listed : (∃ found, (store.save e).2.list (some e.owner) ⟨some e.kind, some e.status⟩ =
      .ok found) ↔ ∀ row ∈ (store.save e).2.tables.rows, row .owner = .text e.owner.name →
        row .kind = .text e.kind.name → row .status = .text e.status.name →
          ∃ a, row.toEntity = .ok a := by
    refine Database.list_ok_iff.trans ?_
    simp only [Database.matchesText, Option.map_some, Option.all_some, Bool.and_eq_true, beq_iff_eq,
      and_imp]
  refine ⟨got, ?_, ?_⟩
  · rintro ⟨reads, found, lists, _⟩
    exact ⟨got.1 reads, listed.1 ⟨found, lists⟩⟩
  · rintro ⟨continues, others⟩
    obtain ⟨found, lists⟩ := listed.2 others
    refine ⟨got.2 continues, found, lists, (Entity.filter_id (Database.list_distinct lists)).2 ?_⟩
    refine (Database.mem_list_iff lists).2 ⟨got.2 continues, by simp [Entity.bumped],
      by simp [Filter.accepts, Entity.bumped], fun row there => ?_⟩
    obtain rfl := Option.some.inj (after.symm.trans there)
    exact ⟨fun _ => congrArg (fun kind : Kind => Cell.text kind.name) continues.kind, fun _ => rfl⟩

/-- An update that goes through answers with its snapshot, its number of updates raised by one. In
memory that is what is read and listed afterwards. In a database the stored snapshot is overwritten
but for its kind, its key and its creation, and the answer is what is read afterwards exactly if it
has those three, its kind declares its status and its times lie in universal time. It is what is
listed if, besides, the rows that are listed with it can be read. -/
theorem saved_is_shown (gate : Gate) (list : List Write) (e : Entity) :
    (let store : Store Memory := (Store.new gate).writes list
      ∀ saved, (store.save e).1 = .ok saved → saved = e.bumped ∧ (store.save e).2.Shows saved) ∧
    (e.Readable →
      let store : Store Database := (Store.new gate).writes list
      ∀ saved, (store.save e).1 = .ok saved → saved = e.bumped ∧
        (∃ stored, store.tables.row? (.text e.id.text) = some (Row.ofEntity stored)) ∧
        ∀ stored, store.tables.row? (.text e.id.text) = some (Row.ofEntity stored) →
          (store.save e).2.tables.row? (.text e.id.text) =
            some (Row.ofEntity (stored.overwritten saved)) ∧
          ((store.save e).2.get e.id = .ok (some saved) ↔ stored.Continues e) ∧
          ((store.save e).2.Shows saved ↔ stored.Continues e ∧
            ∀ row ∈ (store.save e).2.tables.rows, row .owner = .text e.owner.name →
              row .kind = .text e.kind.name → row .status = .text e.status.name →
                ∃ a, row.toEntity = .ok a)) := by
  refine ⟨fun saved done => ?_, fun readable saved done => ?_⟩
  · exact shows_saved_in_memory (Memory.filed_of_reached ((Reached.new gate).writes list)) done
  · have authored := Database.authored_of_reached ((Reached.new gate).writes list)
    obtain ⟨same, found, overwrites⟩ := authored.saved done
    exact ⟨same, found, fun stored there => ⟨(overwrites stored there).2.2,
      shows_saved_in_database authored readable done there⟩⟩

/-- A job that is set running. -/
theorem running_job_is_shown :
    let job := Entity.create ⟨"a"⟩ ⟨"u", by decide⟩ .job .null none .epoch
    let e := { job with status := .running, startedAt := some .epoch }
    let memory : Store Memory := (Store.new Gate.always).writes [.insert job]
    let database : Store Database := (Store.new Gate.always).writes [.insert job]
    e.Dated ∧ e.Readable ∧
      (memory.save e).1 = .ok e.bumped ∧ (memory.save e).2.Shows e.bumped ∧
      (database.save e).1 = .ok e.bumped ∧ (database.save e).2.Shows e.bumped := by
  intro job e memory database
  have range := Time.Rfc3339.inRange_epoch
  have dated : e.Dated := ⟨range, range, fun t same => Option.some.inj same ▸ range,
    fun t impossible => (nomatch impossible)⟩
  have readable : e.Readable := Entity.readable_of_null rfl rfl
  have inMemory : (memory.save e).1 = .ok e.bumped := rfl
  have inDatabase : (database.save e).1 = .ok e.bumped := rfl
  have there : database.tables.row? (.text e.id.text) = some (Row.ofEntity job) := rfl
  obtain ⟨memoryShows, databaseShows⟩ := saved_is_shown Gate.always [.insert job] e
  obtain ⟨_, _, shows⟩ := databaseShows readable e.bumped inDatabase
  have others (row : Row) (inside : row ∈ (database.save e).2.tables.rows) :
      ∃ a, row.toEntity = .ok a := by
    obtain ⟨_, after, _⟩ := Database.save_eq_ok inDatabase
    rw [after] at inside
    obtain ⟨old, before, rfl⟩ := Database.mem_updateRow.1 inside
    obtain rfl : old = Row.ofEntity job := List.eq_of_mem_singleton before
    have named : Row.ofEntity job .id = .text e.id.text := rfl
    rw [if_pos named, Row.updated_ofEntity]
    exact ⟨_, Row.toEntity_ofEntity (Entity.Storable.bumped ⟨⟨rfl, dated⟩, readable⟩)⟩
  exact ⟨dated, readable, inMemory, (memoryShows e.bumped inMemory).2, inDatabase,
    (shows job there).2.2.2 ⟨⟨rfl, rfl, rfl, rfl, dated⟩, fun row inside _ _ _ => others row inside⟩⟩

/-- A job saved as a backtest is answered as a backtest, read as a job and not listed. -/
theorem kind_of_saved_job_is_not_stored :
    let job := Entity.create ⟨"a"⟩ ⟨"u", by decide⟩ .job .null none .epoch
    let e := { job with kind := .backtestTask }
    let memory : Store Memory := (Store.new Gate.always).writes [.insert job]
    let database : Store Database := (Store.new Gate.always).writes [.insert job]
    e.Dated ∧ e.Readable ∧
      (memory.save e).1 = .ok e.bumped ∧ (memory.save e).2.get job.id = .ok (some e.bumped) ∧
      (database.save e).1 = .ok e.bumped ∧ (database.save e).2.get job.id = .ok (some job.bumped) ∧
      (database.save e).2.list (some e.owner) ⟨some e.kind, some e.status⟩ = .ok [] := by
  intro job e memory database
  have storable : job.Storable := Entity.create_storable Time.Rfc3339.inRange_epoch
  have dated := storable.regular.dated
  have inDatabase : (database.save e).1 = .ok e.bumped := rfl
  have there : database.tables.row? (.text job.bumped.id.text) = some (Row.ofEntity job) := rfl
  have authored : database.tables.Authored := fun row inside =>
    ⟨job, List.eq_of_mem_singleton inside⟩
  obtain ⟨_, _, overwrites⟩ := authored.saved inDatabase
  obtain ⟨_, _, after⟩ := overwrites job there
  have got : (database.save e).2.tables.get job.bumped.id = .ok (some job.bumped) :=
    (Database.get_iff_of_row (e := job.bumped) after).2 (Row.toEntity_ofEntity storable.bumped)
  refine ⟨⟨dated.created, dated.updated, dated.started, dated.finished⟩,
    Entity.readable_of_null rfl rfl, rfl, rfl, inDatabase, got, Database.list_eq_ok.2 ?_⟩
  exact congrArg (List.mapM Row.toEntity) List.mergeSort_nil

end Store

end TenantWork
