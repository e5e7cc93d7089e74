import TenantWork.Proofs.Calls.Atomic
import TenantWork.Proofs.Calls.Readable
/-!
Stores that give back what they were given. Memory does so with any snapshot. A database does if the
times of a snapshot are universal and lie in years of four digits, its JSON is read back from its
compact text and its number of updates fits the column.
-/
namespace TenantWork.Store

/-- The snapshot is the one under its id, as it is read. -/
def Stored {Tables : Type} [Storage Tables] (tables : Tables) (e : Entity) : Prop :=
  Storage.get tables e.id = .ok (some e)

instance (memory : Memory) (e : Entity) : Decidable (Stored memory e) :=
  decidable_of_iff (memory.get e.id = some e)
    ⟨fun there => congrArg Except.ok there, Except.ok.inj⟩

class Faithful (Tables : Type) [Storage Tables] where
  /-- Tables that take a new entity under a free id and a free key. -/
  Sound : Tables → Prop
  Moment : Time.Instant → Prop
  Value : Json → Prop
  /-- The snapshot is read as it is written, with room for so many updates of it. -/
  Lasts : Nat → Entity → Prop
  created (id : EntityId) (owner : Owner) (kind : Kind) {payload : Json} (key : Option String)
    {now : Time.Instant} (value : Value payload) (moment : Moment now) :
    Lasts 2 (.create id owner kind payload key now)
  applied {n : Nat} {e next : Entity} {request : Transition} {now : Time.Instant}
    (lasts : Lasts (n + 1) e) (moment : Moment now)
    (value : ∀ result, request.result = some result → Value result)
    (applied : e.apply request now = .ok next) : Lasts n next.bumped
  insert {tables : Tables} {n : Nat} {e : Entity} (sound : Sound tables)
    (unused : Storage.get tables e.id = .ok none)
    (free : ∀ key, e.key = some key → Storage.find tables e.owner key = .ok none)
    (moment : Moment e.createdAt) (lasts : Lasts n e) :
    ∃ after, Storage.stageInsert tables e = .ready ⟨.insert, e⟩ after (.inserted e) ∧
      Stored after e
  save {tables : Tables} {n : Nat} {e next : Entity} (stored : Stored tables e)
    (lasts : Lasts (n + 1) e) (work : e.SameWork next) (later : Lasts n next.bumped) :
    ∃ after, Storage.stageSave tables next = .ready ⟨.update, next.bumped⟩ after next.bumped ∧
      Stored after next.bumped
  stale {tables : Tables} {n : Nat} {e old : Entity} (stored : Stored tables e)
    (lasts : Lasts n e) (id : old.id = e.id) (owner : old.owner = e.owner)
    (older : old.revision < e.revision) :
    Storage.stageSave tables old = .refused (.invalidTransition e.status old.status)

/-! ## In memory -/

instance : Faithful Memory where
  Sound _ := True
  Moment _ := True
  Value _ := True
  Lasts _ _ := True
  created _ _ _ _ _ _ _ _ := trivial
  applied _ _ _ _ := trivial
  insert {memory n e} _ unused free _ _ := by
    have unheld : memory.holder e = none := by
      unfold Memory.holder
      cases carries : e.key with
      | none => rfl
      | some key => exact Except.ok.inj (free key carries)
    have absent : memory.get e.id = none := Except.ok.inj unused
    refine ⟨(memory.put e).claim e, ?_, ?_⟩
    · simp only [Storage.stageInsert, Memory.stageInsert, unheld, absent, Option.isSome_none,
        Bool.false_eq_true, if_false]
    · refine congrArg Except.ok ?_
      rw [Memory.get_claim, Memory.get_put, if_pos rfl]
  save {memory n e next} stored _ work _ := by
    have there : memory.get next.id = some e := by
      rw [work.id]
      exact Except.ok.inj stored
    refine ⟨memory.put next.bumped, ?_, ?_⟩
    · simp only [Storage.stageSave, Memory.stageSave, there, work.owner, work.revision, ne_eq,
        not_true_eq_false, if_false]
    · refine congrArg Except.ok ?_
      rw [Memory.get_put, if_pos rfl]
  stale {memory n e old} stored _ id owner older := by
    have there : memory.get old.id = some e := by
      rw [id]
      exact Except.ok.inj stored
    simp only [Storage.stageSave, Memory.stageSave, there, owner, ne_eq, not_true_eq_false,
      if_false, if_pos (Nat.ne_of_gt older)]

/-! ## In a database -/

namespace Row

theorem Identifies.sameWork {row : Row} {e next : Entity} (same : row.Identifies e)
    (work : e.SameWork next) : row.Identifies next := by
  obtain ⟨id, owner, kind, key, createdAt⟩ := same
  rw [← work.id] at id
  rw [← work.owner] at owner
  rw [← work.kind] at kind
  rw [← work.key] at key
  rw [← work.createdAt] at createdAt
  exact ⟨id, owner, kind, key, createdAt⟩

theorem Identifies.bumped {row : Row} {e : Entity} (same : row.Identifies e) :
    row.Identifies e.bumped :=
  ⟨same.id, same.owner, same.kind, same.key, same.createdAt⟩

theorem Denotes.status_parse {row : Row} {e : Entity} (denotes : row.Denotes e) :
    ∃ text, row .status = .text text ∧ Status.parse text = .ok e.status := by
  obtain ⟨text, cell, read⟩ := denotes.status
  refine ⟨text, cell, ?_⟩
  unfold readStatus at read
  split at read
  next status found =>
    split at read
    · obtain rfl := Except.ok.inj read
      rw [Status.parse, found]
    · cases read
  next => cases read

end Row

namespace Database

/-- What an entity must be for a row to hold it through so many updates. -/
structure Lasts (n : Nat) (e : Entity) : Prop where
  declared : e.kind.lifecycle.declares e.status = true
  timed : e.Timed
  readable : e.Readable
  room : e.revision + n ≤ columnLimit

variable {database : Database} {e : Entity}

theorem stored_iff : Stored database e ↔
    ∃ row, database.row? (.text e.id.text) = some row ∧ row.Denotes e := by
  constructor
  · intro stored
    obtain ⟨row, there, read, _⟩ := row_of_get stored
    exact ⟨row, there, Row.denotes_of_toEntity read⟩
  · rintro ⟨row, there, denotes⟩
    show database.get e.id = .ok (some e)
    rw [Database.get, there, Database.read, denotes.toEntity]

theorem Lasts.apply {n : Nat} (lasts : Lasts (n + 1) e) {request : Transition}
    {now : Time.Instant} {next : Entity} (inRange : Time.Rfc3339.InRange now)
    (readable : ∀ result, request.result = some result → result.Readable)
    (applied : e.apply request now = .ok next) : Lasts n next.bumped := by
  obtain ⟨allowed, rfl⟩ := Entity.apply_eq_ok_iff.1 applied
  have work := Entity.entering_same e request (.latest now e.updatedAt)
  obtain ⟨updated, started, finished⟩ :=
    lasts.timed.entering request (Entity.stamp_of inRange lasts.timed.updated)
  refine ⟨?_, ⟨updated, started, finished⟩, ⟨?_, fun value found => ?_⟩, ?_⟩
  · show (e.entering request _).kind.lifecycle.declares request.target = true
    rw [work.kind]
    exact Kind.declares_of_allows allowed
  · show (e.entering request _).payload.Readable
    rw [work.payload]
    exact lasts.readable.payload
  · obtain kept | new | rfl := Entity.entering_result found
    · exact lasts.readable.result value kept
    · exact readable value new
    · exact Json.readable_null
  · show (e.entering request _).revision + 1 + n ≤ columnLimit
    rw [work.revision, Nat.add_assoc, Nat.add_comm 1 n]
    exact lasts.room

/-- A key under which nothing is found has no entry. -/
theorem holder_of_find (indexed : database.Indexed)
    (free : ∀ key, e.key = some key → database.find e.owner key = .ok none) :
    database.holder e = .ok none := by
  unfold holder
  cases carries : e.key with
  | none => rfl
  | some key =>
    dsimp only
    cases listed : database.keyRow? (.text e.owner.name) (.text key) with
    | none => rfl
    | some entry =>
      obtain ⟨inside, _, _⟩ := keyRow?_eq_some_iff.1 listed
      obtain ⟨row, there, held, own, read, _, rfl⟩ := (indexed entry).1 inside
      have found := free key carries
      have stands := row?_eq_some_iff.2 ⟨there, (Row.holds_of_toEntity read).id⟩
      simp only [Database.find, listed, KeyRow.of, stands, Database.read, read] at found
      cases found

theorem Lasts.create (id : EntityId) (owner : Owner) (kind : Kind) {payload : Json}
    (key : Option String) {now : Time.Instant} (readable : payload.Readable)
    (inRange : Time.Rfc3339.InRange now) : Lasts 2 (.create id owner kind payload key now) := by
  have regular := Entity.create_regular id owner kind payload key inRange
  refine ⟨regular.declared, regular.dated.updates, ⟨readable, fun _ impossible => ?_⟩,
    Nat.le_of_ble_eq_true rfl⟩
  cases impossible

theorem Lasts.insert {n : Nat} (legible : database.Legible) (indexed : database.Indexed)
    (unused : database.get e.id = .ok none)
    (free : ∀ key, e.key = some key → database.find e.owner key = .ok none)
    (inRange : Time.Rfc3339.InRange e.createdAt) (lasts : Lasts n e) :
    ∃ after, database.stageInsert e = .ready ⟨.insert, e⟩ after (.inserted e) ∧
      Stored after e := by
  have holder := holder_of_find indexed free
  have absent : database.Unused e.id := by
    intro row inside named
    obtain ⟨stored, read⟩ := legible row inside
    have there := row?_eq_some_iff.2 ⟨inside, named⟩
    simp only [Database.get, there, Database.read, read] at unused
    cases unused
  have tidy : database.Tidy e.owner := legible.tidy indexed
  obtain ⟨after, entered, grown⟩ := insertEntity_grown tidy rfl holder absent
    (Nat.le_trans (Nat.le_add_right _ n) lasts.room)
  have storable : e.Storable :=
    ⟨⟨lasts.declared, inRange, lasts.timed.updated, lasts.timed.started, lasts.timed.finished⟩,
      lasts.readable⟩
  refine ⟨after, ?_, stored_iff.2 ⟨.ofEntity e, ?_, ?_⟩⟩
  · simp only [Database.stageInsert, holder, entered]
  · refine row?_eq_some_iff.2 ⟨?_, rfl⟩
    rw [grown.rows]
    exact List.mem_append_right _ (List.mem_singleton_self _)
  · exact Row.denotes_of_toEntity (Row.toEntity_ofEntity storable)

theorem Lasts.save {n : Nat} {next : Entity} (stored : Stored database e) (lasts : Lasts (n + 1) e)
    (work : e.SameWork next) (later : Lasts n next.bumped) :
    ∃ after, database.stageSave next = .ready ⟨.update, next.bumped⟩ after next.bumped ∧
      Stored after next.bumped := by
  obtain ⟨row, there, denotes⟩ := stored_iff.1 stored
  obtain ⟨text, status, _⟩ := denotes.status
  rw [← work.id] at there
  have texts : ownerAndStatus row = .ok (next.owner.name, text) := by
    rw [ownerAndStatus, denotes.owner, status, work.owner]
    rfl
  have room : ¬columnLimit < e.revision + 1 := by
    have := lasts.room
    omega
  refine ⟨database.updateRow next.id (.ofEntity next.bumped), ?_, stored_iff.2 ⟨_, ?_,
    (denotes.identifies.sameWork work).bumped.rewritten later.declared later.timed later.readable⟩⟩
  · simp only [Database.stageSave, there, texts, if_neg room, denotes.revision, work.revision,
      ne_eq, not_true_eq_false, if_false]
  · exact row?_updateRow (e := next.bumped) there

theorem Lasts.stale {n : Nat} {old : Entity} (stored : Stored database e) (lasts : Lasts n e)
    (id : old.id = e.id) (owner : old.owner = e.owner) (older : old.revision < e.revision) :
    database.stageSave old = .refused (.invalidTransition e.status old.status) := by
  obtain ⟨row, there, denotes⟩ := stored_iff.1 stored
  obtain ⟨text, status, parsed⟩ := denotes.status_parse
  have texts : ownerAndStatus row = .ok (old.owner.name, text) := by
    rw [ownerAndStatus, denotes.owner, status, owner]
    rfl
  have room : ¬columnLimit < old.revision + 1 := by
    have := lasts.room
    omega
  have apart : (Cell.integer e.revision) ≠ .integer old.revision := by
    rw [Ne, Cell.integer.injEq]
    omega
  simp only [Database.stageSave, id, there, texts, if_neg room, denotes.revision, if_pos apart,
    parsed, ne_eq, not_true_eq_false, if_false]

instance : Faithful Database where
  Sound database := database.Legible ∧ database.Indexed
  Moment := Time.Rfc3339.InRange
  Value := Json.Readable
  Lasts := Lasts
  created id owner kind _ key _ value moment := Lasts.create id owner kind key value moment
  applied lasts moment values applied := lasts.apply moment values applied
  insert sound unused free moment lasts := Lasts.insert sound.1 sound.2 unused free moment lasts
  save stored lasts work later := Lasts.save stored lasts work later
  stale stored lasts id owner older := Lasts.stale stored lasts id owner older

end Database

end TenantWork.Store
