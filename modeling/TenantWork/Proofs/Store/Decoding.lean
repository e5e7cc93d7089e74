import TenantWork.Proofs.Calls.Contents
import TenantWork.Proofs.Json.Written
import TenantWork.Proofs.Time.Universal
/-!
Rows that stay readable. What a row denotes is said column by column, so the row after an update is
read as a mixture of the old row and the new columns. Snapshots whose JSON nests no deeper than texts
may, and whose times lie in years of four digits, leave rows that are read again, as such snapshots.
-/
namespace TenantWork

namespace Store

/-! ## What a row denotes -/

namespace Row

/-- The values that the columns of a row are read as. -/
structure Denotes (row : Row) (e : Entity) : Prop where
  id : row .id = .text e.id.text
  owner : row .owner = .text e.owner.name
  kind : ∃ text, row .kind = .text text ∧ readKind text = .ok e.kind
  payload : ∃ text, row .payload = .text text ∧ readJson .payload text = .ok e.payload
  key : row .key = .ofText? e.key
  status : ∃ text, row .status = .text text ∧ readStatus e.kind text = .ok e.status
  result : ∃ text, row .result = .ofText? text ∧ readOptional (readJson .result) text = .ok e.result
  errorCode : row .errorCode = .ofText? e.errorCode
  errorMessage : row .errorMessage = .ofText? e.errorMessage
  executor : row .executor = .ofText? e.executor
  dispatch : row .dispatch = .ofText? e.dispatch
  createdAt : ∃ text, row .createdAt = .text text ∧ readTime .createdAt text = .ok e.createdAt
  updatedAt : ∃ text, row .updatedAt = .text text ∧ readTime .updatedAt text = .ok e.updatedAt
  startedAt : ∃ text, row .startedAt = .ofText? text ∧
    readOptional (readTime .startedAt) text = .ok e.startedAt
  finishedAt : ∃ text, row .finishedAt = .ofText? text ∧
    readOptional (readTime .finishedAt) text = .ok e.finishedAt
  revision : row .revision = .integer e.revision

/-- The row stands for the same work as a snapshot: the columns that no update writes are read as
the snapshot has them. -/
structure Identifies (row : Row) (e : Entity) : Prop where
  id : row .id = .text e.id.text
  owner : row .owner = .text e.owner.name
  kind : ∃ text, row .kind = .text text ∧ readKind text = .ok e.kind
  key : row .key = .ofText? e.key
  createdAt : ∃ text, row .createdAt = .text text ∧ readTime .createdAt text = .ok e.createdAt

theorem Denotes.identifies {row : Row} {e : Entity} (denotes : row.Denotes e) : row.Identifies e :=
  ⟨denotes.id, denotes.owner, denotes.kind, denotes.key, denotes.createdAt⟩

theorem readOwner_eq_ok {name : String} {owner : Owner} (read : readOwner name = .ok owner) :
    owner.name = name := by
  unfold readOwner at read
  split at read
  · obtain rfl := Except.ok.inj read
    rfl
  · cases read

theorem readCount_eq_ok {cell : Cell} {index n : Nat} {name : String}
    (read : cell.readCount index name = .ok n) : cell = .integer n := by
  unfold Cell.readCount at read
  split at read
  · obtain rfl := Except.ok.inj read
    rfl
  · cases read
  · cases read

theorem denotes_of_toEntity {row : Row} {e : Entity} (read : row.toEntity = .ok e) :
    row.Denotes e := by
  unfold toEntity at read
  obtain ⟨_, ownerText, read⟩ := bind_eq_ok read
  obtain ⟨_, kindText, read⟩ := bind_eq_ok read
  obtain ⟨_, payloadText, read⟩ := bind_eq_ok read
  obtain ⟨_, statusText, read⟩ := bind_eq_ok read
  obtain ⟨_, resultText, read⟩ := bind_eq_ok read
  obtain ⟨_, createdText, read⟩ := bind_eq_ok read
  obtain ⟨_, updatedText, read⟩ := bind_eq_ok read
  obtain ⟨_, startedText, read⟩ := bind_eq_ok read
  obtain ⟨_, finishedText, read⟩ := bind_eq_ok read
  obtain ⟨_, kind, read⟩ := bind_eq_ok read
  obtain ⟨_, status, read⟩ := bind_eq_ok read
  obtain ⟨_, id, read⟩ := bind_eq_ok read
  obtain ⟨_, owner, read⟩ := bind_eq_ok read
  obtain ⟨_, payload, read⟩ := bind_eq_ok read
  obtain ⟨_, key, read⟩ := bind_eq_ok read
  obtain ⟨_, result, read⟩ := bind_eq_ok read
  obtain ⟨_, errorCode, read⟩ := bind_eq_ok read
  obtain ⟨_, errorMessage, read⟩ := bind_eq_ok read
  obtain ⟨_, executor, read⟩ := bind_eq_ok read
  obtain ⟨_, dispatch, read⟩ := bind_eq_ok read
  obtain ⟨_, createdAt, read⟩ := bind_eq_ok read
  obtain ⟨_, updatedAt, read⟩ := bind_eq_ok read
  obtain ⟨_, startedAt, read⟩ := bind_eq_ok read
  obtain ⟨_, finishedAt, read⟩ := bind_eq_ok read
  obtain ⟨_, revision, read⟩ := bind_eq_ok read
  obtain rfl := Except.ok.inj read
  exact {
    id := text_eq_ok id
    owner := by
      rw [readOwner_eq_ok owner]
      exact text_eq_ok ownerText
    kind := ⟨_, text_eq_ok kindText, kind⟩
    payload := ⟨_, text_eq_ok payloadText, payload⟩
    key := text?_eq_ok key
    status := ⟨_, text_eq_ok statusText, status⟩
    result := ⟨_, text?_eq_ok resultText, result⟩
    errorCode := text?_eq_ok errorCode
    errorMessage := text?_eq_ok errorMessage
    executor := text?_eq_ok executor
    dispatch := text?_eq_ok dispatch
    createdAt := ⟨_, text_eq_ok createdText, createdAt⟩
    updatedAt := ⟨_, text_eq_ok updatedText, updatedAt⟩
    startedAt := ⟨_, text?_eq_ok startedText, startedAt⟩
    finishedAt := ⟨_, text?_eq_ok finishedText, finishedAt⟩
    revision := readCount_eq_ok revision }

theorem Denotes.toEntity {row : Row} {e : Entity} (denotes : row.Denotes e) :
    row.toEntity = .ok e := by
  obtain ⟨_, kindCell, kind⟩ := denotes.kind
  obtain ⟨_, payloadCell, payload⟩ := denotes.payload
  obtain ⟨_, statusCell, status⟩ := denotes.status
  obtain ⟨_, resultCell, result⟩ := denotes.result
  obtain ⟨_, createdCell, created⟩ := denotes.createdAt
  obtain ⟨_, updatedCell, updated⟩ := denotes.updatedAt
  obtain ⟨_, startedCell, started⟩ := denotes.startedAt
  obtain ⟨_, finishedCell, finished⟩ := denotes.finishedAt
  have owner : readOwner e.owner.name = .ok e.owner := dif_pos e.owner.named
  have count : (Cell.integer e.revision).readCount Column.revision.index Column.revision.name =
      .ok e.revision := rfl
  simp only [Row.toEntity, text, text?, denotes.id, denotes.owner, kindCell, payloadCell,
    denotes.key, statusCell, resultCell, denotes.errorCode, denotes.errorMessage, denotes.executor,
    denotes.dispatch, createdCell, updatedCell, startedCell, finishedCell, denotes.revision,
    Cell.readText, text?_ofText?, bind, Except.bind, pure, Except.pure, kind, status, owner, payload,
    result, created, updated, started, finished, count]

theorem readStatus_eq_ok {kind : Kind} {text : String} {status : Status}
    (read : readStatus kind text = .ok status) : kind.lifecycle.declares status = true := by
  unfold readStatus at read
  split at read
  · split at read
    next declared =>
      obtain rfl := Except.ok.inj read
      exact declared
    next => cases read
  · cases read

theorem readJson_eq_ok {column : Column} {text : String} {value : Json}
    (read : readJson column text = .ok value) : value.Within Json.Reader.depthLimit := by
  unfold readJson at read
  split at read
  next parsed =>
    obtain rfl := Except.ok.inj read
    exact Json.within_of_parse parsed
  next => cases read

theorem readOptional_eq_ok {α : Type} {read : String → Except QueryFault α} {text : Option String}
    {value : α} (done : readOptional read text = .ok (some value)) :
    ∃ given, text = some given ∧ read given = .ok value := by
  cases text with
  | none => cases done
  | some given =>
    cases found : read given with
    | error fault =>
      simp only [readOptional, found] at done
      cases done
    | ok other =>
      simp only [readOptional, found] at done
      obtain rfl := Option.some.inj (Except.ok.inj done)
      exact ⟨given, rfl, found⟩

/-- A row shows no times but those of universal time. -/
theorem Denotes.universal {row : Row} {e : Entity} (denotes : row.Denotes e) :
    e.AllTimes Time.Rfc3339.Universal := by
  have optional {time : Option Time.Instant} {column : Column} {text : Option String}
      (read : readOptional (readTime column) text = .ok time) (t : Time.Instant)
      (there : time = some t) : Time.Rfc3339.Universal t := by
    rw [there] at read
    obtain ⟨given, _, read⟩ := readOptional_eq_ok read
    exact Time.Rfc3339.universal_of_read (readTime_eq_ok read)
  obtain ⟨_, _, created⟩ := denotes.createdAt
  obtain ⟨_, _, updated⟩ := denotes.updatedAt
  obtain ⟨_, _, started⟩ := denotes.startedAt
  obtain ⟨_, _, finished⟩ := denotes.finishedAt
  exact ⟨Time.Rfc3339.universal_of_read (readTime_eq_ok created),
    Time.Rfc3339.universal_of_read (readTime_eq_ok updated), optional started, optional finished⟩

end Row

end Store

/-! ## Snapshots that leave readable rows -/

namespace Entity

/-- The times that every update writes anew are so. The time of creation is written once and never
again. -/
structure UpdateTimes (P : Time.Instant → Prop) (e : Entity) : Prop where
  updated : P e.updatedAt
  started : ∀ t, e.startedAt = some t → P t
  finished : ∀ t, e.finishedAt = some t → P t

abbrev Timed (e : Entity) : Prop := e.UpdateTimes Time.Rfc3339.InRange

/-- A snapshot that an update leaves readable: in a status that its kind declares, with times in years
of four digits, a payload of no more levels than the limit, and a result that texts can hold. -/
structure Lasting (limit : Nat) (e : Entity) : Prop where
  declared : e.kind.lifecycle.declares e.status = true
  years : e.UpdateTimes Time.Rfc3339.InYears
  payload : e.payload.Within limit
  result : ∀ value, e.result = some value → value.Within Json.Reader.depthLimit

theorem AllTimes.updates {P : Time.Instant → Prop} {e : Entity} (times : e.AllTimes P) :
    e.UpdateTimes P :=
  ⟨times.updated, times.started, times.finished⟩

theorem Timed.years {e : Entity} (timed : e.Timed) : e.UpdateTimes Time.Rfc3339.InYears :=
  ⟨timed.updated.years, fun t same => (timed.started t same).years,
    fun t same => (timed.finished t same).years⟩

theorem UpdateTimes.timed {e : Entity} (years : e.UpdateTimes Time.Rfc3339.InYears)
    (universal : e.AllTimes Time.Rfc3339.Universal) : e.Timed :=
  ⟨⟨years.updated, universal.updated⟩, fun t same => ⟨years.started t same, universal.started t same⟩,
    fun t same => ⟨years.finished t same, universal.finished t same⟩⟩

theorem UpdateTimes.asWritten {e : Entity} (years : e.UpdateTimes Time.Rfc3339.InYears) :
    e.asWritten.Timed := by
  have dated : ({ e with createdAt := e.updatedAt } : Entity).asWritten.Dated :=
    AllTimes.dated ⟨years.updated, years.updated, years.started, years.finished⟩
  exact ⟨dated.updated, dated.started, dated.finished⟩

/-- The row of a lasting snapshot is also that of another one with nothing but universal time. -/
theorem Lasting.asWritten {limit : Nat} {e : Entity} (lasting : e.Lasting limit) :
    e.asWritten.Lasting limit :=
  ⟨lasting.declared, lasting.years.asWritten.years, lasting.payload, lasting.result⟩

end Entity

namespace Store

namespace Row

variable {limit : Nat} {row : Row} {e old : Entity}

/-- What is read is in a declared status and nests no deeper than texts may. -/
theorem Denotes.lasting (denotes : row.Denotes e) (years : e.UpdateTimes Time.Rfc3339.InYears)
    (payload : e.payload.Within limit) : e.Lasting limit := by
  obtain ⟨_, _, status⟩ := denotes.status
  obtain ⟨_, _, result⟩ := denotes.result
  refine ⟨readStatus_eq_ok status, years, payload, fun value found => ?_⟩
  rw [found] at result
  obtain ⟨_, _, read⟩ := readOptional_eq_ok result
  exact readJson_eq_ok read

/-- The JSON of a lasting snapshot as it is read again. -/
theorem reread_of_lasting (lasting : e.Lasting limit) (small : limit ≤ Json.Reader.depthLimit) :
    ∃ payload result, readJson .payload e.payload.compact = .ok payload ∧
      readOptional (readJson .result) (e.result.map Json.compact) = .ok result ∧
      ({ e with payload := payload, result := result } : Entity).Lasting limit := by
  have read (column : Column) {depth : Nat} {value : Json} (within : value.Within depth)
      (few : depth ≤ Json.Reader.depthLimit) :
      ∃ again, readJson column value.compact = .ok again ∧ again.Within depth := by
    obtain ⟨again, parsed, inside⟩ := Json.parse_compact within few
    exact ⟨again, by rw [readJson, parsed], inside⟩
  obtain ⟨payload, payloadRead, payloadWithin⟩ := read .payload lasting.payload small
  cases found : e.result with
  | none =>
    refine ⟨payload, none, payloadRead, rfl, lasting.declared, ?_, payloadWithin, ?_⟩
    · exact ⟨lasting.years.updated, lasting.years.started, lasting.years.finished⟩
    · exact fun value impossible => by cases impossible
  | some value =>
    obtain ⟨result, resultRead, resultWithin⟩ := read .result (lasting.result value found) le_rfl
    refine ⟨payload, some result, payloadRead, ?_, lasting.declared, ?_, payloadWithin, ?_⟩
    · simp only [Option.map_some, readOptional, resultRead, Except.map]
    · exact ⟨lasting.years.updated, lasting.years.started, lasting.years.finished⟩
    · intro other same
      obtain rfl := Option.some.inj same
      exact resultWithin

theorem readTimes_of_timed (timed : e.Timed) :
    readTime .updatedAt (Time.Rfc3339.writeNanos e.updatedAt) = .ok e.updatedAt ∧
      readOptional (readTime .startedAt) (e.startedAt.map Time.Rfc3339.writeNanos) = .ok e.startedAt ∧
      readOptional (readTime .finishedAt) (e.finishedAt.map Time.Rfc3339.writeNanos) =
        .ok e.finishedAt :=
  ⟨readTime_writeNanos timed.updated _,
    readOptional_map fun t same => readTime_writeNanos (timed.started t same) _,
    readOptional_map fun t same => readTime_writeNanos (timed.finished t same) _⟩

theorem timeCell?_eq (t : Option Time.Instant) :
    timeCell? t = .ofText? (t.map Time.Rfc3339.writeNanos) := by
  cases t <;> rfl

theorem ofText?_inj {a b : Option String} : Cell.ofText? a = .ofText? b ↔ a = b := by
  cases a <;> cases b <;> simp [Cell.ofText?]

/-- An update writes every column but those that say which work the row is about. -/
theorem Identifies.written (same : row.Identifies e)
    (declared : e.kind.lifecycle.declares e.status = true) (timed : e.Timed)
    {payload : Json} {result : Option Json}
    (payloadRead : readJson .payload e.payload.compact = .ok payload)
    (resultRead : readOptional (readJson .result) (e.result.map Json.compact) = .ok result) :
    (row.updated (ofEntity e)).Denotes { e with payload := payload, result := result } := by
  obtain ⟨updated, started, finished⟩ := readTimes_of_timed timed
  exact {
    id := same.id
    owner := same.owner
    kind := same.kind
    payload := ⟨_, rfl, payloadRead⟩
    key := same.key
    status := ⟨_, rfl, readStatus_name declared⟩
    result := ⟨_, rfl, resultRead⟩
    errorCode := rfl
    errorMessage := rfl
    executor := rfl
    dispatch := rfl
    createdAt := same.createdAt
    updatedAt := ⟨_, rfl, updated⟩
    startedAt := ⟨_, timeCell?_eq _, started⟩
    finishedAt := ⟨_, timeCell?_eq _, finished⟩
    revision := rfl }

/-- An update with a snapshot of the same work that texts can hold is read as it was written. -/
theorem Identifies.rewritten (same : row.Identifies e)
    (declared : e.kind.lifecycle.declares e.status = true) (timed : e.Timed)
    (readable : e.Readable) : (row.updated (ofEntity e)).Denotes e :=
  same.written declared timed (readJson_compact readable.payload _)
    (readOptional_map fun value found => readJson_compact (readable.result value found) _)

theorem identifies_self (created : Time.Rfc3339.InRange e.createdAt) : (ofEntity e).Identifies e :=
  ⟨rfl, rfl, ⟨_, rfl, by rw [readKind, Kind.ofText?_name]⟩, rfl,
    ⟨_, rfl, readTime_writeNanos created _⟩⟩

theorem updated_self : row.updated row = row := by
  funext column
  exact ite_self _

/-- The row of a new snapshot is read. -/
theorem denotes_ofEntity (lasting : e.Lasting limit) (created : Time.Rfc3339.InYears e.createdAt)
    (small : limit ≤ Json.Reader.depthLimit) :
    ∃ again, (ofEntity e).Denotes again ∧ again.Lasting limit ∧ again.kind = e.kind := by
  obtain ⟨payload, result, payloadRead, resultRead, again⟩ :=
    reread_of_lasting lasting.asWritten small
  have same : (ofEntity e.asWritten).Identifies e.asWritten :=
    identifies_self (Time.Rfc3339.inRange_asWritten created)
  have denotes := same.written lasting.declared lasting.years.asWritten payloadRead resultRead
  rw [updated_self, ofEntity_asWritten] at denotes
  exact ⟨_, denotes, again, rfl⟩

/-- The row after an update with a snapshot of its kind is read, for the same id and kind. -/
theorem Denotes.updated (denotes : row.Denotes old) (lasting : e.Lasting limit)
    (small : limit ≤ Json.Reader.depthLimit) (kind : e.kind = old.kind) :
    ∃ again, (row.updated (ofEntity e)).Denotes again ∧ again.Lasting limit ∧
      again.kind = old.kind := by
  let next : Entity := { e.asWritten with
    id := old.id, owner := old.owner, key := old.key, createdAt := old.createdAt }
  have columns : row.updated (ofEntity e) = row.updated (ofEntity next) := by
    rw [← ofEntity_asWritten e]
    funext column
    cases column <;> rfl
  have same : row.Identifies next := by
    obtain ⟨text, cell, read⟩ := denotes.kind
    exact ⟨denotes.id, denotes.owner, ⟨text, cell, read.trans (congrArg _ kind.symm)⟩, denotes.key,
      denotes.createdAt⟩
  have written := lasting.years.asWritten
  have timed : next.Timed := ⟨written.updated, written.started, written.finished⟩
  have lastingNext : next.Lasting limit :=
    ⟨lasting.declared, timed.years, lasting.payload, lasting.result⟩
  obtain ⟨payload, result, payloadRead, resultRead, again⟩ := reread_of_lasting lastingNext small
  rw [columns]
  exact ⟨_, same.written lasting.declared timed payloadRead resultRead, again, kind⟩

end Row

/-! ## Databases of readable rows -/

namespace Database

variable {limit : Nat} {database after : Database} {e : Entity}

/-- Every row is read, as a snapshot that leaves readable rows in turn. -/
def Lasting (limit : Nat) (database : Database) : Prop :=
  ∀ row ∈ database.rows, ∃ e, row.toEntity = .ok e ∧ e.Lasting limit

/-- What is stored under the id of a snapshot is of its kind. -/
def KindOf (database : Database) (e : Entity) : Prop :=
  ∀ row, database.row? (.text e.id.text) = some row →
    ∃ stored, row.toEntity = .ok stored ∧ stored.kind = e.kind

theorem Lasting.legible (lasting : database.Lasting limit) : database.Legible := by
  intro row inside
  obtain ⟨e, read, _⟩ := lasting row inside
  exact ⟨e, read⟩

/-! ### Writes -/

theorem Lasting.grown (lasting : database.Lasting limit) (grown : Grown e database after)
    (unused : database.Unused e.id) (new : e.Lasting limit)
    (created : Time.Rfc3339.InYears e.createdAt) (small : limit ≤ Json.Reader.depthLimit) :
    after.Lasting limit ∧ after.KindOf e := by
  obtain ⟨again, denotes, lasts, kind⟩ := Row.denotes_ofEntity new created small
  constructor
  · intro row inside
    rw [grown.rows, List.mem_append, List.mem_singleton] at inside
    obtain before | rfl := inside
    · exact lasting row before
    · exact ⟨again, denotes.toEntity, lasts⟩
  · intro row found
    obtain ⟨inside, named⟩ := row?_eq_some_iff.1 found
    rw [grown.rows, List.mem_append, List.mem_singleton] at inside
    obtain before | rfl := inside
    · exact absurd named (unused row before)
    · exact ⟨again, denotes.toEntity, kind⟩

theorem Lasting.updateRow (lasting : database.Lasting limit) (kinds : database.KindOf e)
    (new : e.Lasting limit) (small : limit ≤ Json.Reader.depthLimit) :
    (database.updateRow e.id (.ofEntity e)).Lasting limit ∧
      ∀ other, database.KindOf other → (database.updateRow e.id (.ofEntity e)).KindOf other := by
  have changed {row : Row} (inside : row ∈ database.rows) (named : row .id = .text e.id.text) :
      ∃ again, (row.updated (.ofEntity e)).toEntity = .ok again ∧ again.Lasting limit ∧
        again.kind = e.kind := by
    obtain ⟨stored, read, kind⟩ := kinds row (row?_eq_some_iff.2 ⟨inside, named⟩)
    obtain ⟨again, denotes, lasts, sameKind⟩ :=
      (Row.denotes_of_toEntity read).updated new small kind.symm
    exact ⟨again, denotes.toEntity, lasts, sameKind.trans kind⟩
  constructor
  · intro row inside
    obtain ⟨old, before, rfl⟩ := mem_updateRow.1 inside
    split
    next named =>
      obtain ⟨again, read, lasts, _⟩ := changed before named
      exact ⟨again, read, lasts⟩
    next => exact lasting old before
  · intro other otherKinds row found
    obtain ⟨inside, named⟩ := row?_eq_some_iff.1 found
    obtain ⟨old, before, rfl⟩ := mem_updateRow.1 inside
    split
    next here =>
      rw [if_pos here] at named
      obtain ⟨again, read, _, kind⟩ := changed before here
      obtain ⟨stored, readOld, kindOld⟩ := kinds old (row?_eq_some_iff.2 ⟨before, here⟩)
      obtain ⟨_, same, otherKind⟩ := otherKinds old (row?_eq_some_iff.2 ⟨before, named⟩)
      obtain rfl := Except.ok.inj (readOld.symm.trans same)
      exact ⟨again, read, kind.trans (kindOld.symm.trans otherKind)⟩
    next elsewhere =>
      rw [if_neg elsewhere] at named
      exact otherKinds old (row?_eq_some_iff.2 ⟨before, named⟩)

theorem Lasting.delete (lasting : database.Lasting limit) (id : EntityId) :
    ((database.deleteKeys id).deleteRow id).Lasting limit :=
  fun row inside => lasting row (mem_deleteRow.1 inside).1

/-! ### Reads -/

theorem Legible.read (legible : database.Legible) (cell : Cell) :
    ∃ found, Database.read (database.row? cell) = .ok found := by
  cases there : database.row? cell with
  | none => exact ⟨none, rfl⟩
  | some row =>
    have inside : row ∈ database.rows := by
      unfold row? at there
      split at there
      · cases there
      · exact List.mem_of_find?_eq_some there
    obtain ⟨e, read⟩ := legible row inside
    exact ⟨some e, by rw [Database.read, read]⟩

theorem Legible.get (legible : database.Legible) (id : EntityId) :
    ∃ found, database.get id = .ok found := legible.read _

theorem Legible.find (legible : database.Legible) (owner : Owner) (key : String) :
    ∃ found, database.find owner key = .ok found := by
  unfold Database.find
  split
  next entry _ => exact legible.read entry.entity
  next => exact ⟨none, rfl⟩

theorem mapM_toEntity_iff (rows : List Row) :
    (∃ found, rows.mapM Row.toEntity = .ok found) ↔ ∀ row ∈ rows, ∃ e, row.toEntity = .ok e := by
  induction rows with
  | nil => exact ⟨fun _ => List.forall_mem_nil _, fun _ => ⟨[], rfl⟩⟩
  | cons row rest ih =>
    rw [List.forall_mem_cons, ← ih]
    constructor
    · rintro ⟨found, done⟩
      rw [List.mapM_cons] at done
      obtain ⟨e, first, done⟩ := bind_eq_ok done
      obtain ⟨more, others, _⟩ := bind_eq_ok done
      exact ⟨⟨e, first⟩, more, others⟩
    · rintro ⟨⟨e, first⟩, more, others⟩
      exact ⟨e :: more, by rw [List.mapM_cons, first, others]; rfl⟩

/-- A listing succeeds exactly if every row that it is about is read. -/
theorem list_ok_iff {owner : Option Owner} {filter : Filter} :
    (∃ found, database.list owner filter = .ok found) ↔
      ∀ row ∈ database.rows, (matchesText row .owner (owner.map Owner.name) &&
        matchesText row .kind (filter.kind.map Kind.name) &&
        matchesText row .status (filter.status.map Status.name)) = true →
          ∃ e, row.toEntity = .ok e := by
  unfold Database.list
  dsimp only
  generalize matched : database.rows.filter _ = chosen
  have all := mapM_toEntity_iff (chosen.mergeSort listedBefore)
  simp only [List.mem_mergeSort, ← matched, List.mem_filter, and_imp] at all
  rw [← all, matched]
  cases (chosen.mergeSort listedBefore).mapM Row.toEntity <;> simp

theorem Legible.list (legible : database.Legible) (owner : Option Owner) (filter : Filter) :
    ∃ found, database.list owner filter = .ok found :=
  list_ok_iff.2 fun row inside _ => legible row inside

/-- Whatever stands under an id can be removed. -/
theorem Legible.stageDelete (legible : database.Legible) (id : EntityId) (fault : Error) :
    database.stageDelete id ≠ .refused fault := by
  obtain ⟨found, got⟩ := legible.get id
  rw [Database.stageDelete, got]
  cases found with
  | none => exact fun impossible => by cases impossible
  | some e => exact fun impossible => by cases impossible

end Database

end Store

end TenantWork
