import TenantWork.Proofs.Calls.Faithful
/-!
Rows without loss. A snapshot that texts can hold is read back from the row that an insertion
leaves, in every part, and so it is from the row that an update leaves if that row already stood for
the same work. Times in texts stand in their order, byte by byte. Only a leap second that universal
time does not have is lost: its text names the next second.
-/
namespace TenantWork

namespace Text

/-- The bytes of a text, as a database compares them. -/
def bytes (text : String) : List UInt8 := text.toByteArray.data.toList

/-- A letter of one byte. -/
abbrev IsPlain (c : Char) : Prop := c.val ≤ 127

theorem bytes_ofList {letters : List Char} (plain : ∀ c ∈ letters, IsPlain c) :
    bytes (String.ofList letters) = letters.map fun c => c.val.toUInt8 := by
  rw [bytes, String.toByteArray_ofList, List.utf8Encode, List.toList_data_toByteArray]
  induction letters with
  | nil => rfl
  | cons c rest ih =>
    obtain ⟨first, others⟩ := List.forall_mem_cons.1 plain
    rw [List.flatMap_cons, ih others, List.map_cons,
      String.utf8EncodeChar_eq_singleton (Char.utf8Size_eq_one_iff.2 first), List.singleton_append]

theorem plain_lt {a b : Char} (plainA : IsPlain a) (plainB : IsPlain b) :
    (a.val.toUInt8 < b.val.toUInt8 ↔ a < b) ∧ (a.val.toUInt8 = b.val.toUInt8 ↔ a = b) := by
  have byte {c : Char} (plain : IsPlain c) : c.val.toUInt8.toNat = c.toNat := by
    have small : c.val.toNat ≤ 127 := plain
    rw [UInt32.toNat_toUInt8]
    exact Nat.mod_eq_of_lt (Nat.lt_of_le_of_lt small (by decide))
  rw [UInt8.lt_iff_toNat_lt, ← UInt8.toNat_inj, byte plainA, byte plainB]
  exact ⟨Iff.rfl, Char.toNat_inj⟩

/-- Plain texts compare like their bytes. -/
theorem bytes_lt {a b : List Char} (plainA : ∀ c ∈ a, IsPlain c) (plainB : ∀ c ∈ b, IsPlain c) :
    bytes (String.ofList a) < bytes (String.ofList b) ↔ String.ofList a < String.ofList b := by
  rw [bytes_ofList plainA, bytes_ofList plainB, String.lt_iff, String.toList_ofList,
    String.toList_ofList]
  induction a generalizing b with
  | nil =>
    cases b with
    | nil => simp
    | cons d more => simp
  | cons c rest ih =>
    cases b with
    | nil => simp
    | cons d more =>
      obtain ⟨firstA, othersA⟩ := List.forall_mem_cons.1 plainA
      obtain ⟨firstB, othersB⟩ := List.forall_mem_cons.1 plainB
      rw [List.map_cons, List.map_cons, List.cons_lt_cons_iff, List.cons_lt_cons_iff,
        (plain_lt firstA firstB).1, (plain_lt firstA firstB).2, ih othersA othersB]

end Text

namespace Time.Rfc3339

theorem padded_plain {width n : Nat} : ∀ c ∈ padded width n, Text.IsPlain c := by
  intro c inside
  rw [padded, List.mem_append] at inside
  obtain zero | digit := inside
  · rw [List.eq_of_mem_replicate zero]
    decide
  · have isDigit := Nat.isDigit_of_mem_toDigits (by decide) (by decide) digit
    have last : c.toNat ≤ '9'.toNat := (Char.isDigit_iff_toNat.1 isDigit).2
    exact Nat.le_trans last (by decide)

theorem writeNanos_plain {t : Instant} (years : InYears t) :
    ∀ c ∈ (writeNanos t).toList, Text.IsPlain c := by
  rw [writeNanos_toList years]
  simp only [List.forall_mem_append, List.forall_mem_cons]
  exact ⟨padded_plain, by decide, padded_plain, by decide, padded_plain, by decide, padded_plain,
    by decide, padded_plain, by decide, padded_plain, by decide, padded_plain, by decide, by simp⟩

/-- Texts of fixed width stand in the order of what they name, and so do their bytes. -/
theorem writeNanos_order {a b : Instant} (yearsA : InYears a) (yearsB : InYears b) :
    (Text.bytes (writeNanos a) < Text.bytes (writeNanos b) ↔ asWritten a < asWritten b) ∧
      (writeNanos a < writeNanos b ↔ asWritten a < asWritten b) ∧
      (writeNanos a = writeNanos b ↔ asWritten a = asWritten b) := by
  have inRangeA := inRange_asWritten yearsA
  have inRangeB := inRange_asWritten yearsB
  have bytes := Text.bytes_lt (writeNanos_plain yearsA) (writeNanos_plain yearsB)
  rw [String.ofList_toList, String.ofList_toList] at bytes
  rw [bytes, ← writeNanos_asWritten a, ← writeNanos_asWritten b]
  exact ⟨writeNanos_lt inRangeA inRangeB, writeNanos_lt inRangeA inRangeB,
    writeNanos_inj inRangeA inRangeB⟩

end Time.Rfc3339

namespace Entity

variable {e : Entity}

theorem Storable.bumped (storable : e.Storable) : e.bumped.Storable := by
  obtain ⟨⟨declared, created, updated, started, finished⟩, payload, result⟩ := storable
  exact ⟨⟨declared, created, updated, started, finished⟩, payload, result⟩

theorem storable_asWritten (declared : e.kind.lifecycle.declares e.status = true)
    (readable : e.Readable) (years : e.AllTimes Time.Rfc3339.InYears) : e.asWritten.Storable :=
  ⟨⟨declared, years.dated⟩, readable.payload, readable.result⟩

end Entity

namespace Store

namespace Row

variable {row : Row} {e : Entity}

/-- Times that an update has written and that are read as they were lie in universal time. -/
theorem Denotes.timed (denotes : (row.updated (ofEntity e)).Denotes e) : e.Timed := by
  have optional {time : Option Time.Instant} {column : Column} {text : Option String}
      (cell : timeCell? time = .ofText? text)
      (read : readOptional (readTime column) text = .ok time) (t : Time.Instant)
      (there : time = some t) : Time.Rfc3339.InRange t := by
    rw [timeCell?_eq, ofText?_inj, there] at cell
    rw [there] at read
    obtain ⟨given, same, read⟩ := readOptional_eq_ok read
    obtain rfl := Option.some.inj (cell.trans same)
    exact Time.Rfc3339.inRange_of_read (readTime_eq_ok read)
  obtain ⟨text, cell, updated⟩ := denotes.updatedAt
  have same : Time.Rfc3339.writeNanos e.updatedAt = text := Cell.text.inj cell
  rw [← same] at updated
  obtain ⟨_, startedCell, started⟩ := denotes.startedAt
  obtain ⟨_, finishedCell, finished⟩ := denotes.finishedAt
  exact ⟨Time.Rfc3339.inRange_of_read (readTime_eq_ok updated), optional startedCell started,
    optional finishedCell finished⟩

/-- An update leaves a row that is read as its snapshot exactly if the row stood for the same work,
the kind declares the status, and the times that are written are such as texts name. -/
theorem toEntity_updated (readable : e.Readable) :
    (row.updated (ofEntity e)).toEntity = .ok e ↔
      row.Identifies e ∧ e.kind.lifecycle.declares e.status = true ∧ e.Timed := by
  constructor
  · intro read
    have denotes := denotes_of_toEntity read
    obtain ⟨id, owner, kind, key, createdAt⟩ := denotes.identifies
    obtain ⟨_, _, status⟩ := denotes.status
    exact ⟨⟨id, owner, kind, key, createdAt⟩, readStatus_eq_ok status, denotes.timed⟩
  · rintro ⟨same, declared, timed⟩
    exact (same.rewritten declared timed readable).toEntity

end Row

namespace Database

/-- The row under the id of a snapshot is read as the snapshot, and its result is absent only if the
snapshot has none. -/
def Keeps (database : Database) (e : Entity) : Prop :=
  ∃ row, database.row? (.text e.id.text) = some row ∧ row.toEntity = .ok e ∧
    (row .result = .null ↔ e.result = none)

variable {database after : Database} {e : Entity}

theorem ofText?_eq_null {text : Option String} : Cell.ofText? text = .null ↔ text = none := by
  cases text with
  | none => exact ⟨fun _ => rfl, fun _ => rfl⟩
  | some value => exact ⟨fun same => (nomatch same), fun same => (nomatch same)⟩

theorem result_ofEntity : Row.ofEntity e .result = .null ↔ e.result = none :=
  ofText?_eq_null.trans Option.map_eq_none_iff

theorem Keeps.get (keeps : database.Keeps e) : database.get e.id = .ok (some e) := by
  obtain ⟨row, there, read, _⟩ := keeps
  rw [Database.get, there, Database.read, read]

theorem keeps_inserted (storable : e.asWritten.Storable)
    (entered : database.insertEntity e = .ok after) : after.Keeps e.asWritten := by
  obtain ⟨grown, _, _⟩ := insertEntity_eq_ok entered
  refine ⟨.ofEntity e.asWritten, row?_eq_some_iff.2 ⟨?_, rfl⟩, Row.toEntity_ofEntity storable,
    result_ofEntity⟩
  rw [grown.rows, Row.ofEntity_asWritten]
  exact List.mem_append_right _ (List.mem_singleton_self _)

theorem keeps_updated {row : Row} (storable : e.asWritten.Storable)
    (there : database.row? (.text e.id.text) = some row) (same : row.Identifies e.asWritten) :
    (database.updateRow e.id (.ofEntity e)).Keeps e.asWritten := by
  have read := (Row.toEntity_updated storable.readable).2
    ⟨same, storable.regular.declared, storable.regular.dated.updates⟩
  rw [← Row.ofEntity_asWritten]
  exact ⟨_, row?_updateRow (e := e.asWritten) there, read, result_ofEntity⟩

theorem insert_eq_ok {store : Store Database} {created : Entity}
    (done : (store.insert e).1 = .ok (.inserted created)) :
    created = e ∧ store.tables.insertEntity e = .ok (store.insert e).2.tables := by
  obtain ⟨fault, refused, _⟩ | ⟨answer, answered, same⟩ |
      ⟨call, later, answer, ready, reply, same⟩ :=
    store.commit_cases (Storage.stageInsert store.tables e)
  · cases refused.symm.trans done
  · obtain ⟨held, rfl⟩ := WritesOne.taken answered
    cases (congrArg Prod.fst same).symm.trans done
  · obtain ⟨rfl, entered⟩ := stageInsert_eq_ready ready
    obtain rfl := Insertion.inserted.inj (Except.ok.inj (reply.symm.trans done))
    exact ⟨rfl, entered.trans (congrArg Except.ok same.symm)⟩

theorem save_eq_ok {store : Store Database} {saved : Entity}
    (done : (store.save e).1 = .ok saved) :
    saved = e.bumped ∧ (store.save e).2.tables = store.tables.updateRow e.id (.ofEntity e.bumped) ∧
      ∃ row, store.tables.row? (.text e.id.text) = some row ∧ row .owner = .text e.owner.name ∧
        row .revision = .integer e.revision := by
  obtain ⟨fault, refused, _⟩ | ⟨answer, answered, _⟩ | ⟨call, later, answer, ready, reply, same⟩ :=
    store.commit_cases (Storage.stageSave store.tables e)
  · cases refused.symm.trans done
  · exact absurd answered WritesOne.saves
  · obtain ⟨rfl, rfl, row, there, owned, current⟩ := stageSave_eq_ready ready
    exact ⟨(Except.ok.inj (reply.symm.trans done)).symm, same, row, there, owned, current⟩

end Database

/-- A snapshot with JSON that texts can hold is read back from the row that an insertion leaves as it
is written: equal in every part if its times lie in universal time, else with the seconds that their
texts name. From the row that an update leaves it is read back with its number of updates raised by
one, if that row stood for the same work. Texts of instants stand in columns in the order of what
they name. -/
theorem rows_keep_what_texts_name (store : Store Database) {e : Entity}
    (declared : e.kind.lifecycle.declares e.status = true) (readable : e.Readable)
    (years : e.AllTimes Time.Rfc3339.InYears) :
    (∀ created, (store.insert e).1 = .ok (.inserted created) →
      created = e ∧ (store.insert e).2.tables.Keeps e.asWritten) ∧
    (∀ saved row, (store.save e).1 = .ok saved →
      store.tables.row? (.text e.id.text) = some row → row.Identifies e.asWritten →
      saved = e.bumped ∧ (store.save e).2.tables.Keeps saved.asWritten) ∧
    (e.asWritten = e ↔ e.AllTimes Time.Rfc3339.Universal) ∧
    (∀ t, Time.Rfc3339.asWritten t = t ↔ Time.Rfc3339.Universal t) ∧
    ∀ a b, Time.Rfc3339.InYears a → Time.Rfc3339.InYears b →
      let text (t : Time.Instant) := Time.Rfc3339.writeNanos t
      let named (t : Time.Instant) := Time.Rfc3339.asWritten t
      (Text.bytes (text a) < Text.bytes (text b) ↔ named a < named b) ∧
        (Cell.before (.text (text a)) (.text (text b)) = true ↔ named a < named b) ∧
        (text a = text b ↔ named a = named b) := by
  have storable := Entity.storable_asWritten declared readable years
  refine ⟨fun created done => ?_, fun saved row done there same => ?_, Entity.asWritten_eq_iff,
    fun t => Time.Rfc3339.asWritten_eq_iff, fun a b inA inB => ?_⟩
  · obtain ⟨rfl, entered⟩ := Database.insert_eq_ok done
    exact ⟨rfl, Database.keeps_inserted storable entered⟩
  · obtain ⟨rfl, after, _⟩ := Database.save_eq_ok done
    rw [after]
    exact ⟨rfl, Database.keeps_updated (e := e.bumped) storable.bumped there same.bumped⟩
  · obtain ⟨bytes, texts, same⟩ := Time.Rfc3339.writeNanos_order inA inB
    exact ⟨bytes, by rwa [Cell.before, decide_eq_true_eq], same⟩

/-- A job that ended in a leap second with the result `null`, inserted and then updated. -/
theorem leap_second_and_null_result_kept :
    let moment : Time.Instant :=
      ⟨⟨2016, 12, 31, by decide, by decide⟩, 86399, 1500000000, by decide, by decide⟩
    let job := Entity.create ⟨"a"⟩ ⟨"u", by decide⟩ .job .null (some "k") moment
    let e := { job with status := .succeeded, result := some .null, finishedAt := some moment }
    let empty := (Store.new Gate.always : Store Database)
    let store := (empty.insert e).2
    e.kind.lifecycle.declares e.status = true ∧ e.Readable ∧ e.Dated ∧
      (empty.insert e).1 = .ok (.inserted e) ∧ store.tables.Keeps e ∧
      (store.save e).1 = .ok e.bumped ∧ (store.save e).2.tables.Keeps e.bumped := by
  intro moment job e empty store
  have inRange : Time.Rfc3339.InRange moment := ⟨by decide, by decide⟩
  have dated : e.Dated :=
    ⟨inRange, inRange, fun _ impossible => (nomatch impossible),
      fun t same => Option.some.inj same ▸ inRange⟩
  have years : e.AllTimes Time.Rfc3339.InYears := dated.years
  have readable : e.Readable := Entity.readable_of_null rfl rfl
  have written : e.asWritten = e := dated.asWritten
  have writtenAgain : e.bumped.asWritten = e.bumped := congrArg Entity.bumped written
  have inserted : (empty.insert e).1 = .ok (.inserted e) := rfl
  have saved : (store.save e).1 = .ok e.bumped := rfl
  have same : (Row.ofEntity e).Identifies e.asWritten := by
    rw [written]
    exact Row.identifies_self inRange
  have kept := ((rows_keep_what_texts_name empty rfl readable years).1 e inserted).2
  have keptAgain := ((rows_keep_what_texts_name store rfl readable years).2.1 e.bumped (.ofEntity e)
    saved rfl same).2
  rw [written] at kept
  rw [writtenAgain] at keptAgain
  exact ⟨rfl, readable, dated, inserted, kept, saved, keptAgain⟩

/-- A job that was created in a leap second that universal time does not have is read as created in
the next second, and its creation stands behind that of a job that was created later. A job that is
updated is not read back as it was given: its number of updates is raised. -/
theorem leap_second_within_minute_not_kept :
    let date : Time.Date := ⟨2024, 1, 1, by decide, by decide⟩
    let strange : Time.Instant := ⟨date, 4, 1333333333, by decide, by decide⟩
    let next : Time.Instant := ⟨date, 5, 333333333, by decide, by decide⟩
    let between : Time.Instant := ⟨date, 5, 200000000, by decide, by decide⟩
    let job (t : Time.Instant) := Entity.create ⟨"a"⟩ ⟨"u", by decide⟩ .job .null none t
    let empty := (Store.new Gate.always : Store Database)
    let text (t : Time.Instant) := Time.Rfc3339.writeNanos t
    (Time.Rfc3339.InYears strange ∧ (empty.insert (job strange)).1 = .ok (.inserted (job strange)) ∧
      (empty.insert (job strange)).2.get ⟨"a"⟩ = .ok (some (job next)) ∧ job next ≠ job strange) ∧
    (strange < between ∧ Text.bytes (text between) < Text.bytes (text strange)) ∧
    let store := (empty.insert (job .epoch)).2
    (store.save (job .epoch)).1 = .ok (job .epoch).bumped ∧
      (store.save (job .epoch)).2.get ⟨"a"⟩ = .ok (some (job .epoch).bumped) ∧
      (job .epoch).bumped ≠ job .epoch := by
  intro date strange next between job empty text
  have years (t : Time.Instant) (inside : Time.Rfc3339.InYears t) :
      (job t).AllTimes Time.Rfc3339.InYears := ⟨inside, inside, nofun, nofun⟩
  have storable (t : Time.Instant) (inside : Time.Rfc3339.InYears t) :
      (job t).asWritten.Storable :=
    Entity.storable_asWritten rfl (Entity.readable_of_null rfl rfl) (years t inside)
  have written (t : Time.Instant) : (job t).asWritten = job (Time.Rfc3339.asWritten t) := rfl
  have kept (t : Time.Instant) (inside : Time.Rfc3339.InYears t) :
      (empty.insert (job t)).2.tables.Keeps (job (Time.Rfc3339.asWritten t)) := by
    have inserted : (empty.insert (job t)).1 = .ok (.inserted (job t)) := rfl
    exact Database.keeps_inserted (storable t inside) (Database.insert_eq_ok inserted).2
  have nextSecond : Time.Rfc3339.asWritten strange = next := by decide
  have got := (kept strange (by decide)).get
  rw [nextSecond] at got
  refine ⟨⟨by decide, rfl, got, fun same => ?_⟩, ⟨by decide, ?_⟩, rfl, ?_, fun same => ?_⟩
  · exact absurd (congrArg Entity.createdAt same) (by decide)
  · exact (Time.Rfc3339.writeNanos_order (by decide) (by decide)).1.2 (by decide)
  · have usual : (job .epoch).bumped.asWritten = (job .epoch).bumped :=
      congrArg (fun t => (job t).bumped) (by decide : Time.Rfc3339.asWritten .epoch = .epoch)
    have same : (Row.ofEntity (job .epoch)).Identifies (job .epoch).bumped.asWritten := by
      rw [usual]
      exact (Row.identifies_self Time.Rfc3339.inRange_epoch).bumped
    have there : (empty.insert (job .epoch)).2.tables.row? (.text (job .epoch).bumped.id.text) =
        some (Row.ofEntity (job .epoch)) := rfl
    have again := (Database.keeps_updated (e := (job .epoch).bumped)
      (storable .epoch (by decide)).bumped there same).get
    rwa [usual] at again
  · exact absurd (congrArg Entity.revision same) (by decide)

end Store

end TenantWork
