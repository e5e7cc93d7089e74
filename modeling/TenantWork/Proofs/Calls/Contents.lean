import TenantWork.Proofs.Store.KeyIndex
import TenantWork.Proofs.Tenancy.DatabaseParts
/-!
What tables hold, for every kind of store in one language: a record under each id, and the id that
an owner's key leads to. A write that the tables are ready for changes one record and its key and
nothing else, provided that keys and records fit together, which calls preserve.
-/
namespace TenantWork.Store

class Contents (Tables : Type) where
  Record : Type
  record : Tables → EntityId → Option Record
  keyed : Tables → Owner → String → Option EntityId
  /-- The record of a new entity. -/
  made : Entity → Record
  /-- The record after an update to a snapshot. -/
  updated : Record → Entity → Record
  /-- Keys lead to the records that carry them. -/
  Linked : Tables → Prop

section Change

variable {Tables : Type} [Contents Tables] (e : Entity) (before after : Tables)

open Contents

/-- The entity is new, and with it its key, if it has one. -/
structure Inserted : Prop where
  unused : record before e.id = none
  free : ∀ key, e.key = some key → keyed before e.owner key = none
  records : ∀ id, record after id = if id = e.id then some (made e) else record before id
  keys : ∀ owner key, keyed after owner key =
    if owner = e.owner ∧ e.key = some key then some e.id else keyed before owner key

/-- The record of the entity is another one. -/
structure Replaced : Prop where
  records : ∃ old, record before e.id = some old ∧
    ∀ id, record after id = if id = e.id then some (updated old e) else record before id
  keys : ∀ owner key, keyed after owner key = keyed before owner key

/-- The entity is gone, and with it its key, if it had one. -/
structure Removed : Prop where
  stored : record before e.id ≠ none
  held : ∀ key, e.key = some key → keyed before e.owner key = some e.id
  records : ∀ id, record after id = if id = e.id then none else record before id
  keys : ∀ owner key, keyed after owner key =
    if owner = e.owner ∧ e.key = some key then none else keyed before owner key

end Change

/-- Each write that the tables are ready for changes one record and its key. -/
class WritesOne (Tables : Type) [Storage Tables] [Contents Tables] : Prop where
  named {tables : Tables} {id : EntityId} {e : Entity} (linked : Contents.Linked tables)
    (got : Storage.get tables id = .ok (some e)) : e.id = id
  insert {before after : Tables} {e : Entity} {call : WriteCall} {answer : Insertion}
    (linked : Contents.Linked before)
    (ready : Storage.stageInsert before e = .ready call after answer) :
    answer = .inserted e ∧ Inserted e before after
  taken {before : Tables} {e : Entity} {answer : Insertion}
    (answered : Storage.stageInsert before e = .answered answer) :
    ∃ held, answer = .existing held
  save {before after : Tables} {e saved : Entity} {call : WriteCall}
    (ready : Storage.stageSave before e = .ready call after saved) :
    saved = e.bumped ∧ Replaced saved before after
  saves {before : Tables} {e saved : Entity} :
    Storage.stageSave before e ≠ .answered saved
  delete {before after : Tables} {id : EntityId} {call : WriteCall} {answer : Bool}
    (linked : Contents.Linked before)
    (ready : Storage.stageDelete before id = .ready call after answer) :
    answer = true ∧ ∃ e, Storage.get before id = .ok (some e) ∧ Removed e before after
  absent {before : Tables} {id : EntityId} {answer : Bool}
    (answered : Storage.stageDelete before id = .answered answer) : answer = false

/-! ## In memory -/

namespace Memory

instance : Contents Memory where
  Record := Entity
  record := get
  keyed := keyId?
  made e := e
  updated _ e := e
  Linked := Indexed

variable {memory : Memory} {e : Entity}

theorem Indexed.inserted (indexed : memory.Indexed) (free : memory.holder e = none)
    (unused : memory.get e.id = none) : Inserted e memory ((memory.put e).claim e) := by
  refine ⟨unused, fun key carries => ?_, fun id => ?_, fun owner key => ?_⟩
  · refine indexed.unlisted ?_
    rwa [holder, carries] at free
  · exact (get_claim _ _ _).trans (get_put _ _ _)
  · exact find_keys_claim _ _ _ _

theorem replaced_put {stored : Entity} (there : memory.get e.id = some stored) :
    Replaced e memory (memory.put e) :=
  ⟨⟨stored, there, fun _ => get_put _ _ _⟩, fun _ _ => rfl⟩

theorem Indexed.removed (indexed : memory.Indexed) (there : memory.get e.id = some e) :
    Removed e memory ((memory.remove e.id).release e) := by
  refine ⟨?_, fun key carries => ?_, fun id => ?_, fun owner key => ?_⟩
  · show memory.get e.id ≠ none
    rw [there]
    exact Option.some_ne_none e
  · exact (indexed.index _ _ _).2 ⟨e, there, rfl, carries⟩
  · exact (get_release _ _ _).trans (get_remove _ _ _)
  · exact find_keys_release _ _ _ _

instance : WritesOne Memory where
  named {tables id e} linked got := linked.filed id e (Except.ok.inj got)
  insert {before after e call answer} linked ready := by
    simp only [Storage.stageInsert, stageInsert] at ready
    split at ready
    · cases ready
    next free =>
      split at ready
      · cases ready
      next unused =>
        obtain ⟨rfl, rfl, rfl⟩ := Staged.ready.inj ready
        exact ⟨rfl, linked.inserted free (Option.not_isSome_iff_eq_none.1 unused)⟩
  taken {before e answer} answered := by
    simp only [Storage.stageInsert, stageInsert] at answered
    split at answered
    · obtain rfl := Staged.answered.inj answered
      exact ⟨_, rfl⟩
    · split at answered
      · cases answered
      · cases answered
  save {before after e saved call} ready := by
    simp only [Storage.stageSave, stageSave] at ready
    split at ready
    · cases ready
    next stored there =>
      split at ready
      · cases ready
      · split at ready
        · cases ready
        · obtain ⟨rfl, rfl, rfl⟩ := Staged.ready.inj ready
          exact ⟨rfl, replaced_put (e := e.bumped) there⟩
  saves {before e saved} answered := by
    simp only [Storage.stageSave, stageSave] at answered
    split at answered
    · cases answered
    · split at answered
      · cases answered
      · split at answered <;> cases answered
  delete {before after id call answer} linked ready := by
    simp only [Storage.stageDelete, stageDelete] at ready
    split at ready
    · cases ready
    next e there =>
      obtain ⟨rfl, rfl, rfl⟩ := Staged.ready.inj ready
      obtain rfl := linked.filed id e there
      exact ⟨rfl, e, congrArg Except.ok there, linked.removed there⟩
  absent {before id answer} answered := by
    simp only [Storage.stageDelete, stageDelete] at answered
    split at answered
    · exact (Staged.answered.inj answered).symm
    · cases answered

end Memory

/-! ## In a database -/

namespace Row

theorem text?_eq_ok {row : Row} {column : Column} {value : Option String}
    (read : row.text? column = .ok value) : row column = .ofText? value := by
  unfold text? Cell.readText? at read
  split at read
  next absent =>
    obtain rfl := Except.ok.inj read
    exact absent
  next text found =>
    obtain rfl := Except.ok.inj read
    exact found
  next => cases read

theorem key_of_toEntity {row : Row} {e : Entity} (read : row.toEntity = .ok e) :
    row .key = .ofText? e.key := by
  unfold toEntity at read
  iterate 14 obtain ⟨_, _, read⟩ := bind_eq_ok read
  obtain ⟨key, keyCell, read⟩ := bind_eq_ok read
  iterate 10 obtain ⟨_, _, read⟩ := bind_eq_ok read
  obtain rfl := Except.ok.inj read
  exact text?_eq_ok keyCell

end Row

theorem KeyRow.of_inj {owner other : Owner} {key text : String} {id entity : EntityId} :
    KeyRow.of owner key id = KeyRow.of other text entity ↔
      owner = other ∧ key = text ∧ id = entity := by
  constructor
  · intro same
    obtain ⟨owners, keys, ids⟩ := KeyRow.mk.inj same
    exact ⟨Cell.text_owner.1 owners, Cell.text.inj keys, Cell.text_id.1 ids⟩
  · rintro ⟨rfl, rfl, rfl⟩
    rfl

namespace Database

/-- The keys are those in the rows. -/
def Linked (database : Database) : Prop := ∀ entry, entry ∈ database.keys ↔
  ∃ row ∈ database.rows, row .key ≠ .null ∧ entry = ⟨row .owner, row .key, row .id⟩

instance : Contents Database where
  Record := Row
  record database id := database.row? (.text id.text)
  keyed := keyId?
  made := .ofEntity
  updated row e := row.updated (.ofEntity e)
  Linked := Linked

variable {database after : Database} {e : Entity}

theorem keyId?_eq_some_iff {owner : Owner} {key : String} {id : EntityId} :
    database.keyId? owner key = some id ↔ KeyRow.of owner key id ∈ database.keys := by
  rw [keyId?, Option.bind_eq_some_iff]
  constructor
  · rintro ⟨⟨_, _, entity⟩, found, leads⟩
    obtain ⟨inside, rfl, rfl⟩ := keyRow?_eq_some_iff.1 found
    split at leads
    next text =>
      obtain rfl := Option.some.inj leads
      dsimp only at text
      rwa [KeyRow.of, ← text]
    next => cases leads
  · intro inside
    exact ⟨_, keyRow?_eq_some_iff.2 ⟨inside, rfl, rfl⟩, rfl⟩

theorem insertRow_eq_ok {row : Row} (done : database.insertRow row = .ok after) :
    (∀ other ∈ database.rows, other .id = row .id → other .id = .null) ∧
      after.rows = database.rows ++ [row] ∧ after.keys = database.keys := by
  unfold insertRow at done
  split at done
  · cases done
  · split at done
    next free =>
      obtain rfl := Except.ok.inj done
      exact ⟨free, rfl, rfl⟩
    next => cases done

theorem insertKey_eq_ok {entry : KeyRow} (done : database.insertKey entry = .ok after) :
    (∀ other ∈ database.keys, ¬(other.owner = entry.owner ∧ other.key = entry.key)) ∧
      after.rows = database.rows ∧ after.keys = database.keys ++ [entry] := by
  unfold insertKey at done
  split at done
  next free =>
    obtain rfl := Except.ok.inj done
    exact ⟨fun other inside => (free other inside).1, rfl, rfl⟩
  next => split at done <;> cases done

/-- What an insertion that goes through finds and leaves. -/
theorem insertEntity_eq_ok (done : database.insertEntity e = .ok after) :
    Grown e database after ∧ database.Unused e.id ∧
      ∀ key, e.key = some key → ∀ other ∈ database.keys,
        ¬(other.owner = .text e.owner.name ∧ other.key = .text key) := by
  simp only [insertEntity] at done
  split at done
  · cases done
  obtain ⟨between, entered, done⟩ := bind_eq_ok done
  obtain ⟨free, rows, keys⟩ := insertRow_eq_ok entered
  have unused : database.Unused e.id := by
    intro row inside named
    have absent := free row inside named
    rw [named] at absent
    cases absent
  cases carries : e.key with
  | none =>
    rw [carries] at done
    obtain rfl := Except.ok.inj done
    refine ⟨⟨rows, ?_⟩, unused, fun key impossible => by cases impossible⟩
    rw [keys, carries, Option.map_none, Option.toList_none, List.append_nil]
  | some key =>
    rw [carries] at done
    obtain ⟨freeKey, sameRows, grownKeys⟩ := insertKey_eq_ok done
    refine ⟨⟨sameRows.trans rows, ?_⟩, unused, fun other same => ?_⟩
    · rw [grownKeys, keys, carries]
      rfl
    · obtain rfl := Option.some.inj same
      rwa [keys] at freeKey

theorem Grown.inserted (grown : Grown e database after) (unused : database.Unused e.id)
    (free : ∀ key, e.key = some key → ∀ other ∈ database.keys,
      ¬(other.owner = .text e.owner.name ∧ other.key = .text key)) :
    Inserted e database after := by
  have absent : database.row? (.text e.id.text) = none :=
    Option.eq_none_iff_forall_ne_some.2 fun row found => by
      obtain ⟨inside, named⟩ := row?_eq_some_iff.1 found
      exact unused row inside named
  have unlisted (key : String) (carries : e.key = some key) :
      database.keyId? e.owner key = none :=
    Option.eq_none_iff_forall_ne_some.2 fun id found =>
      free key carries _ (keyId?_eq_some_iff.1 found) ⟨rfl, rfl⟩
  refine ⟨absent, unlisted, fun id => Option.ext fun row => ?_, fun owner key => Option.ext fun id => ?_⟩
  · show after.row? (.text id.text) = some row ↔ _
    rw [row?_eq_some_iff, grown.rows, List.mem_append, List.mem_singleton]
    by_cases here : id = e.id
    · rw [if_pos here, here]
      constructor
      · rintro ⟨before | rfl, named⟩
        · exact absurd named (unused row before)
        · rfl
      · intro same
        obtain rfl := Option.some.inj same
        exact ⟨.inr rfl, rfl⟩
    · rw [if_neg here]
      refine Iff.trans ?_ row?_eq_some_iff.symm
      refine and_congr_left fun named => or_iff_left ?_
      rintro rfl
      exact here (Cell.text_id.1 named).symm
  · show after.keyId? owner key = some id ↔ _
    rw [keyId?_eq_some_iff, grown.keys, List.mem_append, mem_keyOf]
    have fits : (∃ own, e.key = some own ∧ KeyRow.of e.owner own e.id = KeyRow.of owner key id) ↔
        (owner = e.owner ∧ e.key = some key) ∧ e.id = id := by
      constructor
      · rintro ⟨own, carries, same⟩
        obtain ⟨rfl, rfl, rfl⟩ := KeyRow.of_inj.1 same
        exact ⟨⟨rfl, carries⟩, rfl⟩
      · rintro ⟨⟨rfl, carries⟩, rfl⟩
        exact ⟨key, carries, rfl⟩
    rw [fits]
    split
    next own =>
      obtain ⟨rfl, carries⟩ := own
      rw [Option.some.injEq, and_iff_right ⟨rfl, carries⟩, or_iff_right]
      exact fun listed => free key carries _ listed ⟨rfl, rfl⟩
    next other =>
      rw [or_iff_left fun both => other both.1]
      exact keyId?_eq_some_iff.symm

theorem replaced_updateRow {row : Row} (there : database.row? (.text e.id.text) = some row) :
    Replaced e database (database.updateRow e.id (.ofEntity e)) := by
  refine ⟨⟨row, there, fun id => Option.ext fun changed => ?_⟩, fun _ _ => rfl⟩
  obtain ⟨inside, named⟩ := row?_eq_some_iff.1 there
  show (database.updateRow e.id (.ofEntity e)).row? (.text id.text) = some changed ↔ _
  rw [row?_eq_some_iff, mem_updateRow]
  by_cases here : id = e.id
  · subst here
    rw [if_pos rfl, Option.some.injEq]
    constructor
    · rintro ⟨⟨old, before, rfl⟩, called⟩
      split
      next same =>
        rw [row_unique before inside same named]
        rfl
      next other =>
        rw [if_neg other] at called
        exact absurd called other
    · rintro rfl
      exact ⟨⟨row, inside, if_pos named⟩, named⟩
  · rw [if_neg here]
    refine Iff.trans ?_ row?_eq_some_iff.symm
    refine and_congr_left fun called => ⟨?_, fun before => ⟨changed, before, if_neg ?_⟩⟩
    · rintro ⟨old, before, rfl⟩
      split at called
      next same => exact absurd (Cell.text_id.1 (called.symm.trans same)) here
      next other =>
        rwa [if_neg other]
    · rw [called, Cell.text_id]
      exact here

theorem row?_updateRow {row : Row} (there : database.row? (.text e.id.text) = some row) :
    (database.updateRow e.id (.ofEntity e)).row? (.text e.id.text) =
      some (row.updated (.ofEntity e)) := by
  obtain ⟨old, same, records⟩ := (replaced_updateRow there).records
  obtain rfl : row = old := Option.some.inj (there.symm.trans same)
  exact (records e.id).trans (if_pos rfl)

theorem row_of_get {id : EntityId} (got : database.get id = .ok (some e)) :
    ∃ row, database.row? (.text id.text) = some row ∧ row.toEntity = .ok e ∧ e.id = id := by
  unfold Database.get Database.read at got
  split at got
  · cases got
  next row there =>
    split at got
    next stored read =>
      obtain rfl := Option.some.inj (Except.ok.inj got)
      have named := (row?_eq_some_iff.1 there).2
      rw [(Row.holds_of_toEntity read).id, Cell.text_id] at named
      exact ⟨row, there, read, named⟩
    next => cases got

/-- The key of a stored entity, and no other, leads to it. -/
theorem Linked.leads_iff (linked : database.Linked) {row : Row}
    (there : database.row? (.text e.id.text) = some row) (read : row.toEntity = .ok e)
    {owner : Owner} {key : String} :
    database.keyId? owner key = some e.id ↔ owner = e.owner ∧ e.key = some key := by
  obtain ⟨inside, named⟩ := row?_eq_some_iff.1 there
  have owned := (Row.holds_of_toEntity read).owner
  have carries := Row.key_of_toEntity read
  rw [keyId?_eq_some_iff, linked, KeyRow.of]
  constructor
  · rintro ⟨other, before, _, same⟩
    obtain ⟨sameOwner, sameKey, sameId⟩ := KeyRow.mk.inj same
    obtain rfl := row_unique before inside sameId.symm named
    refine ⟨Cell.text_owner.1 (sameOwner.trans owned), ?_⟩
    rw [carries] at sameKey
    cases own : e.key with
    | none =>
      rw [own] at sameKey
      cases sameKey
    | some text =>
      rw [own] at sameKey
      obtain rfl := Cell.text.inj sameKey
      rfl
  · rintro ⟨rfl, own⟩
    rw [own] at carries
    refine ⟨row, inside, ?_, ?_⟩
    · rw [carries]
      exact Cell.noConfusion
    · rw [owned, carries, named]
      rfl

theorem Linked.removed (linked : database.Linked) {row : Row}
    (there : database.row? (.text e.id.text) = some row) (read : row.toEntity = .ok e) :
    Removed e database ((database.deleteKeys e.id).deleteRow e.id) := by
  have leads {owner : Owner} {key : String} :
      database.keyId? owner key = some e.id ↔ owner = e.owner ∧ e.key = some key :=
    linked.leads_iff there read
  refine ⟨?_, fun key carries => leads.2 ⟨rfl, carries⟩, fun id => Option.ext fun other => ?_,
    fun owner key => Option.ext fun id => ?_⟩
  · show database.row? (.text e.id.text) ≠ none
    rw [there]
    exact Option.some_ne_none row
  · show ((database.deleteKeys e.id).deleteRow e.id).row? (.text id.text) = some other ↔ _
    rw [row?_eq_some_iff, mem_deleteRow, and_assoc]
    split
    next here =>
      subst here
      exact ⟨fun ⟨_, apart, called⟩ => absurd called apart, fun impossible => (nomatch impossible)⟩
    next elsewhere =>
      refine Iff.trans (and_congr_right fun _ => and_iff_right_of_imp fun called => ?_)
        row?_eq_some_iff.symm
      rw [called, Ne, Cell.text_id]
      exact elsewhere
  · show (database.deleteKeys e.id).keyId? owner key = some id ↔ _
    rw [keyId?_eq_some_iff, mem_deleteKeys, ← keyId?_eq_some_iff]
    have apart : (KeyRow.of owner key id).entity ≠ .text e.id.text ↔ id ≠ e.id :=
      not_congr Cell.text_id
    rw [apart]
    split
    next own =>
      constructor
      · rintro ⟨found, other⟩
        rw [leads.2 own] at found
        exact absurd (Option.some.inj found).symm other
      · intro impossible
        cases impossible
    next foreign =>
      refine and_iff_left_of_imp fun found => ?_
      rintro rfl
      exact foreign (leads.1 found)

/-! ### The writes of the calls -/

theorem stageInsert_eq_ready {call : WriteCall} {answer : Insertion}
    (ready : database.stageInsert e = .ready call after answer) :
    answer = .inserted e ∧ database.insertEntity e = .ok after := by
  simp only [stageInsert] at ready
  split at ready
  · cases ready
  · cases ready
  · split at ready
    · cases ready
    next entered =>
      obtain ⟨rfl, rfl, rfl⟩ := Staged.ready.inj ready
      exact ⟨rfl, entered⟩

theorem stageSave_eq_ready {call : WriteCall} {saved : Entity}
    (ready : database.stageSave e = .ready call after saved) :
    saved = e.bumped ∧ after = database.updateRow e.id (.ofEntity e.bumped) ∧
      ∃ row, database.row? (.text e.id.text) = some row ∧ row .owner = .text e.owner.name ∧
        row .revision = .integer e.revision := by
  simp only [stageSave] at ready
  split at ready
  · cases ready
  next row there =>
    split at ready
    · cases ready
    next owner status texts =>
      split at ready
      · cases ready
      next own =>
        split at ready
        · cases ready
        split at ready
        · split at ready <;> cases ready
        next current =>
          obtain ⟨rfl, rfl, rfl⟩ := Staged.ready.inj ready
          refine ⟨rfl, rfl, row, there, ?_, not_not.1 current⟩
          obtain ⟨name, named, texts⟩ := bind_eq_ok texts
          obtain ⟨_, _, texts⟩ := bind_eq_ok texts
          obtain ⟨rfl, _⟩ := Prod.mk.inj (Except.ok.inj texts)
          rw [← not_not.1 own]
          exact Cell.readText_eq_ok named

theorem stageDelete_eq_ready {id : EntityId} {call : WriteCall} {answer : Bool}
    (ready : database.stageDelete id = .ready call after answer) :
    answer = true ∧ after = (database.deleteKeys id).deleteRow id ∧
      ∃ e, database.get id = .ok (some e) := by
  simp only [stageDelete] at ready
  split at ready
  · cases ready
  · cases ready
  next e got =>
    obtain ⟨rfl, rfl, rfl⟩ := Staged.ready.inj ready
    exact ⟨rfl, rfl, e, got⟩

instance : WritesOne Database where
  named {tables id e} _ got := by
    obtain ⟨_, _, _, named⟩ := row_of_get got
    exact named
  insert {before after e call answer} _ ready := by
    obtain ⟨rfl, entered⟩ := stageInsert_eq_ready ready
    obtain ⟨grown, unused, free⟩ := insertEntity_eq_ok entered
    exact ⟨rfl, grown.inserted unused free⟩
  taken {before e answer} answered := by
    simp only [Storage.stageInsert, stageInsert] at answered
    split at answered
    · cases answered
    · obtain rfl := Staged.answered.inj answered
      exact ⟨_, rfl⟩
    · split at answered <;> cases answered
  save {before after e saved call} ready := by
    obtain ⟨rfl, rfl, row, there, _⟩ := stageSave_eq_ready ready
    exact ⟨rfl, replaced_updateRow (e := e.bumped) there⟩
  saves {before e saved} answered := by
    simp only [Storage.stageSave, stageSave] at answered
    repeat' split at answered
    all_goals cases answered
  delete {before after id call answer} linked ready := by
    obtain ⟨rfl, rfl, e, got⟩ := stageDelete_eq_ready ready
    obtain ⟨row, there, read, rfl⟩ := row_of_get got
    exact ⟨rfl, e, got, linked.removed there read⟩
  absent {before id answer} answered := by
    simp only [Storage.stageDelete, stageDelete] at answered
    split at answered
    · cases answered
    · exact (Staged.answered.inj answered).symm
    · cases answered

/-! ### Calls keep keys and rows together -/

theorem linked_empty : Linked empty := by
  intro entry
  constructor
  · intro inside
    cases inside
  · rintro ⟨row, inside, _⟩
    cases inside

theorem Linked.grown (linked : database.Linked) (grown : Grown e database after) :
    after.Linked := by
  intro entry
  rw [grown.keys, grown.rows, List.mem_append, mem_keyOf, linked]
  simp only [List.mem_append, List.mem_singleton, or_and_right, exists_or, exists_eq_left]
  refine or_congr_right ⟨?_, ?_⟩
  · rintro ⟨key, carries, rfl⟩
    refine ⟨?_, ?_⟩
    · rw [Row.ofEntity, carries]
      exact Cell.noConfusion
    · rw [KeyRow.of, Row.ofEntity, Row.ofEntity, Row.ofEntity, carries]
      rfl
  · rintro ⟨present, rfl⟩
    cases carries : e.key with
    | none =>
      rw [Row.ofEntity, carries] at present
      exact absurd rfl present
    | some key =>
      refine ⟨key, rfl, ?_⟩
      rw [KeyRow.of, Row.ofEntity, Row.ofEntity, Row.ofEntity, carries]
      rfl

theorem Linked.updateRow (linked : database.Linked) (id : EntityId) (changed : Row) :
    (database.updateRow id changed).Linked := by
  intro entry
  refine (linked entry).trans ⟨?_, ?_⟩
  · rintro ⟨row, inside, present, rfl⟩
    refine ⟨_, mem_updateRow.2 ⟨row, inside, rfl⟩, ?_⟩
    split <;> exact ⟨present, rfl⟩
  · rintro ⟨row, inside, present, rfl⟩
    obtain ⟨old, before, rfl⟩ := mem_updateRow.1 inside
    refine ⟨old, before, ?_⟩
    split at present
    next named =>
      rw [if_pos named]
      exact ⟨present, rfl⟩
    next other =>
      rw [if_neg other]
      exact ⟨present, rfl⟩

theorem Linked.delete (linked : database.Linked) (id : EntityId) :
    ((database.deleteKeys id).deleteRow id).Linked := by
  intro entry
  show entry ∈ (database.deleteKeys id).keys ↔ _
  rw [mem_deleteKeys, linked]
  constructor
  · rintro ⟨⟨row, inside, present, rfl⟩, other⟩
    exact ⟨row, mem_deleteRow.2 ⟨inside, other⟩, present, rfl⟩
  · rintro ⟨row, inside, present, rfl⟩
    obtain ⟨before, other⟩ := mem_deleteRow.1 inside
    exact ⟨⟨row, before, present, rfl⟩, other⟩

end Database

end TenantWork.Store
