import TenantWork.Proofs.Calls.Atomic
/-!
The entries of keys under any writes at all. A database rebuilds no entry on an update and keeps the
owner and key of a row, so its entries say what the rows say, whatever is written. The store in
memory takes a snapshot as it is given, with another key if it has one, and its entries say what the
entities say as long as no update that goes through changes a key.
-/
namespace TenantWork.Store

inductive Write where
  | insert (e : Entity)
  | save (e : Entity)
  | delete (id : EntityId)

section Writes

variable {Tables : Type} [Storage Tables]

def write (store : Store Tables) : Write → Store Tables
  | .insert e => (store.insert e).2
  | .save e => (store.save e).2
  | .delete id => (store.delete id).2

def writes (store : Store Tables) (list : List Write) : Store Tables := list.foldl write store

theorem Reached.write {store : Store Tables} (reached : store.Reached) (change : Write) :
    (store.write change).Reached := by
  cases change with
  | insert e => exact reached.insert e
  | save e => exact reached.save e
  | delete id => exact reached.delete id

theorem Reached.writes {store : Store Tables} (reached : store.Reached) (list : List Write) :
    (store.writes list).Reached := by
  induction list generalizing store with
  | nil => exact reached
  | cons change rest ih => exact ih (reached.write change)

end Writes

/-! ## What entries should say -/

/-- Tables whose records show the owner and the key that they carry. -/
class Keyed (Tables : Type) [Storage Tables] [Contents Tables] where
  Carries : Contents.Record Tables → Owner → String → Prop
  fits {tables : Tables} (linked : Contents.Linked tables) (owner : Owner) (key : String)
    (id : EntityId) : Contents.keyed tables owner key = some id ↔
      ∃ record, Contents.record tables id = some record ∧ Carries record owner key
  carries_iff {tables : Tables} {id : EntityId} {e : Entity} (linked : Contents.Linked tables)
    (got : Storage.get tables id = .ok (some e)) {record : Contents.Record Tables}
    (there : Contents.record tables id = some record) (owner : Owner) (key : String) :
    Carries record owner key ↔ e.owner = owner ∧ e.key = some key
  there {tables : Tables} {id : EntityId} {e : Entity}
    (got : Storage.get tables id = .ok (some e)) :
    ∃ record, Contents.record tables id = some record
  found {tables : Tables} {owner : Owner} {key : String} {e : Entity}
    (found : Storage.find tables owner key = .ok (some e)) :
    ∃ id, Contents.keyed tables owner key = some id ∧ Storage.get tables id = .ok (some e)

section Entries

variable {Tables : Type} [Contents Tables]

open Contents

/-- The entries say which records carry which keys, and nothing else. -/
structure EntriesFit [Storage Tables] [Keyed Tables] (tables : Tables) : Prop where
  index : ∀ owner key id, keyed tables owner key = some id ↔
    ∃ entry, record tables id = some entry ∧ Keyed.Carries entry owner key
  stored : ∀ id e, Storage.get tables id = .ok (some e) → ∀ owner key,
    keyed tables owner key = some id ↔ e.owner = owner ∧ e.key = some key
  found : ∀ owner key e, Storage.find tables owner key = .ok (some e) →
    Storage.get tables e.id = .ok (some e) ∧ e.owner = owner ∧ e.key = some key
  single : ∀ owner key a b first second, record tables a = some first →
    record tables b = some second → Keyed.Carries first owner key →
    Keyed.Carries second owner key → a = b

/-- Entries come with the record they lead to and go with it. -/
structure EntriesFollow (change : Write) (before after : Tables) : Prop where
  created : ∀ owner key id, keyed before owner key ≠ some id → keyed after owner key = some id →
    ∃ e, change = .insert e ∧ e.id = id ∧ e.owner = owner ∧ e.key = some key ∧
      record before id = none ∧ record after id = some (made e)
  removed : ∀ owner key id, keyed before owner key = some id → keyed after owner key ≠ some id →
    change = .delete id ∧ record before id ≠ none ∧ record after id = none

theorem entriesFit_of_linked [Storage Tables] [WritesOne Tables] [Keyed Tables] {tables : Tables}
    (linked : Linked tables) : EntriesFit tables := by
  have stored (id : EntityId) (e : Entity) (got : Storage.get tables id = .ok (some e))
      (owner : Owner) (key : String) :
      keyed tables owner key = some id ↔ e.owner = owner ∧ e.key = some key := by
    obtain ⟨entry, there⟩ := Keyed.there got
    rw [Keyed.fits linked, ← Keyed.carries_iff linked got there]
    constructor
    · rintro ⟨other, same, carries⟩
      rwa [Option.some.inj (there.symm.trans same)]
    · exact fun carries => ⟨entry, there, carries⟩
  refine ⟨Keyed.fits linked, stored, fun owner key e found => ?_,
    fun owner key a b first second inA inB carriesA carriesB => ?_⟩
  · obtain ⟨id, leads, got⟩ := Keyed.found found
    obtain rfl := WritesOne.named linked got
    exact ⟨got, (stored e.id e got owner key).1 leads⟩
  · have leadsA := (Keyed.fits linked owner key a).2 ⟨first, inA, carriesA⟩
    have leadsB := (Keyed.fits linked owner key b).2 ⟨second, inB, carriesB⟩
    exact Option.some.inj (leadsA.symm.trans leadsB)

theorem EntriesFollow.of_same (change : Write) {before after : Tables} (same : after = before) :
    EntriesFollow change before after := by
  subst same
  exact ⟨fun _ _ _ absent there => absurd there absent, fun _ _ _ there gone => absurd there gone⟩

theorem Inserted.entriesFollow {e : Entity} {before after : Tables}
    (inserted : Inserted e before after) : EntriesFollow (.insert e) before after := by
  refine ⟨fun owner key id absent there => ?_, fun owner key id there gone => ?_⟩
  · rw [inserted.keys] at there
    split at there
    next own =>
      obtain ⟨rfl, carries⟩ := own
      obtain rfl := Option.some.inj there
      refine ⟨e, rfl, rfl, rfl, carries, inserted.unused, ?_⟩
      rw [inserted.records, if_pos rfl]
    next => exact absurd there absent
  · rw [inserted.keys] at gone
    split at gone
    next own =>
      rw [own.1, inserted.free key own.2] at there
      cases there
    next => exact absurd there gone

theorem Replaced.entriesFollow {e : Entity} {before after : Tables} (change : Write)
    (replaced : Replaced e before after) : EntriesFollow change before after := by
  refine ⟨fun owner key id absent there => ?_, fun owner key id there gone => ?_⟩
  · rw [replaced.keys] at there
    exact absurd there absent
  · rw [replaced.keys] at gone
    exact absurd there gone

theorem Removed.entriesFollow {e : Entity} {before after : Tables}
    (removed : Removed e before after) : EntriesFollow (.delete e.id) before after := by
  refine ⟨fun owner key id absent there => ?_, fun owner key id there gone => ?_⟩
  · rw [removed.keys] at there
    split at there
    · cases there
    · exact absurd there absent
  · rw [removed.keys] at gone
    split at gone
    next own =>
      rw [own.1, removed.held key own.2] at there
      obtain rfl := Option.some.inj there
      refine ⟨rfl, removed.stored, ?_⟩
      rw [removed.records, if_pos rfl]
    next => exact absurd there gone

end Entries

open Service in
/-- Where entries lead to records that carry them, one write moves at most its own entry. -/
theorem write_entriesFollow {Tables : Type} [Storage Tables] [Contents Tables]
    [WritesOne Tables] {store : Store Tables} (linked : Contents.Linked store.tables)
    (change : Write) : EntriesFollow change store.tables (store.write change).tables := by
  cases change with
  | insert e =>
    obtain ⟨_, _, same⟩ | ⟨held, kept⟩ | ⟨_, inserted⟩ := insert_writesOne store linked e
    · exact .of_same _ same
    · exact .of_same _ (congrArg (fun outcome => outcome.2.tables) kept)
    · exact inserted.entriesFollow
  | save e =>
    obtain ⟨_, _, same⟩ | ⟨_, replaced⟩ := save_writesOne store e
    · exact .of_same _ same
    · exact replaced.entriesFollow _
  | delete id =>
    obtain ⟨_, _, same⟩ | kept | ⟨_, e, got, removed⟩ := delete_writesOne store linked id
    · exact .of_same _ same
    · exact .of_same _ (congrArg (fun outcome => outcome.2.tables) kept)
    · obtain rfl := WritesOne.named linked got
      exact removed.entriesFollow

/-! ## In memory -/

namespace Memory

instance : Keyed Memory where
  Carries e owner key := e.owner = owner ∧ e.key = some key
  fits linked owner key id := linked.index owner key id
  carries_iff _ got record there owner key := by
    obtain rfl := Option.some.inj ((Except.ok.inj got).symm.trans there)
    exact Iff.rfl
  there got := ⟨_, Except.ok.inj got⟩
  found found := Option.bind_eq_some_iff.1 (Except.ok.inj found) |>.imp fun _ both =>
    ⟨both.1, congrArg Except.ok both.2⟩

/-- An update that goes through leaves the key of its entity as it was. -/
def KeepsKey (store : Store Memory) : Write → Prop
  | .save e => (store.save e).1.isOk → (store.tables.get e.id).map Entity.key = some e.key
  | _ => True

def KeepsKeys : Store Memory → List Write → Prop
  | _, [] => True
  | store, change :: rest => KeepsKey store change ∧ KeepsKeys (store.write change) rest

theorem indexed_write {store : Store Memory} (indexed : store.tables.Indexed) {change : Write}
    (keeps : KeepsKey store change) : (store.write change).tables.Indexed := by
  cases change with
  | insert e => exact indexed.insert e
  | save e =>
    show (store.save e).2.tables.Indexed
    obtain ⟨_, _, same⟩ | ⟨_, _, _, _, saved, _⟩ := save_cases store e
    · rwa [same]
    · refine indexed.save fun stored there _ => ?_
      have kept := keeps (congrArg Except.isOk saved)
      rw [there] at kept
      exact Option.some.inj kept
  | delete id => exact indexed.delete id

theorem indexed_writes (store : Store Memory) (indexed : store.tables.Indexed)
    {list : List Write} (keeps : KeepsKeys store list) : (store.writes list).tables.Indexed := by
  induction list generalizing store with
  | nil => exact indexed
  | cons change rest ih => exact ih _ (indexed_write indexed keeps.1) keeps.2

end Memory

/-! ## In a database -/

namespace Database

theorem entry_of_find {database : Database} {owner : Owner} {key : String} {e : Entity}
    (found : database.find owner key = .ok (some e)) :
    ∃ id, database.keyId? owner key = some id ∧ database.get id = .ok (some e) := by
  unfold Database.find at found
  split at found
  next entry listed =>
    cases there : database.row? entry.entity with
    | none =>
      rw [there] at found
      cases found
    | some row =>
      have named : row .id = entry.entity := by
        unfold row? at there
        split at there
        · cases there
        · have same := List.find?_some there
          exact beq_iff_eq.1 same
      rw [there] at found
      have read : row.toEntity = .ok e := by
        unfold Database.read at found
        split at found
        · cases found
        next same =>
          split at found
          next stored read =>
            obtain rfl := Option.some.inj same
            rwa [Option.some.inj (Except.ok.inj found)] at read
          next => cases found
      have leads : entry.entity = .text e.id.text :=
        named.symm.trans (Row.holds_of_toEntity read).id
      refine ⟨e.id, ?_, ?_⟩
      · rw [keyId?, listed, Option.bind_some, leads]
      · rw [Database.get, ← leads, there]
        exact found
  next => cases found

instance : Keyed Database where
  Carries row owner key := row .owner = .text owner.name ∧ row .key = .text key
  fits {tables} linked owner key id := by
    rw [show Contents.keyed tables owner key = some id ↔ _ from keyId?_eq_some_iff, linked]
    constructor
    · rintro ⟨row, inside, _, same⟩
      obtain ⟨owned, carries, named⟩ := KeyRow.mk.inj same
      exact ⟨row, row?_eq_some_iff.2 ⟨inside, named.symm⟩, owned.symm, carries.symm⟩
    · rintro ⟨row, there, owned, carries⟩
      obtain ⟨inside, named⟩ := row?_eq_some_iff.1 there
      refine ⟨row, inside, ?_, ?_⟩
      · rw [carries]
        exact Cell.noConfusion
      · rw [owned, carries, named]
        rfl
  carries_iff {tables id e} linked got row there owner key := by
    obtain ⟨same, sameThere, read, _⟩ := row_of_get got
    obtain rfl := Option.some.inj (sameThere.symm.trans there)
    rw [(Row.holds_of_toEntity read).owner, Row.key_of_toEntity read, Cell.text_owner]
    refine and_congr_right fun _ => ?_
    cases e.key with
    | none => exact ⟨Cell.noConfusion, fun impossible => (nomatch impossible)⟩
    | some own => exact Cell.text.injEq own key ▸ (Option.some.injEq own key).symm ▸ Iff.rfl
  there {tables id e} got := by
    obtain ⟨row, there, _⟩ := row_of_get got
    exact ⟨row, there⟩
  found := entry_of_find

theorem linked_write {store : Store Database} (linked : store.tables.Linked) (change : Write) :
    (store.write change).tables.Linked := by
  cases change with
  | insert e => exact Service.linked_request linked (.insert e)
  | save e => exact Service.linked_request linked (.save e)
  | delete id => exact Service.linked_request linked (.delete id)

theorem linked_writes (store : Store Database) (linked : store.tables.Linked)
    (list : List Write) : (store.writes list).tables.Linked := by
  induction list generalizing store with
  | nil => exact linked
  | cons change rest ih => exact ih _ (linked_write linked change)

end Database

/-! ## After any writes -/

/-- Whatever a gate shuts out, and whatever is written: in a database the entries of keys fit the
rows and follow them, and so they do in memory unless an update changes the key of its entity. -/
theorem entries_fit_after_writes (gate : Gate) (list : List Write) :
    let database : Store Database := (Store.new gate).writes list
    let memory : Store Memory := (Store.new gate).writes list
    (EntriesFit database.tables ∧
      ∀ change, EntriesFollow change database.tables (database.write change).tables) ∧
    (Memory.KeepsKeys (Store.new gate) list → EntriesFit memory.tables ∧
      ∀ change, EntriesFollow change memory.tables (memory.write change).tables) := by
  intro database memory
  refine ⟨?_, fun keeps => ?_⟩
  · have linked : Contents.Linked database.tables :=
      Database.linked_writes (Store.new gate) Database.linked_empty list
    exact ⟨entriesFit_of_linked linked, write_entriesFollow linked⟩
  · have linked : Contents.Linked memory.tables :=
      Memory.indexed_writes (Store.new gate) Memory.indexed_empty keeps
    exact ⟨entriesFit_of_linked linked, write_entriesFollow linked⟩

/-- A gate that shuts out the second of five writes, on the keys of two jobs. -/
theorem entries_fit_after_writes_of_two_jobs :
    let owner : Owner := ⟨"acme", by decide⟩
    let first := Entity.create ⟨"a"⟩ owner .job .null (some "nightly") .epoch
    let second := Entity.create ⟨"b"⟩ owner .job .null (some "weekly") .epoch
    let list : List Write := [.insert first, .delete first.id, .insert second,
      .save { first with status := .running, key := some "weekly", revision := 7 }, .save first]
    let memory : Store Memory := (Store.new (Gate.failingAt 2)).writes list
    Memory.KeepsKeys (Store.new (Gate.failingAt 2)) list ∧
      memory.find owner "nightly" = .ok (some first.bumped) ∧ EntriesFit memory.tables ∧
      EntriesFollow (.delete first.id) memory.tables (memory.write (.delete first.id)).tables := by
  intro owner first second list memory
  have keeps : Memory.KeepsKeys (Store.new (Gate.failingAt 2)) list :=
    ⟨trivial, trivial, trivial, fun done => absurd done (by decide), fun _ => rfl, trivial⟩
  obtain ⟨fit, follow⟩ := (entries_fit_after_writes (Gate.failingAt 2) list).2 keeps
  exact ⟨keeps, by decide, fit, follow _⟩

/-- In memory an update may change the key of a job to that of another one. The entries stay as
they were, and the job takes the key of the other one with it when it is removed. -/
theorem renamed_job_removes_the_key_of_another :
    let owner : Owner := ⟨"acme", by decide⟩
    let first := Entity.create ⟨"a"⟩ owner .job .null (some "nightly") .epoch
    let second := Entity.create ⟨"b"⟩ owner .job .null (some "weekly") .epoch
    let list : List Write := [.insert first, .insert second,
      .save { first with key := second.key }]
    let before : Store Memory := (Store.new Gate.always).writes list
    let after : Store Memory := before.write (.delete first.id)
    before.find owner "weekly" = .ok (some second) ∧ after.get second.id = .ok (some second) ∧
      after.find owner "weekly" = .ok none ∧
      ¬EntriesFit after.tables ∧ ¬EntriesFit before.tables ∧
      ¬EntriesFollow (.delete first.id) before.tables after.tables := by
  intro owner first second list before after
  refine ⟨by decide, by decide, by decide, fun fit => ?_, fun fit => ?_, fun follow => ?_⟩
  · have leads := (fit.stored second.id second (by decide) owner "weekly").2 ⟨rfl, rfl⟩
    have none : after.tables.keyId? owner "weekly" = none := by decide
    exact Option.some_ne_none _ (leads.symm.trans none)
  · have leads := (fit.stored first.id { first.bumped with key := second.key } (by decide) owner
      "weekly").2 ⟨rfl, rfl⟩
    have other : before.tables.keyId? owner "weekly" = some second.id := by decide
    exact absurd (Option.some.inj (other.symm.trans leads)) (by decide)
  · have gone := follow.removed owner "weekly" second.id (by decide) (by decide)
    exact absurd (Write.delete.inj gone.1) (by decide)

end TenantWork.Store
