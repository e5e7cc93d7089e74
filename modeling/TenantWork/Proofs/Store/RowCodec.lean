import TenantWork.Proofs.Json.Reading
import TenantWork.Proofs.Time.FixedText
import TenantWork.Proofs.Work.Entering
import TenantWork.Store.Row
/-!
Rows of entities. A snapshot in a status that its kind declares, with times in years of four digits
and JSON that is read back from its compact text, is read back from its row, its times as their
texts name them.
-/
namespace TenantWork

theorem Json.readable_null : Json.null.Readable := by
  have letters : Cursor.ofText Json.null.compact = ⟨['n', 'u', 'l', 'l'], .start⟩ := by
    rw [Cursor.ofText, compact, String.toList_ofList, textChars]
    rfl
  rw [Readable, parse, letters]
  unfold Reader.value
  rfl

namespace Entity

/-- All JSON of a snapshot is read back. -/
structure Readable (e : Entity) : Prop where
  payload : e.payload.Readable
  result : ∀ value, e.result = some value → value.Readable

/-- All times of a snapshot are so. -/
structure AllTimes (P : Time.Instant → Prop) (e : Entity) : Prop where
  created : P e.createdAt
  updated : P e.updatedAt
  started : ∀ t, e.startedAt = some t → P t
  finished : ∀ t, e.finishedAt = some t → P t

theorem AllTimes.imp {P Q : Time.Instant → Prop} {e : Entity} (times : e.AllTimes P)
    (follows : ∀ t, P t → Q t) : e.AllTimes Q :=
  ⟨follows _ times.created, follows _ times.updated,
    fun t same => follows t (times.started t same), fun t same => follows t (times.finished t same)⟩

abbrev Dated (e : Entity) : Prop := e.AllTimes Time.Rfc3339.InRange

theorem Dated.years {e : Entity} (dated : e.Dated) : e.AllTimes Time.Rfc3339.InYears :=
  dated.imp fun _ inRange => inRange.years

theorem Dated.universal {e : Entity} (dated : e.Dated) : e.AllTimes Time.Rfc3339.Universal :=
  dated.imp fun _ inRange => inRange.universal

/-- A snapshot in a status that its kind declares, with points of universal time in years of four
digits. -/
structure Regular (e : Entity) : Prop where
  declared : e.kind.lifecycle.declares e.status = true
  dated : e.Dated

/-- A snapshot that a row holds without loss. -/
structure Storable (e : Entity) : Prop where
  regular : e.Regular
  readable : e.Readable

/-! ## Times as they are written -/

/-- The snapshot with its times as their texts name them. -/
def asWritten (e : Entity) : Entity := { e with
  createdAt := Time.Rfc3339.asWritten e.createdAt
  updatedAt := Time.Rfc3339.asWritten e.updatedAt
  startedAt := e.startedAt.map Time.Rfc3339.asWritten
  finishedAt := e.finishedAt.map Time.Rfc3339.asWritten }

theorem map_asWritten_eq_iff {time : Option Time.Instant} :
    time.map Time.Rfc3339.asWritten = time ↔ ∀ t, time = some t → Time.Rfc3339.Universal t := by
  cases time with
  | none => exact iff_of_true rfl nofun
  | some t => simp [Time.Rfc3339.asWritten_eq_iff]

theorem asWritten_eq_iff {e : Entity} : e.asWritten = e ↔ e.AllTimes Time.Rfc3339.Universal := by
  constructor
  · intro same
    exact ⟨Time.Rfc3339.asWritten_eq_iff.1 (congrArg createdAt same),
      Time.Rfc3339.asWritten_eq_iff.1 (congrArg updatedAt same),
      map_asWritten_eq_iff.1 (congrArg startedAt same),
      map_asWritten_eq_iff.1 (congrArg finishedAt same)⟩
  · rintro ⟨created, updated, started, finished⟩
    rw [asWritten, Time.Rfc3339.asWritten_of_universal created,
      Time.Rfc3339.asWritten_of_universal updated, map_asWritten_eq_iff.2 started,
      map_asWritten_eq_iff.2 finished]

theorem Dated.asWritten {e : Entity} (dated : e.Dated) : e.asWritten = e :=
  asWritten_eq_iff.2 dated.universal

theorem AllTimes.dated {e : Entity} (years : e.AllTimes Time.Rfc3339.InYears) :
    e.asWritten.Dated := by
  have optional (time : Option Time.Instant) (inside : ∀ t, time = some t → Time.Rfc3339.InYears t)
      (t : Time.Instant) (found : time.map Time.Rfc3339.asWritten = some t) :
      Time.Rfc3339.InRange t := by
    obtain ⟨first, same, rfl⟩ := Option.map_eq_some_iff.1 found
    exact Time.Rfc3339.inRange_asWritten (inside first same)
  exact ⟨Time.Rfc3339.inRange_asWritten years.created, Time.Rfc3339.inRange_asWritten years.updated,
    optional _ years.started, optional _ years.finished⟩

/-! ## Snapshots that clients write -/

theorem readable_of_null {e : Entity} (payload : e.payload = .null)
    (result : e.result.getD .null = .null) : e.Readable := by
  refine ⟨?_, fun value found => ?_⟩
  · rw [payload]
    exact Json.readable_null
  · rw [found, Option.getD_some] at result
    rw [result]
    exact Json.readable_null

theorem create_regular (id : EntityId) (owner : Owner) (kind : Kind) (payload : Json)
    (key : Option String) {now : Time.Instant} (inRange : Time.Rfc3339.InRange now) :
    (create id owner kind payload key now).Regular := by
  refine ⟨kind.declares_initial, inRange, inRange, ?_, ?_⟩
  · intro t impossible
    cases impossible
  · intro t impossible
    cases impossible

section Stamps

variable {P : Time.Instant → Prop} {e : Entity}

theorem AllTimes.ite {c : Prop} [Decidable c] {a b : Entity} (yes : a.AllTimes P)
    (no : b.AllTimes P) : (if c then a else b).AllTimes P := by
  split
  · exact yes
  · exact no

theorem AllTimes.entering (times : e.AllTimes P) (request : Transition) {stamp : Time.Instant}
    (holds : P stamp) : (e.entering request stamp).AllTimes P := by
  have stamped (old : Option Time.Instant) (kept : ∀ t, old = some t → P t)
      (t : Time.Instant) (found : (old <|> some stamp) = some t) : P t := by
    cases old with
    | none => exact Option.some.inj found ▸ holds
    | some first => exact kept t found
  have wiped : e.withoutAttempt.AllTimes P :=
    ⟨times.created, times.updated, fun _ impossible => (nomatch impossible),
      fun _ impossible => (nomatch impossible)⟩
  have first := AllTimes.ite (c := request.target = e.kind.lifecycle.initial) wiped times
  have begun (a : Entity) (same : a.AllTimes P) :
      (a.started stamp request.dispatch).AllTimes P := by
    cases request.dispatch <;>
      exact ⟨same.created, same.updated, stamped _ same.started, same.finished⟩
  have second := AllTimes.ite (c := request.target = e.kind.lifecycle.running) (begun _ first) first
  have third := AllTimes.ite (c := request.target = e.kind.lifecycle.success)
    (a := Entity.succeeded _ request.result) ⟨second.1, second.2, second.3, second.4⟩
    (AllTimes.ite (c := request.target = e.kind.lifecycle.failure)
      (a := Entity.failed _ request.failure) ⟨second.1, second.2, second.3, second.4⟩ second)
  have fourth := AllTimes.ite (c := e.kind.lifecycle.isFinished request.target = true)
    (a := Entity.finished _ stamp) ⟨third.1, third.2, third.3, stamped _ third.4⟩ third
  exact ⟨fourth.created, holds, fourth.started, fourth.finished⟩

/-- A stamp is one of the two times that it is the later of. -/
theorem stamp_of {now old : Time.Instant} (first : P now) (second : P old) :
    P (.latest now old) := by
  rw [Time.Instant.latest]
  split
  · exact second
  · exact first

end Stamps

theorem Regular.apply {e next : Entity} (regular : e.Regular) {request : Transition}
    {now : Time.Instant} (inRange : Time.Rfc3339.InRange now)
    (applied : e.apply request now = .ok next) : next.bumped.Regular := by
  obtain ⟨allowed, rfl⟩ := apply_eq_ok_iff.1 applied
  refine ⟨?_, ?_⟩
  · show (e.entering request _).kind.lifecycle.declares request.target = true
    rw [entering_kind]
    exact Kind.declares_of_allows allowed
  · obtain ⟨created, updated, started, finished⟩ :=
      regular.dated.entering request (stamp_of inRange regular.dated.updated)
    exact ⟨created, updated, started, finished⟩

end Entity

theorem Kind.ofText?_name (kind : Kind) : Kind.ofText? kind.name = some kind := by
  cases kind <;> decide

theorem Status.ofText?_name (status : Status) : Status.ofText? status.name = some status := by
  cases status <;> decide

theorem Kind.name_inj {a b : Kind} (same : a.name = b.name) : a = b := by
  have found := ofText?_name a
  rw [same, ofText?_name] at found
  exact (Option.some.inj found).symm

theorem Status.name_inj {a b : Status} (same : a.name = b.name) : a = b := by
  have found := ofText?_name a
  rw [same, ofText?_name] at found
  exact (Option.some.inj found).symm

namespace Store.Row

open Time (Rfc3339.InRange)

theorem readOptional_map {α : Type} {read : String → Except QueryFault α} {write : α → String}
    {value : Option α} (reads : ∀ a, value = some a → read (write a) = .ok a) :
    readOptional read (value.map write) = .ok value := by
  cases value with
  | none => rfl
  | some a => simp only [Option.map_some, readOptional, reads a rfl, Except.map]

theorem text?_ofText? (value : Option String) (index : Nat) (name : String) :
    (Cell.ofText? value).readText? index name = .ok value := by
  cases value <;> rfl

theorem text?_timeCell? (value : Option Time.Instant) (index : Nat) (name : String) :
    (timeCell? value).readText? index name = .ok (value.map Time.Rfc3339.writeNanos) := by
  cases value <;> rfl

theorem readStatus_name {kind : Kind} {status : Status}
    (declared : kind.lifecycle.declares status = true) :
    readStatus kind status.name = .ok status := by
  rw [readStatus, Status.ofText?_name]
  exact if_pos declared

theorem readJson_compact {value : Json} (readable : value.Readable) (column : Column) :
    readJson column value.compact = .ok value := by
  rw [readJson, readable]

theorem readTime_writeNanos {t : Time.Instant} (inRange : Time.Rfc3339.InRange t)
    (column : Column) : readTime column (Time.Rfc3339.writeNanos t) = .ok t := by
  rw [readTime, Time.Rfc3339.read_writeNanos inRange]

theorem readTime_eq_ok {column : Column} {text : String} {t : Time.Instant}
    (done : readTime column text = .ok t) : Time.Rfc3339.read text = .ok t := by
  unfold readTime at done
  split at done
  next read =>
    rw [read, Except.ok.inj done]
  next => cases done

/-- The row of a snapshot is that of the snapshot as it is written. -/
theorem ofEntity_asWritten (e : Entity) : ofEntity e.asWritten = ofEntity e := by
  have optional (time : Option Time.Instant) :
      timeCell? (time.map Time.Rfc3339.asWritten) = timeCell? time := by
    cases time with
    | none => rfl
    | some t => exact congrArg Cell.text (Time.Rfc3339.writeNanos_asWritten t)
  funext column
  cases column with
  | createdAt => exact congrArg Cell.text (Time.Rfc3339.writeNanos_asWritten _)
  | updatedAt => exact congrArg Cell.text (Time.Rfc3339.writeNanos_asWritten _)
  | startedAt => exact optional _
  | finishedAt => exact optional _
  | _ => rfl

/-- The row of a snapshot is read back as the snapshot. -/
theorem toEntity_ofEntity {e : Entity} (storable : e.Storable) :
    (ofEntity e).toEntity = .ok e := by
  obtain ⟨⟨declared, created, updated, started, finished⟩, payload, result⟩ := storable
  have kind : readKind e.kind.name = .ok e.kind := by rw [readKind, Kind.ofText?_name]
  have owner : readOwner e.owner.name = .ok e.owner := dif_pos e.owner.named
  have count : (Cell.integer e.revision).readCount Column.revision.index Column.revision.name =
      .ok e.revision := rfl
  have results : readOptional (readJson .result) (e.result.map Json.compact) = .ok e.result :=
    readOptional_map fun value same => readJson_compact (result value same) _
  have starts : readOptional (readTime .startedAt)
      (e.startedAt.map Time.Rfc3339.writeNanos) = .ok e.startedAt :=
    readOptional_map fun t same => readTime_writeNanos (started t same) _
  have finishes : readOptional (readTime .finishedAt)
      (e.finishedAt.map Time.Rfc3339.writeNanos) = .ok e.finishedAt :=
    readOptional_map fun t same => readTime_writeNanos (finished t same) _
  simp only [toEntity, text, text?, ofEntity, Cell.readText, text?_ofText?, text?_timeCell?, bind,
    Except.bind, pure, Except.pure, kind, readStatus_name declared, owner,
    readJson_compact payload, results, readTime_writeNanos created, readTime_writeNanos updated,
    starts, finishes, count]

end Store.Row

end TenantWork
