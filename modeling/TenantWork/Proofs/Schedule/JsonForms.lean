import TenantWork.Proofs.Schedule.Interchange
import TenantWork.Proofs.Schedule.StoredWork
import TenantWork.Proofs.Work.JsonText
/-!
The JSON form of stored work. An object or a text that a stored snapshot is written to is read back
as the snapshot, its times as their texts name them, with one exception: work that succeeded without
a result holds null as its result, and null is read as an absent one. What is read then breaks the
rule that work has a result exactly if it succeeded.
-/
namespace TenantWork.Service

open Store (Memory Database WriteCall)

/-- What the JSON form of a snapshot tells of it. -/
structure ToldInJson (e : Entity) : Prop where
  object : Entity.ofJson e.toJson = .ok e.told
  /-- The fields may stand in any order. -/
  text : EntityText.Textual e → ∀ list, list.Perm (EntityJson.fields e) →
    Entity.ofText (Json.compact (.object list)) = .ok e.told
  lossless : e.told = e ↔ e.result ≠ some .null ∧ e.AllTimes Time.Rfc3339.Universal

/-- What is read has a result exactly if it succeeded, except for a result that was null. -/
def SoundInJson (e : Entity) : Prop :=
  (e.told.result.isSome = true ↔ e.told.status = e.told.kind.lifecycle.success) ↔
    e.result ≠ some .null

theorem toldInJson {e : Entity} (years : e.AllTimes Time.Rfc3339.InYears) : ToldInJson e :=
  ⟨Entity.ofJson_toJson years, fun textual _ same => Entity.ofText_fields years textual same,
    Entity.told_eq_iff⟩

theorem soundInJson {e : Entity} (wellFormed : e.WellFormed) : SoundInJson e := by
  constructor
  · -- Null is the result of a success, and without it the rule fails.
    intro keeps null
    have absent : e.told.result = none := congrArg Json.told null
    have success : e.status = e.kind.lifecycle.success := wellFormed.result.1 (by rw [null]; rfl)
    have present := keeps.2 success
    rw [absent] at present
    cases present
  · intro other
    have result : e.told.result = e.result := Json.told_eq_iff.2 other
    rw [result]
    exact wellFormed.result

theorem ToldInJson.kept {e : Entity} (told : ToldInJson e) (other : e.result ≠ some .null)
    (universal : e.AllTimes Time.Rfc3339.Universal) :
    Entity.ofJson e.toJson = .ok e ∧ (EntityText.Textual e →
      Entity.ofText (Json.compact (.object (EntityJson.fields e))) = .ok e) := by
  have same := told.lossless.2 ⟨other, universal⟩
  refine ⟨?_, fun textual => ?_⟩
  · rw [told.object, same]
  · rw [told.text textual _ .rfl, same]

section Runs

variable {service : Service} {clients : List Client} {executors : List Executor}
  {rule : List WriteCall → WriteCall → Except Error Unit} {id : EntityId} {e : Entity}

theorem System.wasStored_of_get (distinct : (clients.map Client.id).Nodup) {schedule : List Nat}
    (found : ((onEmpty service clients executors rule : System Memory).run
      schedule).world.store.get id = .ok (some e)) :
    WasStored ((onEmpty service clients executors rule : System Memory).run schedule).trace e := by
  have there := Except.ok.inj found
  rw [(chronicled_onEmpty distinct schedule).stored] at there
  exact wasStored_of_snapshot there

end Runs

/-- In every run, on a store of either kind, stored work with times in years of four digits is read
back from its JSON object and from the texts of that object, with a result that is null read as an
absent one and times as their texts name them; so it is read back as it was exactly if its result is
not null and its times lie in universal time. What is read has a result exactly if it succeeded,
except where the result was null; for a database this takes clocks that show universal time and
JSON that texts can hold. -/
theorem json_form_keeps_all_but_null (service : Service) (clients : List Client)
    (executors : List Executor) (rule : List WriteCall → WriteCall → Except Error Unit)
    (distinct : (clients.map Client.id).Nodup) (schedule : List Nat) :
    let memory := (System.onEmpty service clients executors rule : System Memory).run schedule
    let database := (System.onEmpty service clients executors rule : System Database).run schedule
    (∀ id e, memory.world.store.get id = .ok (some e) →
      (e.AllTimes Time.Rfc3339.InYears → ToldInJson e) ∧ SoundInJson e) ∧
    (∀ id e, database.world.store.get id = .ok (some e) →
      e.AllTimes Time.Rfc3339.Universal ∧ (e.AllTimes Time.Rfc3339.InYears → ToldInJson e)) ∧
    ((∀ client ∈ clients, ∀ n, Time.Rfc3339.InRange (client.times n)) →
      (∀ e, WasStored database.trace e → e.Readable) →
      ∀ id e, database.world.store.get id = .ok (some e) →
        e.AllTimes Time.Rfc3339.InYears ∧ SoundInJson e) := by
  intro memory database
  have wellFormed {rule : List WriteCall → WriteCall → Except Error Unit} {e : Entity}
      (stored : WasStored ((System.onEmpty service clients executors rule : System Memory).run
        schedule).trace e) : e.WellFormed :=
    (System.chronicled_onEmpty distinct schedule).lawful.wellFormed stored
  refine ⟨?_, fun id e found => ⟨?_, toldInJson⟩, ?_⟩
  · intro id e found
    exact ⟨toldInJson, soundInJson (wellFormed (System.wasStored_of_get distinct found))⟩
  · obtain ⟨_, _, read, _⟩ := Store.Database.row_of_get found
    exact (Store.Row.denotes_of_toEntity read).universal
  · -- The database reads like a memory whose gate refuses what columns cannot count.
    intro timely readable id e found
    obtain ⟨_, same, _⟩ := System.reads_run distinct timely schedule rfl rfl readable
    have stored := System.wasStored_of_get distinct ((same id).symm.trans found)
    have regular := System.regular_run service clients rfl distinct timely schedule e stored
    exact ⟨regular.dated.years, soundInJson (wellFormed stored)⟩

/-- A job in memory that succeeds with a number as its result is read back from its JSON object and
from its text, and so is a new job in a database from its object. -/
theorem jobs_keep_their_json_form :
    let owner : Owner := ⟨"acme", by decide⟩
    let service : Service := ⟨.default, [], List.nodup_nil, nofun⟩
    let clients : List Client := [
      ⟨.submit owner .job .null none, ⟨"a"⟩, fun _ => .epoch⟩,
      ⟨.transition owner ⟨"a"⟩ (Transition.into .running), ⟨"b"⟩, fun _ => .epoch⟩,
      ⟨.transition owner ⟨"a"⟩ ((Transition.into .succeeded).withResult (.integer 7)), ⟨"c"⟩,
        fun _ => .epoch⟩]
    let memory : System Memory := (System.onEmpty service clients [] fun _ _ => .ok ()).run
      [0, 0, 0, 1, 1, 1, 2, 2, 2]
    let database : System Database := (System.onEmpty service clients [] fun _ _ => .ok ()).run
      [0, 0, 0]
    let new := Entity.create ⟨"a"⟩ owner .job .null none .epoch
    let finished : Entity := { new with
      status := .succeeded, result := some (.integer 7), startedAt := some .epoch,
      finishedAt := some .epoch, revision := 2 }
    (memory.world.store.get ⟨"a"⟩ = .ok (some finished) ∧
      Entity.ofJson finished.toJson = .ok finished ∧
      Entity.ofText (Json.compact (.object (EntityJson.fields finished))) = .ok finished) ∧
      database.world.store.get ⟨"a"⟩ = .ok (some new) ∧ Entity.ofJson new.toJson = .ok new := by
  have year := Time.Rfc3339.inRange_epoch
  refine ⟨⟨?inMemory, ((((json_form_keeps_all_but_null _ _ _ _ ?distinct _).1 ⟨"a"⟩ _ ?inMemory).1
    (Entity.Dated.years ?dated)).kept nofun
    (Entity.Dated.universal ?dated)).imp_right
      fun text => text ?textual⟩, ?inDatabase,
    (((json_form_keeps_all_but_null _ _ _ _ ?distinct _).2.1 ⟨"a"⟩ _ ?inDatabase).2
      ((json_form_keeps_all_but_null _ _ _ _ ?distinct _).2.2 ?timely ?readable ⟨"a"⟩ _
        ?inDatabase).1 |>.kept nofun
      ((json_form_keeps_all_but_null _ _ _ _ ?distinct _).2.1 ⟨"a"⟩ _ ?inDatabase).1).1⟩
  case distinct => decide
  case dated =>
    exact ⟨year, year, fun _ same => Option.some.inj same ▸ year,
      fun _ same => Option.some.inj same ▸ year⟩
  case textual =>
    refine ⟨EntityText.legible_null, fun value same => ?_, by decide⟩
    obtain rfl := Option.some.inj same
    exact ⟨.integer (by decide) (by decide), .integer 7⟩
  case inMemory => exact congrArg Except.ok (by decide +kernel)
  case timely => simp [year]
  case readable =>
    exact System.readable_in_database (by decide) (by simp [year]) (by decide) (by decide)
  case inDatabase =>
    refine ((System.reads_run (by decide) (by simp [year]) _ rfl rfl ?_).2.1 _).trans
      (congrArg Except.ok (by decide +kernel))
    exact System.readable_in_database (by decide) (by simp [year]) (by decide) (by decide)

/-- A job that succeeds without a result has one that is null. It is read back from its JSON object
without any result, although its status is still that of success. -/
theorem null_result_is_lost_in_json :
    let owner : Owner := ⟨"acme", by decide⟩
    let service : Service := ⟨.default, [], List.nodup_nil, nofun⟩
    let clients : List Client := [
      ⟨.submit owner .job (.bool true) none, ⟨"a"⟩, fun _ => .epoch⟩,
      ⟨.transition owner ⟨"a"⟩ (Transition.into .running), ⟨"b"⟩, fun _ => .epoch⟩,
      ⟨.transition owner ⟨"a"⟩ (Transition.into .succeeded), ⟨"c"⟩, fun _ => .epoch⟩]
    let schedule := [0, 0, 0, 1, 1, 1, 2, 2, 2]
    let system : System Memory := (System.onEmpty service clients [] fun _ _ => .ok ()).run schedule
    let e : Entity := { Entity.create ⟨"a"⟩ owner .job (.bool true) none .epoch with
      status := .succeeded, result := some .null, startedAt := some .epoch,
      finishedAt := some .epoch, revision := 2 }
    let read : Entity := { e with result := none }
    system.world.store.get ⟨"a"⟩ = .ok (some e) ∧ Entity.ofJson e.toJson = .ok read ∧ read ≠ e ∧
      ¬(read.result.isSome = true ↔ read.status = read.kind.lifecycle.success) := by
  have year := Time.Rfc3339.inRange_epoch
  refine ⟨congrArg Except.ok (by decide +kernel),
    Entity.ofJson_toJson (Entity.Dated.years ?dated),
    fun same => ?differs, by decide⟩
  case dated =>
    exact ⟨year, year, fun _ same => Option.some.inj same ▸ year,
      fun _ same => Option.some.inj same ▸ year⟩
  case differs => cases congrArg Entity.result same

end TenantWork.Service
