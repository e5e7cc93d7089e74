import TenantWork.Proofs.Store.RowCodec
import TenantWork.Proofs.Time.LooseText
import TenantWork.Work.EntityJson
/-!
Snapshots read back from their JSON objects. The fields of the object may come in any order: each
of them is read into its own place of the draft, and with all of them read the draft is complete.
A result that is null is read as an absent one, and a time as its text names it; everything else is
read as it was.
-/
namespace TenantWork

/-- What an optional value is read as where null stands for an absent one. -/
def Json.told : Option Json → Option Json
  | some .null => none
  | value => value

theorem Json.told_eq_iff {value : Option Json} : told value = value ↔ value ≠ some .null := by
  unfold told
  split
  · exact iff_of_false nofun fun other => other rfl
  · next other => exact iff_of_true rfl other

/-- What a snapshot is read back as from its JSON object. -/
def Entity.told (e : Entity) : Entity := { e.asWritten with result := Json.told e.result }

theorem Entity.told_eq_iff {e : Entity} :
    e.told = e ↔ e.result ≠ some .null ∧ e.AllTimes Time.Rfc3339.Universal := by
  rw [← Json.told_eq_iff, ← asWritten_eq_iff]
  constructor
  · intro same
    have result : Json.told e.result = e.result := congrArg Entity.result same
    refine ⟨result, ?_⟩
    rw [told, result] at same
    exact same
  · rintro ⟨result, times⟩
    rw [told, result, times]

namespace EntityJson

/-- The fields of the object of a snapshot, in their own order. -/
def fields (e : Entity) : List (String × Json) := [
  ("id", .string e.id.text),
  ("owner_id", .string e.owner.name),
  ("kind", .string e.kind.name),
  ("payload", e.payload),
  ("idempotency_key", .ofText? e.key),
  ("status", .string e.status.name),
  ("result", e.result.getD .null),
  ("error_code", .ofText? e.errorCode),
  ("error_message", .ofText? e.errorMessage),
  ("executor_name", .ofText? e.executor),
  ("dispatch_id", .ofText? e.dispatch),
  ("created_at", timeJson e.createdAt),
  ("updated_at", timeJson e.updatedAt),
  ("started_at", timeJson? e.startedAt),
  ("finished_at", timeJson? e.finishedAt),
  ("revision", .integer e.revision)]

theorem toJson_eq (e : Entity) : e.toJson = .ofFields (fields e) := rfl

theorem fields_names (e : Entity) : (fields e).map Prod.fst = names := rfl

/-! ## Values of fields -/

section Values

theorem readOwner_name (owner : Owner) : readOwner (.string owner.name) = .ok owner := by
  show ownerOf owner.name = _
  rw [ownerOf, owner.ofName_name]

theorem readVariant_kind (kind : Kind) :
    readVariant kindNames Kind.ofName? (.string kind.name) = .ok kind := by
  cases kind <;> rfl

theorem readVariant_status (status : Status) :
    readVariant statusNames Status.ofName? (.string status.name) = .ok status := by
  cases status <;> rfl

theorem readOptional_text (text : Option String) :
    readOptional readText (.ofText? text) = .ok text := by
  cases text <;> rfl

theorem readOptional_result (result : Option Json) :
    readOptional .ok (result.getD .null) = .ok (Json.told result) := by
  unfold Json.told
  split
  · rfl
  · next other =>
    cases result with
    | none => rfl
    | some value => cases value <;> first | rfl | exact absurd rfl other

variable {t : Time.Instant}

theorem readTime_timeJson (years : Time.Rfc3339.InYears t) :
    readTime (timeJson t) = .ok (Time.Rfc3339.asWritten t) := by
  show timeOf (Time.Rfc3339.write t) = _
  rw [timeOf, Time.Rfc3339.readLoose_asWritten years]

theorem readOptional_timeJson? {time : Option Time.Instant}
    (years : ∀ t, time = some t → Time.Rfc3339.InYears t) :
    readOptional readTime (timeJson? time) = .ok (time.map Time.Rfc3339.asWritten) := by
  cases time with
  | none => rfl
  | some t =>
    show (readTime (timeJson t)).map some = _
    rw [readTime_timeJson (years t rfl)]
    rfl

theorem readNatural_integer (n : Nat) : readNatural (.integer n) = .ok n := by
  rw [readNatural, if_pos (Int.natCast_nonneg n), Int.toNat_natCast]

end Values

/-! ## Fields in any order -/

/-- The draft in which the fields with these names have been read. -/
def Draft.holding (e : Entity) (met : List String) : Draft where
  id := if "id" ∈ met then some e.id else none
  owner := if "owner_id" ∈ met then some e.owner else none
  kind := if "kind" ∈ met then some e.kind else none
  payload := if "payload" ∈ met then some e.payload else none
  key := if "idempotency_key" ∈ met then some e.key else none
  status := if "status" ∈ met then some e.status else none
  result := if "result" ∈ met then some e.result else none
  errorCode := if "error_code" ∈ met then some e.errorCode else none
  errorMessage := if "error_message" ∈ met then some e.errorMessage else none
  executor := if "executor_name" ∈ met then some e.executor else none
  dispatch := if "dispatch_id" ∈ met then some e.dispatch else none
  createdAt := if "created_at" ∈ met then some e.createdAt else none
  updatedAt := if "updated_at" ∈ met then some e.updatedAt else none
  startedAt := if "started_at" ∈ met then some e.startedAt else none
  finishedAt := if "finished_at" ∈ met then some e.finishedAt else none
  revision := if "revision" ∈ met then some e.revision else none

theorem Draft.holding_nil (e : Entity) : holding e [] = empty := rfl

theorem Draft.complete_holding {e : Entity} {met : List String} (all : ∀ name ∈ names, name ∈ met) :
    (holding e met).complete = .ok e := by
  simp only [names, List.forall_mem_cons] at all
  simp only [complete, holding, all, if_true]
  rfl

variable {e : Entity} {field : String × Json}

/-- Each field of the object is read into its own place. -/
theorem Draft.read_field (years : e.AllTimes Time.Rfc3339.InYears) (inside : field ∈ fields e)
    (met : List String) :
    (holding e.told met).read field.1 field.2 = .ok (holding e.told (field.1 :: met)) := by
  simp only [fields, List.mem_cons, List.not_mem_nil, or_false] at inside
  obtain rfl | rfl | rfl | rfl | rfl | rfl | rfl | rfl | rfl | rfl | rfl | rfl | rfl | rfl | rfl |
    rfl := inside <;>
  -- No two names are the same, so the other places of the draft stay as they are.
  simp [read, holding, readText, readOwner_name, readVariant_kind, readVariant_status,
    readOptional_text, readOptional_result, readTime_timeJson years.created,
    readTime_timeJson years.updated, readOptional_timeJson? years.started,
    readOptional_timeJson? years.finished, readNatural_integer, Entity.told, Entity.asWritten, bind,
    Except.bind, pure, Except.pure]

theorem Draft.readFields_holding (years : e.AllTimes Time.Rfc3339.InYears)
    {list : List (String × Json)} (inside : ∀ field ∈ list, field ∈ fields e) (met : List String) :
    (holding e.told met).readFields list =
      .ok (holding e.told ((list.map Prod.fst).reverse ++ met)) := by
  induction list generalizing met with
  | nil => rfl
  | cons field rest ih =>
    obtain ⟨first, others⟩ := List.forall_mem_cons.1 inside
    rw [readFields, read_field years first]
    show (holding e.told (field.1 :: met)).readFields rest = _
    rw [ih others, List.map_cons, List.reverse_cons, List.append_assoc, List.singleton_append]

/-- A snapshot is read back from the fields of its object, in whatever order they come. -/
theorem ofJson_fields (years : e.AllTimes Time.Rfc3339.InYears) {list : List (String × Json)}
    (same : list.Perm (fields e)) : ofJson (.object list) = .ok e.told := by
  have all : ∀ name ∈ names, name ∈ (list.map Prod.fst).reverse ++ [] := by
    intro name inside
    rw [List.append_nil, List.mem_reverse, (same.map Prod.fst).mem_iff]
    exact inside
  rw [ofJson, ← Draft.holding_nil e.told, Draft.readFields_holding years fun _ => same.mem_iff.1]
  exact Draft.complete_holding all

end EntityJson

/-! ## Objects with sorted fields -/

namespace Json

variable {name : String} {value : Json} {fields : List (String × Json)}

theorem insertField_perm (fresh : name ∉ fields.map Prod.fst) :
    (insertField name value fields).Perm ((name, value) :: fields) := by
  induction fields with
  | nil => exact .rfl
  | cons first rest ih =>
    obtain ⟨other, kept⟩ := first
    obtain ⟨different, later⟩ := not_or.1 (fresh ∘ List.mem_cons.2)
    rw [insertField, if_neg different]
    split
    · exact .rfl
    · exact ((ih later).cons _).trans (.swap _ _ _)

theorem foldl_insertField_perm (fields sorted : List (String × Json))
    (distinct : ((fields ++ sorted).map Prod.fst).Nodup) :
    (fields.foldl (fun sorted field => insertField field.1 field.2 sorted) sorted).Perm
      (fields ++ sorted) := by
  induction fields generalizing sorted with
  | nil => exact .rfl
  | cons field rest ih =>
    rw [List.cons_append, List.map_cons, List.nodup_cons] at distinct
    obtain ⟨fresh, others⟩ := distinct
    have inserted : (insertField field.1 field.2 sorted).Perm (field :: sorted) := by
      refine insertField_perm fun inside => fresh ?_
      rw [List.map_append]
      exact List.mem_append_right _ inside
    -- The field has moved behind the rest, where the next ones are inserted.
    have moved := (inserted.append_left rest).trans List.perm_middle
    refine (ih _ ?_).trans moved
    rw [(moved.map Prod.fst).nodup_iff]
    exact List.nodup_cons.2 ⟨fresh, others⟩

theorem ofFields_perm (distinct : (fields.map Prod.fst).Nodup) :
    ∃ list, ofFields fields = .object list ∧ list.Perm fields := by
  have sorted := foldl_insertField_perm fields [] (by rwa [List.append_nil])
  rw [List.append_nil] at sorted
  exact ⟨_, rfl, sorted⟩

end Json

namespace Entity

/-- A snapshot is read back from its JSON object, but for a result that is null. -/
theorem ofJson_toJson {e : Entity} (years : e.AllTimes Time.Rfc3339.InYears) :
    ofJson e.toJson = .ok e.told := by
  obtain ⟨list, same, sorted⟩ :=
    Json.ofFields_perm ((EntityJson.fields_names e).symm ▸ (by decide : EntityJson.names.Nodup))
  rw [EntityJson.toJson_eq, same, ofJson, EntityJson.ofJson_fields years sorted]

end Entity

end TenantWork
