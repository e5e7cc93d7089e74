import TenantWork.Proofs.Json.Written
import TenantWork.Proofs.Work.JsonForm
import TenantWork.Work.EntityText
/-!
Snapshots read straight from texts. Where an object has the fields of a snapshot, each once and in
any order, its compact text is read as the same snapshot as the object: field by field, both
readers take the same values into their drafts.
-/
namespace TenantWork

namespace EntityText

open Json (Reader Cause)
open Json.Reader
open EntityJson

/-- A value that texts of snapshots keep: the object around it is one more level. -/
structure Legible (v : Json) : Prop where
  within : v.Within (depthLimit - 1)
  kept : v.Kept

theorem legible_null : Legible .null := ⟨.null, .null⟩

theorem legible_string (text : String) : Legible (.string text) := ⟨.string text, .string text⟩

theorem legible_ofText? (text : Option String) : Legible (.ofText? text) := by
  cases text with
  | none => exact legible_null
  | some text => exact legible_string text

theorem legible_timeJson? (time : Option Time.Instant) : Legible (timeJson? time) := by
  cases time with
  | none => exact legible_null
  | some t => exact legible_string _

/-! ## Values by the type they must have -/

section Values

variable {v : Json} {after : List Char}

theorem reads_nullValue (after : List Char) :
    Reads nullValue (Json.textChars .null ++ after) after () := by
  rw [Json.textChars]
  exact (reads_peekToken rfl _).bind ((reads_advance 'n' _).bind (reads_word ['u', 'l', 'l'] after))

theorem reads_stringValue (expected text : String) (after : List Char) :
    Reads (stringValue expected) (Json.textChars (.string text) ++ after) after text := by
  rw [textChars_string]
  exact (reads_peekToken rfl _).bind ((reads_advance '"' _).bind (reads_stringTail text after))

theorem reads_textValue {text : String} (read : readText v = .ok text) :
    Reads textValue (v.textChars ++ after) after text := by
  cases v with
  | string other =>
    obtain rfl := Except.ok.inj read
    exact reads_stringValue _ _ _
  | _ => cases read

theorem reads_timeValue {t : Time.Instant} (read : readTime v = .ok t) :
    Reads timeValue (v.textChars ++ after) after t := by
  cases v with
  | string text =>
    have same : timeOf text = .ok t := read
    refine (reads_stringValue _ _ _).bind ?_
    rw [same]
    exact reads_pure _ _
  | _ => cases read

theorem reads_variantNamed {α : Type} {known : List String} {ofName? : String → Option α}
    {name : String} {found : α} (same : ofName? name = some found) (text : List Char) :
    Reads (variantNamed known ofName? name) text text found := by
  rw [variantNamed, same]
  exact reads_pure _ _

/-- A name alone, or in an object with null behind it. -/
theorem reads_variantValue {α : Type} {known : List String} {ofName? : String → Option α}
    {found : α} (read : readVariant known ofName? v = .ok found) :
    Reads (variantValue known ofName?) (v.textChars ++ after) after found := by
  unfold readVariant at read
  split at read
  next name =>
    split at read
    next found named =>
      obtain rfl := Except.ok.inj read
      rw [textChars_string]
      exact (reads_peekToken rfl _).bind ((reads_advance '"' _).bind
        ((reads_stringTail name after).bind (reads_variantNamed named _)))
    next => cases read
  next name inner =>
    split at read
    next => cases read
    next found named =>
      split at read
      next =>
        obtain rfl := Except.ok.inj read
        rw [textChars_object, fieldsText_cons, List.flatMap_nil, List.append_nil, fieldText_string]
        refine (reads_peekToken rfl _).bind ((reads_advance '\x7b' _).bind
          ((reads_stringValue _ _ _).bind ((reads_variantNamed named _).bind
            ((reads_colon _).bind ((reads_nullValue _).bind ?_)))))
        exact (reads_peekToken rfl _).bind ((reads_advance '\x7d' after).bind (reads_pure _ _))
      next => cases read
  next => cases read
  next => cases read

theorem reads_naturalValue {n : Nat} (read : readNatural v = .ok n) (legible : Legible v)
    (ends : EndsValue after) : Reads naturalValue (v.textChars ++ after) after n := by
  cases v with
  | integer m =>
    rw [readNatural] at read
    split at read
    next natural =>
      obtain rfl := Except.ok.inj read
      obtain ⟨k, rfl⟩ := Int.eq_ofNat_of_zero_le natural
      have word : k < 2 ^ 64 := by
        cases legible.within with
        | integer _ word => omega
      have reads := reads_natural word ends.number
      obtain ⟨c, rest, same, digit⟩ := number_digit reads
      rw [same] at reads ⊢
      refine (reads_peekToken (digit_opens digit rest).solid _).bind ?_
      split
      next none => cases none
      next minus =>
        obtain rfl := Option.some.inj minus
        cases digit
      next same =>
        obtain rfl := Option.some.inj same
        rw [if_pos digit]
        refine reads.bind ?_
        rw [readNatural_integer]
        exact reads_pure _ _
    next => cases read
  | _ => cases read

theorem reads_optionalValue {α : Type} {read : Json → Except Cause α} {reader : Reader α}
    {found : Option α} (reads : ∀ a, read v = .ok a → Reads reader (v.textChars ++ after) after a)
    (legible : Legible v) (done : readOptional read v = .ok found) :
    Reads (optionalValue reader) (v.textChars ++ after) after found := by
  unfold readOptional at done
  split at done
  next =>
    obtain rfl := Except.ok.inj done
    rw [Json.textChars]
    exact (reads_peekToken rfl _).bind ((reads_advance 'n' _).bind
      ((reads_word ['u', 'l', 'l'] after).bind (reads_pure _ _)))
  next other =>
    obtain ⟨c, opens, first⟩ := opens_value legible.within
    cases taken : read v with
    | error cause =>
      rw [taken] at done
      cases done
    | ok a =>
      rw [taken] at done
      obtain rfl := Except.ok.inj done
      have whole : Reads (do return some (← reader)) (v.textChars ++ after) after (some a) :=
        (reads a taken).bind (reads_pure _ _)
      obtain ⟨rest, same⟩ := (opens.append after).eq_cons
      rw [same] at whole ⊢
      refine (reads_peekToken opens.solid _).bind ?_
      split
      next null => exact absurd (Option.some.inj null) (first.resolve_left other)
      next => exact whole

theorem reads_anyValue (legible : Legible v) (ends : EndsValue after) :
    Reads anyValue (v.textChars ++ after) after v :=
  reads_kept legible.within le_rfl legible.kept ends

end Values

/-! ## Fields -/

section Fields

variable {draft next last : Draft}

/-- Reading a field leaves all others as they were. -/
theorem met_read {name other : String} {v : Json} (read : draft.read name v = .ok next)
    (different : other ≠ name) : met next other = met draft other := by
  unfold Draft.read at read
  split at read
  -- A payload may be any value and an unknown name is ignored, so nothing was read before.
  case h_4 =>
    obtain rfl := Except.ok.inj read
    unfold met
    split <;> first | rfl | exact absurd rfl different
  case h_17 =>
    obtain rfl := Except.ok.inj read
    rfl
  all_goals
    obtain ⟨a, _, made⟩ := bind_eq_ok read
    obtain rfl := Except.ok.inj made
    unfold met
    split <;> first | rfl | exact absurd rfl different

/-- What a field is read as in an object is read from its text. -/
theorem reads_fieldValue (complainInside : Cause → Reader Owner) {name : String} {v : Json}
    (known : name ∈ names) (legible : Legible v) (read : draft.read name v = .ok next)
    {after : List Char} (ends : EndsValue after) :
    Reads (fieldValue complainInside draft name) (v.textChars ++ after) after next := by
  have text {value : Option String} (done : readOptional readText v = .ok value) :
      Reads (optionalValue textValue) (v.textChars ++ after) after value :=
    reads_optionalValue (fun _ => reads_textValue) legible done
  have time {value : Option Time.Instant} (done : readOptional readTime v = .ok value) :
      Reads (optionalValue timeValue) (v.textChars ++ after) after value :=
    reads_optionalValue (fun _ => reads_timeValue) legible done
  unfold Draft.read at read
  split at read
  -- The reader of owners is the only one that may complain about the object around it.
  case h_2 =>
    obtain ⟨owner, done, made⟩ := bind_eq_ok read
    obtain rfl := Except.ok.inj made
    obtain ⟨name, named, owned⟩ := bind_eq_ok done
    refine (reads_textValue named).bind ?_
    rw [owned]
    exact reads_pure _ _
  -- Payload and result are values of any form, which texts have to keep.
  case h_4 =>
    obtain rfl := Except.ok.inj read
    exact (reads_anyValue legible ends).bind (reads_pure _ _)
  case h_7 =>
    obtain ⟨value, done, made⟩ := bind_eq_ok read
    obtain rfl := Except.ok.inj made
    refine (reads_optionalValue (fun a same => ?_) legible done).bind (reads_pure _ _)
    obtain rfl := Except.ok.inj same
    exact reads_anyValue legible ends
  case h_17 => exact absurd known (by simp_all [names])
  all_goals
    obtain ⟨value, done, made⟩ := bind_eq_ok read
    obtain rfl := Except.ok.inj made
    first
    | exact (reads_textValue done).bind (reads_pure _ _)
    | exact (reads_variantValue done).bind (reads_pure _ _)
    | exact (reads_timeValue done).bind (reads_pure _ _)
    | exact (text done).bind (reads_pure _ _)
    | exact (time done).bind (reads_pure _ _)
    | exact (reads_naturalValue done legible ends).bind (reads_pure _ _)

/-- Fields of a snapshot, each with another name, and with values that texts keep. -/
structure Listed (list : List (String × Json)) : Prop where
  known : ∀ field ∈ list, field.1 ∈ names
  legible : ∀ field ∈ list, Legible field.2
  distinct : (list.map Prod.fst).Nodup

section Listed

variable {field : String × Json} {list rest : List (String × Json)} {rounds : Nat}

theorem Listed.tail (listed : Listed (field :: rest)) : Listed rest :=
  ⟨fun other inside => listed.known other (List.mem_cons_of_mem _ inside),
    fun other inside => listed.legible other (List.mem_cons_of_mem _ inside),
    listed.distinct.of_cons⟩

theorem Listed.fresh_tail (listed : Listed (field :: rest))
    (fresh : ∀ other ∈ field :: rest, met draft other.1 = false)
    (read : draft.read field.1 field.2 = .ok next) : ∀ other ∈ rest, met next other.1 = false := by
  intro other inside
  have different : other.1 ≠ field.1 := by
    intro same
    have distinct := listed.distinct
    rw [List.map_cons, List.nodup_cons, ← same] at distinct
    exact distinct.1 (List.mem_map_of_mem inside)
  rw [met_read read different]
  exact fresh other (List.mem_cons_of_mem _ inside)

theorem Listed.reads_first (listed : Listed (field :: rest)) (fresh : met draft field.1 = false)
    (read : draft.read field.1 field.2 = .ok next) {between after : List Char}
    (ends : EndsValue between) (more : Reads (fieldsOf rounds false next) between after last) :
    Reads (do
      advance
      let name ← stringTail
      if met draft name then complainInObject (.duplicateField name)
      else
        colon
        fieldsOf rounds false (← fieldValue complainInObject draft name))
      (fieldText field ++ between) after last := by
  have value := reads_fieldValue complainInObject
    (listed.known field List.mem_cons_self) (listed.legible field List.mem_cons_self) read ends
  rw [fieldText_eq]
  refine (reads_advance '"' _).bind ((reads_stringTail field.1 _).bind ?_)
  -- No field of this name has been met, so it is no duplicate.
  rw [fresh, if_neg Bool.false_ne_true]
  exact (reads_colon _).bind (value.bind more)

theorem Listed.reads_more (listed : Listed list)
    (fresh : ∀ field ∈ list, met draft field.1 = false)
    (read : draft.readFields list = .ok last) (enough : list.length < rounds)
    (after : List Char) :
    Reads (fieldsOf rounds false draft)
      ((list.flatMap fun field => ',' :: fieldText field) ++ '\x7d' :: after) ('\x7d' :: after)
      last := by
  induction list generalizing draft rounds with
  | nil =>
    -- The closing brace is only looked at.
    obtain ⟨rounds, rfl⟩ := Nat.exists_eq_succ_of_ne_zero (Nat.ne_of_gt enough)
    obtain rfl := Except.ok.inj read
    exact (reads_noMoreNames false after).bind (reads_pure _ _)
  | cons field rest ih =>
    obtain ⟨rounds, rfl⟩ := Nat.exists_eq_succ_of_ne_zero (Nat.ne_of_gt (Nat.zero_lt_of_lt enough))
    obtain ⟨next, first, others⟩ := bind_eq_ok read
    have more := ih listed.tail (listed.fresh_tail fresh first) others
      (Nat.lt_of_succ_lt_succ enough)
    have whole := listed.reads_first (fresh field List.mem_cons_self) first
      (endsValue_more rest fieldText (.inr rfl) after) more
    rw [List.flatMap_cons, List.append_assoc, List.cons_append]
    rw [fieldText_eq] at whole ⊢
    exact (reads_moreNames _).2.bind whole

theorem Listed.reads_all (listed : Listed list)
    (fresh : ∀ field ∈ list, met draft field.1 = false)
    (read : draft.readFields list = .ok last) (enough : list.length < rounds)
    (after : List Char) :
    Reads (fieldsOf rounds true draft) (Json.fieldsText list ++ '\x7d' :: after) ('\x7d' :: after)
      last := by
  obtain ⟨rounds, rfl⟩ := Nat.exists_eq_succ_of_ne_zero (Nat.ne_of_gt (Nat.zero_lt_of_lt enough))
  cases list with
  | nil =>
    obtain rfl := Except.ok.inj read
    exact (reads_noMoreNames true after).bind (reads_pure _ _)
  | cons field rest =>
    obtain ⟨next, first, others⟩ := bind_eq_ok read
    have more := listed.tail.reads_more (listed.fresh_tail fresh first) others
      (Nat.lt_of_succ_lt_succ enough) after
    have whole := listed.reads_first (fresh field List.mem_cons_self) first
      (endsValue_more rest fieldText (.inr rfl) after) more
    rw [fieldsText_cons, List.append_assoc]
    rw [fieldText_eq] at whole ⊢
    exact (reads_moreNames _).1.bind whole

theorem met_empty (name : String) : met .empty name = false := by
  unfold met
  split <;> rfl

theorem Listed.reads_entity (listed : Listed list) {e : Entity}
    (read : ofJson (.object list) = .ok e) (after : List Char) :
    Reads entityValue (Json.textChars (.object list) ++ after) after e := by
  obtain ⟨draft, filled, complete⟩ := bind_eq_ok read
  have fields := listed.reads_all (fun field _ => met_empty field.1) filled
    (length_fieldsText list ('\x7d' :: after)) after
  rw [textChars_object]
  refine (reads_peekToken rfl _).bind ((reads_advance '\x7b' _).bind
    ((reads_budget _).bind (fields.bind ?_)))
  rw [complete]
  exact (reads_advance '\x7d' after).bind (reads_pure _ _)

theorem Listed.perm (listed : Listed list) {other : List (String × Json)}
    (same : other.Perm list) : Listed other :=
  ⟨fun field inside => listed.known field (same.mem_iff.1 inside),
    fun field inside => listed.legible field (same.mem_iff.1 inside),
    (same.map Prod.fst).nodup_iff.2 listed.distinct⟩

end Listed

/-- A snapshot whose JSON and whose number of updates texts keep. -/
structure Textual (e : Entity) : Prop where
  payload : Legible e.payload
  result : ∀ value, e.result = some value → Legible value
  revision : e.revision < 2 ^ 64

theorem Textual.listed {e : Entity} (textual : Textual e) : Listed (EntityJson.fields e) := by
  have revision : Legible (.integer e.revision) := by
    have word := textual.revision
    exact ⟨.integer (by omega) (by omega), .integer _⟩
  have result : Legible (e.result.getD .null) := by
    cases found : e.result with
    | none => exact legible_null
    | some value => exact textual.result value found
  refine ⟨fun field inside => ?_, ?_, ?_⟩
  · rw [← fields_names e]
    exact List.mem_map_of_mem inside
  · simp only [EntityJson.fields, List.forall_mem_cons]
    exact ⟨legible_string _, legible_string _, legible_string _, textual.payload, legible_ofText? _,
      legible_string _, result, legible_ofText? _, legible_ofText? _, legible_ofText? _,
      legible_ofText? _, legible_string _, legible_string _, legible_timeJson? _,
      legible_timeJson? _, revision, List.forall_mem_nil _⟩
  · rw [fields_names]
    decide

end Fields

end EntityText

/-- What an object is read as, its text is read as. -/
theorem Entity.ofText_compact {list : List (String × Json)} (listed : EntityText.Listed list)
    {e : Entity} (read : EntityJson.ofJson (.object list) = .ok e) :
    ofText (Json.compact (.object list)) = .ok e := by
  have whole : Json.Reader.Reads (do
      let e ← EntityText.entityValue
      Json.Reader.finished
      return e) (Json.textChars (.object list) ++ []) [] e :=
    (listed.reads_entity read []).bind
      (Json.Reader.reads_finished.bind (Json.Reader.reads_pure _ _))
  obtain ⟨place, reads⟩ := whole .start
  rw [List.append_nil] at reads
  unfold ofText Json.Cursor.ofText Json.compact
  rw [String.toList_ofList]
  dsimp only
  rw [reads]

/-- A snapshot is read back from every text of its JSON object, but for a result that is null. -/
theorem Entity.ofText_fields {e : Entity} (years : e.AllTimes Time.Rfc3339.InYears)
    (textual : EntityText.Textual e) {list : List (String × Json)} (same : list.Perm (EntityJson.fields e)) :
    ofText (Json.compact (.object list)) = .ok e.told :=
  ofText_compact (textual.listed.perm same) (EntityJson.ofJson_fields years same)

end TenantWork
