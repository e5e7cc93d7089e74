import TenantWork.Proofs.Json.Nesting
/-!
Values read from their compact texts. What nests no deeper than texts may is read, as a value that
nests no deeper either; with one level too many the text that was written is refused.
-/
namespace TenantWork.Json

open Number (Double)

theorem parse_of_reads {text : List Char} {value : Json}
    (reads : Reader.Reads (Reader.value Reader.depthLimit) text [] value) :
    parse (String.ofList text) = .ok value := by
  have whole : Reader.Reads (do
      let value ← Reader.value Reader.depthLimit
      Reader.finished
      return value) text [] value :=
    reads.bind (Reader.reads_finished.bind (Reader.reads_pure _ _))
  obtain ⟨place, read⟩ := whole .start
  unfold parse Cursor.ofText
  rw [String.toList_ofList]
  dsimp only
  rw [read]
  rfl

/-- A value that is read back is what any reading of its text gives. -/
theorem same_of_reads {value read : Json}
    (reads : Reader.Reads (Reader.value Reader.depthLimit) (value.textChars ++ []) [] read)
    (readable : value.Readable) : read = value := by
  rw [List.append_nil] at reads
  exact Except.ok.inj ((parse_of_reads reads).symm.trans readable)

namespace Reader

/-! ## What is written is read -/

section Complete

/-- What may come behind a value: a comma, a closing bracket or brace, or the end of the text. -/
def EndsValue (text : List Char) : Prop :=
  ∀ c, text.head? = some c → c = ',' ∨ c = ']' ∨ c = '\x7d'

theorem EndsValue.number {text : List Char} (ends : EndsValue text) : EndsNumber text := by
  intro c first
  obtain rfl | rfl | rfl := ends c first <;> decide

theorem endsValue_cons {c : Char} (text : List Char) (mark : c = ',' ∨ c = ']' ∨ c = '\x7d') :
    EndsValue (c :: text) := by
  intro first same
  obtain rfl := Option.some.inj same
  exact mark

/-! ### Numbers -/

/-- How texts of values begin. -/
structure Opens (text : List Char) (c : Char) : Prop where
  first : text.head? = some c
  solid : isSpace c = false
  value : c ≠ ']'

theorem opens_cons {c : Char} (text : List Char) (solid : isSpace c = false) (value : c ≠ ']') :
    Opens (c :: text) c := ⟨rfl, solid, value⟩

theorem Opens.append {text : List Char} {c : Char} (opens : Opens text c) (after : List Char) :
    Opens (text ++ after) c :=
  ⟨by rw [List.head?_append, opens.first, Option.some_or], opens.solid, opens.value⟩

theorem digit_opens {c : Char} (digit : c.isDigit = true) (text : List Char) :
    Opens (c :: text) c := by
  refine opens_cons text ?_ ?_
  · by_contra blank
    rw [Bool.not_eq_false, isSpace] at blank
    simp only [Bool.or_eq_true, beq_iff_eq] at blank
    obtain ((rfl | rfl) | rfl) | rfl := blank <;> exact absurd digit (by decide)
  · rintro rfl
    exact absurd digit (by decide)

theorem number_digit {negative : Bool} {text after : List Char} {w : Json}
    (reads : Reads (number negative) text after w) :
    ∃ c rest, text = c :: rest ∧ c.isDigit = true := by
  obtain ⟨place, read⟩ := reads .start
  cases text with
  | nil => cases read
  | cons c rest =>
    refine ⟨c, rest, rfl, ?_⟩
    by_contra other
    rw [Bool.not_eq_true] at other
    have refused : Refuses (number negative) (c :: rest) := by
      refine (reads_peek _).refuses ?_
      simp only [List.head?_cons, other, Bool.not_false, if_true]
      exact refuses_failAhead _ _
    obtain ⟨fault, fails⟩ := refused .start
    rw [fails] at read
    cases read

theorem reads_value_of_number {text after : List Char} {w : Json}
    (reads : Reads (number false) text after w) (depth : Nat) :
    Reads (value depth) text after w := by
  obtain ⟨c, rest, rfl, digit⟩ := number_digit reads
  unfold value
  refine (reads_peekToken (digit_opens digit rest).solid _).bind ?_
  split
  next none => cases none
  iterate 7
    next same =>
      obtain rfl := Option.some.inj same
      exact absurd digit (by decide)
  next other same =>
    obtain rfl := Option.some.inj same
    rw [if_pos digit]
    exact reads

theorem reads_value_of_minus {text after : List Char} {w : Json}
    (reads : Reads (number true) text after w) (depth : Nat) :
    Reads (value depth) ('-' :: text) after w := by
  unfold value
  exact (reads_peekToken rfl _).bind ((reads_advance '-' _).bind reads)

theorem textChars_natural (n : Nat) : textChars (.integer n) = Nat.toDigits 10 n := by
  rw [textChars]
  exact Nat.toList_repr

theorem reads_natural {n : Nat} {after : List Char} (word : n < 2 ^ 64) (ends : EndsNumber after) :
    Reads (number false) (textChars (.integer n) ++ after) after (.integer n) := by
  rw [textChars_natural]
  exact reads_wholeNumber word ends (reads_pure _ _)

theorem reads_integer {n : Int} {after : List Char} (least : -2 ^ 63 ≤ n) (word : n < 2 ^ 64)
    (ends : EndsNumber after) (depth : Nat) :
    Reads (value depth) (textChars (.integer n) ++ after) after (.integer n) := by
  cases n with
  | ofNat m =>
    rw [Int.ofNat_eq_natCast] at word ⊢
    exact reads_value_of_number (reads_natural (by omega) ends) depth
  | negSucc m =>
    have text : textChars (.integer (.negSucc m)) = '-' :: Nat.toDigits 10 (m + 1) := by
      rw [textChars]
      show ("-" ++ Nat.repr (m + 1)).toList = _
      rw [String.toList_append, Nat.toList_repr]
      rfl
    have small : 0 < m + 1 ∧ m + 1 ≤ 0x8000000000000000 := by omega
    rw [text]
    refine reads_value_of_minus (reads_wholeNumber (by omega) ends ?_) depth
    rw [wholeNumber, Bool.not_true, if_neg Bool.false_ne_true, if_pos small]
    exact reads_pure _ _

theorem reads_double {a : Double} (rounded : a.Fits) :
    ∃ b, b.Fits ∧ ∀ depth after, EndsNumber after →
      Reads (value depth) (textChars (.double a) ++ after) after (.double b) := by
  have readable := Double.shortest_readable rounded
  rw [textChars, Double.text]
  cases a.negative with
  | false =>
    obtain ⟨b, fits, reads⟩ := reads_magnitudeText false readable
    exact ⟨b, fits, fun depth after ends => reads_value_of_number (reads after ends) depth⟩
  | true =>
    obtain ⟨b, fits, reads⟩ := reads_magnitudeText true readable
    exact ⟨b, fits, fun depth after ends => reads_value_of_minus (reads after ends) depth⟩

/-! ### Lists and objects -/

/-- Only the text of null begins like it. -/
theorem opens_value {depth : Nat} {v : Json} (within : v.Within depth) :
    ∃ c, Opens v.textChars c ∧ (v = .null ∨ c ≠ 'n') := by
  have other {c : Char} (digit : c.isDigit = true) : v = .null ∨ c ≠ 'n' := by
    refine .inr ?_
    rintro rfl
    cases digit
  cases within with
  | null => exact ⟨'n', opens_cons _ rfl (by decide), .inl rfl⟩
  | bool truth => cases truth <;> exact ⟨_, opens_cons _ rfl (by decide), .inr (by decide)⟩
  | @integer _ n least word =>
    cases n with
    | ofNat m =>
      obtain ⟨c, rest, same, _⟩ := toDigits_head m
      have digit := toDigits_isDigit m c (same ▸ List.mem_cons_self)
      rw [Int.ofNat_eq_natCast, textChars_natural, same]
      exact ⟨c, digit_opens digit rest, other digit⟩
    | negSucc m =>
      refine ⟨'-', ⟨?_, rfl, by decide⟩, .inr (by decide)⟩
      rw [textChars]
      show ("-" ++ Nat.repr (m + 1)).toList.head? = _
      rw [String.toList_append]
      rfl
  | @double _ a rounded =>
    have ends : EndsNumber [] := fun _ none => by cases none
    obtain ⟨b, _, reads⟩ := reads_magnitudeText false (Double.shortest_readable rounded)
    obtain ⟨c, rest, same, digit⟩ := number_digit (reads [] ends)
    rw [List.append_nil] at same
    rw [textChars, Double.text, same]
    cases a.negative with
    | false => exact ⟨c, digit_opens digit rest, other digit⟩
    | true => exact ⟨'-', opens_cons _ rfl (by decide), .inr (by decide)⟩
  | string text => exact ⟨'"', opens_cons _ rfl (by decide), .inr (by decide)⟩
  | array inside => exact ⟨'[', opens_cons _ rfl (by decide), .inr (by decide)⟩
  | object inside => exact ⟨'\x7b', opens_cons _ rfl (by decide), .inr (by decide)⟩

theorem opens_textChars {depth : Nat} {v : Json} (within : v.Within depth) :
    ∃ c, Opens v.textChars c :=
  (opens_value within).imp fun _ => And.left

theorem itemsText_cons (v : Json) (rest : List Json) :
    itemsText (v :: rest) = v.textChars ++ rest.flatMap fun item => ',' :: item.textChars := by
  induction rest generalizing v with
  | nil => rw [itemsText, List.flatMap_nil, List.append_nil]
  | cons next rest ih =>
    rw [itemsText, ih, List.flatMap_cons]
    · rfl
    · exact List.cons_ne_nil _ _

theorem textChars_string (text : String) (after : List Char) :
    textChars (.string text) ++ after =
      '"' :: (text.toList.flatMap escapeChar ++ '"' :: after) := by
  simp only [textChars, stringText, List.append_assoc, List.cons_append, List.nil_append]

theorem textChars_array (items : List Json) (after : List Char) :
    textChars (.array items) ++ after = '[' :: (itemsText items ++ ']' :: after) := by
  simp only [textChars, List.append_assoc, List.cons_append, List.nil_append]

theorem textChars_object (fields : List (String × Json)) (after : List Char) :
    textChars (.object fields) ++ after = '\x7b' :: (fieldsText fields ++ '\x7d' :: after) := by
  simp only [textChars, List.append_assoc, List.cons_append, List.nil_append]

/-- The text of a field. -/
def fieldText (field : String × Json) : List Char := stringText field.1 ++ ':' :: field.2.textChars

theorem fieldsText_cons (field : String × Json) (rest : List (String × Json)) :
    fieldsText (field :: rest) = fieldText field ++ rest.flatMap fun other => ',' :: fieldText other := by
  induction rest generalizing field with
  | nil => rw [fieldsText, List.flatMap_nil, List.append_nil, fieldText]
  | cons next rest ih =>
    rw [fieldsText, ih, List.flatMap_cons]
    · simp only [fieldText, List.append_assoc, List.cons_append]
    · exact List.cons_ne_nil _ _

theorem length_le_flatMap {α : Type} (l : List α) (text : α → List Char) :
    l.length ≤ (l.flatMap fun a => ',' :: text a).length := by
  induction l with
  | nil => exact le_rfl
  | cons a rest ih =>
    rw [List.flatMap_cons, List.length_append, List.length_cons, List.length_cons]
    omega

theorem length_itemsText (items : List Json) (after : List Char) :
    items.length < 2 * (itemsText items ++ after).length + 2 := by
  cases items with
  | nil => exact Nat.succ_pos _
  | cons v rest =>
    have long := length_le_flatMap rest textChars
    rw [itemsText_cons, List.length_append, List.length_append, List.length_cons]
    omega

theorem length_fieldsText (fields : List (String × Json)) (after : List Char) :
    fields.length < 2 * (fieldsText fields ++ after).length + 2 := by
  cases fields with
  | nil => exact Nat.succ_pos _
  | cons field rest =>
    have long := length_le_flatMap rest fieldText
    rw [fieldsText_cons, List.length_append, List.length_append, List.length_cons]
    omega

theorem endsValue_more {α : Type} (l : List α) (text : α → List Char) {close : Char}
    (closes : close = ']' ∨ close = '\x7d') (after : List Char) :
    EndsValue ((l.flatMap fun a => ',' :: text a) ++ close :: after) := by
  cases l with
  | nil => exact endsValue_cons _ (.inr closes)
  | cons a rest => exact endsValue_cons _ (.inl rfl)

theorem Opens.eq_cons {text : List Char} {c : Char} (opens : Opens text c) :
    ∃ rest, text = c :: rest := by
  cases text with
  | nil => exact absurd opens.first (by simp)
  | cons d rest =>
    obtain rfl := Option.some.inj opens.first
    exact ⟨rest, rfl⟩

section Loops

variable {P : Json → Prop} {reader : Reader Json}

/-- The value is read from its text as a value with the property, and as itself if texts keep it. -/
def ReadsAs (reader : Reader Json) (P : Json → Prop) (v : Json) : Prop :=
  (∃ c, Opens v.textChars c) ∧ ∀ after, EndsValue after →
    ∃ w, P w ∧ (v.Kept → w = v) ∧ Reads reader (v.textChars ++ after) after w

theorem reads_moreItems {text : List Char} {c : Char} (opens : Opens text c) :
    Reads (moreItems true) text text true ∧ Reads (moreItems false) (',' :: text) text true := by
  obtain ⟨rest, rfl⟩ := opens.eq_cons
  constructor
  · refine (reads_peekToken opens.solid _).bind ?_
    split
    next none => cases none
    next close => exact absurd (Option.some.inj close) opens.value
    next => exact reads_pure _ _
  · refine (reads_peekToken rfl _).bind ?_
    refine (reads_advance ',' _).bind ((reads_peekToken opens.solid _).bind ?_)
    split
    next close => exact absurd (Option.some.inj close) opens.value
    next => exact reads_pure _ _
    next none => cases none

theorem reads_noMoreItems (first : Bool) (after : List Char) :
    Reads (moreItems first) (']' :: after) (']' :: after) false :=
  (reads_peekToken rfl _).bind (reads_pure _ _)

theorem reads_moreItemsText (values : List Json) (reads : ∀ v ∈ values, ReadsAs reader P v)
    {rounds : Nat} (enough : values.length < rounds) {taken : List Json}
    (all : ∀ w ∈ taken, P w) (after : List Char) :
    ∃ ws, (∀ w ∈ ws, P w) ∧ ((∀ v ∈ values, v.Kept) → ws = taken.reverse ++ values) ∧
      Reads (items reader rounds false taken)
        ((values.flatMap fun v => ',' :: v.textChars) ++ ']' :: after) after ws := by
  induction values generalizing rounds taken with
  | nil =>
    obtain ⟨rounds, rfl⟩ := Nat.exists_eq_succ_of_ne_zero (Nat.ne_of_gt enough)
    refine ⟨taken.reverse, fun w here => all w (List.mem_reverse.1 here),
      fun _ => (List.append_nil _).symm, ?_⟩
    exact (reads_noMoreItems false after).bind ((reads_advance ']' after).bind (reads_pure _ _))
  | cons v rest ih =>
    obtain ⟨rounds, rfl⟩ := Nat.exists_eq_succ_of_ne_zero (Nat.ne_of_gt (Nat.zero_lt_of_lt enough))
    obtain ⟨⟨c, opens⟩, read⟩ := reads v List.mem_cons_self
    obtain ⟨w, has, itself, first⟩ := read _ (endsValue_more rest textChars (.inl rfl) after)
    obtain ⟨ws, allRead, same, more⟩ := ih (fun u here => reads u (List.mem_cons_of_mem v here))
      (Nat.lt_of_succ_lt_succ enough) (List.forall_mem_cons.2 ⟨has, all⟩)
    refine ⟨ws, allRead, fun kept => ?_, ?_⟩
    · obtain ⟨keptFirst, others⟩ := List.forall_mem_cons.1 kept
      rw [same others, itself keptFirst, List.reverse_cons, List.append_assoc,
        List.singleton_append]
    rw [List.flatMap_cons, List.append_assoc, List.cons_append]
    exact (reads_moreItems (opens.append _)).2.bind (first.bind more)

theorem reads_items (values : List Json) (reads : ∀ v ∈ values, ReadsAs reader P v)
    {rounds : Nat} (enough : values.length < rounds) (after : List Char) :
    ∃ ws, (∀ w ∈ ws, P w) ∧ ((∀ v ∈ values, v.Kept) → ws = values) ∧
      Reads (items reader rounds true []) (itemsText values ++ ']' :: after) after ws := by
  obtain ⟨rounds, rfl⟩ := Nat.exists_eq_succ_of_ne_zero (Nat.ne_of_gt (Nat.zero_lt_of_lt enough))
  cases values with
  | nil =>
    refine ⟨[], List.forall_mem_nil _, fun _ => rfl, ?_⟩
    exact (reads_noMoreItems true after).bind ((reads_advance ']' after).bind (reads_pure _ _))
  | cons v rest =>
    obtain ⟨⟨c, opens⟩, read⟩ := reads v List.mem_cons_self
    obtain ⟨w, has, itself, first⟩ := read _ (endsValue_more rest textChars (.inl rfl) after)
    obtain ⟨ws, allRead, same, more⟩ := reads_moreItemsText rest
      (fun u here => reads u (List.mem_cons_of_mem v here)) (Nat.lt_of_succ_lt_succ enough)
      (List.forall_mem_singleton.2 has) after
    refine ⟨ws, allRead, fun kept => ?_, ?_⟩
    · obtain ⟨keptFirst, others⟩ := List.forall_mem_cons.1 kept
      rw [same others, itself keptFirst, List.reverse_singleton, List.singleton_append]
    rw [itemsText_cons, List.append_assoc]
    exact (reads_moreItems (opens.append _)).1.bind (first.bind more)

theorem reads_moreNames (text : List Char) :
    Reads (moreNames true) ('"' :: text) ('"' :: text) true ∧
      Reads (moreNames false) (',' :: '"' :: text) ('"' :: text) true := by
  constructor
  · exact (reads_peekToken rfl _).bind (reads_pure _ _)
  · exact (reads_peekToken rfl _).bind
      ((reads_advance ',' _).bind ((reads_peekToken rfl _).bind (reads_pure _ _)))

theorem reads_noMoreNames (first : Bool) (after : List Char) :
    Reads (moreNames first) ('\x7d' :: after) ('\x7d' :: after) false :=
  (reads_peekToken rfl _).bind (reads_pure _ _)

theorem fieldText_eq (field : String × Json) (after : List Char) :
    fieldText field ++ after =
      '"' :: (field.1.toList.flatMap escapeChar ++ '"' :: ':' :: (field.2.textChars ++ after)) := by
  simp only [fieldText, stringText, List.append_assoc, List.cons_append, List.nil_append]

theorem fieldText_string (field : String × Json) (after : List Char) :
    fieldText field ++ after =
      textChars (.string field.1) ++ ':' :: (field.2.textChars ++ after) := by
  rw [fieldText, textChars, List.append_assoc, List.cons_append]

theorem reads_colon (text : List Char) : Reads colon (':' :: text) text () :=
  (reads_peekToken rfl _).bind (reads_advance ':' _)

/-- One field, and then the others. -/
theorem reads_field {field : String × Json} (reads : ReadsAs reader P field.2) {between : List Char}
    (ends : EndsValue between) :
    ∃ w, P w ∧ (field.2.Kept → w = field.2) ∧ ∀ rounds taken after found,
      Reads (fields reader rounds false (insertField field.1 w taken)) between after found →
        Reads (do
          advance
          let name ← stringTail
          colon
          let found ← reader
          fields reader rounds false (insertField name found taken))
          (fieldText field ++ between) after found := by
  obtain ⟨w, has, itself, read⟩ := reads.2 between ends
  refine ⟨w, has, itself, fun rounds taken after found more => ?_⟩
  rw [fieldText_eq]
  refine (reads_advance '"' _).bind ((reads_stringTail field.1 _).bind ?_)
  exact (reads_colon _).bind (read.bind more)

theorem reads_moreFieldsText (values : List (String × Json))
    (reads : ∀ field ∈ values, ReadsAs reader P field.2) {rounds : Nat}
    (enough : values.length < rounds) {taken : List (String × Json)}
    (all : ∀ field ∈ taken, P field.2) (after : List Char) :
    ∃ found, (∀ field ∈ found, P field.2) ∧
      ((∀ field ∈ values, field.2.Kept) →
        found = values.foldl (fun sorted field => insertField field.1 field.2 sorted) taken) ∧
      Reads (fields reader rounds false taken)
        ((values.flatMap fun field => ',' :: fieldText field) ++ '\x7d' :: after) after found := by
  induction values generalizing rounds taken with
  | nil =>
    obtain ⟨rounds, rfl⟩ := Nat.exists_eq_succ_of_ne_zero (Nat.ne_of_gt enough)
    refine ⟨taken, all, fun _ => rfl, ?_⟩
    exact (reads_noMoreNames false after).bind ((reads_advance '\x7d' after).bind (reads_pure _ _))
  | cons field rest ih =>
    obtain ⟨rounds, rfl⟩ := Nat.exists_eq_succ_of_ne_zero (Nat.ne_of_gt (Nat.zero_lt_of_lt enough))
    obtain ⟨w, has, itself, first⟩ := reads_field (reads field List.mem_cons_self)
      (endsValue_more rest fieldText (.inr rfl) after)
    obtain ⟨found, allRead, same, more⟩ :=
      ih (fun u here => reads u (List.mem_cons_of_mem field here)) (Nat.lt_of_succ_lt_succ enough)
        (insertField_all has all)
    refine ⟨found, allRead, fun kept => ?_, ?_⟩
    · obtain ⟨keptFirst, others⟩ := List.forall_mem_cons.1 kept
      rw [same others, itself keptFirst, List.foldl_cons]
    have next := first rounds taken after found more
    rw [List.flatMap_cons, List.append_assoc, List.cons_append]
    rw [fieldText_eq] at next ⊢
    exact (reads_moreNames _).2.bind next

theorem reads_fields (values : List (String × Json))
    (reads : ∀ field ∈ values, ReadsAs reader P field.2) {rounds : Nat}
    (enough : values.length < rounds) (after : List Char) :
    ∃ found, (∀ field ∈ found, P field.2) ∧
      ((∀ field ∈ values, field.2.Kept) →
        found = values.foldl (fun sorted field => insertField field.1 field.2 sorted) []) ∧
      Reads (fields reader rounds true []) (fieldsText values ++ '\x7d' :: after) after found := by
  obtain ⟨rounds, rfl⟩ := Nat.exists_eq_succ_of_ne_zero (Nat.ne_of_gt (Nat.zero_lt_of_lt enough))
  cases values with
  | nil =>
    refine ⟨[], List.forall_mem_nil _, fun _ => rfl, ?_⟩
    exact (reads_noMoreNames true after).bind ((reads_advance '\x7d' after).bind (reads_pure _ _))
  | cons field rest =>
    obtain ⟨w, has, itself, first⟩ := reads_field (reads field List.mem_cons_self)
      (endsValue_more rest fieldText (.inr rfl) after)
    obtain ⟨found, allRead, same, more⟩ := reads_moreFieldsText rest
      (fun u here => reads u (List.mem_cons_of_mem field here)) (Nat.lt_of_succ_lt_succ enough)
      (insertField_all has (List.forall_mem_nil _)) after
    refine ⟨found, allRead, fun kept => ?_, ?_⟩
    · obtain ⟨keptFirst, others⟩ := List.forall_mem_cons.1 kept
      rw [same others, itself keptFirst, List.foldl_cons]
    have next := first rounds [] after found more
    rw [fieldsText_cons, List.append_assoc]
    rw [fieldText_eq] at next ⊢
    exact (reads_moreNames _).1.bind next

end Loops

/-- A value is read from its text with as many levels as it opens, or more. -/
theorem readsAs_value {depth : Nat} {v : Json} (within : v.Within depth) {levels : Nat}
    (enough : depth ≤ levels) : ReadsAs (value levels) (Within depth) v := by
  refine ⟨opens_textChars within, ?_⟩
  induction within generalizing levels with
  | null =>
    refine fun after _ => ⟨.null, .null, fun _ => rfl, ?_⟩
    unfold value
    exact (reads_peekToken rfl _).bind ((reads_advance 'n' _).bind
      ((reads_word ['u', 'l', 'l'] after).bind (reads_pure _ _)))
  | bool truth =>
    refine fun after _ => ⟨.bool truth, .bool truth, fun _ => rfl, ?_⟩
    unfold value
    cases truth with
    | false =>
      exact (reads_peekToken rfl _).bind ((reads_advance 'f' _).bind
        ((reads_word ['a', 'l', 's', 'e'] after).bind (reads_pure _ _)))
    | true =>
      exact (reads_peekToken rfl _).bind ((reads_advance 't' _).bind
        ((reads_word ['r', 'u', 'e'] after).bind (reads_pure _ _)))
  | integer least word =>
    exact fun after ends => ⟨_, .integer least word, fun _ => rfl,
      reads_integer least word ends.number levels⟩
  | double rounded =>
    intro after ends
    obtain ⟨b, fits, reads⟩ := reads_double rounded
    refine ⟨_, .double fits, fun kept => ?_, reads levels after ends.number⟩
    exact same_of_reads (reads depthLimit [] fun _ none => by cases none) kept.double_readable
  | string text =>
    refine fun after _ => ⟨.string text, .string text, fun _ => rfl, ?_⟩
    rw [textChars_string]
    unfold value
    exact (reads_peekToken rfl _).bind ((reads_advance '"' _).bind
      ((reads_stringTail text after).bind (reads_pure _ _)))
  | @array depth items inside ih =>
    intro after _
    obtain ⟨levels, rfl⟩ := Nat.exists_eq_succ_of_ne_zero (Nat.ne_of_gt (Nat.zero_lt_of_lt enough))
    have each (v : Json) (here : v ∈ items) : ReadsAs (value levels) (Within depth) v :=
      ⟨opens_textChars (inside v here), ih v here (Nat.le_of_succ_le_succ enough)⟩
    -- A reader has two rounds for each character left, and an item takes one at least.
    obtain ⟨ws, all, same, reads⟩ := reads_items items each (length_itemsText items _) after
    refine ⟨.array ws, .array all, fun kept => congrArg Json.array (same kept.of_array), ?_⟩
    rw [textChars_array]
    unfold value
    exact (reads_peekToken rfl _).bind ((reads_advance '[' _).bind
      ((reads_budget _).bind (reads.bind (reads_pure _ _))))
  | @object depth fields inside ih =>
    intro after _
    obtain ⟨levels, rfl⟩ := Nat.exists_eq_succ_of_ne_zero (Nat.ne_of_gt (Nat.zero_lt_of_lt enough))
    have each (field : String × Json) (here : field ∈ fields) :
        ReadsAs (value levels) (Within depth) field.2 :=
      ⟨opens_textChars (inside field here), ih field here (Nat.le_of_succ_le_succ enough)⟩
    obtain ⟨found, all, same, reads⟩ := reads_fields fields each (length_fieldsText fields _) after
    refine ⟨.object found, .object all, fun kept => ?_, ?_⟩
    · obtain ⟨sorted, others⟩ := kept.of_object
      exact congrArg Json.object ((same others).trans (foldl_insertField_sorted sorted))
    rw [textChars_object]
    unfold value
    exact (reads_peekToken rfl _).bind ((reads_advance '\x7b' _).bind
      ((reads_budget _).bind (reads.bind (reads_pure _ _))))

/-- What texts keep is read as itself, wherever its text stands. -/
theorem reads_kept {depth levels : Nat} {v : Json} (within : v.Within depth)
    (enough : depth ≤ levels) (kept : v.Kept) {after : List Char} (ends : EndsValue after) :
    Reads (value levels) (v.textChars ++ after) after v := by
  obtain ⟨w, _, itself, reads⟩ := (readsAs_value within enough).2 after ends
  rwa [itself kept] at reads

end Complete

/-! ## One level too many -/

section Refused

variable {levels : Nat} {v : Json} {after : List Char}

theorem refuses_list (items : List Json) (after : List Char) :
    Refuses (value 0) (textChars (.array items) ++ after) := by
  rw [textChars, List.append_assoc, List.cons_append]
  unfold value
  exact (reads_peekToken rfl _).refuses (refuses_failAhead _ _)

theorem refuses_array (opens : ∃ c, Opens v.textChars c)
    (refused : ∀ after, Refuses (value levels) (v.textChars ++ after)) :
    Refuses (value (levels + 1)) (textChars (.array [v]) ++ after) := by
  obtain ⟨c, opens⟩ := opens
  rw [textChars_array, itemsText]
  unfold value
  refine (reads_peekToken rfl _).refuses ((reads_advance '[' _).refuses
    ((reads_budget _).refuses (Refuses.bind ?_)))
  exact (reads_moreItems (opens.append _)).1.refuses (Refuses.bind (refused _))

theorem refuses_object (name : String)
    (refused : ∀ after, Refuses (value levels) (v.textChars ++ after)) :
    Refuses (value (levels + 1)) (textChars (.object [(name, v)]) ++ after) := by
  rw [textChars_object, fieldsText_cons, List.flatMap_nil, List.append_nil, fieldText_eq]
  unfold value
  refine (reads_peekToken rfl _).refuses ((reads_advance '\x7b' _).refuses
    ((reads_budget _).refuses (Refuses.bind ?_)))
  refine (reads_moreNames _).1.refuses ((reads_advance '"' _).refuses
    ((reads_stringTail name _).refuses ?_))
  exact (reads_colon _).refuses (Refuses.bind (refused _))

end Refused

end Reader

theorem parse_of_refuses {text : List Char}
    (refuses : Reader.Refuses (Reader.value Reader.depthLimit) text) :
    ∃ fault, parse (String.ofList text) = .error fault := by
  obtain ⟨fault, fails⟩ := (Reader.Refuses.bind refuses : Reader.Refuses (do
      let value ← Reader.value Reader.depthLimit
      Reader.finished
      return value) text) .start
  refine ⟨fault, ?_⟩
  unfold parse Cursor.ofText
  rw [String.toList_ofList]
  dsimp only
  rw [fails]
  rfl

/-- What nests no deeper than texts may is read from its compact text, as a value that nests no
deeper either. -/
theorem parse_compact {depth : Nat} {value : Json} (within : value.Within depth)
    (small : depth ≤ Reader.depthLimit) :
    ∃ read, parse value.compact = .ok read ∧ read.Within depth := by
  obtain ⟨read, inside, _, reads⟩ :=
    (Reader.readsAs_value within small).2 [] fun _ none => by cases none
  rw [List.append_nil] at reads
  exact ⟨read, parse_of_reads reads, inside⟩

theorem readable_of_kept {depth : Nat} {value : Json} (within : value.Within depth)
    (small : depth ≤ Reader.depthLimit) (kept : value.Kept) : value.Readable := by
  have ends : Reader.EndsValue [] := fun _ none => by cases none
  have reads := Reader.reads_kept within small kept ends
  rw [List.append_nil] at reads
  exact parse_of_reads reads

/-! ## Lists in lists -/

/-- An empty list in this many others. -/
def nested : Nat → Json
  | 0 => .array []
  | n + 1 => .array [nested n]

theorem nested_within (n : Nat) : (nested n).Within (n + 1) := by
  induction n with
  | zero => exact .array (List.forall_mem_nil _)
  | succ n ih => exact .array (List.forall_mem_singleton.2 ih)

theorem nested_kept (n : Nat) : (nested n).Kept := by
  induction n with
  | zero => exact .array (List.forall_mem_nil _)
  | succ n ih => exact .array (List.forall_mem_singleton.2 ih)

theorem Reader.refuses_nested {n levels : Nat} (deep : levels ≤ n) (after : List Char) :
    Reader.Refuses (Reader.value levels) ((nested n).textChars ++ after) := by
  induction levels generalizing n after with
  | zero => cases n <;> exact Reader.refuses_list _ after
  | succ levels ih =>
    obtain ⟨n, rfl⟩ := Nat.exists_eq_succ_of_ne_zero (Nat.ne_of_gt (Nat.zero_lt_of_lt deep))
    exact Reader.refuses_array (Reader.opens_textChars (nested_within n)) (ih (Nat.le_of_succ_le_succ deep))

/-- As long as they open no more levels than texts may, lists in lists are read as written. -/
theorem parse_nested {n : Nat} (enough : n < Reader.depthLimit) :
    parse (nested n).compact = .ok (nested n) :=
  readable_of_kept (nested_within n) enough (nested_kept n)

/-- One level around them, and the text is refused. -/
theorem parse_around_nested (name : String) {n : Nat} (deep : Reader.depthLimit ≤ n + 1) :
    ∃ fault, parse (.object [(name, nested n)] : Json).compact = .error fault := by
  have refused : Reader.Refuses (Reader.value Reader.depthLimit)
      (textChars (.object [(name, nested n)]) ++ []) :=
    Reader.refuses_object name (Reader.refuses_nested (Nat.le_of_succ_le_succ deep))
  rw [List.append_nil] at refused
  exact parse_of_refuses refused

end TenantWork.Json
