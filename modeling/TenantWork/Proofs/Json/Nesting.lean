import TenantWork.Proofs.Json.Numerals
/-!
How deep values nest, and which of them texts keep as they are. What is read opens no more levels
than the reader allows, and its numbers are those of a word or rounded ones.
-/
namespace TenantWork.Json

open Number (Double)

/-- Values that open this many levels at most, with numbers that reading can give. -/
inductive Within : Nat → Json → Prop where
  | null {depth : Nat} : Within depth .null
  | bool {depth : Nat} (value : Bool) : Within depth (.bool value)
  | integer {depth : Nat} {n : Int} (least : -2 ^ 63 ≤ n) (word : n < 2 ^ 64) :
    Within depth (.integer n)
  | double {depth : Nat} {a : Double} (rounded : a.Fits) : Within depth (.double a)
  | string {depth : Nat} (text : String) : Within depth (.string text)
  | array {depth : Nat} {items : List Json} (inside : ∀ item ∈ items, Within depth item) :
    Within (depth + 1) (.array items)
  | object {depth : Nat} {fields : List (String × Json)}
    (inside : ∀ field ∈ fields, Within depth field.2) : Within (depth + 1) (.object fields)

theorem Within.mono {value : Json} {depth more : Nat} (within : value.Within depth)
    (le : depth ≤ more) : value.Within more := by
  induction within generalizing more with
  | null => exact .null
  | bool value => exact .bool value
  | integer least word => exact .integer least word
  | double rounded => exact .double rounded
  | string text => exact .string text
  | @array depth items inside ih =>
    cases more with
    | zero => exact absurd le (Nat.not_succ_le_zero _)
    | succ more => exact .array fun item here => ih item here (Nat.le_of_succ_le_succ le)
  | @object depth fields inside ih =>
    cases more with
    | zero => exact absurd le (Nat.not_succ_le_zero _)
    | succ more => exact .object fun field here => ih field here (Nat.le_of_succ_le_succ le)

/-- Values that texts can keep: their doubles are read back, and the names in their objects are in
order. -/
inductive Kept : Json → Prop where
  | null : Kept .null
  | bool (value : Bool) : Kept (.bool value)
  | integer (n : Int) : Kept (.integer n)
  | double {a : Double} (readable : Readable (.double a)) : Kept (.double a)
  | string (text : String) : Kept (.string text)
  | array {items : List Json} (inside : ∀ item ∈ items, Kept item) : Kept (.array items)
  | object {fields : List (String × Json)} (sorted : (fields.map Prod.fst).Pairwise (· < ·))
    (inside : ∀ field ∈ fields, Kept field.2) : Kept (.object fields)

theorem Kept.double_readable {a : Double} (kept : Kept (.double a)) : Readable (.double a) := by
  cases kept with
  | double readable => exact readable

theorem Kept.of_array {items : List Json} (kept : Kept (.array items)) :
    ∀ item ∈ items, item.Kept := by
  cases kept with
  | array inside => exact inside

theorem Kept.of_object {fields : List (String × Json)} (kept : Kept (.object fields)) :
    (fields.map Prod.fst).Pairwise (· < ·) ∧ ∀ field ∈ fields, field.2.Kept := by
  cases kept with
  | object sorted inside => exact ⟨sorted, inside⟩

/-! ## Fields by their names -/

theorem insertField_all {P : Json → Prop} {name : String} {value : Json}
    {fields : List (String × Json)} (new : P value) (old : ∀ field ∈ fields, P field.2) :
    ∀ field ∈ insertField name value fields, P field.2 := by
  induction fields with
  | nil =>
    intro field here
    obtain rfl := List.mem_singleton.1 here
    exact new
  | cons first rest ih =>
    obtain ⟨other, kept⟩ := first
    have later : ∀ field ∈ rest, P field.2 := fun field here => old field (List.mem_cons_of_mem _ here)
    rw [insertField]
    split
    · exact List.forall_mem_cons.2 ⟨new, later⟩
    · split
      · exact List.forall_mem_cons.2 ⟨new, old⟩
      · exact List.forall_mem_cons.2 ⟨old _ List.mem_cons_self, ih later⟩

/-- A field whose name comes after all others is put last. -/
theorem insertField_last {name : String} {value : Json} {fields : List (String × Json)}
    (later : ∀ field ∈ fields, field.1 < name) :
    insertField name value fields = fields ++ [(name, value)] := by
  induction fields with
  | nil => rfl
  | cons first rest ih =>
    obtain ⟨before, others⟩ := List.forall_mem_cons.1 later
    rw [insertField, if_neg (String.ne_of_lt before).symm, if_neg (String.lt_asymm before), ih others,
      List.cons_append]

/-- Fields in the order of their names stay in that order. -/
theorem foldl_insertField_sorted {fields taken : List (String × Json)}
    (sorted : ((taken ++ fields).map Prod.fst).Pairwise (· < ·)) :
    fields.foldl (fun sorted field => insertField field.1 field.2 sorted) taken =
      taken ++ fields := by
  induction fields generalizing taken with
  | nil => exact (List.append_nil taken).symm
  | cons field rest ih =>
    have later : ∀ other ∈ taken, other.1 < field.1 := by
      rw [List.map_append, List.pairwise_append] at sorted
      exact fun other inside => sorted.2.2 _ (List.mem_map_of_mem inside) _ List.mem_cons_self
    have next : taken ++ field :: rest = taken ++ [field] ++ rest := by
      rw [List.append_assoc, List.singleton_append]
    rw [next] at sorted ⊢
    rw [List.foldl_cons, insertField_last later, ih sorted]

namespace Reader

/-! ## What readers give -/

section Gives

variable {α β : Type} {P : α → Prop} {Q : β → Prop}

/-- Whatever the reader reads has the property. -/
def Gives (reader : Reader α) (P : α → Prop) : Prop :=
  ∀ cursor value after, reader cursor = .ok (value, after) → P value

theorem gives_any (reader : Reader α) : Gives reader fun _ => True := fun _ _ _ _ => trivial

theorem gives_pure {value : α} (has : P value) : Gives (pure value) P := by
  intro cursor other after same
  obtain ⟨rfl, _⟩ := Prod.mk.inj (Except.ok.inj same)
  exact has

theorem Gives.bind {reader : Reader α} {next : α → Reader β} (first : Gives reader P)
    (rest : ∀ value, P value → Gives (next value) Q) : Gives (reader >>= next) Q := by
  intro cursor value after same
  change (reader cursor >>= fun found => next found.1 found.2) = _ at same
  cases read : reader cursor with
  | error fault =>
    rw [read] at same
    cases same
  | ok found =>
    rw [read] at same
    exact rest found.1 (first cursor found.1 found.2 read) found.2 value after same

theorem gives_failHere (fault : Grammar) : Gives (failHere fault : Reader α) P :=
  fun _ _ _ impossible => by cases impossible

theorem gives_failAhead (fault : Grammar) : Gives (failAhead fault : Reader α) P :=
  fun _ _ _ impossible => by cases impossible

end Gives

/-! ## What is read nests no deeper than the reader allows -/

section Sound

variable {depth : Nat} {negative : Bool} {significand : Nat} {power : Int}

theorem gives_doubleOf : Gives (doubleOf negative significand power) (Within depth) := by
  unfold doubleOf
  split
  next made => exact gives_pure (.double (Double.fits_ofDecimal made))
  next => exact gives_failHere _

theorem gives_exponentTail (up : Bool) :
    Gives (exponentTail negative up significand power) (Within depth) := by
  refine (gives_any _).bind fun next _ => ?_
  split
  · exact gives_failHere _
  · split
    · exact gives_failAhead _
    · refine (gives_any _).bind fun rounds _ => (gives_any _).bind fun exponent _ => ?_
      split
      · exact gives_doubleOf
      · exact gives_pure (.double (Double.fits_zero negative))

theorem gives_exponentPart : Gives (exponentPart negative significand power) (Within depth) := by
  refine (gives_any _).bind fun _ _ => (gives_any _).bind fun sign _ => ?_
  split
  · exact (gives_any _).bind fun _ _ => gives_exponentTail true
  · exact (gives_any _).bind fun _ _ => gives_exponentTail false
  · exact gives_exponentTail true

theorem gives_fractionPart : Gives (fractionPart negative significand power) (Within depth) := by
  refine (gives_any _).bind fun _ _ => (gives_any _).bind fun digits _ => ?_
  split
  · refine (gives_any _).bind fun next _ => ?_
    split
    · exact gives_failAhead _
    · exact gives_failHere _
  · refine (gives_any _).bind fun next _ => ?_
    split
    · split
      · exact gives_exponentPart
      · exact gives_doubleOf
    · exact gives_doubleOf

theorem gives_wholeNumber (word : significand < 2 ^ 64) :
    Gives (wholeNumber negative significand) (Within depth) := by
  unfold wholeNumber
  split
  · exact gives_pure (.integer (by omega) (by omega))
  · split
    next small => exact gives_pure (.integer (by omega) (by omega))
    next => exact gives_doubleOf

theorem gather_lt {n : Nat} (digits : List Char) (word : n < 2 ^ 64) :
    (gather n digits).1 < 2 ^ 64 := by
  induction digits generalizing n with
  | nil => exact word
  | cons c rest ih =>
    rw [gather]
    split
    next below => exact ih below
    next => exact word

theorem gives_numberTail (c : Char) (digits : List Char) :
    Gives (numberTail negative c digits) (Within depth) := by
  have word := gather_lt digits (Nat.two_pow_pos 64)
  refine (gives_any _).bind fun next _ => ?_
  split
  · exact gives_fractionPart
  · split
    · exact gives_exponentPart
    · split
      · exact gives_failAhead _
      · split
        · exact gives_wholeNumber word
        · exact gives_doubleOf
  · split
    · exact gives_wholeNumber word
    · exact gives_doubleOf

theorem gives_number : Gives (number negative) (Within depth) := by
  refine (gives_any _).bind fun next _ => ?_
  split
  · exact gives_failHere _
  next c =>
    split
    · exact gives_failAhead _
    · split
      · exact (gives_any _).bind fun _ _ => gives_numberTail c [c]
      · exact (gives_any _).bind fun digits _ => gives_numberTail c digits

theorem gives_items {item : Reader Json} {P : Json → Prop} (gives : Gives item P) (rounds : Nat)
    (first : Bool) {taken : List Json} (all : ∀ value ∈ taken, P value) :
    Gives (items item rounds first taken) fun values => ∀ value ∈ values, P value := by
  induction rounds generalizing first taken with
  | zero => exact gives_failHere _
  | succ rounds ih =>
    refine (gives_any _).bind fun more _ => ?_
    split
    · exact gives.bind fun value has => ih false (List.forall_mem_cons.2 ⟨has, all⟩)
    · refine (gives_any _).bind fun _ _ => gives_pure ?_
      exact fun value here => all value (List.mem_reverse.1 here)

theorem gives_fields {value : Reader Json} {P : Json → Prop} (gives : Gives value P) (rounds : Nat)
    (first : Bool) {taken : List (String × Json)} (all : ∀ field ∈ taken, P field.2) :
    Gives (fields value rounds first taken) fun found => ∀ field ∈ found, P field.2 := by
  induction rounds generalizing first taken with
  | zero => exact gives_failHere _
  | succ rounds ih =>
    refine (gives_any _).bind fun more _ => ?_
    split
    · refine (gives_any _).bind fun _ _ => (gives_any _).bind fun name _ =>
        (gives_any _).bind fun _ _ => gives.bind fun found has => ih false ?_
      exact insertField_all has all
    · exact (gives_any _).bind fun _ _ => gives_pure all

theorem gives_value_of_inner (inner : ∀ d, depth = d + 1 → Gives (value d) (Within d)) :
    Gives (value depth) (Within depth) := by
  unfold value
  refine (gives_any _).bind fun next _ => ?_
  split
  · exact gives_failAhead _
  · exact (gives_any _).bind fun _ _ => (gives_any _).bind fun _ _ => gives_pure .null
  · exact (gives_any _).bind fun _ _ => (gives_any _).bind fun _ _ => gives_pure (.bool true)
  · exact (gives_any _).bind fun _ _ => (gives_any _).bind fun _ _ => gives_pure (.bool false)
  · exact (gives_any _).bind fun _ _ => gives_number
  · exact (gives_any _).bind fun _ _ => (gives_any _).bind fun text _ => gives_pure (.string text)
  · cases depth with
    | zero => exact gives_failAhead _
    | succ d =>
      refine (gives_any _).bind fun _ _ => (gives_any _).bind fun rounds _ => ?_
      exact (gives_items (inner d rfl) rounds true (List.forall_mem_nil _)).bind
        fun items all => gives_pure (.array all)
  · cases depth with
    | zero => exact gives_failAhead _
    | succ d =>
      refine (gives_any _).bind fun _ _ => (gives_any _).bind fun rounds _ => ?_
      exact (gives_fields (inner d rfl) rounds true (List.forall_mem_nil _)).bind
        fun fields all => gives_pure (.object all)
  · split
    · exact gives_number
    · exact gives_failAhead _

theorem gives_value (depth : Nat) : Gives (value depth) (Within depth) := by
  induction depth with
  | zero => exact gives_value_of_inner fun _ impossible => by cases impossible
  | succ depth ih =>
    refine gives_value_of_inner fun d same => ?_
    obtain rfl := Nat.succ.inj same
    exact ih

end Sound

end Reader

/-- What a text denotes nests no deeper than texts may. -/
theorem within_of_parse {text : String} {value : Json} (read : parse text = .ok value) :
    value.Within Reader.depthLimit := by
  have gives : Reader.Gives (do
      let value ← Reader.value Reader.depthLimit
      Reader.finished
      return value) (Within Reader.depthLimit) :=
    (Reader.gives_value Reader.depthLimit).bind fun value within =>
      (Reader.gives_any _).bind fun _ _ => Reader.gives_pure within
  unfold parse at read
  dsimp only at read
  cases found : (do
      let value ← Reader.value Reader.depthLimit
      Reader.finished
      return value : Reader Json) (Cursor.ofText text) with
  | error fault =>
    rw [found] at read
    cases read
  | ok pair =>
    rw [found] at read
    obtain rfl := Except.ok.inj read
    exact gives _ _ _ found

end TenantWork.Json
