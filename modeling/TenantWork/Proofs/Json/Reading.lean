import TenantWork.Json.Printer
import TenantWork.Json.Reader
/-!
What readers make of a text, wherever in a larger text it stands. A reader that reads takes the text
up to what comes after and gives a value that depends on the text alone, not on its place. Strings
are read back as they were written.
-/
namespace TenantWork

theorem bind_eq_ok {ε α β : Type} {x : Except ε α} {f : α → Except ε β} {r : β}
    (done : x >>= f = .ok r) : ∃ a, x = .ok a ∧ f a = .ok r := by
  cases x with
  | error fault => cases done
  | ok a => exact ⟨a, rfl, done⟩

namespace Json

/-- A value that is read back from its compact text. -/
def Readable (value : Json) : Prop := parse value.compact = .ok value

namespace Reader

/-- The reader takes the text up to what comes after and gives the value. -/
def Reads {α : Type} (reader : Reader α) (text after : List Char) (value : α) : Prop :=
  ∀ place, ∃ place', reader ⟨text, place⟩ = .ok (value, ⟨after, place'⟩)

/-- The reader refuses the text. -/
def Refuses {α : Type} (reader : Reader α) (text : List Char) : Prop :=
  ∀ place, ∃ fault, reader ⟨text, place⟩ = .error fault

section Rules

variable {α β : Type} {reader : Reader α} {next : α → Reader β} {text between after : List Char}
  {value : α} {result : β}

theorem reads_pure (value : α) (text : List Char) : Reads (pure value) text text value :=
  fun place => ⟨place, rfl⟩

theorem Reads.bind (first : Reads reader text between value)
    (rest : Reads (next value) between after result) :
    Reads (reader >>= next) text after result := by
  intro place
  obtain ⟨middle, read⟩ := first place
  obtain ⟨last, reads⟩ := rest middle
  refine ⟨last, ?_⟩
  show (reader ⟨text, place⟩ >>= fun found => next found.1 found.2) = _
  rw [read]
  exact reads

theorem Reads.refuses (first : Reads reader text between value)
    (rest : Refuses (next value) between) : Refuses (reader >>= next) text := by
  intro place
  obtain ⟨middle, read⟩ := first place
  obtain ⟨fault, fails⟩ := rest middle
  refine ⟨fault, ?_⟩
  show (reader ⟨text, place⟩ >>= fun found => next found.1 found.2) = _
  rw [read]
  exact fails

theorem Refuses.bind (first : Refuses reader text) : Refuses (reader >>= next) text := by
  intro place
  obtain ⟨fault, fails⟩ := first place
  refine ⟨fault, ?_⟩
  show (reader ⟨text, place⟩ >>= fun found => next found.1 found.2) = _
  rw [fails]
  rfl

theorem reads_peek (text : List Char) : Reads peek text text text.head? :=
  fun place => ⟨place, rfl⟩

theorem reads_advance (c : Char) (text : List Char) : Reads advance (c :: text) text () :=
  fun place => ⟨place.past c, rfl⟩

theorem reads_budget (text : List Char) : Reads budget text text (2 * text.length + 2) :=
  fun place => ⟨place, rfl⟩

theorem refuses_failAhead (fault : Grammar) (text : List Char) :
    Refuses (failAhead fault : Reader α) text := fun _ => ⟨_, rfl⟩

theorem reads_takeWhile (belongs : Char → Bool) (text : List Char) :
    Reads (takeWhile belongs) text (text.dropWhile belongs) (text.takeWhile belongs) := by
  intro place
  have spans : ∃ place', spanFrom belongs text place =
      (text.takeWhile belongs, ⟨text.dropWhile belongs, place'⟩) := by
    induction text generalizing place with
    | nil => exact ⟨place, rfl⟩
    | cons c rest ih =>
      cases fits : belongs c with
      | true =>
        obtain ⟨place', same⟩ := ih (place.past c)
        refine ⟨place', ?_⟩
        rw [spanFrom, if_pos fits, same, List.takeWhile_cons_of_pos fits,
          List.dropWhile_cons_of_pos fits]
      | false =>
        have other : ¬belongs c = true := by rw [fits]; exact Bool.false_ne_true
        refine ⟨place, ?_⟩
        rw [spanFrom, if_neg other, List.takeWhile_cons_of_neg other,
          List.dropWhile_cons_of_neg other]
  obtain ⟨place', same⟩ := spans
  exact ⟨place', by rw [takeWhile, same]⟩

/-- Where no blank comes next, the next character is the one to look at. -/
theorem reads_peekToken {c : Char} (solid : isSpace c = false) (text : List Char) :
    Reads peekToken (c :: text) (c :: text) (some c) := by
  have other : ¬isSpace c = true := by rw [solid]; exact Bool.false_ne_true
  have blanks := reads_takeWhile isSpace (c :: text)
  rw [List.dropWhile_cons_of_neg other] at blanks
  exact blanks.bind (reads_peek _)

theorem reads_peekToken_nil : Reads peekToken [] [] none :=
  (reads_takeWhile isSpace []).bind (reads_peek [])

theorem reads_finished : Reads finished [] [] () := reads_peekToken_nil.bind (reads_pure () [])

theorem reads_word (letters text : List Char) : Reads (word letters) (letters ++ text) text () := by
  induction letters with
  | nil => exact reads_pure () text
  | cons c more ih =>
    refine (reads_peek _).bind ?_
    simp only [List.cons_append, List.head?_cons, if_true]
    exact (reads_advance c _).bind ih

end Rules

/-! ## Strings -/

/-- A character stands for itself, or for one of the short escapes, or in hexadecimal digits. -/
theorem escapeChar_cases (c : Char) :
    (escapeChar c = [c] ∧ c ≠ '"' ∧ c ≠ '\\' ∧ ¬c.toNat < 0x20) ∨
    (∃ e, escapeChar c = ['\\', e] ∧ e ≠ 'u' ∧ shortEscape? e = some c) ∨
    ∃ a b, escapeChar c = ['\\', 'u', '0', '0', a, b] ∧ fourHex? '0' '0' a b = some c.toNat ∧
      c.toNat < 0x20 := by
  have hex : ∀ n < 0x20, fourHex? '0' '0' (Nat.digitChar (n / 16 % 16)) (Nat.digitChar (n % 16)) =
      some n := by decide
  have named {n : Nat} (code : c.toNat = n) : Char.ofNat n = c := by
    rw [← code, Char.ofNat_toNat]
  unfold escapeChar
  split
  next quote => exact .inr (.inl ⟨'"', rfl, by decide, by rw [quote]; rfl⟩)
  next plain =>
    split
    next slash => exact .inr (.inl ⟨'\\', rfl, by decide, by rw [slash]; rfl⟩)
    next solid =>
      split
      next line => exact .inr (.inl ⟨'n', rfl, by decide, by rw [line]; rfl⟩)
      split
      next line => exact .inr (.inl ⟨'r', rfl, by decide, by rw [line]; rfl⟩)
      split
      next tab => exact .inr (.inl ⟨'t', rfl, by decide, by rw [tab]; rfl⟩)
      split
      next back => exact .inr (.inl ⟨'b', rfl, by decide, by rw [← named back]; rfl⟩)
      split
      next feed => exact .inr (.inl ⟨'f', rfl, by decide, by rw [← named feed]; rfl⟩)
      split
      next control => exact .inr (.inr ⟨_, _, rfl, hex _ control, control⟩)
      next letter => exact .inl ⟨rfl, plain, solid, letter⟩

theorem stringFrom_escapeChar (c : Char) (text taken : List Char) (place : Position) :
    ∃ place', stringFrom true (escapeChar c ++ text) place taken =
      stringFrom true text place' (c :: taken) := by
  obtain ⟨same, noQuote, noSlash, letter⟩ | ⟨e, same, other, meant⟩ | ⟨a, b, same, code, control⟩ :=
    escapeChar_cases c
  · refine ⟨place.past c, ?_⟩
    rw [same, List.singleton_append, stringFrom, if_neg letter]
    · exact noQuote
    · exact noSlash
  · refine ⟨place.right 2, ?_⟩
    rw [same, List.cons_append, List.singleton_append, stringFrom, meant]
    · exact fun _ _ _ _ _ same _ => other same
    · exact other
  · refine ⟨place.right 6, ?_⟩
    have low : ¬(0xDC00 ≤ c.toNat ∧ c.toNat ≤ 0xDFFF) := by omega
    have single : c.toNat < 0xD800 ∨ 0xDBFF < c.toNat := by omega
    rw [same]
    show stringFrom true ('\\' :: 'u' :: '0' :: '0' :: a :: b :: text) place taken = _
    rw [stringFrom]
    simp only [code, low, single, Char.ofNat_toNat, if_false, if_true, Bool.not_true, Bool.false_eq_true]

theorem stringFrom_written (chars text taken : List Char) (place : Position) :
    ∃ place', stringFrom true (chars.flatMap escapeChar ++ '"' :: text) place taken =
      .ok (taken.reverse ++ chars, ⟨text, place'⟩) := by
  induction chars generalizing taken place with
  | nil =>
    refine ⟨place.right 1, ?_⟩
    rw [List.flatMap_nil, List.nil_append, List.append_nil, stringFrom]
  | cons c rest ih =>
    rw [List.flatMap_cons, List.append_assoc]
    obtain ⟨middle, same⟩ := stringFrom_escapeChar c (rest.flatMap escapeChar ++ '"' :: text) taken place
    obtain ⟨last, reads⟩ := ih (c :: taken) middle
    refine ⟨last, ?_⟩
    rw [same, reads, List.reverse_cons, List.append_assoc, List.singleton_append]

/-- A string is read back from its text. -/
theorem reads_stringTail (string : String) (text : List Char) :
    Reads stringTail (string.toList.flatMap escapeChar ++ '"' :: text) text string := by
  intro place
  obtain ⟨place', reads⟩ := stringFrom_written string.toList text [] place
  refine ⟨place', ?_⟩
  simp only [stringTail, reads, List.reverse_nil, List.nil_append, String.ofList_toList]

end Reader

end Json

end TenantWork
