import TenantWork.Text.Ranges
/-!
Blanks around texts, and ASCII letter case. A text is blank when nothing but white space of any
script is in it. Names are matched after trimming and after lowering ASCII letters only, so a
letter of another script never stands for an ASCII one.
-/
namespace TenantWork.Text

/-- White space of every script. -/
def blankRanges : Ranges := [
  (0x9, 0xD), (0x20, 0x20), (0x85, 0x85), (0xA0, 0xA0), (0x1680, 0x1680), (0x2000, 0x200A),
  (0x2028, 0x2029), (0x202F, 0x202F), (0x205F, 0x205F), (0x3000, 0x3000)
]

def isBlankChar (c : Char) : Bool := blankRanges.contains c

theorem isBlankChar_of_isDigit {c : Char} (digit : c.isDigit = true) : isBlankChar c = false := by
  rw [← Bool.not_eq_true, isBlankChar, Ranges.contains_iff]
  rintro ⟨range, member, lower, upper⟩
  have digits : 48 ≤ c.toNat ∧ c.toNat ≤ 57 := by
    simp only [Char.isDigit, Bool.and_eq_true, decide_eq_true_eq] at digit
    exact digit
  simp only [blankRanges, List.mem_cons, List.not_mem_nil, or_false] at member
  obtain rfl | rfl | rfl | rfl | rfl | rfl | rfl | rfl | rfl | rfl := member <;>
    simp only at lower upper <;> omega

def trimChars (text : List Char) : List Char :=
  ((text.dropWhile isBlankChar).reverse.dropWhile isBlankChar).reverse

/-- The text without the blanks at its two ends. -/
def trim (text : String) : String := String.ofList (trimChars text.toList)

/-- Only blanks, or nothing at all. -/
def isBlank (text : String) : Bool := text.toList.all isBlankChar

/-- ASCII capitals made small; every other character stays. -/
def lowerAscii (text : String) : String := String.ofList (text.toList.map Char.toLower)

/-- The form under which a name is looked up. -/
def fold (text : String) : String := lowerAscii (trim text)

end TenantWork.Text
