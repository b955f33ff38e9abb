/-!
# White space

The white space of Unicode, and texts without their outer white space.  `trim` removes white space at both ends and
nothing else; a text is blank when nothing is left of it.
-/

namespace Sandscript.Text

/-- The characters of the property `White_Space`. -/
def isBlankChar (c : Char) : Bool :=
  let n := c.toNat
  (0x9 ≤ n && n ≤ 0xD) || n == 0x20 || n == 0x85 || n == 0xA0 || n == 0x1680 || (0x2000 ≤ n && n ≤ 0x200A) ||
    n == 0x2028 || n == 0x2029 || n == 0x202F || n == 0x205F || n == 0x3000

def trimLeft (s : List Char) : List Char := s.dropWhile isBlankChar

def trimRight (s : List Char) : List Char := (s.reverse.dropWhile isBlankChar).reverse

/-- A text without the white space at its two ends. -/
def trim (s : String) : String := String.ofList (trimRight (trimLeft s.toList))

def isBlank (s : String) : Bool := s.toList.all isBlankChar

theorem isBlankChar_of_isDigit {c : Char} (h : c.isDigit = true) : isBlankChar c = false := by
  have hbounds : 48 ≤ c.toNat ∧ c.toNat ≤ 57 := Char.isDigit_iff_toNat.1 h
  simp only [isBlankChar, Bool.or_eq_false_iff, Bool.and_eq_false_iff, beq_eq_false_iff_ne, decide_eq_false_iff_not]
  omega

end Sandscript.Text
