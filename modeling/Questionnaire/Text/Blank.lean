/-!
# Text — blanks

A blank is a character of the Unicode `White_Space` property: the ASCII
blanks and line ends, next line, no-break space, ogham space mark, the
typographic spaces, the line and paragraph separators, narrow no-break space,
medium mathematical space and the ideographic space. Trimming removes blanks
from both ends of a text.

**Main definitions.** `isBlank`, `trim`, `isBlankText`.
-/

namespace Questionnaire
namespace Text

/-- **A blank character**: the `White_Space` property of Unicode. -/
def isBlank (c : Char) : Bool :=
  let n := c.toNat
  (0x09 ≤ n && n ≤ 0x0D) || n == 0x20 || n == 0x85 || n == 0xA0 || n == 0x1680 ||
    (0x2000 ≤ n && n ≤ 0x200A) || n == 0x2028 || n == 0x2029 || n == 0x202F ||
    n == 0x205F || n == 0x3000

/-- Core's whitespace is blank here too. -/
theorem isBlank_of_isWhitespace (c : Char) (h : c.isWhitespace = true) : isBlank c = true := by
  simp only [Char.isWhitespace, Bool.or_eq_true, decide_eq_true_eq] at h
  simp only [isBlank, Bool.or_eq_true, Bool.and_eq_true, decide_eq_true_eq, beq_iff_eq]
  rcases h with ((h | h) | h) | h <;> simp [h]

/-- The characters of a text without blanks at either end. -/
def trimChars (cs : List Char) : List Char :=
  ((cs.dropWhile isBlank).reverse.dropWhile isBlank).reverse

/-- **A text without blanks at either end.** -/
def trim (s : String) : String := String.ofList (trimChars s.toList)

/-- Whether a text is empty after trimming. -/
def isBlankText (s : String) : Bool := s.toList.all isBlank

end Text
end Questionnaire
