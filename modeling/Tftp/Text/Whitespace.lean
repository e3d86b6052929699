/-!
# White space and control characters

The Unicode `White_Space` property and the general category `Cc`, as tables of code point
ranges. Core's `Char.isWhitespace` knows six ASCII characters only; these tables cover the
whole of Unicode.
-/

namespace Tftp.Text

/-- Code point ranges (inclusive) with the Unicode `White_Space` property. -/
def whiteSpaceRanges : List (Nat × Nat) :=
  [(0x09, 0x0D), (0x20, 0x20), (0x85, 0x85), (0xA0, 0xA0), (0x1680, 0x1680),
    (0x2000, 0x200A), (0x2028, 0x2029), (0x202F, 0x202F), (0x205F, 0x205F), (0x3000, 0x3000)]

/-- Whether a character has the Unicode `White_Space` property. -/
def isWhiteSpace (c : Char) : Bool :=
  whiteSpaceRanges.any fun (lo, hi) => lo ≤ c.toNat && c.toNat ≤ hi

/-- Whether a character is a control character (general category `Cc`). -/
def isControl (c : Char) : Bool :=
  c.toNat ≤ 0x1F || (0x7F ≤ c.toNat && c.toNat ≤ 0x9F)

/-- The characters left after removing leading and trailing white space. -/
def trimChars (cs : List Char) : List Char :=
  ((cs.dropWhile isWhiteSpace).reverse.dropWhile isWhiteSpace).reverse

/-- A string with leading and trailing white space removed. -/
def trim (s : String) : String := String.ofList (trimChars s.toList)

theorem isWhiteSpace_of_isWhitespace {c : Char} (h : c.isWhitespace = true) :
    isWhiteSpace c = true := by
  simp only [Char.isWhitespace, Bool.or_eq_true, decide_eq_true_eq] at h
  rcases h with ((h | h) | h) | h <;> simp [isWhiteSpace, whiteSpaceRanges, h]

end Tftp.Text
