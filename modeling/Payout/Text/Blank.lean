/-!
# Blank characters

The characters with the Unicode property `White_Space`, and trimming by them. Labels are
compared and stored after trimming, so a label of blanks alone is empty.
-/

namespace Payout.Text

/-- The Unicode `White_Space` characters: the ASCII tab to carriage return and space, the
next line and no-break space controls, the Ogham space mark, the spaces from en quad to hair
space, the line and paragraph separators, and the narrow no-break, medium mathematical and
ideographic spaces. -/
def isBlank (c : Char) : Bool :=
  let n := c.toNat
  (0x09 ≤ n && n ≤ 0x0D) || n == 0x20 || n == 0x85 || n == 0xA0 || n == 0x1680 ||
    (0x2000 ≤ n && n ≤ 0x200A) || n == 0x2028 || n == 0x2029 || n == 0x202F || n == 0x205F ||
    n == 0x3000

/-- Drops blanks from both ends of a text. -/
def trimBlank (s : String) : String :=
  String.ofList ((s.toList.dropWhile isBlank).reverse.dropWhile isBlank).reverse

/-- Every character that core counts as whitespace is blank. -/
theorem isBlank_of_isWhitespace (c : Char) (h : c.isWhitespace = true) : isBlank c = true := by
  simp only [Char.isWhitespace, Bool.or_eq_true, decide_eq_true_eq] at h
  simp only [isBlank]
  rcases h with ((h | h) | h) | h <;> simp [h]

end Payout.Text
