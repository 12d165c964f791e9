/-!
# Blank characters

White space in the sense of the Unicode standard, and the trimming of a text. The standard's set
is wider than the ASCII one: it holds the no-break space and the typographic spaces, but not the
zero-width space.

## Main definitions

* `isBlank`: membership in the set.
* `trimBlank`: a text without the blanks at its two ends.
-/

namespace RecordSchema

/-- White space in the sense of the Unicode standard. -/
def isBlank (c : Char) : Bool :=
  let code := c.toNat
  (9 ≤ code && code ≤ 13) || code == 0x20 || code == 0x85 || code == 0xA0 || code == 0x1680
    || (0x2000 ≤ code && code ≤ 0x200A) || code == 0x2028 || code == 0x2029 || code == 0x202F
    || code == 0x205F || code == 0x3000

/-- Drops the blanks at the end of a list of characters. -/
def dropBlankEnd (s : List Char) : List Char :=
  (s.reverse.dropWhile isBlank).reverse

/-- The text without the blanks at its two ends. -/
def trimBlank (s : String) : String :=
  String.ofList (dropBlankEnd (s.toList.dropWhile isBlank))

/-- Every character that the core library calls white space is blank. -/
theorem isBlank_of_isWhitespace {c : Char} (h : c.isWhitespace = true) : isBlank c = true := by
  simp only [Char.isWhitespace, Bool.or_eq_true, decide_eq_true_eq] at h
  rcases h with ((rfl | rfl) | rfl) | rfl <;> decide

end RecordSchema
