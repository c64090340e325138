/-
Module: MaximalMunch.Text.Space
Layer: Text
Purpose: White space in the sense of the character standard: the space and the controls that move the
  print position, and the spaces and line separators of other scripts. The blanks between lexemes are
  fewer than these.
Imports: none
Trusted boundary: human-reviewed data
Main exports: spaceRanges, isSpace, isSpace_of_isWhitespace
Open obligations: none
-/

namespace MaximalMunch.Text

/-- White space, as inclusive ranges of code points in increasing order. -/
def spaceRanges : List (Nat × Nat) :=
  [(0x9, 0xd), (0x20, 0x20), (0x85, 0x85), (0xa0, 0xa0), (0x1680, 0x1680), (0x2000, 0x200a),
   (0x2028, 0x2029), (0x202f, 0x202f), (0x205f, 0x205f), (0x3000, 0x3000)]

/-- Whether `c` is white space. -/
def isSpace (c : Char) : Bool :=
  spaceRanges.any fun (first, last) => first ≤ c.toNat && c.toNat ≤ last

/-- The white space of ASCII is part of it. -/
theorem isSpace_of_isWhitespace {c : Char} (h : c.isWhitespace = true) : isSpace c = true := by
  simp only [Char.isWhitespace, Bool.or_eq_true, decide_eq_true_eq] at h
  rcases h with ((rfl | rfl) | rfl) | rfl <;> decide

end MaximalMunch.Text
