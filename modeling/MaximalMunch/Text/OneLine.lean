/-
Module: MaximalMunch.Text.OneLine
Layer: Text
Purpose: Texts that stay on one line. What is put together from such texts stays on one line, and so does a
  number. The point is quotation: whatever text or character is quoted, the quoted form has no line feed,
  because the one character that is a line feed has a letter of its own (`newline_not_mem_escape`). Lines
  that are written out can therefore be read back.
Imports: MaximalMunch.Text.Quoted
Trusted boundary: none
Main exports: OneLine, OneLine.append, oneLine_toString, newline_not_mem_escape, oneLine_quoteString,
  oneLine_quoteChar
Open obligations: none
-/
import MaximalMunch.Text.Quoted

namespace MaximalMunch.Text

/-- The text has no line feed. -/
def OneLine (text : String) : Prop := '\n' ∉ text.toList

instance (text : String) : Decidable (OneLine text) := inferInstanceAs (Decidable ('\n' ∉ text.toList))

/-- Two texts of one line make one. -/
theorem OneLine.append {first second : String} (oneFirst : OneLine first) (oneSecond : OneLine second) :
    OneLine (first ++ second) := by
  rw [OneLine, String.toList_append, List.mem_append]
  exact not_or.mpr ⟨oneFirst, oneSecond⟩

/-- The digits of a number are not line feeds, by induction on the number. -/
theorem newline_not_mem_toDigits {base : Nat} (many : 1 < base) (n : Nat) :
    '\n' ∉ Nat.toDigits base n := by
  have digit (d : Nat) : '\n' ≠ Nat.digitChar d := (Nat.digitChar_ne '\n' rfl).symm
  induction n using Nat.strongRecOn with
  | ind n ih =>
      rw [Nat.toDigits_eq_if many]
      split
      · exact mt List.mem_singleton.mp (digit n)
      · next large =>
          have smaller : n / base < n := Nat.div_lt_self (by omega) many
          rw [List.mem_append, List.mem_singleton]
          exact not_or.mpr ⟨ih _ smaller, digit _⟩

/-- A number is written on one line. -/
theorem oneLine_toString (n : Nat) : OneLine (toString n) := by
  rw [OneLine, Nat.toString_eq_repr, Nat.toList_repr]
  exact newline_not_mem_toDigits (by decide) n

/-!
### Quotation
-/

/-- A character that is written by its number is written without line feeds. -/
theorem newline_not_mem_numbered (c : Char) : '\n' ∉ numbered c := by
  have digits := newline_not_mem_toDigits (show 1 < 16 by decide) c.toNat
  simp [numbered, digits]

/-- What is written for a character is no line feed, and neither is any part of it. -/
theorem newline_not_mem_escape (mark c : Char) : '\n' ∉ escape mark c := by
  unfold escape
  split
  · decide
  · split
    · decide
    · split
      · decide
      · split
        · decide
        · next feed =>
            have other : '\n' ≠ c := Ne.symm feed
            split
            · simp [other]
            · split
              · exact newline_not_mem_numbered c
              · simp [other]

/-- A quoted text holds no line feed, whatever is quoted. -/
theorem newline_not_mem_quoted {mark : Char} (plain : '\n' ≠ mark) (text : List Char) :
    '\n' ∉ quoted mark text := by
  simp [quoted, plain, newline_not_mem_escape]

/-- A text between double quotes is on one line. -/
theorem oneLine_quoteString (text : String) : OneLine (quoteString text) := by
  rw [OneLine, quoteString, String.toList_ofList]
  exact newline_not_mem_quoted (by decide) text.toList

/-- A character between single quotes is on one line. -/
theorem oneLine_quoteChar (c : Char) : OneLine (quoteChar c) := by
  rw [OneLine, quoteChar, String.toList_ofList]
  exact newline_not_mem_quoted (by decide) [c]

end MaximalMunch.Text
