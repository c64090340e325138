/-
Module: MaximalMunch.CharClass
Layer: Data
Purpose: The lexical classes of characters. Every character has exactly one class, and the class of
  the character under the cursor alone decides which kind of lexeme is looked for there. Letters and
  digits are those of ASCII, and only four characters are blank, so every other letter, digit or space
  of the wider repertoire is unrecognized. Beside the classes stand the tests that the recognizers
  ask; two of them, the sign and the word character, cut across the classes.
Imports: none
Trusted boundary: human-reviewed spec
Main exports: CharClass, CharClass.of, isLetter, isDigit, isSign, isWord, isBlank, isPunctuation,
  isOperatorStart, isLetter_iff, isDigit_iff, isBlank_iff, isWord_iff, isWord_eq_false_of_isBlank,
  isWord_eq_false_of_isSign
Open obligations: none
-/

namespace MaximalMunch

/-- What a character may be the beginning of. -/
inductive CharClass where
  | letter
  | digit
  | underscore
  | quote
  | blank
  | punctuation
  | operator
  | unrecognized
deriving DecidableEq, Repr, Inhabited

namespace CharClass

/-- The ASCII letters. -/
def isLetter (c : Char) : Bool := c.isAlpha

/-- The ASCII digits. -/
def isDigit (c : Char) : Bool := c.isDigit

/-- A sign belongs to the number that directly follows it. -/
def isSign (c : Char) : Bool := c = '+' || c = '-'

/-- The characters that continue a word. -/
def isWord (c : Char) : Bool := isLetter c || isDigit c || c = '_'

/-- The characters that separate lexemes and belong to none. -/
def isBlank (c : Char) : Bool := c = ' ' || c = '\t' || c = '\n' || c = '\r'

/-- The characters that are a lexeme by themselves, whatever follows. -/
def isPunctuation (c : Char) : Bool :=
  [',', '[', ']', '\x7b', '\x7d', '(', ')', ';'].contains c

/-- The characters that begin an operator. -/
def isOperatorStart (c : Char) : Bool :=
  ['+', '-', '*', '/', '>', '<', '=', '!'].contains c

/-- The class of a character. -/
def of (c : Char) : CharClass :=
  if isLetter c then .letter
  else if isDigit c then .digit
  else if c = '_' then .underscore
  else if c = '"' then .quote
  else if isBlank c then .blank
  else if isPunctuation c then .punctuation
  else if isOperatorStart c then .operator
  else .unrecognized

/-- One character alone has the class of the quote. -/
theorem of_eq_quote {c : Char} (h : of c = .quote) : c = '"' := by
  grind [of]

/-!
### The tests read off the class

The tests of `of` are asked in an order, but no two of them hold of one character, so each of them is
the test for its class. The two tests that cut across the classes come last.
-/

/-- The test for letters is asked first, so it is the test for its class. -/
theorem isLetter_iff {c : Char} : isLetter c = true ↔ of c = .letter := by
  unfold of
  split
  · simp_all
  · repeat' split
    all_goals simp_all

/-- No letter is a digit. -/
theorem isDigit_eq_false_of_isLetter {c : Char} (h : isLetter c = true) : isDigit c = false := by
  have letter : (decide (c.val ≥ 65 ∧ c.val ≤ 90) ||
      decide (c.val ≥ 97) && decide (c.val ≤ 122)) = true := h
  have digit : isDigit c = (decide (c.val ≥ 48) && decide (c.val ≤ 57)) := rfl
  grind

/-- Digits are asked for behind letters, and none is one. -/
theorem isDigit_iff {c : Char} : isDigit c = true ↔ of c = .digit := by
  have apart : isLetter c = true → isDigit c = false := isDigit_eq_false_of_isLetter
  grind [of]

/-- The underscore is alone in its class. -/
theorem eq_underscore_iff {c : Char} : c = '_' ↔ of c = .underscore := by
  constructor
  · rintro rfl
    decide
  · grind [of]

/-- The mark is alone in its class. -/
theorem eq_quote_iff {c : Char} : c = '"' ↔ of c = .quote := by
  constructor
  · rintro rfl
    decide
  · exact of_eq_quote

/-- Blanks have a class of their own. -/
theorem isBlank_iff {c : Char} : isBlank c = true ↔ of c = .blank := by
  constructor
  · intro h
    simp only [isBlank, Bool.or_eq_true, decide_eq_true_eq, or_assoc] at h
    rcases h with rfl | rfl | rfl | rfl <;> decide
  · grind [of]

/-- A sign is an operator before it is part of a number. -/
theorem of_eq_operator_of_isSign {c : Char} (h : isSign c = true) : of c = .operator := by
  simp only [isSign, Bool.or_eq_true, decide_eq_true_eq] at h
  rcases h with rfl | rfl <;> decide

/-- The word characters are three classes. -/
theorem isWord_iff {c : Char} :
    isWord c = true ↔ of c = .letter ∨ of c = .digit ∨ of c = .underscore := by
  simp only [isWord, Bool.or_eq_true, decide_eq_true_eq, or_assoc]
  rw [isLetter_iff, isDigit_iff, eq_underscore_iff]

/-- No character both separates lexemes and continues a word. -/
theorem isWord_eq_false_of_isBlank {c : Char} (blank : isBlank c = true) : isWord c = false := by
  rw [Bool.eq_false_iff, Ne, isWord_iff, isBlank_iff.mp blank]
  decide

theorem isWord_of_isLetter {c : Char} (letter : isLetter c = true) : isWord c = true :=
  isWord_iff.mpr (Or.inl (isLetter_iff.mp letter))

theorem isWord_of_isDigit {c : Char} (digit : isDigit c = true) : isWord c = true :=
  isWord_iff.mpr (Or.inr (Or.inl (isDigit_iff.mp digit)))

/-- A sign is no word character. -/
theorem isWord_eq_false_of_isSign {c : Char} (sign : isSign c = true) : isWord c = false := by
  rw [Bool.eq_false_iff, Ne, isWord_iff, of_eq_operator_of_isSign sign]
  decide

/-- A blank is no sign. -/
theorem isSign_eq_false_of_isBlank {c : Char} (blank : isBlank c = true) : isSign c = false := by
  rw [Bool.eq_false_iff]
  intro sign
  cases (isBlank_iff.mp blank).symm.trans (of_eq_operator_of_isSign sign)

/-- A digit is no sign. -/
theorem isSign_eq_false_of_isDigit {c : Char} (digit : isDigit c = true) : isSign c = false := by
  cases sign : isSign c with
  | false => rfl
  | true => cases (isDigit_iff.mp digit).symm.trans (of_eq_operator_of_isSign sign)

/-- A digit is no letter. -/
theorem isLetter_eq_false_of_isDigit {c : Char} (digit : isDigit c = true) : isLetter c = false := by
  rw [Bool.eq_false_iff]
  intro letter
  rw [isDigit_eq_false_of_isLetter letter] at digit
  cases digit

end CharClass

end MaximalMunch
