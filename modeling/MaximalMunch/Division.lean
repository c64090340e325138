/-
Module: MaximalMunch.Division
Layer: Grammar
Purpose: Which sources are well formed, said by their characters alone. A source is divided when it is cut
  into lexemes and the gaps around them. Not every cut is one that a reader would make: `ab` is no
  sequence of the words `a` and `b`, because the two run together. A division is legal if its gaps are
  blank, its lexemes are lexemes, and a gap that is left empty stands between lexemes that stay apart. No
  kind of token is mentioned here. A writing, whose lexemes have kinds, spells a division out.
Imports: MaximalMunch.Writing
Trusted boundary: human-reviewed spec
Main exports: RunTogether, Division, Division.text, Division.lexemes, Division.Legal, Division.Divides,
  Writing.division
Open obligations: none
-/
import MaximalMunch.Writing

namespace MaximalMunch

open CharClass

/-- Whether two lexemes run together when nothing stands between them. A word or an integer does so with
    whatever begins with a word character, a symbol of one character that an equals sign makes longer with
    what begins with that sign, and a sign with an integer that has none. -/
def RunTogether (first second : List Char) : Prop :=
  ((IsWord first ∨ IsInteger first) ∧ second.head?.any isWord = true) ∨
    (first ∈ [['>'], ['<'], ['=']] ∧ second ∈ [['='], ['=', '=']]) ∨
    (first ∈ [['+'], ['-']] ∧ IsInteger second ∧ second.head?.any isSign = false)

/-- Lexemes in order, each with the gap in front of it, and the gap at the end. -/
structure Division where
  parts : List (List Char × List Char)
  last : List Char
deriving DecidableEq, Repr, Inhabited

namespace Division

/-- The text that is divided. -/
def text (division : Division) : List Char :=
  division.parts.flatMap (fun (gap, lexeme) => gap ++ lexeme) ++ division.last

/-- The lexemes without the gaps. -/
def lexemes (division : Division) : List (List Char) := division.parts.map (·.2)

/-- The gaps are blank, the lexemes are lexemes, and no two of them run together. -/
structure Legal (division : Division) : Prop where
  gaps : ∀ part ∈ division.parts, IsBlank part.1
  lexemes : ∀ part ∈ division.parts, IsLexeme part.2
  last : IsBlank division.last
  apart : ∀ n first second, division.parts[n]? = some first → division.parts[n + 1]? = some second →
    second.1 = [] → ¬ RunTogether first.2 second.2

/-- The source is so divided, and legally. -/
def Divides (division : Division) (source : List Char) : Prop :=
  division.Legal ∧ division.text = source

end Division

namespace Writing

/-- The cut that a writing makes. -/
def division (writing : Writing) : Division :=
  ⟨writing.parts.map fun (gap, lexeme) => (gap, lexeme.spelling), writing.last⟩

/-- A writing and its division are of one text. -/
@[simp] theorem text_division (writing : Writing) : writing.division.text = writing.text := by
  simp [division, Division.text, text, List.flatMap_map]

/-- The lexemes of the division are the spellings of those of the writing. -/
@[simp] theorem lexemes_division (writing : Writing) :
    writing.division.lexemes = writing.lexemes.map Lexeme.spelling := by
  simp [division, Division.lexemes, lexemes, Function.comp_def]

end Writing

end MaximalMunch
