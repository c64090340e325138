/-
Module: MaximalMunch.Writing
Layer: Grammar
Purpose: Sources written out from lexemes, the way back from a scan. A writing is a sequence of lexemes,
  each with the blanks in front of it, and the blanks after the last one; its text is all of that in order. A
  writing is well separated if blanks stand between any two neighbours that would otherwise run together.
  Two neighbours conflict in one of three ways: the first is a word or an integer and the second goes on
  with a word character; the two together begin with a longer symbol; or the first is the sign of the
  second.
Imports: MaximalMunch.Lexeme
Trusted boundary: human-reviewed spec
Main exports: Lexeme.Conflicts, Writing, Writing.text, Writing.lexemes, Writing.Valid, Writing.Separated
Open obligations: none
-/
import MaximalMunch.Lexeme

namespace MaximalMunch

open CharClass

namespace Lexeme

/-- Whether the lexeme ends with a word character, whatever its text. -/
def endsInWord (lexeme : Lexeme) : Bool :=
  lexeme.kind = .identifier || lexeme.kind = .integer || lexeme.kind.isKeyword

/-- Whether an equals sign after it makes the lexeme a longer symbol. -/
def takesEqual (lexeme : Lexeme) : Bool :=
  lexeme.kind = .greater || lexeme.kind = .less || lexeme.kind = .equal

/-- Whether the lexeme is a symbol that is also a sign. -/
def isSignSymbol (lexeme : Lexeme) : Bool := lexeme.kind = .plus || lexeme.kind = .minus

/-- Whether the lexeme is a symbol that begins with an equals sign. -/
def beginsWithEqual (lexeme : Lexeme) : Bool :=
  lexeme.kind = .equal || lexeme.kind = .equalEqual

/-- Whether the lexeme is an integer without a sign. -/
def isUnsigned (lexeme : Lexeme) : Bool :=
  lexeme.kind = .integer && !lexeme.spelling.head?.any isSign

/-- Whether two lexemes run together when nothing stands between them. -/
def Conflicts (first second : Lexeme) : Prop :=
  (first.endsInWord = true ∧ second.spelling.head?.any isWord = true) ∨
    (first.takesEqual = true ∧ second.beginsWithEqual = true) ∨
    (first.isSignSymbol = true ∧ second.isUnsigned = true)

instance (first second : Lexeme) : Decidable (first.Conflicts second) :=
  inferInstanceAs (Decidable (_ ∨ _ ∨ _))

end Lexeme

/-- Lexemes in order, each with what stands in front of it, and what stands at the end. -/
structure Writing where
  parts : List (List Char × Lexeme)
  last : List Char
deriving DecidableEq, Repr, Inhabited

namespace Writing

/-- The source that is written. -/
def text (writing : Writing) : List Char :=
  writing.parts.flatMap (fun (gap, lexeme) => gap ++ lexeme.spelling) ++ writing.last

/-- The lexemes that are written. -/
def lexemes (writing : Writing) : List Lexeme := writing.parts.map (·.2)

/-- Every lexeme has a text that it can have, and only blanks stand between lexemes. -/
def Valid (writing : Writing) : Prop :=
  (∀ part ∈ writing.parts, IsBlank part.1 ∧ part.2.Valid) ∧ IsBlank writing.last

/-- No two neighbours run together. -/
def Separated (writing : Writing) : Prop :=
  ∀ n first second, writing.parts[n]? = some first → writing.parts[n + 1]? = some second →
    second.1 = [] → ¬ first.2.Conflicts second.2

/-- The text of a writing begins with its first gap and the spelling of its first lexeme. -/
theorem text_cons (gap : List Char) (lexeme : Lexeme) (parts : List (List Char × Lexeme))
    (last : List Char) :
    text ⟨(gap, lexeme) :: parts, last⟩ = gap ++ (lexeme.spelling ++ text ⟨parts, last⟩) := by
  simp only [text, List.flatMap_cons, List.append_assoc]

/-- What follows the first lexeme of a valid writing is one. -/
theorem Valid.of_cons {part : List Char × Lexeme} {parts : List (List Char × Lexeme)} {last : List Char}
    (valid : Valid ⟨part :: parts, last⟩) : Valid ⟨parts, last⟩ :=
  ⟨fun other member => valid.1 other (List.mem_cons_of_mem part member), valid.2⟩

end Writing

end MaximalMunch
