/-
Module: MaximalMunch.Lexeme
Layer: Grammar
Purpose: The lexemes as languages, said without scanning. A word is a letter and any word characters after
  it; an integer is digits, with or without a sign; a string literal is a body between two marks, and
  every symbol is a language of its own. `Kind.Accepts` tells which texts a token of each kind can have,
  and a lexeme is such a text, written out. `IsLongest` is the maximal munch rule itself: of all the
  lexemes that a text begins with, the longest.
Imports: MaximalMunch.CharClass, MaximalMunch.Token
Trusted boundary: human-reviewed spec
Main exports: IsWord, IsInteger, StringBody, IsString, IsSymbol, Kind.Accepts, IsLexeme, IsLongest, RunsIntoWord,
  IsBlank, Lexeme, Lexeme.spelling, Lexeme.Valid
Open obligations: none
-/
import MaximalMunch.CharClass
import MaximalMunch.Token

namespace MaximalMunch

open CharClass

/-- A letter and any word characters after it. -/
def IsWord (text : List Char) : Prop :=
  ∃ first more, text = first :: more ∧ isLetter first = true ∧ ∀ c ∈ more, isWord c = true

/-- Digits, at least one, with at most one sign in front. -/
def IsInteger (text : List Char) : Prop :=
  ∃ sign digits, text = sign ++ digits ∧ sign.length ≤ 1 ∧ (∀ c ∈ sign, isSign c = true) ∧
    digits ≠ [] ∧ ∀ c ∈ digits, isDigit c = true

/-- What may stand between the marks of a string literal: pairs of a backslash and any character, and
    characters that are no mark, no backslash and no line feed. -/
inductive StringBody : List Char → Prop where
  | nil : StringBody []
  | plain {c : Char} {rest : List Char} (mark : c ≠ '"') (slash : c ≠ '\\') (feed : c ≠ '\n')
      (body : StringBody rest) : StringBody (c :: rest)
  | pair (c : Char) {rest : List Char} (body : StringBody rest) : StringBody ('\\' :: c :: rest)

/-- A body between two marks. -/
def IsString (text : List Char) : Prop := ∃ body, text = '"' :: body ++ ['"'] ∧ StringBody body

/-- An operator or a punctuation mark. -/
def IsSymbol (text : List Char) : Prop := ∃ kind : Kind, kind.symbol? = some text

/-- The texts that a token of this kind can have. No lexeme is the end of input. -/
def Kind.Accepts (kind : Kind) (text : List Char) : Prop :=
  match kind with
  | .endOfInput => False
  | .identifier => IsWord text ∧ Kind.ofReservedWord? (String.ofList text) = none
  | .integer => IsInteger text
  | .string => StringBody text
  | other => other.reservedWord? = some (String.ofList text) ∨ other.symbol? = some text

/-- A lexeme of any kind. -/
def IsLexeme (text : List Char) : Prop :=
  IsWord text ∨ IsInteger text ∨ IsString text ∨ IsSymbol text

/-- Of the lexemes that `text` begins with, the longest. -/
def IsLongest (text lexeme : List Char) : Prop :=
  IsLexeme lexeme ∧ lexeme <+: text ∧
    ∀ other, IsLexeme other → other <+: text → other.length ≤ lexeme.length

/-- An integer at the front of `text` runs into a word: a word character stands right behind it. -/
def RunsIntoWord (text integer : List Char) : Prop :=
  IsInteger integer ∧ (text.drop integer.length).head?.any isWord = true

/-- What may stand between lexemes. -/
def IsBlank (text : List Char) : Prop := ∀ c ∈ text, isBlank c = true

/-- A lexeme by its kind and its text. -/
structure Lexeme where
  kind : Kind
  text : List Char
deriving DecidableEq, Repr, Inhabited

namespace Lexeme

/-- What a scan brings at the end of input, where no lexeme is. -/
def endOfInput : Lexeme := ⟨.endOfInput, []⟩

/-- The lexeme as it is written. -/
def spelling (lexeme : Lexeme) : List Char := lexeme.kind.lexeme lexeme.text

/-- The text is one that the kind can have. -/
def Valid (lexeme : Lexeme) : Prop := lexeme.kind.Accepts lexeme.text

/-- The kind and the text of a token, without its position. -/
def ofToken (token : Token) : Lexeme := ⟨token.kind, token.text.toList⟩

end Lexeme

end MaximalMunch
