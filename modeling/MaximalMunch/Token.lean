/-
Module: MaximalMunch.Token
Layer: Data
Purpose: Tokens. A token is a kind, a text and the position of its first character. The text is the
  lexeme as it stands in the source, except that a string literal leaves its two marks out; `lexeme`
  puts them back, so it is the stretch of the source that the token was read from. What stands between
  the marks is kept as written: an escape pair is two characters of the text. A token line, the unit of
  the program's output, shows the kind, the line, the column over the whole source and the quoted text.
Imports: MaximalMunch.Kind, MaximalMunch.Position, MaximalMunch.Text.Quoted
Trusted boundary: human-reviewed spec
Main exports: Token, Token.isEnd, lexeme, slice, translate, render
Open obligations: none
-/
import MaximalMunch.Kind
import MaximalMunch.Position
import MaximalMunch.Text.Quoted

namespace MaximalMunch

/-- One token of a source. -/
structure Token where
  kind : Kind
  /-- The lexeme, without the marks of a string literal. -/
  text : String
  /-- Where the lexeme begins. -/
  position : Position
deriving DecidableEq, Repr, Inhabited

/-- The lexeme of a given kind from which the given text was taken. -/
def Kind.lexeme (kind : Kind) (text : List Char) : List Char :=
  if kind = .string then '"' :: text ++ ['"'] else text

namespace Token

/-- Whether this is the token of the end of input. Only the kind says so. -/
def isEnd (token : Token) : Bool := token.kind = .endOfInput

/-- The characters of the source that the token stands for. -/
def lexeme (token : Token) : List Char := token.kind.lexeme token.text.toList

/-- What stands in a source where the token says that it stands. -/
def slice (source : List Char) (token : Token) : List Char :=
  (source.drop token.position.column).take token.lexeme.length

/-- The same token in a source whose beginning stands at `base`. -/
def translate (base : Position) (token : Token) : Token :=
  { token with position := base.translate token.position }

/-- A token line, without its line feed. -/
def render (token : Token) : String :=
  token.kind.name ++ " " ++ toString token.position.line ++ ":" ++ toString token.position.column ++
    " " ++ Text.quoteString token.text

end Token

end MaximalMunch
