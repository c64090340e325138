/-
Module: MaximalMunch.LexicalError
Layer: Data
Purpose: What can be wrong with a source. There are three causes. A run of word characters may begin in
  a way that no word and no integer does; every character of such a run is an error of its own. A
  character may begin nothing at all. And a string literal may never be closed. Each error knows the
  place of the character that it blames, for a string literal that of its opening mark.
Imports: MaximalMunch.Position, MaximalMunch.Text.Quoted
Trusted boundary: human-reviewed spec
Main exports: LexicalError, LexicalError.position, character?, message, translate
Open obligations: none
-/
import MaximalMunch.Position
import MaximalMunch.Text.Quoted

namespace MaximalMunch

/-- A stretch of the source that is no token, and why. -/
inductive LexicalError where
  | invalidStart (character : Char) (position : Position)
  | unexpectedCharacter (character : Char) (position : Position)
  | unterminatedString (position : Position)
deriving DecidableEq, Repr, Inhabited

namespace LexicalError

/-- The place of the character that the error is about. -/
def position : LexicalError → Position
  | invalidStart _ position => position
  | unexpectedCharacter _ position => position
  | unterminatedString position => position

/-- The character that the error is about. An unterminated string is about all that follows its mark. -/
def character? : LexicalError → Option Char
  | invalidStart character _ => some character
  | unexpectedCharacter character _ => some character
  | unterminatedString _ => none

/-- The same error in a source whose beginning stands at `base`. -/
def translate (base : Position) : LexicalError → LexicalError
  | invalidStart character position => .invalidStart character (base.translate position)
  | unexpectedCharacter character position => .unexpectedCharacter character (base.translate position)
  | unterminatedString position => .unterminatedString (base.translate position)

/-- The error in words. -/
def message : LexicalError → String
  | invalidStart character position =>
      "invalid start of identifier or number " ++ Text.quoteChar character ++ " at " ++ position.render
  | unexpectedCharacter character position =>
      "unexpected character " ++ Text.quoteChar character ++ " at " ++ position.render
  | unterminatedString position =>
      "unterminated string literal starting at " ++ position.render

theorem message_invalidStart (character : Char) (position : Position) :
    (invalidStart character position).message =
      "invalid start of identifier or number " ++ Text.quoteChar character ++ " at " ++ position.render := rfl

theorem message_unexpectedCharacter (character : Char) (position : Position) :
    (unexpectedCharacter character position).message =
      "unexpected character " ++ Text.quoteChar character ++ " at " ++ position.render := rfl

theorem message_unterminatedString (position : Position) :
    (unterminatedString position).message =
      "unterminated string literal starting at " ++ position.render := rfl

/-- An error that is translated stands at the translated place. -/
@[simp] theorem position_translate (base : Position) (error : LexicalError) :
    (error.translate base).position = base.translate error.position := by
  cases error <;> rfl

end LexicalError

end MaximalMunch
