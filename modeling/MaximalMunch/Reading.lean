/-
Module: MaximalMunch.Reading
Layer: Data
Purpose: What one pull of the scanner brings: a token or a lexical error. Tokens and errors stand in one
  sequence, in the order in which they begin in the source, and `split` takes that sequence apart into
  the two lists that most callers want. A reading covers a stretch of the source that starts at its
  position; its width is the length of that stretch. Only an unterminated string needs to know where the
  source ends, because it covers all that is left.
Imports: MaximalMunch.Token, MaximalMunch.LexicalError
Trusted boundary: human-reviewed spec
Main exports: Reading, Reading.position, isEnd, isError, token?, error?, translate, width, Spans,
  Covers, split
Open obligations: none
-/
import MaximalMunch.Token
import MaximalMunch.LexicalError

namespace MaximalMunch

/-- A token, or an error in its place. -/
inductive Reading where
  | token (token : Token)
  | error (error : LexicalError)
deriving DecidableEq, Repr, Inhabited

namespace Reading

/-- Where the reading begins. -/
def position : Reading → Position
  | .token t => t.position
  | .error e => e.position

/-- Whether this is the token of the end of input. -/
def isEnd : Reading → Bool
  | .token t => t.isEnd
  | .error _ => false

/-- Whether this is an error. -/
def isError : Reading → Bool
  | .token _ => false
  | .error _ => true

/-- The token, if it is one. -/
def token? : Reading → Option Token
  | .token t => some t
  | .error _ => none

/-- The error, if it is one. -/
def error? : Reading → Option LexicalError
  | .token _ => none
  | .error e => some e

/-- The same reading in a source whose beginning stands at `base`. -/
def translate (base : Position) : Reading → Reading
  | .token t => .token (t.translate base)
  | .error e => .error (e.translate base)

/-- How many characters the reading covers, in a source of `total` characters. -/
def width (total : Nat) : Reading → Nat
  | .token t => t.lexeme.length
  | .error (.unterminatedString position) => total - position.column
  | .error _ => 1

/-- Whether the character at `place` is one of those that the reading covers. -/
def Spans (total : Nat) (reading : Reading) (place : Nat) : Prop :=
  reading.position.column ≤ place ∧ place < reading.position.column + reading.width total

/-- The stretches of source that a reading can stand for: the lexeme of its token, the one character that
    its error blames, or something that begins with a mark. -/
def Covers (stretch : List Char) : Reading → Prop
  | .token t => stretch = t.lexeme
  | .error (.invalidStart c _) => stretch = [c]
  | .error (.unexpectedCharacter c _) => stretch = [c]
  | .error (.unterminatedString _) => stretch.head? = some '"'

/-- The tokens and the errors of a sequence of readings, each in their order. -/
def split (readings : List Reading) : List Token × List LexicalError :=
  (readings.filterMap token?, readings.filterMap error?)

/-- A reading that is translated stands at the translated place. -/
@[simp] theorem position_translate (base : Position) (reading : Reading) :
    (reading.translate base).position = base.translate reading.position := by
  cases reading with
  | token _ => rfl
  | error e => exact LexicalError.position_translate base e

/-- To be translated does not change what a reading is. -/
@[simp] theorem isEnd_translate (base : Position) (reading : Reading) :
    (reading.translate base).isEnd = reading.isEnd := by
  cases reading <;> rfl

@[simp] theorem token?_translate (base : Position) (reading : Reading) :
    (reading.translate base).token? = reading.token?.map (.translate base) := by
  cases reading <;> rfl

@[simp] theorem error?_translate (base : Position) (reading : Reading) :
    (reading.translate base).error? = reading.error?.map (.translate base) := by
  cases reading <;> rfl

/-- There are no errors to take apart where no reading is one. -/
theorem any_isError_eq_false_iff {readings : List Reading} :
    readings.any isError = false ↔ (split readings).2 = [] := by
  rw [List.any_eq_false, split, List.filterMap_eq_nil_iff]
  apply forall₂_congr
  intro reading _
  cases reading <;> simp [isError, error?]

end Reading

end MaximalMunch
