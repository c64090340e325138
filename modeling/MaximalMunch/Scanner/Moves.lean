/-
Module: MaximalMunch.Scanner.Moves
Layer: Scanning
Purpose: Everything that can be done on the way through a source. A session can be asked for a step, and below
  it the cursor of its scanner can be used directly: one may look ahead, which changes nothing, read a
  character past the scanner, or read all that is left. A move brings the readings of the step that it asks
  for, if any, and several moves bring theirs in order.
Imports: MaximalMunch.Scanner.Past
Trusted boundary: human-reviewed spec
Main exports: Session.Move, Session.move, Session.moveAll
Open obligations: none
-/
import MaximalMunch.Scanner.Past

namespace MaximalMunch.Session

/-- A step of a session, or an operation of the cursor below it. -/
inductive Move where
  | ask (step : Step)
  /-- Look at a character ahead, the current one being number zero. -/
  | peek (ahead : Nat)
  /-- Read the current character. -/
  | advance
  /-- Read all that is left. -/
  | advanceToEnd
deriving DecidableEq, Repr, Inhabited

/-- The same session with the cursor of its scanner elsewhere. -/
def withCursor (cursor : Cursor) (session : Session) : Session :=
  { session with scanner := { session.scanner with cursor := cursor } }

/-- Make a move. -/
def move (session : Session) : Move → List Reading × Session
  | .ask step =>
      let (outcome, after) := session.step step
      (Entry.readings ⟨step, outcome⟩, after)
  | .peek _ => ([], session)
  | .advance => ([], session.withCursor session.scanner.cursor.advance)
  | .advanceToEnd => ([], session.withCursor session.scanner.cursor.advanceToEnd)

/-- Make several moves in order. -/
def moveAll (session : Session) : List Move → List Reading × Session
  | [] => ([], session)
  | first :: more =>
      let (readings, after) := session.move first
      let (later, last) := after.moveAll more
      (readings ++ later, last)

end MaximalMunch.Session
