/-
Module: MaximalMunch.Scanner.Session
Layer: Scanning
Purpose: Scanning by a script of steps. A session holds a scanner and a stack of scanners that were put
  aside. Besides pulling, iterating and draining, a step may put a copy of the scanner on the stack or
  take the newest copy back, which makes the session go on from where that copy was taken. Each step has
  an outcome, and the position of the scanner after it can be asked of the session.
Imports: MaximalMunch.Scanner.Stream
Trusted boundary: human-reviewed spec
Main exports: Session, Session.Step, Session.Outcome, Session.ofChars, Session.step, Session.run
Open obligations: none
-/
import MaximalMunch.Scanner.Stream

namespace MaximalMunch

/-- A scanner at work and the scanners put aside, the newest first. -/
structure Session where
  scanner : Scanner
  saved : List Scanner
deriving DecidableEq, Repr, Inhabited

namespace Session

/-- What can be asked of a session. -/
inductive Step where
  /-- Pull one reading. -/
  | pull
  /-- Bring the next reading of the iteration. -/
  | next
  /-- Iterate to the end. -/
  | drain
  /-- Say where the scanner stands. -/
  | position
  /-- Put a copy of the scanner aside. -/
  | save
  /-- Go on with the newest copy instead. -/
  | restore
deriving DecidableEq, Repr, Inhabited

/-- What a step brings. -/
inductive Outcome where
  | reading (reading : Reading)
  /-- The iteration had ended before. -/
  | exhausted
  | readings (readings : List Reading)
  | position (position : Position)
  /-- How many scanners are put aside now. -/
  | saved (count : Nat)
  /-- There was no copy to go on with. -/
  | nothingSaved
deriving DecidableEq, Repr, Inhabited

/-- The session at the start of a source. -/
def ofChars (source : List Char) : Session := ⟨.ofChars source, []⟩

/-- Take one step. -/
def step (session : Session) : Step → Outcome × Session
  | .pull =>
      let (reading, after) := session.scanner.pull
      (.reading reading, { session with scanner := after })
  | .next =>
      match session.scanner.next? with
      | none => (.exhausted, session)
      | some (reading, after) => (.reading reading, { session with scanner := after })
  | .drain =>
      let (readings, after) := session.scanner.drain
      (.readings readings, { session with scanner := after })
  | .position => (.position session.scanner.position, session)
  | .save =>
      (.saved (session.saved.length + 1), { session with saved := session.scanner :: session.saved })
  | .restore =>
      match session.saved with
      | [] => (.nothingSaved, session)
      | newest :: older => (.saved older.length, ⟨newest, older⟩)

/-- Take several steps in order. Each outcome comes with the position of the scanner after its step. -/
def run (session : Session) : List Step → List (Outcome × Position) × Session
  | [] => ([], session)
  | first :: more =>
      let (outcome, after) := session.step first
      let (outcomes, last) := after.run more
      ((outcome, after.scanner.position) :: outcomes, last)

end Session

end MaximalMunch
