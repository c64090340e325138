/-
Module: MaximalMunch.Run.Account
Layer: Program
Purpose: What goes to standard error in a run, said of its readings. There are four sorts of records, and of
  each it is known beforehand what a filter will see of it; whether it lets them through is all that
  matters of a filter. First comes the announcement of the source, then the account of one reading after the
  other: of a token its record, of an error its record and its report, where the report is no matter of
  the filter, and of an open string literal in front of both that the rest is passed over. That the events
  of a run write this is shown for one reading and follows for all (`notices_ofReadings`).
Imports: MaximalMunch.Run.Transcript
Trusted boundary: human-reviewed spec
Main exports: Log.Heading.ofAnnouncement, announcement, Reading.account, notices_events,
  notices_ofReadings, notices_ofSource
Open obligations: none
-/
import MaximalMunch.Run.Transcript

namespace MaximalMunch

namespace Log.Heading

/-- What a filter sees of the announcement of a source. -/
def ofAnnouncement : Heading := ⟨"tokscan::arguments", .debug, ["message", "input", "chars"]⟩

/-- What a filter sees of a token. -/
def ofToken : Heading := ⟨"tokscan::lexer", .trace, ["message", "kind", "line", "column", "text"]⟩

/-- What a filter sees of an error. -/
def ofError : Heading := ⟨"tokscan::lexer", .debug, ["message", "error"]⟩

/-- What a filter sees of it that the rest of the source is passed over. -/
def ofJump : Heading := ⟨"tokscan::lexer", .debug, ["message", "line", "column"]⟩

end Log.Heading

/-- A record, if it is let through. -/
def recordIf (admitted : Bool) (record : Log.Record) : List Notice :=
  if admitted then [.record record] else []

/-- The announcement of a source of `size` characters. -/
def announcement (admits : Log.Heading → Bool) (input : Option String) (size : Nat) : List Notice :=
  recordIf (admits .ofAnnouncement) (.scanning input size)

/-- What is said of an error, and the report of it. -/
def LexicalError.account (admits : Log.Heading → Bool) : LexicalError → List Notice
  | .unterminatedString opening =>
      recordIf (admits .ofJump) (.skippedToEnd opening) ++
        (recordIf (admits .ofError) (.lexicalError (.unterminatedString opening)) ++
          [.report (LexicalError.unterminatedString opening).message])
  | error => recordIf (admits .ofError) (.lexicalError error) ++ [.report error.message]

/-- What goes to standard error of a reading. -/
def Reading.account (admits : Log.Heading → Bool) : Reading → List Notice
  | .token t => recordIf (admits .ofToken) (.token t)
  | .error e => e.account admits

section Notices

variable {admits : Log.Heading → Bool}

/-- A record is written if what the filter sees of it is let through. -/
theorem notices_logged_cons (record : Log.Record) (events : List Event) :
    notices admits (.logged record :: events) =
      recordIf (admits record.heading) record ++ notices admits events := by
  rw [notices_cons, Event.notice?, recordIf]
  cases admits record.heading <;> rfl

/-- The events of a reading leave its account. -/
theorem notices_events (reading : Reading) : notices admits reading.events = reading.account admits := by
  cases reading with
  | token t => exact (notices_logged_cons _ _).trans (List.append_nil _)
  | error e =>
      cases e with
      | invalidStart c position => exact notices_logged_cons _ _
      | unexpectedCharacter c position => exact notices_logged_cons _ _
      | unterminatedString opening =>
          exact (notices_logged_cons _ _).trans (congrArg _ (notices_logged_cons _ _))

/-- The accounts of readings follow each other as the readings do. -/
theorem notices_flatMap (readings : List Reading) :
    notices admits (readings.flatMap Reading.events) = readings.flatMap (Reading.account admits) := by
  induction readings with
  | nil => rfl
  | cons reading readings ih =>
      rw [List.flatMap_cons, notices_append, notices_events, ih, List.flatMap_cons]

theorem notices_ofReadings (failFast : Bool) (readings : List Reading) :
    notices admits (Event.ofReadings failFast readings) =
      (if failFast then throughFirstError readings else readings).flatMap (Reading.account admits) :=
  notices_flatMap _

/-- What goes to standard error in a run on a source. -/
theorem notices_ofSource (arguments : CommandLine.Arguments) (source : String) :
    notices admits (Event.ofSource arguments source) =
      announcement admits arguments.input source.length ++
        (if arguments.failFast then throughFirstError (readings source.toList)
          else readings source.toList).flatMap (Reading.account admits) := by
  rw [Event.ofSource, notices_logged_cons, notices_ofReadings]
  rfl

end Notices

end MaximalMunch
