/-
Module: MaximalMunch.Run.Event
Layer: Program
Purpose: What a run does, event by event, before it is decided what of it can be seen. A run announces the
  source and then, for each reading in order, logs it and shows it: a token is printed, an error is
  complained about. With the fail-fast option the readings end with the first error. Log filters and
  broken output devices come later (`MaximalMunch.Run.Transcript`), so the events of a run depend on the
  source, its name and that option only. Whether an error is reported depends on the source alone
  (`any_isComplained_ofSource_eq_false_iff`).
Imports: MaximalMunch.CommandLine.Arguments, MaximalMunch.Log.Record, MaximalMunch.Scanner.Stream
Trusted boundary: human-reviewed spec
Main exports: Event, Reading.events, throughFirstError, throughFirstError_cons, Event.ofReadings,
  Event.ofSource, Event.any_isComplained_ofSource_eq_false_iff
Open obligations: none
-/
import MaximalMunch.CommandLine.Arguments
import MaximalMunch.Log.Record
import MaximalMunch.Scanner.Stream

namespace MaximalMunch

/-- One thing that happens in a run. -/
inductive Event where
  /-- A record is made; whether it is written is up to the filter. -/
  | logged (record : Log.Record)
  /-- A token line goes to the output. -/
  | printed (token : Token)
  /-- An error is reported. -/
  | complained (error : LexicalError)
deriving DecidableEq, Repr, Inhabited

/-- What is logged about an error: where the rest of the source is passed over, that comes first. -/
def LexicalError.records : LexicalError → List Log.Record
  | .unterminatedString position =>
      [.skippedToEnd position, .lexicalError (.unterminatedString position)]
  | error => [.lexicalError error]

/-- What happens on a reading. The log speaks first. -/
def Reading.events : Reading → List Event
  | .token t => [.logged (.token t), .printed t]
  | .error e => e.records.map .logged ++ [.complained e]

/-- The readings up to the first error, and that error. -/
def throughFirstError (readings : List Reading) : List Reading :=
  readings.take ((readings.takeWhile (!·.isError)).length + 1)

namespace Event

/-- Whether the event needs the output. -/
def isPrinted : Event → Bool
  | .printed _ => true
  | _ => false

/-- Only a token line needs the output. -/
theorem exists_of_isPrinted {event : Event} (prints : event.isPrinted = true) : ∃ t, event = .printed t := by
  cases event with
  | printed t => exact ⟨t, rfl⟩
  | logged record => cases prints
  | complained e => cases prints

/-- Whether the event is a report of an error. -/
def isComplained : Event → Bool
  | .complained _ => true
  | _ => false

/-- What happens on a sequence of readings. -/
def ofReadings (failFast : Bool) (readings : List Reading) : List Event :=
  (if failFast then throughFirstError readings else readings).flatMap Reading.events

/-- What happens in a run on a source. -/
def ofSource (arguments : CommandLine.Arguments) (source : String) : List Event :=
  .logged (.scanning arguments.input source.length) ::
    ofReadings arguments.failFast (readings source.toList)

end Event

/-!
### One reading after the other
-/

/-- Whether the first reading is an error decides whether there is a second. -/
theorem throughFirstError_cons (reading : Reading) (readings : List Reading) :
    throughFirstError (reading :: readings) =
      if reading.isError then [reading] else reading :: throughFirstError readings := by
  cases fails : reading.isError with
  | true => simp [throughFirstError, fails]
  | false => simp [throughFirstError, fails]

namespace Event

theorem ofReadings_nil (failFast : Bool) : ofReadings failFast [] = [] := by
  cases failFast <;> rfl

/-- The events of a reading come first, and with the fail-fast option they may be all. -/
theorem ofReadings_cons (failFast : Bool) (reading : Reading) (readings : List Reading) :
    ofReadings failFast (reading :: readings) =
      if failFast && reading.isError then reading.events
      else reading.events ++ ofReadings failFast readings := by
  cases failFast with
  | false => rfl
  | true =>
      simp only [ofReadings, if_true, throughFirstError_cons]
      cases reading.isError <;> simp

end Event

/-!
### Whether an error is reported

Ending with the first error leaves out nothing of the answer: either there is that error, or nothing is
left out.
-/

/-- What is logged about an error is no report of it. -/
theorem LexicalError.any_isComplained_records (error : LexicalError) :
    (error.records.map Event.logged).any Event.isComplained = false := by
  rw [List.any_map]
  exact List.any_eq_false.mpr fun _ _ => Bool.false_ne_true

/-- An error is reported on a reading exactly if it is one. -/
theorem Reading.any_isComplained_events (reading : Reading) :
    reading.events.any Event.isComplained = reading.isError := by
  cases reading with
  | token token => rfl
  | error error =>
      rw [events, List.any_append, error.any_isComplained_records]
      rfl

/-- Up to the first error there is one exactly if there is one at all. -/
theorem any_isError_throughFirstError (readings : List Reading) :
    (throughFirstError readings).any Reading.isError = readings.any Reading.isError := by
  induction readings with
  | nil => rfl
  | cons reading readings ih =>
      rw [throughFirstError_cons]
      cases fails : reading.isError with
      | true => simp [fails]
      | false => simp [fails, ih]

namespace Event

theorem any_isComplained_ofReadings (failFast : Bool) (readings : List Reading) :
    (ofReadings failFast readings).any isComplained = readings.any Reading.isError := by
  rw [ofReadings, List.any_flatMap]
  simp only [Reading.any_isComplained_events]
  cases failFast with
  | true => exact any_isError_throughFirstError readings
  | false => rfl

/-- A run reports no error exactly if its source has none. -/
theorem any_isComplained_ofSource_eq_false_iff {arguments : CommandLine.Arguments} {source : String} :
    (ofSource arguments source).any isComplained = false ↔ (tokenize source).2 = [] := by
  rw [ofSource, List.any_cons, any_isComplained_ofReadings, tokenize, ← Reading.any_isError_eq_false_iff]
  rfl

end Event

end MaximalMunch
