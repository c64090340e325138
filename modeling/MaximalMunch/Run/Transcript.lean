/-
Module: MaximalMunch.Run.Transcript
Layer: Program
Purpose: What can be seen of a run from outside: the status with which it ends, the text on standard output,
  and what has gone to standard error. The token lines make up the one, the records that pass the filter and
  the error reports the other. A run without failure ends with status zero, or with one if it reported an
  error. An output that refuses to be written to does so at the first token line: everything from it on is
  lost, the failure is reported in its place and the status is two. A run that never prints does not notice.
Imports: MaximalMunch.Failure, MaximalMunch.Run.Event, MaximalMunch.Run.Notice
Trusted boundary: human-reviewed spec
Main exports: Sink, Transcript, Transcript.errorText, Transcript.reports, Transcript.ofStop,
  Transcript.ofAllEvents,
  Transcript.ofEvents, Transcript.status_ofAllEvents, outputLines, notices, unlines
Open obligations: none
-/
import MaximalMunch.Failure
import MaximalMunch.Run.Event
import MaximalMunch.Run.Notice

namespace MaximalMunch

/-- What standard output leads to. -/
inductive Sink where
  /-- A file, a terminal or a pipe that takes everything. -/
  | working
  /-- Something that takes nothing, and why. -/
  | refusing (cause : String)
deriving DecidableEq, Repr, Inhabited

/-- A device that has no room left. -/
def Sink.full : Sink := .refusing "No space left on device (os error 28)"

/-- Lines as one text, each ended by a line feed. -/
def unlines (lines : List String) : String := String.join (lines.map (· ++ "\n"))

/-- What can be seen of a run. -/
structure Transcript where
  status : Nat
  output : String
  notices : List Notice
deriving DecidableEq, Repr, Inhabited

namespace Transcript

/-- What stands on standard error, when records are written in this format. -/
def errorText (format : Log.Format) (transcript : Transcript) : String :=
  MaximalMunch.errorText format transcript.notices

/-- What stands on standard error in the plain format. -/
def errors (transcript : Transcript) : String := transcript.errorText .plain

/-- The lines on standard error in which errors and failures are reported. -/
def reports (transcript : Transcript) : List String := transcript.notices.filterMap Notice.reportLine?

end Transcript

/-- The line that an event puts on standard output. -/
def Event.outputLine? : Event → Option String
  | .printed t => some t.render
  | _ => none

/-- Only what is printed is a line of the output. -/
theorem Event.outputLine?_of_not_printed {event : Event} (silent : event.isPrinted = false) :
    event.outputLine? = none := by
  cases event with
  | printed t => cases silent
  | logged record => rfl
  | complained e => rfl

/-- What an event puts on standard error, where records are let through as `admits` says. -/
def Event.notice? (admits : Log.Heading → Bool) : Event → Option Notice
  | .logged record => if admits record.heading then some (.record record) else none
  | .printed _ => none
  | .complained e => some (.report e.message)

/-- The lines that events put on standard output. -/
def outputLines (events : List Event) : List String := events.filterMap Event.outputLine?

/-- What events put on standard error. -/
def notices (admits : Log.Heading → Bool) (events : List Event) : List Notice :=
  events.filterMap (Event.notice? admits)

section Lines

variable {admits : Log.Heading → Bool}

theorem unlines_nil : unlines [] = "" := rfl

/-- Lines are written one after the other. -/
theorem unlines_append (first second : List String) :
    unlines (first ++ second) = unlines first ++ unlines second := by
  rw [unlines, List.map_append, String.join_append]
  rfl

theorem outputLines_cons (event : Event) (events : List Event) :
    outputLines (event :: events) = event.outputLine?.toList ++ outputLines events := by
  rw [outputLines, List.filterMap_cons]
  cases event.outputLine? <;> rfl

theorem notices_cons (event : Event) (events : List Event) :
    notices admits (event :: events) = (event.notice? admits).toList ++ notices admits events := by
  rw [notices, List.filterMap_cons]
  cases event.notice? admits <;> rfl

/-- Notices are given event by event. -/
theorem notices_append (first second : List Event) :
    notices admits (first ++ second) = notices admits first ++ notices admits second :=
  List.filterMap_append

end Lines

namespace Transcript

/-- What is seen of a command line that does not lead to a run. Mistakes go to standard error, and what was
    asked for to standard output. -/
def ofStop (sink : Sink) (stop : CommandLine.Stop) : Transcript where
  status := stop.status
  output := if sink = .working && !stop.isMistake then stop.text else ""
  notices := if stop.isMistake then [.stop stop] else []

/-- What is seen of events when everything can be written. -/
def ofAllEvents (admits : Log.Heading → Bool) (events : List Event) : Transcript where
  status := if events.any Event.isComplained then 1 else 0
  output := unlines (outputLines events)
  notices := MaximalMunch.notices admits events

/-- What is seen of events. -/
def ofEvents (admits : Log.Heading → Bool) (sink : Sink) (events : List Event) : Transcript :=
  match sink with
  | .working => ofAllEvents admits events
  | .refusing cause =>
      if events.any Event.isPrinted then
        let before := events.takeWhile (!·.isPrinted)
        ⟨2, "", MaximalMunch.notices admits before ++ [.report (Failure.write cause).message]⟩
      else ofAllEvents admits events

/-- When everything can be written, the status tells whether the source has an error. -/
theorem status_ofAllEvents (admits : Log.Heading → Bool) (arguments : CommandLine.Arguments)
    (source : String) :
    (ofAllEvents admits (Event.ofSource arguments source)).status =
      if (tokenize source).2 = [] then 0 else 1 := by
  rw [ofAllEvents]
  by_cases clean : (tokenize source).2 = []
  · rw [if_pos clean, Event.any_isComplained_ofSource_eq_false_iff.mpr clean]
    rfl
  · rw [if_neg clean, eq_true_of_ne_false (mt Event.any_isComplained_ofSource_eq_false_iff.mp clean)]
    rfl

end Transcript

end MaximalMunch
