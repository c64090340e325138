/-
Module: MaximalMunch.Run.Lines
Layer: Program
Purpose: What a run has written, read back. The token lines and the reports are whole lines and none of them
  holds a line feed, whatever source they show, because all that is foreign is quoted. So lines can be read
  back from a text (`lines_unlines`). What is reported on standard error can be told from the records that may
  stand around it; it is what the run complained about, in order, and nothing else (`reports_notices`).
Imports: MaximalMunch.Run.Transcript, MaximalMunch.Text.OneLine, MaximalMunch.Text.Pieces
Trusted boundary: human-reviewed spec
Main exports: lines, lines_unlines, oneLine_report, Event.complaint?, reports_notices
Open obligations: none
-/
import MaximalMunch.Run.Transcript
import MaximalMunch.Text.OneLine
import MaximalMunch.Text.Pieces

namespace MaximalMunch

open Text (OneLine oneLine_toString oneLine_quoteChar)

/-- The lines of a text, and what stands behind the last line feed. -/
def lines (text : String) : List String := (Text.pieces '\n' text.toList).map String.ofList

/-- Lines that hold no line feed are read back. -/
theorem lines_unlines {written : List String} (one : ∀ line ∈ written, OneLine line) :
    lines (unlines written) = written ++ [""] := by
  induction written with
  | nil => rfl
  | cons line more ih =>
      have later := ih fun other member => one other (List.mem_cons_of_mem line member)
      have text : (unlines (line :: more)).toList = line.toList ++ '\n' :: (unlines more).toList := by
        simp [unlines]
      rw [lines, text, Text.pieces_append (one line List.mem_cons_self), List.map_cons, String.ofList_toList]
      exact congrArg (line :: ·) later

/-!
### Every line is one line
-/

/-- A position is written on one line. -/
theorem Position.oneLine_render (p : Position) : OneLine p.render := by
  have start : OneLine "line " := by decide
  have middle : OneLine ", column " := by decide
  exact ((start.append (oneLine_toString _)).append middle).append (oneLine_toString _)

/-- A message is one line, whatever character it is about: that one is quoted. -/
theorem LexicalError.oneLine_message (error : LexicalError) : OneLine error.message := by
  have place : OneLine " at " := by decide
  cases error with
  | invalidStart c p =>
      have start : OneLine "invalid start of identifier or number " := by decide
      exact ((start.append (oneLine_quoteChar c)).append place).append p.oneLine_render
  | unexpectedCharacter c p =>
      have start : OneLine "unexpected character " := by decide
      exact ((start.append (oneLine_quoteChar c)).append place).append p.oneLine_render
  | unterminatedString p =>
      have start : OneLine "unterminated string literal starting at " := by decide
      exact start.append p.oneLine_render

theorem Kind.oneLine_name (kind : Kind) : OneLine kind.name := by cases kind <;> decide

/-- The report of an error is one line. -/
theorem oneLine_report (error : LexicalError) : OneLine (report error.message) := by
  have start : OneLine "error: " := by decide
  exact start.append error.oneLine_message

/-!
### What is reported
-/

/-- The error that an event complains about. -/
def Event.complaint? : Event → Option LexicalError
  | .complained e => some e
  | _ => none

/-- What an event reports are the words of its complaint, whatever is let through of the log. -/
theorem Event.reportLine?_notice? (admits : Log.Heading → Bool) (event : Event) :
    (event.notice? admits).bind Notice.reportLine? = event.complaint?.map fun e => report e.message := by
  cases event with
  | printed t => rfl
  | complained e => rfl
  | logged record =>
      rw [Event.notice?]
      split <;> rfl

/-- What is reported of events are their complaints, in order. -/
theorem reports_notices (admits : Log.Heading → Bool) (events : List Event) :
    (notices admits events).filterMap Notice.reportLine? =
      (events.filterMap Event.complaint?).map fun e => report e.message := by
  rw [notices, List.filterMap_filterMap, List.map_filterMap]
  simp only [Event.reportLine?_notice?]

end MaximalMunch
