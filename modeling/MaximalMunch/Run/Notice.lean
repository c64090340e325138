/-
Module: MaximalMunch.Run.Notice
Layer: Program
Purpose: What goes to standard error. Three sorts of texts do: what is written for a record, the report of an
  error or of a failure, and what is said when the command line does not lead to a run. The last two are the
  program's own words. What is written for a record is not, so here it is only known which record it is, and
  the text is had when a format is given (`Notice.text`).
Imports: MaximalMunch.CommandLine.Stop, MaximalMunch.Log.Record
Trusted boundary: human-reviewed spec
Main exports: report, Notice, Notice.text, Notice.reportLine?, errorText,
  errorText_append, errorText_prefix, errorText_reports
Open obligations: none
-/
import MaximalMunch.CommandLine.Stop
import MaximalMunch.Log.Record

namespace MaximalMunch

/-- The report of an error or of a failure. -/
def report (message : String) : String := "error: " ++ message

/-- One text on standard error. -/
inductive Notice where
  /-- What is written for a record. -/
  | record (record : Log.Record)
  /-- The report of an error or of a failure, on a line. -/
  | report (message : String)
  /-- Why the command line does not lead to a run. -/
  | stop (stop : CommandLine.Stop)
deriving DecidableEq, Repr, Inhabited

namespace Notice

/-- What is written, when so many texts stand before it. -/
def text (format : Log.Format) (before : Nat) : Notice → String
  | .record entry => format.write before entry
  | .report message => MaximalMunch.report message ++ "\n"
  | .stop why => why.text

/-- The line in which something is reported. -/
def reportLine? : Notice → Option String
  | .report message => some (MaximalMunch.report message)
  | _ => none

end Notice

/-- All that stands on standard error. -/
def errorText (format : Log.Format) (notices : List Notice) : String :=
  String.join (notices.mapIdx (Notice.text format))

/-- What is written later changes nothing of what has been written. -/
theorem errorText_append (format : Log.Format) (first second : List Notice) :
    errorText format (first ++ second) =
      errorText format first ++
        String.join (second.mapIdx fun place notice => notice.text format (place + first.length)) := by
  rw [errorText, List.mapIdx_append, String.join_append]
  rfl

/-- Notices that begin in the same way are written in the same way so far. -/
theorem errorText_prefix (format : Log.Format) {first second : List Notice} (front : first <+: second) :
    (errorText format first).toList <+: (errorText format second).toList := by
  obtain ⟨more, rfl⟩ := front
  rw [errorText_append, String.toList_append]
  exact List.prefix_append _ _

/-- A report that is written last stands on a line of its own. -/
theorem errorText_append_report (format : Log.Format) (before : List Notice) (message : String) :
    errorText format (before ++ [.report message]) = errorText format before ++ (report message ++ "\n") := by
  rw [errorText_append, List.mapIdx_singleton, String.join_cons, String.join_nil, String.append_empty]
  rfl

/-- Where nothing but reports is written the format is of no consequence. -/
theorem errorText_reports (format : Log.Format) (messages : List String) :
    errorText format (messages.map .report) = String.join (messages.map (report · ++ "\n")) := by
  rw [errorText]
  congr 1
  apply List.ext_getElem?
  intro place
  rw [List.getElem?_mapIdx, List.getElem?_map, List.getElem?_map, Option.map_map]
  rfl

end MaximalMunch
