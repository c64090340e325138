/-
Module: MaximalMunch.Scanner.Basic
Layer: Scanning
Purpose: The scanner. It is a cursor and two flags. One flag says that the last reading was part of a
  malformed run: as long as word characters follow, each is an error of its own, with no blanks skipped
  in between. The other flag belongs to iteration: `next?` stops for good once it has brought the end of
  input, while `pull` neither looks at that flag nor sets it and brings the end of input as often as it
  is asked. Both flags are part of the value, so a scanner that is put aside and taken up again goes on
  exactly where it was. The main statement is progress: a pull that does not bring the end of input
  leaves less to read (`length_unread_pull_lt`), so iteration ends (`remaining_next?_lt`).
Imports: MaximalMunch.Finding
Trusted boundary: human-reviewed spec
Main exports: Scanner, Scanner.ofChars, ofString, position, readAt, pull, next?, remaining
Open obligations: none
-/
import MaximalMunch.Finding

namespace MaximalMunch

open CharClass

/-- The state of a scan. -/
structure Scanner where
  cursor : Cursor
  /-- The last reading was an error for a character of a malformed run. -/
  inMalformedRun : Bool
  /-- Iteration has brought the end of input. -/
  finished : Bool
deriving DecidableEq, Repr, Inhabited

namespace Scanner

/-- The scanner at the start of a source. -/
def ofChars (source : List Char) : Scanner := ⟨.ofChars source, false, false⟩

/-- The scanner at the start of a text. -/
def ofString (source : String) : Scanner := ofChars source.toList

/-- Where the scanner stands. -/
def position (scanner : Scanner) : Position := scanner.cursor.position

/-- The next character of the malformed run that the last reading belongs to. -/
def malformedChar? (scanner : Scanner) : Option Char :=
  if scanner.inMalformedRun then scanner.cursor.peek?.filter isWord else none

/-- The reading at `start`, where no blank stands, and the scanner after it. -/
def readAt (scanner : Scanner) (start : Cursor) : Reading × Scanner :=
  match start.unread with
  | [] =>
      (.token ⟨.endOfInput, "", start.position⟩,
        { scanner with cursor := start, inMalformedRun := false })
  | first :: rest =>
      let finding := Finding.of first rest
      (finding.reading first start.position,
        { scanner with cursor := finding.past start, inMalformedRun := finding.isMalformed })

/-- The next reading: an error for a character that goes on with a malformed run, or else what stands
    after the blanks. -/
def pull (scanner : Scanner) : Reading × Scanner :=
  match scanner.malformedChar? with
  | some c =>
      (.error (.invalidStart c scanner.position), { scanner with cursor := scanner.cursor.advance })
  | none => scanner.readAt (scanner.cursor.skipWhile isBlank)

/-- The next reading of an iteration, which ends after the end of input. -/
def next? (scanner : Scanner) : Option (Reading × Scanner) :=
  if scanner.finished then none
  else some (scanner.pull.1, { scanner.pull.2 with finished := scanner.pull.1.isEnd })

/-- A bound on the readings that an iteration still brings. -/
def remaining (scanner : Scanner) : Nat :=
  if scanner.finished then 0 else scanner.cursor.unread.length + 1

/-!
### Progress

A pull that goes on with a malformed run reads one character. Any other pull first skips blanks, which
leaves no more than there was, and then reads at least one character if there is one, by
`Finding.width_pos`.
-/

theorem length_unread_skipWhile_le (test : Char → Bool) (cursor : Cursor) :
    (cursor.skipWhile test).unread.length ≤ cursor.unread.length :=
  (List.dropWhile_suffix test).length_le

theorem length_unread_advanceBy (cursor : Cursor) (n : Nat) :
    (cursor.advanceBy n).unread.length = cursor.unread.length - n :=
  List.length_drop

/-- At the end of the source there is only the end of input to read. -/
theorem readAt_of_nil {scanner : Scanner} {start : Cursor} (h : start.unread = []) :
    scanner.readAt start =
      (.token ⟨.endOfInput, "", start.position⟩,
        { scanner with cursor := start, inMalformedRun := false }) := by
  simp [readAt, h]

/-- Elsewhere the text at the cursor says what there is to read. -/
theorem readAt_of_cons {scanner : Scanner} {start : Cursor} {first : Char} {rest : List Char}
    (h : start.unread = first :: rest) :
    scanner.readAt start =
      ((Finding.of first rest).reading first start.position,
        { scanner with
          cursor := (Finding.of first rest).past start
          inMalformedRun := (Finding.of first rest).isMalformed }) := by
  simp [readAt, h]

/-- Reading at a cursor that has not come to the end of the source leaves less to read. -/
theorem length_unread_readAt_lt {scanner : Scanner} {start : Cursor}
    (h : (scanner.readAt start).1.isEnd = false) :
    (scanner.readAt start).2.cursor.unread.length < start.unread.length := by
  cases unread : start.unread with
  | nil =>
      rw [readAt_of_nil unread] at h
      exact absurd h (by simp [Reading.isEnd, Token.isEnd])
  | cons first rest =>
      have covered := Finding.width_pos first rest
      rw [readAt_of_cons unread, Finding.past_eq_advanceBy, length_unread_advanceBy, unread]
      simp only [List.length_cons] at covered ⊢
      omega

/-- A malformed run goes on only where there is something to read. -/
theorem length_unread_pos_of_malformedChar? {scanner : Scanner} {c : Char}
    (h : scanner.malformedChar? = some c) : 0 < scanner.cursor.unread.length := by
  cases unread : scanner.cursor.unread with
  | nil => simp [malformedChar?, Cursor.peek?, Cursor.peekNth?, unread] at h
  | cons first rest => simp

/-- A pull leaves less to read, or it brings the end of input. -/
theorem length_unread_pull_lt {scanner : Scanner} (h : scanner.pull.1.isEnd = false) :
    scanner.pull.2.cursor.unread.length < scanner.cursor.unread.length := by
  unfold pull at h ⊢
  cases run : scanner.malformedChar? with
  | some c =>
      have := length_unread_pos_of_malformedChar? run
      simp only [Cursor.advance, length_unread_advanceBy]
      omega
  | none =>
      simp only [run] at h ⊢
      exact Nat.lt_of_lt_of_le (length_unread_readAt_lt h)
        (length_unread_skipWhile_le isBlank scanner.cursor)

/-- A step of an iteration brings its end nearer. -/
theorem remaining_next?_lt {scanner after : Scanner} {reading : Reading}
    (h : scanner.next? = some (reading, after)) : after.remaining < scanner.remaining := by
  unfold next? at h
  cases going : scanner.finished with
  | true => simp [going] at h
  | false =>
      simp only [going, Bool.false_eq_true, if_false, Option.some.injEq, Prod.mk.injEq] at h
      obtain ⟨-, rfl⟩ := h
      cases ending : scanner.pull.1.isEnd with
      | true => simp [remaining, going]
      | false => simpa [remaining, going] using length_unread_pull_lt ending

end Scanner

end MaximalMunch
