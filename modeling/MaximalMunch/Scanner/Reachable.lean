/-
Module: MaximalMunch.Scanner.Reachable
Layer: Scanning
Purpose: The states that a scan of a source can be in. A state is reachable if pulls and steps of an
  iteration lead to it, in any mixture, from the scanner at the start of the source. The main statement is
  that the cursor of a reachable state reads from the source (`Reachable.readsFrom`): what it has read and
  what it has not are the source, and its position is what the part read counts. Everything that is said
  about positions follows from this one bond.
Imports: MaximalMunch.Scanner.Basic
Trusted boundary: none
Main exports: Scanner.Reachable, Reachable.readsFrom
Open obligations: none
-/
import MaximalMunch.Scanner.Basic

namespace MaximalMunch.Scanner

/-- The states in which a scan of `source` can be. -/
inductive Reachable (source : List Char) : Scanner → Prop where
  | start : Reachable source (.ofChars source)
  | pull {scanner : Scanner} (before : Reachable source scanner) : Reachable source scanner.pull.2
  | next {scanner after : Scanner} {reading : Reading} (before : Reachable source scanner)
      (step : scanner.next? = some (reading, after)) : Reachable source after

/-- A finding moves the cursor over a part of what is unread. -/
theorem readsFrom_past {source : List Char} {cursor : Cursor} (h : cursor.ReadsFrom source)
    (finding : Finding) : (finding.past cursor).ReadsFrom source := by
  rw [Finding.past_eq_advanceBy]
  exact h.advanceBy _

/-- A pull moves the cursor over a part of what is unread. -/
theorem readsFrom_pull {source : List Char} {scanner : Scanner}
    (h : scanner.cursor.ReadsFrom source) : scanner.pull.2.cursor.ReadsFrom source := by
  unfold pull
  cases scanner.malformedChar? with
  | some c => exact h.advanceBy 1
  | none =>
      have skipped := h.skipWhile CharClass.isBlank
      cases unread : (scanner.cursor.skipWhile CharClass.isBlank).unread with
      | nil => simpa [readAt_of_nil unread] using skipped
      | cons first rest => simpa [readAt_of_cons unread] using readsFrom_past skipped _

/-- The cursor of a reachable state reads from the source. -/
theorem Reachable.readsFrom {source : List Char} {scanner : Scanner}
    (h : Reachable source scanner) : scanner.cursor.ReadsFrom source := by
  induction h with
  | start => exact Cursor.readsFrom_ofChars source
  | pull _ ih => exact readsFrom_pull ih
  | next _ step ih =>
      unfold next? at step
      split at step
      · cases step
      · cases step
        exact readsFrom_pull ih

end MaximalMunch.Scanner
