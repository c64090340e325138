/-
Module: MaximalMunch.Scanner.Restart
Layer: Scanning
Purpose: What a pull does not depend on. A source whose beginning stands elsewhere is scanned in the same
  way, with all positions moved (`pull_translate`). The flag of iteration is neither looked at nor changed
  (`pull_withFinished`), and the flag of malformed runs only matters while word characters follow; where
  none do, blanks in front can be passed before the pull or by it (`pull_of_gap`). So a pull outside of a
  malformed run is the first pull of a scan that starts with the unread text (`pull_restarts`).
Imports: MaximalMunch.Scanner.Pull
Trusted boundary: human-reviewed spec
Main exports: Scanner.translate, pull_translate, pull_withFinished, pull_of_gap, pull_restarts
Open obligations: none
-/
import MaximalMunch.Scanner.Pull

namespace MaximalMunch.Scanner

open CharClass

/-- The same state in the scan of a source whose beginning stands at `base`. -/
def translate (base : Position) (scanner : Scanner) : Scanner :=
  { scanner with cursor := scanner.cursor.translate base }

/-- A fresh scanner that starts elsewhere is one whose cursor counts from there. -/
theorem ofChars_translate (base : Position) (source : List Char) :
    (ofChars source).translate base = ⟨⟨source, base⟩, false, false⟩ := by
  simp [translate, ofChars, Cursor.translate, Cursor.ofChars]

/-- The same state, but for the flag of iteration. -/
def withFinished (finished : Bool) (scanner : Scanner) : Scanner :=
  { scanner with finished := finished }

/-- What is brought at a cursor depends on where it counts from only in its place. -/
theorem readAt_translate (base : Position) (scanner : Scanner) (start : Cursor) :
    (scanner.translate base).readAt (start.translate base) =
      ((scanner.readAt start).1.translate base, (scanner.readAt start).2.translate base) := by
  cases unread : start.unread with
  | nil =>
      have same : (start.translate base).unread = [] := unread
      rw [readAt_of_nil same, readAt_of_nil unread]
      rfl
  | cons first rest =>
      have same : (start.translate base).unread = first :: rest := unread
      rw [readAt_of_cons same, readAt_of_cons unread, Finding.past_translate]
      refine Prod.ext ?_ rfl
      exact Finding.reading_translate base first start.position _

/-- Where the source begins shows in positions only. -/
theorem pull_translate (base : Position) (scanner : Scanner) :
    (scanner.translate base).pull = (scanner.pull.1.translate base, scanner.pull.2.translate base) := by
  have sameRun : (scanner.translate base).malformedChar? = scanner.malformedChar? := rfl
  unfold pull
  rw [sameRun]
  cases scanner.malformedChar? with
  | some c =>
      have advanced := scanner.cursor.advanceBy_translate base 1
      refine Prod.ext rfl ?_
      simp [translate, Cursor.advance, advanced]
  | none =>
      have skipped := scanner.cursor.skipWhile_translate base isBlank
      rw [← readAt_translate, ← skipped]
      rfl

/-- Whether an iteration has ended is nothing that a pull looks at. -/
theorem pull_withFinished (finished : Bool) (scanner : Scanner) :
    (scanner.withFinished finished).pull = (scanner.pull.1, scanner.pull.2.withFinished finished) := by
  have sameRun : (scanner.withFinished finished).malformedChar? = scanner.malformedChar? := rfl
  unfold pull
  rw [sameRun]
  cases scanner.malformedChar? with
  | some c => rfl
  | none =>
      have sameStart : (scanner.withFinished finished).cursor = scanner.cursor := rfl
      simp only [sameStart]
      unfold readAt
      split <;> rfl

/-- Outside of a malformed run it does not matter whether one was just read, nor how much of the blanks
    in front has been passed already. -/
theorem pull_of_gap {scanner : Scanner} {gap text : List Char} (outside : scanner.OutsideRun)
    (unread : scanner.cursor.unread = gap ++ text) (blank : IsBlank gap) :
    scanner.pull =
      Scanner.pull ⟨⟨text, scanner.position.advanceAll gap⟩, false, scanner.finished⟩ := by
  have still : OutsideRun ⟨⟨text, scanner.position.advanceAll gap⟩, false, scanner.finished⟩ :=
    Or.inl rfl
  obtain ⟨more, rest, rfl, moreBlank, stops⟩ := exists_stop isBlank text
  have bothBlank : IsBlank (gap ++ more) := by
    intro c member
    rcases List.mem_append.mp member with inGap | inMore
    · exact blank c inGap
    · exact moreBlank c inMore
  rw [← List.append_assoc] at unread
  rw [pull_of_outsideRun outside unread bothBlank stops, pull_of_outsideRun still rfl moreBlank stops,
    Position.advanceAll_append]
  cases rest with
  | nil => rfl
  | cons first rest => rfl

/-- A pull outside of a malformed run is the first pull of a scan of the unread text. -/
theorem pull_restarts {scanner : Scanner} (outside : scanner.OutsideRun) :
    scanner.pull =
      ((ofChars scanner.cursor.unread).pull.1.translate scanner.position,
        ((ofChars scanner.cursor.unread).pull.2.translate scanner.position).withFinished
          scanner.finished) := by
  have fresh : (⟨⟨scanner.cursor.unread, scanner.position⟩, false, scanner.finished⟩ : Scanner) =
      ((ofChars scanner.cursor.unread).translate scanner.position).withFinished scanner.finished := by
    rw [ofChars_translate]
    rfl
  have nothingSkipped := pull_of_gap outside (List.nil_append _).symm (by simp [IsBlank])
  rw [nothingSkipped, Position.advanceAll_nil, fresh, pull_withFinished, pull_translate]

end MaximalMunch.Scanner
