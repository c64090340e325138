/-
Module: MaximalMunch.Scanner.Pull
Layer: Scanning
Purpose: What one pull brings and what it leaves, without looking into it. Outside of a malformed run the
  unread text falls apart into blanks and a text that does not begin with one, and the text alone decides
  (`pull_of_outsideRun`); inside of one the next character does (`pull_of_insideRun`). Either way the flag
  that a pull leaves tells whether it brought an error of a malformed run (`inMalformedRun_pull_iff`).
Imports: MaximalMunch.Scanner.Basic, MaximalMunch.Lexeme
Trusted boundary: human-reviewed spec
Main exports: Scanner.OutsideRun, pull_of_insideRun, pull_of_outsideRun, pull_of_isBlank,
  inMalformedRun_pull_iff
Open obligations: none
-/
import MaximalMunch.Scanner.Basic
import MaximalMunch.Lexeme

namespace MaximalMunch

open CharClass

/-!
### Where a test stops

The recognizers take characters as long as a test holds. If a text is known as a part on which the test
holds and a rest at whose front it does not, then taking stops between the two.
-/

section Stops

variable {test : Char → Bool} {part rest : List Char}

/-- What passes the test is taken. -/
theorem takeWhile_append_of_stops (all : ∀ c ∈ part, test c = true)
    (stops : rest.head?.any test = false) : (part ++ rest).takeWhile test = part := by
  rw [List.takeWhile_append_of_pos all]
  cases rest with
  | nil => simp
  | cons c rest =>
      have stops : test c = false := stops
      simp [stops]

/-- What begins where the test stops is left. -/
theorem dropWhile_append_of_stops (all : ∀ c ∈ part, test c = true)
    (stops : rest.head?.any test = false) : (part ++ rest).dropWhile test = rest := by
  rw [List.dropWhile_append_of_pos all]
  cases rest with
  | nil => rfl
  | cons c rest =>
      have stops : test c = false := stops
      simp [stops]

/-- A text has one stop. -/
theorem eq_of_append_eq_of_stops {other beyond : List Char} (all : ∀ c ∈ part, test c = true)
    (stops : rest.head?.any test = false) (otherAll : ∀ c ∈ other, test c = true)
    (otherStops : beyond.head?.any test = false) (same : part ++ rest = other ++ beyond) :
    part = other ∧ rest = beyond := by
  have taken := congrArg (List.takeWhile test) same
  have dropped := congrArg (List.dropWhile test) same
  rw [takeWhile_append_of_stops all stops, takeWhile_append_of_stops otherAll otherStops] at taken
  rw [dropWhile_append_of_stops all stops, dropWhile_append_of_stops otherAll otherStops] at dropped
  exact ⟨taken, dropped⟩

/-- Every text can be cut where a test stops. -/
theorem exists_stop (test : Char → Bool) (text : List Char) :
    ∃ part rest, text = part ++ rest ∧ (∀ c ∈ part, test c = true) ∧ rest.head?.any test = false := by
  induction text with
  | nil => exact ⟨[], [], rfl, by simp, rfl⟩
  | cons c text ih =>
      cases holds : test c with
      | false => exact ⟨[], c :: text, rfl, by simp, holds⟩
      | true =>
          obtain ⟨part, rest, rfl, all, stops⟩ := ih
          refine ⟨c :: part, rest, rfl, ?_, stops⟩
          intro d member
          rcases List.mem_cons.mp member with rfl | member
          · exact holds
          · exact all d member

end Stops

namespace Scanner

/-- No malformed run goes on here: the last reading was part of none, or no word character follows. -/
def OutsideRun (scanner : Scanner) : Prop :=
  scanner.inMalformedRun = false ∨ scanner.cursor.peek?.any isWord = false

/-- Outside of a run no character is blamed before it is looked at. -/
theorem malformedChar?_of_outsideRun {scanner : Scanner} (outside : scanner.OutsideRun) :
    scanner.malformedChar? = none := by
  unfold malformedChar?
  rcases outside with flag | stops
  · simp [flag]
  · split
    · cases current : scanner.cursor.peek? with
      | none => rfl
      | some c =>
          rw [current] at stops
          have stops : isWord c = false := stops
          simp [stops]
    · rfl

/-- A scanner is outside of a run, or in one with a word character next. -/
theorem outsideRun_or_exists (scanner : Scanner) :
    scanner.OutsideRun ∨ ∃ c rest, scanner.inMalformedRun = true ∧
      scanner.cursor.unread = c :: rest ∧ isWord c = true := by
  cases flag : scanner.inMalformedRun with
  | false => exact Or.inl (Or.inl flag)
  | true =>
      cases unread : scanner.cursor.unread with
      | nil => exact Or.inl (Or.inr (by simp [Cursor.peek?, Cursor.peekNth?, unread]))
      | cons c rest =>
          cases word : isWord c with
          | true => exact Or.inr ⟨c, rest, rfl, rfl, word⟩
          | false => exact Or.inl (Or.inr (by simp [Cursor.peek?, Cursor.peekNth?, unread, word]))

/-- Inside of a malformed run the next character is an error of its own. -/
theorem pull_of_insideRun {scanner : Scanner} {c : Char} {rest : List Char}
    (run : scanner.inMalformedRun = true) (unread : scanner.cursor.unread = c :: rest)
    (word : isWord c = true) :
    scanner.pull =
      (.error (.invalidStart c scanner.position),
        ⟨⟨rest, scanner.position.advance c⟩, true, scanner.finished⟩) := by
  have goesOn : scanner.malformedChar? = some c := by
    simp [malformedChar?, run, Cursor.peek?, Cursor.peekNth?, unread, word]
  simp [pull, goesOn, run, Cursor.advance, Cursor.advanceBy, unread, position]

/-- Outside of a malformed run a pull skips the blanks and reads what stands behind them. -/
theorem pull_of_outsideRun {scanner : Scanner} {gap text : List Char}
    (outside : scanner.OutsideRun) (unread : scanner.cursor.unread = gap ++ text)
    (blank : IsBlank gap) (stops : text.head?.any isBlank = false) :
    scanner.pull = scanner.readAt ⟨text, scanner.position.advanceAll gap⟩ := by
  have skipped : scanner.cursor.skipWhile isBlank = ⟨text, scanner.position.advanceAll gap⟩ := by
    rw [Cursor.skipWhile, unread, takeWhile_append_of_stops blank stops,
      dropWhile_append_of_stops blank stops]
    rfl
  rw [pull, malformedChar?_of_outsideRun outside, skipped]

/-- Nothing goes on where nothing is unread. -/
theorem outsideRun_of_unread_eq_nil {scanner : Scanner} (done : scanner.cursor.unread = []) :
    scanner.OutsideRun := by
  right
  simp [Cursor.peek?, Cursor.peekNth?, done]

/-- Where only blanks follow, a pull brings the end of input and stands behind them. -/
theorem pull_of_isBlank {scanner : Scanner} (outside : scanner.OutsideRun)
    (blank : IsBlank scanner.cursor.unread) :
    scanner.pull =
      (.token ⟨.endOfInput, "", scanner.position.advanceAll scanner.cursor.unread⟩,
        ⟨⟨[], scanner.position.advanceAll scanner.cursor.unread⟩, false, scanner.finished⟩) := by
  have unread : scanner.cursor.unread = scanner.cursor.unread ++ [] := (List.append_nil _).symm
  rw [pull_of_outsideRun outside unread blank rfl, readAt_of_nil rfl]

/-- The flag tells whether the pull that set it brought an error for a character of a malformed run. -/
theorem inMalformedRun_pull_iff (scanner : Scanner) :
    scanner.pull.2.inMalformedRun = true ↔
      ∃ c position, scanner.pull.1 = .error (.invalidStart c position) := by
  rcases scanner.outsideRun_or_exists with outside | ⟨c, rest, run, unread, word⟩
  · obtain ⟨gap, text, unread, blank, stops⟩ := exists_stop isBlank scanner.cursor.unread
    rw [pull_of_outsideRun outside unread blank stops]
    cases text with
    | nil => simp [readAt_of_nil]
    | cons first text =>
        rw [readAt_of_cons rfl]
        cases Finding.of first text <;> simp [Finding.isMalformed, Finding.reading]
  · rw [pull_of_insideRun run unread word]
    simp

end Scanner

end MaximalMunch
