/-
Module: MaximalMunch.Proofs.Progress
Layer: Proofs
Purpose: Every scan comes to the end of its source and stays there. A pull brings the end of input exactly
  where only blanks are left (`isEnd_pull_iff`), and any other pull reads the stretch of what it brings,
  which is never empty (`stretch_ne_nil`). So the number of unread characters bounds the pulls that are
  needed to get to the end (`exists_isEnd_nthReading`), and an iteration brings no more readings than that
  and the end of input once, as its last (`readings_eq_concat`). Behind the end nothing changes any more:
  pulling brings the same token again and again (`nthReading_of_isEnd`). The main result,
  `scan_progresses`, says all of this of every state that a scan can be in.
Imports: MaximalMunch.Proofs.Partition, MaximalMunch.Scanner.Reachable, MaximalMunch.Scanner.Sequence
Trusted boundary: none
Main exports: Token.atEndOf, isEnd_pull_iff, pull_of_isEnd, valid_of_pull, exists_isEnd_nthReading,
  readings_eq_concat, Scanner.Progresses, scan_progresses
Open obligations: none
-/
import MaximalMunch.Proofs.Partition
import MaximalMunch.Scanner.Reachable
import MaximalMunch.Scanner.Sequence

namespace MaximalMunch

open CharClass

/-- The token of the end of input. It stands where the source ends and has no text. -/
def Token.atEndOf (source : List Char) : Token := ⟨.endOfInput, "", .after source⟩

/-- Reading what is unread leads to the end of the source. -/
theorem Cursor.ReadsFrom.advanceAll_unread {source : List Char} {cursor : Cursor}
    (reads : cursor.ReadsFrom source) : cursor.position.advanceAll cursor.unread = .after source := by
  obtain ⟨done, whole, place⟩ := reads
  rw [place, Position.advanceAll_after, ← whole]

namespace Scanner

variable {source : List Char} {scanner : Scanner}

/-!
### Which pull brings the end of input

What is found at the front of a text is never the end of input, so only a text without a front is.
-/

theorem isEnd_pull_iff (scanner : Scanner) :
    scanner.pull.1.isEnd = true ↔ scanner.OutsideRun ∧ IsBlank scanner.cursor.unread := by
  constructor
  · intro ending
    rcases scanner.outsideRun_or_exists with outside | ⟨c, rest, run, unread, word⟩
    · obtain ⟨gap, text, unread, blank, stops⟩ := exists_stop isBlank scanner.cursor.unread
      rw [pull_of_outsideRun outside unread blank stops] at ending
      cases text with
      | nil =>
          rw [List.append_nil] at unread
          rw [unread]
          exact ⟨outside, blank⟩
      | cons first text =>
          rw [readAt_of_cons rfl, isEnd_reading_of] at ending
          cases ending
    · rw [pull_of_insideRun run unread word] at ending
      cases ending
  · intro ended
    rw [pull_of_isBlank ended.1 ended.2]
    rfl

theorem isEnd_pull_of_unread_eq_nil (done : scanner.cursor.unread = []) :
    scanner.pull.1.isEnd = true := by
  apply scanner.isEnd_pull_iff.mpr
  refine ⟨outsideRun_of_unread_eq_nil done, ?_⟩
  rw [done]
  intro c member
  cases member

/-- The end of input has one token in each source, and behind it nothing is unread. -/
theorem pull_of_isEnd (reads : scanner.cursor.ReadsFrom source) (ending : scanner.pull.1.isEnd = true) :
    scanner.pull = (.token (.atEndOf source), ⟨⟨[], .after source⟩, false, scanner.finished⟩) := by
  obtain ⟨outside, blank⟩ := scanner.isEnd_pull_iff.mp ending
  rw [pull_of_isBlank outside blank, position, reads.advanceAll_unread]
  rfl

/-- Any other token is a lexeme of its kind. -/
theorem valid_of_pull {token : Token} (brings : scanner.pull.1 = .token token)
    (more : token.isEnd = false) : (Lexeme.ofToken token).Valid := by
  rcases scanner.outsideRun_or_exists with outside | ⟨c, rest, run, unread, word⟩
  · obtain ⟨gap, text, unread, blank, stops⟩ := exists_stop isBlank scanner.cursor.unread
    rw [pull_of_outsideRun outside unread blank stops] at brings
    cases text with
    | nil =>
        rw [readAt_of_nil rfl] at brings
        cases brings
        cases more
    | cons first text =>
        have fits := Finding.fits_of first text
        rw [readAt_of_cons rfl] at brings
        cases found : Finding.of first text with
        | lexeme kind body =>
            rw [found] at brings fits
            cases brings
            rw [Lexeme.Valid, Lexeme.ofToken, String.toList_ofList]
            exact fits.1
        | malformed =>
            rw [found] at brings
            cases brings
        | unexpected =>
            rw [found] at brings
            cases brings
        | unterminated =>
            rw [found] at brings
            cases brings
  · rw [pull_of_insideRun run unread word] at brings
    cases brings

/-!
### Every other pull reads something
-/

/-- What stands for a reading is not empty, except for the end of input. -/
theorem Extent.stretch_ne_nil {gap stretch rest : List Char} (extent : scanner.Extent gap stretch rest)
    (more : scanner.pull.1.isEnd = false) : stretch ≠ [] := by
  have covers := extent.covers
  intro empty
  rw [empty] at covers
  cases brings : scanner.pull.1 with
  | token token =>
      rw [brings] at covers more
      have isLexeme := (valid_of_pull brings more).written.isLexeme
      have written : (Lexeme.ofToken token).spelling = [] := covers.symm
      rw [written] at isLexeme
      exact not_isLexeme_nil isLexeme
  | error error =>
      rw [brings] at covers
      cases error <;> cases covers

/-- A pull starts at or behind the place where the scan stood, and ends behind its start. -/
theorem column_pull_lt (more : scanner.pull.1.isEnd = false) :
    scanner.position.column ≤ scanner.pull.1.position.column ∧
      scanner.pull.1.position.column < scanner.pull.2.position.column := by
  obtain ⟨gap, stretch, rest, extent⟩ := scanner.exists_extent
  have start := extent.column
  have stop : scanner.pull.2.position.column = _ := extent.column_after
  have some := List.length_pos_iff.mpr (extent.stretch_ne_nil more)
  omega

/-- By induction on the number of unread characters: each pull leaves fewer of them, or is the last. -/
theorem exists_isEnd_nthReading (scanner : Scanner) :
    ∃ n, n ≤ scanner.cursor.unread.length ∧ (scanner.nthReading n).isEnd = true := by
  induction bound : scanner.cursor.unread.length using Nat.strongRecOn generalizing scanner with
  | ind length ih =>
      subst bound
      cases ending : scanner.pull.1.isEnd with
      | true => exact ⟨0, Nat.zero_le _, ending⟩
      | false =>
          have less := length_unread_pull_lt ending
          obtain ⟨n, within, last⟩ := ih _ less scanner.pull.2 rfl
          exact ⟨n + 1, Nat.lt_of_le_of_lt within less, last⟩

/-- Behind the end of input every pull is like the one that brought it. -/
theorem nthReading_of_isEnd (reads : scanner.cursor.ReadsFrom source)
    (ending : scanner.pull.1.isEnd = true) (n : Nat) :
    scanner.nthReading n = .token (.atEndOf source) ∧
      (afterPulls (n + 1) scanner).position = .after source := by
  induction n generalizing scanner with
  | zero =>
      have pulled := pull_of_isEnd reads ending
      rw [nthReading_zero, afterPulls_succ, pulled]
      exact ⟨rfl, rfl⟩
  | succ n ih =>
      rw [nthReading_succ, afterPulls_succ]
      apply ih (readsFrom_pull reads)
      apply isEnd_pull_of_unread_eq_nil
      rw [pull_of_isEnd reads ending]

/-!
### Iteration

An iteration brings one reading for each of its pulls, and stops at the first end of input.
-/

/-- What an iteration brings is readings that are not the end of input, no more than there are unread
    characters, and the end of input. -/
theorem readings_eq_concat (going : scanner.finished = false) (reads : scanner.cursor.ReadsFrom source) :
    ∃ results, scanner.readings = results ++ [.token (.atEndOf source)] ∧
      (∀ reading ∈ results, reading.isEnd = false) ∧
      results.length ≤ scanner.cursor.unread.length := by
  refine readings_induction (motive := fun scanner readings => scanner.cursor.ReadsFrom source →
    ∃ results, readings = results ++ [.token (.atEndOf source)] ∧
      (∀ reading ∈ results, reading.isEnd = false) ∧
      results.length ≤ scanner.cursor.unread.length) ?_ ?_ scanner going reads
  · intro scanner _ ending reads
    refine ⟨[], ?_, ?_, Nat.zero_le _⟩
    · rw [pull_of_isEnd reads ending, List.nil_append]
    · intro reading member
      cases member
  · intro scanner _ more later reads
    obtain ⟨results, split, noEnd, bound⟩ := later (readsFrom_pull reads)
    refine ⟨scanner.pull.1 :: results, ?_, ?_, ?_⟩
    · rw [split, List.cons_append]
    · intro reading member
      cases member with
      | head => exact more
      | tail _ member => exact noEnd reading member
    · exact Nat.lt_of_le_of_lt bound (length_unread_pull_lt more)

/-- What it means for a state that its scan gets on. -/
structure Progresses (source : List Char) (scanner : Scanner) : Prop where
  /-- A pull reads at least one character, at or behind the start of what it brings, unless it brings the
      end of input. -/
  advances : scanner.pull.1.isEnd = false →
    scanner.pull.2.cursor.unread.length < scanner.cursor.unread.length ∧
      scanner.position.column ≤ scanner.pull.1.position.column ∧
      scanner.pull.1.position.column < scanner.pull.2.position.column
  /-- There are at most as many pulls before the one that brings the end of input as there are unread
      characters. -/
  ends : ∃ n, n ≤ scanner.cursor.unread.length ∧ (scanner.nthReading n).isEnd = true
  /-- The end of input is what its token says, and is brought only when nothing is left. -/
  exhausts : scanner.pull.1.isEnd = true →
    scanner.pull.1 = .token (.atEndOf source) ∧ scanner.pull.2.cursor.unread = []
  /-- Wherever nothing is unread, the end of input is brought and the scanner stays where it is. -/
  stays : scanner.cursor.unread = [] →
    scanner.pull.1 = .token (.atEndOf source) ∧ scanner.pull.2.position = scanner.position
  /-- After the end of input all further pulls bring it again, from the same place. -/
  repeats : scanner.pull.1.isEnd = true → ∀ n, scanner.nthReading (n + 1) = scanner.pull.1 ∧
    (afterPulls (n + 2) scanner).position = scanner.pull.2.position

theorem progresses_of_readsFrom (reads : scanner.cursor.ReadsFrom source) :
    scanner.Progresses source := by
  constructor
  case advances =>
    intro more
    exact ⟨length_unread_pull_lt more, column_pull_lt more⟩
  case ends => exact scanner.exists_isEnd_nthReading
  case exhausts =>
    intro ending
    rw [pull_of_isEnd reads ending]
    exact ⟨rfl, rfl⟩
  case stays =>
    intro done
    have place := reads.advanceAll_unread
    rw [done, Position.advanceAll_nil] at place
    rw [pull_of_isEnd reads (isEnd_pull_of_unread_eq_nil done)]
    exact ⟨rfl, place.symm⟩
  case repeats =>
    intro ending n
    rw [pull_of_isEnd reads ending]
    exact nthReading_of_isEnd reads ending (n + 1)

end Scanner

/-!
### Tokens and errors
-/

theorem Reading.length_split (readings : List Reading) :
    (split readings).1.length + (split readings).2.length = readings.length := by
  induction readings with
  | nil => rfl
  | cons reading readings ih =>
      simp only [split] at ih
      cases reading with
      | token token =>
          simp only [split, token?, error?, List.filterMap_cons, List.length_cons, ← ih]
          omega
      | error error =>
          simp only [split, token?, error?, List.filterMap_cons, List.length_cons, ← ih]
          omega

theorem Reading.isEnd_of_mem_tokens {readings : List Reading}
    (noEnd : ∀ reading ∈ readings, reading.isEnd = false) :
    ∀ token ∈ (split readings).1, token.isEnd = false := by
  intro token member
  obtain ⟨reading, inReadings, brings⟩ := List.mem_filterMap.mp member
  have notEnd := noEnd reading inReadings
  cases reading with
  | token t =>
      cases brings
      exact notEnd
  | error e => cases brings

theorem readings_eq_concat (source : List Char) :
    ∃ results, readings source = results ++ [.token (.atEndOf source)] ∧
      (∀ reading ∈ results, reading.isEnd = false) ∧ results.length ≤ source.length :=
  Scanner.readings_eq_concat rfl (Cursor.readsFrom_ofChars source)

/-- The tokens of a source end with the end of input, which is none of the others. -/
theorem tokens_eq_concat (source : String) :
    ∃ tokens, (tokenize source).1 = tokens ++ [.atEndOf source.toList] ∧
      ∀ token ∈ tokens, token.isEnd = false := by
  obtain ⟨results, split, noEnd, _⟩ := readings_eq_concat source.toList
  refine ⟨(Reading.split results).1, ?_, Reading.isEnd_of_mem_tokens noEnd⟩
  rw [tokenize, split, Reading.split, List.filterMap_append]
  rfl

/-- In every state that a scan can be in it gets on, until it has come to the end of the source, where it
    stays. An iteration from the start of the source therefore brings the end of input once, as its last
    reading, and all tokens and errors together are at most one more than the characters of the source. -/
theorem scan_progresses {source : List Char} {scanner : Scanner}
    (reachable : Scanner.Reachable source scanner) :
    scanner.Progresses source ∧
    (∃ results, readings source = results ++ [.token (.atEndOf source)] ∧
      (∀ reading ∈ results, reading.isEnd = false) ∧
      (readings source).length ≤ source.length + 1) ∧
    (∃ tokens, (tokenize (String.ofList source)).1 = tokens ++ [.atEndOf source] ∧
      (∀ token ∈ tokens, token.isEnd = false) ∧
      (tokenize (String.ofList source)).1.length + (tokenize (String.ofList source)).2.length ≤
        source.length + 1) := by
  obtain ⟨results, split, noEnd, bound⟩ := readings_eq_concat source
  have short : (readings source).length ≤ source.length + 1 := by
    rw [split, List.length_append]
    exact Nat.add_le_add_right bound 1
  obtain ⟨tokens, tokenized, noEndToken⟩ := tokens_eq_concat (String.ofList source)
  rw [String.toList_ofList] at tokenized
  refine ⟨Scanner.progresses_of_readsFrom reachable.readsFrom, ⟨results, split, noEnd, short⟩, ?_⟩
  refine ⟨tokens, tokenized, noEndToken, ?_⟩
  rw [tokenize, String.toList_ofList, Reading.length_split]
  exact short

/-- For instance after the one pull that reads all of `"a`, a string literal that is not closed. -/
theorem scan_progresses_behind_open_string :
    Scanner.Reachable ['"', 'a'] (Scanner.ofChars ['"', 'a']).pull.2 ∧
      (Scanner.ofChars ['"', 'a']).pull.2.Progresses ['"', 'a'] ∧
      (∃ results, readings ['"', 'a'] = results ++ [.token (.atEndOf ['"', 'a'])] ∧
        (∀ reading ∈ results, reading.isEnd = false) ∧
        (readings ['"', 'a']).length ≤ 3) ∧
      (∃ tokens, (tokenize (String.ofList ['"', 'a'])).1 = tokens ++ [.atEndOf ['"', 'a']] ∧
        (∀ token ∈ tokens, token.isEnd = false) ∧
        (tokenize (String.ofList ['"', 'a'])).1.length +
          (tokenize (String.ofList ['"', 'a'])).2.length ≤ 3) :=
  ⟨.pull .start, scan_progresses (.pull .start)⟩

end MaximalMunch
