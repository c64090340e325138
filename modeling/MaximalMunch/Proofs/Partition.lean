/-
Module: MaximalMunch.Proofs.Partition
Layer: Proofs
Purpose: Nothing of a source is lost and nothing is read twice. One pull divides the unread text into
  blanks that it skips, the stretch that its reading stands for, and the rest (`exists_extent`). Pulling to
  the end therefore tiles the source: blanks and stretches take turns from the first character to the last
  (`tiles_readings`). From the tiling one reads off that the stretches lie in order inside of the source
  and do not overlap, that what lies between them is blank, and that each of them is what its reading says
  it is (`readings_partition`).
Imports: MaximalMunch.Proofs.LongestMatch, MaximalMunch.Scanner.Stream, Mathlib.Logic.ExistsUnique
Trusted boundary: none
Main exports: Scanner.Extent, exists_extent, Tiles, tiles_readings, readings_partition
Open obligations: none
-/
import MaximalMunch.Proofs.LongestMatch
import MaximalMunch.Scanner.Stream
import Mathlib.Logic.ExistsUnique

namespace MaximalMunch

open CharClass

namespace Scanner

/-!
### The stretch that a pull covers

Two readings leave no rest behind their stretch: the end of input and an unterminated string.
-/

/-- How a pull divides the unread text. -/
structure Extent (scanner : Scanner) (gap stretch rest : List Char) : Prop where
  unread : scanner.cursor.unread = gap ++ (stretch ++ rest)
  blank : IsBlank gap
  starts : scanner.pull.1.position = scanner.position.advanceAll gap
  covers : scanner.pull.1.Covers stretch
  after : scanner.pull.2.cursor = ⟨rest, scanner.position.advanceAll (gap ++ stretch)⟩
  ends : scanner.pull.1.isEnd = true → stretch ++ rest = []
  jumps : ∀ start, scanner.pull.1 = .error (.unterminatedString start) → rest = []

/-- What is found in a text is never the end of input. -/
theorem isEnd_reading_of (first : Char) (rest : List Char) (position : Position) :
    ((Finding.of first rest).reading first position).isEnd = false := by
  have fits := Finding.fits_of first rest
  cases found : Finding.of first rest with
  | lexeme kind text =>
      rw [found] at fits
      have differs : kind ≠ .endOfInput := by
        rintro rfl
        exact fits.1
      simpa [Finding.reading, Reading.isEnd, Token.isEnd] using differs
  | malformed => rfl
  | unexpected => rfl
  | unterminated => rfl

/-- The part of the text that is found is the part that the cursor is moved over. -/
theorem exists_covers_past (first : Char) (rest : List Char) (position : Position) :
    ∃ stretch beyond, first :: rest = stretch ++ beyond ∧
      ((Finding.of first rest).reading first position).Covers stretch ∧
      (Finding.of first rest).past ⟨first :: rest, position⟩ =
        ⟨beyond, position.advanceAll stretch⟩ ∧
      (∀ start, (Finding.of first rest).reading first position =
        .error (.unterminatedString start) → beyond = []) := by
  have fits := Finding.fits_of first rest
  cases found : Finding.of first rest with
  | lexeme kind text =>
      rw [found] at fits
      obtain ⟨beyond, split⟩ := fits.2.1.2.1
      refine ⟨kind.lexeme text, beyond, split.symm, ?_, ?_, ?_⟩
      · simp [Finding.reading, Reading.Covers, Token.lexeme]
      · simp [Finding.past, Cursor.advanceBy, ← split]
      · intro start same
        cases same
  | malformed => exact ⟨[first], rest, rfl, rfl, rfl, by simp [Finding.reading]⟩
  | unexpected => exact ⟨[first], rest, rfl, rfl, rfl, by simp [Finding.reading]⟩
  | unterminated =>
      rw [found] at fits
      refine ⟨first :: rest, [], by simp, fits.2, ?_, by simp⟩
      simp [Finding.past, Cursor.advanceToEnd]

/-- Every pull takes apart what is unread: a gap, the stretch of its reading, and the rest. -/
theorem exists_extent (scanner : Scanner) :
    ∃ gap stretch rest, scanner.Extent gap stretch rest := by
  rcases scanner.outsideRun_or_exists with outside | ⟨c, rest, run, unread, word⟩
  · obtain ⟨gap, text, unread, blank, stops⟩ := exists_stop isBlank scanner.cursor.unread
    have pulled := pull_of_outsideRun outside unread blank stops
    cases text with
    | nil =>
        rw [readAt_of_nil rfl] at pulled
        refine ⟨gap, [], [], by simpa using unread, blank, ?_, ?_, ?_, ?_, ?_⟩
        all_goals simp [pulled, Reading.position, Reading.Covers, Token.lexeme, Kind.lexeme]
    | cons first text =>
        rw [readAt_of_cons rfl] at pulled
        obtain ⟨stretch, rest, split, covers, past, jumps⟩ :=
          exists_covers_past first text (scanner.position.advanceAll gap)
        refine ⟨gap, stretch, rest, by rw [unread, split], blank, ?_, ?_, ?_, ?_, ?_⟩
        · rw [pulled]
          exact Finding.position_reading _ _ _
        · rw [pulled]
          exact covers
        · rw [pulled, Position.advanceAll_append]
          exact past
        · rw [pulled, isEnd_reading_of]
          intro absurd
          cases absurd
        · rw [pulled]
          exact jumps
  · have pulled := pull_of_insideRun run unread word
    refine ⟨[], [c], rest, unread, by simp [IsBlank], ?_, ?_, ?_, ?_, ?_⟩
    all_goals
      simp [pulled, Reading.position, LexicalError.position, Reading.Covers, Reading.isEnd]

namespace Extent

variable {source : List Char} {scanner : Scanner} {gap stretch rest : List Char}

/-- A reading is placed behind the gap. -/
theorem column (extent : scanner.Extent gap stretch rest) :
    scanner.pull.1.position.column = scanner.position.column + gap.length := by
  rw [extent.starts, Position.column_advanceAll]

/-- The cursor is left behind the stretch. -/
theorem column_after (extent : scanner.Extent gap stretch rest) :
    scanner.pull.2.cursor.position.column =
      scanner.position.column + gap.length + stretch.length := by
  rw [extent.after, Position.column_advanceAll, List.length_append, Nat.add_assoc]

/-- The width of a reading is the length of its stretch. -/
theorem width (extent : scanner.Extent gap stretch rest) (reads : scanner.cursor.ReadsFrom source) :
    scanner.pull.1.width source.length = stretch.length := by
  have column := extent.column
  have covers := extent.covers
  have jumps := extent.jumps
  cases pulled : scanner.pull.1 with
  | token t =>
      rw [pulled] at covers
      exact (congrArg List.length covers).symm
  | error e =>
      rw [pulled] at covers column jumps
      cases e with
      | invalidStart => exact (congrArg List.length covers).symm
      | unexpectedCharacter => exact (congrArg List.length covers).symm
      | unterminatedString start =>
          have total := reads.column_add_length
          rw [extent.unread, jumps start rfl] at total
          simp only [List.length_append, List.length_nil] at total
          have column : start.column = scanner.cursor.position.column + gap.length := column
          rw [Reading.width]
          omega

end Extent

end Scanner

/-!
### Tilings

A tiling follows the readings: in front of each stands a gap, and the next one starts where the stretch of
the last one ended. What the main result states is read off by induction on the readings, each property in
a lemma of its own.
-/

/-- From the place `start` to its end, the source is gaps and the stretches of the readings in turn. -/
def Tiles (source : List Char) : Nat → List Reading → Prop
  | start, [] => start = source.length
  | start, reading :: later =>
      ∃ gap stretch rest, source.drop start = gap ++ (stretch ++ rest) ∧ IsBlank gap ∧
        reading.position.column = start + gap.length ∧ reading.Covers stretch ∧
        reading.width source.length = stretch.length ∧ (reading.isEnd = true → stretch = []) ∧
        Tiles source (start + gap.length + stretch.length) later

/-- A pull lays one tile. -/
theorem tiles_cons {source : List Char} {scanner : Scanner} {later : List Reading}
    (reads : scanner.cursor.ReadsFrom source)
    (tiles : Tiles source scanner.pull.2.position.column later) :
    Tiles source scanner.position.column (scanner.pull.1 :: later) := by
  obtain ⟨gap, stretch, rest, extent⟩ := scanner.exists_extent
  refine ⟨gap, stretch, rest, reads.drop_column.trans extent.unread, extent.blank, extent.column,
    extent.covers, extent.width reads, ?_, ?_⟩
  · intro ending
    exact (List.append_eq_nil_iff.mp (extent.ends ending)).1
  · rw [← extent.column_after]
    exact tiles

/-- The end of input is found when nothing is left to be read. -/
theorem column_pull_of_isEnd {source : List Char} {scanner : Scanner}
    (reads : scanner.cursor.ReadsFrom source) (ending : scanner.pull.1.isEnd = true) :
    scanner.pull.2.position.column = source.length := by
  obtain ⟨gap, stretch, rest, extent⟩ := scanner.exists_extent
  have total := (Scanner.readsFrom_pull reads).column_add_length
  rw [extent.after, (List.append_eq_nil_iff.mp (extent.ends ending)).2] at total
  rw [Scanner.position, extent.after, ← total]
  rfl

/-- The readings that an iteration brings tile the source from where the scanner stands. -/
theorem tiles_readings {source : List Char} (scanner : Scanner) (going : scanner.finished = false)
    (reads : scanner.cursor.ReadsFrom source) :
    Tiles source scanner.position.column scanner.readings := by
  refine Scanner.readings_induction
    (motive := fun scanner readings => scanner.cursor.ReadsFrom source →
      Tiles source scanner.position.column readings) ?_ ?_ scanner going reads
  · intro scanner _ ending reads
    exact tiles_cons reads (column_pull_of_isEnd reads ending)
  · intro scanner _ _ tiles reads
    exact tiles_cons reads (tiles (Scanner.readsFrom_pull reads))

namespace Tiles

variable {source : List Char} {start : Nat} {readings : List Reading}

/-- A tiling starts within the source. -/
theorem start_le_length (tiles : Tiles source start readings) : start ≤ source.length := by
  induction readings generalizing start with
  | nil => exact Nat.le_of_eq tiles
  | cons first later ih =>
      obtain ⟨gap, stretch, _, _, _, _, _, _, _, tiles⟩ := tiles
      have bound := ih tiles
      omega

/-- All stretches of a tiling lie behind its start and within the source. -/
theorem within (tiles : Tiles source start readings) :
    ∀ reading ∈ readings, start ≤ reading.position.column ∧
      reading.position.column + reading.width source.length ≤ source.length := by
  induction readings generalizing start with
  | nil => simp
  | cons first later ih =>
      obtain ⟨gap, stretch, _, _, _, column, _, width, _, tiles⟩ := tiles
      intro reading member
      rcases List.mem_cons.mp member with rfl | member
      · have bound := tiles.start_le_length
        omega
      · obtain ⟨low, high⟩ := ih tiles reading member
        exact ⟨by omega, high⟩

/-- Of two stretches the first ends before the second begins. -/
theorem ordered (tiles : Tiles source start readings) :
    readings.Pairwise fun first second =>
      first.position.column + first.width source.length ≤ second.position.column := by
  induction readings generalizing start with
  | nil => exact .nil
  | cons first later ih =>
      obtain ⟨gap, stretch, _, _, _, column, _, width, _, tiles⟩ := tiles
      refine .cons ?_ (ih tiles)
      intro second member
      have low := (tiles.within second member).1
      omega

/-- The end of input takes no width. -/
theorem width_of_isEnd (tiles : Tiles source start readings) :
    ∀ reading ∈ readings, reading.isEnd = true → reading.width source.length = 0 := by
  induction readings generalizing start with
  | nil => simp
  | cons first later ih =>
      obtain ⟨gap, stretch, _, _, _, _, _, width, ends, tiles⟩ := tiles
      intro reading member isEnd
      rcases List.mem_cons.mp member with rfl | member
      · rw [width, ends isEnd]
        rfl
      · exact ih tiles reading member isEnd

/-- What stands in the source at the stretch of a reading is what the reading covers. -/
theorem covers_slice (tiles : Tiles source start readings) :
    ∀ reading ∈ readings, reading.Covers
      ((source.drop reading.position.column).take (reading.width source.length)) := by
  induction readings generalizing start with
  | nil => simp
  | cons first later ih =>
      obtain ⟨gap, stretch, rest, split, _, column, covers, width, _, tiles⟩ := tiles
      intro reading member
      rcases List.mem_cons.mp member with rfl | member
      · have slice : (source.drop reading.position.column).take (reading.width source.length) =
            stretch := by
          rw [column, ← List.drop_drop, split, List.drop_left, width, List.take_left]
        rw [slice]
        exact covers
      · exact ih tiles reading member

/-- A character in no stretch stands in a gap, and is blank. -/
theorem isBlank_of_forall_not_spans (tiles : Tiles source start readings) {place : Nat} {c : Char}
    (behind : start ≤ place) (here : source[place]? = some c)
    (outside : ∀ reading ∈ readings, ¬ reading.Spans source.length place) : isBlank c = true := by
  induction readings generalizing start with
  | nil =>
      obtain ⟨bound, _⟩ := List.getElem?_eq_some_iff.mp here
      have passed : start = source.length := tiles
      omega
  | cons first later ih =>
      obtain ⟨gap, stretch, rest, split, blank, column, _, width, _, tiles⟩ := tiles
      by_cases inGap : place < start + gap.length
      · have found : gap[place - start]? = some c := by
          have shifted : (source.drop start)[place - start]? = some c := by
            rw [List.getElem?_drop, ← here]
            congr 1
            omega
          rw [split, List.getElem?_append_left (by omega)] at shifted
          exact shifted
        exact blank c (List.mem_of_getElem? found)
      · have apart : ¬ first.Spans source.length place := outside first List.mem_cons_self
        rw [Reading.Spans, column, width] at apart
        exact ih tiles (by omega) fun reading member =>
          outside reading (List.mem_cons_of_mem first member)

/-- No place lies in the stretches of two readings. -/
theorem eq_of_spans (tiles : Tiles source start readings) {place one two : Nat}
    {first second : Reading} (atOne : readings[one]? = some first)
    (atTwo : readings[two]? = some second) (inFirst : first.Spans source.length place)
    (inSecond : second.Spans source.length place) : one = two := by
  obtain ⟨oneBound, rfl⟩ := List.getElem?_eq_some_iff.mp atOne
  obtain ⟨twoBound, rfl⟩ := List.getElem?_eq_some_iff.mp atTwo
  have apart := List.pairwise_iff_getElem.mp tiles.ordered
  unfold Reading.Spans at inFirst inSecond
  rcases Nat.lt_trichotomy one two with before | same | behind
  · have := apart one two oneBound twoBound before
    omega
  · exact same
  · have := apart two one twoBound oneBound behind
    omega

end Tiles

/-- The readings of a source tile all of it. -/
theorem readings_tiles (source : List Char) : Tiles source 0 (readings source) :=
  tiles_readings (.ofChars source) rfl (Cursor.readsFrom_ofChars source)

/-- The readings of a source partition it. They lie inside of it, in order and without overlap, and the
    end of input covers nothing; between them there is nothing but blanks; what each covers is the lexeme
    of its token, the character of its error, or begins with the mark of its string literal; and every
    character is covered by exactly one reading, or is a blank that none covers. -/
theorem readings_partition (source : List Char) :
    (∀ reading ∈ readings source,
      reading.position.column + reading.width source.length ≤ source.length ∧
        (reading.isEnd = true → reading.width source.length = 0)) ∧
    ((readings source).Pairwise fun first second =>
      first.position.column + first.width source.length ≤ second.position.column) ∧
    (∀ place c, source[place]? = some c →
      (∀ reading ∈ readings source, ¬ reading.Spans source.length place) → isBlank c = true) ∧
    (∀ reading ∈ readings source, reading.Covers
      ((source.drop reading.position.column).take (reading.width source.length))) ∧
    (∀ place c, source[place]? = some c →
      (∃! index : Nat, ∃ reading : Reading, (readings source)[index]? = some reading ∧
        reading.Spans source.length place) ∨
      (∀ reading ∈ readings source, ¬ reading.Spans source.length place) ∧ isBlank c = true) := by
  have tiles := readings_tiles source
  refine ⟨fun reading member =>
      ⟨(tiles.within reading member).2, tiles.width_of_isEnd reading member⟩,
    tiles.ordered, ?_, tiles.covers_slice, ?_⟩
  · intro place c here outside
    exact tiles.isBlank_of_forall_not_spans (Nat.zero_le place) here outside
  · intro place c here
    by_cases covered : ∃ reading ∈ readings source, reading.Spans source.length place
    · left
      obtain ⟨reading, member, spans⟩ := covered
      obtain ⟨index, atIndex⟩ := List.mem_iff_getElem?.mp member
      refine ⟨index, ⟨reading, atIndex, spans⟩, ?_⟩
      rintro other ⟨second, atOther, secondSpans⟩
      exact tiles.eq_of_spans atOther atIndex secondSpans spans
    · right
      have outside : ∀ reading ∈ readings source, ¬ reading.Spans source.length place :=
        fun reading member spans => covered ⟨reading, member, spans⟩
      exact ⟨outside, tiles.isBlank_of_forall_not_spans (Nat.zero_le place) here outside⟩

end MaximalMunch
