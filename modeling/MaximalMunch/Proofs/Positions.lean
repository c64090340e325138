/-
Module: MaximalMunch.Proofs.Positions
Layer: Proofs
Purpose: Positions are true. What a position should be is said of the source alone: the line is the number of
  line feeds in front of the place, and the column in the line is how much stands between the last of them,
  or the start of the source, and the place (`Position.Counts`). A cursor that reads from a source stands at
  such a position (`ReadsFrom.counts`), and a reading begins where a cursor stood that had passed the blanks
  in front of it (`counts_pull`). Both therefore follow from the one bond between cursor and source, and
  that is kept by every move (`readsFrom_move`). The main result, `moveAll_counts`, is by induction on the
  moves.
Imports: MaximalMunch.Proofs.Partition, MaximalMunch.Scanner.Moves
Trusted boundary: none
Main exports: Position.Counts, counts_after, ReadsFrom.counts, counts_pull, Session.ReadsFrom, readsFrom_move,
  moveAll_counts
Open obligations: none
-/
import MaximalMunch.Proofs.Partition
import MaximalMunch.Scanner.Moves

namespace MaximalMunch

/-!
### What a position counts
-/

namespace Position

/-- The position is the one that counting from the start of the source gives for its column. -/
structure Counts (source : List Char) (p : Position) : Prop where
  within : p.column ≤ source.length
  line : p.line = (source.take p.column).count '\n'
  lineColumn : ∃ earlier last, source.take p.column = earlier ++ last ∧
    (earlier = [] ∨ earlier.getLast? = some '\n') ∧ '\n' ∉ last ∧ p.lineColumn = last.length

/-- Each line feed in front of the line and each character of it is one of those in front of the place. -/
theorem Counts.line_add_lineColumn_le {source : List Char} {p : Position} (counts : p.Counts source) :
    p.line + p.lineColumn ≤ p.column := by
  obtain ⟨earlier, last, split, _, noFeed, lineColumn⟩ := counts.lineColumn
  have total : p.column = earlier.length + last.length := by
    rw [← List.length_append, ← split, List.length_take_of_le counts.within]
  have line : p.line = earlier.count '\n' := by
    rw [counts.line, split, List.count_append, List.count_eq_zero_of_not_mem noFeed, Nat.add_zero]
  rw [line, lineColumn, total]
  exact Nat.add_le_add_right List.count_le_length _

/-- What a text counts is true behind it, whatever follows. -/
theorem counts_after (done rest : List Char) : (after done).Counts (done ++ rest) := by
  have read : (done ++ rest).take (after done).column = done := List.take_left
  constructor
  case within =>
    rw [List.length_append]
    exact Nat.le_add_right _ _
  case line =>
    rw [read]
    rfl
  case lineColumn =>
    obtain ⟨last, earlier, split, noFeed, stops⟩ := exists_stop (· ≠ '\n') done.reverse
    have whole : done = earlier.reverse ++ last.reverse := by
      rw [← List.reverse_append, ← split, List.reverse_reverse]
    refine ⟨earlier.reverse, last.reverse, read.trans whole, ?_, ?_, ?_⟩
    · cases earlier with
      | nil => exact Or.inl rfl
      | cons c earlier =>
          have feed : c = '\n' := by simpa using stops
          exact Or.inr (by rw [feed, List.reverse_cons, List.getLast?_concat])
    · intro member
      have feed := noFeed _ (List.mem_reverse.mp member)
      simp at feed
    · rw [after, split, takeWhile_append_of_stops noFeed stops, List.length_reverse]

end Position

/-- A cursor that reads from a source stands at a position counted in it. -/
theorem Cursor.ReadsFrom.counts {source : List Char} {cursor : Cursor} (reads : cursor.ReadsFrom source) :
    cursor.position.Counts source := by
  obtain ⟨done, whole, place⟩ := reads
  rw [place, whole]
  exact Position.counts_after done cursor.unread

/-- A cursor looks at the source from its column on. -/
theorem Cursor.ReadsFrom.peekNth?_eq {source : List Char} {cursor : Cursor}
    (reads : cursor.ReadsFrom source) (ahead : Nat) :
    cursor.peekNth? ahead = source[cursor.position.column + ahead]? := by
  rw [peekNth?, ← reads.drop_column, List.getElem?_drop]

/-- What a pull brings begins where the blanks in front of it end. -/
theorem Scanner.counts_pull {source : List Char} {scanner : Scanner}
    (reads : scanner.cursor.ReadsFrom source) : scanner.pull.1.position.Counts source := by
  obtain ⟨gap, stretch, rest, extent⟩ := scanner.exists_extent
  rw [extent.starts]
  exact (reads.step extent.unread).counts

/-- All that pulling brings is placed at positions counted in the source. -/
theorem Scanner.counts_nthReading {source : List Char} {scanner : Scanner}
    (reads : scanner.cursor.ReadsFrom source) (n : Nat) :
    (scanner.nthReading n).position.Counts source :=
  counts_pull (readsFrom_afterPulls reads n)

namespace Session

/-!
### What every move keeps

The copies that were put aside matter as well, because any of them may be taken back.
-/

/-- The scanner at work and all those put aside read from the source. -/
structure ReadsFrom (source : List Char) (session : Session) : Prop where
  current : session.scanner.cursor.ReadsFrom source
  saved : ∀ scanner ∈ session.saved, scanner.cursor.ReadsFrom source

/-- A fresh session reads from its source. -/
theorem readsFrom_ofChars (source : List Char) : (ofChars source).ReadsFrom source := by
  refine ⟨Cursor.readsFrom_ofChars source, ?_⟩
  intro scanner member
  cases member

variable {source : List Char} {session : Session}

/-- Another cursor on the source does not break the bond. -/
theorem ReadsFrom.withCursor (reads : session.ReadsFrom source) {cursor : Cursor}
    (moved : cursor.ReadsFrom source) : (session.withCursor cursor).ReadsFrom source :=
  ⟨moved, reads.saved⟩

/-- A step keeps the bond, and what it brings stands where it says. -/
theorem readsFrom_step (reads : session.ReadsFrom source) (step : Step) :
    (session.step step).2.ReadsFrom source ∧
      ∀ reading ∈ Entry.readings ⟨step, (session.step step).1⟩, reading.position.Counts source := by
  by_cases save : step = .save
  · subst save
    refine ⟨⟨reads.current, ?_⟩, fun _ member => nomatch member⟩
    intro scanner member
    rcases List.mem_cons.mp member with rfl | member
    · exact reads.current
    · exact reads.saved scanner member
  by_cases restore : step = .restore
  · subst restore
    obtain ⟨scanner, saved⟩ := session
    cases saved with
    | nil => exact ⟨reads, fun _ member => nomatch member⟩
    | cons newest older =>
        refine ⟨⟨reads.saved newest List.mem_cons_self, ?_⟩, fun _ member => nomatch member⟩
        intro scanner member
        exact reads.saved scanner (List.mem_cons_of_mem newest member)
  obtain ⟨n, brings, leaves⟩ := session.exists_step_eq save restore
  rw [leaves, brings]
  refine ⟨⟨Scanner.readsFrom_afterPulls reads.current n, reads.saved⟩, ?_⟩
  intro reading member
  obtain ⟨i, _, rfl⟩ := List.mem_map.mp member
  exact Scanner.counts_nthReading reads.current i

/-- Whatever is moved, the bond is kept and what is brought is placed in the source. -/
theorem readsFrom_move (reads : session.ReadsFrom source) (move : Move) :
    (session.move move).2.ReadsFrom source ∧
      ∀ reading ∈ (session.move move).1, reading.position.Counts source := by
  cases move with
  | ask step => exact readsFrom_step reads step
  | peek ahead => exact ⟨reads, fun _ member => nomatch member⟩
  | advance => exact ⟨reads.withCursor (reads.current.advanceBy 1), fun _ member => nomatch member⟩
  | advanceToEnd => exact ⟨reads.withCursor reads.current.advanceToEnd, fun _ member => nomatch member⟩

/-- Over all moves the bond is kept, and all that is brought is placed in the source. -/
theorem readsFrom_moveAll (reads : session.ReadsFrom source) (moves : List Move) :
    (session.moveAll moves).2.ReadsFrom source ∧
      ∀ reading ∈ (session.moveAll moves).1, reading.position.Counts source := by
  induction moves generalizing session with
  | nil => exact ⟨reads, fun _ member => nomatch member⟩
  | cons first more ih =>
      obtain ⟨after, brings⟩ := readsFrom_move reads first
      obtain ⟨last, later⟩ := ih after
      refine ⟨last, ?_⟩
      intro reading member
      rcases List.mem_append.mp member with fromFirst | fromMore
      · exact brings reading fromFirst
      · exact later reading fromMore

/-- Whatever moves have been made in a source, the cursor has read as many characters as its column says and
    looks at those behind them, its position is what they count, and so is the position of every reading
    that the moves brought. -/
theorem moveAll_counts (source : List Char) (moves : List Move) :
    ∃ readings session, (ofChars source).moveAll moves = (readings, session) ∧
      (∀ ahead, session.scanner.cursor.peekNth? ahead = source[session.scanner.position.column + ahead]?) ∧
      session.scanner.position.Counts source ∧
      session.scanner.position.line + session.scanner.position.lineColumn ≤
        session.scanner.position.column ∧
      ∀ reading ∈ readings, reading.position.Counts source ∧
        reading.position.line + reading.position.lineColumn ≤ reading.position.column := by
  obtain ⟨reads, brings⟩ := readsFrom_moveAll (readsFrom_ofChars source) moves
  have counts := reads.current.counts
  refine ⟨_, _, rfl, reads.current.peekNth?_eq, counts, counts.line_add_lineColumn_le, ?_⟩
  intro reading member
  have counts := brings reading member
  exact ⟨counts, counts.line_add_lineColumn_le⟩

end Session

end MaximalMunch
