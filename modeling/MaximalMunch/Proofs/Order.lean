/-
Module: MaximalMunch.Proofs.Order
Layer: Proofs
Purpose: The order of positions is the order of columns. Positions are compared by their lines first, and
  the column in the line begins anew with every line, so of positions at large the columns tell little. For
  places of one source the two orders agree: a place further behind has no fewer line feeds in front of it,
  and two places with the same column are the same place (`compare_of_counts`). All positions that show in a
  source are such places, whatever moves are made in it. The readings of a scan increase by their columns,
  and therefore strictly in the order of positions; so do the tokens and the errors, and there is only one
  way to put the two together again by their columns (`eq_of_perm_of_increasing`). The main result is
  `readings_strictly_ordered`.
Imports: MaximalMunch.Proofs.Columns, MaximalMunch.Proofs.Positions
Trusted boundary: none
Main exports: Position.Counts.eq_after, compare_of_counts, Session.Shows, StrictlyOrdered,
  eq_of_perm_of_increasing, readings_strictly_ordered
Open obligations: none
-/
import MaximalMunch.Proofs.Columns
import MaximalMunch.Proofs.Positions

namespace MaximalMunch

namespace Position

variable {source : List Char} {p q : Position}

/-!
### Places of one source
-/

/-- A place of a source is known by its column. -/
theorem Counts.eq_after (counts : p.Counts source) : p = .after (source.take p.column) := by
  obtain ⟨earlier, last, split, begins, noFeed, lineColumn⟩ := counts.lineColumn
  have all : ∀ c ∈ last.reverse, (c ≠ '\n' : Bool) = true := by
    intro c member
    have differs : c ≠ '\n' := by
      rintro rfl
      exact noFeed (List.mem_reverse.mp member)
    simpa using differs
  have stops : earlier.reverse.head?.any (· ≠ '\n') = false := by
    rw [List.head?_reverse]
    rcases begins with rfl | feed
    · rfl
    · rw [feed]
      rfl
  have counted : p.lineColumn = (after (source.take p.column)).lineColumn := by
    rw [after, split, List.reverse_append, takeWhile_append_of_stops all stops, List.length_reverse]
    exact lineColumn
  have column : p.column = (after (source.take p.column)).column :=
    (List.length_take_of_le counts.within).symm
  cases p
  exact congr (congr (congrArg Position.mk counts.line) column) counted

/-- A place further behind has no fewer line feeds in front of it. -/
theorem Counts.line_le (before : p.Counts source) (behind : q.Counts source) (order : p.column ≤ q.column) :
    p.line ≤ q.line := by
  rw [before.line, behind.line]
  exact (List.take_prefix_take_left order).sublist.count_le '\n'

/-- Of two places in one source the one with the smaller column comes first in the order. -/
theorem Counts.lt_of_column_lt (before : p.Counts source) (behind : q.Counts source)
    (order : p.column < q.column) : p.compare q = .lt := by
  have columns : Ord.compare p.column q.column = .lt := Nat.compare_eq_lt.mpr order
  rcases Nat.lt_or_eq_of_le (before.line_le behind (Nat.le_of_lt order)) with less | same
  · rw [compare, Nat.compare_eq_lt.mpr less]
    rfl
  · rw [compare, Nat.compare_eq_eq.mpr same, columns]
    rfl

/-- The order is the same seen from either side. -/
theorem compare_swap (p q : Position) : (p.compare q).swap = q.compare p := by
  simp only [compare, Ordering.swap_then, Nat.compare_swap]

/-- Of two places of one source the columns alone decide. -/
theorem compare_of_counts (one : p.Counts source) (two : q.Counts source) :
    p.compare q = Ord.compare p.column q.column := by
  rcases Nat.lt_trichotomy p.column q.column with less | same | greater
  · rw [one.lt_of_column_lt two less, Nat.compare_eq_lt.mpr less]
  · have equal : p = q := by
      rw [one.eq_after, two.eq_after, same]
    rw [equal, compare]
    simp
  · rw [← compare_swap, two.lt_of_column_lt one greater, Nat.compare_eq_gt.mpr greater]
    rfl

end Position

/-- The position shows in the source: some moves lead to it, or bring a reading that stands there. -/
def Session.Shows (source : List Char) (p : Position) : Prop :=
  ∃ moves, ((Session.ofChars source).moveAll moves).2.scanner.position = p ∨
    ∃ reading ∈ ((Session.ofChars source).moveAll moves).1, reading.position = p

/-- What a session shows is a position counted in the source. -/
theorem Session.Shows.counts {source : List Char} {p : Position} (shows : Session.Shows source p) :
    p.Counts source := by
  obtain ⟨moves, stands⟩ := shows
  obtain ⟨reads, brings⟩ := Session.readsFrom_moveAll (Session.readsFrom_ofChars source) moves
  rcases stands with rfl | ⟨reading, member, rfl⟩
  · exact reads.current.counts
  · exact brings reading member

/-- Each position is less than all that follow it, and so are the columns. -/
structure StrictlyOrdered (positions : List Position) : Prop where
  places : positions.Pairwise (· < ·)
  columns : (positions.map Position.column).Pairwise (· < ·)

/-- Places of one source are strictly ordered if their columns are. -/
theorem strictlyOrdered_of_columns {source : List Char} {positions : List Position}
    (counts : ∀ p ∈ positions, p.Counts source)
    (columns : positions.Pairwise fun p q => p.column < q.column) : StrictlyOrdered positions := by
  constructor
  case places =>
    refine columns.imp_of_mem ?_
    intro p q inP inQ less
    exact (counts p inP).lt_of_column_lt (counts q inQ) less
  case columns => exact List.pairwise_map.mpr columns

/-!
### The readings of a source
-/

/-- Every reading of a source stands at a position counted in it. -/
theorem counts_of_mem_readings {source : List Char} {reading : Reading}
    (member : reading ∈ readings source) : reading.position.Counts source := by
  have drained := (Session.readsFrom_step (Session.readsFrom_ofChars source) .drain).2
  exact drained reading member

namespace Reading

/-- The tokens of a sequence of readings stand in it in their order. -/
theorem sublist_tokens (readings : List Reading) :
    ((split readings).1.map Reading.token).Sublist readings := by
  induction readings with
  | nil => exact .slnil
  | cons reading readings ih =>
      cases reading with
      | token t => exact ih.cons_cons (.token t)
      | error e => exact ih.cons (.error e)

/-- The errors stand in the order of the readings. -/
theorem sublist_errors (readings : List Reading) :
    ((split readings).2.map Reading.error).Sublist readings := by
  induction readings with
  | nil => exact .slnil
  | cons reading readings ih =>
      cases reading with
      | token t => exact ih.cons (.token t)
      | error e => exact ih.cons_cons (.error e)

/-- Tokens and errors together are all readings. -/
theorem perm_split {readings : List Reading} (increasing : Increasing readings) :
    readings.Perm ((split readings).1.map Reading.token ++ (split readings).2.map Reading.error) := by
  have merged : (merge (split readings)).Perm
      ((split readings).1.map Reading.token ++ (split readings).2.map Reading.error) :=
    List.merge_perm_append byColumn
  rwa [merge_split increasing] at merged

/-- In a sequence that increases no two readings have the same column. -/
theorem eq_of_column_eq {readings : List Reading} (increasing : Increasing readings) {one two : Reading}
    (inOne : one ∈ readings) (inTwo : two ∈ readings) (same : one.position.column = two.position.column) :
    one = two := by
  obtain ⟨i, inside, rfl⟩ := List.getElem_of_mem inOne
  obtain ⟨j, within, rfl⟩ := List.getElem_of_mem inTwo
  have apart := List.pairwise_iff_getElem.mp increasing
  rcases Nat.lt_trichotomy i j with before | equal | behind
  · exact absurd same (Nat.ne_of_lt (apart i j inside within before))
  · cases equal
    rfl
  · exact absurd same.symm (Nat.ne_of_lt (apart j i within inside behind))

/-- However the tokens and the errors are put together, if the columns do not decrease the sequence is the one
    that was taken apart. -/
theorem eq_of_perm_of_increasing {readings merged : List Reading} (increasing : Increasing readings)
    (parts : merged.Perm ((split readings).1.map Reading.token ++ (split readings).2.map Reading.error))
    (ordered : merged.Pairwise fun first second => first.position.column ≤ second.position.column) :
    merged = readings := by
  have same := parts.trans (perm_split increasing).symm
  refine same.eq_of_pairwise ?_ ordered (increasing.imp Nat.le_of_lt)
  intro one two inMerged inReadings low high
  exact eq_of_column_eq increasing (same.mem_iff.mp inMerged) inReadings (Nat.le_antisymm low high)

end Reading

/-- The readings of a source are strictly ordered by their positions, and for positions that show in one
    source that is the order of columns. So are the tokens, the end of input among them, and the errors, and no
    two of all of these have the same column. Merging tokens and errors by their columns gives back the
    readings, and so does any other way to put them together in which the columns do not decrease. -/
theorem readings_strictly_ordered (source : String) :
    StrictlyOrdered ((readings source.toList).map Reading.position) ∧
    (∀ p q, Session.Shows source.toList p → Session.Shows source.toList q →
      p.compare q = Ord.compare p.column q.column) ∧
    StrictlyOrdered ((tokenize source).1.map Token.position) ∧
    StrictlyOrdered ((tokenize source).2.map LexicalError.position) ∧
    ((tokenize source).1.map (·.position.column) ++ (tokenize source).2.map (·.position.column)).Nodup ∧
    Reading.merge (tokenize source) = readings source.toList ∧
    ∀ merged : List Reading,
      merged.Perm ((tokenize source).1.map Reading.token ++ (tokenize source).2.map Reading.error) →
      (merged.Pairwise fun first second => first.position.column ≤ second.position.column) →
        merged = readings source.toList := by
  have increasing := increasing_readings source.toList
  have ordered : ∀ part : List Reading, part.Sublist (readings source.toList) →
      StrictlyOrdered (part.map Reading.position) := by
    intro part sublist
    have counts : ∀ p ∈ part.map Reading.position, p.Counts source.toList := by
      intro p member
      obtain ⟨reading, inPart, rfl⟩ := List.mem_map.mp member
      exact counts_of_mem_readings (sublist.subset inPart)
    exact strictlyOrdered_of_columns counts (List.pairwise_map.mpr (increasing.sublist sublist))
  refine ⟨ordered _ (List.Sublist.refl _), ?_, ?_, ?_, ?_, Reading.merge_split increasing, ?_⟩
  · intro p q inP inQ
    exact Position.compare_of_counts inP.counts inQ.counts
  · have tokens := ordered _ (Reading.sublist_tokens _)
    rwa [List.map_map] at tokens
  · have errors := ordered _ (Reading.sublist_errors _)
    rwa [List.map_map] at errors
  · have columns := (Reading.perm_split increasing).map (·.position.column)
    rw [List.map_append, List.map_map, List.map_map] at columns
    refine columns.nodup_iff.mp ?_
    exact List.pairwise_map.mpr (increasing.imp Nat.ne_of_lt)
  · intro merged parts sorted
    exact Reading.eq_of_perm_of_increasing increasing parts sorted

end MaximalMunch
