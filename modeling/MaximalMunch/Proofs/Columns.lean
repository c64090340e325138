/-
Module: MaximalMunch.Proofs.Columns
Layer: Proofs
Purpose: Tokens and errors can be told apart and put together again. Each reading of a scan begins behind the
  one before it, since a pull that does not bring the end of input reads something (`increasing_readings`).
  A sequence that increases so is determined by the tokens in it and the errors in it, for merging the two by
  their columns gives it back (`merge_split`).
Imports: MaximalMunch.Proofs.Progress
Trusted boundary: none
Main exports: Increasing, increasing_readings, Reading.merge, Reading.merge_split
Open obligations: none
-/
import MaximalMunch.Proofs.Progress

namespace MaximalMunch

/-- Each reading begins behind all before it. -/
def Increasing (readings : List Reading) : Prop :=
  readings.Pairwise fun first second => first.position.column < second.position.column

/-- What an iteration brings increases, from one pull to the next. -/
theorem Scanner.increasing_readings {source : List Char} (scanner : Scanner)
    (going : scanner.finished = false) (reads : scanner.cursor.ReadsFrom source) :
    Increasing scanner.readings := by
  refine readings_induction (motive := fun scanner readings => scanner.cursor.ReadsFrom source →
    Increasing readings) ?_ ?_ scanner going reads
  · intro scanner _ _ _
    exact List.pairwise_singleton _ _
  · intro scanner going more increasing reads
    have later : Tiles source scanner.pull.2.position.column scanner.pull.2.readings :=
      tiles_readings scanner.pull.2 ((finished_pull scanner).trans going) (readsFrom_pull reads)
    apply List.Pairwise.cons
    · intro second member
      exact Nat.lt_of_lt_of_le (column_pull_lt more).2 (later.within second member).1
    · exact increasing (readsFrom_pull reads)

/-- The columns of the readings of a source increase. -/
theorem increasing_readings (source : List Char) : Increasing (readings source) :=
  Scanner.increasing_readings (.ofChars source) rfl (Cursor.readsFrom_ofChars source)

namespace Reading

/-- Whether the one reading does not begin behind the other. -/
def byColumn (first second : Reading) : Bool := first.position.column ≤ second.position.column

/-- Tokens and errors in one sequence, by their columns. -/
def merge (parts : List Token × List LexicalError) : List Reading :=
  (parts.1.map Reading.token).merge (parts.2.map Reading.error) byColumn

/-- What begins no later than all of the other sequence comes first. -/
theorem cons_merge_of_before {reading : Reading} {more others : List Reading}
    (before : ∀ other ∈ others, byColumn reading other = true) :
    (reading :: more).merge others byColumn = reading :: more.merge others byColumn := by
  cases others with
  | nil => rw [List.merge_right, List.merge_right]
  | cons other others => exact List.cons_merge_cons_pos _ _ _ (before other List.mem_cons_self)

/-- What begins before all of the other sequence comes first. -/
theorem merge_cons_of_before {reading : Reading} {more others : List Reading}
    (before : ∀ other ∈ others, ¬ byColumn other reading = true) :
    others.merge (reading :: more) byColumn = reading :: others.merge more byColumn := by
  cases others with
  | nil => rw [List.nil_merge, List.nil_merge]
  | cons other others => exact List.cons_merge_cons_neg _ _ _ (before other List.mem_cons_self)

/-- Every token that was split off is a reading. -/
theorem mem_of_mem_tokens {readings : List Reading} {other : Reading}
    (member : other ∈ (split readings).1.map Reading.token) : other ∈ readings := by
  obtain ⟨t, inTokens, rfl⟩ := List.mem_map.mp member
  obtain ⟨reading, inReadings, same⟩ := List.mem_filterMap.mp inTokens
  cases reading with
  | token t' => cases same; exact inReadings
  | error e => cases same

/-- Every error that was split off is a reading. -/
theorem mem_of_mem_errors {readings : List Reading} {other : Reading}
    (member : other ∈ (split readings).2.map Reading.error) : other ∈ readings := by
  obtain ⟨e, inErrors, rfl⟩ := List.mem_map.mp member
  obtain ⟨reading, inReadings, same⟩ := List.mem_filterMap.mp inErrors
  cases reading with
  | token t => cases same
  | error e' => cases same; exact inReadings

/-- A sequence that increases is the merger of its tokens and its errors, by induction on it: its first
    reading begins before all that is left of either. -/
theorem merge_split {readings : List Reading} (increasing : Increasing readings) :
    merge (split readings) = readings := by
  induction readings with
  | nil => exact List.nil_merge []
  | cons reading readings ih =>
      obtain ⟨first, later⟩ := List.pairwise_cons.mp increasing
      have rest := ih later
      rw [merge] at rest
      cases reading with
      | token t =>
          refine (cons_merge_of_before ?_).trans (congrArg _ rest)
          intro other member
          exact decide_eq_true (Nat.le_of_lt (first other (mem_of_mem_errors member)))
      | error e =>
          refine (merge_cons_of_before ?_).trans (congrArg _ rest)
          intro other member behind
          exact Nat.not_le_of_lt (first other (mem_of_mem_tokens member)) (of_decide_eq_true behind)

end Reading

end MaximalMunch
