/-
Module: MaximalMunch.Scanner.Sequence
Layer: Scanning
Purpose: Pulling again and again. A scanner can be pulled as often as one likes, so from each state on there
  is an endless sequence of readings, of which an iteration brings the part up to the first end of input
  (`exists_drain_eq`). Some pulls and then some more are that many pulls together (`afterPulls_add`), and the
  flag of iteration has no part in any of them (`afterPulls_withFinished`). What an iteration brings is
  determined by its first pull (`readings_eq_of_pull_eq`), and where its source begins shows in positions
  only (`nthReading_translate`, `readings_translate`).
Imports: MaximalMunch.Scanner.Reachable, MaximalMunch.Scanner.Restart, MaximalMunch.Scanner.Stream
Trusted boundary: none
Main exports: Scanner.afterPulls, nthReading, afterPulls_add, afterPulls_withFinished, next?_of_more,
  exists_drain_eq, readings_eq_of_pull_eq, nthReading_translate, readings_translate
Open obligations: none
-/
import MaximalMunch.Scanner.Reachable
import MaximalMunch.Scanner.Restart
import MaximalMunch.Scanner.Stream

namespace MaximalMunch.Scanner

/-- The scanner after a number of pulls. -/
def afterPulls : Nat → Scanner → Scanner
  | 0, scanner => scanner
  | n + 1, scanner => afterPulls n scanner.pull.2

/-- What the pull of the given number brings. The first pull is number zero. -/
def nthReading (scanner : Scanner) (n : Nat) : Reading := (afterPulls n scanner).pull.1

@[simp] theorem afterPulls_zero (scanner : Scanner) : afterPulls 0 scanner = scanner := rfl

theorem afterPulls_succ (n : Nat) (scanner : Scanner) :
    afterPulls (n + 1) scanner = afterPulls n scanner.pull.2 := rfl

@[simp] theorem nthReading_zero (scanner : Scanner) : scanner.nthReading 0 = scanner.pull.1 := rfl

theorem nthReading_succ (scanner : Scanner) (n : Nat) :
    scanner.nthReading (n + 1) = scanner.pull.2.nthReading n := rfl

/-- Pulls can be counted in two parts. -/
theorem afterPulls_add (m n : Nat) (scanner : Scanner) :
    afterPulls (m + n) scanner = afterPulls n (afterPulls m scanner) := by
  induction m generalizing scanner with
  | zero => rw [Nat.zero_add, afterPulls_zero]
  | succ m ih => rw [Nat.succ_add, afterPulls_succ, ih, afterPulls_succ]

/-- What comes after some pulls is what came later before them. -/
theorem nthReading_afterPulls (m n : Nat) (scanner : Scanner) :
    (afterPulls m scanner).nthReading n = scanner.nthReading (m + n) := by
  rw [nthReading, nthReading, afterPulls_add]

/-- The flag of iteration goes along with the pulls without having any part in them. -/
theorem afterPulls_withFinished (finished : Bool) (n : Nat) (scanner : Scanner) :
    afterPulls n (scanner.withFinished finished) = (afterPulls n scanner).withFinished finished := by
  induction n generalizing scanner with
  | zero => rfl
  | succ n ih => rw [afterPulls_succ, pull_withFinished, ih, afterPulls_succ]

/-- Whether an iteration has ended is of no consequence to pulls. -/
theorem nthReading_withFinished (finished : Bool) (n : Nat) (scanner : Scanner) :
    (scanner.withFinished finished).nthReading n = scanner.nthReading n := by
  rw [nthReading, afterPulls_withFinished, pull_withFinished, nthReading]

/-- Where the source begins shows in the positions of what all further pulls bring, and nowhere else. -/
theorem afterPulls_translate (base : Position) (n : Nat) (scanner : Scanner) :
    afterPulls n (scanner.translate base) = (afterPulls n scanner).translate base := by
  induction n generalizing scanner with
  | zero => rfl
  | succ n ih => rw [afterPulls_succ, pull_translate, ih, afterPulls_succ]

/-- A scanner that starts elsewhere brings the same, placed from there. -/
theorem nthReading_translate (base : Position) (n : Nat) (scanner : Scanner) :
    (scanner.translate base).nthReading n = (scanner.nthReading n).translate base := by
  rw [nthReading, afterPulls_translate, pull_translate, nthReading]

/-- However often one pulls, the cursor reads from the source. -/
theorem readsFrom_afterPulls {source : List Char} {scanner : Scanner}
    (reads : scanner.cursor.ReadsFrom source) (n : Nat) :
    (afterPulls n scanner).cursor.ReadsFrom source := by
  induction n generalizing scanner with
  | zero => exact reads
  | succ n ih => exact ih (readsFrom_pull reads)

/-!
### What an iteration depends on
-/

/-- What an iteration brings depends on its first pull alone. -/
theorem readings_eq_of_pull_eq {one two : Scanner} (oneGoing : one.finished = false)
    (twoGoing : two.finished = false) (same : one.pull = two.pull) : one.readings = two.readings := by
  cases ending : one.pull.1.isEnd with
  | true =>
      rw [readings_of_isEnd oneGoing ending, readings_of_isEnd twoGoing (same ▸ ending), same]
  | false =>
      rw [readings_of_not_isEnd oneGoing ending, readings_of_not_isEnd twoGoing (same ▸ ending), same]

theorem next?_of_finished {scanner : Scanner} (done : scanner.finished = true) : scanner.next? = none := by
  rw [next?, done]
  rfl

/-- A step of a going iteration is a pull that ends it with the end of input. -/
theorem next?_of_going {scanner : Scanner} (going : scanner.finished = false) :
    scanner.next? = some (scanner.pull.1, scanner.pull.2.withFinished scanner.pull.1.isEnd) := by
  rw [next?, going]
  rfl

/-- Before the end of input the flag stays as it is. -/
theorem next?_of_more {scanner : Scanner} (going : scanner.finished = false)
    (more : scanner.pull.1.isEnd = false) : scanner.next? = some (scanner.pull.1, scanner.pull.2) := by
  have same : scanner.pull.2.withFinished scanner.pull.1.isEnd = scanner.pull.2 := by
    rw [more, ← going, ← scanner.finished_pull]
    rfl
  rw [next?_of_going going, same]

/-- Draining pulls up to the first end of input, and sets the flag of iteration. By induction on the number
    of unread characters. -/
theorem exists_drain_eq (scanner : Scanner) (going : scanner.finished = false) :
    ∃ n, (scanner.nthReading n).isEnd = true ∧
      scanner.drain = ((List.range (n + 1)).map scanner.nthReading,
        (afterPulls (n + 1) scanner).withFinished true) := by
  induction bound : scanner.cursor.unread.length using Nat.strongRecOn generalizing scanner with
  | ind length ih =>
      subst bound
      cases ending : scanner.pull.1.isEnd with
      | true =>
          have step := next?_of_going going
          have done : (scanner.pull.2.withFinished true).next? = none := next?_of_finished rfl
          rw [ending] at step
          refine ⟨0, ending, ?_⟩
          rw [drain_of_next?_eq_some step, drain_of_next?_eq_none done]
          rfl
      | false =>
          have goesOn : scanner.pull.2.finished = false := by rw [finished_pull, going]
          obtain ⟨n, last, drained⟩ := ih _ (length_unread_pull_lt ending) scanner.pull.2 goesOn rfl
          refine ⟨n + 1, last, ?_⟩
          rw [drain_of_next?_eq_some (next?_of_more going ending), drained,
            List.range_succ_eq_map (n := n + 1), List.map_cons, List.map_map]
          rfl

/-- An iteration that starts elsewhere brings the same, placed from there. -/
theorem readings_translate (base : Position) (scanner : Scanner) (going : scanner.finished = false) :
    (scanner.translate base).readings = scanner.readings.map (.translate base) := by
  refine readings_induction (motive := fun scanner readings =>
    (scanner.translate base).readings = readings.map (.translate base)) ?_ ?_ scanner going
  · intro scanner going ending
    have pulled := pull_translate base scanner
    have endsToo : (scanner.translate base).pull.1.isEnd = true := by
      rw [pulled, Reading.isEnd_translate, ending]
    have alike : (scanner.translate base).finished = false := going
    rw [readings_of_isEnd alike endsToo, pulled, List.map_singleton]
  · intro scanner going more later
    have pulled := pull_translate base scanner
    have goesOn : (scanner.translate base).pull.1.isEnd = false := by
      rw [pulled, Reading.isEnd_translate, more]
    have alike : (scanner.translate base).finished = false := going
    rw [readings_of_not_isEnd alike goesOn, pulled, List.map_cons, later]

end MaximalMunch.Scanner
