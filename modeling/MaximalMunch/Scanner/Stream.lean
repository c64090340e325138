/-
Module: MaximalMunch.Scanner.Stream
Layer: Scanning
Purpose: The readings of a whole source. `drain` iterates a scanner until it has nothing more to bring
  and returns what it brought together with the scanner that is left. `readings` is that sequence for a
  fresh scanner, and `tokenize` takes it apart into tokens and errors. Draining collects into an array
  from the front, so that a long source needs no deep recursion; `drainOnto_eq` says that the
  collecting does not show, and `drain_of_next?_eq_some` is the equation by which one reasons: what
  comes is the next reading followed by what the scanner after it brings. Whatever is claimed of all
  readings of a source is proved by `readings_induction`, from one pull to the next.
Imports: MaximalMunch.Scanner.Basic
Trusted boundary: human-reviewed spec
Main exports: Scanner.drain, Scanner.readings, Scanner.readings_induction, readings, tokenize
Open obligations: none
-/
import MaximalMunch.Scanner.Basic

namespace MaximalMunch

namespace Scanner

/-- Iterate to the end, adding what comes to `collected`. -/
def drainOnto (collected : Array Reading) (scanner : Scanner) : Array Reading × Scanner :=
  match h : scanner.next? with
  | none => (collected, scanner)
  | some (reading, after) =>
      have : after.remaining < scanner.remaining := remaining_next?_lt h
      drainOnto (collected.push reading) after
termination_by scanner.remaining

/-- Iterate to the end. -/
def drain (scanner : Scanner) : List Reading × Scanner :=
  let (collected, after) := drainOnto #[] scanner
  (collected.toList, after)

/-- All that an iteration brings. -/
def readings (scanner : Scanner) : List Reading := scanner.drain.1

theorem drainOnto_of_next?_eq_none {scanner : Scanner} (h : scanner.next? = none)
    (collected : Array Reading) : drainOnto collected scanner = (collected, scanner) := by
  rw [drainOnto]
  split <;> simp_all

theorem drainOnto_of_next?_eq_some {scanner after : Scanner} {reading : Reading}
    (h : scanner.next? = some (reading, after)) (collected : Array Reading) :
    drainOnto collected scanner = drainOnto (collected.push reading) after := by
  rw [drainOnto]
  split <;> simp_all

/-- What was collected before stays in front and changes nothing. -/
theorem drainOnto_eq (collected : Array Reading) (scanner : Scanner) :
    drainOnto collected scanner =
      (collected ++ (drainOnto #[] scanner).1, (drainOnto #[] scanner).2) := by
  induction bound : scanner.remaining using Nat.strongRecOn generalizing collected scanner with
  | ind n ih =>
      subst bound
      cases h : scanner.next? with
      | none => simp [drainOnto_of_next?_eq_none h]
      | some step =>
          obtain ⟨reading, after⟩ := step
          have less := remaining_next?_lt h
          rw [drainOnto_of_next?_eq_some h, drainOnto_of_next?_eq_some h, ih _ less _ _ rfl,
            ih _ less (#[].push reading) _ rfl]
          simp

/-- A scanner that has nothing more to bring brings nothing. -/
theorem drain_of_next?_eq_none {scanner : Scanner} (h : scanner.next? = none) :
    scanner.drain = ([], scanner) := by
  simp [drain, drainOnto_of_next?_eq_none h]

/-- Draining brings the next reading and then what draining the scanner after it brings. -/
theorem drain_of_next?_eq_some {scanner after : Scanner} {reading : Reading}
    (h : scanner.next? = some (reading, after)) :
    scanner.drain = (reading :: after.drain.1, after.drain.2) := by
  rw [drain, drainOnto_of_next?_eq_some h, drainOnto_eq]
  simp [drain]

/-!
### The readings by pulls

An iteration that has not ended brings what pulling brings, up to the first end of input.
-/

/-- A pull ends no iteration. -/
theorem finished_pull (scanner : Scanner) : scanner.pull.2.finished = scanner.finished := by
  unfold pull
  split
  · rfl
  · unfold readAt
    split <;> rfl

/-- The end of input is the last reading of an iteration. -/
theorem readings_of_isEnd {scanner : Scanner} (going : scanner.finished = false)
    (ending : scanner.pull.1.isEnd = true) : scanner.readings = [scanner.pull.1] := by
  have step : scanner.next? = some (scanner.pull.1, { scanner.pull.2 with finished := true }) := by
    simp [next?, going, ending]
  have done : Scanner.next? { scanner.pull.2 with finished := true } = none := by simp [next?]
  rw [readings, drain_of_next?_eq_some step, drain_of_next?_eq_none done]

/-- A reading that is not the end of input is followed by what the scanner behind it brings. -/
theorem readings_of_not_isEnd {scanner : Scanner} (going : scanner.finished = false)
    (more : scanner.pull.1.isEnd = false) :
    scanner.readings = scanner.pull.1 :: scanner.pull.2.readings := by
  have same : { scanner.pull.2 with finished := false } = scanner.pull.2 := by
    rw [← going, ← finished_pull scanner]
  have step : scanner.next? = some (scanner.pull.1, scanner.pull.2) := by
    rw [next?, going, more, same]
    rfl
  rw [readings, drain_of_next?_eq_some step, readings]

/-- What holds of the end of input, and of a reading that is followed by readings of which it holds, holds
    of all that an iteration brings. -/
theorem readings_induction {motive : Scanner → List Reading → Prop}
    (last : ∀ scanner : Scanner, scanner.finished = false → scanner.pull.1.isEnd = true →
      motive scanner [scanner.pull.1])
    (more : ∀ scanner : Scanner, scanner.finished = false → scanner.pull.1.isEnd = false →
      motive scanner.pull.2 scanner.pull.2.readings →
        motive scanner (scanner.pull.1 :: scanner.pull.2.readings))
    (scanner : Scanner) (going : scanner.finished = false) : motive scanner scanner.readings := by
  induction bound : scanner.cursor.unread.length using Nat.strongRecOn generalizing scanner with
  | ind n ih =>
      subst bound
      cases ending : scanner.pull.1.isEnd with
      | true =>
          rw [readings_of_isEnd going ending]
          exact last scanner going ending
      | false =>
          rw [readings_of_not_isEnd going ending]
          have goesOn : scanner.pull.2.finished = false := by rw [finished_pull, going]
          exact more scanner going ending (ih _ (length_unread_pull_lt ending) _ goesOn rfl)

end Scanner

/-- The readings of a source, from its start to the end of input. -/
def readings (source : List Char) : List Reading := (Scanner.ofChars source).readings

/-- The tokens of a text, the end of input included, and the errors in it. -/
def tokenize (source : String) : List Token × List LexicalError :=
  Reading.split (readings source.toList)

end MaximalMunch
