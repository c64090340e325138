/-
Module: MaximalMunch.Scanner.Past
Layer: Scanning
Purpose: What has happened to the scanner at work in a session. Each step of a script is entered with what it
  brought. Putting a copy aside keeps the entries that led to it, and taking the newest copy back makes them
  the past again, so whatever was done in between belongs to a scanner that is gone. What was done is a list
  of entries, oldest first; what it brought, and whether it ended the iteration, is read off that list alone
  and not off any scanner. Scripts grow at their end: `run_concat`, `after_concat` and `past_concat` say what
  one more step adds. A step that is not about copies is some number of pulls (`exists_step_eq`).
Imports: MaximalMunch.Scanner.Sequence, MaximalMunch.Scanner.Session
Trusted boundary: human-reviewed spec
Main exports: Session.Entry, Session.Entry.endsIteration, Session.Past, Session.past, Session.after,
  Session.brought, Session.ended, run_concat, past_concat, exists_step_eq, exists_readings_eq
Open obligations: none
-/
import MaximalMunch.Scanner.Sequence
import MaximalMunch.Scanner.Session

namespace MaximalMunch.Session

/-- A step that was taken, and what it brought. -/
structure Entry where
  step : Step
  outcome : Outcome
deriving DecidableEq, Repr, Inhabited

namespace Entry

/-- The readings that the step brought. Where the iteration had ended before, there are none. -/
def readings (entry : Entry) : List Reading :=
  match entry.outcome with
  | .reading reading => [reading]
  | .readings readings => readings
  | _ => []

/-- Whether the step ended the iteration. A pull never does, whatever it brings. -/
def endsIteration (entry : Entry) : Bool :=
  (entry.step = .next || entry.step = .drain) && entry.readings.any Reading.isEnd

end Entry

/-- All readings that a past brought, in order. -/
def brought (entries : List Entry) : List Reading := entries.flatMap Entry.readings

/-- Whether the iteration ended in a past. -/
def ended (entries : List Entry) : Bool := entries.any Entry.endsIteration

/-- What was done to the scanner at work, and to those put aside before that, the newest first. -/
structure Past where
  current : List Entry
  saved : List (List Entry)
deriving DecidableEq, Repr, Inhabited

namespace Past

/-- Before the first step. -/
def start : Past := ⟨[], []⟩

/-- Enter a step. Taking a copy back goes back to the past of that copy, if there is one. -/
def record (past : Past) (entry : Entry) : Past :=
  match entry.step with
  | .save => { past with saved := past.current :: past.saved }
  | .restore =>
      match past.saved with
      | [] => past
      | newest :: older => ⟨newest, older⟩
  | _ => { past with current := past.current ++ [entry] }

end Past

/-- The session that a script leaves. -/
def after (session : Session) (script : List Step) : Session := (session.run script).2

/-- The steps of a script with what each brought. -/
def entries (session : Session) (script : List Step) : List Entry :=
  List.zipWith Entry.mk script ((session.run script).1.map Prod.fst)

/-- The past of a session behind a script. -/
def past (session : Session) (script : List Step) : Past :=
  (session.entries script).foldl Past.record .start

theorem run_cons (session : Session) (first : Step) (more : List Step) :
    session.run (first :: more) =
      (((session.step first).1, (session.step first).2.scanner.position) ::
        ((session.step first).2.run more).1, ((session.step first).2.run more).2) := rfl

/-- Every step of a script has one answer. -/
theorem length_run (session : Session) (script : List Step) :
    (session.run script).1.length = script.length := by
  induction script generalizing session with
  | nil => rfl
  | cons first more ih => rw [run_cons, List.length_cons, List.length_cons, ih]

/-- One more step adds its outcome, and the position of the scanner that it leaves. -/
theorem run_concat (session : Session) (script : List Step) (step : Step) :
    session.run (script ++ [step]) =
      ((session.run script).1 ++
        [(((session.after script).step step).1, ((session.after script).step step).2.scanner.position)],
        ((session.after script).step step).2) := by
  induction script generalizing session with
  | nil => rfl
  | cons first more ih =>
      rw [List.cons_append, run_cons, ih]
      rfl

/-- The session after one step more is the one that the step leaves. -/
theorem after_concat (session : Session) (script : List Step) (step : Step) :
    session.after (script ++ [step]) = ((session.after script).step step).2 := by
  rw [after, run_concat]

/-- One step more adds one entry to what has happened. -/
theorem entries_concat (session : Session) (script : List Step) (step : Step) :
    session.entries (script ++ [step]) =
      session.entries script ++ [⟨step, ((session.after script).step step).1⟩] := by
  have alike : script.length = ((session.run script).1.map Prod.fst).length := by
    rw [List.length_map, length_run]
  rw [entries, run_concat, List.map_append, List.zipWith_append alike, entries]
  rfl

/-- One step more is recorded in the past that there is. -/
theorem past_concat (session : Session) (script : List Step) (step : Step) :
    session.past (script ++ [step]) =
      (session.past script).record ⟨step, ((session.after script).step step).1⟩ := by
  rw [past, entries_concat, List.foldl_append]
  rfl

/-- What has been brought is said entry by entry. -/
@[simp] theorem brought_concat (entries : List Entry) (entry : Entry) :
    brought (entries ++ [entry]) = brought entries ++ entry.readings := by
  simp [brought]

/-- An iteration has ended if one of the entries ended it. -/
@[simp] theorem ended_concat (entries : List Entry) (entry : Entry) :
    ended (entries ++ [entry]) = (ended entries || entry.endsIteration) := by
  simp [ended]

/-!
### What a step reads

Each step that is not about copies reads the next elements of what pulling would bring: a pull one, a step
of a going iteration one, a drain of it all up to the end of input, and everything else none.
-/

/-- The session whose scanner has been pulled `n` times, with the iteration ended if that `ends` it. -/
def pulled (n : Nat) (ends : Bool) (session : Session) : Session :=
  { session with
    scanner := (Scanner.afterPulls n session.scanner).withFinished (session.scanner.finished || ends) }

theorem pulled_zero_false (session : Session) : session.pulled 0 false = session := by
  rw [pulled, Bool.or_false]
  rfl

/-- An iteration that has ended brings nothing more and stays as it is. -/
theorem step_next_of_finished {session : Session} (done : session.scanner.finished = true) :
    session.step .next = (.exhausted, session) := by
  simp only [step, Scanner.next?_of_finished done]

/-- An iteration that goes on brings what a pull brings, and the end of input ends it. -/
theorem step_next_of_going {session : Session} (going : session.scanner.finished = false) :
    session.step .next = (.reading session.scanner.pull.1, session.pulled 1 session.scanner.pull.1.isEnd) := by
  simp only [step, Scanner.next?_of_going going, pulled, going, Bool.false_or]
  rfl

/-- A pull ends no iteration. -/
theorem step_pull (session : Session) :
    session.step .pull = (.reading session.scanner.pull.1, session.pulled 1 false) := by
  have flag := session.scanner.finished_pull
  rw [pulled, Bool.or_false, ← flag]
  rfl

/-- Draining an iteration that has ended brings nothing. -/
theorem step_drain_of_finished {session : Session} (done : session.scanner.finished = true) :
    session.step .drain = (.readings [], session) := by
  simp only [step, Scanner.drain_of_next?_eq_none (Scanner.next?_of_finished done)]

/-- Draining an iteration that goes on brings all readings up to the end of input. -/
theorem exists_step_drain_of_going {session : Session} (going : session.scanner.finished = false) :
    ∃ n, (session.scanner.nthReading n).isEnd = true ∧
      session.step .drain =
        (.readings ((List.range (n + 1)).map session.scanner.nthReading), session.pulled (n + 1) true) := by
  obtain ⟨n, ending, drained⟩ := session.scanner.exists_drain_eq going
  refine ⟨n, ending, ?_⟩
  simp only [step, drained, pulled, Bool.or_true]

/-- A step that takes or puts back no copy pulls the scanner a number of times, and brings what comes. -/
theorem exists_step_eq (session : Session) {step : Step} (noSave : step ≠ .save)
    (noRestore : step ≠ .restore) :
    ∃ n, Entry.readings ⟨step, (session.step step).1⟩ = (List.range n).map session.scanner.nthReading ∧
      (session.step step).2 = session.pulled n (Entry.endsIteration ⟨step, (session.step step).1⟩) := by
  cases step with
  | pull =>
      rw [step_pull]
      exact ⟨1, rfl, rfl⟩
  | next =>
      cases going : session.scanner.finished with
      | true =>
          rw [step_next_of_finished going]
          exact ⟨0, rfl, session.pulled_zero_false.symm⟩
      | false =>
          rw [step_next_of_going going]
          refine ⟨1, rfl, ?_⟩
          simp [Entry.endsIteration, Entry.readings]
  | drain =>
      cases going : session.scanner.finished with
      | true =>
          rw [step_drain_of_finished going]
          exact ⟨0, rfl, session.pulled_zero_false.symm⟩
      | false =>
          obtain ⟨n, ending, drained⟩ := exists_step_drain_of_going going
          rw [drained]
          refine ⟨n + 1, rfl, ?_⟩
          have ends : ((List.range (n + 1)).map session.scanner.nthReading).any Reading.isEnd = true :=
            List.any_eq_true.mpr ⟨_, List.mem_map_of_mem List.self_mem_range_succ, ending⟩
          simp only [Entry.endsIteration, Entry.readings, ends, decide_true, Bool.or_true, Bool.and_true]
  | position => exact ⟨0, rfl, session.pulled_zero_false.symm⟩
  | save => exact absurd rfl noSave
  | restore => exact absurd rfl noRestore

/-- What a step brings comes from pulling the scanner, whatever the step is. -/
theorem exists_readings_eq (session : Session) (step : Step) :
    ∃ n, Entry.readings ⟨step, (session.step step).1⟩ = (List.range n).map session.scanner.nthReading := by
  by_cases save : step = .save
  · subst save
    exact ⟨0, rfl⟩
  by_cases restore : step = .restore
  · subst restore
    obtain ⟨scanner, saved⟩ := session
    cases saved <;> exact ⟨0, rfl⟩
  obtain ⟨n, brings, _⟩ := session.exists_step_eq save restore
  exact ⟨n, brings⟩

end MaximalMunch.Session
