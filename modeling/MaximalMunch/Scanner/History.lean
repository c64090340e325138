/-
Module: MaximalMunch.Scanner.History
Layer: Scanning
Purpose: The calls that lead to a state. Reachability forgets how a state came about; a history keeps it,
  as the list of all calls with the states before and after each and what each brought. Pulls and steps of
  an iteration differ in the flag of iteration only, so a history is a chain of pulls
  (`history_induction`): every call in it is a pull of the state before it, every beginning of a history is
  one (`History.call`), and a call begins where the last one ended (`History.before_succ`).
Imports: MaximalMunch.Scanner.Reachable, MaximalMunch.Scanner.Restart
Trusted boundary: human-reviewed spec
Main exports: Call, Call.Pulls, History, reachable_iff_exists_history, history_induction, History.call,
  History.before_succ, History.after_getLast?
Open obligations: none
-/
import MaximalMunch.Scanner.Reachable
import MaximalMunch.Scanner.Restart

namespace MaximalMunch

/-- A call on a scanner: the state before it, what it brought, and the state after it. -/
structure Call where
  before : Scanner
  reading : Reading
  after : Scanner
deriving DecidableEq, Repr, Inhabited

/-- The call is a pull, and perhaps marks the end of an iteration. -/
structure Call.Pulls (call : Call) : Prop where
  reading : call.reading = call.before.pull.1
  after : call.after = call.before.pull.2.withFinished call.after.finished

namespace Scanner

/-- The calls, oldest first, by which a scan of `source` came to a state. -/
inductive History (source : List Char) : List Call → Scanner → Prop where
  | start : History source [] (.ofChars source)
  | pull {calls : List Call} {scanner : Scanner} (past : History source calls scanner) :
      History source (calls ++ [⟨scanner, scanner.pull.1, scanner.pull.2⟩]) scanner.pull.2
  | next {calls : List Call} {scanner after : Scanner} {reading : Reading}
      (past : History source calls scanner) (step : scanner.next? = some (reading, after)) :
      History source (calls ++ [⟨scanner, reading, after⟩]) after

variable {source : List Char} {calls : List Call} {scanner : Scanner}

/-- A state that has a history is reachable. -/
theorem History.reachable (history : History source calls scanner) : Reachable source scanner := by
  induction history with
  | start => exact .start
  | pull _ ih => exact .pull ih
  | next _ step ih => exact .next ih step

/-- The reachable states are those that have a history. -/
theorem reachable_iff_exists_history :
    Reachable source scanner ↔ ∃ calls, History source calls scanner := by
  constructor
  · intro reachable
    induction reachable with
    | start => exact ⟨[], .start⟩
    | pull _ ih =>
        obtain ⟨calls, past⟩ := ih
        exact ⟨_, .pull past⟩
    | next _ step ih =>
        obtain ⟨calls, past⟩ := ih
        exact ⟨_, .next past step⟩
  · rintro ⟨calls, history⟩
    exact history.reachable

/-- A step of an iteration is a pull. -/
theorem pulls_of_next? {after : Scanner} {reading : Reading}
    (step : scanner.next? = some (reading, after)) : Call.Pulls ⟨scanner, reading, after⟩ := by
  unfold next? at step
  split at step
  · cases step
  · cases step
    exact ⟨rfl, rfl⟩

/-- What holds at the start, and after each pull of a state of which it holds, holds of every history. -/
theorem history_induction
    {motive : (calls : List Call) → (scanner : Scanner) → History source calls scanner → Prop}
    (start : motive [] (.ofChars source) .start)
    (call : ∀ (calls : List Call) (call : Call), (past : History source calls call.before) → call.Pulls →
      motive calls call.before past → (whole : History source (calls ++ [call]) call.after) →
        motive (calls ++ [call]) call.after whole)
    (history : History source calls scanner) : motive calls scanner history := by
  induction history with
  | start => exact start
  | pull past ih => exact call _ _ past ⟨rfl, rfl⟩ ih (.pull past)
  | next past step ih => exact call _ ⟨_, _, _⟩ past (pulls_of_next? step) ih (.next past step)

/-- Each call of a history is a pull in the middle of it. -/
theorem History.call (history : History source calls scanner) {index : Nat} {call : Call}
    (here : calls[index]? = some call) :
    call.Pulls ∧ History source (calls.take index) call.before ∧
      History source (calls.take (index + 1)) call.after := by
  induction history using history_induction with
  | start => cases here
  | call calls last past pulls ih whole =>
      rcases Nat.lt_or_ge index calls.length with inside | outside
      · rw [List.getElem?_append_left inside] at here
        rw [List.take_append_of_le_length (by omega), List.take_append_of_le_length (by omega)]
        exact ih here
      · obtain ⟨bound, -⟩ := List.getElem?_eq_some_iff.mp here
        rw [List.length_append, List.length_singleton] at bound
        have same : index = calls.length := by omega
        subst same
        rw [List.getElem?_concat_length] at here
        cases here
        rw [List.take_left, List.take_of_length_le (by simp)]
        exact ⟨pulls, past, whole⟩

/-- A history ends in the state after its last call. -/
theorem History.after_getLast? (history : History source calls scanner) {call : Call}
    (last : calls.getLast? = some call) : call.after = scanner := by
  cases history with
  | start => cases last
  | pull past =>
      rw [List.getLast?_concat] at last
      cases last
      rfl
  | next past step =>
      rw [List.getLast?_concat] at last
      cases last
      rfl

/-- A call begins in the state in which the call before it ended. -/
theorem History.before_succ (history : History source calls scanner) {index : Nat} {call later : Call}
    (here : calls[index]? = some call) (next : calls[index + 1]? = some later) :
    later.before = call.after := by
  obtain ⟨-, past, -⟩ := history.call next
  refine (past.after_getLast? ?_).symm
  obtain ⟨bound, found⟩ := List.getElem?_eq_some_iff.mp here
  rw [List.take_succ_eq_append_getElem bound, List.getLast?_concat, found]

/-- Without any call the state is that of a fresh scanner. -/
theorem History.eq_ofChars (history : History source calls scanner) (none : calls = []) :
    scanner = .ofChars source := by
  cases history with
  | start => rfl
  | pull past => simp at none
  | next past step => simp at none

/-- The first call begins in the state of a fresh scanner. -/
theorem History.before_zero (history : History source calls scanner) {call : Call}
    (first : calls[0]? = some call) : call.before = .ofChars source := by
  obtain ⟨-, past, -⟩ := history.call first
  exact past.eq_ofChars List.take_zero

/-- In every call the cursor reads from the source. -/
theorem History.readsFrom_before (history : History source calls scanner) {index : Nat} {call : Call}
    (here : calls[index]? = some call) : call.before.cursor.ReadsFrom source :=
  (history.call here).2.1.reachable.readsFrom

end Scanner

end MaximalMunch
