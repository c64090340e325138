/-
Module: MaximalMunch.Run.Performance
Layer: Program
Purpose: What the loop of a run comes to on any host. The scanner reports each reading once, on its way out of the
  pull, so one round of the loop does the events of one reading, and all rounds do those of all readings, up to
  where the loop is left (`Host.loop_eq`); that is an induction on the readings of the iteration. Nothing of a
  later reading has happened before the last event of an earlier one, because it was not asked for. A whole run is
  the reading of the source and then the events of it (`Host.scan_eq`).
Imports: MaximalMunch.Proofs.Buffering, MaximalMunch.Run.Event, MaximalMunch.Run.Host
Trusted boundary: none
Main exports: Reading.records, Buffered.pullLogged_eq, Host.perform, Host.loop_of_going, Host.loop_eq,
  Host.scan_eq
Open obligations: none
-/
import MaximalMunch.Proofs.Buffering
import MaximalMunch.Run.Event
import MaximalMunch.Run.Host

namespace MaximalMunch

open CharClass
open CommandLine (Arguments)

/-!
### What the scanner says of a reading

However it came about, each reading is reported once, and an open string literal is the only one of which
something is said before. Only the recognizer of string literals brings that error, so nothing is left out
by the others' saying nothing.
-/

/-- What is said of a reading. -/
def Reading.records : Reading → List Log.Record
  | .token t => [.token t]
  | .error e => e.records

theorem Reading.records_eq (reading : Reading) :
    reading.records = reading.jumpRecords ++ [.ofReading reading] := by
  cases reading with
  | token t => rfl
  | error e => cases e <;> rfl

/-- Only where a mark stands is something found to be an open string literal. -/
theorem Finding.of_ne_unterminated {first : Char} (rest : List Char) (other : CharClass.of first ≠ .quote) :
    Finding.of first rest ≠ .unterminated := by
  have noInteger : Finding.ofInteger first rest ≠ .unterminated := by
    unfold Finding.ofInteger
    split <;> exact Finding.noConfusion
  have noSymbol : Finding.ofSymbol first rest ≠ .unterminated := by
    unfold Finding.ofSymbol
    split
    · exact Finding.noConfusion
    · split <;> exact Finding.noConfusion
  unfold Finding.of
  split
  · exact Finding.noConfusion
  · exact noInteger
  · split
    · exact noInteger
    · exact noSymbol
  · exact noSymbol
  · next quote => exact absurd quote other
  · exact Finding.noConfusion
  · exact Finding.noConfusion
  · exact Finding.noConfusion

theorem Finding.jumpRecords_reading {finding : Finding} (closed : finding ≠ .unterminated) (first : Char)
    (position : Position) : (finding.reading first position).jumpRecords = [] := by
  cases finding with
  | unterminated => exact absurd rfl closed
  | _ => rfl

namespace Buffered

variable {state : Buffered} {first : Char} {rest : List Char}

theorem Ready.recognizeLogged_eq (ready : state.Ready first rest) :
    state.recognizeLogged = (state.recognize.1.jumpRecords, state.recognize) := by
  by_cases quote : state.cursor.peek?.map CharClass.of = some .quote
  · exact recognizeLogged_of_quote quote
  · have current : state.cursor.peek? = some first := Cursor.peek?_eq_some_iff.mpr ⟨rest, ready.unread⟩
    have other : CharClass.of first ≠ .quote := by
      intro same
      rw [current, Option.map_some, same] at quote
      exact quote rfl
    rw [recognizeLogged_of_not_quote quote, ready.brings_recognize.reading,
      Finding.jumpRecords_reading (Finding.of_ne_unterminated rest other)]

/-- Each reading is reported once, and what is said of it is determined by what it is. -/
theorem pullLogged_eq (state : Buffered) : state.pullLogged = (state.pull.1.records, state.pull) := by
  unfold pullLogged pull
  dsimp only
  cases state.malformedChar? with
  | some c => rfl
  | none =>
      simp only [skipBlanks_eq, reported]
      cases unread : (state.cursor.skipWhile isBlank).unread with
      | nil =>
          rw [recognizeLogged_of_not_quote, recognize_of_nil unread]
          · rfl
          · rw [begin, Cursor.peek?_eq_none_iff.mpr unread]
            intro mark
            cases mark
      | cons first rest =>
          -- The buffer has been cleared and the flag taken back, so a recognizer may be called.
          have ready : Ready
              { state with
                cursor := state.cursor.skipWhile isBlank
                inMalformedRun := false
                lexeme := []
                start := (state.cursor.skipWhile isBlank).position } first rest :=
            ⟨rfl, rfl, unread⟩
          rw [begin, ready.recognizeLogged_eq, Reading.records_eq]

end Buffered

/-!
### The loop and the events

One round of the loop does the events of one reading, and behind them the loop goes on, or has come to its end.
This holds on any host, because no more is asked of it than that one thing is done after the other.
-/

/-- The log speaks first. -/
theorem Reading.events_eq (reading : Reading) :
    reading.events = reading.records.map .logged ++
      match reading with
      | .token t => [.printed t]
      | .error e => [.complained e] := by
  cases reading <;> rfl

/-- As long as an iteration goes on, each step of it is a pull and is reported. -/
theorem nextLogged?_of_going {state : Buffered} (going : state.finished = false) :
    state.nextLogged? = some (state.pull.1.records, state.pull.1,
      if state.pull.1.isEnd then { state.pull.2 with finished := true } else state.pull.2) := by
  rw [Buffered.nextLogged?, going, Buffered.pullLogged_eq]
  rfl

namespace Host

variable {m : Type → Type} [Monad m]

/-- Do what an event says. -/
def perform (host : Host m) (admits : Log.Heading → Bool) : Event → ExceptT Failure m Unit
  | .logged record => host.log admits record
  | .printed t => host.printToken t
  | .complained e => host.tell e.message

section Loop

variable {host : Host m} {admits : Log.Heading → Bool} {failFast clean : Bool}

/-- Behind the last reading the loop does nothing more. -/
theorem loop_of_finished {state : Buffered} (done : state.finished = true) :
    host.loop admits failFast clean state = pure clean := by
  have none : state.nextLogged? = none := by
    rw [Buffered.nextLogged?, done]
    rfl
  rw [loop]
  split
  · rfl
  · next some => rw [none] at some; cases some

variable [LawfulMonad m]

/-- The events of a reading are what the scanner has said of it and then what the program does with it. -/
theorem forM_events (reading : Reading) :
    forM reading.events (host.perform admits) = (do
      forM reading.records (host.log admits)
      match reading with
      | .token t => host.printToken t
      | .error e => host.tell e.message) := by
  rw [reading.events_eq, List.forM_append, List.forM_map]
  cases reading with
  | token t => simp only [List.forM_cons, List.forM_nil, perform, bind_pure_unit]
  | error e => simp only [List.forM_cons, List.forM_nil, perform, bind_pure_unit]

/-- One round of the loop. -/
theorem loop_of_going {state after : Buffered} {reading : Reading}
    (step : state.nextLogged? = some (reading.records, reading, after)) :
    host.loop admits failFast clean state = (do
      forM reading.events (host.perform admits)
      if failFast && reading.isError then pure (clean && !reading.isError)
      else host.loop admits failFast (clean && !reading.isError) after) := by
  rw [forM_events, loop]
  split
  · next none => rw [step] at none; cases none
  · next records' reading' after' same =>
      rw [step] at same
      cases same
      cases reading with
      | token t => simp [Reading.isError]
      | error e => cases failFast <;> simp [Reading.isError]

/-- The loop does the events of the readings, up to the first error if it fails fast. -/
theorem loop_eq {state : Buffered} (going : state.finished = false) :
    host.loop admits failFast clean state = (do
      forM (Event.ofReadings failFast state.toScanner.readings) (host.perform admits)
      pure (clean && !(Event.ofReadings failFast state.toScanner.readings).any Event.isComplained)) := by
  refine Scanner.readings_induction (motive := fun scanner readings => ∀ (state : Buffered) clean,
    state.toScanner = scanner →
      host.loop admits failFast clean state = (do
        forM (Event.ofReadings failFast readings) (host.perform admits)
        pure (clean && !(Event.ofReadings failFast readings).any Event.isComplained)))
    ?_ ?_ state.toScanner going state clean rfl
  -- The end of input is the only reading; behind it the iteration has ended.
  · rintro scanner going ending state clean rfl
    have last : state.pull.1.isEnd = true := by rw [state.pull_eq.1, ending]
    rw [loop_of_going (nextLogged?_of_going going), last, if_pos rfl, Event.ofReadings_cons,
      ← state.pull_eq.1]
    simp only [loop_of_finished, ite_self, Event.ofReadings_nil, List.append_nil,
      Reading.any_isComplained_events]
  -- Any other reading is followed by the rest, unless it is the error at which the loop is left.
  · rintro scanner going more later state clean rfl
    have notLast : state.pull.1.isEnd = false := by rw [state.pull_eq.1, more]
    rw [loop_of_going (nextLogged?_of_going going), notLast, if_neg Bool.false_ne_true,
      Event.ofReadings_cons, ← state.pull_eq.1]
    cases leaves : failFast && state.pull.1.isError with
    | true => simp only [if_true, Reading.any_isComplained_events]
    | false =>
        simp only [Bool.false_eq_true, if_false, later state.pull.2 _ state.pull_eq.2]
        rw [List.forM_append, List.any_append, Reading.any_isComplained_events, Bool.not_or, bind_assoc,
          Bool.and_assoc]

/-- On any host a run reads the source and then does the events of it. -/
theorem scan_eq (host : Host m) (arguments : Arguments) :
    host.scan arguments = (do
      let admits := Log.inForce (← host.setFilter?) arguments.verbose
      let source ← host.source arguments
      forM (Event.ofSource arguments source) (host.perform admits)
      pure (!(Event.ofSource arguments source).any Event.isComplained)) := by
  have whole (admits : Log.Heading → Bool) (source : String) :
      (do
        host.log admits (.scanning arguments.input source.length)
        host.loop admits arguments.failFast true (.ofChars source.toList)) = (do
      forM (Event.ofSource arguments source) (host.perform admits)
      pure (!(Event.ofSource arguments source).any Event.isComplained)) := by
    have fresh : (Buffered.ofChars source.toList).finished = false := rfl
    rw [loop_eq fresh, Event.ofSource, List.forM_cons, bind_assoc, List.any_cons]
    rfl
  simp only [scan, whole]

end Loop

end Host

end MaximalMunch
