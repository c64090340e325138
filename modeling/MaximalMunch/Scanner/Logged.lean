/-
Module: MaximalMunch.Scanner.Logged
Layer: Scanning
Purpose: The scanner together with what it says while it works. It speaks in two places. Where a string
  literal turns out to be open, it says so before it passes over the rest; and each result, whichever way it
  came about, is reported on the way out of the pull. Here the recognizers are those of the scanner that goes
  character by character, and what was said comes in front of what they bring. Saying something changes
  nothing else (`snd_pullLogged`, `nextLogged?_eq`).
Imports: MaximalMunch.Log.Record, MaximalMunch.Scanner.Buffered
Trusted boundary: human-reviewed spec
Main exports: Log.Record.ofReading, Reading.jumpRecords, Buffered.bodyLogged, recognizeLogged, pullLogged,
  nextLogged?, bodyLogged_eq, snd_pullLogged, nextLogged?_eq
Open obligations: none
-/
import MaximalMunch.Log.Record
import MaximalMunch.Scanner.Buffered

namespace MaximalMunch

open CharClass

/-- The record that reports a result. -/
def Log.Record.ofReading : Reading → Log.Record
  | .token t => .token t
  | .error e => .lexicalError e

/-- What is said in the middle of a reading: that the rest of the source is passed over. -/
def Reading.jumpRecords : Reading → List Log.Record
  | .error (.unterminatedString opening) => [.skippedToEnd opening]
  | _ => []

namespace Buffered

/-- A string literal that is not closed. That the rest is passed over is said first. -/
def unterminatedLogged (state : Buffered) : List Log.Record × Reading × Buffered :=
  ([.skippedToEnd state.start], state.unterminated)

/-- What follows the opening mark of a string literal. -/
def bodyLogged (state : Buffered) : List Log.Record × Reading × Buffered :=
  match current : state.cursor.peek? with
  | none => state.unterminatedLogged
  | some c =>
      have := length_unread_bump_lt current
      if c = '"' then ([], state.skip.token .string)
      else if c = '\n' then state.unterminatedLogged
      else if c = '\\' then
        match escaped : state.bump.2.cursor.peek? with
        | none => state.bump.2.unterminatedLogged
        | some _ =>
            have := length_unread_bump_lt escaped
            bodyLogged state.bump.2.bump.2
      else bodyLogged state.bump.2
termination_by state.cursor.unread.length

/-- A string literal. -/
def stringLogged (state : Buffered) : List Log.Record × Reading × Buffered := state.skip.bodyLogged

/-- The reading that begins at the current character. Of the recognizers only the one of string literals
    says anything. -/
def recognizeLogged (state : Buffered) : List Log.Record × Reading × Buffered :=
  match state.cursor.peek?.map CharClass.of with
  | some .quote => state.stringLogged
  | _ => ([], state.recognize)

/-- Report a result. -/
def reported (result : List Log.Record × Reading × Buffered) : List Log.Record × Reading × Buffered :=
  (result.1 ++ [.ofReading result.2.1], result.2)

/-- The next reading. -/
def pullLogged (state : Buffered) : List Log.Record × Reading × Buffered :=
  let cleared : Buffered := { state with lexeme := [] }
  match cleared.malformedChar? with
  | some c => reported ([], cleared.begin.invalidStart c)
  | none => reported ({ cleared with inMalformedRun := false } : Buffered).skipBlanks.begin.recognizeLogged

/-- The next reading of an iteration. -/
def nextLogged? (state : Buffered) : Option (List Log.Record × Reading × Buffered) :=
  if state.finished then none
  else
    let (records, reading, after) := state.pullLogged
    some (records, reading, if reading.isEnd then { after with finished := true } else after)

/-!
### Saying something changes nothing else

Inside of a string literal something is said on the way to one of the three exits at which it turns out to
be open, and those are the exits with that error.
-/

/-- Of a string literal it is said that the rest is passed over exactly if it is open. -/
theorem bodyLogged_eq (state : Buffered) : state.bodyLogged = (state.body.1.jumpRecords, state.body) := by
  fun_induction bodyLogged state with
  | case1 state current =>
      rw [body_of_nil (Cursor.peek?_eq_none_iff.mp current)]
      rfl
  | case2 state current =>
      obtain ⟨rest, unread⟩ := Cursor.peek?_eq_some_iff.mp current
      rw [body_of_cons unread, if_pos rfl]
      rfl
  | case3 state current =>
      obtain ⟨rest, unread⟩ := Cursor.peek?_eq_some_iff.mp current
      rw [body_of_cons unread]
      rfl
  | case4 state ends current _ mark feed =>
      obtain ⟨rest, unread⟩ := Cursor.peek?_eq_some_iff.mp current
      have nothing : rest = [] := by
        rw [bump_of_unread unread] at ends
        exact Cursor.peek?_eq_none_iff.mp ends
      rw [body_of_cons unread, if_neg mark, if_neg feed, if_pos rfl, if_pos nothing]
      rfl
  | case5 state second escaped _ current _ mark feed ih =>
      obtain ⟨rest, unread⟩ := Cursor.peek?_eq_some_iff.mp current
      have something : rest ≠ [] := by
        rw [bump_of_unread unread] at escaped
        obtain ⟨beyond, same⟩ := Cursor.peek?_eq_some_iff.mp escaped
        intro nothing
        cases nothing.symm.trans same
      rw [body_of_cons unread, if_neg mark, if_neg feed, if_pos rfl, if_neg something, ih]
  | case6 state c current _ mark feed slash ih =>
      obtain ⟨rest, unread⟩ := Cursor.peek?_eq_some_iff.mp current
      rw [body_of_cons unread, if_neg mark, if_neg feed, if_neg slash, ih]

/-- Where a mark stands the recognizer of string literals speaks. -/
theorem recognizeLogged_of_quote {state : Buffered} (quote : state.cursor.peek?.map CharClass.of = some .quote) :
    state.recognizeLogged = (state.recognize.1.jumpRecords, state.recognize) := by
  obtain ⟨c, current, kind⟩ := Option.map_eq_some_iff.mp quote
  have string : state.recognize = state.string := by
    rw [recognize, current]
    simp only [kind]
  rw [recognizeLogged, quote, string, Buffered.string, ← bodyLogged_eq]
  rfl

/-- Elsewhere the recognizers are silent. -/
theorem recognizeLogged_of_not_quote {state : Buffered}
    (other : state.cursor.peek?.map CharClass.of ≠ some .quote) :
    state.recognizeLogged = ([], state.recognize) := by
  rw [recognizeLogged]
  split
  · next quote => exact absurd quote other
  · rfl

theorem snd_recognizeLogged (state : Buffered) : state.recognizeLogged.2 = state.recognize := by
  by_cases quote : state.cursor.peek?.map CharClass.of = some .quote
  · rw [recognizeLogged_of_quote quote]
  · rw [recognizeLogged_of_not_quote quote]

/-- A pull that says what it does is a pull. -/
theorem snd_pullLogged (state : Buffered) : state.pullLogged.2 = state.pull := by
  unfold pullLogged pull
  dsimp only
  cases state.malformedChar? with
  | some c => rfl
  | none => exact snd_recognizeLogged _

/-- An iteration that says what it does is an iteration. -/
theorem nextLogged?_eq (state : Buffered) :
    state.nextLogged? = state.next?.map fun step => (state.pullLogged.1, step) := by
  unfold nextLogged? next?
  rw [← snd_pullLogged]
  split <;> rfl

end Buffered

end MaximalMunch
