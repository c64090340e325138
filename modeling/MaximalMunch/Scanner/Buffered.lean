/-
Module: MaximalMunch.Scanner.Buffered
Layer: Scanning
Purpose: The scanner character by character. This one takes each character of a lexeme off the cursor by
  itself and collects it in a buffer, from which a token then gets its text, and it notes where a reading
  begins before it looks at what the reading is. Buffer and note stay in its state between pulls, and after
  some errors the buffer still holds characters: a pull clears the one and sets the other before anything
  looks at them. Three loops do the work. They are said once to be operations of a cursor (`bumpWhile_eq`,
  `skipBlanks_eq`) and a count (`digitsEnd_eq`); the fourth, which passes over a string literal, is told
  apart by the character that it stands at (`body_of_cons`).
Imports: MaximalMunch.Scanner.Pull
Trusted boundary: human-reviewed spec
Main exports: Buffered, Buffered.ofChars, bump, bumpWhile, expect, recognize, pull, next?, bumpWhile_eq,
  skipBlanks_eq, digitsEnd_eq, body_of_cons
Open obligations: none
-/
import MaximalMunch.Scanner.Pull

namespace MaximalMunch

open CharClass

/-- The state of a scan that collects lexemes. -/
structure Buffered extends Scanner where
  /-- The characters kept since the buffer was last cleared or given to a token. -/
  lexeme : List Char
  /-- Where the last reading began. -/
  start : Position
deriving DecidableEq, Repr, Inhabited

namespace Buffered

/-- The start of a source. -/
def ofChars (source : List Char) : Buffered := ⟨.ofChars source, [], .origin⟩

/-!
### Single characters
-/

/-- Read the current character and do not keep it. -/
def skip (state : Buffered) : Buffered := { state with cursor := state.cursor.advance }

/-- Read the current character and keep it. At the end of the source there is none. -/
def bump (state : Buffered) : Option Char × Buffered :=
  match state.cursor.peek? with
  | some c => (some c, { state with cursor := state.cursor.advance, lexeme := state.lexeme ++ [c] })
  | none => (none, state)

/-- Read and keep the current character if it is the expected one. -/
def expect (expected : Char) (state : Buffered) : Bool × Buffered :=
  if state.cursor.peek? = some expected then (true, state.bump.2) else (false, state)

/-- To skip a character leaves less to be read. -/
theorem length_unread_skip_lt {state : Buffered} {c : Char} (current : state.cursor.peek? = some c) :
    state.skip.cursor.unread.length < state.cursor.unread.length := by
  cases unread : state.cursor.unread with
  | nil => simp [Cursor.peek?, Cursor.peekNth?, unread] at current
  | cons first rest => simp [skip, Cursor.advance, Cursor.advanceBy, unread]

theorem bump_of_peek? {state : Buffered} {c : Char} (current : state.cursor.peek? = some c) :
    state.bump = (some c, { state.skip with lexeme := state.lexeme ++ [c] }) := by
  rw [bump, current]
  rfl

/-- To take a character leaves less to be read. -/
theorem length_unread_bump_lt {state : Buffered} {c : Char} (current : state.cursor.peek? = some c) :
    state.bump.2.cursor.unread.length < state.cursor.unread.length := by
  rw [bump_of_peek? current]
  exact length_unread_skip_lt current

/-- Read and keep characters as long as they pass a test. -/
def bumpWhile (test : Char → Bool) (state : Buffered) : Buffered :=
  match current : state.cursor.peek? with
  | some c =>
      have := length_unread_bump_lt current
      if test c then bumpWhile test state.bump.2 else state
  | none => state
termination_by state.cursor.unread.length

/-- Read blanks and do not keep them. -/
def skipBlanks (state : Buffered) : Buffered :=
  match current : state.cursor.peek? with
  | some c =>
      have := length_unread_skip_lt current
      if isBlank c then skipBlanks state.skip else state
  | none => state
termination_by state.cursor.unread.length

/-- The first place from `place` on at which no digit stands. Nothing is read. -/
def digitsEnd (cursor : Cursor) (place : Nat) : Nat :=
  match current : cursor.peekNth? place with
  | some c =>
      have : place < cursor.unread.length := (List.getElem?_eq_some_iff.mp current).1
      if isDigit c then digitsEnd cursor (place + 1) else place
  | none => place
termination_by cursor.unread.length - place

/-!
### Recognizers

Each of them is called with an empty buffer at the position that was noted.
-/

/-- A token of what the buffer holds, which is given away with it. -/
def token (kind : Kind) (state : Buffered) : Reading × Buffered :=
  (.token ⟨kind, String.ofList state.lexeme, state.start⟩, { state with lexeme := [] })

/-- A character at which a run of word characters is not a word. -/
def invalidStart (c : Char) (state : Buffered) : Reading × Buffered :=
  (.error (.invalidStart c state.start), state.skip)

/-- The first character of a malformed run. -/
def malformed (c : Char) (state : Buffered) : Reading × Buffered :=
  invalidStart c { state with inMalformedRun := true }

/-- A character that begins nothing. -/
def unexpected (c : Char) (state : Buffered) : Reading × Buffered :=
  (.error (.unexpectedCharacter c state.start), state.skip)

/-- A string literal that is not closed. All that is left is passed over. -/
def unterminated (state : Buffered) : Reading × Buffered :=
  (.error (.unterminatedString state.start), { state with cursor := state.cursor.advanceToEnd })

/-- A word. -/
def word (state : Buffered) : Reading × Buffered :=
  let taken := state.bumpWhile isWord
  taken.token ((Kind.ofReservedWord? (String.ofList taken.lexeme)).getD .identifier)

/-- An integer that begins with the current character `first`. Nothing is kept before it is known that no
    word character stands behind the digits. -/
def integer (first : Char) (state : Buffered) : Reading × Buffered :=
  if (state.cursor.peekNth? (digitsEnd state.cursor (Finding.digitsStart first))).any isWord then
    state.malformed first
  else
    let signed := if isSign first then state.bump.2 else state
    (signed.bumpWhile isDigit).token .integer

/-- A symbol that begins with the current character `first`. The second character is asked for only where
    a symbol goes on with it. A character that is kept although it is no symbol stays in the buffer. -/
def symbol (first : Char) (state : Buffered) : Reading × Buffered :=
  let kept := state.bump.2
  let (long, after) :=
    if (Kind.ofSymbol? [first, '=']).isSome then kept.expect '=' else (false, kept)
  match Kind.ofSymbol? (if long then [first, '='] else [first]) with
  | some kind => after.token kind
  | none => (.error (.unexpectedCharacter first after.start), after)

/-- What follows the opening mark of a string literal. A backslash is kept together with the character
    after it. -/
def body (state : Buffered) : Reading × Buffered :=
  match current : state.cursor.peek? with
  | none => state.unterminated
  | some c =>
      have := length_unread_bump_lt current
      if c = '"' then state.skip.token .string
      else if c = '\n' then state.unterminated
      else if c = '\\' then
        match escaped : state.bump.2.cursor.peek? with
        | none => state.bump.2.unterminated
        | some _ =>
            have := length_unread_bump_lt escaped
            body state.bump.2.bump.2
      else body state.bump.2
termination_by state.cursor.unread.length

/-- A string literal. Its marks are not kept. -/
def string (state : Buffered) : Reading × Buffered := state.skip.body

/-- The reading that begins at the current character, where no blank stands. -/
def recognize (state : Buffered) : Reading × Buffered :=
  match state.cursor.peek? with
  | none => state.token .endOfInput
  | some c =>
      match CharClass.of c with
      | .letter => state.word
      | .digit => state.integer c
      | .operator =>
          if isSign c && state.cursor.peekNext?.any isDigit then state.integer c else state.symbol c
      | .punctuation => state.symbol c
      | .quote => state.string
      | .underscore => state.malformed c
      | .blank => state.unexpected c
      | .unrecognized => state.unexpected c

/-- Note where the next reading begins. -/
def begin (state : Buffered) : Buffered := { state with start := state.cursor.position }

/-- The next reading. -/
def pull (state : Buffered) : Reading × Buffered :=
  let cleared : Buffered := { state with lexeme := [] }
  match cleared.malformedChar? with
  | some c => cleared.begin.invalidStart c
  | none => ({ cleared with inMalformedRun := false } : Buffered).skipBlanks.begin.recognize

/-- The next reading of an iteration, which ends after the end of input. -/
def next? (state : Buffered) : Option (Reading × Buffered) :=
  if state.finished then none
  else
    let (reading, after) := state.pull
    some (reading, if reading.isEnd then { after with finished := true } else after)

/-!
### What the loops do

Each loop is one of the operations of a cursor, and what it keeps is what it passed.
-/

/-- A character that is taken is passed and kept. -/
theorem bump_of_unread {state : Buffered} {c : Char} {rest : List Char}
    (unread : state.cursor.unread = c :: rest) :
    state.bump.2 =
      { state with cursor := ⟨rest, state.cursor.position.advance c⟩, lexeme := state.lexeme ++ [c] } := by
  rw [bump, Cursor.peek?_eq_some_iff.mpr ⟨rest, unread⟩, Cursor.advance_of_unread unread]

/-- One that is skipped is passed. -/
theorem skip_of_unread {state : Buffered} {c : Char} {rest : List Char}
    (unread : state.cursor.unread = c :: rest) :
    state.skip = { state with cursor := ⟨rest, state.cursor.position.advance c⟩ } := by
  rw [skip, Cursor.advance_of_unread unread]

/-- What passes the test is read and kept, by induction on the loop. -/
theorem bumpWhile_eq (test : Char → Bool) (state : Buffered) :
    state.bumpWhile test =
      { state with
        cursor := state.cursor.skipWhile test
        lexeme := state.lexeme ++ state.cursor.unread.takeWhile test } := by
  fun_induction bumpWhile test state with
  | case1 state c current _ holds ih =>
      obtain ⟨rest, unread⟩ := Cursor.peek?_eq_some_iff.mp current
      rw [ih, bump_of_unread unread]
      simp [Cursor.skipWhile, unread, holds]
  | case2 state c current _ fails =>
      obtain ⟨rest, unread⟩ := Cursor.peek?_eq_some_iff.mp current
      rw [Cursor.skipWhile_of_stops (by simpa [unread] using fails)]
      simp [unread, fails]
  | case3 state current =>
      have unread := Cursor.peek?_eq_none_iff.mp current
      rw [Cursor.skipWhile_of_stops (by simp [unread])]
      simp [unread]

/-- The blanks are read and nothing is kept. -/
theorem skipBlanks_eq (state : Buffered) :
    state.skipBlanks = { state with cursor := state.cursor.skipWhile isBlank } := by
  fun_induction skipBlanks state with
  | case1 state c current _ blank ih =>
      obtain ⟨rest, unread⟩ := Cursor.peek?_eq_some_iff.mp current
      rw [ih, skip_of_unread unread]
      simp [Cursor.skipWhile, unread, blank]
  | case2 state c current _ fails =>
      obtain ⟨rest, unread⟩ := Cursor.peek?_eq_some_iff.mp current
      rw [Cursor.skipWhile_of_stops (by simpa [unread] using fails)]
  | case3 state current =>
      have unread := Cursor.peek?_eq_none_iff.mp current
      rw [Cursor.skipWhile_of_stops (by simp [unread])]

/-- Looking ahead counts the digits that follow each other. -/
theorem digitsEnd_eq (cursor : Cursor) (place : Nat) :
    digitsEnd cursor place = place + ((cursor.unread.drop place).takeWhile isDigit).length := by
  fun_induction digitsEnd cursor place with
  | case1 place c current within digit ih =>
      have here : cursor.unread[place] = c := (List.getElem?_eq_some_iff.mp current).2
      rw [ih, List.drop_eq_getElem_cons within, here, List.takeWhile_cons_of_pos digit,
        List.length_cons]
      omega
  | case2 place c current within other =>
      have here : cursor.unread[place] = c := (List.getElem?_eq_some_iff.mp current).2
      rw [List.drop_eq_getElem_cons within, here, List.takeWhile_cons_of_neg other]
      rfl
  | case3 place current =>
      rw [List.drop_eq_nil_of_le (List.getElem?_eq_none_iff.mp current)]
      rfl

/-- A string literal that the source ends in is open. -/
theorem body_of_nil {state : Buffered} (unread : state.cursor.unread = []) :
    state.body = state.unterminated := by
  unfold body
  split
  · rfl
  · next current =>
      rw [Cursor.peek?_eq_none_iff.mpr unread] at current
      cases current

/-- What is done with a character of a string literal. Behind a backslash there is a character or nothing. -/
theorem body_of_cons {state : Buffered} {c : Char} {rest : List Char}
    (unread : state.cursor.unread = c :: rest) :
    state.body =
      if c = '"' then state.skip.token .string
      else if c = '\n' then state.unterminated
      else if c = '\\' then
        if rest = [] then state.bump.2.unterminated else state.bump.2.bump.2.body
      else state.bump.2.body := by
  have here := Cursor.peek?_eq_some_iff.mpr ⟨rest, unread⟩
  have behind : state.bump.2.cursor.unread = rest := by rw [bump_of_unread unread]
  rw [body]
  split
  · next current => rw [here] at current; cases current
  · next d current =>
      rw [here] at current
      cases current
      split
      · rfl
      · split
        · rfl
        · split
          · split
            · next ends =>
                rw [if_pos (behind.symm.trans (Cursor.peek?_eq_none_iff.mp ends))]
            · next goesOn =>
                obtain ⟨more, same⟩ := Cursor.peek?_eq_some_iff.mp goesOn
                rw [if_neg (by rw [← behind, same]; exact List.cons_ne_nil _ _)]
          · rfl

end Buffered

end MaximalMunch
