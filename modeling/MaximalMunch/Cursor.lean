/-
Module: MaximalMunch.Cursor
Layer: Scanning
Purpose: A cursor over a source: the characters not read yet, and the position of the first of them.
  Nothing is ever put back, so a cursor only loses characters from its front, and its position moves
  over exactly the characters that it lost. `ReadsFrom` states that bond to the source: the source is
  what has been read followed by what is unread, and the position is what the part that has been read
  counts. Every operation keeps it, because every operation is some number of single steps.
Imports: MaximalMunch.Position
Trusted boundary: human-reviewed spec
Main exports: Cursor, Cursor.ofChars, peek?, peekNext?, peekNth?, atEnd, advance, advanceBy,
  advanceToEnd, skipWhile, translate, standingAt, ReadsFrom
Open obligations: none
-/
import MaximalMunch.Position

namespace MaximalMunch

/-- A place in a source together with all that follows it. -/
structure Cursor where
  /-- The characters from this place to the end of the source. -/
  unread : List Char
  /-- This place. -/
  position : Position
deriving DecidableEq, Repr, Inhabited

namespace Cursor

/-- The cursor at the start of a source. -/
def ofChars (source : List Char) : Cursor := ⟨source, .origin⟩

/-- The `n`th character from here, the current one being number zero. -/
def peekNth? (cursor : Cursor) (n : Nat) : Option Char := cursor.unread[n]?

/-- The current character. -/
def peek? (cursor : Cursor) : Option Char := cursor.peekNth? 0

/-- The character after the current one. -/
def peekNext? (cursor : Cursor) : Option Char := cursor.peekNth? 1

/-- Whether nothing is left to read. -/
def atEnd (cursor : Cursor) : Bool := cursor.unread.isEmpty

/-- Read `n` characters, or as many as there are. -/
def advanceBy (cursor : Cursor) (n : Nat) : Cursor :=
  ⟨cursor.unread.drop n, cursor.position.advanceAll (cursor.unread.take n)⟩

/-- Read the current character. At the end of the source nothing happens. -/
def advance (cursor : Cursor) : Cursor := cursor.advanceBy 1

/-- Read all that is left. -/
def advanceToEnd (cursor : Cursor) : Cursor := ⟨[], cursor.position.advanceAll cursor.unread⟩

/-- Read as long as the current character passes a test. -/
def skipWhile (test : Char → Bool) (cursor : Cursor) : Cursor :=
  ⟨cursor.unread.dropWhile test, cursor.position.advanceAll (cursor.unread.takeWhile test)⟩

/-- The same cursor in a source whose beginning stands at `base`. -/
def translate (base : Position) (cursor : Cursor) : Cursor :=
  ⟨cursor.unread, base.translate cursor.position⟩

/-- The cursor that has read `place` characters of a source. -/
def standingAt (source : List Char) (place : Nat) : Cursor :=
  ⟨source.drop place, .after (source.take place)⟩

theorem peek?_eq_some_iff {cursor : Cursor} {c : Char} :
    cursor.peek? = some c ↔ ∃ rest, cursor.unread = c :: rest := by
  cases unread : cursor.unread <;> simp [peek?, peekNth?, unread]

theorem peek?_eq_none_iff {cursor : Cursor} : cursor.peek? = none ↔ cursor.unread = [] := by
  cases unread : cursor.unread <;> simp [peek?, peekNth?, unread]

/-- Reading a text off the front moves the position over it. -/
theorem advanceBy_of_unread {cursor : Cursor} {text rest : List Char}
    (unread : cursor.unread = text ++ rest) :
    cursor.advanceBy text.length = ⟨rest, cursor.position.advanceAll text⟩ := by
  rw [advanceBy, unread, List.drop_left, List.take_left]

/-- To move on is to pass the next character. -/
theorem advance_of_unread {cursor : Cursor} {c : Char} {rest : List Char}
    (unread : cursor.unread = c :: rest) : cursor.advance = ⟨rest, cursor.position.advance c⟩ :=
  advanceBy_of_unread (show cursor.unread = [c] ++ rest from unread)

/-- Where the test does not hold nothing is read. -/
theorem skipWhile_of_stops {test : Char → Bool} {cursor : Cursor}
    (stops : cursor.unread.head?.any test = false) : cursor.skipWhile test = cursor := by
  obtain ⟨unread, position⟩ := cursor
  cases unread with
  | nil => rfl
  | cons c rest =>
      have stops : test c = false := stops
      simp [skipWhile, stops]

/-- Reading all that is left is reading as many characters as are left. -/
theorem advanceToEnd_eq_advanceBy (cursor : Cursor) :
    cursor.advanceToEnd = cursor.advanceBy cursor.unread.length := by
  simp [advanceToEnd, advanceBy]

/-- Moving on is the same from wherever one counts. -/
theorem advanceBy_translate (base : Position) (cursor : Cursor) (n : Nat) :
    (cursor.translate base).advanceBy n = (cursor.advanceBy n).translate base := by
  simp [advanceBy, translate, Position.translate_advanceAll]

theorem skipWhile_translate (base : Position) (test : Char → Bool) (cursor : Cursor) :
    (cursor.translate base).skipWhile test = (cursor.skipWhile test).translate base := by
  simp [skipWhile, translate, Position.translate_advanceAll]

/-- A cursor that stands at a place of the source is in the column of that number. -/
theorem column_standingAt {source : List Char} {place : Nat} (within : place ≤ source.length) :
    (standingAt source place).position.column = place :=
  List.length_take_of_le within

/-- Reading on from a place leads to a place. -/
theorem advanceBy_standingAt (source : List Char) (place n : Nat) :
    (standingAt source place).advanceBy n = standingAt source (place + n) := by
  simp only [standingAt, advanceBy, List.drop_drop, Position.advanceAll_after, List.take_add]

/-- A cursor reads from `source` if it stands between some part of it that has been read and the rest,
    at the position that the part counts. -/
def ReadsFrom (source : List Char) (cursor : Cursor) : Prop :=
  ∃ done, source = done ++ cursor.unread ∧ cursor.position = Position.after done

/-!
### Every operation keeps the bond to the source

An operation that turns the unread text into a suffix of it, and moves the position over the part in
front of that suffix, keeps `ReadsFrom`. That is `ReadsFrom.step`; the operations only have to name the
part.
-/

/-- A fresh cursor reads from its source. -/
theorem readsFrom_ofChars (source : List Char) : (ofChars source).ReadsFrom source :=
  ⟨[], rfl, rfl⟩

/-- The column of a cursor tells how much of the source has been read. -/
theorem ReadsFrom.drop_column {source : List Char} {cursor : Cursor} (h : cursor.ReadsFrom source) :
    source.drop cursor.position.column = cursor.unread := by
  obtain ⟨done, whole, place⟩ := h
  rw [whole, place]
  exact List.drop_left

/-- There is one cursor for each place of a source. -/
theorem ReadsFrom.eq_standingAt {source : List Char} {cursor : Cursor} (h : cursor.ReadsFrom source) :
    cursor = standingAt source cursor.position.column := by
  have unread := h.drop_column
  obtain ⟨done, whole, place⟩ := h
  have read : source.take cursor.position.column = done := by
    rw [whole, place]
    exact List.take_left
  rw [standingAt, unread, read, ← place]

/-- What has been read and what has not been read make up the source. -/
theorem ReadsFrom.column_add_length {source : List Char} {cursor : Cursor}
    (h : cursor.ReadsFrom source) :
    cursor.position.column + cursor.unread.length = source.length := by
  obtain ⟨done, whole, place⟩ := h
  rw [whole, place, List.length_append]
  rfl

/-- Reading a part off the front. -/
theorem ReadsFrom.step {source part rest : List Char} {cursor : Cursor}
    (h : cursor.ReadsFrom source) (split : cursor.unread = part ++ rest) :
    ReadsFrom source ⟨rest, cursor.position.advanceAll part⟩ := by
  obtain ⟨done, whole, place⟩ := h
  refine ⟨done ++ part, ?_, ?_⟩
  · rw [whole, split, List.append_assoc]
  · rw [place, Position.advanceAll_after]

/-- Moving on keeps the bond to the source. -/
theorem ReadsFrom.advanceBy {source : List Char} {cursor : Cursor} (h : cursor.ReadsFrom source)
    (n : Nat) : (cursor.advanceBy n).ReadsFrom source :=
  h.step (List.take_append_drop n cursor.unread).symm

theorem ReadsFrom.advanceToEnd {source : List Char} {cursor : Cursor}
    (h : cursor.ReadsFrom source) : cursor.advanceToEnd.ReadsFrom source :=
  h.step (List.append_nil cursor.unread).symm

theorem ReadsFrom.skipWhile {source : List Char} {cursor : Cursor} (h : cursor.ReadsFrom source)
    (test : Char → Bool) : (cursor.skipWhile test).ReadsFrom source :=
  h.step List.takeWhile_append_dropWhile.symm

end Cursor

end MaximalMunch
