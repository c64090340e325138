/-
Module: MaximalMunch.Finding
Layer: Scanning
Purpose: What stands at the front of a text that does not begin with a blank. A finding is one lexeme,
  the longest that the text begins with, or one of three reasons why there is none. It depends on the
  text alone and not on where the text stands or what came before it. The class of the first character
  chooses a recognizer; each recognizer takes characters off the front of the text as long as they
  belong, so what it finds is the beginning of the text, which is the main statement of this module
  (`begins_of_eq_lexeme`). A finding never covers nothing (`width_pos`), which is what makes repeated
  scanning end.
Imports: MaximalMunch.CharClass, MaximalMunch.Cursor, MaximalMunch.Reading
Trusted boundary: human-reviewed spec
Main exports: Finding, Finding.of, integerEnd, closingMark?, reading, past, width, begins_of_eq_lexeme,
  width_pos
Open obligations: none
-/
import MaximalMunch.CharClass
import MaximalMunch.Cursor
import MaximalMunch.Reading

namespace MaximalMunch

open CharClass

/-- What a text begins with. -/
inductive Finding where
  /-- A lexeme of this kind. The text of a string literal is what stands between its marks. -/
  | lexeme (kind : Kind) (text : List Char)
  /-- A run of word characters that is neither a word nor part of an integer. -/
  | malformed
  /-- A character that begins nothing. -/
  | unexpected
  /-- A string literal whose closing mark is missing. -/
  | unterminated
deriving DecidableEq, Repr, Inhabited

namespace Finding

/-- A word goes on as long as word characters follow; it is reserved or an identifier. -/
def ofWord (first : Char) (rest : List Char) : Finding :=
  let word := first :: rest.takeWhile isWord
  .lexeme ((Kind.ofReservedWord? (String.ofList word)).getD .identifier) word

/-- Where the digits of an integer begin: behind its sign, if it has one. -/
def digitsStart (first : Char) : Nat := if isSign first then 1 else 0

/-- Where an integer at the front of `first :: rest` ends: behind all the digits that follow each other. -/
def integerEnd (first : Char) (rest : List Char) : Nat :=
  digitsStart first + (((first :: rest).drop (digitsStart first)).takeWhile isDigit).length

/-- An integer goes on as long as digits follow. One that runs into a word is no integer, so the character
    behind it is looked at before anything is taken. The first character is a digit, or a sign with a digit
    after it. -/
def ofInteger (first : Char) (rest : List Char) : Finding :=
  if (first :: rest)[integerEnd first rest]?.any isWord then .malformed
  else .lexeme .integer (first :: rest.takeWhile isDigit)

/-- Of the symbols of two characters and of one, the longer is preferred. -/
def ofSymbol (first : Char) (rest : List Char) : Finding :=
  match Kind.ofSymbol? (first :: rest.take 1) with
  | some kind => .lexeme kind (first :: rest.take 1)
  | none =>
      match Kind.ofSymbol? [first] with
      | some kind => .lexeme kind [first]
      | none => .unexpected

/-- The place of the mark that closes a string literal, when `offset` characters of its text have been
    passed. A backslash takes the next character along, whatever it is; a line feed or the end of input
    comes too early. -/
def closingMark? (offset : Nat) : List Char → Option Nat
  | [] => none
  | c :: rest =>
      if c = '"' then some offset
      else if c = '\n' then none
      else if c = '\\' then
        match rest with
        | [] => none
        | _ :: beyond => closingMark? (offset + 2) beyond
      else closingMark? (offset + 1) rest

/-- A string literal, of which `rest` is what follows the opening mark. -/
def ofString (rest : List Char) : Finding :=
  match closingMark? 0 rest with
  | some offset => .lexeme .string (rest.take offset)
  | none => .unterminated

/-- What the text `first :: rest` begins with. -/
def of (first : Char) (rest : List Char) : Finding :=
  match CharClass.of first with
  | .letter => ofWord first rest
  | .digit => ofInteger first rest
  | .operator =>
      if isSign first && rest.head?.any isDigit then ofInteger first rest else ofSymbol first rest
  | .punctuation => ofSymbol first rest
  | .quote => ofString rest
  | .underscore => .malformed
  | .blank => .unexpected
  | .unrecognized => .unexpected

/-- Whether a malformed run begins here. -/
def isMalformed (finding : Finding) : Bool := finding = .malformed

/-- How many characters the finding covers, out of a text of `available` characters. Of a malformed run
    only the first character is covered, and an unterminated string covers everything. -/
def width (available : Nat) : Finding → Nat
  | .lexeme kind text => (kind.lexeme text).length
  | .malformed => 1
  | .unexpected => 1
  | .unterminated => available

/-- The finding as a reading, when the text begins with `first` at `position`. -/
def reading (first : Char) (position : Position) : Finding → Reading
  | .lexeme kind text => .token ⟨kind, String.ofList text, position⟩
  | .malformed => .error (.invalidStart first position)
  | .unexpected => .error (.unexpectedCharacter first position)
  | .unterminated => .error (.unterminatedString position)

/-- The cursor after the finding, when it stood before it. -/
def past (cursor : Cursor) : Finding → Cursor
  | .lexeme kind text => cursor.advanceBy (kind.lexeme text).length
  | .malformed => cursor.advance
  | .unexpected => cursor.advance
  | .unterminated => cursor.advanceToEnd

/-- The cursor moves over what the finding covers. -/
theorem past_eq_advanceBy (cursor : Cursor) (finding : Finding) :
    finding.past cursor = cursor.advanceBy (finding.width cursor.unread.length) := by
  cases finding with
  | lexeme => rfl
  | malformed => rfl
  | unexpected => rfl
  | unterminated => exact cursor.advanceToEnd_eq_advanceBy

/-!
### What a finding covers

Each recognizer is looked at once: its lexeme is a prefix of the text, and it is not empty. For string
literals this rests on where the closing mark is: at an offset of the text that holds a mark.
-/

/-- The lexeme of any kind but one is its text. -/
theorem lexeme_of_ne_string {kind : Kind} (h : kind ≠ .string) (text : List Char) :
    kind.lexeme text = text := by
  simp [Kind.lexeme, h]

/-- No word is a string literal. -/
theorem getD_ofReservedWord?_ne_string (word : String) :
    (Kind.ofReservedWord? word).getD .identifier ≠ .string := by
  cases found : Kind.ofReservedWord? word with
  | none => simp
  | some kind =>
      intro same
      have spelled := Kind.ofReservedWord?_eq_some_iff.mp found
      rw [show kind = .string from same] at spelled
      cases spelled

/-- No symbol is a string literal. -/
theorem ne_string_of_ofSymbol? {spelling : List Char} {kind : Kind}
    (found : Kind.ofSymbol? spelling = some kind) : kind ≠ .string := by
  intro same
  have spelled := Kind.ofSymbol?_eq_some_iff.mp found
  rw [same] at spelled
  cases spelled

/-- The closing mark stands where it was found, counted from where the search began. -/
theorem getElem?_closingMark? {text : List Char} {offset place : Nat}
    (found : closingMark? offset text = some place) :
    offset ≤ place ∧ text[place - offset]? = some '"' := by
  fun_induction closingMark? offset text with
  | case1 => cases found
  | case2 => cases found; simp
  | case3 => cases found
  | case4 => cases found
  | case5 offset _ _ _ _ ih =>
      obtain ⟨hle, hmark⟩ := ih found
      refine ⟨by omega, ?_⟩
      rw [show place - offset = place - (offset + 2) + 2 by omega]
      simpa using hmark
  | case6 offset _ _ _ _ _ ih =>
      obtain ⟨hle, hmark⟩ := ih found
      refine ⟨by omega, ?_⟩
      rw [show place - offset = place - (offset + 1) + 1 by omega]
      simpa using hmark

/-- A lexeme that begins with `first` and goes on with the beginning of `rest`. -/
def Begins (first : Char) (rest lexeme : List Char) : Prop :=
  ∃ more, lexeme = first :: more ∧ more <+: rest

/-- A word is the first character and the word characters that follow it. -/
theorem begins_of_ofWord {first : Char} {rest text : List Char} {kind : Kind}
    (found : ofWord first rest = .lexeme kind text) : Begins first rest (kind.lexeme text) := by
  cases found
  rw [lexeme_of_ne_string (getD_ofReservedWord?_ne_string _)]
  exact ⟨_, rfl, List.takeWhile_prefix _⟩

/-- What is looked at for an integer and what is taken as one end at the same place. -/
theorem integerEnd_eq_length {first : Char} (h : isDigit first = true ∨ isSign first = true)
    (rest : List Char) : integerEnd first rest = (first :: rest.takeWhile isDigit).length := by
  cases sign : isSign first with
  | true => simp [integerEnd, digitsStart, sign, Nat.add_comm]
  | false => simp_all [integerEnd, digitsStart]

/-- An integer is the first character and the digits that follow it. -/
theorem begins_of_ofInteger {first : Char} {rest text : List Char} {kind : Kind}
    (found : ofInteger first rest = .lexeme kind text) : Begins first rest (kind.lexeme text) := by
  unfold ofInteger at found
  split at found
  · cases found
  · cases found
    exact ⟨_, rfl, List.takeWhile_prefix _⟩

/-- A symbol is the first character, or that and the next one. -/
theorem begins_of_ofSymbol {first : Char} {rest text : List Char} {kind : Kind}
    (found : ofSymbol first rest = .lexeme kind text) : Begins first rest (kind.lexeme text) := by
  unfold ofSymbol at found
  split at found
  · next spelled =>
      cases found
      rw [lexeme_of_ne_string (ne_string_of_ofSymbol? spelled)]
      exact ⟨_, rfl, List.take_prefix 1 rest⟩
  · split at found
    · next spelled =>
        cases found
        rw [lexeme_of_ne_string (ne_string_of_ofSymbol? spelled)]
        exact ⟨[], rfl, List.nil_prefix⟩
    · cases found

/-- A string literal is its two marks and what stands between them. -/
theorem begins_of_ofString {rest text : List Char} {kind : Kind}
    (found : ofString rest = .lexeme kind text) : Begins '"' rest (kind.lexeme text) := by
  unfold ofString at found
  split at found
  · next place closed =>
      cases found
      obtain ⟨hplace, hmark⟩ := List.getElem?_eq_some_iff.mp (getElem?_closingMark? closed).2
      refine ⟨rest.take place ++ ['"'], rfl, rest.drop (place + 1), ?_⟩
      have cut : rest.take place ++ rest[place] :: rest.drop (place + 1) = rest := by
        rw [List.getElem_cons_drop, List.take_append_drop]
      rw [← hmark]
      simp
  · cases found

/-- What the text `first :: rest` begins with is indeed its beginning. -/
theorem begins_of_eq_lexeme {first : Char} {rest text : List Char} {kind : Kind}
    (found : of first rest = .lexeme kind text) : Begins first rest (kind.lexeme text) := by
  unfold of at found
  split at found
  · exact begins_of_ofWord found
  · exact begins_of_ofInteger found
  · split at found
    · exact begins_of_ofInteger found
    · exact begins_of_ofSymbol found
  · exact begins_of_ofSymbol found
  · next quote => rw [CharClass.of_eq_quote quote]; exact begins_of_ofString found
  · cases found
  · cases found
  · cases found

/-- A reading begins where the text begins. -/
theorem position_reading (first : Char) (position : Position) (finding : Finding) :
    (finding.reading first position).position = position := by
  cases finding <;> rfl

theorem reading_translate (base : Position) (first : Char) (position : Position) (finding : Finding) :
    finding.reading first (base.translate position) =
      (finding.reading first position).translate base := by
  cases finding <;> rfl

theorem past_translate (base : Position) (cursor : Cursor) (finding : Finding) :
    finding.past (cursor.translate base) = (finding.past cursor).translate base := by
  rw [past_eq_advanceBy, past_eq_advanceBy, Cursor.advanceBy_translate]
  rfl

/-- A finding covers at least the first character. -/
theorem width_pos (first : Char) (rest : List Char) :
    0 < (of first rest).width (first :: rest).length := by
  cases found : of first rest with
  | lexeme kind text =>
      obtain ⟨more, begins, _⟩ := begins_of_eq_lexeme found
      simp [width, begins]
  | malformed => simp [width]
  | unexpected => simp [width]
  | unterminated => simp [width]

end Finding

end MaximalMunch
