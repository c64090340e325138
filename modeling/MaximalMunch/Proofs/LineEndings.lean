/-
Module: MaximalMunch.Proofs.LineEndings
Layer: Proofs
Purpose: How lines end makes no difference. If every line feed is written as a carriage return and a line feed,
  each place moves behind as many carriage returns as there are line feeds in front of it, and nothing else about
  it changes (`advanceAll_crlf`). The scan does not change either, unless a backslash stands right in front of a
  line feed: a string literal can only hold a line feed as the second character of a pair, and then the carriage
  return would take its part. Everywhere else a line feed stands among blanks, or behind a string literal that it
  leaves open. So what is found at the front of a text is the same (`of_crlf`), a pull of the one scan is a pull of
  the other (`pull_crlf`), and by induction the readings are (`readings_crlf`).
Imports: MaximalMunch.Proofs.Progress
Trusted boundary: none
Main exports: crlf, Position.crlf, Reading.relocate, NoEscapedFeed, Finding.of_crlf, Scanner.pull_crlf,
  readings_crlf
Open obligations: none
-/
import MaximalMunch.Proofs.Progress

namespace MaximalMunch

open CharClass

/-- The same text with a carriage return in front of every line feed. -/
def crlf (text : List Char) : List Char := text.flatMap fun c => if c = '\n' then ['\r', '\n'] else [c]

/-- Where a place of a text stands when the text is written with carriage returns. In front of it there is one for
    each line feed, and those of its own line are behind it. -/
def Position.crlf (p : Position) : Position := { p with column := p.column + p.line }

/-- No line feed stands right behind a backslash. -/
def NoEscapedFeed (text : List Char) : Prop := ¬ ['\\', '\n'] <:+: text

instance (text : List Char) : Decidable (NoEscapedFeed text) := inferInstanceAs (Decidable (¬ _))

/-- The same token elsewhere. -/
def Token.relocate (move : Position → Position) (token : Token) : Token :=
  { token with position := move token.position }

/-- The same error elsewhere. -/
def LexicalError.relocate (move : Position → Position) : LexicalError → LexicalError
  | invalidStart character position => .invalidStart character (move position)
  | unexpectedCharacter character position => .unexpectedCharacter character (move position)
  | unterminatedString position => .unterminatedString (move position)

/-- The same reading elsewhere. -/
def Reading.relocate (move : Position → Position) : Reading → Reading
  | .token t => .token (t.relocate move)
  | .error e => .error (e.relocate move)

/-- To be moved does not change what a reading is. -/
@[simp] theorem Reading.isEnd_relocate (move : Position → Position) (reading : Reading) :
    (reading.relocate move).isEnd = reading.isEnd := by
  cases reading <;> rfl

/-- What is found is moved with the place where it is found. -/
theorem Finding.reading_relocate (move : Position → Position) (first : Char) (position : Position)
    (finding : Finding) :
    finding.reading first (move position) = (finding.reading first position).relocate move := by
  cases finding <;> rfl

/-!
### Texts

A test that fails for both characters of a line ending stops at the same place in both texts.
-/

section Text

variable {test : Char → Bool} {c : Char} {text first second : List Char}

@[simp] theorem crlf_nil : crlf [] = [] := rfl

theorem crlf_cons_newline (text : List Char) : crlf ('\n' :: text) = '\r' :: '\n' :: crlf text := rfl

theorem crlf_cons (other : c ≠ '\n') (text : List Char) : crlf (c :: text) = c :: crlf text := by
  simp [crlf, other]

theorem crlf_append (first second : List Char) : crlf (first ++ second) = crlf first ++ crlf second :=
  List.flatMap_append

/-- A text without line feeds stays as it is. -/
theorem crlf_append_of_not_mem (none : '\n' ∉ first) (second : List Char) :
    crlf (first ++ second) = first ++ crlf second := by
  induction first with
  | nil => rfl
  | cons c first ih =>
      rw [List.mem_cons, not_or] at none
      rw [List.cons_append, crlf_cons (Ne.symm none.1), ih none.2, List.cons_append]

/-- A test that cannot tell the two characters of a line ending apart sees the same at the front. -/
theorem head?_crlf_any (feed : test '\n' = test '\r') :
    (crlf text).head?.any test = text.head?.any test := by
  cases text with
  | nil => rfl
  | cons c text =>
      by_cases isFeed : c = '\n'
      · subst isFeed
        exact feed.symm
      · rw [crlf_cons isFeed]
        rfl

/-- A test that fails for both of them stops at the same place. -/
theorem takeWhile_crlf (feed : test '\n' = false) (ret : test '\r' = false) (text : List Char) :
    (crlf text).takeWhile test = text.takeWhile test := by
  induction text with
  | nil => rfl
  | cons c text ih =>
      by_cases isFeed : c = '\n'
      · subst isFeed
        simp [crlf_cons_newline, feed, ret]
      · rw [crlf_cons isFeed, List.takeWhile_cons, List.takeWhile_cons, ih]

/-- A gap with other line endings is a gap. -/
theorem isBlank_crlf {gap : List Char} (blank : IsBlank gap) : IsBlank (crlf gap) := by
  intro c member
  obtain ⟨d, inGap, written⟩ := List.mem_flatMap.mp member
  split at written
  · simp only [List.mem_cons, List.not_mem_nil, or_false] at written
    rcases written with rfl | rfl <;> decide
  · rw [List.mem_singleton.mp written]
    exact blank d inGap

/-- Where no line feed of a text is escaped, none in a later part of it is. -/
theorem NoEscapedFeed.of_append (unescaped : NoEscapedFeed (first ++ second)) : NoEscapedFeed second :=
  fun escaped => unescaped (escaped.trans (List.suffix_append first second).isInfix)

theorem NoEscapedFeed.of_cons (unescaped : NoEscapedFeed (c :: text)) : NoEscapedFeed text :=
  of_append (show NoEscapedFeed ([c] ++ text) from unescaped)

/-- Behind a backslash stands no line feed. -/
theorem NoEscapedFeed.ne_newline (unescaped : NoEscapedFeed ('\\' :: c :: text)) : c ≠ '\n' := by
  rintro rfl
  exact unescaped ⟨[], text, rfl⟩

end Text

/-- Reading the text with carriage returns leads from the moved place to the moved place. -/
theorem Position.advanceAll_crlf (p : Position) (text : List Char) :
    p.crlf.advanceAll (MaximalMunch.crlf text) = (p.advanceAll text).crlf := by
  induction text generalizing p with
  | nil => rfl
  | cons c text ih =>
      by_cases isFeed : c = '\n'
      · subst isFeed
        rw [crlf_cons_newline, advanceAll_cons, advanceAll_cons, advanceAll_cons, ← ih]
        congr 1
        simp [advance, crlf]
        omega
      · rw [crlf_cons isFeed, advanceAll_cons, advanceAll_cons, ← ih]
        congr 1
        simp [advance, crlf, isFeed]
        omega

/-!
### Findings

Each recognizer stops in front of a line feed, or finds its string literal open there.
-/

/-- In the body of a string literal a line feed can only stand behind a backslash. -/
theorem StringBody.newline_not_mem {body rest : List Char} (valid : StringBody body)
    (unescaped : NoEscapedFeed (body ++ rest)) : '\n' ∉ body := by
  induction valid with
  | nil => exact List.not_mem_nil
  | plain _ _ feed _ ih =>
      rw [List.mem_cons, not_or]
      exact ⟨Ne.symm feed, ih unescaped.of_cons⟩
  | pair c _ ih =>
      rw [List.mem_cons, List.mem_cons, not_or, not_or]
      exact ⟨by decide, Ne.symm unescaped.ne_newline, ih unescaped.of_cons.of_cons⟩

/-- No lexeme holds a line feed. -/
theorem Lexeme.Valid.newline_not_mem {lexeme : Lexeme} (valid : lexeme.Valid) {rest : List Char}
    (unescaped : NoEscapedFeed (lexeme.spelling ++ rest)) : '\n' ∉ lexeme.spelling := by
  have written := valid.written
  generalize lexeme.spelling = text at written unescaped
  cases written with
  | word word _ =>
      obtain ⟨first, more, rfl, letter, words⟩ := word
      intro member
      rcases List.mem_cons.mp member with rfl | member
      · cases letter
      · cases words _ member
  | integer integer =>
      obtain ⟨sign, digits, rfl, _, signs, _, digital⟩ := integer
      intro member
      rcases List.mem_append.mp member with member | member
      · cases signs _ member
      · cases digital _ member
  | string body =>
      rw [List.cons_append, List.append_assoc] at unescaped
      have inBody := body.newline_not_mem unescaped.of_cons
      simp [inBody]
  | @symbol kind _ spelled => cases kind <;> cases spelled <;> decide

namespace Finding

/-- The search for the closing mark comes to the same end. -/
theorem closingMark?_crlf {text : List Char} (unescaped : NoEscapedFeed text) (offset : Nat) :
    closingMark? offset (crlf text) = closingMark? offset text := by
  fun_induction closingMark? offset text with
  | case1 offset => rfl
  | case2 offset rest =>
      rw [crlf_cons (by decide), closingMark?.eq_def]
      rfl
  | case3 offset rest =>
      rw [crlf_cons_newline, closingMark?.eq_def]
      simp only [Char.reduceEq, if_false]
      rw [closingMark?.eq_def]
      rfl
  | case4 offset => rfl
  | case5 offset second beyond mark feed ih =>
      rw [crlf_cons feed, crlf_cons unescaped.ne_newline, closingMark?.eq_def]
      exact ih unescaped.of_cons.of_cons
  | case6 offset c rest mark feed slash ih =>
      rw [crlf_cons feed, closingMark?.eq_def]
      simp only [mark, feed, slash, if_false]
      exact ih unescaped.of_cons

/-- A string literal is closed, or found open, at the same place. -/
theorem ofString_crlf {rest : List Char} (unescaped : NoEscapedFeed rest) :
    ofString (crlf rest) = ofString rest := by
  unfold ofString
  rw [closingMark?_crlf unescaped]
  cases closed : closingMark? 0 rest with
  | none => rfl
  | some place =>
      obtain ⟨body, beyond, rfl, valid, rfl⟩ := closingMark?_sound closed
      rw [crlf_append_of_not_mem (valid.newline_not_mem unescaped), Nat.zero_add]
      simp

/-- No symbol holds a line feed. -/
theorem ofSymbol_crlf (first : Char) (rest : List Char) : ofSymbol first (crlf rest) = ofSymbol first rest := by
  cases rest with
  | nil => rfl
  | cons c rest =>
      by_cases isFeed : c = '\n'
      · -- Neither character of the line ending makes a symbol longer.
        subst isFeed
        simp [ofSymbol, crlf_cons_newline, Kind.ofSymbol?_pair_eq_none]
      · rw [crlf_cons isFeed]
        rfl

/-- An integer ends in front of a line feed, and neither character of a line ending spoils it. -/
theorem ofInteger_crlf {first : Char} (begins : isDigit first = true ∨ isSign first = true)
    (rest : List Char) : ofInteger first (crlf rest) = ofInteger first rest := by
  obtain ⟨digits, beyond, rfl, digital, stops⟩ := exists_stop isDigit rest
  have noFeed : '\n' ∉ digits := fun member => by cases digital _ member
  have sameDigit : (crlf beyond).head?.any isDigit = beyond.head?.any isDigit := head?_crlf_any rfl
  have sameWord : (crlf beyond).head?.any isWord = beyond.head?.any isWord := head?_crlf_any rfl
  rw [crlf_append_of_not_mem noFeed, ofInteger_append begins digital stops,
    ofInteger_append begins digital (sameDigit.trans stops), sameWord]

/-- A word ends in front of a line feed. -/
theorem ofWord_crlf (first : Char) (rest : List Char) : ofWord first (crlf rest) = ofWord first rest := by
  have taken : (crlf rest).takeWhile isWord = rest.takeWhile isWord := takeWhile_crlf rfl rfl rest
  rw [ofWord, ofWord, taken]

/-- What is found at the front of a text is the same. -/
theorem of_crlf {first : Char} {rest : List Char} (unescaped : NoEscapedFeed (first :: rest)) :
    of first (crlf rest) = of first rest := by
  have sameDigit : (crlf rest).head?.any isDigit = rest.head?.any isDigit := head?_crlf_any rfl
  unfold of
  cases kind : CharClass.of first with
  | letter => exact ofWord_crlf first rest
  | digit => exact ofInteger_crlf (Or.inl (isDigit_iff.mpr kind)) rest
  | operator =>
      simp only [sameDigit, ofSymbol_crlf]
      split
      · next signed =>
          rw [Bool.and_eq_true] at signed
          exact ofInteger_crlf (Or.inr signed.1) rest
      · rfl
  | punctuation => exact ofSymbol_crlf first rest
  | quote => exact ofString_crlf unescaped.of_cons
  | underscore => rfl
  | blank => rfl
  | unrecognized => rfl

end Finding

/-!
### Pulls
-/

/-- Where a cursor stands when its source is written with carriage returns. -/
def Cursor.crlf (cursor : Cursor) : Cursor := ⟨MaximalMunch.crlf cursor.unread, cursor.position.crlf⟩

/-- The finding is passed in both texts. -/
theorem Finding.past_crlf {first : Char} {rest : List Char} (other : first ≠ '\n')
    (unescaped : NoEscapedFeed (first :: rest)) (position : Position) :
    (Finding.of first rest).past (Cursor.crlf ⟨first :: rest, position⟩) =
      ((Finding.of first rest).past ⟨first :: rest, position⟩).crlf := by
  -- What is passed holds no line feed, so the two cursors pass the same.
  have passed : ∀ stretch beyond, first :: rest = stretch ++ beyond → '\n' ∉ stretch →
      (Cursor.crlf ⟨first :: rest, position⟩).advanceBy stretch.length =
        (Cursor.advanceBy ⟨first :: rest, position⟩ stretch.length).crlf := by
    intro stretch beyond split noFeed
    have longer : (Cursor.crlf ⟨first :: rest, position⟩).unread = stretch ++ MaximalMunch.crlf beyond := by
      rw [← crlf_append_of_not_mem noFeed, ← split]
      rfl
    have moved := position.advanceAll_crlf stretch
    rw [← List.append_nil stretch, crlf_append_of_not_mem noFeed, crlf_nil, List.append_nil] at moved
    rw [Cursor.advanceBy_of_unread longer, Cursor.advanceBy_of_unread split]
    exact congrArg (Cursor.mk _) moved
  have single : '\n' ∉ [first] := by simpa using Ne.symm other
  cases found : Finding.of first rest with
  | lexeme kind body =>
      have fits := fits_of first rest
      rw [found] at fits
      obtain ⟨valid, ⟨_, ⟨beyond, split⟩, _⟩, _⟩ := fits
      rw [← split] at unescaped
      have valid : Lexeme.Valid ⟨kind, body⟩ := valid
      exact passed _ beyond split.symm (valid.newline_not_mem unescaped)
  | malformed => exact passed [first] rest rfl single
  | unexpected => exact passed [first] rest rfl single
  | unterminated => exact congrArg (Cursor.mk []) (position.advanceAll_crlf (first :: rest))

namespace Scanner

variable {scanner : Scanner}

/-- The same state in the scan of a source that is written with carriage returns. -/
def crlf (scanner : Scanner) : Scanner := { scanner with cursor := scanner.cursor.crlf }

/-- No malformed run begins because of other line endings. -/
theorem OutsideRun.crlf (outside : scanner.OutsideRun) : scanner.crlf.OutsideRun := by
  apply outside.imp_right
  intro stops
  have same : (MaximalMunch.crlf scanner.cursor.unread).head?.any isWord =
      scanner.cursor.unread.head?.any isWord := head?_crlf_any rfl
  simp only [Cursor.peek?, Cursor.peekNth?, ← List.head?_eq_getElem?] at stops ⊢
  exact same.trans stops

/-- A pull of the one scan is a pull of the other. -/
theorem pull_crlf (unescaped : NoEscapedFeed scanner.cursor.unread) :
    scanner.crlf.pull = (scanner.pull.1.relocate Position.crlf, scanner.pull.2.crlf) := by
  rcases scanner.outsideRun_or_exists with outside | ⟨c, rest, run, unread, word⟩
  · obtain ⟨gap, text, unread, blank, stops⟩ := exists_stop isBlank scanner.cursor.unread
    have written : scanner.crlf.cursor.unread = MaximalMunch.crlf gap ++ MaximalMunch.crlf text := by
      rw [← crlf_append, ← unread]
      rfl
    have moved := scanner.position.advanceAll_crlf gap
    rw [pull_of_outsideRun outside unread blank stops,
      pull_of_outsideRun outside.crlf written (isBlank_crlf blank) ((head?_crlf_any rfl).trans stops),
      show scanner.crlf.position = scanner.position.crlf from rfl, moved]
    cases text with
    | nil => rfl
    | cons first rest =>
        have other : first ≠ '\n' := by
          rintro rfl
          cases stops
        rw [unread] at unescaped
        have alike := Finding.of_crlf unescaped.of_append
        have past := Finding.past_crlf other unescaped.of_append (scanner.position.advanceAll gap)
        rw [Cursor.crlf, crlf_cons other] at past
        rw [crlf_cons other, readAt_of_cons rfl, readAt_of_cons rfl, alike, past]
        have brings := Finding.reading_relocate Position.crlf first (scanner.position.advanceAll gap)
          (Finding.of first rest)
        exact Prod.ext brings rfl
  · have other : c ≠ '\n' := by
      rintro rfl
      cases word
    have written : scanner.crlf.cursor.unread = c :: MaximalMunch.crlf rest := by
      rw [← crlf_cons other, ← unread]
      rfl
    have moved := scanner.position.advanceAll_crlf [c]
    rw [crlf_cons other] at moved
    have still : scanner.crlf.inMalformedRun = true := run
    rw [pull_of_insideRun run unread word, pull_of_insideRun still written word]
    exact Prod.ext rfl (congrArg (fun position => Scanner.mk ⟨_, position⟩ _ _) moved)

/-- By induction on the readings. -/
theorem readings_crlf_of_going (scanner : Scanner) (going : scanner.finished = false)
    (unescaped : NoEscapedFeed scanner.cursor.unread) :
    scanner.crlf.readings = scanner.readings.map (.relocate Position.crlf) := by
  refine readings_induction (motive := fun scanner readings => NoEscapedFeed scanner.cursor.unread →
    scanner.crlf.readings = readings.map (.relocate Position.crlf)) ?_ ?_ scanner going unescaped
  · intro scanner going ending unescaped
    have pulled := pull_crlf unescaped
    have endsToo : scanner.crlf.pull.1.isEnd = true := by
      rw [pulled, Reading.isEnd_relocate, ending]
    have alike : scanner.crlf.finished = false := going
    rw [readings_of_isEnd alike endsToo, pulled, List.map_singleton]
  · intro scanner going more later unescaped
    have pulled := pull_crlf unescaped
    have goesOn : scanner.crlf.pull.1.isEnd = false := by
      rw [pulled, Reading.isEnd_relocate, more]
    have alike : scanner.crlf.finished = false := going
    obtain ⟨gap, stretch, rest, extent⟩ := scanner.exists_extent
    rw [extent.unread] at unescaped
    have left : NoEscapedFeed scanner.pull.2.cursor.unread := by
      rw [extent.after]
      exact unescaped.of_append.of_append
    rw [readings_of_not_isEnd alike goesOn, pulled, List.map_cons, later left]

end Scanner

/-- If no line feed of a source stands right behind a backslash, writing its line feeds with carriage returns
    changes the readings in one way only: each stands where its place has moved to, with as many columns more as
    its line says. -/
theorem readings_crlf {source : List Char} (unescaped : NoEscapedFeed source) :
    readings (crlf source) = (readings source).map (.relocate Position.crlf) :=
  (Scanner.ofChars source).readings_crlf_of_going rfl unescaped

/-- For instance where the second line begins a malformed run and ends in a string literal left open. -/
theorem readings_crlf_of_two_lines :
    NoEscapedFeed ['x', '\n', '1', 'a', '"', '\n'] ∧
      readings ['x', '\r', '\n', '1', 'a', '"', '\r', '\n'] =
        (readings ['x', '\n', '1', 'a', '"', '\n']).map (.relocate Position.crlf) := by
  have unescaped : NoEscapedFeed ['x', '\n', '1', 'a', '"', '\n'] := by decide
  exact ⟨unescaped, readings_crlf unescaped⟩

/-- Behind a backslash the carriage return would be the second character of the pair, and the line feed no longer
    in the string literal. -/
example :
    readings ['"', '\\', '\n', '"'] =
      [.token ⟨.string, "\\\n", ⟨0, 0, 0⟩⟩, .token ⟨.endOfInput, "", ⟨1, 4, 1⟩⟩] ∧
    readings (crlf ['"', '\\', '\n', '"']) =
      [.error (.unterminatedString ⟨0, 0, 0⟩), .token ⟨.endOfInput, "", ⟨1, 5, 1⟩⟩] := by
  cbv

end MaximalMunch
