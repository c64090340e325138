/-
Module: MaximalMunch.Proofs.Acceptance
Layer: Proofs
Purpose: Which sources scan without an error. They are those that have a legal division, and none has two.
  What is said of divisions by characters is said of writings by kinds, and the two agree because a
  spelling has one lexeme (`conflicts_iff_runTogether`, `legal_iff_exists_writing`). A scan without errors
  writes its source out (`exists_writing_of_clean`), and a writing is read back if it is well separated,
  so the lexemes of a division are those that the scan brings; the gaps are then what is left between them
  (`eq_of_text_eq`). The main result, `divides_iff_clean`, adds what a caller sees of all this: the tokens,
  and the status with which a run ends.
Imports: MaximalMunch.Division, MaximalMunch.Proofs.Progress, MaximalMunch.Proofs.RoundTrip,
  MaximalMunch.Run.Outcome
Trusted boundary: none
Main exports: conflicts_iff_runTogether, legal_iff_exists_writing, exists_writing_of_clean, eq_of_text_eq,
  divides_iff_clean
Open obligations: none
-/
import MaximalMunch.Division
import MaximalMunch.Proofs.Progress
import MaximalMunch.Proofs.RoundTrip
import MaximalMunch.Run.Outcome

namespace MaximalMunch

open CharClass

/-!
### Kinds and spellings

A condition on the kind of a lexeme is a condition on its spelling, because no two lexemes are spelled
alike: a lexeme that is spelled like an integer, say, is that integer.
-/

namespace Lexeme

variable {first second lexeme : Lexeme} {kind : Kind} {text : List Char}

/-- The text of a symbol makes a valid lexeme, and is its spelling. -/
theorem valid_of_symbol? (spelled : kind.symbol? = some text) :
    Valid ⟨kind, text⟩ ∧ spelling ⟨kind, text⟩ = text := by
  constructor
  · exact Kind.accepts_of_symbol? spelled
  · apply Finding.lexeme_of_ne_string
    exact Finding.ne_string_of_ofSymbol? (Kind.ofSymbol?_eq_some_iff.mpr spelled)

/-- Every word is spelled by a lexeme, which ends in a word character. -/
theorem exists_kind_of_isWord (word : IsWord text) :
    ∃ kind, Valid ⟨kind, text⟩ ∧ spelling ⟨kind, text⟩ = text ∧ endsInWord ⟨kind, text⟩ = true := by
  have looked : ∃ kind, (Kind.ofReservedWord? (String.ofList text)).getD .identifier = kind := ⟨_, rfl⟩
  obtain ⟨kind, looked⟩ := looked
  have differs : kind ≠ .string := by
    rw [← looked]
    exact Finding.getD_ofReservedWord?_ne_string _
  refine ⟨kind, ?_, ?_, ?_⟩
  · exact Kind.accepts_iff.mpr (Or.inl ⟨word, looked⟩)
  · exact Finding.lexeme_of_ne_string differs text
  · exact endsInWord_of_word looked

/-- Every text that is a lexeme is spelled by one of some kind. -/
theorem exists_of_isLexeme (isLexeme : IsLexeme text) :
    ∃ lexeme : Lexeme, lexeme.Valid ∧ lexeme.spelling = text := by
  rcases isLexeme with word | integer | ⟨body, rfl, valid⟩ | ⟨kind, spelled⟩
  · obtain ⟨kind, valid, spells, _⟩ := exists_kind_of_isWord word
    exact ⟨_, valid, spells⟩
  · exact ⟨⟨.integer, text⟩, integer, rfl⟩
  · exact ⟨⟨.string, body⟩, valid, rfl⟩
  · exact ⟨_, valid_of_symbol? spelled⟩

/-- A lexeme is of the kind of a symbol exactly if it is spelled like it. -/
theorem Valid.kind_eq_iff_of_symbol? (valid : lexeme.Valid) (spelled : kind.symbol? = some text) :
    lexeme.kind = kind ↔ lexeme.spelling = text := by
  constructor
  · rintro rfl
    exact valid.spelling_of_symbol? spelled
  · intro same
    obtain ⟨validSymbol, spells⟩ := valid_of_symbol? spelled
    rw [eq_of_spelling_eq valid validSymbol (same.trans spells.symm)]

/-- A lexeme is of the kind of integers exactly if it is spelled like one. -/
theorem Valid.kind_eq_integer_iff (valid : lexeme.Valid) :
    lexeme.kind = .integer ↔ IsInteger lexeme.spelling := by
  constructor
  · exact valid.isInteger_of_kind
  · intro integer
    have validInteger : Valid ⟨.integer, lexeme.spelling⟩ := integer
    exact congrArg Lexeme.kind (eq_of_spelling_eq valid validInteger rfl)

/-- Words and integers are what ends in a word character. -/
theorem Valid.endsInWord_iff (valid : lexeme.Valid) :
    lexeme.endsInWord = true ↔ IsWord lexeme.spelling ∨ IsInteger lexeme.spelling := by
  constructor
  · exact valid.written.word_or_integer
  · rintro (word | integer)
    · obtain ⟨kind, validWord, spells, ends⟩ := exists_kind_of_isWord word
      rw [eq_of_spelling_eq valid validWord spells.symm]
      exact ends
    · simp [endsInWord, valid.kind_eq_integer_iff.mpr integer]

/-- Three spellings are carried on by an equals sign. -/
theorem Valid.takesEqual_iff (valid : lexeme.Valid) :
    lexeme.takesEqual = true ↔ lexeme.spelling ∈ [['>'], ['<'], ['=']] := by
  have greater := valid.kind_eq_iff_of_symbol? (show Kind.symbol? .greater = some ['>'] from rfl)
  have less := valid.kind_eq_iff_of_symbol? (show Kind.symbol? .less = some ['<'] from rfl)
  have equal := valid.kind_eq_iff_of_symbol? (show Kind.symbol? .equal = some ['='] from rfl)
  simp [takesEqual, greater, less, equal, or_assoc]

/-- Two spellings begin with an equals sign. -/
theorem Valid.beginsWithEqual_iff_spelling (valid : lexeme.Valid) :
    lexeme.beginsWithEqual = true ↔ lexeme.spelling ∈ [['='], ['=', '=']] := by
  have one := valid.kind_eq_iff_of_symbol? (show Kind.symbol? .equal = some ['='] from rfl)
  have two := valid.kind_eq_iff_of_symbol? (show Kind.symbol? .equalEqual = some ['=', '='] from rfl)
  simp [beginsWithEqual, one, two]

/-- Two spellings are signs. -/
theorem Valid.isSignSymbol_iff (valid : lexeme.Valid) :
    lexeme.isSignSymbol = true ↔ lexeme.spelling ∈ [['+'], ['-']] := by
  have plus := valid.kind_eq_iff_of_symbol? (show Kind.symbol? .plus = some ['+'] from rfl)
  have minus := valid.kind_eq_iff_of_symbol? (show Kind.symbol? .minus = some ['-'] from rfl)
  simp [isSignSymbol, plus, minus]

/-- Two lexemes conflict exactly if their spellings run together. -/
theorem conflicts_iff_runTogether (firstValid : first.Valid) (secondValid : second.Valid) :
    first.Conflicts second ↔ RunTogether first.spelling second.spelling := by
  have unsigned : second.isUnsigned = true ↔
      IsInteger second.spelling ∧ second.spelling.head?.any isSign = false := by
    simp only [isUnsigned, Bool.and_eq_true, decide_eq_true_eq, Bool.not_eq_true',
      secondValid.kind_eq_integer_iff]
  rw [Conflicts, RunTogether, firstValid.endsInWord_iff, firstValid.takesEqual_iff,
    secondValid.beginsWithEqual_iff_spelling, firstValid.isSignSymbol_iff, unsigned]

end Lexeme

/-!
### Divisions and writings
-/

namespace Writing

variable {writing : Writing}

/-- A writing is valid if its lexemes are and its gaps are blank, which its division can tell. -/
theorem valid_iff : writing.Valid ↔
    (∀ part ∈ writing.parts, part.2.Valid) ∧ (∀ part ∈ writing.division.parts, IsBlank part.1) ∧
      IsBlank writing.division.last := by
  simp only [Valid, division, List.forall_mem_map, forall_and, and_assoc, and_left_comm]

/-- Where the lexemes are what their kinds say, no two neighbours run together exactly if no two spellings
    do. -/
theorem separated_iff (valid : ∀ part ∈ writing.parts, part.2.Valid) :
    writing.Separated ↔ ∀ n first second, writing.division.parts[n]? = some first →
      writing.division.parts[n + 1]? = some second → second.1 = [] →
        ¬ RunTogether first.2 second.2 := by
  have conflict {n m : Nat} {first second : List Char × Lexeme}
      (atFirst : writing.parts[n]? = some first) (atSecond : writing.parts[m]? = some second) :
      first.2.Conflicts second.2 ↔ RunTogether first.2.spelling second.2.spelling :=
    Lexeme.conflicts_iff_runTogether (valid first (List.mem_of_getElem? atFirst))
      (valid second (List.mem_of_getElem? atSecond))
  simp only [Separated, division, List.getElem?_map, Option.map_eq_some_iff]
  constructor
  · rintro separated n _ _ ⟨first, atFirst, rfl⟩ ⟨second, atSecond, rfl⟩ empty together
    exact separated n first second atFirst atSecond empty ((conflict atFirst atSecond).mpr together)
  · intro apart n first second atFirst atSecond empty conflicting
    exact apart n _ _ ⟨first, atFirst, rfl⟩ ⟨second, atSecond, rfl⟩ empty
      ((conflict atFirst atSecond).mp conflicting)

end Writing

namespace Division

/-- By induction on the parts: every lexeme is the spelling of one that has a kind. -/
theorem exists_division_eq (division : Division) (lexemes : ∀ part ∈ division.parts, IsLexeme part.2) :
    ∃ writing : Writing, (∀ part ∈ writing.parts, part.2.Valid) ∧ writing.division = division := by
  obtain ⟨parts, last⟩ := division
  induction parts with
  | nil => exact ⟨⟨[], last⟩, by simp, rfl⟩
  | cons part parts ih =>
      obtain ⟨gap, text⟩ := part
      obtain ⟨lexeme, valid, rfl⟩ := Lexeme.exists_of_isLexeme (lexemes (gap, text) List.mem_cons_self)
      obtain ⟨writing, valids, same⟩ := ih fun part member => lexemes part (List.mem_cons_of_mem _ member)
      obtain ⟨rfl, rfl⟩ := Division.mk.inj same
      exact ⟨⟨(gap, lexeme) :: writing.parts, writing.last⟩, List.forall_mem_cons.mpr ⟨valid, valids⟩, rfl⟩

/-- The legal divisions are those that well separated writings make. -/
theorem legal_iff_exists_writing {division : Division} :
    division.Legal ↔
      ∃ writing : Writing, writing.Valid ∧ writing.Separated ∧ writing.division = division := by
  constructor
  · intro legal
    obtain ⟨writing, valid, rfl⟩ := division.exists_division_eq legal.lexemes
    refine ⟨writing, ?_, ?_, rfl⟩
    · exact Writing.valid_iff.mpr ⟨valid, legal.gaps, legal.last⟩
    · exact (Writing.separated_iff valid).mpr legal.apart
  · rintro ⟨writing, valid, separated, rfl⟩
    obtain ⟨lexemesValid, gaps, last⟩ := Writing.valid_iff.mp valid
    refine ⟨gaps, ?_, last, (Writing.separated_iff lexemesValid).mp separated⟩
    exact List.forall_mem_map.mpr fun part member => (lexemesValid part member).written.isLexeme

/-- The divisions of a source are those of the valid and separated writings of it. -/
theorem divides_iff_exists_writing {division : Division} {source : List Char} :
    division.Divides source ↔ ∃ writing : Writing, writing.Valid ∧ writing.Separated ∧
      writing.text = source ∧ writing.division = division := by
  rw [Divides, legal_iff_exists_writing]
  constructor
  · rintro ⟨⟨writing, valid, separated, rfl⟩, whole⟩
    exact ⟨writing, valid, separated, writing.text_division ▸ whole, rfl⟩
  · rintro ⟨writing, valid, separated, whole, rfl⟩
    exact ⟨⟨writing, valid, separated, rfl⟩, writing.text_division.trans whole⟩

end Division

/-!
### The scan of a divided source
-/

namespace Scanner

variable {scanner : Scanner} {source : List Char}

/-- By induction on the readings: what is scanned without errors is the text of a writing, and the scan
    brings the lexemes of that writing. Each token gives a lexeme, with the blanks that were skipped in
    front of it. -/
theorem exists_writing_of_clean (going : scanner.finished = false)
    (clean : ∀ reading ∈ scanner.readings, reading.isError = false) :
    ∃ writing : Writing, writing.Valid ∧ writing.text = scanner.cursor.unread ∧
      scanner.readings.map Reading.lexeme? =
        (writing.lexemes ++ [Lexeme.endOfInput]).map some := by
  refine readings_induction (motive := fun scanner readings =>
    (∀ reading ∈ readings, reading.isError = false) →
      ∃ writing : Writing, writing.Valid ∧ writing.text = scanner.cursor.unread ∧
        readings.map Reading.lexeme? = (writing.lexemes ++ [Lexeme.endOfInput]).map some)
    ?_ ?_ scanner going clean
  · intro scanner _ ending _
    obtain ⟨outside, blank⟩ := scanner.isEnd_pull_iff.mp ending
    refine ⟨⟨[], scanner.cursor.unread⟩, ⟨by simp, blank⟩, rfl, ?_⟩
    rw [pull_of_isBlank outside blank]
    rfl
  · intro scanner _ more later clean
    obtain ⟨here, behind⟩ := List.forall_mem_cons.mp clean
    obtain ⟨writing, valid, whole, brings⟩ := later behind
    obtain ⟨gap, stretch, rest, extent⟩ := scanner.exists_extent
    have covers := extent.covers
    cases pulled : scanner.pull.1 with
    | error error =>
        rw [pulled] at here
        cases here
    | token token =>
        rw [pulled] at more covers
        have lexemeValid := valid_of_pull pulled more
        refine ⟨⟨(gap, Lexeme.ofToken token) :: writing.parts, writing.last⟩, ?_, ?_, ?_⟩
        · exact ⟨List.forall_mem_cons.mpr ⟨⟨extent.blank, lexemeValid⟩, valid.1⟩, valid.2⟩
        · have written : stretch = (Lexeme.ofToken token).spelling := covers
          rw [extent.after] at whole
          rw [Writing.text_cons, whole, extent.unread, written]
        · rw [List.map_cons, brings]
          rfl

end Scanner

/-- No lexeme begins with a blank. -/
theorem Lexeme.Valid.head?_any_isBlank {lexeme : Lexeme} (valid : lexeme.Valid) (rest : List Char) :
    (lexeme.spelling ++ rest).head?.any isBlank = false := by
  have isLexeme := valid.written.isLexeme
  obtain ⟨first, more, spelled⟩ := isLexeme.exists_cons
  rw [spelled] at isLexeme ⊢
  exact Scanner.not_isBlank_of_isLexeme isLexeme

namespace Writing

variable {one two : Writing}

/-- Gaps end where lexemes begin, so the lexemes and the text tell what the gaps are. -/
theorem eq_of_lexemes_eq (oneValid : one.Valid) (twoValid : two.Valid)
    (lexemes : one.lexemes = two.lexemes) (text : one.text = two.text) : one = two := by
  obtain ⟨oneParts, oneLast⟩ := one
  obtain ⟨twoParts, twoLast⟩ := two
  induction oneParts generalizing twoParts with
  | nil =>
      cases twoParts with
      | nil => exact congrArg (Writing.mk []) text
      | cons part parts => cases lexemes
  | cons part parts ih =>
      cases twoParts with
      | nil => cases lexemes
      | cons other others =>
          obtain ⟨gap, lexeme⟩ := part
          obtain ⟨otherGap, otherLexeme⟩ := other
          obtain ⟨here, behind⟩ := List.cons.inj lexemes
          have here : lexeme = otherLexeme := here
          subst here
          have gapBlank : IsBlank gap := (oneValid.1 _ List.mem_cons_self).1
          have otherBlank : IsBlank otherGap := (twoValid.1 _ List.mem_cons_self).1
          have lexemeValid : lexeme.Valid := (oneValid.1 _ List.mem_cons_self).2
          rw [text_cons, text_cons] at text
          obtain ⟨rfl, rest⟩ := eq_of_append_eq_of_stops gapBlank (lexemeValid.head?_any_isBlank _)
            otherBlank (lexemeValid.head?_any_isBlank _) text
          have same := ih oneValid.of_cons others twoValid.of_cons behind (List.append_cancel_left rest)
          obtain ⟨rfl, rfl⟩ := Writing.mk.inj same
          rfl

/-- From its start, too, the text of a writing brings its lexemes exactly if it is well separated. -/
theorem map_lexeme?_readings_iff {writing : Writing} (valid : writing.Valid) :
    (readings writing.text).map Reading.lexeme? = (writing.lexemes ++ [Lexeme.endOfInput]).map some ↔
      writing.Separated :=
  Scanner.readings_text_iff_separated valid rfl rfl rfl

/-- A text is written in one way only. -/
theorem eq_of_text_eq (oneValid : one.Valid) (oneSeparated : one.Separated) (twoValid : two.Valid)
    (twoSeparated : two.Separated) (text : one.text = two.text) : one = two := by
  have bringsOne := (map_lexeme?_readings_iff oneValid).mpr oneSeparated
  have bringsTwo := (map_lexeme?_readings_iff twoValid).mpr twoSeparated
  rw [text, bringsTwo] at bringsOne
  apply eq_of_lexemes_eq oneValid twoValid _ text
  have same := (List.map_inj_right fun _ _ => Option.some.inj).mp bringsOne
  exact (List.append_cancel_right same).symm

end Writing

/-!
### Tokens and status
-/

/-- Each token stands in the source as it says. -/
theorem slice_eq_lexeme (source : String) :
    ∀ token ∈ (tokenize source).1, token.slice source.toList = token.lexeme := by
  intro token member
  obtain ⟨reading, inReadings, brings⟩ := List.mem_filterMap.mp member
  have covers := (readings_tiles source.toList).covers_slice reading inReadings
  cases reading with
  | token t =>
      cases brings
      exact covers
  | error e => cases brings

/-- The scan of a well separated writing brings its lexemes, which end with the end of input. -/
theorem exists_tokens_of_separated {source : String} {writing : Writing} (valid : writing.Valid)
    (separated : writing.Separated) (whole : writing.text = source.toList) :
    (tokenize source).2 = [] ∧ ∃ tokens, (tokenize source).1 = tokens ++ [.atEndOf source.toList] ∧
      (∀ token ∈ tokens, token.isEnd = false) ∧ tokens.map Lexeme.ofToken = writing.lexemes := by
  have brings := (Writing.map_lexeme?_readings_iff valid).mpr separated
  rw [whole] at brings
  obtain ⟨clean, lexemes⟩ := Reading.map_lexeme?_iff.mp brings
  obtain ⟨tokens, tokenized, noEnd⟩ := tokens_eq_concat source
  refine ⟨clean, tokens, tokenized, noEnd, ?_⟩
  have lexemes : (tokenize source).1.map Lexeme.ofToken =
      writing.lexemes ++ [Lexeme.endOfInput] := lexemes
  rw [tokenized, List.map_append] at lexemes
  exact List.append_cancel_right lexemes

/-- A source is scanned without errors exactly if it has a legal division. -/
theorem clean_iff_exists_divides (source : String) :
    (tokenize source).2 = [] ↔ ∃ division : Division, division.Divides source.toList := by
  constructor
  · intro none
    have clean := List.any_eq_false.mp (Reading.any_isError_eq_false_iff.mpr none)
    obtain ⟨writing, valid, whole, brings⟩ :=
      (Scanner.ofChars source.toList).exists_writing_of_clean rfl
        fun reading member => Bool.eq_false_iff.mpr (clean reading member)
    have separated := (Scanner.readings_text_iff_separated valid rfl rfl whole.symm).mp brings
    refine ⟨writing.division, Division.divides_iff_exists_writing.mpr ?_⟩
    exact ⟨writing, valid, separated, whole, rfl⟩
  · rintro ⟨division, divides⟩
    obtain ⟨writing, valid, separated, whole, _⟩ := Division.divides_iff_exists_writing.mp divides
    exact (exists_tokens_of_separated valid separated whole).1

namespace Division

variable {one two division : Division}

/-- Two divisions of one source are the same, because the scan has one result. -/
theorem Divides.unique {source : List Char} (oneDivides : one.Divides source)
    (twoDivides : two.Divides source) : one = two := by
  obtain ⟨first, firstValid, firstSeparated, firstWhole, rfl⟩ := divides_iff_exists_writing.mp oneDivides
  obtain ⟨second, secondValid, secondSeparated, secondWhole, rfl⟩ :=
    divides_iff_exists_writing.mp twoDivides
  have whole := firstWhole.trans secondWhole.symm
  rw [Writing.eq_of_text_eq firstValid firstSeparated secondValid secondSeparated whole]

/-- The lexemes of a division are what stands for the tokens. -/
theorem Divides.exists_tokens {source : String} (divides : division.Divides source.toList) :
    ∃ tokens, (tokenize source).1 = tokens ++ [.atEndOf source.toList] ∧
      (∀ token ∈ tokens, token.isEnd = false) ∧
      tokens.map (Token.slice source.toList) = division.lexemes := by
  obtain ⟨writing, valid, separated, whole, rfl⟩ := divides_iff_exists_writing.mp divides
  obtain ⟨_, tokens, tokenized, noEnd, lexemes⟩ := exists_tokens_of_separated valid separated whole
  refine ⟨tokens, tokenized, noEnd, ?_⟩
  have slices : tokens.map (Token.slice source.toList) = tokens.map Token.lexeme := by
    apply List.map_congr_left
    intro token member
    apply slice_eq_lexeme source token
    rw [tokenized]
    exact List.mem_append_left _ member
  rw [slices, Writing.lexemes_division, ← lexemes, List.map_map]
  rfl

end Division

/-- A source is scanned without errors if and only if it has a legal division. There is no more than one,
    its lexemes are, in order, what stands in the source for the tokens in front of the end of input, and
    it is what decides on the status with which a run on the source ends. -/
theorem divides_iff_clean (source : String) :
    ((tokenize source).2 = [] ↔ ∃ division : Division, division.Divides source.toList) ∧
    (∀ one two : Division, one.Divides source.toList → two.Divides source.toList → one = two) ∧
    (∀ division : Division, division.Divides source.toList →
      ∃ tokens, (tokenize source).1 = tokens ++ [.atEndOf source.toList] ∧
        (∀ token ∈ tokens, token.isEnd = false) ∧
        tokens.map (Token.slice source.toList) = division.lexemes) ∧
    (∀ (world : World) words arguments, CommandLine.Arguments.parse words = .ok arguments →
      world.sink = .working → world.source arguments = .ok source →
        ((∃ division : Division, division.Divides source.toList) → (world.run words).status = 0) ∧
        ((¬ ∃ division : Division, division.Divides source.toList) → (world.run words).status = 1)) := by
  have accepts := clean_iff_exists_divides source
  refine ⟨accepts, fun _ _ => Division.Divides.unique, fun _ => Division.Divides.exists_tokens, ?_⟩
  intro world words arguments parsed working readable
  rw [World.status_run parsed working readable, ← accepts]
  exact ⟨fun clean => if_pos clean, fun failed => if_neg failed⟩

/-- For instance `1 -2` in the file `/tmp/a.src`: the blank keeps two integers apart, and the sign goes to the
    second. -/
theorem divides_one_minus_two :
    Division.Divides ⟨[([], ['1']), ([' '], ['-', '2'])], []⟩ "1 -2".toList ∧
      CommandLine.Arguments.parse ["/tmp/a.src"] = .ok ⟨some "/tmp/a.src", false, false⟩ ∧
      (World.ofFile "/tmp/a.src" "1 -2" none .working).source ⟨some "/tmp/a.src", false, false⟩ =
        .ok "1 -2" ∧
      ((World.ofFile "/tmp/a.src" "1 -2" none .working).run ["/tmp/a.src"]).status = 0 := by
  have divides : Division.Divides ⟨[([], ['1']), ([' '], ['-', '2'])], []⟩ "1 -2".toList := by
    have one : IsInteger ['1'] := isInteger_cons_iff.mpr ⟨Or.inl rfl, by simp⟩
    have two : IsInteger ['-', '2'] := isInteger_cons_iff.mpr ⟨Or.inr ⟨rfl, by simp⟩, by simp [isDigit]⟩
    refine ⟨⟨by simp [IsBlank, isBlank], ?_, by simp [IsBlank], ?_⟩, rfl⟩
    · simpa using ⟨Or.inr (Or.inl one), Or.inr (Or.inl two)⟩
    · intro n first second _ atSecond empty
      cases n with
      | zero =>
          cases atSecond
          cases empty
      | succ n => cases atSecond
  have readable : (World.ofFile "/tmp/a.src" "1 -2" none .working).source
      ⟨some "/tmp/a.src", false, false⟩ = .ok "1 -2" := World.source_ofFile (by decide) _ _ _ _ _
  refine ⟨divides, rfl, readable, ?_⟩
  exact ((divides_iff_clean "1 -2").2.2.2 _ ["/tmp/a.src"] _ rfl rfl readable).1 ⟨_, divides⟩

end MaximalMunch
