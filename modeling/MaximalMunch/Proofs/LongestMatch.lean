/-
Module: MaximalMunch.Proofs.LongestMatch
Layer: Proofs
Purpose: The rule of the longest lexeme, and that the recognizers keep it. `Finding.Fits` says what the
  rule makes of a text, in terms of the languages of lexemes alone: the longest lexeme that the text
  begins with, unless that is an integer that runs into a word; and where the text begins with no
  lexeme, which error the first character makes. `fits_of` says that whatever is found at the front of a
  text fits it. There is one lemma for each recognizer, and each of them compares what the recognizer
  takes with every other lexeme that begins with the same character. The main result reads the rule off
  a pull of the scanner (`pull_munchesLongest`).
Imports: MaximalMunch.Proofs.Spelling, MaximalMunch.Scanner.Reachable
Trusted boundary: none
Main exports: Finding.Fits, fits_of, Scanner.MunchesLongest, pull_munchesLongest
Open obligations: none
-/
import MaximalMunch.Proofs.Spelling
import MaximalMunch.Scanner.Reachable

namespace MaximalMunch

open CharClass

/-!
### The longest of the lexemes with one first character

What a recognizer takes and what it competes with share the first character of the text, so their
lengths are compared behind it.
-/

/-- A beginning of a text all of which passes a test is no longer than the longest one. -/
theorem length_le_length_takeWhile {test : Char → Bool} {part text : List Char}
    (front : part <+: text) (all : ∀ c ∈ part, test c = true) :
    part.length ≤ (text.takeWhile test).length := by
  obtain ⟨rest, rfl⟩ := front
  rw [List.takeWhile_append_of_pos all, List.length_append]
  exact Nat.le_add_right _ _

theorem forall_mem_takeWhile {test : Char → Bool} {text : List Char} :
    ∀ c ∈ text.takeWhile test, test c = true :=
  List.all_eq_true.mp List.all_takeWhile

/-- Lexemes are compared behind the character that they share. -/
theorem isLongest_cons {first : Char} {rest more : List Char} (isLexeme : IsLexeme (first :: more))
    (front : more <+: rest)
    (longest : ∀ others, IsLexeme (first :: others) → others <+: rest →
      others.length ≤ more.length) :
    IsLongest (first :: rest) (first :: more) := by
  refine ⟨isLexeme, List.cons_prefix_cons.mpr ⟨rfl, front⟩, ?_⟩
  intro other otherLexeme otherFront
  obtain ⟨head, others, rfl⟩ := otherLexeme.exists_cons
  obtain ⟨rfl, othersFront⟩ := List.cons_prefix_cons.mp otherFront
  exact Nat.succ_le_succ (longest others otherLexeme othersFront)

/-- If no lexeme begins with the first character, none stands at the front of the text. -/
theorem not_prefix_of_forall_not_isLexeme {first : Char} {rest : List Char}
    (none : ∀ others, others <+: rest → ¬ IsLexeme (first :: others)) :
    ∀ lexeme, IsLexeme lexeme → ¬ lexeme <+: first :: rest := by
  intro lexeme isLexeme front
  obtain ⟨head, others, rfl⟩ := isLexeme.exists_cons
  obtain ⟨rfl, othersFront⟩ := List.cons_prefix_cons.mp front
  exact none others othersFront isLexeme

/-- Only one lexeme is the longest. -/
theorem IsLongest.unique {text first second : List Char} (one : IsLongest text first)
    (two : IsLongest text second) : first = second := by
  obtain ⟨firstLexeme, firstFront, firstLongest⟩ := one
  obtain ⟨secondLexeme, secondFront, secondLongest⟩ := two
  have same : first.length = second.length :=
    Nat.le_antisymm (secondLongest first firstLexeme firstFront)
      (firstLongest second secondLexeme secondFront)
  exact (List.prefix_of_prefix_length_le firstFront secondFront (Nat.le_of_eq same)).eq_of_length same

theorem IsLongest.exists_cons {first : Char} {rest longest : List Char}
    (h : IsLongest (first :: rest) longest) : ∃ more, longest = first :: more := by
  obtain ⟨head, more, rfl⟩ := h.1.exists_cons
  obtain ⟨rfl, _⟩ := List.cons_prefix_cons.mp h.2.1
  exact ⟨more, rfl⟩

namespace Finding

/-- What the rule of the longest lexeme makes of a text that does not begin with a blank. -/
def Fits (text : List Char) : Finding → Prop
  | .lexeme kind body =>
      kind.Accepts body ∧ IsLongest text (kind.lexeme body) ∧ ¬ RunsIntoWord text (kind.lexeme body)
  | .malformed =>
      text.head? = some '_' ∨ ∃ integer, IsLongest text integer ∧ RunsIntoWord text integer
  | .unexpected =>
      (∀ lexeme, IsLexeme lexeme → ¬ lexeme <+: text) ∧ text.head? ≠ some '_' ∧
        text.head? ≠ some '"'
  | .unterminated =>
      (∀ lexeme, IsLexeme lexeme → ¬ lexeme <+: text) ∧ text.head? = some '"'

/-!
### Each recognizer finds what fits
-/

/-- A letter begins a word, which takes all word characters that follow, and no lexeme takes more. -/
theorem fits_ofWord {first : Char} (letter : CharClass.of first = .letter) (rest : List Char) :
    (ofWord first rest).Fits (first :: rest) := by
  have word : IsWord (first :: rest.takeWhile isWord) :=
    isWord_cons_iff.mpr ⟨isLetter_iff.mpr letter, forall_mem_takeWhile⟩
  have longest : IsLongest (first :: rest) (first :: rest.takeWhile isWord) := by
    apply isLongest_cons (Or.inl word) (List.takeWhile_prefix _)
    intro others isLexeme front
    rw [isLexeme_cons_iff, letter] at isLexeme
    exact length_le_length_takeWhile front isLexeme
  have noInteger : ¬ IsInteger (first :: rest.takeWhile isWord) := by
    rw [isInteger_cons_iff, isDigit_iff, letter]
    rintro ⟨digit | ⟨sign, _⟩, _⟩
    · cases digit
    · cases letter.symm.trans (of_eq_operator_of_isSign sign)
  refine ⟨Kind.accepts_iff.mpr (Or.inl ⟨word, rfl⟩), ?_, ?_⟩
  · rw [lexeme_of_ne_string (getD_ofReservedWord?_ne_string _)]
    exact longest
  · rw [lexeme_of_ne_string (getD_ofReservedWord?_ne_string _)]
    exact fun runs => noInteger runs.1

/-- Where the recognizer for integers is asked: at a digit, and at a sign with a digit behind it. -/
def BeginsInteger (first : Char) (rest : List Char) : Prop :=
  isDigit first = true ∨ isSign first = true ∧ rest.head?.any isDigit = true

/-- The digits behind a first digit, or behind a sign that a digit follows, make an integer with it. -/
theorem isInteger_takeWhile {first : Char} {rest : List Char} (begins : BeginsInteger first rest) :
    IsInteger (first :: rest.takeWhile isDigit) := by
  refine isInteger_cons_iff.mpr ⟨?_, forall_mem_takeWhile⟩
  rcases begins with digit | ⟨sign, digit⟩
  · exact Or.inl digit
  · right
    cases rest with
    | nil => cases digit
    | cons next rest =>
        have digit : isDigit next = true := digit
        exact ⟨sign, by simp [digit]⟩

/-- No lexeme that begins like an integer is longer than it. -/
theorem isLongest_integer {first : Char} {rest : List Char} (begins : BeginsInteger first rest) :
    IsLongest (first :: rest) (first :: rest.takeWhile isDigit) := by
  apply isLongest_cons (Or.inr (Or.inl (isInteger_takeWhile begins))) (List.takeWhile_prefix _)
  intro others isLexeme front
  rw [isLexeme_cons_iff] at isLexeme
  rcases begins with digit | ⟨sign, _⟩
  · rw [isDigit_iff.mp digit] at isLexeme
    exact length_le_length_takeWhile front isLexeme
  · rw [of_eq_operator_of_isSign sign] at isLexeme
    rcases isLexeme with ⟨_, _, digits⟩ | ⟨kind, spelled⟩
    · exact length_le_length_takeWhile front digits
    · have alone : others = [] := symbol?_eq_some_sign sign spelled
      rw [alone]
      exact Nat.zero_le _

/-- An integer is taken if what follows does not spoil it, and is reported as malformed if it does. -/
theorem fits_ofInteger {first : Char} {rest : List Char} (begins : BeginsInteger first rest) :
    (ofInteger first rest).Fits (first :: rest) := by
  have integer := isInteger_takeWhile begins
  have longest := isLongest_integer begins
  have ends : integerEnd first rest = (first :: rest.takeWhile isDigit).length :=
    integerEnd_eq_length (begins.imp_right And.left) rest
  unfold ofInteger
  rw [ends, ← List.head?_drop]
  split
  · next runs => exact Or.inr ⟨_, longest, integer, runs⟩
  · next stops => exact ⟨integer, longest, fun runs => stops runs.2⟩

/-- Where the recognizer for symbols is asked: at a punctuation mark, and at an operator that is not the
    sign of an integer. -/
def BeginsSymbol (first : Char) (rest : List Char) : Prop :=
  CharClass.of first = .punctuation ∨
    CharClass.of first = .operator ∧ ¬ (isSign first = true ∧ rest.head?.any isDigit = true)

/-- A lexeme there is a symbol, and what stands behind its first character is at most the next one. -/
theorem exists_symbol_of_beginsSymbol {first : Char} {rest others : List Char}
    (begins : BeginsSymbol first rest) (front : others <+: rest) (isLexeme : IsLexeme (first :: others)) :
    ∃ kind : Kind, kind.symbol? = some (first :: others) ∧ (others = [] ∨ others = rest.take 1) := by
  have symbol : IsSymbol (first :: others) := by
    rw [isLexeme_cons_iff] at isLexeme
    rcases begins with mark | ⟨operator, unsigned⟩
    · rw [mark] at isLexeme
      exact isLexeme
    · rw [operator] at isLexeme
      rcases isLexeme with ⟨sign, some, digits⟩ | symbol
      · obtain ⟨digit, more, rfl⟩ := List.exists_cons_of_ne_nil some
        obtain ⟨beyond, rfl⟩ := front
        exact absurd ⟨sign, digits digit List.mem_cons_self⟩ unsigned
      · exact symbol
  obtain ⟨kind, spelled⟩ := symbol
  refine ⟨kind, spelled, ?_⟩
  have short : others.length ≤ 1 := (symbol?_eq_some_cons spelled).2
  obtain ⟨beyond, rfl⟩ := front
  match others, short with
  | [], _ => exact Or.inl rfl
  | [next], _ => exact Or.inr rfl

/-- What may begin a symbol is of no class but those of punctuation and operators. -/
theorem BeginsSymbol.of_ne {first : Char} {rest : List Char} {kind : CharClass}
    (begins : BeginsSymbol first rest) (noMark : kind ≠ .punctuation) (noOperator : kind ≠ .operator) :
    CharClass.of first ≠ kind := by
  rcases begins with mark | ⟨operator, _⟩
  · rw [mark]
    exact noMark.symm
  · rw [operator]
    exact noOperator.symm

/-- No symbol is an integer, the signs included, since they have no digit. -/
theorem not_isInteger_of_symbol? {kind : Kind} {text : List Char}
    (spelled : kind.symbol? = some text) : ¬ IsInteger text := by
  cases text with
  | nil => exact absurd spelled (symbol?_ne_some_nil kind)
  | cons first more =>
      rw [isInteger_cons_iff, isDigit_iff]
      rintro ⟨digit | ⟨sign, some⟩, _⟩
      · rcases (symbol?_eq_some_cons spelled).1 with operator | mark
        · cases digit.symm.trans operator
        · cases digit.symm.trans mark
      · exact some (symbol?_eq_some_sign sign spelled)

/-- A symbol that is the longest lexeme is found as what it is; nothing can spoil it. -/
theorem fits_lexeme_of_symbol? {kind : Kind} {text spelling : List Char}
    (spelled : kind.symbol? = some spelling) (longest : IsLongest text spelling) :
    (Finding.lexeme kind spelling).Fits text := by
  have found : Kind.ofSymbol? spelling = some kind := Kind.ofSymbol?_eq_some_iff.mpr spelled
  have written : kind.lexeme spelling = spelling :=
    lexeme_of_ne_string (ne_string_of_ofSymbol? found) spelling
  refine ⟨Kind.accepts_of_symbol? spelled, ?_, ?_⟩
  · rw [written]
    exact longest
  · rw [written]
    exact fun runs => not_isInteger_of_symbol? spelled runs.1

/-- A character that begins no lexeme, no string literal and no malformed run is unexpected. -/
theorem fits_unexpected {first : Char} {rest : List Char}
    (none : ∀ others, others <+: rest → ¬ IsLexeme (first :: others))
    (noUnderscore : CharClass.of first ≠ .underscore) (noQuote : CharClass.of first ≠ .quote) :
    Finding.unexpected.Fits (first :: rest) := by
  refine ⟨not_prefix_of_forall_not_isLexeme none, ?_, ?_⟩
  · exact fun same => noUnderscore (eq_underscore_iff.mp (Option.some.inj same))
  · exact fun same => noQuote (eq_quote_iff.mp (Option.some.inj same))

/-- Of two symbols with one first character the longer one is found, if it is there. -/
theorem fits_ofSymbol {first : Char} {rest : List Char} (begins : BeginsSymbol first rest) :
    (ofSymbol first rest).Fits (first :: rest) := by
  unfold ofSymbol
  split
  · next kind found =>
      have spelled := Kind.ofSymbol?_eq_some_iff.mp found
      apply fits_lexeme_of_symbol? spelled
      apply isLongest_cons (Or.inr (Or.inr (Or.inr ⟨kind, spelled⟩))) (List.take_prefix 1 rest)
      intro others isLexeme front
      obtain ⟨_, _, rfl | rfl⟩ := exists_symbol_of_beginsSymbol begins front isLexeme
      · exact Nat.zero_le _
      · exact Nat.le_refl _
  · next noPair =>
      -- No two characters are a symbol here, so a lexeme can only be the first one.
      have single : ∀ others, others <+: rest → IsLexeme (first :: others) →
          others = [] ∧ ∃ kind, Kind.ofSymbol? [first] = some kind := by
        intro others front isLexeme
        obtain ⟨kind, spelled, rfl | rfl⟩ := exists_symbol_of_beginsSymbol begins front isLexeme
        · exact ⟨rfl, kind, Kind.ofSymbol?_eq_some_iff.mpr spelled⟩
        · rw [← Kind.ofSymbol?_eq_some_iff, noPair] at spelled
          cases spelled
      split
      · next kind found =>
          have spelled := Kind.ofSymbol?_eq_some_iff.mp found
          apply fits_lexeme_of_symbol? spelled
          apply isLongest_cons (Or.inr (Or.inr (Or.inr ⟨kind, spelled⟩))) List.nil_prefix
          intro others isLexeme front
          exact Nat.le_of_eq (congrArg List.length (single others front isLexeme).1)
      · next noSingle =>
          apply fits_unexpected _ (begins.of_ne (by simp) (by simp)) (begins.of_ne (by simp) (by simp))
          intro others front isLexeme
          obtain ⟨_, kind, found⟩ := single others front isLexeme
          rw [noSingle] at found
          cases found

/-- Every string literal at the front of a text ends at the one closing mark that the search finds. -/
theorem exists_closingMark?_of_isLexeme {rest others : List Char} (front : others <+: rest)
    (isLexeme : IsLexeme ('"' :: others)) :
    ∃ body, others = body ++ ['"'] ∧ closingMark? 0 rest = some body.length := by
  obtain ⟨body, rfl, valid⟩ : ∃ body, others = body ++ ['"'] ∧ StringBody body :=
    isLexeme_cons_iff.mp isLexeme
  obtain ⟨beyond, rfl⟩ := front
  refine ⟨body, rfl, ?_⟩
  have found := closingMark?_append valid 0 beyond
  rw [Nat.zero_add] at found
  simpa using found

/-- From a mark to the first one that is not escaped is the literal, unless a line feed comes before. -/
theorem fits_ofString (rest : List Char) : (ofString rest).Fits ('"' :: rest) := by
  unfold ofString
  split
  · next place found =>
      obtain ⟨body, beyond, rfl, valid, ends⟩ := closingMark?_sound found
      have taken : (body ++ '"' :: beyond).take place = body := by
        rw [ends, Nat.zero_add, List.take_left]
      rw [taken]
      have isLexeme : IsLexeme ('"' :: (body ++ ['"'])) :=
        isLexeme_cons_iff.mpr ⟨body, rfl, valid⟩
      refine ⟨valid, isLongest_cons isLexeme ⟨beyond, by simp⟩ ?_, ?_⟩
      · intro others otherLexeme front
        obtain ⟨other, rfl, same⟩ := exists_closingMark?_of_isLexeme front otherLexeme
        have equal : other.length = body.length := by
          rw [found, ends, Nat.zero_add] at same
          exact (Option.some.inj same).symm
        simp [equal]
      · rintro ⟨integer, _⟩
        rw [Kind.lexeme, if_pos rfl, List.cons_append, isInteger_cons_iff] at integer
        rcases integer.1 with digit | ⟨sign, _⟩
        · cases digit
        · cases sign
  · next missing =>
      refine ⟨not_prefix_of_forall_not_isLexeme ?_, rfl⟩
      intro others front isLexeme
      obtain ⟨_, _, found⟩ := exists_closingMark?_of_isLexeme front isLexeme
      rw [missing] at found
      cases found

/-- What is found at the front of a text is what the rule of the longest lexeme makes of it. -/
theorem fits_of (first : Char) (rest : List Char) : (Finding.of first rest).Fits (first :: rest) := by
  unfold Finding.of
  cases kind : CharClass.of first with
  | letter => exact fits_ofWord kind rest
  | digit => exact fits_ofInteger (Or.inl (isDigit_iff.mpr kind))
  | operator =>
      simp only
      split
      · next signed => exact fits_ofInteger (Or.inr (by simpa using signed))
      · next unsigned => exact fits_ofSymbol (Or.inr ⟨kind, by simpa using unsigned⟩)
  | punctuation => exact fits_ofSymbol (Or.inl kind)
  | quote =>
      rw [eq_quote_iff.mpr kind]
      exact fits_ofString rest
  | underscore => exact Or.inl (congrArg some (eq_underscore_iff.mpr kind))
  | blank =>
      apply fits_unexpected _ (by simp [kind]) (by simp [kind])
      intro others _
      rw [isLexeme_cons_iff, kind]
      exact id
  | unrecognized =>
      apply fits_unexpected _ (by simp [kind]) (by simp [kind])
      intro others _
      rw [isLexeme_cons_iff, kind]
      exact id

/-!
### The rule read the other way

Each case of the rule allows one finding, so what the languages say about a text decides what is found.
-/

/-- The longest lexeme is found, if it does not run into a word. -/
theorem exists_lexeme_of_isLongest {first : Char} {rest longest : List Char}
    (isLongest : IsLongest (first :: rest) longest) (stops : ¬ RunsIntoWord (first :: rest) longest) :
    ∃ lexeme : Lexeme, lexeme.Valid ∧ lexeme.spelling = longest ∧
      Finding.of first rest = .lexeme lexeme.kind lexeme.text := by
  have fits := fits_of first rest
  cases found : Finding.of first rest with
  | lexeme kind body =>
      rw [found] at fits
      obtain ⟨accepts, found, _⟩ := fits
      exact ⟨⟨kind, body⟩, accepts, found.unique isLongest, rfl⟩
  | malformed =>
      rw [found] at fits
      rcases fits with underscore | ⟨integer, found, runs⟩
      · obtain ⟨others, rfl⟩ := isLongest.exists_cons
        have isLexeme := isLexeme_cons_iff.mp isLongest.1
        rw [eq_underscore_iff.mp (Option.some.inj underscore)] at isLexeme
        exact isLexeme.elim
      · rw [found.unique isLongest] at runs
        exact absurd runs stops
  | unexpected =>
      rw [found] at fits
      exact absurd isLongest.2.1 (fits.1 longest isLongest.1)
  | unterminated =>
      rw [found] at fits
      exact absurd isLongest.2.1 (fits.1 longest isLongest.1)

/-- An underscore, or an integer that runs into a word, is found to be malformed. -/
theorem eq_malformed_of {first : Char} {rest : List Char}
    (spoiled : first = '_' ∨
      ∃ integer, IsLongest (first :: rest) integer ∧ RunsIntoWord (first :: rest) integer) :
    Finding.of first rest = .malformed := by
  rcases spoiled with rfl | ⟨integer, longest, runs⟩
  · rfl
  · have fits := fits_of first rest
    cases found : Finding.of first rest with
    | lexeme kind body =>
        rw [found] at fits
        obtain ⟨_, longer, stops⟩ := fits
        rw [longer.unique longest] at stops
        exact absurd runs stops
    | malformed => rfl
    | unexpected =>
        rw [found] at fits
        exact absurd longest.2.1 (fits.1 integer longest.1)
    | unterminated =>
        rw [found] at fits
        exact absurd longest.2.1 (fits.1 integer longest.1)

/-- Where no lexeme stands, an open string literal or an unexpected character is found. -/
theorem eq_of_forall_not_isLexeme {first : Char} {rest : List Char}
    (none : ∀ lexeme, IsLexeme lexeme → ¬ lexeme <+: first :: rest) (noUnderscore : first ≠ '_') :
    Finding.of first rest = if first = '"' then .unterminated else .unexpected := by
  have fits := fits_of first rest
  cases found : Finding.of first rest with
  | lexeme kind body =>
      rw [found] at fits
      exact absurd fits.2.1.2.1 (none _ fits.2.1.1)
  | malformed =>
      rw [found] at fits
      rcases fits with underscore | ⟨integer, longest, _⟩
      · exact absurd (Option.some.inj underscore) noUnderscore
      · exact absurd longest.2.1 (none integer longest.1)
  | unexpected =>
      rw [found] at fits
      rw [if_neg fun same => fits.2.2 (congrArg some same)]
  | unterminated =>
      rw [found] at fits
      rw [if_pos (Option.some.inj fits.2)]

end Finding

namespace Scanner

/-- What the rule of the longest lexeme demands of a pull, when `done` has been read and what is unread
    falls apart into the blanks `gap` and a `text` that does not begin with one. -/
structure MunchesLongest (scanner : Scanner) (done gap text : List Char) : Prop where
  /-- Inside of a malformed run the next character is an error, before any blank is skipped. -/
  goesOn : ∀ c rest, scanner.inMalformedRun = true → gap ++ text = c :: rest → isWord c = true →
    scanner.pull =
      (.error (.invalidStart c (.after done)),
        ⟨⟨rest, .after (done ++ [c])⟩, true, scanner.finished⟩)
  atEnd : scanner.OutsideRun → text = [] →
    scanner.pull =
      (.token ⟨.endOfInput, "", .after (done ++ gap)⟩,
        ⟨⟨[], .after (done ++ gap)⟩, false, scanner.finished⟩)
  /-- The longest lexeme is taken, with the one kind and text that are written so. -/
  longest : scanner.OutsideRun → ∀ taken rest, text = taken ++ rest → IsLongest text taken →
    ¬ RunsIntoWord text taken →
      ∃ lexeme : Lexeme, (lexeme.Valid ∧ lexeme.spelling = taken) ∧
        (∀ other : Lexeme, other.Valid → other.spelling = taken → other = lexeme) ∧
        scanner.pull =
          (.token ⟨lexeme.kind, String.ofList lexeme.text, .after (done ++ gap)⟩,
            ⟨⟨rest, .after (done ++ gap ++ taken)⟩, false, scanner.finished⟩)
  /-- An integer that runs into a word is an error for its first character, as is an underscore. -/
  malformed : scanner.OutsideRun → ∀ first rest, text = first :: rest →
    (first = '_' ∨ ∃ integer, IsLongest text integer ∧ RunsIntoWord text integer) →
      scanner.pull =
        (.error (.invalidStart first (.after (done ++ gap))),
          ⟨⟨rest, .after (done ++ gap ++ [first])⟩, true, scanner.finished⟩)
  /-- A mark that begins no string literal spoils everything behind it. -/
  unterminated : scanner.OutsideRun → ∀ rest, text = '"' :: rest →
    (∀ lexeme, IsLexeme lexeme → ¬ lexeme <+: text) →
      scanner.pull =
        (.error (.unterminatedString (.after (done ++ gap))),
          ⟨⟨[], .after (done ++ gap ++ text)⟩, false, scanner.finished⟩)
  /-- Any other character that begins no lexeme is an error of its own. -/
  unexpected : scanner.OutsideRun → ∀ first rest, text = first :: rest → first ≠ '_' →
    first ≠ '"' → (∀ lexeme, IsLexeme lexeme → ¬ lexeme <+: text) →
      scanner.pull =
        (.error (.unexpectedCharacter first (.after (done ++ gap))),
          ⟨⟨rest, .after (done ++ gap ++ [first])⟩, false, scanner.finished⟩)

section Pull

variable {scanner : Scanner} {done gap : List Char}

/-- A pull outside of a malformed run passes over blanks and brings what is found behind them. -/
theorem pull_of_text {first : Char} {rest : List Char} (outside : scanner.OutsideRun)
    (cursor : scanner.cursor = ⟨gap ++ first :: rest, .after done⟩) (blank : IsBlank gap)
    (stops : isBlank first = false) :
    scanner.pull =
      ((Finding.of first rest).reading first (.after (done ++ gap)),
        ⟨(Finding.of first rest).past ⟨first :: rest, .after (done ++ gap)⟩,
          (Finding.of first rest).isMalformed, scanner.finished⟩) := by
  have unread : scanner.cursor.unread = gap ++ first :: rest := by rw [cursor]
  have place : scanner.position.advanceAll gap = .after (done ++ gap) := by
    rw [position, cursor, Position.advanceAll_after]
  rw [pull_of_outsideRun outside unread blank stops, readAt_of_cons rfl, place]

/-- Past a finding of width one stands the rest of the text. -/
theorem past_first {first : Char} {rest : List Char} {finding : Finding}
    (one : finding.width (first :: rest).length = 1) :
    finding.past ⟨first :: rest, .after done⟩ = ⟨rest, .after (done ++ [first])⟩ := by
  rw [Finding.past_eq_advanceBy, one, Position.after_concat]
  rfl

/-- Past a lexeme stands what follows its spelling. -/
theorem past_lexeme (lexeme : Lexeme) (rest : List Char) :
    (Finding.lexeme lexeme.kind lexeme.text).past ⟨lexeme.spelling ++ rest, .after done⟩ =
      ⟨rest, .after (done ++ lexeme.spelling)⟩ := by
  rw [Finding.past, ← Position.advanceAll_after]
  simp [Cursor.advanceBy, Lexeme.spelling]

/-- Past an open string literal nothing is left. -/
theorem past_unterminated (text : List Char) :
    Finding.unterminated.past ⟨text, .after done⟩ = ⟨[], .after (done ++ text)⟩ := by
  rw [Finding.past, Cursor.advanceToEnd, Position.advanceAll_after]

/-- Wherever the cursor stands, behind whatever gap: what the pull brings is the longest match there. -/
theorem munchesLongest_of_cursor {text : List Char}
    (cursor : scanner.cursor = ⟨gap ++ text, .after done⟩) (blank : IsBlank gap)
    (stops : text.head?.any isBlank = false) : scanner.MunchesLongest done gap text := by
  constructor
  case goesOn =>
    intro c rest run unread word
    rw [unread] at cursor
    rw [pull_of_insideRun run (by rw [cursor]) word, position, cursor, Position.after_concat]
  case atEnd =>
    rintro outside rfl
    have unread : scanner.cursor.unread = gap ++ [] := by rw [cursor]
    rw [pull_of_outsideRun outside unread blank stops, readAt_of_nil rfl, position, cursor,
      Position.advanceAll_after]
  case longest =>
    rintro outside taken rest rfl isLongest free
    obtain ⟨first, more, rfl⟩ := isLongest.1.exists_cons
    rw [List.cons_append] at cursor stops isLongest free
    obtain ⟨lexeme, valid, spelled, found⟩ :=
      Finding.exists_lexeme_of_isLongest isLongest free
    refine ⟨lexeme, ⟨valid, spelled⟩, ?_, ?_⟩
    · intro other otherValid otherSpelled
      exact Lexeme.eq_of_spelling_eq otherValid valid (otherSpelled.trans spelled.symm)
    · have pulled := pull_of_text outside cursor blank stops
      rw [found, ← List.cons_append, ← spelled, past_lexeme] at pulled
      rw [pulled, spelled]
      rfl
  case malformed =>
    rintro outside first rest rfl spoiled
    rw [pull_of_text outside cursor blank stops, Finding.eq_malformed_of spoiled, past_first rfl]
    rfl
  case unterminated =>
    rintro outside rest rfl none
    rw [pull_of_text outside cursor blank stops,
      Finding.eq_of_forall_not_isLexeme none (by decide), if_pos rfl, past_unterminated]
    rfl
  case unexpected =>
    rintro outside first rest rfl noUnderscore noMark none
    rw [pull_of_text outside cursor blank stops,
      Finding.eq_of_forall_not_isLexeme none noUnderscore, if_neg noMark, past_first rfl]
    rfl

end Pull

/-- In every state that a scan can be in, a pull takes the longest lexeme that stands behind the blanks,
    or brings the error that the rule of the longest lexeme makes of the text there. -/
theorem pull_munchesLongest {source : List Char} {scanner : Scanner}
    (reachable : Reachable source scanner) :
    ∃ done gap text, source = done ++ (gap ++ text) ∧
      scanner.cursor = ⟨gap ++ text, .after done⟩ ∧ IsBlank gap ∧
      text.head?.any isBlank = false ∧ scanner.MunchesLongest done gap text := by
  obtain ⟨done, whole, place⟩ := reachable.readsFrom
  obtain ⟨gap, text, unread, blank, stops⟩ := exists_stop isBlank scanner.cursor.unread
  have cursor : scanner.cursor = ⟨gap ++ text, .after done⟩ := by
    rw [← unread, ← place]
  rw [unread] at whole
  exact ⟨done, gap, text, whole, cursor, blank, stops,
    munchesLongest_of_cursor cursor blank stops⟩

/-- For instance in the state behind the `x` of `x -7`. -/
theorem pull_munchesLongest_behind_word :
    Reachable ['x', ' ', '-', '7'] (ofChars ['x', ' ', '-', '7']).pull.2 ∧
      ∃ done gap text, ['x', ' ', '-', '7'] = done ++ (gap ++ text) ∧
        (ofChars ['x', ' ', '-', '7']).pull.2.cursor = ⟨gap ++ text, .after done⟩ ∧ IsBlank gap ∧
        text.head?.any isBlank = false ∧
        (ofChars ['x', ' ', '-', '7']).pull.2.MunchesLongest done gap text :=
  ⟨.pull .start, pull_munchesLongest (.pull .start)⟩

end Scanner

end MaximalMunch
