/-
Module: MaximalMunch.Proofs.RoundTrip
Layer: Proofs
Purpose: Scanning what has been written. A lexeme that is carried on by what stands behind it is never
  found there, because a longer lexeme is or because an integer runs into a word
  (`eq_lexeme_iff_endsBefore`). In a writing what stands behind a lexeme is blank, or nothing, or the next
  lexeme, and the next lexeme carries it on exactly if the two conflict (`endsBefore_spelling_iff`). So the
  scan gives back the lexemes that were written if and only if the writing is well separated
  (`tokenize_text_iff_separated`): up to the first conflict it brings what was written, and there it does not.
Imports: MaximalMunch.Proofs.LongestMatch, MaximalMunch.Scanner.Stream
Trusted boundary: none
Main exports: eq_lexeme_iff_endsBefore, endsBefore_spelling_iff, readings_text_iff_separated,
  tokenize_text_iff_separated
Open obligations: none
-/
import MaximalMunch.Proofs.LongestMatch
import MaximalMunch.Scanner.Stream

namespace MaximalMunch

open CharClass

/-!
### What carries a lexeme on prevents it

Each of the three things that carry a lexeme on gives a longer lexeme, or spoils an integer. Either way the
rule of the longest lexeme does not allow the lexeme itself.
-/

/-- The longest lexeme cannot be carried on by the next character. -/
theorem IsLongest.not_isLexeme_concat {lexeme rest : List Char} {c : Char}
    (longest : IsLongest (lexeme ++ c :: rest) lexeme) : ¬ IsLexeme (lexeme ++ [c]) := by
  intro longer
  have bound := longest.2.2 (lexeme ++ [c]) longer ⟨rest, by simp⟩
  rw [List.length_append, List.length_singleton] at bound
  omega

namespace Lexeme

variable {lexeme : Lexeme} {text rest : List Char}

/-- A symbol has one spelling. -/
theorem Valid.spelling_of_symbol? {spelling : List Char} (valid : lexeme.Valid)
    (symbol : lexeme.kind.symbol? = some spelling) : lexeme.spelling = spelling := by
  obtain ⟨kind, text⟩ := lexeme
  cases kind <;> cases symbol
  all_goals
    rcases valid with reserved | spelled
    · cases reserved
    · cases spelled
      rfl

/-- Three symbols are lexemes with an equals sign behind them, too. -/
theorem Valid.isLexeme_concat_equal (valid : lexeme.Valid) (takes : lexeme.takesEqual = true) :
    IsLexeme (lexeme.spelling ++ ['=']) := by
  simp only [takesEqual, Bool.or_eq_true, decide_eq_true_eq, or_assoc] at takes
  refine Or.inr (Or.inr (Or.inr ?_))
  rcases takes with kind | kind | kind
  · rw [valid.spelling_of_symbol? (by rw [kind]; rfl)]
    exact ⟨.greaterEqual, rfl⟩
  · rw [valid.spelling_of_symbol? (by rw [kind]; rfl)]
    exact ⟨.lessEqual, rfl⟩
  · rw [valid.spelling_of_symbol? (by rw [kind]; rfl)]
    exact ⟨.equalEqual, rfl⟩

/-- A sign is a lexeme with a digit behind it, too. -/
theorem Valid.isLexeme_concat_digit {c : Char} (valid : lexeme.Valid)
    (sign : lexeme.isSignSymbol = true) (digit : isDigit c = true) :
    IsLexeme (lexeme.spelling ++ [c]) := by
  simp only [isSignSymbol, Bool.or_eq_true, decide_eq_true_eq] at sign
  obtain ⟨first, signs, symbol⟩ :
      ∃ first, isSign first = true ∧ lexeme.kind.symbol? = some [first] := by
    rcases sign with kind | kind
    · exact ⟨'+', rfl, by rw [kind]; rfl⟩
    · exact ⟨'-', rfl, by rw [kind]; rfl⟩
  rw [valid.spelling_of_symbol? symbol]
  exact Or.inr (Or.inl (isInteger_cons_iff.mpr ⟨Or.inr ⟨signs, by simp⟩, by simpa using digit⟩))

/-- What ends in a word character is no symbol. -/
theorem symbol?_eq_none_of_endsInWord (ends : lexeme.endsInWord = true) :
    lexeme.kind.symbol? = none := by
  obtain ⟨kind, text⟩ := lexeme
  cases kind <;> first | rfl | cases ends

/-- Only words and integers end in a word character whatever their text. -/
theorem Written.word_or_integer (written : lexeme.Written text) (ends : lexeme.endsInWord = true) :
    IsWord text ∨ IsInteger text := by
  cases written with
  | word word _ => exact Or.inl word
  | integer integer => exact Or.inr integer
  | string => cases ends
  | symbol spelled =>
      have noSymbol := symbol?_eq_none_of_endsInWord ends
      rw [spelled] at noSymbol
      cases noSymbol

/-- A word or an integer in front of a word character is not the longest lexeme, or it runs into a word. -/
theorem not_isLongest_of_word {c : Char} (ends : IsWord text ∨ IsInteger text)
    (word : isWord c = true) :
    ¬ IsLongest (text ++ c :: rest) text ∨ RunsIntoWord (text ++ c :: rest) text := by
  rcases ends with ⟨first, more, rfl, letter, words⟩ | integer
  · left
    intro longest
    refine longest.not_isLexeme_concat (Or.inl ⟨first, more ++ [c], rfl, letter, ?_⟩)
    simpa [or_imp, forall_and] using ⟨words, word⟩
  · right
    exact ⟨integer, by simpa using word⟩

end Lexeme

/-- If the rule allows a lexeme, nothing behind it carries it on. -/
theorem endsBefore_of_isLongest {lexeme : Lexeme} {rest : List Char} (valid : lexeme.Valid)
    (longest : IsLongest (lexeme.spelling ++ rest) lexeme.spelling)
    (free : ¬ RunsIntoWord (lexeme.spelling ++ rest) lexeme.spelling) : lexeme.EndsBefore rest := by
  cases rest with
  | nil => exact lexeme.endsBefore_nil
  | cons c rest =>
      constructor
      case word =>
        intro ends
        cases word : isWord c with
        | false => exact word
        | true =>
            rcases Lexeme.not_isLongest_of_word (valid.written.word_or_integer ends) word with
              short | runs
            · exact absurd longest short
            · exact absurd runs free
      case equal =>
        intro takes same
        cases same
        exact longest.not_isLexeme_concat (valid.isLexeme_concat_equal takes)
      case digit =>
        intro sign
        cases digit : isDigit c with
        | false => exact digit
        | true => exact absurd (valid.isLexeme_concat_digit sign digit) longest.not_isLexeme_concat

/-- A lexeme is found where it was written exactly if nothing behind it carries it on. -/
theorem eq_lexeme_iff_endsBefore {lexeme : Lexeme} (valid : lexeme.Valid) {first : Char}
    {more rest : List Char} (spelled : lexeme.spelling = first :: more) :
    Finding.of first (more ++ rest) = .lexeme lexeme.kind lexeme.text ↔ lexeme.EndsBefore rest := by
  constructor
  · intro found
    have fits := Finding.fits_of first (more ++ rest)
    rw [found, ← List.cons_append, ← spelled] at fits
    obtain ⟨_, longest, free⟩ := fits
    exact endsBefore_of_isLongest valid longest free
  · intro ends
    exact of_eq_lexeme_of_endsBefore valid spelled ends

/-!
### What may stand behind a lexeme in a writing

Blanks carry no lexeme on. Another lexeme does so by its first character, and the kinds of the two
lexemes tell what that character can be.
-/

namespace Lexeme

variable {lexeme next : Lexeme} {text rest : List Char}

/-- Blanks carry no lexeme on. -/
theorem endsBefore_of_isBlank (lexeme : Lexeme) {c : Char} (blank : isBlank c = true)
    (rest : List Char) : lexeme.EndsBefore (c :: rest) := by
  have noWord : isWord c = false := isWord_eq_false_of_isBlank blank
  have noDigit : isDigit c = false :=
    any_isDigit_eq_false (show (some c).any isWord = false from noWord)
  refine ⟨fun _ => noWord, ?_, fun _ => noDigit⟩
  intro _ same
  cases same
  cases blank

/-- A lexeme of the kind of integers is an integer. -/
theorem Valid.isInteger_of_kind (valid : next.Valid) (integer : next.kind = .integer) :
    IsInteger next.spelling := by
  obtain ⟨kind, text⟩ := next
  cases integer
  exact valid

/-- What is written with an equals sign at the front is one of the two symbols that have it. -/
theorem Written.beginsWithEqual {more : List Char} (written : next.Written ('=' :: more)) :
    next.beginsWithEqual = true := by
  cases written with
  | word word _ => cases (isWord_cons_iff.mp word).1
  | integer integer =>
      rcases (isInteger_cons_iff.mp integer).1 with digit | ⟨sign, _⟩
      · cases digit
      · cases sign
  | @symbol kind _ spelled => cases kind <;> first | cases spelled; done | rfl

/-- What is written with a digit at the front is an integer. -/
theorem Written.kind_of_isDigit {first : Char} {more : List Char}
    (written : next.Written (first :: more)) (digit : isDigit first = true) :
    next.kind = .integer := by
  have class_ := isDigit_iff.mp digit
  cases written with
  | word word _ => cases class_.symm.trans (isLetter_iff.mp (isWord_cons_iff.mp word).1)
  | integer _ => rfl
  | string _ => cases digit
  | symbol spelled =>
      rcases (symbol?_eq_some_cons spelled).1 with operator | mark
      · cases class_.symm.trans operator
      · cases class_.symm.trans mark

/-- The kind of a lexeme tells whether it begins with an equals sign. -/
theorem Valid.beginsWithEqual_iff (valid : next.Valid) :
    next.beginsWithEqual = true ↔ next.spelling.head? = some '=' := by
  constructor
  · intro begins
    simp only [beginsWithEqual, Bool.or_eq_true, decide_eq_true_eq] at begins
    rcases begins with kind | kind
    · rw [valid.spelling_of_symbol? (by rw [kind]; rfl)]
      rfl
    · rw [valid.spelling_of_symbol? (by rw [kind]; rfl)]
      rfl
  · intro head
    obtain ⟨first, more, spelled⟩ := valid.written.isLexeme.exists_cons
    have written := valid.written
    rw [spelled] at head written
    cases head
    exact written.beginsWithEqual

/-- A lexeme begins with a digit exactly if it is an integer without a sign. -/
theorem Valid.isUnsigned_iff (valid : next.Valid) :
    next.isUnsigned = true ↔ next.spelling.head?.any isDigit = true := by
  obtain ⟨first, more, spelled⟩ := valid.written.isLexeme.exists_cons
  have written := valid.written
  rw [spelled] at written
  simp only [isUnsigned, spelled, Bool.and_eq_true, decide_eq_true_eq, Bool.not_eq_true',
    List.head?_cons, Option.any_some]
  constructor
  · rintro ⟨kind, unsigned⟩
    have integer := valid.isInteger_of_kind kind
    rw [spelled] at integer
    rcases (isInteger_cons_iff.mp integer).1 with digit | ⟨sign, _⟩
    · exact digit
    · rw [sign] at unsigned
      cases unsigned
  · intro digit
    exact ⟨written.kind_of_isDigit digit, isSign_eq_false_of_isDigit digit⟩

/-- A lexeme carries another one on exactly if the two conflict. -/
theorem endsBefore_spelling_iff (valid : next.Valid) :
    lexeme.EndsBefore (next.spelling ++ rest) ↔ ¬ lexeme.Conflicts next := by
  obtain ⟨first, more, spelled⟩ := valid.written.isLexeme.exists_cons
  rw [Conflicts, valid.beginsWithEqual_iff, valid.isUnsigned_iff, spelled, List.cons_append]
  constructor
  · rintro ends (⟨ending, word⟩ | ⟨takes, equal⟩ | ⟨sign, digit⟩)
    · exact Bool.eq_false_iff.mp (ends.word ending) word
    · exact ends.equal takes equal
    · exact Bool.eq_false_iff.mp (ends.digit sign) digit
  · intro free
    refine ⟨?_, ?_, ?_⟩
    · intro ending
      exact Bool.eq_false_iff.mpr fun word => free (Or.inl ⟨ending, word⟩)
    · intro takes equal
      exact free (Or.inr (Or.inl ⟨takes, equal⟩))
    · intro sign
      exact Bool.eq_false_iff.mpr fun digit => free (Or.inr (Or.inr ⟨sign, digit⟩))

end Lexeme

namespace Writing

/-- What stands behind a lexeme in a writing carries it on exactly if the next lexeme stands right behind
    it and conflicts with it. -/
theorem endsBefore_text_iff {lexeme : Lexeme} {writing : Writing} (valid : writing.Valid) :
    lexeme.EndsBefore writing.text ↔
      ∀ next, writing.parts.head? = some next → next.1 = [] → ¬ lexeme.Conflicts next.2 := by
  obtain ⟨parts, last⟩ := writing
  obtain ⟨partsValid, lastBlank⟩ := valid
  cases parts with
  | nil =>
      constructor
      · intro _ next none
        cases none
      · intro _
        cases last with
        | nil => exact lexeme.endsBefore_nil
        | cons c rest => exact lexeme.endsBefore_of_isBlank (lastBlank c List.mem_cons_self) rest
  | cons part parts =>
      obtain ⟨gap, next⟩ := part
      obtain ⟨gapBlank, nextValid⟩ := partsValid (gap, next) List.mem_cons_self
      rw [text_cons]
      cases gap with
      | nil =>
          rw [List.nil_append, Lexeme.endsBefore_spelling_iff nextValid]
          constructor
          · rintro free _ same _
            cases same
            exact free
          · exact fun free => free _ rfl rfl
      | cons c gap =>
          refine ⟨?_, fun _ => lexeme.endsBefore_of_isBlank (gapBlank c List.mem_cons_self) _⟩
          rintro _ _ same empty
          cases same
          cases empty

/-- A writing is separated if its first two lexemes are, and the rest is. -/
theorem separated_cons_iff {part : List Char × Lexeme} {parts : List (List Char × Lexeme)}
    {last : List Char} :
    Separated ⟨part :: parts, last⟩ ↔
      (∀ next, parts.head? = some next → next.1 = [] → ¬ part.2.Conflicts next.2) ∧
        Separated ⟨parts, last⟩ := by
  constructor
  · intro separated
    refine ⟨fun next head => ?_, fun n => separated (n + 1)⟩
    apply separated 0 part next rfl
    rw [← head, List.head?_eq_getElem?]
    rfl
  · rintro ⟨front, behind⟩ n first second atFirst atSecond
    cases n with
    | zero =>
        cases atFirst
        apply front second
        rw [← atSecond, List.head?_eq_getElem?]
        rfl
    | succ n => exact behind n first second atFirst atSecond

end Writing

/-!
### The scan of a writing

A scan of a writing is followed lexeme by lexeme. As long as nothing carries on the lexeme in front, the
scan brings it and goes on behind it; where something does, the scan brings something else.
-/

namespace Reading

/-- The lexeme that a reading brings, if it is no error. -/
def lexeme? (reading : Reading) : Option Lexeme := reading.token?.map Lexeme.ofToken

/-- A finding brings a lexeme exactly if it is one. -/
theorem lexeme?_reading_iff {finding : Finding} {first : Char} {position : Position}
    {lexeme : Lexeme} :
    (finding.reading first position).lexeme? = some lexeme ↔
      finding = .lexeme lexeme.kind lexeme.text := by
  obtain ⟨kind, text⟩ := lexeme
  cases finding <;> simp [Finding.reading, lexeme?, token?, Lexeme.ofToken]

/-- A valid lexeme is not the end of input. -/
theorem isEnd_of_lexeme? {reading : Reading} {lexeme : Lexeme} (valid : lexeme.Valid)
    (brings : reading.lexeme? = some lexeme) : reading.isEnd = false := by
  cases reading with
  | error e => rfl
  | token t =>
      cases brings
      cases kind : t.kind with
      | endOfInput =>
          rw [Lexeme.Valid, Lexeme.ofToken, kind] at valid
          exact valid.elim
      | _ => simp [isEnd, Token.isEnd, kind]

/-- The readings bring no error and these lexemes exactly if each of them brings one of the lexemes. -/
theorem map_lexeme?_iff {readings : List Reading} {lexemes : List Lexeme} :
    readings.map lexeme? = lexemes.map some ↔
      (split readings).2 = [] ∧ (split readings).1.map Lexeme.ofToken = lexemes := by
  induction readings generalizing lexemes with
  | nil => cases lexemes <;> simp [split]
  | cons reading readings ih =>
      cases reading with
      | error e => cases lexemes <;> simp [split, lexeme?, token?, error?]
      | token t =>
          cases lexemes with
          | nil => simp [split, token?]
          | cons lexeme lexemes =>
              have later := @ih lexemes
              simp only [split] at later
              simp [split, lexeme?, token?, error?, later, and_left_comm]

end Reading

namespace Scanner

variable {scanner : Scanner} {gap rest : List Char} {lexeme : Lexeme}

/-- No lexeme begins with a blank. -/
theorem not_isBlank_of_isLexeme {first : Char} {more : List Char}
    (isLexeme : IsLexeme (first :: more)) : isBlank first = false := by
  rw [Bool.eq_false_iff, Ne, isBlank_iff]
  intro kind
  rw [isLexeme_cons_iff, kind] at isLexeme
  exact isLexeme

/-- A pull brings the lexeme that stands behind the blanks, unless something carries it on; and it stops
    behind what it brings. -/
theorem pull_written (outside : scanner.OutsideRun) (valid : lexeme.Valid) (blank : IsBlank gap)
    (unread : scanner.cursor.unread = gap ++ (lexeme.spelling ++ rest)) :
    (scanner.pull.1.lexeme? = some lexeme ↔ lexeme.EndsBefore rest) ∧
      (lexeme.EndsBefore rest →
        scanner.pull.2.cursor.unread = rest ∧ scanner.pull.2.inMalformedRun = false) := by
  obtain ⟨first, more, spelled⟩ := valid.written.isLexeme.exists_cons
  have isLexeme := valid.written.isLexeme
  rw [spelled] at isLexeme unread
  have pulled := pull_of_outsideRun outside unread blank (not_isBlank_of_isLexeme isLexeme)
  rw [List.cons_append, readAt_of_cons rfl] at pulled
  constructor
  · rw [pulled, Reading.lexeme?_reading_iff, eq_lexeme_iff_endsBefore valid spelled]
  · intro ends
    rw [pulled, (eq_lexeme_iff_endsBefore valid spelled).mpr ends]
    refine ⟨?_, rfl⟩
    simp only [Finding.past, Cursor.advanceBy]
    rw [← Lexeme.spelling, spelled]
    simp

/-- Where only blanks are left a pull brings the end of input. -/
theorem pull_blank (outside : scanner.OutsideRun) (blank : IsBlank scanner.cursor.unread) :
    scanner.pull.1.isEnd = true ∧ scanner.pull.1.lexeme? = some Lexeme.endOfInput := by
  rw [pull_of_isBlank outside blank]
  exact ⟨rfl, rfl⟩

/-- The first lexeme that an iteration brings is that of the first pull. -/
theorem head?_map_readings (going : scanner.finished = false) :
    (scanner.readings.map Reading.lexeme?).head? = some scanner.pull.1.lexeme? := by
  cases ending : scanner.pull.1.isEnd with
  | true => rw [readings_of_isEnd going ending, List.map_singleton, List.head?_cons]
  | false => rw [readings_of_not_isEnd going ending, List.map_cons, List.head?_cons]

/-- The readings of a writing bring its lexemes and the end of input exactly if it is well separated. -/
theorem readings_text_iff_separated {writing : Writing} (valid : writing.Valid)
    (going : scanner.finished = false) (flag : scanner.inMalformedRun = false)
    (unread : scanner.cursor.unread = writing.text) :
    scanner.readings.map Reading.lexeme? =
        (writing.lexemes ++ [Lexeme.endOfInput]).map some ↔
      writing.Separated := by
  obtain ⟨parts, last⟩ := writing
  induction parts generalizing scanner with
  | nil =>
      have blank : IsBlank scanner.cursor.unread := by
        rw [unread]
        exact valid.2
      obtain ⟨ending, brings⟩ := pull_blank (Or.inl flag) blank
      rw [readings_of_isEnd going ending]
      refine ⟨fun _ n first second none => by simp at none, fun _ => ?_⟩
      rw [List.map_singleton, brings]
      rfl
  | cons part parts ih =>
      obtain ⟨gap, lexeme⟩ := part
      obtain ⟨gapBlank, lexemeValid⟩ := valid.1 (gap, lexeme) List.mem_cons_self
      have later : Writing.Valid ⟨parts, last⟩ := valid.of_cons
      have written : scanner.cursor.unread =
          gap ++ (lexeme.spelling ++ Writing.text ⟨parts, last⟩) := by
        rw [unread, Writing.text_cons]
      obtain ⟨brings, stops⟩ := pull_written (Or.inl flag) lexemeValid gapBlank written
      rw [Writing.separated_cons_iff, ← Writing.endsBefore_text_iff later]
      by_cases ends : lexeme.EndsBefore (Writing.text ⟨parts, last⟩)
      · have more := Reading.isEnd_of_lexeme? lexemeValid (brings.mpr ends)
        obtain ⟨behind, noRun⟩ := stops ends
        have tail := ih ((finished_pull scanner).trans going) noRun later behind
        rw [readings_of_not_isEnd going more, List.map_cons, brings.mpr ends]
        simpa [Writing.lexemes, ends] using tail
      · -- The first reading is not the lexeme that was written first, whatever comes after it.
        refine iff_of_false ?_ fun separated => ends separated.1
        intro same
        have front := congrArg List.head? same
        rw [head?_map_readings going] at front
        exact ends (brings.mp (by simpa [Writing.lexemes] using front))

end Scanner

/-- A writing is read back as it was written, without an error and with the end of input behind it, if and
    only if no two of its neighbours run together. -/
theorem tokenize_text_iff_separated {writing : Writing} (valid : writing.Valid) :
    ((tokenize (String.ofList writing.text)).2 = [] ∧
      (tokenize (String.ofList writing.text)).1.map Lexeme.ofToken =
        writing.lexemes ++ [Lexeme.endOfInput]) ↔
      writing.Separated := by
  have scanned := @Scanner.readings_text_iff_separated (.ofChars writing.text) writing valid rfl rfl rfl
  rw [tokenize, String.toList_ofList, ← Reading.map_lexeme?_iff]
  exact scanned

/-- The sum `1 +2` is not read back: its sign goes to the integer behind it. -/
theorem tokenize_one_plus_two :
    Writing.Valid ⟨[([], ⟨.integer, ['1']⟩), ([' '], ⟨.plus, ['+']⟩), ([], ⟨.integer, ['2']⟩)], []⟩ ∧
      ¬ ((tokenize "1 +2").2 = [] ∧ (tokenize "1 +2").1.map Lexeme.ofToken =
        [⟨.integer, ['1']⟩, ⟨.plus, ['+']⟩, ⟨.integer, ['2']⟩, Lexeme.endOfInput]) := by
  have valid : Writing.Valid
      ⟨[([], ⟨.integer, ['1']⟩), ([' '], ⟨.plus, ['+']⟩), ([], ⟨.integer, ['2']⟩)], []⟩ := by
    refine ⟨?_, by simp [IsBlank]⟩
    have one : IsInteger ['1'] := isInteger_cons_iff.mpr ⟨Or.inl rfl, by simp⟩
    have two : IsInteger ['2'] := isInteger_cons_iff.mpr ⟨Or.inl rfl, by simp⟩
    simpa [IsBlank, Lexeme.Valid, Kind.Accepts, Kind.symbol?] using ⟨one, by decide, two⟩
  refine ⟨valid, fun same => ?_⟩
  exact (tokenize_text_iff_separated valid).mp same 1 _ _ rfl rfl rfl (by decide)

end MaximalMunch
