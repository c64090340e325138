/-
Module: MaximalMunch.Proofs.Extension
Layer: Proofs
Purpose: What more text at the end of a source can change. A finding is settled if some of the text is left
  behind it, or if it is not an open string and a blank follows the text; what else stands behind the text
  then makes no difference to it (`of_append`). For a lexeme this is because nothing behind it carries it
  on, for a character that begins nothing because the only lexemes that need a second character have an
  equals sign there, and a malformed run is one whatever follows. A pull that brings something settled
  brings the same from the longer source (`pull_extend`). In an iteration every reading but the last before
  the end of input leaves something behind it, namely the next one, so more text can only change the last
  (`readings_append_prefix`).
Imports: MaximalMunch.Proofs.Progress, MaximalMunch.Proofs.RoundTrip
Trusted boundary: none
Main exports: Finding.Settled, Finding.of_append, Scanner.extend, Scanner.Settled, pull_extend,
  readings_append_prefix
Open obligations: none
-/
import MaximalMunch.Proofs.Progress
import MaximalMunch.Proofs.RoundTrip

namespace MaximalMunch

open CharClass

/-!
### Findings

Each kind of finding is looked at in the terms of the rule that it fits, so the recognizers do not matter
here.
-/

/-- Only the front of what follows a lexeme can carry it on. -/
theorem Lexeme.EndsBefore.append {lexeme : Lexeme} {rest more : List Char}
    (ends : lexeme.EndsBefore rest) (settled : rest ≠ [] ∨ more.head?.any isBlank = true) :
    lexeme.EndsBefore (rest ++ more) := by
  cases rest with
  | cons c rest => exact ⟨ends.word, ends.equal, ends.digit⟩
  | nil =>
      have blank := settled.resolve_left fun some => some rfl
      cases more with
      | nil => cases blank
      | cons c more => exact lexeme.endsBefore_of_isBlank blank more

/-- What may follow the first character of a symbol is an equals sign, or it is a symbol on its own. -/
theorem IsSymbol.singleton_or {first : Char} {others : List Char} (symbol : IsSymbol (first :: others)) :
    IsSymbol [first] ∨ others = ['='] := by
  obtain ⟨kind, spelled⟩ := symbol
  cases others with
  | nil => exact Or.inl ⟨kind, spelled⟩
  | cons second more => exact Or.inr (Kind.symbol?_eq_some_cons_cons spelled)

/-- A sign is a symbol on its own. -/
theorem isSymbol_singleton_of_isSign {first : Char} (sign : isSign first = true) : IsSymbol [first] := by
  simp only [isSign, Bool.or_eq_true, decide_eq_true_eq] at sign
  rcases sign with plus | minus
  · rw [plus]
    exact ⟨.plus, rfl⟩
  · rw [minus]
    exact ⟨.minus, rfl⟩

/-- The first character of a lexeme is one by itself, unless the lexeme is a string literal or the rest of
    it is an equals sign. -/
theorem IsLexeme.singleton_or {first : Char} {others : List Char} (isLexeme : IsLexeme (first :: others))
    (noMark : first ≠ '"') : IsLexeme [first] ∨ others = ['='] := by
  have ofSymbol : IsSymbol [first] → IsLexeme [first] := fun symbol => Or.inr (Or.inr (Or.inr symbol))
  rcases isLexeme with word | integer | string | symbol
  · left
    refine Or.inl (isWord_cons_iff.mpr ⟨(isWord_cons_iff.mp word).1, ?_⟩)
    simp
  · left
    rcases (isInteger_cons_iff.mp integer).1 with digit | ⟨sign, _⟩
    · refine Or.inr (Or.inl (isInteger_cons_iff.mpr ⟨Or.inl digit, ?_⟩))
      simp
    · exact ofSymbol (isSymbol_singleton_of_isSign sign)
  · exact absurd (isString_cons_iff.mp string).1 noMark
  · exact symbol.singleton_or.imp_left ofSymbol

namespace Finding

/-- What was found at the front of a text of `available` characters does not depend on what stands behind
    the text, if that begins with `more`. -/
def Settled (available : Nat) (more : List Char) (finding : Finding) : Prop :=
  finding.width available < available ∨
    more.head?.any isBlank = true ∧ finding ≠ .unterminated

variable {first : Char} {rest more : List Char}

/-- A lexeme that more text cannot carry on is found there, too. -/
theorem of_append_of_eq_lexeme {kind : Kind} {body : List Char}
    (found : of first rest = .lexeme kind body)
    (settled : (Finding.lexeme kind body).Settled (first :: rest).length more) :
    of first (rest ++ more) = .lexeme kind body := by
  have fits := fits_of first rest
  rw [found] at fits
  obtain ⟨valid, longest, _⟩ := fits
  have valid : Lexeme.Valid ⟨kind, body⟩ := valid
  obtain ⟨beyond, split⟩ := longest.2.1
  obtain ⟨others, spelled⟩ := longest.exists_cons
  have spelled : Lexeme.spelling ⟨kind, body⟩ = first :: others := spelled
  have behind : rest = others ++ beyond := by
    rw [show kind.lexeme body = first :: others from spelled] at split
    exact (List.cons.inj split).2.symm
  have leaves : beyond ≠ [] ∨ more.head?.any isBlank = true := by
    rcases settled with shorter | ⟨blank, _⟩
    · left
      rw [← split, List.length_append] at shorter
      apply List.ne_nil_of_length_pos
      exact Nat.lt_of_add_lt_add_left shorter
    · exact Or.inr blank
  rw [behind] at found ⊢
  rw [List.append_assoc]
  have ends := (eq_lexeme_iff_endsBefore valid spelled).mp found
  exact (eq_lexeme_iff_endsBefore valid spelled).mpr (ends.append leaves)

/-- An integer is the longest lexeme wherever its digits end. -/
theorem isLongest_of_isInteger {digits : List Char} (integer : IsInteger (first :: digits))
    (stops : rest.head?.any isDigit = false) : IsLongest (first :: (digits ++ rest)) (first :: digits) := by
  obtain ⟨begins, digital⟩ := isInteger_cons_iff.mp integer
  have asked : BeginsInteger first (digits ++ rest) := by
    apply begins.imp_right
    intro signed
    obtain ⟨sign, some⟩ := signed
    obtain ⟨next, later, rfl⟩ := List.exists_cons_of_ne_nil some
    exact ⟨sign, digital next List.mem_cons_self⟩
  have longest := isLongest_integer asked
  rwa [takeWhile_append_of_stops digital stops] at longest

/-- The digits of the longest integer end with it. -/
theorem isDigit_eq_false_of_isLongest {digits : List Char} {c : Char}
    (integer : IsInteger (first :: digits))
    (longest : IsLongest (first :: (digits ++ c :: rest)) (first :: digits)) : isDigit c = false := by
  cases digit : isDigit c with
  | false => rfl
  | true =>
      obtain ⟨begins, digital⟩ := isInteger_cons_iff.mp integer
      have longer : IsInteger (first :: (digits ++ [c])) := by
        refine isInteger_cons_iff.mpr ⟨begins.imp_right fun signed => ⟨signed.1, by simp⟩, ?_⟩
        simpa [or_imp, forall_and] using ⟨digital, digit⟩
      exact absurd (Or.inr (Or.inl longer)) longest.not_isLexeme_concat

/-- Where an integer runs into a word it does so whatever stands behind the word. -/
theorem of_append_of_eq_malformed (found : of first rest = .malformed) (more : List Char) :
    of first (rest ++ more) = .malformed := by
  have fits := fits_of first rest
  rw [found] at fits
  apply eq_malformed_of
  rcases fits with underscore | ⟨integer, longest, isInteger, runs⟩
  · exact Or.inl (Option.some.inj underscore)
  · right
    obtain ⟨digits, rfl⟩ := longest.exists_cons
    obtain ⟨beyond, split⟩ := longest.2.1
    obtain rfl : digits ++ beyond = rest := (List.cons.inj split).2
    rw [← List.cons_append, List.drop_left] at runs
    cases beyond with
    | nil => cases runs
    | cons c beyond =>
        have noDigit := isDigit_eq_false_of_isLongest isInteger longest
        rw [List.append_assoc]
        refine ⟨first :: digits, isLongest_of_isInteger isInteger noDigit, isInteger, ?_⟩
        rw [← List.cons_append, List.drop_left]
        exact runs

/-- No lexeme begins the longer text that does not begin the shorter one. -/
theorem of_append_of_eq_unexpected (found : of first rest = .unexpected)
    (settled : rest ≠ [] ∨ more.head?.any isBlank = true) : of first (rest ++ more) = .unexpected := by
  have fits := fits_of first rest
  rw [found] at fits
  obtain ⟨none, noUnderscore, noMark⟩ := fits
  have noUnderscore : first ≠ '_' := fun same => noUnderscore (congrArg some same)
  have noMark : first ≠ '"' := fun same => noMark (congrArg some same)
  have noneLonger : ∀ lexeme, IsLexeme lexeme → ¬ lexeme <+: first :: (rest ++ more) := by
    apply not_prefix_of_forall_not_isLexeme
    intro others front isLexeme
    rcases isLexeme.singleton_or noMark with alone | rfl
    · exact none [first] alone ⟨rest, rfl⟩
    · cases rest with
      | cons c rest =>
          have same : '=' = c := (List.cons_prefix_cons.mp front).1
          apply none [first, '='] isLexeme
          rw [same]
          exact ⟨rest, rfl⟩
      | nil =>
          have blank := settled.resolve_left fun some => some rfl
          cases more with
          | nil => cases blank
          | cons c more =>
              have same : '=' = c := (List.cons_prefix_cons.mp front).1
              rw [← same] at blank
              cases blank
  rw [eq_of_forall_not_isLexeme noneLonger noUnderscore, if_neg noMark]

/-- What is settled stays as it is. -/
theorem of_append (settled : (of first rest).Settled (first :: rest).length more) :
    of first (rest ++ more) = of first rest := by
  cases found : of first rest with
  | lexeme kind body =>
      rw [found] at settled
      exact of_append_of_eq_lexeme found settled
  | malformed => exact of_append_of_eq_malformed found more
  | unexpected =>
      apply of_append_of_eq_unexpected found
      rw [found] at settled
      rcases settled with shorter | ⟨blank, _⟩
      · left
        rintro rfl
        exact Nat.lt_irrefl 1 shorter
      · exact Or.inr blank
  | unterminated =>
      rw [found] at settled
      rcases settled with shorter | ⟨_, closed⟩
      · exact absurd shorter (Nat.lt_irrefl _)
      · exact absurd rfl closed

/-- A finding covers no more than there is. -/
theorem width_le (first : Char) (rest : List Char) :
    (of first rest).width (first :: rest).length ≤ (first :: rest).length := by
  cases found : of first rest with
  | lexeme kind body =>
      have fits := fits_of first rest
      rw [found] at fits
      exact fits.2.1.2.1.length_le
  | malformed => exact Nat.succ_le_succ (Nat.zero_le _)
  | unexpected => exact Nat.succ_le_succ (Nat.zero_le _)
  | unterminated => exact Nat.le_refl _

end Finding

/-!
### Pulls

A scan of a longer source is the same scan with more left to read.
-/

/-- The same place in a source that has `more` at its end. -/
def Cursor.extend (more : List Char) (cursor : Cursor) : Cursor :=
  ⟨cursor.unread ++ more, cursor.position⟩

/-- To move on within the text does not depend on what follows it. -/
theorem Cursor.advanceBy_extend (more : List Char) {cursor : Cursor} {n : Nat}
    (within : n ≤ cursor.unread.length) :
    (cursor.extend more).advanceBy n = (cursor.advanceBy n).extend more := by
  simp only [advanceBy, extend, List.take_append_of_le_length within,
    List.drop_append_of_le_length within]

/-- A settled finding is as wide in the longer text. -/
theorem Finding.width_append {finding : Finding} {text more : List Char}
    (settled : finding.Settled text.length more) :
    finding.width (text ++ more).length = finding.width text.length := by
  cases finding with
  | lexeme => rfl
  | malformed => rfl
  | unexpected => rfl
  | unterminated =>
      rcases settled with shorter | ⟨_, closed⟩
      · exact absurd shorter (Nat.lt_irrefl _)
      · exact absurd rfl closed

/-- Past a settled finding the longer text has the same rest and then what it has more. -/
theorem Finding.past_extend {first : Char} {rest more : List Char} (position : Position)
    (settled : (Finding.of first rest).Settled (first :: rest).length more) :
    (Finding.of first rest).past (Cursor.extend more ⟨first :: rest, position⟩) =
      ((Finding.of first rest).past ⟨first :: rest, position⟩).extend more := by
  rw [past_eq_advanceBy, past_eq_advanceBy, ← Cursor.advanceBy_extend more (width_le first rest)]
  exact congrArg _ (width_append settled)

namespace Scanner

/-- The same state in the scan of a source that has `more` at its end. -/
def extend (more : List Char) (scanner : Scanner) : Scanner :=
  { scanner with cursor := scanner.cursor.extend more }

/-- What the next pull brings does not depend on what stands behind the source, if that begins with
    `more`. -/
def Settled (more : List Char) (scanner : Scanner) : Prop :=
  scanner.pull.2.cursor.unread ≠ [] ∨
    more.head?.any isBlank = true ∧ scanner.pull.1.isEnd = false ∧
      ∀ start, scanner.pull.1 ≠ .error (.unterminatedString start)

variable {scanner : Scanner} {more : List Char}

/-- More text leads into no run, unless the shorter text ended in one and a word goes on there. -/
theorem OutsideRun.extend (outside : scanner.OutsideRun)
    (follows : scanner.cursor.unread ≠ [] ∨ more.head?.any isBlank = true) :
    (scanner.extend more).OutsideRun := by
  apply outside.imp_right
  intro stops
  cases unread : scanner.cursor.unread with
  | cons c rest =>
      simp only [Cursor.peek?, Cursor.peekNth?, unread] at stops
      simp only [Scanner.extend, Cursor.extend, Cursor.peek?, Cursor.peekNth?, unread]
      exact stops
  | nil =>
      have blank := follows.resolve_left fun some => some unread
      cases more with
      | nil => cases blank
      | cons c more =>
          simp only [Scanner.extend, Cursor.extend, Cursor.peek?, Cursor.peekNth?, unread]
          exact isWord_eq_false_of_isBlank blank

/-- A finding is settled if the pull that brings it is. -/
theorem Settled.finding {first : Char} {rest : List Char} {position : Position}
    (settled : scanner.Settled more)
    (pulled : scanner.pull = scanner.readAt ⟨first :: rest, position⟩) :
    (Finding.of first rest).Settled (first :: rest).length more := by
  rw [Settled, pulled, readAt_of_cons rfl] at settled
  rcases settled with left | ⟨blank, _, closed⟩
  · left
    simp only [Finding.past_eq_advanceBy] at left
    have some := List.length_pos_iff.mpr left
    rw [length_unread_advanceBy] at some
    exact Nat.lt_of_sub_pos some
  · right
    refine ⟨blank, ?_⟩
    intro opened
    rw [opened] at closed
    exact closed position rfl

/-- What is settled is brought from the longer source as well. -/
theorem pull_extend (settled : scanner.Settled more) :
    (scanner.extend more).pull = (scanner.pull.1, scanner.pull.2.extend more) := by
  rcases scanner.outsideRun_or_exists with outside | ⟨c, rest, run, unread, word⟩
  · obtain ⟨gap, text, unread, blank, stops⟩ := exists_stop isBlank scanner.cursor.unread
    have pulled := pull_of_outsideRun outside unread blank stops
    cases text with
    | nil =>
        rw [Settled, pulled, readAt_of_nil rfl] at settled
        rcases settled with left | ⟨_, noEnd, _⟩
        · exact absurd rfl left
        · cases noEnd
    | cons first rest =>
        have fixed := settled.finding pulled
        have still : (scanner.extend more).OutsideRun := by
          apply outside.extend
          left
          rw [unread]
          simp
        have longer : (scanner.extend more).cursor.unread = gap ++ first :: (rest ++ more) := by
          simp [Scanner.extend, Cursor.extend, unread]
        have past := Finding.past_extend (scanner.position.advanceAll gap) fixed
        rw [pull_of_outsideRun still longer blank stops, pulled, readAt_of_cons rfl,
          readAt_of_cons rfl, Finding.of_append fixed]
        exact Prod.ext rfl (congrArg (fun cursor => Scanner.mk cursor _ _) past)
  · have longer : (scanner.extend more).cursor.unread = c :: (rest ++ more) := by
      simp [Scanner.extend, Cursor.extend, unread]
    have still : (scanner.extend more).inMalformedRun = true := run
    rw [pull_of_insideRun run unread word, pull_of_insideRun still longer word]
    rfl

/-!
### Iterations

An iteration over the longer source follows the one over the shorter source as long as what is brought is
settled.
-/

variable {source : List Char}

/-- A settled reading comes first of the longer source, too, and the iteration goes on behind it. -/
theorem readings_extend_of_settled (going : scanner.finished = false)
    (noEnd : scanner.pull.1.isEnd = false) (settled : scanner.Settled more) :
    (scanner.extend more).readings = scanner.pull.1 :: (scanner.pull.2.extend more).readings := by
  have pulled := pull_extend settled
  have goesOn : (scanner.extend more).pull.1.isEnd = false := by
    rw [pulled]
    exact noEnd
  have still : (scanner.extend more).finished = false := going
  rw [readings_of_not_isEnd still goesOn, pulled]

/-- What ends inside of the source leaves something behind it. -/
theorem unread_pull_ne_nil (reads : scanner.cursor.ReadsFrom source)
    (inside : scanner.pull.1.position.column + scanner.pull.1.width source.length < source.length) :
    scanner.pull.2.cursor.unread ≠ [] := by
  obtain ⟨gap, stretch, rest, extent⟩ := scanner.exists_extent
  have start := extent.column
  have stop := extent.column_after
  have width := extent.width reads
  have total := (readsFrom_pull reads).column_add_length
  apply List.ne_nil_of_length_pos
  omega

/-- Where a reading comes before the end of input, the pull before it has left something. -/
theorem unread_ne_nil_of_readings {reading ending : Reading} {later : List Reading}
    (going : scanner.finished = false) (several : scanner.readings = reading :: later ++ [ending]) :
    scanner.cursor.unread ≠ [] := by
  intro done
  rw [readings_of_isEnd going (isEnd_pull_of_unread_eq_nil done)] at several
  cases later <;> cases several

/-- The readings `longer` begin with `results`, the readings that come before the end of input of `source`,
    but perhaps for the last one, if that reaches to the end. -/
structure BeginWith (source : List Char) (results longer : List Reading) : Prop where
  allButLast : results.dropLast <+: longer
  all : ∀ last, results.getLast? = some last →
    last.position.column + last.width source.length < source.length → results <+: longer

/-- Every list begins with nothing. -/
theorem BeginWith.nil (longer : List Reading) : BeginWith source [] longer :=
  ⟨List.nil_prefix, fun _ _ _ => List.nil_prefix⟩

/-- One reading more may be put in front of both lists. -/
theorem BeginWith.cons {first next : Reading} {results longer : List Reading}
    (later : BeginWith source (next :: results) longer) :
    BeginWith source (first :: next :: results) (first :: longer) := by
  constructor
  case allButLast => exact List.cons_prefix_cons.mpr ⟨rfl, later.allButLast⟩
  case all =>
    intro last same inside
    rw [List.getLast?_cons_cons] at same
    exact List.cons_prefix_cons.mpr ⟨rfl, later.all last same inside⟩

/-- By induction on the readings of the shorter source. A reading that another one follows leaves something
    behind it; the last one does so if it ends inside of the source. -/
theorem beginWith_readings_extend (more : List Char) (going : scanner.finished = false)
    (reads : scanner.cursor.ReadsFrom source) {results : List Reading} {ending : Reading}
    (split : scanner.readings = results ++ [ending]) :
    BeginWith source results (scanner.extend more).readings := by
  refine readings_induction (motive := fun scanner readings => scanner.cursor.ReadsFrom source →
    ∀ results, readings = results ++ [ending] →
      BeginWith source results (scanner.extend more).readings) ?_ ?_ scanner going reads results split
  · intro scanner _ _ _ results split
    cases results with
    | nil => exact .nil _
    | cons first later => cases later <;> cases split
  · intro scanner going noEnd ih reads results split
    cases results with
    | nil => exact .nil _
    | cons first later =>
        obtain ⟨rfl, behind⟩ := List.cons.inj split
        have begins := ih (readsFrom_pull reads) later behind
        cases later with
        | nil =>
            refine ⟨List.nil_prefix, ?_⟩
            intro last same inside
            cases same
            have left := unread_pull_ne_nil reads inside
            rw [readings_extend_of_settled going noEnd (Or.inl left)]
            exact List.cons_prefix_cons.mpr ⟨rfl, List.nil_prefix⟩
        | cons next later =>
            have goesOn : scanner.pull.2.finished = false := by rw [finished_pull, going]
            have left := unread_ne_nil_of_readings goesOn behind
            rw [readings_extend_of_settled going noEnd (Or.inl left)]
            exact begins.cons

end Scanner

/-- More text at the end of a source can only change the last reading before the end of input, and only if
    that one ends where the source did. -/
theorem readings_append_prefix (source more : List Char) :
    ∃ results, readings source = results ++ [.token (.atEndOf source)] ∧
      (∀ reading ∈ results, reading.isEnd = false) ∧
      results.dropLast <+: readings (source ++ more) ∧
      (∀ last, results.getLast? = some last →
        last.position.column + last.width source.length < source.length →
          results <+: readings (source ++ more)) := by
  have reads := Cursor.readsFrom_ofChars source
  obtain ⟨results, split, noEnd, _⟩ := readings_eq_concat source
  have begins := Scanner.beginWith_readings_extend more rfl reads split
  exact ⟨results, split, noEnd, begins.allButLast, begins.all⟩

/-- The bound is sharp: the last reading of `>`, which ends where the source does, is changed by `=`. -/
example : readings ['>'] = [.token ⟨.greater, ">", ⟨0, 0, 0⟩⟩, .token (.atEndOf ['>'])] ∧
    readings (['>'] ++ ['=']) =
      [.token ⟨.greaterEqual, ">=", ⟨0, 0, 0⟩⟩, .token (.atEndOf ['>', '='])] := by
  cbv

end MaximalMunch
