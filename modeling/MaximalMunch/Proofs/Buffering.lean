/-
Module: MaximalMunch.Proofs.Buffering
Layer: Proofs
Purpose: The scanner that goes character by character reads what the text says. A recognizer is called with
  an empty buffer at some unread text (`Ready`). It keeps the characters of a lexeme one after the other,
  and what it then brings, and where it leaves the cursor, is the finding at the front of that text
  (`Brings`, one lemma for each recognizer). So a pull and a step of an iteration are those of the scanner
  without buffer, whatever buffer and note held before (`pull_eq`, `next?_eq`), and so are all further pulls
  (`nthReading_eq`).
Imports: MaximalMunch.Proofs.Languages, MaximalMunch.Scanner.Buffered, MaximalMunch.Scanner.Sequence
Trusted boundary: none
Main exports: Buffered.Ready, Brings, brings_recognize, pull_eq, next?_eq, nthReading_eq
Open obligations: none
-/
import MaximalMunch.Proofs.Languages
import MaximalMunch.Scanner.Buffered
import MaximalMunch.Scanner.Sequence

namespace MaximalMunch.Buffered

open CharClass

/-!
### What the recognizers bring

A recognizer is called at some text, and what the text begins with decides what it brings and where it
leaves the cursor. What it leaves in the buffer is not said.
-/

/-- A recognizer may be called: the buffer is empty, no malformed run goes on, and this is unread. -/
structure Ready (state : Buffered) (first : Char) (rest : List Char) : Prop where
  empty : state.lexeme = []
  outside : state.inMalformedRun = false
  unread : state.cursor.unread = first :: rest

/-- A recognizer called at `first` brought what the finding says and went to where the finding ends. -/
structure Brings (state : Buffered) (first : Char) (finding : Finding) (result : Reading × Buffered) :
    Prop where
  reading : result.1 = finding.reading first state.start
  scanner : result.2.toScanner = ⟨finding.past state.cursor, finding.isMalformed, state.finished⟩

variable {state : Buffered} {first : Char} {rest : List Char}

/-- The state in which `text` has been taken off the cursor and kept. -/
def taking (state : Buffered) (text rest : List Char) : Buffered :=
  { state with cursor := ⟨rest, state.cursor.position.advanceAll text⟩, lexeme := text }

/-- A token of what was taken is the finding of that lexeme. -/
theorem Ready.brings_token (ready : state.Ready first rest) {kind : Kind} (plain : kind ≠ .string)
    {text beyond : List Char} (split : first :: rest = text ++ beyond) :
    state.Brings first (.lexeme kind text) ((state.taking text beyond).token kind) := by
  constructor
  case reading => rfl
  case scanner =>
    rw [Finding.past, Finding.lexeme_of_ne_string plain,
      Cursor.advanceBy_of_unread (ready.unread.trans split)]
    exact congrArg (Scanner.mk _ · _) ready.outside

/-- A first character that is taken goes from the text into the buffer. -/
theorem Ready.bump_eq (ready : state.Ready first rest) : state.bump.2 = state.taking [first] rest := by
  rw [bump_of_unread ready.unread, ready.empty]
  rfl

/-- To take characters while a test holds is to take the longest such front of the text. -/
theorem Ready.bumpWhile_eq (ready : state.Ready first rest) {test : Char → Bool}
    (holds : test first = true) :
    state.bumpWhile test = state.taking (first :: rest.takeWhile test) (rest.dropWhile test) := by
  rw [Buffered.bumpWhile_eq, ready.empty, Cursor.skipWhile, ready.unread,
    List.takeWhile_cons_of_pos holds, List.dropWhile_cons_of_pos holds]
  rfl

/-- The first character may be taken without the test. -/
theorem Ready.bumpWhile_bump_eq (ready : state.Ready first rest) (test : Char → Bool) :
    state.bump.2.bumpWhile test = state.taking (first :: rest.takeWhile test) (rest.dropWhile test) := by
  rw [Buffered.bumpWhile_eq, ready.bump_eq]
  rfl

/-- A text is its first character, what passes the test behind it, and the rest. -/
theorem split_takeWhile (test : Char → Bool) (first : Char) (rest : List Char) :
    first :: rest = (first :: rest.takeWhile test) ++ rest.dropWhile test := by
  rw [List.cons_append, List.takeWhile_append_dropWhile]

/-- A malformed run starts with one character, whatever state the scanner is in. -/
theorem brings_malformed (state : Buffered) (first : Char) :
    state.Brings first .malformed (state.malformed first) :=
  ⟨rfl, rfl⟩

/-- An unexpected character is skipped alone. -/
theorem Ready.brings_unexpected (ready : state.Ready first rest) :
    state.Brings first .unexpected (state.unexpected first) :=
  ⟨rfl, congrArg (Scanner.mk _ · _) ready.outside⟩

/-- The recognizer of words brings the word that stands there. -/
theorem Ready.brings_word (ready : state.Ready first rest) (letter : isLetter first = true) :
    state.Brings first (.ofWord first rest) state.word := by
  have holds : isWord first = true := isWord_of_isLetter letter
  rw [word, ready.bumpWhile_eq holds]
  exact ready.brings_token (Finding.getD_ofReservedWord?_ne_string _) (split_takeWhile isWord first rest)

/-- What is looked at behind the digits is what stands there. -/
theorem Ready.peekNth?_digitsEnd (ready : state.Ready first rest) :
    state.cursor.peekNth? (digitsEnd state.cursor (Finding.digitsStart first)) =
      (first :: rest)[Finding.integerEnd first rest]? := by
  rw [digitsEnd_eq, Cursor.peekNth?, ready.unread]
  rfl

/-- The loop behind the look ahead: the sign is read and kept, if there is one, and then the digits are. -/
def takeInteger (state : Buffered) (first : Char) : Buffered :=
  (if isSign first then state.bump.2 else state).bumpWhile isDigit

/-- The consuming phase of the recognizer of integers takes the sign and all digits. -/
theorem Ready.takeInteger_eq (ready : state.Ready first rest)
    (begins : isDigit first = true ∨ isSign first = true) :
    state.takeInteger first = state.taking (first :: rest.takeWhile isDigit) (rest.dropWhile isDigit) := by
  rw [takeInteger]
  split
  · exact ready.bumpWhile_bump_eq isDigit
  · next unsigned => exact ready.bumpWhile_eq (begins.resolve_right unsigned)

/-- The recognizer of integers brings the integer that stands there, or the start of a malformed run. -/
theorem Ready.brings_integer (ready : state.Ready first rest)
    (begins : isDigit first = true ∨ isSign first = true) :
    state.Brings first (.ofInteger first rest) (state.integer first) := by
  rw [integer, ready.peekNth?_digitsEnd, Finding.ofInteger]
  split
  · exact state.brings_malformed first
  · change state.Brings first _ ((state.takeInteger first).token .integer)
    rw [ready.takeInteger_eq begins]
    exact ready.brings_token (by decide) (split_takeWhile isDigit first rest)

/-- Whether a symbol of two characters begins here. -/
def Long (first : Char) (rest : List Char) : Prop :=
  (Kind.ofSymbol? [first, '=']).isSome = true ∧ rest.head? = some '='

/-- The finding where no symbol of two characters begins. -/
def shortFinding (first : Char) : Finding :=
  match Kind.ofSymbol? [first] with
  | some kind => .lexeme kind [first]
  | none => .unexpected

/-- A second character other than an equals sign makes no symbol, so it is not missed. -/
theorem ofSymbol_of_short (short : ¬ Long first rest) :
    Finding.ofSymbol first rest = shortFinding first := by
  have noneLonger : rest ≠ [] → Kind.ofSymbol? (first :: rest.take 1) = none := by
    intro some
    cases rest with
    | nil => exact absurd rfl some
    | cons c more =>
        by_cases equal : c = '='
        · subst equal
          simpa [Long] using short
        · exact Kind.ofSymbol?_pair_eq_none equal
  cases rest with
  | nil =>
      rw [Finding.ofSymbol, List.take_nil, shortFinding]
      cases Kind.ofSymbol? [first] <;> rfl
  | cons c more =>
      rw [Finding.ofSymbol, noneLonger (List.cons_ne_nil c more)]
      rfl

/-- Where the cursor stands behind the kept character, the second is asked for in vain. -/
theorem Ready.symbol_of_short (ready : state.Ready first rest) (short : ¬ Long first rest) :
    state.symbol first =
      match Kind.ofSymbol? [first] with
      | some kind => state.bump.2.token kind
      | none => (.error (.unexpectedCharacter first state.bump.2.start), state.bump.2) := by
  have asked : (if (Kind.ofSymbol? [first, '=']).isSome then state.bump.2.expect '='
      else (false, state.bump.2)) = (false, state.bump.2) := by
    split
    · next longer =>
        have next : state.bump.2.cursor.peek? ≠ some '=' := by
          rw [ready.bump_eq]
          intro current
          obtain ⟨more, unread⟩ := Cursor.peek?_eq_some_iff.mp current
          exact short ⟨longer, congrArg List.head? unread⟩
        rw [expect, if_neg next]
    · rfl
  unfold symbol
  dsimp only
  rw [asked]
  rfl

/-- A symbol of one character is brought, or its character is unexpected. -/
theorem Ready.brings_short (ready : state.Ready first rest) (short : ¬ Long first rest) :
    state.Brings first (.ofSymbol first rest) (state.symbol first) := by
  rw [ofSymbol_of_short short, ready.symbol_of_short short, ready.bump_eq, shortFinding]
  cases spelled : Kind.ofSymbol? [first] with
  | some kind => exact ready.brings_token (Finding.ne_string_of_ofSymbol? spelled) rfl
  | none =>
      constructor
      case reading => rfl
      case scanner =>
        rw [Finding.past, Cursor.advance_of_unread ready.unread]
        exact congrArg (Scanner.mk _ · _) ready.outside

/-- A symbol of two characters is brought if the second one stands there. -/
theorem Ready.brings_long (ready : state.Ready first rest) (long : Long first rest) :
    state.Brings first (.ofSymbol first rest) (state.symbol first) := by
  obtain ⟨kind, spelled⟩ := Option.isSome_iff_exists.mp long.1
  obtain ⟨more, rfl⟩ : ∃ more, rest = '=' :: more := by
    cases rest with
    | nil => cases long.2
    | cons c more => exact ⟨more, congrArg (· :: more) (Option.some.inj long.2)⟩
  have met : state.bump.2.expect '=' = (true, state.taking [first, '='] more) := by
    rw [ready.bump_eq]
    rfl
  have found : Finding.ofSymbol first ('=' :: more) = .lexeme kind [first, '='] := by
    simp [Finding.ofSymbol, spelled]
  have brought : state.symbol first = (state.taking [first, '='] more).token kind := by
    unfold symbol
    simp only [met, spelled, Option.isSome_some, if_true]
  rw [found, brought]
  exact ready.brings_token (Finding.ne_string_of_ofSymbol? spelled) rfl

/-- The recognizer of symbols brings what is found. -/
theorem Ready.brings_symbol (ready : state.Ready first rest) :
    state.Brings first (.ofSymbol first rest) (state.symbol first) := by
  by_cases long : Long first rest
  · exact ready.brings_long long
  · exact ready.brings_short long

/-!
### String literals

What follows the opening mark is passed over in the steps in which the body of a string literal is built.
-/

/-- The body is kept, the mark behind it is not. -/
theorem body_of_closed {text beyond : List Char} (valid : StringBody text) {state : Buffered}
    (unread : state.cursor.unread = text ++ '"' :: beyond) :
    state.body = token .string
      { state with
        cursor := ⟨beyond, state.cursor.position.advanceAll (text ++ ['"'])⟩
        lexeme := state.lexeme ++ text } := by
  induction valid generalizing state with
  | nil =>
      rw [body_of_cons unread, if_pos rfl, skip_of_unread unread, List.append_nil]
      rfl
  | plain mark slash feed _ ih =>
      rw [body_of_cons unread, if_neg mark, if_neg feed, if_neg slash, bump_of_unread unread, ih rfl]
      simp
  | pair c _ ih =>
      rw [body_of_cons unread, bump_of_unread unread, bump_of_unread rfl, ih rfl]
      simp

/-- Where no mark closes the literal the loop stops somewhere, and from there everything is passed over. What
    it kept until then stays in the buffer. The induction is on the search for the mark, which goes in the
    same steps. -/
theorem body_of_open {state : Buffered} {offset : Nat} {text : List Char}
    (unread : state.cursor.unread = text) (isOpen : Finding.closingMark? offset text = none) :
    state.body.1 = .error (.unterminatedString state.start) ∧
      state.body.2.toScanner = { state.toScanner with cursor := state.cursor.advanceToEnd } := by
  fun_induction Finding.closingMark? offset text generalizing state with
  | case1 =>
      rw [body_of_nil unread]
      exact ⟨rfl, rfl⟩
  | case2 => cases isOpen
  | case3 =>
      rw [body_of_cons unread]
      exact ⟨rfl, rfl⟩
  | case4 =>
      rw [body_of_cons unread, bump_of_unread unread]
      simp [unterminated, Cursor.advanceToEnd, unread]
  | case5 offset second beyond mark feed ih =>
      rw [body_of_cons unread, if_neg mark, if_neg feed, if_pos rfl, if_neg (List.cons_ne_nil _ _),
        bump_of_unread unread, bump_of_unread rfl]
      obtain ⟨brings, leaves⟩ := @ih { state with
        cursor := ⟨beyond, (state.cursor.position.advance '\\').advance second⟩
        lexeme := state.lexeme ++ ['\\'] ++ [second] } rfl isOpen
      refine ⟨brings, leaves.trans ?_⟩
      simp [Cursor.advanceToEnd, unread]
  | case6 offset c text mark feed slash ih =>
      rw [body_of_cons unread, if_neg mark, if_neg feed, if_neg slash, bump_of_unread unread]
      obtain ⟨brings, leaves⟩ := @ih { state with
        cursor := ⟨text, state.cursor.position.advance c⟩
        lexeme := state.lexeme ++ [c] } rfl isOpen
      refine ⟨brings, leaves.trans ?_⟩
      simp [Cursor.advanceToEnd, unread]

/-- The recognizer of string literals brings the literal, or the error that it is open. -/
theorem Ready.brings_string {rest : List Char} (ready : state.Ready '"' rest) :
    state.Brings '"' (.ofString rest) state.string := by
  have behind : state.skip.cursor.unread = rest := by rw [skip_of_unread ready.unread]
  rw [string, Finding.ofString]
  cases closed : Finding.closingMark? 0 rest with
  | some place =>
      obtain ⟨text, beyond, split, valid, width⟩ := closingMark?_eq_some_iff.mp closed
      have taken : rest.take place = text := by
        rw [width, Nat.zero_add, split, List.take_left]
      have whole : state.cursor.unread = ('"' :: text ++ ['"']) ++ beyond := by
        rw [ready.unread, split]
        simp
      rw [body_of_closed valid (behind.trans split), skip_of_unread ready.unread, ready.empty]
      constructor
      case reading => simp [token, Finding.reading, taken]
      case scanner =>
        simp only [taken, Finding.past, Kind.lexeme, if_true]
        rw [Cursor.advanceBy_of_unread whole]
        exact congrArg (Scanner.mk _ · _) ready.outside
  | none =>
      obtain ⟨brings, leaves⟩ := body_of_open behind closed
      rw [skip_of_unread ready.unread] at brings leaves ⊢
      constructor
      case reading => exact brings
      case scanner =>
        rw [leaves]
        simp [Finding.past, Finding.isMalformed, Cursor.advanceToEnd, ready.unread, ready.outside]

/-!
### What a pull brings
-/

/-- Whichever recognizer is called, it brings what is found. -/
theorem Ready.brings_recognize (ready : state.Ready first rest) :
    state.Brings first (.of first rest) state.recognize := by
  have current : state.cursor.peek? = some first := Cursor.peek?_eq_some_iff.mpr ⟨rest, ready.unread⟩
  have next : state.cursor.peekNext? = rest.head? := by
    rw [Cursor.peekNext?, Cursor.peekNth?, ready.unread, List.head?_eq_getElem?]
    rfl
  rw [recognize, current, Finding.of]
  simp only [next]
  cases kind : CharClass.of first with
  | letter => exact ready.brings_word (isLetter_iff.mpr kind)
  | digit => exact ready.brings_integer (Or.inl (isDigit_iff.mpr kind))
  | operator =>
      simp only
      split
      · next signed =>
          rw [Bool.and_eq_true] at signed
          exact ready.brings_integer (Or.inr signed.1)
      · exact ready.brings_symbol
  | punctuation => exact ready.brings_symbol
  | quote =>
      have mark := of_eq_quote kind
      subst mark
      exact ready.brings_string
  | underscore => exact state.brings_malformed first
  | blank => exact ready.brings_unexpected
  | unrecognized => exact ready.brings_unexpected

/-- At the end of the source there is nothing to keep. -/
theorem recognize_of_nil (unread : state.cursor.unread = []) : state.recognize = state.token .endOfInput := by
  rw [recognize, Cursor.peek?_eq_none_iff.mpr unread]

/-- The buffer and the note do not show: a pull is the pull of the scanner without them. -/
theorem pull_eq (state : Buffered) :
    state.pull.1 = state.toScanner.pull.1 ∧ state.pull.2.toScanner = state.toScanner.pull.2 := by
  unfold pull Scanner.pull
  dsimp only
  cases state.malformedChar? with
  | some c => exact ⟨rfl, rfl⟩
  | none =>
      simp only [skipBlanks_eq]
      cases unread : (state.cursor.skipWhile isBlank).unread with
      | nil =>
          rw [recognize_of_nil unread, Scanner.readAt_of_nil unread]
          exact ⟨rfl, rfl⟩
      | cons first rest =>
          -- The buffer has been cleared and the flag taken back, so a recognizer may be called.
          have ready : Ready
              { state with
                cursor := state.cursor.skipWhile isBlank
                inMalformedRun := false
                lexeme := []
                start := (state.cursor.skipWhile isBlank).position } first rest :=
            ⟨rfl, rfl, unread⟩
          obtain ⟨brings, leaves⟩ := ready.brings_recognize
          rw [Scanner.readAt_of_cons unread]
          exact ⟨brings, leaves⟩

/-- A step of an iteration is one of the scanner without them. -/
theorem next?_eq (state : Buffered) :
    state.next?.map (fun step => (step.1, step.2.toScanner)) = state.toScanner.next? := by
  obtain ⟨brings, leaves⟩ := state.pull_eq
  cases going : state.finished with
  | true =>
      rw [next?, going, Scanner.next?_of_finished going]
      rfl
  | false =>
      cases ending : state.toScanner.pull.1.isEnd with
      | true =>
          rw [Scanner.next?_of_going going, ending]
          simp [next?, going, brings, ending, leaves, Scanner.withFinished]
      | false =>
          rw [Scanner.next?_of_more going ending]
          simp [next?, going, brings, ending, leaves]

/-!
### Pulling again and again
-/

/-- The state after a number of pulls. -/
def afterPulls : Nat → Buffered → Buffered
  | 0, state => state
  | n + 1, state => afterPulls n state.pull.2

/-- What the pull of the given number brings. The first pull is number zero. -/
def nthReading (state : Buffered) (n : Nat) : Reading := (afterPulls n state).pull.1

/-- After any number of pulls the two scanners are in the same state. -/
theorem toScanner_afterPulls (n : Nat) (state : Buffered) :
    (afterPulls n state).toScanner = Scanner.afterPulls n state.toScanner := by
  induction n generalizing state with
  | zero => rfl
  | succ n ih => rw [afterPulls, ih, state.pull_eq.2, Scanner.afterPulls_succ]

/-- With any number of pulls before it, a pull brings the same in both scanners. -/
theorem nthReading_eq (state : Buffered) (n : Nat) : state.nthReading n = state.toScanner.nthReading n := by
  rw [nthReading, (afterPulls n state).pull_eq.1, toScanner_afterPulls]
  rfl

end MaximalMunch.Buffered
