/-
Module: MaximalMunch.Proofs.Seams
Layer: Proofs
Purpose: A scan arrives at blocks from outside. Whatever has been read, when the next lexeme begins with a word
  character there is none right before it, and when it begins with a digit there is no sign right before it
  (`Parted`); the one exception is a spoiled block, which is read character by character, and then the next
  character is to blame as well. This is an invariant of the state (`Scanner.AtSeam`). It holds at the start,
  every pull keeps it, and it decides what a pull brings from the unread text and what was read before: a
  `Piece`, in which words and integers are whole blocks. The main result is `exists_piece_pull`, with the rule
  of the longest lexeme behind it (`exists_piece_of`).
Imports: MaximalMunch.Place, MaximalMunch.Proofs.Extension
Trusted boundary: none
Main exports: IsBlock.block_eq, Place.Blamed.next, Parted, Piece, exists_piece_of, Scanner.AtSeam,
  atSeam_ofChars, exists_piece_pull, exists_piece_of_mem_readings
Open obligations: none
-/
import MaximalMunch.Place
import MaximalMunch.Proofs.Extension

namespace MaximalMunch

open CharClass

/-!
### The characters of symbols
-/

/-- The characters of symbols are operators and punctuation marks. -/
theorem operator_or_punctuation_of_symbol? {kind : Kind} {spelling : List Char}
    (spelled : kind.symbol? = some spelling) :
    ∀ c ∈ spelling, (isOperatorStart c || isPunctuation c) = true ∧ isWord c = false := by
  have all : (spelling.all fun c => (isOperatorStart c || isPunctuation c) && !isWord c) = true := by
    cases kind <;> cases spelled <;> rfl
  intro c member
  simpa only [Bool.and_eq_true, Bool.not_eq_true'] using List.all_eq_true.mp all c member

/-- Every punctuation mark is a symbol. -/
theorem isSymbol_of_isPunctuation {c : Char} (mark : isPunctuation c = true) : IsSymbol [c] := by
  have found : (Kind.ofSymbol? [c]).isSome = true := by
    simp only [isPunctuation, List.contains_eq_mem, List.mem_cons, List.not_mem_nil, or_false,
      decide_eq_true_eq] at mark
    rcases mark with rfl | rfl | rfl | rfl | rfl | rfl | rfl | rfl <;> decide
  obtain ⟨kind, spelled⟩ := Option.isSome_iff_exists.mp found
  exact ⟨kind, Kind.ofSymbol?_eq_some_iff.mp spelled⟩

/-- Of the operators, an exclamation mark alone is none by itself. -/
theorem isSymbol_of_isOperatorStart {c : Char} (operator : isOperatorStart c = true) (other : c ≠ '!') :
    IsSymbol [c] := by
  have found : (Kind.ofSymbol? [c]).isSome = true := by
    simp only [isOperatorStart, List.contains_eq_mem, List.mem_cons, List.not_mem_nil, or_false,
      decide_eq_true_eq] at operator
    rcases operator with rfl | rfl | rfl | rfl | rfl | rfl | rfl | rfl
    all_goals first | decide | exact absurd rfl other
  obtain ⟨kind, spelled⟩ := Option.isSome_iff_exists.mp found
  exact ⟨kind, Kind.ofSymbol?_eq_some_iff.mp spelled⟩

/-!
### The block of a place

Inside of a block, every place has that block; outside of it, what stands there cannot tell.
-/

/-- Where word characters start, the word characters at the end of a text do. -/
theorem wordAtEnd_append {before block : List Char} (words : ∀ c ∈ block, isWord c = true)
    (starts : before.getLast?.any isWord = false) : wordAtEnd (before ++ block) = block := by
  have backwards : ∀ c ∈ block.reverse, isWord c = true := fun c member =>
    words c (List.mem_reverse.mp member)
  rw [← List.head?_reverse] at starts
  rw [wordAtEnd, List.reverse_append, takeWhile_append_of_stops backwards starts, List.reverse_reverse]

/-- There are none behind a character that is none. -/
theorem wordAtEnd_eq_nil {before : List Char} (starts : before.getLast?.any isWord = false) :
    wordAtEnd before = [] := by
  have alone : wordAtEnd (before ++ []) = [] := wordAtEnd_append (fun _ member => nomatch member) starts
  rwa [List.append_nil] at alone

namespace IsBlock

variable {before after front back : List Char} {c : Char}

/-- In front of a place in a block there are word characters back to the start of the block. -/
theorem front_words (block : IsBlock before (front ++ c :: back) after) : ∀ d ∈ front, isWord d = true :=
  fun d member => block.words d (List.mem_append_left _ member)

/-- Behind a place in a block there are word characters up to its end. -/
theorem back_words (block : IsBlock before (front ++ c :: back) after) : ∀ d ∈ back, isWord d = true :=
  fun d member => block.words d (List.mem_append_right _ (List.mem_cons_of_mem c member))

theorem char_word (block : IsBlock before (front ++ c :: back) after) : isWord c = true :=
  block.words c (List.mem_append_right _ List.mem_cons_self)

/-- Seen from a place in it, a block begins where it begins. -/
theorem wordAtEnd_eq (block : IsBlock before (front ++ c :: back) after) :
    wordAtEnd (before ++ front) = front :=
  wordAtEnd_append block.front_words block.starts

/-- The block of every place in a block is that block. -/
theorem block_eq (block : IsBlock before (front ++ c :: back) after) :
    Place.block ⟨before ++ front, c, back ++ after⟩ = front ++ c :: back := by
  have behind : wordAtFront (back ++ after) = back := takeWhile_append_of_stops block.back_words block.stops
  rw [Place.block, block.wordAtEnd_eq, behind]

end IsBlock

/-- Seen from its start, it ends where it ends. -/
theorem wordAtFront_eq {before block after : List Char} (isBlock : IsBlock before block after) :
    wordAtFront (block ++ after) = block :=
  takeWhile_append_of_stops isBlock.words isBlock.stops

/-- Digits with a word character behind them are spoiled by it, if it is no digit. -/
theorem spoilsNumber_of_append {digits more : List Char} {c : Char} (some : digits ≠ [])
    (digital : ∀ d ∈ digits, isDigit d = true) (word : isWord c = true) (noDigit : isDigit c = false) :
    SpoilsNumber (wordAtFront (digits ++ c :: more)) := by
  have words : ∀ d ∈ digits, isWord d = true := fun d member => isWord_of_isDigit (digital d member)
  rw [wordAtFront, List.takeWhile_append_of_pos words, List.takeWhile_cons_of_pos word]
  constructor
  · obtain ⟨d, digits, rfl⟩ := List.exists_cons_of_ne_nil some
    exact digital d List.mem_cons_self
  · simp [noDigit]

/-- If a character is to blame and a word character follows it, that one is to blame as well: it stands in the
    same block, or in the block that follows the sign. -/
theorem Place.Blamed.next {done more : List Char} {c d : Char} (blamed : Place.Blamed ⟨done, c, d :: more⟩)
    (word : isWord d = true) : Place.Blamed ⟨done ++ [c], d, more⟩ := by
  refine Or.inl ⟨word, ?_⟩
  rcases blamed with ⟨inBlock, spoiled⟩ | ⟨sign, spoils⟩
  · have same : Place.block ⟨done ++ [c], d, more⟩ = Place.block ⟨done, c, d :: more⟩ := by
      have inBlock : isWord c = true := inBlock
      simp [Place.block, wordAtEnd, wordAtFront, inBlock, word]
    rw [same]
    exact spoiled
  · have ends : (done ++ [c]).getLast?.any isWord = false := by
      rw [List.getLast?_concat]
      exact isWord_eq_false_of_isSign sign
    have same : Place.block ⟨done ++ [c], d, more⟩ = wordAtFront (d :: more) := by
      simp [Place.block, wordAtEnd_eq_nil ends, wordAtFront, word]
    rw [same]
    exact Or.inr spoils

/-- Only word characters and signs are blamed for a malformed run. -/
theorem isWord_or_isSign_of_blamed {place : Place} (blamed : place.Blamed) :
    isWord place.char = true ∨ isSign place.char = true :=
  blamed.imp And.left And.left

/-- What begins nothing is neither a word character nor a sign. -/
theorem Place.BeginsNothing.isWord_isSign {place : Place} (nothing : place.BeginsNothing) :
    isWord place.char = false ∧ isSign place.char = false := by
  rcases nothing with ⟨mark, _⟩ | foreign
  · rw [mark]
    decide
  · simp only [isForeign, Bool.not_eq_true', Bool.or_eq_false_iff] at foreign
    obtain ⟨⟨⟨noWord, _⟩, _⟩, noOperator⟩ := foreign
    refine ⟨noWord, ?_⟩
    rw [Bool.eq_false_iff]
    intro sign
    simp only [isSign, Bool.or_eq_true, decide_eq_true_eq] at sign
    rcases sign with plus | minus
    · rw [plus] at noOperator
      cases noOperator
    · rw [minus] at noOperator
      cases noOperator

/-!
### What a text falls into
-/

/-- What follows is not carried on from what has been read: a word character has none right before it, and a
    digit has no sign right before it either. -/
structure Parted (done rest : List Char) : Prop where
  word : rest.head?.any isWord = true → done.getLast?.any isWord = false
  number : rest.head?.any isDigit = true → done.getLast?.any isSign = false

/-- In front of what is no word character a text may be cut. -/
theorem parted_of_stops {rest : List Char} (done : List Char) (stops : rest.head?.any isWord = false) :
    Parted done rest := by
  constructor
  · intro word
    rw [stops] at word
    cases word
  · intro digit
    rw [any_isDigit_eq_false stops] at digit
    cases digit

/-- Behind what is neither a word character nor a sign a text may be cut. -/
theorem parted_concat {c : Char} (done rest : List Char) (noWord : isWord c = false)
    (noSign : isSign c = false) : Parted (done ++ [c]) rest := by
  constructor
  · intro _
    rw [List.getLast?_concat]
    exact noWord
  · intro _
    rw [List.getLast?_concat]
    exact noSign

/-- What a pull reads behind `done`: a `stretch` of the source, with `rest` behind it, and the reading that is
    brought for it. -/
inductive Piece (done : List Char) : List Char → List Char → Reading → Prop where
  /-- A whole block that begins with a letter. -/
  | word {block rest : List Char} (letter : block.head?.any isLetter = true) (isBlock : IsBlock done block rest) :
      Piece done block rest (.token (blockToken done block))
  /-- A whole block of digits with no sign before it. -/
  | unsigned {block rest : List Char} (digits : ∀ c ∈ block, isDigit c = true)
      (noSign : done.getLast?.any isSign = false) (isBlock : IsBlock done block rest) :
      Piece done block rest (.token (blockToken done block))
  /-- A sign and the whole block of digits behind it. -/
  | signed {sign : Char} {block rest : List Char} (isSign : isSign sign = true)
      (digits : ∀ c ∈ block, isDigit c = true) (isBlock : IsBlock (done ++ [sign]) block rest) :
      Piece done (sign :: block) rest (.token (blockToken (done ++ [sign]) block))
  /-- A symbol. One that is a sign is not followed by a digit. -/
  | symbol {kind : Kind} {spelling rest : List Char} (spelled : kind.symbol? = some spelling)
      (noDigit : ∀ sign, spelling = [sign] → isSign sign = true → rest.head?.any isDigit = false) :
      Piece done spelling rest (.token ⟨kind, String.ofList spelling, .after done⟩)
  | string {body rest : List Char} (valid : StringBody body) :
      Piece done ('"' :: body ++ ['"']) rest (.token ⟨.string, String.ofList body, .after done⟩)
  /-- One character of a spoiled block, or the sign before one. -/
  | malformed {c : Char} {rest : List Char} (blamed : Place.Blamed ⟨done, c, rest⟩) :
      Piece done [c] rest (.error (.invalidStart c (.after done)))
  | unexpected {c : Char} {rest : List Char} (nothing : Place.BeginsNothing ⟨done, c, rest⟩)
      (noMark : c ≠ '"') : Piece done [c] rest (.error (.unexpectedCharacter c (.after done)))
  /-- A mark that is never closed takes all that follows along. -/
  | unterminated {more : List Char} :
      Piece done ('"' :: more) [] (.error (.unterminatedString (.after done)))
  | endOfInput : Piece done [] [] (.token ⟨.endOfInput, "", .after done⟩)

/-- The token of a block that begins with a letter is the word. -/
theorem blockToken_of_letter {done block : List Char} (letter : block.head?.any isLetter = true) :
    blockToken done block =
      ⟨(Kind.ofReservedWord? (String.ofList block)).getD .identifier, String.ofList block, .after done⟩ :=
  if_pos letter

/-- A block of digits begins with no letter. -/
theorem not_letter_of_digits {block : List Char} (digits : ∀ c ∈ block, isDigit c = true) :
    ¬ block.head?.any isLetter = true := by
  cases block with
  | nil => exact Bool.false_ne_true
  | cons c block =>
      rw [Bool.not_eq_true]
      exact isLetter_eq_false_of_isDigit (digits c List.mem_cons_self)

/-- Digits without a sign in front are an integer. -/
theorem blockToken_of_unsigned {done block : List Char} (digits : ∀ c ∈ block, isDigit c = true)
    (noSign : done.getLast?.any isSign = false) :
    blockToken done block = ⟨.integer, String.ofList block, .after done⟩ := by
  have none : done.getLast?.filter isSign = none := by
    cases last : done.getLast? with
    | none => rfl
    | some c =>
        rw [last] at noSign
        have noSign : isSign c = false := noSign
        simp [noSign]
  rw [blockToken, if_neg (not_letter_of_digits digits), none]

/-- A sign in front of digits is part of the integer. -/
theorem blockToken_of_signed {done block : List Char} {sign : Char}
    (digits : ∀ c ∈ block, isDigit c = true) (isSign : isSign sign = true) :
    blockToken (done ++ [sign]) block = ⟨.integer, String.ofList (sign :: block), .after done⟩ := by
  have some : (done ++ [sign]).getLast?.filter CharClass.isSign = some sign := by
    simp [isSign]
  rw [blockToken, if_neg (not_letter_of_digits digits), some, List.dropLast_concat]

/-- A lexeme that nothing carries on, neither from behind nor from before, is a piece. -/
theorem Lexeme.piece {lexeme : Lexeme} {done rest : List Char} (valid : lexeme.Valid)
    (ends : lexeme.EndsBefore rest) (parted : Parted done (lexeme.spelling ++ rest)) :
    Piece done lexeme.spelling rest (.token ⟨lexeme.kind, String.ofList lexeme.text, .after done⟩) := by
  have written := valid.written
  obtain ⟨kind, text⟩ := lexeme
  generalize Lexeme.spelling ⟨kind, text⟩ = spelling at written parted
  cases written with
  | word word looked =>
      have stops := ends.word (endsInWord_of_word looked)
      obtain ⟨first, more, rfl, letter, words⟩ := word
      have block : IsBlock done (first :: more) rest := by
        refine ⟨List.cons_ne_nil _ _, ?_, parted.word (isWord_of_isLetter letter), stops⟩
        intro c member
        rcases List.mem_cons.mp member with rfl | member
        · exact isWord_of_isLetter letter
        · exact words c member
      have begins : (first :: more).head?.any isLetter = true := letter
      have piece := Piece.word begins block
      rwa [blockToken_of_letter begins, looked] at piece
  | integer integer =>
      have stops := ends.word rfl
      obtain ⟨first, more, rfl⟩ := IsLexeme.exists_cons (Or.inr (Or.inl integer))
      obtain ⟨digit | ⟨sign, some⟩, digits⟩ := isInteger_cons_iff.mp integer
      · have all : ∀ c ∈ first :: more, isDigit c = true := by
          simpa only [List.forall_mem_cons] using ⟨digit, digits⟩
        have block : IsBlock done (first :: more) rest :=
          ⟨List.cons_ne_nil _ _, fun c member => isWord_of_isDigit (all c member),
            parted.word (isWord_of_isDigit digit), stops⟩
        have piece := Piece.unsigned all (parted.number digit) block
        rwa [blockToken_of_unsigned all (parted.number digit)] at piece
      · have block : IsBlock (done ++ [first]) more rest := by
          refine ⟨some, fun c member => isWord_of_isDigit (digits c member), ?_, stops⟩
          rw [List.getLast?_concat]
          exact isWord_eq_false_of_isSign sign
        have piece := Piece.signed sign digits block
        rwa [blockToken_of_signed digits sign] at piece
  | string body => exact .string body
  | symbol spelled =>
      refine .symbol spelled ?_
      rintro sign rfl isSign
      exact ends.digit (isSignSymbol_of_symbol? isSign spelled)

/-- What the rule of the longest match calls malformed is blamed at its place. -/
theorem Place.blamed_of_fits {done rest : List Char} {first : Char} (parted : Parted done (first :: rest))
    (fits : Finding.malformed.Fits (first :: rest)) : Place.Blamed ⟨done, first, rest⟩ := by
  have alone : isWord first = true → Place.block ⟨done, first, rest⟩ = wordAtFront (first :: rest) := by
    intro word
    simp [Place.block, wordAtEnd_eq_nil (parted.word word), wordAtFront, word]
  rcases fits with underscore | ⟨integer, longest, isInteger, runs⟩
  · obtain rfl : first = '_' := Option.some.inj underscore
    refine Or.inl ⟨rfl, Or.inl ?_⟩
    rw [alone rfl]
    rfl
  · obtain ⟨digits, rfl⟩ := longest.exists_cons
    obtain ⟨beyond, split⟩ := longest.2.1
    obtain rfl : digits ++ beyond = rest := (List.cons.inj split).2
    rw [← List.cons_append, List.drop_left] at runs
    cases beyond with
    | nil => cases runs
    | cons c beyond =>
        have noDigit := Finding.isDigit_eq_false_of_isLongest isInteger longest
        obtain ⟨digit | ⟨sign, some⟩, digital⟩ := isInteger_cons_iff.mp isInteger
        · have word := isWord_of_isDigit digit
          refine Or.inl ⟨word, Or.inr ?_⟩
          have all : ∀ d ∈ first :: digits, isDigit d = true := by
            simpa only [List.forall_mem_cons] using ⟨digit, digital⟩
          rw [alone word]
          exact spoilsNumber_of_append (List.cons_ne_nil _ _) all runs noDigit
        · exact Or.inr ⟨sign, spoilsNumber_of_append some digital runs noDigit⟩

/-- What it calls unexpected begins nothing at its place. -/
theorem Place.beginsNothing_of_fits {done rest : List Char} {first : Char} (noBlank : isBlank first = false)
    (fits : Finding.unexpected.Fits (first :: rest)) : Place.BeginsNothing ⟨done, first, rest⟩ := by
  obtain ⟨none, noUnderscore, _⟩ := fits
  have noSymbol : ¬ IsSymbol [first] := fun symbol =>
    none [first] (Or.inr (Or.inr (Or.inr symbol))) ⟨rest, rfl⟩
  by_cases operator : isOperatorStart first = true
  · left
    have mark : first = '!' :=
      Decidable.byContradiction fun other => noSymbol (isSymbol_of_isOperatorStart operator other)
    refine ⟨mark, ?_⟩
    intro equal
    obtain ⟨more, rfl⟩ := List.head?_eq_some_iff.mp equal
    rw [mark] at none
    exact none ['!', '='] (Or.inr (Or.inr (Or.inr ⟨.notEqual, rfl⟩))) ⟨more, rfl⟩
  · right
    have noWord : isWord first = false := by
      rw [Bool.eq_false_iff, Ne, isWord_iff]
      rintro (letter | digit | underscore)
      · refine none [first] (Or.inl (isWord_cons_iff.mpr ⟨isLetter_iff.mpr letter, ?_⟩)) ⟨rest, rfl⟩
        exact fun _ member => nomatch member
      · refine none [first] (Or.inr (Or.inl (isInteger_cons_iff.mpr ⟨Or.inl (isDigit_iff.mpr digit), ?_⟩)))
          ⟨rest, rfl⟩
        exact fun _ member => nomatch member
      · exact noUnderscore (congrArg some (eq_underscore_iff.mpr underscore))
    have noMark : isPunctuation first = false :=
      Bool.eq_false_iff.mpr fun mark => noSymbol (isSymbol_of_isPunctuation mark)
    simp [isForeign, noWord, noBlank, noMark, operator]

/-- What is found at the front of a text is a piece, if the text is parted from what has been read. -/
theorem exists_piece_of {done rest : List Char} {first : Char} (noBlank : isBlank first = false)
    (parted : Parted done (first :: rest)) :
    ∃ stretch beyond, first :: rest = stretch ++ beyond ∧
      Piece done stretch beyond ((Finding.of first rest).reading first (.after done)) ∧
      (Finding.of first rest).past ⟨first :: rest, .after done⟩ = ⟨beyond, .after (done ++ stretch)⟩ := by
  have fits := Finding.fits_of first rest
  cases found : Finding.of first rest with
  | lexeme kind text =>
      rw [found] at fits
      obtain ⟨valid, longest, free⟩ := fits
      have valid : Lexeme.Valid ⟨kind, text⟩ := valid
      obtain ⟨beyond, split⟩ := longest.2.1
      rw [← split] at longest free parted
      refine ⟨kind.lexeme text, beyond, split.symm, ?_, ?_⟩
      · exact Lexeme.piece valid (endsBefore_of_isLongest valid longest free) parted
      · rw [Finding.past, Cursor.advanceBy_of_unread split.symm, Position.advanceAll_after]
  | malformed =>
      rw [found] at fits
      refine ⟨[first], rest, rfl, .malformed (Place.blamed_of_fits parted fits), ?_⟩
      rw [Position.after_concat]
      rfl
  | unexpected =>
      rw [found] at fits
      have noMark : first ≠ '"' := fun same => fits.2.2 (congrArg some same)
      refine ⟨[first], rest, rfl, .unexpected (Place.beginsNothing_of_fits noBlank fits) noMark, ?_⟩
      rw [Position.after_concat]
      rfl
  | unterminated =>
      rw [found] at fits
      obtain rfl : first = '"' := Option.some.inj fits.2
      refine ⟨'"' :: rest, [], (List.append_nil _).symm, .unterminated, ?_⟩
      rw [Finding.past, Cursor.advanceToEnd, Position.advanceAll_after]

/-- Behind a piece the text is parted again, but for a malformed run that may go on. -/
theorem Piece.parted {done stretch rest : List Char} {reading : Reading}
    (piece : Piece done stretch rest reading) (closed : ∀ c p, reading ≠ .error (.invalidStart c p)) :
    Parted (done ++ stretch) rest := by
  cases piece with
  | word _ isBlock => exact parted_of_stops _ isBlock.stops
  | unsigned _ _ isBlock => exact parted_of_stops _ isBlock.stops
  | signed _ _ isBlock => exact parted_of_stops _ isBlock.stops
  | symbol spelled noDigit =>
      match stretch, spelled with
      | [], spelled => exact absurd spelled (symbol?_ne_some_nil _)
      | [first], spelled =>
          constructor
          · intro _
            rw [List.getLast?_concat]
            exact (operator_or_punctuation_of_symbol? spelled first List.mem_cons_self).2
          · intro digit
            rw [List.getLast?_concat]
            cases sign : isSign first with
            | false => simp [sign]
            | true =>
                rw [noDigit first rfl sign] at digit
                cases digit
      | first :: second :: more, spelled =>
          rw [Kind.symbol?_eq_some_cons_cons spelled, List.append_cons]
          exact parted_concat _ _ rfl rfl
  | string =>
      rw [← List.append_assoc]
      exact parted_concat _ _ rfl rfl
  | malformed => exact absurd rfl (closed _ _)
  | unexpected nothing => exact parted_concat _ _ nothing.isWord_isSign.1 nothing.isWord_isSign.2
  | unterminated => exact parted_of_stops _ rfl
  | endOfInput => exact parted_of_stops _ rfl

namespace Scanner

/-!
### The invariant
-/

/-- The scanner has read `done`, and what it reads next is parted from that, or it goes on with a malformed run
    in a spoiled block. -/
structure AtSeam (done : List Char) (scanner : Scanner) : Prop where
  position : scanner.position = .after done
  goesOn : scanner.inMalformedRun = true → ∀ c more, scanner.cursor.unread = c :: more → isWord c = true →
    Place.Blamed ⟨done, c, more⟩
  parted : scanner.inMalformedRun = false → Parted done scanner.cursor.unread

variable {done : List Char} {scanner : Scanner}

/-- A fresh scanner stands at a seam. -/
theorem atSeam_ofChars (source : List Char) : AtSeam [] (.ofChars source) := by
  constructor
  case position => rfl
  case goesOn =>
    intro flag
    cases flag
  case parted =>
    intro _
    constructor <;> intro _ <;> rfl

/-- Outside of a malformed run the next lexeme is parted from what has been read, blanks included. -/
theorem AtSeam.parted_gap (seam : scanner.AtSeam done) (outside : scanner.OutsideRun) {gap text : List Char}
    (unread : scanner.cursor.unread = gap ++ text) (blank : IsBlank gap) : Parted (done ++ gap) text := by
  rcases List.eq_nil_or_concat gap with rfl | ⟨earlier, last, rfl⟩
  · rw [List.append_nil]
    rw [List.nil_append] at unread
    rw [← unread]
    cases flag : scanner.inMalformedRun with
    | false => exact seam.parted flag
    | true =>
        have stops := outside.resolve_left (by rw [flag]; exact Bool.noConfusion)
        refine parted_of_stops _ ?_
        rwa [Cursor.peek?, Cursor.peekNth?, ← List.head?_eq_getElem?] at stops
  · have last := blank last (by simp)
    rw [List.concat_eq_append, ← List.append_assoc]
    exact parted_concat _ _ (isWord_eq_false_of_isBlank last) (isSign_eq_false_of_isBlank last)


/-- A piece leads to a seam, if the flag tells whether it was malformed. -/
theorem atSeam_of_piece {stretch rest : List Char} {reading : Reading} (piece : Piece done stretch rest reading)
    (cursor : scanner.cursor = ⟨rest, .after (done ++ stretch)⟩)
    (flag : scanner.inMalformedRun = true ↔ ∃ c p, reading = .error (.invalidStart c p)) :
    scanner.AtSeam (done ++ stretch) := by
  constructor
  case position => rw [Scanner.position, cursor]
  case goesOn =>
    intro run c more unread word
    obtain ⟨_, _, rfl⟩ := flag.mp run
    rw [cursor] at unread
    cases piece with
    | malformed blamed =>
        obtain rfl : rest = c :: more := unread
        exact blamed.next word
  case parted =>
    intro run
    rw [cursor]
    refine piece.parted ?_
    intro c p same
    rw [flag.mpr ⟨c, p, same⟩] at run
    cases run

/-- At a seam, a pull reads a piece behind some blanks. -/
theorem AtSeam.exists_piece (seam : scanner.AtSeam done) :
    ∃ gap stretch rest, scanner.cursor.unread = gap ++ (stretch ++ rest) ∧ IsBlank gap ∧
      Piece (done ++ gap) stretch rest scanner.pull.1 ∧
      scanner.pull.2.cursor = ⟨rest, .after (done ++ gap ++ stretch)⟩ := by
  rcases scanner.outsideRun_or_exists with outside | ⟨c, rest, run, unread, word⟩
  · obtain ⟨gap, text, unread, blank, stops⟩ := exists_stop isBlank scanner.cursor.unread
    have pulled := pull_of_outsideRun outside unread blank stops
    rw [seam.position, Position.advanceAll_after] at pulled
    cases text with
    | nil =>
        rw [readAt_of_nil rfl] at pulled
        rw [pulled]
        exact ⟨gap, [], [], unread, blank, .endOfInput, by rw [List.append_nil]⟩
    | cons first text =>
        obtain ⟨stretch, rest, split, piece, past⟩ :=
          exists_piece_of stops (seam.parted_gap outside unread blank)
        rw [readAt_of_cons rfl, past] at pulled
        rw [pulled]
        exact ⟨gap, stretch, rest, by rw [unread, split], blank, piece, rfl⟩
  · have blamed := seam.goesOn run c rest unread word
    have noBlank : IsBlank [] := fun _ member => nomatch member
    rw [pull_of_insideRun run unread word, seam.position, ← Position.after_concat]
    refine ⟨[], [c], rest, unread, noBlank, ?_, by rw [List.append_nil]⟩
    rw [List.append_nil]
    exact .malformed blamed

/-- At a seam, a pull reads a piece behind some blanks and comes to a seam again. -/
theorem exists_piece_pull (seam : scanner.AtSeam done) :
    ∃ gap stretch rest, scanner.cursor.unread = gap ++ (stretch ++ rest) ∧ IsBlank gap ∧
      Piece (done ++ gap) stretch rest scanner.pull.1 ∧
      scanner.pull.2.cursor = ⟨rest, .after (done ++ gap ++ stretch)⟩ ∧
      scanner.pull.2.AtSeam (done ++ gap ++ stretch) := by
  obtain ⟨gap, stretch, rest, unread, blank, piece, cursor⟩ := seam.exists_piece
  exact ⟨gap, stretch, rest, unread, blank, piece, cursor,
    atSeam_of_piece piece cursor scanner.inMalformedRun_pull_iff⟩

/-- All that an iteration brings from a seam on is pieces. -/
theorem exists_piece_of_mem (going : scanner.finished = false) (seam : scanner.AtSeam done) {reading : Reading}
    (member : reading ∈ scanner.readings) :
    ∃ passed stretch rest, scanner.cursor.unread = passed ++ (stretch ++ rest) ∧
      Piece (done ++ passed) stretch rest reading := by
  refine readings_induction (motive := fun scanner readings => ∀ done, scanner.AtSeam done →
    reading ∈ readings → ∃ passed stretch rest, scanner.cursor.unread = passed ++ (stretch ++ rest) ∧
      Piece (done ++ passed) stretch rest reading) ?_ ?_ scanner going done seam member
  · intro scanner _ _ done seam member
    obtain ⟨gap, stretch, rest, unread, _, piece, _⟩ := exists_piece_pull seam
    obtain rfl := List.mem_singleton.mp member
    exact ⟨gap, stretch, rest, unread, piece⟩
  · intro scanner _ _ ih done seam member
    obtain ⟨gap, stretch, rest, unread, _, piece, cursor, later⟩ := exists_piece_pull seam
    rcases List.mem_cons.mp member with rfl | member
    · exact ⟨gap, stretch, rest, unread, piece⟩
    · obtain ⟨passed, next, beyond, behind, piece⟩ := ih _ later member
      rw [cursor] at behind
      have behind : rest = passed ++ (next ++ beyond) := behind
      refine ⟨gap ++ stretch ++ passed, next, beyond, ?_, ?_⟩
      · rw [unread, behind]
        simp only [List.append_assoc]
      · simpa only [List.append_assoc] using piece

end Scanner

/-- Every reading of a source is brought by a piece of it. -/
theorem exists_piece_of_mem_readings {source : List Char} {reading : Reading}
    (member : reading ∈ readings source) :
    ∃ done stretch rest, source = done ++ (stretch ++ rest) ∧ Piece done stretch rest reading :=
  Scanner.exists_piece_of_mem rfl (Scanner.atSeam_ofChars source) member

end MaximalMunch
