/-
Module: MaximalMunch.Proofs.Locality
Layer: Proofs
Purpose: In a source without quotes the neighbourhood of a character decides. A scan goes from left to right and
  keeps a state, but since it arrives at every block from outside, what it brings for a block or for a sign does
  not depend on what it did before. Each piece of a scan brings exactly what is to be found at its places
  (`Piece.filterMap_error?`, `Piece.filterMap_token?`), and blanks bring nothing. So the errors of a source are
  those of its places, and the words and integers are its blocks that are not spoiled, one by one and in order;
  the induction over a scan is stated once for both (`filterMap_readings`). The main result is
  `tokenize_local`.
Imports: MaximalMunch.Proofs.Seams
Trusted boundary: none
Main exports: filterMap_readings, errors_of_plain, blockTokens_of_plain, tokenize_local
Open obligations: none
-/
import MaximalMunch.Proofs.Seams

namespace MaximalMunch

open CharClass

/-- The token, if it is a word or an integer. -/
def Reading.blockToken? (reading : Reading) : Option Token :=
  reading.token?.filter fun token => (Lexeme.ofToken token).endsInWord

/-- Words and integers are the tokens that have a block. -/
theorem Reading.blockToken?_of_endsInWord {token : Token} (ends : (Lexeme.ofToken token).endsInWord = true) :
    Reading.blockToken? (.token token) = some token :=
  Option.filter_some_pos ends

/-- A token that ends otherwise has no block. -/
theorem Reading.blockToken?_of_not_endsInWord {token : Token}
    (other : (Lexeme.ofToken token).endsInWord = false) : Reading.blockToken? (.token token) = none :=
  Option.filter_some_neg other

/-!
### What is to be found at a place
-/

namespace Place

/-- A character outside of blocks makes no error if it is known, a bang has its equals sign behind it, and a
    sign does not stand before a spoiled number. -/
theorem error?_of_not_word {place : Place} (noWord : isWord place.char = false)
    (known : isForeign place.char = false) (mark : place.char = '!' → place.after.head? = some '=')
    (sign : isSign place.char = true → ¬ SpoilsNumber (wordAtFront place.after)) : place.error? = none := by
  have something : ¬ place.BeginsNothing := by
    rintro (⟨same, other⟩ | foreign)
    · exact other (mark same)
    · rw [known] at foreign
      cases foreign
  have innocent : ¬ place.Blamed := by
    rintro (⟨word, _⟩ | ⟨signs, spoils⟩)
    · rw [noWord] at word
      cases word
    · exact sign signs spoils
  rw [error?, if_neg something, if_neg innocent]

/-- A character in an unspoiled block makes no error. -/
theorem error?_of_word {place : Place} (word : isWord place.char = true) (unspoiled : ¬ Spoiled place.block) :
    place.error? = none := by
  have something : ¬ place.BeginsNothing := by
    intro nothing
    rw [nothing.isWord_isSign.1] at word
    cases word
  have innocent : ¬ place.Blamed := by
    rintro (⟨_, spoiled⟩ | ⟨sign, _⟩)
    · exact unspoiled spoiled
    · rw [isWord_eq_false_of_isSign sign] at word
      cases word
  rw [error?, if_neg something, if_neg innocent]

/-- A sign makes no error if the number behind it is not spoiled. -/
theorem error?_of_isSign {place : Place} (sign : isSign place.char = true)
    (number : ¬ SpoilsNumber (wordAtFront place.after)) : place.error? = none := by
  have either : place.char = '+' ∨ place.char = '-' := by
    simpa only [isSign, Bool.or_eq_true, decide_eq_true_eq] using sign
  apply error?_of_not_word (isWord_eq_false_of_isSign sign)
  · rcases either with plus | minus
    · rw [plus]
      decide
    · rw [minus]
      decide
  · intro mark
    rw [mark] at sign
    cases sign
  · exact fun _ => number

/-- A blank makes no error. -/
theorem error?_of_isBlank {place : Place} (blank : isBlank place.char = true) : place.error? = none := by
  apply error?_of_not_word (isWord_eq_false_of_isBlank blank)
  · simp [isForeign, blank]
  · intro mark
    rw [mark] at blank
    cases blank
  · intro sign
    rw [isSign_eq_false_of_isBlank blank] at sign
    cases sign

/-- A character that is blamed for a malformed run makes the error of one. -/
theorem error?_of_blamed {place : Place} (blamed : place.Blamed) :
    place.error? = some (.invalidStart place.char place.position) := by
  have something : ¬ place.BeginsNothing := by
    intro nothing
    obtain ⟨noWord, noSign⟩ := nothing.isWord_isSign
    rcases isWord_or_isSign_of_blamed blamed with word | sign
    · rw [noWord] at word
      cases word
    · rw [noSign] at sign
      cases sign
  rw [error?, if_neg something, if_pos blamed]

/-- No block begins at a character that is in none. -/
theorem token?_eq_none_of_not_word {place : Place} (noWord : isWord place.char = false) :
    place.token? = none := by
  refine if_neg ?_
  rintro ⟨word, _⟩
  rw [noWord] at word
  cases word

/-- No token begins at a character that is blamed. -/
theorem token?_eq_none_of_blamed {place : Place} (blamed : place.Blamed) : place.token? = none := by
  rcases blamed with ⟨_, spoiled⟩ | ⟨sign, _⟩
  · exact if_neg fun begins => begins.2.2 spoiled
  · exact token?_eq_none_of_not_word (isWord_eq_false_of_isSign sign)

theorem token?_of_isBlank {place : Place} (blank : isBlank place.char = true) : place.token? = none :=
  token?_eq_none_of_not_word (isWord_eq_false_of_isBlank blank)

end Place

/-!
### What the pieces bring
-/

section Pieces

variable {done block stretch rest : List Char}

/-- No character of a block that is not spoiled is an error. -/
theorem IsBlock.filterMap_error? (isBlock : IsBlock done block rest) (unspoiled : ¬ Spoiled block) :
    (Place.allFrom done (block ++ rest)).filterMap Place.error? =
      (Place.allFrom (done ++ block) rest).filterMap Place.error? := by
  apply Place.filterMap_allFrom_of_none
  rintro front c back rfl
  apply Place.error?_of_word isBlock.char_word
  rwa [isBlock.block_eq]

/-- Where an unspoiled block begins, its token does. -/
theorem IsBlock.token?_eq {before after back : List Char} {c : Char}
    (isBlock : IsBlock before (c :: back) after) (unspoiled : ¬ Spoiled (c :: back)) :
    Place.token? ⟨before, c, back ++ after⟩ = some (blockToken before (c :: back)) := by
  have atFront : IsBlock before ([] ++ c :: back) after := isBlock
  have whole := atFront.block_eq
  rw [List.append_nil, List.nil_append] at whole
  have begins : Place.BeginsToken ⟨before, c, back ++ after⟩ := by
    refine ⟨atFront.char_word, wordAtEnd_eq_nil isBlock.starts, ?_⟩
    rwa [whole]
  rw [Place.token?, if_pos begins, whole]

/-- A block that is not spoiled is one token, which its first character begins. -/
theorem IsBlock.filterMap_token? (isBlock : IsBlock done block rest) (unspoiled : ¬ Spoiled block) :
    (Place.allFrom done (block ++ rest)).filterMap Place.token? =
      blockToken done block :: (Place.allFrom (done ++ block) rest).filterMap Place.token? := by
  obtain ⟨first, more, rfl⟩ := List.exists_cons_of_ne_nil isBlock.nonempty
  apply Place.filterMap_allFrom_of_first (isBlock.token?_eq unspoiled)
  rintro front c back rfl
  have within : IsBlock done ((first :: front) ++ c :: back) rest := isBlock
  have inside := within.wordAtEnd_eq
  refine if_neg ?_
  rintro ⟨_, alone, _⟩
  rw [← List.append_cons, inside] at alone
  cases alone

/-- A block that begins with a letter is a word. -/
theorem not_spoiled_of_letter (letter : block.head?.any isLetter = true) : ¬ Spoiled block := by
  cases block with
  | nil => cases letter
  | cons c block =>
      have letter : isLetter c = true := letter
      rintro (underscore | ⟨digit, _⟩)
      · obtain rfl : c = '_' := Option.some.inj underscore
        cases letter
      · have digit : isDigit c = true := digit
        rw [isDigit_eq_false_of_isLetter letter] at digit
        cases digit

/-- Digits alone spoil no number. -/
theorem not_spoilsNumber_of_digits (digits : ∀ c ∈ block, isDigit c = true) : ¬ SpoilsNumber block := by
  rintro ⟨_, other⟩
  rw [List.all_eq_true.mpr digits] at other
  cases other

/-- A block of digits is those of an integer. -/
theorem not_spoiled_of_digits (digits : ∀ c ∈ block, isDigit c = true) : ¬ Spoiled block := by
  rintro (underscore | spoils)
  · obtain ⟨more, rfl⟩ := List.head?_eq_some_iff.mp underscore
    cases digits '_' List.mem_cons_self
  · exact not_spoilsNumber_of_digits digits spoils

/-- What begins with no digit is no spoiled number. -/
theorem not_spoilsNumber_of_head? (noDigit : rest.head?.any isDigit = false) :
    ¬ SpoilsNumber (wordAtFront rest) := by
  rintro ⟨digit, _⟩
  cases rest with
  | nil => cases digit
  | cons c rest =>
      have noDigit : isDigit c = false := noDigit
      cases word : isWord c with
      | false => simp [wordAtFront, word] at digit
      | true => simp [wordAtFront, word, noDigit] at digit

/-- A symbol is one character, or it has an equals sign as its second. An exclamation mark is no symbol by
    itself, and a sign is none together with an equals sign. -/
theorem symbol?_cases {kind : Kind} {spelling : List Char} (spelled : kind.symbol? = some spelling) :
    (∃ c, spelling = [c] ∧ c ≠ '!') ∨ ∃ c, spelling = [c, '='] ∧ isSign c = false := by
  cases kind <;> cases spelled <;>
    first | exact Or.inl ⟨_, rfl, by decide⟩ | exact Or.inr ⟨_, rfl, by decide⟩

/-- The characters of symbols are known. -/
theorem isForeign_of_symbol? {kind : Kind} {spelling : List Char} (spelled : kind.symbol? = some spelling) :
    ∀ c ∈ spelling, Place.isForeign c = false := by
  intro c member
  have known := (operator_or_punctuation_of_symbol? spelled c member).1
  simp only [Bool.or_eq_true] at known
  rcases known with operator | mark
  · simp [Place.isForeign, operator]
  · simp [Place.isForeign, mark]

theorem eq_of_singleton_eq_append {first c : Char} {front back : List Char}
    (split : [first] = front ++ c :: back) : first = c ∧ back = [] := by
  rcases List.append_eq_singleton_iff.mp split.symm with ⟨_, same⟩ | ⟨_, absurd⟩
  · cases same
    exact ⟨rfl, rfl⟩
  · cases absurd

/-- No character of a symbol makes an error, provided that a sign on its own has no digit behind it. -/
theorem error?_of_symbol? {kind : Kind} {spelling : List Char} (spelled : kind.symbol? = some spelling)
    (noDigit : ∀ sign, spelling = [sign] → isSign sign = true → rest.head?.any isDigit = false)
    {front back : List Char} {c : Char} (split : spelling = front ++ c :: back) :
    Place.error? ⟨done ++ front, c, back ++ rest⟩ = none := by
  have member : c ∈ spelling := by
    rw [split]
    simp
  -- Each of the at most two characters of the symbol is looked at.
  have harmless : (c = '!' → (back ++ rest).head? = some '=') ∧
      (isSign c = true → (back ++ rest).head?.any isDigit = false) := by
    rcases symbol?_cases spelled with ⟨first, rfl, noMark⟩ | ⟨first, rfl, noSign⟩
    · obtain ⟨rfl, rfl⟩ := eq_of_singleton_eq_append split
      exact ⟨fun mark => absurd mark noMark, noDigit first rfl⟩
    · cases front with
      | nil =>
          cases split
          exact ⟨fun _ => rfl, fun sign => absurd sign (by simp [noSign])⟩
      | cons other front =>
          obtain ⟨rfl, rfl⟩ := eq_of_singleton_eq_append (List.cons.inj split).2
          exact ⟨fun mark => absurd mark (by decide), fun sign => absurd sign (by decide)⟩
  apply Place.error?_of_not_word (operator_or_punctuation_of_symbol? spelled c member).2
  · exact isForeign_of_symbol? spelled c member
  · exact harmless.1
  · exact fun sign => not_spoilsNumber_of_head? (harmless.2 sign)

/-- The token of a block that begins with a letter is a word, so it ends in a word character. -/
theorem endsInWord_of_letter (letter : block.head?.any isLetter = true) :
    (Lexeme.ofToken (blockToken done block)).endsInWord = true := by
  rw [blockToken_of_letter letter]
  exact endsInWord_of_word rfl

/-- No symbol ends in a word character. -/
theorem endsInWord_of_symbol? {kind : Kind} {spelling : List Char} (text : List Char)
    (spelled : kind.symbol? = some spelling) : Lexeme.endsInWord ⟨kind, text⟩ = false := by
  cases kind <;> cases spelled <;> rfl

variable {reading : Reading}

/-- A piece brings the errors of its places. -/
theorem Piece.filterMap_error? (piece : Piece done stretch rest reading) (plain : '"' ∉ stretch) :
    (Place.allFrom done (stretch ++ rest)).filterMap Place.error? =
      reading.error?.toList ++ (Place.allFrom (done ++ stretch) rest).filterMap Place.error? := by
  cases piece with
  | word letter isBlock => exact isBlock.filterMap_error? (not_spoiled_of_letter letter)
  | unsigned digits _ isBlock => exact isBlock.filterMap_error? (not_spoiled_of_digits digits)
  | @signed sign block _ isSign digits isBlock =>
      have here : Place.error? ⟨done, sign, block ++ rest⟩ = none := by
        refine Place.error?_of_isSign isSign ?_
        rw [wordAtFront_eq isBlock]
        exact not_spoilsNumber_of_digits digits
      have later := isBlock.filterMap_error? (not_spoiled_of_digits digits)
      rw [List.cons_append, Place.allFrom, List.filterMap_cons_none here, later, List.append_assoc]
      rfl
  | symbol spelled noDigit =>
      exact Place.filterMap_allFrom_of_none fun front c back => error?_of_symbol? spelled noDigit
  | string => exact absurd List.mem_cons_self plain
  | malformed blamed =>
      exact List.filterMap_cons_some (Place.error?_of_blamed blamed)
  | unexpected nothing => exact List.filterMap_cons_some (if_pos nothing)
  | unterminated => exact absurd List.mem_cons_self plain
  | endOfInput => rfl

/-- A piece brings a word or an integer exactly if a block that is not spoiled begins in it. -/
theorem Piece.filterMap_token? (piece : Piece done stretch rest reading) (plain : '"' ∉ stretch) :
    (Place.allFrom done (stretch ++ rest)).filterMap Place.token? =
      reading.blockToken?.toList ++ (Place.allFrom (done ++ stretch) rest).filterMap Place.token? := by
  cases piece with
  | word letter isBlock =>
      rw [isBlock.filterMap_token? (not_spoiled_of_letter letter),
        Reading.blockToken?_of_endsInWord (endsInWord_of_letter letter)]
      rfl
  | unsigned digits noSign isBlock =>
      rw [isBlock.filterMap_token? (not_spoiled_of_digits digits), blockToken_of_unsigned digits noSign]
      rfl
  | @signed sign block _ isSign digits isBlock =>
      have here : Place.token? ⟨done, sign, block ++ rest⟩ = none :=
        Place.token?_eq_none_of_not_word (isWord_eq_false_of_isSign isSign)
      have later := isBlock.filterMap_token? (not_spoiled_of_digits digits)
      rw [List.cons_append, Place.allFrom, List.filterMap_cons_none here, later, List.append_assoc,
        blockToken_of_signed digits isSign]
      rfl
  | symbol spelled _ =>
      rw [Reading.blockToken?_of_not_endsInWord (endsInWord_of_symbol? _ spelled)]
      refine Place.filterMap_allFrom_of_none ?_
      rintro front c back rfl
      refine Place.token?_eq_none_of_not_word (operator_or_punctuation_of_symbol? spelled c ?_).2
      simp
  | string => exact absurd List.mem_cons_self plain
  | malformed blamed => exact List.filterMap_cons_none (Place.token?_eq_none_of_blamed blamed)
  | unexpected nothing =>
      exact List.filterMap_cons_none (Place.token?_eq_none_of_not_word nothing.isWord_isSign.1)
  | unterminated => exact absurd List.mem_cons_self plain
  | endOfInput => rfl

end Pieces

/-!
### What a scan brings
-/

/-- If blanks bring nothing and each piece brings what is to be found at its places, then a scan of a text
    without quotes brings what is to be found at the places of the text. -/
theorem Scanner.filterMap_readings {α : Type} {observe : Reading → Option α} {find : Place → Option α}
    (blanks : ∀ place : Place, isBlank place.char = true → find place = none)
    (pieces : ∀ done stretch rest reading, Piece done stretch rest reading → '"' ∉ stretch →
      (Place.allFrom done (stretch ++ rest)).filterMap find =
        (observe reading).toList ++ (Place.allFrom (done ++ stretch) rest).filterMap find)
    {scanner : Scanner} (going : scanner.finished = false) {done : List Char} (seam : scanner.AtSeam done)
    (plain : '"' ∉ scanner.cursor.unread) :
    scanner.readings.filterMap observe = (Place.allFrom done scanner.cursor.unread).filterMap find := by
  have passGap : ∀ (done gap text : List Char), IsBlank gap →
      (Place.allFrom done (gap ++ text)).filterMap find =
        (Place.allFrom (done ++ gap) text).filterMap find := by
    intro done gap text blank
    refine Place.filterMap_allFrom_of_none ?_
    rintro front c back rfl
    refine blanks _ (blank c ?_)
    simp
  refine readings_induction (motive := fun scanner readings => ∀ done, scanner.AtSeam done →
    '"' ∉ scanner.cursor.unread →
      readings.filterMap observe = (Place.allFrom done scanner.cursor.unread).filterMap find)
    ?_ ?_ scanner going done seam plain
  · intro scanner _ ending done seam _
    obtain ⟨outside, blank⟩ := (isEnd_pull_iff scanner).mp ending
    have last := pieces (done ++ scanner.cursor.unread) [] [] _ .endOfInput List.not_mem_nil
    have nothing := (List.append_eq_nil_iff.mp last.symm).1
    have passed := passGap done scanner.cursor.unread [] blank
    rw [List.append_nil] at passed
    rw [pull_of_isBlank outside blank, seam.position, Position.advanceAll_after, passed,
      List.filterMap_cons_none (Option.toList_eq_nil_iff.mp nothing)]
    rfl
  · intro scanner _ _ ih done seam plain
    obtain ⟨gap, stretch, rest, unread, blank, piece, cursor, later⟩ := exists_piece_pull seam
    rw [unread] at plain
    simp only [List.mem_append, not_or] at plain
    have behind := ih _ later (by rw [cursor]; exact plain.2.2)
    rw [unread, passGap done gap _ blank, pieces _ stretch rest _ piece plain.2.1]
    rw [cursor] at behind
    cases seen : observe scanner.pull.1 with
    | none => rw [List.filterMap_cons_none seen, behind]; rfl
    | some found => rw [List.filterMap_cons_some seen, behind]; rfl

section Plain

variable {source : List Char}

/-- The errors of a source without quotes are those of its places. -/
theorem errors_of_plain (plain : '"' ∉ source) :
    (readings source).filterMap Reading.error? = (Place.all source).filterMap Place.error? :=
  Scanner.filterMap_readings (fun _ => Place.error?_of_isBlank)
    (fun _ _ _ _ piece plain => piece.filterMap_error? plain) rfl (Scanner.atSeam_ofChars source) plain

/-- The words and the integers of a source without quotes are its blocks that are not spoiled. -/
theorem blockTokens_of_plain (plain : '"' ∉ source) :
    (readings source).filterMap Reading.blockToken? = (Place.all source).filterMap Place.token? :=
  Scanner.filterMap_readings (fun _ => Place.token?_of_isBlank)
    (fun _ _ _ _ piece plain => piece.filterMap_token? plain) rfl (Scanner.atSeam_ofChars source) plain

end Plain

/-- The token of a block covers all of the block. -/
theorem spans_blockToken {before block : List Char} {total place : Nat} (low : before.length ≤ place)
    (high : place < before.length + block.length) :
    Reading.Spans total (.token (blockToken before block)) place := by
  have word := Finding.getD_ofReservedWord?_ne_string (String.ofList block)
  have integral : ∀ text, Kind.integer.lexeme text = text := fun _ => rfl
  unfold blockToken
  split
  · refine ⟨low, ?_⟩
    rw [Reading.width, Token.lexeme, Finding.lexeme_of_ne_string word, String.toList_ofList]
    exact high
  · split
    · next sign signed =>
        have last := Option.filter_eq_some_iff.mp signed
        obtain ⟨earlier, rfl⟩ := List.getLast?_eq_some_iff.mp last.1
        rw [List.length_append, List.length_singleton] at low high
        rw [List.dropLast_concat]
        refine ⟨Nat.le_of_succ_le low, ?_⟩
        rw [Reading.width, Token.lexeme, String.toList_ofList, integral, List.length_cons]
        show place < earlier.length + (block.length + 1)
        omega
    · refine ⟨low, ?_⟩
      rw [Reading.width, Token.lexeme, String.toList_ofList, integral]
      exact high

/-- The token of a block is one that the scan brought. -/
theorem mem_of_mem_blockTokens {readings : List Reading} {token : Token}
    (member : token ∈ readings.filterMap Reading.blockToken?) : .token token ∈ readings := by
  obtain ⟨reading, inReadings, brings⟩ := List.mem_filterMap.mp member
  obtain ⟨same, _⟩ := Option.filter_eq_some_iff.mp brings
  cases reading with
  | token t =>
      cases same
      exact inReadings
  | error e => cases same

/-- In a source without quotes the errors are those of its places, one for each place that makes one and in
    their order: a place makes an error if its character begins nothing, or if it is to blame for a spoiled
    block that it lies in or that stands right behind it. Each block that is not spoiled is one token, and no
    other reading covers any of it. -/
theorem tokenize_local {source : String} (plain : '"' ∉ source.toList) :
    (tokenize source).2 = (Place.all source.toList).filterMap Place.error? ∧
    ∀ before block after, source.toList = before ++ (block ++ after) → IsBlock before block after →
      ¬ Spoiled block →
        ∃ index : Nat, (readings source.toList)[index]? = some (.token (blockToken before block)) ∧
          ∀ (other : Nat) (reading : Reading) (place : Nat), (readings source.toList)[other]? = some reading →
            before.length ≤ place → place < before.length + block.length →
              (reading.Spans source.toList.length place ↔ other = index) := by
  refine ⟨errors_of_plain plain, ?_⟩
  intro before block after split isBlock unspoiled
  obtain ⟨first, more, rfl⟩ := List.exists_cons_of_ne_nil isBlock.nonempty
  have here : (⟨before, first, more ++ after⟩ : Place) ∈ Place.all source.toList := by
    rw [Place.mem_all_iff, split]
    rfl
  have found := List.mem_filterMap.mpr ⟨_, here, isBlock.token?_eq unspoiled⟩
  rw [← blockTokens_of_plain plain] at found
  obtain ⟨index, atIndex⟩ := List.getElem?_of_mem (mem_of_mem_blockTokens found)
  refine ⟨index, atIndex, ?_⟩
  intro other reading place atOther low high
  constructor
  · intro spans
    exact (readings_tiles source.toList).eq_of_spans atOther atIndex spans (spans_blockToken low high)
  · rintro rfl
    cases atOther.symm.trans atIndex
    exact spans_blockToken low high

/-- For instance the errors of `-1a !x` are those of the number that is spoiled, its sign included, and of the
    mark. -/
theorem tokenize_local_of_spoiled_number :
    '"' ∉ "-1a !x".toList ∧
      (tokenize "-1a !x").2 =
        [.invalidStart '-' ⟨0, 0, 0⟩, .invalidStart '1' ⟨0, 1, 1⟩, .invalidStart 'a' ⟨0, 2, 2⟩,
          .unexpectedCharacter '!' ⟨0, 4, 4⟩] := by
  have plain : '"' ∉ "-1a !x".toList := by decide
  refine ⟨plain, ?_⟩
  rw [(tokenize_local plain).1]
  decide

end MaximalMunch
