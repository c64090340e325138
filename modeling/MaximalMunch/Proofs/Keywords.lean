/-
Module: MaximalMunch.Proofs.Keywords
Layer: Proofs
Purpose: Reserved words are told from other words by their spelling, and by nothing else. Three tables speak of
  them: the look-up of a word, the test of a kind, and the names of the kinds; they agree with each other
  (`ofReservedWord?_name`, `exists_ofReservedWord?`). What is looked up during a scan is a whole block, so a
  token has the kind of a reserved word exactly if its slice of the source is a block that is spelled so
  (`ClassifiesWord`). This is shown for the pieces of a scan, and whatever a session brings is one of them, in
  whichever way it was asked (`mem_readings_of_mem_entries`). The main result is `keywords_consistent`.
Imports: MaximalMunch.Proofs.Schedules, MaximalMunch.Proofs.Seams
Trusted boundary: none
Main exports: ClassifiesWord, Piece.classifiesWord, Scanner.pull_of_quoted, keywords_consistent
Open obligations: none
-/
import MaximalMunch.Proofs.Schedules
import MaximalMunch.Proofs.Seams

namespace MaximalMunch

open CharClass

/-!
### The tables
-/

namespace Kind

/-- Looking up a word finds a keyword, whose name is the word in upper case. -/
theorem ofReservedWord?_name {word : String} {kind : Kind} (found : ofReservedWord? word = some kind) :
    kind.isKeyword = true ∧ word = kind.name.toLower := by
  have spelled := ofReservedWord?_eq_some_iff.mp found
  refine ⟨isKeyword_iff.mpr ⟨word, spelled⟩, ?_⟩
  have lower : kind.name.toLower = kind.name.map Char.toLower := rfl
  rw [lower, ← String.toList_inj, String.toList_map]
  cases kind <;> cases spelled <;> decide

theorem exists_ofReservedWord? {kind : Kind} (keyword : kind.isKeyword = true) :
    ∃ word, ofReservedWord? word = some kind := by
  obtain ⟨word, spelled⟩ := isKeyword_iff.mp keyword
  exact ⟨word, ofReservedWord?_eq_some_iff.mpr spelled⟩

/-- The kind of a word tells what looking it up has found. -/
theorem ofReservedWord?_eq_some_iff_getD {word : String} {kind : Kind} :
    ofReservedWord? word = some kind ↔
      (ofReservedWord? word).getD .identifier = kind ∧ kind.isKeyword = true := by
  cases found : ofReservedWord? word with
  | none =>
      constructor
      · intro absurd
        cases absurd
      · rintro ⟨rfl, keyword⟩
        cases keyword
  | some other =>
      constructor
      · rintro ⟨⟩
        exact ⟨rfl, (ofReservedWord?_name found).1⟩
      · rintro ⟨rfl, _⟩
        rfl

theorem isWord_of_ofReservedWord? {word : String} {kind : Kind} (found : ofReservedWord? word = some kind) :
    IsWord word.toList := by
  have spelled := ofReservedWord?_eq_some_iff.mp found
  rw [← String.ofList_toList (s := word)] at spelled
  exact isWord_of_reservedWord? spelled

end Kind

/-- Whether the kind of a token is that of a reserved word agrees with its text and with its slice of the
    source. -/
structure ClassifiesWord (source : List Char) (token : Token) : Prop where
  /-- Looking up the text finds the kind if it is a keyword, and nothing if it is not. -/
  lookup : token.kind ≠ .string → ∀ kind,
    Kind.ofReservedWord? token.text = some kind ↔ token.kind = kind ∧ kind.isKeyword = true
  /-- The kind is a keyword exactly if the slice is a whole block and is spelled like a reserved word. -/
  slice : token.kind.isKeyword = true ↔
    (∃ kind, Kind.ofReservedWord? (String.ofList (token.slice source)) = some kind) ∧
      ∃ before after, source = before ++ (token.slice source ++ after) ∧
        token.position = .after before ∧ IsBlock before (token.slice source) after
  /-- A keyword is spelled in one way, case included. -/
  spelled : token.kind.isKeyword = true → token.kind.reservedWord? = some token.text
  identifier : token.kind = .identifier → Kind.ofReservedWord? token.text = none
  /-- Between marks a reserved word is none. -/
  quoted : ∀ word kind, Kind.ofReservedWord? word = some kind →
    token.slice source = '"' :: word.toList ++ ['"'] → token.kind = .string ∧ token.text = word

/-!
### Tokens of pieces
-/

section Pieces

variable {source done stretch rest : List Char} {token : Token}

/-- The slice of a token is the lexeme at the place where the token stands. -/
theorem slice_of_lexeme {kind : Kind} {text : List Char} (written : kind.lexeme text = stretch) :
    Token.slice (done ++ (stretch ++ rest)) ⟨kind, String.ofList text, .after done⟩ = stretch := by
  have behind : (done ++ (stretch ++ rest)).drop (Position.after done).column = stretch ++ rest :=
    List.drop_left
  rw [Token.slice, behind, Token.lexeme, String.toList_ofList, written, List.take_left]

/-- A token of another kind than words and string literals, whose text begins like neither of them. -/
theorem classifiesWord_of_other {kind : Kind} {text : List Char} (noKeyword : kind.isKeyword = false)
    (noIdentifier : kind ≠ .identifier) (noString : kind ≠ .string)
    (begins : ∀ c, text.head? = some c → CharClass.of c ≠ .letter ∧ CharClass.of c ≠ .quote) :
    ClassifiesWord (done ++ (text ++ rest)) ⟨kind, String.ofList text, .after done⟩ := by
  have slice : Token.slice (done ++ (text ++ rest)) ⟨kind, String.ofList text, .after done⟩ = text :=
    slice_of_lexeme (Finding.lexeme_of_ne_string noString text)
  have noWord : ∀ other, Kind.ofReservedWord? (String.ofList text) ≠ some other := by
    intro other found
    obtain ⟨first, more, whole, letter, _⟩ := Kind.isWord_of_ofReservedWord? found
    rw [String.toList_ofList] at whole
    exact (begins first (by rw [whole]; rfl)).1 (isLetter_iff.mp letter)
  have notKeyword : ¬ kind.isKeyword = true := Bool.eq_false_iff.mp noKeyword
  constructor
  case lookup =>
    intro _ other
    constructor
    · intro found
      exact absurd found (noWord other)
    · rintro ⟨rfl, keyword⟩
      exact absurd keyword notKeyword
  case slice =>
    rw [slice]
    constructor
    · intro keyword
      exact absurd keyword notKeyword
    · rintro ⟨⟨other, found⟩, _⟩
      exact absurd found (noWord other)
  case spelled => exact fun keyword => absurd keyword notKeyword
  case identifier => exact fun same => absurd same noIdentifier
  case quoted =>
    intro word _ _ same
    exact absurd rfl (begins '"' (by rw [slice.symm.trans same]; rfl)).2

/-- A block that begins with a letter: its whole text is looked up, and it is the slice. -/
theorem classifiesWord_of_letter (letter : stretch.head?.any isLetter = true)
    (isBlock : IsBlock done stretch rest) :
    ClassifiesWord (done ++ (stretch ++ rest)) (blockToken done stretch) := by
  have slice : Token.slice (done ++ (stretch ++ rest)) (blockToken done stretch) = stretch := by
    rw [blockToken_of_letter letter]
    exact slice_of_lexeme (Finding.lexeme_of_ne_string (Finding.getD_ofReservedWord?_ne_string _) stretch)
  have looked : ∀ kind, Kind.ofReservedWord? (String.ofList stretch) = some kind ↔
      (blockToken done stretch).kind = kind ∧ kind.isKeyword = true := by
    intro kind
    rw [blockToken_of_letter letter]
    exact Kind.ofReservedWord?_eq_some_iff_getD
  have text : (blockToken done stretch).text = String.ofList stretch := by
    rw [blockToken_of_letter letter]
  have position : (blockToken done stretch).position = .after done := by
    rw [blockToken_of_letter letter]
  constructor
  case lookup =>
    intro _ kind
    rw [text]
    exact looked kind
  case slice =>
    rw [slice]
    constructor
    · intro keyword
      exact ⟨⟨_, (looked _).mpr ⟨rfl, keyword⟩⟩, done, rest, rfl, position, isBlock⟩
    · rintro ⟨⟨kind, found⟩, _⟩
      obtain ⟨same, keyword⟩ := (looked kind).mp found
      rw [same]
      exact keyword
  case spelled =>
    intro keyword
    rw [text]
    exact Kind.ofReservedWord?_eq_some_iff.mp ((looked _).mpr ⟨rfl, keyword⟩)
  case identifier =>
    intro same
    rw [text, Option.eq_none_iff_forall_ne_some]
    intro kind found
    obtain ⟨same', keyword⟩ := (looked kind).mp found
    rw [← same', same] at keyword
    cases keyword
  case quoted =>
    intro word _ _ same
    rw [slice.symm.trans same] at letter
    cases letter

theorem classifiesWord_of_string {body : List Char} :
    ClassifiesWord (done ++ ('"' :: body ++ ['"'] ++ rest)) ⟨.string, String.ofList body, .after done⟩ := by
  have slice : Token.slice (done ++ ('"' :: body ++ ['"'] ++ rest))
      ⟨.string, String.ofList body, .after done⟩ = '"' :: body ++ ['"'] := slice_of_lexeme rfl
  constructor
  case lookup => exact fun other => absurd rfl other
  case slice =>
    constructor
    · intro keyword
      cases keyword
    · rintro ⟨_, before, after, _, _, isBlock⟩
      rw [slice] at isBlock
      cases isBlock.words '"' List.mem_cons_self
  case spelled =>
    intro keyword
    cases keyword
  case identifier =>
    intro same
    cases same
  case quoted =>
    intro word kind _ same
    have same : body = word.toList := List.append_cancel_right (List.cons.inj (slice.symm.trans same)).2
    exact ⟨rfl, by rw [same, String.ofList_toList]⟩

/-- Every token that a scan brings keeps to the rule for reserved words. -/
theorem Piece.classifiesWord (piece : Piece done stretch rest (.token token)) :
    ClassifiesWord (done ++ (stretch ++ rest)) token := by
  generalize brought : Reading.token token = reading at piece
  cases piece with
  | word letter isBlock =>
      cases brought
      exact classifiesWord_of_letter letter isBlock
  | unsigned digits noSign isBlock =>
      rw [blockToken_of_unsigned digits noSign] at brought
      cases brought
      refine classifiesWord_of_other rfl Kind.noConfusion Kind.noConfusion ?_
      intro c atFront
      rw [isDigit_iff.mp (digits c (List.mem_of_head? atFront))]
      decide
  | signed isSign digits isBlock =>
      rw [blockToken_of_signed digits isSign] at brought
      cases brought
      refine classifiesWord_of_other rfl Kind.noConfusion Kind.noConfusion ?_
      rintro c ⟨⟩
      rw [of_eq_operator_of_isSign isSign]
      decide
  | @symbol kind _ _ spelled _ =>
      cases brought
      have other : kind.isKeyword = false ∧ kind ≠ .identifier ∧ kind ≠ .string := by
        cases kind <;> cases spelled <;> decide
      refine classifiesWord_of_other other.1 other.2.1 other.2.2 ?_
      intro c atFront
      obtain ⟨more, rfl⟩ := List.head?_eq_some_iff.mp atFront
      rcases (symbol?_eq_some_cons spelled).1 with operator | mark
      · rw [operator]
        decide
      · rw [mark]
        decide
  | string =>
      cases brought
      exact classifiesWord_of_string
  | endOfInput =>
      cases brought
      have noFront : ∀ c, ([] : List Char).head? = some c →
          CharClass.of c ≠ .letter ∧ CharClass.of c ≠ .quote := by
        rintro c ⟨⟩
      exact classifiesWord_of_other rfl Kind.noConfusion Kind.noConfusion noFront
  | malformed => cases brought
  | unexpected => cases brought
  | unterminated => cases brought

end Pieces

/-!
### Reserved words between marks
-/

theorem stringBody_of_words {body : List Char} (words : ∀ c ∈ body, isWord c = true) : StringBody body := by
  induction body with
  | nil => exact .nil
  | cons c body ih =>
      obtain ⟨word, words⟩ := List.forall_mem_cons.mp words
      refine .plain ?_ ?_ ?_ (ih words)
      all_goals
        rintro rfl
        cases word

/-- A reserved word between marks is the text of a string literal. -/
theorem Scanner.pull_of_quoted {scanner : Scanner} {gap rest : List Char} {word : String} {kind : Kind}
    (outside : scanner.OutsideRun) (found : Kind.ofReservedWord? word = some kind) (blank : IsBlank gap)
    (unread : scanner.cursor.unread = gap ++ '"' :: (word.toList ++ '"' :: rest)) :
    scanner.pull.1 = .token ⟨.string, word, scanner.position.advanceAll gap⟩ := by
  obtain ⟨first, more, whole, letter, words⟩ := Kind.isWord_of_ofReservedWord? found
  have body : StringBody word.toList := by
    rw [whole]
    exact stringBody_of_words (List.forall_mem_cons.mpr ⟨isWord_of_isLetter letter, words⟩)
  rw [pull_of_outsideRun outside unread blank rfl, readAt_of_cons rfl, of_string body]
  rw [Finding.reading, String.ofList_toList]

/-- Reserved words and the kinds of tokens agree, whatever steps a session takes in a source. Every token that
    it brings has the kind of a reserved word exactly if its slice is a whole block that is spelled like the
    word, and looking its text up says the same; only between marks a reserved word is not looked at. The words
    that are looked up are the names of the keywords in lower case, one for each. -/
theorem keywords_consistent (source : List Char) :
    (∀ script entry token, entry ∈ (Session.ofChars source).entries script →
      .token token ∈ entry.readings → ClassifiesWord source token) ∧
    (∀ (scanner : Scanner) (gap rest : List Char) (word : String) (kind : Kind), scanner.OutsideRun →
      Kind.ofReservedWord? word = some kind → IsBlank gap →
        scanner.cursor.unread = gap ++ '"' :: (word.toList ++ '"' :: rest) →
          scanner.pull.1 = .token ⟨.string, word, scanner.position.advanceAll gap⟩) ∧
    (∀ word kind, Kind.ofReservedWord? word = some kind →
      kind.isKeyword = true ∧ word = kind.name.toLower) ∧
    ∀ kind : Kind, kind.isKeyword = true → ∃ word, Kind.ofReservedWord? word = some kind := by
  refine ⟨?_, ?_, ?_, ?_⟩
  · intro script entry token member brings
    obtain ⟨done, stretch, rest, rfl, piece⟩ :=
      exists_piece_of_mem_readings (Session.mem_readings_of_mem_entries member brings)
    exact piece.classifiesWord
  · intro scanner gap rest word kind outside found blank unread
    exact Scanner.pull_of_quoted outside found blank unread
  · intro word kind found
    exact Kind.ofReservedWord?_name found
  · intro kind keyword
    exact Kind.exists_ofReservedWord? keyword

/-- Near misses are identifiers, longer words as well as words in another case. -/
example : ["modulex", "while_", "Return", "while"].map
    (fun word => (Scanner.ofString word).pull.1.token?.map Token.kind) =
      [some .identifier, some .identifier, some .identifier, some .whileWord] := by
  decide

end MaximalMunch
