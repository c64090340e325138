/-
Module: MaximalMunch.Proofs.Spelling
Layer: Proofs
Purpose: A lexeme that is written out is found again. What stands behind it may carry it on: a word
  character carries on a word and spoils an integer, an equals sign makes a comparison of some symbols,
  and a digit makes an integer of a sign. `Lexeme.EndsBefore` excludes these three, and then the lexeme
  is what is found (`of_eq_lexeme_of_endsBefore`), family by family. Nothing behind it is a case of this,
  so a spelling has only one lexeme (`eq_of_spelling_eq`).
Imports: MaximalMunch.Proofs.Languages, MaximalMunch.Scanner.Pull, MaximalMunch.Writing
Trusted boundary: none
Main exports: Lexeme.EndsBefore, of_eq_lexeme_of_endsBefore, Lexeme.eq_of_spelling_eq
Open obligations: none
-/
import MaximalMunch.Proofs.Languages
import MaximalMunch.Scanner.Pull
import MaximalMunch.Writing

namespace MaximalMunch

open CharClass

namespace Lexeme

/-- Nothing at the front of `rest` carries the lexeme on. -/
structure EndsBefore (lexeme : Lexeme) (rest : List Char) : Prop where
  word : lexeme.endsInWord = true → rest.head?.any isWord = false
  equal : lexeme.takesEqual = true → rest.head? ≠ some '='
  digit : lexeme.isSignSymbol = true → rest.head?.any isDigit = false

theorem endsBefore_nil (lexeme : Lexeme) : lexeme.EndsBefore [] :=
  ⟨fun _ => rfl, fun _ => by simp, fun _ => rfl⟩

/-- How a lexeme of each family is written. Only a string literal differs from its text. -/
inductive Written : Lexeme → List Char → Prop where
  | word {kind : Kind} {text : List Char} (word : IsWord text)
      (looked : (Kind.ofReservedWord? (String.ofList text)).getD .identifier = kind) :
      Written ⟨kind, text⟩ text
  | integer {text : List Char} (integer : IsInteger text) : Written ⟨.integer, text⟩ text
  | string {body : List Char} (valid : StringBody body) :
      Written ⟨.string, body⟩ ('"' :: (body ++ ['"']))
  | symbol {kind : Kind} {text : List Char} (spelled : kind.symbol? = some text) :
      Written ⟨kind, text⟩ text

/-- A valid lexeme is written as it is spelled. -/
theorem Valid.written {lexeme : Lexeme} (valid : lexeme.Valid) :
    lexeme.Written lexeme.spelling := by
  obtain ⟨kind, text⟩ := lexeme
  rcases Kind.accepts_iff.mp valid with ⟨word, looked⟩ | ⟨same, integer⟩ | ⟨same, body⟩ | spelled
  · have differs : kind ≠ .string := by
      rw [← show _ = kind from looked]
      exact Finding.getD_ofReservedWord?_ne_string _
    rw [spelling, Finding.lexeme_of_ne_string differs]
    exact .word word looked
  · cases same
    exact .integer integer
  · cases same
    exact .string body
  · have differs : kind ≠ .string :=
      Finding.ne_string_of_ofSymbol? (Kind.ofSymbol?_eq_some_iff.mpr spelled)
    rw [spelling, Finding.lexeme_of_ne_string differs]
    exact .symbol spelled

/-- What is written for a lexeme is one. -/
theorem Written.isLexeme {lexeme : Lexeme} {text : List Char} (written : lexeme.Written text) :
    IsLexeme text := by
  cases written with
  | word word _ => exact Or.inl word
  | integer integer => exact Or.inr (Or.inl integer)
  | string body => exact Or.inr (Or.inr (Or.inl ⟨_, rfl, body⟩))
  | symbol spelled => exact Or.inr (Or.inr (Or.inr ⟨_, spelled⟩))

end Lexeme

/-!
### The three things that carry a lexeme on
-/

/-- Where no word character follows, no digit does. -/
theorem any_isDigit_eq_false {next? : Option Char} (stops : next?.any isWord = false) :
    next?.any isDigit = false := by
  cases next? with
  | none => rfl
  | some c =>
      have stops : isWord c = false := stops
      cases digit : isDigit c with
      | false => simp [digit]
      | true =>
          rw [isWord_of_isDigit digit] at stops
          cases stops

/-- The kinds of words are the identifiers and the reserved words. -/
theorem endsInWord_of_word {lexeme : Lexeme} {word : String}
    (looked : (Kind.ofReservedWord? word).getD .identifier = lexeme.kind) :
    lexeme.endsInWord = true := by
  cases found : Kind.ofReservedWord? word with
  | none =>
      rw [found] at looked
      simp [Lexeme.endsInWord, ← looked]
  | some kind =>
      rw [found] at looked
      have keyword : kind.isKeyword = true :=
        Kind.isKeyword_iff.mpr ⟨word, Kind.ofReservedWord?_eq_some_iff.mp found⟩
      have same : lexeme.kind = kind := looked.symm
      simp [Lexeme.endsInWord, same, keyword]

/-- Of two symbols the one begins the other only if an equals sign makes the difference. -/
theorem takesEqual_of_symbol? {kind longer : Kind} {first next : Char} {text : List Char}
    (short : kind.symbol? = some [first]) (long : longer.symbol? = some [first, next]) :
    Lexeme.takesEqual ⟨kind, text⟩ = true ∧ next = '=' := by
  cases longer <;> cases long <;> cases kind <;> cases short <;> exact ⟨rfl, rfl⟩

/-- A symbol that is a sign on its own is one of the two that take digits. -/
theorem isSignSymbol_of_symbol? {kind : Kind} {first : Char} {text : List Char}
    (sign : isSign first = true) (spelled : kind.symbol? = some [first]) :
    Lexeme.isSignSymbol ⟨kind, text⟩ = true := by
  cases kind <;> cases spelled <;> first | rfl | cases sign

/-!
### Each recognizer finds what was written
-/

section Written

variable {kind : Kind} {first : Char} {more rest : List Char}

/-- A word is found if no word character follows it, and its kind is the one that looking it up gives. -/
theorem of_word (letter : isLetter first = true) (words : ∀ c ∈ more, isWord c = true)
    (looked : (Kind.ofReservedWord? (String.ofList (first :: more))).getD .identifier = kind)
    (stops : rest.head?.any isWord = false) :
    Finding.of first (more ++ rest) = .lexeme kind (first :: more) := by
  simp only [Finding.of, isLetter_iff.mp letter, Finding.ofWord,
    takeWhile_append_of_stops words stops, looked]

/-- Where the digits of an integer end, the next character decides whether it runs into a word. -/
theorem ofInteger_append (begins : isDigit first = true ∨ isSign first = true)
    (digits : ∀ c ∈ more, isDigit c = true) (stops : rest.head?.any isDigit = false) :
    Finding.ofInteger first (more ++ rest) =
      if rest.head?.any isWord then .malformed else .lexeme .integer (first :: more) := by
  have taken : (more ++ rest).takeWhile isDigit = more := takeWhile_append_of_stops digits stops
  have ends : Finding.integerEnd first (more ++ rest) = (first :: more).length := by
    rw [Finding.integerEnd_eq_length begins, taken]
  unfold Finding.ofInteger
  rw [ends, ← List.cons_append, List.getElem?_append_right (Nat.le_refl _), Nat.sub_self,
    ← List.head?_eq_getElem?, taken]

/-- An integer is found if no word character follows it. -/
theorem of_integer (begins : isDigit first = true ∨ isSign first = true ∧ more ≠ [])
    (digits : ∀ c ∈ more, isDigit c = true) (stops : rest.head?.any isWord = false) :
    Finding.of first (more ++ rest) = .lexeme .integer (first :: more) := by
  have found : Finding.ofInteger first (more ++ rest) = .lexeme .integer (first :: more) := by
    rw [ofInteger_append (begins.imp_right And.left) digits (any_isDigit_eq_false stops), stops]
    rfl
  rcases begins with digit | ⟨sign, some⟩
  · simp only [Finding.of, isDigit_iff.mp digit, found]
  · obtain ⟨next, others, rfl⟩ := List.exists_cons_of_ne_nil some
    have digit : isDigit next = true := digits next List.mem_cons_self
    simp only [List.cons_append] at found ⊢
    simp [Finding.of, of_eq_operator_of_isSign sign, sign, digit, found]

/-- A string literal is found whatever follows it. -/
theorem of_string {body : List Char} (valid : StringBody body) :
    Finding.of '"' (body ++ '"' :: rest) = .lexeme .string body := by
  have found : Finding.ofString (body ++ '"' :: rest) = .lexeme .string body := by
    unfold Finding.ofString
    rw [closingMark?_append valid, Nat.zero_add]
    simp
  exact found

/-- A symbol is found if nothing follows that would carry it on. -/
theorem of_symbol (spelled : kind.symbol? = some (first :: more))
    (equal : Lexeme.takesEqual ⟨kind, first :: more⟩ = true → rest.head? ≠ some '=')
    (digit : Lexeme.isSignSymbol ⟨kind, first :: more⟩ = true → rest.head?.any isDigit = false) :
    Finding.of first (more ++ rest) = .lexeme kind (first :: more) := by
  have found : Finding.ofSymbol first (more ++ rest) = .lexeme kind (first :: more) := by
    unfold Finding.ofSymbol
    match more, (symbol?_eq_some_cons spelled).2 with
    | [next], _ => simp [Kind.ofSymbol?_eq_some_iff.mpr spelled]
    | [], _ =>
        cases rest with
        | nil => simp [Kind.ofSymbol?_eq_some_iff.mpr spelled]
        | cons next rest =>
            have noPair : Kind.ofSymbol? [first, next] = none := by
              refine Option.eq_none_iff_forall_ne_some.mpr fun longer pair => ?_
              obtain ⟨takes, same⟩ :=
                takesEqual_of_symbol? spelled (Kind.ofSymbol?_eq_some_iff.mp pair)
              exact equal takes (congrArg some same)
            simp [noPair, Kind.ofSymbol?_eq_some_iff.mpr spelled]
  rcases (symbol?_eq_some_cons spelled).1 with operator | mark
  · have unsigned : ¬ (isSign first = true ∧ (more ++ rest).head?.any isDigit = true) := by
      rintro ⟨sign, number⟩
      have alone : more = [] := symbol?_eq_some_sign sign spelled
      subst alone
      rw [List.nil_append, digit (isSignSymbol_of_symbol? sign spelled)] at number
      cases number
    have other : ¬ (isSign first && (more ++ rest).head?.any isDigit) = true := by
      simpa only [Bool.and_eq_true] using unsigned
    simp only [Finding.of, operator, if_neg other, found]
  · simp only [Finding.of, mark, found]

end Written

/-- A lexeme is found in front of anything that does not carry it on. -/
theorem of_eq_lexeme_of_endsBefore {lexeme : Lexeme} (valid : lexeme.Valid) {first : Char}
    {more rest : List Char} (spelled : lexeme.spelling = first :: more)
    (ends : lexeme.EndsBefore rest) :
    Finding.of first (more ++ rest) = .lexeme lexeme.kind lexeme.text := by
  have written := valid.written
  rw [spelled] at written
  obtain ⟨kind, text⟩ := lexeme
  cases written with
  | word word looked =>
      obtain ⟨letter, words⟩ := isWord_cons_iff.mp word
      exact of_word letter words looked (ends.word (endsInWord_of_word looked))
  | integer integer =>
      obtain ⟨begins, digits⟩ := isInteger_cons_iff.mp integer
      exact of_integer begins digits (ends.word rfl)
  | string body =>
      rw [List.append_assoc]
      exact of_string body
  | symbol symbol => exact of_symbol symbol ends.equal ends.digit

/-- No two lexemes are written alike. -/
theorem Lexeme.eq_of_spelling_eq {one two : Lexeme} (oneValid : one.Valid) (twoValid : two.Valid)
    (same : one.spelling = two.spelling) : one = two := by
  obtain ⟨first, more, spelled⟩ := oneValid.written.isLexeme.exists_cons
  have foundOne := of_eq_lexeme_of_endsBefore oneValid spelled one.endsBefore_nil
  have foundTwo := of_eq_lexeme_of_endsBefore twoValid (same ▸ spelled) two.endsBefore_nil
  obtain ⟨kinds, texts⟩ := Finding.lexeme.inj (foundOne.symm.trans foundTwo)
  cases one
  cases two
  exact congr (congrArg Lexeme.mk kinds) texts

end MaximalMunch
