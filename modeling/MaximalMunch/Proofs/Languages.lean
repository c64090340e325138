/-
Module: MaximalMunch.Proofs.Languages
Layer: Proofs
Purpose: The languages of lexemes, taken apart at their first character. The class of that character
  alone tells which language a lexeme can belong to, and what remains is a condition on the characters
  behind it (`isLexeme_cons_iff`). The kinds of tokens fall into the same four families
  (`accepts_iff`), so a lexeme written out is in the language of its family. For string literals the
  search for the closing mark and the bodies that may stand before it are the same thing
  (`closingMark?_eq_some_iff`).
Imports: MaximalMunch.Finding, MaximalMunch.Lexeme
Trusted boundary: none
Main exports: isLexeme_cons_iff, Kind.accepts_iff, closingMark?_eq_some_iff
Open obligations: none
-/
import MaximalMunch.Finding
import MaximalMunch.Lexeme

namespace MaximalMunch

open CharClass

/-!
### Each language at its first character

No lexeme is empty. The sign of an integer is only looked for at the front, so behind the first
character an integer has digits and nothing else.
-/

/-- A word is a letter and then word characters. -/
theorem isWord_cons_iff {first : Char} {more : List Char} :
    IsWord (first :: more) ↔ isLetter first = true ∧ ∀ c ∈ more, isWord c = true := by
  constructor
  · rintro ⟨_, _, same, letter, words⟩
    cases same
    exact ⟨letter, words⟩
  · rintro ⟨letter, words⟩
    exact ⟨first, more, rfl, letter, words⟩

/-- An integer is a digit and then digits, or a sign and then at least one. -/
theorem isInteger_cons_iff {first : Char} {more : List Char} :
    IsInteger (first :: more) ↔
      (isDigit first = true ∨ isSign first = true ∧ more ≠ []) ∧ ∀ c ∈ more, isDigit c = true := by
  constructor
  · rintro ⟨sign, digits, same, short, signed, some, digital⟩
    cases sign with
    | nil =>
        rw [List.nil_append] at same
        subst same
        exact ⟨Or.inl (digital first List.mem_cons_self),
          fun c member => digital c (List.mem_cons_of_mem first member)⟩
    | cons mark others =>
        have alone : others = [] := List.eq_nil_of_length_eq_zero (by simpa using short)
        subst alone
        cases same
        exact ⟨Or.inr ⟨signed first List.mem_cons_self, some⟩, digital⟩
  · rintro ⟨digit | ⟨sign, some⟩, digital⟩
    · refine ⟨[], first :: more, rfl, Nat.zero_le 1, by simp, by simp, ?_⟩
      intro c member
      rcases List.mem_cons.mp member with rfl | member
      · exact digit
      · exact digital c member
    · exact ⟨[first], more, rfl, Nat.le_refl 1, by simpa using sign, some, digital⟩

/-- A string literal is a body between two marks. -/
theorem isString_cons_iff {first : Char} {more : List Char} :
    IsString (first :: more) ↔ first = '"' ∧ ∃ body, more = body ++ ['"'] ∧ StringBody body := by
  constructor
  · rintro ⟨body, same, valid⟩
    cases same
    exact ⟨rfl, body, rfl, valid⟩
  · rintro ⟨rfl, body, rfl, valid⟩
    exact ⟨body, rfl, valid⟩

/-- A symbol has one character or two, and the first of them begins a symbol. -/
theorem symbol?_eq_some_cons {kind : Kind} {first : Char} {more : List Char}
    (spelled : kind.symbol? = some (first :: more)) :
    (of first = .operator ∨ of first = .punctuation) ∧ more.length ≤ 1 := by
  cases kind <;> cases spelled <;> decide

/-- No symbol goes on behind a sign. -/
theorem symbol?_eq_some_sign {kind : Kind} {first : Char} {more : List Char}
    (sign : isSign first = true) (spelled : kind.symbol? = some (first :: more)) : more = [] := by
  cases kind <;> cases spelled <;> first | rfl | cases sign

theorem symbol?_ne_some_nil (kind : Kind) : kind.symbol? ≠ some [] := by
  cases kind <;> decide

/-- No lexeme is empty. -/
theorem not_isLexeme_nil : ¬ IsLexeme [] := by
  rintro (⟨_, _, same, _⟩ | ⟨_, _, same, _, _, some, _⟩ | ⟨_, same, _⟩ | ⟨kind, spelled⟩)
  · cases same
  · exact some (List.append_eq_nil_iff.mp same.symm).2
  · cases same
  · exact symbol?_ne_some_nil kind spelled

/-- Which lexemes begin with a given character. Only a sign begins lexemes of two languages, the
    integers and the symbols. -/
theorem isLexeme_cons_iff {first : Char} {more : List Char} :
    IsLexeme (first :: more) ↔
      match of first with
      | .letter => ∀ c ∈ more, isWord c = true
      | .digit => ∀ c ∈ more, isDigit c = true
      | .quote => ∃ body, more = body ++ ['"'] ∧ StringBody body
      | .operator =>
          (isSign first = true ∧ more ≠ [] ∧ ∀ c ∈ more, isDigit c = true) ∨ IsSymbol (first :: more)
      | .punctuation => IsSymbol (first :: more)
      | .underscore => False
      | .blank => False
      | .unrecognized => False := by
  have signed : isSign first = true → of first = .operator := of_eq_operator_of_isSign
  have symbolic : IsSymbol (first :: more) → of first = .operator ∨ of first = .punctuation := by
    rintro ⟨kind, spelled⟩
    exact (symbol?_eq_some_cons spelled).1
  unfold IsLexeme
  rw [isWord_cons_iff, isInteger_cons_iff, isString_cons_iff, isLetter_iff, isDigit_iff, eq_quote_iff]
  cases kind : of first <;> simp_all [and_assoc]

/-- Every lexeme has a first character. -/
theorem IsLexeme.exists_cons {text : List Char} (h : IsLexeme text) :
    ∃ first more, text = first :: more := by
  cases text with
  | nil => exact absurd h not_isLexeme_nil
  | cons first more => exact ⟨first, more, rfl⟩

/-!
### The kinds fall into four families

`Kind.Accepts` is written kind by kind. Reserved words and identifiers together are the words, each of
which has the one kind that looking it up gives.
-/

/-- A reserved word is a word. -/
theorem isWord_of_reservedWord? {kind : Kind} {text : List Char}
    (spelled : kind.reservedWord? = some (String.ofList text)) : IsWord text := by
  have written : ∃ word : String, kind.reservedWord? = some word ∧ text = word.toList :=
    ⟨String.ofList text, spelled, String.toList_ofList.symm⟩
  obtain ⟨word, reserved, rfl⟩ := written
  cases kind <;> cases reserved
  all_goals
    rw [String.toList]
    exact isWord_cons_iff.mpr ⟨rfl, List.all_eq_true.mp rfl⟩

/-- A kind with a reserved word accepts it. -/
theorem Kind.accepts_of_reservedWord? {kind : Kind} {text : List Char}
    (spelled : kind.reservedWord? = some (String.ofList text)) : kind.Accepts text := by
  cases kind <;> first | exact Or.inl spelled | cases spelled

/-- A kind with a symbol accepts it. -/
theorem Kind.accepts_of_symbol? {kind : Kind} {text : List Char}
    (spelled : kind.symbol? = some text) : kind.Accepts text := by
  cases kind <;> first | exact Or.inr spelled | cases spelled

/-- A token of a given kind and text is a word of that kind, an integer, a string literal or a symbol. -/
theorem Kind.accepts_iff {kind : Kind} {text : List Char} :
    kind.Accepts text ↔
      (IsWord text ∧ (Kind.ofReservedWord? (String.ofList text)).getD .identifier = kind) ∨
        (kind = .integer ∧ IsInteger text) ∨ (kind = .string ∧ StringBody text) ∨
          kind.symbol? = some text := by
  constructor
  · intro accepts
    by_cases spelled : kind.reservedWord? = some (String.ofList text)
    · left
      rw [Kind.ofReservedWord?_eq_some_iff.mpr spelled]
      exact ⟨isWord_of_reservedWord? spelled, rfl⟩
    · cases kind with
      | identifier => exact Or.inl ⟨accepts.1, by rw [accepts.2]; rfl⟩
      | integer => exact Or.inr (Or.inl ⟨rfl, accepts⟩)
      | string => exact Or.inr (Or.inr (Or.inl ⟨rfl, accepts⟩))
      | endOfInput => exact accepts.elim
      | _ => exact Or.inr (Or.inr (Or.inr (accepts.resolve_left spelled)))
  · rintro (⟨word, looked⟩ | ⟨rfl, integer⟩ | ⟨rfl, body⟩ | spelled)
    · cases found : Kind.ofReservedWord? (String.ofList text) with
      | none =>
          rw [found] at looked
          subst looked
          exact ⟨word, found⟩
      | some reserved =>
          rw [found] at looked
          cases looked
          exact Kind.accepts_of_reservedWord? (Kind.ofReservedWord?_eq_some_iff.mp found)
    · exact integer
    · exact body
    · exact Kind.accepts_of_symbol? spelled

/-!
### String literals

The search for the closing mark passes over a body in the same steps in which a body is built: a plain
character, or a backslash with the character behind it.
-/

/-- Behind a body the closing mark is found where the body ends. -/
theorem closingMark?_append {body : List Char} (valid : StringBody body) (offset : Nat)
    (rest : List Char) :
    Finding.closingMark? offset (body ++ '"' :: rest) = some (offset + body.length) := by
  induction valid generalizing offset with
  | nil =>
      rw [List.nil_append, Finding.closingMark?.eq_def]
      simp
  | plain mark slash feed _ ih =>
      rw [List.cons_append, Finding.closingMark?.eq_def]
      simp only [mark, slash, feed, if_false, ih, List.length_cons]
      rw [Nat.add_right_comm, Nat.add_assoc]
  | pair c _ ih =>
      rw [List.cons_append, List.cons_append, Finding.closingMark?.eq_def]
      simp only [ih, List.length_cons]
      simp
      omega

/-- What the search passes over before it finds a mark is a body. -/
theorem closingMark?_sound {text : List Char} {offset place : Nat}
    (found : Finding.closingMark? offset text = some place) :
    ∃ body rest, text = body ++ '"' :: rest ∧ StringBody body ∧ place = offset + body.length := by
  fun_induction Finding.closingMark? offset text with
  | case1 => cases found
  | case2 offset rest =>
      cases found
      exact ⟨[], rest, rfl, .nil, rfl⟩
  | case3 => cases found
  | case4 => cases found
  | case5 offset second beyond mark feed ih =>
      obtain ⟨body, rest, rfl, valid, rfl⟩ := ih found
      exact ⟨'\\' :: second :: body, rest, rfl, .pair second valid, by simp; omega⟩
  | case6 offset c text mark feed slash ih =>
      obtain ⟨body, rest, rfl, valid, rfl⟩ := ih found
      exact ⟨c :: body, rest, rfl, .plain mark slash feed valid, by simp; omega⟩

/-- The closing mark is found exactly behind a body. -/
theorem closingMark?_eq_some_iff {text : List Char} {offset place : Nat} :
    Finding.closingMark? offset text = some place ↔
      ∃ body rest, text = body ++ '"' :: rest ∧ StringBody body ∧ place = offset + body.length := by
  constructor
  · exact closingMark?_sound
  · rintro ⟨body, rest, rfl, valid, rfl⟩
    exact closingMark?_append valid offset rest

end MaximalMunch
