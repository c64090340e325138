/-
Module: MaximalMunch.Text.Unquoted
Layer: Text
Purpose: Reading back what was quoted. Behind a backslash a letter stands for one of four characters that
  have letters of their own, or begins a number in hexadecimal, or is a character that stands for itself;
  everything else stands for itself anyway. So one character can be read off the front of a text without
  looking at what follows it (`readEscape?_escape`). What is written for a character never begins with the
  mark around it. A quoted text therefore ends where its mark comes back, and text and end are determined by
  the whole, whatever else follows (`eq_of_quoted_append_eq`).
Imports: MaximalMunch.Text.Quoted
Trusted boundary: none
Main exports: numberOfDigits, readEscape?, readEscape?_escape, eq_of_quoted_append_eq
Open obligations: none
-/
import MaximalMunch.Text.Quoted

namespace MaximalMunch.Text

/-!
### Numbers in hexadecimal
-/

/-- The value of a digit, in lower case. -/
def digitValue (digit : Char) : Nat :=
  if digit.isDigit then digit.toNat - '0'.toNat else digit.toNat - 'a'.toNat + 10

/-- The number that digits write. -/
def numberOfDigits (digits : List Char) : Nat :=
  digits.foldl (fun number digit => 16 * number + digitValue digit) 0

/-- A hexadecimal digit is read back. -/
theorem digitValue_digitChar {n : Nat} (digit : n < 16) : digitValue n.digitChar = n := by
  decide +revert

/-- No digit is the brace that ends a number. -/
theorem ne_brace_of_digitChar {n : Nat} (digit : n < 16) : n.digitChar ≠ '\x7d' := by
  decide +revert

/-- The digits of a number are read back, by induction on the number. -/
theorem numberOfDigits_toDigits (n : Nat) : numberOfDigits (Nat.toDigits 16 n) = n := by
  induction n using Nat.strongRecOn with
  | ind n ih =>
      rw [Nat.toDigits_eq_if (by decide)]
      split
      · next small => exact (Nat.zero_add _).trans (digitValue_digitChar small)
      · next large =>
          have front := ih (n / 16) (by omega)
          have last := digitValue_digitChar (Nat.mod_lt n (show 0 < 16 by decide))
          rw [numberOfDigits] at front ⊢
          rw [List.foldl_append, front, List.foldl_cons, last]
          exact Nat.div_add_mod n 16

/-- The digits of a number hold no brace, so the number ends at the first one. -/
theorem brace_not_mem_toDigits (n : Nat) : '\x7d' ∉ Nat.toDigits 16 n := by
  induction n using Nat.strongRecOn with
  | ind n ih =>
      rw [Nat.toDigits_eq_if (by decide)]
      split
      · next small =>
          rw [List.mem_singleton]
          exact (ne_brace_of_digitChar small).symm
      · next large =>
          rw [List.mem_append, List.mem_singleton, not_or]
          exact ⟨ih (n / 16) (by omega), (ne_brace_of_digitChar (Nat.mod_lt n (by decide))).symm⟩

/-!
### One character
-/

/-- The character that a letter behind a backslash stands for. -/
def ofLetter (letter : Char) : Char :=
  if letter = '0' then '\x00'
  else if letter = 't' then '\t'
  else if letter = 'r' then '\r'
  else if letter = 'n' then '\n'
  else letter

/-- The character that is written in front of a text, and what follows it. -/
def readEscape? : List Char → Option (Char × List Char)
  | [] => none
  | first :: rest =>
      if first = '\\' then
        match rest with
        | [] => none
        | letter :: rest =>
            if letter = 'u' then
              let digits := (rest.drop 1).takeWhile (· ≠ '\x7d')
              some (Char.ofNat (numberOfDigits digits), rest.drop (digits.length + 2))
            else some (ofLetter letter, rest)
      else some (first, rest)

/-- A character that is written by its number is read back from it. -/
theorem readEscape?_numbered (c : Char) (rest : List Char) :
    readEscape? (numbered c ++ rest) = some (c, rest) := by
  have digits : (Nat.toDigits 16 c.toNat ++ '\x7d' :: rest).takeWhile (· ≠ '\x7d') =
      Nat.toDigits 16 c.toNat := by
    rw [List.takeWhile_append_of_pos]
    · simp
    · intro digit member
      simpa using ne_of_mem_of_not_mem member (brace_not_mem_toDigits c.toNat)
  have text : numbered c ++ rest = '\\' :: 'u' :: '\x7b' :: (Nat.toDigits 16 c.toNat ++ '\x7d' :: rest) := by
    simp [numbered]
  rw [text, readEscape?, if_pos rfl]
  simp only [if_true, List.drop_succ_cons, List.drop_zero, digits, numberOfDigits_toDigits, Char.ofNat_toNat]
  simp

/-- A letter behind a backslash is read back as the character it stands for. -/
theorem readEscape?_pair {letter : Char} (other : letter ≠ 'u') (rest : List Char) :
    readEscape? ('\\' :: letter :: rest) = some (ofLetter letter, rest) := by
  simp only [readEscape?, if_true, if_neg other]

/-- A character that stands for itself is read back. -/
theorem readEscape?_single {c : Char} (other : c ≠ '\\') (rest : List Char) :
    readEscape? (c :: rest) = some (c, rest) := by
  simp only [readEscape?, if_neg other]

/-- A mark that stands for itself behind a backslash. -/
def IsMark (mark : Char) : Prop := mark ≠ 'u' ∧ mark ≠ '\\' ∧ ofLetter mark = mark

instance (mark : Char) : Decidable (IsMark mark) := inferInstanceAs (Decidable (_ ∧ _ ∧ _))

section Escapes

variable {mark : Char}

/-- What can be written for a character: a letter behind a backslash, its number, or itself. -/
theorem escape_cases (isMark : IsMark mark) (c : Char) :
    (∃ letter, escape mark c = ['\\', letter] ∧ letter ≠ 'u' ∧ ofLetter letter = c) ∨
      escape mark c = numbered c ∨ (escape mark c = [c] ∧ c ≠ '\\' ∧ c ≠ mark) := by
  unfold escape
  split
  · next same => exact .inl ⟨'0', rfl, by decide, same.symm⟩
  split
  · next same => exact .inl ⟨'t', rfl, by decide, same.symm⟩
  split
  · next same => exact .inl ⟨'r', rfl, by decide, same.symm⟩
  split
  · next same => exact .inl ⟨'n', rfl, by decide, same.symm⟩
  split
  · next doubled =>
      refine .inl ⟨c, rfl, ?_⟩
      cases (Bool.or_eq_true _ _).mp doubled with
      | inl slash =>
          cases of_decide_eq_true slash
          decide
      | inr same =>
          cases of_decide_eq_true same
          exact ⟨isMark.1, isMark.2.2⟩
  · next single =>
      split
      · exact .inr (.inl rfl)
      · refine .inr (.inr ⟨rfl, ?_⟩)
        simpa using single

/-- Whatever is written for a character is read back. -/
theorem readEscape?_escape (isMark : IsMark mark) (c : Char) (rest : List Char) :
    readEscape? (escape mark c ++ rest) = some (c, rest) := by
  rcases escape_cases isMark c with ⟨letter, written, other, same⟩ | written | ⟨written, other, _⟩
  · rw [written, ← same]
    exact readEscape?_pair other rest
  · rw [written]
    exact readEscape?_numbered c rest
  · rw [written]
    exact readEscape?_single other rest

/-!
### A quoted text
-/

/-- What is written for a character does not begin with the mark. -/
theorem escape_append_ne (isMark : IsMark mark) (c : Char) (rest beyond : List Char) :
    escape mark c ++ rest ≠ mark :: beyond := by
  intro same
  have first := congrArg List.head? same
  rcases escape_cases isMark c with ⟨letter, written, _⟩ | written | ⟨written, _, other⟩
  · rw [written] at first
    exact isMark.2.1 (Option.some.inj first).symm
  · rw [written] at first
    exact isMark.2.1 (Option.some.inj first).symm
  · rw [written] at first
    exact other (Option.some.inj first)

/-- A quoted text ends where its mark comes back, by induction on the text. -/
theorem eq_of_escapes_append_eq (isMark : IsMark mark) {text other rest beyond : List Char}
    (same : text.flatMap (escape mark) ++ mark :: rest = other.flatMap (escape mark) ++ mark :: beyond) :
    text = other ∧ rest = beyond := by
  induction text generalizing other with
  | nil =>
      cases other with
      | nil => exact ⟨rfl, (List.cons.inj same).2⟩
      | cons d other =>
          rw [List.flatMap_cons, List.append_assoc] at same
          exact absurd same.symm (escape_append_ne isMark d _ _)
  | cons c text ih =>
      cases other with
      | nil =>
          rw [List.flatMap_cons, List.append_assoc] at same
          exact absurd same (escape_append_ne isMark c _ _)
      | cons d other =>
          rw [List.flatMap_cons, List.flatMap_cons, List.append_assoc, List.append_assoc] at same
          have read := congrArg readEscape? same
          rw [readEscape?_escape isMark, readEscape?_escape isMark] at read
          obtain ⟨rfl, later⟩ := Prod.mk.inj (Option.some.inj read)
          obtain ⟨rfl, ends⟩ := ih later
          exact ⟨rfl, ends⟩

/-- Where a quoted text ends is seen by what it is made of, and so is the text. -/
theorem eq_of_quoted_append_eq (isMark : IsMark mark) {text other rest beyond : List Char}
    (same : quoted mark text ++ rest = quoted mark other ++ beyond) : text = other ∧ rest = beyond := by
  apply eq_of_escapes_append_eq isMark
  simpa [quoted] using same

end Escapes

/-- A text between double quotes, and what follows it, is seen by what is written. -/
theorem eq_of_quoteString_append_eq {text other : String} {rest beyond : List Char}
    (same : (quoteString text).toList ++ rest = (quoteString other).toList ++ beyond) :
    text = other ∧ rest = beyond := by
  rw [quoteString, quoteString, String.toList_ofList, String.toList_ofList] at same
  obtain ⟨texts, ends⟩ := eq_of_quoted_append_eq (by decide) same
  exact ⟨String.toList_inj.mp texts, ends⟩

/-- A character between single quotes, and what follows it, is seen by what is written. -/
theorem eq_of_quoteChar_append_eq {c d : Char} {rest beyond : List Char}
    (same : (quoteChar c).toList ++ rest = (quoteChar d).toList ++ beyond) : c = d ∧ rest = beyond := by
  rw [quoteChar, quoteChar, String.toList_ofList, String.toList_ofList] at same
  obtain ⟨texts, ends⟩ := eq_of_quoted_append_eq (by decide) same
  exact ⟨(List.cons.inj texts).1, ends⟩

end MaximalMunch.Text
