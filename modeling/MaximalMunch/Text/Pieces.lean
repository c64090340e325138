/-
Module: MaximalMunch.Text.Pieces
Layer: Text
Purpose: Cutting a text at a separator. There is one piece more than there are separators, so pieces may
  be empty, and a text without separators is its only piece. Two laws fix the function: no piece holds the
  separator, and putting separators back between the pieces gives the text.
Imports: none
Trusted boundary: human-reviewed spec
Main exports: pieces, not_mem_of_mem_pieces, pieces_append, intercalate_pieces
Open obligations: none
-/

namespace MaximalMunch.Text

/-- Put a character in front of the first piece. -/
def extendFirst (c : Char) : List (List Char) → List (List Char)
  | [] => [[c]]
  | first :: others => (c :: first) :: others

/-- The pieces of a text between the separators in it. -/
def pieces (separator : Char) : List Char → List (List Char)
  | [] => [[]]
  | c :: rest =>
      if c = separator then [] :: pieces separator rest else extendFirst c (pieces separator rest)

theorem pieces_ne_nil (separator : Char) (text : List Char) : pieces separator text ≠ [] := by
  cases text with
  | nil => simp [pieces]
  | cons c rest =>
      by_cases h : c = separator
      · simp [pieces, h]
      · cases e : pieces separator rest <;> simp [pieces, h, extendFirst, e]

/-- No piece holds the separator. -/
theorem not_mem_of_mem_pieces {separator : Char} {text piece : List Char}
    (h : piece ∈ pieces separator text) : separator ∉ piece := by
  induction text generalizing piece with
  | nil => simp_all [pieces]
  | cons c rest ih =>
      by_cases hc : c = separator
      · simp only [pieces, hc, if_true, List.mem_cons] at h
        rcases h with rfl | h
        · simp
        · exact ih h
      · obtain ⟨first, others, e⟩ := List.exists_cons_of_ne_nil (pieces_ne_nil separator rest)
        simp only [pieces, hc, if_false, e, extendFirst, List.mem_cons] at h ih
        rcases h with rfl | h
        · simpa [Ne.symm hc] using ih (Or.inl rfl)
        · exact ih (Or.inr h)

/-- Up to the first separator there is one piece. -/
theorem pieces_append {separator : Char} {first : List Char} (free : separator ∉ first)
    (rest : List Char) :
    pieces separator (first ++ separator :: rest) = first :: pieces separator rest := by
  induction first with
  | nil => simp [pieces]
  | cons c first ih =>
      have other : c ≠ separator := fun same => free (same ▸ List.mem_cons_self)
      have later := ih fun member => free (List.mem_cons_of_mem c member)
      rw [List.cons_append, pieces, if_neg other, later, extendFirst]

/-- The pieces with separators between them are the text. -/
theorem intercalate_pieces (separator : Char) (text : List Char) :
    [separator].intercalate (pieces separator text) = text := by
  induction text with
  | nil => rfl
  | cons c rest ih =>
      obtain ⟨first, others, e⟩ := List.exists_cons_of_ne_nil (pieces_ne_nil separator rest)
      rw [e] at ih
      by_cases hc : c = separator
      · simp only [pieces, hc, if_true, e]
        rw [← ih]
        simp [List.intercalate, List.intersperse]
      · simp only [pieces, hc, if_false, e, extendFirst]
        rw [← ih]
        cases others <;> simp [List.intercalate, List.intersperse]

end MaximalMunch.Text
