/-
Module: MaximalMunch.Place
Layer: Grammar
Purpose: What the neighbourhood of a character decides, said without scanning. A place is a character of a
  source with all that stands before it and behind it. The block of a place is the longest stretch of word
  characters around it. A block is spoiled if it can be neither a word nor the digits of an integer; every
  other block is the text of one token, which has a sign in front if one stands there (`blockToken`).
  `Place.error?` says which error the character at a place makes and `Place.token?` which token the block that
  begins there is, and neither looks further than the block and the characters next to it. Quotes are not
  thought of, since what a mark opens may reach as far as it likes.
Imports: MaximalMunch.LexicalError, MaximalMunch.Lexeme
Trusted boundary: human-reviewed spec
Main exports: Place, Place.all, Place.block, IsBlock, SpoilsNumber, Spoiled, blockToken, Place.BeginsNothing,
  Place.Blamed, Place.error?, Place.token?, mem_all_iff
Open obligations: none
-/
import MaximalMunch.LexicalError
import MaximalMunch.Lexeme

namespace MaximalMunch

open CharClass

/-!
### Blocks
-/

/-- The word characters at the front of a text. -/
def wordAtFront (text : List Char) : List Char := text.takeWhile isWord

/-- The word characters at the end of a text. -/
def wordAtEnd (text : List Char) : List Char := (text.reverse.takeWhile isWord).reverse

/-- Between `before` and `after`, the `block` is as many word characters in a row as there are. -/
structure IsBlock (before block after : List Char) : Prop where
  nonempty : block ≠ []
  words : ∀ c ∈ block, isWord c = true
  starts : before.getLast?.any isWord = false
  stops : after.head?.any isWord = false

/-- The block begins with a digit and has something else in it. -/
def SpoilsNumber (block : List Char) : Prop :=
  block.head?.any isDigit = true ∧ block.all isDigit = false

instance (block : List Char) : Decidable (SpoilsNumber block) := inferInstanceAs (Decidable (_ ∧ _))

/-- The block is neither a word nor digits. -/
def Spoiled (block : List Char) : Prop := block.head? = some '_' ∨ SpoilsNumber block

instance (block : List Char) : Decidable (Spoiled block) := inferInstanceAs (Decidable (_ ∨ _))

/-- The token of a block that is not spoiled and stands behind `before`. One that begins with a letter is a
    word; digits are an integer together with the sign that stands right before them, if one does. -/
def blockToken (before block : List Char) : Token :=
  if block.head?.any isLetter then
    ⟨(Kind.ofReservedWord? (String.ofList block)).getD .identifier, String.ofList block, .after before⟩
  else
    match before.getLast?.filter isSign with
    | some sign => ⟨.integer, String.ofList (sign :: block), .after before.dropLast⟩
    | none => ⟨.integer, String.ofList block, .after before⟩

/-!
### Places
-/

/-- A character of a source, with what stands before it and what stands behind it. -/
structure Place where
  before : List Char
  char : Char
  after : List Char
deriving DecidableEq, Repr, Inhabited

namespace Place

/-- The places of a text in order, when `done` stands before it. -/
def allFrom (done : List Char) : List Char → List Place
  | [] => []
  | c :: after => ⟨done, c, after⟩ :: allFrom (done ++ [c]) after

/-- The places of a source, one for each of its characters. -/
def all (source : List Char) : List Place := allFrom [] source

/-- Where the character stands. -/
def position (place : Place) : Position := .after place.before

/-- The longest stretch of word characters around a word character. -/
def block (place : Place) : List Char := wordAtEnd place.before ++ place.char :: wordAtFront place.after

/-- No lexeme has the character in it, but for a string literal. -/
def isForeign (c : Char) : Bool := !(isWord c || isBlank c || isPunctuation c || isOperatorStart c)

/-- The character is foreign, or an exclamation mark that no equals sign follows. -/
def BeginsNothing (place : Place) : Prop :=
  (place.char = '!' ∧ place.after.head? ≠ some '=') ∨ isForeign place.char = true

instance (place : Place) : Decidable place.BeginsNothing := inferInstanceAs (Decidable (_ ∨ _))

/-- The character lies in a spoiled block, or is a sign right before one that would be its number. -/
def Blamed (place : Place) : Prop :=
  (isWord place.char = true ∧ Spoiled place.block) ∨
    (isSign place.char = true ∧ SpoilsNumber (wordAtFront place.after))

instance (place : Place) : Decidable place.Blamed := inferInstanceAs (Decidable (_ ∨ _))

/-- The error that the character at the place makes. -/
def error? (place : Place) : Option LexicalError :=
  if place.BeginsNothing then some (.unexpectedCharacter place.char place.position)
  else if place.Blamed then some (.invalidStart place.char place.position)
  else none

/-- A block begins at the place, and it is not spoiled. -/
def BeginsToken (place : Place) : Prop :=
  isWord place.char = true ∧ wordAtEnd place.before = [] ∧ ¬ Spoiled place.block

instance (place : Place) : Decidable place.BeginsToken := inferInstanceAs (Decidable (_ ∧ _))

/-- The token of the block that begins at the place. -/
def token? (place : Place) : Option Token :=
  if place.BeginsToken then some (blockToken place.before place.block) else none

theorem mem_allFrom_iff {done text : List Char} {place : Place} :
    place ∈ allFrom done text ↔
      ∃ front, place.before = done ++ front ∧ text = front ++ place.char :: place.after := by
  induction text generalizing done with
  | nil => simp [allFrom]
  | cons c text ih =>
      rw [allFrom, List.mem_cons, ih]
      constructor
      · rintro (rfl | ⟨front, before, rfl⟩)
        · exact ⟨[], (List.append_nil done).symm, rfl⟩
        · exact ⟨c :: front, by rw [before, List.append_assoc]; rfl, rfl⟩
      · rintro ⟨front, before, split⟩
        cases front with
        | nil =>
            left
            obtain ⟨char, after⟩ := List.cons.inj split
            cases place
            simp_all
        | cons d front =>
            right
            obtain ⟨rfl, behind⟩ := List.cons.inj split
            exact ⟨front, by rw [before, List.append_assoc]; rfl, behind⟩

/-- The places of a source are the ways to take it apart at a character. -/
theorem mem_all_iff {source : List Char} {place : Place} :
    place ∈ all source ↔ source = place.before ++ place.char :: place.after := by
  rw [all, mem_allFrom_iff]
  constructor
  · rintro ⟨front, before, split⟩
    rw [before, split]
    rfl
  · intro split
    exact ⟨place.before, rfl, split⟩

/-!
### Looking for something at each place

What a stretch of text holds is found at its places, with all of the source still around them.
-/

section Find

variable {α : Type} {find : Place → Option α} {done stretch rest : List Char}

/-- A stretch in which nothing is found can be passed. -/
theorem filterMap_allFrom_of_none
    (none : ∀ front c back, stretch = front ++ c :: back → find ⟨done ++ front, c, back ++ rest⟩ = none) :
    (allFrom done (stretch ++ rest)).filterMap find = (allFrom (done ++ stretch) rest).filterMap find := by
  induction stretch generalizing done with
  | nil => rw [List.nil_append, List.append_nil]
  | cons c stretch ih =>
      have here : find ⟨done, c, stretch ++ rest⟩ = .none := by
        simpa using none [] c stretch rfl
      have later : ∀ front d back, stretch = front ++ d :: back →
          find ⟨(done ++ [c]) ++ front, d, back ++ rest⟩ = .none := by
        intro front d back split
        have found := none (c :: front) d back (by rw [split]; rfl)
        rwa [List.append_cons] at found
      rw [List.cons_append, allFrom, List.filterMap_cons_none here, ih later, List.append_assoc]
      rfl

/-- What is found at the first place of a stretch alone is all that is found in it. -/
theorem filterMap_allFrom_of_first {c : Char} {more : List Char} {found : α}
    (here : find ⟨done, c, more ++ rest⟩ = some found)
    (none : ∀ front d back, more = front ++ d :: back →
      find ⟨(done ++ [c]) ++ front, d, back ++ rest⟩ = none) :
    (allFrom done (c :: more ++ rest)).filterMap find =
      found :: (allFrom (done ++ c :: more) rest).filterMap find := by
  rw [List.cons_append, allFrom, List.filterMap_cons_some here, filterMap_allFrom_of_none none,
    List.append_assoc]
  rfl

end Find

end Place

end MaximalMunch
