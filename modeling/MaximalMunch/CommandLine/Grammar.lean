/-
Module: MaximalMunch.CommandLine.Grammar
Layer: Command line
Purpose: The command lines that lead to a run, said without reading them from left to right. The first word that
  is two dashes alone divides a command line. In front of it stand settings, each in one of its spellings, and
  positional words; behind it every word is positional, whatever it looks like. No setting is given twice, under
  one spelling or under two, and there is at most one positional word, which is not empty. None of this depends
  on the order of the words in front of the dashes, and neither does what they ask for. The shape of a word is
  brought together with the word as it is written (`render_ofText`, `ofText_eq_positional_iff`).
Imports: MaximalMunch.CommandLine.Arguments
Trusted boundary: human-reviewed spec
Main exports: IsPositional, setting?, positionals, Divides, Grammatical, AskedBy, setting?_eq_some_iff,
  divides_beforeDashes, Word.render_ofText, Word.ofText_eq_positional_iff
Open obligations: none
-/
import MaximalMunch.CommandLine.Arguments

namespace MaximalMunch.CommandLine

/-- A word that is positional even where flags may stand: one dash alone, or a word that does not begin with
    one. -/
def IsPositional (word : String) : Prop := word = "-" ∨ word.toList.head? ≠ some '-'

instance (word : String) : Decidable (IsPositional word) :=
  inferInstanceAs (Decidable (_ ∨ _))

/-- The setting that a word gives. One of the two has two spellings. -/
def setting? (word : String) : Option Flag :=
  if word = "--fail-fast" then some .failFast
  else if word = "--verbose" ∨ word = "-v" then some .verbose
  else none

/-- The positional words of a command line that is divided into `before` and `after`. -/
def positionals (before after : List String) : List String :=
  before.filter (fun word => IsPositional word) ++ after

/-- The words are those `before` the first two dashes alone, the dashes, and those `after` them; or there are no
    such dashes, and all words are `before`. -/
structure Divides (words before after : List String) : Prop where
  first : "--" ∉ before
  whole : words = before ∧ after = [] ∨ words = before ++ "--" :: after

/-- A command line, divided into `before` and `after`, that leads to a run. -/
structure Grammatical (before after : List String) : Prop where
  shapes : ∀ word ∈ before,
    word = "--fail-fast" ∨ word = "--verbose" ∨ word = "-v" ∨ IsPositional word
  failFast : before.count "--fail-fast" ≤ 1
  verbose : before.count "--verbose" + before.count "-v" ≤ 1
  input : (positionals before after).length ≤ 1
  nonempty : "" ∉ positionals before after

/-- What such a command line asks for: whether each setting occurs, and which positional word does. -/
structure AskedBy (before after : List String) (arguments : Arguments) : Prop where
  failFast : arguments.failFast = true ↔ "--fail-fast" ∈ before
  verbose : arguments.verbose = true ↔ "--verbose" ∈ before ∨ "-v" ∈ before
  input : arguments.input.toList = positionals before after

/-- Which words give which setting. -/
theorem setting?_eq_some_iff {word : String} {flag : Flag} :
    setting? word = some flag ↔
      flag = .failFast ∧ word = "--fail-fast" ∨ flag = .verbose ∧ (word = "--verbose" ∨ word = "-v") := by
  unfold setting?
  split
  · next failFast => simp [failFast, eq_comm]
  · next other =>
      split
      · next verbose => simp [verbose, other, eq_comm]
      · next neither => simp [other, neither]

theorem positionals_cons_of_pos {word : String} (positional : IsPositional word) (before after : List String) :
    positionals (word :: before) after = word :: positionals before after := by
  rw [positionals, List.filter_cons_of_pos (by simpa using positional)]
  rfl

theorem positionals_cons_of_neg {word : String} (flag : ¬ IsPositional word) (before after : List String) :
    positionals (word :: before) after = positionals before after := by
  rw [positionals, List.filter_cons_of_neg (by simpa using flag)]
  rfl

/-- The reading divides a command line there. -/
theorem divides_beforeDashes (words : List String) :
    Divides words (Arguments.beforeDashes words) (Arguments.afterDashes words) := by
  have split : Arguments.beforeDashes words ++ words.dropWhile (· ≠ "--") = words :=
    List.takeWhile_append_dropWhile
  constructor
  case first =>
    intro member
    have other := List.all_eq_true.mp List.all_takeWhile "--" member
    simp at other
  case whole =>
    rw [Arguments.afterDashes]
    cases rest : words.dropWhile (· ≠ "--") with
    | nil =>
        rw [rest, List.append_nil] at split
        exact Or.inl ⟨split.symm, rfl⟩
    | cons word others =>
        have stops := List.head?_dropWhile_not (· ≠ "--") words
        rw [rest] at stops
        have dashes : word = "--" := by simpa using stops
        rw [rest, dashes] at split
        exact Or.inr split.symm

namespace Word

/-- A word as it is written. -/
def render : Word → String
  | endOfFlags => "--"
  | long name none => String.ofList ('-' :: '-' :: name.toList)
  | long name (some value) => String.ofList ('-' :: '-' :: (name.toList ++ '=' :: value.toList))
  | cluster names => String.ofList ('-' :: names)
  | positional text => text

/-- No two words have the same shape. -/
theorem render_ofText (text : String) : (ofText text).render = text := by
  rw [← String.toList_inj]
  unfold ofText
  split
  · next dashes => exact dashes.symm
  · next flag _ dashes =>
      have split := List.takeWhile_append_dropWhile (p := (· ≠ '=')) (l := flag)
      cases rest : flag.dropWhile (· ≠ '=') with
      | nil =>
          rw [rest, List.append_nil] at split
          simp only [render, String.toList_ofList, split, dashes]
      | cons mark value =>
          have stops := List.head?_dropWhile_not (· ≠ '=') flag
          rw [rest] at stops
          have equals : mark = '=' := by simpa using stops
          rw [rest, equals] at split
          simp only [render, String.toList_ofList, split, dashes]
  · next dash => exact (String.toList_ofList).trans dash.symm
  · rfl

/-- The positional words are those of positional shape. -/
theorem ofText_eq_positional_iff {text : String} : ofText text = .positional text ↔ IsPositional text := by
  unfold ofText IsPositional
  rw [← String.toList_inj]
  split
  · next dashes => simp [dashes]
  · next flag _ dashes =>
      cases rest : flag.dropWhile (· ≠ '=') <;> simp_all
  · next dash => simp [dash]
  · next other =>
      cases characters : text.toList with
      | nil => simp
      | cons first more =>
          cases more with
          | nil => simp [Decidable.em]
          | cons second more =>
              have noDash : first ≠ '-' := by
                rintro rfl
                exact other second more characters
              simp [noDash]

end Word

end MaximalMunch.CommandLine
