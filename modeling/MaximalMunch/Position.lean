/-
Module: MaximalMunch.Position
Layer: Data
Purpose: Where a character stands in a source. A position is three counters: the line, the column
  counted from the start of the whole source, and the column counted from the start of its line.
  The counters can be read in two ways. `advance` moves them over one character, which is what a
  scanner does as it goes; `after` says outright what they are once a given text has been read: the
  line feeds in it, its length, and the length of what follows its last line feed. The main
  statement, `advanceAll_eq_translate`, joins the two, from any starting position: moving over a text
  adds what the text itself counts.
Imports: none
Trusted boundary: human-reviewed spec
Main exports: Position, origin, advance, advanceAll, after, translate, render, advanceAll_eq_translate,
  advanceAll_origin
Open obligations: none
-/

namespace MaximalMunch

/-- A place in a source, counted in characters from zero. Only a line feed ends a line, so a carriage
    return is one more character of the line it stands in. -/
structure Position where
  /-- Number of line feeds before this place. -/
  line : Nat
  /-- Number of characters before this place, over all lines. -/
  column : Nat
  /-- Number of characters between the start of the line and this place. -/
  lineColumn : Nat
deriving DecidableEq, Repr, Inhabited

namespace Position

/-- The start of every source. -/
def origin : Position := ⟨0, 0, 0⟩

/-- The place just after `c`, when `c` stands at `p`. -/
def advance (p : Position) (c : Char) : Position :=
  if c = '\n' then ⟨p.line + 1, p.column + 1, 0⟩ else ⟨p.line, p.column + 1, p.lineColumn + 1⟩

/-- The place just after a whole text that starts at `p`. -/
def advanceAll (p : Position) (text : List Char) : Position := text.foldl advance p

/-- The place reached from the origin by reading `text`, said by counting and not by reading: the line
    feeds of the text, its length, and the length of what comes after its last line feed. -/
def after (text : List Char) : Position where
  line := text.count '\n'
  column := text.length
  lineColumn := (text.reverse.takeWhile (· ≠ '\n')).length

/-- Where `p`, counted from the start of a text, stands once that text itself starts at `base`. Only on
    its first line does a text share a line with what stands before it. -/
def translate (base p : Position) : Position where
  line := base.line + p.line
  column := base.column + p.column
  lineColumn := if p.line = 0 then base.lineColumn + p.lineColumn else p.lineColumn

/-- Positions are ordered by line, then by column, then by the column within the line. -/
def compare (p q : Position) : Ordering :=
  (Ord.compare p.line q.line).then
    ((Ord.compare p.column q.column).then (Ord.compare p.lineColumn q.lineColumn))

instance : Ord Position := ⟨compare⟩

instance : LT Position := ltOfOrd

instance : LE Position := leOfOrd

/-- A position as messages show it. The column is the one counted over the whole source. -/
def render (p : Position) : String :=
  "line " ++ toString p.line ++ ", column " ++ toString p.column

/-!
### Reading and counting agree

`advanceAll` steps through a text from the front, `after` looks at it from the back. Both are
determined by what one more character at the end does, which is `after_concat`; everything else is an
induction over the text with the starting position generalized.
-/

@[simp] theorem advanceAll_nil (p : Position) : p.advanceAll [] = p := rfl

@[simp] theorem advanceAll_cons (p : Position) (c : Char) (text : List Char) :
    p.advanceAll (c :: text) = (p.advance c).advanceAll text := rfl

/-- Reading two texts in a row is reading their concatenation. -/
theorem advanceAll_append (p : Position) (first second : List Char) :
    p.advanceAll (first ++ second) = (p.advanceAll first).advanceAll second :=
  List.foldl_append

/-- Counting over one more character is moving over it. -/
theorem after_concat (text : List Char) (c : Char) :
    after (text ++ [c]) = (after text).advance c := by
  by_cases h : c = '\n' <;> simp [after, advance, h]

/-- Reading from where a text ended counts the two texts together. -/
theorem advanceAll_after (first second : List Char) :
    (after first).advanceAll second = after (first ++ second) := by
  induction second generalizing first with
  | nil => simp
  | cons c second ih => rw [advanceAll_cons, ← after_concat, ih, List.append_assoc]; rfl

/-- Reading from the origin counts. -/
theorem advanceAll_origin (text : List Char) : origin.advanceAll text = after text :=
  advanceAll_after [] text

@[simp] theorem translate_origin (p : Position) : p.translate origin = p := by
  simp [translate, origin]

/-- Moving over a character can be done before or after a change of starting place. -/
theorem translate_advance (base p : Position) (c : Char) :
    base.translate (p.advance c) = (base.translate p).advance c := by
  by_cases h : c = '\n'
  · simp [translate, advance, h, Nat.add_assoc]
  · by_cases hp : p.line = 0 <;> simp [translate, advance, h, hp, Nat.add_assoc]

/-- The same for a whole text. -/
theorem translate_advanceAll (base p : Position) (text : List Char) :
    base.translate (p.advanceAll text) = (base.translate p).advanceAll text := by
  induction text generalizing p with
  | nil => rfl
  | cons c text ih => simp only [advanceAll_cons, ih, translate_advance]

/-- Reading a text adds to the starting place exactly what the text counts on its own. -/
theorem advanceAll_eq_translate (base : Position) (text : List Char) :
    base.advanceAll text = base.translate (after text) := by
  rw [← advanceAll_origin, translate_advanceAll, translate_origin]

/-- The column counts every character read. -/
theorem column_advanceAll (p : Position) (text : List Char) :
    (p.advanceAll text).column = p.column + text.length := by
  simp [advanceAll_eq_translate, translate, after]

end Position

end MaximalMunch
