/-
Module: MaximalMunch.Text.Pattern
Layer: Text
Purpose: Which texts are patterns. A pattern is made of characters that stand for themselves, escapes,
  groups, classes, alternatives and repetitions. A text is none if it is broken: a group or a class that
  is not closed, a group that is closed and was not opened, a name that two groups have, a flag that does not
  exist or is set twice, a repetition of nothing, a bound on a repetition that never ends, an escape that means
  nothing, or a range in a class that ends before it begins. That a flag may turn white space into nothing is
  not looked at; nothing here matches anything against a pattern.
Imports: MaximalMunch.Text.Alphanumeric
Trusted boundary: human-reviewed spec
Main exports: Pattern, Pattern.step, isPattern
Open obligations: none
-/
import MaximalMunch.Text.Alphanumeric

namespace MaximalMunch.Text

/-- How far the reader of a pattern has come in the innermost class. An item that is no single character
    cannot be the end of a range; it is `none` here. -/
inductive Pattern.ClassPoint where
  /-- At the start, behind a circumflex or where one may follow. -/
  | opened (negatable : Bool)
  /-- Behind dashes at the start. -/
  | dashed
  /-- Behind something that begins no range. -/
  | between
  /-- Behind an item. -/
  | item (char? : Option Char)
  /-- Behind an item and a dash. -/
  | range (start? : Option Char)
deriving DecidableEq, Repr, Inhabited

/-- The innermost class, and how many it stands in, itself included. -/
structure Pattern.Class where
  depth : Nat
  point : Pattern.ClassPoint
deriving DecidableEq, Repr, Inhabited

/-- Where a reader of a pattern is. -/
inductive Pattern.Place where
  /-- Outside of everything below. -/
  | outside
  | inClass (inside : Pattern.Class)
  /-- After a backslash. -/
  | escape (class? : Option Pattern.Class)
  /-- In a numeric escape, with so many digits to come. -/
  | digits (left value : Nat) (class? : Option Pattern.Class)
  /-- In an escape where the letter of a property is to come. -/
  | property (class? : Option Pattern.Class)
  /-- After the parenthesis that opens a group. -/
  | opening
  /-- In the header of a group, behind its question mark. -/
  | header
  /-- In a header, behind the letter with which the older form of a name begins. -/
  | olderName
  /-- In the name that a header gives to its group. -/
  | name (read : List Char)
  /-- Behind flags, the last one first. -/
  | flags (read : List Char)
deriving DecidableEq, Repr, Inhabited

/-- What is known of a pattern that has been read so far. -/
structure Pattern where
  place : Pattern.Place
  /-- How many groups are open. -/
  groups : Nat
  /-- Whether there is something to repeat. -/
  repeatable : Bool
  /-- The names of the groups. -/
  names : List (List Char)
deriving DecidableEq, Repr, Inhabited

namespace Pattern

/-- Before the first character. -/
def start : Pattern := ⟨.outside, 0, false, []⟩

/-- The flags that there are. -/
def flagLetters : List Char := "imsUuxR".toList

/-- The properties that have a letter, in small letters. -/
def propertyLetters : List Char := "lmnpszc".toList

/-- The letters that stand for a set of characters after a backslash. -/
def setLetters : List Char := "dswDSW".toList

/-- The letters that stand for a single character after a backslash. -/
def controlLetters : List (Char × Char) :=
  [('a', '\x07'), ('f', '\x0c'), ('t', '\t'), ('n', '\n'), ('r', '\r'), ('v', '\x0b')]

/-- Whether `c` stands for itself after a backslash. -/
def standsForItself (c : Char) : Bool := c.toNat < 0x80 && !(c.isAlphanum || c = '<' || c = '>')

/-- How many digits a numeric escape has. -/
def digitCount? : Char → Option Nat
  | 'x' => some 2
  | 'u' => some 4
  | 'U' => some 8
  | _ => none

/-- The value of a hexadecimal digit. -/
def digitValue? (c : Char) : Option Nat :=
  if c.isDigit then some (c.toNat - '0'.toNat)
  else if 'a' ≤ c && c ≤ 'f' then some (c.toNat - 'a'.toNat + 10)
  else if 'A' ≤ c && c ≤ 'F' then some (c.toNat - 'A'.toNat + 10)
  else none

/-- Take an item of a class. -/
def ClassPoint.take (char? : Option Char) : ClassPoint → Option ClassPoint
  | .range start? =>
      match start?, char? with
      | some first, some last => if first ≤ last then some .between else none
      | _, _ => none
  | _ => some (.item char?)

/-- Go on behind an item, which ends what comes outside of classes. -/
def behind (pattern : Pattern) (char? : Option Char) : Option Class → Option Pattern
  | none => some { pattern with place := .outside, repeatable := true }
  | some ⟨depth, point⟩ =>
      (point.take char?).map fun next => { pattern with place := .inClass ⟨depth, next⟩ }

/-- Take a character that is outside of everything. -/
def stepOutside (pattern : Pattern) (c : Char) : Option Pattern :=
  match c with
  | '\\' => some { pattern with place := .escape none }
  | '(' => some { pattern with place := .opening, repeatable := false }
  | ')' =>
      if pattern.groups = 0 then none
      else some { pattern with groups := pattern.groups - 1, repeatable := true }
  | '[' => some { pattern with place := .inClass ⟨1, .opened true⟩ }
  | '|' => some { pattern with repeatable := false }
  | '*' | '+' | '?' => if pattern.repeatable then some pattern else none
  | '\x7b' => none
  | _ => some { pattern with repeatable := true }

/-- Close a class. -/
def close (pattern : Pattern) (depth : Nat) : Pattern :=
  if depth ≤ 1 then { pattern with place := .outside, repeatable := true }
  else { pattern with place := .inClass ⟨depth - 1, .between⟩ }

/-- Take a character within classes. A closing bracket closes no class in which nothing has come yet, and a dash
    is one if no range can begin or end with it. Some characters stand for an operation when they are doubled. -/
def stepInClass (pattern : Pattern) (inside : Class) (c : Char) : Option Pattern :=
  let goOn (point : ClassPoint) : Option Pattern :=
    some { pattern with place := .inClass ⟨inside.depth, point⟩ }
  match inside.point, c with
  | .opened true, '^' => goOn (.opened false)
  | .opened _, '-' => goOn .dashed
  | .dashed, '-' => goOn .dashed
  | .opened _, ']' => goOn .between
  | .range _, '-' => goOn .between
  | _, ']' => some (pattern.close inside.depth)
  | _, '\\' => some { pattern with place := .escape (some inside) }
  | .range _, _ => pattern.behind (some c) (some inside)
  | _, '[' => some { pattern with place := .inClass ⟨inside.depth + 1, .opened true⟩ }
  | .item char?, _ =>
      if char? = some c && (c = '&' || c = '-' || c = '~') then goOn .between
      else if c = '-' then goOn (.range char?)
      else goOn (.item (some c))
  | _, _ => goOn (.item (some c))

/-- Take the character after a backslash. What is no character is not found in a class. -/
def stepEscape (pattern : Pattern) (class? : Option Class) (c : Char) : Option Pattern :=
  match controlLetters.lookup c, digitCount? c with
  | some control, _ => pattern.behind (some control) class?
  | none, some count => some { pattern with place := .digits count 0 class? }
  | none, none =>
      if setLetters.contains c then pattern.behind none class?
      else if c = 'p' || c = 'P' then some { pattern with place := .property class? }
      else if c = 'A' || c = 'z' then if class?.isNone then pattern.behind none none else none
      else if standsForItself c then pattern.behind (some c) class?
      else none

/-- Take a digit of a numeric escape. -/
def stepDigits (pattern : Pattern) (left value : Nat) (class? : Option Class) (c : Char) : Option Pattern :=
  match digitValue? c with
  | none => none
  | some digit =>
      let now := 16 * value + digit
      if 1 < left then some { pattern with place := .digits (left - 1) now class? }
      else if now.isValidChar then pattern.behind (some (Char.ofNat now)) class?
      else none

/-- Open a group behind its header. -/
def openGroup (pattern : Pattern) : Pattern :=
  { pattern with place := .outside, groups := pattern.groups + 1 }

/-- Take a character of a name. -/
def stepName (pattern : Pattern) (read : List Char) (c : Char) : Option Pattern :=
  if c = '>' then
    if read.isEmpty || pattern.names.contains read then none
    else some { pattern.openGroup with names := read :: pattern.names }
  else if c = '_' || isAlphanumeric c && !(read.isEmpty && c.isDigit) ||
      !read.isEmpty && (c = '.' || c = '[' || c = ']') then
    some { pattern with place := .name (c :: read) }
  else none

/-- Take a character where flags stand, which may be none, or all of them to be taken back from a dash on. -/
def stepFlags (pattern : Pattern) (read : List Char) (c : Char) : Option Pattern :=
  if c = ':' then if read.head? = some '-' then none else some pattern.openGroup
  else if c = ')' then
    if read.isEmpty || read.head? = some '-' then none else some { pattern with place := .outside }
  else if (c = '-' || flagLetters.contains c) && !read.contains c then
    some { pattern with place := .flags (c :: read) }
  else none

/-- Take one character, unless the text is no pattern because of it. -/
def step (pattern : Pattern) (c : Char) : Option Pattern :=
  match pattern.place with
  | .outside => pattern.stepOutside c
  | .inClass inside => pattern.stepInClass inside c
  | .escape class? => pattern.stepEscape class? c
  | .digits left value class? => pattern.stepDigits left value class? c
  | .property class? => if propertyLetters.contains c.toLower then pattern.behind none class? else none
  | .opening =>
      if c = '?' then some { pattern with place := .header }
      else stepOutside pattern.openGroup c
  | .header =>
      if c = '<' then some { pattern with place := .name [] }
      else if c = 'P' then some { pattern with place := .olderName }
      else pattern.stepFlags [] c
  | .olderName => if c = '<' then some { pattern with place := .name [] } else none
  | .name read => pattern.stepName read c
  | .flags read => pattern.stepFlags read c

/-- Whether a pattern may end here. -/
def isComplete (pattern : Pattern) : Bool := pattern.place = .outside && pattern.groups = 0

end Pattern

/-- Whether a text is a pattern. -/
def isPattern (text : List Char) : Bool :=
  (text.foldlM Pattern.step .start).any Pattern.isComplete

example : ["", "a|b*", "(x)+", "(?i-s:x)", "(?P<a>x)", "[]a-z]+", "[^^]", "[a-]", "[a&&[^b]]", "[^[:alpha:]]",
    "\\d\\.", "\\x41", "\x7d"].all (isPattern ·.toList) = true := by decide +kernel

example : ["*", "(", ")", "[", "[]", "[b-a]", "[a-\\d]", "a\\", "x\x7b2", "(|*)", "(?)", "(?z)", "(?i-)",
    "(?P<>)", "(?<a>)(?<a>)", "\\y", "\\x4"].any (isPattern ·.toList) = false := by decide +kernel

end MaximalMunch.Text
