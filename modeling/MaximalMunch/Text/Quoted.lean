/-
Module: MaximalMunch.Text.Quoted
Layer: Text
Purpose: Texts and characters as they stand between quotation marks in messages and token lines. The
  quoted form fits on one line and shows every character that it holds: the null character, the tab
  and the two line ending characters have letters of their own, the backslash and the surrounding mark
  are doubled by a backslash, and what cannot be shown is written as its number in hexadecimal. All
  other characters stand for themselves. The mark of the other kind is not escaped: an apostrophe is
  plain inside double marks, and a double mark is plain inside apostrophes.
Imports: MaximalMunch.Text.Unprintable
Trusted boundary: human-reviewed spec
Main exports: escape, quoted, quoteChar, quoteString
Open obligations: none
-/
import MaximalMunch.Text.Unprintable

namespace MaximalMunch.Text

/-- The mark around a quoted character. -/
def singleMark : Char := '\''

/-- The mark around a quoted text. -/
def doubleMark : Char := '"'

/-- The number of `c` between braces, in lower-case hexadecimal without leading zeros. -/
def numbered (c : Char) : List Char :=
  ['\\', 'u', '\x7b'] ++ Nat.toDigits 16 c.toNat ++ ['\x7d']

/-- What is written for `c` between two marks `mark`. -/
def escape (mark c : Char) : List Char :=
  if c = '\x00' then ['\\', '0']
  else if c = '\t' then ['\\', 't']
  else if c = '\r' then ['\\', 'r']
  else if c = '\n' then ['\\', 'n']
  else if c = '\\' || c = mark then ['\\', c]
  else if isUnprintable c then numbered c
  else [c]

/-- A text between two marks. -/
def quoted (mark : Char) (text : List Char) : List Char :=
  mark :: text.flatMap (escape mark) ++ [mark]

/-- A character between apostrophes. -/
def quoteChar (c : Char) : String := String.ofList (quoted singleMark [c])

/-- A text between double marks. -/
def quoteString (text : String) : String := String.ofList (quoted doubleMark text.toList)

example : quoteString "a\"'\\\n\u0301\x01" = "\"a\\\"'\\\\\\n\\u\x7b301\x7d\\u\x7b1\x7d\"" := by decide

example : quoteChar '\'' = "'\\''" := by decide

end MaximalMunch.Text
