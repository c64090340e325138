/-
Module: MaximalMunch.CommandLine.Word
Layer: Command line
Purpose: The shapes of the words on a command line. Two dashes alone end the flags. Two dashes with more
  behind them are a long flag, whose name goes up to the first equals sign; what follows that sign is a
  value. One dash with more behind it is a cluster of short flags, each of one character. Any other word,
  one dash alone and the empty word included, is a positional one.
Imports: none
Trusted boundary: human-reviewed spec
Main exports: Word, Word.ofText
Open obligations: none
-/

namespace MaximalMunch.CommandLine

/-- A word of a command line, by its shape. -/
inductive Word where
  | endOfFlags
  | long (name : String) (value? : Option String)
  | cluster (names : List Char)
  | positional (text : String)
deriving DecidableEq, Repr, Inhabited

namespace Word

/-- The shape of a word. -/
def ofText (text : String) : Word :=
  match text.toList with
  | ['-', '-'] => .endOfFlags
  | '-' :: '-' :: flag =>
      let name := String.ofList (flag.takeWhile (· ≠ '='))
      match flag.dropWhile (· ≠ '=') with
      | [] => .long name none
      | _ :: value => .long name (some (String.ofList value))
  | '-' :: first :: more => .cluster (first :: more)
  | _ => .positional text

example : ofText "--fail-fast=a=b" = .long "fail-fast" (some "a=b") := by decide

example : ofText "-vV" = .cluster ['v', 'V'] := by decide

example : ofText "-" = .positional "-" := by decide

end Word

end MaximalMunch.CommandLine
