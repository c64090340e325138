/-
Module: MaximalMunch.Log.Record
Layer: Logging
Purpose: What the program says about its own doings. There are four records: a source is going to be
  scanned, a token was read, an error was met, and a scan went to the end of its input because a string
  literal was not closed. Each has a fixed level, comes from a fixed target and has details of fixed names,
  and these a filter decides on; each has a message, with the details as pairs of a name and a value. What is
  written for a record is up to whoever takes the records (`Format`): there may be a time in front of it, and
  colours.
Imports: MaximalMunch.Log.Heading, MaximalMunch.Reading
Trusted boundary: human-reviewed spec
Main exports: Record, Record.level, Record.target, Record.details, Record.heading, Record.message, Format,
  Format.plain
Open obligations: none
-/
import MaximalMunch.Log.Heading
import MaximalMunch.Reading

namespace MaximalMunch.Log

/-- One thing that the program says about its doings. -/
inductive Record where
  /-- A source of `size` characters is going to be scanned; without a path it is standard input. -/
  | scanning (path? : Option String) (size : Nat)
  /-- A token was read. -/
  | token (token : Token)
  /-- An error was met. -/
  | lexicalError (error : LexicalError)
  /-- All that follows the mark at `opening` was passed over. -/
  | skippedToEnd (opening : Position)
deriving DecidableEq, Repr, Inhabited

namespace Record

/-- Tokens are for tracing, everything else is for debugging. -/
def level : Record → Level
  | .scanning _ _ => .debug
  | .token _ => .trace
  | .lexicalError _ => .debug
  | .skippedToEnd _ => .debug

/-- The part of the program that the record comes from. -/
def target : Record → String
  | .scanning _ _ => "tokscan::arguments"
  | .token _ => "tokscan::lexer"
  | .lexicalError _ => "tokscan::lexer"
  | .skippedToEnd _ => "tokscan::lexer"

/-- The names of the details. The message counts as one. -/
def details : Record → List String
  | .scanning _ _ => ["message", "input", "chars"]
  | .token _ => ["message", "kind", "line", "column", "text"]
  | .lexicalError _ => ["message", "error"]
  | .skippedToEnd _ => ["message", "line", "column"]

/-- What a filter decides on. -/
def heading (record : Record) : Heading := ⟨record.target, record.level, record.details⟩

/-- A path that may be missing. -/
def showPath : Option String → String
  | none => "None"
  | some path => "Some(" ++ Text.quoteString path ++ ")"

/-- Where something begins, as two details. -/
def showPosition (position : Position) : String :=
  "line=" ++ toString position.line ++ " column=" ++ toString position.column

/-- The message and the details. -/
def message : Record → String
  | .scanning path? size => "scanning input=" ++ showPath path? ++ " chars=" ++ toString size
  | .token t =>
      "token kind=" ++ t.kind.name ++ " " ++ showPosition t.position ++
        " text=" ++ Text.quoteString t.text
  | .lexicalError error => "lexical error error=" ++ error.message
  | .skippedToEnd opening =>
      "skipping to end of input after unterminated string " ++ showPosition opening

end Record

/-- How records are written. What is written for one may depend on how much stands before it, because the time
    does that is written with it. -/
structure Format where
  /-- All that is written for a record which so many texts precede on standard error. -/
  write : Nat → Record → String
deriving Inhabited

/-- A line of level and message, without a time. -/
def Format.plain : Format := ⟨fun _ record => record.level.name ++ " " ++ record.message ++ "\n"⟩

end MaximalMunch.Log
